import SearchRanking.Proofs.Demotion
import SearchRanking.Proofs.Merit

/-!
# Raising the score of one candidate

In an ascending list the place of an entry is the number of entries that come before it. When one
candidate gets a better merit, the others keep their entries and so their order, and whatever comes
before the better entry came before the old one. The count, and with it the place, cannot grow.
-/

namespace SearchRanking

theorem Merit.isLE_of_score_le {a b : Merit} (hscore : b.score ≤ a.score)
    (htitle : a.title = b.title) : (Merit.compare a b).isLE = true := by
  have hkey : (Ord.compare b.score a.score).isLE = true := Std.isLE_compare.mpr hscore
  have htie : Ord.compare a.title b.title = .eq := Std.LawfulEqOrd.compare_eq_iff_eq.mpr htitle
  rw [Merit.compare, htie, Ordering.then_eq]
  exact hkey

theorem Entry.isLE_of_isLE_merit {a b : Entry}
    (hmerit : (Merit.compare a.merit b.merit).isLE = true) (hposition : a.position = b.position) :
    (Entry.compare a b).isLE = true := by
  rw [Entry.compare_eq_merit_then, Nat.compare_eq_eq.mpr hposition, Ordering.then_eq]
  exact hmerit

namespace Ranking

/-- The place of a candidate in a ranking, given its position. -/
def place (position : Nat) (entries : List Entry) : Nat :=
  entries.findIdx fun entry => entry.position == position

/-- The entries of all other candidates, in their order. -/
def others (position : Nat) (entries : List Entry) : List Entry :=
  entries.filter fun entry => entry.position != position

section Place

variable {entries : List Entry} {entry : Entry}

/-- Positions tell entries apart, so the place of an entry cuts the list in two. -/
theorem exists_split_at_place (hpositions : (entries.map Entry.position).Nodup)
    (hentry : entry ∈ entries) :
    ∃ front back, entries = front ++ entry :: back ∧
      place entry.position entries = front.length ∧
      others entry.position entries = front ++ back := by
  obtain ⟨front, back, rfl⟩ := List.append_of_mem hentry
  have hapart : ∀ other ∈ front ++ back, other.position ≠ entry.position := by
    rw [(List.perm_middle.map Entry.position).nodup_iff, List.map_cons, List.nodup_cons]
      at hpositions
    intro other hother heq
    exact hpositions.1 (heq ▸ List.mem_map_of_mem hother)
  refine ⟨front, back, rfl, ?_, ?_⟩
  · have hfront : front.findIdx (fun other => other.position == entry.position) = front.length := by
      apply List.findIdx_eq_length.mpr
      intro other hother
      exact beq_eq_false_iff_ne.mpr (hapart other (List.mem_append_left back hother))
    rw [place, List.findIdx_append, hfront, if_neg (Nat.lt_irrefl _), List.findIdx_cons,
      beq_self_eq_true, cond_true, Nat.zero_add]
  · have hkept : (front ++ back).filter (fun other => other.position != entry.position) =
        front ++ back := by
      apply List.filter_eq_self.mpr
      intro other hother
      exact bne_iff_ne.mpr (hapart other hother)
    rw [others, List.filter_append, List.filter_cons_of_neg (by simp), ← List.filter_append, hkept]

theorem getElem?_place (hpositions : (entries.map Entry.position).Nodup)
    (hentry : entry ∈ entries) : entries[place entry.position entries]? = some entry := by
  obtain ⟨front, back, hsplit, hplace, -⟩ := exists_split_at_place hpositions hentry
  rw [hplace, hsplit, List.getElem?_append_right (Nat.le_refl _), Nat.sub_self,
    List.getElem?_cons_zero]

theorem place_eq_countP (hascending : Ascending entries)
    (hpositions : (entries.map Entry.position).Nodup) (hentry : entry ∈ entries) :
    place entry.position entries =
      (others entry.position entries).countP fun other => Entry.compare other entry == .lt := by
  obtain ⟨front, back, hsplit, hplace, hothers⟩ := exists_split_at_place hpositions hentry
  rw [hsplit, Ascending, List.pairwise_append, List.pairwise_cons] at hascending
  obtain ⟨-, ⟨hback, -⟩, hfront⟩ := hascending
  have hbefore : front.countP (fun other => Entry.compare other entry == .lt) = front.length := by
    apply List.countP_eq_length.mpr
    intro other hother
    exact beq_iff_eq.mpr (hfront other hother entry List.mem_cons_self)
  have hafter : back.countP (fun other => Entry.compare other entry == .lt) = 0 := by
    apply List.countP_eq_zero.mpr
    intro other hother hlt
    exact Std.OrientedCmp.not_lt_of_lt (hback other hother) (beq_iff_eq.mp hlt)
  rw [hplace, hothers, List.countP_append, hbefore, hafter, Nat.add_zero]

end Place

section Replacing

variable {scorer : Scorer} {records : List Record} {index : Nat}

theorem mem_rank_of_lt (scorer : Scorer) (hindex : index < records.length) :
    ⟨records[index], scorer records[index], index⟩ ∈ rank scorer none records := by
  rw [(rank_none_perm scorer records).mem_iff]
  exact List.mem_ofFn.mpr ⟨⟨index, hindex⟩, rfl⟩

theorem mem_rank_set_of_lt (scorer : Scorer) (hindex : index < records.length) (record : Record) :
    ⟨record, scorer record, index⟩ ∈ rank scorer none (records.set index record) := by
  have hset : index < (records.set index record).length := by rwa [List.length_set]
  have hmem := mem_rank_of_lt scorer hset
  rwa [List.getElem_set_self] at hmem

theorem nodup_positions_rank (scorer : Scorer) (records : List Record) :
    ((rank scorer none records).map Entry.position).Nodup :=
  ((rank_none_perm scorer records).map Entry.position).nodup_iff.mpr
    (nodup_positions_candidates scorer records)

theorem others_candidates_append_cons (scorer : Scorer) (front back : List Record)
    (record : Record) :
    others front.length (candidates scorer (front ++ record :: back)) =
      others front.length
        ((front.zipIdx ++ back.zipIdx (front.length + 1)).map fun (record, position) =>
          ⟨record, scorer record, position⟩) := by
  rw [← scored_eq_candidates, scored, List.zipIdx_append, List.zipIdx_cons, Nat.zero_add,
    List.map_append, List.map_append, List.map_cons, others, others, List.filter_append,
    List.filter_append, List.filter_cons_of_neg (by simp)]

theorem others_candidates_set (scorer : Scorer) (hindex : index < records.length)
    (record : Record) :
    others index (candidates scorer (records.set index record)) =
      others index (candidates scorer records) := by
  -- What stands before and behind the replaced record is the same in both lists.
  obtain ⟨front, old, back, rfl, rfl⟩ : ∃ front old back,
      front.length = index ∧ front ++ old :: back = records := by
    refine ⟨records.take index, records[index], records.drop (index + 1), ?_, ?_⟩
    · exact List.length_take_of_le (Nat.le_of_lt hindex)
    · rw [List.getElem_cons_drop, List.take_append_drop]
  rw [List.set_append_right _ _ (Nat.le_refl _), Nat.sub_self, List.set_cons_zero,
    others_candidates_append_cons, others_candidates_append_cons]

theorem others_rank_set (scorer : Scorer) (hindex : index < records.length) (record : Record) :
    others index (rank scorer none (records.set index record)) =
      others index (rank scorer none records) := by
  have hcandidates := others_candidates_set scorer hindex record
  rw [others, others] at hcandidates
  rw [others, others, filter_rank, filter_rank, hcandidates]

theorem place_rank_set_le (hindex : index < records.length) {record : Record}
    (hmerit : (Merit.compare (scorer.merit record) (scorer.merit records[index])).isLE = true) :
    place index (rank scorer none (records.set index record)) ≤
      place index (rank scorer none records) := by
  have hold := mem_rank_of_lt scorer hindex
  have hnew := mem_rank_set_of_lt scorer hindex record
  have hle : (Entry.compare ⟨record, scorer record, index⟩
      ⟨records[index], scorer records[index], index⟩).isLE = true :=
    Entry.isLE_of_isLE_merit hmerit rfl
  calc place index (rank scorer none (records.set index record))
      = (others index (rank scorer none (records.set index record))).countP fun other =>
          Entry.compare other ⟨record, scorer record, index⟩ == .lt :=
        place_eq_countP (rank_ascending _ _ _) (nodup_positions_rank _ _) hnew
    _ = (others index (rank scorer none records)).countP fun other =>
          Entry.compare other ⟨record, scorer record, index⟩ == .lt := by
        rw [others_rank_set scorer hindex]
    _ ≤ (others index (rank scorer none records)).countP fun other =>
          Entry.compare other ⟨records[index], scorer records[index], index⟩ == .lt := by
        apply List.countP_mono_left
        -- Whatever comes before the better entry comes before the old one.
        intro other _ hlt
        exact beq_iff_eq.mpr (Std.TransCmp.lt_of_lt_of_isLE (beq_iff_eq.mp hlt) hle)
    _ = place index (rank scorer none records) :=
        (place_eq_countP (rank_ascending _ _ _) (nodup_positions_rank _ _) hold).symm

end Replacing

/-- **A higher score never ranks lower.** When the score of a page that is not generated is raised,
the page takes a place that is not later, under its own score, and all other entries are the same
in the same order. -/
theorem rank_raised (pattern : Pattern) (penalty : Score) (records : List Record) (index : Nat)
    (hindex : index < records.length) (score : Score)
    (hauthored : pattern.recognizesRecord records[index] = false)
    (hscore : records[index].score.orderKey ≤ score.orderKey) :
    let raised : Record := { records[index] with score := score }
    let before := rank (Scorer.demoting pattern penalty) none records
    let after := rank (Scorer.demoting pattern penalty) none (records.set index raised)
    before[place index before]? = some ⟨records[index], records[index].score, index⟩ ∧
      after[place index after]? = some ⟨raised, score, index⟩ ∧
      place index after ≤ place index before ∧
      others index after = others index before := by
  intro raised before after
  have hraised : pattern.recognizesRecord raised = false := hauthored
  have hold := mem_rank_of_lt (Scorer.demoting pattern penalty) hindex
  have hnew := mem_rank_set_of_lt (Scorer.demoting pattern penalty) hindex raised
  rw [demoting_of_not_recognized hauthored] at hold
  rw [demoting_of_not_recognized hraised] at hnew
  refine ⟨getElem?_place (nodup_positions_rank _ _) hold,
    getElem?_place (nodup_positions_rank _ _) hnew, ?_, others_rank_set _ hindex raised⟩
  apply place_rank_set_le hindex
  apply Merit.isLE_of_score_le
  · rw [Scorer.merit, Scorer.merit, demoting_of_not_recognized hauthored,
      demoting_of_not_recognized hraised]
    exact hscore
  · rfl

/-- A guide whose host gave no number stands last, even behind a generated page. -/
def unscored : List Record :=
  [.modulePage "foo" (.ofNat 10), .guide "Usage" .notANumber, .guide "Intro" (.zero true)]

/-- With a negative zero the guide ties with another one, whose title comes first. -/
theorem rank_raised_unscored :
    (1 < unscored.length ∧ Pattern.standard.recognizesRecord unscored[1] = false ∧
      unscored[1].score.orderKey ≤ (Score.zero true).orderKey) ∧
    place 1 (rank (Scorer.demoting Pattern.standard Scorer.standardPenalty) none
        (unscored.set 1 { unscored[1] with score := .zero true })) ≤
      place 1 (rank (Scorer.demoting Pattern.standard Scorer.standardPenalty) none unscored) := by
  have hauthored : Pattern.standard.recognizesRecord unscored[1] = false := by decide +kernel
  have hscore : unscored[1].score.orderKey ≤ (Score.zero true).orderKey := by decide +kernel
  have hindex : 1 < unscored.length := by decide
  exact ⟨⟨hindex, hauthored, hscore⟩,
    (rank_raised Pattern.standard Scorer.standardPenalty unscored 1 hindex (.zero true) hauthored
      hscore).2.2.1⟩

end Ranking

end SearchRanking
