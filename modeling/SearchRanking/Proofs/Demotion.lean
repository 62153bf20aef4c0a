import SearchRanking.Proofs.Ranking
import SearchRanking.Record.Sample

/-!
# What demotion changes, and what it can see

The demoting scorer gives every generated page the same penalty and leaves the other scores alone.
So in a ranking the other pages keep the entries and the order that they have without demotion,
while the generated pages, which now tie in score, stand by title and position. Both are read off
the one ascending arrangement, whose parts are ascending again.

The order of a ranking is decided by three keys of every entry, and the scorer reads two fields. Two
lists that show the same in these are ranked alike, whatever else stands in their records.
-/

namespace SearchRanking.Ranking

variable {pattern : Pattern} {penalty : Score} {records : List Record}

/-- The entries of generated pages, in their order. -/
def demoted (pattern : Pattern) (entries : List Entry) : List Entry :=
  entries.filter fun entry => pattern.recognizesRecord entry.record

/-- The entries of all other pages, in their order. -/
def undemoted (pattern : Pattern) (entries : List Entry) : List Entry :=
  entries.filter fun entry => !pattern.recognizesRecord entry.record

theorem demoting_of_recognized {record : Record}
    (hrecognized : pattern.recognizesRecord record = true) :
    Scorer.demoting pattern penalty record = penalty := if_pos hrecognized

theorem demoting_of_not_recognized {record : Record}
    (hrecognized : pattern.recognizesRecord record = false) :
    Scorer.demoting pattern penalty record = record.score := by
  rw [Scorer.demoting, if_neg (by simp [hrecognized])]

theorem undemoted_candidates (pattern : Pattern) (penalty : Score) (records : List Record) :
    undemoted pattern (candidates (Scorer.demoting pattern penalty) records) =
      undemoted pattern (candidates Scorer.host records) := by
  rw [← scored_eq_candidates, ← scored_eq_candidates, scored, scored, undemoted, undemoted,
    List.filter_map, List.filter_map]
  refine List.map_congr_left ?_
  rintro ⟨record, position⟩ hmem
  have hkept : (!pattern.recognizesRecord record) = true := (List.mem_filter.mp hmem).2
  rw [Bool.not_eq_true'] at hkept
  exact congrArg (Entry.mk record · position) (demoting_of_not_recognized hkept)

theorem undemoted_rank (pattern : Pattern) (penalty : Score) (records : List Record) :
    undemoted pattern (rank (Scorer.demoting pattern penalty) none records) =
      undemoted pattern (rank Scorer.host none records) := by
  have hcandidates := undemoted_candidates pattern penalty records
  rw [undemoted, undemoted] at hcandidates
  rw [undemoted, undemoted, filter_rank, filter_rank, hcandidates]

theorem score_of_mem_demoted {entry : Entry}
    (hentry : entry ∈ demoted pattern (rank (Scorer.demoting pattern penalty) none records)) :
    entry.score = penalty := by
  obtain ⟨hranked, hrecognized⟩ := List.mem_filter.mp hentry
  rw [(mem_rank hranked).2]
  exact demoting_of_recognized hrecognized

theorem demoted_rank_pairwise (pattern : Pattern) (penalty : Score) (records : List Record) :
    (demoted pattern (rank (Scorer.demoting pattern penalty) none records)).Pairwise fun a b =>
      (Ord.compare a.titleKey b.titleKey).then (Ord.compare a.position b.position) = .lt := by
  have hascending : Ascending
      (demoted pattern (rank (Scorer.demoting pattern penalty) none records)) :=
    (rank_ascending _ none records).filter _
  refine hascending.imp_of_mem ?_
  intro a b ha hb hlt
  have hscore : a.score = b.score :=
    (score_of_mem_demoted ha).trans (score_of_mem_demoted hb).symm
  exact (Entry.compare_of_score_eq hscore).symm.trans hlt

theorem rank_eq_undemoted_append_demoted
    (habove : ∀ record ∈ records, pattern.recognizesRecord record = false →
      penalty.orderKey < record.score.orderKey) :
    rank (Scorer.demoting pattern penalty) none records =
      undemoted pattern (rank (Scorer.demoting pattern penalty) none records) ++
        demoted pattern (rank (Scorer.demoting pattern penalty) none records) := by
  have hascending := rank_ascending (Scorer.demoting pattern penalty) none records
  have hsplit : (undemoted pattern (rank (Scorer.demoting pattern penalty) none records) ++
      demoted pattern (rank (Scorer.demoting pattern penalty) none records)).Perm
        (rank (Scorer.demoting pattern penalty) none records) :=
    List.perm_append_comm.trans (List.filter_append_perm _ _)
  refine hascending.eq_of_perm ?_ hsplit.symm
  refine List.pairwise_append.mpr ⟨hascending.filter _, hascending.filter _, ?_⟩
  intro other hother generated hgenerated
  obtain ⟨hranked, hkept⟩ := List.mem_filter.mp hother
  rw [Bool.not_eq_true'] at hkept
  obtain ⟨hrecord, hscore⟩ := mem_rank hranked
  apply Entry.compare_eq_lt_of_orderKey_lt
  rw [score_of_mem_demoted hgenerated, hscore, demoting_of_not_recognized hkept]
  exact habove other.record hrecord hkept

/-- **Demotion moves only generated pages.** Without them, the ranking is the one that the host's
scores give; all generated candidates are in it and stand by title and position among themselves;
and where every other page has a number above the penalty, they are the end of the ranking. -/
theorem rank_demoting_moves_only_demoted (pattern : Pattern) (penalty : Score)
    (records : List Record) :
    undemoted pattern (rank (Scorer.demoting pattern penalty) none records) =
      undemoted pattern (rank Scorer.host none records) ∧
    ((demoted pattern (rank (Scorer.demoting pattern penalty) none records)).Perm
        (demoted pattern (candidates (Scorer.demoting pattern penalty) records)) ∧
      (demoted pattern (rank (Scorer.demoting pattern penalty) none records)).Pairwise fun a b =>
        (Ord.compare a.titleKey b.titleKey).then (Ord.compare a.position b.position) = .lt) ∧
    ((∀ record ∈ records, pattern.recognizesRecord record = false →
        record.score.isNaN = false ∧ penalty.orderKey < record.score.orderKey) →
      rank (Scorer.demoting pattern penalty) none records =
        undemoted pattern (rank (Scorer.demoting pattern penalty) none records) ++
          demoted pattern (rank (Scorer.demoting pattern penalty) none records)) := by
  refine ⟨undemoted_rank pattern penalty records,
    ⟨(rank_none_perm _ records).filter _, demoted_rank_pairwise pattern penalty records⟩, ?_⟩
  intro habove
  refine rank_eq_undemoted_append_demoted ?_
  intro record hrecord hkept
  exact (habove record hrecord hkept).2

/-- A generated page that the host puts first, between two guides, one of which has a score just
above the penalty. -/
def crowdedOut : List Record :=
  [.guide "Intro" (.zero true), .modulePage "foo" (.infinity false), .guide "Usage" (.ofNat 3)]

theorem rank_crowdedOut :
    (∀ record ∈ crowdedOut, Pattern.standard.recognizesRecord record = false →
      record.score.isNaN = false ∧
        Scorer.standardPenalty.orderKey < record.score.orderKey) ∧
    rank (Scorer.demoting Pattern.standard Scorer.standardPenalty) none crowdedOut =
      undemoted Pattern.standard
          (rank (Scorer.demoting Pattern.standard Scorer.standardPenalty) none crowdedOut) ++
        demoted Pattern.standard
          (rank (Scorer.demoting Pattern.standard Scorer.standardPenalty) none crowdedOut) := by
  have habove : ∀ record ∈ crowdedOut, Pattern.standard.recognizesRecord record = false →
      record.score.isNaN = false ∧
        Scorer.standardPenalty.orderKey < record.score.orderKey := by decide +kernel
  exact ⟨habove, (rank_demoting_moves_only_demoted _ _ _).2.2 habove⟩

/-! ### What a ranking can see -/

/-- The keys of an entry: all that its place in a ranking depends on. -/
structure Keys where
  score : Score
  title : List Char
  position : Nat

def keys (entry : Entry) : Keys := ⟨entry.score, entry.titleKey, entry.position⟩

namespace Keys

def precedes (a b : Keys) : Bool :=
  (compare b.score.orderKey a.score.orderKey).then
    ((compare a.title b.title).then (compare a.position b.position)) != .gt

end Keys

@[simp]
theorem precedes_keys (a b : Entry) : (keys a).precedes (keys b) = Entry.precedes a b := by
  simp only [Keys.precedes, keys, Entry.precedes, Entry.compare, Entry.compareScores]

theorem map_keys_finish_congr {left right : List Entry} (hkeys : left.map keys = right.map keys)
    (limit : Option Nat) :
    (finish limit left).map keys = (finish limit right).map keys := by
  have hsorted : ∀ entries, (sorted entries).map keys =
      (entries.map keys).mergeSort Keys.precedes := by
    intro entries
    exact List.map_mergeSort fun a _ b _ => (precedes_keys a b).symm
  have heq : (sorted left).map keys = (sorted right).map keys := by
    rw [hsorted, hsorted, hkeys]
  exact map_limited_congr heq limit

/-- Two records that show the same to the demoting scorer and to the order of titles. -/
structure Alike (pattern : Pattern) (a b : Record) : Prop where
  title : Text.lowercase a.title = Text.lowercase b.title
  recognized : pattern.recognizesRecord a = pattern.recognizesRecord b
  score : pattern.recognizesRecord a = false → a.score.bits = b.score.bits

theorem Alike.demoting_eq {a b : Record} (halike : Alike pattern a b) :
    Scorer.demoting pattern penalty a = Scorer.demoting pattern penalty b := by
  cases hrecognized : pattern.recognizesRecord a with
  | true =>
      rw [demoting_of_recognized hrecognized,
        demoting_of_recognized (halike.recognized.symm.trans hrecognized)]
  | false =>
      rw [demoting_of_not_recognized hrecognized,
        demoting_of_not_recognized (halike.recognized.symm.trans hrecognized)]
      exact Score.bits_inj.mp (halike.score hrecognized)

theorem map_keys_scored_of_alike (penalty : Score) {left right : List Record}
    (hlength : left.length = right.length)
    (halike : ∀ (index : Nat) (hleft : index < left.length) (hright : index < right.length),
      Alike pattern left[index] right[index]) :
    (scored (Scorer.demoting pattern penalty) left).map keys =
      (scored (Scorer.demoting pattern penalty) right).map keys := by
  apply List.ext_getElem
  · simp [scored, hlength]
  · intro index hleft hright
    simp only [scored, List.length_map, List.length_zipIdx] at hleft hright
    have hpage := halike index hleft hright
    simp only [scored, List.getElem_map, List.getElem_zipIdx, keys, Entry.titleKey,
      hpage.demoting_eq, hpage.title]

/-- **Nothing else is visible.** Two lists of one length whose records agree, place by place, in the
title without regard to case, in being generated and, where they are not, in the bits of the score,
are ranked into the same sequence of positions and effective scores. -/
theorem map_rank_eq_of_alike (pattern : Pattern) (penalty : Score) (limit : Option Nat)
    (left right : List Record) (hlength : left.length = right.length)
    (halike : ∀ (index : Nat) (hleft : index < left.length) (hright : index < right.length),
      Alike pattern left[index] right[index]) :
    (rank (Scorer.demoting pattern penalty) limit left).map
        (fun entry => (entry.position, entry.score.bits)) =
      (rank (Scorer.demoting pattern penalty) limit right).map
        fun entry => (entry.position, entry.score.bits) := by
  have hkeys := map_keys_finish_congr (map_keys_scored_of_alike penalty hlength halike) limit
  have hview := congrArg (List.map fun shown : Keys => (shown.position, shown.score.bits)) hkeys
  rw [List.map_map, List.map_map] at hview
  exact hview

/-- Two lists that differ in every field that a ranking cannot see. -/
def disguised : List Record × List Record :=
  ([.plain "Intro" (.ofNat 3) (some "guide/intro.html"), .modulePage "foo" (.ofNat 87)],
    [{ Record.guide "INTRO" (.ofNat 3) with filename := none }, .modulePage "Foo" .notANumber])

theorem map_rank_disguised :
    (rank (Scorer.demoting Pattern.standard Scorer.standardPenalty) (some 1) disguised.1).map
        (fun entry => (entry.position, entry.score.bits)) =
      (rank (Scorer.demoting Pattern.standard Scorer.standardPenalty) (some 1) disguised.2).map
        fun entry => (entry.position, entry.score.bits) := by
  refine map_rank_eq_of_alike _ _ _ _ _ rfl ?_
  intro index hleft _
  have hindex : index = 0 ∨ index = 1 := by
    have htwo : index < 2 := hleft
    omega
  have hguide : Alike Pattern.standard (.plain "Intro" (.ofNat 3) (some "guide/intro.html"))
      { Record.guide "INTRO" (.ofNat 3) with filename := none } :=
    ⟨by decide +kernel, by decide +kernel, by decide +kernel⟩
  have hmodule : Alike Pattern.standard (.modulePage "foo" (.ofNat 87))
      (.modulePage "Foo" .notANumber) :=
    ⟨by decide +kernel, by decide +kernel, by decide +kernel⟩
  rcases hindex with rfl | rfl
  · exact hguide
  · exact hmodule

end SearchRanking.Ranking
