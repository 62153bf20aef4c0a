import SearchRanking.Proofs.Merit

/-!
# Rankings under renumbered positions

A candidate gets its position from the list that it is ranked in. When some candidates are left out,
or when a ranking is fed back as the next list of candidates, the positions of the others change,
but not their merits. So a second ranking can differ from the first one only where positions
decide: among entries with one merit. There both lists agree as well, since leaving out keeps the
order of positions and feeding back makes the order of the ranking the new order of positions.
-/

namespace SearchRanking

/-- What a ranking tells about a candidate apart from its position. -/
def Entry.outcome (entry : Entry) : Record × UInt64 := (entry.record, entry.score.bits)

namespace Ranking

/-- An entry that takes its index in a list for its position. -/
def renumber (item : Entry × Nat) : Entry := { item.1 with position := item.2 }

def renumbered (entries : List Entry) : List Entry := entries.zipIdx.map renumber

theorem map_renumbered {α : Type} {view : Entry → α}
    (hview : ∀ item, view (renumber item) = view item.1) (entries : List Entry) :
    (renumbered entries).map view = entries.map view := by
  calc (renumbered entries).map view
      = entries.zipIdx.map fun item => view item.1 := by
        rw [renumbered, List.map_map]
        exact List.map_congr_left fun item _ => hview item
    _ = (entries.zipIdx.map Prod.fst).map view := by
        rw [List.map_map]
        rfl
    _ = entries.map view := by rw [List.zipIdx_map_fst]

@[simp]
theorem positions_renumbered (entries : List Entry) :
    (renumbered entries).map Entry.position = List.range entries.length := by
  rw [renumbered, List.map_map, List.range_eq_range']
  exact List.zipIdx_map_snd 0 entries

theorem candidates_map_record {scorer : Scorer} {entries : List Entry}
    (hscores : ∀ entry ∈ entries, entry.score = scorer entry.record) :
    candidates scorer (entries.map Entry.record) = renumbered entries := by
  rw [← scored_eq_candidates, scored, List.zipIdx_map, List.map_map, renumbered]
  refine List.map_congr_left ?_
  rintro ⟨entry, position⟩ hitem
  have hscore := hscores entry (List.fst_mem_of_mem_zipIdx hitem)
  exact congrArg (Entry.mk entry.record · position) hscore.symm

/-- The candidates at chosen positions, in their order. -/
def select (chosen : Nat → Bool) (records : List Record) : List Record :=
  (records.zipIdx.filter fun candidate => chosen candidate.2).map Prod.fst

/-- The entries of the candidates at chosen positions, in their order. -/
def keep (chosen : Nat → Bool) (entries : List Entry) : List Entry :=
  entries.filter fun entry => chosen entry.position

/-- A choice that takes or leaves the first candidate and goes on like another one. -/
def chooseFirst (first : Bool) (chosen : Nat → Bool) (position : Nat) : Bool :=
  if position = 0 then first else chosen (position - 1)

theorem select_chooseFirst (first : Bool) (chosen : Nat → Bool) (record : Record)
    (records : List Record) :
    select (chooseFirst first chosen) (record :: records) =
      if first then record :: select chosen records else select chosen records := by
  have hlater : ((records.zipIdx 1).filter fun candidate =>
      chooseFirst first chosen candidate.2).map Prod.fst = select chosen records := by
    rw [List.zipIdx_succ, List.filter_map, List.map_map]
    rfl
  rw [select, List.zipIdx_cons, List.filter_cons]
  cases first with
  | true => exact congrArg (record :: ·) hlater
  | false => exact hlater

theorem select_sublist (chosen : Nat → Bool) (records : List Record) :
    (select chosen records).Sublist records := by
  have hsublist : (select chosen records).Sublist (records.zipIdx.map Prod.fst) :=
    List.filter_sublist.map Prod.fst
  rwa [List.zipIdx_map_fst] at hsublist

theorem exists_select_of_sublist {part records : List Record} (hsublist : part.Sublist records) :
    ∃ chosen, part = select chosen records := by
  -- Every step of the sublist leaves or takes the first candidate.
  induction hsublist with
  | slnil => exact ⟨fun _ => false, rfl⟩
  | cons record _ ih =>
      obtain ⟨chosen, rfl⟩ := ih
      exact ⟨chooseFirst false chosen, (select_chooseFirst false chosen record _).symm⟩
  | cons_cons record _ ih =>
      obtain ⟨chosen, rfl⟩ := ih
      exact ⟨chooseFirst true chosen, (select_chooseFirst true chosen record _).symm⟩

theorem select_eq_map_record (scorer : Scorer) (chosen : Nat → Bool) (records : List Record) :
    select chosen records = (keep chosen (candidates scorer records)).map Entry.record := by
  rw [← scored_eq_candidates, scored, keep, List.filter_map, List.map_map]
  rfl

theorem candidates_select (scorer : Scorer) (chosen : Nat → Bool) (records : List Record) :
    candidates scorer (select chosen records) =
      renumbered (keep chosen (candidates scorer records)) := by
  rw [select_eq_map_record scorer]
  refine candidates_map_record ?_
  intro entry hentry
  exact (mem_candidates (List.mem_filter.mp hentry).1).2

theorem compare_index_eq {entries : List Entry}
    (hposition : entries.Pairwise fun a b => a.position < b.position) {a b : Entry × Nat}
    (ha : a ∈ entries.zipIdx) (hb : b ∈ entries.zipIdx) :
    compare a.2 b.2 = compare a.1.position b.1.position := by
  have hgrow : ∀ {a b : Entry × Nat}, a ∈ entries.zipIdx → b ∈ entries.zipIdx → a.2 < b.2 →
      a.1.position < b.1.position := by
    intro a b ha hb hlt
    obtain ⟨hindexA, hentryA⟩ := List.getElem?_eq_some_iff.mp (List.mem_zipIdx_iff_getElem?.mp ha)
    obtain ⟨hindexB, hentryB⟩ := List.getElem?_eq_some_iff.mp (List.mem_zipIdx_iff_getElem?.mp hb)
    have hpair := List.pairwise_iff_getElem.mp hposition a.2 b.2 hindexA hindexB hlt
    rwa [hentryA, hentryB] at hpair
  -- Two items with one index are one item, so the middle case compares a position with itself.
  rcases Nat.lt_trichotomy a.2 b.2 with hlt | heq | hgt
  · rw [Nat.compare_eq_lt.mpr hlt, Nat.compare_eq_lt.mpr (hgrow ha hb hlt)]
  · have hentry : a.1 = b.1 := by
      have hsome := List.mem_zipIdx_iff_getElem?.mp ha
      rw [heq, List.mem_zipIdx_iff_getElem?.mp hb] at hsome
      exact (Option.some.inj hsome).symm
    rw [Nat.compare_eq_eq.mpr heq, hentry, Nat.compare_eq_eq.mpr rfl]
  · rw [Nat.compare_eq_gt.mpr hgt, Nat.compare_eq_gt.mpr (hgrow hb ha hgt)]

theorem precedes_renumber {entries : List Entry}
    (hposition : entries.Pairwise fun a b => a.position < b.position) {a b : Entry × Nat}
    (ha : a ∈ entries.zipIdx) (hb : b ∈ entries.zipIdx) :
    Entry.precedes a.1 b.1 = Entry.precedes (renumber a) (renumber b) := by
  have hindex := compare_index_eq hposition ha hb
  rw [Entry.precedes, Entry.precedes, Entry.compare_eq_merit_then, Entry.compare_eq_merit_then,
    ← hindex]
  rfl

/-- Entries with growing positions are sorted alike when they are renumbered. Both sorts are one
sort of the entries with their indices, seen through one half or the other. -/
theorem map_outcome_sorted_renumbered {entries : List Entry}
    (hposition : entries.Pairwise fun a b => a.position < b.position) :
    (sorted (renumbered entries)).map Entry.outcome = (sorted entries).map Entry.outcome := by
  let precedes (a b : Entry × Nat) : Bool := Entry.precedes a.1 b.1
  have hrenumbered : (entries.zipIdx.mergeSort precedes).map renumber =
      sorted (renumbered entries) :=
    List.map_mergeSort fun a ha b hb => precedes_renumber hposition ha hb
  have hplain : (entries.zipIdx.mergeSort precedes).map Prod.fst = sorted entries := by
    have hsorted : (entries.zipIdx.mergeSort precedes).map Prod.fst =
        sorted (entries.zipIdx.map Prod.fst) := List.map_mergeSort fun _ _ _ _ => rfl
    rwa [List.zipIdx_map_fst] at hsorted
  rw [← hrenumbered, ← hplain, List.map_map, List.map_map]
  rfl

/-- **Other candidates do not matter.** Every sublist of the candidates is a choice of positions,
and its ranking tells the same, in the same order, as the chosen entries in the ranking of all
candidates; a limit keeps the front of these. -/
theorem rank_select (scorer : Scorer) (limit : Option Nat) (records : List Record) :
    (∀ part : List Record, part.Sublist records ↔ ∃ chosen, part = select chosen records) ∧
    ∀ chosen : Nat → Bool,
      (rank scorer limit (select chosen records)).map Entry.outcome =
        (limited limit (keep chosen (rank scorer none records))).map Entry.outcome := by
  refine ⟨?_, ?_⟩
  · intro part
    refine ⟨exists_select_of_sublist, ?_⟩
    rintro ⟨chosen, rfl⟩
    exact select_sublist chosen records
  · intro chosen
    rw [rank, finish, scored_eq_candidates, candidates_select]
    apply map_limited_congr
    rw [keep, keep, filter_rank]
    exact map_outcome_sorted_renumbered ((pairwise_position_candidates scorer records).filter _)

theorem ascending_renumbered {entries : List Entry} (hascending : Ascending entries) :
    Ascending (renumbered entries) := by
  apply ascending_of_merit_of_position
  · have hmerits : ((renumbered entries).map Entry.merit).Pairwise fun a b =>
        (Merit.compare a b).isLE = true := by
      rw [map_renumbered fun _ => rfl]
      exact List.pairwise_map.mpr hascending.pairwise_merit
    exact List.pairwise_map.mp hmerits
  · have hpositions : ((renumbered entries).map Entry.position).Pairwise (· < ·) := by
      rw [positions_renumbered]
      exact List.pairwise_lt_range
    exact List.pairwise_map.mp hpositions

theorem rank_map_record_rank (scorer : Scorer) (limit : Option Nat) (records : List Record) :
    rank scorer limit ((rank scorer limit records).map Entry.record) =
      renumbered (rank scorer limit records) := by
  have hcandidates : candidates scorer ((rank scorer limit records).map Entry.record) =
      renumbered (rank scorer limit records) :=
    candidates_map_record fun entry hentry => (mem_rank hentry).2
  have hlength : (renumbered (rank scorer limit records)).length =
      keptCount limit records.length := by
    simp [renumbered]
  rw [rank_eq_take, hcandidates, (ascending_renumbered (rank_ascending _ _ _)).sorted_eq,
    List.length_map, length_rank, keptCount_keptCount, ← hlength, List.take_length]

/-- **Ranking is idempotent.** The records of a ranking, ranked again with the same limit, give the
same records with the same scores in the same order, now numbered from nought. -/
theorem rank_rank (scorer : Scorer) (limit : Option Nat) (records : List Record) :
    let ranking := rank scorer limit records
    let again := rank scorer limit (ranking.map Entry.record)
    again.map Entry.outcome = ranking.map Entry.outcome ∧
      again.map Entry.position = List.range ranking.length := by
  intro ranking again
  have hagain : again = renumbered ranking := rank_map_record_rank scorer limit records
  rw [hagain]
  exact ⟨map_renumbered (fun _ => rfl) ranking, positions_renumbered ranking⟩

end Ranking

end SearchRanking
