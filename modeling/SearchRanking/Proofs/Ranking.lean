import SearchRanking.Proofs.Order

/-!
# A ranking is the one ascending arrangement of its candidates

Candidates have different positions, so no two of them tie. Sorting therefore leaves no choice: of
all arrangements of the candidates exactly one is ascending, the sort finds it, and a limit keeps
its front.
-/

namespace SearchRanking.Ranking

/-- The entry of every candidate: the record, its score and its index. -/
def candidates (scorer : Scorer) (records : List Record) : List Entry :=
  List.ofFn fun index : Fin records.length =>
    ⟨records.get index, scorer (records.get index), index⟩

/-- Every earlier entry comes strictly before every later one. -/
def Ascending (entries : List Entry) : Prop :=
  entries.Pairwise fun a b => Entry.compare a b = .lt

/-- How many of `count` entries a limit keeps. -/
def keptCount (limit : Option Nat) (count : Nat) : Nat :=
  match limit with
  | some most => min most count
  | none => count

theorem scored_eq_candidates (scorer : Scorer) (records : List Record) :
    scored scorer records = candidates scorer records := by
  apply List.ext_getElem
  · simp [scored, candidates]
  · intro index hscored hcandidates
    simp [scored, candidates]

@[simp]
theorem positions_candidates (scorer : Scorer) (records : List Record) :
    (candidates scorer records).map Entry.position = List.range records.length := by
  rw [candidates, List.map_ofFn]
  apply List.ext_getElem
  · simp
  · intro index hleft hright
    simp

@[simp]
theorem records_candidates (scorer : Scorer) (records : List Record) :
    (candidates scorer records).map Entry.record = records := by
  rw [candidates, List.map_ofFn]
  exact List.ofFn_getElem

theorem nodup_positions_candidates (scorer : Scorer) (records : List Record) :
    ((candidates scorer records).map Entry.position).Nodup := by
  rw [positions_candidates]
  exact List.nodup_range

theorem sorted_perm (entries : List Entry) : (sorted entries).Perm entries :=
  List.mergeSort_perm entries Entry.precedes

theorem sorted_pairwise_isLE (entries : List Entry) :
    (sorted entries).Pairwise fun a b => (Entry.compare a b).isLE = true := by
  have hpairwise : (sorted entries).Pairwise fun a b => Entry.precedes a b = true := by
    apply List.pairwise_mergeSort
    · intro a b c hab hbc
      rw [Entry.precedes_eq_isLE] at hab hbc ⊢
      exact Std.TransCmp.isLE_trans hab hbc
    · intro a b
      rw [Entry.precedes_eq_isLE, Entry.precedes_eq_isLE, Bool.or_eq_true]
      by_cases hle : (Entry.compare a b).isLE = true
      · exact Or.inl hle
      · exact Or.inr (Ordering.isLE_of_eq_lt (Std.OrientedCmp.lt_of_not_isLE hle))
  refine hpairwise.imp ?_
  intro a b hab
  rwa [Entry.precedes_eq_isLE] at hab

/-- Different positions rule ties out, so the sorted list is strictly ascending. -/
theorem sorted_ascending {entries : List Entry}
    (hpositions : (entries.map Entry.position).Nodup) : Ascending (sorted entries) := by
  have hsorted : ((sorted entries).map Entry.position).Nodup :=
    ((sorted_perm entries).map Entry.position).nodup_iff.mpr hpositions
  have hdistinct : (sorted entries).Pairwise fun a b => a.position ≠ b.position :=
    List.pairwise_map.mp hsorted
  refine (sorted_pairwise_isLE entries).imp₂ ?_ hdistinct
  intro a b hle hne
  have htie := Entry.compare_ne_eq_of_position_ne hne
  exact (Ordering.isLE_iff_eq_lt_or_eq_eq.mp hle).resolve_right htie

theorem Ascending.eq_of_perm {left right : List Entry} (hleft : Ascending left)
    (hright : Ascending right) (hperm : left.Perm right) : left = right := by
  refine hperm.eq_of_pairwise ?_ hleft hright
  intro a b _ _ hab hba
  exact absurd hba (Std.OrientedCmp.not_lt_of_lt hab)

theorem Ascending.sorted_eq {entries : List Entry} (hascending : Ascending entries) :
    sorted entries = entries := by
  apply List.mergeSort_of_pairwise
  refine hascending.imp ?_
  intro a b hlt
  rw [Entry.precedes_eq_isLE]
  exact Ordering.isLE_of_eq_lt hlt

theorem Ascending.compare_drop_take {entries : List Entry} (hascending : Ascending entries)
    (count : Nat) {kept cut : Entry} (hkept : kept ∈ entries.take count)
    (hcut : cut ∈ entries.drop count) : Entry.compare cut kept = .gt := by
  rw [Ascending, ← List.take_append_drop count entries, List.pairwise_append] at hascending
  exact Std.OrientedCmp.gt_of_lt (hascending.2.2 kept hkept cut hcut)

theorem limited_eq_take (limit : Option Nat) (entries : List Entry) :
    limited limit entries = entries.take (keptCount limit entries.length) := by
  cases limit with
  | none => exact List.take_length.symm
  | some most => exact List.take_eq_take_min

theorem map_limited_congr {α : Type} {view : Entry → α} {left right : List Entry}
    (hview : left.map view = right.map view) (limit : Option Nat) :
    (limited limit left).map view = (limited limit right).map view := by
  cases limit with
  | none => exact hview
  | some most => rw [limited, limited, List.map_take, List.map_take, hview]

theorem keptCount_le (limit : Option Nat) (count : Nat) : keptCount limit count ≤ count := by
  cases limit with
  | none => exact Nat.le_refl count
  | some most => exact Nat.min_le_right most count

@[simp]
theorem keptCount_keptCount (limit : Option Nat) (count : Nat) :
    keptCount limit (keptCount limit count) = keptCount limit count := by
  cases limit with
  | none => rfl
  | some most => exact Nat.min_eq_right (Nat.min_le_left most count)

@[simp]
theorem length_sorted_candidates (scorer : Scorer) (records : List Record) :
    (sorted (candidates scorer records)).length = records.length := by
  rw [(sorted_perm _).length_eq, candidates, List.length_ofFn]

theorem rank_eq_take (scorer : Scorer) (limit : Option Nat) (records : List Record) :
    rank scorer limit records =
      (sorted (candidates scorer records)).take (keptCount limit records.length) := by
  rw [rank, finish, limited_eq_take, scored_eq_candidates, length_sorted_candidates]

theorem rank_ascending (scorer : Scorer) (limit : Option Nat) (records : List Record) :
    Ascending (rank scorer limit records) := by
  rw [rank_eq_take]
  exact (sorted_ascending (nodup_positions_candidates scorer records)).take

theorem rank_none_perm (scorer : Scorer) (records : List Record) :
    (rank scorer none records).Perm (candidates scorer records) := by
  rw [rank, scored_eq_candidates]
  exact sorted_perm (candidates scorer records)

theorem filter_rank (scorer : Scorer) (records : List Record) (test : Entry → Bool) :
    (rank scorer none records).filter test = sorted ((candidates scorer records).filter test) := by
  have hranked : Ascending ((rank scorer none records).filter test) :=
    (rank_ascending scorer none records).filter _
  have hpositions : (((candidates scorer records).filter test).map Entry.position).Nodup :=
    (nodup_positions_candidates scorer records).sublist (List.filter_sublist.map Entry.position)
  refine hranked.eq_of_perm (sorted_ascending hpositions) ?_
  exact ((rank_none_perm scorer records).filter _).trans (sorted_perm _).symm

@[simp]
theorem length_rank (scorer : Scorer) (limit : Option Nat) (records : List Record) :
    (rank scorer limit records).length = keptCount limit records.length := by
  rw [rank_eq_take, List.length_take, length_sorted_candidates,
    Nat.min_eq_left (keptCount_le limit records.length)]

theorem mem_candidates {scorer : Scorer} {records : List Record} {entry : Entry}
    (hentry : entry ∈ candidates scorer records) :
    entry.record ∈ records ∧ entry.score = scorer entry.record := by
  obtain ⟨index, rfl⟩ := List.mem_ofFn.mp hentry
  exact ⟨List.get_mem records index, rfl⟩

theorem mem_rank {scorer : Scorer} {limit : Option Nat} {records : List Record} {entry : Entry}
    (hentry : entry ∈ rank scorer limit records) :
    entry.record ∈ records ∧ entry.score = scorer entry.record := by
  rw [rank_eq_take] at hentry
  exact mem_candidates ((sorted_perm _).mem_iff.mp (List.mem_of_mem_take hentry))

/-- **A ranking is the front of the one ascending arrangement of its candidates.** The arrangement
holds every record once and unchanged, and whatever the limit cuts off comes after all that is
kept. -/
theorem rank_eq_take_unique_arrangement (scorer : Scorer) (limit : Option Nat)
    (records : List Record) :
    ∃ full : List Entry,
      (full.Perm (candidates scorer records) ∧ Ascending full) ∧
      (∀ other : List Entry,
        other.Perm (candidates scorer records) ∧ Ascending other → other = full) ∧
      rank scorer limit records = full.take (keptCount limit records.length) ∧
      (full.map Entry.record).Perm records ∧
      ∀ kept ∈ rank scorer limit records, ∀ cut ∈ full.drop (keptCount limit records.length),
        Entry.compare cut kept = .gt := by
  have hperm := sorted_perm (candidates scorer records)
  have hascending := sorted_ascending (nodup_positions_candidates scorer records)
  refine ⟨sorted (candidates scorer records), ⟨hperm, hascending⟩, ?_,
    rank_eq_take scorer limit records, ?_, ?_⟩
  · rintro other ⟨hother, hotherAscending⟩
    exact hotherAscending.eq_of_perm hascending (hother.trans hperm.symm)
  · simpa using hperm.map Entry.record
  · intro kept hkept cut hcut
    rw [rank_eq_take] at hkept
    exact hascending.compare_drop_take _ hkept hcut

end SearchRanking.Ranking
