import SearchRanking.Proofs.Ranking

namespace SearchRanking

/-- Scores that a ranking does not tell apart: the same word, or any two NaNs. -/
def Score.Ties (a b : Score) : Prop :=
  a.bits = b.bits ∨ (a.isNaN = true ∧ b.isNaN = true)

instance : DecidableRel Score.Ties :=
  fun a b => inferInstanceAs (Decidable (a.bits = b.bits ∨ (a.isNaN = true ∧ b.isNaN = true)))

/-- The key of a score and the key of a title. -/
structure Merit where
  score : Int
  title : List Char

namespace Merit

/-- The order of merits: `lt` when the first one is better. -/
def compare (a b : Merit) : Ordering :=
  (Ord.compare b.score a.score).then (Ord.compare a.title b.title)

instance : Std.TransCmp Merit.compare :=
  inferInstanceAs (Std.TransCmp
    (compareLex (fun a b : Merit => compareOn Merit.score b a) (compareOn Merit.title)))

@[simp]
theorem compare_eq_iff {a b : Merit} : compare a b = .eq ↔ a = b := by
  obtain ⟨scoreA, titleA⟩ := a
  obtain ⟨scoreB, titleB⟩ := b
  rw [compare, Ordering.then_eq_eq, Std.LawfulEqOrd.compare_eq_iff_eq,
    Std.LawfulEqOrd.compare_eq_iff_eq, mk.injEq, eq_comm]

theorem eq_of_isLE {a b : Merit} (hab : (compare a b).isLE = true)
    (hba : (compare b a).isLE = true) : a = b :=
  compare_eq_iff.mp (Std.OrientedCmp.isLE_antisymm hab hba)

end Merit

def Scorer.merit (scorer : Scorer) (record : Record) : Merit :=
  ⟨(scorer record).orderKey, (Text.lowercase record.title).toList⟩

namespace Entry

def merit (entry : Entry) : Merit := ⟨entry.score.orderKey, entry.titleKey⟩

/-- Entries that only their positions tell apart. -/
def Ties (a b : Entry) : Prop :=
  a.score.Ties b.score ∧ Text.lowercase a.record.title = Text.lowercase b.record.title

instance : DecidableRel Entry.Ties :=
  fun a b => inferInstanceAs (Decidable (a.score.Ties b.score ∧
    Text.lowercase a.record.title = Text.lowercase b.record.title))

theorem ties_iff_merit_eq {a b : Entry} : a.Ties b ↔ a.merit = b.merit := by
  rw [Ties, Score.Ties, ← Score.orderKey_eq_iff, ← titleKey_eq_iff, merit, merit, Merit.mk.injEq]

theorem compare_eq_merit_then (a b : Entry) :
    compare a b =
      (Merit.compare a.merit b.merit).then (Ord.compare a.position b.position) := by
  rw [compare, ← Ordering.then_assoc, Merit.compare, merit, merit, compareScores]

/-- An entry stands before another one by a better merit, or by its position. -/
theorem compare_eq_lt_iff {a b : Entry} :
    compare a b = .lt ↔
      Merit.compare a.merit b.merit = .lt ∨ a.merit = b.merit ∧ a.position < b.position := by
  rw [compare_eq_merit_then, Ordering.then_eq_lt, Merit.compare_eq_iff, Nat.compare_eq_lt]

theorem isLE_merit_of_compare_eq_lt {a b : Entry} (hlt : compare a b = .lt) :
    (Merit.compare a.merit b.merit).isLE = true := by
  rcases compare_eq_lt_iff.mp hlt with hbetter | ⟨hmerit, -⟩
  · exact Ordering.isLE_of_eq_lt hbetter
  · exact Ordering.isLE_of_eq_eq (Merit.compare_eq_iff.mpr hmerit)

end Entry

namespace Ranking

theorem merit_eq_of_score_eq {scorer : Scorer} {entry : Entry}
    (hscore : entry.score = scorer entry.record) : entry.merit = scorer.merit entry.record := by
  rw [Entry.merit, Entry.titleKey, hscore, Scorer.merit]

theorem Ascending.pairwise_merit {entries : List Entry} (hascending : Ascending entries) :
    entries.Pairwise fun a b => (Merit.compare a.merit b.merit).isLE = true :=
  hascending.imp Entry.isLE_merit_of_compare_eq_lt

theorem ascending_of_merit_of_position {entries : List Entry}
    (hmerit : entries.Pairwise fun a b => (Merit.compare a.merit b.merit).isLE = true)
    (hposition : entries.Pairwise fun a b => a.position < b.position) : Ascending entries := by
  refine hmerit.imp₂ ?_ hposition
  intro a b hle hlt
  apply Entry.compare_eq_lt_iff.mpr
  rcases Ordering.isLE_iff_eq_lt_or_eq_eq.mp hle with hbetter | htie
  · exact Or.inl hbetter
  · exact Or.inr ⟨Merit.compare_eq_iff.mp htie, hlt⟩

theorem pairwise_position_candidates (scorer : Scorer) (records : List Record) :
    (candidates scorer records).Pairwise fun a b => a.position < b.position := by
  have hrange : ((candidates scorer records).map Entry.position).Pairwise (· < ·) := by
    rw [positions_candidates]
    exact List.pairwise_lt_range
  exact List.pairwise_map.mp hrange

end Ranking

end SearchRanking
