import Mathlib.Data.List.Forall2
import Mathlib.Data.List.Pairwise
import SearchRanking.Proofs.Merit
import SearchRanking.Record.Sample

/-!
# What the order of the candidates decides

Candidates that come in another order keep their merits and lose their positions. Along a ranking
merits never rise, so the list of merits is the one descending arrangement of them and does not
depend on the order of the candidates. Which record stands at a place can depend on it only where
several records have one merit, and these stand as they came.
-/

namespace SearchRanking.Ranking

/-- The entries under a score and a title in lower case, in their order. -/
def under (score : Score) (title : String) (entries : List Entry) : List Entry :=
  entries.filter fun entry =>
    entry.score.Ties score ∧ Text.lowercase entry.record.title = title

theorem merit_eq_of_mem_under {score : Score} {title : String} {entries : List Entry} {a b : Entry}
    (ha : a ∈ under score title entries) (hb : b ∈ under score title entries) :
    a.merit = b.merit := by
  have hkeys : ∀ entry ∈ under score title entries,
      entry.merit = ⟨score.orderKey, title.toList⟩ := by
    intro entry hentry
    obtain ⟨hscore, htitle⟩ := of_decide_eq_true (List.mem_filter.mp hentry).2
    rw [Entry.merit, Entry.titleKey, htitle, Score.orderKey_eq_iff.mpr hscore]
  rw [hkeys a ha, hkeys b hb]

@[simp]
theorem under_rank (scorer : Scorer) (records : List Record) (score : Score) (title : String) :
    under score title (rank scorer none records) =
      under score title (candidates scorer records) := by
  have hcame : Ascending (under score title (candidates scorer records)) := by
    have hposition := (pairwise_position_candidates scorer records).filter fun entry =>
      entry.score.Ties score ∧ Text.lowercase entry.record.title = title
    refine List.Pairwise.imp_of_mem ?_ hposition
    intro a b ha hb hlt
    exact Entry.compare_eq_lt_iff.mpr (Or.inr ⟨merit_eq_of_mem_under ha hb, hlt⟩)
  calc under score title (rank scorer none records)
      = sorted (under score title (candidates scorer records)) := filter_rank scorer records _
    _ = under score title (candidates scorer records) := hcame.sorted_eq

theorem map_record_under_candidates (scorer : Scorer) (records : List Record) (score : Score)
    (title : String) :
    (under score title (candidates scorer records)).map Entry.record =
      records.filter fun record =>
        (scorer record).Ties score ∧ Text.lowercase record.title = title := by
  have hcandidates : under score title (candidates scorer records) =
      (candidates scorer records).filter ((fun record : Record => decide
        ((scorer record).Ties score ∧ Text.lowercase record.title = title)) ∘ Entry.record) := by
    refine List.filter_congr ?_
    intro entry hentry
    rw [Function.comp_apply, (mem_candidates hentry).2]
  rw [hcandidates, ← List.filter_map, records_candidates]

theorem records_rank_perm (scorer : Scorer) (records : List Record) :
    ((rank scorer none records).map Entry.record).Perm records := by
  simpa using (rank_none_perm scorer records).map Entry.record

theorem map_merit_rank (scorer : Scorer) (records : List Record) :
    (rank scorer none records).map Entry.merit =
      ((rank scorer none records).map Entry.record).map scorer.merit := by
  rw [List.map_map]
  refine List.map_congr_left ?_
  intro entry hentry
  exact merit_eq_of_score_eq (mem_rank hentry).2

theorem records_rank_pairwise (scorer : Scorer) (records : List Record) :
    ((rank scorer none records).map Entry.record).Pairwise fun a b =>
      (Merit.compare (scorer.merit a) (scorer.merit b)).isLE = true := by
  have hmerits : ((rank scorer none records).map Entry.merit).Pairwise fun a b =>
      (Merit.compare a b).isLE = true :=
    List.pairwise_map.mpr (rank_ascending scorer none records).pairwise_merit
  rw [map_merit_rank] at hmerits
  exact List.pairwise_map.mp hmerits

section Arrangements

variable {scorer : Scorer} {left right : List Record}

theorem records_rank_perm_of_perm (hperm : left.Perm right) :
    ((rank scorer none left).map Entry.record).Perm
      ((rank scorer none right).map Entry.record) :=
  ((records_rank_perm scorer left).trans hperm).trans (records_rank_perm scorer right).symm

theorem map_merit_rank_eq_of_perm (hperm : left.Perm right) :
    (rank scorer none left).map Entry.merit = (rank scorer none right).map Entry.merit := by
  have hdescending : ∀ records, (((rank scorer none records).map Entry.record).map
      scorer.merit).Pairwise fun a b => (Merit.compare a b).isLE = true :=
    fun records => List.pairwise_map.mpr (records_rank_pairwise scorer records)
  rw [map_merit_rank, map_merit_rank]
  refine ((records_rank_perm_of_perm hperm).map scorer.merit).eq_of_pairwise ?_
    (hdescending left) (hdescending right)
  intro a b _ _ hab hba
  exact Merit.eq_of_isLE hab hba

theorem eq_of_merit_eq (huntied : (candidates scorer left).Pairwise fun a b => ¬ a.Ties b)
    {a b : Record} (ha : a ∈ left) (hb : b ∈ left) (hmerit : scorer.merit a = scorer.merit b) :
    a = b := by
  have hentries : ((candidates scorer left).map Entry.record).Pairwise fun a b =>
      scorer.merit a ≠ scorer.merit b := by
    refine List.pairwise_map.mpr (huntied.imp_of_mem ?_)
    intro a b ha hb huntied heq
    rw [← merit_eq_of_score_eq (mem_candidates ha).2,
      ← merit_eq_of_score_eq (mem_candidates hb).2] at heq
    exact huntied (Entry.ties_iff_merit_eq.mpr heq)
  rw [records_candidates] at hentries
  have hsymm : Std.Symm fun a b => scorer.merit a ≠ scorer.merit b := ⟨fun _ _ hne => hne.symm⟩
  by_contra hne
  exact hentries.forall ha hb hne hmerit

theorem map_record_rank_eq_of_perm (hperm : left.Perm right)
    (huntied : (candidates scorer left).Pairwise fun a b => ¬ a.Ties b) :
    (rank scorer none left).map Entry.record = (rank scorer none right).map Entry.record := by
  refine (records_rank_perm_of_perm hperm).eq_of_pairwise ?_ (records_rank_pairwise scorer left)
    (records_rank_pairwise scorer right)
  intro a b ha hb hab hba
  have hleft := (records_rank_perm scorer left).mem_iff.mp ha
  have hright := hperm.mem_iff.mpr ((records_rank_perm scorer right).mem_iff.mp hb)
  exact eq_of_merit_eq huntied hleft hright (Merit.eq_of_isLE hab hba)

end Arrangements

/-- **The order of the candidates matters only inside ties.** Rankings of two arrangements of the
candidates tie at every place. Under every score and title both list the same records, each as they
came to it. Where no two candidates tie, both list the same records in the same order. -/
theorem rank_of_perm (scorer : Scorer) (left right : List Record) (hperm : left.Perm right) :
    List.Forall₂ Entry.Ties (rank scorer none left) (rank scorer none right) ∧
    (∀ (score : Score) (title : String),
      under score title (rank scorer none left) = under score title (candidates scorer left) ∧
      under score title (rank scorer none right) = under score title (candidates scorer right) ∧
      ((under score title (rank scorer none left)).map Entry.record).Perm
        ((under score title (rank scorer none right)).map Entry.record)) ∧
    ((candidates scorer left).Pairwise (fun a b => ¬ a.Ties b) →
      (rank scorer none left).map Entry.record = (rank scorer none right).map Entry.record) := by
  refine ⟨?_, ?_, ?_⟩
  · have hmerits : List.Forall₂ Eq ((rank scorer none left).map Entry.merit)
        ((rank scorer none right).map Entry.merit) :=
      List.forall₂_eq_eq_eq ▸ map_merit_rank_eq_of_perm hperm
    rw [List.forall₂_map_left_iff, List.forall₂_map_right_iff] at hmerits
    exact hmerits.imp fun a b => Entry.ties_iff_merit_eq.mpr
  · intro score title
    refine ⟨under_rank scorer left score title, under_rank scorer right score title, ?_⟩
    rw [under_rank, under_rank, map_record_under_candidates, map_record_under_candidates]
    exact hperm.filter _
  · intro huntied
    exact map_record_rank_eq_of_perm hperm huntied

/-- Pages that do not tie, though their titles differ in case only: a NaN and both zeros. -/
def apart : List Record :=
  [.plain "Same" (.zero false) none, .plain "SAME" .notANumber none,
    .plain "same" (.zero true) (some "guide/same.html")]

theorem rank_apart :
    apart.Perm apart.reverse ∧
    ((candidates Scorer.host apart).Pairwise fun a b => ¬ a.Ties b) ∧
    (rank Scorer.host none apart).map Entry.record =
      (rank Scorer.host none apart.reverse).map Entry.record := by
  have hperm : apart.Perm apart.reverse := (List.reverse_perm apart).symm
  have huntied : (candidates Scorer.host apart).Pairwise fun a b => ¬ a.Ties b := by
    decide +kernel
  exact ⟨hperm, huntied, (rank_of_perm _ _ _ hperm).2.2 huntied⟩

end SearchRanking.Ranking
