import Mathlib.Logic.Relation
import SearchRanking.Proofs.Ranking
import SearchRanking.Record.Sample

/-!
# Ranking on a pool of workers

Workers may score the candidates in any order and in pieces of any size, and hand the entries back
in another order again. `Pool` follows a run step by step: candidates that wait, entries that were
scored and are still held by a worker, and entries that came back. Of the workers only one thing is
asked, which the steps say: a candidate is taken once and keeps its position.

No step adds, loses or changes a candidate, so whatever a finished run returns is an arrangement of
the same entries. The positions tell all entries apart, hence sorting undoes every such arrangement.
-/

namespace SearchRanking

namespace Ranking

theorem finish_eq_of_perm {entries other : List Entry}
    (hpositions : (entries.map Entry.position).Nodup) (hperm : other.Perm entries)
    (limit : Option Nat) : finish limit other = finish limit entries := by
  have hotherPositions : (other.map Entry.position).Nodup :=
    (hperm.map Entry.position).nodup_iff.mpr hpositions
  have hsorted : (sorted other).Perm (sorted entries) :=
    ((sorted_perm other).trans hperm).trans (sorted_perm entries).symm
  have heq : sorted other = sorted entries :=
    (sorted_ascending hotherPositions).eq_of_perm (sorted_ascending hpositions) hsorted
  rw [finish, finish, heq]

end Ranking

/-- A run of scoring on several workers, at one moment. -/
structure Pool where
  /-- Candidates that no worker has taken, with their positions. -/
  waiting : List (Record × Nat)
  /-- Entries that are scored and still held by a worker. -/
  held : List Entry
  /-- Entries in the order in which they came back. -/
  returned : List Entry

namespace Pool

def start (records : List Record) : Pool where
  waiting := records.zipIdx
  held := []
  returned := []

def finished (returned : List Entry) : Pool where
  waiting := []
  held := []
  returned := returned

def scoreOne (scorer : Scorer) (candidate : Record × Nat) : Entry :=
  ⟨candidate.1, scorer candidate.1, candidate.2⟩

/-- What can happen next: some worker scores a piece of the waiting candidates, or some worker hands
back a piece of what is held. Pieces are taken from anywhere and in any order. -/
inductive Step (scorer : Scorer) : Pool → Pool → Prop where
  | score (pool : Pool) (piece rest : List (Record × Nat))
      (htaken : pool.waiting.Perm (piece ++ rest)) :
      Step scorer pool
        { pool with waiting := rest, held := piece.map (scoreOne scorer) ++ pool.held }
  | handBack (pool : Pool) (piece rest : List Entry) (htaken : pool.held.Perm (piece ++ rest)) :
      Step scorer pool { pool with held := rest, returned := pool.returned ++ piece }

def Run (scorer : Scorer) : Pool → Pool → Prop := Relation.ReflTransGen (Step scorer)

/-- The entries of all candidates, wherever they are in the run. -/
def entries (scorer : Scorer) (pool : Pool) : List Entry :=
  pool.returned ++ (pool.held ++ pool.waiting.map (scoreOne scorer))

@[simp]
theorem entries_start (scorer : Scorer) (records : List Record) :
    (start records).entries scorer = Ranking.candidates scorer records :=
  Ranking.scored_eq_candidates scorer records

@[simp]
theorem entries_finished (scorer : Scorer) (returned : List Entry) :
    (finished returned).entries scorer = returned := by
  simp [entries, finished]

theorem Step.entries_perm {scorer : Scorer} {before after : Pool}
    (hstep : Step scorer before after) :
    (after.entries scorer).Perm (before.entries scorer) := by
  cases hstep with
  | score piece rest htaken =>
      have hwaiting := htaken.symm.map (scoreOne scorer)
      rw [List.map_append] at hwaiting
      have hmoved : (piece.map (scoreOne scorer) ++ before.held).Perm
          (before.held ++ piece.map (scoreOne scorer)) := List.perm_append_comm
      refine List.Perm.append_left before.returned ?_
      refine (hmoved.append_right (rest.map (scoreOne scorer))).trans ?_
      rw [List.append_assoc]
      exact hwaiting.append_left before.held
  | handBack piece rest htaken =>
      simp only [entries, List.append_assoc]
      refine List.Perm.append_left before.returned ?_
      rw [← List.append_assoc]
      exact htaken.symm.append_right _

theorem Run.entries_perm {scorer : Scorer} {before after : Pool} (hrun : Run scorer before after) :
    (after.entries scorer).Perm (before.entries scorer) := by
  induction hrun with
  | refl => exact List.Perm.refl _
  | tail _ hstep ih => exact hstep.entries_perm.trans ih

theorem Run.returned_perm {scorer : Scorer} {records : List Record} {returned : List Entry}
    (hrun : Run scorer (start records) (finished returned)) :
    returned.Perm (Ranking.candidates scorer records) := by
  simpa using hrun.entries_perm

theorem exists_run_finished (scorer : Scorer) (pool : Pool) :
    ∃ returned, Run scorer pool (finished returned) := by
  let scored : Pool :=
    { pool with waiting := [], held := pool.waiting.map (scoreOne scorer) ++ pool.held }
  have hscore : Step scorer pool scored := .score pool pool.waiting [] (by simp)
  have hreturn : Step scorer scored (finished (pool.returned ++ scored.held)) :=
    .handBack scored scored.held [] (by simp)
  exact ⟨_, (Relation.ReflTransGen.single hscore).tail hreturn⟩

/-- **The order of work leaves no trace.** Sorting with a limit gives the same list from every
arrangement of entries with different positions. So a ranking on a pool is the ranking itself: from
every moment of a run it can be brought to its end, and however it got there, what came back is
finished into the same entries in the same order. -/
theorem finish_returned_eq_rank :
    (∀ (entries other : List Entry) (limit : Option Nat),
      (entries.map Entry.position).Nodup → other.Perm entries →
        Ranking.finish limit other = Ranking.finish limit entries) ∧
    ∀ (scorer : Scorer) (limit : Option Nat) (records : List Record),
      (∀ pool, Run scorer (start records) pool →
        ∃ returned, Run scorer pool (finished returned)) ∧
      ∀ returned, Run scorer (start records) (finished returned) →
        Ranking.finish limit returned = Ranking.rank scorer limit records := by
  refine ⟨?_, ?_⟩
  · intro entries other limit hpositions hperm
    exact Ranking.finish_eq_of_perm hpositions hperm limit
  · intro scorer limit records
    refine ⟨fun pool _ => exists_run_finished scorer pool, ?_⟩
    intro returned hrun
    rw [Ranking.rank, Ranking.scored_eq_candidates]
    exact Ranking.finish_eq_of_perm (Ranking.nodup_positions_candidates scorer records)
      hrun.returned_perm limit

/-- Two pages that tie in all but their position: both scores are NaNs and the titles differ in case
only. -/
def ties : List Record := [.plain "Same" .notANumber none, .plain "SAME" .notANumber (some "")]

def reversedTies : List Entry :=
  [⟨.plain "SAME" .notANumber (some ""), .notANumber, 1⟩,
    ⟨.plain "Same" .notANumber none, .notANumber, 0⟩]

theorem finish_reversedTies :
    Ranking.finish (some 1) reversedTies.reverse = Ranking.finish (some 1) reversedTies ∧
    Run Scorer.host (start ties) (finished reversedTies) ∧
    Ranking.finish (some 1) reversedTies = Ranking.rank Scorer.host (some 1) ties := by
  have hpositions : (reversedTies.map Entry.position).Nodup := by decide
  have htaken : (start ties).waiting.Perm (start ties).waiting.reverse :=
    (List.reverse_perm _).symm
  -- The second page is scored and back before the first one is taken.
  have hsecondScored : Step Scorer.host (start ties)
      ⟨(start ties).waiting.take 1, reversedTies.take 1, []⟩ :=
    .score (start ties) ((start ties).waiting.drop 1) _ htaken
  have hsecondBack : Step Scorer.host ⟨(start ties).waiting.take 1, reversedTies.take 1, []⟩
      ⟨(start ties).waiting.take 1, [], reversedTies.take 1⟩ :=
    .handBack _ (reversedTies.take 1) [] (List.Perm.refl _)
  have hfirstScored : Step Scorer.host ⟨(start ties).waiting.take 1, [], reversedTies.take 1⟩
      ⟨[], reversedTies.drop 1, reversedTies.take 1⟩ :=
    .score _ ((start ties).waiting.take 1) [] (List.Perm.refl _)
  have hfirstBack : Step Scorer.host ⟨[], reversedTies.drop 1, reversedTies.take 1⟩
      (finished reversedTies) :=
    .handBack _ (reversedTies.drop 1) [] (List.Perm.refl _)
  have hrun : Run Scorer.host (start ties) (finished reversedTies) :=
    (((Relation.ReflTransGen.single hsecondScored).tail hsecondBack).tail hfirstScored).tail
      hfirstBack
  exact ⟨finish_returned_eq_rank.1 _ _ _ hpositions (List.reverse_perm _), hrun,
    (finish_returned_eq_rank.2 _ _ _).2 _ hrun⟩

end Pool

end SearchRanking
