import SearchRanking.Scorer
import SearchRanking.Text.Lowercase

/-!
# Ranking

Records are scored and sorted: the higher effective score comes first and NaN last, equal scores go
by title without regard to case, equal titles by their place among the candidates. Only a limit
drops entries.
-/

namespace SearchRanking

/-- A candidate with its effective score and its place in the list of candidates. -/
structure Entry where
  record : Record
  score : Score
  position : Nat
  deriving DecidableEq

namespace Entry

/-- Whether the effective score differs from the host's in any bit. -/
def isOverridden (entry : Entry) : Bool := entry.score ≠ entry.record.score

/-- The characters by which titles are compared. -/
def titleKey (entry : Entry) : List Char := (Text.lowercase entry.record.title).toList

def compareScores (a b : Entry) : Ordering := compare b.score.orderKey a.score.orderKey

/-- The order of a ranking: `lt` when the first entry comes earlier. -/
def compare (a b : Entry) : Ordering :=
  (compareScores a b).then
    ((Ord.compare a.titleKey b.titleKey).then (Ord.compare a.position b.position))

def precedes (a b : Entry) : Bool := compare a b != .gt

end Entry

/-- The size of a ranking and how many of its entries are overridden. -/
structure Stats where
  total : Nat
  overridden : Nat
  deriving DecidableEq

namespace Ranking

def scored (scorer : Scorer) (records : List Record) : List Entry :=
  records.zipIdx.map fun (record, position) => ⟨record, scorer record, position⟩

def sorted (entries : List Entry) : List Entry := entries.mergeSort Entry.precedes

def limited (limit : Option Nat) (entries : List Entry) : List Entry :=
  match limit with
  | some count => entries.take count
  | none => entries

/-- Sorts scored entries and applies the limit. -/
def finish (limit : Option Nat) (entries : List Entry) : List Entry :=
  limited limit (sorted entries)

def rank (scorer : Scorer) (limit : Option Nat) (records : List Record) : List Entry :=
  finish limit (scored scorer records)

def stats (entries : List Entry) : Stats where
  total := entries.length
  overridden := entries.countP Entry.isOverridden

end Ranking

def Entry.toValue (entry : Entry) : Json.Value :=
  .object [("result", entry.record.toValue), ("score", .ofScore entry.score)]

def Ranking.toValue (entries : List Entry) : Json.Value := .array (entries.map Entry.toValue)

end SearchRanking
