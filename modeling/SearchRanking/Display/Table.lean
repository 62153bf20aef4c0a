import SearchRanking.Display.Box
import SearchRanking.Ranking

namespace SearchRanking.Display

/-- Fifty, from which on a score counts as high. -/
def highScore : Score where
  negative := false
  magnitude := 0x4049000000000000
  magnitude_lt := by decide

/-- A score with two places in eight columns. -/
def scoreCell (paint : Paint) (score : Score) (overridden : Bool) : String :=
  let text := padLeft (score.fixed 2) 8
  if overridden then painted paint .red true text
  else if highScore.orderKey ≤ score.orderKey then painted paint .green false text
  else painted paint .yellow false text

def titleWidth : Nat := 28

def filenameWidth : Nat := 37

/-- The row of an entry at a place that counts from one. -/
def entryRow (paint : Paint) (place : Nat) (entry : Entry) : String :=
  " " ++ padLeft place.repr 3 ++ " " ++ scoreCell paint entry.score entry.isOverridden ++ " " ++
    padRight (truncateText entry.record.title titleWidth) titleWidth ++ " " ++
    painted paint .gray false (truncatePath (entry.record.filename.getD "-") filenameWidth)

def entryRows (paint : Paint) (entries : List Entry) : List String :=
  match entries with
  | [] => [painted paint .gray false "  no results"]
  | _ :: _ => entries.zipIdx.map fun (entry, index) => entryRow paint (index + 1) entry

def summaryRow (stats : Stats) : String :=
  "  " ++ stats.total.repr ++ " results, " ++ stats.overridden.repr ++
    " overridden by the scorer"

def rankingSections (paint : Paint) (entries : List Entry) (stats : Stats) : List Section :=
  [⟨"RANKED RESULTS", entryRows paint entries⟩, ⟨"SUMMARY", [summaryRow stats]⟩]

def rankingTable (paint : Paint) (entries : List Entry) : List String :=
  boxLines paint (rankingSections paint entries (Ranking.stats entries))

def verdictLine (paint : Paint) (generated : Bool) (path : String) : String :=
  let verdict :=
    if generated then painted paint .red true "generated"
    else painted paint .green false "authored "
  verdict ++ "  " ++ path

def errorLabel (paint : Paint) : String := painted paint .red true "error:"

end SearchRanking.Display
