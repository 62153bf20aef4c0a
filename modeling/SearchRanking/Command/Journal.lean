import SearchRanking.Config.Basic
import SearchRanking.Decimal.Layout
import SearchRanking.Display.Width
import SearchRanking.Ranking
import SearchRanking.Text.Basic
import SearchRanking.Text.Quoted

namespace SearchRanking.Command

/-- How much an event matters; later levels matter less. -/
inductive Level where
  | error
  | warn
  | info
  | debug
  | trace
  deriving DecidableEq

def Level.detail : Level → Nat
  | .error => 1
  | .warn => 2
  | .info => 3
  | .debug => 4
  | .trace => 5

def Level.name : Level → String
  | .error => "ERROR"
  | .warn => "WARN"
  | .info => "INFO"
  | .debug => "DEBUG"
  | .trace => "TRACE"

structure Event where
  level : Level
  target : String
  message : String
  fields : List (String × String)
  deriving DecidableEq

namespace Event

/-- The message counts among the fields of an event. -/
def fieldNames (event : Event) : List String := "message" :: event.fields.map Prod.fst

/-- A field behind a blank, its name in italics and its equals sign dimmed where styling is on. -/
def fieldText (styled : Bool) (field : String × String) : String :=
  if styled then " \x1b[3m" ++ field.1 ++ "\x1b[0m\x1b[2m=\x1b[0m" ++ field.2
  else " " ++ field.1 ++ "=" ++ field.2

def text (styled : Bool) (event : Event) : String :=
  event.level.name ++ " " ++ event.target ++ ": " ++ event.message ++
    String.join (event.fields.map (fieldText styled))

end Event

/-- The journal line of an event and the lines behind it. Only the first line of an event is a line
of the journal; a line break in a field leaves the rest to the other error output. -/
def Event.lines (styled : Bool) (event : Event) : String × List String :=
  match Text.pieces '\n' (event.text styled).toList with
  | [] => ("", [])
  | first :: rest => (Display.stripped (String.ofList first), rest.map String.ofList)

/-- Penalties in the journal always have a point or an exponent; exponents from -4 to 15 are written
out. -/
def journalLayout : Layout where
  positional exponent := -4 ≤ exponent && exponent ≤ 15
  keepsPoint := true
  marksPlus := false
  tie := .up
  notANumber := "NaN"
  infinity := "inf"
  negativeInfinity := "-inf"

def describeConfig (config : Config) : String :=
  "ScoringConfig \x7b penalty: " ++ config.penalty.written journalLayout ++
    ", root: [" ++ String.intercalate ", " (config.root.map Text.quoted) ++
    "], leaf: " ++ Text.quoted config.leaf ++ " \x7d"

def configLoaded (path : String) (config : Config) : Event where
  level := .debug
  target := "docrank::config"
  message := "loaded scoring config"
  fields := [("path", path), ("config", describeConfig config)]

def recordsDecoded (count : Nat) : Event where
  level := .info
  target := "docrank"
  message := "decoded candidate results"
  fields := [("count", count.repr)]

def recordsRanked (stats : Stats) : Event where
  level := .debug
  target := "docrank::scoring::ranking"
  message := "ranked candidate results"
  fields := [("total", stats.total.repr), ("overridden", stats.overridden.repr)]

end SearchRanking.Command
