import SearchRanking.Command.Arguments
import SearchRanking.Command.Directory
import SearchRanking.Command.Filter
import SearchRanking.Display.Table
import SearchRanking.Json.Writer
import SearchRanking.Record.Codec

namespace SearchRanking.Command

structure Settings where
  noColor : Option String
  theme : Option String
  colours : Option String
  journal : Option String
  terminal : Bool

/-- Colours are used on a terminal unless they are switched off. -/
def Settings.paint (settings : Settings) : Display.Paint :=
  if settings.noColor.isNone && settings.terminal then
    some (Display.Theme.choose settings.theme settings.colours)
  else none

/-- The journal is styled, on a terminal or not, unless colours are switched off by some text. -/
def Settings.stylesJournal (settings : Settings) : Bool := settings.noColor.all String.isEmpty

structure Surroundings where
  find : String → Except FileFault Source
  input : ByteArray
  settings : Settings

inductive Trouble where
  | loading (path : String) (failure : Failure)
  | options (fault : ConfigFault)
  | reading (path : String) (fault : FileFault)
  | readingInput (fault : FileFault)
  | decodingList (failure : Failure)
  | decoding (failure : Failure)

def Trouble.message : Trouble → String
  | .loading path failure => "Failed to load config " ++ path ++ ": " ++ failure.report
  | .options fault => "Invalid scoring options: " ++ (Failure.config fault).message
  | .reading path fault => "Failed to read " ++ path ++ ": " ++ fault.message
  | .readingInput fault => "Failed to read stdin: " ++ fault.message
  | .decodingList failure => "Failed to decode records: " ++ failure.report
  | .decoding failure => "Failed to decode record: " ++ failure.report

/-- How far a run has come: what it noted, and what is left of the standard input. -/
structure Progress where
  events : List Event
  input : ByteArray

/-- A step of a run: it may note events, take the standard input and end in trouble. -/
abbrev Action := ExceptT Trouble (StateM Progress)

def note (event : Event) : Action Unit :=
  modify fun progress => { progress with events := progress.events ++ [event] }

def takeInput : Action ByteArray :=
  modifyGet fun progress => (progress.input, { progress with input := ByteArray.empty })

def take : Source → Action ByteArray
  | .file bytes => pure bytes
  | .input => takeInput

def orTrouble {ε α : Type} (trouble : ε → Trouble) (result : Except ε α) : Action α :=
  ExceptT.mk (pure (result.mapError trouble))

/-- The configuration of a command: its file or the standard one, then the penalty on top. -/
def configFor (around : Surroundings) (options : Options) : Action Config := do
  let config ←
    match options.config with
    | some path => do
        let source ← orTrouble (fun fault => .loading path (.file fault)) (around.find path)
        let bytes ← take source
        let config ← orTrouble (.loading path) (Config.ofBytes bytes)
        note (configLoaded path config)
        pure config
    | none => pure Config.standard
  orTrouble .options (config.withPenalty options.penalty)

/-- The text of the records: of a file, or of the standard input when none or `-` is named. -/
def recordsText (around : Surroundings) (file : Option String) : Action String :=
  match file.filter (· ≠ "-") with
  | none => do
      let bytes ← takeInput
      orTrouble .readingInput (textOf bytes)
  | some path => do
      let source ← orTrouble (.reading path) (around.find path)
      let bytes ← take source
      orTrouble (.reading path) (textOf bytes)

def linesText (lines : List String) : String := String.join (lines.map (· ++ "\n"))

def runRank (around : Surroundings) (file : Option String) (options : Options)
    (limit : Option Nat) (json : Bool) : Action String := do
  let config ← configFor around options
  let text ← recordsText around file
  let records ← orTrouble .decodingList (Record.decodeList text)
  note (recordsDecoded records.length)
  let sorted := Ranking.sorted (Ranking.scored config.scorer records)
  note (recordsRanked (Ranking.stats sorted))
  let entries := Ranking.limited limit sorted
  if json then pure (Json.prettyText (Ranking.toValue entries) ++ "\n")
  else pure (linesText (Display.rankingTable around.settings.paint entries))

def runScore (around : Surroundings) (record : String) (options : Options) : Action String := do
  let config ← configFor around options
  let record ← orTrouble .decoding (Record.decode record)
  pure ((config.scorer record).written plainLayout ++ "\n")

def runClassify (around : Surroundings) (paths : List String) (options : Options) :
    Action String := do
  let config ← configFor around options
  pure (linesText (paths.map fun path =>
    Display.verdictLine around.settings.paint (config.pattern.recognizes path) path))

def files : Command → List String
  | .rank file options _ _ => options.config.toList ++ file.toList.filter (· ≠ "-")
  | .score _ options => options.config.toList
  | .classify _ options => options.config.toList

def isInputName (path : String) : Bool := path = "/dev/stdin" || path = "/dev/fd/0"

def readsInput (command : Command) : Bool :=
  (files command).any isInputName ||
    match command with
    | .rank file _ _ _ => file.isNone || file = some "-"
    | _ => false

def action (around : Surroundings) : Command → Action String
  | .rank file options limit json => runRank around file options limit json
  | .score record options => runScore around record options
  | .classify paths options => runClassify around paths options

structure Outcome where
  exitCode : UInt8
  output : String
  errors : String
  journal : List String

/-- A line of error output, which ends where the details of a JSON error would begin. -/
def withoutDetails : List Char → List Char
  | [] => []
  | c :: rest =>
      if "JSON error: ".toList.isPrefixOf (c :: rest) then "JSON error".toList
      else c :: withoutDetails rest

def Trouble.lines (paint : Display.Paint) (trouble : Trouble) : List String :=
  (Text.pieces '\n' (Display.errorLabel paint ++ " " ++ trouble.message).toList).map String.ofList

def errorText (lines : List String) : String :=
  linesText (lines.map fun line => String.ofList (withoutDetails line.toList))

def run (around : Surroundings) (command : Command) : Outcome :=
  let (result, progress) := (action around command).run.run ⟨[], around.input⟩
  let told := (progress.events.filter (Filter.ofSetting around.settings.journal).tells).map
    (Event.lines around.settings.stylesJournal)
  let journal := told.map Prod.fst
  let others := told.flatMap Prod.snd
  match result with
  | .ok output => ⟨0, output, errorText others, journal⟩
  | .error trouble =>
      ⟨1, "", errorText (others ++ trouble.lines around.settings.paint), journal⟩

def versionLine : String := "docrank 0.1.0\n"

def usageLine : String := "Usage: docrank <rank|score|classify> [OPTIONS] [WORDS]\n"

def runWords (around : Surroundings) (words : List String) : Outcome :=
  match parse words with
  | .ok command => run around command
  | .error .versionAsked => ⟨0, versionLine, "", []⟩
  | .error .helpAsked => ⟨0, usageLine, "", []⟩
  | .error _ => ⟨2, "", usageLine, []⟩

end SearchRanking.Command
