import SearchRanking.Decimal.Literal

/-!
# Arguments

The words of a command line and the command that they spell. Options take a value behind an equals
sign, in the same word, or in the next word; they mix freely with the other words of a command. A
value in a word of its own is judged only when the next piece is known, so an unknown word behind a
bad value is the fault that is told.
-/

namespace SearchRanking.Command

structure Options where
  config : Option String
  penalty : Option Score
  deriving DecidableEq

end SearchRanking.Command

namespace SearchRanking

inductive Command where
  | rank (file : Option String) (options : Command.Options) (limit : Option Nat) (json : Bool)
  | score (record : String) (options : Command.Options)
  | classify (paths : List String) (options : Command.Options)
  deriving DecidableEq

namespace Command

inductive UsageFault where
  | noCommand
  | helpAsked
  | versionAsked
  | unknownCommand
  | unknownArgument
  | missingValue
  | badValue
  | repeated
  | unneededValue
  | missingArgument
  deriving DecidableEq

inductive Verb where
  | rank
  | score
  | classify
  deriving DecidableEq

def Verb.ofName? : String → Option Verb
  | "rank" => some .rank
  | "score" => some .score
  | "classify" => some .classify
  | _ => none

inductive Key where
  | config
  | penalty
  | limit
  deriving DecidableEq

/-- What a name behind hyphens asks for. -/
inductive Switch where
  | key (key : Key)
  | json
  | help
  deriving DecidableEq

def Verb.longSwitch? (verb : Verb) (name : List Char) : Option Switch :=
  match String.ofList name with
  | "config" => some (.key .config)
  | "penalty" => some (.key .penalty)
  | "help" => some .help
  | "limit" => if verb = .rank then some (.key .limit) else none
  | "json" => if verb = .rank then some .json else none
  | _ => none

def Verb.shortSwitch? (verb : Verb) : Char → Option Switch
  | 'c' => some (.key .config)
  | 'h' => some .help
  | 'l' => if verb = .rank then some (.key .limit) else none
  | _ => none

inductive Word where
  /-- Two hyphens: all words behind it are plain. -/
  | stop
  | long (name : List Char) (value : Option String)
  | short (letter : Char) (rest : List Char)
  | plain
  deriving DecidableEq

def Word.of (word : String) : Word :=
  match word.toList with
  | ['-', '-'] => .stop
  | '-' :: '-' :: body =>
      match body.span (· ≠ '=') with
      | (name, []) => .long name none
      | (name, _ :: value) => .long name (some (String.ofList value))
  | '-' :: letter :: rest => .short letter rest
  | _ => .plain

def limitOf? (text : String) : Option Nat :=
  Decimal.boundedOf? 0x10000000000000000 text.toList

structure Draft where
  plain : List String
  config : Option String
  penalty : Option Score
  limit : Option Nat
  json : Bool
  /-- An option whose value is missing so far, or not judged yet. -/
  pending : Option (Key × Option String)
  plainOnly : Bool
  deriving DecidableEq

namespace Draft

def empty : Draft where
  plain := []
  config := none
  penalty := none
  limit := none
  json := false
  pending := none
  plainOnly := false

def has (draft : Draft) : Key → Bool
  | .config => draft.config.isSome
  | .penalty => draft.penalty.isSome
  | .limit => draft.limit.isSome

/-- Takes the value of an option, which may be given once. -/
def store (draft : Draft) (key : Key) (value : String) : Except UsageFault Draft :=
  if draft.has key then .error .repeated
  else
    match key with
    | .config => .ok { draft with config := some value }
    | .penalty =>
        match Score.ofText? value with
        | some penalty => .ok { draft with penalty := some penalty }
        | none => .error .badValue
    | .limit =>
        match limitOf? value with
        | some limit => .ok { draft with limit := some limit }
        | none => .error .badValue

def settle (draft : Draft) : Except UsageFault Draft :=
  match draft.pending with
  | none => .ok draft
  | some (_, none) => .error .missingValue
  | some (key, some value) => { draft with pending := none }.store key value

/-- Takes an option with the value in the same word, or waits for the next word. -/
def takeKey (draft : Draft) (key : Key) (value : Option String) : Except UsageFault Draft := do
  let draft ← draft.settle
  match value with
  | some value => draft.store key value
  | none => .ok { draft with pending := some (key, none) }

def takeJson (draft : Draft) : Except UsageFault Draft := do
  let draft ← draft.settle
  if draft.json then .error .repeated else .ok { draft with json := true }

def takeHelp (draft : Draft) : Except UsageFault Draft := do
  let _ ← draft.settle
  .error .helpAsked

/-- Takes a plain word; only `classify` has room for more than one. -/
def takePlain (draft : Draft) (verb : Verb) (word : String) : Except UsageFault Draft :=
  if verb ≠ .classify && !draft.plain.isEmpty then .error .unknownArgument
  else do
    let draft ← draft.settle
    .ok { draft with plain := draft.plain ++ [word] }

def takeLong (draft : Draft) (verb : Verb) (name : List Char) (value : Option String) :
    Except UsageFault Draft :=
  match verb.longSwitch? name with
  | none => .error .unknownArgument
  | some (.key key) => draft.takeKey key value
  | some .json => if value.isSome then .error .unneededValue else draft.takeJson
  | some .help => if value.isSome then .error .unneededValue else draft.takeHelp

def takeShort (draft : Draft) (verb : Verb) (letter : Char) (rest : List Char) :
    Except UsageFault Draft :=
  match verb.shortSwitch? letter with
  | none => .error .unknownArgument
  | some (.key key) =>
      match rest with
      | [] => draft.takeKey key none
      | '=' :: value => draft.takeKey key (some (String.ofList value))
      | value => draft.takeKey key (some (String.ofList value))
  | some .json => draft.takeJson
  | some .help => draft.takeHelp

/-- Takes one word. The penalty is the only option whose value may begin with a hyphen. -/
def take (draft : Draft) (verb : Verb) (word : String) : Except UsageFault Draft :=
  if draft.plainOnly then draft.takePlain verb word
  else if draft.pending = some (.penalty, none) then
    .ok { draft with pending := some (.penalty, some word) }
  else
    match Word.of word with
    | .stop => .ok { draft with plainOnly := true }
    | .long name value => draft.takeLong verb name value
    | .short letter rest => draft.takeShort verb letter rest
    | .plain =>
        match draft.pending with
        | some (key, none) => .ok { draft with pending := some (key, some word) }
        | _ => draft.takePlain verb word

def options (draft : Draft) : Options where
  config := draft.config
  penalty := draft.penalty

def finish (draft : Draft) (verb : Verb) : Except UsageFault Command := do
  let draft ← draft.settle
  match verb, draft.plain with
  | .rank, plain => .ok (.rank plain.head? draft.options draft.limit draft.json)
  | .score, record :: _ => .ok (.score record draft.options)
  | .classify, path :: paths => .ok (.classify (path :: paths) draft.options)
  | _, [] => .error .missingArgument

end Draft

def ofVerb (verb : Verb) (words : List String) : Except UsageFault Command := do
  let draft ← words.foldlM (fun draft word => draft.take verb word) Draft.empty
  draft.finish verb

def isCommandName (word : String) : Bool := word = "help" || (Verb.ofName? word).isSome

def helpFault : List String → UsageFault
  | [] => .helpAsked
  | [name] => if isCommandName name then .helpAsked else .unknownCommand
  | _ => .unknownCommand

def parse : List String → Except UsageFault Command
  | [] => .error .noCommand
  | word :: words =>
      match Word.of word with
      | .stop =>
          match words with
          | [] => .error .noCommand
          | next :: _ =>
              .error (if isCommandName next then .unknownArgument else .unknownCommand)
      | .long name value =>
          match String.ofList name with
          | "help" => .error (if value.isSome then .unneededValue else .helpAsked)
          | "version" => .error (if value.isSome then .unneededValue else .versionAsked)
          | _ => .error .unknownArgument
      | .short 'h' _ => .error .helpAsked
      | .short 'V' _ => .error .versionAsked
      | .short _ _ => .error .unknownArgument
      | .plain =>
          if word = "help" then .error (helpFault words)
          else
            match Verb.ofName? word with
            | some verb => ofVerb verb words
            | none => .error .unknownCommand

end Command

end SearchRanking
