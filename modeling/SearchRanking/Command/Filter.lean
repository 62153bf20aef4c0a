import SearchRanking.Command.Journal
import SearchRanking.Decimal.Literal
import SearchRanking.Expression.Validity

/-!
# Journal filters

A filter chooses the events that are told. It is written as directives between commas; a directive
is a level for all events, or a target and a condition in brackets, either of which may be missing,
with a level behind an equals sign. Of the directives that cover an event the most specific one
decides.
-/

namespace SearchRanking.Command

/-- Tells events below a target, with a field if one is named, up to an amount of detail. -/
structure Directive where
  target : String
  field : Option String
  /-- Whether it speaks of the spans of a run, of which there are none. -/
  ofSpans : Bool
  detail : Nat
  deriving DecidableEq

/-- The amount of detail that a word names, by name or number; none at all is `off`. -/
def detailOf? (word : List Char) : Option Nat :=
  match String.ofList (word.map Char.toLower) with
  | "off" => some 0
  | "error" => some 1
  | "warn" => some 2
  | "info" => some 3
  | "debug" => some 4
  | "trace" => some 5
  | _ => Decimal.boundedOf? 6 word

namespace Directive

def fullDetail : Nat := Level.trace.detail

/-- The detail behind an equals sign; nothing there stands for all of it. -/
def levelOf? (level : List Char) : Option Nat :=
  if level.isEmpty then some fullDetail else detailOf? level

/-- A byte of a directive, beside the one that is taken for it. Each is given by the character that
begins with it, if one does. A directive is looked at without the blanks around it; what it says is
taken, at the places found so, from the text with its blanks. Only blanks in front make a difference
between the two. -/
structure Cell where
  seen : Option Char
  taken : Option Char
  deriving DecidableEq

/-- The bytes of a text, each by the character that begins with it. -/
def bytes (text : List Char) : List (Option Char) :=
  text.flatMap fun c => some c :: List.replicate (c.utf8Size - 1) none

def taken (cells : List Cell) : List Char := cells.filterMap Cell.taken

/-- What may follow a bracket: nothing, or a level. -/
def afterBracket? (cells : List Cell) (trail : List Char) : Option Nat :=
  match cells with
  | [] => some fullDetail
  | cell :: level => if cell.seen = some '=' then levelOf? (taken level ++ trail) else none

/-- Whether a field can have a value: a number, or what a regular expression matches. -/
def isValue (text : List Char) : Bool :=
  (Score.ofText? (String.ofList text)).isSome || Expression.isValid text

/-- A field with its name, and with its value behind an equals sign if it has one. -/
def fieldOf? (text : List Char) : Option (List Char × Option (List Char)) :=
  match Text.pieces '=' text with
  | name :: value :: _ => if isValue value then some (name, some value) else none
  | _ => if text.isEmpty then none else some (text, none)

/-- A condition behind its opening bracket: the name of a span, or a field in braces with or without
one. A field with a value speaks of spans as well. -/
def ofCondition? (target : List Char) (cells : List Cell) (trail : List Char) :
    Option Directive :=
  match cells.span fun cell => cell.seen ≠ some ']' && cell.seen ≠ some '\x7b' with
  | (_, []) => none
  | (span, cell :: rest) =>
      if cell.seen = some ']' then
        (afterBracket? rest trail).map fun detail => ⟨String.ofList target, none, true, detail⟩
      else
        match rest.span (·.seen ≠ some '\x7d') with
        | (field, _ :: close :: rest) => do
            if close.seen ≠ some ']' then none
            let (name, value) ← fieldOf? (taken field)
            let detail ← afterBracket? rest trail
            some ⟨String.ofList target, some (String.ofList name), !span.isEmpty || value.isSome,
              detail⟩
        | _ => none

def startsWord (c : Char) : Bool :=
  c = '-' || c = ':' || c = '_' || Text.inRanges Text.alphabeticRanges c ||
    Text.inRanges Text.numericRanges c

/-- A directive in its cells, with the blanks behind them. A word that is no level is a target told
in full. -/
def ofCells? (cells : List Cell) (trail : List Char) : Option Directive :=
  match cells with
  | [] => none
  | cell :: rest =>
      if cell.seen = some '[' then ofCondition? [] rest trail
      else if !cell.seen.any startsWord then none
      else
        match cells.span fun cell => cell.seen ≠ some '=' && cell.seen ≠ some '[' with
        | (word, []) =>
            match detailOf? (taken word ++ trail) with
            | some detail => some ⟨"", none, false, detail⟩
            | none => some ⟨String.ofList (taken word ++ trail), none, false, fullDetail⟩
        | (target, cell :: rest) =>
            if cell.seen = some '=' then
              (levelOf? (taken rest ++ trail)).map fun detail =>
                ⟨String.ofList (taken target), none, false, detail⟩
            else ofCondition? (taken target) rest trail

def ofText? (text : List Char) : Option Directive :=
  let seen := bytes (Text.trimBlanks text)
  ofCells? (List.zipWith Cell.mk seen (bytes text)) (((bytes text).drop seen.length).filterMap id)

def covers (directive : Directive) (event : Event) : Bool :=
  !directive.ofSpans && directive.target.toList.isPrefixOf event.target.toList &&
    directive.field.all event.fieldNames.contains

def fieldKey (directive : Directive) : List (List Char) :=
  directive.field.toList.map String.toList

/-- Which of two directives is less specific: the one with the shorter target, then the one without
a field, then the one whose field has the earlier name. -/
def compareSpecificity (a b : Directive) : Ordering :=
  (compare a.target.length b.target.length).then (compare a.fieldKey b.fieldKey)

end Directive

abbrev Filter := List Directive

namespace Filter

def ofText? (text : String) : Option Filter :=
  ((Text.pieces ',' text.toList).filter (!·.isEmpty)).mapM Directive.ofText?

/-- The filter of a setting. Without one, or with one that cannot be read, warnings are told. -/
def ofSetting (setting : Option String) : Filter :=
  (setting.bind ofText?).getD [⟨"", none, false, Level.warn.detail⟩]

/-- The directive that decides about an event: the most specific one, the last of equals. -/
def deciding? (filter : Filter) (event : Event) : Option Directive :=
  (filter.filter (·.covers event)).foldl
    (fun best directive =>
      match best with
      | some known => if known.compareSpecificity directive = .gt then best else some directive
      | none => some directive)
    none

def tells (filter : Filter) (event : Event) : Bool :=
  (filter.deciding? event).any fun directive => event.level.detail ≤ directive.detail

end Filter

end SearchRanking.Command
