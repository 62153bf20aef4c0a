import SearchRanking.Expression.Bracket
import SearchRanking.Text.Alphabetic
import SearchRanking.Text.Numeric

namespace SearchRanking.Expression

/-- What stands in a branch: a change of modes, or a part with its depth. -/
inductive Part where
  | modes
  | node (depth : Nat)
  deriving DecidableEq

def Part.depth : Part → Nat
  | .modes => 0
  | .node depth => depth

/-- A group that is still open: the modes around it, the depths of its finished branches and the
parts of the last one, last first. -/
structure Group where
  outer : Modes
  branches : List Nat
  parts : List Part
  deriving DecidableEq

def Group.depth (group : Group) : Nat :=
  depthOf (depthOf (group.parts.map Part.depth) :: group.branches)

structure Progress where
  modes : Modes
  names : List (List Char)
  group : Group
  enclosing : List Group
  deriving DecidableEq

namespace Progress

def start : Progress := ⟨Modes.standard, [], ⟨Modes.standard, [], []⟩, []⟩

def add (progress : Progress) (part : Part) : Progress :=
  { progress with group := { progress.group with parts := part :: progress.group.parts } }

def branch (progress : Progress) : Progress :=
  let group := progress.group
  let finished := depthOf (group.parts.map Part.depth)
  { progress with group := ⟨group.outer, finished :: group.branches, []⟩ }

/-- Repeats the last part; there has to be one that is no change of modes. -/
def repeated? (progress : Progress) : Option Progress :=
  match progress.group.parts with
  | .node depth :: parts =>
      some { progress with group := { progress.group with parts := .node (depth + 1) :: parts } }
  | _ => none

def opened (progress : Progress) (modes : Modes) : Progress :=
  { progress with
    modes := modes
    group := ⟨progress.modes, [], []⟩
    enclosing := progress.group :: progress.enclosing }

def closed? (progress : Progress) : Option Progress :=
  match progress.enclosing with
  | [] => none
  | group :: enclosing =>
      some (({ progress with
        modes := progress.group.outer
        group := group
        enclosing := enclosing } : Progress).add (.node (progress.group.depth + 1)))

end Progress

def isNameStart (c : Char) : Bool := c = '_' || Text.inRanges Text.alphabeticRanges c

def isNamePart (c : Char) : Bool :=
  isNameStart c || Text.inRanges Text.numericRanges c || c = '.' || c = '[' || c = ']'

def isName : List Char → Bool
  | [] => false
  | c :: rest => isNameStart c && rest.all isNamePart

def distinct : List Char → Bool
  | [] => true
  | c :: rest => !rest.contains c && distinct rest

/-- Whether letters can change the modes: each at most once, with one minus sign that is not the
last. -/
def isModeChange (letters : List Char) : Bool :=
  letters.all ("imsUuRx-".toList.contains ·) && distinct letters && letters.getLast? ≠ some '-'

/-- Opens a named group. A name is given only once. -/
def readNamed (progress : Progress) (text : List Char) : Option (Progress × List Char) :=
  match text.span (· ≠ '>') with
  | (name, '>' :: rest) =>
      if isName name && !progress.names.contains name then
        some (({ progress with names := name :: progress.names } : Progress).opened progress.modes,
          rest)
      else none
  | _ => none

/-- Reads a change of modes, for a group of its own or for the rest of the group that is open. -/
def readModes (progress : Progress) (text : List Char) : Option (Progress × List Char) :=
  match text.span fun c => c ≠ ':' && c ≠ ')' with
  | (letters, close :: rest) =>
      let modes := progress.modes.switched true letters
      if !isModeChange letters then none
      else if close = ':' then some (progress.opened modes, rest)
      else if letters.isEmpty then none
      else some (({ progress with modes := modes } : Progress).add .modes, rest)
  | _ => none

def readOpening (progress : Progress) (text : List Char) : Option (Progress × List Char) :=
  match progress.modes.skip text with
  | '?' :: 'P' :: '<' :: rest => readNamed progress rest
  | '?' :: '<' :: rest => readNamed progress rest
  | '?' :: rest => readModes progress rest
  | rest => some (progress.opened progress.modes, rest)

def readPrimitive (modes : Modes) : List Char → Option (Primitive × List Char)
  | [] => none
  | '\\' :: rest => readEscape modes rest
  | '.' :: rest => some (.anyChar, rest)
  | '^' :: rest => some (.edge, rest)
  | '$' :: rest => some (.edge, rest)
  | c :: rest => some (.char c.toNat false, rest)

/-- Takes off the question mark that makes a repetition prefer few rounds. -/
def dropLazy : List Char → List Char
  | '?' :: rest => rest
  | rest => rest

/-- Reads an expression to its end and gives its depth. It stands in braces and holds no closing
one, so nothing in it is written between braces. Every step takes a character, so the length of the
text bounds their number. -/
def readDepth : Nat → Progress → List Char → Option Nat
  | 0, _, _ => none
  | fuel + 1, progress, text =>
      match progress.modes.skip text with
      | [] => if progress.enclosing.isEmpty then some progress.group.depth else none
      | '(' :: rest => do
          let (progress, rest) ← readOpening progress rest
          readDepth fuel progress rest
      | ')' :: rest => do
          let progress ← progress.closed?
          readDepth fuel progress rest
      | '|' :: rest => readDepth fuel progress.branch rest
      | '[' :: rest => do
          let (depth, rest) ← readClass progress.modes rest
          readDepth fuel (progress.add (.node depth)) rest
      | '\x7b' :: _ => none
      | c :: rest =>
          if c = '?' || c = '*' || c = '+' then do
            let progress ← progress.repeated?
            readDepth fuel progress (dropLazy rest)
          else do
            let (primitive, rest) ← readPrimitive progress.modes (c :: rest)
            if primitive.allowed progress.modes then readDepth fuel (progress.add (.node 0)) rest
            else none

def maxDepth : Nat := 250

def isValid (text : List Char) : Bool :=
  (readDepth (text.length + 1) Progress.start text).any (· ≤ maxDepth)

end SearchRanking.Expression
