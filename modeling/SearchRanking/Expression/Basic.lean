import SearchRanking.Text.Basic

/-!
# Modes and single characters

A regular expression is written in modes that it may change as it goes on. The modes decide which of
its simplest parts may be used. Tables of Unicode properties are not at hand: in Unicode mode letter
case and the classes `\d`, `\s` and `\w` cannot be told, nor can the edge of a word. Outside Unicode
mode nothing may match a part of a character, so what is not ASCII cannot be matched.
-/

namespace SearchRanking.Expression

structure Modes where
  unicode : Bool
  caseless : Bool
  verbose : Bool
  deriving DecidableEq

namespace Modes

def standard : Modes := ⟨true, false, false⟩

/-- Leaves out blanks and comments, from inside a comment or not. A comment runs from `#` to the end
of its line. -/
def dropVerbose : Bool → List Char → List Char
  | _, [] => []
  | true, c :: rest => dropVerbose (c ≠ '\n') rest
  | false, c :: rest =>
      if Text.isBlank c then dropVerbose false rest
      else if c = '#' then dropVerbose true rest
      else c :: rest

/-- The text from its next meaningful character on. -/
def skip (modes : Modes) (text : List Char) : List Char :=
  if modes.verbose then dropVerbose false text else text

/-- The next character that is not blank. A comment sign is passed over, but not its comment. -/
def peek? (modes : Modes) (text : List Char) : Option Char :=
  if !modes.verbose then text.head?
  else
    match text.dropWhile Text.isBlank with
    | '#' :: rest => (rest.dropWhile Text.isBlank).head?.or text.head?
    | rest => rest.head?.or text.head?

/-- The modes after letters that switch them on, and off behind a minus sign. -/
def switched (modes : Modes) (on : Bool) : List Char → Modes
  | [] => modes
  | '-' :: rest => modes.switched false rest
  | 'i' :: rest => { modes with caseless := on }.switched on rest
  | 'u' :: rest => { modes with unicode := on }.switched on rest
  | 'x' :: rest => { modes with verbose := on }.switched on rest
  | _ :: rest => modes.switched on rest

end Modes

inductive Primitive where
  /-- A character by its code point, which may be written as a byte. -/
  | char (code : Nat) (byte : Bool)
  /-- One of the classes `\d`, `\s` and `\w` or a negation of one. -/
  | shorthand (negated : Bool)
  | anyChar
  | edge
  | wordEdge
  deriving DecidableEq

namespace Primitive

def allowed (modes : Modes) : Primitive → Bool
  | .char code byte => if modes.unicode then !modes.caseless else !byte || code < 128
  | .shorthand negated => !modes.unicode && !negated
  | .anyChar => modes.unicode
  | .edge => true
  | .wordEdge => !modes.unicode

/-- Between brackets only characters and classes of characters may stand. -/
def allowedInClass (modes : Modes) : Primitive → Bool
  | .char code _ => if modes.unicode then !modes.caseless else code < 128
  | .shorthand negated => !modes.unicode && !negated
  | _ => false

end Primitive

def readHexDigits (modes : Modes) : Nat → Nat → List Char → Option (Nat × List Char)
  | 0, value, text => some (value, text)
  | count + 1, value, text =>
      match modes.skip text with
      | [] => none
      | c :: rest => do
          let digit ← Text.hexDigit? c
          readHexDigits modes count (value * 16 + digit) rest

def readCode (modes : Modes) (digits : Nat) (text : List Char) :
    Option (Primitive × List Char) := do
  let (code, rest) ← readHexDigits modes digits 0 text
  if code < 0xd800 || (0xdfff < code && code < 0x110000) then some (.char code (digits == 2), rest)
  else none

/-- Whether a backslash makes a character stand for itself. -/
def isEscapable (c : Char) : Bool := c.toNat < 128 && !c.isAlphanum && c ≠ '<' && c ≠ '>'

def readEscape (modes : Modes) : List Char → Option (Primitive × List Char)
  | [] => none
  | c :: rest =>
      match c with
      | 'x' => readCode modes 2 rest
      | 'u' => readCode modes 4 rest
      | 'U' => readCode modes 8 rest
      | 'a' => some (.char 0x07 false, rest)
      | 't' => some (.char 0x09 false, rest)
      | 'n' => some (.char 0x0a false, rest)
      | 'v' => some (.char 0x0b false, rest)
      | 'f' => some (.char 0x0c false, rest)
      | 'r' => some (.char 0x0d false, rest)
      | 'A' | 'z' => some (.edge, rest)
      | 'b' | 'B' | '<' | '>' => some (.wordEdge, rest)
      | 'd' | 's' | 'w' => some (.shorthand false, rest)
      | 'D' | 'S' | 'W' => some (.shorthand true, rest)
      | _ => if isEscapable c then some (.char c.toNat false, rest) else none

/-- Several parts side by side are nested one level deeper than the deepest of them. -/
def depthOf : List Nat → Nat
  | [] => 0
  | [depth] => depth
  | depths => depths.foldl Nat.max 0 + 1

end SearchRanking.Expression
