import SearchRanking.Json.Reader
import SearchRanking.Text.Basic

namespace SearchRanking.Json

variable {ε : Type}

def hexUnit? (a b c d : Char) : Option Nat := do
  let a ← Text.hexDigit? a
  let b ← Text.hexDigit? b
  let c ← Text.hexDigit? c
  let d ← Text.hexDigit? d
  some (((a * 16 + b) * 16 + c) * 16 + d)

def isLeadingSurrogate (unit : Nat) : Bool := 0xd800 ≤ unit && unit ≤ 0xdbff

def isTrailingSurrogate (unit : Nat) : Bool := 0xdc00 ≤ unit && unit ≤ 0xdfff

def pairedChar (leading trailing : Nat) : Char :=
  Char.ofNat (0x10000 + (leading - 0xd800) * 0x400 + (trailing - 0xdc00))

def shortEscape? : Char → Option Char
  | '"' => some '"'
  | '\\' => some '\\'
  | '/' => some '/'
  | 'b' => some '\x08'
  | 'f' => some '\x0c'
  | 'n' => some '\n'
  | 'r' => some '\r'
  | 't' => some '\t'
  | _ => none

/-- The fault where four hexadecimal digits are missing: the text ends when it has fewer than four
bytes left. -/
def hexMisfit (text : List Char) : Fault ε :=
  if (String.ofList text).utf8ByteSize < 4 then .truncated else .malformed

/-- Puts a character before the text that is read next. -/
def consText (c : Char) (read : Except (Fault ε) (List Char × List Char)) :
    Except (Fault ε) (List Char × List Char) :=
  read.map fun (text, rest) => (c :: text, rest)

/-- Reads the characters of a string and its closing quote, the opening one already taken. -/
def readChars : Reader ε (List Char)
  | [] => .error .truncated
  | c :: rest =>
      if c = '"' then .ok ([], rest)
      else if c = '\\' then
        match rest with
        | [] => .error .truncated
        | 'u' :: a :: b :: c :: d :: rest =>
            match hexUnit? a b c d with
            | none => .error .malformed
            | some unit =>
                if isTrailingSurrogate unit then .error .malformed
                else if isLeadingSurrogate unit then
                  match rest with
                  | '\\' :: 'u' :: a :: b :: c :: d :: rest =>
                      match hexUnit? a b c d with
                      | none => .error .malformed
                      | some trailing =>
                          if isTrailingSurrogate trailing then
                            consText (pairedChar unit trailing) (readChars rest)
                          else .error .malformed
                  | '\\' :: 'u' :: rest => .error (hexMisfit rest)
                  | ['\\'] => .error .truncated
                  | rest => .error (misfit rest)
                else consText (Char.ofNat unit) (readChars rest)
        | 'u' :: rest => .error (hexMisfit rest)
        | letter :: rest =>
            match shortEscape? letter with
            | none => .error .malformed
            | some c => consText c (readChars rest)
      else if c.toNat < 0x20 then .error .malformed
      else consText c (readChars rest)

def readText : Reader ε String := fun text =>
  (readChars text).map fun (chars, rest) => (String.ofList chars, rest)

/-- The characters that stand for one character between quotes. -/
def escapedChar (c : Char) : List Char :=
  match c with
  | '"' => ['\\', '"']
  | '\\' => ['\\', '\\']
  | '\x08' => ['\\', 'b']
  | '\x0c' => ['\\', 'f']
  | '\n' => ['\\', 'n']
  | '\r' => ['\\', 'r']
  | '\t' => ['\\', 't']
  | _ =>
      if c.toNat < 0x20 then
        ['\\', 'u', '0', '0', Nat.digitChar (c.toNat / 16), Nat.digitChar (c.toNat % 16)]
      else [c]

def writtenText (text : String) : List Char :=
  '"' :: (text.toList.flatMap escapedChar ++ ['"'])

end SearchRanking.Json
