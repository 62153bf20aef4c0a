import SearchRanking.Text.Basic
import SearchRanking.Text.GraphemeExtend
import SearchRanking.Text.Unprintable

namespace SearchRanking.Text

/-- The Hangul fillers: letters that take a place and show nothing. -/
def fillerRanges : List (Nat × Nat) := [(0x115f, 0x1160), (0x3164, 0x3164), (0xffa0, 0xffa0)]

/-- The halfwidth sound marks: they extend a grapheme, yet they are seen by themselves. -/
def soundMarkRanges : List (Nat × Nat) := [(0xff9e, 0xff9f)]

/-- Characters that are shown by their code point. -/
def isHidden (c : Char) : Bool :=
  (inRanges graphemeExtendRanges c && !inRanges soundMarkRanges c) ||
    inRanges unprintableRanges c || inRanges fillerRanges c

def quotedChar (c : Char) : List Char :=
  match c with
  | '\x00' => ['\\', '0']
  | '\t' => ['\\', 't']
  | '\r' => ['\\', 'r']
  | '\n' => ['\\', 'n']
  | '"' => ['\\', '"']
  | '\\' => ['\\', '\\']
  | _ =>
      if isHidden c then '\\' :: 'u' :: '\x7b' :: (Nat.toDigits 16 c.toNat ++ ['\x7d']) else [c]

def quoted (text : String) : String :=
  String.ofList ('"' :: (text.toList.flatMap quotedChar ++ ['"']))

end SearchRanking.Text
