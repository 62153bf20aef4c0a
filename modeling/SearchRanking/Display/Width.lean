namespace SearchRanking.Display

def escapeChar : Char := '\x1b'

/-- The characters that are shown, from inside or outside an escape sequence on. A sequence runs
from its escape character up to and including the next `m` and shows nothing. -/
def shownFrom : Bool → List Char → List Char
  | _, [] => []
  | inEscape, c :: rest =>
      if c = escapeChar then shownFrom true rest
      else if inEscape then shownFrom (c ≠ 'm') rest
      else c :: shownFrom false rest

def stripped (text : String) : String := String.ofList (shownFrom false text.toList)

def visibleLength (text : String) : Nat := (shownFrom false text.toList).length

def repeated (count : Nat) (c : Char) : String := String.ofList (List.replicate count c)

/-- The text with spaces behind it up to a visible width. -/
def padRight (text : String) (width : Nat) : String :=
  text ++ repeated (width - visibleLength text) ' '

/-- The text with spaces before it up to a number of characters. -/
def padLeft (text : String) (width : Nat) : String :=
  repeated (width - text.toList.length) ' ' ++ text

/-- The end of a text that is too long, behind an ellipsis. -/
def truncatePath (text : String) (width : Nat) : String :=
  let chars := text.toList
  if chars.length ≤ width then text
  else "..." ++ String.ofList (chars.drop (chars.length + 3 - width))

/-- The start of a text that is too long, before an ellipsis. -/
def truncateText (text : String) (width : Nat) : String :=
  let chars := text.toList
  if chars.length ≤ width then text
  else String.ofList (chars.take (width - 3)) ++ "..."

end SearchRanking.Display
