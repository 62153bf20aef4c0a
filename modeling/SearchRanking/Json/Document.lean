import SearchRanking.Json.Number
import SearchRanking.Json.Text

namespace SearchRanking.Json

variable {ε α : Type}

/-- Reads one value that is not blank at its start. What stands behind an opening bracket is read by
the readers that are given for lists and objects. -/
def readNode (items : Reader ε (List Value)) (members : Reader ε (List (String × Value))) :
    Reader ε Value := fun text =>
  match text with
  | [] => .error .truncated
  | 'n' :: rest => (readLiteral ['u', 'l', 'l'] rest).map fun (_, rest) => (.null, rest)
  | 't' :: rest => (readLiteral ['r', 'u', 'e'] rest).map fun (_, rest) => (.bool true, rest)
  | 'f' :: rest => (readLiteral ['a', 'l', 's', 'e'] rest).map fun (_, rest) => (.bool false, rest)
  | '"' :: rest => (readText rest).map fun (text, rest) => (.string text, rest)
  | '[' :: rest => (items rest).map fun (items, rest) => (.array items, rest)
  | '\x7b' :: rest => (members rest).map fun (members, rest) => (.object members, rest)
  | c :: _ =>
      if c == '-' || c.isDigit then
        (readNumber text).map fun (number, rest) => (.number number, rest)
      else .error .malformed

def readName : Reader ε String
  | '"' :: rest => readText rest
  | text => .error (misfit text)

def readColon : Reader ε Unit := fun text =>
  match skipSpaces text with
  | ':' :: rest => .ok ((), skipSpaces rest)
  | rest => .error (misfit rest)

def readMember (item : Reader ε α) (members : List (String × α)) : Reader ε (List (String × α)) :=
  fun text => do
    let (name, rest) ← readName text
    let (_, rest) ← readColon rest
    let (value, rest) ← item rest
    .ok ((name, value) :: members, rest)

def readMembers (item : Reader ε α) : Reader ε (List (String × α)) := fun text => do
  let (members, rest) ← readContainer '\x7d' (readMember item) [] text
  .ok (members.reverse, rest)

/-- Reads a value whose containers are nested at most `depth` deep. -/
def readValue : Nat → Reader ε Value
  | 0 => readNode (fun _ => .error .malformed) (fun _ => .error .malformed)
  | depth + 1 => readNode (readItems (readValue depth)) (readMembers (readValue depth))

def maxDepth : Nat := 127

def readDocument (text : String) : Except (Fault ε) Value := readWhole (readValue maxDepth) text

end SearchRanking.Json
