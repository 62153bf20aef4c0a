import SearchRanking.Json.Value

/-!
# Readers

A reader takes a value off the front of a text and hands on the rest. It stops at the first
problem: the text ends too early, it breaks the grammar, or a value is not of the wanted type.
`readContainer` reads what stands between brackets, for lists and objects alike.
-/

namespace SearchRanking.Json

inductive Fault (ε : Type) where
  /-- The text ends where more was needed. -/
  | truncated
  /-- The text breaks the grammar. -/
  | malformed
  /-- The text is well formed so far, but says something unwanted. -/
  | rejected (cause : ε)

def Fault.map {ε δ : Type} (f : ε → δ) : Fault ε → Fault δ
  | .truncated => .truncated
  | .malformed => .malformed
  | .rejected cause => .rejected (f cause)

abbrev Reader (ε α : Type) := List Char → Except (Fault ε) (α × List Char)

variable {ε α σ : Type}

def isSpace (c : Char) : Bool := c == ' ' || c == '\t' || c == '\n' || c == '\r'

def skipSpaces (text : List Char) : List Char := text.dropWhile isSpace

/-- The fault of a text that should go on differently: it ends, or it holds something else. -/
def misfit : List Char → Fault ε
  | [] => .truncated
  | _ :: _ => .malformed

def readLiteral : List Char → Reader ε Unit
  | [], text => .ok ((), text)
  | _ :: _, [] => .error .truncated
  | expected :: more, c :: rest =>
      if c = expected then readLiteral more rest else .error .malformed

/-- Reads the pieces after the first one, each after a comma, up to the closing bracket. Every piece
takes at least its comma, so the length of the text bounds their number. -/
def readRest (close : Char) (piece : σ → Reader ε σ) : Nat → σ → Reader ε σ
  | 0, _, _ => .error .truncated
  | fuel + 1, state, text =>
      match skipSpaces text with
      | [] => .error .truncated
      | c :: rest =>
          if c = close then .ok (state, rest)
          else if c = ',' then do
            let (state, rest) ← piece state (skipSpaces rest)
            readRest close piece fuel state rest
          else .error .malformed

/-- Reads what stands between brackets, the opening one already taken: pieces between commas, each
of which changes the state. -/
def readContainer (close : Char) (piece : σ → Reader ε σ) (state : σ) : Reader ε σ := fun text =>
  match skipSpaces text with
  | [] => .error .truncated
  | c :: rest =>
      if c = close then .ok (state, rest)
      else do
        let (state, rest) ← piece state (c :: rest)
        readRest close piece rest.length state rest

def readItem (item : Reader ε α) (items : List α) : Reader ε (List α) := fun text => do
  let (value, rest) ← item text
  .ok (value :: items, rest)

def readItems (item : Reader ε α) : Reader ε (List α) := fun text => do
  let (items, rest) ← readContainer ']' (readItem item) [] text
  .ok (items.reverse, rest)

/-- Reads a whole text: one value with nothing but spaces around it. -/
def readWhole (reader : Reader ε α) (text : String) : Except (Fault ε) α := do
  let (value, rest) ← reader (skipSpaces text.toList)
  if (skipSpaces rest).isEmpty then .ok value else .error .malformed

end SearchRanking.Json
