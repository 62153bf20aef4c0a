import SearchRanking.Json.Document

namespace SearchRanking.Json

inductive Shape where
  | number
  | string
  | list
  | fields (name : String)
  deriving DecidableEq

def Shape.text : Shape → String
  | .number => "f64"
  | .string => "a string"
  | .list => "a sequence"
  | .fields name => "struct " ++ name

/-- A place in a text: its line, counted from one, and the bytes before it in that line. -/
structure Place where
  line : Nat
  column : Nat
  deriving DecidableEq

def Place.ofRest (whole rest : List Char) : Place :=
  let before := whole.take (whole.length - rest.length)
  let inLine := before.reverse.takeWhile (· ≠ '\n')
  ⟨before.count '\n' + 1, inLine.foldl (fun bytes c => bytes + c.utf8Size) 0⟩

def Place.text (place : Place) : String :=
  "line " ++ place.line.repr ++ " column " ++ place.column.repr

inductive Mismatch where
  | wrongType (found : Value) (wanted : Shape)
  | unknownField (name : String) (known : List String) (place : Place)
  | duplicateField (name : String)

def Mismatch.message : Mismatch → String
  | .wrongType found wanted =>
      "invalid type: " ++ found.description ++ ", expected " ++ wanted.text
  | .unknownField name known _ =>
      "unknown field `" ++ name ++ "`, expected one of " ++
        String.intercalate ", " (known.map fun name => "`" ++ name ++ "`")
  | .duplicateField name => "duplicate field `" ++ name ++ "`"

/-- The message with the place of the mismatch, where it is known. -/
def Mismatch.placed (mismatch : Mismatch) : String :=
  match mismatch with
  | .unknownField _ _ place => mismatch.message ++ " at " ++ place.text
  | _ => mismatch.message

/-- Rejects the value at the front of a text. A container counts as empty: its type is settled by
its bracket. -/
def rejectNode {α : Type} (wanted : Shape) : Reader Mismatch α := fun text => do
  let (found, _) ← readNode (fun rest => .ok ([], rest)) (fun rest => .ok ([], rest)) text
  .error (.rejected (.wrongType found wanted))

def expectNumber : Reader Mismatch Score := fun text =>
  match text with
  | c :: _ =>
      if c == '-' || c.isDigit then
        (readNumber text).map fun (number, rest) => (number.toScore, rest)
      else rejectNode .number text
  | [] => .error .truncated

def expectString : Reader Mismatch String
  | '"' :: rest => readText rest
  | text => rejectNode .string text

def expectList {α : Type} (item : Reader Mismatch α) : Reader Mismatch (List α)
  | '[' :: rest => readItems item rest
  | text => rejectNode .list text

end SearchRanking.Json
