import SearchRanking.Json.Value
import SearchRanking.Text.Basic
import SearchRanking.Decimal.Literal

namespace SearchRanking

/-- One candidate page with the score that the search engine gave it. -/
structure Record where
  docName : String
  title : String
  anchor : String
  description : String
  score : Score
  filename : Option String
  deriving DecidableEq

inductive RecordFault where
  | notAnArray (found : Json.Value)
  | wrongArity (count : Nat)
  | scoreNotRepresentable (number : Json.Number)
  | scoreNotFinite (text : String)
  | scoreNotNumeric (text : String)
  | scoreNotANumber (found : Json.Value)

def RecordFault.message : RecordFault → String
  | .notAnArray found => "expected an array, got " ++ found.kind
  | .wrongArity count => "expected 6 fields, got " ++ count.repr
  | .scoreNotRepresentable number => "score " ++ number.text ++ " is not representable as f64"
  | .scoreNotFinite text => "score " ++ Text.quoted text ++ " is not a finite number"
  | .scoreNotNumeric text => "score " ++ Text.quoted text ++ " is not numeric"
  | .scoreNotANumber found => "score must be a number, got " ++ found.kind

namespace Record

/-- The score slot holds a number, or the text of a finite one with blanks around it. -/
def scoreOf : Json.Value → Except RecordFault Score
  | .number number =>
      match number.toScore? with
      | some score => .ok score
      | none => .error (.scoreNotRepresentable number)
  | .string text =>
      match Score.ofText? (Text.trim text) with
      | some score => if score.isFinite then .ok score else .error (.scoreNotFinite text)
      | none => .error (.scoreNotNumeric text)
  | value => .error (.scoreNotANumber value)

/-- A text slot; anything but a string counts as empty. -/
def textOf (value : Json.Value) : String := value.string?.getD ""

/-- Text that is missing reads as empty and a filename that is missing as none; only the number of
fields and the score are strict. -/
def ofValues : List Json.Value → Except RecordFault Record
  | [docName, title, anchor, description, score, filename] => do
      let score ← scoreOf score
      .ok {
        docName := textOf docName
        title := textOf title
        anchor := textOf anchor
        description := textOf description
        score := score
        filename := filename.string? }
  | values => .error (.wrongArity values.length)

def ofValue : Json.Value → Except RecordFault Record
  | .array values => ofValues values
  | value => .error (.notAnArray value)

def filenameValue (record : Record) : Json.Value :=
  match record.filename with
  | some name => .string name
  | none => .null

def toValue (record : Record) : Json.Value :=
  .array [
    .string record.docName, .string record.title, .string record.anchor,
    .string record.description, .ofScore record.score, record.filenameValue]

end Record

end SearchRanking
