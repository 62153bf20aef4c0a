import SearchRanking.Failure

namespace SearchRanking.Record

open Json

def decode (text : String) : Except Failure Record := do
  let value ← (readDocument text).mapError .json
  (ofValue value).mapError (.record 0)

/-- Reads a document that is a list of any values. -/
def readValues : Reader Mismatch (List Value) := expectList (readValue (maxDepth - 1))

/-- The records of a list of values, numbered from an index on. -/
def ofValuesFrom (index : Nat) : List Value → Except Failure (List Record)
  | [] => .ok []
  | value :: values => do
      let record ← (ofValue value).mapError (.record index)
      let records ← ofValuesFrom (index + 1) values
      .ok (record :: records)

/-- A list is refused at its first bad record, whose index is told. -/
def decodeList (text : String) : Except Failure (List Record) := do
  let values ← (readWhole readValues text).mapError .json
  ofValuesFrom 0 values

inductive StreamFault where
  | shape (mismatch : Mismatch)
  | content (fault : RecordFault)

def StreamFault.message : StreamFault → String
  | .shape mismatch => mismatch.message
  | .content fault => fault.message

/-- Reads one record and judges it at its closing bracket, before looking at the text behind it. -/
def readStreamed : Reader StreamFault Record := fun text => do
  let (values, rest) ← (readValues text).mapError (Fault.map .shape)
  match ofValues values with
  | .ok record => .ok (record, rest)
  | .error fault => .error (.rejected (.content fault))

def decodeStreamed (text : String) : Except (Fault StreamFault) Record :=
  readWhole readStreamed text

def listValue (records : List Record) : Value := .array (records.map toValue)

end SearchRanking.Record
