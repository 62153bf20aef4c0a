import SearchRanking.Failure

/-!
# Reading configurations

A configuration is an object with the optional fields `penalty`, `root` and `leaf`, each at most
once and no other, or a list of up to three of these values in that order. What is missing is
standard.
-/

namespace SearchRanking

open Json

namespace Config

inductive Field where
  | penalty
  | root
  | leaf
  deriving DecidableEq

def Field.all : List Field := [.penalty, .root, .leaf]

def Field.name : Field → String
  | .penalty => "penalty"
  | .root => "root"
  | .leaf => "leaf"

def Field.ofName? (name : String) : Option Field := Field.all.find? (·.name == name)

structure Draft where
  penalty : Option Score
  root : Option (List String)
  leaf : Option String
  deriving DecidableEq

namespace Draft

def empty : Draft := ⟨none, none, none⟩

def has (draft : Draft) : Field → Bool
  | .penalty => draft.penalty.isSome
  | .root => draft.root.isSome
  | .leaf => draft.leaf.isSome

def complete (draft : Draft) : Config where
  penalty := draft.penalty.getD standard.penalty
  root := draft.root.getD standard.root
  leaf := draft.leaf.getD standard.leaf

end Draft

def readField (draft : Draft) : Field → Reader Mismatch Draft
  | .penalty, text => do
      let (penalty, rest) ← expectNumber text
      .ok ({ draft with penalty := some penalty }, rest)
  | .root, text => do
      let (root, rest) ← expectList expectString text
      .ok ({ draft with root := some root }, rest)
  | .leaf, text => do
      let (leaf, rest) ← expectString text
      .ok ({ draft with leaf := some leaf }, rest)

/-- The place of an unknown name in a whole text, given what stands behind the name: behind the
spaces that follow and behind the end of the object, if that is next. -/
def placeBehind (whole rest : List Char) : Place :=
  match skipSpaces rest with
  | '\x7d' :: rest => Place.ofRest whole rest
  | rest => Place.ofRest whole rest

/-- Reads a member of the object form. Its name is judged before its colon is looked for. -/
def readNamed (whole : List Char) (draft : Draft) : Reader Mismatch Draft := fun text => do
  let (name, rest) ← readName text
  match Field.ofName? name with
  | none =>
      .error (.rejected
        (.unknownField name (Field.all.map Field.name) (placeBehind whole rest)))
  | some field =>
      if draft.has field then .error (.rejected (.duplicateField name))
      else
        let (_, rest) ← readColon rest
        readField draft field rest

/-- Reads the next value of the list form; there is none after the last field. -/
def readNext (draft : Draft) : Reader Mismatch Draft := fun text =>
  match Field.all.find? fun field => !draft.has field with
  | some field => readField draft field text
  | none => .error .malformed

def readDraft (whole : List Char) : Reader Mismatch Draft
  | '\x7b' :: rest => readContainer '\x7d' (readNamed whole) Draft.empty rest
  | '[' :: rest => readContainer ']' readNext Draft.empty rest
  | text => rejectNode (.fields "ScoringConfig") text

def ofText (text : String) : Except Failure Config := do
  let draft ← (readWhole (readDraft text.toList) text).mapError .json
  draft.complete.validated.mapError .config

end Config

def textOf (bytes : ByteArray) : Except FileFault String :=
  match String.fromUTF8? bytes with
  | some text => .ok text
  | none => .error .notText

@[simp]
theorem textOf_toUTF8 (text : String) : textOf text.toUTF8 = .ok text := by
  have hvalid : String.fromUTF8? text.toUTF8 = some text := dif_pos text.isValidUTF8
  rw [textOf, hvalid]

def Config.ofBytes (bytes : ByteArray) : Except Failure Config := do
  let text ← (textOf bytes).mapError .file
  Config.ofText text

end SearchRanking
