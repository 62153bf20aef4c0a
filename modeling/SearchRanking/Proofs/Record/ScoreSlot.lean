import SearchRanking.Proofs.Record.Decoders
import SearchRanking.Proofs.Score.Literal
import SearchRanking.Proofs.Text.Blank

/-!
# What a score slot takes

The score of a record may be given as text. Between the blanks at its ends there is a numeral that
rounds to a finite score, or one that is too great, or the name of a value without digits, or
something else; these cases exclude each other, and each has an answer of its own. No other slot of
the record has a say in it. Numbers are always taken, so the fault that is kept for numbers without
a score is never told.
-/

namespace SearchRanking.Record

open Json Score Decimal

/-- The five slots around the score of a record, with any values in them. -/
structure Frame where
  docName : Value
  title : Value
  anchor : Value
  description : Value
  filename : Value

namespace Frame

def values (frame : Frame) (slot : Value) : List Value :=
  [frame.docName, frame.title, frame.anchor, frame.description, slot, frame.filename]

def record (frame : Frame) (score : Score) : Record where
  docName := textOf frame.docName
  title := textOf frame.title
  anchor := textOf frame.anchor
  description := textOf frame.description
  score := score
  filename := frame.filename.string?

@[simp]
theorem ofValues_values (frame : Frame) (slot : Value) :
    ofValues (frame.values slot) = (scoreOf slot).map frame.record := by
  rw [values, ofValues]
  cases scoreOf slot <;> rfl

/-- Whether the slot is taken, and for what reason it is not, is the same in every frame. -/
@[simp]
theorem map_score_ofValues (frame : Frame) (slot : Value) :
    (ofValues (frame.values slot)).map Record.score = scoreOf slot := by
  rw [frame.ofValues_values]
  cases scoreOf slot <;> rfl

end Frame

/-! ### Texts in the score slot -/

/-- A numeral that is correctly rounded to the score, which is finite. -/
def Denotes (body : List Char) (score : Score) : Prop :=
  score.isFinite = true ∧
    ∃ decimal, SignedNumeral body score.negative decimal ∧ CorrectlyRounded decimal score.magnitude

/-- A numeral that is correctly rounded to the infinity or beyond. -/
def Overflows (body : List Char) : Prop :=
  ∃ negative decimal magnitude, SignedNumeral body negative decimal ∧
    CorrectlyRounded decimal magnitude ∧ infinityMagnitude ≤ magnitude

def IsNumeral (body : List Char) : Prop := ∃ negative decimal, SignedNumeral body negative decimal

section Texts

variable {text : String} {body : List Char} {score : Score}

theorem body_cases (body : List Char) :
    (∃ score, Denotes body score) ∨ Overflows body ∨ SignedName body ∨
      ¬IsNumeral body ∧ ¬SignedName body := by
  by_cases hnumeral : IsNumeral body
  · obtain ⟨negative, decimal, hnumeral⟩ := hnumeral
    obtain ⟨magnitude, hrounded⟩ := exists_correctlyRounded decimal
    rcases Nat.lt_or_ge magnitude infinityMagnitude with hfinite | hbeyond
    · refine .inl ⟨⟨negative, magnitude, hfinite.trans infinityMagnitude_lt⟩, ?_⟩
      exact ⟨decide_eq_true hfinite, decimal, hnumeral, hrounded⟩
    · exact .inr (.inl ⟨negative, decimal, magnitude, hnumeral, hrounded, hbeyond⟩)
  · by_cases hname : SignedName body
    · exact .inr (.inr (.inl hname))
    · exact .inr (.inr (.inr ⟨hnumeral, hname⟩))

theorem toList_trim (htrims : Text.Trims text.toList body) : (Text.trim text).toList = body := by
  rw [Text.trim, String.toList_ofList, htrims.trimBlanks_eq]

theorem scoreOf_of_denotes (htrims : Text.Trims text.toList body) (hdenotes : Denotes body score) :
    scoreOf (.string text) = .ok score := by
  obtain ⟨hfinite, decimal, hnumeral, hrounded⟩ := hdenotes
  rw [← toList_trim htrims] at hnumeral
  have hnearest : decimal.nearest score.negative = score :=
    (hrounded.caps_nearest score.negative).eq_of_isFinite hfinite
  rw [scoreOf_text, ofText?_of_signedNumeral hnumeral, hnearest, Option.elim_some, if_pos hfinite]

theorem scoreOf_of_overflows (htrims : Text.Trims text.toList body) (hoverflows : Overflows body) :
    scoreOf (.string text) = .error (.scoreNotFinite text) := by
  obtain ⟨negative, decimal, magnitude, hnumeral, hrounded, hbeyond⟩ := hoverflows
  rw [← toList_trim htrims] at hnumeral
  have hinfinite : ¬(decimal.nearest negative).isFinite = true := by
    rw [isFinite, (hrounded.caps_nearest negative).magnitude_eq, Nat.min_eq_right hbeyond]
    simp
  rw [scoreOf_text, ofText?_of_signedNumeral hnumeral, Option.elim_some, if_neg hinfinite]

theorem scoreOf_of_signedName (htrims : Text.Trims text.toList body) (hname : SignedName body) :
    scoreOf (.string text) = .error (.scoreNotFinite text) := by
  rw [← toList_trim htrims] at hname
  obtain ⟨score, hscore, hinfinite⟩ := ofText?_of_signedName hname
  simp [scoreOf_text, hscore, hinfinite]

theorem scoreOf_of_neither (htrims : Text.Trims text.toList body) (hnumeral : ¬IsNumeral body)
    (hname : ¬SignedName body) : scoreOf (.string text) = .error (.scoreNotNumeric text) := by
  rw [← toList_trim htrims] at hnumeral hname
  rw [scoreOf_text, ofText?_eq_none hnumeral hname, Option.elim_none]

theorem toOption_scoreOf (text : String) :
    (scoreOf (.string text)).toOption = (ofText? (Text.trim text)).filter isFinite := by
  rw [scoreOf_text]
  cases hscore : ofText? (Text.trim text) with
  | none => rfl
  | some score => cases hfinite : score.isFinite <;> simp [hfinite, Except.toOption, Option.filter]

/-- The three answers exclude each other, so each is given just in its own cases. -/
theorem scoreOf_eq_ok_iff (htrims : Text.Trims text.toList body) :
    scoreOf (.string text) = .ok score ↔ Denotes body score := by
  refine ⟨fun hscore => ?_, scoreOf_of_denotes htrims⟩
  rcases body_cases body with ⟨found, hdenotes⟩ | hoverflows | hname | ⟨hnumeral, hname⟩
  · rw [scoreOf_of_denotes htrims hdenotes] at hscore
    cases hscore
    exact hdenotes
  · rw [scoreOf_of_overflows htrims hoverflows] at hscore
    cases hscore
  · rw [scoreOf_of_signedName htrims hname] at hscore
    cases hscore
  · rw [scoreOf_of_neither htrims hnumeral hname] at hscore
    cases hscore

theorem scoreOf_eq_error_iff (htrims : Text.Trims text.toList body) {fault : RecordFault} :
    scoreOf (.string text) = .error fault ↔
      fault = .scoreNotFinite text ∧ (Overflows body ∨ SignedName body) ∨
        fault = .scoreNotNumeric text ∧ ¬IsNumeral body ∧ ¬SignedName body := by
  constructor
  · intro hfault
    rcases body_cases body with ⟨score, hdenotes⟩ | hoverflows | hname | ⟨hnumeral, hname⟩
    · rw [scoreOf_of_denotes htrims hdenotes] at hfault
      cases hfault
    · rw [scoreOf_of_overflows htrims hoverflows] at hfault
      cases hfault
      exact .inl ⟨rfl, .inl hoverflows⟩
    · rw [scoreOf_of_signedName htrims hname] at hfault
      cases hfault
      exact .inl ⟨rfl, .inr hname⟩
    · rw [scoreOf_of_neither htrims hnumeral hname] at hfault
      cases hfault
      exact .inr ⟨rfl, hnumeral, hname⟩
  · rintro (⟨rfl, hoverflows | hname⟩ | ⟨rfl, hnumeral, hname⟩)
    · exact scoreOf_of_overflows htrims hoverflows
    · exact scoreOf_of_signedName htrims hname
    · exact scoreOf_of_neither htrims hnumeral hname

end Texts

/-- The result is a refusal with the message. -/
def Refuses {α : Type} (result : Except RecordFault α) (message : String) : Prop :=
  ∃ fault, result = .error fault ∧ fault.message = message

theorem refuses_ofValues_iff {frame : Frame} {slot : Value} {message : String} :
    Refuses (ofValues (frame.values slot)) message ↔ Refuses (scoreOf slot) message := by
  rw [frame.ofValues_values]
  cases scoreOf slot <;> simp [Refuses, Except.map]

theorem message_scoreNotFinite_ne (text : String) :
    (RecordFault.scoreNotFinite text).message ≠ (RecordFault.scoreNotNumeric text).message := by
  have hreasons : " is not a finite number" ≠ " is not numeric" := by decide
  intro heq
  exact hreasons (String.append_right_inj _ |>.mp heq)

section Refusals

variable {text : String} {body : List Char}

theorem refuses_notFinite_iff (htrims : Text.Trims text.toList body) :
    Refuses (scoreOf (.string text)) ("score " ++ Text.quoted text ++ " is not a finite number") ↔
      Overflows body ∨ SignedName body := by
  constructor
  · rintro ⟨fault, hfault, hmessage⟩
    rcases (scoreOf_eq_error_iff htrims).mp hfault with ⟨rfl, hcases⟩ | ⟨rfl, -⟩
    · exact hcases
    · exact absurd hmessage.symm (message_scoreNotFinite_ne text)
  · intro hcases
    exact ⟨.scoreNotFinite text, (scoreOf_eq_error_iff htrims).mpr (.inl ⟨rfl, hcases⟩), rfl⟩

theorem refuses_notNumeric_iff (htrims : Text.Trims text.toList body) :
    Refuses (scoreOf (.string text)) ("score " ++ Text.quoted text ++ " is not numeric") ↔
      ¬IsNumeral body ∧ ¬SignedName body := by
  constructor
  · rintro ⟨fault, hfault, hmessage⟩
    rcases (scoreOf_eq_error_iff htrims).mp hfault with ⟨rfl, -⟩ | ⟨rfl, hcases⟩
    · exact absurd hmessage (message_scoreNotFinite_ne text)
    · exact hcases
  · intro hcases
    exact ⟨.scoreNotNumeric text, (scoreOf_eq_error_iff htrims).mpr (.inr ⟨rfl, hcases⟩), rfl⟩

end Refusals

/-- A decoder of the document refuses one of its records for the fault. -/
def Reported (document : String) (fault : RecordFault) : Prop :=
  (∃ index, decode document = .error (.record index fault)) ∨
    (∃ index, decodeList document = .error (.record index fault)) ∨
    decodeStreamed document = .error (.rejected (.content fault))

section Faults

variable {document : String} {fault : RecordFault}

theorem exists_ofValue_of_ofValuesFrom {index place : Nat} {values : List Value}
    (hrefused : ofValuesFrom index values = .error (.record place fault)) :
    ∃ value, ofValue value = .error fault := by
  induction values generalizing index with
  | nil => cases hrefused
  | cons value values ih =>
      rw [ofValuesFrom, bind_eq_error_iff] at hrefused
      rcases hrefused with hfirst | ⟨record, -, hrest⟩
      · obtain ⟨cause, hcause, heq⟩ := mapError_eq_error_iff.mp hfirst
        cases heq
        exact ⟨value, hcause⟩
      · rcases bind_eq_error_iff.mp hrest with hlater | ⟨records, -, hdone⟩
        · exact ih hlater
        · cases hdone

theorem exists_ofValues_of_readStreamed {text : List Char}
    (hrefused : readStreamed text = .error (.rejected (.content fault))) :
    ∃ values, ofValues values = .error fault := by
  rw [readStreamed, bind_eq_error_iff] at hrefused
  rcases hrefused with hshape | ⟨⟨values, rest⟩, -, hjudged⟩
  · obtain ⟨cause, -, heq⟩ := mapError_eq_error_iff.mp hshape
    cases cause <;> cases heq
  · refine ⟨values, ?_⟩
    simp only at hjudged
    split at hjudged
    · cases hjudged
    · next hrecord =>
      cases hjudged
      exact hrecord

theorem Reported.exists_ofValue (hreported : Reported document fault) :
    ∃ value, ofValue value = .error fault := by
  rcases hreported with ⟨index, hone⟩ | ⟨index, hlist⟩ | hstreamed
  · rw [decode, bind_eq_error_iff] at hone
    rcases hone with hjson | ⟨value, -, hjudged⟩
    · obtain ⟨cause, -, heq⟩ := mapError_eq_error_iff.mp hjson
      cases heq
    · obtain ⟨cause, hcause, heq⟩ := mapError_eq_error_iff.mp hjudged
      cases heq
      exact ⟨value, hcause⟩
  · rw [decodeList, bind_eq_error_iff] at hlist
    rcases hlist with hjson | ⟨values, -, hjudged⟩
    · obtain ⟨cause, -, heq⟩ := mapError_eq_error_iff.mp hjson
      cases heq
    · exact exists_ofValue_of_ofValuesFrom hjudged
  · rw [decodeStreamed, readWhole, bind_eq_error_iff] at hstreamed
    rcases hstreamed with hread | ⟨⟨record, rest⟩, -, hend⟩
    · obtain ⟨values, hvalues⟩ := exists_ofValues_of_readStreamed hread
      exact ⟨.array values, hvalues⟩
    · simp only at hend
      split at hend <;> cases hend

/-- Every number has a score, so the slot is never refused for one without. -/
theorem scoreOf_ne_notRepresentable (slot : Value) (number : Number) :
    scoreOf slot ≠ .error (.scoreNotRepresentable number) := by
  intro hrefused
  cases slot with
  | number found => cases hrefused
  | string text =>
      rw [scoreOf_text] at hrefused
      cases hread : ofText? (Text.trim text) with
      | none =>
          rw [hread] at hrefused
          cases hrefused
      | some score =>
          rw [hread, Option.elim_some] at hrefused
          split at hrefused <;> cases hrefused
  | null | bool | array | object => cases hrefused

theorem ofValue_ne_notRepresentable (value : Value) (number : Number) :
    ofValue value ≠ .error (.scoreNotRepresentable number) := by
  intro hrefused
  cases value with
  | array values =>
      rw [ofValue] at hrefused
      unfold ofValues at hrefused
      split at hrefused
      · rcases bind_eq_error_iff.mp hrefused with hslot | ⟨score, -, hdone⟩
        · exact scoreOf_ne_notRepresentable _ number hslot
        · cases hdone
      · cases hrefused
  | null | bool | number | string | object => cases hrefused

end Faults

theorem head?_toList_append (front back : String) (hne : front.toList ≠ []) :
    (front ++ back).toList.head? = front.toList.head? := by
  rw [String.toList_append, List.head?_append_of_ne_nil _ hne]

theorem getLast?_toList_append (front back : String) (hne : back.toList ≠ []) :
    (front ++ back).toList.getLast? = back.toList.getLast? := by
  rw [String.toList_append, List.getLast?_append_of_ne_nil _ hne]

/-- No other fault has the message of this one: the first or the last character differs. -/
theorem message_ne_notRepresentable {fault : RecordFault}
    (hfault : ∀ number, fault ≠ .scoreNotRepresentable number) (shown : String) :
    fault.message ≠ "score " ++ shown ++ " is not representable as f64" := by
  intro heq
  have hhead : fault.message.toList.head? = some 's' := by
    rw [heq, String.append_assoc, head?_toList_append _ _ (by decide)]
    rfl
  have hlast : fault.message.toList.getLast? = some '4' := by
    rw [heq, getLast?_toList_append _ _ (by decide)]
    rfl
  cases fault with
  | notAnArray found =>
      have hfirst := head?_toList_append "expected an array, got " found.kind (by decide)
      exact absurd (hfirst.symm.trans hhead) (by decide)
  | wrongArity count =>
      have hfirst := head?_toList_append "expected 6 fields, got " count.repr (by decide)
      exact absurd (hfirst.symm.trans hhead) (by decide)
  | scoreNotRepresentable number => exact hfault number rfl
  | scoreNotFinite text =>
      have hend := getLast?_toList_append ("score " ++ Text.quoted text) " is not a finite number"
        (by decide)
      exact absurd (hend.symm.trans hlast) (by decide)
  | scoreNotNumeric text =>
      have hend := getLast?_toList_append ("score " ++ Text.quoted text) " is not numeric"
        (by decide)
      exact absurd (hend.symm.trans hlast) (by decide)
  | scoreNotANumber found =>
      have hkind : found.kind.toList ≠ [] ∧ found.kind.toList.getLast? ≠ some '4' := by
        cases found <;> simp [Value.kind]
      have hend := getLast?_toList_append "score must be a number, got " found.kind hkind.1
      exact hkind.2 (hend.symm.trans hlast)

theorem Reported.message_ne {document : String} {fault : RecordFault}
    (hreported : Reported document fault) (shown : String) :
    fault.message ≠ "score " ++ shown ++ " is not representable as f64" := by
  obtain ⟨value, hvalue⟩ := hreported.exists_ofValue
  refine message_ne_notRepresentable ?_ shown
  rintro number rfl
  exact ofValue_ne_notRepresentable value number hvalue

/-- **A score that is given as text.** With the blanks at its ends removed the text is taken exactly
where it is a numeral, with an optional sign, that is correctly rounded to a finite score, and the
record has that score. A numeral too great for that, or the name of an infinity or of a NaN, is
refused as not finite, and everything else as not numeric. The score depends on nothing but the
trimmed text; whether a slot is taken, and for what reason it is not, never depends on the other
slots. The decoders pass this judgement on, and none of them ever tells that a number has no
score. -/
theorem ofValues_text_score :
    (∀ (frame : Frame) (text : String) (body : List Char), Text.Trims text.toList body →
      (∀ record, ofValues (frame.values (.string text)) = .ok record ↔
        ∃ score, Denotes body score ∧ record = frame.record score) ∧
      (Refuses (ofValues (frame.values (.string text)))
          ("score " ++ Text.quoted text ++ " is not a finite number") ↔
        Overflows body ∨ SignedName body) ∧
      (Refuses (ofValues (frame.values (.string text)))
          ("score " ++ Text.quoted text ++ " is not numeric") ↔
        ¬IsNumeral body ∧ ¬SignedName body)) ∧
    (∀ (frame other : Frame) (text again : String), Text.trim text = Text.trim again →
      ((ofValues (frame.values (.string text))).map Record.score).toOption =
        ((ofValues (other.values (.string again))).map Record.score).toOption) ∧
    (∀ (frame other : Frame) (slot : Value),
      (ofValues (frame.values slot)).map Record.score =
        (ofValues (other.values slot)).map Record.score) ∧
    (∀ document values,
      (readDocument document : Except (Fault Mismatch) _) = .ok (.array values) →
      decode document = (ofValues values).mapError (.record 0) ∧
        decodeStreamed document =
          (ofValues values).mapError fun fault => .rejected (.content fault)) ∧
    (∀ document fault, Reported document fault → ∀ shown : String,
      fault.message ≠ "score " ++ shown ++ " is not representable as f64") := by
  refine ⟨?_, ?_, ?_, ?_, fun _ _ hreported => hreported.message_ne⟩
  · intro frame text body htrims
    rw [refuses_ofValues_iff, refuses_ofValues_iff, refuses_notFinite_iff htrims,
      refuses_notNumeric_iff htrims]
    refine ⟨fun record => ?_, Iff.rfl, Iff.rfl⟩
    rw [frame.ofValues_values, map_eq_ok_iff]
    simp only [scoreOf_eq_ok_iff htrims, eq_comm (a := record)]
  · intro frame other text again htrim
    rw [frame.map_score_ofValues, other.map_score_ofValues, toOption_scoreOf, toOption_scoreOf,
      htrim]
  · intro frame other slot
    rw [frame.map_score_ofValues, other.map_score_ofValues]
  · intro document values hread
    exact ⟨decode_eq_of_readDocument hread, decodeStreamed_eq_of_readDocument hread⟩

/-- A record of odd values, none of which is looked at before the score. -/
def oddFrame : Frame := ⟨.null, .bool true, .array [], .number (.natural 7), .object []⟩

def blankFrame : Frame := ⟨.string "", .string "", .string "", .string "", .null⟩

def oddDocument : String := "[null,true,[],7,\"1_0\",\x7b\x7d]"

theorem readDocument_oddDocument :
    (readDocument oddDocument : Except (Fault Mismatch) _) =
      .ok (.array (oddFrame.values (.string "1_0"))) := by
  cbv

theorem denotes_smallNumeral : Denotes "-.5e-3".toList (.ofBits 0xbf40624dd2f1a9fc) := by
  refine ⟨by decide +kernel, ⟨5, -4⟩, signedNumeral_iff.mpr ⟨rfl, ?_⟩, ?_⟩
  · exact ofText?_eq_some_iff.mp (by decide)
  · exact rounds_iff_correctlyRounded.mp (roundsTo_iff.mp (by decide +kernel))

theorem overflows_largeNumeral : Overflows "1e309".toList := by
  obtain ⟨magnitude, hrounded⟩ := exists_correctlyRounded ⟨1, 309⟩
  refine ⟨false, ⟨1, 309⟩, magnitude, signedNumeral_iff.mpr ⟨rfl, ?_⟩, hrounded, ?_⟩
  · exact ofText?_eq_some_iff.mp (by decide)
  · have hinfinite : (nearest false ⟨1, 309⟩).magnitude = infinityMagnitude := by decide +kernel
    rw [(hrounded.caps_nearest false).magnitude_eq] at hinfinite
    exact min_eq_right_iff.mp hinfinite

theorem not_isNumeral_separated : ¬IsNumeral "1_0".toList := by
  rintro ⟨negative, decimal, hnumeral⟩
  have hread := ofText?_eq_some_iff.mpr (signedNumeral_iff.mp hnumeral).2
  rw [show Decimal.ofText? (splitSign "1_0".toList).2 = none by decide] at hread
  cases hread

theorem ofValues_text_score_odd :
    (∃ record, ofValues (oddFrame.values (.string "\u00a0-.5e-3\u3000")) = .ok record ∧
      record.score.bits = 0xbf40624dd2f1a9fc) ∧
    Refuses (ofValues (oddFrame.values (.string " 1e309 ")))
      ("score " ++ Text.quoted " 1e309 " ++ " is not a finite number") ∧
    Refuses (ofValues (oddFrame.values (.string "+InFinity")))
      ("score " ++ Text.quoted "+InFinity" ++ " is not a finite number") ∧
    ((ofValues (oddFrame.values (.string "\t.5"))).map Record.score).toOption =
      ((ofValues (blankFrame.values (.string ".5\n"))).map Record.score).toOption ∧
    (∃ fault, decode oddDocument = .error (.record 0 fault) ∧
      fault.message = "score " ++ Text.quoted "1_0" ++ " is not numeric" ∧
      fault.message ≠ "score 1_0 is not representable as f64") := by
  obtain ⟨hslot, htrimmed, -, hdecoders, hnever⟩ := ofValues_text_score
  have hsmall : Text.Trims "\u00a0-.5e-3\u3000".toList "-.5e-3".toList :=
    Text.trims_iff.mpr (by decide +kernel)
  have hlarge : Text.Trims " 1e309 ".toList "1e309".toList := Text.trims_iff.mpr (by decide +kernel)
  have hname : Text.Trims "+InFinity".toList "+InFinity".toList :=
    Text.trims_iff.mpr (by decide +kernel)
  have hother : Text.Trims "1_0".toList "1_0".toList := Text.trims_iff.mpr (by decide +kernel)
  refine ⟨?_, ?_, ?_, htrimmed oddFrame blankFrame _ _ (by decide +kernel), ?_⟩
  · exact ⟨_, ((hslot oddFrame _ _ hsmall).1 _).mpr ⟨_, denotes_smallNumeral, rfl⟩,
      bits_ofBits 0xbf40624dd2f1a9fc⟩
  · exact (hslot oddFrame _ _ hlarge).2.1.mpr (.inl overflows_largeNumeral)
  · exact (hslot oddFrame _ _ hname).2.1.mpr (.inr (signedName_iff.mpr (by decide)))
  · have hunnamed : ¬SignedName "1_0".toList := fun hsigned =>
      absurd (signedName_iff.mp hsigned) (by decide)
    obtain ⟨fault, hfault, hmessage⟩ :=
      (hslot oddFrame _ _ hother).2.2.mpr ⟨not_isNumeral_separated, hunnamed⟩
    have hdecode : decode oddDocument = .error (.record 0 fault) := by
      rw [(hdecoders _ _ readDocument_oddDocument).1, hfault]
      rfl
    exact ⟨fault, hdecode, hmessage, hnever oddDocument fault (.inl ⟨0, hdecode⟩) "1_0"⟩

end SearchRanking.Record
