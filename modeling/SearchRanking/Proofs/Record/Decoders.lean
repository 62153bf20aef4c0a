import Mathlib
import SearchRanking.Proofs.Json.Document
import SearchRanking.Proofs.Record.RoundTrip

/-!
# One record, a list of records, a record in a stream

Three decoders share the readers of values and the judgement on a record, but they meet the text in
different ways. A list of records is the list of what its documents give one by one, up to the first
one that is refused, and the index of the refusal is the place of that document. A record that is
judged at its closing bracket, before the text behind it is looked at, is accepted in the same texts
as a record that is judged at the end of its document.
-/

namespace SearchRanking.Record

open Json

theorem scoreOf_text (text : String) :
    scoreOf (.string text) =
      (Score.ofText? (Text.trim text)).elim (.error (.scoreNotNumeric text)) fun score =>
        if score.isFinite then .ok score else .error (.scoreNotFinite text) := by
  rw [scoreOf.eq_def]
  dsimp only
  cases Score.ofText? (Text.trim text) <;> rfl

theorem decode_eq_of_readDocument {text : String} {value : Value}
    (hread : (readDocument text : Except (Fault Mismatch) _) = .ok value) :
    decode text = (ofValue value).mapError (.record 0) := by
  rw [decode, hread]
  rfl

theorem decode_eq_ok_iff {text : String} {record : Record} :
    decode text = .ok record ↔
      ∃ value, (readDocument text : Except (Fault Mismatch) _) = .ok value ∧
        ofValue value = .ok record := by
  simp [decode]

theorem readValues_eq_ok_iff {text rest : List Char} {values : List Value} :
    readValues text = .ok (values, rest) ↔
      (readValue maxDepth text : Except (Fault Mismatch) _) = .ok (.array values, rest) := by
  constructor
  · intro hread
    unfold readValues expectList at hread
    split at hread
    · exact readNode_eq_ok_iff.mpr (.array hread)
    · rw [rejectNode, bind_eq_ok_iff] at hread
      obtain ⟨_, _, hrejected⟩ := hread
      cases hrejected
  · intro hread
    cases readNode_eq_ok_iff.mp hread with
    | array hitems => exact hitems

@[simp]
theorem readWhole_readValues_eq_ok_iff {text : String} {values : List Value} :
    readWhole readValues text = .ok values ↔
      (readDocument text : Except (Fault Mismatch) _) = .ok (.array values) := by
  simp only [readDocument, readWhole_eq_ok_iff, readValues_eq_ok_iff]

theorem decodeList_eq_ok_iff {text : String} {records : List Record} :
    decodeList text = .ok records ↔
      ∃ values, (readDocument text : Except (Fault Mismatch) _) = .ok (.array values) ∧
        ofValuesFrom 0 values = .ok records := by
  simp [decodeList]

theorem readStreamed_eq_ok_iff {text rest : List Char} {record : Record} :
    readStreamed text = .ok (record, rest) ↔
      ∃ values, readValues text = .ok (values, rest) ∧ ofValues values = .ok record := by
  rw [readStreamed, bind_eq_ok_iff]
  constructor
  · rintro ⟨⟨values, after⟩, hvalues, hjudged⟩
    rw [mapError_eq_ok_iff] at hvalues
    cases hrecord : ofValues values with
    | error fault =>
        simp only [hrecord] at hjudged
        cases hjudged
    | ok found =>
        simp only [hrecord] at hjudged
        cases hjudged
        exact ⟨values, hvalues, hrecord⟩
  · rintro ⟨values, hvalues, hrecord⟩
    refine ⟨_, mapError_eq_ok_iff.mpr hvalues, ?_⟩
    simp only [hrecord]

theorem decodeStreamed_eq_ok_iff {text : String} {record : Record} :
    decodeStreamed text = .ok record ↔
      ∃ values, (readDocument text : Except (Fault Mismatch) _) = .ok (.array values) ∧
        ofValues values = .ok record := by
  simp only [decodeStreamed, readDocument, readWhole_eq_ok_iff, readStreamed_eq_ok_iff,
    readValues_eq_ok_iff]
  constructor
  · rintro ⟨rest, ⟨values, hvalues, hrecord⟩, hblank⟩
    exact ⟨values, ⟨rest, hvalues, hblank⟩, hrecord⟩
  · rintro ⟨values, ⟨rest, hvalues, hblank⟩, hrecord⟩
    exact ⟨rest, ⟨values, hvalues, hrecord⟩, hblank⟩

/-- On a document that is a list, both decoders pass on the judgement on its values. -/
theorem decodeStreamed_eq_of_readDocument {text : String} {values : List Value}
    (hread : (readDocument text : Except (Fault Mismatch) _) = .ok (.array values)) :
    decodeStreamed text =
      (ofValues values).mapError fun fault => .rejected (.content fault) := by
  obtain ⟨rest, hvalues, hblank⟩ := readWhole_eq_ok_iff.mp hread
  cases hrecord : ofValues values with
  | ok record => exact decodeStreamed_eq_ok_iff.mpr ⟨values, hread, hrecord⟩
  | error fault =>
      have hstreamed : readStreamed (skipSpaces text.toList) =
          .error (.rejected (.content fault)) := by
        rw [readStreamed, readValues_eq_ok_iff.mpr hvalues]
        simp only [Except.mapError, bind, Except.bind, hrecord]
      rw [decodeStreamed, readWhole, hstreamed]
      rfl

/-- **The two decoders of one record agree.** They accept the same texts with the same record; and
where the document is a list, one of them refuses it for a reason exactly when the other does. -/
theorem decodeStreamed_agrees_decode (text : String) :
    (∀ record, decodeStreamed text = .ok record ↔ decode text = .ok record) ∧
    ∀ values, (readDocument text : Except (Fault Mismatch) _) = .ok (.array values) →
      ∀ reason : String,
        (∃ fault, decode text = .error (.record 0 fault) ∧ fault.message = reason) ↔
          ∃ fault, decodeStreamed text = .error (.rejected fault) ∧ fault.message = reason := by
  constructor
  · intro record
    rw [decodeStreamed_eq_ok_iff, decode_eq_ok_iff]
    constructor
    · rintro ⟨values, hread, hrecord⟩
      exact ⟨.array values, hread, hrecord⟩
    · rintro ⟨value, hread, hrecord⟩
      cases value with
      | array values => exact ⟨values, hread, hrecord⟩
      | null | bool | number | string | object => cases hrecord
  · intro values hread reason
    rw [decode_eq_of_readDocument hread, decodeStreamed_eq_of_readDocument hread, ofValue]
    cases ofValues values with
    | ok record => simp [Except.mapError]
    | error fault =>
        constructor
        · rintro ⟨_, heq, hreason⟩
          cases heq
          exact ⟨.content fault, rfl, hreason⟩
        · rintro ⟨_, heq, hreason⟩
          cases heq
          exact ⟨fault, rfl, hreason⟩

/-- A list with too few values, and spaces around it. -/
theorem decodeStreamed_tooShort :
    (readDocument " [null]\n" : Except (Fault Mismatch) _) = .ok (.array [.null]) ∧
      ∃ fault, decodeStreamed " [null]\n" = .error (.rejected fault) ∧
        fault.message = "expected 6 fields, got 1" := by
  have hread : (readDocument " [null]\n" : Except (Fault Mismatch) _) = .ok (.array [.null]) := by
    cbv
  refine ⟨hread, ?_⟩
  refine ((decodeStreamed_agrees_decode " [null]\n").2 [.null] hread _).mp ?_
  exact ⟨.wrongArity 1, decode_eq_of_readDocument hread, rfl⟩

/-- The text of a list whose items are given as texts. -/
def listText (texts : List String) : String := "[" ++ String.intercalate "," texts ++ "]"

theorem toList_listText (texts : List String) :
    (listText texts).toList = '[' :: ([','].intercalate (texts.map String.toList) ++ [']']) := by
  rw [listText, String.toList_append, String.toList_append, String.toList_intercalate]
  rfl

theorem readWhole_readValues_listText {texts : List String} {value : String → Value}
    (hread : ∀ text ∈ texts, (readDocument text : Except (Fault Mismatch) _) = .ok (value text) ∧
      (value text).nesting ≤ maxDepth - 1) :
    readWhole readValues (listText texts) = .ok (texts.map value) := by
  have hinner : ∀ text ∈ texts,
      readWhole (readValue (maxDepth - 1) : Reader Mismatch Value) text = .ok (value text) := by
    intro text htext
    obtain ⟨hdocument, hnesting⟩ := hread text htext
    obtain ⟨rest, hvalue, hblank⟩ := readWhole_eq_ok_iff.mp hdocument
    exact readWhole_eq_ok_iff.mpr ⟨rest, readValue_of_nesting_le hvalue hnesting, hblank⟩
  have hstart : ∀ tail result,
      (readValue (maxDepth - 1) (']' :: tail) : Except (Fault Mismatch) _) ≠ .ok result := by
    intro tail result hvalue
    cases hvalue
  have hbracketed := bracketed_documents (extends_readValue (maxDepth - 1))
    (needsText_readValue (maxDepth - 1)) hstart hinner
  have hskip : ∀ inner, skipSpaces ('[' :: inner) = '[' :: inner := fun _ => rfl
  refine readWhole_eq_ok_iff.mpr ⟨[], ?_, rfl⟩
  rw [toList_listText, hskip]
  exact readItems_eq_ok_iff.mpr hbracketed

/-- **A list of documents is decoded like its documents one by one.** Let every text be a document
that leaves room for one more container around it. Where each gives a record, the list of the texts
gives these records; otherwise it is refused at the first text that gives none, and for the same
fault. -/
theorem decodeList_listText_eq (texts : List String)
    (htexts : ∀ text ∈ texts, ∃ value,
      (readDocument text : Except (Fault Mismatch) _) = .ok value ∧ value.nesting ≤ 126) :
    ((∀ text ∈ texts, ∃ record, decode text = .ok record) →
      ∃ records, texts.map decode = records.map .ok ∧
        decodeList (listText texts) = .ok records) ∧
    ((∃ text ∈ texts, ¬∃ record, decode text = .ok record) →
      ∃ index text fault, texts[index]? = some text ∧ decode text = .error (.record 0 fault) ∧
        (∀ earlier < index, ∃ other record,
          texts[earlier]? = some other ∧ decode other = .ok record) ∧
        decodeList (listText texts) = .error (.record index fault)) := by
  have hnonempty : Nonempty Value := ⟨.null⟩
  choose! value hread using htexts
  have hdecode : ∀ text ∈ texts, decode text = (ofValue (value text)).mapError (.record 0) :=
    fun text htext => decode_eq_of_readDocument (hread text htext).1
  have hlist : decodeList (listText texts) = ofValuesFrom 0 (texts.map value) := by
    rw [decodeList, readWhole_readValues_listText hread]
    rfl
  have hgood : ∀ text ∈ texts, ∀ record, decode text = .ok record →
      ofValue (value text) = .ok record := by
    intro text htext record hrecord
    rwa [hdecode text htext, mapError_eq_ok_iff] at hrecord
  constructor
  · intro hall
    have hnonempty : Nonempty Record := ⟨⟨"", "", "", "", .zero false, none⟩⟩
    choose! record hrecord using hall
    refine ⟨texts.map record, ?_, ?_⟩
    · rw [List.map_map]
      exact List.map_congr_left hrecord
    · rw [hlist]
      exact ofValuesFrom_map_ok (fun text htext => hgood text htext _ (hrecord text htext)) 0
  · intro hbad
    obtain ⟨front, text, back, rfl, hfront, hnone⟩ := exists_append_first hbad
    have htext : text ∈ front ++ text :: back := List.mem_append_right _ List.mem_cons_self
    cases hfault : ofValue (value text) with
    | ok record =>
        refine absurd ⟨record, ?_⟩ hnone
        rw [hdecode text htext, hfault]
        rfl
    | error fault =>
        refine ⟨front.length, text, fault, by simp, ?_, ?_, ?_⟩
        · rw [hdecode text htext, hfault]
          rfl
        · intro earlier hearlier
          have hmem := List.getElem_mem hearlier
          obtain ⟨record, hrecord⟩ := hfront _ hmem
          refine ⟨front[earlier], record, ?_, hrecord⟩
          rw [List.getElem?_append_left hearlier, List.getElem?_eq_getElem hearlier]
        · have hvalues : ∀ item ∈ front.map value, ∃ record, ofValue item = .ok record := by
            intro item hitem
            obtain ⟨other, hother, rfl⟩ := List.mem_map.mp hitem
            obtain ⟨record, hrecord⟩ := hfront other hother
            exact ⟨record, hgood other (List.mem_append_left _ hother) record hrecord⟩
          rw [hlist, List.map_append, List.map_cons, ofValuesFrom_append_error hvalues hfault,
            Nat.zero_add, List.length_map]

/-- A record with spaces and a newline around it, a number, and a list that is too short. -/
def strayTexts : List String := [" [null,\"Intro\",[],\"\",7,17]\n", "12", "[]"]

def strayValues : List Value :=
  [.array [.null, .string "Intro", .array [], .string "", .number (.natural 7),
    .number (.natural 17)], .number (.natural 12), .array []]

theorem map_readDocument_strayTexts :
    strayTexts.map readDocument =
      strayValues.map (Except.ok : Value → Except (Fault Mismatch) Value) := by
  cbv

theorem decodeList_strayTexts :
    (∀ text ∈ strayTexts, ∃ value,
      (readDocument text : Except (Fault Mismatch) _) = .ok value ∧ value.nesting ≤ 126) ∧
    ∃ fault, decodeList (listText strayTexts) = .error (.record 1 fault) ∧
      fault.message = "expected an array, got a number" := by
  obtain ⟨hrecord, hnumber, hempty, -⟩ := by
    simpa only [strayTexts, strayValues, List.map_cons, List.cons.injEq] using
      map_readDocument_strayTexts
  have htexts : ∀ text ∈ strayTexts, ∃ value,
      (readDocument text : Except (Fault Mismatch) _) = .ok value ∧ value.nesting ≤ 126 := by
    simp only [strayTexts, List.forall_mem_cons]
    exact ⟨⟨_, hrecord, by decide⟩, ⟨_, hnumber, by decide⟩, ⟨_, hempty, by decide⟩, by simp⟩
  have hsecond : decode "12" = .error (.record 0 (.notAnArray (.number (.natural 12)))) :=
    decode_eq_of_readDocument hnumber
  refine ⟨htexts, ?_⟩
  obtain ⟨index, text, fault, htext, hfault, hearlier, hlist⟩ :=
    (decodeList_listText_eq strayTexts htexts).2 ⟨"12", by simp [strayTexts], by simp [hsecond]⟩
  match index with
  | 0 =>
      cases htext
      rw [decode_eq_of_readDocument hrecord] at hfault
      cases hfault
  | 1 =>
      cases htext
      rw [hsecond] at hfault
      cases hfault
      exact ⟨_, hlist, rfl⟩
  | index + 2 =>
      obtain ⟨other, record, hother, hgood⟩ := hearlier 1 (by omega)
      cases hother
      rw [hsecond] at hgood
      cases hgood

end SearchRanking.Record
