import Mathlib.Tactic.Choose
import SearchRanking.Proofs.Json.Reading
import SearchRanking.Record.Codec

/-!
# Records survive being written and read

A record is written as six values, five of which are read back as they are. The score goes through
decimal text, so its fate is that of the number reader; a score without a number is written as
`null`, and `null` is refused in the score slot. Both written forms of a list are read item by item,
so a list of records comes back with only its scores reread, or it is refused at its first score
that is not finite.
-/

namespace SearchRanking.Record

open Json

/-- The six values of a record with a given value in its score slot. -/
def valuesWith (record : Record) (score : Value) : List Value :=
  [.string record.docName, .string record.title, .string record.anchor,
    .string record.description, score, record.filenameValue]

theorem toValue_eq_array (record : Record) :
    record.toValue = .array (record.valuesWith (.ofScore record.score)) := rfl

@[simp]
theorem string?_filenameValue (record : Record) :
    record.filenameValue.string? = record.filename := by
  rw [filenameValue]
  cases record.filename <;> rfl

@[simp]
theorem ofValues_valuesWith (record : Record) (value : Value) :
    ofValues (record.valuesWith value) =
      (scoreOf value).map fun score => { record with score := score } := by
  rw [valuesWith, ofValues]
  cases scoreOf value with
  | error fault => rfl
  | ok score =>
      simp only [string?_filenameValue]
      rfl

theorem ofValuesFrom_map_ok {α : Type} {items : List α} {read : α → Value}
    {decoded : α → Record}
    (hread : ∀ item ∈ items, ofValue (read item) = .ok (decoded item)) (index : Nat) :
    ofValuesFrom index (items.map read) = .ok (items.map decoded) := by
  induction items generalizing index with
  | nil => rfl
  | cons item items ih =>
      have hrest := ih (fun other hother => hread other (List.mem_cons_of_mem item hother))
        (index + 1)
      rw [List.map_cons, ofValuesFrom, hread item List.mem_cons_self, hrest]
      rfl

theorem ofValuesFrom_append_error {front back : List Value} {bad : Value} {fault : RecordFault}
    (hfront : ∀ value ∈ front, ∃ record, ofValue value = .ok record)
    (hbad : ofValue bad = .error fault) (index : Nat) :
    ofValuesFrom index (front ++ bad :: back) = .error (.record (index + front.length) fault) := by
  induction front generalizing index with
  | nil =>
      rw [List.nil_append, ofValuesFrom, hbad]
      rfl
  | cons value front ih =>
      obtain ⟨record, hrecord⟩ := hfront value List.mem_cons_self
      have hrest := ih (fun other hother => hfront other (List.mem_cons_of_mem value hother))
        (index + 1)
      rw [List.cons_append, ofValuesFrom, hrecord, hrest, List.length_cons, Nat.add_right_comm]
      rfl

section Written

variable {depth : Nat} {record : Record} {value : Value}

/-- The score slot reads back as a number where the number reader takes its text, and as `null`
where the score is not finite. -/
theorem exists_reads_ofScore {score : Score} {reread : Score}
    (hread : score.isFinite = true → ∃ number : Number,
      (readNumber (Number.real score).text.toList : Except (Fault Mismatch) _) =
        .ok (number, []) ∧ number.toScore = reread) :
    ∃ value, Reads (readValue depth : Reader Mismatch Value) (compact (.ofScore score)) value ∧
      scoreOf value =
        if score.isFinite then .ok reread else .error (.scoreNotANumber .null) := by
  cases hfinite : score.isFinite with
  | true =>
      obtain ⟨number, hnumber, rfl⟩ := hread hfinite
      refine ⟨.number number, ?_, rfl⟩
      rw [Value.ofScore, if_pos hfinite, compact]
      exact reads_readValue (fun _ _ => reads_number hnumber) depth
  | false =>
      refine ⟨.null, ?_, rfl⟩
      rw [Value.ofScore, if_neg (by simp [hfinite]), compact]
      exact reads_readValue (fun _ _ => reads_null) depth

theorem reads_fields
    (hscore : Reads (readValue depth : Reader Mismatch Value) (compact (.ofScore record.score))
      value) :
    ∀ field ∈ (record.valuesWith (.ofScore record.score)).zip (record.valuesWith value),
      Reads (readValue depth : Reader Mismatch Value) (compact field.1) field.2 := by
  have hstring : ∀ text, Reads (readValue depth : Reader Mismatch Value)
      (compact (.string text)) (.string text) := by
    intro text
    rw [compact]
    exact reads_readValue (fun _ _ => reads_string text) depth
  have hfilename : Reads (readValue depth : Reader Mismatch Value)
      (compact record.filenameValue) record.filenameValue := by
    rw [filenameValue]
    cases record.filename with
    | some name => exact hstring name
    | none =>
        rw [compact]
        exact reads_readValue (fun _ _ => reads_null) depth
  simp only [valuesWith, List.zip_cons_cons, List.zip_nil_right, List.forall_mem_cons]
  exact ⟨hstring _, hstring _, hstring _, hstring _, hscore, hfilename, by simp⟩

theorem reads_enclosed_fields {gap last : List Char} (hgap : ∀ c ∈ gap, isSpace c = true)
    (hlast : ∀ c ∈ last, isSpace c = true)
    (hscore : Reads (readValue depth : Reader Mismatch Value) (compact (.ofScore record.score))
      value) :
    Reads (readValue (depth + 1) : Reader Mismatch Value)
      ('[' :: enclosed gap last ']' ((record.valuesWith (.ofScore record.score)).map compact))
      (.array (record.valuesWith value)) := by
  have hreads := reads_array hgap hlast (reads_fields hscore)
  have hwritten : ((record.valuesWith (.ofScore record.score)).zip (record.valuesWith value)).map
      (fun field => compact field.1) =
        (record.valuesWith (.ofScore record.score)).map compact := rfl
  have hread : ((record.valuesWith (.ofScore record.score)).zip (record.valuesWith value)).map
      (fun field => field.2) = record.valuesWith value := rfl
  rwa [hwritten, hread] at hreads

theorem reads_compact_toValue
    (hscore : Reads (readValue depth : Reader Mismatch Value) (compact (.ofScore record.score))
      value) :
    Reads (readValue (depth + 1) : Reader Mismatch Value) (compact record.toValue)
      (.array (record.valuesWith value)) := by
  rw [toValue_eq_array, compact_array]
  exact reads_enclosed_fields (by simp) (by simp) hscore

@[simp]
theorem pretty_ofScore (level : Nat) (score : Score) :
    pretty level (.ofScore score) = compact (.ofScore score) := by
  rw [Value.ofScore]
  split <;> rfl

/-- The fields of a record are scalars, which have one written form. -/
theorem map_pretty_valuesWith (record : Record) (level : Nat) :
    (record.valuesWith (.ofScore record.score)).map (pretty level) =
      (record.valuesWith (.ofScore record.score)).map compact := by
  have hfilename : pretty level record.filenameValue = compact record.filenameValue := by
    rw [filenameValue]
    split <;> rfl
  simp only [valuesWith, List.map_cons, List.map_nil, pretty_ofScore, hfilename]
  rfl

theorem reads_pretty_toValue {level : Nat}
    (hscore : Reads (readValue depth : Reader Mismatch Value) (compact (.ofScore record.score))
      value) :
    Reads (readValue (depth + 1) : Reader Mismatch Value) (pretty level record.toValue)
      (.array (record.valuesWith value)) := by
  rw [toValue_eq_array, pretty_array, map_pretty_valuesWith]
  exact reads_enclosed_fields isSpace_of_mem_newLine isSpace_of_mem_newLine hscore

end Written

theorem decodeList_enclosed {gap last : List Char} {spell : Record → List Char}
    {read : Record → Value} {records : List Record} (hgap : ∀ c ∈ gap, isSpace c = true)
    (hlast : ∀ c ∈ last, isSpace c = true)
    (hreads : ∀ record ∈ records,
      Reads (readValue (maxDepth - 1) : Reader Mismatch Value) (spell record) (read record)) :
    decodeList (String.ofList ('[' :: enclosed gap last ']' (records.map spell))) =
      ofValuesFrom 0 (records.map read) := by
  have hitems := reads_values hgap hlast hreads [] rfl
  rw [List.append_nil] at hitems
  have hskip : ∀ text, skipSpaces ('[' :: text) = '[' :: text := fun _ => rfl
  have hwhole : readWhole readValues
      (String.ofList ('[' :: enclosed gap last ']' (records.map spell))) =
        .ok (records.map read) := by
    rw [readWhole, String.toList_ofList, hskip, readValues, expectList, hitems]
    rfl
  rw [decodeList, hwhole]
  rfl

/-- The written forms of a list are decoded from the values that the records read back as. -/
theorem decodeList_written {records : List Record} {score : Record → Value}
    (hscore : ∀ record ∈ records, Reads (readValue (maxDepth - 2) : Reader Mismatch Value)
      (compact (.ofScore record.score)) (score record)) :
    ∀ text ∈ [compactText (listValue records), prettyText (listValue records)],
      decodeList text =
        ofValuesFrom 0 (records.map fun record => .array (record.valuesWith (score record))) := by
  intro text htext
  rw [List.mem_cons, List.mem_singleton] at htext
  rcases htext with rfl | rfl
  · rw [compactText, listValue, compact_array, List.map_map]
    refine decodeList_enclosed (by simp) (by simp) ?_
    intro record hrecord
    exact reads_compact_toValue (hscore record hrecord)
  · rw [prettyText, listValue, pretty_array, List.map_map]
    refine decodeList_enclosed isSpace_of_mem_newLine isSpace_of_mem_newLine ?_
    intro record hrecord
    exact reads_pretty_toValue (hscore record hrecord)

section Accepted

variable {records : List Record} {value : Score → Score}

/-- Where the number reader takes the texts of all finite scores, a written list is decoded from one
value per record: it gives the record with its score reread, or it is refused. -/
theorem exists_values_written
    (haccepted : ∀ record ∈ records, record.score.isFinite = true → ∃ number : Number,
      (readNumber (Number.real record.score).text.toList : Except (Fault Mismatch) _) =
        .ok (number, []) ∧ number.toScore = value record.score) :
    ∃ read : Record → Value,
      (∀ text ∈ [compactText (listValue records), prettyText (listValue records)],
        decodeList text = ofValuesFrom 0 (records.map read)) ∧
      ∀ record ∈ records, ofValue (read record) =
        if record.score.isFinite then .ok { record with score := value record.score }
        else .error (.scoreNotANumber .null) := by
  have hnonempty : Nonempty Value := ⟨.null⟩
  have hslots : ∀ record ∈ records, ∃ slot,
      Reads (readValue (maxDepth - 2) : Reader Mismatch Value) (compact (.ofScore record.score))
        slot ∧
      scoreOf slot =
        if record.score.isFinite then .ok (value record.score)
        else .error (.scoreNotANumber .null) :=
    fun record hrecord => exists_reads_ofScore (haccepted record hrecord)
  choose! slot hslot using hslots
  refine ⟨fun record => .array (record.valuesWith (slot record)),
    decodeList_written fun record hrecord => (hslot record hrecord).1, ?_⟩
  intro record hrecord
  rw [ofValue, ofValues_valuesWith, (hslot record hrecord).2]
  split <;> rfl

end Accepted

/-! ### The round trip -/

/-- The index of the first record whose score is a NaN or an infinity. -/
def IsFirstNonFinite (records : List Record) (index : Nat) : Prop :=
  (∃ record, records[index]? = some record ∧ record.score.isFinite = false) ∧
    ∀ earlier < index, ∀ record, records[earlier]? = some record → record.score.isFinite = true

theorem isFirstNonFinite_length {front back : List Record} {record : Record}
    (hfront : ∀ other ∈ front, other.score.isFinite = true)
    (hrecord : record.score.isFinite = false) :
    IsFirstNonFinite (front ++ record :: back) front.length := by
  refine ⟨⟨record, by simp, hrecord⟩, ?_⟩
  intro earlier hearlier other hother
  rw [List.getElem?_append_left hearlier] at hother
  exact hfront other (List.mem_of_getElem? hother)

theorem IsFirstNonFinite.unique {records : List Record} {index other : Nat}
    (hindex : IsFirstNonFinite records index) (hother : IsFirstNonFinite records other) :
    index = other := by
  obtain ⟨⟨record, hrecord, hscore⟩, hbefore⟩ := hindex
  obtain ⟨⟨rival, hrival, hrivalScore⟩, hotherBefore⟩ := hother
  rcases Nat.lt_trichotomy index other with hlt | heq | hgt
  · have hfinite := hotherBefore index hlt record hrecord
    rw [hscore] at hfinite
    cases hfinite
  · exact heq
  · have hfinite := hbefore other hgt rival hrival
    rw [hrivalScore] at hfinite
    cases hfinite

theorem exists_append_first {α : Type} {P : α → Prop} {items : List α}
    (hbad : ∃ item ∈ items, ¬P item) :
    ∃ front item back, items = front ++ item :: back ∧ (∀ other ∈ front, P other) ∧ ¬P item := by
  induction items with
  | nil =>
      obtain ⟨_, hmem, _⟩ := hbad
      cases hmem
  | cons item items ih =>
      by_cases hitem : P item
      · obtain ⟨other, hother, hbad⟩ := hbad
        have hlater : other ∈ items := by
          rcases List.mem_cons.mp hother with rfl | hlater
          · exact absurd hitem hbad
          · exact hlater
        obtain ⟨front, first, back, rfl, hfront, hfirst⟩ := ih ⟨other, hlater, hbad⟩
        exact ⟨item :: front, first, back, rfl, List.forall_mem_cons.mpr ⟨hitem, hfront⟩, hfirst⟩
      · exact ⟨[], item, items, rfl, by simp, hitem⟩

theorem exists_append_nonFinite {records : List Record}
    (hbad : ∃ record ∈ records, record.score.isFinite = false) :
    ∃ front record back, records = front ++ record :: back ∧
      (∀ other ∈ front, other.score.isFinite = true) ∧ record.score.isFinite = false := by
  obtain ⟨witness, hwitness, hscore⟩ := hbad
  obtain ⟨front, record, back, hrecords, hfront, hrecord⟩ :=
    exists_append_first (P := fun record : Record => record.score.isFinite = true)
      ⟨witness, hwitness, by simp [hscore]⟩
  exact ⟨front, record, back, hrecords, hfront, by simpa using hrecord⟩

/-- **The round trip of the record codec.** Let the number reader take the whole text of every
finite score of the list, and let `value` be what it makes of it. Then both written forms decode to
the list with only the scores replaced; and if some score is not finite, both are refused at the
first such record. -/
theorem decodeList_listValue (records : List Record) (value : Score → Score)
    (haccepted : ∀ record ∈ records, record.score.isFinite = true → ∃ number : Number,
      (readNumber (Number.real record.score).text.toList : Except (Fault Mismatch) _) =
        .ok (number, []) ∧ number.toScore = value record.score) :
    ((∀ record ∈ records, record.score.isFinite = true) →
      ∀ text ∈ [compactText (listValue records), prettyText (listValue records)],
        decodeList text =
          .ok (records.map fun record => { record with score := value record.score })) ∧
    ((∃ record ∈ records, record.score.isFinite = false) →
      ∃ index fault, IsFirstNonFinite records index ∧
        fault.message = "score must be a number, got null" ∧
        ∀ text ∈ [compactText (listValue records), prettyText (listValue records)],
          decodeList text = .error (.record index fault)) := by
  obtain ⟨read, hdecode, hread⟩ := exists_values_written haccepted
  constructor
  · intro hfinite text htext
    rw [hdecode text htext]
    refine ofValuesFrom_map_ok ?_ 0
    intro record hrecord
    rw [hread record hrecord, if_pos (hfinite record hrecord)]
  · intro hbad
    obtain ⟨front, record, back, rfl, hfront, hrecord⟩ := exists_append_nonFinite hbad
    refine ⟨front.length, .scoreNotANumber .null, isFirstNonFinite_length hfront hrecord, rfl, ?_⟩
    intro text htext
    have hgood : ∀ item ∈ front.map read, ∃ decoded, ofValue item = .ok decoded := by
      intro item hitem
      obtain ⟨other, hother, rfl⟩ := List.mem_map.mp hitem
      refine ⟨{ other with score := value other.score }, ?_⟩
      rw [hread other (List.mem_append_left _ hother), if_pos (hfront other hother)]
    have hrefused : ofValue (read record) = .error (.scoreNotANumber .null) := by
      rw [hread record (List.mem_append_right _ List.mem_cons_self), if_neg (by simp [hrecord])]
    rw [hdecode text htext, List.map_append, List.map_cons,
      ofValuesFrom_append_error hgood hrefused, Nat.zero_add, List.length_map]

/-- A record with every kind of written character and no filename. Its score is written as `1e-23`,
which the number reader takes for the next score above. -/
def unruly : Record where
  docName := "\"quoted\" \\ and /"
  title := "\x00\x1f\x7f\u2028𝄞"
  anchor := ""
  description := "\n\r\t"
  score := .ofBits 0x3b282db34012b251
  filename := none

theorem readNumber_unruly :
    (readNumber (Number.real unruly.score).text.toList : Except (Fault Mismatch) _) =
      .ok (.real (.ofBits 0x3b282db34012b252), []) := by
  have hread : (readNumber (Number.real unruly.score).text.toList :
      Except (Fault Mismatch) _).toOption = some (.real (.ofBits 0x3b282db34012b252), []) := by
    decide +kernel
  revert hread
  cases (readNumber (Number.real unruly.score).text.toList : Except (Fault Mismatch) _) with
  | error fault => exact fun hread => nomatch hread
  | ok read => exact fun hread => congrArg Except.ok (Option.some.inj hread)

theorem decodeList_unruly :
    (∀ text ∈ [compactText (listValue [unruly, { unruly with filename := some "" }]),
        prettyText (listValue [unruly, { unruly with filename := some "" }])],
      decodeList text = .ok [{ unruly with score := .ofBits 0x3b282db34012b252 },
        { unruly with score := .ofBits 0x3b282db34012b252, filename := some "" }]) ∧
    ∃ fault : RecordFault, fault.message = "score must be a number, got null" ∧
      ∀ text ∈ [compactText (listValue [unruly, { unruly with score := .infinity true }, unruly]),
          prettyText (listValue [unruly, { unruly with score := .infinity true }, unruly])],
        decodeList text = .error (.record 1 fault) := by
  have hfinite : unruly.score.isFinite = true := by decide
  have haccepted : unruly.score.isFinite = true → ∃ number : Number,
      (readNumber (Number.real unruly.score).text.toList : Except (Fault Mismatch) _) =
        .ok (number, []) ∧ number.toScore = .ofBits 0x3b282db34012b252 :=
    fun _ => ⟨_, readNumber_unruly, rfl⟩
  constructor
  · refine (decodeList_listValue _ (fun _ => .ofBits 0x3b282db34012b252) ?_).1 ?_
    · simp only [List.forall_mem_cons]
      exact ⟨haccepted, haccepted, by simp⟩
    · simp only [List.forall_mem_cons]
      exact ⟨hfinite, hfinite, by simp⟩
  · have hinfinite : (Score.infinity true).isFinite = false := by decide
    obtain ⟨index, fault, hindex, hmessage, hrefused⟩ := (decodeList_listValue
      [unruly, { unruly with score := .infinity true }, unruly]
      (fun _ => .ofBits 0x3b282db34012b252) (by
        simp only [List.forall_mem_cons]
        exact ⟨haccepted, by simp [hinfinite], haccepted, by simp⟩)).2
      ⟨_, List.mem_cons_of_mem unruly List.mem_cons_self, hinfinite⟩
    have hfirst : IsFirstNonFinite ([unruly] ++ [{ unruly with score := .infinity true }, unruly])
        [unruly].length :=
      isFirstNonFinite_length (List.forall_mem_singleton.mpr hfinite) hinfinite
    rw [hindex.unique hfirst] at hrefused
    exact ⟨fault, hmessage, hrefused⟩

end SearchRanking.Record
