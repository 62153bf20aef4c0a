import SearchRanking.Proofs.Record.ScoreSlot

namespace SearchRanking.Record

open Json

/-- Nothing but the spaces that a document may have. -/
def IsGap (text : String) : Prop := skipSpaces text.toList = []

/-- The text with such spaces around it. -/
def Padded (wide text : String) : Prop :=
  ∃ before after, IsGap before ∧ IsGap after ∧ wide = before ++ text ++ after

/-- The text is a document for the value, which leaves room for one more container around it. -/
structure Spells (text : String) (value : Value) : Prop where
  read : (readDocument text : Except (Fault Mismatch) _) = .ok value
  nesting : value.nesting ≤ maxDepth - 1

section Texts

variable {text wide : String} {value : Value}

theorem endsNumber_of_isGap (hgap : IsGap text) : endsNumber text.toList = true := by
  cases hchars : text.toList with
  | nil => rfl
  | cons c rest =>
      have hspace : isSpace c = true := by
        rw [IsGap, hchars, skipSpaces, List.dropWhile_eq_nil_iff] at hgap
        exact hgap c List.mem_cons_self
      simp only [isSpace, Bool.or_eq_true, beq_iff_eq] at hspace
      rcases hspace with ((rfl | rfl) | rfl) | rfl <;> rfl

theorem readDocument_padded (hpadded : Padded wide text)
    (hread : (readDocument text : Except (Fault Mismatch) _) = .ok value) :
    (readDocument wide : Except (Fault Mismatch) _) = .ok value := by
  obtain ⟨before, after, hbefore, hafter, rfl⟩ := hpadded
  obtain ⟨c, tail, blank, hskip, hvalue, hblank⟩ := exists_read_followed
    (extends_readValue maxDepth) (needsText_readValue maxDepth) hread after.toList
    (endsNumber_of_isGap hafter)
  refine readWhole_eq_ok_iff.mpr ⟨blank ++ after.toList, ?_, ?_⟩
  · rw [String.toList_append, String.toList_append, List.append_assoc,
      skipSpaces_blank_append hbefore, hskip, hvalue]
  · rw [skipSpaces_blank_append hblank]
    exact hafter

theorem Spells.padded (hspells : Spells text value) (hpadded : Padded wide text) :
    Spells wide value :=
  ⟨readDocument_padded hpadded hspells.read, hspells.nesting⟩

theorem spells_of_reads
    (hreads : Reads (readValue maxDepth : Reader Mismatch Value) text.toList value)
    (hnesting : value.nesting ≤ maxDepth - 1) : Spells text value where
  read := by
    obtain ⟨c, rest, hchars, hspace, -⟩ := hreads.exists_cons_of_readValue
    have hskip : skipSpaces text.toList = text.toList := by
      rw [hchars, skipSpaces, List.dropWhile_cons_of_neg (by simp [hspace])]
    have hvalue := hreads [] rfl
    rw [List.append_nil] at hvalue
    exact readWhole_eq_ok_iff.mpr ⟨[], by rwa [hskip], rfl⟩
  nesting := hnesting

theorem spells_number {number : Number}
    (hread : (readNumber text.toList : Except (Fault Mismatch) _) = .ok (number, [])) :
    Spells text (.number number) :=
  spells_of_reads (reads_readValue (fun _ _ => reads_number hread) maxDepth) (Nat.zero_le _)

/-- A text without characters that need an escape is spelled by itself between quotes. -/
theorem spells_quoted (hplain : ∀ c ∈ text.toList, escapedChar c = [c]) :
    Spells ("\"" ++ text ++ "\"") (.string text) := by
  have hwritten : ("\"" ++ text ++ "\"").toList = writtenText text := by
    rw [writtenText, List.flatMap_congr hplain, List.flatMap_singleton', String.toList_append,
      String.toList_append]
    rfl
  refine spells_of_reads ?_ (Nat.zero_le _)
  rw [hwritten]
  exact reads_readValue (fun _ _ => reads_string text) maxDepth

end Texts

/-- The texts around the score of a record, from the front of its document to the end. -/
structure FrameText where
  before : String
  docName : String
  title : String
  anchor : String
  description : String
  filename : String
  after : String

namespace FrameText

/-- The document with a text in the score slot. -/
def document (texts : FrameText) (slot : String) : String :=
  texts.before ++ listText [texts.docName, texts.title, texts.anchor, texts.description, slot,
    texts.filename] ++ texts.after

/-- The slots spell the values of the frame, with nothing but spaces around the list. -/
structure Spells (texts : FrameText) (frame : Frame) : Prop where
  before : IsGap texts.before
  docName : Record.Spells texts.docName frame.docName
  title : Record.Spells texts.title frame.title
  anchor : Record.Spells texts.anchor frame.anchor
  description : Record.Spells texts.description frame.description
  filename : Record.Spells texts.filename frame.filename
  after : IsGap texts.after

end FrameText

section Documents

variable {texts : FrameText} {frame : Frame} {slot : String} {value : Value}

/-- The value that a text spells, if there is one. -/
def valueOf (text : String) : Value :=
  (readDocument text : Except (Fault Mismatch) _).toOption.getD .null

theorem Spells.valueOf_eq (hspells : Spells slot value) : valueOf slot = value := by
  rw [valueOf, hspells.read]
  rfl

theorem readDocument_document (hframe : texts.Spells frame) (hslot : Spells slot value) :
    (readDocument (texts.document slot) : Except (Fault Mismatch) _) =
      .ok (.array (frame.values value)) := by
  refine readDocument_padded ⟨_, _, hframe.before, hframe.after, rfl⟩ ?_
  have hvalues : [texts.docName, texts.title, texts.anchor, texts.description, slot,
      texts.filename].map valueOf = frame.values value := by
    simp only [List.map_cons, List.map_nil, hframe.docName.valueOf_eq, hframe.title.valueOf_eq,
      hframe.anchor.valueOf_eq, hframe.description.valueOf_eq, hslot.valueOf_eq,
      hframe.filename.valueOf_eq, Frame.values]
  have hspelled : ∀ {text : String} {found : Value}, Spells text found →
      (readDocument text : Except (Fault Mismatch) _) = .ok (valueOf text) ∧
        (valueOf text).nesting ≤ maxDepth - 1 := by
    intro text found hfound
    rw [hfound.valueOf_eq]
    exact ⟨hfound.read, hfound.nesting⟩
  rw [← hvalues, ← readWhole_readValues_eq_ok_iff]
  refine readWhole_readValues_listText ?_
  simp only [List.forall_mem_cons]
  exact ⟨hspelled hframe.docName, hspelled hframe.title, hspelled hframe.anchor,
    hspelled hframe.description, hspelled hslot, hspelled hframe.filename, by simp⟩

/-- **A record is decoded by what its slots spell.** The judgement on the document is that on the
value in the score slot. -/
theorem decode_document (hframe : texts.Spells frame) (hslot : Spells slot value) :
    decode (texts.document slot) = ((scoreOf value).map frame.record).mapError (.record 0) := by
  rw [decode_eq_of_readDocument (readDocument_document hframe hslot), ofValue,
    frame.ofValues_values]

theorem decode_document_of_scoreOf {score : Score} (hframe : texts.Spells frame)
    (hslot : Spells slot value) (hscore : scoreOf value = .ok score) :
    decode (texts.document slot) = .ok (frame.record score) := by
  rw [decode_document hframe hslot, hscore]
  rfl

end Documents

/-- The odd record with spaces wherever a document may have them. -/
def oddTexts : FrameText where
  before := "\n"
  docName := "null"
  title := " true"
  anchor := "[ ]"
  description := "7 "
  filename := " \x7b\t\x7d\n"
  after := " "

theorem spells_oddTexts : oddTexts.Spells oddFrame where
  before := rfl
  docName := ⟨by cbv, by decide⟩
  title := ⟨by cbv, by decide⟩
  anchor := ⟨by cbv, by decide⟩
  description := ⟨by cbv, by decide⟩
  filename := ⟨by cbv, by decide⟩
  after := rfl

def isFigure (c : Char) : Bool := c.isDigit || c == '-' || c == '.'

section Figures

variable {text : String} {score : Score}

theorem isFigure_of_isDigit {c : Char} (hc : c.isDigit = true) : isFigure c = true := by
  rw [isFigure, hc, Bool.true_or, Bool.true_or]

theorem toNat_of_isFigure {c : Char} (hc : isFigure c = true) : 45 ≤ c.toNat ∧ c.toNat ≤ 57 := by
  rw [isFigure, Bool.or_eq_true, Bool.or_eq_true, beq_iff_eq, beq_iff_eq] at hc
  rcases hc with (hdigit | rfl) | rfl
  · simp only [Char.isDigit, Bool.and_eq_true, decide_eq_true_eq] at hdigit
    exact ⟨Nat.le_trans (by decide) (show 48 ≤ c.toNat from hdigit.1), hdigit.2⟩
  · decide
  · decide

theorem escapedChar_of_isFigure {c : Char} (hc : isFigure c = true) : escapedChar c = [c] := by
  obtain ⟨hlower, -⟩ := toNat_of_isFigure hc
  unfold escapedChar
  split
  case h_8 => rw [if_neg (by omega)]
  all_goals cases hc

theorem isBlank_of_isFigure {c : Char} (hc : isFigure c = true) : Text.isBlank c = false := by
  obtain ⟨hlower, hupper⟩ := toNat_of_isFigure hc
  rw [Text.isBlank, Text.inRanges, List.any_eq_false]
  simp only [Text.blankRanges, List.forall_mem_cons, List.not_mem_nil, false_imp_iff, implies_true,
    and_true, Bool.and_eq_true, decide_eq_true_eq]
  omega

theorem spells_quoted_of_figures (hfigures : ∀ c ∈ text.toList, isFigure c = true) :
    Spells ("\"" ++ text ++ "\"") (.string text) :=
  spells_quoted fun c hc => escapedChar_of_isFigure (hfigures c hc)

/-- A numeral of such characters has no blanks to be trimmed. -/
theorem scoreOf_of_figures (hfigures : ∀ c ∈ text.toList, isFigure c = true)
    (hdenotes : Denotes text.toList score) : scoreOf (.string text) = .ok score := by
  have hnone : Text.AllBlank [] := fun _ hc => absurd hc List.not_mem_nil
  refine scoreOf_of_denotes ⟨⟨[], [], by simp, hnone, hnone⟩, ?_, ?_⟩ hdenotes
  · intro c hc
    exact isBlank_of_isFigure (hfigures c (List.mem_of_head? hc))
  · intro c hc
    exact isBlank_of_isFigure (hfigures c (List.mem_of_getLast? hc))

theorem denotes_nearest {body : List Char} {negative : Bool} {decimal : Decimal}
    (hnumeral : Score.SignedNumeral body negative decimal)
    (hfinite : (decimal.nearest negative).isFinite = true) :
    Denotes body (decimal.nearest negative) := by
  refine ⟨hfinite, decimal, ?_, Decimal.correctlyRounded_nearest hfinite⟩
  rwa [Decimal.negative_nearest]

end Figures

end SearchRanking.Record
