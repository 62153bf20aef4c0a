import SearchRanking.Proofs.Json.Finite
import SearchRanking.Proofs.Json.ScoreText
import SearchRanking.Proofs.Record.Spelling

/-!
# Integers in quotes

A whole number is read in one of three ways, by its sign and its size, and its text in quotes is
read as a decimal. All of these ways round the number once, to the nearest score, and take the sign
from the minus in front, which nought keeps as well. So quotes around a whole number below `2 ^ 64`
change nothing in the score.
-/

namespace SearchRanking

open Json Score Decimal

/-- A whole number as JSON has it: an optional minus, and digits without a zero in front. -/
inductive IntegerLiteral : List Char → Bool → Nat → Prop
  | natural {digits : List Char} (hdigits : WholeDigits digits) :
      IntegerLiteral digits false (Nat.ofDigitChars 10 digits 0)
  | negated {digits : List Char} (hdigits : WholeDigits digits) :
      IntegerLiteral ('-' :: digits) true (Nat.ofDigitChars 10 digits 0)

section Literals

variable {ε : Type} {text digits : List Char} {negative : Bool} {value : Nat}

theorem IntegerLiteral.signedNumeral (hliteral : IntegerLiteral text negative value) :
    SignedNumeral text negative ⟨value, 0⟩ := by
  cases hliteral with
  | natural hdigits => exact ⟨[], text, .absent, hdigits.digits.numeral hdigits.ne_nil, rfl⟩
  | negated hdigits => exact ⟨['-'], _, .minus, hdigits.digits.numeral hdigits.ne_nil, rfl⟩

theorem IntegerLiteral.isFigure (hliteral : IntegerLiteral text negative value) :
    ∀ c ∈ text, Record.isFigure c = true := by
  cases hliteral with
  | natural hdigits => exact fun c hc => Record.isFigure_of_isDigit (hdigits.digits c hc)
  | negated hdigits =>
      rw [List.forall_mem_cons]
      exact ⟨rfl, fun c hc => Record.isFigure_of_isDigit (hdigits.digits c hc)⟩

theorem readUnsigned_wholeDigits (hdigits : WholeDigits digits)
    (hfits : Nat.ofDigitChars 10 digits 0 < 0x10000000000000000) (negative : Bool) :
    (readUnsigned negative digits : Except (Fault ε) _) =
      .ok (wholeNumber negative (Nat.ofDigitChars 10 digits 0), []) := by
  rw [← appendDigits_eq_ofDigitChars] at hfits ⊢
  have hread := @readUnsigned_append ε digits [] hdigits (by simp) hfits negative
  rw [List.append_nil] at hread
  simp [hread, readPlaces]

theorem IntegerLiteral.readNumber_eq (hliteral : IntegerLiteral text negative value)
    (hfits : value < 0x10000000000000000) :
    (readNumber text : Except (Fault ε) _) = .ok (wholeNumber negative value, []) := by
  cases hliteral with
  | negated hdigits => exact readUnsigned_wholeDigits hdigits hfits true
  | natural hdigits =>
      obtain ⟨c, rest, rfl⟩ := List.exists_cons_of_ne_nil hdigits.ne_nil
      have hminus : c ≠ '-' := by
        rintro rfl
        have hdigit := hdigits.digits '-' List.mem_cons_self
        cases hdigit
      rw [← readUnsigned_wholeDigits hdigits hfits false]
      simp [readNumber, hminus]

theorem nearest_zero_power (negative : Bool) (value : Nat) :
    nearest negative ⟨value, 0⟩ = ofRatio negative value 1 := by
  have hpower : (0 : Int) = .ofNat 0 := rfl
  rw [hpower]
  by_cases hzero : value = 0
  · have hnought : nearestMagnitude 0 1 = 0 := by decide +kernel
    simp only [nearest, hzero, if_true, Score.zero, ofRatio, hnought]
  · have hone : tenTo 0 = 1 := rfl
    simp only [nearest, if_neg hzero, Nat.not_lt_zero, if_false, hone, Nat.mul_one]

/-- The decimal reader rounds the same ratio, and keeps the sign of nought too. -/
theorem nearest_whole (hfits : value < 0x10000000000000000) (negative : Bool) :
    nearest negative ⟨value, 0⟩ = (ofNat value).withSign negative := by
  have hfinite : (ofNat value).magnitude < infinityMagnitude :=
    of_decide_eq_true (isFinite_ofNat hfits)
  have hunsigned : (ofNat value).negative = false := by simp only [ofNat, ofRatio]
  obtain ⟨hnegative, hmagnitude⟩ := withSign_of_unsigned hunsigned hfinite negative
  rw [nearest_zero_power]
  refine eq_of_negative_of_magnitude hnegative.symm ?_
  rw [hmagnitude]
  simp only [ofNat, ofRatio]

end Literals

namespace Record

@[simp]
theorem scoreOf_number (number : Number) : scoreOf (.number number) = .ok number.toScore := rfl

/-- **Quotes around a whole number change nothing.** The number below `2 ^ 64` and the string of the
same text have one score, in every record and with any spaces around them: the one that is correctly
rounded from the number and has its sign, be it that of nought. -/
theorem decode_quoted_integer {text : String} {negative : Bool} {value : Nat}
    (hliteral : IntegerLiteral text.toList negative value) (hfits : value ≤ 2 ^ 64 - 1) :
    ∃ score : Score,
      (score.isFinite = true ∧ score.negative = negative ∧
        CorrectlyRounded ⟨value, 0⟩ score.magnitude) ∧
      Spells ("\"" ++ text ++ "\"") (.string text) ∧
      ∀ (texts : FrameText) (frame : Frame) (number quoted : String), texts.Spells frame →
        Padded number text → Spells quoted (.string text) →
        decode (texts.document number) = .ok (frame.record score) ∧
          decode (texts.document quoted) = .ok (frame.record score) := by
  have hlt : value < 0x10000000000000000 := by omega
  have hwhole := nearest_whole hlt negative
  have hfinite : (nearest negative ⟨value, 0⟩).isFinite = true := by
    simpa [hwhole] using isFinite_ofNat hlt
  have hfigures := hliteral.isFigure
  have hdenotes := denotes_nearest hliteral.signedNumeral hfinite
  refine ⟨nearest negative ⟨value, 0⟩,
    ⟨hfinite, negative_nearest _ _, correctlyRounded_nearest hfinite⟩,
    spells_quoted_of_figures hfigures, ?_⟩
  intro texts frame number quoted hframe hnumber hquoted
  have hslot := (spells_number (hliteral.readNumber_eq hlt)).padded hnumber
  have hscore : scoreOf (.number (wholeNumber negative value)) =
      .ok (nearest negative ⟨value, 0⟩) := by
    rw [scoreOf_number, toScore_wholeNumber, hwhole]
  exact ⟨decode_document_of_scoreOf hframe hslot hscore,
    decode_document_of_scoreOf hframe hquoted (scoreOf_of_figures hfigures hdenotes)⟩

/-- A number below `-2 ^ 63` that is not a score, just beyond the middle between two. -/
def belowWords : String := "-9223372036854776833"

theorem integerLiteral_belowWords :
    IntegerLiteral belowWords.toList true 9223372036854776833 := by
  have hdigits : WholeDigits "9223372036854776833".toList :=
    ⟨by decide, List.all_eq_true.mp (by decide +kernel), by decide⟩
  have hvalue : Nat.ofDigitChars 10 "9223372036854776833".toList 0 = 9223372036854776833 := by
    decide +kernel
  have htext : belowWords.toList = '-' :: "9223372036854776833".toList := by decide
  rw [htext, ← hvalue]
  exact .negated hdigits

theorem decode_belowWords :
    IntegerLiteral belowWords.toList true 9223372036854776833 ∧
    ∀ slot ∈ [" -9223372036854776833\n", "\"-9223372036854776833\"",
        " \"\\u002d9223372036854776833\""],
      decode (oddTexts.document slot) = .ok (oddFrame.record (.ofBits 0xc3e0000000000001)) := by
  refine ⟨integerLiteral_belowWords, ?_⟩
  obtain ⟨score, ⟨-, hnegative, hrounded⟩, hplain, hdecode⟩ :=
    decode_quoted_integer integerLiteral_belowWords (by decide)
  have hscore : score = .ofBits 0xc3e0000000000001 := by
    refine eq_of_negative_of_magnitude hnegative (hrounded.unique ?_)
    exact rounds_iff_correctlyRounded.mp (roundsTo_iff.mp (by decide +kernel))
  have hnumber : Padded " -9223372036854776833\n" belowWords := ⟨" ", "\n", rfl, rfl, by decide⟩
  have hescaped : Spells " \"\\u002d9223372036854776833\"" (.string belowWords) :=
    ⟨by cbv, by decide⟩
  rw [← hscore]
  simp only [List.forall_mem_cons]
  exact ⟨(hdecode _ _ _ _ spells_oddTexts hnumber hplain).1,
    (hdecode _ _ _ _ spells_oddTexts hnumber hplain).2,
    (hdecode _ _ _ _ spells_oddTexts hnumber hescaped).2, by simp⟩

end Record

end SearchRanking
