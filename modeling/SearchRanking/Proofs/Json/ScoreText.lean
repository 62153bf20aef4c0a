import SearchRanking.Proofs.Decimal.Literal
import SearchRanking.Proofs.Json.Number
import SearchRanking.Proofs.Json.Scaling

namespace SearchRanking.Json

open Score Decimal

variable {ε : Type}

theorem le_appendDigits (value : Nat) (digits : List Char) :
    value ≤ appendDigits value digits := by
  rw [appendDigits_eq_add]
  have hvalue := Nat.le_mul_of_pos_right value (tenTo_pos digits.length)
  omega

theorem gather_eq {significand : Nat} {digits : List Char}
    (hfits : appendDigits significand digits < 0x10000000000000000) :
    gather significand digits = (appendDigits significand digits, digits.length) := by
  induction digits generalizing significand with
  | nil => rfl
  | cons digit digits ih =>
      have hnext : significand * 10 + (digit.toNat - '0'.toNat) < 0x10000000000000000 :=
        (le_appendDigits _ digits).trans_lt hfits
      rw [gather]
      simp only [if_pos hnext, ih hfits]
      rfl

theorem readExponent_eq {mark : List Char} {value : Int} (hmark : exponentOf? mark = some value)
    (negative : Bool) (significand : Nat) (power : Int) :
    (readExponent negative significand power mark : Except (Fault ε) _) =
      realNumber negative significand (power + value) [] := by
  unfold exponentOf? at hmark
  rcases hsign : splitSign mark with ⟨below, digits⟩
  simp only [hsign, Option.map_eq_some_iff, naturalOf?] at hmark
  obtain ⟨exponent, hexponent, rfl⟩ := hmark
  split at hexponent
  · cases hexponent
  next hdigits =>
  simp only [Bool.or_eq_true, Bool.not_eq_true', not_or, Bool.not_eq_false] at hdigits
  cases hexponent
  have hspan := spanDigits_of_allDigits (List.all_eq_true.mp hdigits.2)
  simp only [readExponent, hsign, hspan, if_neg hdigits.1]

/-- Whole digits below `2 ^ 64` are gathered without loss, and what follows them is read next. -/
theorem readUnsigned_append {whole rest : List Char} (hwhole : WholeDigits whole)
    (hrest : ∀ c tail, rest = c :: tail → c.isDigit = false)
    (hfits : appendDigits 0 whole < 0x10000000000000000) (negative : Bool) :
    (readUnsigned negative (whole ++ rest) : Except (Fault ε) _) =
      readPlaces negative (appendDigits 0 whole) 0 rest := by
  have hleading : (whole.head? = some '0' && 1 < whole.length) = false := by
    rw [Bool.and_eq_false_iff]
    by_cases hzero : whole.head? = some '0'
    · right
      simp [hwhole.leading hzero]
    · left
      simpa using hzero
  simp only [readUnsigned, spanDigits_append_of_allDigits hwhole.digits hrest, gather_eq hfits,
    Nat.sub_self]
  simp [hwhole.ne_nil, hleading]

theorem readUnsigned_whole {whole : List Char} {mark : Char} (hwhole : WholeDigits whole)
    (hmark : mark.isDigit = false)
    (hfits : appendDigits 0 whole < 0x10000000000000000) (negative : Bool) (rest : List Char) :
    (readUnsigned negative (whole ++ mark :: rest) : Except (Fault ε) _) =
      readPlaces negative (appendDigits 0 whole) 0 (mark :: rest) := by
  refine readUnsigned_append hwhole ?_ hfits negative
  rintro c tail heq
  cases heq
  exact hmark

theorem readUnsigned_eq_realNumber {text : List Char} {decimal : Decimal}
    (hliteral : RealLiteral text decimal) (hfits : decimal.coefficient < 0x10000000000000000)
    (negative : Bool) :
    (readUnsigned negative text : Except (Fault ε) _) =
      realNumber negative decimal.coefficient decimal.power [] := by
  cases hliteral with
  | point hwhole hne hfraction =>
      rw [readUnsigned_whole hwhole rfl ((le_appendDigits _ _).trans_lt hfits)]
      simp [readPlaces, spanDigits_of_allDigits hfraction, hne, gather_eq hfits, readScale]
  | exponent hwhole hmark =>
      rw [readUnsigned_whole hwhole rfl hfits]
      simp [readPlaces, readExponent_eq hmark]
  | @scientific _ fraction _ value hwhole hne hfraction hmark =>
      have hpower : -(fraction.length : Int) + value = value - fraction.length := by omega
      rw [readUnsigned_whole hwhole rfl ((le_appendDigits _ _).trans_lt hfits)]
      simp [readPlaces, spanDigits_before_mark hfraction, hne, gather_eq hfits, readScale,
        readExponent_eq hmark, hpower]

/-- What is written of a finite score behind its sign. -/
def magnitudeText (magnitude : Nat) : List Char :=
  if magnitude = 0 then ['0', '.', '0'] else (shortest .even magnitude).text numberLayout

theorem toList_text_real {score : Score} (hfinite : score.isFinite = true) :
    (Number.real score).text.toList = score.signText ++ magnitudeText score.magnitude := by
  have hlt : score.magnitude < infinityMagnitude := of_decide_eq_true hfinite
  have hnumber : score.isNaN = false := decide_eq_false (Nat.not_lt.mpr hlt.le)
  rw [Number.text, written, magnitudeText]
  by_cases hzero : score.magnitude = 0
  · simp [hnumber, hfinite, isZero, hzero, numberLayout]
  · simp [hnumber, hfinite, isZero, hzero, numberLayout]

theorem realLiteral_magnitudeText_zero : RealLiteral (magnitudeText 0) ⟨0, -1⟩ := by
  have hzero := allDigits_replicate_zero 1
  exact RealLiteral.point ⟨List.cons_ne_nil _ _, hzero, fun _ => rfl⟩ (List.cons_ne_nil _ _) hzero

theorem exists_literal_magnitudeText {magnitude : Nat} (hpositive : 0 < magnitude) :
    ∃ literal, RealLiteral (magnitudeText magnitude) literal ∧ Rounds literal magnitude ∧
      literal.coefficient ≤ tenTo 17 ∧ -324 ≤ literal.power := by
  obtain ⟨hrounds, hcoefficient, hpower⟩ := shortest_spec .even hpositive
  obtain ⟨literal, hliteral, hsame, hmost, hleast⟩ :=
    exists_realLiteral_text (hrounds.coefficient_pos hpositive)
  refine ⟨literal, ?_, hsame magnitude hrounds, ?_, by omega⟩
  · rwa [magnitudeText, if_neg hpositive.ne']
  · rwa [Nat.max_eq_right hcoefficient] at hmost

def greatest : Score where
  negative := false
  magnitude := infinityMagnitude - 1
  magnitude_lt := by decide

theorem scaled?_greatest :
    ∀ magnitude ∈ [infinityMagnitude - 2, infinityMagnitude - 1],
      (ofText? (magnitudeText magnitude)).any (fun literal => 22 < literal.power &&
        scaled? literal.coefficient literal.power = some greatest) = true := by
  decide +kernel

theorem exists_scaled_magnitudeText {magnitude : Nat} (hfinite : magnitude < infinityMagnitude) :
    ∃ literal score, RealLiteral (magnitudeText magnitude) literal ∧
      literal.coefficient ≤ tenTo 17 ∧
      scaled? literal.coefficient literal.power = some score ∧
      WithinTwo score magnitude ∧ score.magnitude < infinityMagnitude ∧
      (literal.coefficient ≤ 2 * exponentWeight → -22 ≤ literal.power → literal.power ≤ 22 →
        score.magnitude = magnitude) := by
  rcases Nat.eq_zero_or_pos magnitude with rfl | hpositive
  · have hscaled : scaled? 0 (-1) = some (zero false) := by decide +kernel
    exact ⟨_, _, realLiteral_magnitudeText_zero, Nat.zero_le _, hscaled,
      ⟨rfl, Nat.zero_le _, Nat.zero_le _⟩, hfinite, fun _ _ _ => rfl⟩
  obtain ⟨literal, hliteral, hrounds, hcoefficient, hpower⟩ :=
    exists_literal_magnitudeText hpositive
  by_cases hinner : magnitude + 2 < infinityMagnitude
  · obtain ⟨score, hscaled, hwithin, hexact⟩ :=
      exists_scaled?_eq (hrounds.coefficient_pos hpositive) hcoefficient hpower hrounds hinner
    exact ⟨literal, score, hliteral, hcoefficient, hscaled, hwithin,
      hwithin.above.trans_lt hinner, hexact⟩
  · -- Two steps above the last two magnitudes there is no score, so these are read one by one.
    have hlast : magnitude ∈ [infinityMagnitude - 2, infinityMagnitude - 1] := by
      simp only [List.mem_cons, List.not_mem_nil, or_false]
      omega
    have hchecked := scaled?_greatest magnitude hlast
    rw [hliteral.ofText?_eq, Option.any_some, Bool.and_eq_true, decide_eq_true_eq,
      decide_eq_true_eq] at hchecked
    refine ⟨literal, greatest, hliteral, hcoefficient, hchecked.2, ⟨rfl, ?_, ?_⟩, by decide, ?_⟩
    · simp only [greatest]
      omega
    · simp only [greatest]
      omega
    · intro _ _ hsmall
      omega

theorem withSign_of_unsigned {score : Score} (hunsigned : score.negative = false)
    (hfinite : score.magnitude < infinityMagnitude) (negative : Bool) :
    (score.withSign negative).negative = negative ∧
      (score.withSign negative).magnitude = score.magnitude := by
  have hnumber : score.isNaN = false := decide_eq_false (Nat.not_lt.mpr hfinite.le)
  cases negative with
  | false => exact ⟨hunsigned, rfl⟩
  | true => simp [withSign, negate, hnumber, hunsigned]

theorem eq_of_negative_of_magnitude {left right : Score}
    (hnegative : left.negative = right.negative) (hmagnitude : left.magnitude = right.magnitude) :
    left = right := by
  cases left
  cases right
  cases hnegative
  cases hmagnitude
  rfl

theorem readNumber_signText_append {score : Score} {text : List Char} {decimal : Decimal}
    (hliteral : RealLiteral text decimal) :
    (readNumber (score.signText ++ text) : Except (Fault ε) _) =
        readUnsigned score.negative text ∧
      (splitSign (score.signText ++ text)).2 = text := by
  rw [signText]
  cases score.negative with
  | true => exact ⟨rfl, rfl⟩
  | false =>
      obtain ⟨c, rest, rfl, hdigit⟩ := hliteral.exists_cons
      have hminus : c ≠ '-' := by
        rintro rfl
        cases hdigit
      have hplus : c ≠ '+' := by
        rintro rfl
        cases hdigit
      constructor
      · simp [readNumber, hminus]
      · simp [splitSign, hminus, hplus]

/-- The score that is read for a written one. Its literal is the text behind the sign, read as a
decimal. -/
structure Reread (score reread : Score) (literal : Decimal) : Prop where
  negative_eq : reread.negative = score.negative
  isFinite : reread.isFinite = true
  le_add_two : reread.magnitude ≤ score.magnitude + 2
  ge_sub_two : score.magnitude ≤ reread.magnitude + 2
  exact : literal.coefficient ≤ 2 ^ 53 → -22 ≤ literal.power → literal.power ≤ 22 → reread = score

theorem exists_reread {score : Score} (hfinite : score.isFinite = true) :
    ∃ literal reread,
      ofText? (splitSign (Number.real score).text.toList).2 = some literal ∧
      (readNumber (Number.real score).text.toList : Except (Fault ε) _) =
        .ok (.real reread, []) ∧
      Reread score reread literal := by
  have hlt : score.magnitude < infinityMagnitude := of_decide_eq_true hfinite
  obtain ⟨literal, scaled, hliteral, hcoefficient, hscaled, hwithin, hscaledLt, hexact⟩ :=
    exists_scaled_magnitudeText hlt
  obtain ⟨hread, hsplit⟩ := @readNumber_signText_append ε score _ _ hliteral
  obtain ⟨hnegative, hmagnitude⟩ :=
    withSign_of_unsigned hwithin.unsigned hscaledLt score.negative
  have hfits : literal.coefficient < 0x10000000000000000 := hcoefficient.trans_lt (by decide)
  refine ⟨literal, scaled.withSign score.negative, ?_, ?_, ?_⟩
  · rw [toList_text_real hfinite, hsplit, hliteral.ofText?_eq]
  · rw [toList_text_real hfinite, hread, readUnsigned_eq_realNumber hliteral hfits, realNumber,
      hscaled]
  · refine ⟨hnegative, ?_, ?_, ?_, ?_⟩
    · exact decide_eq_true (hmagnitude.trans_lt hscaledLt)
    · rw [hmagnitude]
      exact hwithin.above
    · rw [hmagnitude]
      exact hwithin.below
    · intro hsmall hlower hupper
      exact eq_of_negative_of_magnitude hnegative
        (hmagnitude.trans (hexact hsmall hlower hupper))

end SearchRanking.Json
