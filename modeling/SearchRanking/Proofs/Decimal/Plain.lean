import SearchRanking.Config.Basic
import SearchRanking.Proofs.Decimal.Nearest
import SearchRanking.Proofs.Score.Literal

namespace SearchRanking

open Score Decimal

namespace Decimal

section Positional

variable {digits : List Char} {decimal : Decimal} {magnitude : Nat}

theorem numeral_append_zeros (hleading : LeadingDigits digits) (zeros : Nat) :
    Numeral (digits ++ List.replicate zeros '0') ⟨appendDigits 0 digits * tenTo zeros, 0⟩ := by
  have hdigits := hleading.digits.append (allDigits_replicate_zero zeros)
  have hnumeral := hdigits.numeral (List.append_ne_nil_of_left_ne_nil hleading.ne_nil _)
  rwa [← appendDigits_eq_ofDigitChars, appendDigits_append, appendDigits_replicate_zero]
    at hnumeral

/-- A whole number ends in the zeros before its point; any other number is written with its point,
as in the layout of JSON. -/
theorem exists_numeral_positionalText (hleading : LeadingDigits digits) (exponent : Int) :
    ∃ zeros : Nat, Numeral (positionalText false digits exponent)
      ⟨appendDigits 0 digits * tenTo zeros, exponent + 1 - digits.length - zeros⟩ := by
  have hsame : ∀ exponent : Int,
      positionalText false digits exponent = positionalText true digits exponent →
        ∃ zeros : Nat, Numeral (positionalText false digits exponent)
          ⟨appendDigits 0 digits * tenTo zeros, exponent + 1 - digits.length - zeros⟩ := by
    intro exponent hpoint
    obtain ⟨zeros, hliteral, -⟩ := realLiteral_positionalText hleading exponent
    rw [hpoint]
    exact ⟨zeros, ofText?_eq_some_iff.mp hliteral.ofText?_eq⟩
  cases exponent with
  | negSucc below => exact hsame _ rfl
  | ofNat exponent =>
      by_cases hshort : digits.length ≤ exponent + 1
      · have htext : positionalText false digits (.ofNat exponent) =
            digits ++ List.replicate (exponent + 1 - digits.length) '0' := by
          simp [positionalText, hshort]
        have hpower : Int.ofNat exponent + 1 - digits.length -
            (exponent + 1 - digits.length : Nat) = 0 := by
          rw [Int.ofNat_eq_natCast]
          omega
        refine ⟨exponent + 1 - digits.length, ?_⟩
        rw [htext, hpower]
        exact numeral_append_zeros hleading _
      · exact hsame _ (by simp only [positionalText, if_neg hshort])

/-- **The plain text of a decimal** is a numeral for the same number. -/
theorem exists_numeral_text (hrounds : Rounds decimal magnitude)
    (hpositive : 0 < decimal.coefficient) :
    ∃ literal, Numeral (decimal.text plainLayout) literal ∧ Rounds literal magnitude := by
  obtain ⟨hleading, -⟩ := exists_significantDigits hpositive
  obtain ⟨zeros, hnumeral⟩ := exists_numeral_positionalText hleading decimal.exponent
  refine ⟨_, hnumeral, ?_⟩
  rw [rounds_mul_pow_iff, Int.sub_add_cancel]
  exact hrounds.significantDigits hpositive

theorem mem_positionalText {c : Char} {exponent : Int}
    (hc : c ∈ positionalText false digits exponent) : c ∈ digits ∨ c = '0' ∨ c = '.' := by
  cases exponent with
  | negSucc zeros =>
      simp only [positionalText, List.mem_cons, List.mem_append] at hc
      rcases hc with rfl | rfl | hc | hc
      · exact .inr (.inl rfl)
      · exact .inr (.inr rfl)
      · exact .inr (.inl (List.eq_of_mem_replicate hc))
      · exact .inl hc
  | ofNat exponent =>
      rw [positionalText] at hc
      split at hc
      · rw [if_neg Bool.false_ne_true, List.append_nil, List.mem_append] at hc
        exact hc.imp_right fun hzero => .inl (List.eq_of_mem_replicate hzero)
      · rw [List.mem_append, List.mem_cons] at hc
        rcases hc with hc | rfl | hc
        · exact .inl (List.mem_of_mem_take hc)
        · exact .inr (.inr rfl)
        · exact .inl (List.mem_of_mem_drop hc)

theorem isDigit_or_point_of_mem_text (hpositive : 0 < decimal.coefficient) :
    ∀ c ∈ decimal.text plainLayout, c.isDigit = true ∨ c = '.' := by
  obtain ⟨hleading, -⟩ := exists_significantDigits hpositive
  intro c hc
  rcases mem_positionalText hc with hdigit | rfl | rfl
  · exact .inl (hleading.digits c hdigit)
  · exact .inl rfl
  · exact .inr rfl

end Positional

end Decimal

namespace Score

variable {score : Score}

/-- What is written plainly of a finite score behind its sign. -/
def plainText (magnitude : Nat) : List Char :=
  if magnitude = 0 then ['0'] else (shortest .up magnitude).text plainLayout

theorem toList_written_plain (hfinite : score.isFinite = true) :
    (score.written plainLayout).toList = score.signText ++ plainText score.magnitude := by
  have hlt : score.magnitude < infinityMagnitude := of_decide_eq_true hfinite
  have hnumber : score.isNaN = false := decide_eq_false (Nat.not_lt.mpr hlt.le)
  rw [written, plainText]
  by_cases hzero : score.magnitude = 0
  · simp [hnumber, hfinite, isZero, hzero, plainLayout]
  · simp [hnumber, hfinite, isZero, hzero, plainLayout]

theorem exists_numeral_plainText (magnitude : Nat) :
    ∃ literal, Numeral (plainText magnitude) literal ∧ Rounds literal magnitude := by
  rcases Nat.eq_zero_or_pos magnitude with rfl | hpositive
  · have hzero : Numeral ['0'] ⟨0, 0⟩ := ofText?_eq_some_iff.mp (by decide)
    exact ⟨_, hzero, rounds_zero_of_coefficient_zero 0⟩
  · obtain ⟨hrounds, -, -⟩ := shortest_spec .up hpositive
    rw [plainText, if_neg hpositive.ne']
    exact exists_numeral_text hrounds (hrounds.coefficient_pos hpositive)

theorem isDigit_or_point_of_mem_plainText (magnitude : Nat) :
    ∀ c ∈ plainText magnitude, c.isDigit = true ∨ c = '.' := by
  rcases Nat.eq_zero_or_pos magnitude with rfl | hpositive
  · rw [plainText, if_pos rfl, List.forall_mem_singleton]
    exact .inl rfl
  · obtain ⟨hrounds, -, -⟩ := shortest_spec .up hpositive
    rw [plainText, if_neg hpositive.ne']
    exact isDigit_or_point_of_mem_text (hrounds.coefficient_pos hpositive)

theorem sign_signText (score : Score) : Sign score.signText score.negative := by
  rw [signText]
  cases score.negative with
  | false => exact .absent
  | true => exact .minus

/-- **A finite score that is written plainly is a numeral for it**, with its sign, and of all scores
it is the nearest to the number. -/
theorem exists_signedNumeral_written (hfinite : score.isFinite = true) :
    ∃ decimal, SignedNumeral (score.written plainLayout).toList score.negative decimal ∧
      CorrectlyRounded decimal score.magnitude := by
  obtain ⟨decimal, hnumeral, hrounds⟩ := exists_numeral_plainText score.magnitude
  refine ⟨decimal, ?_, rounds_iff_correctlyRounded.mp hrounds⟩
  rw [toList_written_plain hfinite]
  exact ⟨_, _, score.sign_signText, hnumeral, rfl⟩

end Score

end SearchRanking
