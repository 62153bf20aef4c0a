import SearchRanking.Proofs.Score.Value
import SearchRanking.Record.Sample

/-!
# Entries are ordered by numbers

The score key is a whole number made from the bits of a word. It says the same as the numbers that
the words stand for: the greater number comes first, whatever the titles and positions, and of two
equal numbers the words are equal too, but for zero, whose positive word comes first. Words that
stand for no number come last.
-/

namespace SearchRanking.Entry

open Score

theorem compare_of_zeros {a b : Entry} (ha : a.score = zero false) (hb : b.score = zero true) :
    compare a b = .lt := by
  apply compare_eq_lt_of_orderKey_lt
  rw [ha, hb]
  decide

/-- **The score key is the order of numbers.** An entry with the greater number comes first, and an
entry with any number comes before one without. Equal numbers are one word, and then the titles and
the positions decide, or they are the two zeros, of which the positive one comes first. The words
without a number are exactly the NaNs. -/
theorem compare_by_number (a b : Entry) :
    (∀ left right, numberOf? a.score.bits = some left → numberOf? b.score.bits = some right →
      (right < left → compare a b = .lt) ∧
      (left = right →
        (a.score.bits = b.score.bits ∧
          compare a b =
            (Ord.compare a.titleKey b.titleKey).then (Ord.compare a.position b.position)) ∨
        (a.score.bits = 0 ∧ b.score.bits = 0x8000000000000000 ∧ compare a b = .lt) ∨
        (a.score.bits = 0x8000000000000000 ∧ b.score.bits = 0 ∧ compare a b = .gt))) ∧
    (a.score.isNaN = false → b.score.isNaN = true → compare a b = .lt) ∧
    ∀ score : Score, numberOf? score.bits = none ↔ score.isNaN = true := by
  have hplusBits : (zero false).bits = 0 := rfl
  have hminusBits : (zero true).bits = 0x8000000000000000 := rfl
  refine ⟨?_, ?_, fun _ => numberOf?_eq_none_iff⟩
  · intro left right hleft hright
    have ha := (numberOf?_eq_some_iff.mp hleft).1
    have hb := (numberOf?_eq_some_iff.mp hright).1
    constructor
    · intro hlt
      rw [lt_iff_signedUnits_lt hright hleft] at hlt
      exact compare_eq_lt_of_orderKey_lt (orderKey_lt_of_signedUnits_lt hb ha hlt)
    · intro heq
      rw [eq_iff_signedUnits_eq hleft hright] at heq
      rcases eq_or_zeros_of_signedUnits_eq heq with hscore | ⟨hplus, hminus⟩ | ⟨hminus, hplus⟩
      · exact Or.inl ⟨congrArg bits hscore, compare_of_score_eq hscore⟩
      · have hfirst := compare_of_zeros hplus hminus
        rw [hplus, hminus]
        exact Or.inr (Or.inl ⟨hplusBits, hminusBits, hfirst⟩)
      · have hfirst := compare_of_zeros hplus hminus
        rw [hplus, hminus]
        exact Or.inr (Or.inr ⟨hminusBits, hplusBits, Std.OrientedCmp.gt_of_lt hfirst⟩)
  · intro ha hb
    apply compare_eq_lt_of_orderKey_lt
    rw [orderKey_of_isNaN hb]
    exact lt_orderKey_of_not_isNaN ha

/-- The entry of a page with the score of a word. -/
def worded (word : UInt64) (title : String) (position : Nat) : Entry :=
  ⟨.plain title (.ofBits word) none, .ofBits word, position⟩

/-- The greatest number without a leading bit in its significand, made negative, and the next one
below it; the two zeros; and an infinity against a NaN. In each pair the titles and the positions
speak for the other order. -/
theorem compare_by_number_atEdges :
    (∃ left right : ℚ,
      numberOf? (worded 0x800fffffffffffff "b" 1).score.bits =
        some ((left : WithTop ℚ) : ExtendedRational) ∧
      numberOf? (worded 0x8010000000000000 "a" 0).score.bits =
        some ((right : WithTop ℚ) : ExtendedRational) ∧
      left = -(2 ^ 52 - 1) * 2 ^ (-1074 : ℤ) ∧ right = -2 ^ 52 * 2 ^ (-1074 : ℤ) ∧ right < left) ∧
    compare (worded 0x800fffffffffffff "b" 1) (worded 0x8010000000000000 "a" 0) = .lt ∧
    compare (worded 0 "b" 1) (worded 0x8000000000000000 "a" 0) = .lt ∧
    compare (worded 0xfff0000000000000 "b" 1) (worded 0xfff8000000000001 "a" 0) = .lt := by
  have hnumber : ∀ word title position, exponentField word < 2047 →
      numberOf? (worded word title position).score.bits =
        some ((rationalOf word : WithTop ℚ) : ExtendedRational) := by
    intro word title position hfinite
    rw [worded, bits_ofBits]
    exact if_pos hfinite
  have hleft : rationalOf 0x800fffffffffffff = -(2 ^ 52 - 1) * 2 ^ (-1074 : ℤ) := by
    have hsign : signBit 0x800fffffffffffff = 1 := by decide
    have hexponent : exponentField 0x800fffffffffffff = 0 := by decide
    have hfraction : fractionField 0x800fffffffffffff = 2 ^ 52 - 1 := by decide
    rw [rationalOf, unsignedOf, hsign, hexponent, hfraction]
    norm_num
  have hright : rationalOf 0x8010000000000000 = -2 ^ 52 * 2 ^ (-1074 : ℤ) := by
    have hsign : signBit 0x8010000000000000 = 1 := by decide
    have hexponent : exponentField 0x8010000000000000 = 1 := by decide
    have hfraction : fractionField 0x8010000000000000 = 0 := by decide
    rw [rationalOf, unsignedOf, hsign, hexponent, hfraction]
    norm_num
  have hlt : rationalOf 0x8010000000000000 < rationalOf 0x800fffffffffffff := by
    rw [hleft, hright]
    exact mul_lt_mul_of_pos_right (by norm_num) (zpow_pos two_pos _)
  have hzeros : rationalOf 0 = rationalOf 0x8000000000000000 := by
    simp [rationalOf, unsignedOf, exponentField, fractionField]
  have hfirst := hnumber 0x800fffffffffffff "b" 1 (by decide)
  have hsecond := hnumber 0x8010000000000000 "a" 0 (by decide)
  refine ⟨⟨_, _, hfirst, hsecond, hleft, hright, hlt⟩, ?_, ?_, ?_⟩
  · refine ((compare_by_number _ _).1 _ _ hfirst hsecond).1 ?_
    exact WithBot.coe_lt_coe.mpr (WithTop.coe_lt_coe.mpr hlt)
  · have hplus := hnumber 0 "b" 1 (by decide)
    have hminus := hnumber 0x8000000000000000 "a" 0 (by decide)
    rw [← hzeros] at hminus
    rcases ((compare_by_number _ _).1 _ _ hplus hminus).2 rfl with
      ⟨hbits, -⟩ | ⟨-, -, hfirst⟩ | ⟨hbits, -⟩
    · exact absurd hbits (by decide)
    · exact hfirst
    · exact absurd hbits (by decide)
  · exact (compare_by_number _ _).2.1 (by decide) (by decide)

end SearchRanking.Entry
