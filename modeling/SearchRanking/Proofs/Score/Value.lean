import Mathlib.Algebra.Order.Field.Rat
import Mathlib.Data.Int.ConditionallyCompleteOrder
import Mathlib.Order.WithBot
import SearchRanking.Proofs.Order
import SearchRanking.Proofs.Score.Rounding

/-!
# The number that a word stands for

A word of 64 bits is a sign bit, eleven bits of an exponent and 52 bits of a fraction. Read in this
way it stands for a rational number, for an infinity, or for nothing at all. Counted in the least
positive score the number is whole, and an infinity stands where the next number would. So the order
of numbers is the order of whole numbers (`lt_iff_signedUnits_lt`), and the order key of scores
refines it by nothing but the sign of zero.
-/

namespace SearchRanking.Score

/-- The rational numbers with an infinity at either end. -/
abbrev ExtendedRational := WithBot (WithTop ℚ)

def signBit (word : UInt64) : Nat := word.toNat / 2 ^ 63

def exponentField (word : UInt64) : Nat := word.toNat / 2 ^ 52 % 2 ^ 11

def fractionField (word : UInt64) : Nat := word.toNat % 2 ^ 52

/-- The number in the fields of a word, without its sign. With the exponent nought the fraction has
no leading bit in front of it and is scaled as with the exponent one. -/
def unsignedOf (word : UInt64) : ℚ :=
  if exponentField word = 0 then fractionField word * (2 : ℚ) ^ (-1074 : ℤ)
  else (2 ^ 52 + fractionField word) * (2 : ℚ) ^ ((exponentField word : ℤ) - 1075)

def rationalOf (word : UInt64) : ℚ := (-1) ^ signBit word * unsignedOf word

/-- What a word stands for. The greatest exponent is that of the infinities and, with a fraction, of
the NaNs, which stand for no number. -/
def numberOf? (word : UInt64) : Option ExtendedRational :=
  if exponentField word < 2047 then some ((rationalOf word : WithTop ℚ) : ExtendedRational)
  else if fractionField word ≠ 0 then none
  else if signBit word = 0 then some ⊤
  else some ⊥

theorem toNat_bits (score : Score) :
    score.bits.toNat = (if score.negative then 2 ^ 63 else 0) + score.magnitude := by
  have hlt := score.magnitude_lt
  rw [bits, UInt64.toNat_ofNat']
  split <;> omega

@[simp]
theorem signBit_bits (score : Score) : signBit score.bits = if score.negative then 1 else 0 := by
  have hlt := score.magnitude_lt
  rw [signBit, toNat_bits]
  split <;> omega

@[simp]
theorem exponentField_bits (score : Score) :
    exponentField score.bits = score.magnitude / exponentWeight := by
  have hlt := score.magnitude_lt
  rw [exponentField, toNat_bits, exponentWeight]
  split <;> omega

@[simp]
theorem fractionField_bits (score : Score) :
    fractionField score.bits = score.magnitude % exponentWeight := by
  rw [fractionField, toNat_bits, exponentWeight]
  split <;> omega

/-- The fields of a score give its value in units. -/
theorem unsignedOf_bits (score : Score) : unsignedOf score.bits = (score.units : ℚ) / 2 ^ 1074 := by
  rw [unsignedOf, exponentField_bits, fractionField_bits, units, unitsOf_eq, gapOf]
  split
  · next hleast =>
    have hscale : scaleOf score.magnitude = 0 := by rw [scaleOf, hleast]
    have hsignificand :
        significandOf score.magnitude = score.magnitude % exponentWeight := by
      simp only [significandOf, scaleOf, exponentWeight] at hleast ⊢
      omega
    rw [hscale, hsignificand, pow_zero, Nat.mul_one, zpow_neg, ← div_eq_mul_inv]
    norm_cast
  · next hnormal =>
    have hsignificand :
        significandOf score.magnitude = 2 ^ 52 + score.magnitude % exponentWeight := by
      simp only [significandOf, scaleOf, exponentWeight] at hnormal ⊢
      omega
    have hexponent : ((score.magnitude / exponentWeight : Nat) : ℤ) - 1075 =
        (scaleOf score.magnitude : ℤ) - (1074 : Nat) := by
      simp only [scaleOf, exponentWeight] at hnormal ⊢
      omega
    rw [hsignificand, hexponent, zpow_sub₀ two_ne_zero, zpow_natCast, zpow_natCast, mul_div_assoc',
      Nat.cast_mul, Nat.cast_add, Nat.cast_pow, Nat.cast_pow, Nat.cast_two]

/-- The number of a score, counted in the least positive one; an infinity counts as the number that
would come next. -/
def signedUnits (score : Score) : ℤ := if score.negative then -(score.units : ℤ) else score.units

/-- The units at which a number is no longer finite. -/
def unitsLimit : ℤ := unitsOf infinityMagnitude

def numberOfUnits (units : ℤ) : ExtendedRational :=
  if unitsLimit ≤ units then ⊤
  else if units ≤ -unitsLimit then ⊥
  else ((units / 2 ^ 1074 : ℚ) : WithTop ℚ)

theorem numberOfUnits_strictMonoOn :
    StrictMonoOn numberOfUnits (Set.Icc (-unitsLimit) unitsLimit) := by
  intro left hleft right hright hlt
  rw [Set.mem_Icc] at hleft hright
  have hinner : ((left / 2 ^ 1074 : ℚ) : WithTop ℚ) < ((right / 2 ^ 1074 : ℚ) : WithTop ℚ) := by
    rw [WithTop.coe_lt_coe, div_lt_div_iff_of_pos_right (by positivity), Int.cast_lt]
    exact hlt
  rw [numberOfUnits, numberOfUnits, if_neg (show ¬ unitsLimit ≤ left by omega),
    if_neg (show ¬ right ≤ -unitsLimit by omega)]
  by_cases htop : unitsLimit ≤ right
  · rw [if_pos htop]
    split
    · exact bot_lt_top
    · exact WithBot.coe_lt_coe.mpr (WithTop.coe_lt_top _)
  · rw [if_neg htop]
    split
    · exact WithBot.bot_lt_coe _
    · exact WithBot.coe_lt_coe.mpr hinner

theorem rationalOf_bits (score : Score) :
    rationalOf score.bits = (score.signedUnits : ℚ) / 2 ^ 1074 := by
  rw [rationalOf, unsignedOf_bits, signBit_bits, signedUnits]
  split
  · rw [pow_one, neg_one_mul, Int.cast_neg, Int.cast_natCast, neg_div]
  · rw [pow_zero, one_mul, Int.cast_natCast]

@[simp]
theorem natAbs_signedUnits (score : Score) : score.signedUnits.natAbs = score.units := by
  rw [signedUnits]
  split <;> omega

theorem signedUnits_mem_Icc {score : Score} (hnan : score.isNaN = false) :
    score.signedUnits ∈ Set.Icc (-unitsLimit) unitsLimit := by
  have hle : score.units ≤ unitsOf infinityMagnitude := by
    refine unitsOf_strictMono.monotone ?_
    rw [isNaN, decide_eq_false_iff_not] at hnan
    exact Nat.le_of_not_lt hnan
  have habs := natAbs_signedUnits score
  rw [Set.mem_Icc, unitsLimit]
  omega

theorem unitsLimit_pos : 0 < unitsLimit := by
  rw [unitsLimit, ← Nat.cast_zero, Nat.cast_lt, ← unitsOf_zero]
  exact unitsOf_strictMono (by decide)

theorem numberOf?_of_isFinite {score : Score} (hfinite : score.magnitude < infinityMagnitude) :
    numberOf? score.bits = some (numberOfUnits score.signedUnits) := by
  have hexponent : score.magnitude / exponentWeight < 2047 := by
    rw [infinityMagnitude] at hfinite
    rw [exponentWeight]
    omega
  have hunits : (score.units : ℤ) < unitsLimit := by
    rw [unitsLimit, Nat.cast_lt]
    exact unitsOf_strictMono hfinite
  have habs := natAbs_signedUnits score
  rw [numberOf?, exponentField_bits, rationalOf_bits, if_pos hexponent, numberOfUnits,
    if_neg (show ¬ unitsLimit ≤ score.signedUnits by omega),
    if_neg (show ¬ score.signedUnits ≤ -unitsLimit by omega)]

theorem numberOf?_of_infinity {score : Score} (hinfinity : score.magnitude = infinityMagnitude) :
    numberOf? score.bits = some (numberOfUnits score.signedUnits) := by
  have hunits : (score.units : ℤ) = unitsLimit := by rw [units, hinfinity, unitsLimit]
  have hlimit := unitsLimit_pos
  rw [numberOf?, exponentField_bits, fractionField_bits, signBit_bits, hinfinity,
    if_neg (by decide), if_neg (by decide), signedUnits, hunits]
  cases score.negative with
  | false => simp [numberOfUnits]
  | true => simp [numberOfUnits, hlimit]

theorem numberOf?_of_isNaN {score : Score} (hnan : infinityMagnitude < score.magnitude) :
    numberOf? score.bits = none := by
  have hlt := score.magnitude_lt
  rw [infinityMagnitude] at hnan
  have hexponent : ¬score.magnitude / exponentWeight < 2047 := by
    rw [exponentWeight]
    omega
  have hfraction : score.magnitude % exponentWeight ≠ 0 := by
    rw [exponentWeight]
    omega
  rw [numberOf?, exponentField_bits, fractionField_bits, if_neg hexponent, if_pos hfraction]

theorem numberOf?_bits (score : Score) :
    numberOf? score.bits =
      if score.isNaN then none else some (numberOfUnits score.signedUnits) := by
  rcases Nat.lt_trichotomy score.magnitude infinityMagnitude with hfinite | hinfinity | hnan
  · rw [numberOf?_of_isFinite hfinite, isNaN, decide_eq_false hfinite.not_gt]
    rfl
  · rw [numberOf?_of_infinity hinfinity, isNaN, decide_eq_false hinfinity.not_gt]
    rfl
  · rw [numberOf?_of_isNaN hnan, isNaN, decide_eq_true hnan]
    rfl

theorem numberOf?_eq_none_iff {score : Score} :
    numberOf? score.bits = none ↔ score.isNaN = true := by
  rw [numberOf?_bits]
  cases score.isNaN <;> simp

theorem numberOf?_eq_some_iff {score : Score} {number : ExtendedRational} :
    numberOf? score.bits = some number ↔
      score.isNaN = false ∧ numberOfUnits score.signedUnits = number := by
  rw [numberOf?_bits]
  cases score.isNaN <;> simp

section Order

variable {a b : Score} {left right : ExtendedRational}

theorem lt_iff_signedUnits_lt (hleft : numberOf? a.bits = some left)
    (hright : numberOf? b.bits = some right) : left < right ↔ a.signedUnits < b.signedUnits := by
  obtain ⟨ha, rfl⟩ := numberOf?_eq_some_iff.mp hleft
  obtain ⟨hb, rfl⟩ := numberOf?_eq_some_iff.mp hright
  exact numberOfUnits_strictMonoOn.lt_iff_lt (signedUnits_mem_Icc ha) (signedUnits_mem_Icc hb)

theorem eq_iff_signedUnits_eq (hleft : numberOf? a.bits = some left)
    (hright : numberOf? b.bits = some right) : left = right ↔ a.signedUnits = b.signedUnits := by
  obtain ⟨ha, rfl⟩ := numberOf?_eq_some_iff.mp hleft
  obtain ⟨hb, rfl⟩ := numberOf?_eq_some_iff.mp hright
  exact numberOfUnits_strictMonoOn.injOn.eq_iff (signedUnits_mem_Icc ha) (signedUnits_mem_Icc hb)

theorem orderKey_lt_of_signedUnits_lt (ha : a.isNaN = false) (hb : b.isNaN = false)
    (hlt : a.signedUnits < b.signedUnits) : a.orderKey < b.orderKey := by
  rw [orderKey_of_not_isNaN ha, orderKey_of_not_isNaN hb]
  have hgrow : unitsOf a.magnitude < unitsOf b.magnitude ↔ a.magnitude < b.magnitude :=
    unitsOf_strictMono.lt_iff_lt
  have hfall : unitsOf b.magnitude < unitsOf a.magnitude ↔ b.magnitude < a.magnitude :=
    unitsOf_strictMono.lt_iff_lt
  simp only [signedUnits, units] at hlt
  split_ifs at hlt ⊢ <;> omega

theorem eq_or_zeros_of_signedUnits_eq (heq : a.signedUnits = b.signedUnits) :
    a = b ∨ (a = zero false ∧ b = zero true) ∨ (a = zero true ∧ b = zero false) := by
  have habs : a.units = b.units := by rw [← natAbs_signedUnits, heq, natAbs_signedUnits]
  have hmagnitude : a.magnitude = b.magnitude := unitsOf_strictMono.injective habs
  have hzero : a.negative ≠ b.negative → a.magnitude = 0 := by
    intro hne
    have hunits : a.units = 0 := by
      rw [signedUnits, signedUnits, ← habs] at heq
      cases ha : a.negative <;> cases hb : b.negative <;> simp_all
    exact unitsOf_strictMono.injective (hunits.trans unitsOf_zero.symm)
  obtain ⟨negativeA, magnitudeA, hltA⟩ := a
  obtain ⟨negativeB, magnitudeB, hltB⟩ := b
  cases negativeA <;> cases negativeB <;> simp_all [zero]

end Order

end SearchRanking.Score
