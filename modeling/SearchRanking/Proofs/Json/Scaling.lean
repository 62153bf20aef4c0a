import SearchRanking.Json.Number
import SearchRanking.Proofs.Decimal.Shortest

/-!
# How far scaling by a power of ten strays

The reader of numbers turns a coefficient into a score and multiplies or divides it by the score
nearest to a power of ten. Each rounding stays within the factor `1 + 2 ^ (-53)`. Two of these
factors lie between the exact number and the result before its own rounding, so that the magnitude
is off by two at the most.

Below `10 ^ (-308)` the division is done in two steps, and three roundings come before the last one:
of the coefficient, of `10 ^ 308` and of the first quotient. The score nearest to `10 ^ 308` lies so
close to it that it counts for a tenth of a rounding. Of the other two one is small as well: either
the coefficient is far enough above a power of two to lose no more than 0.9 of a rounding, or its
quotient is, and loses less than 0.6.
-/

namespace SearchRanking.Json

open Score Decimal

attribute [local irreducible] unitsOf gapOf

/-- Within the square of the factor `1 + 2 ^ (-53)` of each other. -/
def CloseTwice (left right : Nat) : Prop :=
  (2 * exponentWeight) ^ 2 * left ≤ (2 * exponentWeight + 1) ^ 2 * right ∧
    (2 * exponentWeight) ^ 2 * right ≤ (2 * exponentWeight + 1) ^ 2 * left

theorem CloseTwice.mul_right {left right : Nat} (hclose : CloseTwice left right) (factor : Nat) :
    CloseTwice (left * factor) (right * factor) := by
  constructor
  · rw [← Nat.mul_assoc, ← Nat.mul_assoc]
    exact Nat.mul_le_mul_right factor hclose.1
  · rw [← Nat.mul_assoc, ← Nat.mul_assoc]
    exact Nat.mul_le_mul_right factor hclose.2

theorem mul_le_square {large left right other rival : Nat}
    (hleft : large * left ≤ (large + 1) * right) (hother : large * other ≤ (large + 1) * rival) :
    large ^ 2 * (left * other) ≤ (large + 1) ^ 2 * (right * rival) := by
  calc large ^ 2 * (left * other) = (large * left) * (large * other) := by ring
    _ ≤ ((large + 1) * right) * ((large + 1) * rival) := Nat.mul_le_mul hleft hother
    _ = (large + 1) ^ 2 * (right * rival) := by ring

theorem closeTwice_mul {left right other rival : Nat} (hleft : Close left right)
    (hother : Close other rival) : CloseTwice (left * other) (right * rival) :=
  ⟨mul_le_square hleft.1 hother.1, mul_le_square hleft.2 hother.2⟩

theorem nearestMagnitude_within_two {numerator denominator magnitude dividend divisor : Nat}
    (hdenominator : 0 < denominator) (hdivisor : 0 < divisor)
    (hnearest : Nearest numerator denominator magnitude)
    (hclose : CloseTwice (dividend * unitsPerOne * denominator) (numerator * divisor))
    (hfinite : magnitude + 2 < infinityMagnitude) :
    nearestMagnitude dividend divisor ≤ magnitude + 2 ∧
      magnitude ≤ nearestMagnitude dividend divisor + 2 := by
  obtain ⟨found, hfound, heq⟩ := exists_nearest dividend hdivisor
  have habove : found ≤ magnitude + 2 :=
    hnearest.le_add_two hdenominator hdivisor hfound hclose.1
  have hbelow : magnitude ≤ found + 2 :=
    hfound.le_add_two hdivisor hdenominator hnearest hclose.2
  rw [heq, Nat.min_eq_left (habove.trans hfinite.le)]
  exact ⟨habove, hbelow⟩

theorem tenTo_mul_unitsPerOne_le {power : Nat} (hpower : power ≤ 308) :
    tenTo power * unitsPerOne ≤ unitsOf infinityMagnitude := by
  have hlargest : tenTo 308 * unitsPerOne ≤ unitsOf infinityMagnitude := by decide +kernel
  exact (Nat.mul_le_mul_right _ (tenTo_le_tenTo hpower)).trans hlargest

theorem close_units_tenTo {power : Nat} (hpower : power ≤ 308) :
    Close (tenTo power * unitsPerOne) (ofNat (tenTo power)).units :=
  close_units_ofNat (tenTo_pos power) (tenTo_mul_unitsPerOne_le hpower)

/-- A power of ten up to `10 ^ 22` is a score, as its odd part is below `2 ^ 53`. -/
theorem units_tenTo {power : Nat} (hpower : power ≤ 22) :
    (ofNat (tenTo power)).units = tenTo power * unitsPerOne := by
  have hsplit : tenTo power = 5 ^ power * 2 ^ power := by
    rw [← Nat.mul_pow]
    rfl
  have hodd : 5 ^ power < 2 * exponentWeight :=
    (Nat.pow_le_pow_right (by decide) hpower).trans_lt (by decide)
  exact units_ofNat_of_short hsplit hodd (tenTo_mul_unitsPerOne_le (by omega))

theorem units_tenTo_pos {power : Nat} (hpower : power ≤ 308) :
    0 < (ofNat (tenTo power)).units := by
  have hclose := (close_units_tenTo hpower).1
  have hvalue : 0 < 2 * exponentWeight * (tenTo power * unitsPerOne) :=
    Nat.mul_pos (by decide) (Nat.mul_pos (tenTo_pos power) unitsPerOne_pos)
  exact Nat.pos_of_mul_pos_left (hvalue.trans_le hclose)

theorem mul_unitsPerOne_le {coefficient : Nat} (hle : coefficient ≤ tenTo 17) :
    coefficient * unitsPerOne ≤ unitsOf infinityMagnitude :=
  (Nat.mul_le_mul_right _ hle).trans (tenTo_mul_unitsPerOne_le (by decide))

theorem power_le_of_rounds {coefficient power magnitude : Nat} (hpositive : 0 < coefficient)
    (hrounds : Rounds ⟨coefficient, power⟩ magnitude) (hfinite : magnitude < infinityMagnitude) :
    power ≤ 308 := by
  by_contra hlarge
  have hupper : 2 * (coefficient * (unitsPerOne * tenTo power)) ≤
      (unitsOf magnitude + unitsOf (magnitude + 1)) * 1 := hrounds.upper
  have hvalue : unitsOf magnitude ≤ unitsOf infinityMagnitude :=
    unitsOf_strictMono.monotone hfinite.le
  have hnext : unitsOf (magnitude + 1) ≤ unitsOf infinityMagnitude :=
    unitsOf_strictMono.monotone hfinite
  have hbeyond : unitsOf infinityMagnitude < unitsPerOne * tenTo 309 := by decide +kernel
  have hpower : unitsPerOne * tenTo 309 ≤ unitsPerOne * tenTo power :=
    Nat.mul_le_mul_left _ (tenTo_le_tenTo (by omega))
  have hcoefficient := Nat.le_mul_of_pos_left (unitsPerOne * tenTo power) hpositive
  omega

structure WithinTwo (score : Score) (magnitude : Nat) : Prop where
  unsigned : score.negative = false
  above : score.magnitude ≤ magnitude + 2
  below : magnitude ≤ score.magnitude + 2

section Scaled

variable {coefficient power magnitude : Nat}

theorem withinTwo_timesPowerOfTen (hpositive : 0 < coefficient) (hle : coefficient ≤ tenTo 17)
    (hpower : power ≤ 308) (hrounds : Rounds ⟨coefficient, power⟩ magnitude)
    (hfinite : magnitude + 2 < infinityMagnitude) :
    WithinTwo ((ofNat coefficient).timesPowerOfTen power) magnitude := by
  have hclose := closeTwice_mul (close_units_ofNat hpositive (mul_unitsPerOne_le hle)).symm
    (close_units_tenTo hpower).symm
  have hratio := hclose.mul_right unitsPerOne
  have hexact : coefficient * unitsPerOne * (tenTo power * unitsPerOne) * unitsPerOne =
      coefficient * gridStep power * (unitsPerOne * unitsPerOne) := by
    rw [gridStep, powerNumerator_natCast]
    ring
  rw [hexact, ← Nat.mul_one ((ofNat coefficient).units * _ * unitsPerOne)] at hratio
  obtain ⟨habove, hbelow⟩ := nearestMagnitude_within_two Nat.one_pos
    (Nat.mul_pos unitsPerOne_pos unitsPerOne_pos) hrounds hratio hfinite
  exact ⟨rfl, habove, hbelow⟩

theorem withinTwo_overPowerOfTen (hpositive : 0 < coefficient) (hle : coefficient ≤ tenTo 17)
    (hpower : power + 1 ≤ 308) (hrounds : Rounds ⟨coefficient, .negSucc power⟩ magnitude)
    (hfinite : magnitude + 2 < infinityMagnitude) :
    WithinTwo ((ofNat coefficient).overPowerOfTen (power + 1)) magnitude := by
  have hclose := closeTwice_mul (close_units_ofNat hpositive (mul_unitsPerOne_le hle)).symm
    (close_units_tenTo hpower)
  have hratio : CloseTwice ((ofNat coefficient).units * unitsPerOne * tenTo (power + 1))
      (coefficient * gridStep (.negSucc power) * (ofNat (tenTo (power + 1))).units) := by
    have hquotient : (ofNat coefficient).units * (tenTo (power + 1) * unitsPerOne) =
        (ofNat coefficient).units * unitsPerOne * tenTo (power + 1) := by ring
    have hstep : gridStep (.negSucc power) = unitsPerOne := Nat.mul_one _
    rwa [hstep, ← hquotient]
  obtain ⟨habove, hbelow⟩ := nearestMagnitude_within_two (tenTo_pos (power + 1))
    (units_tenTo_pos hpower) hrounds hratio hfinite
  exact ⟨rfl, habove, hbelow⟩

/-- With a coefficient and a power of ten that are both scores, the result is rounded once. -/
theorem magnitude_timesPowerOfTen (hcoefficient : coefficient ≤ 2 * exponentWeight)
    (hpower : power ≤ 22) (hrounds : Rounds ⟨coefficient, power⟩ magnitude)
    (hfinite : magnitude < infinityMagnitude) :
    ((ofNat coefficient).timesPowerOfTen power).magnitude = magnitude := by
  refine nearestMagnitude_eq (Nat.mul_pos unitsPerOne_pos unitsPerOne_pos) hfinite.le ?_
  refine hrounds.congr Nat.one_pos (Nat.mul_pos unitsPerOne_pos unitsPerOne_pos) ?_
  change coefficient * (unitsPerOne * tenTo power) * (unitsPerOne * unitsPerOne) =
    (ofNat coefficient).units * (ofNat (tenTo power)).units * unitsPerOne * 1
  rw [units_ofNat_of_le hcoefficient, units_tenTo hpower]
  ring

theorem magnitude_overPowerOfTen (hcoefficient : coefficient ≤ 2 * exponentWeight)
    (hpower : power + 1 ≤ 22) (hrounds : Rounds ⟨coefficient, .negSucc power⟩ magnitude)
    (hfinite : magnitude < infinityMagnitude) :
    ((ofNat coefficient).overPowerOfTen (power + 1)).magnitude = magnitude := by
  refine nearestMagnitude_eq (units_tenTo_pos (by omega)) hfinite.le ?_
  refine hrounds.congr (tenTo_pos (power + 1)) (units_tenTo_pos (by omega)) ?_
  change coefficient * (unitsPerOne * 1) * (ofNat (tenTo (power + 1))).units =
    (ofNat coefficient).units * unitsPerOne * tenTo (power + 1)
  rw [units_ofNat_of_le hcoefficient, units_tenTo hpower]
  ring

end Scaled

/-! ### Two divisions -/

/-- The score nearest to `10 ^ 308` lies above it, by a tenth of what rounding may add. -/
theorem units_tenTo_308_bounds :
    tenTo 308 * unitsPerOne ≤ (ofNat (tenTo 308)).units ∧
      1000 * (2 * exponentWeight) * (ofNat (tenTo 308)).units ≤
        (1000 * (2 * exponentWeight) + 99) * (tenTo 308 * unitsPerOne) := by
  decide +kernel

theorem units_ofNat_le (n : Nat) : (ofNat n).units ≤ unitsOf infinityMagnitude :=
  unitsOf_strictMono.monotone (Nat.min_le_right _ _)

section Twice

variable {coefficient : Nat}

theorem three_mul_unitsPerOne_le (hthree : 3 ≤ coefficient) (hle : coefficient ≤ tenTo 17) :
    3 * unitsPerOne ≤ (ofNat coefficient).units := by
  have hmul : 3 * unitsPerOne ≤ coefficient * unitsPerOne := Nat.mul_le_mul_right _ hthree
  by_cases hshort : coefficient ≤ 2 * exponentWeight
  · rwa [units_ofNat_of_le hshort]
  · have hclose := (close_units_ofNat (by omega) (mul_unitsPerOne_le hle)).1
    have hlong : 2 * exponentWeight * unitsPerOne ≤ coefficient * unitsPerOne :=
      Nat.mul_le_mul_right _ (by omega)
    simp only [exponentWeight] at hclose hlong
    omega

theorem nearest_first_quotient (coefficient : Nat) :
    Nearest ((ofNat coefficient).units * unitsPerOne) (ofNat (tenTo 308)).units
      ((ofNat coefficient).overPowerOfTen 308).magnitude := by
  refine nearest_nearestMagnitude (units_tenTo_pos le_rfl) ?_
  have hone : unitsPerOne ≤ (ofNat (tenTo 308)).units :=
    (Nat.le_mul_of_pos_left _ (tenTo_pos 308)).trans units_tenTo_308_bounds.1
  exact Nat.mul_le_mul (units_ofNat_le coefficient) hone

theorem close_first_quotient (hthree : 3 ≤ coefficient) (hle : coefficient ≤ tenTo 17) :
    Close ((ofNat coefficient).units * unitsPerOne)
      (((ofNat coefficient).overPowerOfTen 308).units * (ofNat (tenTo 308)).units) := by
  refine (nearest_first_quotient coefficient).close (units_tenTo_pos le_rfl) ?_
  have hnormal : exponentWeight * (ofNat (tenTo 308)).units ≤ 3 * unitsPerOne * unitsPerOne := by
    decide +kernel
  exact hnormal.trans (Nat.mul_le_mul_right _ (three_mul_unitsPerOne_le hthree hle))

theorem first_quotient_le (hthree : 3 ≤ coefficient) (hle : coefficient ≤ tenTo 17) :
    (2 * exponentWeight) ^ 2 * (((ofNat coefficient).overPowerOfTen 308).units * tenTo 308) ≤
      (2 * exponentWeight + 1) ^ 2 * (coefficient * unitsPerOne) := by
  have hquotient := (close_first_quotient hthree hle).2
  have hcoefficient := (close_units_ofNat (by omega) (mul_unitsPerOne_le hle)).2
  have hpower := Nat.mul_le_mul_left ((ofNat coefficient).overPowerOfTen 308).units
    units_tenTo_308_bounds.1
  have hcancelled : 2 * exponentWeight *
        (((ofNat coefficient).overPowerOfTen 308).units * tenTo 308) ≤
      (2 * exponentWeight + 1) * (ofNat coefficient).units := by
    refine Nat.le_of_mul_le_mul_right ?_ unitsPerOne_pos
    calc 2 * exponentWeight * (((ofNat coefficient).overPowerOfTen 308).units * tenTo 308) *
          unitsPerOne
        = 2 * exponentWeight * (((ofNat coefficient).overPowerOfTen 308).units *
            (tenTo 308 * unitsPerOne)) := by ring
      _ ≤ 2 * exponentWeight * (((ofNat coefficient).overPowerOfTen 308).units *
            (ofNat (tenTo 308)).units) := Nat.mul_le_mul_left _ hpower
      _ ≤ (2 * exponentWeight + 1) * ((ofNat coefficient).units * unitsPerOne) := hquotient
      _ = (2 * exponentWeight + 1) * (ofNat coefficient).units * unitsPerOne := by ring
  simp only [exponentWeight] at hcancelled hcoefficient ⊢
  omega

theorem units_le_first_quotient (hthree : 3 ≤ coefficient) (hle : coefficient ≤ tenTo 17) :
    1000 * (2 * exponentWeight) ^ 2 * (ofNat coefficient).units ≤
      (2 * exponentWeight + 1) * (1000 * (2 * exponentWeight) + 99) *
        (((ofNat coefficient).overPowerOfTen 308).units * tenTo 308) := by
  have hquotient := (close_first_quotient hthree hle).1
  have hpower := units_tenTo_308_bounds.2
  generalize ((ofNat coefficient).overPowerOfTen 308).units = quotient at hquotient ⊢
  generalize (ofNat (tenTo 308)).units = ten at hquotient hpower
  refine Nat.le_of_mul_le_mul_right ?_ unitsPerOne_pos
  calc 1000 * (2 * exponentWeight) ^ 2 * (ofNat coefficient).units * unitsPerOne
      = 1000 * (2 * exponentWeight) *
          (2 * exponentWeight * ((ofNat coefficient).units * unitsPerOne)) := by ring
    _ ≤ 1000 * (2 * exponentWeight) * ((2 * exponentWeight + 1) * (quotient * ten)) :=
        Nat.mul_le_mul_left _ hquotient
    _ = (2 * exponentWeight + 1) * quotient * (1000 * (2 * exponentWeight) * ten) := by ring
    _ ≤ (2 * exponentWeight + 1) * quotient *
          ((1000 * (2 * exponentWeight) + 99) * (tenTo 308 * unitsPerOne)) :=
        Nat.mul_le_mul_left _ hpower
    _ = (2 * exponentWeight + 1) * (1000 * (2 * exponentWeight) + 99) * (quotient * tenTo 308) *
          unitsPerOne := by ring

/-- A long coefficient loses no more than half of the gap at its highest bit. -/
theorem exists_units_of_long (hlong : 2 * exponentWeight < coefficient)
    (hle : coefficient ≤ tenTo 17) :
    ∃ scale, 2 * exponentWeight * 2 ^ scale ≤ coefficient ∧
      coefficient * unitsPerOne ≤ (ofNat coefficient).units + 2 ^ scale * unitsPerOne := by
  obtain ⟨shift, hshift⟩ := exists_unitsPerOne_eq
  have hpower : (2 : Nat) ^ 53 = 2 * exponentWeight := rfl
  have hlog : 53 ≤ coefficient.log2 := by
    rw [Nat.le_log2 (by omega)]
    omega
  refine ⟨coefficient.log2 - 53, ?_, ?_⟩
  · rw [← hpower, ← pow_add, Nat.add_sub_cancel' hlog]
    exact Nat.log2_self_le (by omega)
  · have hbits : coefficient < 2 * exponentWeight * 2 ^ (coefficient.log2 - 53 + 1) := by
      rw [← hpower, ← pow_add]
      exact Nat.lt_log2_self.trans_le (Nat.pow_le_pow_right (by decide) (by omega))
    have hfits : coefficient * unitsPerOne ≤
        2 * exponentWeight * 2 ^ (coefficient.log2 - 53 + 1 + shift) * 1 := by
      rw [pow_add, ← hshift, Nat.mul_one, ← Nat.mul_assoc]
      exact Nat.mul_le_mul_right _ hbits.le
    have hhalf := ((nearest_ofNat (mul_unitsPerOne_le hle)).half_step Nat.one_pos hfits).2
    rw [← units_ofNat, pow_add, ← hshift, pow_succ, Nat.mul_one, Nat.mul_one] at hhalf
    generalize 2 ^ (coefficient.log2 - 53) = half at hhalf ⊢
    have hgap : half * 2 * unitsPerOne = 2 * (half * unitsPerOne) := by ring
    omega

theorem mul_le_first_quotient_of_high {half : Nat} (hthree : 3 ≤ coefficient)
    (hle : coefficient ≤ tenTo 17)
    (hhalf : coefficient * unitsPerOne ≤ (ofNat coefficient).units + half * unitsPerOne)
    (hhigh : 10 * (2 * exponentWeight * half) ≤ 9 * coefficient) :
    (2 * exponentWeight) ^ 2 * (coefficient * unitsPerOne) ≤
      (2 * exponentWeight + 1) ^ 2 *
        (((ofNat coefficient).overPowerOfTen 308).units * tenTo 308) := by
  have hquotient := units_le_first_quotient hthree hle
  have hshare : 10 * (2 * exponentWeight) * (half * unitsPerOne) ≤
      9 * (coefficient * unitsPerOne) := by
    calc 10 * (2 * exponentWeight) * (half * unitsPerOne)
        = 10 * (2 * exponentWeight * half) * unitsPerOne := by ring
      _ ≤ 9 * coefficient * unitsPerOne := Nat.mul_le_mul_right _ hhigh
      _ = 9 * (coefficient * unitsPerOne) := by ring
  -- The coefficient lost at most 0.9 of a rounding and the power of ten gained less than 0.1.
  simp only [exponentWeight] at hquotient hshare ⊢
  omega

/-- The quotient of a coefficient just above a power of two stays under `2 ^ 53` times its gap. -/
theorem first_quotient_half_step {scale : Nat} (hpositive : 0 < coefficient)
    (hle : coefficient ≤ tenTo 17)
    (hlow : 9 * coefficient < 10 * (2 * exponentWeight * 2 ^ scale)) :
    2 * ((ofNat coefficient).units * unitsPerOne) ≤
      2 * (((ofNat coefficient).overPowerOfTen 308).units * (ofNat (tenTo 308)).units) +
        2 ^ (scale + 51) * (ofNat (tenTo 308)).units := by
  have hten : 10 * (2 * exponentWeight + 1) * unitsPerOne ≤
      9 * (2 * exponentWeight) * 2 ^ 51 * tenTo 308 := by decide +kernel
  have hpower := units_tenTo_308_bounds.1
  have hunits : 9 * (ofNat coefficient).units ≤
      10 * (2 * exponentWeight + 1) * (2 ^ scale * unitsPerOne) := by
    have hclose := (close_units_ofNat hpositive (mul_unitsPerOne_le hle)).2
    have hscaled := Nat.mul_le_mul_right unitsPerOne hlow.le
    rw [Nat.mul_assoc 9, Nat.mul_assoc 10, Nat.mul_assoc (2 * exponentWeight)] at hscaled
    simp only [exponentWeight] at hclose hscaled ⊢
    omega
  refine ((nearest_first_quotient coefficient).half_step (units_tenTo_pos le_rfl) ?_).2
  refine Nat.le_of_mul_le_mul_left ?_ (by decide : 0 < 9)
  calc 9 * ((ofNat coefficient).units * unitsPerOne)
      = 9 * (ofNat coefficient).units * unitsPerOne := by ring
    _ ≤ 10 * (2 * exponentWeight + 1) * (2 ^ scale * unitsPerOne) * unitsPerOne :=
        Nat.mul_le_mul_right _ hunits
    _ = 2 ^ scale * unitsPerOne * (10 * (2 * exponentWeight + 1) * unitsPerOne) := by ring
    _ ≤ 2 ^ scale * unitsPerOne * (9 * (2 * exponentWeight) * 2 ^ 51 * tenTo 308) :=
        Nat.mul_le_mul_left _ hten
    _ = 9 * (2 * exponentWeight * 2 ^ (scale + 51) * (tenTo 308 * unitsPerOne)) := by
        rw [pow_add 2 scale]
        ring
    _ ≤ 9 * (2 * exponentWeight * 2 ^ (scale + 51) * (ofNat (tenTo 308)).units) := by gcongr

theorem mul_le_first_quotient_of_low {scale : Nat} (hpositive : 0 < coefficient)
    (hle : coefficient ≤ tenTo 17) (hbits : 2 * exponentWeight * 2 ^ scale ≤ coefficient)
    (hlow : 9 * coefficient < 10 * (2 * exponentWeight * 2 ^ scale)) :
    (2 * exponentWeight) ^ 2 * (coefficient * unitsPerOne) ≤
      (2 * exponentWeight + 1) ^ 2 *
        (((ofNat coefficient).overPowerOfTen 308).units * tenTo 308) := by
  have hclose := (close_units_ofNat hpositive (mul_unitsPerOne_le hle)).1
  have hstep := first_quotient_half_step hpositive hle hlow
  have hpower := units_tenTo_308_bounds.2
  have hunits : 2000 * (2 * exponentWeight) * (ofNat coefficient).units ≤
      (1000 * (2 * exponentWeight) + 99) *
        (2 * (((ofNat coefficient).overPowerOfTen 308).units * tenTo 308) +
          2 ^ (scale + 51) * tenTo 308) := by
    generalize ((ofNat coefficient).overPowerOfTen 308).units = quotient at hstep ⊢
    generalize (ofNat (tenTo 308)).units = ten at hstep hpower
    generalize 2 ^ (scale + 51) = gap at hstep ⊢
    refine Nat.le_of_mul_le_mul_right ?_ unitsPerOne_pos
    calc 2000 * (2 * exponentWeight) * (ofNat coefficient).units * unitsPerOne
        = 1000 * (2 * exponentWeight) * (2 * ((ofNat coefficient).units * unitsPerOne)) := by ring
      _ ≤ 1000 * (2 * exponentWeight) * (2 * (quotient * ten) + gap * ten) :=
          Nat.mul_le_mul_left _ hstep
      _ = (2 * quotient + gap) * (1000 * (2 * exponentWeight) * ten) := by ring
      _ ≤ (2 * quotient + gap) *
            ((1000 * (2 * exponentWeight) + 99) * (tenTo 308 * unitsPerOne)) :=
          Nat.mul_le_mul_left _ hpower
      _ = (1000 * (2 * exponentWeight) + 99) *
            (2 * (quotient * tenTo 308) + gap * tenTo 308) * unitsPerOne := by ring
  have hgap : 1000 * (2 * exponentWeight) * (2 ^ (scale + 51) * tenTo 308) ≤
      1113 * (coefficient * unitsPerOne) := by
    have hten : 1000 * 2 ^ 51 * tenTo 308 ≤ 1113 * unitsPerOne := by decide +kernel
    calc 1000 * (2 * exponentWeight) * (2 ^ (scale + 51) * tenTo 308)
        = 2 * exponentWeight * 2 ^ scale * (1000 * 2 ^ 51 * tenTo 308) := by
          rw [pow_add 2 scale]
          ring
      _ ≤ coefficient * (1113 * unitsPerOne) := Nat.mul_le_mul hbits hten
      _ = 1113 * (coefficient * unitsPerOne) := by ring
  -- The coefficient lost one rounding and the quotient less than 0.6 of one.
  simp only [exponentWeight] at hclose hunits hgap ⊢
  omega

theorem closeTwice_first_quotient (hthree : 3 ≤ coefficient) (hle : coefficient ≤ tenTo 17) :
    CloseTwice (((ofNat coefficient).overPowerOfTen 308).units * tenTo 308)
      (coefficient * unitsPerOne) := by
  refine ⟨first_quotient_le hthree hle, ?_⟩
  by_cases hshort : coefficient ≤ 2 * exponentWeight
  · have hquotient := units_le_first_quotient hthree hle
    rw [units_ofNat_of_le hshort] at hquotient
    simp only [exponentWeight] at hquotient ⊢
    omega
  · obtain ⟨scale, hbits, hhalf⟩ := exists_units_of_long (Nat.lt_of_not_le hshort) hle
    by_cases hhigh : 10 * (2 * exponentWeight * 2 ^ scale) ≤ 9 * coefficient
    · exact mul_le_first_quotient_of_high hthree hle hhalf hhigh
    · exact mul_le_first_quotient_of_low (by omega) hle hbits (Nat.lt_of_not_le hhigh)

end Twice

theorem least_coefficients_within_two :
    ∀ coefficient < 3, ∀ power < 17,
      (((ofNat coefficient).overPowerOfTen 308).overPowerOfTen power).magnitude ≤
          nearestMagnitude coefficient (tenTo (308 + power)) + 2 ∧
        nearestMagnitude coefficient (tenTo (308 + power)) ≤
          (((ofNat coefficient).overPowerOfTen 308).overPowerOfTen power).magnitude + 2 := by
  decide +kernel

theorem withinTwo_overPowerOfTen_twice {coefficient below rest magnitude : Nat}
    (hle : coefficient ≤ tenTo 17) (hsplit : below + 1 = 308 + rest) (hrest : rest ≤ 16)
    (hrounds : Rounds ⟨coefficient, .negSucc below⟩ magnitude)
    (hfinite : magnitude + 2 < infinityMagnitude) :
    WithinTwo (((ofNat coefficient).overPowerOfTen 308).overPowerOfTen rest) magnitude := by
  by_cases hthree : 3 ≤ coefficient
  · have hratio : CloseTwice
        (((ofNat coefficient).overPowerOfTen 308).units * unitsPerOne * tenTo (below + 1))
        (coefficient * gridStep (.negSucc below) * (ofNat (tenTo rest)).units) := by
      have hclose := (closeTwice_first_quotient hthree hle).mul_right (unitsPerOne * tenTo rest)
      have hstep : gridStep (.negSucc below) = unitsPerOne := Nat.mul_one _
      rw [hstep, units_tenTo (by omega), hsplit, tenTo_add]
      convert hclose using 1
      · ring
      · ring
    obtain ⟨habove, hbelow⟩ := nearestMagnitude_within_two (tenTo_pos (below + 1))
      (units_tenTo_pos (by omega)) hrounds hratio hfinite
    exact ⟨rfl, habove, hbelow⟩
  · -- The first quotient of the two least coefficients has fewer than 53 bits.
    have hexact : nearestMagnitude coefficient (tenTo (308 + rest)) = magnitude := by
      refine nearestMagnitude_eq (tenTo_pos _) (by omega) ?_
      rw [← hsplit, ← Nat.mul_one (coefficient * unitsPerOne), Nat.mul_assoc]
      exact hrounds
    obtain ⟨habove, hbelow⟩ := least_coefficients_within_two coefficient (by omega) rest (by omega)
    rw [hexact] at habove hbelow
    exact ⟨rfl, habove, hbelow⟩

/-- **Scaling gives a finite score within two of the nearest one**, and the nearest one itself where
the coefficient and the power of ten are scores. -/
theorem exists_scaled?_eq {coefficient magnitude : Nat} {power : Int}
    (hpositive : 0 < coefficient) (hle : coefficient ≤ tenTo 17) (hpower : -324 ≤ power)
    (hrounds : Rounds ⟨coefficient, power⟩ magnitude)
    (hfinite : magnitude + 2 < infinityMagnitude) :
    ∃ score, scaled? coefficient power = some score ∧ WithinTwo score magnitude ∧
      (coefficient ≤ 2 * exponentWeight → -22 ≤ power → power ≤ 22 →
        score.magnitude = magnitude) := by
  cases power with
  | ofNat power =>
      have hlargest := power_le_of_rounds hpositive hrounds (by omega)
      have hwithin := withinTwo_timesPowerOfTen hpositive hle hlargest hrounds hfinite
      have hscaled : ((ofNat coefficient).timesPowerOfTen power).isFinite = true :=
        decide_eq_true (hwithin.above.trans_lt hfinite)
      refine ⟨_, ?_, hwithin, ?_⟩
      · simp only [scaled?, if_neg hpositive.ne', if_neg (Nat.not_lt.mpr hlargest), hscaled,
          if_true]
      · intro hcoefficient _ hsmall
        exact magnitude_timesPowerOfTen hcoefficient (Int.ofNat_le.mp hsmall) hrounds (by omega)
  | negSucc below =>
      by_cases honce : below + 1 ≤ 308
      · refine ⟨_, ?_, withinTwo_overPowerOfTen hpositive hle honce hrounds hfinite, ?_⟩
        · simp only [scaled?, if_pos honce]
        · intro hcoefficient hsmall _
          exact magnitude_overPowerOfTen hcoefficient (by omega) hrounds (by omega)
      · obtain ⟨rest, hsplit⟩ := Nat.exists_eq_add_of_le (Nat.le_of_not_le honce)
        refine ⟨_, ?_, withinTwo_overPowerOfTen_twice hle hsplit (by omega) hrounds hfinite, ?_⟩
        · have htwice : below + 1 ≤ 616 := by omega
          have hsecond : below + 1 - 308 = rest := by omega
          simp only [scaled?, if_neg honce, if_pos htwice, hsecond]
        · intro _ hsmall _
          omega

end SearchRanking.Json
