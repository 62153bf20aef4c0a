import Mathlib.Algebra.Order.Field.Basic
import Mathlib.Algebra.Order.Field.Rat
import Mathlib.Tactic.FieldSimp
import SearchRanking.Decimal.Basic
import SearchRanking.Proofs.Decimal.Shortest

/-!
# The score nearest to a decimal

Every decimal has a correctly rounded magnitude: all others are farther from its value, or as far
where the magnitude is even. That magnitude may lie beyond the infinity, on the scale that would
come next if the exponents went on. `Decimal.nearest` finds it, up to the infinity, although it
settles very high and very low powers of ten without writing them out.
-/

namespace SearchRanking

open Score

namespace Score

attribute [local irreducible] unitsOf gapOf

def distance (value point : Nat) : Nat := (value - point) + (point - value)

/-- Between the two midpoints around a point all other points are farther away. -/
theorem between_midpoints_iff {point : Nat → Nat} (hmono : StrictMono point) (hzero : point 0 = 0)
    {value index : Nat} :
    point index + point (index - 1) ≤ 2 * value ∧ 2 * value ≤ point index + point (index + 1) ∧
        (index % 2 = 1 → point index + point (index - 1) ≠ 2 * value ∧
          2 * value ≠ point index + point (index + 1)) ↔
      ∀ other, other ≠ index →
        distance value (point index) < distance value (point other) ∨
          distance value (point index) = distance value (point other) ∧ index % 2 = 0 := by
  simp only [distance]
  have hnext : point index < point (index + 1) := hmono (Nat.lt_succ_self index)
  constructor
  · rintro ⟨hlower, hupper, hodd⟩ other hother
    rcases Nat.lt_or_gt_of_ne hother with hlt | hgt
    · have hfar : point other ≤ point (index - 1) := hmono.monotone (by omega)
      have hbelow : point (index - 1) < point index := hmono (by omega)
      omega
    · have hfar : point (index + 1) ≤ point other := hmono.monotone hgt
      omega
  · -- the two neighbours alone give the two midpoints
    intro hleast
    have habove := hleast (index + 1) (by omega)
    rcases Nat.eq_zero_or_pos index with rfl | hpositive
    · rw [Nat.zero_sub, hzero]
      omega
    · have hbelow := hleast (index - 1) (by omega)
      have hstep : point (index - 1) < point index := hmono (by omega)
      omega

theorem nearest_iff_distance {numerator denominator magnitude : Nat}
    (hdenominator : 0 < denominator) :
    Nearest numerator denominator magnitude ↔
      ∀ other, other ≠ magnitude →
        distance numerator (unitsOf magnitude * denominator) <
            distance numerator (unitsOf other * denominator) ∨
          distance numerator (unitsOf magnitude * denominator) =
            distance numerator (unitsOf other * denominator) ∧ magnitude % 2 = 0 := by
  have hmono : StrictMono fun index => unitsOf index * denominator := fun low high hlt =>
    Nat.mul_lt_mul_of_pos_right (unitsOf_strictMono hlt) hdenominator
  have hzero : unitsOf 0 * denominator = 0 := by rw [unitsOf_zero, Nat.zero_mul]
  rw [← between_midpoints_iff hmono hzero]
  simp only [← Nat.add_mul]
  exact ⟨fun hnearest => ⟨hnearest.lower, hnearest.upper, hnearest.odd⟩,
    fun ⟨hlower, hupper, hodd⟩ => ⟨hlower, hupper, hodd⟩⟩

theorem natCast_distance (value point : Nat) :
    (distance value point : ℚ) = |(value : ℚ) - point| := by
  rcases Nat.le_total value point with hle | hle
  · have hnonpos : (value : ℚ) - point ≤ 0 := sub_nonpos.mpr (Nat.cast_le.mpr hle)
    rw [distance, Nat.sub_eq_zero_of_le hle, Nat.zero_add, Nat.cast_sub hle, abs_of_nonpos hnonpos,
      neg_sub]
  · have hnonneg : 0 ≤ (value : ℚ) - point := sub_nonneg.mpr (Nat.cast_le.mpr hle)
    rw [distance, Nat.sub_eq_zero_of_le hle, Nat.add_zero, Nat.cast_sub hle, abs_of_nonneg hnonneg]

end Score

namespace Decimal

attribute [local irreducible] unitsOf gapOf

variable {decimal : Decimal} {magnitude other : Nat}

def value (decimal : Decimal) : ℚ := decimal.coefficient * 10 ^ decimal.power

/-- The number of a magnitude. From the infinity on it is the number that would come next if the
exponents went on. -/
def numberOf (magnitude : Nat) : ℚ := unitsOf magnitude / unitsPerOne

/-- No other magnitude is nearer to the decimal, and one that is as near is odd. -/
def CorrectlyRounded (decimal : Decimal) (magnitude : Nat) : Prop :=
  ∀ other, other ≠ magnitude →
    |decimal.value - numberOf magnitude| < |decimal.value - numberOf other| ∨
      |decimal.value - numberOf magnitude| = |decimal.value - numberOf other| ∧ magnitude % 2 = 0

theorem ten_zpow_eq (power : Int) :
    (10 : ℚ) ^ power = powerNumerator power / powerDenominator power := by
  cases power with
  | ofNat power => simp [powerNumerator, powerDenominator, tenTo_eq]
  | negSucc below => simp [powerNumerator, powerDenominator, tenTo_eq, zpow_negSucc]

theorem abs_value_sub_numberOf (decimal : Decimal) (magnitude : Nat) :
    |decimal.value - numberOf magnitude| =
      distance (decimal.coefficient * gridStep decimal.power)
          (unitsOf magnitude * powerDenominator decimal.power) /
        (unitsPerOne * powerDenominator decimal.power : ℚ) := by
  have hunit : (0 : ℚ) < unitsPerOne := Nat.cast_pos.mpr unitsPerOne_pos
  have hdenominator : (0 : ℚ) < powerDenominator decimal.power :=
    Nat.cast_pos.mpr (powerDenominator_pos _)
  have hdifference : decimal.value - numberOf magnitude =
      (((decimal.coefficient * gridStep decimal.power : Nat) : ℚ) -
          (unitsOf magnitude * powerDenominator decimal.power : Nat)) /
        (unitsPerOne * powerDenominator decimal.power) := by
    rw [value, numberOf, ten_zpow_eq, gridStep]
    push_cast
    field_simp
  rw [hdifference, abs_div, abs_of_pos (mul_pos hunit hdenominator), natCast_distance]

theorem rounds_iff_correctlyRounded :
    Rounds decimal magnitude ↔ CorrectlyRounded decimal magnitude := by
  have hscale : (0 : ℚ) < unitsPerOne * powerDenominator decimal.power :=
    mul_pos (Nat.cast_pos.mpr unitsPerOne_pos) (Nat.cast_pos.mpr (powerDenominator_pos _))
  rw [Rounds, nearest_iff_distance (powerDenominator_pos _), CorrectlyRounded]
  simp only [abs_value_sub_numberOf, div_lt_div_iff_of_pos_right hscale, div_left_inj' hscale.ne',
    Nat.cast_lt, Nat.cast_inj]

theorem CorrectlyRounded.unique (hrounded : CorrectlyRounded decimal magnitude)
    (hother : CorrectlyRounded decimal other) : magnitude = other := by
  rw [← rounds_iff_correctlyRounded] at hrounded hother
  exact Nearest.unique (powerDenominator_pos _) (powerDenominator_pos _) hrounded hother rfl

/-- The score has the sign and the magnitude, or the infinity in place of a greater magnitude. -/
structure Caps (score : Score) (negative : Bool) (magnitude : Nat) : Prop where
  negative_eq : score.negative = negative
  magnitude_eq : score.magnitude = min magnitude infinityMagnitude

/-- A power of ten above 400 is beyond the infinity. -/
theorem infinityMagnitude_le_of_rounds {coefficient power : Nat} (hpositive : 0 < coefficient)
    (hhigh : 400 < power) (hrounds : Rounds ⟨coefficient, power⟩ magnitude) :
    infinityMagnitude ≤ magnitude := by
  have hlimit : unitsOf infinityMagnitude ≤ unitsPerOne * tenTo 401 := by decide +kernel
  refine (nearest_unitsOf Nat.one_pos infinityMagnitude).le_of_le Nat.one_pos Nat.one_pos
    (rounds_mk_iff.mp hrounds) ?_
  calc unitsOf infinityMagnitude * 1 * 1 ≤ unitsPerOne * tenTo 401 := by
        rwa [Nat.mul_one, Nat.mul_one]
    _ ≤ unitsPerOne * tenTo power := Nat.mul_le_mul_left _ (tenTo_le_tenTo hhigh)
    _ ≤ coefficient * (unitsPerOne * tenTo power) := Nat.le_mul_of_pos_left _ hpositive
    _ = coefficient * gridStep power * 1 := (Nat.mul_one _).symm

/-- A power of ten low enough leaves less than half of the least magnitude. -/
theorem rounds_zero_of_low {coefficient below : Nat}
    (hlow : coefficient.log2 + 1100 < 3 * (below + 1)) :
    Rounds ⟨coefficient, .negSucc below⟩ 0 := by
  have hpower : unitsPerOne = 2 ^ 1074 := by decide +kernel
  have hsmall : 2 * (coefficient * unitsPerOne) ≤ tenTo (below + 1) :=
    calc 2 * (coefficient * unitsPerOne)
        ≤ 2 * (2 ^ (coefficient.log2 + 1) * unitsPerOne) := by
          have hbits : coefficient ≤ 2 ^ (coefficient.log2 + 1) := Nat.lt_log2_self.le
          gcongr
      _ = 2 ^ (coefficient.log2 + 1 + 1074 + 1) := by
          rw [hpower, ← pow_add, ← pow_succ']
      _ ≤ 2 ^ (3 * (below + 1)) := Nat.pow_le_pow_right (by decide) (by omega)
      _ = 8 ^ (below + 1) := pow_mul 2 3 (below + 1)
      _ ≤ tenTo (below + 1) := Nat.pow_le_pow_left (by decide) _
  have hnext : unitsOf 1 = 1 := by decide +kernel
  refine rounds_mk_iff.mpr ⟨?_, ?_, by simp⟩
  · simp
  · simpa [hnext, gridStep, powerNumerator, powerDenominator] using hsmall

theorem rounds_zero_of_coefficient_zero (power : Int) : Rounds ⟨0, power⟩ 0 := by
  refine rounds_mk_iff.mpr ⟨?_, ?_, by simp⟩ <;> simp

theorem exists_rounds_caps (decimal : Decimal) :
    ∃ magnitude, Rounds decimal magnitude ∧
      ∀ negative, Caps (decimal.nearest negative) negative magnitude := by
  obtain ⟨coefficient, power⟩ := decimal
  rcases Nat.eq_zero_or_pos coefficient with rfl | hpositive
  · exact ⟨0, rounds_zero_of_coefficient_zero power, fun negative => ⟨rfl, rfl⟩⟩
  · cases power with
    | ofNat power =>
        obtain ⟨magnitude, hnearest, hcapped⟩ :=
          exists_nearest (coefficient * tenTo power) Nat.one_pos
        have hrounds : Rounds ⟨coefficient, .ofNat power⟩ magnitude := by
          have hvalue : coefficient * gridStep (.ofNat power) =
              coefficient * tenTo power * unitsPerOne := by
            rw [gridStep, powerNumerator]
            ring
          rwa [rounds_mk_iff, hvalue]
        refine ⟨magnitude, hrounds, fun negative => ?_⟩
        simp only [nearest, if_neg hpositive.ne']
        split
        · next hhigh =>
          have hbeyond := infinityMagnitude_le_of_rounds hpositive hhigh hrounds
          exact ⟨rfl, (Nat.min_eq_right hbeyond).symm⟩
        · exact ⟨rfl, hcapped⟩
    | negSucc below =>
        obtain ⟨magnitude, hnearest, hcapped⟩ := exists_nearest coefficient (tenTo_pos (below + 1))
        have hrounds : Rounds ⟨coefficient, .negSucc below⟩ magnitude := by
          have hvalue : coefficient * gridStep (.negSucc below) = coefficient * unitsPerOne := by
            rw [gridStep, powerNumerator, Nat.mul_one]
          rwa [rounds_mk_iff, hvalue]
        refine ⟨magnitude, hrounds, fun negative => ?_⟩
        simp only [nearest, if_neg hpositive.ne']
        split
        · next hlow =>
          have hzero : magnitude = 0 := Nearest.unique (powerDenominator_pos _)
            (powerDenominator_pos _) hrounds (rounds_zero_of_low hlow) rfl
          rw [hzero]
          exact ⟨rfl, rfl⟩
        · exact ⟨rfl, hcapped⟩

theorem exists_correctlyRounded (decimal : Decimal) :
    ∃ magnitude, CorrectlyRounded decimal magnitude := by
  obtain ⟨magnitude, hrounds, -⟩ := exists_rounds_caps decimal
  exact ⟨magnitude, rounds_iff_correctlyRounded.mp hrounds⟩

theorem CorrectlyRounded.caps_nearest (hrounded : CorrectlyRounded decimal magnitude)
    (negative : Bool) : Caps (decimal.nearest negative) negative magnitude := by
  obtain ⟨found, hfound, hcaps⟩ := exists_rounds_caps decimal
  rw [(rounds_iff_correctlyRounded.mp hfound).unique hrounded] at hcaps
  exact hcaps negative

@[simp]
theorem negative_nearest (negative : Bool) (decimal : Decimal) :
    (decimal.nearest negative).negative = negative := by
  obtain ⟨magnitude, hrounded⟩ := exists_correctlyRounded decimal
  exact (hrounded.caps_nearest negative).negative_eq

theorem correctlyRounded_nearest {negative : Bool}
    (hfinite : (decimal.nearest negative).isFinite = true) :
    CorrectlyRounded decimal (decimal.nearest negative).magnitude := by
  obtain ⟨magnitude, hrounded⟩ := exists_correctlyRounded decimal
  have hcapped := (hrounded.caps_nearest negative).magnitude_eq
  have hlt : (decimal.nearest negative).magnitude < infinityMagnitude := of_decide_eq_true hfinite
  have hmagnitude : (decimal.nearest negative).magnitude = magnitude := by omega
  rwa [hmagnitude]

theorem Caps.eq_of_isFinite {score found : Score} (hfinite : score.isFinite = true)
    (hcaps : Caps found score.negative score.magnitude) : found = score := by
  have hmagnitude : found.magnitude = score.magnitude := by
    rw [hcaps.magnitude_eq, Nat.min_eq_left (of_decide_eq_true hfinite).le]
  obtain ⟨negative, magnitude, hlt⟩ := found
  obtain ⟨rfl, -⟩ := hcaps
  cases hmagnitude
  rfl

end Decimal

end SearchRanking
