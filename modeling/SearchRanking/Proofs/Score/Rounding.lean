import Mathlib.Order.Monotone.Basic
import Mathlib.Tactic.GCongr
import Mathlib.Tactic.Linarith
import Mathlib.Tactic.Ring
import SearchRanking.Score.Rounding

/-!
# Rounding to the nearest magnitude

The exact value of a magnitude grows by a gap that is a power of two, and the gap is at most the
`2 ^ 52`-th part of the value. `Nearest` says of a magnitude that a ratio lies between the midpoints
to its two neighbours, an odd magnitude losing the ties. This fixes the magnitude, and the rounding
function finds it; so every later statement about rounding is one about midpoints, and none opens
the function again.

Two consequences carry the analysis of inexact arithmetic. A rounded value lies within the factor
`1 + 2 ^ (-53)` of the exact one (`Nearest.close`), and two ratios that differ by no more than the
square of this factor round to magnitudes that differ by no more than two (`Nearest.le_add_two`).
-/

namespace SearchRanking.Score

/-- The distance from a magnitude to the next one, in units. -/
def gapOf (magnitude : Nat) : Nat := 2 ^ scaleOf magnitude

theorem gapOf_pos (magnitude : Nat) : 0 < gapOf magnitude := Nat.two_pow_pos _

theorem unitsOf_eq (magnitude : Nat) :
    unitsOf magnitude = significandOf magnitude * gapOf magnitude := Nat.shiftLeft_eq _ _

theorem significandOf_lt (magnitude : Nat) : significandOf magnitude < 2 * exponentWeight := by
  simp only [significandOf, scaleOf, exponentWeight]
  omega

theorem exponentWeight_le_significandOf {magnitude : Nat} (hnormal : exponentWeight ≤ magnitude) :
    exponentWeight ≤ significandOf magnitude := by
  simp only [significandOf, scaleOf, exponentWeight] at hnormal ⊢
  omega

@[simp]
theorem scaleOf_mul_add_significandOf (magnitude : Nat) :
    scaleOf magnitude * exponentWeight + significandOf magnitude = magnitude := by
  simp only [significandOf, scaleOf, exponentWeight]
  omega

/-- A significand at a scale makes a magnitude. One that is just too large moves into the scale
without a change of value. -/
theorem unitsOf_scale_add {scale significand : Nat} (hle : significand ≤ 2 * exponentWeight)
    (hnormal : scale = 0 ∨ exponentWeight ≤ significand) :
    unitsOf (scale * exponentWeight + significand) = significand * 2 ^ scale := by
  rw [unitsOf_eq, gapOf]
  rcases Nat.lt_or_eq_of_le hle with hlt | rfl
  · have hscale : scaleOf (scale * exponentWeight + significand) = scale := by
      simp only [scaleOf, exponentWeight] at hlt hnormal ⊢
      omega
    rw [significandOf, hscale, Nat.add_sub_cancel_left]
  · have hscale : scaleOf (scale * exponentWeight + 2 * exponentWeight) = scale + 1 := by
      simp only [scaleOf, exponentWeight]
      omega
    have hsignificand :
        significandOf (scale * exponentWeight + 2 * exponentWeight) = exponentWeight := by
      simp only [significandOf, scaleOf, exponentWeight]
      omega
    rw [hsignificand, hscale, pow_succ]
    ring

theorem gapOf_scale_add {scale significand : Nat} (hlt : significand < 2 * exponentWeight)
    (hnormal : scale = 0 ∨ exponentWeight ≤ significand) :
    gapOf (scale * exponentWeight + significand) = 2 ^ scale := by
  have hscale : scaleOf (scale * exponentWeight + significand) = scale := by
    simp only [scaleOf, exponentWeight] at hlt hnormal ⊢
    omega
  rw [gapOf, hscale]

theorem gapOf_of_lt {magnitude : Nat} (hlt : magnitude < exponentWeight) :
    gapOf magnitude = 1 := by
  have hscale : scaleOf magnitude = 0 := by
    rw [scaleOf, Nat.div_eq_of_lt hlt]
  rw [gapOf, hscale, pow_zero]

theorem gapOf_le_two_pow {magnitude scale : Nat}
    (hlt : magnitude < scale * exponentWeight + 2 * exponentWeight) :
    gapOf magnitude ≤ 2 ^ scale := by
  refine Nat.pow_le_pow_right (by decide) ?_
  simp only [scaleOf, exponentWeight] at hlt ⊢
  omega

theorem two_pow_le_gapOf_scale_add {scale significand : Nat}
    (hnormal : scale = 0 ∨ exponentWeight ≤ significand) :
    2 ^ scale ≤ gapOf (scale * exponentWeight + significand) := by
  refine Nat.pow_le_pow_right (by decide) ?_
  simp only [scaleOf, exponentWeight] at hnormal ⊢
  omega

theorem unitsOf_scale_add_sub_one {scale significand : Nat}
    (hle : significand ≤ 2 * exponentWeight) (hpositive : 0 < significand)
    (hnormal : scale = 0 ∨ exponentWeight < significand) :
    unitsOf (scale * exponentWeight + significand - 1) = (significand - 1) * 2 ^ scale := by
  rw [Nat.add_sub_assoc hpositive]
  exact unitsOf_scale_add (by omega) (by omega)

theorem unitsOf_succ (magnitude : Nat) :
    unitsOf (magnitude + 1) = unitsOf magnitude + gapOf magnitude := by
  have hlt := significandOf_lt magnitude
  have hnormal : scaleOf magnitude = 0 ∨ exponentWeight ≤ significandOf magnitude + 1 := by
    simp only [significandOf, scaleOf, exponentWeight]
    omega
  have hsucc : magnitude + 1 =
      scaleOf magnitude * exponentWeight + (significandOf magnitude + 1) := by
    rw [← Nat.add_assoc, scaleOf_mul_add_significandOf]
  rw [hsucc, unitsOf_scale_add hlt hnormal, unitsOf_eq, gapOf, Nat.succ_mul]

@[simp]
theorem unitsOf_zero : unitsOf 0 = 0 := rfl

theorem unitsOf_strictMono : StrictMono unitsOf := by
  refine strictMono_nat_of_lt_succ ?_
  intro magnitude
  rw [unitsOf_succ]
  exact Nat.lt_add_of_pos_right (gapOf_pos magnitude)

theorem gapOf_mono : Monotone gapOf := by
  intro left right hle
  refine Nat.pow_le_pow_right (by decide) ?_
  exact Nat.sub_le_sub_right (Nat.div_le_div_right hle) 1

theorem unitsOf_succ_le (magnitude : Nat) :
    unitsOf (magnitude + 1) ≤ 2 * exponentWeight * gapOf magnitude := by
  rw [unitsOf_succ, unitsOf_eq, ← Nat.succ_mul]
  exact Nat.mul_le_mul_right _ (significandOf_lt magnitude)

theorem exponentWeight_mul_gapOf_le {magnitude : Nat} (hnormal : exponentWeight ≤ magnitude) :
    exponentWeight * gapOf magnitude ≤ unitsOf magnitude := by
  rw [unitsOf_eq]
  exact Nat.mul_le_mul_right _ (exponentWeight_le_significandOf hnormal)

theorem exists_unitsOf_eq {significand : Nat} (hlt : significand < 2 * exponentWeight)
    (scale : Nat) : ∃ magnitude, unitsOf magnitude = significand * 2 ^ scale := by
  induction scale generalizing significand with
  | zero =>
      refine ⟨0 * exponentWeight + significand, ?_⟩
      rw [unitsOf_scale_add hlt.le (Or.inl rfl)]
  | succ scale ih =>
      by_cases hnormal : exponentWeight ≤ significand
      · exact ⟨_, unitsOf_scale_add hlt.le (Or.inr hnormal)⟩
      · obtain ⟨magnitude, hunits⟩ := @ih (2 * significand) (by omega)
        refine ⟨magnitude, ?_⟩
        rw [hunits, pow_succ]
        ring

theorem exists_unitsPerOne_eq : ∃ scale, unitsPerOne = 2 ^ scale :=
  ⟨1074, by decide +kernel⟩

theorem unitsPerOne_pos : 0 < unitsPerOne := by decide +kernel

attribute [local irreducible] unitsOf gapOf

/-- The ratio, counted in units, lies between the midpoints to the two neighbours of the magnitude.
A midpoint belongs to the even one of the magnitudes beside it. -/
structure Nearest (numerator denominator magnitude : Nat) : Prop where
  lower : (unitsOf magnitude + unitsOf (magnitude - 1)) * denominator ≤ 2 * numerator
  upper : 2 * numerator ≤ (unitsOf magnitude + unitsOf (magnitude + 1)) * denominator
  odd : magnitude % 2 = 1 →
    (unitsOf magnitude + unitsOf (magnitude - 1)) * denominator ≠ 2 * numerator ∧
      2 * numerator ≠ (unitsOf magnitude + unitsOf (magnitude + 1)) * denominator

theorem midpoint_mono {low high : Nat} (hlt : low < high) :
    unitsOf low + unitsOf (low + 1) ≤ unitsOf high + unitsOf (high - 1) := by
  have hlow : unitsOf low ≤ unitsOf (high - 1) := unitsOf_strictMono.monotone (by omega)
  have hhigh : unitsOf (low + 1) ≤ unitsOf high := unitsOf_strictMono.monotone (by omega)
  omega

theorem midpoint_lt {low high : Nat} (hlt : low + 1 < high) :
    unitsOf low + unitsOf (low + 1) < unitsOf high + unitsOf (high - 1) := by
  have hlow : unitsOf low < unitsOf (high - 1) := unitsOf_strictMono (by omega)
  have hhigh : unitsOf (low + 1) < unitsOf high := unitsOf_strictMono hlt
  omega

section Nearest

variable {numerator denominator magnitude otherNumerator otherDenominator other : Nat}

theorem Nearest.le_of_le (hdenominator : 0 < denominator) (hother : 0 < otherDenominator)
    (hsmall : Nearest numerator denominator magnitude)
    (hlarge : Nearest otherNumerator otherDenominator other)
    (hle : numerator * otherDenominator ≤ otherNumerator * denominator) : magnitude ≤ other := by
  by_contra hgt
  have hgt : other < magnitude := Nat.lt_of_not_le hgt
  have hmidpoint := Nat.mul_le_mul_right (denominator * otherDenominator) (midpoint_mono hgt)
  have hlower : (unitsOf magnitude + unitsOf (magnitude - 1)) * (denominator * otherDenominator) ≤
      2 * (numerator * otherDenominator) := by
    linarith [Nat.mul_le_mul_right otherDenominator hsmall.lower]
  have hupper : 2 * (otherNumerator * denominator) ≤
      (unitsOf other + unitsOf (other + 1)) * (denominator * otherDenominator) := by
    linarith [Nat.mul_le_mul_right denominator hlarge.upper]
  -- Both ratios are the one midpoint between two magnitudes, so neither magnitude is odd.
  have hsmallTie : (unitsOf magnitude + unitsOf (magnitude - 1)) * denominator * otherDenominator =
      2 * numerator * otherDenominator := by linarith
  have hlargeTie : 2 * otherNumerator * denominator =
      (unitsOf other + unitsOf (other + 1)) * otherDenominator * denominator := by linarith
  have hnext : magnitude = other + 1 := by
    by_contra hfar
    have hstrict : unitsOf other + unitsOf (other + 1) <
        unitsOf magnitude + unitsOf (magnitude - 1) := midpoint_lt (by omega)
    have hscaled := Nat.mul_lt_mul_of_pos_right hstrict (Nat.mul_pos hdenominator hother)
    omega
  rcases Nat.mod_two_eq_zero_or_one magnitude with heven | hodd
  · have hotherOdd : other % 2 = 1 := by omega
    exact (hlarge.odd hotherOdd).2 (Nat.eq_of_mul_eq_mul_right hdenominator hlargeTie)
  · exact (hsmall.odd hodd).1 (Nat.eq_of_mul_eq_mul_right hother hsmallTie)

theorem Nearest.unique (hdenominator : 0 < denominator) (hother : 0 < otherDenominator)
    (hnearest : Nearest numerator denominator magnitude)
    (hotherNearest : Nearest otherNumerator otherDenominator other)
    (heq : numerator * otherDenominator = otherNumerator * denominator) : magnitude = other :=
  Nat.le_antisymm (hnearest.le_of_le hdenominator hother hotherNearest heq.le)
    (hotherNearest.le_of_le hother hdenominator hnearest heq.ge)

theorem nearest_unitsOf (hdenominator : 0 < denominator) (magnitude : Nat) :
    Nearest (unitsOf magnitude * denominator) denominator magnitude := by
  have hbelow : unitsOf (magnitude - 1) ≤ unitsOf magnitude :=
    unitsOf_strictMono.monotone (Nat.sub_le magnitude 1)
  have habove : unitsOf magnitude < unitsOf (magnitude + 1) :=
    unitsOf_strictMono (Nat.lt_succ_self magnitude)
  refine ⟨?_, ?_, ?_⟩
  · nlinarith
  · nlinarith
  · intro hodd
    have hstrict : unitsOf (magnitude - 1) < unitsOf magnitude :=
      unitsOf_strictMono (by omega)
    constructor
    · intro heq
      nlinarith
    · intro heq
      nlinarith

theorem Nearest.congr (hdenominator : 0 < denominator) (hother : 0 < otherDenominator)
    (heq : numerator * otherDenominator = otherNumerator * denominator)
    (hnearest : Nearest numerator denominator magnitude) :
    Nearest otherNumerator otherDenominator magnitude := by
  -- Each midpoint is compared after both denominators are multiplied in.
  have hscale : ∀ midpoint, midpoint * otherDenominator * denominator =
      midpoint * denominator * otherDenominator := fun midpoint => by ring
  have hpoint : 2 * otherNumerator * denominator = 2 * numerator * otherDenominator := by linarith
  refine ⟨?_, ?_, ?_⟩
  · refine Nat.le_of_mul_le_mul_right ?_ hdenominator
    rw [hscale, hpoint]
    exact Nat.mul_le_mul_right _ hnearest.lower
  · refine Nat.le_of_mul_le_mul_right ?_ hdenominator
    rw [hscale, hpoint]
    exact Nat.mul_le_mul_right _ hnearest.upper
  · intro hodd
    refine ⟨?_, ?_⟩
    · intro htie
      have hscaled := congrArg (· * denominator) htie
      simp only [hscale, hpoint] at hscaled
      exact (hnearest.odd hodd).1 (Nat.eq_of_mul_eq_mul_right hother hscaled)
    · intro htie
      have hscaled := congrArg (· * denominator) htie
      simp only [hscale, hpoint] at hscaled
      exact (hnearest.odd hodd).2 (Nat.eq_of_mul_eq_mul_right hother hscaled)

theorem Nearest.of_values {value below gap : Nat}
    (hvalue : unitsOf magnitude * denominator = value)
    (hbelow : unitsOf (magnitude - 1) * denominator = below)
    (hgap : gapOf magnitude * denominator = gap)
    (hlower : value + below ≤ 2 * numerator) (hupper : 2 * numerator ≤ 2 * value + gap)
    (hodd : magnitude % 2 = 1 → value + below ≠ 2 * numerator ∧ 2 * numerator ≠ 2 * value + gap) :
    Nearest numerator denominator magnitude := by
  have habove : (unitsOf magnitude + unitsOf (magnitude + 1)) * denominator = 2 * value + gap := by
    rw [unitsOf_succ, Nat.add_mul, Nat.add_mul, hvalue, hgap]
    ring
  have hmidpoint : (unitsOf magnitude + unitsOf (magnitude - 1)) * denominator = value + below := by
    rw [Nat.add_mul, hvalue, hbelow]
  exact ⟨hmidpoint.trans_le hlower, hupper.trans_eq habove.symm, by rwa [hmidpoint, habove]⟩

/-! ### Closeness -/

/-- Within the factor `1 + 2 ^ (-53)` of each other. -/
def Close (left right : Nat) : Prop :=
  2 * exponentWeight * left ≤ (2 * exponentWeight + 1) * right ∧
    2 * exponentWeight * right ≤ (2 * exponentWeight + 1) * left

theorem Close.symm {left right : Nat} (hclose : Close left right) : Close right left :=
  ⟨hclose.2, hclose.1⟩

theorem Nearest.exponentWeight_le (hdenominator : 0 < denominator)
    (hnearest : Nearest numerator denominator magnitude)
    (hnormal : exponentWeight * denominator ≤ numerator) : exponentWeight ≤ magnitude := by
  have hunits : unitsOf (0 * exponentWeight + exponentWeight) = exponentWeight * 2 ^ 0 :=
    unitsOf_scale_add (Nat.le_mul_of_pos_left _ (by decide)) (Or.inl rfl)
  rw [Nat.zero_mul, Nat.zero_add, pow_zero, Nat.mul_one] at hunits
  have hleast := nearest_unitsOf hdenominator exponentWeight
  refine hleast.le_of_le hdenominator hdenominator hnearest ?_
  rw [hunits]
  exact Nat.mul_le_mul_right denominator hnormal

/-- From the least normal value on, rounding stays within the factor `1 + 2 ^ (-53)`. -/
theorem Nearest.close (hdenominator : 0 < denominator)
    (hnearest : Nearest numerator denominator magnitude)
    (hnormal : exponentWeight * denominator ≤ numerator) :
    Close numerator (unitsOf magnitude * denominator) := by
  have hmagnitude := hnearest.exponentWeight_le hdenominator hnormal
  constructor
  · -- Above the value the gap is at most its `2 ^ 52`-th part.
    have hgap := Nat.mul_le_mul_right denominator (exponentWeight_mul_gapOf_le hmagnitude)
    have hupper := hnearest.upper
    rw [unitsOf_succ] at hupper
    nlinarith
  · -- Below it the same holds of the ratio, which does not fall under the midpoint.
    have hlower := hnearest.lower
    have hstep := unitsOf_succ (magnitude - 1)
    rw [Nat.sub_add_cancel (by simp only [exponentWeight] at hmagnitude; omega)] at hstep
    have hgap : exponentWeight * gapOf (magnitude - 1) * denominator ≤ numerator := by
      by_cases hleast : exponentWeight ≤ magnitude - 1
      · have hbelow := Nat.mul_le_mul_right denominator (exponentWeight_mul_gapOf_le hleast)
        have hhalf : 2 * (unitsOf (magnitude - 1) * denominator) ≤ 2 * numerator := by
          refine le_trans ?_ hlower
          rw [hstep]
          nlinarith [Nat.zero_le (gapOf (magnitude - 1) * denominator)]
        omega
      · have hone : magnitude - 1 < exponentWeight := Nat.lt_of_not_le hleast
        rwa [gapOf_of_lt hone, Nat.mul_one]
    nlinarith

/-- Up to the value `2 ^ 53 * 2 ^ scale` rounding moves a ratio by no more than half of
`2 ^ scale`. -/
theorem Nearest.half_step (hdenominator : 0 < denominator)
    (hnearest : Nearest numerator denominator magnitude) {scale : Nat}
    (hle : numerator ≤ 2 * exponentWeight * 2 ^ scale * denominator) :
    2 * (unitsOf magnitude * denominator) ≤ 2 * numerator + 2 ^ scale * denominator ∧
      2 * numerator ≤ 2 * (unitsOf magnitude * denominator) + 2 ^ scale * denominator := by
  have hunits := unitsOf_scale_add (Nat.le_refl (2 * exponentWeight))
    (Or.inr (Nat.le_mul_of_pos_left _ (by decide)) : scale = 0 ∨ _)
  generalize htop : scale * exponentWeight + 2 * exponentWeight = top at hunits
  have hmagnitude : magnitude ≤ top := by
    refine hnearest.le_of_le hdenominator hdenominator (nearest_unitsOf hdenominator top) ?_
    rw [hunits]
    exact Nat.mul_le_mul_right denominator hle
  have hgap : ∀ lower < top, gapOf lower * denominator ≤ 2 ^ scale * denominator := by
    intro lower hlower
    refine Nat.mul_le_mul_right denominator (gapOf_le_two_pow ?_)
    omega
  constructor
  · rcases Nat.eq_zero_or_pos magnitude with rfl | hpositive
    · simp
    · have hstep := unitsOf_succ (magnitude - 1)
      rw [Nat.sub_add_cancel hpositive] at hstep
      have hlower := hnearest.lower
      have hbelow := hgap (magnitude - 1) (by omega)
      rw [hstep] at hlower ⊢
      nlinarith
  · rcases Nat.lt_or_eq_of_le hmagnitude with hlt | rfl
    · have hupper := hnearest.upper
      have habove := hgap magnitude hlt
      rw [unitsOf_succ] at hupper
      nlinarith
    · rw [hunits]
      omega

/-- Two ratios that differ by at most the square of the factor round to magnitudes that differ by at
most two. The gap above a magnitude is no less than the `2 ^ 53`-th part of the next value, so that
three steps up lead beyond the factor. -/
theorem Nearest.le_add_two (hdenominator : 0 < denominator) (hother : 0 < otherDenominator)
    (hnearest : Nearest numerator denominator magnitude)
    (hotherNearest : Nearest otherNumerator otherDenominator other)
    (hclose : (2 * exponentWeight) ^ 2 * (otherNumerator * denominator) ≤
      (2 * exponentWeight + 1) ^ 2 * (numerator * otherDenominator)) :
    other ≤ magnitude + 2 := by
  by_contra hfar
  have hmidpoint : unitsOf (magnitude + 2) + unitsOf (magnitude + 3) ≤
      unitsOf other + unitsOf (other - 1) := midpoint_mono (Nat.lt_of_not_le hfar)
  have hlower : (unitsOf (magnitude + 2) + unitsOf (magnitude + 3)) * otherDenominator ≤
      2 * otherNumerator :=
    (Nat.mul_le_mul_right _ hmidpoint).trans hotherNearest.lower
  have hratio : (2 * exponentWeight) ^ 2 *
        (unitsOf (magnitude + 2) + unitsOf (magnitude + 3)) * (denominator * otherDenominator) ≤
      (2 * exponentWeight + 1) ^ 2 *
        (unitsOf magnitude + unitsOf (magnitude + 1)) * (denominator * otherDenominator) := by
    calc (2 * exponentWeight) ^ 2 * (unitsOf (magnitude + 2) + unitsOf (magnitude + 3)) *
          (denominator * otherDenominator)
        = (2 * exponentWeight) ^ 2 * ((unitsOf (magnitude + 2) + unitsOf (magnitude + 3)) *
            otherDenominator * denominator) := by ring
      _ ≤ (2 * exponentWeight) ^ 2 * (2 * otherNumerator * denominator) := by gcongr
      _ = 2 * ((2 * exponentWeight) ^ 2 * (otherNumerator * denominator)) := by ring
      _ ≤ 2 * ((2 * exponentWeight + 1) ^ 2 * (numerator * otherDenominator)) := by gcongr
      _ = (2 * exponentWeight + 1) ^ 2 * (2 * numerator * otherDenominator) := by ring
      _ ≤ (2 * exponentWeight + 1) ^ 2 * ((unitsOf magnitude + unitsOf (magnitude + 1)) *
            denominator * otherDenominator) :=
          Nat.mul_le_mul_left _ (Nat.mul_le_mul_right _ hnearest.upper)
      _ = (2 * exponentWeight + 1) ^ 2 * (unitsOf magnitude + unitsOf (magnitude + 1)) *
            (denominator * otherDenominator) := by ring
  have hcancelled := Nat.le_of_mul_le_mul_right hratio (Nat.mul_pos hdenominator hother)
  have hfirst := unitsOf_succ magnitude
  have hsecond := unitsOf_succ (magnitude + 1)
  have hthird := unitsOf_succ (magnitude + 2)
  have hgapSecond : gapOf magnitude ≤ gapOf (magnitude + 1) := gapOf_mono (by omega)
  have hgapThird : gapOf magnitude ≤ gapOf (magnitude + 2) := gapOf_mono (by omega)
  have hbound := unitsOf_succ_le magnitude
  have hpos := gapOf_pos magnitude
  simp only [exponentWeight] at hcancelled hbound
  nlinarith

end Nearest

/-! ### The rounding function -/

theorem divHalfEven_bounds (dividend : Nat) {divisor : Nat} (hdivisor : 0 < divisor) :
    2 * (divHalfEven dividend divisor * divisor) ≤ 2 * dividend + divisor ∧
    2 * dividend ≤ 2 * (divHalfEven dividend divisor * divisor) + divisor ∧
    (divHalfEven dividend divisor % 2 = 1 →
      2 * (divHalfEven dividend divisor * divisor) ≠ 2 * dividend + divisor ∧
      2 * dividend ≠ 2 * (divHalfEven dividend divisor * divisor) + divisor) := by
  have hsplit : dividend / divisor * divisor + dividend % divisor = dividend :=
    Nat.div_add_mod' dividend divisor
  have hremainder : dividend % divisor < divisor := Nat.mod_lt dividend hdivisor
  simp only [divHalfEven]
  split
  · next hdown =>
    refine ⟨by omega, by omega, ?_⟩
    intro hodd
    exact ⟨by omega, by omega⟩
  · next hup =>
    have hnext : (dividend / divisor + 1) * divisor = dividend / divisor * divisor + divisor :=
      Nat.succ_mul _ _
    rw [hnext]
    refine ⟨by omega, by omega, ?_⟩
    intro hodd
    exact ⟨by omega, by omega⟩

/-- The rounded quotient stays below an even bound when the quotient is below the half before it. -/
theorem divHalfEven_lt_iff {dividend divisor bound : Nat} (hdivisor : 0 < divisor)
    (heven : bound % 2 = 0) :
    divHalfEven dividend divisor < bound ↔ 2 * dividend + divisor < 2 * (bound * divisor) := by
  obtain ⟨hle, hge, hodd⟩ := divHalfEven_bounds dividend hdivisor
  generalize divHalfEven dividend divisor = rounded at hle hge hodd ⊢
  constructor
  · intro hlt
    have hmul : (rounded + 1) * divisor ≤ bound * divisor := Nat.mul_le_mul_right divisor hlt
    rw [Nat.succ_mul] at hmul
    by_cases hlast : rounded + 1 = bound
    · have hstrict := (hodd (by omega)).2
      omega
    · have hmore : (rounded + 2) * divisor ≤ bound * divisor :=
        Nat.mul_le_mul_right divisor (by omega)
      rw [Nat.add_mul] at hmore
      omega
  · intro hlt
    by_contra hnot
    have hmul : bound * divisor ≤ rounded * divisor :=
      Nat.mul_le_mul_right divisor (Nat.le_of_not_lt hnot)
    omega

/-- A significand that is rounded at a fitting scale gives the nearest magnitude. -/
theorem nearest_scale_add {numerator denominator scale : Nat} (hdenominator : 0 < denominator)
    (hupper : numerator < 2 * exponentWeight * (denominator * 2 ^ scale))
    (hlower : scale = 0 ∨ exponentWeight * (denominator * 2 ^ scale) ≤ numerator) :
    Nearest numerator denominator
      (scale * exponentWeight + divHalfEven numerator (denominator * 2 ^ scale)) := by
  have hdivisor : 0 < denominator * 2 ^ scale := Nat.mul_pos hdenominator (Nat.two_pow_pos scale)
  obtain ⟨hdown, hup, htie⟩ := divHalfEven_bounds numerator hdivisor
  generalize divHalfEven numerator (denominator * 2 ^ scale) = significand at hdown hup htie ⊢
  generalize hstep : denominator * 2 ^ scale = step at hupper hlower hdivisor hdown hup htie
  have hle : significand ≤ 2 * exponentWeight := by nlinarith
  have hnormal : scale = 0 ∨ exponentWeight ≤ significand := by
    rcases hlower with hzero | hlower
    · exact Or.inl hzero
    · right
      nlinarith
  have hunits := unitsOf_scale_add hle hnormal
  have hvalue : unitsOf (scale * exponentWeight + significand) * denominator =
      significand * step := by
    rw [hunits, ← hstep]
    ring
  have hparity : (scale * exponentWeight + significand) % 2 = significand % 2 := by
    simp only [exponentWeight]
    omega
  have hgap : step ≤ gapOf (scale * exponentWeight + significand) * denominator := by
    rw [← hstep, Nat.mul_comm denominator]
    exact Nat.mul_le_mul_right _ (two_pow_le_gapOf_scale_add hnormal)
  by_cases hinner : 0 < significand ∧ (scale = 0 ∨ exponentWeight < significand)
  · have hbelow : unitsOf (scale * exponentWeight + significand - 1) * denominator =
        significand * step - step := by
      rw [unitsOf_scale_add_sub_one hle hinner.1 hinner.2, ← hstep, ← Nat.sub_one_mul]
      ring
    have hstepLe : step ≤ significand * step := Nat.le_mul_of_pos_left step hinner.1
    refine .of_values hvalue hbelow rfl (by omega) (by omega) ?_
    intro hodd
    rw [hparity] at hodd
    have hlt : significand < 2 * exponentWeight := by
      simp only [exponentWeight] at hle ⊢
      omega
    have hexact : gapOf (scale * exponentWeight + significand) * denominator = step := by
      rw [gapOf_scale_add hlt hnormal, ← hstep, Nat.mul_comm]
    have hnoTie := htie hodd
    rw [hexact]
    omega
  · -- The significand is the least one at its scale, and the ratio does not lie below it.
    have hbelow : unitsOf (scale * exponentWeight + significand - 1) * denominator ≤
        significand * step := by
      rw [← hvalue]
      exact Nat.mul_le_mul_right _ (unitsOf_strictMono.monotone (Nat.sub_le _ 1))
    have hleast : (significand = 0 ∨ significand = exponentWeight) ∧
        significand * step ≤ numerator := by
      rcases Nat.eq_zero_or_pos significand with rfl | hpositive
      · simp
      · have hscale : scale ≠ 0 := fun hzero => hinner ⟨hpositive, Or.inl hzero⟩
        have hexact : significand = exponentWeight := by omega
        rw [hexact]
        exact ⟨Or.inr rfl, hlower.resolve_left hscale⟩
    refine .of_values hvalue rfl rfl (by omega) (by omega) ?_
    intro hodd
    rw [hparity] at hodd
    rcases hleast.1 with rfl | rfl
    · simp at hodd
    · simp [exponentWeight] at hodd

theorem exists_nearest (numerator : Nat) {denominator : Nat} (hdenominator : 0 < denominator) :
    ∃ magnitude, Nearest (numerator * unitsPerOne) denominator magnitude ∧
      nearestMagnitude numerator denominator = min magnitude infinityMagnitude := by
  refine ⟨_, ?_, rfl⟩
  rw [Nat.shiftLeft_eq]
  generalize numerator * unitsPerOne = value
  have hfloor : value / denominator * denominator ≤ value := Nat.div_mul_le_self value denominator
  have hceil : value < (value / denominator + 1) * denominator := by
    rw [Nat.succ_mul]
    exact Nat.lt_div_mul_add hdenominator
  generalize value / denominator = whole at hfloor hceil ⊢
  have hpower : (2 : Nat) ^ 52 = exponentWeight := rfl
  refine nearest_scale_add hdenominator ?_ ?_
  · have hbits : whole + 1 ≤ 2 ^ (whole.log2 - 52 + 53) :=
      (Nat.lt_log2_self).trans_le (Nat.pow_le_pow_right (by decide) (by omega))
    calc value < (whole + 1) * denominator := hceil
      _ ≤ 2 ^ (whole.log2 - 52 + 53) * denominator := Nat.mul_le_mul_right _ hbits
      _ = 2 * exponentWeight * (denominator * 2 ^ (whole.log2 - 52)) := by
          rw [pow_add, ← hpower]
          ring
  · rcases Nat.eq_zero_or_pos (whole.log2 - 52) with hzero | hpositive
    · exact Or.inl hzero
    · right
      have hwhole : whole ≠ 0 := by
        rintro rfl
        simp at hpositive
      have hbits : 2 ^ (52 + (whole.log2 - 52)) ≤ whole := by
        rw [Nat.add_sub_cancel' (by omega)]
        exact Nat.log2_self_le hwhole
      calc exponentWeight * (denominator * 2 ^ (whole.log2 - 52))
          = 2 ^ (52 + (whole.log2 - 52)) * denominator := by
            rw [pow_add, ← hpower]
            ring
        _ ≤ whole * denominator := Nat.mul_le_mul_right _ hbits
        _ ≤ value := hfloor

theorem nearest_nearestMagnitude {numerator denominator : Nat} (hdenominator : 0 < denominator)
    (hle : numerator * unitsPerOne ≤ unitsOf infinityMagnitude * denominator) :
    Nearest (numerator * unitsPerOne) denominator (nearestMagnitude numerator denominator) := by
  obtain ⟨magnitude, hnearest, heq⟩ := exists_nearest numerator hdenominator
  have hbound : magnitude ≤ infinityMagnitude :=
    hnearest.le_of_le hdenominator hdenominator (nearest_unitsOf hdenominator _)
      (Nat.mul_le_mul_right denominator hle)
  rwa [heq, Nat.min_eq_left hbound]

theorem nearestMagnitude_eq {numerator denominator magnitude : Nat}
    (hdenominator : 0 < denominator) (hle : magnitude ≤ infinityMagnitude)
    (hnearest : Nearest (numerator * unitsPerOne) denominator magnitude) :
    nearestMagnitude numerator denominator = magnitude := by
  obtain ⟨found, hfound, heq⟩ := exists_nearest numerator hdenominator
  rw [heq, hfound.unique hdenominator hdenominator hnearest rfl, Nat.min_eq_left hle]

theorem units_ofNat (n : Nat) : (ofNat n).units = unitsOf (nearestMagnitude n 1) := rfl

theorem nearest_ofNat {n : Nat} (hle : n * unitsPerOne ≤ unitsOf infinityMagnitude) :
    Nearest (n * unitsPerOne) 1 (nearestMagnitude n 1) :=
  nearest_nearestMagnitude Nat.one_pos (hle.trans_eq (Nat.mul_one _).symm)

theorem units_ofNat_of_short {n significand scale : Nat} (hn : n = significand * 2 ^ scale)
    (hlt : significand < 2 * exponentWeight)
    (hle : n * unitsPerOne ≤ unitsOf infinityMagnitude) :
    (ofNat n).units = n * unitsPerOne := by
  obtain ⟨shift, hshift⟩ := exists_unitsPerOne_eq
  obtain ⟨magnitude, hunits⟩ := exists_unitsOf_eq hlt (scale + shift)
  have hvalue : n * unitsPerOne = unitsOf magnitude * 1 := by
    rw [hunits, hshift, hn, pow_add]
    ring
  have hexact := nearest_unitsOf Nat.one_pos magnitude
  rw [← hvalue] at hexact
  have hmagnitude := (nearest_ofNat hle).unique Nat.one_pos Nat.one_pos hexact rfl
  rw [units_ofNat, hmagnitude, hvalue, Nat.mul_one]

theorem units_ofNat_of_le {n : Nat} (hle : n ≤ 2 * exponentWeight) :
    (ofNat n).units = n * unitsPerOne := by
  have hfinite : n * unitsPerOne ≤ unitsOf infinityMagnitude := by
    have hlargest : 2 * exponentWeight * unitsPerOne ≤ unitsOf infinityMagnitude := by
      decide +kernel
    exact (Nat.mul_le_mul_right unitsPerOne hle).trans hlargest
  rcases Nat.lt_or_eq_of_le hle with hlt | heq
  · exact units_ofNat_of_short (by rw [pow_zero, Nat.mul_one]) hlt hfinite
  · have hhalf : n = exponentWeight * 2 ^ 1 := heq.trans (Nat.mul_comm 2 exponentWeight)
    exact units_ofNat_of_short hhalf (by decide) hfinite

theorem close_units_ofNat {n : Nat} (hpositive : 0 < n)
    (hle : n * unitsPerOne ≤ unitsOf infinityMagnitude) :
    Close (n * unitsPerOne) (ofNat n).units := by
  have hnormal : exponentWeight * 1 ≤ n * unitsPerOne := by
    have hweight : exponentWeight * 1 ≤ unitsPerOne := by decide +kernel
    exact hweight.trans (Nat.le_mul_of_pos_left unitsPerOne hpositive)
  have hclose := (nearest_ofNat hle).close Nat.one_pos hnormal
  rwa [Nat.mul_one] at hclose

end SearchRanking.Score
