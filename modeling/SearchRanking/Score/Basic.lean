/-!
# Scores

A relevance score is a 64-bit floating-point word. Its sign bit and the 63 bits below it are kept
apart, so that the order of scores and the exact value of a finite one are statements about natural
numbers. `bits_ofBits` and `ofBits_bits` say that every word is a score and every score a word.
-/

namespace SearchRanking

/-- A binary floating-point word: its sign bit and the 63 bits below it. -/
structure Score where
  negative : Bool
  magnitude : Nat
  magnitude_lt : magnitude < 0x8000000000000000
  deriving DecidableEq

namespace Score

/-- The lower 63 bits of an infinity; every larger magnitude is a NaN. -/
def infinityMagnitude : Nat := 0x7ff0000000000000

theorem infinityMagnitude_lt : infinityMagnitude < 0x8000000000000000 := by decide

def ofBits (bits : UInt64) : Score where
  negative := decide (0x8000000000000000 ≤ bits.toNat)
  magnitude := bits.toNat % 0x8000000000000000
  magnitude_lt := Nat.mod_lt _ (by decide)

def bits (score : Score) : UInt64 :=
  UInt64.ofNat ((if score.negative then 0x8000000000000000 else 0) + score.magnitude)

@[simp]
theorem bits_ofBits (word : UInt64) : (ofBits word).bits = word := by
  have hlt := word.toNat_lt
  apply UInt64.toNat_inj.mp
  by_cases h : 0x8000000000000000 ≤ word.toNat
  · simp only [bits, ofBits, h, decide_true, if_true, UInt64.toNat_ofNat']
    omega
  · simp only [bits, ofBits, h, decide_false, Bool.false_eq_true, if_false, UInt64.toNat_ofNat']
    omega

@[simp]
theorem ofBits_bits (score : Score) : ofBits score.bits = score := by
  obtain ⟨negative, magnitude, hlt⟩ := score
  cases negative
  · simp only [ofBits, bits, Bool.false_eq_true, if_false, UInt64.toNat_ofNat', mk.injEq,
      decide_eq_false_iff_not]
    omega
  · simp only [ofBits, bits, if_true, UInt64.toNat_ofNat', mk.injEq, decide_eq_true_eq]
    omega

def isNaN (score : Score) : Bool := infinityMagnitude < score.magnitude

def isFinite (score : Score) : Bool := score.magnitude < infinityMagnitude

def isZero (score : Score) : Bool := score.magnitude = 0

def zero (negative : Bool) : Score where
  negative := negative
  magnitude := 0
  magnitude_lt := by decide

def infinity (negative : Bool) : Score where
  negative := negative
  magnitude := infinityMagnitude
  magnitude_lt := infinityMagnitude_lt

def notANumber : Score where
  negative := false
  magnitude := 0x7ff8000000000000
  magnitude_lt := by decide

/-- The weight of the exponent in a magnitude, above the 52 bits of the fraction. -/
def exponentWeight : Nat := 0x10000000000000

/-- How often the significand of a magnitude is doubled. The least two exponents share one scale. -/
def scaleOf (magnitude : Nat) : Nat := magnitude / exponentWeight - 1

/-- The significand of a magnitude, with the leading bit that the word leaves out. -/
def significandOf (magnitude : Nat) : Nat := magnitude - scaleOf magnitude * exponentWeight

/-- The exact value of a finite magnitude, counted in the least positive score. -/
def unitsOf (magnitude : Nat) : Nat := significandOf magnitude <<< scaleOf magnitude

/-- How many of the least positive score make one. -/
def unitsPerOne : Nat := 1 <<< 1074

def units (score : Score) : Nat := unitsOf score.magnitude

/-- A whole number that grows with the score. All NaNs share one number below every other score,
and the negative zero stands below the positive one. -/
def orderKey (score : Score) : Int :=
  if score.isNaN then -0x10000000000000000
  else if score.negative then -1 - (score.magnitude : Int)
  else score.magnitude

end Score

end SearchRanking
