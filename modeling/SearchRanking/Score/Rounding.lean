import SearchRanking.Score.Basic

namespace SearchRanking.Score

def tenTo (power : Nat) : Nat := Nat.pow 10 power

/-- The quotient rounded to the nearest whole number, a half going to the even one. -/
def divHalfEven (dividend divisor : Nat) : Nat :=
  let quotient := dividend / divisor
  let twice := 2 * (dividend % divisor)
  if twice < divisor ∨ (twice = divisor ∧ quotient % 2 = 0) then quotient else quotient + 1

/-- The magnitude nearest to `numerator / denominator`. The scale is the least at which the rounded
significand fits in 53 bits; a carry out of the significand moves into the exponent by itself. -/
def nearestMagnitude (numerator denominator : Nat) : Nat :=
  let units := numerator * unitsPerOne
  let scale := (units / denominator).log2 - 52
  min (scale * exponentWeight + divHalfEven units (denominator <<< scale)) infinityMagnitude

theorem nearestMagnitude_lt (numerator denominator : Nat) :
    nearestMagnitude numerator denominator < 0x8000000000000000 :=
  Nat.lt_of_le_of_lt (Nat.min_le_right _ _) infinityMagnitude_lt

def ofRatio (negative : Bool) (numerator denominator : Nat) : Score where
  negative := negative
  magnitude := nearestMagnitude numerator denominator
  magnitude_lt := nearestMagnitude_lt numerator denominator

def ofNat (n : Nat) : Score := ofRatio false n 1

/-- The opposite score. A NaN has no opposite and stays as it is. -/
def negate (score : Score) : Score :=
  if score.isNaN then score else { score with negative := !score.negative }

def withSign (flip : Bool) (score : Score) : Score := if flip then score.negate else score

@[simp]
theorem isFinite_negate (score : Score) : score.negate.isFinite = score.isFinite := by
  rw [negate]
  split
  · rfl
  · rfl

@[simp]
theorem isFinite_withSign (flip : Bool) (score : Score) :
    (score.withSign flip).isFinite = score.isFinite := by
  cases flip with
  | false => rfl
  | true => exact isFinite_negate score

def double (score : Score) : Score :=
  if score.isFinite then ofRatio score.negative (2 * score.units) unitsPerOne else score

/-- The product of a finite score with the score nearest to a power of ten. -/
def timesPowerOfTen (score : Score) (power : Nat) : Score :=
  ofRatio score.negative (score.units * (ofNat (tenTo power)).units) (unitsPerOne * unitsPerOne)

/-- The quotient of a finite score by the score nearest to a power of ten. -/
def overPowerOfTen (score : Score) (power : Nat) : Score :=
  ofRatio score.negative score.units (ofNat (tenTo power)).units

end SearchRanking.Score
