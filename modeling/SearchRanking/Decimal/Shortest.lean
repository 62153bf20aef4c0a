import SearchRanking.Decimal.Basic

/-!
# The shortest decimal of a score

Among the decimals that read back as a given finite score, the one with the fewest digits is
chosen, and of those the nearest. On the grid of `n`-digit decimals only the two neighbours of the
value can qualify, so each grid is settled by exact arithmetic on natural numbers.
-/

namespace SearchRanking.Decimal

/-- Which of two equally near decimals is taken. -/
inductive Tie where
  | even
  | up
  deriving DecidableEq

/-- The exponent of the first significant digit of a value given in units. -/
def leadingExponent (units : Nat) : Int :=
  (digitsOf (units * Score.tenTo 400 / Score.unitsPerOne)).length - 401

/-- The value as a ratio that counts steps of `10 ^ power`. -/
def gridRatio (units : Nat) (power : Int) : Nat × Nat :=
  match power with
  | .ofNat p => (units, Score.unitsPerOne * Score.tenTo p)
  | .negSucc p => (units * Score.tenTo (p + 1), Score.unitsPerOne)

/-- Whether `steps * 10 ^ power` rounds to the magnitude: it lies between the two midpoints to the
neighbouring magnitudes, which belong to the interval when the magnitude is even. -/
def roundsTo (magnitude : Nat) (power : Int) (steps : Nat) : Bool :=
  let units := Score.unitsOf magnitude
  let (low, scale) := gridRatio (units + Score.unitsOf (magnitude - 1)) power
  let (high, _) := gridRatio (units + Score.unitsOf (magnitude + 1)) power
  let point := 2 * steps * scale
  if magnitude % 2 = 0 then low ≤ point && point ≤ high else low < point && point < high

/-- The neighbour of the value on the grid of `10 ^ power` that reads back, the nearer of two. -/
def onGrid? (tie : Tie) (magnitude : Nat) (power : Int) : Option Decimal :=
  let (numerator, denominator) := gridRatio (Score.unitsOf magnitude) power
  let below := numerator / denominator
  let twice := 2 * (numerator % denominator)
  let takeUp := denominator < twice ||
    (twice = denominator && (tie = .up || below % 2 = 1))
  match roundsTo magnitude power below, roundsTo magnitude power (below + 1) with
  | true, true => some ⟨if takeUp then below + 1 else below, power⟩
  | true, false => some ⟨below, power⟩
  | false, true => some ⟨below + 1, power⟩
  | false, false => none

/-- The exact value of a magnitude: a unit is `5 ^ 1074` steps of `10 ^ (-1074)`. -/
def ofMagnitude (magnitude : Nat) : Decimal := ⟨Score.unitsOf magnitude * Nat.pow 5 1074, -1074⟩

/-- The shortest decimal that reads back as a positive finite magnitude. Seventeen digits always
suffice; the exact value stands behind them. -/
def shortest (tie : Tie) (magnitude : Nat) : Decimal :=
  let top := leadingExponent (Score.unitsOf magnitude)
  ((List.range 17).findSome? fun places => onGrid? tie magnitude (top - (places : Nat))).getD
    (ofMagnitude magnitude)

end SearchRanking.Decimal
