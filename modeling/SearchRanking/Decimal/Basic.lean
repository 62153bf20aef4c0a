import SearchRanking.Score.Rounding

namespace SearchRanking

/-- The number `coefficient * 10 ^ power`. -/
structure Decimal where
  coefficient : Nat
  power : Int
  deriving DecidableEq

namespace Decimal

/-- The value of a run of decimal digits appended to those read before. -/
def appendDigits (value : Nat) (digits : List Char) : Nat :=
  digits.foldl (fun total digit => total * 10 + (digit.toNat - '0'.toNat)) value

def digitsOf (n : Nat) : List Char := Nat.toDigits 10 n

/-- The score nearest to a decimal. A power of ten above 400 exceeds every finite score, and since
`8 ^ p < 10 ^ p`, a low enough power leaves less than half the least score; both are settled without
writing the power out. -/
def nearest (negative : Bool) (decimal : Decimal) : Score :=
  if decimal.coefficient = 0 then Score.zero negative
  else
    match decimal.power with
    | .ofNat power =>
        if 400 < power then Score.infinity negative
        else Score.ofRatio negative (decimal.coefficient * Score.tenTo power) 1
    | .negSucc below =>
        let power := below + 1
        if decimal.coefficient.log2 + 1100 < 3 * power then Score.zero negative
        else Score.ofRatio negative decimal.coefficient (Score.tenTo power)

end Decimal

end SearchRanking
