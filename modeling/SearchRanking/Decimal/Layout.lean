import SearchRanking.Decimal.Shortest

namespace SearchRanking

/-- The decisions of one written form: where positional notation ends, how an exponent is marked,
which way ties go and how the values without digits are spelled. -/
structure Layout where
  /-- Exponents of the first digit that are written without an exponent mark. -/
  positional : Int → Bool
  /-- Whole numbers in positional notation end in `.0`. -/
  keepsPoint : Bool
  /-- Exponents that are not negative carry a plus sign. -/
  marksPlus : Bool
  tie : Decimal.Tie
  notANumber : String
  infinity : String
  negativeInfinity : String

namespace Decimal

/-- The digits of the coefficient without the zeros at its end. -/
def significantDigits (decimal : Decimal) : List Char :=
  ((digitsOf decimal.coefficient).reverse.dropWhile (· == '0')).reverse

/-- The exponent of the first digit of a positive decimal. -/
def exponent (decimal : Decimal) : Int :=
  decimal.power + (digitsOf decimal.coefficient).length - 1

/-- Digits with the point in its place and no exponent. -/
def positionalText (keepsPoint : Bool) (digits : List Char) : Int → List Char
  | .ofNat exponent =>
      let whole := exponent + 1
      if digits.length ≤ whole then
        digits ++ List.replicate (whole - digits.length) '0' ++
          (if keepsPoint then ['.', '0'] else [])
      else digits.take whole ++ '.' :: digits.drop whole
  | .negSucc zeros => '0' :: '.' :: (List.replicate zeros '0' ++ digits)

/-- One digit before the point and the exponent after a mark. -/
def exponentText (marksPlus : Bool) (digits : List Char) (exponent : Int) : List Char :=
  let mantissa :=
    match digits with
    | [] => []
    | [digit] => [digit]
    | digit :: rest => digit :: '.' :: rest
  let mark :=
    match exponent with
    | .ofNat value => (if marksPlus then ['+'] else []) ++ digitsOf value
    | .negSucc value => '-' :: digitsOf (value + 1)
  mantissa ++ 'e' :: mark

def text (layout : Layout) (decimal : Decimal) : List Char :=
  let digits := decimal.significantDigits
  let exponent := decimal.exponent
  if layout.positional exponent then positionalText layout.keepsPoint digits exponent
  else exponentText layout.marksPlus digits exponent

end Decimal

namespace Score

def signText (score : Score) : List Char := if score.negative then ['-'] else []

def written (layout : Layout) (score : Score) : String :=
  if score.isNaN then layout.notANumber
  else if !score.isFinite then
    if score.negative then layout.negativeInfinity else layout.infinity
  else if score.isZero then
    String.ofList (score.signText ++ '0' :: (if layout.keepsPoint then ['.', '0'] else []))
  else
    String.ofList
      (score.signText ++ (Decimal.shortest layout.tie score.magnitude).text layout)

/-- The exact value of a finite score rounded to a positive number of places, a half going to the
even digit. -/
def fixed (places : Nat) (score : Score) : String :=
  if score.isNaN then "NaN"
  else if !score.isFinite then if score.negative then "-inf" else "inf"
  else
    let steps := divHalfEven (score.units * tenTo places) unitsPerOne
    let fraction := Decimal.digitsOf (steps % tenTo places)
    String.ofList
      (score.signText ++ Decimal.digitsOf (steps / tenTo places) ++
        '.' :: (List.replicate (places - fraction.length) '0' ++ fraction))

end Score

end SearchRanking
