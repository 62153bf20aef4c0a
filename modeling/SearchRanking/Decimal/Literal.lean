import SearchRanking.Decimal.Basic

namespace SearchRanking.Decimal

def spanDigits (text : List Char) : List Char × List Char := text.span Char.isDigit

/-- Whether a text has a minus sign in front, and the text behind an optional sign. -/
def splitSign : List Char → Bool × List Char
  | '+' :: rest => (false, rest)
  | '-' :: rest => (true, rest)
  | rest => (false, rest)

/-- A whole text of digits, at least one, read as a number. -/
def naturalOf? (text : List Char) : Option Nat :=
  if text.isEmpty || !text.all Char.isDigit then none else some (appendDigits 0 text)

/-- A whole number below a bound: an optional plus sign and digits. -/
def boundedOf? (bound : Nat) (text : List Char) : Option Nat :=
  let digits :=
    match text with
    | '+' :: rest => rest
    | rest => rest
  (naturalOf? digits).filter (· < bound)

/-- The exponent after its mark: an optional sign and at least one digit, up to the end. -/
def exponentOf? (text : List Char) : Option Int :=
  let (negative, digits) := splitSign text
  (naturalOf? digits).map fun value => if negative then -(value : Int) else value

/-- The fraction after the whole digits: an optional point and the digits behind it. -/
def spanFraction (text : List Char) : List Char × List Char :=
  match text with
  | '.' :: rest => spanDigits rest
  | rest => ([], rest)

/-- A whole text read as an unsigned decimal number with a digit on at least one side of its
point. -/
def ofText? (text : List Char) : Option Decimal :=
  let (whole, afterWhole) := spanDigits text
  let (fraction, afterFraction) := spanFraction afterWhole
  if whole.isEmpty && fraction.isEmpty then none
  else
    let coefficient := appendDigits (appendDigits 0 whole) fraction
    let places : Int := fraction.length
    match afterFraction with
    | [] => some ⟨coefficient, -places⟩
    | mark :: rest =>
        if mark == 'e' || mark == 'E' then
          (exponentOf? rest).map fun exponent => ⟨coefficient, exponent - places⟩
        else none

end SearchRanking.Decimal

namespace SearchRanking.Score

/-- An unsigned literal with a sign put in front: a decimal number, or the name of a value without
digits. A NaN takes the sign like any other value. -/
def ofUnsignedText? (negative : Bool) (text : List Char) : Option Score :=
  match Decimal.ofText? text with
  | some decimal => some (decimal.nearest negative)
  | none =>
      let name := text.map Char.toLower
      if name == ['i', 'n', 'f'] || name == ['i', 'n', 'f', 'i', 'n', 'i', 't', 'y'] then
        some (infinity negative)
      else if name == ['n', 'a', 'n'] then
        some { notANumber with negative := negative }
      else none

/-- The score that a numeric literal stands for, correctly rounded. -/
def ofText? (text : String) : Option Score :=
  let (negative, body) := Decimal.splitSign text.toList
  ofUnsignedText? negative body

end SearchRanking.Score
