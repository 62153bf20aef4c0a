import SearchRanking.Decimal.Literal
import SearchRanking.Json.Reader

/-!
# JSON numbers

Whole numbers of 64 bits are exact. Any other number is gathered in a significand of 64 bits, its
further digits being dropped, and scaled once by a power of ten; the result is close to the number
that is written, but not always the nearest score.
-/

namespace SearchRanking.Json

variable {ε : Type}

/-- Appends digits while the significand stays below `2 ^ 64`, and counts those taken. -/
def gather (significand : Nat) : List Char → Nat × Nat
  | [] => (significand, 0)
  | digit :: rest =>
      let next := significand * 10 + (digit.toNat - '0'.toNat)
      if next < 0x10000000000000000 then
        let (total, taken) := gather next rest
        (total, taken + 1)
      else (significand, 0)

/-- The significand times a power of ten, rounded twice: once as a score, once after scaling. A low
power is applied in two steps, and none is left of a significand of 64 bits below `10 ^ (-616)`.
There is no result beyond the finite scores. -/
def scaled? (significand : Nat) (power : Int) : Option Score :=
  let base := Score.ofNat significand
  match power with
  | .ofNat power =>
      if significand = 0 then some base
      else if 308 < power then none
      else
        let score := base.timesPowerOfTen power
        if score.isFinite then some score else none
  | .negSucc below =>
      let power := below + 1
      if power ≤ 308 then some (base.overPowerOfTen power)
      else if power ≤ 616 then some ((base.overPowerOfTen 308).overPowerOfTen (power - 308))
      else some (Score.zero false)

def realNumber (negative : Bool) (significand : Nat) (power : Int) (rest : List Char) :
    Except (Fault ε) (Number × List Char) :=
  match scaled? significand power with
  | some score => .ok (.real (score.withSign negative), rest)
  | none => .error .malformed

/-- A whole number that was gathered without loss. -/
def wholeNumber (negative : Bool) (value : Nat) : Number :=
  if !negative then .natural value
  else if 0 < value && value ≤ 0x8000000000000000 then .negative value
  else .real (Score.ofNat value).negate

def readExponent (negative : Bool) (significand : Nat) (power : Int) : Reader ε Number :=
  fun text =>
    let (below, body) := Decimal.splitSign text
    let (digits, rest) := Decimal.spanDigits body
    if digits.isEmpty then .error (misfit rest)
    else
      let exponent : Int := Decimal.appendDigits 0 digits
      realNumber negative significand (power + if below then -exponent else exponent) rest

/-- Reads an exponent if there is one, and scales the significand. -/
def readScale (negative : Bool) (significand : Nat) (power : Int) : Reader ε Number
  | 'e' :: rest => readExponent negative significand power rest
  | 'E' :: rest => readExponent negative significand power rest
  | rest => realNumber negative significand power rest

/-- Reads what follows the whole digits of a number: a fraction, an exponent, or nothing of it. The
significand holds the whole digits but for the last `dropped`. -/
def readPlaces (negative : Bool) (significand dropped : Nat) : Reader ε Number
  | '.' :: afterPoint =>
      let (fraction, rest) := Decimal.spanDigits afterPoint
      if fraction.isEmpty then .error (misfit rest)
      else
        let (significand, places) := gather significand fraction
        readScale negative significand (dropped - places) rest
  | 'e' :: rest => readExponent negative significand dropped rest
  | 'E' :: rest => readExponent negative significand dropped rest
  | rest =>
      if dropped = 0 then .ok (wholeNumber negative significand, rest)
      else realNumber negative significand dropped rest

def readUnsigned (negative : Bool) : Reader ε Number := fun text =>
  let (whole, rest) := Decimal.spanDigits text
  if whole.isEmpty then .error (misfit rest)
  else if whole.head? = some '0' && 1 < whole.length then .error .malformed
  else
    let (significand, taken) := gather 0 whole
    readPlaces negative significand (whole.length - taken) rest

def readNumber : Reader ε Number
  | '-' :: rest => readUnsigned true rest
  | text => readUnsigned false text

end SearchRanking.Json
