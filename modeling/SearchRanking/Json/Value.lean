import SearchRanking.Decimal.Layout
import SearchRanking.Text.Quoted

namespace SearchRanking.Json

inductive Number where
  /-- A whole number below `2 ^ 64`. -/
  | natural (value : Nat)
  /-- The opposite of a positive whole number up to `2 ^ 63`. -/
  | negative (value : Nat)
  | real (score : Score)
  deriving DecidableEq

inductive Value where
  | null
  | bool (value : Bool)
  | number (value : Number)
  | string (text : String)
  | array (items : List Value)
  | object (members : List (String × Value))

/-- Scores have the fewest digits that read back and always a point or an exponent. Exponents from
-5 to 15 are written out. -/
def numberLayout : Layout where
  positional exponent := -5 ≤ exponent && exponent ≤ 15
  keepsPoint := true
  marksPlus := true
  tie := .even
  notANumber := "null"
  infinity := "null"
  negativeInfinity := "null"

namespace Number

def toScore : Number → Score
  | .natural value => Score.ofNat value
  | .negative value => (Score.ofNat value).negate
  | .real score => score

/-- The score of a number, where a score can represent it. Numbers of 64 bits always have one. -/
def toScore? (number : Number) : Option Score := some number.toScore

def text : Number → String
  | .natural value => value.repr
  | .negative value => "-" ++ value.repr
  | .real score => score.written numberLayout

end Number

namespace Value

/-- A score as a number, or `null` where a number cannot hold it. -/
def ofScore (score : Score) : Value := if score.isFinite then .number (.real score) else .null

/-- The kind of a value, as messages about records name it. -/
def kind : Value → String
  | .null => "null"
  | .bool _ => "a boolean"
  | .number _ => "a number"
  | .string _ => "a string"
  | .array _ => "an array"
  | .object _ => "an object"

/-- A value as messages about unexpected types show it. -/
def description : Value → String
  | .null => "null"
  | .bool value => "boolean `" ++ (if value then "true" else "false") ++ "`"
  | .number (.real score) => "floating point `" ++ score.written numberLayout ++ "`"
  | .number value => "integer `" ++ value.text ++ "`"
  | .string text => "string " ++ Text.quoted text
  | .array _ => "sequence"
  | .object _ => "map"

def string? : Value → Option String
  | .string text => some text
  | _ => none

end Value

end SearchRanking.Json
