import SearchRanking.Expression.Basic

namespace SearchRanking.Expression

def asciiClassNames : List String :=
  ["alnum", "alpha", "ascii", "blank", "cntrl", "digit", "graph", "lower", "print", "punct",
   "space", "upper", "word", "xdigit"]

/-- Reads a named class behind its opening bracket, and whether it is negated. -/
def readAsciiClass : List Char → Option (Bool × List Char)
  | ':' :: text =>
      let negated := text.head? = some '^'
      match (if negated then text.drop 1 else text).span (· ≠ ':') with
      | (name, ':' :: ']' :: rest) =>
          if asciiClassNames.contains (String.ofList name) then some (negated, rest) else none
      | _ => none
  | _ => none

def asciiClassAllowed (modes : Modes) (negated : Bool) : Bool :=
  if modes.unicode then !modes.caseless else !negated

def readClassPrimitive (modes : Modes) : List Char → Option (Primitive × List Char)
  | [] => none
  | '\\' :: rest => readEscape modes rest
  | c :: rest => some (.char c.toNat false, rest)

/-- Whether a range between two parts may stand in a class. -/
def rangeAllowed (modes : Modes) : Primitive → Primitive → Bool
  | .char first byte, .char last byte' =>
      first ≤ last && (Primitive.char first byte).allowedInClass modes &&
        (Primitive.char last byte').allowedInClass modes
  | _, _ => false

/-- Reads an item of a class or a range between two. A minus sign before a closing bracket or before
another minus sign makes no range. -/
def readRange (modes : Modes) (text : List Char) : Option (List Char) := do
  let (first, rest) ← readClassPrimitive modes text
  match modes.skip rest with
  | '-' :: after =>
      if modes.peek? after = some ']' || modes.peek? after = some '-' then
        if first.allowedInClass modes then some ('-' :: after) else none
      else
        let (last, rest) ← readClassPrimitive modes (modes.skip after)
        if rangeAllowed modes first last then some rest else none
  | rest => if first.allowedInClass modes then some rest else none

/-- Takes minus signs off the front of a text, at most as many as are given. -/
def leadingDashes (modes : Modes) : Nat → List Char → Nat × List Char
  | bound + 1, '-' :: rest =>
      let (count, rest) := leadingDashes modes bound (modes.skip rest)
      (count + 1, rest)
  | _, text => (0, text)

/-- Reads the start of a class behind its opening bracket: a sign of negation, then minus signs or a
closing bracket, which stand for themselves. The number of these characters is given. -/
def openClass (modes : Modes) (text : List Char) : Option (Nat × List Char) :=
  let text := modes.skip text
  let negated := text.head? = some '^'
  let text := if negated then modes.skip (text.drop 1) else text
  let (dashes, text) := leadingDashes modes text.length text
  let bracket := dashes = 0 && text.head? = some ']'
  let count := if bracket then 1 else dashes
  if (negated && !modes.unicode) || (0 < count && modes.unicode && modes.caseless) then none
  else some (count, if bracket then text.drop 1 else text)

/-- The depth of items that may stand to the right of a set operator. -/
def operandDepth (left : Option Nat) (items : List Nat) : Nat :=
  match left with
  | none => depthOf items
  | some depth => Nat.max depth (depthOf items) + 1

/-- Reads a class up to its closing bracket. Every step takes a character, so the length of the text
bounds their number. -/
def readClassRest (modes : Modes) :
    Nat → Option Nat → List Nat → List Char → Option (Nat × List Char)
  | 0, _, _, _ => none
  | fuel + 1, left, items, text =>
      match modes.skip text with
      | [] => none
      | ']' :: rest => some (operandDepth left items, rest)
      | '&' :: '&' :: rest => readClassRest modes fuel (some (operandDepth left items)) [] rest
      | '-' :: '-' :: rest => readClassRest modes fuel (some (operandDepth left items)) [] rest
      | '~' :: '~' :: rest => readClassRest modes fuel (some (operandDepth left items)) [] rest
      | '[' :: rest =>
          match readAsciiClass rest with
          | some (negated, rest) =>
              if asciiClassAllowed modes negated then
                readClassRest modes fuel left (0 :: items) rest
              else none
          | none => do
              let (count, rest) ← openClass modes rest
              let (depth, rest) ← readClassRest modes fuel none (List.replicate count 0) rest
              readClassRest modes fuel left ((depth + 1) :: items) rest
      | rest => do
          let rest ← readRange modes rest
          readClassRest modes fuel left (0 :: items) rest

def readClass (modes : Modes) (text : List Char) : Option (Nat × List Char) := do
  let (count, rest) ← openClass modes text
  let (depth, rest) ← readClassRest modes (rest.length + 1) none (List.replicate count 0) rest
  some (depth + 1, rest)

end SearchRanking.Expression
