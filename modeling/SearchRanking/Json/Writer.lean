import SearchRanking.Json.Text

namespace SearchRanking.Json

mutual

def compact : Value → List Char
  | .null => ['n', 'u', 'l', 'l']
  | .bool value => if value then ['t', 'r', 'u', 'e'] else ['f', 'a', 'l', 's', 'e']
  | .number value => value.text.toList
  | .string text => writtenText text
  | .array [] => ['[', ']']
  | .array (item :: items) => '[' :: (compact item ++ compactItems items ++ [']'])
  | .object [] => ['\x7b', '\x7d']
  | .object ((name, value) :: members) =>
      '\x7b' :: (writtenText name ++ ':' :: compact value ++ compactMembers members ++ ['\x7d'])

def compactItems : List Value → List Char
  | [] => []
  | item :: items => ',' :: (compact item ++ compactItems items)

def compactMembers : List (String × Value) → List Char
  | [] => []
  | (name, value) :: members =>
      ',' :: (writtenText name ++ ':' :: compact value ++ compactMembers members)

end

def newLine (level : Nat) : List Char := '\n' :: List.replicate (2 * level) ' '

mutual

/-- The written form of a value with a line for every item, from a level of nesting on. -/
def pretty (level : Nat) : Value → List Char
  | .null => ['n', 'u', 'l', 'l']
  | .bool value => if value then ['t', 'r', 'u', 'e'] else ['f', 'a', 'l', 's', 'e']
  | .number value => value.text.toList
  | .string text => writtenText text
  | .array [] => ['[', ']']
  | .array (item :: items) =>
      '[' :: (newLine (level + 1) ++ pretty (level + 1) item ++ prettyItems (level + 1) items ++
        newLine level ++ [']'])
  | .object [] => ['\x7b', '\x7d']
  | .object ((name, value) :: members) =>
      '\x7b' :: (newLine (level + 1) ++ writtenText name ++
        ':' :: ' ' :: pretty (level + 1) value ++ prettyMembers (level + 1) members ++
        newLine level ++ ['\x7d'])

def prettyItems (level : Nat) : List Value → List Char
  | [] => []
  | item :: items => ',' :: (newLine level ++ pretty level item ++ prettyItems level items)

def prettyMembers (level : Nat) : List (String × Value) → List Char
  | [] => []
  | (name, value) :: members =>
      ',' :: (newLine level ++ writtenText name ++ ':' :: ' ' :: pretty level value ++
        prettyMembers level members)

end

def compactText (value : Value) : String := String.ofList (compact value)

def prettyText (value : Value) : String := String.ofList (pretty 0 value)

end SearchRanking.Json
