import SearchRanking.Record.Basic

/-!
# Patterns of generated pages

A generated page lies under a root: the segments of the root stand next to each other in its path,
a module name that is not empty follows them, and the path ends in the leaf.
-/

namespace SearchRanking

/-- The segments of a path between its slashes; there is always at least one. -/
def Path.segments (path : String) : List String := (Text.pieces '/' path.toList).map String.ofList

def Path.join (segments : List String) : String := String.intercalate "/" segments

structure Pattern where
  root : List String
  leaf : String
  deriving DecidableEq

namespace Pattern

/-- Generated pages are the files `autodoc.html` under `reference/modules`. -/
def standard : Pattern where
  root := ["reference", "modules"]
  leaf := "autodoc.html"

/-- Whether the segments begin with the root and a module name. -/
def opensModule : List String → List String → Bool
  | [], name :: _ => !name.isEmpty
  | expected :: root, segment :: segments => segment == expected && opensModule root segments
  | _, [] => false

/-- Whether the root and a module name stand anywhere in the segments. -/
def underRoot (root : List String) : List String → Bool
  | [] => false
  | segment :: segments => opensModule root (segment :: segments) || underRoot root segments

def recognizes (pattern : Pattern) (path : String) : Bool :=
  let segments := Path.segments path
  segments.getLast? == some pattern.leaf && underRoot pattern.root segments.dropLast

def recognizesRecord (pattern : Pattern) (record : Record) : Bool :=
  record.filename.any pattern.recognizes

end Pattern

end SearchRanking
