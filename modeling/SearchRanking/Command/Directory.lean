import SearchRanking.Config.Reader

/-!
# Directories

A directory with the files below it, and what a path leads to from there. The directory stands in
`/tmp`. Of what else lies outside it, the directories below the root and two devices are known.
-/

namespace SearchRanking.Command

inductive Source where
  | file (bytes : ByteArray)
  | input

structure Directory where
  files : List (List String × ByteArray)

/-- A place in the directory or outside it, by its path from the directory or from the root. -/
inductive Place where
  | inside (path : List String)
  | outside (path : List String)
  deriving DecidableEq

namespace Place

/-- The place one level up. The root is above itself. -/
def parent : Place → Place
  | .inside [] => .outside ["tmp"]
  | .inside path => .inside path.dropLast
  | .outside path => .outside path.dropLast

def child (place : Place) (name : String) : Place :=
  match place with
  | .inside path => .inside (path ++ [name])
  | .outside path => .outside (path ++ [name])

/-- Where a path begins: at the root if it begins with a slash, else in the directory. -/
def start (path : String) : Place :=
  if path.toList.head? = some '/' then .outside [] else .inside []

end Place

def rootDirectories : List String :=
  ["bin", "boot", "dev", "etc", "home", "lib", "media", "mnt", "opt", "proc", "root", "run", "sbin",
   "srv", "sys", "tmp", "usr", "var"]

/-- The devices: `/dev/null` is empty, and the standard input has two names. -/
def device? : List String → Option Source
  | ["dev", "null"] => some (.file ByteArray.empty)
  | ["dev", "stdin"] => some .input
  | ["dev", "fd", "0"] => some .input
  | _ => none

def isRootDirectory : List String → Bool
  | [] => true
  | [name] => rootDirectories.contains name
  | path => path == ["dev", "fd"]

namespace Directory

def ofList (files : List (String × ByteArray)) : Directory where
  files := files.map fun (name, bytes) => (Path.segments name, bytes)

def source? (directory : Directory) : Place → Option Source
  | .inside place =>
      (directory.files.find? fun (path, _) => path == place).map fun (_, bytes) => .file bytes
  | .outside path => device? path

def isDirectory (directory : Directory) : Place → Bool
  | .inside place =>
      place.isEmpty || directory.files.any fun (path, _) => place.isPrefixOf path && path != place
  | .outside path => isRootDirectory path

def walk (directory : Directory) (place : Place) : List String → Except FileFault Place
  | [] => .ok place
  | segment :: segments =>
      if !directory.isDirectory place then .error .notADirectory
      else if segment.isEmpty || segment = "." then directory.walk place segments
      else if segment = ".." then directory.walk place.parent segments
      else if 255 < segment.utf8ByteSize then .error .nameTooLong
      else
        let next := place.child segment
        if (directory.source? next).isSome || directory.isDirectory next then
          directory.walk next segments
        else .error .missing

def find (directory : Directory) (path : String) : Except FileFault Source := do
  if path.isEmpty then .error .missing
  if path.toList.contains '\x00' then .error .nulInName
  if 4096 ≤ path.utf8ByteSize then .error .nameTooLong
  let place ← directory.walk (Place.start path) (Path.segments path)
  match directory.source? place with
  | some source => .ok source
  | none => .error .isADirectory

/-- The configuration at a path that is appended to the directory's own, so that an empty one leads
to the directory. -/
def config (directory : Directory) (path : String) : Except Failure Config := do
  let source ← (directory.find (if path.isEmpty then "." else path)).mapError .file
  match source with
  | .file bytes => Config.ofBytes bytes
  | .input => Config.ofBytes ByteArray.empty

end Directory

end SearchRanking.Command
