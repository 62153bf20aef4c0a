import SearchRanking.Config.Basic
import SearchRanking.Json.Schema

namespace SearchRanking

inductive FileFault where
  | missing
  | notADirectory
  | isADirectory
  | nameTooLong
  | nulInName
  | notText
  | other (description : String)
  deriving DecidableEq

def FileFault.message : FileFault → String
  | .missing => "No such file or directory (os error 2)"
  | .notADirectory => "Not a directory (os error 20)"
  | .isADirectory => "Is a directory (os error 21)"
  | .nameTooLong => "File name too long (os error 36)"
  | .nulInName => "file name contained an unexpected NUL byte"
  | .notText => "stream did not contain valid UTF-8"
  | .other description => description

inductive Failure where
  | file (fault : FileFault)
  | json (fault : Json.Fault Json.Mismatch)
  | record (index : Nat) (fault : RecordFault)
  | config (fault : ConfigFault)

/-- What is wrong with a text that is not the wanted JSON. -/
def jsonDetails : Json.Fault Json.Mismatch → String
  | .truncated => "the text ends too early"
  | .malformed => "the text is not well formed"
  | .rejected mismatch => mismatch.placed

namespace Failure

def message : Failure → String
  | .file fault => "I/O error: " ++ fault.message
  | .json fault => "JSON error: " ++ jsonDetails fault
  | .record index fault => "invalid record at index " ++ index.repr ++ ": " ++ fault.message
  | .config fault => "invalid config: " ++ fault.message

/-- The text of what caused a failure, where that is a failure of its own. -/
def cause? : Failure → Option String
  | .file fault => some fault.message
  | .json fault => some (jsonDetails fault)
  | _ => none

def report (failure : Failure) : String :=
  match failure.cause? with
  | some cause => failure.message ++ ": " ++ cause
  | none => failure.message

end Failure

end SearchRanking
