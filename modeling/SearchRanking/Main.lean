import SearchRanking.Command.Run

namespace SearchRanking.Program

def fileFault : IO.Error → FileFault
  | .noFileOrDirectory _ _ _ => .missing
  | .inappropriateType _ code _ => if code = 21 then .isADirectory else .notADirectory
  | error => .other (toString error)

/-- The bytes of a file, or why there are none. The standard input is left to the run. -/
def readFile (path : String) : IO (String × Except FileFault Command.Source) := do
  if Command.isInputName path then return (path, .ok .input)
  let bytes ← EIO.toIO' (IO.FS.readBinFile path)
  pure (path, (bytes.map Command.Source.file).mapError fileFault)

def readSettings : IO Command.Settings := do
  pure {
    noColor := ← IO.getEnv "NO_COLOR"
    theme := ← IO.getEnv "DOCRANK_THEME"
    colours := ← IO.getEnv "COLORFGBG"
    journal := ← IO.getEnv "DOCRANK_LOG"
    terminal := ← (← IO.getStdout).isTty }

def gather (words : List String) : IO Command.Surroundings := do
  let settings ← readSettings
  match Command.parse words with
  | .ok command =>
      let files ← (Command.files command).mapM readFile
      let input ←
        if Command.readsInput command then (← IO.getStdin).readBinToEnd
        else pure ByteArray.empty
      pure { find := fun path => (files.lookup path).getD (.error .missing), input, settings }
  | .error _ =>
      pure { find := fun _ => .error .missing, input := ByteArray.empty, settings }

end SearchRanking.Program

def main (words : List String) : IO UInt32 := do
  let around ← SearchRanking.Program.gather words
  let outcome := SearchRanking.Command.runWords around words
  let errors ← IO.getStderr
  for line in outcome.journal do
    errors.putStrLn line
  (← IO.getStdout).putStr outcome.output
  errors.putStr outcome.errors
  pure outcome.exitCode.toUInt32
