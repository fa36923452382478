import TrickScore.Command.Run

/-!
# The program

Reads the arguments and the file that a command asks for, and shows the answer: its output on
standard output, what it tells of and the failure that ended it on standard error.
-/

namespace TrickScore

/-- What is said about a failed access: the cause and its number. -/
def accessReason : IO.Error → String
  | .noFileOrDirectory _ code details | .noSuchThing (some _) code details
  | .permissionDenied _ code details | .inappropriateType _ code details
  | .invalidArgument _ code details | .resourceExhausted _ code details =>
    details ++ " (os error " ++ Decimal.text code.toNat ++ ")"
  | other => toString other

/-- What a file has to give. -/
def readSource (path : String) : IO Command.Source := do
  match ← (IO.FS.Handle.mk path .read).toBaseIO with
  | .error e => return .unopened (accessReason e)
  | .ok handle =>
    match ← handle.readBinToEnd.toBaseIO with
    | .error e => return .unreadable (accessReason e)
    | .ok content => return .bytes content.toList

/-- A reminder of the commands. -/
def usage : String :=
  "Usage: bike-tricks [--debug] <COMMAND>\n\nCommands:\n" ++
  "  score [--format F] [--precision N] SIGNATURE...\n" ++
  "  batch [--format F] [--delimiter D] [--has-headers] [--column N] --file PATH\n" ++
  "  ride  [--format F] SIGNATURE\n"

end TrickScore

/-- Runs one command line. -/
def main (args : List String) : IO UInt32 := do
  let path := TrickScore.Command.fileOf? args
  let source ← path.elim (pure (.bytes [])) TrickScore.readSource
  let answer := TrickScore.Command.answer args (fun _ => source)
    { TrickScore.Command.Surroundings.still with
      help := fun _ => TrickScore.usage, elapsed := "a time that is not taken" }
  let stdout ← IO.getStdout
  stdout.putStr answer.output
  stdout.flush
  answer.errorLines.forM IO.eprintln
  if answer.exitCode = 2 then IO.eprint TrickScore.usage
  return answer.exitCode.toUInt32
