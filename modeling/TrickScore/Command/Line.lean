import TrickScore.Command.Arguments
import TrickScore.Decimal.Places
import TrickScore.Delimited.Options
import TrickScore.Report.Format

/-!
# The command line

A command line names one of three commands, `score`, `batch` and `ride`, and gives its options and
arguments. What does not fit is refused before anything is done.

Model of `ScoreArgs`, `BatchArgs`, `RideArgs` and the options around them.
-/

namespace TrickScore

/-- What the program is to do. -/
inductive Command where
  /-- Score signatures one after another. -/
  | score (options : ReportOptions) (signatures : List String)
  /-- Score the signatures of a table in a file. -/
  | batch (options : ReportOptions) (table : Delimited.Options) (file : String)
  /-- Decode a written ride. -/
  | ride (format : OutputFormat) (signature : String)
  deriving DecidableEq

namespace Command

/-- A command, and whether to tell what happens inside it. -/
structure Invocation where
  command : Command
  debug : Bool
  deriving DecidableEq

/-! ## Values -/

namespace Arguments

/-- The value of a setting, read by `read`; `default` where the setting is not given. -/
def read {α : Type} (args : Arguments) (setting : Setting) (default : α)
    (read : String → Option α) : α :=
  ((args.value? setting).bind read).getD default

/-- The format of the output. -/
def format (args : Arguments) : OutputFormat :=
  args.read .format .table OutputFormat.ofName?

/-- The options of a report. -/
def reportOptions (args : Arguments) : ReportOptions where
  format := args.format
  precision := args.read .precision 2 readCount?

/-- The options of a table. -/
def tableOptions (args : Arguments) : Delimited.Options where
  delimiter := args.read .delimiter "," some
  hasHeader := args.has .hasHeaders
  column := args.read .column 0 readCount?

end Arguments

/-! ## Commands -/

/-- The options of `score`, which takes any number of signatures. -/
def scoreGrammar : Grammar :=
  ⟨[.debug], [.format, .precision], false, none⟩

/-- The options of `batch`, which takes nothing positional. -/
def batchGrammar : Grammar :=
  ⟨[.debug, .hasHeaders], [.format, .precision, .delimiter, .column, .file], false, some 0⟩

/-- The options of `ride`, which takes one signature. -/
def rideGrammar : Grammar :=
  ⟨[.debug], [.format], false, some 1⟩

/-- The options before a command. -/
def topGrammar : Grammar :=
  ⟨[.debug], [], true, none⟩

/-- `score` needs a signature. -/
def scoreCommand (args : Arguments) : Except Stop Command :=
  match args.positionals with
  | [] => .error .misuse
  | signatures => .ok (.score args.reportOptions signatures)

/-- `batch` needs a file. -/
def batchCommand (args : Arguments) : Except Stop Command :=
  match args.value? .file with
  | none => .error .misuse
  | some file => .ok (.batch args.reportOptions args.tableOptions file)

/-- `ride` needs a signature. -/
def rideCommand (args : Arguments) : Except Stop Command :=
  match args.positionals with
  | [signature] => .ok (.ride args.format signature)
  | _ => .error .misuse

/-- Help is given on the whole program or on one command. -/
def helpOn : List String → Stop
  | [] => .help
  | [topic] => if topic ∈ ["score", "batch", "ride", "help"] then .help else .misuse
  | _ => .misuse

/-- A command with the arguments behind its name. -/
def readCommand (debug : Bool) (grammar : Grammar) (command : Arguments → Except Stop Command)
    (args : List String) : Except Stop Invocation := do
  let args ← grammar.read args
  let command ← command args
  return ⟨command, debug || args.has .debug⟩

/-- A command line behind the options already read. -/
def readLine (debug : Bool) : List String → Except Stop Invocation
  | [] => .error .misuse
  | arg :: args =>
    match topGrammar.word arg with
    | .flag .debug => if debug then .error .misuse else readLine true args
    | .stop reason => .error reason
    | .positional =>
      if arg = "score" then readCommand debug scoreGrammar scoreCommand args
      else if arg = "batch" then readCommand debug batchGrammar batchCommand args
      else if arg = "ride" then readCommand debug rideGrammar rideCommand args
      else if arg = "help" then .error (helpOn args)
      else .error .misuse
    | _ => .error .misuse

/-- A whole command line. -/
def read (args : List String) : Except Stop Invocation :=
  readLine false args

end Command

end TrickScore
