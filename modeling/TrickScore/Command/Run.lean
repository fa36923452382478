import TrickScore.Command.Line
import TrickScore.Delimited.Signatures
import TrickScore.Report.Text

/-!
# Running commands

A command as a function from what its file holds to what is printed, what is reported and how it
ends. `score` prints as it goes, so what stands before a signature that cannot be scored remains.

What is neither in the arguments nor in the file comes in with the `Surroundings`: the text of the
help, the time that a batch takes, and the order in which workers come to report. A precision above
65535 is outside what is described here.

Model of `run` for each of the three commands, of `load_signatures_from_file` and of `main`.
-/

namespace TrickScore.Command

/-- What a file has to give. -/
inductive Source where
  /-- It cannot be opened. -/
  | unopened (reason : String)
  /-- It can be opened but not read. -/
  | unreadable (reason : String)
  | bytes (content : List UInt8)

/-- What a run finds around it, besides the file. -/
structure Surroundings where
  /-- What is printed for arguments that ask for help. -/
  help : List String → String
  /-- How long a batch took to score, as it is written. -/
  elapsed : String
  /-- The reports of several workers in the order in which they come in. -/
  interleave : List (List Event) → List Event
  interleave_perm : ∀ reports, (interleave reports).Perm reports.flatten

/-- Surroundings without help and without a clock, where one worker reports after another. -/
def Surroundings.still : Surroundings where
  help _ := ""
  elapsed := ""
  interleave := List.flatten
  interleave_perm _ := .refl _

/-- What a command printed, why it failed, if it did, and what it reported. -/
structure Outcome where
  output : String
  failure : Option Failure
  events : List Event
  deriving DecidableEq

namespace Outcome

/-- The exit code: 0 after success and 1 after a failure. -/
def exitCode (outcome : Outcome) : UInt8 :=
  if outcome.failure.isSome then 1 else 0

/-- An outcome behind what was reported first. -/
def behind (events : List Event) (outcome : Outcome) : Outcome :=
  { outcome with events := events ++ outcome.events }

end Outcome

/-! ## Scoring -/

/-- Scores signatures up to the first that is refused. -/
def runScore (options : ReportOptions) : List String → Outcome
  | [] => ⟨"", none, []⟩
  | signature :: signatures =>
    let scored := scoreSignature signature
    match scored.result with
    | .error refusal => ⟨"", some refusal.toFailure, scored.events⟩
    | .ok sequence =>
      let more := runScore options signatures
      ⟨sequence.report options signature ++ more.output, more.failure,
        scored.events ++ more.events⟩

/-- What is reported before signatures are scored. -/
def scoringEvent (signatures : List String) : Event :=
  ⟨.info, "Scoring " ++ Decimal.text signatures.length ++ " signature(s)"⟩

/-! ## Batches -/

/-- The signatures in a file. The delimiter is looked at once the file is open. -/
def loadSource (options : Delimited.Options) : Source → Reported (Except Failure (List String))
  | .unopened reason => ⟨.error (.unopened reason), []⟩
  | .unreadable reason =>
    match options.delimiterByte with
    | .error e => ⟨.error (.options e), []⟩
    | .ok _ => ⟨.error (.table (.unreadable reason)), []⟩
  | .bytes content => Delimited.load options content

/-- What is reported before a file is read. -/
def loadingEvent (file : String) : Event :=
  ⟨.info, "Loading signatures from: " ++ file⟩

/-- What is reported while a batch is scored, by its workers and then about its failures. -/
def batchEvents (surroundings : Surroundings) (signatures : List String) : List Event :=
  surroundings.interleave (signatures.map Sequence.parseEvents) ++
    batchFailureEvents (scoreBatch signatures).result

/-- What is reported once a batch is scored. -/
def batchScoredEvent (surroundings : Surroundings) (signatures : List String) : Event :=
  ⟨.info, "Scored " ++ Decimal.text signatures.length ++ " signatures in " ++ surroundings.elapsed⟩

/-- Scores the signatures in a file. One that cannot be scored is no failure of the batch. -/
def runBatch (surroundings : Surroundings) (options : ReportOptions) (table : Delimited.Options)
    (source : Source) : Outcome :=
  let loaded := loadSource table source
  match loaded.result with
  | .error failure => ⟨"", some failure, loaded.events⟩
  | .ok signatures =>
    ⟨batchReport options.format (scoreBatch signatures).result, none,
      loaded.events ++ batchEvents surroundings signatures ++
        [batchScoredEvent surroundings signatures]⟩

/-! ## Rides -/

/-- Decodes a written ride. -/
def runRide (format : OutputFormat) (signature : String) : Outcome :=
  match decodeRide signature with
  | .error refusal => ⟨"", some refusal.toFailure, []⟩
  | .ok view => ⟨view.report format, none, []⟩

/-! ## Commands -/

/-- The file that a command reads. -/
def file? : Command → Option String
  | .batch _ _ file => some file
  | _ => none

/-- Runs a command. `source` is what its file has to give, and nothing asks for it where there is
none. -/
def run (surroundings : Surroundings) (command : Command) (source : Source) : Outcome :=
  match command with
  | .score options signatures => (runScore options signatures).behind [scoringEvent signatures]
  | .batch options table file =>
    (runBatch surroundings options table source).behind [loadingEvent file]
  | .ride format signature => runRide format signature

/-! ## The whole program -/

/-- The name of the program and its version. -/
def versionLine : String :=
  "bike-tricks 0.5.0\n"

/-- What the program shows: an exit code, what it prints, the message of the failure that ended it,
and the events that it tells of before. -/
structure Answer where
  exitCode : UInt8
  output : String
  message : Option String
  log : List Event
  deriving DecidableEq

/-- The lines on the standard error, the failure last. When and where an event was reported is left
out of them. -/
def Answer.errorLines (answer : Answer) : List String :=
  answer.log.map Event.text ++ (answer.message.map ("ERROR " ++ ·)).toList

/-- The answer to a request that no command is run for. A command line that does not fit prints
nothing. -/
def Stop.answer (help : String) : Stop → Answer
  | .help => ⟨0, help, none, []⟩
  | .version => ⟨0, versionLine, none, []⟩
  | .misuse => ⟨2, "", none, []⟩

/-- The answer of a command that was run. -/
def Outcome.answer (debug : Bool) (outcome : Outcome) : Answer where
  exitCode := outcome.exitCode
  output := outcome.output
  message := outcome.failure.map Failure.message
  log := outcome.events.filter (Event.isTold debug)

/-- The file that a command line asks for. -/
def fileOf? (args : List String) : Option String :=
  match read args with
  | .error _ => none
  | .ok invocation => invocation.command.file?

/-- The answer of the program to its arguments, where `sources` says what each file has to give. -/
def answer (args : List String) (sources : String → Source)
    (surroundings : Surroundings := .still) : Answer :=
  match read args with
  | .error stop => stop.answer (surroundings.help args)
  | .ok invocation =>
    (invocation.command.run surroundings (sources (invocation.command.file?.getD ""))).answer
      invocation.debug

end TrickScore.Command
