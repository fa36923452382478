import TrickScore.Proofs.Command.Answers
import TrickScore.Proofs.Command.Score
import TrickScore.Proofs.Delimited.Fields

/-!
# How commands fail

The three commands fail in three ways. `score` prints as it goes and stops at the first signature
that it has to refuse. `batch` fails where its table cannot be loaded, and once it is loaded no
signature makes it fail. `ride` prints all or nothing. What they share is how a failure is shown, by
the exit code 1 together with a message, and that the options of a report have no part in it.

Each way is a structure over the answer that a run gives, proved of the command by itself. The
arguments come in last, with `answer_of_read`.

Headlines:
* `run_stopsAtOversized`, `run_failsToLoad`, `run_allOrNothing`: how each command fails.
* `exists_loadSource_error_iff`: when a table cannot be loaded.
* `run_withReport_failure`: the options of a report do not decide over failure.
* **`answer_failures`**: the failures of the program, for all arguments that fit.
-/

namespace TrickScore

/-- A count out of range occurs in the text. -/
def Oversized (signature : String) : Prop :=
  ∃ i j, OversizedAt signature.toList i j

theorem Sequence.exists_parse_iff_not_oversized {signature : String} :
    (∃ sequence, parse signature = .ok sequence) ↔ ¬ Oversized signature := by
  rw [exists_parse_iff, Oversized]
  simp only [not_exists]

theorem Sequence.exists_parse_error_iff_oversized {signature : String} :
    (∃ e, parse signature = .error e) ↔ Oversized signature := by
  rw [← not_iff_not, ← exists_parse_iff_not_oversized]
  cases parse signature <;> simp

namespace Command

/-! ## Scoring -/

/-- **Scoring stops at the first signature with a count out of range**, with its error and with what
the signatures before it print alone. -/
structure StopsAtOversized (options : ReportOptions) (signatures : List String) (answer : Answer) :
    Prop where
  fails_iff : answer.exitCode = 1 ↔ ∃ signature ∈ signatures, Oversized signature
  stopped : ∀ before signature after, signatures = before ++ signature :: after →
    (∀ b ∈ before, ¬ Oversized b) → Oversized signature →
    ∃ e, Sequence.parse signature = .error e ∧
      answer.message = some ("Trick Signature Error: " ++ e.message) ∧
      answer.output = (runScore options before).output ∧
      (before = [] → answer.output = "")
  completed : answer.exitCode = 0 →
    answer.output =
      String.join (signatures.map fun signature => (runScore options [signature]).output)

theorem run_stopsAtOversized (surroundings : Surroundings) (options : ReportOptions)
    (signatures : List String) (source : Source) (debug : Bool) :
    StopsAtOversized options signatures
      (((score options signatures).run surroundings source).answer debug) := by
  have hfails : (((score options signatures).run surroundings source).answer debug).exitCode = 1 ↔
      ∃ signature ∈ signatures, Oversized signature := by
    rw [Outcome.exitCode_eq_one_iff, run, Outcome.failure_behind, runScore_failure_isSome_iff]
    simp only [Sequence.exists_parse_error_iff_oversized]
  refine ⟨hfails, ?_, fun hcode => ?_⟩
  · rintro before signature after rfl hbefore hover
    obtain ⟨e, he⟩ := Sequence.exists_parse_error_iff_oversized.mpr hover
    have hscored := fun b hb => Sequence.exists_parse_iff_not_oversized.mpr (hbefore b hb)
    rw [run, runScore_refused hscored he]
    refine ⟨e, he, rfl, rfl, ?_⟩
    rintro rfl
    rfl
  · -- A run that completes has met no signature to refuse.
    have hscored : ∀ s ∈ signatures, ∃ sequence, Sequence.parse s = .ok sequence := by
      intro s hs
      rw [Sequence.exists_parse_iff_not_oversized]
      intro hover
      rw [hfails.mpr ⟨s, hs, hover⟩] at hcode
      exact absurd hcode (by decide)
    rw [run, runScore_eq_join hscored]
    rfl

/-! ## Batches -/

/-- **A table cannot be loaded** if its file cannot be read, if its delimiter is not one byte, or if
a field that is read is not UTF-8. -/
def Unloadable (table : Delimited.Options) : Source → Prop
  | .unopened _ | .unreadable _ => True
  | .bytes content =>
    (¬ ∃ delimiter, table.PartsBy delimiter) ∨
    ∃ delimiter, table.PartsBy delimiter ∧
      ∃ record ∈ (Delimited.fieldsOf delimiter (Delimited.withoutMark content)).drop
        (if table.hasHeader then 1 else 0), ∃ field ∈ record, ¬ Text.IsUtf8 field

theorem exists_load_error_iff {table : Delimited.Options} {content : List UInt8} :
    (∃ failure, (Delimited.load table content).result = .error failure) ↔
      Unloadable table (.bytes content) := by
  cases hdelimiter : table.delimiterByte with
  | error e =>
    have hnone : ¬ ∃ delimiter, table.PartsBy delimiter := by
      rintro ⟨delimiter, hparts⟩
      rw [Delimited.Options.delimiterByte_eq_ok_iff.mpr hparts] at hdelimiter
      cases hdelimiter
    exact iff_of_true
      ⟨_, congrArg Reported.result (Delimited.load_of_delimiterByte_error hdelimiter content)⟩
      (.inl hnone)
  | ok delimiter =>
    have hparts := Delimited.Options.delimiterByte_eq_ok_iff.mp hdelimiter
    rw [Delimited.exists_load_error_iff_field hdelimiter]
    constructor
    · intro hfield
      exact .inr ⟨delimiter, hparts, hfield⟩
    · rintro (hnone | ⟨other, hother, hfield⟩)
      · exact absurd ⟨delimiter, hparts⟩ hnone
      · rw [Delimited.Options.delimiterByte_eq_ok_iff.mpr hother] at hdelimiter
        rwa [← Except.ok.inj hdelimiter]

theorem exists_loadSource_error_iff {table : Delimited.Options} {source : Source} :
    (∃ failure, (loadSource table source).result = .error failure) ↔ Unloadable table source := by
  cases source with
  | unopened reason => exact iff_of_true ⟨_, rfl⟩ trivial
  | unreadable reason =>
    refine iff_of_true ?_ trivial
    rw [loadSource]
    cases table.delimiterByte with
    | error e => exact ⟨_, rfl⟩
    | ok delimiter => exact ⟨_, rfl⟩
  | bytes content => exact exists_load_error_iff

/-- **A batch fails where its table cannot be loaded**, and prints nothing then. No signature makes
it fail. -/
structure FailsToLoad (table : Delimited.Options) (source : Source) (answer : Answer) : Prop where
  fails_iff : answer.exitCode = 1 ↔ Unloadable table source
  failed : ∀ failure, (loadSource table source).result = .error failure →
    answer.message = some failure.message ∧ answer.output = ""
  loaded : ∀ signatures, (loadSource table source).result = .ok signatures → answer.exitCode = 0

theorem run_failsToLoad (surroundings : Surroundings) (options : ReportOptions)
    (table : Delimited.Options) (file : String) (source : Source) (debug : Bool) :
    FailsToLoad table source
      (((batch options table file).run surroundings source).answer debug) := by
  refine ⟨?_, fun failure hload => ?_, fun signatures hload => ?_⟩
  · rw [← exists_loadSource_error_iff, Outcome.exitCode_eq_one_iff, run, Outcome.failure_behind]
    cases hload : (loadSource table source).result with
    | error failure => simp [runBatch_of_error hload]
    | ok signatures => simp [runBatch_of_ok hload]
  · rw [run, runBatch_of_error hload]
    exact ⟨rfl, rfl⟩
  · rw [run, runBatch_of_ok hload]
    rfl

/-! ## Rides -/

/-- **A ride is decoded or refused**, and nothing is printed if it is refused. -/
structure AllOrNothing (signature : String) (answer : Answer) : Prop where
  fails_iff : answer.exitCode = 1 ↔ ∃ e, RideLog.parse signature = .error e
  failed : ∀ e, RideLog.parse signature = .error e →
    answer.message = some ("Ride Log Error: " ++ e.message) ∧ answer.output = ""

theorem run_allOrNothing (surroundings : Surroundings) (format : OutputFormat)
    (signature : String) (source : Source) (debug : Bool) :
    AllOrNothing signature (((ride format signature).run surroundings source).answer debug) := by
  refine ⟨?_, fun e hparse => ?_⟩
  · rw [Outcome.exitCode_eq_one_iff, run]
    cases hparse : RideLog.parse signature with
    | error e => simp [runRide_of_error hparse]
    | ok log => simp [runRide_of_ok hparse]
  · rw [run, runRide_of_error hparse]
    exact ⟨rfl, rfl⟩

/-! ## Options -/

/-- The same command with other options for its report. -/
def withReport (options : ReportOptions) : Command → Command
  | .score _ signatures => .score options signatures
  | .batch _ table file => .batch options table file
  | .ride _ signature => .ride options.format signature

theorem file?_withReport (options : ReportOptions) (command : Command) :
    (command.withReport options).file? = command.file? := by
  cases command <;> rfl

/-- **The options of a report do not decide over failure**, and nor do the surroundings. -/
theorem run_withReport_failure (surroundings other : Surroundings) (options : ReportOptions)
    (command : Command) (source : Source) :
    ((command.withReport options).run other source).failure =
      (command.run surroundings source).failure := by
  cases command with
  | score given signatures => exact runScore_failure_congr options given signatures
  | batch given table file =>
    rw [withReport, run, run]
    cases hload : (loadSource table source).result with
    | error failure => rw [runBatch_of_error hload, runBatch_of_error hload]
    | ok signatures =>
      rw [runBatch_of_ok hload, runBatch_of_ok hload]
      rfl
  | ride format signature =>
    rw [withReport, run, run]
    cases hparse : RideLog.parse signature with
    | error e => rw [runRide_of_error hparse, runRide_of_error hparse]
    | ok log => rw [runRide_of_ok hparse, runRide_of_ok hparse]

/-! ## The program -/

/-- **The failures of the program**, for all arguments that fit. The exit code is 1 exactly where
there is a message, and each command fails in its own way. With another format, another precision or
another word on debugging the same arguments end the same and with the same message, and debugging
alone does not change what is printed. It only adds to what is told: with it all that the run
reports, and without it what is not for debugging, which is the same then. -/
theorem answer_failures {args : List String} {invocation : Invocation}
    (h : read args = .ok invocation) (sources : String → Source) (surroundings : Surroundings) :
    ((answer args sources surroundings).exitCode = 0 ∨
      (answer args sources surroundings).exitCode = 1) ∧
    ((answer args sources surroundings).exitCode = 1 ↔
      (answer args sources surroundings).message.isSome = true) ∧
    (∀ options signatures, invocation.command = .score options signatures →
      StopsAtOversized options signatures (answer args sources surroundings)) ∧
    (∀ options table file, invocation.command = .batch options table file →
      FailsToLoad table (sources file) (answer args sources surroundings)) ∧
    (∀ format signature, invocation.command = .ride format signature →
      AllOrNothing signature (answer args sources surroundings)) ∧
    (∀ args' options debug surroundings',
      read args' = .ok ⟨invocation.command.withReport options, debug⟩ →
        (answer args' sources surroundings').exitCode =
          (answer args sources surroundings).exitCode ∧
        (answer args' sources surroundings').message =
          (answer args sources surroundings).message) ∧
    (∀ args' debug surroundings', read args' = .ok ⟨invocation.command, debug⟩ →
      (answer args' sources surroundings').exitCode =
        (answer args sources surroundings).exitCode ∧
      (answer args' sources surroundings').output = (answer args sources surroundings).output ∧
      (answer args' sources surroundings').message = (answer args sources surroundings).message ∧
      (surroundings'.elapsed = surroundings.elapsed →
        told (answer args' sources surroundings').log =
          told (answer args sources surroundings).log)) ∧
    (invocation.debug = true → (answer args sources surroundings).log =
      (invocation.command.run surroundings (sources (invocation.command.file?.getD ""))).events) ∧
    (invocation.debug = false → (answer args sources surroundings).log =
      (invocation.command.run surroundings
        (sources (invocation.command.file?.getD ""))).events.filter
          fun event => event.level ≠ .debug) := by
  rw [answer_of_read h]
  refine ⟨Outcome.exitCode_eq_zero_or_one _ _, Outcome.exitCode_eq_one_iff_message, ?_, ?_, ?_, ?_,
    ?_, fun hdebug => ?_, fun hdebug => ?_⟩
  · intro options signatures hcommand
    rw [hcommand]
    exact run_stopsAtOversized surroundings options signatures _ _
  · intro options table file hcommand
    rw [hcommand]
    exact run_failsToLoad surroundings options table file (sources file) _
  · intro format signature hcommand
    rw [hcommand]
    exact run_allOrNothing surroundings format signature _ _
  · intro args' options debug surroundings' h'
    rw [answer_of_read h', file?_withReport]
    exact Outcome.answer_congr (run_withReport_failure surroundings surroundings' options _ _) _ _
  · intro args' debug surroundings' h'
    rw [answer_of_read h', Outcome.told_log, Outcome.told_log]
    obtain ⟨houtput, hfailure, htold⟩ :=
      run_told invocation.command (sources (invocation.command.file?.getD "")) surroundings'
        surroundings
    obtain ⟨hcode, hmessage⟩ := Outcome.answer_congr hfailure debug invocation.debug
    exact ⟨hcode, houtput, hmessage, htold⟩
  · rw [hdebug]
    exact Outcome.log_debug _
  · rw [hdebug]
    exact Outcome.log_plain _

/-- The second of three signatures is refused, and the table of the first remains; as JSON the same
run ends the same. A batch whose delimiter has two bytes and a ride of two parts print nothing. Of a
batch without signatures debugging tells how many were loaded. -/
theorem answer_failures_eachCommand :
    ((answer ["score", "--precision", "0", "L1A", "R18446744073709551616B", "S1C"]
        fun _ => .bytes []).message =
      some "Trick Signature Error: Repetition count out of range: 18446744073709551616" ∧
    (answer ["score", "--precision", "0", "L1A", "R18446744073709551616B", "S1C"]
        fun _ => .bytes []).output = (runScore ⟨.table, 0⟩ ["L1A"]).output) ∧
    (answer ["--debug", "score", "--format=json", "L1A", "R18446744073709551616B", "S1C"]
        fun _ => .bytes []).exitCode = 1 ∧
    ((answer ["batch", "--delimiter", ";;", "-f", "a.csv"] fun _ => .bytes []).message =
      some "Configuration Error: --delimiter must be a single byte, got ';;'" ∧
    (answer ["batch", "--delimiter", ";;", "-f", "a.csv"] fun _ => .bytes []).output = "") ∧
    (answer ["ride", "01012024-A"] fun _ => .bytes []).output = "" ∧
    (answer ["batch", "-f", "a.csv"] fun _ => .bytes []).log =
      [⟨.info, "Loading signatures from: a.csv"⟩, ⟨.info, "Scored 0 signatures in "⟩] ∧
    (answer ["--debug", "batch", "-f", "a.csv"] fun _ => .bytes []).log =
      [⟨.info, "Loading signatures from: a.csv"⟩, ⟨.debug, "Loaded 0 signatures."⟩,
        ⟨.info, "Scored 0 signatures in "⟩] := by
  have hscore : read ["score", "--precision", "0", "L1A", "R18446744073709551616B", "S1C"] =
      .ok ⟨.score ⟨.table, 0⟩ ["L1A", "R18446744073709551616B", "S1C"], false⟩ := by decide +kernel
  have hdebug : read ["--debug", "score", "--format=json", "L1A", "R18446744073709551616B", "S1C"] =
      .ok ⟨.score ⟨.json, 2⟩ ["L1A", "R18446744073709551616B", "S1C"], true⟩ := by decide +kernel
  have hbatch : read ["batch", "--delimiter", ";;", "-f", "a.csv"] =
      .ok ⟨.batch ⟨.table, 2⟩ ⟨";;", false, 0⟩ "a.csv", false⟩ := by decide +kernel
  have hride : read ["ride", "01012024-A"] = .ok ⟨.ride .table "01012024-A", false⟩ := by
    decide +kernel
  have hfirst : ∃ sequence, Sequence.parse "L1A" = .ok sequence := by
    refine @Sequence.exists_parse_of_scan_ok _ [⟨'L', 1, 'A'⟩] ?_
    rw [Token.scan, Lexeme.scan_eq_filterMap]
    rfl
  have hsecond : Sequence.parse "R18446744073709551616B" =
      .error (.countOutOfRange "18446744073709551616") := by
    rw [Sequence.parse, Token.scan, Lexeme.scan_eq_filterMap]
    rfl
  have hover := Sequence.exists_parse_error_iff_oversized.mp ⟨_, hsecond⟩
  have hbefore : ∀ b ∈ ["L1A"], ¬ Oversized b :=
    List.forall_mem_singleton.mpr (Sequence.exists_parse_iff_not_oversized.mp hfirst)
  have hfailures := answer_failures hscore (fun _ => .bytes []) .still
  have hstops := hfailures.2.2.1 _ _ rfl
  obtain ⟨e, he, hmessage, houtput, -⟩ := hstops.stopped ["L1A"] _ ["S1C"] rfl hbefore hover
  obtain rfl := Except.error.inj (hsecond.symm.trans he)
  have hcode := hstops.fails_iff.mpr ⟨_, by simp, hover⟩
  have hdelimiter : (loadSource ⟨";;", false, 0⟩ (.bytes [])).result =
      .error (.options (.delimiterLength ";;")) := by decide +kernel
  have hloads := (answer_failures hbatch (fun _ => .bytes []) .still).2.2.2.1 _ _ _ rfl
  have hparse : RideLog.parse "01012024-A" = .error .shape := by decide +kernel
  have hrides := (answer_failures hride (fun _ => .bytes []) .still).2.2.2.2.1 _ _ rfl
  refine ⟨⟨hmessage, houtput⟩, ?_, hloads.failed _ hdelimiter, (hrides.failed _ hparse).2,
    by decide +kernel, by decide +kernel⟩
  rw [(hfailures.2.2.2.2.2.1 _ ⟨.json, 2⟩ _ .still hdebug).1]
  exact hcode

end Command

end TrickScore
