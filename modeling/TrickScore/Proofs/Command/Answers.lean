import TrickScore.Command.Run

/-!
# What commands are answered with

An answer shows how a run ended, what it printed and what it told. How it ended is its failure
alone. What it told without debugging is no matter of the workers of a batch: all they report is for
debugging, so their order drops out (`run_told`).

Headlines:
* `answer_of_read`: arguments that fit are answered by running their command.
* `runBatch_of_error`, `runBatch_of_ok`, `runRide_of_error`, `runRide_of_ok`: the runs of two
  commands.
* `Sequence.level_of_mem_parseEvents`: what is reported of tricks is for debugging.
* **`run_told`**: what a run tells without debugging.
-/

namespace TrickScore

/-- What is reported of the tricks of a signature is for debugging. -/
theorem Sequence.level_of_mem_parseEvents {signature : String} {event : Event}
    (h : event ∈ parseEvents signature) : event.level = .debug := by
  unfold parseEvents at h
  split at h
  · obtain ⟨trick, -, rfl⟩ := List.mem_map.mp h
    rfl
  · cases h

/-- The events that are told without debugging. -/
def told (events : List Event) : List Event :=
  events.filter (Event.isTold false)

@[simp] theorem told_append (events more : List Event) :
    told (events ++ more) = told events ++ told more :=
  List.filter_append ..

namespace Command

/-! ## Outcomes -/

namespace Outcome

@[simp] theorem failure_behind (events : List Event) (outcome : Outcome) :
    (outcome.behind events).failure = outcome.failure :=
  rfl

@[simp] theorem events_behind (events : List Event) (outcome : Outcome) :
    (outcome.behind events).events = events ++ outcome.events :=
  rfl

variable {debug : Bool} {outcome other : Outcome}

/-- The exit code of a run that fails is 1, and that of one that completes is not. -/
theorem exitCode_eq_one_iff :
    (outcome.answer debug).exitCode = 1 ↔ outcome.failure.isSome = true := by
  rw [answer, exitCode]
  cases outcome.failure.isSome with
  | true => exact iff_of_true rfl rfl
  | false => exact iff_of_false (by decide : (0 : UInt8) ≠ 1) Bool.false_ne_true

theorem exitCode_eq_zero_or_one (debug : Bool) (outcome : Outcome) :
    (outcome.answer debug).exitCode = 0 ∨ (outcome.answer debug).exitCode = 1 := by
  rw [answer, exitCode]
  cases outcome.failure.isSome with
  | true => exact .inr rfl
  | false => exact .inl rfl

/-- A run fails iff there is a failure to tell of. -/
theorem exitCode_eq_one_iff_message :
    (outcome.answer debug).exitCode = 1 ↔ (outcome.answer debug).message.isSome = true := by
  rw [exitCode_eq_one_iff, answer, Option.isSome_map]

/-- How a run ends is shown by its failure alone. -/
theorem answer_congr (h : outcome.failure = other.failure) (debug debug' : Bool) :
    (outcome.answer debug).exitCode = (other.answer debug').exitCode ∧
      (outcome.answer debug).message = (other.answer debug').message := by
  rw [answer, answer, exitCode, exitCode, h]
  exact ⟨rfl, rfl⟩

/-- With debugging all that was reported is told. -/
theorem log_debug (outcome : Outcome) : (outcome.answer true).log = outcome.events :=
  List.filter_eq_self.mpr fun _ _ => rfl

/-- Without it, all that is not for debugging. -/
theorem log_plain (outcome : Outcome) :
    (outcome.answer false).log = outcome.events.filter fun event => event.level ≠ .debug :=
  rfl

/-- With debugging or without, the rest of what is told is the same. -/
theorem told_log (debug : Bool) (outcome : Outcome) :
    told (outcome.answer debug).log = told outcome.events := by
  rw [answer, told, told, List.filter_filter]
  refine List.filter_congr fun event _ => ?_
  cases debug <;> simp [Event.isTold]

end Outcome

/-! ## Runs -/

theorem runBatch_of_error {table : Delimited.Options} {source : Source} {failure : Failure}
    (h : (loadSource table source).result = .error failure) (surroundings : Surroundings)
    (options : ReportOptions) :
    runBatch surroundings options table source =
      ⟨"", some failure, (loadSource table source).events⟩ := by
  rw [runBatch, h]

theorem runBatch_of_ok {table : Delimited.Options} {source : Source} {signatures : List String}
    (h : (loadSource table source).result = .ok signatures) (surroundings : Surroundings)
    (options : ReportOptions) :
    runBatch surroundings options table source =
      ⟨batchReport options.format (scoreBatch signatures).result, none,
        (loadSource table source).events ++ batchEvents surroundings signatures ++
          [batchScoredEvent surroundings signatures]⟩ := by
  rw [runBatch, h]

theorem runRide_of_error {signature : String} {e : RideError}
    (h : RideLog.parse signature = .error e) (format : OutputFormat) :
    runRide format signature = ⟨"", some (.ride e), []⟩ := by
  rw [runRide, decodeRide, h]
  rfl

theorem runRide_of_ok {signature : String} {log : RideLog} (h : RideLog.parse signature = .ok log)
    (format : OutputFormat) :
    runRide format signature = ⟨(RideView.ofLog log).report format, none, []⟩ := by
  rw [runRide, decodeRide, h]

/-- Arguments that fit are answered by running their command. -/
theorem answer_of_read {args : List String} {invocation : Invocation}
    (h : read args = .ok invocation) (sources : String → Source) (surroundings : Surroundings) :
    answer args sources surroundings =
      (invocation.command.run surroundings
        (sources (invocation.command.file?.getD ""))).answer invocation.debug := by
  rw [answer, h]

/-! ## What is told -/

/-- Of a batch that is scored, only its failures are told without debugging. -/
theorem told_batchEvents (surroundings : Surroundings) (signatures : List String) :
    told (batchEvents surroundings signatures) =
      told (batchFailureEvents (scoreBatch signatures).result) := by
  have hworkers : told (surroundings.interleave (signatures.map Sequence.parseEvents)) = [] := by
    refine List.filter_eq_nil_iff.mpr fun event hevent => ?_
    obtain ⟨report, hreport, hmem⟩ :=
      List.mem_flatten.mp ((surroundings.interleave_perm _).mem_iff.mp hevent)
    obtain ⟨signature, -, rfl⟩ := List.mem_map.mp hreport
    simp [Event.isTold, Sequence.level_of_mem_parseEvents hmem]
  rw [batchEvents, told_append, hworkers, List.nil_append]

/-- **What a run prints, how it ends and what it tells without debugging** depends on the clock
alone besides the command and the file, and what it prints and how it ends not even on that. -/
theorem run_told (command : Command) (source : Source) (surroundings other : Surroundings) :
    (command.run surroundings source).output = (command.run other source).output ∧
    (command.run surroundings source).failure = (command.run other source).failure ∧
    (surroundings.elapsed = other.elapsed →
      told (command.run surroundings source).events = told (command.run other source).events) := by
  cases command with
  | score options signatures => exact ⟨rfl, rfl, fun _ => rfl⟩
  | ride format signature => exact ⟨rfl, rfl, fun _ => rfl⟩
  | batch options table file =>
    cases h : (loadSource table source).result with
    | error failure =>
      rw [run, run, runBatch_of_error h, runBatch_of_error h]
      exact ⟨rfl, rfl, fun _ => rfl⟩
    | ok signatures =>
      rw [run, run, runBatch_of_ok h, runBatch_of_ok h]
      refine ⟨rfl, rfl, fun helapsed => ?_⟩
      simp only [Outcome.events_behind, told_append, told_batchEvents, batchScoredEvent, helapsed]

end Command

end TrickScore
