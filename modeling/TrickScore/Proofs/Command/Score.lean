import TrickScore.Command.Run
import TrickScore.Proofs.Sequence.OutOfRange

/-!
# Scoring signatures one after another

A run over signatures prints the report on each and stops at the first that is refused. So it is
made up of the runs over its signatures one by one: behind signatures that are all scored it goes on
as if it began there (`runScore_append`), and a refused one ends it whatever follows.

Headlines:
* `runScore_eq_join`: where all signatures are scored, the outputs follow one another.
* `runScore_refused`: what a refused signature leaves of the run.
* `runScore_failure_congr`: the options of the report have no part in how a run ends.
-/

namespace TrickScore.Command

theorem scoreSignature_of_ok {signature : String} {sequence : Sequence}
    (h : Sequence.parse signature = .ok sequence) :
    (scoreSignature signature).result = .ok sequence := by
  rw [scoreSignature, h]

theorem scoreSignature_of_error {signature : String} {e : TrickError}
    (h : Sequence.parse signature = .error e) :
    (scoreSignature signature).result = .error (.trick e) := by
  rw [scoreSignature, h]

/-- A signature that is scored is reported on, and the run goes on. -/
theorem runScore_cons_of_ok {signature : String} {sequence : Sequence}
    (h : Sequence.parse signature = .ok sequence) (options : ReportOptions)
    (signatures : List String) :
    runScore options (signature :: signatures) =
      ⟨sequence.report options signature ++ (runScore options signatures).output,
        (runScore options signatures).failure,
        (scoreSignature signature).events ++ (runScore options signatures).events⟩ := by
  rw [runScore, scoreSignature_of_ok h]

/-- A signature that is refused ends the run. -/
theorem runScore_cons_of_error {signature : String} {e : TrickError}
    (h : Sequence.parse signature = .error e) (options : ReportOptions)
    (signatures : List String) :
    runScore options (signature :: signatures) =
      ⟨"", some (.trick e), (scoreSignature signature).events⟩ := by
  rw [runScore, scoreSignature_of_error h]
  rfl

/-- The run over one signature that is scored prints its report. -/
theorem runScore_singleton {signature : String} {sequence : Sequence}
    (h : Sequence.parse signature = .ok sequence) (options : ReportOptions) :
    runScore options [signature] =
      ⟨sequence.report options signature, none, (scoreSignature signature).events⟩ := by
  rw [runScore_cons_of_ok h, runScore]
  simp

section Scored

variable {before : List String}
  (hbefore : ∀ b ∈ before, ∃ sequence, Sequence.parse b = .ok sequence)

include hbefore

/-- **Behind signatures that are scored, a run goes on as if it began there.** -/
theorem runScore_append (options : ReportOptions) (after : List String) :
    runScore options (before ++ after) =
      ⟨(runScore options before).output ++ (runScore options after).output,
        (runScore options after).failure,
        (runScore options before).events ++ (runScore options after).events⟩ := by
  induction before with
  | nil => simp [runScore]
  | cons signature before ih =>
    obtain ⟨sequence, h⟩ := hbefore signature List.mem_cons_self
    rw [List.cons_append, runScore_cons_of_ok h, runScore_cons_of_ok h,
      ih fun b hb => hbefore b (List.mem_cons_of_mem _ hb), String.append_assoc, List.append_assoc]

/-- **Where all signatures are scored, the outputs follow one another**, and so do the reports. -/
theorem runScore_eq_join (options : ReportOptions) :
    runScore options before =
      ⟨String.join (before.map fun signature => (runScore options [signature]).output), none,
        before.flatMap fun signature => (scoreSignature signature).events⟩ := by
  induction before with
  | nil => rfl
  | cons signature before ih =>
    obtain ⟨sequence, h⟩ := hbefore signature List.mem_cons_self
    rw [runScore_cons_of_ok h, ih fun b hb => hbefore b (List.mem_cons_of_mem _ hb), List.map_cons,
      String.join_cons, runScore_singleton h, List.flatMap_cons]

/-- **A refused signature leaves what the signatures before it print**, and its error. -/
theorem runScore_refused {signature : String} {e : TrickError}
    (h : Sequence.parse signature = .error e) (options : ReportOptions) (after : List String) :
    runScore options (before ++ signature :: after) =
      ⟨(runScore options before).output, some (.trick e),
        (runScore options before).events ++ (scoreSignature signature).events⟩ := by
  rw [runScore_append hbefore, runScore_cons_of_error h, String.append_empty]

end Scored

/-- A run fails iff one of its signatures is refused. -/
theorem runScore_failure_isSome_iff {options : ReportOptions} {signatures : List String} :
    (runScore options signatures).failure.isSome = true ↔
      ∃ signature ∈ signatures, ∃ e, Sequence.parse signature = .error e := by
  induction signatures with
  | nil => simp [runScore]
  | cons signature signatures ih =>
    cases h : Sequence.parse signature with
    | ok sequence =>
      rw [runScore_cons_of_ok h]
      simp [ih, h]
    | error e =>
      rw [runScore_cons_of_error h]
      simp [h]

/-- **The options of the report have no part in how a run ends.** -/
theorem runScore_failure_congr (options other : ReportOptions) (signatures : List String) :
    (runScore options signatures).failure = (runScore other signatures).failure := by
  induction signatures with
  | nil => rfl
  | cons signature signatures ih =>
    cases h : Sequence.parse signature with
    | ok sequence =>
      rw [runScore_cons_of_ok h, runScore_cons_of_ok h]
      exact ih
    | error e => rw [runScore_cons_of_error h, runScore_cons_of_error h]

end TrickScore.Command
