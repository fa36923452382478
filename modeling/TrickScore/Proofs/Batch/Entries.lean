import Mathlib.Data.List.Forall2
import TrickScore.Proofs.Command.Answers
import TrickScore.Proofs.Command.Score

/-!
# Entries of a batch

A batch isolates what scoring one signature after another stops at: every signature gets an entry,
with the sequence or with the error that it has alone, in the same words. No entry knows of the
others, and the warning of a batch counts those without a sequence.

Headlines:
* `BatchEntry.toJson_of_ok`, `BatchEntry.toJson_of_error`: the two forms of an entry as JSON.
* `warnings_scoreBatch`: the one warning of a batch.
* **`scoreBatch_reports`**: the entries of a batch, all together.
-/

namespace TrickScore

/-! ## The text of an entry -/

/-- An object of two members. -/
theorem Json.object_pair (name value name' value' : String) :
    object [(name, value), (name', value')] =
      ("\x7b" ++ quote name ++ ":") ++ value ++ ("," ++ quote name' ++ ":") ++ value' ++
        "\x7d" := by
  simp [object, member, String.append_assoc]

namespace BatchEntry

theorem ofSignature_of_ok {signature : String} {sequence : Sequence}
    (h : Sequence.parse signature = .ok sequence) :
    ofSignature signature = ⟨signature, some sequence, none⟩ := by
  rw [ofSignature, h]

theorem ofSignature_of_error {signature : String} {e : TrickError}
    (h : Sequence.parse signature = .error e) :
    ofSignature signature = ⟨signature, none, some e.message⟩ := by
  rw [ofSignature, h]

@[simp] theorem signature_ofSignature (signature : String) :
    (ofSignature signature).signature = signature := by
  unfold ofSignature
  split <;> rfl

/-- **There is a sequence or an error**, and never both. -/
theorem isSome_sequence?_ofSignature (signature : String) :
    (ofSignature signature).sequence?.isSome = !(ofSignature signature).error?.isSome := by
  unfold ofSignature
  split <;> rfl

/-- The entry of a signature that is scored, as JSON. -/
theorem toJson_of_ok (signature : String) (sequence : Sequence) :
    toJson ⟨signature, some sequence, none⟩ =
      "\x7b\"signature\":" ++ Json.quote signature ++ ",\"sequence\":" ++ sequence.toJson ++
        "\x7d" := by
  have hopen : "\x7b" ++ Json.quote "signature" ++ ":" = "\x7b\"signature\":" := by decide
  have hsecond : "," ++ Json.quote "sequence" ++ ":" = ",\"sequence\":" := by decide
  rw [← hopen, ← hsecond]
  exact Json.object_pair ..

/-- The entry of a signature that is refused, as JSON. -/
theorem toJson_of_error (signature message : String) :
    toJson ⟨signature, none, some message⟩ =
      "\x7b\"signature\":" ++ Json.quote signature ++ ",\"error\":" ++ Json.quote message ++
        "\x7d" := by
  have hopen : "\x7b" ++ Json.quote "signature" ++ ":" = "\x7b\"signature\":" := by decide
  have hsecond : "," ++ Json.quote "error" ++ ":" = ",\"error\":" := by decide
  rw [← hopen, ← hsecond]
  exact Json.object_pair ..

/-! ## What an entry reports -/

/-- **What an entry reports of a signature** is what scoring the signature alone says of it. -/
structure Reports (entry : BatchEntry) (signature : String) : Prop where
  own : entry.signature = signature
  /-- There is a sequence or an error, and never both. -/
  either : entry.sequence?.isSome = !entry.error?.isSome
  /-- Of a signature that is scored: its sequence, as the line of JSON that `score` prints. -/
  scored : ∀ sequence, Sequence.parse signature = .ok sequence →
    entry.sequence? = some sequence ∧
    entry.toJson =
      "\x7b\"signature\":" ++ Json.quote signature ++ ",\"sequence\":" ++ sequence.toJson ++
        "\x7d" ∧
    (scoreSignature signature).result = .ok sequence ∧
    ∀ precision,
      (Command.runScore ⟨.json, precision⟩ [signature]).output = sequence.toJson ++ "\n" ∧
      (Command.runScore ⟨.json, precision⟩ [signature]).failure = none
  /-- Of a signature that is refused: the error of the leftmost count out of range, as it stands in
  the message with which `score` ends there. With a precision above 65535 places it comes so far
  only where no table is printed before. -/
  refused : ∀ e, Sequence.parse signature = .error e →
    ∃ i j, OversizedAt signature.toList i j ∧
      (∀ i' j', OversizedAt signature.toList i' j' → i ≤ i') ∧
      ∃ message, message =
          "Repetition count out of range: " ++ String.ofList (between signature.toList i j) ∧
        entry.error? = some message ∧
        entry.toJson =
          "\x7b\"signature\":" ++ Json.quote signature ++ ",\"error\":" ++ Json.quote message ++
            "\x7d" ∧
        ∀ options before after, (∀ b ∈ before, ∃ sequence, Sequence.parse b = .ok sequence) →
          (Command.runScore options (before ++ signature :: after)).failure.map Failure.message =
            some ("Trick Signature Error: " ++ message)

/-- **The entry of a signature reports it.** -/
theorem reports_ofSignature (signature : String) : (ofSignature signature).Reports signature := by
  refine ⟨signature_ofSignature signature, isSome_sequence?_ofSignature signature,
    fun sequence h => ?_, fun e h => ?_⟩
  · rw [ofSignature_of_ok h]
    refine ⟨rfl, toJson_of_ok signature sequence, Command.scoreSignature_of_ok h,
      fun precision => ?_⟩
    rw [Command.runScore_singleton h]
    exact ⟨rfl, rfl⟩
  · obtain ⟨i, j, hover, hleast, rfl⟩ := Sequence.parse_eq_error_iff_leftmost.mp h
    refine ⟨i, j, hover, hleast, _, rfl, ?_⟩
    rw [ofSignature_of_error h]
    refine ⟨rfl, toJson_of_error signature _, fun options before after hbefore => ?_⟩
    rw [Command.runScore_refused hbefore h]
    rfl

end BatchEntry

/-- The entries of a batch are those of its signatures. -/
theorem scoreBatch_result (signatures : List String) :
    (scoreBatch signatures).result = signatures.map BatchEntry.ofSignature :=
  rfl

/-! ## Warnings -/

/-- The warnings among events. -/
def warnings (events : List Event) : List Event :=
  events.filter fun event => event.level = .warn

/-- How many entries have no sequence. -/
def unscored (entries : List BatchEntry) : Nat :=
  entries.countP fun entry => entry.sequence?.isNone

theorem failedCount_eq_unscored (entries : List BatchEntry) :
    failedCount entries = unscored entries := by
  unfold failedCount unscored BatchEntry.isScored
  simp only [Option.not_isSome]

/-- What is reported about tricks is no warning. -/
theorem warnings_batchTrickEvents (signatures : List String) :
    warnings (batchTrickEvents signatures) = [] := by
  unfold batchTrickEvents
  split
  · rw [warnings, List.filter_eq_nil_iff]
    intro event hevent
    simp [Sequence.level_of_mem_parseEvents hevent]
  · rfl

/-- **The one warning of a batch** counts the entries without a sequence, and is left out where
there are none. -/
theorem warnings_scoreBatch (signatures : List String) :
    warnings (scoreBatch signatures).events =
      if unscored (scoreBatch signatures).result = 0 then []
      else [⟨.warn, "API: " ++ Decimal.text (unscored (scoreBatch signatures).result) ++ " of " ++
        Decimal.text signatures.length ++ " signatures failed."⟩] := by
  have hevents : warnings (scoreBatch signatures).events =
      warnings (batchFailureEvents (scoreBatch signatures).result) := by
    rw [scoreBatch, warnings, List.filter_append]
    exact congrArg (· ++ _) (warnings_batchTrickEvents signatures)
  rw [hevents, batchFailureEvents, failedCount_eq_unscored]
  split
  · rfl
  · rw [scoreBatch_result, List.length_map]
    rfl

/-- **A batch says of every signature what scoring it alone says**, in the order of the signatures
and of each whatever the others are. Its warning counts those without a sequence. -/
theorem scoreBatch_reports (signatures : List String) :
    List.Forall₂ BatchEntry.Reports (scoreBatch signatures).result signatures ∧
    (∀ (others : List String) (i j : Nat), signatures[i]? = others[j]? →
      (scoreBatch signatures).result[i]? = (scoreBatch others).result[j]?) ∧
    (warnings (scoreBatch signatures).events = [] ↔
      unscored (scoreBatch signatures).result = 0) ∧
    (unscored (scoreBatch signatures).result ≠ 0 →
      warnings (scoreBatch signatures).events =
        [⟨.warn, "API: " ++ Decimal.text (unscored (scoreBatch signatures).result) ++ " of " ++
          Decimal.text signatures.length ++ " signatures failed."⟩]) := by
  refine ⟨?_, fun others i j h => ?_, ?_, fun h => ?_⟩
  · rw [scoreBatch_result, List.forall₂_map_left_iff, List.forall₂_same]
    exact fun signature _ => BatchEntry.reports_ofSignature signature
  · rw [scoreBatch_result, scoreBatch_result, List.getElem?_map, List.getElem?_map, h]
  · rw [warnings_scoreBatch]
    split
    · rename_i h
      exact iff_of_true rfl h
    · rename_i h
      exact iff_of_false (List.cons_ne_nil _ _) h
  · rw [warnings_scoreBatch, if_neg h]

end TrickScore
