import TrickScore.Proofs.Ride.Grammar
import TrickScore.Service

/-!
# What is wrong with a text that is no ride log

A text may have several defects at once: too many hyphens, a date that does not exist, blank parts.
Reading reports the one that comes first in a fixed order. Here each defect is said of the text
itself, with the negation of those before it, and reading fails with an error exactly where the
defect of that error is the first.

Headlines:
* `RideParts.split_text_of_count`: with three hyphens, a text has one set of parts.
* `RideLog.parse_eq_error_iff`: reading fails with the first defect of the text.
* **`RideLog.parse_reports_first_defect`**: so no text has two first defects, a text without one is
  read, and decoding is refused for the same.
-/

namespace TrickScore

/-! ## Parts of a text with three hyphens -/

/-- In a text of three hyphens, none stands within a part. -/
theorem RideParts.split_text_of_count {parts : RideParts}
    (h : parts.text.toList.count '-' = 3) :
    Text.split '-' parts.text.toList =
      [parts.date.toList, parts.start.toList, parts.finish.toList, parts.route.toList] := by
  have hcount : parts.text.toList.count '-' =
      parts.date.toList.count '-' + parts.start.toList.count '-' +
        parts.finish.toList.count '-' + parts.route.toList.count '-' + 3 := by
    rw [toList_text]
    simp [Text.join, List.intercalate]
    omega
  have hnot : ∀ s : String, s.toList.count '-' = 0 → '-' ∉ s.toList :=
    fun s => List.count_eq_zero.mp
  exact split_text_of_not_mem (hnot _ (by omega)) (hnot _ (by omega)) (hnot _ (by omega))
    (hnot _ (by omega))

namespace RideLog

/-- What stands before the first hyphen of a text, or all of it if there is none. -/
def beforeHyphen (signature : String) : String :=
  String.ofList (signature.toList.takeWhile (· ≠ '-'))

section Split

variable {signature : String} {written start finish route : List Char}
  (h : Text.split '-' signature.toList = [written, start, finish, route])

include h

/-- The first part stands before the first hyphen. -/
theorem beforeHyphen_of_split : beforeHyphen signature = String.ofList written := by
  obtain ⟨hjoin, hpieces⟩ := (Text.split_eq_iff (by simp)).mp h
  have hwritten : '-' ∉ written := hpieces _ (by simp)
  have hpos : ∀ c ∈ written, decide (c ≠ '-') = true := by
    intro c hc
    rw [decide_eq_true_iff]
    rintro rfl
    exact hwritten hc
  rw [beforeHyphen, ← hjoin, Text.join_cons_cons, List.takeWhile_append_of_pos hpos]
  simp

/-- The first blank part is found whichever way the text is written as parts. -/
theorem exists_firstBlank_iff (field : RideField) :
    (∃ parts : RideParts, parts.text = signature ∧
      FirstBlank parts.start parts.finish parts.route field) ↔
        firstBlank? start finish route = some field := by
  constructor
  · rintro ⟨parts, rfl, hblank⟩
    rw [RideParts.split_text_of_count (count_of_split h)] at h
    obtain ⟨-, rfl, rfl, rfl⟩ : _ ∧ _ ∧ _ ∧ _ := by simpa using h
    exact firstBlank?_eq_some_iff.mpr hblank
  · intro hblank
    refine ⟨⟨String.ofList written, String.ofList start, String.ofList finish,
      String.ofList route⟩, ?_, ?_⟩
    · rw [← String.toList_inj, RideParts.toList_text]
      simp only [String.toList_ofList]
      rw [← h]
      exact Text.join_split '-' _
    · rw [← firstBlank?_eq_some_iff]
      simpa only [String.toList_ofList] using hblank

end Split

/-! ## Defects in their order -/

/-- **The first defect of a text**, in the order in which they are looked for: nothing but blank
characters; not three hyphens; a text other than eight digits before the first; eight digits that
name no day of the years 1 to 9999; a blank part, of which the first counts. -/
def FirstDefect (signature : String) : RideError → Prop
  | .blank => Text.isBlankText signature = true
  | .shape => Text.isBlankText signature = false ∧ signature.toList.count '-' ≠ 3
  | .dateLength written =>
    Text.isBlankText signature = false ∧ signature.toList.count '-' = 3 ∧
      ¬ EightDigits (beforeHyphen signature).toList ∧ written = beforeHyphen signature
  | .noSuchDate written =>
    Text.isBlankText signature = false ∧ signature.toList.count '-' = 3 ∧
      EightDigits (beforeHyphen signature).toList ∧
      ¬ NamesDay (beforeHyphen signature).toList ∧ written = beforeHyphen signature
  | .blankField field =>
    Text.isBlankText signature = false ∧ signature.toList.count '-' = 3 ∧
      NamesDay (beforeHyphen signature).toList ∧
      ∃ parts : RideParts, parts.text = signature ∧
        FirstBlank parts.start parts.finish parts.route field

theorem parse_of_isBlankText {signature : String} (h : Text.isBlankText signature = true) :
    parse signature = .error .blank := by
  rw [parse, if_pos h]

/-- Four parts are refused for the first defect of the text that they make up. -/
theorem ofParts_eq_error_iff {signature : String} {written start finish route : List Char}
    (h : Text.split '-' signature.toList = [written, start, finish, route]) {e : RideError} :
    ofParts written start finish route = .error e ↔ FirstDefect signature e := by
  have hcount := count_of_split h
  have hblank : Text.isBlankText signature = false :=
    isBlankText_of_hyphen_mem (List.count_pos_iff.mp (by omega))
  have hbefore := beforeHyphen_of_split h
  have hlist : (beforeHyphen signature).toList = written := by rw [hbefore, String.toList_ofList]
  by_cases hdigits : EightDigits written
  · by_cases hday : NamesDay written
    · obtain ⟨date, hdate⟩ := exists_readDate_iff.mpr hday
      rw [ofParts_of_ok hdate]
      have hfield := exists_firstBlank_iff h
      cases hfirst : firstBlank? start finish route with
      | none => cases e <;> simp [FirstDefect, hblank, hcount, hlist, hdigits, hday, hfield, hfirst]
      | some field =>
        cases e <;> simp [FirstDefect, hblank, hcount, hlist, hdigits, hday, hfield, hfirst]
    · rw [ofParts_of_error (readDate_of_not_namesDay hdigits hday), ← hbefore]
      cases e <;> simp [FirstDefect, hblank, hcount, hlist, hdigits, hday, eq_comm]
  · have hday : ¬ NamesDay written := fun hday => hdigits hday.toEightDigits
    rw [ofParts_of_error (readDate_of_not_eightDigits hdigits), ← hbefore]
    cases e <;> simp [FirstDefect, hblank, hcount, hlist, hdigits, hday, eq_comm]

/-- **Reading fails with the first defect of the text.** -/
theorem parse_eq_error_iff {signature : String} {e : RideError} :
    parse signature = .error e ↔ FirstDefect signature e := by
  by_cases hblank : Text.isBlankText signature = true
  · rw [parse_of_isBlankText hblank]
    cases e <;> simp [FirstDefect, hblank]
  · rw [Bool.not_eq_true] at hblank
    by_cases hcount : signature.toList.count '-' = 3
    · obtain ⟨written, start, finish, route, hsplit⟩ := exists_split_of_count hcount
      rw [parse_of_split hsplit]
      exact ofParts_eq_error_iff hsplit
    · rw [parse_of_count_ne hblank hcount]
      cases e <;> simp [FirstDefect, hblank, hcount]

/-- A text is read unless it has a defect. -/
theorem exists_parse_iff {signature : String} :
    (∃ log, parse signature = .ok log) ↔ ∀ e, ¬ FirstDefect signature e := by
  simp only [← parse_eq_error_iff]
  cases parse signature <;> simp

/-- A text has one first defect at most. -/
theorem FirstDefect.eq {signature : String} {e e' : RideError} (h : FirstDefect signature e)
    (h' : FirstDefect signature e') : e = e' := by
  rw [← parse_eq_error_iff] at h h'
  exact Except.error.inj (h.symm.trans h')

theorem decodeRide_eq_error_iff {signature : String} {refusal : Refusal} :
    decodeRide signature = .error refusal ↔
      ∃ e, refusal = .ride e ∧ parse signature = .error e := by
  unfold decodeRide
  cases parse signature with
  | ok log => simp
  | error e => simp [eq_comm]

/-- **A text is refused for its first defect**, and with the words of the text that show it. No
text has two first defects, and exactly those without one are read. Decoding is refused for the same
texts, with the same error. -/
theorem parse_reports_first_defect (signature : String) :
    (∀ e, parse signature = .error e ↔ FirstDefect signature e) ∧
    (∀ e e', FirstDefect signature e → FirstDefect signature e' → e = e') ∧
    ((∃ log, parse signature = .ok log) ↔ ∀ e, ¬ FirstDefect signature e) ∧
    ∀ refusal, decodeRide signature = .error refusal ↔
      ∃ e, refusal = .ride e ∧ FirstDefect signature e := by
  refine ⟨fun e => parse_eq_error_iff, fun e e' h h' => h.eq h', exists_parse_iff,
    fun refusal => ?_⟩
  simp only [decodeRide_eq_error_iff, parse_eq_error_iff]

/-- Of a day that does not exist and two blank parts, the day is reported. -/
theorem parse_reports_first_defect_severalDefects :
    parse "31022020-\u00A0-B-" = .error (.noSuchDate "31022020") ∧
    decodeRide "31022020-\u00A0-B-" = .error (.ride (.noSuchDate "31022020")) := by
  obtain ⟨hparse, -, -, hdecode⟩ := parse_reports_first_defect "31022020-\u00A0-B-"
  have hdefect : FirstDefect "31022020-\u00A0-B-" (.noSuchDate "31022020") :=
    ⟨by decide, by decide, by decide, by decide, by decide⟩
  exact ⟨(hparse _).mpr hdefect, (hdecode _).mpr ⟨_, rfl, hdefect⟩⟩

end RideLog

end TrickScore
