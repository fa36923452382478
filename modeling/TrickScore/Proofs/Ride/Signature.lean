import TrickScore.Proofs.Ride.Grammar
import TrickScore.Service

/-!
# Writing rides and reading them back

Any ride can be written, but not every written ride can be read. What is wrong with the written form
is said of the ride itself (`RideLog.fault?`): a hyphen in a part or in front of a negative year, a
year of more than four digits, the year 0, a blank part, in this order. Nothing else can go wrong,
and no ride is read as another one.

Headlines:
* `RideLog.parse_signature_eq`: the written form of a ride is read as the ride, or refused for its
  fault.
* `RideLog.fault?_eq_some_iff`: the fault is the error that is true of the ride.
* **`RideLog.signature_reads_back`**: when this happens, fault by fault.
* **`RideLog.signature_of_parse`**: a text that is read is the written form of what is read.
-/

namespace TrickScore

/-! ## Years that do not have four digits -/

namespace Date

/-- A hyphen stands in a written date iff the year is negative. -/
theorem hyphen_mem_compact_iff {date : Date} : '-' ∈ date.compact ↔ date.year < 0 := by
  have hpadded : ∀ width n, '-' ∉ Decimal.padded width n :=
    fun width n hmem => absurd (Decimal.isDigit_of_mem_padded hmem) (by decide)
  simp only [compact, List.mem_append, hpadded, false_or, yearText]
  split
  · rename_i h
    simp only [hpadded, false_iff]
    omega
  · rename_i h
    split
    · rename_i hneg
      simp [hneg]
    · rename_i hneg
      simp [hneg, hpadded]

/-- A plus sign stands before a year that has more than four digits. -/
theorem plus_mem_compact {date : Date} (h : 9999 < date.year) : '+' ∈ date.compact := by
  rw [compact, yearText, if_neg (by omega), if_neg (by omega)]
  exact List.mem_append_right _ List.mem_cons_self

end Date

theorem readDate_compact_of_lt {date : Date} (h : 9999 < date.year) :
    readDate date.compact = .error (.dateLength (String.ofList date.compact)) :=
  readDate_of_not_eightDigits fun hdigits =>
    absurd (hdigits.digits _ (Date.plus_mem_compact h)) (by decide)

theorem readDate_compact_of_zero {date : Date} (h : date.year = 0) :
    readDate date.compact = .error (.noSuchDate (String.ofList date.compact)) := by
  have hwritten : date.WrittenAs date.compact := Date.writtenAs_compact (by omega) (by omega)
  refine readDate_of_not_namesDay hwritten.toEightDigits fun hday => ?_
  have hone := hday.one_le_year
  have hyear := hwritten.year
  omega

namespace RideLog

/-! ## The parts of a written ride -/

theorem toList_signature (log : RideLog) :
    log.signature.toList =
      Text.join '-' [log.date.compact, log.start.toList, log.finish.toList, log.route.toList] :=
  String.toList_ofList

/-- A hyphen stands within a part, so that the ride is not written in four parts. -/
def Hyphenated (log : RideLog) : Prop :=
  log.date.year < 0 ∨ '-' ∈ log.start.toList ∨ '-' ∈ log.finish.toList ∨ '-' ∈ log.route.toList

instance (log : RideLog) : Decidable log.Hyphenated :=
  inferInstanceAs (Decidable (_ ∨ _ ∨ _ ∨ _))

/-- A written ride has three hyphens unless one stands within a part. -/
theorem count_signature_eq_iff {log : RideLog} :
    log.signature.toList.count '-' = 3 ↔ ¬ log.Hyphenated := by
  have hcount : log.signature.toList.count '-' =
      log.date.compact.count '-' + log.start.toList.count '-' + log.finish.toList.count '-' +
        log.route.toList.count '-' + 3 := by
    rw [toList_signature]
    simp [Text.join, List.intercalate]
    omega
  rw [hcount, Hyphenated, ← Date.hyphen_mem_compact_iff]
  simp only [← List.count_pos_iff]
  omega

theorem split_signature {log : RideLog} (h : ¬ log.Hyphenated) :
    Text.split '-' log.signature.toList =
      [log.date.compact, log.start.toList, log.finish.toList, log.route.toList] := by
  rw [Hyphenated, ← Date.hyphen_mem_compact_iff] at h
  simp only [not_or] at h
  rw [toList_signature]
  refine Text.split_join (by simp) ?_
  simp only [List.forall_mem_cons]
  exact ⟨h.1, h.2.1, h.2.2.1, h.2.2.2, by simp⟩

theorem isBlankText_signature (log : RideLog) : Text.isBlankText log.signature = false := by
  refine isBlankText_of_hyphen_mem ?_
  rw [toList_signature]
  simp [Text.join, List.intercalate]

/-! ## Reading back -/

/-- What keeps the written form of a ride from being read, if anything does. -/
def fault? (log : RideLog) : Option RideError :=
  if log.Hyphenated then some .shape
  else if 9999 < log.date.year then some (.dateLength (String.ofList log.date.compact))
  else if log.date.year = 0 then some (.noSuchDate (String.ofList log.date.compact))
  else
    (firstBlank? log.start.toList log.finish.toList log.route.toList).map RideError.blankField

/-- **A written ride is read as it was, or refused for its fault.** -/
theorem parse_signature_eq (log : RideLog) :
    parse log.signature =
      match log.fault? with
      | none => .ok log
      | some e => .error e := by
  rw [fault?]
  by_cases hhyphen : log.Hyphenated
  · rw [if_pos hhyphen]
    refine parse_of_count_ne (isBlankText_signature log) fun hcount => ?_
    exact count_signature_eq_iff.mp hcount hhyphen
  · rw [if_neg hhyphen, parse_of_split (split_signature hhyphen)]
    by_cases hlong : 9999 < log.date.year
    · rw [if_pos hlong]
      exact ofParts_of_error (readDate_compact_of_lt hlong) _ _ _
    · rw [if_neg hlong]
      by_cases hzero : log.date.year = 0
      · rw [if_pos hzero]
        exact ofParts_of_error (readDate_compact_of_zero hzero) _ _ _
      · have hnonneg : ¬ log.date.year < 0 := fun hneg => hhyphen (.inl hneg)
        have hdate : readDate log.date.compact = .ok log.date :=
          readDate_eq_ok_iff.mpr ⟨by omega, by omega, rfl⟩
        rw [if_neg hzero, ofParts_of_ok hdate]
        cases firstBlank? log.start.toList log.finish.toList log.route.toList with
        | some field => rfl
        | none => simp only [String.ofList_toList, Option.map_none]

theorem parse_signature_eq_ok_iff {log other : RideLog} :
    parse log.signature = .ok other ↔ log.fault? = none ∧ other = log := by
  rw [parse_signature_eq]
  cases log.fault? <;> simp [eq_comm]

theorem parse_signature_eq_error_iff {log : RideLog} {e : RideError} :
    parse log.signature = .error e ↔ log.fault? = some e := by
  rw [parse_signature_eq]
  cases log.fault? <;> simp

/-- The written form has no fault iff the year is one of 1 to 9999 and the parts are parts of the
grammar. -/
theorem fault?_eq_none_iff {log : RideLog} :
    log.fault? = none ↔
      (1 ≤ log.date.year ∧ log.date.year ≤ 9999) ∧
        IsPart log.start ∧ IsPart log.finish ∧ IsPart log.route := by
  constructor
  · intro h
    have hread : parse log.signature = .ok log := parse_signature_eq_ok_iff.mpr ⟨h, rfl⟩
    obtain ⟨written, hdate, hstart, hfinish, hroute, -⟩ := parse_eq_ok_iff.mp hread
    obtain ⟨hone, hle, -⟩ := readDate_eq_ok_iff.mp hdate
    exact ⟨⟨hone, hle⟩, hstart, hfinish, hroute⟩
  · rintro ⟨⟨hone, hle⟩, hstart, hfinish, hroute⟩
    have hread : parse log.signature = .ok log :=
      parse_eq_ok_iff.mpr ⟨log.date.compact, readDate_eq_ok_iff.mpr ⟨hone, hle, rfl⟩, hstart,
        hfinish, hroute, (toList_signature log).symm⟩
    exact (parse_signature_eq_ok_iff.mp hread).1

/-- The faults by the years at which they stand, if no hyphen stands within a part. -/
theorem fault?_cases (log : RideLog) :
    (log.Hyphenated ∧ log.fault? = some .shape) ∨
    (¬ log.Hyphenated ∧ 9999 < log.date.year ∧
      log.fault? = some (.dateLength (String.ofList log.date.compact))) ∨
    (¬ log.Hyphenated ∧ log.date.year = 0 ∧
      log.fault? = some (.noSuchDate (String.ofList log.date.compact))) ∨
    (¬ log.Hyphenated ∧ (1 ≤ log.date.year ∧ log.date.year ≤ 9999) ∧
      log.fault? = (firstBlank? log.start.toList log.finish.toList log.route.toList).map
        RideError.blankField) := by
  unfold fault?
  by_cases hhyphen : log.Hyphenated
  · exact .inl ⟨hhyphen, if_pos hhyphen⟩
  · rw [if_neg hhyphen]
    have hnonneg : ¬ log.date.year < 0 := fun hneg => hhyphen (.inl hneg)
    by_cases hlong : 9999 < log.date.year
    · exact .inr (.inl ⟨hhyphen, hlong, if_pos hlong⟩)
    · rw [if_neg hlong]
      by_cases hzero : log.date.year = 0
      · exact .inr (.inr (.inl ⟨hhyphen, hzero, if_pos hzero⟩))
      · exact .inr (.inr (.inr ⟨hhyphen, by omega, if_neg hzero⟩))

/-- What an error says about the ride whose written form is refused for it. -/
def Explains (log : RideLog) : RideError → Prop
  | .blank => False
  | .shape => log.Hyphenated
  | .dateLength written =>
    ¬ log.Hyphenated ∧ 9999 < log.date.year ∧ written = String.ofList log.date.compact
  | .noSuchDate written =>
    ¬ log.Hyphenated ∧ log.date.year = 0 ∧ written = String.ofList log.date.compact
  | .blankField field =>
    ¬ log.Hyphenated ∧ (1 ≤ log.date.year ∧ log.date.year ≤ 9999) ∧
      FirstBlank log.start log.finish log.route field

/-- **The fault of a written ride is the error that is true of the ride.** -/
theorem fault?_eq_some_iff {log : RideLog} {e : RideError} :
    log.fault? = some e ↔ log.Explains e := by
  rcases log.fault?_cases with ⟨hhyphen, hfault⟩ | ⟨hwhole, hlong, hfault⟩ |
    ⟨hwhole, hzero, hfault⟩ | ⟨hwhole, hyear, hfault⟩
  · rw [hfault]
    cases e <;> simp [Explains, hhyphen]
  · have hne : log.date.year ≠ 0 := by omega
    have hnot : ¬ log.date.year ≤ 9999 := by omega
    rw [hfault]
    cases e <;> simp [Explains, hwhole, hlong, hne, hnot, eq_comm]
  · rw [hfault]
    cases e <;> simp [Explains, hwhole, hzero, eq_comm]
  · have hshort : ¬ 9999 < log.date.year := by omega
    have hne : log.date.year ≠ 0 := by omega
    rw [hfault, Option.map_eq_some_iff]
    cases e <;> simp [Explains, hwhole, hyear, hshort, hne, firstBlank?_eq_some_iff]

/-- **A ride is read back iff its year is one of 1 to 9999 and none of its parts is blank or holds a
hyphen**, and then it is read as it was. Otherwise it has not the shape of a ride log iff a hyphen
stands within a part or before the year; else its date has the wrong length iff the year is above
9999; else there is no such date iff the year is 0; else the first blank part is reported. -/
theorem signature_reads_back (log : RideLog) :
    ((∃ other, parse log.signature = .ok other) ↔
      (1 ≤ log.date.year ∧ log.date.year ≤ 9999) ∧
        IsPart log.start ∧ IsPart log.finish ∧ IsPart log.route) ∧
    (∀ other, parse log.signature = .ok other → other = log) ∧
    (parse log.signature = .error .shape ↔ log.Hyphenated) ∧
    (∀ written, parse log.signature = .error (.dateLength written) ↔
      ¬ log.Hyphenated ∧ 9999 < log.date.year ∧ written = String.ofList log.date.compact) ∧
    (∀ written, parse log.signature = .error (.noSuchDate written) ↔
      ¬ log.Hyphenated ∧ log.date.year = 0 ∧ written = String.ofList log.date.compact) ∧
    (∀ field, parse log.signature = .error (.blankField field) ↔
      ¬ log.Hyphenated ∧ (1 ≤ log.date.year ∧ log.date.year ≤ 9999) ∧
        FirstBlank log.start log.finish log.route field) ∧
    parse log.signature ≠ .error .blank := by
  have herror : ∀ e, parse log.signature = .error e ↔ log.Explains e :=
    fun e => parse_signature_eq_error_iff.trans fault?_eq_some_iff
  refine ⟨?_, fun other h => (parse_signature_eq_ok_iff.mp h).2, herror .shape,
    fun written => herror (.dateLength written), fun written => herror (.noSuchDate written),
    fun field => herror (.blankField field), (herror .blank).mp⟩
  rw [← fault?_eq_none_iff]
  simp only [parse_signature_eq_ok_iff, exists_and_left, exists_eq, and_true]

/-! ## Writing again -/

/-- What is read is written as it stood. -/
theorem signature_eq_of_parse {signature : String} {log : RideLog}
    (h : parse signature = .ok log) : log.signature = signature := by
  obtain ⟨written, hdate, -, -, -, hjoin⟩ := parse_eq_ok_iff.mp h
  obtain ⟨-, -, hcompact⟩ := readDate_eq_ok_iff.mp hdate
  rw [← String.toList_inj, toList_signature, hcompact]
  exact hjoin

/-- **A text that is read is the written form of what is read**, character for character, so no two
texts are read as the same ride, and the view of a ride has the text that it was decoded from. -/
theorem signature_of_parse (signature : String) :
    (∀ log, parse signature = .ok log →
      log.signature = signature ∧ ∀ other, parse other = .ok log → other = signature) ∧
    ∀ view, decodeRide signature = .ok view → view.signature = signature := by
  refine ⟨fun log h => ⟨signature_eq_of_parse h, fun other hother => ?_⟩, fun view h => ?_⟩
  · rw [← signature_eq_of_parse hother, signature_eq_of_parse h]
  · cases hread : parse signature with
    | error e =>
      rw [decodeRide, hread] at h
      cases h
    | ok log =>
      rw [decodeRide, hread] at h
      obtain rfl := Except.ok.inj h
      exact signature_eq_of_parse hread

/-- Leading zeros and blanks around the parts are written as they were read. -/
theorem signature_of_parse_padded :
    (∃ log, parse "01020003- A\t-B  B-C " = .ok log ∧
      log.signature = "01020003- A\t-B  B-C " ∧
      ∀ other, parse other = .ok log → other = "01020003- A\t-B  B-C ") ∧
    ∃ view, decodeRide "01020003- A\t-B  B-C " = .ok view ∧
      view.signature = "01020003- A\t-B  B-C " := by
  have h : parse "01020003- A\t-B  B-C " =
      .ok ⟨⟨3, 2, 1, by decide, by decide⟩, " A\t", "B  B", "C "⟩ := by rfl
  have hview : decodeRide "01020003- A\t-B  B-C " =
      .ok (.ofLog ⟨⟨3, 2, 1, by decide, by decide⟩, " A\t", "B  B", "C "⟩) := by
    rw [decodeRide, h]
  exact ⟨⟨_, h, (signature_of_parse _).1 _ h⟩, _, hview, (signature_of_parse _).2 _ hview⟩

end RideLog

end TrickScore
