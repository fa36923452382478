import TrickScore.Proofs.Batch.Entries
import TrickScore.Proofs.Delimited.Fields

/-!
# Records accounted for

Every record of a table that is loaded either gives one signature, in its place, or is counted in
the warning. Whether the first record is a header is decided on the same records: the two ways to
load a table differ in the signature of that record, if it has one, and in nothing else.

Headlines:
* `isTrimmed_of_signatureAt?`: what is found in a record has no blank ends.
* `Found.warnings_events`: the one warning of a load.
* **`load_accounts`**: all records of a table are accounted for, with a header and without.
-/

namespace TrickScore

/-! ## Trimmed texts -/

namespace Text

/-- A text that is not empty, with no blank character at either end. -/
structure IsTrimmed (s : String) : Prop where
  nonempty : s ≠ ""
  front : ∀ c, s.toList.head? = some c → isBlank c = false
  back : ∀ c, s.toList.getLast? = some c → isBlank c = false

/-- **What is trimmed off a text that is not blank is its blank ends.** -/
theorem isTrimmed_trim {s : String} (h : isBlankText s = false) : IsTrimmed (trim s) where
  nonempty := by
    rw [ne_eq, trim_eq_empty_iff, h]
    exact Bool.false_ne_true
  front c hc := by
    rw [trim, String.toList_ofList] at hc
    exact isBlank_of_head?_trimmed hc
  back c hc := by
    rw [trim, String.toList_ofList] at hc
    exact isBlank_of_getLast?_trimmed hc

end Text

namespace Delimited

/-! ## One record -/

/-- A record has the signature that its field in the column leaves when it is trimmed, if that field
stands there and is not blank. -/
theorem signatureAt?_eq_some_iff {column : Nat} {record : List String} {signature : String} :
    signatureAt? column record = some signature ↔
      ∃ field, record[column]? = some field ∧ Text.isBlankText field = false ∧
        Text.trim field = signature := by
  unfold signatureAt?
  cases record[column]? with
  | none => simp
  | some field => cases Text.isBlankText field <;> simp

theorem isTrimmed_of_signatureAt? {column : Nat} {record : List String} {signature : String}
    (h : signatureAt? column record = some signature) : Text.IsTrimmed signature := by
  obtain ⟨field, -, hblank, rfl⟩ := signatureAt?_eq_some_iff.mp h
  exact Text.isTrimmed_trim hblank

/-! ## All records -/

/-- **The one warning of a load** counts the records passed over, and is left out where there are
none. -/
theorem Found.warnings_events (found : Found) :
    warnings found.events =
      if found.skipped = 0 then []
      else [⟨.warn, "Skipped " ++ Decimal.text found.skipped ++ " rows without a signature."⟩] := by
  rw [events, warnings]
  split <;> rfl

/-- What stands in a column of the first record of a table. -/
def firstField? (delimiter : UInt8) (column : Nat) (table : List UInt8) : Option (List UInt8) :=
  (rows delimiter table).head?.bind fun row => row.fields[column]?

/-- The fields of texts are found by the texts. -/
theorem firstField?_eq {delimiter : UInt8} {table : List UInt8} {texts : List (List String)}
    (hfields : fieldsOf delimiter (withoutMark table) =
      texts.map fun record => record.map Text.bytes) (column : Nat) :
    firstField? delimiter column table =
      (texts.head?.bind fun record => record[column]?).map Text.bytes := by
  rw [← map_fields_rows] at hfields
  cases hrows : rows delimiter table with
  | nil =>
    rw [hrows] at hfields
    rw [firstField?, hrows, List.map_eq_nil_iff.mp hfields.symm]
    rfl
  | cons row more =>
    rw [hrows, List.map_cons] at hfields
    obtain ⟨record, others, rfl, hrecord, -⟩ := List.map_eq_cons_iff.mp hfields.symm
    rw [firstField?, hrows, List.head?_cons, List.head?_cons, Option.bind_some, Option.bind_some,
      ← hrecord, List.getElem?_map]

/-- The signature of the first record is its trimmed field, if that is not blank. -/
theorem signatureAt?_first_iff {delimiter : UInt8} {table : List UInt8}
    {texts : List (List String)} (hfields : fieldsOf delimiter (withoutMark table) =
      texts.map fun record => record.map Text.bytes) (column : Nat) (signature : String) :
    texts.head?.bind (signatureAt? column) = some signature ↔
      ∃ field, firstField? delimiter column table = some (Text.bytes field) ∧
        Text.isBlankText field = false ∧ Text.trim field = signature := by
  simp only [firstField?_eq hfields, Option.bind_eq_some_iff, signatureAt?_eq_some_iff,
    Option.map_eq_some_iff, Text.bytes_injective.eq_iff, exists_eq_right]
  tauto

/-- Found in all records is what is found in the first, and then what is found below it. -/
theorem filterMap_eq_head_append {α β : Type} (f : α → Option β) (records : List α) :
    records.filterMap f = (records.head?.bind f).toList ++ (records.drop 1).filterMap f := by
  cases records with
  | nil => rfl
  | cons record more =>
    rw [List.filterMap_cons]
    cases h : f record <;> simp [h]

/-- **Nothing is lost, invented or moved.** If a table is loaded without a header, what is loaded is
trimmed and not empty, and together with what the warning counts it makes up all records. With its
first record as a header the table is loaded as well: what is loaded is the same, but for the
trimmed field of the first record in front, which is missing then if it was there. -/
theorem load_accounts {options : Options} {delimiter : UInt8}
    (hdelimiter : options.PartsBy delimiter) {table : List UInt8} {signatures : List String}
    (hload : (load { options with hasHeader := false } table).result = .ok signatures) :
    (∀ signature ∈ signatures, Text.IsTrimmed signature) ∧
    (∃ skipped,
      warnings (load { options with hasHeader := false } table).events =
        (if skipped = 0 then []
          else [⟨.warn, "Skipped " ++ Decimal.text skipped ++ " rows without a signature."⟩]) ∧
      signatures.length + skipped = (rows delimiter table).length) ∧
    ∃ (first : Option String) (below : List String),
      (load { options with hasHeader := true } table).result = .ok below ∧
      signatures = first.toList ++ below ∧
      ∀ signature, first = some signature ↔
        ∃ field, firstField? delimiter options.column table = some (Text.bytes field) ∧
          Text.isBlankText field = false ∧ Text.trim field = signature := by
  have hbyte : ∀ hasHeader,
      { options with hasHeader := hasHeader }.delimiterByte = .ok delimiter :=
    fun _ => Options.delimiterByte_eq_ok_iff.mpr hdelimiter
  obtain ⟨texts, hfields, rfl⟩ := (load_eq_ok_iff (hbyte false)).mp hload
  have hreported := load_eq_of_textRows (hbyte false) (textRows_eq_ok_iff.mpr hfields)
  -- What the loop has found behind the last record.
  let found := texts.foldl (Found.add options.column) .start
  have hfound : texts.filterMap (signatureAt? options.column) = found.signatures :=
    (Found.signatures_foldl_add options.column .start texts).symm
  have hcounted : found.signatures.length + found.skipped = texts.length :=
    (Found.count_foldl_add options.column .start texts).trans (Nat.zero_add _)
  replace hfields : fieldsOf delimiter (withoutMark table) =
    texts.map fun record => record.map Text.bytes := hfields
  refine ⟨fun signature hmem => ?_, ⟨found.skipped, ?_, ?_⟩,
    texts.head?.bind (signatureAt? options.column),
    (texts.drop 1).filterMap (signatureAt? options.column), ?_, ?_,
    signatureAt?_first_iff hfields options.column⟩
  · obtain ⟨record, -, hrecord⟩ := List.mem_filterMap.mp hmem
    exact isTrimmed_of_signatureAt? hrecord
  · rw [hreported]
    exact found.warnings_events
  · have hcount := congrArg List.length hfields
    rw [← map_fields_rows, List.length_map, List.length_map] at hcount
    rw [hcount, hfound]
    exact hcounted
  · refine (load_eq_ok_iff (hbyte true)).mpr ⟨texts.drop 1, ?_, rfl⟩
    rw [List.map_drop, ← hfields]
    rfl
  · exact filterMap_eq_head_append (signatureAt? options.column) texts

/-- Of three records behind an empty line the second has a blank field. The first is left out where
it is a header. -/
theorem load_accounts_blankField :
    (load ⟨",", false, 0⟩ (Text.bytes "\n sig \n,x\nL1A")).result = .ok ["sig", "L1A"] ∧
    (∃ skipped, 2 + skipped = (rows 0x2C (Text.bytes "\n sig \n,x\nL1A")).length) ∧
    (load ⟨",", true, 0⟩ (Text.bytes "\n sig \n,x\nL1A")).result = .ok ["L1A"] := by
  have hcomma : Text.bytes "," = [0x2C] := by decide +kernel
  have hfields : fieldsOf 0x2C (withoutMark (Text.bytes "\n sig \n,x\nL1A")) =
      [[" sig "], ["", "x"], ["L1A"]].map fun record => record.map Text.bytes := by
    have htable : Text.bytes "\n sig \n,x\nL1A" =
        [0x0A, 0x20, 0x73, 0x69, 0x67, 0x20, 0x0A, 0x2C, 0x78, 0x0A, 0x4C, 0x31, 0x41] := by
      decide +kernel
    rw [htable, withoutMark_of_head? (by decide), fieldsOf_break (by decide),
      fieldsOf_record (by decide)]
    have hsecond : (cut 0x2C .start [0x20, 0x73, 0x69, 0x67, 0x20, 0x0A, 0x2C, 0x78, 0x0A, 0x4C,
        0x31, 0x41]).rest = [0x2C, 0x78, 0x0A, 0x4C, 0x31, 0x41] := by decide
    have hthird : (cut 0x2C .start [0x2C, 0x78, 0x0A, 0x4C, 0x31, 0x41]).rest =
        [0x4C, 0x31, 0x41] := by decide
    have hend : (cut 0x2C .start [0x4C, 0x31, 0x41]).rest = [] := by decide
    rw [hsecond, fieldsOf_record (by decide), hthird, fieldsOf_record (by decide), hend,
      fieldsOf_nil]
    decide +kernel
  have hload : (load ⟨",", false, 0⟩ (Text.bytes "\n sig \n,x\nL1A")).result =
      .ok ["sig", "L1A"] :=
    (load_eq_ok_iff (Options.delimiterByte_eq_ok_iff.mpr (.inl hcomma))).mpr
      ⟨_, hfields, by decide +kernel⟩
  obtain ⟨-, ⟨skipped, -, hcount⟩, first, below, hbelow, hsplit, hfirst⟩ :=
    @load_accounts ⟨",", false, 0⟩ 0x2C (.inl hcomma) _ _ hload
  have hheader : first = some "sig" :=
    (hfirst "sig").mpr ⟨" sig ", firstField?_eq hfields 0, by decide +kernel, by decide +kernel⟩
  rw [hheader] at hsplit
  obtain ⟨-, rfl⟩ := List.cons.inj hsplit
  exact ⟨hload, ⟨skipped, hcount⟩, hbelow⟩

end Delimited

end TrickScore
