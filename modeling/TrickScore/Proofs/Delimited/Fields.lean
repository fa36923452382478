import TrickScore.Delimited.Signatures
import TrickScore.Proofs.Text.Encoding
import TrickScore.Proofs.Traversal
import Mathlib.Data.Set.List

/-!
# Records without positions

`rowsFrom` carries along how far the reader has come, which only the messages of errors need. What
is read is the same from wherever the reader comes (`map_fields_rowsFrom`), so the fields of a table
have equations of their own: a line break before a record is skipped, and anything else begins one.

Headlines:
* `fieldsOf_break`, `fieldsOf_record`: the two steps of reading a table.
* **`textRows_eq_ok_iff`**: the texts of a table are those that its fields encode.
* `Options.delimiterByte_eq_ok_iff`: which delimiters are met.
* `Found.count_add`, `Found.count_foldl_add`: the loop counts each record once.
* `Found.addRows_eq`, `load_eq_of_textRows`: what is loaded from the texts.
* `exists_load_error_iff_field`: a table fails to load by a field that is not UTF-8, and only so.
-/

namespace TrickScore.Delimited

/-! ## The steps of reading rows -/

/-- Line breaks in front are skipped; then a record is cut off, and reading goes on behind it. -/
theorem rowsFrom_eq (delimiter : UInt8) (read : Nat) (unread input : List UInt8) :
    rowsFrom delimiter read unread input =
      match input.dropWhile isBreak with
      | [] => []
      | b :: bs =>
        ⟨(cut delimiter .start (b :: bs)).fields, read, unread⟩ ::
          rowsFrom delimiter (read + 1) (cut delimiter .start (b :: bs)).rest
            (cut delimiter .start (b :: bs)).rest := by
  rw [rowsFrom]
  cases input.dropWhile isBreak <;> rfl

theorem rowsFrom_nil (delimiter : UInt8) (read : Nat) (unread : List UInt8) :
    rowsFrom delimiter read unread [] = [] := by
  rw [rowsFrom_eq, List.dropWhile_nil]

theorem rowsFrom_break {b : UInt8} (h : isBreak b = true) (delimiter : UInt8) (read : Nat)
    (unread input : List UInt8) :
    rowsFrom delimiter read unread (b :: input) = rowsFrom delimiter read unread input := by
  rw [rowsFrom_eq, List.dropWhile_cons, if_pos h, ← rowsFrom_eq]

theorem rowsFrom_record {b : UInt8} (h : isBreak b = false) (delimiter : UInt8) (read : Nat)
    (unread input : List UInt8) :
    rowsFrom delimiter read unread (b :: input) =
      ⟨(cut delimiter .start (b :: input)).fields, read, unread⟩ ::
        rowsFrom delimiter (read + 1) (cut delimiter .start (b :: input)).rest
          (cut delimiter .start (b :: input)).rest := by
  rw [rowsFrom_eq, List.dropWhile_cons, if_neg (by simp [h])]

/-! ## Fields -/

/-- The fields of each record of the input. -/
def fieldsOf (delimiter : UInt8) (input : List UInt8) : List (List (List UInt8)) :=
  (rowsFrom delimiter 0 input input).map Row.fields

/-- Two readers of one input read the same fields, however far they have come. -/
theorem map_fields_rowsFrom_congr (delimiter : UInt8) (input : List UInt8) (read read' : Nat)
    (unread unread' : List UInt8) :
    (rowsFrom delimiter read unread input).map Row.fields =
      (rowsFrom delimiter read' unread' input).map Row.fields := by
  -- By induction on the length: behind a record the input is shorter, and so it is behind a break.
  induction hlength : input.length using Nat.strongRecOn generalizing input read read' unread
    unread' with
  | ind n ih =>
    cases input with
    | nil => rw [rowsFrom_nil, rowsFrom_nil]
    | cons b input =>
      cases hb : isBreak b with
      | true =>
        rw [rowsFrom_break hb, rowsFrom_break hb]
        exact ih input.length (by rw [← hlength]; exact Nat.lt_succ_self _) _ _ _ _ _ rfl
      | false =>
        rw [rowsFrom_record hb, rowsFrom_record hb, List.map_cons, List.map_cons]
        have hlt := length_rest_cut_lt delimiter .start b input
        rw [hlength] at hlt
        exact congrArg _ (ih _ hlt _ _ _ _ _ rfl)

/-- **What is read does not depend on how far the reader has come.** -/
theorem map_fields_rowsFrom (delimiter : UInt8) (read : Nat) (unread input : List UInt8) :
    (rowsFrom delimiter read unread input).map Row.fields = fieldsOf delimiter input :=
  map_fields_rowsFrom_congr delimiter input read 0 unread input

theorem fieldsOf_nil (delimiter : UInt8) : fieldsOf delimiter [] = [] := by
  rw [fieldsOf, rowsFrom_nil]
  rfl

/-- **A line break before a record is skipped.** -/
theorem fieldsOf_break {b : UInt8} (h : isBreak b = true) (delimiter : UInt8)
    (input : List UInt8) : fieldsOf delimiter (b :: input) = fieldsOf delimiter input := by
  rw [fieldsOf, rowsFrom_break h, map_fields_rowsFrom]

/-- **Anything else begins a record**, which is cut off. -/
theorem fieldsOf_record {b : UInt8} (h : isBreak b = false) (delimiter : UInt8)
    (input : List UInt8) :
    fieldsOf delimiter (b :: input) =
      (cut delimiter .start (b :: input)).fields ::
        fieldsOf delimiter (cut delimiter .start (b :: input)).rest := by
  rw [fieldsOf, rowsFrom_record h, List.map_cons, map_fields_rowsFrom]

theorem map_fields_rows (delimiter : UInt8) (table : List UInt8) :
    (rows delimiter table).map Row.fields = fieldsOf delimiter (withoutMark table) :=
  map_fields_rowsFrom delimiter 0 table (withoutMark table)

/-- Below the header stand all records but the first. -/
theorem map_fields_rowsBelowHeader (table : List UInt8) (all : List Row) :
    (rowsBelowHeader table all).map Row.fields = (all.map Row.fields).drop 1 := by
  match all with
  | [] => rfl
  | [_] => rfl
  | _ :: _ :: _ => rfl

/-- A table without a byte order mark is read from its first byte. -/
theorem withoutMark_of_head? {table : List UInt8} (h : table.head? ≠ some 0xEF) :
    withoutMark table = table := by
  cases table with
  | nil => rfl
  | cons b bs =>
    have hne : (0xEF : UInt8) ≠ b := fun hb => h (by rw [← hb]; rfl)
    rw [withoutMark, byteOrderMark, List.isPrefixOf_cons_cons]
    simp [hne]

/-! ## Texts -/

/-- The texts of fields are those that the fields encode. -/
theorem textsFrom_eq_ok_iff {index : Nat} {fields : List (List UInt8)} {texts : List String} :
    textsFrom index fields = .ok texts ↔ fields = texts.map Text.bytes := by
  induction fields generalizing index texts with
  | nil =>
    rw [textsFrom, eq_comm (a := []), List.map_eq_nil_iff]
    exact ⟨fun h => (Except.ok.inj h).symm, fun h => h ▸ rfl⟩
  | cons field fields ih =>
    rw [textsFrom, eq_comm (a := field :: fields), List.map_eq_cons_iff]
    cases hfield : Text.decode field with
    | error validLength =>
      constructor
      · intro h
        cases h
      · rintro ⟨text, more, rfl, rfl, -⟩
        rw [Text.decode_eq_ok_iff.mpr rfl] at hfield
        cases hfield
    | ok text =>
      dsimp only
      rw [Traversal.map_eq_ok_iff]
      constructor
      · rintro ⟨more, hmore, rfl⟩
        exact ⟨text, more, rfl, (Text.decode_eq_ok_iff.mp hfield).symm, (ih.mp hmore).symm⟩
      · rintro ⟨other, more, rfl, hother, hmore⟩
        rw [Text.decode_eq_ok_iff.mpr hother.symm] at hfield
        obtain rfl := Except.ok.inj hfield
        exact ⟨more, ih.mpr hmore.symm, rfl⟩

theorem Row.texts_eq_ok_iff {table : List UInt8} {row : Row} {texts : List String} :
    row.texts table = .ok texts ↔ row.fields = texts.map Text.bytes := by
  rw [Row.texts, Traversal.mapError_eq_ok_iff, textsFrom_eq_ok_iff]

/-- The records of a table that are read, without the first if that is a header. -/
theorem map_fields_read (delimiter : UInt8) (hasHeader : Bool) (table : List UInt8) :
    (readRows delimiter hasHeader table).map Row.fields =
      (fieldsOf delimiter (withoutMark table)).drop (if hasHeader then 1 else 0) := by
  rw [← map_fields_rows]
  cases hasHeader with
  | false => rfl
  | true => exact map_fields_rowsBelowHeader table (rows delimiter table)

/-- The texts of all rows that are read, or the first error. -/
def textRows (delimiter : UInt8) (hasHeader : Bool) (table : List UInt8) :
    Except TableError (List (List String)) :=
  (readRows delimiter hasHeader table).mapM (Row.texts table)

/-- **The texts of a table are those that its fields encode**, without the first record if that is
a header. -/
theorem textRows_eq_ok_iff {delimiter : UInt8} {hasHeader : Bool} {table : List UInt8}
    {texts : List (List String)} :
    textRows delimiter hasHeader table = .ok texts ↔
      (fieldsOf delimiter (withoutMark table)).drop (if hasHeader then 1 else 0) =
        texts.map fun record => record.map Text.bytes := by
  rw [← map_fields_read, ← List.forall₂_eq_eq_eq, List.forall₂_map_left_iff,
    List.forall₂_map_right_iff]
  simp only [textRows, Traversal.mapM_eq_ok_iff, Row.texts_eq_ok_iff]

/-- The fields of records are all UTF-8 iff the records are those of texts. -/
theorem forall_isUtf8_iff {records : List (List (List UInt8))} :
    (∀ record ∈ records, ∀ field ∈ record, Text.IsUtf8 field) ↔
      ∃ texts : List (List String), records = texts.map fun record => record.map Text.bytes := by
  have hrecord : ∀ record : List (List UInt8),
      (∀ field ∈ record, Text.IsUtf8 field) ↔ record ∈ Set.range (List.map Text.bytes) := by
    intro record
    simp only [Set.range_list_map, Set.mem_ofPred_eq, Set.mem_range, Text.isUtf8_iff, eq_comm]
  have hrecords : (∀ record ∈ records, record ∈ Set.range (List.map Text.bytes)) ↔
      records ∈ Set.range (List.map (List.map Text.bytes)) := by
    simp only [Set.range_list_map, Set.mem_ofPred_eq]
  simp only [hrecord]
  rw [hrecords, Set.mem_range]
  simp only [eq_comm]

/-- A table that is not read has a field that is not text. -/
theorem textRows_eq_error {delimiter : UInt8} {hasHeader : Bool} {table : List UInt8}
    {e : TableError} (h : textRows delimiter hasHeader table = .error e) :
    ∃ position bad, e = .notText position bad := by
  obtain ⟨-, row, -, -, -, hrow⟩ := Traversal.mapM_eq_error_iff.mp h
  rw [Row.texts] at hrow
  cases htexts : textsFrom 0 row.fields with
  | error bad =>
    rw [htexts] at hrow
    exact ⟨_, bad, (Except.error.inj hrow).symm⟩
  | ok texts =>
    rw [htexts] at hrow
    cases hrow

/-! ## Options -/

/-- What parts the fields: the one byte of what was asked for, or a tab for a backslash and a
`t`. -/
def Options.PartsBy (options : Options) (delimiter : UInt8) : Prop :=
  Text.bytes options.delimiter = [delimiter] ∨ options.delimiter = "\\t" ∧ delimiter = 0x09

/-- **A delimiter of one byte is always met.** -/
theorem Options.delimiterByte_eq_ok_iff {options : Options} {delimiter : UInt8} :
    options.delimiterByte = .ok delimiter ↔ options.PartsBy delimiter := by
  unfold delimiterByte PartsBy
  by_cases htab : options.delimiter = "\\t"
  · have hbytes : Text.bytes "\\t" = [0x5C, 0x74] := by
      rw [Text.bytes_eq_flatMap]
      decide
    rw [if_pos htab, htab, hbytes]
    simp [eq_comm]
  · rw [if_neg htab]
    split
    · rename_i b hb
      simp [hb, htab]
    · rename_i hbytes
      have hne : Text.bytes options.delimiter ≠ [delimiter] := hbytes delimiter
      simp [hne, htab]

/-! ## Signatures -/

/-- The signature of a record is its trimmed field, if the column stands in it and is not blank. -/
theorem signatureAt?_eq (column : Nat) (record : List String) :
    signatureAt? column record = (record[column]?.map Text.trim).filter (· ≠ "") := by
  unfold signatureAt?
  cases record[column]? with
  | none => rfl
  | some field =>
    cases hblank : Text.isBlankText field with
    | true => simp [Option.filter, (Text.trim_eq_empty_iff field).mpr hblank, hblank]
    | false =>
      have hne : Text.trim field ≠ "" := by
        rw [ne_eq, Text.trim_eq_empty_iff, hblank]
        exact Bool.false_ne_true
      simp [Option.filter, hne, hblank]

/-- **The signatures found are the trimmed fields of the column**, but for those that are empty
then. -/
theorem filterMap_signatureAt? (column : Nat) (records : List (List String)) :
    records.filterMap (signatureAt? column) =
      ((records.filterMap fun record => record[column]?).map Text.trim).filter (· ≠ "") := by
  rw [List.map_filterMap, List.filter_filterMap]
  exact List.filterMap_congr fun record _ => signatureAt?_eq column record

/-! ## The loop over the records -/

namespace Found

/-- How many records have been looked at. -/
def count (found : Found) : Nat :=
  found.signatures.length + found.skipped

/-- **Each record counts once**, by its signature or as passed over. -/
theorem count_add (column : Nat) (found : Found) (record : List String) :
    (found.add column record).count = found.count + 1 := by
  unfold add count
  split
  · rw [List.length_append, List.length_singleton, Nat.add_right_comm]
  · rw [Nat.add_assoc]

theorem signatures_add (column : Nat) (found : Found) (record : List String) :
    (found.add column record).signatures =
      found.signatures ++ (signatureAt? column record).toList := by
  unfold add
  cases signatureAt? column record with
  | none => exact (List.append_nil _).symm
  | some signature => rfl

section Run

variable (column : Nat) (found : Found) (records : List (List String))

theorem count_foldl_add :
    (records.foldl (add column) found).count = found.count + records.length := by
  induction records generalizing found with
  | nil => rfl
  | cons record records ih =>
    rw [List.foldl_cons, ih, count_add, List.length_cons, Nat.add_assoc, Nat.add_comm 1]

/-- **What is found are the signatures of the records**, in their order. -/
theorem signatures_foldl_add :
    (records.foldl (add column) found).signatures =
      found.signatures ++ records.filterMap (signatureAt? column) := by
  induction records generalizing found with
  | nil => exact (List.append_nil _).symm
  | cons record records ih =>
    rw [List.foldl_cons, ih, signatures_add, List.append_assoc, List.filterMap_cons]
    cases signatureAt? column record <;> rfl

end Run

/-- **The loop goes over the texts of the rows**, unless there is one that is not text. -/
theorem addRows_eq (column : Nat) (table : List UInt8) (found : Found) (rows : List Row) :
    found.addRows column table rows =
      (rows.mapM (Row.texts table)).map fun records => records.foldl (add column) found := by
  induction rows generalizing found with
  | nil => rfl
  | cons row rows ih =>
    unfold addRows
    cases htexts : row.texts table with
    | error e => rw [Traversal.mapM_cons_error htexts]; rfl
    | ok record =>
      rw [Traversal.mapM_cons_ok htexts]
      dsimp only
      rw [ih]
      cases rows.mapM (Row.texts table) <;> rfl

end Found

/-! ## Loading -/

/-- Without a delimiter nothing is read. -/
theorem load_of_delimiterByte_error {options : Options} {e : OptionsError}
    (h : options.delimiterByte = .error e) (table : List UInt8) :
    load options table = ⟨.error (.options e), []⟩ := by
  rw [load, h]

/-- A row that is not text ends the loop. -/
theorem load_of_textRows_error {options : Options} {delimiter : UInt8} {table : List UInt8}
    {e : TableError} (hdelimiter : options.delimiterByte = .ok delimiter)
    (htexts : textRows delimiter options.hasHeader table = .error e) :
    load options table = ⟨.error (.table e), []⟩ := by
  rw [textRows] at htexts
  rw [load, hdelimiter]
  dsimp only
  rw [Found.addRows_eq, htexts]
  rfl

/-- **What is loaded and what is reported are said of the texts of the table.** -/
theorem load_eq_of_textRows {options : Options} {delimiter : UInt8} {table : List UInt8}
    {texts : List (List String)} (hdelimiter : options.delimiterByte = .ok delimiter)
    (htexts : textRows delimiter options.hasHeader table = .ok texts) :
    load options table =
      ⟨.ok (texts.filterMap (signatureAt? options.column)),
        (texts.foldl (Found.add options.column) .start).events⟩ := by
  have hsignatures := Found.signatures_foldl_add options.column .start texts
  rw [textRows] at htexts
  rw [load, hdelimiter]
  dsimp only
  rw [Found.addRows_eq, htexts, ← List.nil_append (texts.filterMap _)]
  exact congrArg (Reported.mk · _) (congrArg Except.ok hsignatures)

/-- **What is loaded are the signatures of the texts that the fields encode**, where all that are
read encode one. -/
theorem load_eq_ok_iff {options : Options} {delimiter : UInt8} {table : List UInt8}
    {signatures : List String} (hdelimiter : options.delimiterByte = .ok delimiter) :
    (load options table).result = .ok signatures ↔
      ∃ texts : List (List String),
        (fieldsOf delimiter (withoutMark table)).drop (if options.hasHeader then 1 else 0) =
          texts.map (fun record => record.map Text.bytes) ∧
        texts.filterMap (signatureAt? options.column) = signatures := by
  simp only [← textRows_eq_ok_iff]
  cases htexts : textRows delimiter options.hasHeader table with
  | error e => simp [load_of_textRows_error hdelimiter htexts]
  | ok texts => simp [load_eq_of_textRows hdelimiter htexts]

/-- **What is loaded are the signatures of the texts of the table.** -/
theorem load_of_textRows {options : Options} {delimiter : UInt8} {table : List UInt8}
    {texts : List (List String)} (hdelimiter : options.delimiterByte = .ok delimiter)
    (htexts : textRows delimiter options.hasHeader table = .ok texts) :
    (load options table).result = .ok (texts.filterMap (signatureAt? options.column)) :=
  congrArg Reported.result (load_eq_of_textRows hdelimiter htexts)

/-- **A table is not loaded if a field of it that is read is not UTF-8.** -/
theorem load_of_not_isUtf8 {options : Options} {delimiter : UInt8} {table : List UInt8}
    (hdelimiter : options.delimiterByte = .ok delimiter)
    (hfield : ∃ record ∈ (fieldsOf delimiter (withoutMark table)).drop
      (if options.hasHeader then 1 else 0), ∃ field ∈ record, ¬ Text.IsUtf8 field) :
    ∃ position bad, (load options table).result = .error (.table (.notText position bad)) := by
  cases htexts : textRows delimiter options.hasHeader table with
  | error e =>
    obtain ⟨position, bad, rfl⟩ := textRows_eq_error htexts
    rw [load_of_textRows_error hdelimiter htexts]
    exact ⟨position, bad, rfl⟩
  | ok texts =>
    obtain ⟨record, hrecord, field, hmem, hbad⟩ := hfield
    exact absurd (forall_isUtf8_iff.mpr ⟨texts, textRows_eq_ok_iff.mp htexts⟩ record hrecord field
      hmem) hbad

/-- **A table is not loaded iff a field that is looked at is not UTF-8**, in whichever column. -/
theorem exists_load_error_iff_field {options : Options} {delimiter : UInt8}
    (hdelimiter : options.delimiterByte = .ok delimiter) (table : List UInt8) :
    (∃ failure, (load options table).result = .error failure) ↔
      ∃ record ∈ (fieldsOf delimiter (withoutMark table)).drop (if options.hasHeader then 1 else 0),
        ∃ field ∈ record, ¬ Text.IsUtf8 field := by
  constructor
  · rintro ⟨failure, hload⟩
    by_contra hnone
    push Not at hnone
    obtain ⟨texts, htexts⟩ := forall_isUtf8_iff.mp hnone
    rw [(load_eq_ok_iff hdelimiter).mpr ⟨texts, htexts, rfl⟩] at hload
    cases hload
  · intro hfield
    obtain ⟨position, bad, hload⟩ := load_of_not_isUtf8 hdelimiter hfield
    exact ⟨_, hload⟩

end TrickScore.Delimited
