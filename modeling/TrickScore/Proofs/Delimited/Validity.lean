import TrickScore.Proofs.Delimited.Cut
import TrickScore.Proofs.Delimited.Fields

/-!
# Tables that are text

Records are cut at bytes below 128, and such a byte is never part of another character. So where a
table is UTF-8, all its fields are: whichever mode the reader is in, it goes over the bytes of a
longer character without leaving the field. Such a table is always loaded, however its quotes and
line breaks stand. A table that is not loaded has a field that is looked at and is not UTF-8, and
then it does not matter in which column the signatures stand.

The induction is on the characters of the text, for every mode. What it carries along is that the
fields and the rest are text (`Cut.IsText`).

Headlines:
* `exists_cut_append`: the bytes of a longer character are all kept.
* `isText_cut`: of a text, the fields of the record and the rest are text.
* `isUtf8_of_mem_fieldsOf`: so are all fields of a table.
* **`load_allOrNothing`**: when a table is loaded, and what has no part in it.
-/

namespace TrickScore

/-! ## The bytes of texts -/

namespace Text

theorem isUtf8_iff_chars {encoded : List UInt8} :
    IsUtf8 encoded ↔ ∃ cs : List Char, encoded = cs.flatMap String.utf8EncodeChar := by
  rw [isUtf8_iff]
  constructor
  · rintro ⟨text, rfl⟩
    exact ⟨text.toList, bytes_eq_flatMap text⟩
  · rintro ⟨cs, rfl⟩
    exact ⟨String.ofList cs, by rw [bytes_eq_flatMap, String.toList_ofList]⟩

theorem isUtf8_nil : IsUtf8 [] :=
  isUtf8_iff_chars.mpr ⟨[], rfl⟩

/-- The bytes of a character in front of a text make a text. -/
theorem IsUtf8.encode_append {encoded : List UInt8} (h : IsUtf8 encoded) (c : Char) :
    IsUtf8 (String.utf8EncodeChar c ++ encoded) := by
  obtain ⟨cs, rfl⟩ := isUtf8_iff_chars.mp h
  exact isUtf8_iff_chars.mpr ⟨c :: cs, rfl⟩

/-- **What stands behind a text in a text is text.** -/
theorem isUtf8_of_bytes_append {text : String} {rest : List UInt8}
    (h : IsUtf8 (bytes text ++ rest)) : IsUtf8 rest := by
  obtain ⟨whole, hwhole⟩ := isUtf8_iff.mp h
  rw [bytes_eq_flatMap, bytes_eq_flatMap] at hwhole
  have hpacked : text.toList.utf8Encode ++ rest.toByteArray = whole.toList.utf8Encode := by
    rw [List.utf8Encode, List.utf8Encode, ← List.toByteArray_append, hwhole]
  obtain ⟨more, hmore⟩ := List.isPrefix_of_utf8Encode_append_eq_utf8Encode _ hpacked
  rw [← hmore, List.flatMap_append] at hwhole
  exact isUtf8_iff_chars.mpr ⟨more, List.append_cancel_left hwhole⟩

/-- A byte below 128 in front of a text is its first character. -/
theorem IsUtf8.tail {b : UInt8} {encoded : List UInt8} (h : IsUtf8 (b :: encoded))
    (hb : b.toNat < 128) : IsUtf8 encoded := by
  obtain ⟨cs, hcs⟩ := isUtf8_iff_chars.mp h
  cases cs with
  | nil => cases hcs
  | cons c cs =>
    rw [List.flatMap_cons] at hcs
    obtain ⟨first, more, hc⟩ := List.exists_cons_of_ne_nil (@String.utf8EncodeChar_ne_nil c)
    rw [hc, List.cons_append] at hcs
    obtain ⟨rfl, rfl⟩ := List.cons.inj hcs
    have hone := (eq_singleton_of_mem_encode (hc ▸ List.mem_cons_self) hb).1
    rw [hc] at hone
    rw [(List.cons.inj hone).2]
    exact isUtf8_iff_chars.mpr ⟨cs, rfl⟩

/-- The byte of a text that has only one is below 128. -/
theorem lt_of_bytes_eq_singleton {text : String} {b : UInt8} (h : bytes text = [b]) :
    b.toNat < 128 := by
  rw [bytes_eq_flatMap] at h
  cases hcs : text.toList with
  | nil =>
    rw [hcs] at h
    cases h
  | cons c cs =>
    rw [hcs, List.flatMap_cons] at h
    have hlength := congrArg List.length h
    rw [List.length_append, String.length_utf8EncodeChar, List.length_singleton] at hlength
    have hsize : c.utf8Size = 1 := by
      have hpos := c.utf8Size_pos
      omega
    have hc : c.val.toNat ≤ 127 := Char.utf8Size_eq_one_iff.mp hsize
    rw [String.utf8EncodeChar_eq_singleton hsize, List.singleton_append] at h
    rw [← (List.cons.inj h).1, UInt32.toNat_toUInt8]
    omega

end Text

namespace Delimited

/-! ## Bytes with a meaning -/

/-- A delimiter that is met is below 128. -/
theorem Options.PartsBy.lt {options : Options} {delimiter : UInt8}
    (h : options.PartsBy delimiter) : delimiter.toNat < 128 := by
  rcases h with h | ⟨-, rfl⟩
  · exact Text.lt_of_bytes_eq_singleton h
  · decide

theorem lt_of_isBreak {b : UInt8} (h : isBreak b = true) : b.toNat < 128 := by
  simp only [isBreak, Bool.or_eq_true, decide_eq_true_eq] at h
  rcases h with rfl | rfl <;> decide

section Cutting

variable {delimiter : UInt8} (hdelimiter : delimiter.toNat < 128)
include hdelimiter

/-- A byte from 128 on belongs to the field in every mode. -/
theorem Mode.exists_step_eq_keep {b : UInt8} (hb : 128 ≤ b.toNat) (mode : Mode) :
    ∃ next, mode.step delimiter b = .keep next := by
  have hquote : b ≠ quoteByte := by
    rintro rfl
    exact absurd hb (by decide)
  have hne : b ≠ delimiter := by
    rintro rfl
    exact absurd hb (Nat.not_le.mpr hdelimiter)
  have hbreak : ¬ isBreak b = true := fun h => absurd hb (Nat.not_le.mpr (lt_of_isBreak h))
  cases mode with
  | quoted => exact ⟨.quoted, if_neg hquote⟩
  | _ => exact ⟨.plain, by simp [step, plainStep, hquote, hne, hbreak]⟩

/-- **Bytes from 128 on are all kept**, and the reader goes on behind them in some mode. -/
theorem exists_cut_append {front : List UInt8} (hfront : ∀ b ∈ front, 128 ≤ b.toNat) (mode : Mode)
    (rest : List UInt8) :
    ∃ next, cut delimiter mode (front ++ rest) =
      front.foldr Cut.push (cut delimiter next rest) := by
  induction front generalizing mode with
  | nil => exact ⟨mode, rfl⟩
  | cons b front ih =>
    obtain ⟨hb, hfront⟩ := List.forall_mem_cons.mp hfront
    obtain ⟨inside, hstep⟩ := Mode.exists_step_eq_keep hdelimiter hb mode
    obtain ⟨next, hnext⟩ := ih hfront inside
    refine ⟨next, ?_⟩
    rw [List.cons_append, cut, hstep]
    exact congrArg (Cut.push b) hnext

end Cutting

/-! ## Fields of a text -/

/-- All fields that were cut off are text, and so is the rest. -/
structure Cut.IsText (c : Cut) : Prop where
  field : Text.IsUtf8 c.field
  later : ∀ field ∈ c.later, Text.IsUtf8 field
  rest : Text.IsUtf8 c.rest

namespace Cut

variable {c : Cut}

theorem isText_endRecord {rest : List UInt8} (h : Text.IsUtf8 rest) : IsText ⟨[], [], rest⟩ :=
  ⟨Text.isUtf8_nil, List.forall_mem_nil _, h⟩

theorem IsText.encode (h : c.IsText) (ch : Char) :
    ((String.utf8EncodeChar ch).foldr push c).IsText := by
  rw [foldr_push]
  exact ⟨h.field.encode_append ch, h.later, h.rest⟩

theorem IsText.endField (h : c.IsText) : c.endField.IsText :=
  ⟨Text.isUtf8_nil, List.forall_mem_cons.mpr ⟨h.field, h.later⟩, h.rest⟩

theorem IsText.fields (h : c.IsText) : ∀ field ∈ c.fields, Text.IsUtf8 field :=
  List.forall_mem_cons.mpr ⟨h.field, h.later⟩

end Cut

section Table

variable {delimiter : UInt8} (hdelimiter : delimiter.toNat < 128)
include hdelimiter

/-- **Of a text, the fields of the record and the rest are text**, in whichever mode it is read. -/
theorem isText_cut {input : List UInt8} (h : Text.IsUtf8 input) (mode : Mode) :
    (cut delimiter mode input).IsText := by
  obtain ⟨cs, rfl⟩ := Text.isUtf8_iff_chars.mp h
  clear h
  induction cs generalizing mode with
  | nil => exact Cut.isText_endRecord Text.isUtf8_nil
  | cons c cs ih =>
    rw [List.flatMap_cons]
    by_cases hc : 128 ≤ c.toNat
    · obtain ⟨next, hnext⟩ :=
        exists_cut_append hdelimiter (fun b hb => Text.le_of_mem_encode hc hb) mode _
      rw [hnext]
      exact (ih next).encode c
    · -- The character is one byte, and that may be one of those that end fields and records.
      have hone : c.utf8Size = 1 :=
        Char.utf8Size_eq_one_iff.mpr (Nat.le_of_lt_succ (Nat.not_le.mp hc))
      have hpush : ∀ next, ((cut delimiter next (cs.flatMap String.utf8EncodeChar)).push
          c.val.toUInt8).IsText := by
        intro next
        have hkept := (ih next).encode c
        rwa [String.utf8EncodeChar_eq_singleton hone] at hkept
      rw [String.utf8EncodeChar_eq_singleton hone, List.singleton_append, cut]
      split
      · exact hpush _
      · exact ih _
      · exact (ih _).endField
      · exact Cut.isText_endRecord (Text.isUtf8_iff_chars.mpr ⟨cs, rfl⟩)

/-- **All fields of a text are text.** -/
theorem isUtf8_of_mem_fieldsOf {input : List UInt8} (h : Text.IsUtf8 input) :
    ∀ record ∈ fieldsOf delimiter input, ∀ field ∈ record, Text.IsUtf8 field := by
  -- By induction on the length: behind a record or a line break the input is shorter.
  induction hlength : input.length using Nat.strongRecOn generalizing input with
  | ind n ih =>
    cases input with
    | nil =>
      rw [fieldsOf_nil]
      exact List.forall_mem_nil _
    | cons b input =>
      cases hb : isBreak b with
      | true =>
        rw [fieldsOf_break hb]
        refine ih input.length ?_ (h.tail (lt_of_isBreak hb)) rfl
        rw [← hlength]
        exact Nat.lt_succ_self _
      | false =>
        have hcut := isText_cut hdelimiter h .start
        have hlt := length_rest_cut_lt delimiter .start b input
        rw [hlength] at hlt
        rw [fieldsOf_record hb]
        exact List.forall_mem_cons.mpr ⟨hcut.fields, ih _ hlt hcut.rest rfl⟩

end Table

/-- What stands behind the byte order mark of a text is text. -/
theorem isUtf8_withoutMark {table : List UInt8} (h : Text.IsUtf8 table) :
    Text.IsUtf8 (withoutMark table) := by
  unfold withoutMark
  split
  · rename_i hmark
    have hbytes : Text.bytes "\uFEFF" = byteOrderMark := by decide +kernel
    obtain ⟨rest, rfl⟩ := List.isPrefixOf_iff_prefix.mp hmark
    rw [← hbytes] at h
    rw [List.drop_left]
    exact Text.isUtf8_of_bytes_append h
  · exact h

/-! ## Loading -/

/-- A load that fails reports nothing. -/
theorem load_eq_of_error {options : Options} {table : List UInt8} {failure : Failure}
    (h : (load options table).result = .error failure) :
    load options table = ⟨.error failure, []⟩ := by
  unfold load at h ⊢
  split at h
  · rw [Except.error.inj h]
  · split at h
    · rw [Except.error.inj h]
    · cases h

/-- **A table of text is loaded**, however its quotes and line breaks stand. -/
theorem exists_load_of_isUtf8 {options : Options} {delimiter : UInt8}
    (hdelimiter : options.PartsBy delimiter) {table : List UInt8} (h : Text.IsUtf8 table) :
    ∃ signatures, (load options table).result = .ok signatures := by
  have hfields := isUtf8_of_mem_fieldsOf hdelimiter.lt (isUtf8_withoutMark h)
  obtain ⟨texts, htexts⟩ := forall_isUtf8_iff.mp fun record hrecord =>
    hfields record (List.mem_of_mem_drop hrecord)
  exact ⟨_, load_of_textRows (Options.delimiterByte_eq_ok_iff.mpr hdelimiter)
    (textRows_eq_ok_iff.mpr htexts)⟩

/-- **The column has no part in failure**: with another column a table is loaded as well, or it
fails in the same way. -/
theorem load_column (options : Options) (column : Nat) (table : List UInt8) :
    (∃ signatures others, (load options table).result = .ok signatures ∧
      (load { options with column := column } table).result = .ok others) ∨
    ∃ failure, load options table = ⟨.error failure, []⟩ ∧
      load { options with column := column } table = ⟨.error failure, []⟩ := by
  have hsame : { options with column := column }.delimiterByte = options.delimiterByte := rfl
  cases hdelimiter : options.delimiterByte with
  | error e =>
    exact .inr ⟨_, load_of_delimiterByte_error hdelimiter table,
      load_of_delimiterByte_error (hsame.trans hdelimiter) table⟩
  | ok delimiter =>
    have hother := hsame.trans hdelimiter
    cases htexts : textRows delimiter options.hasHeader table with
    | error e =>
      exact .inr ⟨_, load_of_textRows_error hdelimiter htexts,
        load_of_textRows_error hother htexts⟩
    | ok texts =>
      exact .inl ⟨_, _, load_of_textRows hdelimiter htexts, load_of_textRows hother htexts⟩

/-- **A table is loaded whole or not at all.** If it is UTF-8, it is loaded, whatever stands in it.
Which column is asked for has no part in failure: two loads that differ in it alone both succeed, or
both fail with the same failure and report nothing. What makes a load fail is a field that is not
UTF-8, in any column of any record below the header. So a table that fails with its first record as
the header fails without one. -/
theorem load_allOrNothing {options : Options} {delimiter : UInt8}
    (hdelimiter : options.PartsBy delimiter) (table : List UInt8) :
    (Text.IsUtf8 table → ∃ signatures, (load options table).result = .ok signatures) ∧
    (∀ column,
      (∃ signatures others, (load options table).result = .ok signatures ∧
        (load { options with column := column } table).result = .ok others) ∨
      ∃ failure, load options table = ⟨.error failure, []⟩ ∧
        load { options with column := column } table = ⟨.error failure, []⟩) ∧
    ((∃ failure, load options table = ⟨.error failure, []⟩) ↔
      ∃ record ∈ (fieldsOf delimiter (withoutMark table)).drop (if options.hasHeader then 1 else 0),
        ∃ field ∈ record, ¬ Text.IsUtf8 field) ∧
    ((∃ failure, (load { options with hasHeader := true } table).result = .error failure) →
      ∃ failure, (load { options with hasHeader := false } table).result = .error failure) := by
  have hbyte := Options.delimiterByte_eq_ok_iff.mpr hdelimiter
  have hheader : ∀ hasHeader,
      { options with hasHeader := hasHeader }.delimiterByte = .ok delimiter := fun _ => hbyte
  refine ⟨exists_load_of_isUtf8 hdelimiter, fun column => load_column options column table, ?_, ?_⟩
  · rw [← exists_load_error_iff_field hbyte]
    constructor
    · rintro ⟨failure, hload⟩
      exact ⟨failure, by rw [hload]⟩
    · rintro ⟨failure, hload⟩
      exact ⟨failure, load_eq_of_error hload⟩
  · rw [exists_load_error_iff_field (hheader true), exists_load_error_iff_field (hheader false)]
    rintro ⟨record, hrecord, hfield⟩
    exact ⟨record, List.mem_of_mem_drop hrecord, hfield⟩

/-- A text with a quote that is never closed is loaded. A byte that is not UTF-8 in the second
column fails the load, also where the first column or one that no record has is asked for, and also
without a header. -/
theorem load_allOrNothing_badColumn :
    (∃ signatures, (load ⟨",", true, 1⟩ (Text.bytes "a,\"é\rb\n")).result = .ok signatures) ∧
    (∃ failure,
      load ⟨",", true, 0⟩ (Text.bytes "sig\nL1A," ++ [0xFF]) = ⟨.error failure, []⟩ ∧
      load ⟨",", true, 7⟩ (Text.bytes "sig\nL1A," ++ [0xFF]) = ⟨.error failure, []⟩) ∧
    ∃ failure,
      (load ⟨",", false, 0⟩ (Text.bytes "sig\nL1A," ++ [0xFF])).result = .error failure := by
  have hcomma : Text.bytes "," = [0x2C] := by decide +kernel
  have htable : Text.bytes "sig\nL1A," ++ [0xFF] =
      [0x73, 0x69, 0x67, 0x0A, 0x4C, 0x31, 0x41, 0x2C, 0xFF] := by decide +kernel
  obtain ⟨-, hcolumn, hfails, hheader⟩ :=
    @load_allOrNothing ⟨",", true, 0⟩ 0x2C (.inl hcomma) (Text.bytes "sig\nL1A," ++ [0xFF])
  have hfield : ∃ record ∈ (fieldsOf 0x2C (withoutMark (Text.bytes "sig\nL1A," ++ [0xFF]))).drop 1,
      ∃ field ∈ record, ¬ Text.IsUtf8 field := by
    rw [htable, withoutMark_of_head? (by decide), fieldsOf_record (by decide)]
    have hrest : (cut 0x2C .start [0x73, 0x69, 0x67, 0x0A, 0x4C, 0x31, 0x41, 0x2C, 0xFF]).rest =
        [0x4C, 0x31, 0x41, 0x2C, 0xFF] := by decide
    rw [hrest, fieldsOf_record (by decide)]
    exact ⟨_, List.mem_cons_self, [0xFF], by decide, by decide +kernel⟩
  obtain ⟨failure, hload⟩ := hfails.mpr hfield
  refine ⟨(load_allOrNothing (.inl hcomma) _).1 (Text.isUtf8_iff.mpr ⟨_, rfl⟩),
    ⟨failure, hload, ?_⟩, hheader ⟨failure, congrArg Reported.result hload⟩⟩
  rcases hcolumn 7 with ⟨signatures, -, hok, -⟩ | ⟨other, hother, hseven⟩
  · rw [hload] at hok
    cases hok
  · rw [hload] at hother
    rw [Except.error.inj (congrArg Reported.result hother)]
    exact hseven

end Delimited

end TrickScore
