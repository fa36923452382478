import TrickScore.Proofs.Delimited.Cut
import TrickScore.Proofs.Delimited.Fields
import TrickScore.Text.Split

/-!
# Quoted tables

A table may be written with every field in quotes and every quote within a field doubled. Whatever a
field holds, quotes, delimiters and line breaks among it, it is then read back: inside quotes only a
quote has a meaning, and no byte of another character is one.

The cut of a record is followed through the modes of the reader: from the opening quote through the
field (`cut_quoted`), from the closing quote to the end of the field (`cut_delimiter`,
`cut_atEnd`), and from field to field (`cut_writtenRow`). What the record leaves of the line break
behind it is skipped before the next one.

Headlines:
* `cut_writtenRow`: a written record is cut into its fields.
* `fieldsOf_quotedTable`: the fields of a written table are those of its rows.
* **`load_quotedTable`**: what is loaded from a written table.
-/

namespace TrickScore.Delimited

/-! ## Writing -/

/-- The characters of a field with every quote written twice. -/
def doubled (cs : List Char) : List Char :=
  cs.flatMap fun c => if c = '"' then ['"', '"'] else [c]

/-- A field in quotes. -/
def quoted (field : String) : String :=
  String.ofList ('"' :: doubled field.toList ++ ['"'])

/-- The bytes of a record with every field in quotes. -/
def writtenRow (delimiter : UInt8) (row : List String) : List UInt8 :=
  Text.join delimiter (row.map fun field => Text.bytes (quoted field))

/-- How a record may end. -/
inductive LineBreak where
  | feed
  | carriageReturn
  | returnFeed

/-- The bytes of a line break. -/
def LineBreak.bytes : LineBreak → List UInt8
  | .feed => [feedByte]
  | .carriageReturn => [returnByte]
  | .returnFeed => [returnByte, feedByte]

/-- Rows to be written, each with the line break behind it, and perhaps a last one with none. -/
structure QuotedTable where
  ended : List (List String × LineBreak)
  last : Option (List String)

namespace QuotedTable

/-- All rows of the table. -/
def rows (table : QuotedTable) : List (List String) :=
  table.ended.map Prod.fst ++ table.last.toList

/-- The table as it is written. -/
def bytes (delimiter : UInt8) (table : QuotedTable) : List UInt8 :=
  (table.ended.flatMap fun (row, lineBreak) => writtenRow delimiter row ++ lineBreak.bytes) ++
    table.last.toList.flatMap (writtenRow delimiter)

end QuotedTable

/-! ## Quotes as bytes -/

/-- Bytes with every quote written twice. -/
def doubledBytes (bs : List UInt8) : List UInt8 :=
  bs.flatMap fun b => if b = quoteByte then [quoteByte, quoteByte] else [b]

theorem doubledBytes_quote (bs : List UInt8) :
    doubledBytes (quoteByte :: bs) = quoteByte :: quoteByte :: doubledBytes bs :=
  rfl

theorem doubledBytes_of_ne {b : UInt8} (h : b ≠ quoteByte) (bs : List UInt8) :
    doubledBytes (b :: bs) = b :: doubledBytes bs := by
  rw [doubledBytes, List.flatMap_cons, if_neg h, List.singleton_append]
  rfl

theorem doubledBytes_of_not_mem {bs : List UInt8} (h : quoteByte ∉ bs) : doubledBytes bs = bs := by
  induction bs with
  | nil => rfl
  | cons b bs ih =>
    simp only [List.mem_cons, not_or] at h
    rw [doubledBytes_of_ne (Ne.symm h.1), ih h.2]

/-- **A quote byte is in the encoding of a quote only.** -/
theorem quoteByte_not_mem_encode {c : Char} (h : c ≠ '"') :
    quoteByte ∉ String.utf8EncodeChar c := by
  intro hmem
  have hnat := (Text.eq_singleton_of_mem_encode hmem (by decide)).2
  exact h (Char.toNat_inj.mp hnat)

/-- Doubling the quotes of a text doubles those of its bytes. -/
theorem flatMap_encode_doubled (cs : List Char) :
    (doubled cs).flatMap String.utf8EncodeChar =
      doubledBytes (cs.flatMap String.utf8EncodeChar) := by
  rw [doubled, doubledBytes, List.flatMap_assoc, List.flatMap_assoc]
  refine List.flatMap_congr fun c _ => ?_
  by_cases hc : c = '"'
  · subst hc
    rfl
  · rw [if_neg hc, List.flatMap_singleton]
    exact (doubledBytes_of_not_mem (quoteByte_not_mem_encode hc)).symm

theorem bytes_quoted (field : String) :
    Text.bytes (quoted field) = quoteByte :: doubledBytes (Text.bytes field) ++ [quoteByte] := by
  rw [Text.bytes_eq_flatMap, quoted, String.toList_ofList, List.flatMap_append, List.flatMap_cons,
    flatMap_encode_doubled, ← Text.bytes_eq_flatMap]
  rfl

/-! ## The steps at quotes and within them -/

/-- A quote at the beginning of a field opens it. -/
theorem cut_start_quote (delimiter : UInt8) (bs : List UInt8) :
    cut delimiter .start (quoteByte :: bs) = cut delimiter .quoted bs := by
  rw [cut, Mode.step, if_pos rfl]

/-- A quote within quotes may close the field. -/
theorem cut_quoted_quote (delimiter : UInt8) (bs : List UInt8) :
    cut delimiter .quoted (quoteByte :: bs) = cut delimiter .closed bs := by
  rw [cut, Mode.step, if_pos rfl]

/-- A second quote stands for one, and the field goes on. -/
theorem cut_closed_quote (delimiter : UInt8) (bs : List UInt8) :
    cut delimiter .closed (quoteByte :: bs) = (cut delimiter .quoted bs).push quoteByte := by
  rw [cut, Mode.step, if_pos rfl]

/-- Nothing but a quote has a meaning within quotes. -/
theorem cut_quoted_of_ne {b : UInt8} (h : b ≠ quoteByte) (delimiter : UInt8) (bs : List UInt8) :
    cut delimiter .quoted (b :: bs) = (cut delimiter .quoted bs).push b := by
  rw [cut, Mode.step, if_neg h]

/-! ## Cutting a written record -/

/-- **Between the quotes, the field is read back**, whatever it holds. -/
theorem cut_quoted (delimiter : UInt8) (bs rest : List UInt8) :
    cut delimiter .quoted (doubledBytes bs ++ quoteByte :: rest) =
      bs.foldr Cut.push (cut delimiter .closed rest) := by
  -- By induction on the field: a doubled quote closes the field and opens it again.
  induction bs with
  | nil => exact cut_quoted_quote delimiter rest
  | cons b bs ih =>
    rw [List.foldr_cons, ← ih]
    by_cases hb : b = quoteByte
    · subst hb
      rw [doubledBytes_quote, List.cons_append, List.cons_append, cut_quoted_quote,
        cut_closed_quote]
    · rw [doubledBytes_of_ne hb, List.cons_append, cut_quoted_of_ne hb]

/-- A field in quotes is cut off up to its closing quote. -/
theorem cut_bytes_quoted (delimiter : UInt8) (field : String) (rest : List UInt8) :
    cut delimiter .start (Text.bytes (quoted field) ++ rest) =
      { cut delimiter .closed rest with
        field := Text.bytes field ++ (cut delimiter .closed rest).field } := by
  rw [bytes_quoted, List.cons_append, List.cons_append, List.append_assoc, List.singleton_append,
    cut_start_quote, cut_quoted, foldr_push]

/-- **A written record is cut into its fields.** Of what is behind it one byte is taken. -/
theorem cut_writtenRow {delimiter : UInt8} (hquote : delimiter ≠ quoteByte)
    (hbreak : isBreak delimiter = false) {rest : List UInt8} (h : AtEnd rest) (first : String)
    (more : List String) :
    cut delimiter .start (writtenRow delimiter (first :: more) ++ rest) =
      ⟨Text.bytes first, more.map Text.bytes, rest.tail⟩ := by
  -- By induction on the fields: the last one is ended by the record, the others by a delimiter.
  induction more generalizing first with
  | nil =>
    rw [writtenRow, List.map_singleton, Text.join_singleton, cut_bytes_quoted,
      cut_atEnd Mode.noConfusion hbreak h, List.append_nil]
    rfl
  | cons second more ih =>
    have hjoin : writtenRow delimiter (first :: second :: more) =
        Text.bytes (quoted first) ++ delimiter :: writtenRow delimiter (second :: more) :=
      Text.join_cons_cons ..
    rw [hjoin, List.append_assoc, List.cons_append, cut_bytes_quoted,
      cut_delimiter Mode.noConfusion hquote, ih]
    simp only [Cut.endField, List.append_nil, List.map_cons]

/-- A written record begins with a quote. -/
theorem writtenRow_eq_cons {row : List String} (hrow : row ≠ []) (delimiter : UInt8) :
    ∃ bs, writtenRow delimiter row = quoteByte :: bs := by
  match row with
  | [field] =>
    rw [writtenRow, List.map_singleton, Text.join_singleton, bytes_quoted]
    exact ⟨_, rfl⟩
  | first :: second :: more =>
    rw [writtenRow, List.map_cons, List.map_cons, Text.join_cons_cons, bytes_quoted]
    exact ⟨_, rfl⟩

/-! ## Reading a written table -/

section Table

variable {delimiter : UInt8} (hquote : delimiter ≠ quoteByte) (hbreak : isBreak delimiter = false)

include hquote hbreak

/-- The fields of a table that begins with a written record. -/
theorem fieldsOf_writtenRow {row : List String} (hrow : row ≠ []) {rest : List UInt8}
    (h : AtEnd rest) :
    fieldsOf delimiter (writtenRow delimiter row ++ rest) =
      row.map Text.bytes :: fieldsOf delimiter rest.tail := by
  cases row with
  | nil => exact absurd rfl hrow
  | cons first more =>
    obtain ⟨bs, hbs⟩ := writtenRow_eq_cons hrow delimiter
    have hcut := cut_writtenRow hquote hbreak h first more
    rw [hbs, List.cons_append] at hcut ⊢
    rw [fieldsOf_record (by decide), hcut]
    rfl

/-- What the record has left of the line break behind it is skipped. -/
theorem fieldsOf_ended {row : List String} (hrow : row ≠ []) (lineBreak : LineBreak)
    (rest : List UInt8) :
    fieldsOf delimiter (writtenRow delimiter row ++ (lineBreak.bytes ++ rest)) =
      row.map Text.bytes :: fieldsOf delimiter rest := by
  have hend : AtEnd (lineBreak.bytes ++ rest) := by
    cases lineBreak <;> simp [AtEnd, LineBreak.bytes, isBreak]
  have htail : fieldsOf delimiter (lineBreak.bytes ++ rest).tail = fieldsOf delimiter rest := by
    cases lineBreak with
    | feed => rfl
    | carriageReturn => rfl
    | returnFeed => exact fieldsOf_break rfl delimiter rest
  rw [fieldsOf_writtenRow hquote hbreak hrow hend, htail]

/-- **The fields of a written table are those of its rows.** -/
theorem fieldsOf_quotedTable {table : QuotedTable} (hrows : ∀ row ∈ table.rows, row ≠ []) :
    fieldsOf delimiter (table.bytes delimiter) =
      table.rows.map fun row => row.map Text.bytes := by
  obtain ⟨ended, last⟩ := table
  -- By induction on the rows with a line break behind them.
  induction ended with
  | nil =>
    cases last with
    | none => exact fieldsOf_nil delimiter
    | some row =>
      have hend : AtEnd [] := by simp [AtEnd]
      have hrow := fieldsOf_writtenRow hquote hbreak (hrows row List.mem_cons_self) hend
      rw [List.append_nil, List.tail_nil, fieldsOf_nil] at hrow
      simpa [QuotedTable.bytes, QuotedTable.rows] using hrow
  | cons first ended ih =>
    obtain ⟨row, lineBreak⟩ := first
    have hrest := ih fun r hr => hrows r (List.mem_cons_of_mem _ hr)
    have hbytes : (QuotedTable.mk ((row, lineBreak) :: ended) last).bytes delimiter =
        writtenRow delimiter row ++
          (lineBreak.bytes ++ (QuotedTable.mk ended last).bytes delimiter) := by
      simp only [QuotedTable.bytes, List.flatMap_cons, List.append_assoc]
    rw [hbytes, fieldsOf_ended hquote hbreak (hrows row List.mem_cons_self), hrest]
    rfl

end Table

/-- A written table has no byte order mark: it begins with a quote, or it is empty. -/
theorem withoutMark_quotedTable (delimiter : UInt8) {table : QuotedTable}
    (hrows : ∀ row ∈ table.rows, row ≠ []) :
    withoutMark (table.bytes delimiter) = table.bytes delimiter := by
  refine withoutMark_of_head? ?_
  match table with
  | ⟨[], none⟩ => simp [QuotedTable.bytes]
  | ⟨[], some row⟩ =>
    obtain ⟨bs, hbs⟩ := writtenRow_eq_cons (hrows row List.mem_cons_self) delimiter
    simp [QuotedTable.bytes, hbs, quoteByte]
  | ⟨(row, lineBreak) :: ended, last⟩ =>
    obtain ⟨bs, hbs⟩ := writtenRow_eq_cons (hrows row List.mem_cons_self) delimiter
    simp [QuotedTable.bytes, hbs, quoteByte]

/-- **What is loaded from a written table** are the trimmed fields of the column, below the header
if there is one and in the order of the rows, but for rows that are too short and for fields that
are blank. What the fields hold does not matter. -/
theorem load_quotedTable {options : Options} {delimiter : UInt8} {table : QuotedTable}
    (hdelimiter : options.PartsBy delimiter) (hquote : delimiter ≠ quoteByte)
    (hbreak : isBreak delimiter = false) (hrows : ∀ row ∈ table.rows, row ≠ []) :
    (load options (table.bytes delimiter)).result =
      .ok ((((table.rows.drop (if options.hasHeader then 1 else 0)).filterMap fun row =>
        row[options.column]?).map Text.trim).filter (· ≠ "")) := by
  have hbelow : textRows delimiter options.hasHeader (table.bytes delimiter) =
      .ok (table.rows.drop (if options.hasHeader then 1 else 0)) := by
    rw [textRows_eq_ok_iff, withoutMark_quotedTable delimiter hrows,
      fieldsOf_quotedTable hquote hbreak hrows, List.map_drop]
  rw [load_of_textRows (Options.delimiterByte_eq_ok_iff.mpr hdelimiter) hbelow,
    filterMap_signatureAt?]

/-- Delimiters, quotes and line breaks within fields, a header, a row that is too short and one that
is blank in the column, and no line break at the end. -/
theorem load_quotedTable_tabs :
    (load ⟨"\\t", true, 1⟩ (QuotedTable.bytes 0x09
      ⟨[(["ride", "\"signature\"\n"], .returnFeed),
        (["a\tb", "\r\n L1\"A\"\tR2B\r"], .carriageReturn), (["short"], .feed),
        (["\"", " \n"], .returnFeed)], some ["", "CO360", "\"\""]⟩)).result =
      .ok ["L1\"A\"\tR2B", "CO360"] :=
  (load_quotedTable (.inr ⟨rfl, rfl⟩) (by decide) (by decide) (by decide)).trans
    (congrArg Except.ok (by decide +kernel))

end TrickScore.Delimited
