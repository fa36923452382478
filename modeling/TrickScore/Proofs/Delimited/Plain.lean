import TrickScore.Proofs.Delimited.Cut
import TrickScore.Proofs.Delimited.Quoted

/-!
# Tables without quotes

Where no quote stands in a table, the reader does no more than cut it at every line break and each
line at every delimiter. Lines without a byte are no records, so it does not matter which line
breaks part the lines, how many stand between two of them, or whether one stands at the end.

Everything follows from two equations with a line in front of an arbitrary rest that may end a
record: what `cut` makes of the line (`fields_cut_line`) and what the naive lines are
(`lines_line`).
The induction over the table is on its length, a line or a line break at a time.

Headlines:
* `fieldsOf_plain`: the fields of a table without quotes are its lines, split at the delimiter.
* `lines_bytes`: of lines laid out with any line breaks, those with a byte are found again.
* **`load_plainTable`**: what is loaded from a table without quotes, when it fails, and that its
  layout does not matter.
-/

namespace TrickScore.Delimited

/-! ## Lines -/

/-- What stands between the line breaks of a text, but for nothing. -/
def lines (input : List UInt8) : List (List UInt8) :=
  (input.splitOnP isBreak).filter (· ≠ [])

theorem lines_nil : lines [] = [] := by
  simp [lines, List.splitOnP_nil]

/-- A line break parts the lines before it from those behind it. -/
theorem lines_append_break {b : UInt8} (h : isBreak b = true) (front rest : List UInt8) :
    lines (front ++ b :: rest) = lines front ++ lines rest := by
  rw [lines, List.splitOnP_append_cons front rest h, List.filter_append]
  rfl

theorem lines_break {b : UInt8} (h : isBreak b = true) (rest : List UInt8) :
    lines (b :: rest) = lines rest := by
  have happend := lines_append_break h [] rest
  rwa [lines_nil] at happend

/-- Bytes without a line break are a line, if there are any. -/
theorem lines_of_no_break {line : List UInt8} (h : ∀ b ∈ line, isBreak b = false) :
    lines line = [line].filter (· ≠ []) := by
  rw [lines, List.splitOnP_eq_singleton h]

/-- Every text begins with a line, which may be empty, and its rest may end a record. -/
theorem exists_line (input : List UInt8) :
    ∃ line rest, line ++ rest = input ∧ (∀ b ∈ line, isBreak b = false) ∧ AtEnd rest := by
  induction input with
  | nil => exact ⟨[], [], rfl, by simp, by simp [AtEnd]⟩
  | cons b input ih =>
    cases hb : isBreak b with
    | true => exact ⟨[], b :: input, rfl, by simp, by simpa [AtEnd] using hb⟩
    | false =>
      obtain ⟨line, rest, rfl, hline, hend⟩ := ih
      exact ⟨b :: line, rest, rfl, List.forall_mem_cons.mpr ⟨hb, hline⟩, hend⟩

/-- **A line in front is the first of the lines.** -/
theorem lines_line {line rest : List UInt8} (hne : line ≠ [])
    (hline : ∀ b ∈ line, isBreak b = false)
    (h : AtEnd rest) : lines (line ++ rest) = line :: lines rest.tail := by
  have hfirst : lines line = [line] := by
    rw [lines_of_no_break hline]
    simp [hne]
  cases rest with
  | nil => rw [List.append_nil, hfirst, List.tail_nil, lines_nil]
  | cons b rest => rw [lines_append_break (h b rfl), hfirst, List.tail_cons, List.singleton_append]

/-! ## Reading a line -/

/-- **A line without quotes is cut into what stands between its delimiters.** -/
theorem fields_cut_line {delimiter : UInt8} (hbreak : isBreak delimiter = false) {mode : Mode}
    (hmode : mode ≠ .quoted) {line rest : List UInt8} (hquote : quoteByte ∉ line)
    (hline : ∀ b ∈ line, isBreak b = false) (h : AtEnd rest) :
    (cut delimiter mode (line ++ rest)).fields = Text.split delimiter line ∧
      (cut delimiter mode (line ++ rest)).rest = rest.tail := by
  -- By induction on the line: a delimiter begins a field, any other byte belongs to one.
  induction line generalizing mode with
  | nil =>
    rw [List.nil_append, cut_atEnd hmode hbreak h]
    exact ⟨rfl, rfl⟩
  | cons b line ih =>
    simp only [List.mem_cons, not_or, forall_eq_or_imp] at hquote hline
    have hb : b ≠ quoteByte := Ne.symm hquote.1
    rw [List.cons_append, Text.split]
    by_cases hdelimiter : b = delimiter
    · subst hdelimiter
      obtain ⟨hfields, hrest⟩ := @ih .start Mode.noConfusion hquote.2 hline.2
      rw [if_pos rfl, cut_delimiter hmode hb]
      exact ⟨congrArg ([] :: ·) hfields, hrest⟩
    · obtain ⟨hfields, hrest⟩ := @ih .plain Mode.noConfusion hquote.2 hline.2
      rw [if_neg hdelimiter, cut_field hmode hb hdelimiter hline.1]
      exact ⟨congrArg (List.modifyHead (b :: ·)) hfields, hrest⟩

/-- A line in front is the first record. -/
theorem fieldsOf_line {delimiter : UInt8} (hbreak : isBreak delimiter = false)
    {line rest : List UInt8} (hne : line ≠ []) (hquote : quoteByte ∉ line)
    (hline : ∀ b ∈ line, isBreak b = false) (h : AtEnd rest) :
    fieldsOf delimiter (line ++ rest) =
      Text.split delimiter line :: fieldsOf delimiter rest.tail := by
  have hmode : Mode.start ≠ .quoted := Mode.noConfusion
  obtain ⟨hfields, hrest⟩ := fields_cut_line hbreak hmode hquote hline h
  cases line with
  | nil => exact absurd rfl hne
  | cons b line =>
    rw [List.cons_append] at hfields hrest ⊢
    rw [fieldsOf_record (hline b List.mem_cons_self), hfields, hrest]

/-- **The fields of a table without quotes are its lines, split at the delimiter.** -/
theorem fieldsOf_plain {delimiter : UInt8} (hbreak : isBreak delimiter = false)
    {input : List UInt8} (hquote : quoteByte ∉ input) :
    fieldsOf delimiter input = (lines input).map (Text.split delimiter) := by
  induction hlength : input.length using Nat.strongRecOn generalizing input with
  | ind n ih =>
    obtain ⟨line, rest, rfl, hline, hend⟩ := exists_line input
    rw [List.mem_append, not_or] at hquote
    rw [List.length_append] at hlength
    -- Behind the line stands nothing, or a line break and a shorter table.
    have htail : fieldsOf delimiter rest.tail = (lines rest.tail).map (Text.split delimiter) := by
      cases rest with
      | nil => rw [List.tail_nil, fieldsOf_nil, lines_nil, List.map_nil]
      | cons b rest =>
        rw [List.length_cons] at hlength
        exact ih rest.length (by omega) (fun hmem => hquote.2 (List.mem_cons_of_mem b hmem)) rfl
    by_cases hne : line = []
    · subst hne
      cases rest with
      | nil => exact htail
      | cons b rest =>
        have hb : isBreak b = true := hend b rfl
        rw [List.nil_append, fieldsOf_break hb, lines_break hb]
        exact htail
    · rw [fieldsOf_line hbreak hne hquote.1 hline hend, lines_line hne hline hend, htail,
        List.map_cons]

/-! ## Loading -/

/-- A table from behind the bytes EF BB BF, if it begins with them. -/
def behindMark : List UInt8 → List UInt8
  | 0xEF :: 0xBB :: 0xBF :: table => table
  | table => table

/-- The mark that is dropped is these bytes, once and at the very start. -/
theorem withoutMark_eq_behindMark (table : List UInt8) : withoutMark table = behindMark table := by
  unfold behindMark
  split
  · rfl
  · rename_i hnone
    rw [withoutMark, if_neg]
    intro hmark
    obtain ⟨rest, rfl⟩ := List.isPrefixOf_iff_prefix.mp hmark
    exact hnone rest rfl

/-- The fields of each line of a table that is looked at: of all but the header. -/
def plainRecords (delimiter : UInt8) (hasHeader : Bool) (table : List UInt8) :
    List (List (List UInt8)) :=
  ((lines (behindMark table)).drop (if hasHeader then 1 else 0)).map (Text.split delimiter)

/-- Dropping the byte order mark adds no quote. -/
theorem quoteByte_not_mem_behindMark {table : List UInt8} (h : quoteByte ∉ table) :
    quoteByte ∉ behindMark table := by
  rw [← withoutMark_eq_behindMark, withoutMark]
  split
  · exact fun hmem => h (List.mem_of_mem_drop hmem)
  · exact h

/-- The fields that are read are those of the lines. -/
theorem drop_fieldsOf_plain {delimiter : UInt8} (hbreak : isBreak delimiter = false)
    {table : List UInt8} (hquote : quoteByte ∉ behindMark table) (hasHeader : Bool) :
    (fieldsOf delimiter (withoutMark table)).drop (if hasHeader then 1 else 0) =
      plainRecords delimiter hasHeader table := by
  rw [withoutMark_eq_behindMark, fieldsOf_plain hbreak hquote, plainRecords, List.map_drop]

/-- Tables without quotes that have the same lines load the same signatures, if any. -/
theorem load_congr_lines {options : Options} {delimiter : UInt8}
    (hdelimiter : options.PartsBy delimiter) (hbreak : isBreak delimiter = false)
    {table other : List UInt8} (htable : quoteByte ∉ behindMark table)
    (hother : quoteByte ∉ behindMark other)
    (hlines : lines (behindMark table) = lines (behindMark other)) (signatures : List String) :
    (load options table).result = .ok signatures ↔
      (load options other).result = .ok signatures := by
  have hbyte := Options.delimiterByte_eq_ok_iff.mpr hdelimiter
  rw [load_eq_ok_iff hbyte, load_eq_ok_iff hbyte, drop_fieldsOf_plain hbreak htable,
    drop_fieldsOf_plain hbreak hother, plainRecords, plainRecords, hlines]

/-! ## Layout -/

/-- Lines laid out with a line break behind each, and a last one with none. Any line may be
empty. -/
structure LinedTable where
  ended : List (List UInt8 × LineBreak)
  last : List UInt8

namespace LinedTable

/-- All lines, the empty ones among them. -/
def all (laid : LinedTable) : List (List UInt8) :=
  laid.ended.map Prod.fst ++ [laid.last]

/-- The lines with a byte. -/
def filled (laid : LinedTable) : List (List UInt8) :=
  laid.all.filter (· ≠ [])

/-- The table as it is laid out. -/
def bytes (laid : LinedTable) : List UInt8 :=
  (laid.ended.flatMap fun (line, lineBreak) => line ++ lineBreak.bytes) ++ laid.last

/-- No line holds a line break or a quote. -/
def Plain (laid : LinedTable) : Prop :=
  ∀ line ∈ laid.all, ∀ b ∈ line, isBreak b = false ∧ b ≠ quoteByte

instance (laid : LinedTable) : Decidable laid.Plain :=
  inferInstanceAs (Decidable (∀ line ∈ laid.all, ∀ b ∈ line, isBreak b = false ∧ b ≠ quoteByte))

end LinedTable

/-- Whichever line break stands behind a line, it parts the line from the rest. -/
theorem lines_append_lineBreak (line : List UInt8) (lineBreak : LineBreak) (rest : List UInt8) :
    lines (line ++ (lineBreak.bytes ++ rest)) = lines line ++ lines rest := by
  cases lineBreak with
  | feed => exact lines_append_break rfl line rest
  | carriageReturn => exact lines_append_break rfl line rest
  | returnFeed =>
    rw [← lines_break (b := feedByte) rfl rest]
    exact lines_append_break rfl line (feedByte :: rest)

/-- **Of lines laid out with any line breaks, those with a byte are found again.** -/
theorem lines_bytes {laid : LinedTable} (h : laid.Plain) : lines laid.bytes = laid.filled := by
  obtain ⟨ended, last⟩ := laid
  induction ended with
  | nil =>
    exact lines_of_no_break fun b hb => (h last List.mem_cons_self b hb).1
  | cons first ended ih =>
    obtain ⟨line, lineBreak⟩ := first
    have hrest := ih fun l hl => h l (List.mem_cons_of_mem _ hl)
    have hbytes : (LinedTable.mk ((line, lineBreak) :: ended) last).bytes =
        line ++ (lineBreak.bytes ++ (LinedTable.mk ended last).bytes) := by
      simp only [LinedTable.bytes, List.flatMap_cons, List.append_assoc]
    rw [hbytes, lines_append_lineBreak, hrest,
      lines_of_no_break fun b hb => (h line List.mem_cons_self b hb).1, LinedTable.filled,
      ← List.filter_append]
    rfl

theorem quoteByte_not_mem_bytes {laid : LinedTable} (h : laid.Plain) :
    quoteByte ∉ laid.bytes := by
  intro hmem
  rcases List.mem_append.mp hmem with hmem | hmem
  · obtain ⟨⟨line, lineBreak⟩, hline, hmem⟩ := List.mem_flatMap.mp hmem
    rcases List.mem_append.mp hmem with hmem | hmem
    · exact (h line (List.mem_append_left _ (List.mem_map_of_mem hline)) _ hmem).2 rfl
    · cases lineBreak <;> revert hmem <;> decide
  · exact (h laid.last (List.mem_append_right _ List.mem_cons_self) _ hmem).2 rfl

/-- **A table without quotes is read by cutting it at line breaks and delimiters.** If all fields
of its lines are UTF-8, the trimmed fields of the column are loaded, below the header if there is
one and in the order of the lines, but for lines that are too short and fields that are blank. If a
field in any column is not, nothing is. Which line breaks part the lines, whether one stands at the
end, and where further ones stand among the lines makes no difference. -/
theorem load_plainTable {options : Options} {delimiter : UInt8} {table : List UInt8}
    (hdelimiter : options.PartsBy delimiter) (hbreak : isBreak delimiter = false)
    (hquote : quoteByte ∉ table) :
    ((∀ record ∈ plainRecords delimiter options.hasHeader table, ∀ field ∈ record,
        Text.IsUtf8 field) →
      ∃ texts : List (List String),
        plainRecords delimiter options.hasHeader table =
          texts.map (fun record => record.map Text.bytes) ∧
        (load options table).result = .ok (((texts.filterMap fun record =>
          record[options.column]?).map Text.trim).filter (· ≠ ""))) ∧
    ((∃ record ∈ plainRecords delimiter options.hasHeader table, ∃ field ∈ record,
        ¬ Text.IsUtf8 field) →
      ∃ position bad, (load options table).result = .error (.table (.notText position bad))) ∧
    ∀ (laid again : LinedTable) (other : List UInt8), laid.Plain → again.Plain →
      laid.filled = again.filled → behindMark table = laid.bytes →
      behindMark other = again.bytes → ∀ signatures,
        (load options table).result = .ok signatures ↔
          (load options other).result = .ok signatures := by
  have hbyte := Options.delimiterByte_eq_ok_iff.mpr hdelimiter
  have hread := drop_fieldsOf_plain hbreak (quoteByte_not_mem_behindMark hquote) options.hasHeader
  refine ⟨fun hutf8 => ?_, fun hbad => ?_, ?_⟩
  · obtain ⟨texts, htexts⟩ := forall_isUtf8_iff.mp hutf8
    refine ⟨texts, htexts, ?_⟩
    rw [load_eq_ok_iff hbyte, hread, ← filterMap_signatureAt?]
    exact ⟨texts, htexts, rfl⟩
  · rw [← hread] at hbad
    exact load_of_not_isUtf8 hbyte hbad
  · intro laid again other hlaid hagain hfilled htable hother signatures
    refine load_congr_lines hdelimiter hbreak (quoteByte_not_mem_behindMark hquote) ?_ ?_ _
    · rw [hother]
      exact quoteByte_not_mem_bytes hagain
    · rw [htable, hother, lines_bytes hlaid, lines_bytes hagain, hfilled]

/-- A byte order mark before a signature, all three line breaks, lines without a byte, a blank field
and no line break at the end. The same lines without the mark and with a line feed behind each load
the same. Below a header a line that is too short is passed over. A byte that is not UTF-8 fails the
load, though it stands in another column. -/
theorem load_plainTable_mixedBreaks :
    (load ⟨",", false, 0⟩ (Text.bytes "\uFEFFL1A\r\n\n,a\r R2B ,x")).result =
      .ok ["L1A", "R2B"] ∧
    (load ⟨",", false, 0⟩ (Text.bytes "L1A\n,a\n R2B ,x\n")).result = .ok ["L1A", "R2B"] ∧
    (load ⟨",", true, 1⟩ (Text.bytes "ride,sig\r\rb\na,L1A")).result = .ok ["L1A"] ∧
    ∃ position bad, (load ⟨",", false, 0⟩ (Text.bytes "L1A," ++ [0xFF])).result =
      .error (.table (.notText position bad)) := by
  have hcomma : Text.bytes "," = [0x2C] := by decide +kernel
  have hmarked := @load_plainTable ⟨",", false, 0⟩ 0x2C
    (Text.bytes "\uFEFFL1A\r\n\n,a\r R2B ,x") (.inl hcomma) rfl (by decide +kernel)
  have hheaded := @load_plainTable ⟨",", true, 1⟩ 0x2C (Text.bytes "ride,sig\r\rb\na,L1A")
    (.inl hcomma) rfl (by decide +kernel)
  have hbad := @load_plainTable ⟨",", false, 0⟩ 0x2C (Text.bytes "L1A," ++ [0xFF]) (.inl hcomma) rfl
    (by decide +kernel)
  have htexts_inj := List.map_injective_iff.mpr (List.map_injective_iff.mpr Text.bytes_injective)
  have hfirst : (load ⟨",", false, 0⟩ (Text.bytes "\uFEFFL1A\r\n\n,a\r R2B ,x")).result =
      .ok ["L1A", "R2B"] := by
    have hrecords : plainRecords 0x2C false (Text.bytes "\uFEFFL1A\r\n\n,a\r R2B ,x") =
        [["L1A"], ["", "a"], [" R2B ", "x"]].map fun record => record.map Text.bytes := by
      decide +kernel
    obtain ⟨texts, htexts, hload⟩ := hmarked.1 (forall_isUtf8_iff.mpr ⟨_, hrecords⟩)
    obtain rfl := htexts_inj (hrecords.symm.trans htexts)
    exact hload.trans (congrArg Except.ok (by decide +kernel))
  refine ⟨hfirst, ?_, ?_, hbad.2.1 ?_⟩
  · refine (hmarked.2.2
      ⟨[(Text.bytes "L1A", .returnFeed), ([], .feed), (Text.bytes ",a", .carriageReturn)],
        Text.bytes " R2B ,x"⟩
      ⟨[(Text.bytes "L1A", .feed), (Text.bytes ",a", .feed), (Text.bytes " R2B ,x", .feed)], []⟩
      (Text.bytes "L1A\n,a\n R2B ,x\n") ?_ ?_ ?_ ?_ ?_ _).mp hfirst
    all_goals decide +kernel
  · have hrecords : plainRecords 0x2C true (Text.bytes "ride,sig\r\rb\na,L1A") =
        [["b"], ["a", "L1A"]].map fun record => record.map Text.bytes := by
      decide +kernel
    obtain ⟨texts, htexts, hload⟩ := hheaded.1 (forall_isUtf8_iff.mpr ⟨_, hrecords⟩)
    obtain rfl := htexts_inj (hrecords.symm.trans htexts)
    exact hload.trans (congrArg Except.ok (by decide +kernel))
  · exact ⟨[Text.bytes "L1A", [0xFF]], by decide +kernel, [0xFF], by decide +kernel,
      by decide +kernel⟩

end TrickScore.Delimited
