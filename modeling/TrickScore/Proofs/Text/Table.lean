import Mathlib.Data.List.Forall2
import TrickScore.Text.Blank
import TrickScore.Text.Table

/-!
# Reading a drawn table

A printed table is read back from its lines alone. The lines across it part the others into blocks,
and these are the rows: whatever the cells of a row hold, a blank stands behind the edge of each of
its lines, where a line across has a dash. Within a block the first cell stands behind the edge,
line by line, and a last cell of one line stands on the first line, between the last two bars.

Headlines:
* `splitOnP_join`: what separators part is found again by them.
* **`Table.blocks_append_render`**: the blocks of what is printed are the rows of the table.
* **`Table.readsAs_rowLines`**: a row reads as its first and its last cell.
-/

namespace TrickScore.Text

/-! ## The reader -/

/-- A line across a table begins with a cross, or with a bar and a dash. -/
def isRule : List Char → Bool
  | '+' :: _ => true
  | '|' :: '-' :: _ => true
  | _ => false

/-- The lines of what is printed in blocks, parted by the lines across. -/
def blocks (printed : String) : List (List (List Char)) :=
  (split '\n' printed.toList).splitOnP isRule

/-- What stands between the last two bars of a line, trimmed. -/
def lastCell? (line : List Char) : Option (List Char) :=
  ((split '|' line).dropLast.getLast?).map trimmed

/-- **A block reads as a row that begins with one cell and ends with another.** -/
structure ReadsAs (block : List (List Char)) (first last : String) : Prop where
  /-- There is a line for each line of the first cell, which stands behind the edge with nothing but
  blanks before the next bar. -/
  first_lines : List.Forall₂
    (fun line drawn =>
      ∃ blanks, '|' :: ' ' :: line ++ List.replicate (blanks + 1) ' ' ++ ['|'] <+: drawn)
    (split '\n' first.toList) block
  /-- The last cell stands on the first line, before the last bar. -/
  last_cell : ∃ drawn more, block = drawn :: more ∧ lastCell? drawn = some last.toList

/-! ## Blocks -/

/-- **What separators part is found again by them.** -/
theorem splitOnP_join {α : Type} {p : α → Bool} {separator : α} {pieces : List (List α)}
    (hseparator : p separator = true) (hne : pieces ≠ [])
    (hpieces : ∀ piece ∈ pieces, ∀ x ∈ piece, p x = false) :
    (join separator pieces).splitOnP p = pieces := by
  induction pieces with
  | nil => exact absurd rfl hne
  | cons piece pieces ih =>
    have hpiece := List.splitOnP_eq_singleton (hpieces piece List.mem_cons_self)
    cases pieces with
    | nil => rw [join_singleton, hpiece]
    | cons second more =>
      rw [join_cons_cons, List.splitOnP_append_cons _ _ hseparator, hpiece,
        ih (List.cons_ne_nil second more) fun p hp => hpieces p (List.mem_cons_of_mem _ hp)]
      rfl

/-- What holds of the edge, of the separator and within all pieces holds throughout the pieces,
joined and between two edges. -/
theorem forall_mem_framed {α : Type} {P : α → Prop} {edge separator : α} {pieces : List (List α)}
    (hedge : P edge) (hseparator : P separator) (hpieces : ∀ piece ∈ pieces, ∀ x ∈ piece, P x) :
    ∀ x ∈ edge :: join separator pieces ++ [edge], P x := by
  intro x hx
  simp only [List.cons_append, List.mem_cons, List.mem_append, List.not_mem_nil, or_false] at hx
  rcases hx with rfl | hjoin | rfl
  · exact hedge
  · rcases of_mem_join hjoin with rfl | ⟨piece, hpiece, hmem⟩
    · exact hseparator
    · exact hpieces piece hpiece x hmem
  · exact hedge

/-- A line in its column has blanks on both sides. -/
theorem exists_padLine_eq (alignment : Alignment) (columns : Nat) (line : List Char) :
    ∃ before after, padLine alignment columns line =
      ' ' :: List.replicate before ' ' ++ line ++ List.replicate (after + 1) ' ' := by
  cases alignment with
  | left =>
    refine ⟨0, columns - width line, ?_⟩
    rw [padLine, List.replicate_succ']
    simp
  | right =>
    refine ⟨columns - width line, 0, ?_⟩
    rw [padLine]
    simp

theorem newline_not_mem_padLine {alignment : Alignment} {columns : Nat} {line : List Char}
    (h : '\n' ∉ line) : '\n' ∉ padLine alignment columns line := by
  obtain ⟨before, after, heq⟩ := exists_padLine_eq alignment columns line
  rw [heq]
  simp [h]

namespace Table

variable {table : Table} {columns : List (Alignment × Nat)}

theorem isRule_rule_outer (columns : List (Alignment × Nat)) : isRule (rule '+' columns) = true :=
  rfl

theorem isRule_rule_inner (hcolumns : columns ≠ []) : isRule (rule '|' columns) = true := by
  obtain ⟨⟨alignment, width⟩, more, rfl⟩ := List.exists_cons_of_ne_nil hcolumns
  cases more with
  | nil =>
    rw [rule, List.map_singleton, join_singleton]
    rfl
  | cons second more =>
    rw [rule, List.map_cons, List.map_cons, join_cons_cons]
    rfl

/-- **No line of a row begins like a line across.** -/
theorem isRule_rowLine (columns : List (Alignment × Nat)) (cells : List (List (List Char)))
    (number : Nat) : isRule (rowLine columns cells number) = false := by
  rw [rowLine]
  cases columns with
  | nil => rfl
  | cons column columns =>
    cases cells with
    | nil => rfl
    | cons lines cells =>
      obtain ⟨before, after, heq⟩ := exists_padLine_eq column.1 column.2 (lines.getD number [])
      rw [List.zipWith_cons_cons, heq]
      cases List.zipWith (fun column lines => padLine column.1 column.2 (lines.getD number []))
          columns cells with
      | nil =>
        rw [join_singleton]
        rfl
      | cons second more =>
        rw [join_cons_cons]
        rfl

/-- No character of a line across is a line break. -/
theorem newline_not_mem_rule {edge : Char} (hedge : edge ≠ '\n')
    (columns : List (Alignment × Nat)) : '\n' ∉ rule edge columns := by
  intro hmem
  refine forall_mem_framed (P := (· ≠ '\n')) hedge (by decide) ?_ '\n' hmem rfl
  intro piece hpiece c hc
  obtain ⟨column, -, rfl⟩ := List.mem_map.mp hpiece
  rw [List.eq_of_mem_replicate hc]
  decide

theorem newline_not_mem_rowLine (columns : List (Alignment × Nat)) (row : List String)
    (number : Nat) : '\n' ∉ rowLine columns (row.map cellLines) number := by
  intro hmem
  refine forall_mem_framed (P := (· ≠ '\n')) (by decide) (by decide) ?_ '\n' hmem rfl
  intro piece hpiece c hc
  rw [← List.map_uncurry_zip_eq_zipWith] at hpiece
  obtain ⟨⟨column, lines⟩, hentry, rfl⟩ := List.mem_map.mp hpiece
  obtain ⟨cell, -, rfl⟩ := List.mem_map.mp (List.of_mem_zip hentry).2
  -- The line of a cell is one of its pieces, or empty below them.
  have hline : '\n' ∉ (cellLines cell).getD number [] := by
    rw [List.getD_eq_getElem?_getD]
    cases hline : (cellLines cell)[number]? with
    | none => exact List.not_mem_nil
    | some line => exact not_mem_of_mem_split (List.mem_of_getElem? hline)
  rintro rfl
  exact newline_not_mem_padLine hline hc

theorem newline_not_mem_lines (table : Table) : ∀ line ∈ table.lines, '\n' ∉ line := by
  refine forall_mem_framed (P := ('\n' ∉ ·)) (newline_not_mem_rule (by decide) _)
    (newline_not_mem_rule (by decide) _) ?_
  intro drawn hdrawn line hline
  obtain ⟨row, -, rfl⟩ := List.mem_map.mp hdrawn
  obtain ⟨number, -, rfl⟩ := List.mem_map.mp hline
  exact newline_not_mem_rowLine _ _ _

/-- **The blocks of what is printed are the rows of the table**, between what stands before the
table and what stands behind it. -/
theorem blocks_append_render {before : List (List Char)} (hbreaks : ∀ line ∈ before, '\n' ∉ line)
    (hrules : ∀ line ∈ before, isRule line = false) (hcolumns : table.columns ≠ [])
    (hrows : table.rows ≠ []) :
    blocks (String.ofList (before.flatMap fun line => line ++ ['\n']) ++ table.render) =
      before :: table.rows.map (rowLines table.columns) ++ [[[]]] := by
  have hlines : split '\n'
      (String.ofList (before.flatMap fun line => line ++ ['\n']) ++ table.render).toList =
        before ++ (table.lines ++ [[]]) := by
    rw [render, String.toList_append, String.toList_ofList, String.toList_ofList,
      ← List.flatMap_append, split_flatMap_ended, List.append_assoc]
    intro line hline
    rcases List.mem_append.mp hline with hbefore | htable
    · exact hbreaks line hbefore
    · exact newline_not_mem_lines table line htable
  have hblocks : (join (rule '|' table.columns) (table.rows.map (rowLines table.columns))).splitOnP
      isRule = table.rows.map (rowLines table.columns) := by
    refine splitOnP_join (isRule_rule_inner hcolumns) (by simpa using hrows) ?_
    intro drawn hdrawn line hline
    obtain ⟨row, -, rfl⟩ := List.mem_map.mp hdrawn
    obtain ⟨number, -, rfl⟩ := List.mem_map.mp hline
    exact isRule_rowLine _ _ _
  -- The outer lines cut off what stands before and behind, the inner ones the rows.
  rw [blocks, hlines, lines, List.cons_append, List.cons_append,
    List.splitOnP_append_cons _ _ (isRule_rule_outer _), List.splitOnP_eq_singleton hrules,
    List.append_assoc, List.singleton_append, List.singleton_append,
    List.splitOnP_append_cons _ _ (isRule_rule_outer _), ← join, hblocks]
  rfl

/-! ## Rows -/

/-- A row is as high as its first cell, where the others have one line. -/
theorem height_eq {first : List (List Char)} {others : List (List (List Char))}
    (hfirst : first ≠ []) (hothers : ∀ lines ∈ others, lines.length = 1) :
    (first :: others).foldl (fun height lines => max height lines.length) 1 = first.length := by
  have hpos : 1 ≤ first.length := List.length_pos_iff.mpr hfirst
  have hrest : ∀ height, 1 ≤ height →
      others.foldl (fun height lines => max height lines.length) height = height := by
    induction others with
    | nil => exact fun _ _ => rfl
    | cons lines others ih =>
      intro height hheight
      rw [List.foldl_cons, hothers lines List.mem_cons_self, Nat.max_eq_left hheight]
      exact ih (fun l hl => hothers l (List.mem_cons_of_mem _ hl)) height hheight
  rw [List.foldl_cons, Nat.max_eq_right hpos, hrest _ hpos]

section Row

variable (width : Nat) (last : Alignment × Nat) {between : List (Alignment × Nat)}
  (firstLines lastLines : List (List Char)) {betweenLines : List (List (List Char))}

/-- A line of a row begins with its first cell and ends with its last one. -/
theorem exists_rowLine_eq (hlength : between.length = betweenLines.length) (number : Nat) :
    ∃ middle : List (List Char),
      rowLine ((.left, width) :: between ++ [last]) (firstLines :: betweenLines ++ [lastLines])
          number =
        '|' :: padLine .left width (firstLines.getD number []) ++
          (middle.flatMap fun piece => '|' :: piece) ++
          '|' :: (padLine last.1 last.2 (lastLines.getD number []) ++ ['|']) := by
  refine ⟨List.zipWith (fun column lines => padLine column.1 column.2 (lines.getD number []))
    between betweenLines, ?_⟩
  have hpieces : List.zipWith (fun column lines => padLine column.1 column.2 (lines.getD number []))
      (between ++ [last]) (betweenLines ++ [lastLines]) = _ := List.zipWith_append hlength
  rw [rowLine, List.cons_append (a := (Alignment.left, width)), List.cons_append (a := firstLines),
    List.zipWith_cons_cons, hpieces, cons_join _ (List.cons_ne_nil _ _), List.flatMap_cons,
    List.flatMap_append]
  simp

/-- The first cell of a line stands behind the edge, with nothing but blanks before the next bar. -/
theorem isPrefix_rowLine (hlength : between.length = betweenLines.length) (number : Nat) :
    ∃ blanks,
      '|' :: ' ' :: firstLines.getD number [] ++ List.replicate (blanks + 1) ' ' ++ ['|'] <+:
        rowLine ((.left, width) :: between ++ [last]) (firstLines :: betweenLines ++ [lastLines])
          number := by
  obtain ⟨middle, heq⟩ := exists_rowLine_eq width last firstLines lastLines hlength number
  -- A bar follows the first cell, whether there are others between it and the last one or not.
  obtain ⟨behind, hbehind⟩ : ∃ behind, (middle.flatMap fun piece => '|' :: piece) ++
      '|' :: (padLine last.1 last.2 (lastLines.getD number []) ++ ['|']) = '|' :: behind := by
    cases middle with
    | nil => exact ⟨_, rfl⟩
    | cons piece middle => exact ⟨_, rfl⟩
  refine ⟨width - Text.width (firstLines.getD number []), behind, ?_⟩
  rw [heq, List.append_assoc _ (middle.flatMap _), hbehind, padLine, List.replicate_succ']
  simp

/-- The last cell of a line is what stands before its last bar. -/
theorem lastCell?_rowLine (hlength : between.length = betweenLines.length) {number : Nat}
    (h : ∀ c ∈ lastLines.getD number [], isBlank c = false ∧ c ≠ '|') :
    lastCell? (rowLine ((.left, width) :: between ++ [last])
      (firstLines :: betweenLines ++ [lastLines]) number) = some (lastLines.getD number []) := by
  obtain ⟨middle, heq⟩ := exists_rowLine_eq width last firstLines lastLines hlength number
  obtain ⟨before, after, hpad⟩ := exists_padLine_eq last.1 last.2 (lastLines.getD number [])
  have hblank : ∀ count, ∀ b ∈ List.replicate count ' ', isBlank b = true := by
    intro count b hb
    rw [List.eq_of_mem_replicate hb]
    rfl
  have hbar : '|' ∉ padLine last.1 last.2 (lastLines.getD number []) := by
    rw [hpad]
    simp only [List.cons_append, List.mem_cons, List.mem_append, List.mem_replicate]
    rintro (hspace | (⟨-, hspace⟩ | hcell) | ⟨-, hspace⟩)
    · exact absurd hspace (by decide)
    · exact absurd hspace (by decide)
    · exact (h _ hcell).2 rfl
    · exact absurd hspace (by decide)
  rw [lastCell?, heq, split_append, split_append_cons hbar, split,
    List.dropLast_append_cons, List.dropLast_cons_cons, List.dropLast_singleton,
    List.getLast?_append, List.getLast?_singleton, Option.some_or, Option.map_some, hpad,
    ← List.replicate_succ,
    trimmed_append (hblank _) (fun c hc => (h c hc).1) (hblank _)]

end Row

/-- **A row reads as its first and its last cell**, if all but the first have one line and the last
one holds neither blanks nor bars. -/
theorem readsAs_rowLines {width : Nat} {last : Alignment × Nat} {between : List (Alignment × Nat)}
    {first cell : String} (others : List String) (hlength : between.length = others.length)
    (hothers : ∀ other ∈ others, '\n' ∉ other.toList)
    (hcell : ∀ c ∈ cell.toList, isBlank c = false ∧ c ≠ '|') :
    ReadsAs (rowLines ((.left, width) :: between ++ [last]) (first :: others ++ [cell])) first
      cell := by
  have hcellLines : cellLines cell = [cell.toList] :=
    split_of_not_mem fun hbreak => absurd (hcell _ hbreak).1 (by decide)
  have hlines : rowLines ((.left, width) :: between ++ [last]) (first :: others ++ [cell]) =
      (List.range (cellLines first).length).map (rowLine ((.left, width) :: between ++ [last])
        (cellLines first :: others.map cellLines ++ [[cell.toList]])) := by
    have hfirst : cellLines first ≠ [] := split_ne_nil _ _
    have hone : ∀ lines ∈ others.map cellLines ++ [[cell.toList]], lines.length = 1 := by
      simp only [List.mem_append, List.mem_map, List.mem_singleton]
      rintro lines (⟨other, hother, rfl⟩ | rfl)
      · rw [cellLines, split_of_not_mem (hothers other hother)]
        rfl
      · rfl
    rw [rowLines, List.map_append, List.map_cons, List.map_singleton, hcellLines,
      List.cons_append (a := cellLines first), height_eq hfirst hone]
  have hlength' : between.length = (others.map cellLines).length := by rw [hlength, List.length_map]
  rw [hlines]
  refine ⟨List.forall₂_of_length_eq_of_get (by simp [cellLines]) fun i hi hi' => ?_, ?_⟩
  · have hline : (cellLines first).getD i [] = (split '\n' first.toList).get ⟨i, hi⟩ := by
      simp [cellLines, hi]
    have hprefix := isPrefix_rowLine width last (cellLines first) [cell.toList] hlength' i
    rw [hline] at hprefix
    simpa using hprefix
  · obtain ⟨count, hcount⟩ : ∃ count, (cellLines first).length = count + 1 :=
      Nat.exists_eq_succ_of_ne_zero (mt List.length_eq_zero_iff.mp (split_ne_nil _ _))
    rw [hcount, List.range_succ_eq_map, List.map_cons]
    exact ⟨_, _, rfl, lastCell?_rowLine width last _ [cell.toList] hlength' hcell⟩

end Table

end TrickScore.Text
