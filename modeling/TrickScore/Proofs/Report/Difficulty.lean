import TrickScore.Proofs.Batch.Lines
import TrickScore.Proofs.Decimal.Hundredths
import TrickScore.Proofs.Sequence.TwoDecimals
import TrickScore.Proofs.Text.Table

/-!
# One difficulty in all reports

A difficulty is a number of hundredths, brought to the nearest binary64 number. Tables show it with
two places, from its exact value; JSON has its shortest digits. As long as the total is below
`10 ^ 13`, both are the same number: the hundredths. Where the reports show it is said of what the
commands print, and of a batch by reading the printed table back.

Headlines:
* `exists_hundredths`: a difficulty is the number nearest to some hundredths.
* `agreeingTexts_of_hundredths`: the two texts of hundredths are the same number.
* `blocks_batchReport`: a printed batch has the rows of its table as blocks.
* `Sequence.showDifficulty_of_parse`: where the reports on a signature have these texts.
* **`Sequence.parse_difficulty_agrees`**: all reports on a signature show the same number.
-/

namespace TrickScore

open Binary64 (ofNat Representable representable_of_le unitsPerOne)
open Decimal (Hundredths)

/-! ## Difficulties are hundredths -/

/-- **A difficulty is the number nearest to some hundredths**: the total taken a hundred times and
rounded to an integer. -/
theorem exists_hundredths {total : Binary64} (hunsigned : total.IsUnsigned)
    (hlt : total < ofNat (10 ^ 13)) :
    ∃ k m, roundDifficulty total = .ofFraction k 100 ∧
      Binary64.ofFraction k 100 = .finite false m ∧ Hundredths k m := by
  have hbound : Representable (10 ^ 13) := representable_of_le (by decide)
  have hscale : Representable (10 ^ 13 * 100) := representable_of_le (by decide)
  obtain ⟨t, rfl⟩ := hunsigned
  have hle : t.units ≤ 10 ^ 13 * unitsPerOne :=
    Nat.le_of_lt ((Binary64.finite_lt_ofNat_iff hbound).mp hlt)
  obtain ⟨-, m, -, -, hdifficulty, hm⟩ := roundDifficulty_finite hbound hscale false hle
  have hfraction : Binary64.ofFraction (hundredths t.units) 100 = .finite false m :=
    Binary64.ofQuotient_eq_finite_iff.mpr hm.symm
  refine ⟨hundredths t.units, m, hdifficulty.trans hfraction.symm, hfraction, hm.symm, ?_⟩
  rw [hm]
  exact difficultyUnits_le hscale hle hbound

/-! ## Where the reports show it -/

namespace Sequence

/-- The table of a signature ends with its difficulty, the tricks and the bonuses. -/
theorem report_table (precision : Nat) (signature : String) (sequence : Sequence) :
    ∃ before, sequence.report ⟨.table, precision⟩ signature =
      before ++ "Difficulty: " ++ sequence.difficultyText ++ "  (" ++
        Decimal.text sequence.length ++ " tricks, " ++ Decimal.text sequence.bonusCount ++
        " bonuses)\n" := by
  refine ⟨"\n" ++ line ("Signature: " ++ signature) ++ (sequence.table precision).render, ?_⟩
  simp only [report, line, String.append_assoc]
  rfl

/-- The JSON text of a signature ends with its difficulty. -/
theorem report_json (precision : Nat) (signature : String) (sequence : Sequence) :
    ∃ before, sequence.report ⟨.json, precision⟩ signature =
      before ++ Json.member "difficulty" (Json.number sequence.difficulty) ++ "\x7d\n" := by
  refine ⟨"\x7b" ++ Json.member "tricks" (Json.array (sequence.tricks.map Trick.toJson)) ++ ",", ?_⟩
  simp only [report, line, toJson, Json.object, List.map_cons, List.map_nil, String.append_assoc,
    String.intercalate_cons_cons, String.intercalate_singleton]
  rfl

end Sequence

/-- The row of a scored signature in a batch. -/
theorem BatchEntry.row_of_ok {signature : String} {sequence : Sequence}
    (h : Sequence.parse signature = .ok sequence) :
    (ofSignature signature).row =
      signature :: [Decimal.text sequence.length, Decimal.text sequence.bonusCount] ++
        [sequence.difficultyText] := by
  rw [ofSignature_of_ok h]
  rfl

/-- **A printed batch has the rows of its table as blocks**, the headings first. -/
theorem blocks_batchReport (entries : List BatchEntry) :
    Text.blocks (batchReport .table entries) =
      [[], "=== BATCH SUMMARY ===".toList] ::
        (batchTable entries).rows.map (Text.Table.rowLines (batchTable entries).columns) ++
          [[[]]] := by
  have htitle : "\n" ++ line "=== BATCH SUMMARY ===" =
      String.ofList ([[], "=== BATCH SUMMARY ===".toList].flatMap fun line => line ++ ['\n']) := by
    decide
  rw [batchReport, htitle]
  exact Text.Table.blocks_append_render (by decide) (by decide) (List.cons_ne_nil _ _)
    (List.cons_ne_nil _ _)

/-- A row of a batch whose last cell is one word reads as its signature and that word. -/
theorem readsAs_batchTable (entries : List BatchEntry) {first tricks bonuses last : String}
    (htricks : '\n' ∉ tricks.toList) (hbonuses : '\n' ∉ bonuses.toList)
    (hlast : ∀ c ∈ last.toList, Text.isBlank c = false ∧ c ≠ '|') :
    Text.ReadsAs (Text.Table.rowLines (batchTable entries).columns [first, tricks, bonuses, last])
      first last := by
  obtain ⟨width, between, final, hcolumns, hlength⟩ : ∃ width between final,
      (batchTable entries).columns = (.left, width) :: between ++ [final] ∧ between.length = 2 :=
    ⟨_, [_, _], _, rfl, rfl⟩
  rw [hcolumns]
  refine Text.Table.readsAs_rowLines [tricks, bonuses] hlength ?_ hlast
  simpa using ⟨htricks, hbonuses⟩

/-- The block behind the title of a printed batch reads as its headings. -/
theorem exists_heading_batchReport (entries : List BatchEntry) :
    ∃ heading, (Text.blocks (batchReport .table entries))[1]? = some heading ∧
      Text.ReadsAs heading "Signature" "Difficulty" := by
  have hword : ∀ c ∈ "Difficulty".toList, Text.isBlank c = false ∧ c ≠ '|' :=
    List.forall_iff_forall_mem.mp (by decide)
  rw [blocks_batchReport]
  exact ⟨_, rfl, readsAs_batchTable entries (by decide) (by decide) hword⟩

/-- The block of a signature reads as the signature and its difficulty. -/
theorem exists_row_batchReport {signatures : List String} {signature : String}
    {sequence : Sequence} {number : Nat} (hsignature : signatures[number]? = some signature)
    (h : Sequence.parse signature = .ok sequence)
    (hword : ∀ c ∈ sequence.difficultyText.toList, Text.isBlank c = false ∧ c ≠ '|') :
    ∃ row, (Text.blocks (batchReport .table (scoreBatch signatures).result))[number + 2]? =
        some row ∧ Text.ReadsAs row signature sequence.difficultyText := by
  have hrow : ((scoreBatch signatures).result.map BatchEntry.row)[number]? =
      some (BatchEntry.ofSignature signature).row := by
    rw [scoreBatch_result, List.getElem?_map, List.getElem?_map, hsignature]
    rfl
  rw [BatchEntry.row_of_ok h] at hrow
  have hlt := (List.getElem?_eq_some_iff.mp hrow).1
  refine ⟨_, ?_, readsAs_batchTable (scoreBatch signatures).result
    (Json.printable_decimalText sequence.length).not_mem_feed
    (Json.printable_decimalText sequence.bonusCount).not_mem_feed hword⟩
  rw [blocks_batchReport, List.cons_append, List.getElem?_cons_succ, batchTable, List.map_cons,
    List.cons_append, List.getElem?_cons_succ, List.getElem?_append_left (by simpa using hlt),
    List.getElem?_map, hrow]
  rfl

/-! ## The same number everywhere -/

/-- **Two texts of a difficulty that are the same number**, one as tables show it and one as JSON
has it. -/
structure AgreeingTexts (difficulty : Binary64) (k : Nat) (shown json : String) : Prop where
  /-- The difficulty is the binary64 number nearest to the hundredths. -/
  nearest : difficulty = .ofFraction k 100
  /-- Tables show the exact value with two places, a half going to the even digit. -/
  shown_eq : shown = Decimal.fixed 2 difficulty
  /-- JSON has the shortest digits. -/
  json_eq : json = Json.number difficulty
  shown_value : Decimal.value? shown.toList = some (mkRat k 100)
  json_value : Decimal.value? json.toList = some (mkRat k 100)
  /-- JSON has one place or two: `.0` where the number is whole, and else no more than it takes to
  tell the difficulty. -/
  places : ∃ whole places, json.toList = whole ++ '.' :: places ∧
    (places.length = 1 ∨ places.length = 2) ∧ ((mkRat k 100).isInt = true → places = ['0']) ∧
    ∀ fewer < places.length, ∀ j, Binary64.ofFraction j (10 ^ fewer) = difficulty → places = ['0']

/-- Hundredths that their nearest number tells have such texts. -/
theorem agreeingTexts_of_hundredths {k : Nat} {m : Magnitude} (h : Hundredths k m)
    (hm : Binary64.ofFraction k 100 = .finite false m) :
    AgreeingTexts (.ofFraction k 100) k (Decimal.fixed 2 (.ofFraction k 100))
      (Json.number (.ofFraction k 100)) := by
  obtain ⟨hvalue, whole, places, htext, hlength, hwhole, hfewer⟩ := h.number_eq
  rw [← hm] at hvalue htext
  refine ⟨rfl, rfl, rfl, ?_, hvalue, whole, places, htext, hlength, fun hint => ?_, ?_⟩
  · rw [hm]
    exact h.value?_fixed
  · exact hwhole (Decimal.dvd_of_isInt (by decide) hint)
  · intro fewer hlt j hj
    rw [hm] at hj
    exact hfewer fewer hlt j (Binary64.ofQuotient_eq_finite_iff.mp hj)

/-- **Where the reports on a scored signature show its difficulty.** -/
structure ShowDifficulty (signature : String) (sequence : Sequence) (shown json : String) :
    Prop where
  /-- The report on the signature as a table ends with it, as far as the precision of the scores
  above it can be printed: up to 65535 places. -/
  scoreTable : ∀ precision, ∃ before, (Command.runScore ⟨.table, precision⟩ [signature]).output =
    before ++ "Difficulty: " ++ shown ++ "  (" ++ Decimal.text sequence.length ++ " tricks, " ++
      Decimal.text sequence.bonusCount ++ " bonuses)\n"
  /-- The report on the signature as JSON ends with it. -/
  scoreJson : ∀ precision, ∃ before, (Command.runScore ⟨.json, precision⟩ [signature]).output =
    before ++ Json.member "difficulty" json ++ "\x7d\n"
  /-- Every batch with the signature that is printed as a table has a block for its row, behind the
  title and the headings. It begins with the signature, line by line, and ends with the difficulty,
  under its heading. -/
  batch : ∀ (surroundings : Command.Surroundings) (precision : Nat) (table : Delimited.Options)
    (source : Command.Source) (signatures : List String) (number : Nat),
    (Command.loadSource table source).result = .ok signatures →
    signatures[number]? = some signature →
    ∃ heading row,
      (Text.blocks
        (Command.runBatch surroundings ⟨.table, precision⟩ table source).output)[1]? =
          some heading ∧
      Text.ReadsAs heading "Signature" "Difficulty" ∧
      (Text.blocks
        (Command.runBatch surroundings ⟨.table, precision⟩ table source).output)[number + 2]? =
          some row ∧
      Text.ReadsAs row signature shown

namespace Sequence

variable {signature : String} {sequence : Sequence}

/-- A table shows a difficulty as one word of digits and a point. -/
theorem isWord_difficultyText {m : Magnitude} (h : sequence.difficulty = .finite false m) :
    ∀ c ∈ sequence.difficultyText.toList, Text.isBlank c = false ∧ c ≠ '|' := by
  rw [difficultyText, h, Decimal.fixed, String.toList_ofList, if_neg (by decide), List.nil_append]
  intro c hmem
  rcases Decimal.isDigit_or_point_of_mem_withPlaces hmem with hdigit | rfl
  · exact ⟨Text.isBlank_of_isDigit hdigit, by rintro rfl; exact absurd hdigit (by decide)⟩
  · decide

theorem showDifficulty_of_parse (h : parse signature = .ok sequence) {m : Magnitude}
    (hm : sequence.difficulty = .finite false m) :
    ShowDifficulty signature sequence sequence.difficultyText
      (Json.number sequence.difficulty) where
  scoreTable precision := by
    rw [Command.runScore_singleton h]
    exact report_table precision signature sequence
  scoreJson precision := by
    rw [Command.runScore_singleton h]
    exact report_json precision signature sequence
  batch surroundings precision table source signatures number hload hsignature := by
    obtain ⟨heading, hheading, hreads⟩ := exists_heading_batchReport (scoreBatch signatures).result
    obtain ⟨row, hrow, hshown⟩ := exists_row_batchReport hsignature h (isWord_difficultyText hm)
    rw [Command.runBatch_of_ok hload]
    exact ⟨heading, row, hheading, hreads, hrow, hshown⟩

/-- The difficulty of a scored signature is its rounded total, and that is a number. -/
theorem difficulty_of_parse (h : parse signature = .ok sequence) :
    sequence.difficulty = roundDifficulty (total sequence.tricks) ∧
      (total sequence.tricks).IsUnsigned := by
  obtain ⟨tokens, -, htokens⟩ := exists_scan_of_parse h
  obtain ⟨tricks, hresolve, rfl⟩ := ofTokens_eq_ok_iff.mp htokens
  exact ⟨rfl, (atMost_total fun trick hmem => atMost_score hresolve hmem).isUnsigned⟩

/-- **All reports on a signature show the same number**, as long as its total is below `10 ^ 13`.
The table of the signature and that of any batch with it show the difficulty with two places, its
JSON text has the shortest digits, and both denote the hundredths to which the difficulty is the
nearest binary64 number. -/
theorem parse_difficulty_agrees (h : parse signature = .ok sequence)
    (hlt : total sequence.tricks < ofNat (10 ^ 13)) :
    ∃ (k : Nat) (shown json : String), AgreeingTexts sequence.difficulty k shown json ∧
      ShowDifficulty signature sequence shown json := by
  obtain ⟨hrounded, hunsigned⟩ := difficulty_of_parse h
  obtain ⟨k, m, hfraction, hm, hhundredths⟩ := exists_hundredths hunsigned hlt
  have hdifficulty : sequence.difficulty = .ofFraction k 100 := hrounded.trans hfraction
  have htexts := agreeingTexts_of_hundredths hhundredths hm
  rw [← hdifficulty] at htexts
  exact ⟨k, _, _, htexts, showDifficulty_of_parse h (hdifficulty.trans hm)⟩

/-- A 360 and a cash roll with its bonus, by itself and as the second signature of a file. -/
theorem parse_difficulty_agrees_cashRoll :
    ∃ sequence k, parse "L4B-R3A" = .ok sequence ∧ total sequence.tricks < ofNat (10 ^ 13) ∧
      AgreeingTexts sequence.difficulty k "10.80" "10.8" ∧
      ShowDifficulty "L4B-R3A" sequence "10.80" "10.8" ∧
      ∃ row, (Text.blocks (Command.runBatch .still ⟨.table, 2⟩ ⟨",", false, 0⟩
        (.bytes (Text.bytes "L|1A\nL4B-R3A\n"))).output)[3]? = some row ∧
        Text.ReadsAs row "L4B-R3A" "10.80" := by
  have hscan : Token.scan "L4B-R3A" = .ok [⟨'L', 4, 'B'⟩, ⟨'R', 3, 'A'⟩] := by
    rw [Token.scan, Lexeme.scan_eq_filterMap]
    rfl
  have hparse : parse "L4B-R3A" = .ok (ofTricks [.scored .threeSixty 4 .b none,
      .scored .cashRoll 3 .a (some .cashRollAfter360)]) :=
    (parse_of_scan_ok hscan).trans (ofTokens_eq_ok_iff.mpr ⟨_, rfl, rfl⟩)
  have hlt : total (ofTricks [.scored .threeSixty 4 .b none,
      .scored .cashRoll 3 .a (some .cashRollAfter360)]).tricks < ofNat (10 ^ 13) := by
    decide +kernel
  have hload : (Command.loadSource ⟨",", false, 0⟩ (.bytes (Text.bytes "L|1A\nL4B-R3A\n"))).result =
      .ok ["L|1A", "L4B-R3A"] := by decide +kernel
  obtain ⟨k, shown, json, htexts, hshow⟩ := parse_difficulty_agrees hparse hlt
  have hshown : shown = "10.80" := htexts.shown_eq.trans (by decide +kernel)
  have hjson : json = "10.8" := htexts.json_eq.trans (by decide +kernel)
  subst hshown hjson
  obtain ⟨heading, row, -, -, hrow⟩ := hshow.batch .still 2 _ _ _ 1 hload rfl
  exact ⟨_, k, hparse, hlt, htexts, hshow, row, hrow⟩

end Sequence

end TrickScore
