import TrickScore.Proofs.Batch.Entries
import TrickScore.Proofs.Delimited.Quoted
import TrickScore.Proofs.Json.OneLine
import TrickScore.Proofs.Json.Strings

/-!
# A batch as lines of JSON

A batch that is printed as JSON has a line for each signature. A JSON text holds no line break of
its own, so the lines are found again (`split_lines`), and an entry begins with its signature as a
quoted string, so each line says what its signature was (`BatchEntry.eq_of_toJson_eq`). What is
printed therefore stands for the signatures that were loaded, and for no others.

Headlines:
* `split_lines`: texts without a line feed are found again from their lines.
* `BatchEntry.eq_of_toJson_eq`: entries with the same text are of the same signature.
* `jsonLines_injective`: batches that print the same have the same signatures.
* **`Command.answer_jsonBatch`**: what the program answers where a batch is printed as JSON.
-/

namespace TrickScore

/-! ## Lines -/

/-- **Texts without a line feed are found again from their lines.** -/
theorem split_lines {texts : List String} (h : ∀ text ∈ texts, '\n' ∉ text.toList) :
    Text.split '\n' (String.join (texts.map line)).toList = texts.map String.toList ++ [[]] := by
  have htoList : (String.join (texts.map line)).toList =
      (texts.map String.toList).flatMap fun text => text ++ ['\n'] := by
    rw [String.toList_join, List.flatMap_map, List.flatMap_map]
    refine List.flatMap_congr fun text _ => ?_
    rw [line, String.toList_append]
    rfl
  rw [htoList]
  refine Text.split_flatMap_ended fun chars hchars => ?_
  obtain ⟨text, htext, rfl⟩ := List.mem_map.mp hchars
  exact h text htext

/-- There are as many line feeds as lines. -/
theorem count_feed_lines {texts : List String} (h : ∀ text ∈ texts, '\n' ∉ text.toList) :
    (String.join (texts.map line)).toList.count '\n' = texts.length := by
  have hlength := congrArg List.length (split_lines h)
  rw [Text.length_split, List.length_append, List.length_map, List.length_singleton] at hlength
  exact Nat.succ_inj.mp hlength

/-- Lines that make up the same text are the same. -/
theorem eq_of_join_lines_eq {texts others : List String} (h : ∀ text ∈ texts, '\n' ∉ text.toList)
    (hothers : ∀ text ∈ others, '\n' ∉ text.toList)
    (heq : String.join (texts.map line) = String.join (others.map line)) : texts = others := by
  have hsplit := split_lines h
  rw [heq, split_lines hothers] at hsplit
  exact List.map_injective_iff.mpr (fun _ _ => String.toList_inj.mp)
    (List.append_cancel_right hsplit.symm)

theorem Json.Printable.not_mem_feed {s : String} (h : Printable s) : '\n' ∉ s.toList :=
  fun hmem => absurd (h _ hmem) (by decide)

/-- **No byte of a text on one line is a line break.** -/
theorem Json.Printable.isBreak_eq_false {s : String} (h : Printable s) {b : UInt8}
    (hb : b ∈ Text.bytes s) : Delimited.isBreak b = false := by
  by_contra hbreak
  have hlow : b.toNat < 0x20 := by
    rw [Bool.not_eq_false, Delimited.isBreak, Bool.or_eq_true, decide_eq_true_eq,
      decide_eq_true_eq] at hbreak
    rcases hbreak with rfl | rfl <;> decide
  rw [Text.bytes_eq_flatMap] at hb
  obtain ⟨c, hc, hmem⟩ := List.mem_flatMap.mp hb
  have hnat := (Text.eq_singleton_of_mem_encode hmem (Nat.lt_trans hlow (by decide))).2
  have hle := h c hc
  omega

/-! ## Entries -/

namespace BatchEntry

/-- An entry begins with its signature. -/
theorem exists_toJson_eq (signature : String) :
    ∃ rest, (ofSignature signature).toJson =
      "\x7b\"signature\":" ++ (Json.quote signature ++ rest) := by
  cases h : Sequence.parse signature with
  | ok sequence =>
    rw [ofSignature_of_ok h, toJson_of_ok]
    exact ⟨",\"sequence\":" ++ sequence.toJson ++ "\x7d", by simp only [String.append_assoc]⟩
  | error e =>
    rw [ofSignature_of_error h, toJson_of_error]
    exact ⟨",\"error\":" ++ Json.quote e.message ++ "\x7d", by simp only [String.append_assoc]⟩

/-- **Entries with the same text are of the same signature.** -/
theorem eq_of_toJson_eq {signature other : String}
    (h : (ofSignature signature).toJson = (ofSignature other).toJson) : signature = other := by
  obtain ⟨rest, hsignature⟩ := exists_toJson_eq signature
  obtain ⟨behind, hother⟩ := exists_toJson_eq other
  rw [hsignature, hother] at h
  have hchars := congrArg String.toList h
  simp only [String.toList_append] at hchars
  exact (Json.quote_append_inj (List.append_cancel_left hchars)).1

end BatchEntry

/-! ## What is printed -/

/-- A line of JSON for the entry of each signature. -/
def jsonLines (signatures : List String) : String :=
  String.join (signatures.map fun signature => line (BatchEntry.ofSignature signature).toJson)

theorem jsonLines_eq (signatures : List String) :
    jsonLines signatures =
      String.join
        ((signatures.map fun signature => (BatchEntry.ofSignature signature).toJson).map line) := by
  rw [jsonLines, List.map_map]
  rfl

theorem not_mem_feed_of_mem_entries {signatures : List String} :
    ∀ text ∈ signatures.map fun signature => (BatchEntry.ofSignature signature).toJson,
      '\n' ∉ text.toList := by
  intro text htext
  obtain ⟨signature, -, rfl⟩ := List.mem_map.mp htext
  exact (BatchEntry.printable_toJson _).not_mem_feed

/-- **Batches that print the same have the same signatures.** -/
theorem jsonLines_injective : Function.Injective jsonLines := by
  intro signatures others h
  rw [jsonLines_eq, jsonLines_eq] at h
  have hentries := eq_of_join_lines_eq not_mem_feed_of_mem_entries not_mem_feed_of_mem_entries h
  exact List.map_injective_iff.mpr (fun _ _ => BatchEntry.eq_of_toJson_eq) hentries

/-- The bytes of what is printed hold a line feed for each signature. -/
theorem count_feedByte_jsonLines (signatures : List String) :
    (Text.bytes (jsonLines signatures)).count Delimited.feedByte = signatures.length := by
  have hnat : '\n'.toNat = Delimited.feedByte.toNat := rfl
  rw [Text.count_bytes (by decide) hnat, jsonLines_eq, count_feed_lines not_mem_feed_of_mem_entries,
    List.length_map]

namespace Command

/-- **A batch that is printed as JSON**: the arguments ask for one, and these are the signatures
loaded from its file. -/
def JsonBatch (args : List String) (sources : String → Source) (signatures : List String) : Prop :=
  ∃ precision table file debug content,
    read args = .ok ⟨.batch ⟨.json, precision⟩ table file, debug⟩ ∧
    sources file = .bytes content ∧
    (Delimited.load table content).result = .ok signatures

theorem JsonBatch.answer_eq {args : List String} {sources : String → Source}
    {signatures : List String} (h : JsonBatch args sources signatures)
    (surroundings : Surroundings) :
    (answer args sources surroundings).exitCode = 0 ∧
      (answer args sources surroundings).output = jsonLines signatures ∧
      (answer args sources surroundings).message = none := by
  obtain ⟨precision, table, file, debug, content, hread, hsource, hload⟩ := h
  have hloadSource : (loadSource table (sources file)).result = .ok signatures := by
    rw [hsource, loadSource, hload]
  rw [answer_of_read hread]
  dsimp only [file?, Option.getD]
  rw [run, runBatch_of_ok hloadSource, batchReport, scoreBatch_result, List.map_map]
  exact ⟨rfl, rfl, rfl⟩

/-- **Where a batch is printed as JSON, the program succeeds** and prints a line for each signature
that was loaded, in order. Whatever the signatures hold, there is no line break within a line, so
there are as many line feeds as signatures. What is printed is the same for two batches exactly when
their signatures are, whatever their files, their other arguments and their surroundings. -/
theorem answer_jsonBatch {args : List String} {sources : String → Source}
    {signatures : List String} (h : JsonBatch args sources signatures)
    (surroundings : Surroundings) :
    ((answer args sources surroundings).exitCode = 0 ∧
      (answer args sources surroundings).output =
        String.join
          (signatures.map fun signature => line (BatchEntry.ofSignature signature).toJson) ∧
      (answer args sources surroundings).message = none) ∧
    (∀ signature, ∀ b ∈ Text.bytes (BatchEntry.ofSignature signature).toJson,
      Delimited.isBreak b = false) ∧
    (Text.bytes (answer args sources surroundings).output).count Delimited.feedByte =
      signatures.length ∧
    ∀ {args' : List String} {sources' : String → Source} {surroundings' : Surroundings}
      {others : List String}, JsonBatch args' sources' others →
        ((answer args sources surroundings).output =
          (answer args' sources' surroundings').output ↔ signatures = others) := by
  have houtput := (h.answer_eq surroundings).2.1
  refine ⟨h.answer_eq surroundings, fun signature b hb => ?_, ?_,
    fun {args' sources' surroundings' others} h' => ?_⟩
  · exact (BatchEntry.printable_toJson _).isBreak_eq_false hb
  · rw [houtput]
    exact count_feedByte_jsonLines signatures
  · rw [houtput, (h'.answer_eq surroundings').2.1]
    exact jsonLines_injective.eq_iff

/-- A field with quotes, both line breaks and a backslash is printed on one line, and with other
options it prints the same. -/
theorem answer_jsonBatch_quotedBreaks :
    (Text.bytes (answer ["batch", "-f", "a.csv", "--format=json"] fun _ =>
      .bytes (Delimited.QuotedTable.bytes 0x2C ⟨[], some ["\"L1A\"\r\n\\"]⟩)).output).count
        Delimited.feedByte = 1 ∧
    (answer ["batch", "-f", "a.csv", "--format=json"] fun _ =>
      .bytes (Delimited.QuotedTable.bytes 0x2C ⟨[], some ["\"L1A\"\r\n\\"]⟩)).output =
    (answer ["--debug", "batch", "--precision=7", "--file=b", "--format", "JSON"] fun _ =>
      .bytes (Delimited.QuotedTable.bytes 0x2C ⟨[], some ["\"L1A\"\r\n\\"]⟩)).output := by
  have hcomma : (⟨",", false, 0⟩ : Delimited.Options).delimiterByte = .ok 0x2C := by decide +kernel
  have hload : (Delimited.load ⟨",", false, 0⟩
      (Delimited.QuotedTable.bytes 0x2C ⟨[], some ["\"L1A\"\r\n\\"]⟩)).result =
      .ok ["\"L1A\"\r\n\\"] := by
    rw [Delimited.load_eq_ok_iff hcomma, Delimited.withoutMark_quotedTable 0x2C (by decide),
      Delimited.fieldsOf_quotedTable (by decide) (by decide) (by decide)]
    exact ⟨[["\"L1A\"\r\n\\"]], rfl, by decide +kernel⟩
  have hfirst := @answer_jsonBatch ["batch", "-f", "a.csv", "--format=json"]
    (fun _ => .bytes (Delimited.QuotedTable.bytes 0x2C ⟨[], some ["\"L1A\"\r\n\\"]⟩))
    ["\"L1A\"\r\n\\"] ⟨2, ⟨",", false, 0⟩, "a.csv", false, _, by decide +kernel, rfl, hload⟩ .still
  refine ⟨hfirst.2.2.1, (hfirst.2.2.2 ?_).mpr rfl⟩
  exact ⟨7, ⟨",", false, 0⟩, "b", true, _, by decide +kernel, rfl, hload⟩

end Command

end TrickScore
