import TrickScore.Proofs.Ride.Calendar

/-!
# The grammar of ride logs

A ride log is read from four parts with a hyphen between each two: eight digits that name a day, and
three texts without a hyphen that are not blank. Everything else is refused.

Between cutting a text at its hyphens and reading the parts stands `RideLog.ofParts`: what is read
depends on the text through its parts only (`parse_of_split`, `parse_of_count_ne`).

Headlines:
* `RideLog.parse_eq_ok_iff`: a ride is read from its own parts, joined by hyphens.
* **`RideLog.parse_accepts_grammar`**: the texts that are read are those of the grammar, each in the
  one way in which it can be cut into parts.
-/

namespace TrickScore

/-! ## Blank texts -/

namespace Text

theorem isBlankText_eq_false_iff {s : String} :
    isBlankText s = false ↔ ∃ c ∈ s.toList, isBlank c = false :=
  List.all_eq_false.trans (by simp only [Bool.not_eq_true])

end Text

/-- A text that may be a part of a ride log: no hyphen stands in it, and something that is not
blank does. -/
structure IsPart (text : String) : Prop where
  hyphen_not_mem : '-' ∉ text.toList
  not_blank : ∃ c ∈ text.toList, Text.isBlank c = false

instance (text : String) : Decidable (IsPart text) :=
  decidable_of_iff ('-' ∉ text.toList ∧ Text.isBlankText text = false)
    ⟨fun h => ⟨h.1, Text.isBlankText_eq_false_iff.mp h.2⟩,
      fun h => ⟨h.hyphen_not_mem, Text.isBlankText_eq_false_iff.mpr h.not_blank⟩⟩

/-- No part is found blank iff none is. -/
theorem firstBlank?_eq_none_iff {start finish route : String} :
    firstBlank? start.toList finish.toList route.toList = none ↔
      Text.isBlankText start = false ∧ Text.isBlankText finish = false ∧
        Text.isBlankText route = false := by
  simp [firstBlank?, Text.isBlankText]

/-- The part is blank, and none that is written before it is. -/
def FirstBlank (start finish route : String) : RideField → Prop
  | .start => Text.isBlankText start = true
  | .finish => Text.isBlankText start = false ∧ Text.isBlankText finish = true
  | .route =>
    Text.isBlankText start = false ∧ Text.isBlankText finish = false ∧
      Text.isBlankText route = true

/-- **The part that is found blank is the first that is.** -/
theorem firstBlank?_eq_some_iff {start finish route : String} {field : RideField} :
    firstBlank? start.toList finish.toList route.toList = some field ↔
      FirstBlank start finish route field := by
  change [(RideField.start, Text.isBlankText start), (.finish, Text.isBlankText finish),
    (.route, Text.isBlankText route)].findSome? (fun (field, blank) =>
      if blank then some field else none) = some field ↔ _
  cases hstart : Text.isBlankText start with
  | true => cases field <;> simp [FirstBlank, hstart]
  | false =>
    cases hfinish : Text.isBlankText finish with
    | true => cases field <;> simp [FirstBlank, hstart, hfinish]
    | false => cases field <;> simp [FirstBlank, hstart, hfinish]

namespace RideLog

/-! ## From parts -/

/-- The ride that four parts describe, or the first thing that is wrong with them. -/
def ofParts (written start finish route : List Char) : Except RideError RideLog := do
  let date ← readDate written
  match firstBlank? start finish route with
  | some field => .error (.blankField field)
  | none => .ok ⟨date, String.ofList start, String.ofList finish, String.ofList route⟩

theorem ofParts_of_error {written : List Char} {e : RideError} (h : readDate written = .error e)
    (start finish route : List Char) : ofParts written start finish route = .error e := by
  rw [ofParts, h]
  rfl

theorem ofParts_of_ok {written : List Char} {date : Date} (h : readDate written = .ok date)
    (start finish route : List Char) :
    ofParts written start finish route =
      match firstBlank? start finish route with
      | some field => .error (.blankField field)
      | none => .ok ⟨date, String.ofList start, String.ofList finish, String.ofList route⟩ := by
  rw [ofParts, h]
  rfl

/-- **Four parts describe the ride** whose date is read from the first, unless one of the others is
blank. -/
theorem ofParts_eq_ok_iff {written start finish route : List Char} {log : RideLog} :
    ofParts written start finish route = .ok log ↔
      readDate written = .ok log.date ∧ firstBlank? start finish route = none ∧
        log.start.toList = start ∧ log.finish.toList = finish ∧ log.route.toList = route := by
  cases hdate : readDate written with
  | error e =>
    rw [ofParts_of_error hdate]
    simp
  | ok date =>
    rw [ofParts_of_ok hdate]
    cases hblank : firstBlank? start finish route with
    | some field => simp
    | none =>
      constructor
      · intro h
        obtain rfl := Except.ok.inj h
        exact ⟨rfl, rfl, String.toList_ofList, String.toList_ofList, String.toList_ofList⟩
      · rintro ⟨hd, -, rfl, rfl, rfl⟩
        obtain rfl := Except.ok.inj hd
        simp only [String.ofList_toList]

/-! ## From the text -/

/-- A text with a hyphen in it is not blank. -/
theorem isBlankText_of_hyphen_mem {signature : String} (h : '-' ∈ signature.toList) :
    Text.isBlankText signature = false :=
  Text.isBlankText_eq_false_iff.mpr ⟨'-', h, by decide⟩

/-- A text of four parts has three hyphens. -/
theorem count_of_split {signature : String} {written start finish route : List Char}
    (h : Text.split '-' signature.toList = [written, start, finish, route]) :
    signature.toList.count '-' = 3 := by
  have hlength := Text.length_split '-' signature.toList
  rw [h] at hlength
  exact (Nat.succ.inj hlength).symm

/-- **A text of four parts is read from them.** -/
theorem parse_of_split {signature : String} {written start finish route : List Char}
    (h : Text.split '-' signature.toList = [written, start, finish, route]) :
    parse signature = ofParts written start finish route := by
  have hcount := count_of_split h
  have hmem : '-' ∈ signature.toList := List.count_pos_iff.mp (by omega)
  rw [parse, isBlankText_of_hyphen_mem hmem, h]
  rfl

/-- **A text of more or fewer parts has not the shape of a ride log.** -/
theorem parse_of_count_ne {signature : String} (hblank : Text.isBlankText signature = false)
    (h : signature.toList.count '-' ≠ 3) : parse signature = .error .shape := by
  have hlength := Text.length_split '-' signature.toList
  rw [parse, hblank]
  split
  · rename_i hfalse
    cases hfalse
  · split
    · rename_i hsplit
      rw [hsplit] at hlength
      exact absurd (Nat.succ.inj hlength).symm h
    · rfl

/-- Three hyphens make four parts. -/
theorem exists_split_of_count {signature : String} (h : signature.toList.count '-' = 3) :
    ∃ written start finish route,
      Text.split '-' signature.toList = [written, start, finish, route] := by
  have hlength := Text.length_split '-' signature.toList
  rw [h] at hlength
  match hsplit : Text.split '-' signature.toList with
  | [written, start, finish, route] => exact ⟨written, start, finish, route, rfl⟩
  | [] | [_] | [_, _] | [_, _, _] | _ :: _ :: _ :: _ :: _ :: _ => simp [hsplit] at hlength

/-- A date that is read holds no hyphen. -/
theorem hyphen_not_mem_of_readDate {written : List Char} {date : Date}
    (h : readDate written = .ok date) : '-' ∉ written :=
  (readDate_eq_ok_iff_writtenAs.mp h).1.hyphen_not_mem

/-- **A ride is read from its own parts**, joined by hyphens, with a date that is read as its
date. -/
theorem parse_eq_ok_iff {signature : String} {log : RideLog} :
    parse signature = .ok log ↔
      ∃ written, readDate written = .ok log.date ∧
        IsPart log.start ∧ IsPart log.finish ∧ IsPart log.route ∧
        Text.join '-' [written, log.start.toList, log.finish.toList, log.route.toList] =
          signature.toList := by
  constructor
  · intro h
    have hblank : Text.isBlankText signature = false := by
      rw [← Bool.not_eq_true]
      intro hblank
      rw [parse, if_pos hblank] at h
      cases h
    by_cases hcount : signature.toList.count '-' = 3
    · obtain ⟨written, start, finish, route, hsplit⟩ := exists_split_of_count hcount
      rw [parse_of_split hsplit, ofParts_eq_ok_iff] at h
      obtain ⟨hdate, hnone, rfl, rfl, rfl⟩ := h
      obtain ⟨hstart, hfinish, hroute⟩ := firstBlank?_eq_none_iff.mp hnone
      obtain ⟨hjoin, hpieces⟩ := (Text.split_eq_iff (by simp)).mp hsplit
      exact ⟨written, hdate,
        ⟨hpieces _ (by simp), Text.isBlankText_eq_false_iff.mp hstart⟩,
        ⟨hpieces _ (by simp), Text.isBlankText_eq_false_iff.mp hfinish⟩,
        ⟨hpieces _ (by simp), Text.isBlankText_eq_false_iff.mp hroute⟩, hjoin⟩
    · rw [parse_of_count_ne hblank hcount] at h
      cases h
  · rintro ⟨written, hdate, hstart, hfinish, hroute, hjoin⟩
    have hpieces : ∀ piece ∈ [written, log.start.toList, log.finish.toList, log.route.toList],
        '-' ∉ piece := by
      simp only [List.forall_mem_cons]
      exact ⟨hyphen_not_mem_of_readDate hdate, hstart.hyphen_not_mem, hfinish.hyphen_not_mem,
        hroute.hyphen_not_mem, by simp⟩
    rw [parse_of_split ((Text.split_eq_iff (by simp)).mpr ⟨hjoin, hpieces⟩), ofParts_eq_ok_iff,
      firstBlank?_eq_none_iff]
    exact ⟨hdate, ⟨Text.isBlankText_eq_false_iff.mpr hstart.not_blank,
      Text.isBlankText_eq_false_iff.mpr hfinish.not_blank,
      Text.isBlankText_eq_false_iff.mpr hroute.not_blank⟩, rfl, rfl, rfl⟩

end RideLog

/-! ## The grammar -/

/-- Four parts of a ride log, as they are written. -/
@[ext] structure RideParts where
  date : String
  start : String
  finish : String
  route : String

namespace RideParts

/-- The parts with a hyphen between each two. -/
def text (parts : RideParts) : String :=
  parts.date ++ "-" ++ parts.start ++ "-" ++ parts.finish ++ "-" ++ parts.route

/-- **The grammar**: eight digits that name a day, and three texts without a hyphen that are not
blank. -/
structure WellFormed (parts : RideParts) : Prop where
  date : NamesDay parts.date.toList
  start : IsPart parts.start
  finish : IsPart parts.finish
  route : IsPart parts.route

/-- The ride has the day that the digits denote, and the other parts as they stand. -/
structure Describes (parts : RideParts) (log : RideLog) : Prop where
  date : log.date.WrittenAs parts.date.toList
  start : log.start = parts.start
  finish : log.finish = parts.finish
  route : log.route = parts.route

theorem toList_text (parts : RideParts) :
    parts.text.toList =
      Text.join '-'
        [parts.date.toList, parts.start.toList, parts.finish.toList, parts.route.toList] := by
  simp [text, Text.join, List.intercalate]

/-- Parts without a hyphen are found in their text. -/
theorem split_text_of_not_mem {parts : RideParts} (hdate : '-' ∉ parts.date.toList)
    (hstart : '-' ∉ parts.start.toList) (hfinish : '-' ∉ parts.finish.toList)
    (hroute : '-' ∉ parts.route.toList) :
    Text.split '-' parts.text.toList =
      [parts.date.toList, parts.start.toList, parts.finish.toList, parts.route.toList] := by
  rw [toList_text]
  refine Text.split_join (by simp) ?_
  simp only [List.forall_mem_cons]
  exact ⟨hdate, hstart, hfinish, hroute, by simp⟩

/-- Parts of the grammar hold no hyphen. -/
theorem WellFormed.split_text {parts : RideParts} (h : parts.WellFormed) :
    Text.split '-' parts.text.toList =
      [parts.date.toList, parts.start.toList, parts.finish.toList, parts.route.toList] :=
  split_text_of_not_mem h.date.hyphen_not_mem h.start.hyphen_not_mem h.finish.hyphen_not_mem
    h.route.hyphen_not_mem

/-- **A text is cut into parts of the grammar in one way only.** -/
theorem WellFormed.eq_of_text_eq {parts other : RideParts} (h : parts.WellFormed)
    (hother : other.WellFormed) (htext : other.text = parts.text) : other = parts := by
  have hsplit := hother.split_text
  rw [htext, h.split_text] at hsplit
  simp only [List.cons.injEq, String.toList_inj, and_true] at hsplit
  obtain ⟨hdate, hstart, hfinish, hroute⟩ := hsplit
  exact RideParts.ext hdate.symm hstart.symm hfinish.symm hroute.symm

/-- Parts of the grammar describe a ride, which is read from them. -/
theorem WellFormed.exists_parse {parts : RideParts} (h : parts.WellFormed) :
    ∃ log, RideLog.parse parts.text = .ok log ∧ parts.Describes log := by
  obtain ⟨date, hdate⟩ := exists_readDate_iff.mpr h.date
  refine ⟨⟨date, parts.start, parts.finish, parts.route⟩, ?_,
    (readDate_eq_ok_iff_writtenAs.mp hdate).1, rfl, rfl, rfl⟩
  exact RideLog.parse_eq_ok_iff.mpr
    ⟨parts.date.toList, hdate, h.start, h.finish, h.route, (toList_text parts).symm⟩

/-- A text that is read is made of parts of the grammar. -/
theorem exists_of_parse {signature : String} {log : RideLog}
    (h : RideLog.parse signature = .ok log) :
    ∃ parts : RideParts, parts.WellFormed ∧ parts.text = signature := by
  obtain ⟨written, hdate, hstart, hfinish, hroute, hjoin⟩ := RideLog.parse_eq_ok_iff.mp h
  refine ⟨⟨String.ofList written, log.start, log.finish, log.route⟩,
    ⟨?_, hstart, hfinish, hroute⟩, ?_⟩
  · rw [String.toList_ofList]
    exact exists_readDate_iff.mp ⟨log.date, hdate⟩
  · rw [← String.toList_inj, toList_text, String.toList_ofList]
    exact hjoin

end RideParts

/-- **The texts that are read as rides are those of the grammar.** Such a text is cut into parts of
the grammar in one way only, and the ride has the day that the first part names and the other parts
as they stand. -/
theorem RideLog.parse_accepts_grammar (signature : String) :
    ((∃ log, parse signature = .ok log) ↔
      ∃ parts : RideParts, parts.WellFormed ∧ parts.text = signature) ∧
    ∀ parts : RideParts, parts.WellFormed → parts.text = signature →
      (∃ log, parse signature = .ok log ∧ parts.Describes log) ∧
      ∀ other : RideParts, other.WellFormed → other.text = signature → other = parts := by
  refine ⟨⟨?_, ?_⟩, ?_⟩
  · rintro ⟨log, h⟩
    exact RideParts.exists_of_parse h
  · rintro ⟨parts, h, rfl⟩
    obtain ⟨log, hlog, -⟩ := h.exists_parse
    exact ⟨log, hlog⟩
  · rintro parts h rfl
    exact ⟨h.exists_parse, fun other hother htext => h.eq_of_text_eq hother htext⟩

/-- The leap day of a leap century, and parts with blanks of several kinds around them. -/
theorem RideLog.parse_accepts_grammar_leapDay :
    (RideParts.mk "29022000" " Ä\u00A0" "\tB B" "\u3000C").WellFormed ∧
    ∃ log, parse "29022000- Ä\u00A0-\tB B-\u3000C" = .ok log ∧
      (RideParts.mk "29022000" " Ä\u00A0" "\tB B" "\u3000C").Describes log := by
  have h : (RideParts.mk "29022000" " Ä\u00A0" "\tB B" "\u3000C").WellFormed :=
    ⟨by decide, by decide, by decide, by decide⟩
  exact ⟨h, ((parse_accepts_grammar _).2 _ h (by decide)).1⟩

end TrickScore
