import TrickScore.Service
import TrickScore.Trick.Sequence

/-!
# JSON texts stand on one line

No JSON text of this library holds a control character: strings escape them, and numbers, names and
punctuation have none. So a line feed behind a text ends it, whatever its strings hold.

Headlines:
* `printable_quote`, `printable_number`, `printable_array`, `printable_object`: each way to form a
  JSON text keeps to one line.
* `Sequence.printable_toJson`, `BatchEntry.printable_toJson`: so do a scored sequence and an entry
  of a batch.
-/

namespace TrickScore.Json

/-- None of the characters is a control character. -/
def NoControl (cs : List Char) : Prop :=
  ∀ c ∈ cs, 0x20 ≤ c.toNat

instance (cs : List Char) : Decidable (NoControl cs) :=
  List.decidableBAll (fun c : Char => 0x20 ≤ c.toNat) cs

/-- The text holds no control character, so it stands on one line. -/
def Printable (s : String) : Prop :=
  NoControl s.toList

instance (s : String) : Decidable (Printable s) :=
  inferInstanceAs (Decidable (NoControl s.toList))

theorem noControl_cons {c : Char} {cs : List Char} (hc : 0x20 ≤ c.toNat) (hcs : NoControl cs) :
    NoControl (c :: cs) :=
  List.forall_mem_cons.mpr ⟨hc, hcs⟩

theorem noControl_append {cs ds : List Char} (hcs : NoControl cs) (hds : NoControl ds) :
    NoControl (cs ++ ds) :=
  List.forall_mem_append.mpr ⟨hcs, hds⟩

/-! ## Strings and collections -/

theorem printable_append {s t : String} (hs : Printable s) (ht : Printable t) :
    Printable (s ++ t) := by
  rw [Printable, String.toList_append]
  exact noControl_append hs ht

theorem printable_quote (s : String) : Printable (quote s) :=
  fun _ hc => space_le_of_mem_quote hc

theorem printable_intercalate {separator : String} (hseparator : Printable separator)
    {items : List String} (h : ∀ item ∈ items, Printable item) :
    Printable (separator.intercalate items) := by
  induction items with
  | nil => exact fun c hc => by simp at hc
  | cons item items ih =>
    have hmore := ih fun i hi => h i (List.mem_cons_of_mem _ hi)
    cases items with
    | nil => simpa using h item List.mem_cons_self
    | cons second items =>
      rw [String.intercalate_cons_cons]
      exact printable_append (printable_append (h item List.mem_cons_self) hseparator) hmore

theorem printable_array {items : List String} (h : ∀ item ∈ items, Printable item) :
    Printable (array items) :=
  printable_append (printable_append (by decide) (printable_intercalate (by decide) h)) (by decide)

theorem printable_object {members : List (String × String)} (h : ∀ m ∈ members, Printable m.2) :
    Printable (object members) := by
  refine printable_append (printable_append (by decide)
    (printable_intercalate (by decide) fun item hitem => ?_)) (by decide)
  obtain ⟨⟨name, value⟩, hm, rfl⟩ := List.mem_map.mp hitem
  exact printable_append (printable_append (printable_quote name) (by decide)) (h _ hm)

/-- A member that may be left out stands on one line if its value does. -/
theorem printable_of_mem_optional {name : String} {value : Option String}
    (h : ∀ text ∈ value, Printable text) {m : String × String} (hm : m ∈ optional name value) :
    Printable m.2 := by
  cases value with
  | none => cases hm
  | some text =>
    rw [List.mem_singleton.mp hm]
    exact h text rfl

/-! ## Numbers -/

theorem space_le_of_isDigit {c : Char} (h : c.isDigit = true) : 0x20 ≤ c.toNat := by
  have hzero := (Decimal.toNat_of_isDigit h).1
  have hle : 0x20 ≤ '0'.toNat := by decide
  omega

theorem noControl_digits (n : Nat) : NoControl (Decimal.digits n) :=
  fun _ hc => space_le_of_isDigit (Decimal.isDigit_of_mem_digits hc)

theorem noControl_padded (width n : Nat) : NoControl (Decimal.padded width n) :=
  fun _ hc => space_le_of_isDigit (Decimal.isDigit_of_mem_padded hc)

theorem printable_decimalText (n : Nat) : Printable (Decimal.text n) := by
  rw [Printable, Decimal.text, String.toList_ofList]
  exact noControl_digits n

theorem noControl_positional (d : Decimal.Scaled) : NoControl d.positional := by
  unfold Decimal.Scaled.positional Decimal.withPlaces
  split
  · exact noControl_digits _
  · split
    · exact noControl_digits _
    · exact noControl_append (noControl_digits _)
        (noControl_cons (by decide) (noControl_padded _ _))

theorem noControl_scientific (d : Decimal.Scaled) : NoControl d.scientific := by
  have hsign : 0x20 ≤ (if d.leading < 0 then '-' else '+').toNat := by split <;> decide
  -- Behind the digits stands the power of ten: a letter, a sign and more digits.
  have hpower := noControl_cons (by decide : 0x20 ≤ 'e'.toNat)
    (noControl_cons hsign (noControl_digits d.leading.natAbs))
  have hdigits := noControl_digits d.coefficient
  unfold Decimal.Scaled.scientific
  cases hcoefficient : Decimal.digits d.coefficient with
  | nil => exact hpower
  | cons digit more =>
    rw [hcoefficient] at hdigits
    obtain ⟨hdigit, hmore⟩ := List.forall_mem_cons.mp hdigits
    cases more with
    | nil => exact noControl_cons hdigit hpower
    | cons second more =>
      exact noControl_append (noControl_cons hdigit (noControl_cons (by decide) hmore)) hpower

theorem noControl_magnitude (m : Magnitude) :
    NoControl (numberStyle.magnitude m) := by
  unfold Decimal.NumberStyle.magnitude
  dsimp only
  split
  · refine noControl_append (noControl_positional _) ?_
    split <;> decide
  · exact noControl_scientific _

/-- A number stands on one line. -/
theorem printable_number (x : Binary64) : Printable (number x) := by
  cases x with
  | nan => exact (by decide : Printable "null")
  | infinite negative => exact (by decide : Printable "null")
  | finite negative m =>
    rw [Printable, number, Decimal.NumberStyle.write, String.toList_ofList]
    exact noControl_append (by cases negative <;> decide) (noControl_magnitude m)

end TrickScore.Json

namespace TrickScore

open Json

/-! ## Results -/

theorem Trick.printable_toJson (trick : Trick) : Printable trick.toJson := by
  refine printable_object fun member hmember => ?_
  rcases List.mem_append.mp hmember with hmember | hmember
  · simp only [List.mem_cons, List.not_mem_nil, or_false] at hmember
    rcases hmember with rfl | rfl | rfl | rfl | rfl
    · exact printable_quote _
    · exact printable_quote _
    · exact printable_decimalText _
    · exact printable_quote _
    · exact printable_number _
  · refine printable_of_mem_optional (fun text htext => ?_) hmember
    obtain ⟨bonus, -, rfl⟩ := Option.map_eq_some_iff.mp htext
    exact printable_quote _

/-- **A sequence stands on one line.** -/
theorem Sequence.printable_toJson (sequence : Sequence) : Printable sequence.toJson := by
  refine printable_object fun member hmember => ?_
  simp only [List.mem_cons, List.not_mem_nil, or_false] at hmember
  rcases hmember with rfl | rfl
  · refine printable_array fun item hitem => ?_
    obtain ⟨trick, -, rfl⟩ := List.mem_map.mp hitem
    exact trick.printable_toJson
  · exact printable_number _

/-- **An entry of a batch stands on one line**, whatever its signature holds. -/
theorem BatchEntry.printable_toJson (entry : BatchEntry) : Printable entry.toJson := by
  refine printable_object fun member hmember => ?_
  rcases List.mem_append.mp hmember with hmember | hmember
  · rcases List.mem_append.mp hmember with hmember | hmember
    · rw [List.mem_singleton.mp hmember]
      exact printable_quote _
    · refine printable_of_mem_optional (fun text htext => ?_) hmember
      obtain ⟨sequence, -, rfl⟩ := Option.map_eq_some_iff.mp htext
      exact sequence.printable_toJson
  · refine printable_of_mem_optional (fun text htext => ?_) hmember
    obtain ⟨message, -, rfl⟩ := Option.map_eq_some_iff.mp htext
    exact printable_quote _

end TrickScore
