import TrickScore.Proofs.Json.Numbers
import TrickScore.Proofs.Json.Strings

/-!
# Objects and arrays are taken apart

A JSON text that is a part of another tells where it ends. A string ends with its closing quote. A
number has no end of its own, but what follows it in a collection is a comma or a closing bracket,
and no number holds one. So two texts that are the same and begin with a value begin with the same
value and go on the same, and collections are taken apart from the front, value by value.

Headlines:
* `member_append_inj`: members of one name have the same value in front of the same text.
* `decimal_append_inj`, `number_append_inj`: numbers in front of a comma or a bracket.
* **`array_append_inj`**: arrays whose items can be told apart have the same items.
-/

namespace TrickScore.Json

/-! ## Where a number ends -/

/-- A character that may stand behind a value in a collection. -/
def EndsValue (c : Char) : Prop :=
  c = ',' ∨ c = '}' ∨ c = ']'

instance : DecidablePred EndsValue := fun c =>
  inferInstanceAs (Decidable (c = ',' ∨ c = '}' ∨ c = ']'))

/-- None of the characters may stand behind a value. -/
def NoEnd (cs : List Char) : Prop :=
  ∀ c ∈ cs, ¬ EndsValue c

instance (cs : List Char) : Decidable (NoEnd cs) :=
  List.decidableBAll (fun c : Char => ¬ EndsValue c) cs

theorem noEnd_of_isDigit {run : List Char} (h : ∀ c ∈ run, c.isDigit = true) : NoEnd run := by
  intro c hc hend
  have hdigit := h c hc
  rcases hend with rfl | rfl | rfl <;> cases hdigit

theorem noEnd_append {cs ds : List Char} (hcs : NoEnd cs) (hds : NoEnd ds) : NoEnd (cs ++ ds) :=
  List.forall_mem_append.mpr ⟨hcs, hds⟩

/-- **Texts that hold no end of a value are the same if they stop in front of one.** -/
theorem append_inj_of_noEnd {cs ds rest behind : List Char} (hcs : NoEnd cs) (hds : NoEnd ds)
    (hrest : ∀ c ∈ rest.head?, EndsValue c) (hbehind : ∀ c ∈ behind.head?, EndsValue c)
    (h : cs ++ rest = ds ++ behind) : cs = ds ∧ rest = behind := by
  have hfront : ∀ {xs more : List Char}, NoEnd xs → (∀ c ∈ more.head?, EndsValue c) →
      (xs ++ more).takeWhile (fun c => decide (¬ EndsValue c)) = xs := by
    intro xs more hxs hmore
    rw [List.takeWhile_append_of_pos fun c hc => decide_eq_true (hxs c hc)]
    cases more with
    | nil => simp
    | cons c more => simp [hmore c rfl]
  have heq : cs = ds := by rw [← hfront hcs hrest, h, hfront hds hbehind]
  subst heq
  exact ⟨rfl, List.append_cancel_left h⟩

/-- No JSON number holds a comma or a bracket. -/
theorem IsNumber.noEnd {s : String} (h : IsNumber s) : NoEnd s.toList := by
  obtain ⟨⟨negative, whole, fraction, power⟩, hparts, htext⟩ := h
  rw [htext]
  refine noEnd_append (noEnd_append (noEnd_append ?_ (noEnd_of_isDigit hparts.whole.digits)) ?_) ?_
  · cases negative with
    | false => exact (by decide : NoEnd [])
    | true => exact (by decide : NoEnd ['-'])
  · cases fraction with
    | none => exact (by decide : NoEnd [])
    | some run =>
      exact noEnd_append (by decide : NoEnd ['.'])
        (noEnd_of_isDigit (hparts.fraction run rfl).digits)
  · rcases power with _ | ⟨letter, sign, run⟩
    · exact (by decide : NoEnd [])
    · obtain ⟨hletter, hsign, hrun⟩ := hparts.power letter sign run rfl
      refine noEnd_append ?_ (noEnd_of_isDigit hrun.digits)
      simp only [List.mem_cons, List.not_mem_nil, or_false] at hletter hsign
      rcases hletter with rfl | rfl <;> rcases hsign with rfl | rfl | rfl <;> decide

theorem noEnd_number (x : Binary64) : NoEnd (number x).toList := by
  cases x with
  | nan => exact (by decide : NoEnd "null".toList)
  | infinite negative => exact (by decide : NoEnd "null".toList)
  | finite negative m => exact (isNumber_number_iff.mpr ⟨negative, m, rfl⟩).noEnd

section Numbers

variable {rest behind : List Char} (hrest : ∀ c ∈ rest.head?, EndsValue c)
  (hbehind : ∀ c ∈ behind.head?, EndsValue c)

include hrest hbehind

/-- **Numbers in front of a comma or a bracket** are written the same if the texts are the same. -/
theorem number_append_inj {x y : Binary64}
    (h : (number x).toList ++ rest = (number y).toList ++ behind) :
    number x = number y ∧ rest = behind := by
  obtain ⟨hnumber, hmore⟩ := append_inj_of_noEnd (noEnd_number x) (noEnd_number y) hrest hbehind h
  exact ⟨String.toList_inj.mp hnumber, hmore⟩

/-- **Counts in front of a comma or a bracket** are the same if the texts are. -/
theorem decimal_append_inj {m n : Nat}
    (h : (Decimal.text m).toList ++ rest = (Decimal.text n).toList ++ behind) :
    m = n ∧ rest = behind := by
  have hdigits : ∀ k, NoEnd (Decimal.digits k) :=
    fun k => noEnd_of_isDigit fun c hc => Decimal.isDigit_of_mem_digits hc
  simp only [Decimal.text, String.toList_ofList] at h
  obtain ⟨hrun, hmore⟩ := append_inj_of_noEnd (hdigits m) (hdigits n) hrest hbehind h
  have hvalue := congrArg Decimal.ofDigits hrun
  rw [Decimal.ofDigits_digits, Decimal.ofDigits_digits] at hvalue
  exact ⟨hvalue, hmore⟩

end Numbers

/-! ## Collections -/

/-- What stands behind the first item of a collection: the other items, each behind a comma, and the
closing bracket. -/
def behindFirst (close : Char) : List String → List Char
  | [] => [close]
  | item :: items => ',' :: item.toList ++ behindFirst close items

/-- Behind a value in a collection stands what may end it. -/
theorem endsValue_of_head?_behindFirst {close : Char} (hclose : EndsValue close)
    (items : List String) (rest : List Char) :
    ∀ c ∈ (behindFirst close items ++ rest).head?, EndsValue c := by
  intro c hc
  cases items with
  | nil =>
    obtain rfl : close = c := Option.some.inj hc
    exact hclose
  | cons item items =>
    obtain rfl : ',' = c := Option.some.inj hc
    exact .inl rfl

theorem toList_intercalate_append (close : Char) (item : String) (items : List String) :
    (",".intercalate (item :: items)).toList ++ [close] =
      item.toList ++ behindFirst close items := by
  induction items generalizing item with
  | nil => simp [behindFirst]
  | cons second items ih =>
    rw [String.intercalate_cons_cons, String.toList_append, String.toList_append, List.append_assoc,
      ih second]
    simp [behindFirst]

theorem toList_array_cons (item : String) (items : List String) :
    (array (item :: items)).toList = '[' :: item.toList ++ behindFirst ']' items := by
  have hbrackets : "[".toList = ['['] ∧ "]".toList = [']'] := by decide
  rw [array, String.toList_append, String.toList_append, List.append_assoc, hbrackets.1,
    hbrackets.2, toList_intercalate_append, List.singleton_append, List.cons_append]

theorem toList_object_cons (name value : String) (members : List (String × String)) :
    (object ((name, value) :: members)).toList =
      '{' :: (member name value).toList ++
        behindFirst '}' (members.map fun (name, value) => member name value) := by
  have hbrackets : "\x7b".toList = ['{'] ∧ "\x7d".toList = ['}'] := by decide
  rw [object, String.toList_append, String.toList_append, List.append_assoc, hbrackets.1,
    hbrackets.2, List.map_cons, toList_intercalate_append, List.singleton_append, List.cons_append]

/-- **Members of one name have the same value in front of the same text.** -/
theorem member_append_inj {name value other : String} {rest behind : List Char}
    (h : (member name value).toList ++ rest = (member name other).toList ++ behind) :
    value.toList ++ rest = other.toList ++ behind := by
  simpa [member] using h

section Items

variable {α β : Type} {write : α → String} {key : α → β}
  (hitem : ∀ {x y : α} {rest behind : List Char},
    (write x).toList ++ rest = (write y).toList ++ behind → key x = key y ∧ rest = behind)

include hitem

theorem behindFirst_append_inj {close : Char} (hclose : close ≠ ',') {xs ys : List α}
    {rest behind : List Char}
    (h : behindFirst close (xs.map write) ++ rest = behindFirst close (ys.map write) ++ behind) :
    xs.map key = ys.map key ∧ rest = behind := by
  induction xs generalizing ys with
  | nil =>
    cases ys with
    | nil => exact ⟨rfl, (List.cons.inj h).2⟩
    | cons y ys => exact absurd (List.cons.inj h).1 hclose
  | cons x xs ih =>
    cases ys with
    | nil => exact absurd (List.cons.inj h).1.symm hclose
    | cons y ys =>
      simp only [List.map_cons, behindFirst, List.cons_append, List.append_assoc, List.cons.injEq,
        true_and] at h ⊢
      obtain ⟨hkey, hmore⟩ := hitem h
      obtain ⟨hkeys, hrest⟩ := ih hmore
      exact ⟨⟨hkey, hkeys⟩, hrest⟩

/-- **Arrays whose items can be told apart have the same items** in front of the same text. An item
is not empty and does not begin like the end of an array. -/
theorem array_append_inj (hopen : ∀ x, ∃ c more, (write x).toList = c :: more ∧ c ≠ ']')
    {xs ys : List α} {rest behind : List Char}
    (h : (array (xs.map write)).toList ++ rest = (array (ys.map write)).toList ++ behind) :
    xs.map key = ys.map key ∧ rest = behind := by
  have hempty : (array []).toList = ['[', ']'] := by decide
  have hmixed : ∀ y ys more rest,
      (array (write y :: ys)).toList ++ more ≠ (array []).toList ++ rest := by
    intro y ys more rest heq
    obtain ⟨c, text, htext, hc⟩ := hopen y
    rw [toList_array_cons, hempty, htext] at heq
    exact hc (List.cons.inj (List.cons.inj heq).2).1
  cases xs with
  | nil =>
    cases ys with
    | nil => exact ⟨rfl, List.append_cancel_left h⟩
    | cons y ys => exact absurd h.symm (hmixed _ _ _ _)
  | cons x xs =>
    cases ys with
    | nil => exact absurd h (hmixed _ _ _ _)
    | cons y ys =>
      simp only [List.map_cons, toList_array_cons, List.cons_append, List.append_assoc,
        List.cons.injEq, true_and] at h ⊢
      obtain ⟨hkey, hmore⟩ := hitem h
      obtain ⟨hkeys, hrest⟩ := behindFirst_append_inj hitem (by decide) hmore
      exact ⟨⟨hkey, hkeys⟩, hrest⟩

end Items

end TrickScore.Json
