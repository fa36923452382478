/-!
# Blank characters

The characters with the Unicode property White_Space, and trimming them off both ends of a text.

Headlines:
* `trim_eq_empty_iff`: trimming leaves nothing exactly when all characters are blank.
* `isBlank_of_head?_trimmed`, `isBlank_of_getLast?_trimmed`: what is left neither begins nor ends
  with a blank character.
* `trimmed_append`: between blank characters, what has none of them is left.
-/

namespace TrickScore.Text

/-- The Unicode property White_Space. -/
def isBlank (c : Char) : Bool :=
  let n := c.toNat
  (0x09 ≤ n && n ≤ 0x0D) || n == 0x20 || n == 0x85 || n == 0xA0 || n == 0x1680 ||
    (0x2000 ≤ n && n ≤ 0x200A) || n == 0x2028 || n == 0x2029 || n == 0x202F || n == 0x205F ||
    n == 0x3000

/-- No digit is blank. -/
theorem isBlank_of_isDigit {c : Char} (h : c.isDigit = true) : isBlank c = false := by
  obtain ⟨hzero, hnine⟩ := Char.isDigit_iff_toNat.mp h
  have hle : 48 ≤ c.toNat := hzero
  have hlt : c.toNat ≤ 57 := hnine
  simp only [isBlank, Bool.or_eq_false_iff, Bool.and_eq_false_iff, decide_eq_false_iff_not,
    beq_eq_false_iff_ne]
  omega

/-- A text of blank characters only, or of none. -/
def isBlankText (s : String) : Bool :=
  s.toList.all isBlank

/-- The characters from the first to the last that is not blank. -/
def trimmed (cs : List Char) : List Char :=
  ((cs.dropWhile isBlank).reverse.dropWhile isBlank).reverse

/-- A text without the blank characters at its ends. -/
def trim (s : String) : String :=
  String.ofList (trimmed s.toList)

/-- All characters are dropped exactly when all are blank. -/
theorem dropWhile_isBlank_eq_nil_iff (cs : List Char) :
    cs.dropWhile isBlank = [] ↔ cs.all isBlank = true := by
  induction cs with
  | nil => simp
  | cons c cs ih => by_cases h : isBlank c <;> simp_all

/-- **Trimming leaves nothing exactly when all characters are blank.** -/
theorem trimmed_eq_nil_iff (cs : List Char) : trimmed cs = [] ↔ cs.all isBlank = true := by
  rw [← dropWhile_isBlank_eq_nil_iff, trimmed, List.reverse_eq_nil_iff,
    dropWhile_isBlank_eq_nil_iff, List.all_reverse]
  constructor
  · intro h
    by_cases hnil : cs.dropWhile isBlank = []
    · exact hnil
    · have hblank := List.all_eq_true.mp h _ (List.head_mem hnil)
      have hhead := List.head_dropWhile_not isBlank hnil
      simp [hblank] at hhead
  · intro h
    simp [h]

theorem trim_eq_empty_iff (s : String) : trim s = "" ↔ isBlankText s = true := by
  rw [isBlankText, ← trimmed_eq_nil_iff, trim]
  constructor
  · intro h
    simpa using congrArg String.toList h
  · intro h
    rw [h]

/-- What is left behind the blank characters in front does not begin with one. -/
theorem isBlank_of_head?_dropWhile {cs : List Char} {c : Char}
    (h : (cs.dropWhile isBlank).head? = some c) : isBlank c = false := by
  have hhead := List.head?_dropWhile_not isBlank cs
  rw [h] at hhead
  exact hhead

/-- **What is trimmed does not begin with a blank character.** -/
theorem isBlank_of_head?_trimmed {cs : List Char} {c : Char} (h : (trimmed cs).head? = some c) :
    isBlank c = false := by
  -- What is dropped behind does not change how it begins.
  have hbefore := (List.dropWhile_suffix isBlank (l := (cs.dropWhile isBlank).reverse)).reverse
  rw [List.reverse_reverse] at hbefore
  obtain ⟨more, hmore⟩ := hbefore
  have hhead : (cs.dropWhile isBlank).head? = some c := by
    rw [← hmore, List.head?_append, ← trimmed, h]
    rfl
  exact isBlank_of_head?_dropWhile hhead

/-- **What is trimmed does not end with a blank character.** -/
theorem isBlank_of_getLast?_trimmed {cs : List Char} {c : Char}
    (h : (trimmed cs).getLast? = some c) : isBlank c = false := by
  rw [trimmed, List.getLast?_reverse] at h
  exact isBlank_of_head?_dropWhile h

/-- Blank characters in front are dropped up to one that is not blank. -/
theorem dropWhile_isBlank_append {before cs : List Char} {c : Char}
    (hbefore : ∀ b ∈ before, isBlank b = true) (hc : isBlank c = false) :
    (before ++ c :: cs).dropWhile isBlank = c :: cs := by
  rw [List.dropWhile_append_of_pos hbefore, List.dropWhile_cons_of_neg (by simp [hc])]

/-- **Between blank characters, what has none of them is left.** -/
theorem trimmed_append {before cs after : List Char} (hbefore : ∀ b ∈ before, isBlank b = true)
    (hcs : ∀ c ∈ cs, isBlank c = false) (hafter : ∀ b ∈ after, isBlank b = true) :
    trimmed (before ++ cs ++ after) = cs := by
  cases cs with
  | nil =>
    rw [List.append_nil, trimmed_eq_nil_iff, List.all_eq_true]
    intro b hb
    rcases List.mem_append.mp hb with hb | hb
    · exact hbefore b hb
    · exact hafter b hb
  | cons c more =>
    -- Read from behind, the text is again blank characters and one that is not.
    obtain ⟨c', more', hreverse⟩ :=
      List.exists_cons_of_ne_nil (List.reverse_ne_nil_iff.mpr (List.cons_ne_nil c more))
    have hc' : isBlank c' = false := by
      refine hcs c' (List.mem_reverse.mp ?_)
      rw [hreverse]
      exact List.mem_cons_self
    rw [trimmed, List.append_assoc, List.cons_append,
      dropWhile_isBlank_append hbefore (hcs c List.mem_cons_self), ← List.cons_append,
      List.reverse_append, hreverse,
      dropWhile_isBlank_append (fun b hb => hafter b (List.mem_reverse.mp hb)) hc', ← hreverse,
      List.reverse_reverse]

end TrickScore.Text
