import TrickScore.Binary64.Basic

/-!
# The letters of a trick signature

A signature names tricks by an action letter and grades them by a modifier letter. Both alphabets
have five letters; any other symbol is rejected by the role in which it stood.

Both are read in the same way, as an `Alphabet`.

Model of `ActionLetter` and `DifficultyModifier`, with `resolve_action` and `resolve_multiplier`,
and of `TrickError`.

Headlines:
* `Alphabet.ofSymbol?_eq_some_iff`: a symbol is read as a value exactly when it is its letter.
* `Alphabet.read_eq_ok_iff`, `Alphabet.read_of_not_mem`: every other symbol is rejected.
-/

namespace TrickScore

/-! ## Errors -/

/-- The place of a symbol in a token. -/
inductive SymbolRole where
  | action
  | modifier
  deriving DecidableEq

/-- The name of a role in messages. -/
def SymbolRole.text : SymbolRole → String
  | .action => "action_letter"
  | .modifier => "difficulty_modifier"

/-- Why a trick signature cannot be scored. -/
inductive TrickError where
  /-- A symbol outside the alphabet of its role. -/
  | unrecognizedSymbol (role : SymbolRole) (symbol : Char)
  /-- A count of `2 ^ 64` or more, with its digits as they were written. -/
  | countOutOfRange (digits : String)
  deriving DecidableEq

/-- What is said about an error. -/
def TrickError.message : TrickError → String
  | .unrecognizedSymbol role symbol =>
    "Unrecognized " ++ role.text ++ " symbol: '" ++ symbol.toString ++ "'"
  | .countOutOfRange digits => "Repetition count out of range: " ++ digits

/-! ## Alphabets -/

/-- The letters of a role. Each value has one, and no two values share theirs. -/
structure Alphabet (α : Type) where
  role : SymbolRole
  /-- All values, in the order of the grammar. -/
  all : List α
  /-- The letter of a value. -/
  symbol : α → Char
  mem_all : ∀ x, x ∈ all
  symbol_injective : ∀ x y, symbol x = symbol y → x = y

namespace Alphabet

variable {α : Type} (alphabet : Alphabet α)

/-- All letters, in the order of the grammar. -/
def letters : List Char :=
  alphabet.all.map alphabet.symbol

/-- The value with a given letter. -/
def ofSymbol? (c : Char) : Option α :=
  alphabet.all.find? fun x => alphabet.symbol x = c

/-- The value whose letter a text is. -/
def ofText? (text : String) : Option α :=
  match text.toList with
  | [c] => alphabet.ofSymbol? c
  | _ => none

/-- The value with a given letter, or the rejected symbol. -/
def read (c : Char) : Except TrickError α :=
  match alphabet.ofSymbol? c with
  | some x => .ok x
  | none => .error (.unrecognizedSymbol alphabet.role c)

variable {alphabet}

/-- **A symbol is read as a value exactly when it is its letter.** -/
theorem ofSymbol?_eq_some_iff {c : Char} {x : α} :
    alphabet.ofSymbol? c = some x ↔ c = alphabet.symbol x := by
  constructor
  · intro h
    simpa [eq_comm] using List.find?_some h
  · rintro rfl
    have hfound : (alphabet.ofSymbol? (alphabet.symbol x)).isSome = true :=
      List.find?_isSome.mpr ⟨x, alphabet.mem_all x, decide_eq_true rfl⟩
    obtain ⟨y, hy⟩ := Option.isSome_iff_exists.mp hfound
    have hsymbol : alphabet.symbol y = alphabet.symbol x := by simpa using List.find?_some hy
    rw [hy, alphabet.symbol_injective y x hsymbol]

/-- The symbols that are read are the letters. -/
theorem isSome_ofSymbol?_iff {c : Char} :
    (alphabet.ofSymbol? c).isSome = true ↔ c ∈ alphabet.letters := by
  simp [ofSymbol?, letters, List.find?_isSome]

/-- **What is read as a value is its letter.** -/
theorem read_eq_ok_iff {c : Char} {x : α} :
    alphabet.read c = .ok x ↔ c = alphabet.symbol x := by
  rw [← ofSymbol?_eq_some_iff, read]
  cases alphabet.ofSymbol? c <;> simp

/-- **A symbol that is no letter is rejected** in its role. -/
theorem read_of_not_mem {c : Char} (h : c ∉ alphabet.letters) :
    alphabet.read c = .error (.unrecognizedSymbol alphabet.role c) := by
  have hnone : alphabet.ofSymbol? c = none := by
    rw [← Option.not_isSome_iff_eq_none]
    exact fun hs => h (isSome_ofSymbol?_iff.mp hs)
  rw [read, hnone]

theorem exists_symbol_of_mem {c : Char} (h : c ∈ alphabet.letters) :
    ∃ x, c = alphabet.symbol x := by
  obtain ⟨x, -, hx⟩ := List.mem_map.mp h
  exact ⟨x, hx.symm⟩

end Alphabet

/-! ## Actions -/

/-- A trick that has a letter. -/
inductive Action where
  | threeSixty
  | tuckNoHander
  | cashRoll
  | barspin
  | table
  deriving DecidableEq

namespace Action

/-- The letter of an action. -/
def symbol : Action → Char
  | threeSixty => 'L'
  | tuckNoHander => 'H'
  | cashRoll => 'R'
  | barspin => 'S'
  | table => 'T'

/-- The name of the trick. -/
def name : Action → String
  | threeSixty => "360"
  | tuckNoHander => "Tuck No-Hander"
  | cashRoll => "Cash Roll"
  | barspin => "Barspin"
  | table => "Table"

/-- The letters of actions. -/
def alphabet : Alphabet Action where
  role := .action
  all := [threeSixty, tuckNoHander, cashRoll, barspin, table]
  symbol := symbol
  mem_all action := by cases action <;> decide
  symbol_injective x y := by cases x <;> cases y <;> decide

/-- All actions, in the order of the grammar. -/
def all : List Action :=
  alphabet.all

/-- The action whose letter a text is. -/
def ofText? (text : String) : Option Action :=
  alphabet.ofText? text

/-- The action with a given letter, or the rejected symbol. -/
def read (c : Char) : Except TrickError Action :=
  alphabet.read c

end Action

/-! ## Modifiers -/

/-- How hard a trick was made. -/
inductive Modifier where
  | a
  | b
  | c
  | d
  | e
  deriving DecidableEq

namespace Modifier

/-- The letter of a modifier. -/
def symbol : Modifier → Char
  | a => 'A'
  | b => 'B'
  | c => 'C'
  | d => 'D'
  | e => 'E'

/-- What one repetition is worth: 1, and a fifth more for every letter on. -/
def multiplier : Modifier → Binary64
  | a => .ofNat 1
  | b => .ofFraction 12 10
  | c => .ofFraction 14 10
  | d => .ofFraction 16 10
  | e => .ofFraction 18 10

/-- The letters of modifiers, the easiest first. -/
def alphabet : Alphabet Modifier where
  role := .modifier
  all := [a, b, c, d, e]
  symbol := symbol
  mem_all modifier := by cases modifier <;> decide
  symbol_injective x y := by cases x <;> cases y <;> decide

/-- All modifiers, the easiest first. -/
def all : List Modifier :=
  alphabet.all

/-- The modifier whose letter a text is. -/
def ofText? (text : String) : Option Modifier :=
  alphabet.ofText? text

/-- The modifier with a given letter, or the rejected symbol. -/
def read (symbol : Char) : Except TrickError Modifier :=
  alphabet.read symbol

end Modifier

end TrickScore
