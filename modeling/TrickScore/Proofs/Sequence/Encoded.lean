import TrickScore.Proofs.Json.Collections
import TrickScore.Proofs.Sequence.Pointwise

/-!
# Sequences told apart by their JSON text

The JSON text of a sequence has the letters, the count and the modifier of each trick, besides a
score that is rounded and a bonus that is left out where there is none. The text is taken apart
member by member: the tricks in it are found whatever their scores are, and each with the token that
it was made of. So the exact counts tell two sequences apart, also where their scores do not.

Headlines:
* `Trick.toJson_append_inj`: the text of a trick tells its token and where it ends.
* `Sequence.map_token_eq_of_toJson_eq`: sequences with the same text have tricks of the same tokens.
* **`Sequence.toJson_tells_tokens`**: token lists that are scored to the same text are equal.
-/

namespace TrickScore

open Json (member behindFirst EndsValue)

namespace Trick

/-- The token that a trick was made of. -/
def token (trick : Trick) : Token :=
  ⟨trick.action.symbol, trick.count, trick.modifier.symbol⟩

/-- The text of a trick, one member after the other. -/
theorem toList_toJson (trick : Trick) :
    trick.toJson.toList =
      '{' :: ((member "actionLetter" (Json.quote trick.action.symbol.toString)).toList ++
      ',' :: ((member "action" (Json.quote trick.name)).toList ++
      ',' :: ((member "repetitionCount" (Decimal.text trick.count.toNat)).toList ++
      ',' :: ((member "difficultyModifier" (Json.quote trick.modifier.symbol.toString)).toList ++
      ',' :: ((member "score" (Json.number trick.score)).toList ++
      behindFirst '}'
        (trick.bonus.toList.map fun bonus => member "bonus" (Json.quote bonus.key))))))) := by
  unfold toJson
  rw [List.cons_append, Json.toList_object_cons]
  cases trick.bonus <;> simp [behindFirst, Json.optional]

theorem token_eq_of_texts {trick other : Trick}
    (haction : trick.action.symbol.toString = other.action.symbol.toString)
    (hcount : trick.count.toNat = other.count.toNat)
    (hmodifier : trick.modifier.symbol.toString = other.modifier.symbol.toString) :
    trick.token = other.token := by
  have hchar : ∀ {c d : Char}, c.toString = d.toString → c = d := by
    intro c d h
    simpa using congrArg String.toList h
  rw [token, token, hchar haction, UInt64.toNat_inj.mp hcount, hchar hmodifier]

/-- **The text of a trick tells its token and where it ends.** -/
theorem toJson_append_inj {trick other : Trick} {rest behind : List Char}
    (h : trick.toJson.toList ++ rest = other.toJson.toList ++ behind) :
    trick.token = other.token ∧ rest = behind := by
  have hcomma : ∀ more, ∀ c ∈ (',' :: more).head?, EndsValue c := by
    intro more c hc
    obtain rfl : ',' = c := Option.some.inj hc
    exact .inl rfl
  have hend : ∀ items more, ∀ c ∈ (behindFirst '}' items ++ more).head?, EndsValue c :=
    Json.endsValue_of_head?_behindFirst (.inr (.inl rfl))
  rw [toList_toJson, toList_toJson] at h
  simp only [List.cons_append, List.append_assoc, List.cons.injEq, true_and] at h
  obtain ⟨haction, h⟩ := Json.quote_append_inj (Json.member_append_inj h)
  obtain ⟨-, h⟩ := Json.quote_append_inj (Json.member_append_inj (List.cons.inj h).2)
  obtain ⟨hcount, h⟩ := Json.decimal_append_inj (hcomma _) (hcomma _)
    (Json.member_append_inj (List.cons.inj h).2)
  obtain ⟨hmodifier, h⟩ := Json.quote_append_inj (Json.member_append_inj (List.cons.inj h).2)
  obtain ⟨-, h⟩ := Json.number_append_inj (hend _ _) (hend _ _)
    (Json.member_append_inj (List.cons.inj h).2)
  -- A bonus is a member more, and the brace behind it is found either way.
  have hbonus : ∀ {bonus bonus' : Bonus} {more more' : List Char},
      (member "bonus" (Json.quote bonus.key)).toList ++ more =
        (member "bonus" (Json.quote bonus'.key)).toList ++ more' →
      bonus.key = bonus'.key ∧ more = more' :=
    fun heq => Json.quote_append_inj (Json.member_append_inj heq)
  exact ⟨token_eq_of_texts haction hcount hmodifier,
    (Json.behindFirst_append_inj hbonus (by decide) h).2⟩

/-- The tokens of the tricks that are resolved are those that they were resolved from. -/
theorem map_token_of_resolve {previous : Option Action} {tokens : List Token}
    {tricks : List Trick} (h : resolve previous tokens = (tricks, none)) :
    tricks.map token = tokens := by
  obtain ⟨hlength, hat⟩ := isAt_of_resolve h
  refine List.ext_getElem (by rw [List.length_map, hlength]) fun i hi hi' => ?_
  have htrick := hat i hi' (by simpa using hi)
  rw [List.getElem_map, token, htrick.letter, htrick.count, htrick.modifier]

end Trick

namespace Sequence

/-- **Sequences with the same text have tricks of the same tokens**, whatever their scores. -/
theorem map_token_eq_of_toJson_eq {sequence other : Sequence}
    (h : sequence.toJson = other.toJson) :
    sequence.tricks.map Trick.token = other.tricks.map Trick.token := by
  have hopen : ∀ trick : Trick, ∃ c more, trick.toJson.toList = c :: more ∧ c ≠ ']' :=
    fun trick => ⟨'{', _, trick.toList_toJson, by decide⟩
  have hchars := congrArg String.toList h
  unfold toJson at hchars
  rw [Json.toList_object_cons, Json.toList_object_cons, List.cons_append, List.cons_append,
    List.cons.injEq] at hchars
  exact (Json.array_append_inj Trick.toJson_append_inj hopen
    (Json.member_append_inj hchars.2)).1

/-- **The JSON text of a scored sequence tells its tokens**: two token lists are scored to the same
text only if they are equal, letters, counts and modifiers, in the same order. -/
theorem toJson_tells_tokens {tokens others : List Token} {sequence other : Sequence}
    (h : ofTokens tokens = .ok sequence) (hother : ofTokens others = .ok other) :
    sequence.toJson = other.toJson ↔ tokens = others := by
  constructor
  · intro htext
    obtain ⟨tricks, hresolve, rfl⟩ := ofTokens_eq_ok_iff.mp h
    obtain ⟨more, hmore, rfl⟩ := ofTokens_eq_ok_iff.mp hother
    rw [← Trick.map_token_of_resolve hresolve, ← Trick.map_token_of_resolve hmore]
    exact map_token_eq_of_toJson_eq htext
  · rintro rfl
    rw [Except.ok.inj (h.symm.trans hother)]

/-- Neighbouring counts that are rounded to the same score are told apart by the text. -/
theorem toJson_tells_tokens_sameScore :
    ∃ sequence other, ofTokens [⟨'L', 9007199254740992, 'A'⟩, ⟨'R', 1, 'B'⟩] = .ok sequence ∧
      ofTokens [⟨'L', 9007199254740993, 'A'⟩, ⟨'R', 1, 'B'⟩] = .ok other ∧
      sequence.scores = other.scores ∧ sequence.toJson ≠ other.toJson := by
  have hscored : ∀ count, ofTokens [⟨'L', count, 'A'⟩, ⟨'R', 1, 'B'⟩] =
      .ok (ofTricks (Trick.resolve none [⟨'L', count, 'A'⟩, ⟨'R', 1, 'B'⟩]).1) :=
    fun count => ofTokens_eq_ok_iff.mpr ⟨_, rfl, rfl⟩
  refine ⟨_, _, hscored _, hscored _, by decide +kernel, fun htext => ?_⟩
  have htokens := (toJson_tells_tokens (hscored _) (hscored _)).mp htext
  exact absurd htokens (by decide)

end Sequence

end TrickScore
