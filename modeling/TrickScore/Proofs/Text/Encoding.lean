import TrickScore.Text.Utf8

/-!
# The bytes of a text

A text is encoded character by character. Bytes are decoded to the text that they encode and to no
other, and a byte below 128 stands in the encoding of its own character only, so that no such byte
is ever part of another character.

Headlines:
* `bytes_eq_flatMap`: the bytes of a text are those of its characters, in order.
* **`decode_eq_ok_iff`**: decoding undoes encoding, and succeeds on nothing else.
* **`eq_singleton_of_mem_encode`**: a byte below 128 encodes a character alone.
* `count_bytes`: so the characters it encodes can be counted by it.
-/

namespace TrickScore.Text

/-! ## Packed bytes -/

theorem toList_loop (packed : ByteArray) (i : Nat) (taken : List UInt8) :
    ByteArray.toList.loop packed i taken = taken.reverse ++ packed.data.toList.drop i := by
  fun_induction ByteArray.toList.loop packed i taken with
  | case1 i taken h ih =>
    have hi : i < packed.data.toList.length := h
    have hget : packed.get! i = packed.data.toList[i] := by
      rw [Array.getElem_toList]
      exact getElem!_pos packed.data i h
    rw [ih, List.drop_eq_getElem_cons hi, hget, List.reverse_cons, List.append_assoc]
    rfl
  | case2 i taken h =>
    rw [List.drop_eq_nil_of_le (Nat.le_of_not_lt h), List.append_nil]

theorem toList_eq_toList_data (packed : ByteArray) : packed.toList = packed.data.toList := by
  rw [ByteArray.toList, toList_loop, List.reverse_nil, List.drop_zero, List.nil_append]

/-! ## Encoding and decoding -/

theorem bytes_eq_toList_data (s : String) : bytes s = s.toByteArray.data.toList :=
  toList_eq_toList_data s.toByteArray

/-- **The bytes of a text are those of its characters**, in order. -/
theorem bytes_eq_flatMap (s : String) : bytes s = s.toList.flatMap String.utf8EncodeChar := by
  have h : s.toByteArray = (s.toList.flatMap String.utf8EncodeChar).toByteArray := by
    conv => lhs; rw [← String.ofList_toList (s := s), String.toByteArray_ofList]
    rfl
  rw [bytes_eq_toList_data, h, List.toList_data_toByteArray]

/-- The bytes of a text, packed, are the text. -/
theorem mk_bytes (text : String) : ByteArray.mk (bytes text).toArray = text.toByteArray := by
  rw [bytes_eq_toList_data, Array.toArray_toList]

/-- **Bytes are decoded to the text that they encode**, and to no other. -/
theorem decode_eq_ok_iff {encoded : List UInt8} {text : String} :
    decode encoded = .ok text ↔ encoded = bytes text := by
  constructor
  · intro h
    unfold decode at h
    dsimp only at h
    split at h
    · rename_i other hother
      obtain rfl := Except.ok.inj h
      unfold String.fromUTF8? at hother
      split at hother
      · obtain rfl := Option.some.inj hother
        rw [bytes_eq_toList_data]
        exact List.toList_toArray.symm
      · cases hother
    · cases h
  · rintro rfl
    unfold decode String.fromUTF8?
    dsimp only
    rw [mk_bytes, dif_pos text.isValidUTF8]
    rfl

/-- The bytes are the encoding of some text. -/
def IsUtf8 (encoded : List UInt8) : Prop :=
  (ByteArray.mk encoded.toArray).IsValidUTF8

instance (encoded : List UInt8) : Decidable (IsUtf8 encoded) :=
  inferInstanceAs (Decidable (ByteArray.IsValidUTF8 _))

theorem isUtf8_iff {encoded : List UInt8} : IsUtf8 encoded ↔ ∃ text, encoded = bytes text := by
  rw [IsUtf8, ← exists_decode_iff]
  simp only [decode_eq_ok_iff]

/-- Texts with the same bytes are the same. -/
theorem bytes_injective : Function.Injective bytes := by
  intro text other h
  have hdecode : decode (bytes text) = .ok other := decode_eq_ok_iff.mpr h
  rw [decode_eq_ok_iff.mpr rfl] at hdecode
  exact Except.ok.inj hdecode

/-- A character from 128 on is encoded in bytes from 128 on. -/
theorem le_of_mem_encode {c : Char} {b : UInt8} (hc : 128 ≤ c.toNat)
    (h : b ∈ String.utf8EncodeChar c) : 128 ≤ b.toNat := by
  have hlong : ¬ c.val.toNat ≤ 127 := Nat.not_le.mpr hc
  rw [String.utf8EncodeChar] at h
  simp only [hlong, if_false] at h
  -- Each byte of each of the longer forms is a remainder and at least 128 added to it.
  split at h
  · grind [UInt8.toNat_ofNat']
  · split at h
    · grind [UInt8.toNat_ofNat']
    · grind [UInt8.toNat_ofNat']

/-- **A byte below 128 encodes a character alone**, the one with its number. -/
theorem eq_singleton_of_mem_encode {c : Char} {b : UInt8} (h : b ∈ String.utf8EncodeChar c)
    (hb : b.toNat < 128) : String.utf8EncodeChar c = [b] ∧ c.toNat = b.toNat := by
  have hc : c.toNat < 128 :=
    Nat.lt_of_not_le fun hge => absurd (le_of_mem_encode hge h) (Nat.not_le.mpr hb)
  have hle : c.val.toNat ≤ 127 := Nat.le_of_lt_succ hc
  rw [String.utf8EncodeChar, if_pos hle, List.mem_singleton] at h
  subst h
  rw [String.utf8EncodeChar, if_pos hle]
  exact ⟨rfl, (UInt8.toNat_ofNat_of_lt (Nat.lt_of_le_of_lt hle (by decide))).symm⟩

/-- **A byte below 128 stands in the bytes of a text once for each time its character does.** -/
theorem count_bytes {c : Char} {b : UInt8} (hb : b.toNat < 128) (hc : c.toNat = b.toNat)
    (s : String) : (bytes s).count b = s.toList.count c := by
  rw [bytes_eq_flatMap]
  induction s.toList with
  | nil => rfl
  | cons d ds ih =>
    rw [List.flatMap_cons, List.count_append, ih, List.count_cons, Nat.add_comm]
    congr 1
    by_cases hd : d = c
    · have hmem : b ∈ String.utf8EncodeChar c := by
        have hle : c.val.toNat ≤ 127 := by
          have hval : c.val.toNat = b.toNat := hc
          omega
        rw [String.utf8EncodeChar, if_pos hle, List.mem_singleton]
        refine UInt8.toNat_inj.mp ?_
        rw [← hc]
        exact (UInt8.toNat_ofNat_of_lt (Nat.lt_of_le_of_lt hle (by decide))).symm
      rw [hd, (eq_singleton_of_mem_encode hmem hb).1]
      simp
    · have hmem : b ∉ String.utf8EncodeChar d := fun hmem =>
        hd (Char.toNat_inj.mp ((eq_singleton_of_mem_encode hmem hb).2.trans hc.symm))
      rw [List.count_eq_zero_of_not_mem hmem]
      simp [hd]

end TrickScore.Text
