/-!
# Reading bytes as UTF-8

Bytes are a text or they are not; where they are not, the length of their longest valid beginning
says where they go wrong.
-/

namespace TrickScore.Text

/-- The bytes of a text. -/
def bytes (s : String) : List UInt8 :=
  s.toUTF8.toList

/-- Where the characters that can be read one after another from `start` on come to an end. -/
def validEnd (packed : ByteArray) (start : Nat) : Nat :=
  match _h : packed.utf8DecodeChar? start with
  | some c => validEnd packed (start + c.utf8Size)
  | none => start
termination_by packed.size - start
decreasing_by
  have hle := ByteArray.le_size_of_utf8DecodeChar?_eq_some _h
  have hpos := c.utf8Size_pos
  omega

/-- The text that the bytes encode, or the length of their longest valid beginning. -/
def decode (encoded : List UInt8) : Except Nat String :=
  let packed := ByteArray.mk encoded.toArray
  match String.fromUTF8? packed with
  | some text => .ok text
  | none => .error (validEnd packed 0)

/-- **Decoding fails exactly on invalid bytes.** -/
theorem exists_decode_iff (encoded : List UInt8) :
    (∃ text, decode encoded = .ok text) ↔ (ByteArray.mk encoded.toArray).IsValidUTF8 := by
  unfold decode String.fromUTF8?
  by_cases h : (ByteArray.mk encoded.toArray).IsValidUTF8 <;> simp [h]

end TrickScore.Text
