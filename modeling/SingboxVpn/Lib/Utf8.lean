import Mathlib.Data.List.Basic

/-!
# UTF-8

Texts as bytes, for code that reads and writes them as bytes.

* `Utf8.bytes` — the bytes of a text; `Utf8.fromUtf8` the way back, `fromUtf8_iff` that the two are
  inverse.
-/

namespace Utf8

def bytes (s : List Char) : List UInt8 := s.flatMap String.utf8EncodeChar

def fromUtf8 (bs : List UInt8) : Option String := String.fromUTF8? bs.toByteArray

theorem toByteArray_bytes (s : String) : (bytes s.toList).toByteArray = s.toByteArray :=
  String.utf8Encode_toList

theorem length_bytes (s : String) : (bytes s.toList).length = s.utf8ByteSize := by
  rw [← List.size_toByteArray, toByteArray_bytes]
  rfl

theorem fromUtf8_iff {bs : List UInt8} {s : String} :
    fromUtf8 bs = some s ↔ bytes s.toList = bs := by
  unfold fromUtf8 String.fromUTF8?
  constructor
  · intro h
    split at h
    · cases h
      exact List.toByteArray_inj.mp (toByteArray_bytes _)
    · cases h
  · rintro rfl
    have hvalid : (bytes s.toList).toByteArray.IsValidUTF8 := by
      rw [toByteArray_bytes]
      exact s.isValidUTF8
    rw [dif_pos hvalid, Option.some.injEq, ← String.toByteArray_inj]
    exact toByteArray_bytes s

end Utf8
