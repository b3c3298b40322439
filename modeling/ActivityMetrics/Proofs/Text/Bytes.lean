import ActivityMetrics.Proofs.Text.Padded
import Mathlib.Data.List.Lex

/-!
# Texts as bytes

A database compares texts byte by byte. Texts are compared here character by character, and this is
the same: a lesser character is encoded by lesser bytes, whatever follows (`encode_append_lt`), so
the order of texts is that of their encodings (`lt_iff_bytes_lt`). It is a property of UTF-8 that
other encodings do not have, and the reason why no statement about the order of texts has to mention
bytes.
-/

namespace ActivityMetrics.Text

/-- The bytes of a text, as it is stored. Texts are compared by them where a database compares
them. -/
def bytes (s : String) : List UInt8 :=
  s.toUTF8.data.toList

theorem bytes_eq_flatMap (s : String) : bytes s = s.toList.flatMap String.utf8EncodeChar := by
  rw [bytes, String.toUTF8_eq_toByteArray, ← String.utf8Encode_toList, List.utf8Encode,
    List.toList_data_toByteArray]

/-- **A lesser character has lesser bytes**, whatever follows. The first bytes tell encodings of
different lengths apart, and among those of one length the six bits of each byte are the digits of
the character. -/
theorem encode_append_lt {c d : Char} (h : c < d) (x y : List UInt8) :
    String.utf8EncodeChar c ++ x < String.utf8EncodeChar d ++ y := by
  have less : c.val.toNat < d.val.toNat := char_lt_iff.1 h
  have bound : d.val.toNat < 1114112 := by
    have := d.valid
    unfold UInt32.isValidChar Nat.isValidChar at this
    omega
  have twice : ∀ k, k / 4096 = k / 64 / 64 := by omega
  have thrice : ∀ k, k / 262144 = k / 64 / 64 / 64 := by omega
  unfold String.utf8EncodeChar
  simp only [twice, thrice]
  generalize c.val.toNat = m at less
  generalize d.val.toNat = n at less bound
  split_ifs <;>
    simp only [List.cons_append, List.nil_append, List.cons_lt_cons_iff, UInt8.lt_iff_toNat_lt,
      ← UInt8.toNat_inj, UInt8.toNat_ofNat'] <;>
    omega

theorem flatMap_encode_lt {cs ds : List Char} (h : cs < ds) :
    cs.flatMap String.utf8EncodeChar < ds.flatMap String.utf8EncodeChar := by
  rw [← List.lex_lt] at h
  induction h with
  | nil =>
    rename_i d ds
    rw [List.flatMap_nil, List.flatMap_cons]
    cases first : String.utf8EncodeChar d with
    | nil => exact absurd first String.utf8EncodeChar_ne_nil
    | cons => exact List.nil_lt_cons _ _
  | rel less => exact encode_append_lt less _ _
  | cons _ ih => exact List.append_left_lt ih

/-- **Texts are ordered as their bytes.** The backward direction needs nothing more: of two texts
one is less or they are equal, and the bytes cannot contradict. -/
theorem lt_iff_bytes_lt {s t : String} : s < t ↔ bytes s < bytes t := by
  have forward : ∀ {s t : String}, s < t → bytes s < bytes t := fun {s t} less => by
    rw [bytes_eq_flatMap, bytes_eq_flatMap]
    exact flatMap_encode_lt (String.lt_iff.1 less)
  refine ⟨forward, fun h => ?_⟩
  by_contra not_less
  by_cases greater : t < s
  · exact List.lt_asymm h (forward greater)
  · cases String.le_antisymm (String.not_lt.1 greater) (String.not_lt.1 not_less)
    exact List.lt_irrefl _ h

end ActivityMetrics.Text
