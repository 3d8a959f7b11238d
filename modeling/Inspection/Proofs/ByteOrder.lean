import Mathlib.Data.List.Basic

/-!
# The order of bytes

Texts are compared by code point.  This is the order of their UTF-8 bytes: a
character with the smaller code point has the smaller encoding, at the first
byte in which the two differ, and none is the beginning of another.
-/

namespace Inspection

namespace Text

/-- The UTF-8 bytes of a text. -/
def bytes (text : String) : List UInt8 :=
  text.toUTF8.data.toList

theorem bytes_eq_flatMap (text : String) :
    bytes text = text.toList.flatMap String.utf8EncodeChar := by
  have hbytes : text.toUTF8 = text.toList.utf8Encode := String.utf8Encode_toList.symm
  rw [bytes, hbytes, List.utf8Encode]
  exact List.toList_data_toByteArray

theorem ofNat_cons_lt_iff {m n : Nat} (hm : m < 256) (hn : n < 256) (xs ys : List UInt8) :
    UInt8.ofNat m :: xs < UInt8.ofNat n :: ys ↔ m < n ∨ m = n ∧ xs < ys := by
  rw [List.cons_lt_cons_iff, UInt8.lt_iff_toNat_lt, ← UInt8.toNat_inj,
    UInt8.toNat_ofNat_of_lt' hm, UInt8.toNat_ofNat_of_lt' hn]

theorem encode_ne_nil (c : Char) : String.utf8EncodeChar c ≠ [] := by
  rw [← List.length_pos_iff, String.length_utf8EncodeChar]
  exact c.utf8Size_pos

theorem encode_append_lt {c d : Char} (h : c < d) (xs ys : List UInt8) :
    String.utf8EncodeChar c ++ xs < String.utf8EncodeChar d ++ ys := by
  have hlt : c.val.toNat < d.val.toNat := h
  have hmax : d.val.toNat < 1114112 := by
    have hvalid : d.val.toNat.isValidChar := d.valid
    rcases hvalid with hsmall | ⟨-, hlarge⟩ <;> omega
  unfold String.utf8EncodeChar
  dsimp only
  generalize c.val.toNat = m at *
  generalize d.val.toNat = n at *
  -- the numbers of bytes of the two encodings, from one to four
  split_ifs
  all_goals
    simp (disch := omega) only [List.cons_append, List.nil_append, ofNat_cons_lt_iff]
  all_goals try omega
  -- four bytes each, of which the first keeps all the bits that are left for it
  have hm : m / 262144 % 8 = m / 262144 := Nat.mod_eq_of_lt (by omega)
  have hn : n / 262144 % 8 = n / 262144 := Nat.mod_eq_of_lt (by omega)
  rw [hm, hn]
  omega

theorem flatMap_encode_lt {xs ys : List Char} (h : List.Lex (· < ·) xs ys) :
    xs.flatMap String.utf8EncodeChar < ys.flatMap String.utf8EncodeChar := by
  induction h with
  | @nil d ys =>
      obtain ⟨byte, rest, hencode⟩ := List.exists_cons_of_ne_nil (encode_ne_nil d)
      rw [List.flatMap_nil, List.flatMap_cons, hencode]
      exact List.Lex.nil
  | cons _ ih =>
      rw [List.flatMap_cons, List.flatMap_cons]
      exact List.append_left_lt ih
  | rel hlt =>
      rw [List.flatMap_cons, List.flatMap_cons]
      exact encode_append_lt hlt _ _

theorem bytes_lt_of_lt {x y : String} (h : x < y) : bytes x < bytes y := by
  rw [bytes_eq_flatMap, bytes_eq_flatMap]
  exact flatMap_encode_lt (String.lt_iff.mp h)

end Text

end Inspection
