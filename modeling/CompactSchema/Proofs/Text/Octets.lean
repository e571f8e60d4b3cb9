import CompactSchema.Text.Octets
import Mathlib.Data.List.Sort

/-
The order of texts and of their octets.

UTF-8 keeps the order of characters: a character with more octets begins with a greater one,
and behind equal beginnings the octets are digits to the base 64.  So texts are ordered by
their characters as they are by their octets.
-/

namespace CompactSchema

theorem octets_eq (text : String) : octets text = text.toList.flatMap String.utf8EncodeChar := by
  unfold octets
  rw [String.toUTF8_eq_toByteArray, ← String.utf8Encode_toList]
  unfold List.utf8Encode
  rw [List.data_toByteArray]

theorem octet_lt_iff {m n : Nat} (left : m < 256) (right : n < 256) :
    UInt8.ofNat m < UInt8.ofNat n ↔ m < n := by
  rw [UInt8.lt_iff_toNat_lt, UInt8.toNat_ofNat_of_lt' left, UInt8.toNat_ofNat_of_lt' right]

theorem octet_eq_iff {m n : Nat} (left : m < 256) (right : n < 256) :
    UInt8.ofNat m = UInt8.ofNat n ↔ m = n := by
  rw [← UInt8.toNat_inj, UInt8.toNat_ofNat_of_lt' left, UInt8.toNat_ofNat_of_lt' right]

/-- The octets of the smaller character come first, whatever follows. -/
theorem utf8EncodeChar_append_lt {c d : Char} (less : c < d) (left right : List UInt8) :
    String.utf8EncodeChar c ++ left < String.utf8EncodeChar d ++ right := by
  have order : c.val.toNat < d.val.toNat := less
  have limit : d.val.toNat < 1114112 := by
    rcases d.valid with low | high
    · exact Nat.lt_trans low (by decide)
    · exact high.2
  have digits (code : Nat) (small : code < 1114112) :
      code / 64 / 64 = code / 4096 ∧ code / 4096 / 64 = code / 262144 ∧
        code / 262144 % 8 = code / 262144 := by omega
  obtain ⟨second, third, last⟩ := digits c.val.toNat (by omega)
  obtain ⟨second', third', last'⟩ := digits d.val.toNat limit
  unfold String.utf8EncodeChar
  dsimp only
  rw [last, last']
  -- one case for each number of octets of either character
  split_ifs <;>
    simp (disch := omega) only [List.cons_append, List.nil_append, List.cons_lt_cons_iff, octet_lt_iff,
      octet_eq_iff] <;> omega

theorem flatMap_utf8EncodeChar_lt {left right : List Char} (less : left < right) :
    left.flatMap String.utf8EncodeChar < right.flatMap String.utf8EncodeChar := by
  induction less with
  | @nil c rest =>
      cases encoded : String.utf8EncodeChar c with
      | nil => exact absurd encoded String.utf8EncodeChar_ne_nil
      | cons first others =>
          rw [List.flatMap_cons, encoded]
          exact List.nil_lt_cons _ _
  | cons _ ih => exact List.append_left_lt ih
  | rel less => exact utf8EncodeChar_append_lt less _ _

theorem octets_lt_octets {left right : String} (less : left < right) : octets left < octets right := by
  rw [octets_eq, octets_eq]
  exact flatMap_utf8EncodeChar_lt less

theorem octets_le_iff {left right : String} : octets left ≤ octets right ↔ left ≤ right := by
  constructor
  · intro notAbove
    apply String.not_lt.1
    intro less
    exact notAbove (octets_lt_octets less)
  · intro le above
    by_cases same : left = right
    · rw [same] at above
      exact List.lt_irrefl _ above
    · have less : left < right := by
        apply String.not_le.1
        intro ge
        exact same (String.le_antisymm le ge)
      exact List.lt_asymm above (octets_lt_octets less)

end CompactSchema
