import CompactSchema.Proofs.Text.Octets

/-
What octets stand for.

The octets of a text are read and shown as that text.  An octet below 128 is a character of its
own wherever it stands.
-/

namespace CompactSchema

theorem octets_append (front behind : String) : octets (front ++ behind) = octets front ++ octets behind := by
  rw [octets_eq, octets_eq, octets_eq, String.toList_append, List.flatMap_append]

/-- The octets of longer characters are all at least 128. -/
theorem eq_of_mem_utf8EncodeChar {c : Char} {m : Nat} (ascii : m < 128)
    (inside : UInt8.ofNat m ∈ String.utf8EncodeChar c) : c.toNat = m := by
  change c.val.toNat = m
  unfold String.utf8EncodeChar at inside
  dsimp only at inside
  generalize c.val.toNat = v at inside
  split_ifs at inside <;>
    simp (disch := omega) only [List.mem_cons, List.not_mem_nil, or_false, octet_eq_iff] at inside <;> omega

theorem not_mem_octets {text : String} (mark : Char) (ascii : mark.toNat < 128)
    (plain : mark ∉ text.toList) : UInt8.ofNat mark.toNat ∉ octets text := by
  rw [octets_eq, List.mem_flatMap]
  intro inside
  rcases inside with ⟨c, member, inside⟩
  have same : c = mark := Char.toNat_inj.1 (eq_of_mem_utf8EncodeChar ascii inside)
  exact plain (same ▸ member)

namespace Utf8

theorem text?_eq_some_iff {bytes : List UInt8} {text : String} :
    text? bytes = some text ↔ bytes = octets text := by
  unfold text? String.fromUTF8? octets
  constructor
  · intro read
    split at read
    · cases read
      exact (List.toList_toArray).symm
    · cases read
  · intro same
    subst same
    have whole : (⟨text.toUTF8.data.toList.toArray⟩ : ByteArray) = text.toByteArray := by
      rw [Array.toArray_toList]
      rfl
    rw [whole, dif_pos text.isValidUTF8]
    rfl

theorem text?_octets (text : String) : text? (octets text) = some text := text?_eq_some_iff.2 rfl

end Utf8
end CompactSchema
