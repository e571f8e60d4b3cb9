import CompactSchema.Proofs.Format.Shapes
import CompactSchema.Random.Source

/-
A source without chance.

The source always gives its least answer, and keeps its promises: it stands for the
sources of which nothing else is known.
-/

namespace CompactSchema
namespace RandomSource

def leastUuid : Uuid := (Uuid.ofOctets []).version4

/-- The source that gives the least answer to every request. -/
def least : RandomSource Unit where
  intInRange lo _ := pure lo
  floatInRange lo _ := pure lo
  boolean := pure false
  index _ := pure 0
  alpha length := pure (String.ofList (List.replicate length 'a'))
  email := pure "a@a.a"
  phoneNumber := pure "0000000000"
  dateTime := pure .epoch
  uuid := pure leastUuid

theorem isAlpha_replicate (length : Nat) : IsAlpha length (String.ofList (List.replicate length 'a')) := by
  rw [IsAlpha, String.toList_ofList]
  refine ⟨List.length_replicate, fun c inside => ?_⟩
  rw [List.eq_of_mem_replicate inside]
  exact .inl (by decide)

theorem least_contract : least.Contract where
  intInRange lo hi state ordered := ⟨Int64.le_refl lo, ordered⟩
  floatInRange lo hi state finiteLo finiteHi ordered := by
    refine ⟨finiteLo, ?_, ordered⟩
    cases lo with
    | finite x =>
        show Binary64.le (.finite x) (.finite x) = true
        simp [Binary64.le, Binary64.same]
    | _ => cases finiteLo
  index count state positive := positive
  alpha length state := isAlpha_replicate length
  email state := by
    have part : Format.IsAddressPart ['a'] := ⟨List.cons_ne_nil _ _, List.forall_mem_singleton.2 (by decide)⟩
    have text : "a@a.a" = String.ofList (['a'] ++ '@' :: (['a'] ++ '.' :: ['a'])) := rfl
    show Format.isEmail "a@a.a" = true
    rw [text]
    exact Format.isEmail_of_parts part part part
  phoneNumber state := by
    have zeros : ∀ c ∈ List.replicate 10 '0', c.isDigit = true := fun c inside => by
      rw [List.eq_of_mem_replicate inside]
      rfl
    have text : "0000000000" = String.ofList ([] ++ List.replicate 10 '0') := rfl
    show Format.isPhoneNumber "0000000000" = true
    rw [text]
    exact Format.isPhoneNumber_of_digits (.inl rfl) zeros (by decide) (by decide)
  dateTime state := by
    show 0 ≤ Instant.epoch.date.year ∧ Instant.epoch.date.year ≤ 9999
    decide
  uuid state := (Uuid.isUuid_text_version4 _).1

end RandomSource
end CompactSchema
