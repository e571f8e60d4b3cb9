import CompactSchema.Json.Writer

/-
Written JSON stands on one line.

Strings escape every character below the blank, and numbers and marks have none, so no
written value breaks a line, whatever strings it holds.
-/

namespace CompactSchema

/-- The text has no character below the blank, so no line ends in it. -/
def Unbroken (chars : List Char) : Prop := ∀ c ∈ chars, ' ' ≤ c

@[simp] theorem unbroken_nil : Unbroken [] := nofun

@[simp] theorem unbroken_cons {c : Char} {chars : List Char} :
    Unbroken (c :: chars) ↔ ' ' ≤ c ∧ Unbroken chars :=
  List.forall_mem_cons

@[simp] theorem unbroken_append {left right : List Char} :
    Unbroken (left ++ right) ↔ Unbroken left ∧ Unbroken right :=
  List.forall_mem_append

theorem unbroken_toDigits (n : Nat) : Unbroken (Nat.toDigits 10 n) := by
  intro c inside
  have digit : c.isDigit = true := Nat.isDigit_of_mem_toDigits (by decide) (by decide) inside
  have bounds : 48 ≤ c.val ∧ c.val ≤ 57 := by
    simpa [Char.isDigit] using digit
  have above : '0' ≤ c := bounds.1
  exact Char.le_trans (by decide) above

theorem unbroken_digitChars (n : Nat) : Unbroken (digitChars n) := by
  unfold digitChars
  split
  · exact unbroken_nil
  · exact unbroken_toDigits n

theorem unbroken_intChars (n : Int) : Unbroken (intChars n) := by
  unfold intChars
  split
  · exact unbroken_cons.2 ⟨by decide, unbroken_toDigits _⟩
  · exact unbroken_toDigits _

theorem unbroken_zeros (count : Nat) : Unbroken (List.replicate count '0') := by
  intro c inside
  rw [List.eq_of_mem_replicate inside]
  decide

namespace Layout

theorem unbroken_positional (layout : Layout) (d : Decimal) : Unbroken (layout.positional d) := by
  have digits := unbroken_digitChars d.digits
  have before (n : Nat) : Unbroken ((digitChars d.digits).take n) :=
    fun c inside => digits c (List.mem_of_mem_take inside)
  have behind (n : Nat) : Unbroken ((digitChars d.digits).drop n) :=
    fun c inside => digits c (List.mem_of_mem_drop inside)
  unfold positional
  dsimp only
  split
  · split
    · simp [digits, unbroken_zeros]
    · simp [digits, unbroken_zeros]
  · split
    · simp [before, behind]
    · simp [digits, unbroken_zeros]

theorem unbroken_scientific (layout : Layout) (d : Decimal) : Unbroken (layout.scientific d) := by
  have digits := unbroken_digitChars d.digits
  unfold scientific
  dsimp only
  rw [unbroken_append]
  constructor
  · split
    · rename_i shape
      rw [shape] at digits
      simpa using digits
    · exact digits
  · split
    · simp [unbroken_intChars]
    · simp [unbroken_intChars]

theorem unbroken_unsignedChars (layout : Layout) (units : Nat) :
    Unbroken (layout.unsignedChars units) := by
  unfold unsignedChars
  dsimp only
  split
  · split
    · simp
    · simp
  · split
    · exact layout.unbroken_positional _
    · exact layout.unbroken_scientific _

theorem unbroken_finiteChars (layout : Layout) (x : Finite64) : Unbroken (layout.finiteChars x) := by
  unfold finiteChars
  split
  · exact unbroken_cons.2 ⟨by decide, layout.unbroken_unsignedChars _⟩
  · exact layout.unbroken_unsignedChars _

end Layout

namespace Json

theorem unbroken_numberChars (n : Number) : Unbroken (numberChars n) := by
  cases n with
  | integer n fits => exact unbroken_intChars n
  | float x => exact Layout.json.unbroken_finiteChars x

theorem blank_le_hexDigit {n : Nat} (small : n < 16) : ' ' ≤ hexDigit n := by
  revert n
  decide

theorem unbroken_escape (c : Char) : Unbroken (escape c) := by
  unfold escape
  split
  any_goals simp
  · split
    · rename_i low
      have small : c.toNat < 32 := low
      have high : ' ' ≤ hexDigit (c.toNat / 16) := blank_le_hexDigit (by omega)
      have last : ' ' ≤ hexDigit (c.toNat % 16) := blank_le_hexDigit (Nat.mod_lt _ (by decide))
      simp [high, last]
    · rename_i high
      simpa using high

theorem unbroken_writeChars (chars : List Char) {rest : List Char} (unbroken : Unbroken rest) :
    Unbroken (writeChars chars rest) := by
  induction chars with
  | nil => exact unbroken_cons.2 ⟨by decide, unbroken⟩
  | cons c chars ih => exact unbroken_append.2 ⟨unbroken_escape c, ih⟩

theorem unbroken_writeString (s : String) {rest : List Char} (unbroken : Unbroken rest) :
    Unbroken (writeString s rest) :=
  unbroken_cons.2 ⟨by decide, unbroken_writeChars s.toList unbroken⟩

mutual

theorem unbroken_write (value : Json) {rest : List Char} (unbroken : Unbroken rest) :
    Unbroken (write value rest) := by
  cases value with
  | null => simp [write, unbroken]
  | boolean value => cases value <;> simp [write, unbroken]
  | number n => exact unbroken_append.2 ⟨unbroken_numberChars n, unbroken⟩
  | string s => exact unbroken_writeString s unbroken
  | array elements =>
      cases elements with
      | nil => simp [write, unbroken]
      | cons first others =>
          rw [write, unbroken_cons]
          exact ⟨by decide, unbroken_write first (unbroken_writeElements others unbroken)⟩
  | object members =>
      cases members with
      | nil => simp [write, unbroken]
      | cons first others =>
          obtain ⟨name, value⟩ := first
          rw [write, unbroken_cons]
          exact ⟨by decide, unbroken_writeString name <| unbroken_cons.2
            ⟨by decide, unbroken_write value (unbroken_writeMembers others unbroken)⟩⟩

theorem unbroken_writeElements (elements : List Json) {rest : List Char} (unbroken : Unbroken rest) :
    Unbroken (writeElements elements rest) := by
  cases elements with
  | nil => simp [writeElements, unbroken]
  | cons element others =>
      rw [writeElements, unbroken_cons]
      exact ⟨by decide, unbroken_write element (unbroken_writeElements others unbroken)⟩

theorem unbroken_writeMembers (members : List (String × Json)) {rest : List Char}
    (unbroken : Unbroken rest) : Unbroken (writeMembers members rest) := by
  cases members with
  | nil => simp [writeMembers, unbroken]
  | cons member others =>
      obtain ⟨name, value⟩ := member
      rw [writeMembers, unbroken_cons]
      exact ⟨by decide, unbroken_writeString name <| unbroken_cons.2
        ⟨by decide, unbroken_write value (unbroken_writeMembers others unbroken)⟩⟩

end

theorem unbroken_text (value : Json) : Unbroken value.text.toList := by
  unfold text
  rw [String.toList_ofList]
  exact unbroken_write value unbroken_nil

end Json
end CompactSchema
