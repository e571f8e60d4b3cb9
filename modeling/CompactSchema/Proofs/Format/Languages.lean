import CompactSchema.Proofs.Format.Shapes
import CompactSchema.Proofs.Regex.Blocks

/-
The texts of the three fixed shapes.

What the recognisers accept is said without expressions: an address by its separators, an
identifier place by place, a telephone number by its sign and its digits.
-/

namespace CompactSchema
namespace Format

open Regex (Spells fits_chars_iff fits_one fits_repeated_iff isMatch_whole_iff_blocks isMatch_whole_iff_spells
  isSpelt_chars isSpelt_exactly spells_map_range_iff)
open Unicode.WhiteSpace (isSpace)

theorem contains_span_iff {low high c : Char} :
    (CharSet.span low.toNat high.toNat).contains c = true ↔ low ≤ c ∧ c ≤ high := by
  simp only [CharSet.span, CharSet.contains, CharSet.containsCode, Unicode.inRanges, Char.le_def,
    UInt32.le_iff_toNat_le, Char.toNat_val]
  split <;> simp <;> omega

theorem contains_spans_iff {low high low' high' c : Char} (apart : high.toNat < low'.toNat) :
    (CharSet.ranges [(low.toNat, high.toNat), (low'.toNat, high'.toNat)]).contains c = true ↔
      (low ≤ c ∧ c ≤ high) ∨ (low' ≤ c ∧ c ≤ high') := by
  simp only [CharSet.contains, CharSet.containsCode, Unicode.inRanges, Char.le_def, UInt32.le_iff_toNat_le,
    Char.toNat_val]
  split
  · split <;> simp <;> omega
  · simp
    omega

theorem contains_single_iff {d c : Char} : (CharSet.single d).contains c = true ↔ c = d := by
  rw [CharSet.single, contains_span_iff, and_comm]
  exact Std.le_antisymm_iff

theorem fits_one_iff {c : Char} {text : List Char} : (one c).Fits text ↔ text = [c] := by
  constructor
  · intro fits
    obtain ⟨d, rfl, inside⟩ := fits_chars_iff.1 fits
    rw [contains_single_iff.1 inside]
  · rintro rfl
    exact fits_one c

theorem addressChars_iff {c : Char} : addressChars.contains c = true ↔ isSpace c = false ∧ c ≠ '@' := by
  have parts : addressChars.contains c = !(isSpace c || (CharSet.single '@').contains c) := rfl
  rw [parts, Bool.not_eq_true', Bool.or_eq_false_iff, ← Bool.not_eq_true ((CharSet.single '@').contains c),
    contains_single_iff]

theorem asciiDigits_iff {c : Char} : CharSet.asciiDigits.contains c = true ↔ c.isDigit = true := by
  rw [Char.isDigit, Bool.and_eq_true, decide_eq_true_iff, decide_eq_true_iff]
  have span : (CharSet.span '0'.toNat '9'.toNat).contains c = true ↔ '0' ≤ c ∧ c ≤ '9' := contains_span_iff
  exact span

/-- A name and a domain around the only `@`, with a dot inside the domain and without white
space. -/
def IsAddress (text : List Char) : Prop :=
  (∀ c ∈ text, isSpace c = false) ∧ text.count '@' = 1 ∧
    ∃ name domain, text = name ++ '@' :: domain ∧ name ≠ [] ∧
      ∃ host rest, domain = host ++ '.' :: rest ∧ host ≠ [] ∧ rest ≠ []

theorem isAddressPart_iff {part : List Char} :
    IsAddressPart part ↔ part ≠ [] ∧ (∀ c ∈ part, isSpace c = false) ∧ part.count '@' = 0 := by
  rw [List.count_eq_zero]
  simp only [IsAddressPart, addressChars_iff, forall_and]
  refine and_congr_right fun _ => and_congr_right fun _ => ?_
  constructor
  · exact fun others inside => others '@' inside rfl
  · rintro absent c inside rfl
    exact absent inside

theorem fits_oneOrMore_iff {part : List Char} :
    (oneOrMore addressChars).Fits part ↔ IsAddressPart part := by
  rw [oneOrMore, fits_repeated_iff (by nofun), IsAddressPart, ← List.length_pos_iff]
  constructor
  · rintro ⟨all, some, _⟩
    exact ⟨some, all⟩
  · rintro ⟨some, all⟩
    exact ⟨all, some, nofun⟩

theorem isEmail_iff_parts (text : String) :
    isEmail text = true ↔ ∃ name host rest, IsAddressPart name ∧ IsAddressPart host ∧ IsAddressPart rest ∧
      name ++ '@' :: (host ++ '.' :: rest) = text.toList := by
  constructor
  · rw [isEmail, emailRegex, isMatch_whole_iff_blocks (by decide)]
    rintro ⟨blocks, fits, whole⟩
    rcases fits with _ | ⟨named, _ | ⟨signed, _ | ⟨hosted, _ | ⟨dotted, _ | ⟨last, _ | _⟩⟩⟩⟩⟩
    rw [fits_one_iff.1 signed, fits_one_iff.1 dotted] at whole
    simp only [List.flatten_cons, List.flatten_nil, List.append_nil, List.cons_append, List.nil_append] at whole
    exact ⟨_, _, _, fits_oneOrMore_iff.1 named, fits_oneOrMore_iff.1 hosted, fits_oneOrMore_iff.1 last, whole⟩
  · rintro ⟨name, host, rest, named, hosted, last, parts⟩
    have email := isEmail_of_parts named hosted last
    rwa [parts, String.ofList_toList] at email

theorem plain_iff_of_parts (name host rest : List Char) :
    (∀ c ∈ name ++ '@' :: (host ++ '.' :: rest), isSpace c = false) ↔
      (∀ c ∈ name, isSpace c = false) ∧ (∀ c ∈ host, isSpace c = false) ∧
        ∀ c ∈ rest, isSpace c = false := by
  have sign : isSpace '@' = false := by decide
  have dot : isSpace '.' = false := by decide
  simp only [List.forall_mem_append, List.forall_mem_cons, sign, dot, true_and]

theorem count_of_parts (name host rest : List Char) :
    (name ++ '@' :: (host ++ '.' :: rest)).count '@' =
      name.count '@' + (host.count '@' + rest.count '@') + 1 := by
  have other : ('.' == '@') = false := by decide
  simp only [List.count_append, List.count_cons, other, beq_self_eq_true, if_true, Bool.false_eq_true, if_false]
  omega

theorem isEmail_iff (text : String) : isEmail text = true ↔ IsAddress text.toList := by
  rw [isEmail_iff_parts]
  simp only [isAddressPart_iff]
  constructor
  · rintro ⟨name, host, rest, ⟨someName, plainName, noneName⟩, ⟨someHost, plainHost, noneHost⟩,
      ⟨someRest, plainRest, noneRest⟩, parts⟩
    rw [← parts]
    refine ⟨(plain_iff_of_parts name host rest).2 ⟨plainName, plainHost, plainRest⟩, ?_, name, _, rfl,
      someName, host, rest, rfl, someHost, someRest⟩
    rw [count_of_parts, noneName, noneHost, noneRest]
  · rintro ⟨plain, once, name, _, parts, someName, host, rest, rfl, someHost, someRest⟩
    rw [parts] at plain once
    obtain ⟨plainName, plainHost, plainRest⟩ := (plain_iff_of_parts name host rest).1 plain
    rw [count_of_parts] at once
    have noneName : name.count '@' = 0 := by omega
    have noneHost : host.count '@' = 0 := by omega
    have noneRest : rest.count '@' = 0 := by omega
    exact ⟨name, host, rest, ⟨someName, plainName, noneName⟩, ⟨someHost, plainHost, noneHost⟩,
      ⟨someRest, plainRest, noneRest⟩, parts.symm⟩

/-- The characters that may stand at a place of an identifier. -/
def IsIdentifierChar (place : Nat) (c : Char) : Prop :=
  if place = 8 ∨ place = 13 ∨ place = 18 ∨ place = 23 then c = '-'
  else if place = 14 then '1' ≤ c ∧ c ≤ '5'
  else if place = 19 then c = '8' ∨ c = '9' ∨ c = 'a' ∨ c = 'b'
  else ('0' ≤ c ∧ c ≤ '9') ∨ ('a' ≤ c ∧ c ≤ 'f')

def IsIdentifier (text : List Char) : Prop :=
  text.length = 36 ∧ ∀ place c, text[place]? = some c → IsIdentifierChar place c

def identifierChars (place : Nat) : CharSet :=
  if place = 8 ∨ place = 13 ∨ place = 18 ∨ place = 23 then .single '-'
  else if place = 14 then .span 0x31 0x35
  else if place = 19 then .ranges [(0x38, 0x39), (0x61, 0x62)]
  else hexChars

theorem identifierChars_iff {place : Nat} {c : Char} :
    (identifierChars place).contains c = true ↔ IsIdentifierChar place c := by
  have version : (CharSet.span '1'.toNat '5'.toNat).contains c = true ↔ '1' ≤ c ∧ c ≤ '5' :=
    contains_span_iff
  have digits : (CharSet.ranges [('0'.toNat, '9'.toNat), ('a'.toNat, 'f'.toNat)]).contains c = true ↔
      ('0' ≤ c ∧ c ≤ '9') ∨ ('a' ≤ c ∧ c ≤ 'f') := contains_spans_iff (by decide)
  have variant : (CharSet.ranges [('8'.toNat, '9'.toNat), ('a'.toNat, 'b'.toNat)]).contains c = true ↔
      c = '8' ∨ c = '9' ∨ c = 'a' ∨ c = 'b' := by
    rw [contains_spans_iff (by decide)]
    simp only [Char.le_def, UInt32.le_iff_toNat_le, Char.toNat_val, ← Char.toNat_inj, Char.reduceToNat]
    omega
  unfold identifierChars IsIdentifierChar
  split
  · exact contains_single_iff
  · split
    · exact version
    · split
      · exact variant
      · exact digits

theorem isUuid_iff (text : String) : isUuid text = true ↔ IsIdentifier text.toList := by
  have spelt : isUuid text = true ↔ Spells ((List.range 36).map identifierChars) text.toList :=
    -- In a row, the sets of the parts are those of the places.
    isMatch_whole_iff_spells (by decide) <|
      .cons (isSpelt_exactly 8 hexChars) <| .cons (isSpelt_chars (.single '-')) <|
      .cons (isSpelt_exactly 4 hexChars) <| .cons (isSpelt_chars (.single '-')) <|
      .cons (isSpelt_chars (.span 0x31 0x35)) <| .cons (isSpelt_exactly 3 hexChars) <|
      .cons (isSpelt_chars (.single '-')) <|
      .cons (isSpelt_chars (.ranges [(0x38, 0x39), (0x61, 0x62)])) <| .cons (isSpelt_exactly 3 hexChars) <|
      .cons (isSpelt_chars (.single '-')) <| .cons (isSpelt_exactly 12 hexChars) .nil
  rw [spelt, spells_map_range_iff]
  simp only [identifierChars_iff, IsIdentifier]

/-- Ten to fifteen digits of ASCII, perhaps behind a plus sign. -/
def IsTelephoneNumber (text : List Char) : Prop :=
  ∃ sign digits, text = sign ++ digits ∧ (sign = [] ∨ sign = ['+']) ∧
    10 ≤ digits.length ∧ digits.length ≤ 15 ∧ ∀ c ∈ digits, c.isDigit = true

theorem sign_of_fits {sign : List Char} (fits : (Regex.repeated (one '+') 0 (some 1) true).Fits sign) :
    sign = [] ∨ sign = ['+'] := by
  obtain ⟨all, _, most⟩ := (fits_repeated_iff (by rintro _ ⟨⟩; exact Nat.zero_le 1)).1 fits
  match sign, most 1 rfl with
  | [], _ => exact .inl rfl
  | [c], _ => exact .inr (congrArg ([·]) (contains_single_iff.1 (all c (List.mem_singleton_self c))))

theorem isPhoneNumber_iff (text : String) : isPhoneNumber text = true ↔ IsTelephoneNumber text.toList := by
  constructor
  · rw [isPhoneNumber, phoneRegex, isMatch_whole_iff_blocks (by decide)]
    rintro ⟨blocks, fits, whole⟩
    rcases fits with _ | ⟨signed, _ | ⟨numbered, _ | _⟩⟩
    obtain ⟨all, least, most⟩ := (fits_repeated_iff (by rintro _ ⟨⟩; decide)).1 numbered
    simp only [List.flatten_cons, List.flatten_nil, List.append_nil] at whole
    refine ⟨_, _, whole.symm, sign_of_fits signed, least, most 15 rfl, fun c inside => ?_⟩
    exact asciiDigits_iff.1 (all c inside)
  · rintro ⟨sign, digits, parts, signed, least, most, all⟩
    have number := isPhoneNumber_of_digits signed all least most
    rwa [← parts, String.ofList_toList] at number

/-- The recognisers accept exactly the texts of their shapes. -/
theorem recognisers_exact (text : String) :
    (isEmail text = true ↔ IsAddress text.toList) ∧ (isUuid text = true ↔ IsIdentifier text.toList) ∧
      (isPhoneNumber text = true ↔ IsTelephoneNumber text.toList) :=
  ⟨isEmail_iff text, isUuid_iff text, isPhoneNumber_iff text⟩

/-- A domain may begin with a dot if another one follows. -/
example : isEmail "a@.b.c" = true ∧ isEmail "a@.bc" = false := by decide +kernel

end Format
end CompactSchema
