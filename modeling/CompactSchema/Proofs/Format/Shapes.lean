import CompactSchema.Proofs.Calendar.Padded
import CompactSchema.Proofs.Regex.Whole
import CompactSchema.Uuid

/-
Texts of the three fixed shapes.

A text is recognised if it falls into blocks that the parts of the expression fit: an
address into a local part, a host and a domain, a telephone number into its digits, an
identifier into groups of digits of which two begin with the version and the variant.
-/

namespace CompactSchema

open Regex (Fits contains_single fits_chars fits_one fits_repeated isMatch_whole)

namespace Format

theorem asciiDigits_of_isDigit {c : Char} (digit : c.isDigit = true) :
    CharSet.asciiDigits.contains c = true := by
  obtain ⟨low, high⟩ := toNat_of_isDigit digit
  simp [CharSet.asciiDigits, CharSet.contains, CharSet.span, CharSet.containsCode, Unicode.inRanges,
    low, high]

theorem addressChars_of_isDigit {c : Char} (digit : c.isDigit = true) :
    addressChars.contains c = true := by
  obtain ⟨low, high⟩ := toNat_of_isDigit digit
  have plain : CharSet.space.contains c = false := Unicode.WhiteSpace.isSpace_of_isDigit digit
  have other : (CharSet.single '@').contains c = false := by
    have before : ¬ 64 ≤ c.toNat := by omega
    simp [CharSet.single, CharSet.span, CharSet.contains, CharSet.containsCode, Unicode.inRanges, before]
  show (!(CharSet.space.contains c || (CharSet.single '@').contains c)) = true
  rw [plain, other]
  rfl

theorem hexChars_hexDigit {n : Nat} (small : n < 16) : hexChars.contains (Json.hexDigit n) = true := by
  revert n
  decide

/-- The digits from 8 to 11 name the variant. -/
theorem variantChars_hexDigit {n : Nat} (low : 8 ≤ n) (high : n ≤ 11) :
    (CharSet.ranges [(0x38, 0x39), (0x61, 0x62)]).contains (Json.hexDigit n) = true := by
  have digits : ∀ m < 4,
      (CharSet.ranges [(0x38, 0x39), (0x61, 0x62)]).contains (Json.hexDigit (8 + m)) = true := by
    decide
  have digit := digits (n - 8) (by omega)
  rwa [Nat.add_sub_cancel' low] at digit

theorem fits_oneOrMore {set : CharSet} {block : List Char} (some : block ≠ [])
    (all : ∀ c ∈ block, set.contains c = true) : (oneOrMore set).Fits block :=
  fits_repeated all (List.length_pos_iff.2 some) nofun

theorem fits_exactly {set : CharSet} {count : Nat} {block : List Char} (length : block.length = count)
    (all : ∀ c ∈ block, set.contains c = true) : (exactly count set).Fits block := by
  refine fits_repeated all (Nat.le_of_eq length.symm) fun limit same => ?_
  cases same
  exact Nat.le_of_eq length

/-- Characters that an address may have around its separators, and at least one. -/
def IsAddressPart (part : List Char) : Prop := part ≠ [] ∧ ∀ c ∈ part, addressChars.contains c = true

theorem isEmail_of_parts {name host domain : List Char} (named : IsAddressPart name)
    (hosted : IsAddressPart host) (last : IsAddressPart domain) :
    isEmail (String.ofList (name ++ '@' :: (host ++ '.' :: domain))) = true := by
  have blocks : name ++ '@' :: (host ++ '.' :: domain) = [name, ['@'], host, ['.'], domain].flatten := by
    simp
  rw [isEmail, String.toList_ofList, blocks]
  exact isMatch_whole <|
    .cons (fits_oneOrMore named.1 named.2) <| .cons (fits_one '@') <|
    .cons (fits_oneOrMore hosted.1 hosted.2) <| .cons (fits_one '.') <|
    .cons (fits_oneOrMore last.1 last.2) .nil

theorem isPhoneNumber_of_digits {sign digits : List Char} (signed : sign = [] ∨ sign = ['+'])
    (all : ∀ c ∈ digits, c.isDigit = true) (enough : 10 ≤ digits.length) (few : digits.length ≤ 15) :
    isPhoneNumber (String.ofList (sign ++ digits)) = true := by
  have blocks : sign ++ digits = [sign, digits].flatten := by
    simp
  have plus : (Regex.repeated (one '+') 0 (some 1) true).Fits sign := by
    refine fits_repeated (fun c inside => ?_) (Nat.zero_le _) fun limit same => ?_
    · rcases signed with rfl | rfl
      · cases inside
      · rw [List.mem_singleton.1 inside]
        exact contains_single '+'
    · cases same
      rcases signed with rfl | rfl <;> decide
  have number : (Regex.repeated (.chars .asciiDigits) 10 (some 15) true).Fits digits := by
    refine fits_repeated (fun c inside => asciiDigits_of_isDigit (all c inside)) enough fun limit same => ?_
    cases same
    exact few
  rw [isPhoneNumber, String.toList_ofList, blocks]
  exact isMatch_whole (.cons plus (.cons number .nil))

end Format

namespace Uuid

open Format

theorem hexChars_of_mem_octetChars {octet : UInt8} {c : Char} (inside : c ∈ octetChars octet) :
    hexChars.contains c = true := by
  have bound := octet.toNat_lt
  simp only [octetChars, List.mem_cons, List.not_mem_nil, or_false] at inside
  rcases inside with rfl | rfl
  · exact hexChars_hexDigit (by omega)
  · exact hexChars_hexDigit (by omega)

theorem hexChars_of_mem_groupChars {id : Uuid} {start count : Nat} {c : Char}
    (inside : c ∈ id.groupChars start count) : hexChars.contains c = true := by
  obtain ⟨octet, _, digit⟩ := List.mem_flatMap.1 inside
  exact hexChars_of_mem_octetChars digit

theorem length_flatMap_octetChars (octets : List UInt8) :
    (octets.flatMap octetChars).length = 2 * octets.length := by
  induction octets with
  | nil => rfl
  | cons octet octets ih =>
      rw [List.flatMap_cons, List.length_append, ih]
      show 2 + 2 * octets.length = 2 * (octets.length + 1)
      omega

theorem length_groupChars (id : Uuid) {start count : Nat} (inside : start + count ≤ 16) :
    (id.groupChars start count).length = 2 * count := by
  rw [groupChars, length_flatMap_octetChars, List.length_take, List.length_drop, Vector.length_toList]
  omega

theorem fits_groupChars (id : Uuid) {start count : Nat} (inside : start + count ≤ 16) :
    (exactly (2 * count) hexChars).Fits (id.groupChars start count) :=
  fits_exactly (id.length_groupChars inside) fun _ digit => hexChars_of_mem_groupChars digit

theorem exists_groupChars_two (id : Uuid) {start : Nat} (inside : start + 1 < 16) :
    ∃ others, id.groupChars start 2 = Json.hexDigit (id.octets[start].toNat / 16) :: others ∧
      others.length = 3 ∧ ∀ c ∈ others, hexChars.contains c = true := by
  have octets : (id.octets.toList.drop start).take 2 = [id.octets[start], id.octets[start + 1]] := by
    rw [List.drop_eq_getElem_cons (by simp; omega), List.drop_eq_getElem_cons (by simp; omega)]
    simp
  have group : id.groupChars start 2 = octetChars id.octets[start] ++ octetChars id.octets[start + 1] := by
    rw [groupChars, octets]
    simp
  refine ⟨(id.groupChars start 2).tail, ?_, ?_, ?_⟩
  · rw [group]
    rfl
  · rw [group]
    rfl
  · exact fun c later => hexChars_of_mem_groupChars (List.mem_of_mem_tail later)

theorem isUuid_text {id : Uuid} (version : (id.octets.get 6).toNat / 16 = 4)
    (variant : 8 ≤ (id.octets.get 8).toNat / 16 ∧ (id.octets.get 8).toNat / 16 ≤ 11) :
    isUuid id.text = true ∧ id.text.toList[14]? = some '4' := by
  have version : id.octets[6].toNat / 16 = 4 := version
  have variant : 8 ≤ id.octets[8].toNat / 16 ∧ id.octets[8].toNat / 16 ≤ 11 := variant
  obtain ⟨third, thirdIs, thirdLength, thirdHex⟩ := id.exists_groupChars_two (show 6 + 1 < 16 by decide)
  obtain ⟨fourth, fourthIs, fourthLength, fourthHex⟩ := id.exists_groupChars_two (show 8 + 1 < 16 by decide)
  rw [version] at thirdIs
  -- The digits of the version and the variant stand as blocks of their own.
  have blocks : id.text.toList =
      [id.groupChars 0 4, ['-'], id.groupChars 4 2, ['-'], ['4'], third, ['-'],
        [Json.hexDigit (id.octets[8].toNat / 16)], fourth, ['-'], id.groupChars 10 6].flatten := by
    rw [text, String.toList_ofList, thirdIs, fourthIs]
    simp [Json.hexDigit]
  constructor
  · rw [isUuid, blocks]
    exact isMatch_whole <|
      .cons (id.fits_groupChars (by decide)) <| .cons (fits_one '-') <|
      .cons (id.fits_groupChars (by decide)) <| .cons (fits_one '-') <|
      .cons (fits_chars (by decide)) <| .cons (fits_exactly thirdLength thirdHex) <|
      .cons (fits_one '-') <|
      .cons (fits_chars (variantChars_hexDigit variant.1 variant.2)) <|
      .cons (fits_exactly fourthLength fourthHex) <| .cons (fits_one '-') <|
      .cons (id.fits_groupChars (by decide)) .nil
  · have before : [id.groupChars 0 4, ['-'], id.groupChars 4 2, ['-']].flatten.length = 14 := by
      simp [id.length_groupChars]
    rw [blocks]
    show ([id.groupChars 0 4, ['-'], id.groupChars 4 2, ['-']] ++ ['4'] :: _).flatten[14]? = some '4'
    rw [List.flatten_append, List.getElem?_append_right (Nat.le_of_eq before), before]
    rfl

theorem isUuid_text_version4 (id : Uuid) :
    isUuid id.version4.text = true ∧ id.version4.text.toList[14]? = some '4' := by
  have version : ∀ octet < 256, (octet &&& 15 ||| 64) / 16 = 4 := by
    decide +kernel
  have variant : ∀ octet < 256, 8 ≤ (octet &&& 63 ||| 128) / 16 ∧ (octet &&& 63 ||| 128) / 16 ≤ 11 := by
    decide +kernel
  have sixth : id.version4.octets[6].toNat = id.octets[6].toNat &&& 15 ||| 64 := by
    simp [version4]
  have eighth : id.version4.octets[8].toNat = id.octets[8].toNat &&& 63 ||| 128 := by
    simp [version4]
  refine isUuid_text ?_ ?_
  · show id.version4.octets[6].toNat / 16 = 4
    rw [sixth]
    exact version _ id.octets[6].toNat_lt
  · show 8 ≤ id.version4.octets[8].toNat / 16 ∧ id.version4.octets[8].toNat / 16 ≤ 11
    rw [eighth]
    exact variant _ id.octets[8].toNat_lt

end Uuid
end CompactSchema
