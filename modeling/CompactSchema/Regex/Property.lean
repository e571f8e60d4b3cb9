import CompactSchema.Regex.CharSet
import CompactSchema.Unicode.Age
import CompactSchema.Unicode.GraphemeBreak
import CompactSchema.Unicode.Script
import CompactSchema.Unicode.SentenceBreak
import CompactSchema.Unicode.WordBreak

/-
Character properties by name.

Names are compared without regard to case, blanks, underscores, hyphens, and an
initial `is`.
-/

namespace CompactSchema
namespace CharSet

inductive PropertyQuery where
  | name (name : String)
  | value (property value : String)
  deriving DecidableEq

def plainChars (name : List Char) : List Char :=
  (name.filter fun c => c ≠ ' ' ∧ c ≠ '_' ∧ c ≠ '-' ∧ c.toNat < 128).map Char.toLower

/-- The form of a name in which names are compared.  The name `isc` keeps its
beginning. -/
def plainName (name : String) : String :=
  match name.toList with
  | i :: s :: rest =>
      if (i = 'i' ∨ i = 'I') ∧ (s = 's' ∨ s = 'S') then
        let plain := plainChars rest
        if plain = ['c'] then "isc" else String.ofList plain
      else
        String.ofList (plainChars (i :: s :: rest))
  | short => String.ofList (plainChars short)

def findNamed? {α : Type} (name : String) (entries : List (List String × α)) : Option α :=
  (entries.find? fun entry => entry.1.contains name).map (·.2)

def category? (name : String) : Option CharSet :=
  if name = "any" then some all
  else if name = "ascii" then some (span 0 0x7F)
  else if name = "assigned" then
    some (.complement (.ranges (Unicode.GeneralCategory.ranges [.unassigned])))
  else
    (findNamed? name Unicode.GeneralCategory.named).map fun categories =>
      .ranges (Unicode.GeneralCategory.ranges categories)

def labelled? (labelling : Unicode.Labelling) (name : String) : Option CharSet :=
  (labelling.named? name).map .ranges

def script? (name : String) : Option CharSet := labelled? Unicode.Script.values name

/-- The characters that a script with a plain name uses.  Characters of no script in
particular that some script uses belong to these scripts only. -/
def scriptExtensions? (name : String) : Option CharSet :=
  (Unicode.Script.values.place? name).map fun place =>
    let own := CharSet.ranges (Unicode.Script.values.ranges place)
    if Unicode.Script.common.any fun common => Unicode.Script.values.place? common = some place then
      Unicode.Script.allSharedRanges.foldl (fun left shared => difference left (.ranges shared)) own
    else
      .union own (.ranges (Unicode.Script.sharedRanges place))

def binaryProperty? (name : String) : Option CharSet :=
  if name = "whitespace" ∨ name = "space" ∨ name = "wspace" then some space
  else (findNamed? name Unicode.BinaryProperty.named).map .ranges

inductive ValuedProperty where
  | age
  | generalCategory
  | graphemeBreak
  | script
  | scriptExtensions
  | sentenceBreak
  | wordBreak
  deriving DecidableEq

namespace ValuedProperty

def named : List (List String × ValuedProperty) :=
  [(["age"], .age),
   (["gc", "generalcategory"], .generalCategory),
   (["gcb", "graphemeclusterbreak"], .graphemeBreak),
   (["sc", "script"], .script),
   (["scx", "scriptextensions"], .scriptExtensions),
   (["sb", "sentencebreak"], .sentenceBreak),
   (["wb", "wordbreak"], .wordBreak)]

/-- The characters for which the property has a value.  Of an age are all characters
that are no younger. -/
def chars? (value : String) : ValuedProperty → Option CharSet
  | .age => (Unicode.Age.upTo? value).map .ranges
  | .generalCategory => category? value
  | .graphemeBreak => labelled? Unicode.GraphemeBreak.values value
  | .script => script? value
  | .scriptExtensions => scriptExtensions? value
  | .sentenceBreak => labelled? Unicode.SentenceBreak.values value
  | .wordBreak => labelled? Unicode.WordBreak.values value

end ValuedProperty

def ofProperty? : PropertyQuery → Option CharSet
  | .name name =>
      let plain := plainName name
      (binaryProperty? plain).or ((category? plain).or (script? plain))
  | .value property value => do
      (← findNamed? (plainName property) ValuedProperty.named).chars? (plainName value)

end CharSet
end CompactSchema
