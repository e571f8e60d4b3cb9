import CompactSchema.Random.Source
import CompactSchema.Random.Words

/-
Plausible values from random words.

Any supply of words makes a source: numbers and places are chosen uniformly, and
addresses, telephone numbers, instants and identifiers look like those in real data.
-/

namespace CompactSchema
namespace Realistic

def letters : List Char := "abcdefghijklmnopqrstuvwxyzABCDEFGHIJKLMNOPQRSTUVWXYZ".toList

def firstNames : List String :=
  ["amy", "ben", "carla", "dev", "elena", "farid", "grace", "hiro", "isla", "jonas", "kavya",
    "liam", "maya", "noah", "olga", "priya", "quinn", "ravi", "sofia", "tom"]

def lastNames : List String :=
  ["adams", "brown", "chen", "diaz", "evans", "fischer", "gupta", "hall", "iyer", "jones",
    "khan", "lopez", "miller", "nair", "owens", "patel", "reed", "smith", "tanaka", "walker"]

def hosts : List String := ["example", "mail", "inbox", "post", "webmail"]

def domains : List String := ["com", "net", "org", "io", "dev"]

/-- The beginning of the year 2000, in milliseconds. -/
def earliest : Int64 := 946684800000

/-- The last millisecond of the year 2035. -/
def latest : Int64 := 2082758399999

variable {σ : Type}

/-- An integer from `lo` to `hi`.  When these are the ends of the type, every word is
an answer. -/
def intInRange (words : WordSource σ) (lo hi : Int64) : StateM σ Int64 := do
  if lo = .minValue ∧ hi = .maxValue then
    return (← words.word64).toInt64
  else
    let offset ← words.choose64 (hi.toInt - lo.toInt + 1).toNat
    return .ofInt (lo.toInt + offset)

/-- A number from `lo` to `hi`, between them by a random part of the way.  The way
itself may be longer than every finite number, so the bounds are weighed instead. -/
def floatInRange (words : WordSource σ) (lo hi : Binary64) : StateM σ Binary64 := do
  if lo.same hi then return lo
  let part ← words.unit
  return ((lo.mul (.sub 1 part)).add (hi.mul part)).clamp lo hi

def letter (words : WordSource σ) : StateM σ Char := words.pick 'a' letters

def digit (words : WordSource σ) : StateM σ Char := do
  return Nat.digitChar (← words.choose32 10)

def email (words : WordSource σ) : StateM σ String := do
  let first ← words.pick "" firstNames
  let last ← words.pick "" lastNames
  let host ← words.pick "" hosts
  let domain ← words.pick "" domains
  let number := 1 + (← words.choose32 999)
  return s!"{first}.{last}{number}@{host}.{domain}"

def phoneNumber (words : WordSource σ) : StateM σ String := do
  let country := 1 + (← words.choose32 9)
  let length := 10 + (← words.choose64 3)
  let digits ← times (digit words) length
  return String.ofList ('+' :: Nat.digitChar country :: digits)

def dateTime (words : WordSource σ) : StateM σ Instant := do
  return .ofMilliseconds (← intInRange words earliest latest).toInt

def uuid (words : WordSource σ) : StateM σ Uuid := do
  return (Uuid.ofOctets (← times words.octet 16)).version4

end Realistic

def RandomSource.ofWords {σ : Type} (words : WordSource σ) : RandomSource σ where
  intInRange := Realistic.intInRange words
  floatInRange := Realistic.floatInRange words
  boolean := words.coin
  index := words.choose64
  alpha length := do
    let letters ← times (Realistic.letter words) length
    return String.ofList letters
  email := Realistic.email words
  phoneNumber := Realistic.phoneNumber words
  dateTime := Realistic.dateTime words
  uuid := Realistic.uuid words

end CompactSchema
