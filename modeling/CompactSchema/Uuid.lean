import CompactSchema.Json.Writer

/-
Universally unique identifiers.

An identifier is sixteen octets.  Its text is their hexadecimal digits in five
groups.  Random identifiers are of version 4: one digit names the version, and two
bits name the variant.
-/

namespace CompactSchema

structure Uuid where
  octets : Vector UInt8 16
  deriving DecidableEq

namespace Uuid

/-- An identifier from its octets; missing octets are zero. -/
def ofOctets (octets : List UInt8) : Uuid := ⟨Vector.ofFn fun i => octets.getD i 0⟩

/-- The octets of a word, most significant first. -/
def wordOctets (word : UInt64) : List UInt8 :=
  ([56, 48, 40, 32, 24, 16, 8, 0] : List UInt64).map fun shift => (word >>> shift).toUInt8

def ofWords (high low : UInt64) : Uuid := ofOctets (wordOctets high ++ wordOctets low)

def version4 (id : Uuid) : Uuid :=
  let octets := id.octets
  let octets := octets.set 6 (octets[6] &&& 0x0f ||| 0x40)
  ⟨octets.set 8 (octets[8] &&& 0x3f ||| 0x80)⟩

def octetChars (octet : UInt8) : List Char :=
  [Json.hexDigit (octet.toNat / 16), Json.hexDigit (octet.toNat % 16)]

def groupChars (id : Uuid) (start count : Nat) : List Char :=
  ((id.octets.toList.drop start).take count).flatMap octetChars

def text (id : Uuid) : String :=
  String.ofList <|
    id.groupChars 0 4 ++ '-' :: (id.groupChars 4 2 ++ '-' :: (id.groupChars 6 2 ++ '-' ::
      (id.groupChars 8 2 ++ '-' :: id.groupChars 10 6)))

end Uuid
end CompactSchema
