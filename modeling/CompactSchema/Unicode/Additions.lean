import CompactSchema.Unicode.Runs

/-
Characters that the property tables do not know yet.

The tables of properties describe version 16 of the standard, by which expressions
are matched.  Version 17 adds characters and takes none away; names of groups and
quoted text follow it.
-/

namespace CompactSchema
namespace Unicode
namespace Additions

/-- The added code points that have a shape of their own or join another character. -/
def visible : List (Nat × Nat) :=
  spans <| decode
    ["24paUma3-a3Fsocl1Eva2MuaV1xbcabaYaKUrpDZb1wg2Rrz1Blcii1bb33ehIi1lejK5wycy8+e60bh18jv3b",
     "3sFOhcDZwpq5Up+bvib3Uya4+dAviBXd1sada1zaeaYaea8ka1EP-f5RclL8c46j"]

def graphemeExtend : List (Nat × Nat) :=
  spans <| decode ["6Mpocl1T0ob33eabcba1IRYacahbfa"]

def alphabetic : List (Nat × Nat) :=
  spans <| decode
    ["24paUma3-a16NrbcabaYaOAoz1Blc1sb33ehIi1lK6eycy8+e60bh18jv3b3sM6n+bvib1K1Wf5RclL8c46j"]

def numeric : List (Nat × Nat) := spans <| decode ["27FajKGkc"]

end Additions
end Unicode
end CompactSchema
