/-
Powers of numbers.

A power is written alike whatever library gives it.  Here those of the core library come
first, so that a definition means the same beside any other library.
-/

namespace CompactSchema

@[default_instance 20002]
instance (priority := 20002) natPower : Pow Nat Nat := @instPowNat Nat instNatPowNat

@[default_instance 20001]
instance (priority := 20001) intPower : Pow Int Nat := @instPowNat Int Int.instNatPow

@[default_instance 20000]
instance (priority := 20000) wordPower : Pow UInt64 Nat := instPowUInt64Nat

end CompactSchema
