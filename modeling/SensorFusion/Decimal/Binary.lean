/-
  SensorFusion.Decimal.Binary — binary floating-point numbers taken apart: sign,
  integer significand and power of two.
-/

namespace SensorFusion.Decimal

structure BinaryFormat where
  /-- Bits of a significand, the leading one included. -/
  precision : Nat
  exponentBits : Nat

namespace BinaryFormat

def double : BinaryFormat := ⟨53, 11⟩

def single : BinaryFormat := ⟨24, 8⟩

def leastExponent (f : BinaryFormat) : Int := 3 - Nat.pow 2 (f.exponentBits - 1) - f.precision

end BinaryFormat

/-- A float taken apart. A finite one is its significand times two to its exponent. -/
inductive Unpacked where
  | nan
  | infinite (negative : Bool)
  | finite (negative : Bool) (significand : Nat) (exponent : Int)

namespace Unpacked

def ofBits (f : BinaryFormat) (bits : Nat) : Unpacked :=
  let hidden := Nat.pow 2 (f.precision - 1)
  let fraction := bits % hidden
  let biased := bits / hidden % Nat.pow 2 f.exponentBits
  let negative := bits.testBit (f.precision - 1 + f.exponentBits)
  if biased = Nat.pow 2 f.exponentBits - 1 then
    if fraction = 0 then infinite negative else nan
  else if biased = 0 then finite negative fraction f.leastExponent
  else finite negative (hidden + fraction) (f.leastExponent + (biased - 1))

def ofFloat (x : Float) : Unpacked := ofBits .double x.toBits.toNat

def ofFloat32 (x : Float32) : Unpacked := ofBits .single x.toBits.toNat

end Unpacked

/-- Two to the power `e`, for exponents of a double from its smallest up. -/
def twoPow (e : Int) : Float :=
  if e < -1022 then Float.ofBits (1 <<< UInt64.ofNat (e + 1074).toNat)
  else Float.ofBits (UInt64.ofNat (e + 1023).toNat <<< 52)

end SensorFusion.Decimal
