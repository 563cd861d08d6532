/-
  SensorFusion.Json.Number — numbers in JSON texts: which literal a float becomes, and
  which number a literal stands for.

  Reading a float is quick and not always exact: the digits are gathered into a 64-bit
  significand, later digits only count as places, and one product or quotient with a
  power of ten follows.
-/

import SensorFusion.Decimal.Layout
import SensorFusion.Json.Value

namespace SensorFusion

open Decimal

namespace Json

/-! ## Writing -/

/-- Doubles have an exponent from 1e16 on and below 1e-5, and always a point otherwise. -/
def doubleLayout : Layout := ⟨some (-4, 16), ['0'], .even⟩

/-- Singles have an exponent from 1e13 on and below 1e-6, and always a point otherwise. -/
def singleLayout : Layout := ⟨some (-5, 13), ['0'], .even⟩

private def ofNumeral? : Option Numeral → Json
  | some n => number n
  | none => null

/-- A float; one that is not finite is null. -/
def ofFloat (x : Float) : Json := ofNumeral? (doubleLayout.numeral? .double (.ofFloat x))

def ofFloat32 (x : Float32) : Json := ofNumeral? (singleLayout.numeral? .single (.ofFloat32 x))

def ofUInt32 (n : UInt32) : Json := number (.ofNat n.toNat)

end Json

/-! ## Reading -/

namespace Decimal.Numeral

def significandLimit : Nat := 18446744073709551615

/-- Append digits to a significand as long as it stays within the limit; with the number
    of digits appended. -/
def gather (n : Nat) : List Char → Nat × Nat
  | [] => (n, 0)
  | d :: ds =>
    let m := 10 * n + ofDigits [d]
    if m ≤ significandLimit then
      let r := gather m ds
      (r.1, r.2 + 1)
    else (n, 0)

def exponentValue (n : Numeral) : Int :=
  match n.exponent with
  | none => 0
  | some e => if e.negative then -(ofDigits e.magnitude : Int) else ofDigits e.magnitude

def significand (n : Numeral) : Nat × Int :=
  let whole := gather 0 n.whole
  let all := gather whole.1 n.fraction
  (all.1, n.exponentValue + (n.whole.length - whole.2 : Nat) - all.2)

def powerOfTen (e : Nat) : Float := Float.ofScientific 1 false e

def maxPower : Nat := 308

/-- Divide by ten to the power `e`, in steps of the largest power there is. -/
def shiftDown (x : Float) (e : Nat) : Float :=
  if e ≤ maxPower then x / powerOfTen e
  else if x == 0 then x
  else shiftDown (x / powerOfTen maxPower) (e - maxPower)
termination_by e
decreasing_by simp only [maxPower] at *; omega

def shiftUp (x : Float) (e : Nat) : Option Float :=
  if e ≤ maxPower then
    let y := x * powerOfTen e
    if y.isFinite then some y else none
  else if x == 0 then some x
  else none

def toFloat? (n : Numeral) : Option Float := do
  let (digits, e) := n.significand
  let x := (UInt64.ofNat digits).toFloat
  let y ← if 0 ≤ e then shiftUp x e.toNat else some (shiftDown x (-e).toNat)
  some (if n.negative then -y else y)

def isWhole (n : Numeral) : Bool := n.fraction.isEmpty && n.exponent.isNone

/-- A whole literal that is a 64-bit integer; a negative zero is none. -/
def isInteger64 (n : Numeral) : Bool :=
  let size := ofDigits n.whole
  n.isWhole && if n.negative then 0 < size && size ≤ 9223372036854775808 else size ≤ significandLimit

/-- The single that a literal stands for: integers are rounded once, other numbers become
    doubles first. -/
def toFloat32? (n : Numeral) : Option Float32 :=
  if n.isInteger64 then
    let x := (UInt64.ofNat (ofDigits n.whole)).toFloat32
    some (if n.negative then -x else x)
  else n.toFloat?.map Float.toFloat32

/-- The counter value that a literal stands for: digits alone, and not too many. -/
def toUInt32? (n : Numeral) : Option UInt32 :=
  let size := ofDigits n.whole
  if n.isWhole && !n.negative && size ≤ 4294967295 then some (UInt32.ofNat size) else none

end Decimal.Numeral

namespace Json

def float? : Json → Option Float
  | number n => n.toFloat?
  | _ => none

def float32? : Json → Option Float32
  | number n => n.toFloat32?
  | _ => none

def uint32? : Json → Option UInt32
  | number n => n.toUInt32?
  | _ => none

end Json

end SensorFusion
