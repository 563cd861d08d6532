/-
  SensorFusion.Decimal.Layout — how the shortest digits of a float are written: with
  or without an exponent, and what follows a whole number.
-/

import SensorFusion.Decimal.Numeral
import SensorFusion.Decimal.Shortest

namespace SensorFusion.Decimal

structure Layout where
  /-- The first and the last place of the decimal point, counted from before the first
      digit, that are written without an exponent; `none` allows every place. -/
  positional : Option (Int × Int)
  /-- Digits after the point of a whole number without an exponent. -/
  wholeFraction : List Char
  tie : Tie

namespace Layout

/-- Numbers in messages: never an exponent, and no point in a whole number. -/
def plain : Layout := ⟨none, [], .away⟩

def isPositional (l : Layout) (place : Int) : Bool :=
  match l.positional with
  | none => true
  | some (first, last) => first ≤ place ∧ place ≤ last

def point (l : Layout) (negative : Bool) (ds : List Char) (place : Int) : Numeral :=
  if place ≤ 0 then ⟨negative, ['0'], List.replicate (-place).toNat '0' ++ ds, none⟩
  else if ds.length ≤ place then
    ⟨negative, ds ++ List.replicate (place - ds.length).toNat '0', l.wholeFraction, none⟩
  else ⟨negative, ds.take place.toNat, ds.drop place.toNat, none⟩

/-- One digit before the point, and an exponent. -/
def scientific (negative : Bool) (ds : List Char) (place : Int) : Numeral :=
  ⟨negative, ds.take 1, ds.drop 1, some ⟨place < 1, digits (place - 1).natAbs⟩⟩

def write (l : Layout) (negative : Bool) (d : GridPoint) : Numeral :=
  let ds := digits d.coefficient
  let place := ds.length + d.exponent
  if l.isPositional place then l.point negative ds place else scientific negative ds place

/-- The written form of a finite float; `none` for the others. -/
def numeral? (l : Layout) (f : BinaryFormat) : Unpacked → Option Numeral
  | .finite negative significand exponent => some (l.write negative (shortest f l.tie significand exponent))
  | .infinite _ => none
  | .nan => none

end Layout

/-! ## Floats in messages -/

private def message (f : BinaryFormat) : Unpacked → String
  | .nan => "NaN"
  | .infinite true => "-inf"
  | .infinite false => "inf"
  | .finite negative significand exponent =>
    (Layout.plain.write negative (shortest f Layout.plain.tie significand exponent)).text

def plainText (x : Float) : String := message .double (.ofFloat x)

/-- A single in a message, with no more digits than a single needs. -/
def plainText32 (x : Float32) : String := message .single (.ofFloat32 x)

end SensorFusion.Decimal
