/-
  SensorFusion.Decimal.Shortest — the fewest decimal digits that read back as the same
  binary number.

  The reals that round to a float form an interval around it, its ends included when
  the significand is even. Decimal grids are tried from coarse to fine; the first one
  with a point in the interval gives the fewest digits, and of its points the one
  nearest the float is taken. All arithmetic is exact.
-/

import SensorFusion.Decimal.Binary

namespace SensorFusion.Decimal

/-- The point `coefficient · 10 ^ exponent` of a decimal grid. -/
structure GridPoint where
  coefficient : Nat
  exponent : Int

inductive Tie where
  /-- The one farther from zero. -/
  | away
  /-- The one with an even last digit. -/
  | even

/-- The reals that round to a float, in units of `2 ^ exponent`. -/
structure RoundingInterval where
  low : Nat
  value : Nat
  high : Nat
  exponent : Int
  /-- The two ends round to the float too. -/
  closed : Bool

namespace RoundingInterval

/-- The interval of a positive float. Below a power of two floats lie twice as close. -/
def of (f : BinaryFormat) (significand : Nat) (exponent : Int) : RoundingInterval :=
  let edge := significand = Nat.pow 2 (f.precision - 1) ∧ exponent > f.leastExponent
  { low := if edge then 4 * significand - 1 else 4 * significand - 2
    value := 4 * significand
    high := 4 * significand + 2
    exponent := exponent - 2
    closed := significand % 2 = 0 }

/-- Numerator and denominator of one unit, measured in steps of the grid `10 ^ k`. -/
def unit (i : RoundingInterval) (k : Int) : Nat × Nat :=
  (Nat.pow 2 i.exponent.toNat * Nat.pow 10 (-k).toNat, Nat.pow 2 (-i.exponent).toNat * Nat.pow 10 k.toNat)

def holds (i : RoundingInterval) (k : Int) (n : Nat) : Bool :=
  let (num, den) := i.unit k
  if i.closed then i.low * num ≤ n * den ∧ n * den ≤ i.high * num
  else i.low * num < n * den ∧ n * den < i.high * num

def below (i : RoundingInterval) (k : Int) : Nat :=
  let (num, den) := i.unit k
  i.value * num / den

/-- The grid point nearest the float, if the interval holds one. -/
def nearest? (i : RoundingInterval) (tie : Tie) (k : Int) : Option Nat :=
  let (num, den) := i.unit k
  let n := i.below k
  match i.holds k n, i.holds k (n + 1) with
  | false, false => none
  | true, false => some n
  | false, true => some (n + 1)
  | true, true =>
    match compare (2 * (i.value * num)) ((2 * n + 1) * den), tie with
    | .lt, _ => some n
    | .gt, _ => some (n + 1)
    | .eq, .away => some (n + 1)
    | .eq, .even => some (n + n % 2)

/-- Grids from `10 ^ k` down, at most `fuel` of them. -/
def search (i : RoundingInterval) (tie : Tie) : Nat → Int → GridPoint
  | 0, k => ⟨i.below k, k⟩
  | fuel + 1, k =>
    match i.nearest? tie k with
    | some n => ⟨n, k⟩
    | none => search i tie fuel (k - 1)

def coarsest (i : RoundingInterval) : Int := (i.high.log2 + 1 + i.exponent) * 30103 / 100000 + 2

end RoundingInterval

/-- The shortest decimal of the float `significand · 2 ^ exponent`. As many grids are
    tried as the significand has bits, which is more than its decimal digits. -/
def shortest (f : BinaryFormat) (tie : Tie) (significand : Nat) (exponent : Int) : GridPoint :=
  if significand = 0 then ⟨0, 0⟩
  else
    let i := RoundingInterval.of f significand exponent
    i.search tie f.precision i.coarsest

end SensorFusion.Decimal
