/-
  SensorFusion.Decimal.Numeral — the written form of a decimal number: sign, digits
  before and after the point, and exponent.
-/

namespace SensorFusion.Decimal

def digits (n : Nat) : List Char := Nat.toDigits 10 n

def ofDigits (ds : List Char) : Nat := Nat.ofDigitChars 10 ds 0

structure Exponent where
  negative : Bool
  magnitude : List Char
  deriving DecidableEq

structure Numeral where
  negative : Bool
  /-- Digits before the point. -/
  whole : List Char
  /-- Digits after the point; without any there is no point. -/
  fraction : List Char
  exponent : Option Exponent
  deriving DecidableEq

namespace Numeral

def ofNat (n : Nat) : Numeral := ⟨false, digits n, [], none⟩

/-- An exponent always has a sign, the number only a minus. -/
def chars (n : Numeral) : List Char :=
  (if n.negative then ['-'] else []) ++ n.whole ++
  (if n.fraction.isEmpty then [] else '.' :: n.fraction) ++
  match n.exponent with
  | none => []
  | some e => 'e' :: (if e.negative then '-' else '+') :: e.magnitude

def text (n : Numeral) : String := String.ofList n.chars

end Numeral

theorem ofDigits_digits (n : Nat) : ofDigits (digits n) = n :=
  Nat.ofDigitChars_toDigits (by decide) (by decide)

end SensorFusion.Decimal
