/-
  SensorFusion.Json.Reader — the tree of a JSON text. Blanks are space, line feed,
  carriage return and tab; nothing else may stand around the value.

  Each reader takes one thing off the front of the text and answers the rest.
-/

import SensorFusion.Json.Value

namespace SensorFusion.Json

open Decimal (Numeral Exponent)

abbrev Chars := List Char

def isBlank (c : Char) : Bool := c = ' ' || c = '\n' || c = '\r' || c = '\t'

def skipBlanks (cs : Chars) : Chars := cs.dropWhile isBlank

/-! ## Texts -/

def hexValue? (c : Char) : Option Nat :=
  if c.isDigit then some (c.toNat - '0'.toNat)
  else if 'a' ≤ c ∧ c ≤ 'f' then some (c.toNat - 'a'.toNat + 10)
  else if 'A' ≤ c ∧ c ≤ 'F' then some (c.toNat - 'A'.toNat + 10)
  else none

def escapes : List (Char × Char) :=
  [('"', '"'), ('\\', '\\'), ('/', '/'), ('b', '\x08'), ('f', '\x0c'), ('n', '\n'), ('r', '\r'), ('t', '\t')]

/-- The code points up to the closing quote. Escapes may give halves of surrogate pairs. -/
def readUnits : Chars → Option (List Nat × Chars)
  | [] => none
  | '"' :: cs => some ([], cs)
  | '\\' :: 'u' :: a :: b :: c :: d :: cs => do
    let ds ← [a, b, c, d].mapM hexValue?
    let (us, rest) ← readUnits cs
    some (ds.foldl (16 * · + ·) 0 :: us, rest)
  | '\\' :: c :: cs => do
    let e ← escapes.lookup c
    let (us, rest) ← readUnits cs
    some (e.toNat :: us, rest)
  | c :: cs =>
    if c.toNat < 32 then none
    else do
      let (us, rest) ← readUnits cs
      some (c.toNat :: us, rest)

def isHighHalf (u : Nat) : Bool := 0xD800 ≤ u && u < 0xDC00

def isLowHalf (u : Nat) : Bool := 0xDC00 ≤ u && u < 0xE000

/-- Join surrogate pairs; half a pair is no text. -/
def joinUnits : List Nat → Option (List Char)
  | [] => some []
  | u :: us =>
    if isLowHalf u then none
    else if isHighHalf u then
      match us with
      | v :: vs =>
        if isLowHalf v then
          (joinUnits vs).map (Char.ofNat (0x10000 + (u - 0xD800) * 0x400 + (v - 0xDC00)) :: ·)
        else none
      | [] => none
    else (joinUnits us).map (Char.ofNat u :: ·)

def readString (cs : Chars) : Option (Option String × Chars) := do
  let (us, rest) ← readUnits cs
  some ((joinUnits us).map String.ofList, rest)

/-! ## Numbers -/

def readDigits (cs : Chars) : Option (List Char × Chars) :=
  let ds := cs.takeWhile Char.isDigit
  if ds.isEmpty then none else some (ds, cs.dropWhile Char.isDigit)

/-- Digits without a needless zero in front. -/
def readWhole (cs : Chars) : Option (List Char × Chars) := do
  let (ds, rest) ← readDigits cs
  if ds.head? = some '0' ∧ ds ≠ ['0'] then none else some (ds, rest)

def readFraction : Chars → Option (List Char × Chars)
  | '.' :: cs => readDigits cs
  | cs => some ([], cs)

def readMagnitude (negative : Bool) (cs : Chars) : Option (Option Exponent × Chars) := do
  let (ds, rest) ← readDigits cs
  some (some ⟨negative, ds⟩, rest)

def readExponent : Chars → Option (Option Exponent × Chars)
  | c :: cs =>
    if c = 'e' ∨ c = 'E' then
      match cs with
      | '+' :: cs => readMagnitude false cs
      | '-' :: cs => readMagnitude true cs
      | cs => readMagnitude false cs
    else some (none, c :: cs)
  | [] => some (none, [])

def readUnsigned (negative : Bool) (cs : Chars) : Option (Numeral × Chars) := do
  let (whole, cs) ← readWhole cs
  let (fraction, cs) ← readFraction cs
  let (exponent, cs) ← readExponent cs
  some (⟨negative, whole, fraction, exponent⟩, cs)

def readNumeral : Chars → Option (Numeral × Chars)
  | '-' :: cs => readUnsigned true cs
  | cs => readUnsigned false cs

/-! ## Values -/

/-- Items with commas between them, up to `close`; at most `fuel` of them. -/
def readItems {α : Type} (item : Chars → Option (α × Chars)) (close : Char) :
    Nat → Chars → Option (List α × Chars)
  | 0, _ => none
  | fuel + 1, cs => do
    let (x, cs) ← item cs
    match skipBlanks cs with
    | [] => none
    | c :: cs =>
      if c = ',' then do
        let (xs, cs) ← readItems item close fuel cs
        some (x :: xs, cs)
      else if c = close then some ([x], cs)
      else none

/-- Any number of items up to `close`. There are no more of them than characters. -/
def readList {α : Type} (item : Chars → Option (α × Chars)) (close : Char) (cs : Chars) :
    Option (List α × Chars) :=
  match skipBlanks cs with
  | [] => none
  | c :: rest => if c = close then some ([], rest) else readItems item close cs.length (c :: rest)

def readMember (value : Chars → Option (Json × Chars)) (cs : Chars) : Option ((Option String × Json) × Chars) :=
  match skipBlanks cs with
  | '"' :: cs => do
    let (key, cs) ← readString cs
    match skipBlanks cs with
    | ':' :: cs => do
      let (v, cs) ← value cs
      some ((key, v), cs)
    | _ => none
  | _ => none

/-- A value nested less than `fuel` deep. -/
def readValue : Nat → Chars → Option (Json × Chars)
  | 0, _ => none
  | fuel + 1, cs =>
    match skipBlanks cs with
    | 'n' :: 'u' :: 'l' :: 'l' :: cs => some (null, cs)
    | 't' :: 'r' :: 'u' :: 'e' :: cs => some (bool true, cs)
    | 'f' :: 'a' :: 'l' :: 's' :: 'e' :: cs => some (bool false, cs)
    | '"' :: cs => do
      let (s, cs) ← readString cs
      some (string s, cs)
    | '[' :: cs => do
      let (xs, cs) ← readList (readValue fuel) ']' cs
      some (array xs, cs)
    | '\x7b' :: cs => do
      let (ms, cs) ← readList (readMember (readValue fuel)) '\x7d' cs
      some (object ms, cs)
    | cs => do
      let (n, cs) ← readNumeral cs
      some (number n, cs)

/-- The tree of a text. A text is nested less deep than it is long. -/
def ofChars? (cs : Chars) : Option Json := do
  let (v, rest) ← readValue (cs.length + 1) cs
  if (skipBlanks rest).isEmpty then some v else none

def ofText? (s : String) : Option Json := ofChars? s.toList

end SensorFusion.Json
