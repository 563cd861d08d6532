/-
  SensorFusion.Json.Value — JSON texts as trees. Numbers keep their digits and objects
  their repeated keys, so that each reader decides what it accepts.
-/

import SensorFusion.Decimal.Numeral

namespace SensorFusion

open Decimal (Numeral)

inductive Json where
  | null
  | bool (b : Bool)
  | number (n : Numeral)
  /-- A text; `none` if an escape leaves half a surrogate pair, which is no text. -/
  | string (s : Option String)
  | array (xs : List Json)
  /-- The members in order, also repeated ones. -/
  | object (ms : List (Option String × Json))

namespace Json

/-! ## Looking into a tree -/

/-- The value of one of `names`: the name itself, or an object that maps it to null. -/
def choice? {α : Type} (names : List (String × α)) : Json → Option α
  | string (some s) => names.lookup s
  | object [(some s, null)] => names.lookup s
  | _ => none

def bool? : Json → Option Bool
  | bool b => some b
  | _ => none

def array? : Json → Option (List Json)
  | array xs => some xs
  | _ => none

def member? (ms : List (Option String × Json)) (name : String) : Option Json :=
  match ms.filter fun m => m.1 = some name with
  | [(_, v)] => some v
  | _ => none

/-- The values of these fields in order: of an object where each stands once, beside
    others that are not looked at, or of an array of just the values. -/
def record? (names : List String) : Json → Option (List Json)
  | object ms => if ms.all fun m => m.1.isSome then names.mapM (member? ms) else none
  | array xs => if xs.length = names.length then some xs else none
  | _ => none

def ofMembers (ms : List (String × Json)) : Json := object (ms.map fun m => (some m.1, m.2))

def ofString (s : String) : Json := string (some s)

end Json

end SensorFusion
