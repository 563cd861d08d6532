/-
  SensorFusion.Proofs.JsonText — the text of a tree reads as the tree.

  Every reader takes the text of its own kind of thing off the front and leaves the rest
  alone, whatever that is. Only a number asks something of it: that it does not go on like
  one (`EndsNumber`), and what follows a value in a text never does.

  The readers count down, in items by number and in values by depth. The text is longer than
  either, so that the count never runs out.

  Proved (`ofText?_text`): reading the text of a tree gives the tree, if its numerals are
  such as texts may have (`WellFormed`); no text stands for two trees.
-/

import SensorFusion.Json.Number
import SensorFusion.Json.Reader
import SensorFusion.Json.Writer

namespace SensorFusion

/-! ## Numerals -/

namespace Decimal

structure IsDigits (ds : List Char) : Prop where
  ne_nil : ds ≠ []
  isDigit : ∀ c ∈ ds, c.isDigit = true

theorem isDigits_digits (n : Nat) : IsDigits (digits n) :=
  ⟨Nat.toDigits_ne_nil, fun _ => Nat.isDigit_of_mem_toDigits (by decide) (by decide)⟩

theorem digits_of_leading_zero {n : Nat} (h : (digits n).head? = some '0') : n = 0 := by
  induction n using Nat.strongRecOn with
  | ind n ih =>
    rw [digits, Nat.toDigits_eq_if (by decide)] at h
    split at h
    · rename_i hn
      have hsmall : ∀ d < 10, [d.digitChar].head? = some '0' → d = 0 := by decide
      exact hsmall n hn h
    · rename_i hn
      obtain ⟨d, ds, hds⟩ := List.exists_cons_of_ne_nil (Nat.toDigits_ne_nil (n := n / 10) (b := 10))
      have hhead : (digits (n / 10)).head? = some '0' := by
        rw [digits, hds]
        rwa [hds] at h
      have := ih (n / 10) (by omega) hhead
      omega

namespace Numeral

/-- A numeral as a text may have it: a digit before the point, no needless zero in front, and
    a digit in the exponent, if there is one. -/
structure WellFormed (n : Numeral) : Prop where
  whole : IsDigits n.whole
  leading : n.whole.head? = some '0' → n.whole = ['0']
  fraction : ∀ c ∈ n.fraction, c.isDigit = true
  exponent : ∀ e, n.exponent = some e → IsDigits e.magnitude

theorem wellFormed_ofNat (n : Nat) : (ofNat n).WellFormed where
  whole := isDigits_digits n
  leading h := by
    obtain rfl := digits_of_leading_zero h
    rfl
  fraction c hc := by cases hc
  exponent e he := by cases he

end Numeral

end Decimal

namespace Json

open Decimal

def EndsDigits (rest : Chars) : Prop := ∀ c ∈ rest.head?, c.isDigit = false

def EndsNumber (rest : Chars) : Prop := ∀ c ∈ rest.head?, c.isDigit = false ∧ c ≠ '.' ∧ c ≠ 'e' ∧ c ≠ 'E'

theorem EndsNumber.endsDigits {rest : Chars} (h : EndsNumber rest) : EndsDigits rest := fun c hc => (h c hc).1

theorem readDigits_append {ds rest : Chars} (h : IsDigits ds) (hr : EndsDigits rest) :
    readDigits (ds ++ rest) = some (ds, rest) := by
  have hstop : rest.takeWhile Char.isDigit = [] ∧ rest.dropWhile Char.isDigit = rest := by
    cases rest with
    | nil => exact ⟨rfl, rfl⟩
    | cons c rest => simp [hr c rfl]
  rw [readDigits, List.takeWhile_append_of_pos h.isDigit, List.dropWhile_append_of_pos h.isDigit, hstop.1, hstop.2,
    List.append_nil]
  simp [h.ne_nil]

theorem readWhole_append {ds rest : Chars} (h : IsDigits ds) (hz : ds.head? = some '0' → ds = ['0'])
    (hr : EndsDigits rest) : readWhole (ds ++ rest) = some (ds, rest) := by
  rw [readWhole, readDigits_append h hr]
  exact if_neg fun hno => hno.2 (hz hno.1)

def fractionChars (ds : List Char) : List Char := if ds.isEmpty then [] else '.' :: ds

def exponentChars : Option Exponent → List Char
  | none => []
  | some e => 'e' :: (if e.negative then '-' else '+') :: e.magnitude

theorem chars_eq (n : Numeral) :
    n.chars = (if n.negative then ['-'] else []) ++ (n.whole ++ (fractionChars n.fraction ++ exponentChars n.exponent)) := by
  rw [Numeral.chars, fractionChars]
  cases n.exponent <;> simp [exponentChars]

theorem readExponent_append {e : Option Exponent} {rest : Chars} (he : ∀ x, e = some x → IsDigits x.magnitude)
    (hr : EndsNumber rest) : readExponent (exponentChars e ++ rest) = some (e, rest) := by
  cases e with
  | none =>
    cases rest with
    | nil => rfl
    | cons c rest =>
      obtain ⟨_, _, hlower, hupper⟩ := hr c rfl
      simp [exponentChars, readExponent, hlower, hupper]
  | some e =>
    obtain ⟨negative, magnitude⟩ := e
    have hm := readDigits_append (he _ rfl) hr.endsDigits
    cases negative <;> simp [exponentChars, readExponent, readMagnitude, hm]

theorem readFraction_append {ds rest : Chars} (h : ∀ c ∈ ds, c.isDigit = true)
    (hr : ∀ c ∈ rest.head?, c.isDigit = false ∧ c ≠ '.') :
    readFraction (fractionChars ds ++ rest) = some (ds, rest) := by
  cases ds with
  | nil =>
    cases rest with
    | nil => rfl
    | cons c rest =>
      rw [fractionChars, List.isEmpty_nil, if_pos rfl, List.nil_append, readFraction]
      intro _ hpoint
      exact (hr c rfl).2 (List.cons.inj hpoint).1
  | cons d ds => exact readDigits_append ⟨List.cons_ne_nil d ds, h⟩ fun c hc => (hr c hc).1

theorem readNumeral_chars {n : Numeral} (h : n.WellFormed) {rest : Chars} (hr : EndsNumber rest) :
    readNumeral (n.chars ++ rest) = some (n, rest) := by
  have hexponent : ∀ c ∈ (exponentChars n.exponent ++ rest).head?, c.isDigit = false ∧ c ≠ '.' := by
    cases n.exponent with
    | none => exact fun c hc => ⟨(hr c hc).1, (hr c hc).2.1⟩
    | some e =>
      intro c hc
      obtain rfl := Option.some.inj hc
      decide
  have hfraction : EndsDigits (fractionChars n.fraction ++ (exponentChars n.exponent ++ rest)) := by
    cases n.fraction with
    | nil => exact fun c hc => (hexponent c hc).1
    | cons d ds =>
      intro c hc
      obtain rfl := Option.some.inj hc
      decide
  have hunsigned : ∀ negative, readUnsigned negative
      (n.whole ++ (fractionChars n.fraction ++ (exponentChars n.exponent ++ rest))) =
        some (⟨negative, n.whole, n.fraction, n.exponent⟩, rest) := fun negative => by
    rw [readUnsigned, readWhole_append h.whole h.leading hfraction]
    simp [readFraction_append h.fraction hexponent, readExponent_append h.exponent hr]
  obtain ⟨negative, whole, fraction, exponent⟩ := n
  rw [chars_eq, List.append_assoc, List.append_assoc, List.append_assoc]
  cases negative with
  | true => exact hunsigned true
  | false =>
    obtain ⟨d, ds, rfl⟩ := List.exists_cons_of_ne_nil h.whole.ne_nil
    rw [if_neg Bool.false_ne_true, List.nil_append, List.cons_append, readNumeral]
    · exact hunsigned false
    · intro _ hminus
      have hd := h.whole.isDigit d (List.mem_cons_self ..)
      rw [(List.cons.inj hminus).1] at hd
      cases hd

/-! ## Texts -/

theorem readUnits_of_escape {c e : Char} (hu : c ≠ 'u') (he : escapes.lookup c = some e) (cs : Chars) :
    readUnits ('\\' :: c :: cs) = (readUnits cs).map fun r => (e.toNat :: r.1, r.2) := by
  rw [readUnits]
  · rw [he]
    cases readUnits cs <;> rfl
  · intro _ _ _ _ _ hc _
    exact hu hc

theorem readUnits_of_code {hex : List Char} {n : Nat} (hlen : hex.length = 4)
    (hn : (hex.mapM hexValue?).map (·.foldl (16 * · + ·) 0) = some n) (cs : Chars) :
    readUnits ('\\' :: 'u' :: hex ++ cs) = (readUnits cs).map fun r => (n :: r.1, r.2) := by
  obtain ⟨ds, hds, rfl⟩ := Option.map_eq_some_iff.mp hn
  match hex with
  | [a, b, c, d] =>
    simp only [List.cons_append, List.nil_append]
    rw [readUnits, hds]
    cases readUnits cs <;> rfl

theorem readUnits_of_plain {c : Char} (hquote : c ≠ '"') (hescape : c ≠ '\\') (hc : ¬ c.toNat < 32) (cs : Chars) :
    readUnits (c :: cs) = (readUnits cs).map fun r => (c.toNat :: r.1, r.2) := by
  rw [readUnits]
  · rw [if_neg hc]
    cases readUnits cs <;> rfl
  · exact hquote
  · intro _ _ _ _ _ h _
    exact hescape h
  · intro _ _ h _
    exact hescape h

theorem control_code : ∀ n < 32,
    let hex := List.replicate (4 - (Nat.toDigits 16 n).length) '0' ++ Nat.toDigits 16 n
    hex.length = 4 ∧ (hex.mapM hexValue?).map (·.foldl (16 * · + ·) 0) = some n := by
  decide

theorem readUnits_escapeChar (c : Char) (cs : Chars) :
    readUnits (escapeChar c ++ cs) = (readUnits cs).map fun r => (c.toNat :: r.1, r.2) := by
  unfold escapeChar
  split
  · exact readUnits_of_escape (by decide) rfl cs
  · exact readUnits_of_escape (by decide) rfl cs
  · rename_i hquote hescape
    split
    · rename_i hc
      obtain ⟨hlen, hn⟩ := control_code c.toNat hc
      exact readUnits_of_code hlen hn cs
    · rename_i hc
      exact readUnits_of_plain hquote hescape hc cs

theorem readUnits_flatMap (s : List Char) (rest : Chars) :
    readUnits (s.flatMap escapeChar ++ '"' :: rest) = some (s.map Char.toNat, rest) := by
  induction s with
  | nil => rfl
  | cons c s ih => rw [List.flatMap_cons, List.append_assoc, readUnits_escapeChar, ih]; rfl

theorem joinUnits_map_toNat (s : List Char) : joinUnits (s.map Char.toNat) = some s := by
  induction s with
  | nil => rfl
  | cons c s ih =>
    have hvalid : c.toNat < 0xD800 ∨ 0xDFFF < c.toNat ∧ c.toNat < 0x110000 := c.valid
    have hlow : isLowHalf c.toNat = false := by
      simp [isLowHalf]
      omega
    have hhigh : isHighHalf c.toNat = false := by
      simp [isHighHalf]
      omega
    rw [List.map_cons, joinUnits.eq_def]
    simp [hlow, hhigh, ih]

/-- A quoted text reads as the text, and half a surrogate pair as no text. -/
theorem readString_quote (s : Option String) (rest : Chars) :
    ∃ cs, quote s ++ rest = '"' :: cs ∧ readString cs = some (s, rest) := by
  cases s with
  | none =>
    have hhalf : readUnits (("\\ud800".toList ++ ['"']) ++ rest) = some ([0xD800], rest) :=
      readUnits_of_code (rfl : ['d', '8', '0', '0'].length = 4) (by decide) ('"' :: rest)
    refine ⟨"\\ud800".toList ++ ['"'] ++ rest, rfl, ?_⟩
    rw [readString, hhalf]
    rfl
  | some s =>
    refine ⟨s.toList.flatMap escapeChar ++ '"' :: rest, by simp [quote], ?_⟩
    simp [readString, readUnits_flatMap, joinUnits_map_toNat]

/-! ## Items with commas between them -/

def commaSeparated (ts : List Chars) : Chars := [','].intercalate ts

@[simp] theorem commaSeparated_singleton (t : Chars) : commaSeparated [t] = t := by simp [commaSeparated]

theorem commaSeparated_cons_cons (t u : Chars) (ts : List Chars) :
    commaSeparated (t :: u :: ts) = t ++ ',' :: commaSeparated (u :: ts) := by
  simp [commaSeparated, List.intercalate]

theorem length_le_commaSeparated (ts : List Chars) : ts.length ≤ (commaSeparated ts).length + 1 := by
  induction ts with
  | nil => exact Nat.zero_le _
  | cons t ts ih =>
    cases ts with
    | nil => exact Nat.le_add_left _ _
    | cons u ts =>
      rw [commaSeparated_cons_cons]
      simp at ih ⊢
      omega

theorem length_le_of_mem {t : Chars} {ts : List Chars} (h : t ∈ ts) : t.length ≤ (commaSeparated ts).length := by
  induction ts with
  | nil => cases h
  | cons u ts ih =>
    cases ts with
    | nil =>
      obtain rfl := List.mem_singleton.mp h
      simp
    | cons v ts =>
      rw [commaSeparated_cons_cons]
      simp only [List.length_append, List.length_cons]
      rcases List.mem_cons.mp h with rfl | h
      · omega
      · have := ih h
        omega

theorem skipBlanks_cons {c : Char} (h : isBlank c = false) (cs : Chars) : skipBlanks (c :: cs) = c :: cs := by
  simp [skipBlanks, h]

/-- What ends a list of items is neither a comma nor passed over, and ends a number. -/
structure Closes (close : Char) : Prop where
  ne_comma : close ≠ ','
  not_blank : isBlank close = false
  ends_number : close.isDigit = false ∧ close ≠ '.' ∧ close ≠ 'e' ∧ close ≠ 'E'

theorem closes_array : Closes ']' := ⟨by decide, by decide, by decide⟩

theorem closes_object : Closes '\x7d' := ⟨by decide, by decide, by decide⟩

theorem Closes.endsNumber {close : Char} (h : Closes close) {c : Char} (hc : c = ',' ∨ c = close) (rest : Chars) :
    EndsNumber (c :: rest) := by
  intro d hd
  obtain rfl := Option.some.inj hd
  rcases hc with rfl | rfl
  · decide
  · exact h.ends_number

section Items

variable {α : Type} {item : Chars → Option (α × Chars)} {close : Char} {text : α → Chars} {xs : List α}

theorem readItems_commaSeparated (hclose : Closes close) (hne : xs ≠ [])
    (h : ∀ x ∈ xs, ∀ c rest, c = ',' ∨ c = close → item (text x ++ c :: rest) = some (x, c :: rest)) {fuel : Nat}
    (hfuel : xs.length ≤ fuel) (rest : Chars) :
    readItems item close fuel (commaSeparated (xs.map text) ++ close :: rest) = some (xs, rest) := by
  induction xs generalizing fuel with
  | nil => exact absurd rfl hne
  | cons x xs ih =>
    obtain ⟨fuel, rfl⟩ : ∃ k, fuel = k + 1 := ⟨fuel - 1, by simp at hfuel; omega⟩
    cases xs with
    | nil =>
      have hx := h x (List.mem_cons_self ..) close rest (Or.inr rfl)
      simp [readItems, hx, skipBlanks_cons hclose.not_blank, hclose.ne_comma]
    | cons y ys =>
      have hx := h x (List.mem_cons_self ..) ',' (commaSeparated ((y :: ys).map text) ++ close :: rest) (Or.inl rfl)
      have hys := ih (List.cons_ne_nil y ys) (fun z hz => h z (List.mem_cons_of_mem _ hz)) (Nat.le_of_succ_le_succ hfuel)
      rw [List.map_cons, List.map_cons, commaSeparated_cons_cons, ← List.map_cons, List.append_assoc, List.cons_append,
        readItems, hx]
      simp only [Option.bind_eq_bind, Option.bind_some, skipBlanks_cons (c := ',') rfl, if_pos, hys]

/-- A list reads as its items, if none of them starts like the end of the list. -/
theorem readList_commaSeparated (hclose : Closes close)
    (h : ∀ x ∈ xs, ∀ c rest, c = ',' ∨ c = close → item (text x ++ c :: rest) = some (x, c :: rest))
    (hstart : ∀ x ∈ xs, ∃ c cs, text x = c :: cs ∧ isBlank c = false ∧ c ≠ close) (rest : Chars) :
    readList item close (commaSeparated (xs.map text) ++ close :: rest) = some (xs, rest) := by
  cases xs with
  | nil => simp [commaSeparated, readList, skipBlanks_cons hclose.not_blank]
  | cons x xs =>
    have hfuel : (x :: xs).length ≤ (commaSeparated ((x :: xs).map text) ++ close :: rest).length := by
      have hlen := length_le_commaSeparated ((x :: xs).map text)
      simp at hlen ⊢
      omega
    have hitems := readItems_commaSeparated hclose (List.cons_ne_nil x xs) h hfuel rest
    obtain ⟨c, cs, hc, hblank, hne⟩ := hstart x (List.mem_cons_self ..)
    obtain ⟨ds, hds⟩ : ∃ ds, commaSeparated ((x :: xs).map text) ++ close :: rest = c :: ds := by
      cases xs <;> simp [commaSeparated_cons_cons, hc]
    rw [hds] at hitems ⊢
    simp only [readList, skipBlanks_cons hblank, if_neg hne]
    exact hitems

end Items

/-! ## Values -/

inductive WellFormed : Json → Prop
  | null : WellFormed null
  | bool (b : Bool) : WellFormed (bool b)
  | number {n : Numeral} : n.WellFormed → WellFormed (number n)
  | string (s : Option String) : WellFormed (string s)
  | array {xs : List Json} : (∀ x ∈ xs, WellFormed x) → WellFormed (array xs)
  | object {ms : List (Option String × Json)} : (∀ m ∈ ms, WellFormed m.2) → WellFormed (object ms)

theorem itemChars_eq (xs : List Json) : itemChars xs = commaSeparated (xs.map chars) := by
  induction xs with
  | nil => rfl
  | cons x xs ih =>
    cases xs with
    | nil => simp [itemChars]
    | cons y ys => simp [itemChars, ih, commaSeparated_cons_cons]

def memberText (m : Option String × Json) : Chars := quote m.1 ++ ':' :: m.2.chars

theorem memberChars_eq (ms : List (Option String × Json)) : memberChars ms = commaSeparated (ms.map memberText) := by
  induction ms with
  | nil => rfl
  | cons m ms ih =>
    cases ms with
    | nil => simp [memberChars, memberText]
    | cons m' ms => simp [memberChars, memberText, ih, commaSeparated_cons_cons]

theorem number_start {n : Numeral} (h : n.WellFormed) : ∃ c cs, n.chars = c :: cs ∧ (c.isDigit = true ∨ c = '-') := by
  obtain ⟨d, ds, hds⟩ := List.exists_cons_of_ne_nil h.whole.ne_nil
  have hd : d.isDigit = true := h.whole.isDigit d (hds ▸ List.mem_cons_self ..)
  rw [chars_eq, hds]
  cases n.negative with
  | true => exact ⟨_, _, rfl, Or.inr rfl⟩
  | false => exact ⟨_, _, rfl, Or.inl hd⟩

theorem isBlank_of_isDigit {c : Char} (h : c.isDigit = true) : isBlank c = false := by
  simp only [isBlank, Bool.or_eq_false_iff, decide_eq_false_iff_not]
  refine ⟨⟨⟨?_, ?_⟩, ?_⟩, ?_⟩ <;> (rintro rfl; cases h)

/-- No value starts like the end of an array or with a blank. -/
theorem WellFormed.start {j : Json} (h : j.WellFormed) :
    ∃ c cs, j.chars = c :: cs ∧ isBlank c = false ∧ c ≠ ']' := by
  cases h with
  | null => exact ⟨_, _, rfl, by decide, by decide⟩
  | bool b => cases b <;> exact ⟨_, _, rfl, by decide, by decide⟩
  | number h =>
    obtain ⟨c, cs, hcs, hc⟩ := number_start h
    refine ⟨c, cs, by rw [chars, hcs], ?_⟩
    rcases hc with hc | rfl
    · exact ⟨isBlank_of_isDigit hc, by rintro rfl; cases hc⟩
    · decide
  | string s => cases s <;> exact ⟨_, _, rfl, by decide, by decide⟩
  | array h => exact ⟨_, _, rfl, by decide, by decide⟩
  | object h => exact ⟨_, _, rfl, by decide, by decide⟩

theorem readValue_of_number {c : Char} {cs : Chars} (hc : c.isDigit = true ∨ c = '-') (fuel : Nat) :
    readValue (fuel + 1) (c :: cs) = (readNumeral (c :: cs)).map fun r => (number r.1, r.2) := by
  have hblank : isBlank c = false := by
    rcases hc with hc | rfl
    · exact isBlank_of_isDigit hc
    · rfl
  rw [readValue, skipBlanks_cons hblank]
  split
  case h_7 => cases readNumeral (c :: cs) <;> rfl
  all_goals
    rename_i heq
    obtain rfl := (List.cons.inj heq).1
    rcases hc with hc | hc <;> cases hc

theorem readMember_memberText {value : Chars → Option (Json × Chars)} {m : Option String × Json} {rest : Chars}
    (h : value (m.2.chars ++ rest) = some (m.2, rest)) : readMember value (memberText m ++ rest) = some (m, rest) := by
  obtain ⟨cs, hcs, hread⟩ := readString_quote m.1 (':' :: (m.2.chars ++ rest))
  have htext : memberText m ++ rest = '"' :: cs := by rw [← hcs]; simp [memberText]
  rw [htext, readMember, skipBlanks_cons (by rfl)]
  simp [hread, skipBlanks_cons (c := ':') rfl, h]

section Lists

variable {fuel : Nat} {rest : Chars}

theorem readValue_array {xs : List Json} (hstart : ∀ x ∈ xs, ∃ c cs, x.chars = c :: cs ∧ isBlank c = false ∧ c ≠ ']')
    (h : ∀ x ∈ xs, ∀ rest, EndsNumber rest → readValue fuel (x.chars ++ rest) = some (x, rest)) :
    readValue (fuel + 1) ((array xs).chars ++ rest) = some (array xs, rest) := by
  have hlist := readList_commaSeparated closes_array
    (fun x hx c rest hc => h x hx (c :: rest) (closes_array.endsNumber hc rest)) hstart rest
  rw [chars, itemChars_eq]
  simp [readValue, skipBlanks_cons (c := '[') rfl, hlist]

theorem readValue_object {ms : List (Option String × Json)}
    (h : ∀ m ∈ ms, ∀ rest, EndsNumber rest → readValue fuel (m.2.chars ++ rest) = some (m.2, rest)) :
    readValue (fuel + 1) ((object ms).chars ++ rest) = some (object ms, rest) := by
  have hstart : ∀ m ∈ ms, ∃ c cs, memberText m = c :: cs ∧ isBlank c = false ∧ c ≠ '\x7d' := fun m _ => by
    obtain ⟨cs, hcs, -⟩ := readString_quote m.1 (':' :: m.2.chars)
    exact ⟨'"', cs, hcs, by decide, by decide⟩
  have hlist := readList_commaSeparated closes_object
    (fun m hm c rest hc =>
      readMember_memberText (h m hm (c :: rest) (closes_object.endsNumber hc rest))) hstart rest
  rw [chars, memberChars_eq]
  simp [readValue, skipBlanks_cons (c := '\x7b') rfl, hlist]

end Lists

theorem length_lt_of_mem_array {x : Json} {xs : List Json} (h : x ∈ xs) : x.chars.length < (array xs).chars.length := by
  have := length_le_of_mem (List.mem_map_of_mem (f := chars) h)
  rw [chars, itemChars_eq]
  simp only [List.length_append, List.length_cons]
  omega

theorem length_lt_of_mem_object {m : Option String × Json} {ms : List (Option String × Json)} (h : m ∈ ms) :
    m.2.chars.length < (object ms).chars.length := by
  have hmem := length_le_of_mem (List.mem_map_of_mem (f := memberText) h)
  have hm : m.2.chars.length < (memberText m).length := by simp [memberText]; omega
  rw [chars, memberChars_eq]
  simp only [List.length_append, List.length_cons]
  omega

/-- A value is read off the front of a text. Each level of the tree takes a character at
    least, so that a count of the characters suffices. -/
theorem readValue_chars {j : Json} (h : j.WellFormed) {fuel : Nat} (hfuel : j.chars.length ≤ fuel) (rest : Chars)
    (hr : EndsNumber rest) : readValue fuel (j.chars ++ rest) = some (j, rest) := by
  induction fuel generalizing j rest with
  | zero =>
    obtain ⟨c, cs, hcs, -⟩ := h.start
    rw [hcs] at hfuel
    cases hfuel
  | succ fuel ih =>
    cases h with
    | null => rw [chars]; rfl
    | bool b => cases b <;> (rw [chars]; rfl)
    | @number n h =>
      obtain ⟨c, cs, hcs, hc⟩ := number_start h
      have hread : readNumeral (c :: (cs ++ rest)) = some (n, rest) := by
        rw [← List.cons_append, ← hcs]
        exact readNumeral_chars h hr
      rw [chars, hcs, List.cons_append, readValue_of_number hc, hread]
      rfl
    | string s =>
      obtain ⟨cs, hcs, hread⟩ := readString_quote s rest
      rw [chars, hcs, readValue, skipBlanks_cons rfl]
      simp [hread]
    | array h =>
      refine readValue_array (fun x hx => (h x hx).start) fun x hx rest => ih (h x hx) ?_ rest
      exact Nat.le_of_lt_succ (Nat.lt_of_lt_of_le (length_lt_of_mem_array hx) hfuel)
    | object h =>
      refine readValue_object fun m hm rest => ih (h m hm) ?_ rest
      exact Nat.le_of_lt_succ (Nat.lt_of_lt_of_le (length_lt_of_mem_object hm) hfuel)

theorem ofText?_text {j : Json} (h : j.WellFormed) : ofText? j.text = some j := by
  have hread := readValue_chars h (Nat.le_succ _) [] fun c hc => by cases hc
  rw [List.append_nil] at hread
  rw [ofText?, text, String.toList_ofList, ofChars?, hread]
  rfl

end Json

end SensorFusion
