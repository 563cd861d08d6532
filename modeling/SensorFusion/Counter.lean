/-
  SensorFusion.Counter — 32-bit event counters that stop at their largest value
  instead of starting over.
-/

namespace SensorFusion.Counter

/-- The largest value of a counter; it stays there. -/
def limit : Nat := 4294967295

def add (a b : UInt32) : UInt32 := UInt32.ofNat (min (a.toNat + b.toNat) limit)

def next (a : UInt32) : UInt32 := add a 1

def total (cs : List UInt32) : UInt32 := cs.foldl add 0

def bump {n : Nat} (cs : Vector UInt32 n) (p : Nat → Bool) : Vector UInt32 n :=
  cs.mapIdx fun i c => if p i then next c else c

/-- Count events one after the other, each in its slot. -/
def countInto {n : Nat} (cs : Vector UInt32 n) (slots : List (Fin n)) : Vector UInt32 n :=
  slots.foldl (fun cs (i : Fin n) => cs.set i (next cs[i])) cs

theorem toNat_le_limit (a : UInt32) : a.toNat ≤ limit := Nat.le_of_lt_succ a.toNat_lt

theorem toNat_add (a b : UInt32) : (add a b).toNat = min (a.toNat + b.toNat) limit :=
  UInt32.toNat_ofNat_of_lt' (by simp only [limit, UInt32.size]; omega)

theorem toNat_next (a : UInt32) : (next a).toNat = min (a.toNat + 1) limit := toNat_add a 1

theorem getElem_bump {n : Nat} (cs : Vector UInt32 n) (p : Nat → Bool) (i : Nat) (h : i < n) :
    (bump cs p)[i] = if p i then next cs[i] else cs[i] := by
  simp [bump]

/-- Events in different slots come to the same one by one and at once. -/
theorem countInto_of_nodup {n : Nat} {slots : List (Fin n)} (h : slots.Nodup) (cs : Vector UInt32 n) :
    countInto cs slots = bump cs fun i => slots.any fun j => j.val == i := by
  induction slots generalizing cs with
  | nil =>
    refine Vector.ext fun i hi => ?_
    simp [countInto, getElem_bump]
  | cons j slots ih =>
    obtain ⟨hnew, hrest⟩ := List.nodup_cons.mp h
    have hstep : countInto cs (j :: slots) = countInto (cs.set j (next cs[j])) slots := rfl
    rw [hstep, ih hrest]
    refine Vector.ext fun i hi => ?_
    rw [getElem_bump, getElem_bump, Vector.getElem_set, List.any_cons]
    by_cases hij : j.val = i
    · -- no later event falls into the slot of the first
      have hno : (slots.any fun k => k.val == i) = false := by
        rw [List.any_eq_false]
        intro k hk he
        have hkj : k = j := Fin.ext ((beq_iff_eq.mp he).trans hij.symm)
        exact hnew (hkj ▸ hk)
      subst hij
      simp [hno]
    · simp [hij]

/-! ## What a counter says -/

def ofNat (n : Nat) : UInt32 := UInt32.ofNat (min n limit)

theorem toNat_ofNat (n : Nat) : (ofNat n).toNat = min n limit :=
  UInt32.toNat_ofNat_of_lt' (by simp only [limit, UInt32.size]; omega)

theorem ofNat_zero : ofNat 0 = 0 := by decide

theorem ofNat_of_le {n : Nat} (h : n ≤ limit) : UInt32.ofNat n = ofNat n := by rw [ofNat, Nat.min_eq_left h]

theorem add_ofNat (m n : Nat) : add (ofNat m) (ofNat n) = ofNat (m + n) := by
  rw [← UInt32.toNat_inj, toNat_add, toNat_ofNat, toNat_ofNat, toNat_ofNat]
  omega

theorem next_ofNat (n : Nat) : next (ofNat n) = ofNat (n + 1) := add_ofNat n 1

theorem next_ofNat_countP {α : Type} (p : α → Prop) [DecidablePred p] (xs : List α) (x : α) :
    (if p x then next (ofNat (xs.countP fun y => p y)) else ofNat (xs.countP fun y => p y)) =
      ofNat ((xs ++ [x]).countP fun y => p y) := by
  rw [List.countP_append, List.countP_singleton]
  by_cases h : p x
  · rw [if_pos h, if_pos (decide_eq_true h)]
    exact next_ofNat _
  · rw [if_neg h, if_neg (by simpa using h)]
    rfl

/-! ## Counters by slot -/

section Tally

variable {α : Type} {n : Nat} {cs : Vector UInt32 n} {p : α → Nat → Bool} {xs : List α}

def Tally (cs : Vector UInt32 n) (p : α → Nat → Bool) (xs : List α) : Prop :=
  ∀ i (hi : i < n), cs[i] = ofNat (xs.countP fun x => p x i)

theorem tally_replicate : Tally (Vector.replicate n 0) p [] := fun i hi => by
  rw [Vector.getElem_replicate, List.countP_nil, ofNat_zero]

theorem Tally.bump (h : Tally cs p xs) (x : α) : Tally (bump cs (p x)) p (xs ++ [x]) := fun i hi => by
  rw [getElem_bump, h i hi]
  simpa only [Bool.decide_eq_true] using next_ofNat_countP (fun y => p y i = true) xs x

end Tally

end SensorFusion.Counter
