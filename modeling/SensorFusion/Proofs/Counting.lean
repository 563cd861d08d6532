/-
  SensorFusion.Proofs.Counting — sums of counters. Counters stop at their limit, so a sum of
  them cut off at the limit says how many events they counted together, also where some of
  them stopped, and by slot or by event it is the same count.
-/

import Mathlib.Algebra.GroupWithZero.Nat
import SensorFusion.Counter

namespace SensorFusion.Counter

variable {α : Type} {n : Nat}

/-- Cutting off along the way is cutting off once at the end. -/
theorem toNat_foldl_add (cs : List UInt32) (a : UInt32) :
    (cs.foldl add a).toNat = min (a.toNat + (cs.map UInt32.toNat).sum) limit := by
  induction cs generalizing a with
  | nil => simpa using (Nat.min_eq_left (toNat_le_limit a)).symm
  | cons c cs ih =>
    rw [List.foldl_cons, ih, toNat_add, List.map_cons, List.sum_cons]
    omega

theorem toNat_total (cs : List UInt32) : (total cs).toNat = min (cs.map UInt32.toNat).sum limit := by
  simpa [total] using toNat_foldl_add cs 0

/-- A sum of counters says how many events they counted together, even where some of them
    stopped at the limit. -/
theorem total_of_getElem {cs : Vector UInt32 n} {f : Nat → Nat}
    (h : ∀ i (hi : i < n), cs[i] = ofNat (f i)) : total cs.toList = ofNat ((List.range n).map f).sum := by
  have hcs : cs.toList = (List.range n).map fun i => ofNat (f i) := by
    refine List.ext_getElem (by simp) fun i hi _ => ?_
    simpa using h i (by simpa using hi)
  have cut : ∀ l : List Nat, min (l.map fun i => (ofNat (f i)).toNat).sum limit = min (l.map f).sum limit := fun l => by
    induction l with
    | nil => rfl
    | cons i l ih =>
      rw [List.map_cons, List.map_cons, List.sum_cons, List.sum_cons, toNat_ofNat]
      omega
  rw [← UInt32.toNat_inj, toNat_total, toNat_ofNat, hcs, List.map_map]
  exact cut _

theorem sum_countP_cons {β : Type} (q : α → β → Bool) (x : α) (xs : List α) (ys : List β) :
    (ys.map fun y => (x :: xs).countP fun z => q z y).sum =
      ys.countP (q x) + (ys.map fun y => xs.countP fun z => q z y).sum := by
  induction ys with
  | nil => rfl
  | cons y ys ih =>
    rw [List.map_cons, List.map_cons, List.sum_cons, List.sum_cons, ih, List.countP_cons, List.countP_cons]
    omega

/-- Counting by slot or by event is the same. -/
theorem sum_countP_comm {β : Type} (q : α → β → Bool) (xs : List α) (ys : List β) :
    (xs.map fun x => ys.countP (q x)).sum = (ys.map fun y => xs.countP fun x => q x y).sum := by
  induction xs with
  | nil =>
    induction ys with
    | nil => rfl
    | cons y ys ih =>
      rw [List.map_cons, List.sum_cons, ← ih]
      rfl
  | cons x xs ih => rw [List.map_cons, List.sum_cons, ih, sum_countP_cons]

/-- The slots together count an event as often as it has slots. -/
theorem Tally.total {cs : Vector UInt32 n} {p : α → Nat → Bool} {xs : List α} (h : Tally cs p xs) :
    total cs.toList = ofNat (xs.map fun x => (List.range n).countP (p x)).sum := by
  rw [total_of_getElem h, sum_countP_comm fun i x => p x i]

end SensorFusion.Counter
