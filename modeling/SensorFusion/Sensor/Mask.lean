/-
  SensorFusion.Sensor.Mask — sets of sensor classes and derived fields, one bit each
  in a 16-bit word. The same type is the set of unread samples, the set of valid
  snapshot fields, and the summaries of a run.

  Bits 0 to 6 are the sensor classes and bit 8 is the attitude that a filter unit may
  derive; the other bits are free for filter units.
-/

import SensorFusion.Sensor.Class

namespace SensorFusion

structure SensorMask where
  bits : UInt16
  deriving DecidableEq

def SensorClass.bit (c : SensorClass) : SensorMask := ⟨1 <<< UInt16.ofNat c.index.val⟩

namespace SensorMask

def empty : SensorMask := ⟨0⟩

/-- The attitude field, derived by a filter unit. -/
def attitude : SensorMask := ⟨256⟩

def sensors : SensorMask := ⟨127⟩

def isEmpty (m : SensorMask) : Bool := m.bits == 0

def union (m n : SensorMask) : SensorMask := ⟨m.bits ||| n.bits⟩

def inter (m n : SensorMask) : SensorMask := ⟨m.bits &&& n.bits⟩

def diff (m n : SensorMask) : SensorMask := ⟨m.bits &&& ~~~n.bits⟩

def contains (m n : SensorMask) : Bool := m.inter n == n

def has (m : SensorMask) (c : SensorClass) : Bool := m.contains c.bit

def count (m : SensorMask) : Nat := (List.range 16).countP fun i => m.bits.toNat.testBit i

def classes (m : SensorMask) : List SensorClass := SensorClass.all.filter m.has

def ofClasses (cs : List SensorClass) : SensorMask := cs.foldl (fun m c => m.union c.bit) empty

theorem mem_classes {m : SensorMask} {c : SensorClass} : c ∈ m.classes ↔ m.has c = true := by
  simp [classes]

@[simp] theorem union_empty (m : SensorMask) : m.union empty = m := by simp [union, empty]

@[simp] theorem empty_union (m : SensorMask) : empty.union m = m := by simp [union, empty]

theorem union_assoc (m n k : SensorMask) : (m.union n).union k = m.union (n.union k) := by
  simp [union, UInt16.or_assoc]

theorem isEmpty_iff {m : SensorMask} : m.isEmpty = true ↔ m = empty := by
  cases m; simp [isEmpty, empty]

@[simp] theorem isEmpty_union (m n : SensorMask) : (m.union n).isEmpty = (m.isEmpty && n.isEmpty) := by
  rw [Bool.eq_iff_iff]
  simp [isEmpty, union]

theorem union_inter_distrib (m n k : SensorMask) : (m.union n).inter k = (m.inter k).union (n.inter k) := by
  simp only [union, inter, mk.injEq, ← UInt16.toBitVec_inj, UInt16.toBitVec_and, UInt16.toBitVec_or]
  exact BitVec.and_or_distrib_right

theorem inter_assoc (m n k : SensorMask) : (m.inter n).inter k = m.inter (n.inter k) := by
  simp [inter, UInt16.and_assoc]

@[simp] theorem inter_inter_self (m n : SensorMask) : (m.inter n).inter n = m.inter n := by
  simp [inter, UInt16.and_assoc]

@[simp] theorem empty_inter (m : SensorMask) : empty.inter m = empty := by simp [inter, empty]

/-! ## Classes of a mask -/

theorem has_eq_getLsbD (m : SensorMask) (c : SensorClass) : m.has c = m.bits.toBitVec.getLsbD c.index.val := by
  have hc : c.bit.bits.toBitVec = BitVec.twoPow 16 c.index.val := by cases c <;> decide
  have hne : BitVec.twoPow 16 c.index.val ≠ 0 := by cases c <;> decide
  have he : m.has c = true ↔ m.bits.toBitVec &&& BitVec.twoPow 16 c.index.val = BitVec.twoPow 16 c.index.val := by
    rw [← hc, ← UInt16.toBitVec_and, UInt16.toBitVec_inj]
    simp only [has, contains, inter, beq_iff_eq]
    exact ⟨fun h => congrArg bits h, fun h => congrArg mk h⟩
  rw [Bool.eq_iff_iff, he, BitVec.and_twoPow]
  by_cases hb : m.bits.toBitVec.getLsbD c.index.val
  · simp [hb]
  · simpa [hb] using hne.symm

@[simp] theorem has_union (m n : SensorMask) (c : SensorClass) : (m.union n).has c = (m.has c || n.has c) := by
  simp [has_eq_getLsbD, union]

@[simp] theorem has_inter (m n : SensorMask) (c : SensorClass) : (m.inter n).has c = (m.has c && n.has c) := by
  simp [has_eq_getLsbD, inter]

@[simp] theorem has_empty (c : SensorClass) : empty.has c = false := by cases c <;> decide

@[simp] theorem has_sensors (c : SensorClass) : sensors.has c = true := by cases c <;> decide

@[simp] theorem has_bit (c d : SensorClass) : c.bit.has d = decide (d = c) := by cases c <;> cases d <;> decide

/-- Masks of sensor bits with the same classes are the same. -/
theorem eq_of_has {m n : SensorMask} (hm : m.inter sensors = m) (hn : n.inter sensors = n)
    (h : ∀ c, m.has c = n.has c) : m = n := by
  have clear : ∀ {k : SensorMask} {i : Nat}, k.inter sensors = k → sensors.bits.toBitVec.getLsbD i = false →
      k.bits.toBitVec.getLsbD i = false := fun {k i} hk hi => by
    rw [← hk, inter, UInt16.toBitVec_and, BitVec.getLsbD_and, hi, Bool.and_false]
  -- a place of the word is a class's, or outside `sensors`
  have place : ∀ i < 16, (∃ c : SensorClass, c.index.val = i) ∨ sensors.bits.toBitVec.getLsbD i = false := by
    intro i hi
    by_cases hc : i < 7
    · refine Or.inl ⟨SensorClass.all[i], ?_⟩
      revert i
      decide
    · refine Or.inr ?_
      revert i
      decide
  have hb : m.bits.toBitVec = n.bits.toBitVec := BitVec.eq_of_getLsbD_eq fun i hi => by
    rcases place i hi with ⟨c, rfl⟩ | hi
    · rw [← has_eq_getLsbD, ← has_eq_getLsbD]
      exact h c
    · rw [clear hm hi, clear hn hi]
  cases m
  cases n
  exact congrArg mk (UInt16.toBitVec_inj.mp hb)

@[simp] theorem ofClasses_nil : ofClasses [] = empty := rfl

theorem ofClasses_concat (cs : List SensorClass) (c : SensorClass) :
    ofClasses (cs ++ [c]) = (ofClasses cs).union c.bit := List.foldl_append

@[simp] theorem ofClasses_singleton (c : SensorClass) : ofClasses [c] = c.bit := empty_union _

theorem ofClasses_append (cs ds : List SensorClass) : ofClasses (cs ++ ds) = (ofClasses cs).union (ofClasses ds) := by
  induction ds generalizing cs with
  | nil => simp
  | cons d ds ih =>
    have hd : ofClasses (d :: ds) = d.bit.union (ofClasses ds) := by
      rw [← List.singleton_append, ih, ofClasses_singleton]
    rw [List.append_cons, ih, ofClasses_concat, union_assoc, hd]

theorem has_ofClasses (cs : List SensorClass) (c : SensorClass) : (ofClasses cs).has c = decide (c ∈ cs) := by
  induction cs with
  | nil => simp
  | cons d cs ih =>
    rw [← List.singleton_append, ofClasses_append, has_union, ih, ofClasses_singleton, has_bit]
    simp

theorem ofClasses_inter_sensors (cs : List SensorClass) : (ofClasses cs).inter sensors = ofClasses cs := by
  induction cs with
  | nil => exact empty_inter _
  | cons c cs ih =>
    have hc : c.bit.inter sensors = c.bit := by cases c <;> decide
    rw [← List.singleton_append, ofClasses_append, union_inter_distrib, ih, ofClasses_singleton, hc]

theorem ofClasses_classes (m : SensorMask) : ofClasses m.classes = m.inter sensors :=
  eq_of_has (ofClasses_inter_sensors _) (inter_inter_self _ _) fun c => by
    rw [has_ofClasses, has_inter, has_sensors, Bool.and_true, Bool.eq_iff_iff, decide_eq_true_iff, mem_classes]

theorem classes_inter_sensors (m : SensorMask) : (m.inter sensors).classes = m.classes :=
  List.filter_congr fun c _ => by rw [has_inter, has_sensors, Bool.and_true]

theorem pairwise_classes (m : SensorMask) : m.classes.Pairwise (·.index < ·.index) :=
  (by decide : SensorClass.all.Pairwise (·.index < ·.index)).filter _

theorem nodup_classes (m : SensorMask) : m.classes.Nodup := (by decide : SensorClass.all.Nodup).filter _

end SensorMask

end SensorFusion
