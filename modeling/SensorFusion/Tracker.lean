/-
  SensorFusion.Tracker — the record of unread samples shared by the sensor-arrival
  contexts and the estimation task.

  An arrival sets its class's bit and asks for a run; the estimation task takes all
  bits at once, and takes the run request separately. Each operation here is one
  atomic step, so every order of arrivals and takes is a sequence of these operations.
-/

import SensorFusion.Sensor.Mask

namespace SensorFusion

@[ext] structure UpdateTracker where
  /-- Classes with an unread sample. -/
  pending : SensorMask
  /-- A run has been asked for since the last request was taken. -/
  dispatchRequested : Bool
  /-- Arrivals so far, modulo 2³². -/
  markCount : UInt32

namespace UpdateTracker

def empty : UpdateTracker := ⟨.empty, false, 0⟩

/-- Record fresh samples for the sensor bits of `m` and ask for a run. A mask without
    sensor bits is no arrival. -/
def markMask (t : UpdateTracker) (m : SensorMask) : UpdateTracker :=
  let fresh := m.inter .sensors
  if fresh.isEmpty then t
  else ⟨t.pending.union fresh, true, t.markCount + 1⟩

def mark (t : UpdateTracker) (c : SensorClass) : UpdateTracker := t.markMask c.bit

def markAll (t : UpdateTracker) (ms : List SensorMask) : UpdateTracker := ms.foldl markMask t

def take (t : UpdateTracker) : SensorMask × UpdateTracker := (t.pending, { t with pending := .empty })

def takeDispatch (t : UpdateTracker) : Bool × UpdateTracker :=
  (t.dispatchRequested, { t with dispatchRequested := false })

/-! ## Small facts -/

@[simp] theorem markAll_nil (t : UpdateTracker) : t.markAll [] = t := rfl

@[simp] theorem markAll_cons (t : UpdateTracker) (m : SensorMask) (ms : List SensorMask) :
    t.markAll (m :: ms) = (t.markMask m).markAll ms := rfl

theorem markAll_append (t : UpdateTracker) (ms ns : List SensorMask) :
    t.markAll (ms ++ ns) = (t.markAll ms).markAll ns := List.foldl_append

theorem markMask_of_no_sensor {m : SensorMask} (h : m.inter .sensors = .empty) (t : UpdateTracker) : t.markMask m = t := by
  simp [markMask, h, SensorMask.isEmpty_iff.mpr rfl]

theorem markAll_of_no_sensor {ms : List SensorMask} (h : ∀ m ∈ ms, m.inter .sensors = .empty) (t : UpdateTracker) :
    t.markAll ms = t := by
  induction ms with
  | nil => rfl
  | cons m ms ih =>
    rw [markAll_cons, markMask_of_no_sensor (h m (List.mem_cons_self ..))]
    exact ih fun n hn => h n (List.mem_cons_of_mem _ hn)

/-- An arrival adds its sensor bits to the unread ones, and loses none. -/
@[simp] theorem pending_markMask (t : UpdateTracker) (m : SensorMask) :
    (t.markMask m).pending = t.pending.union (m.inter .sensors) := by
  simp only [markMask]
  split
  · rename_i h
    rw [SensorMask.isEmpty_iff.mp h, SensorMask.union_empty]
  · rfl

@[simp] theorem dispatchRequested_markMask (t : UpdateTracker) (m : SensorMask) :
    (t.markMask m).dispatchRequested = (t.dispatchRequested || !(m.inter .sensors).isEmpty) := by
  simp only [markMask]
  split
  · rename_i h
    simp [h]
  · rename_i h
    simp [h]

@[simp] theorem markCount_markMask (t : UpdateTracker) (m : SensorMask) :
    (t.markMask m).markCount = t.markCount + if (m.inter .sensors).isEmpty then 0 else 1 := by
  simp only [markMask]
  split
  · exact (UInt32.add_zero _).symm
  · rfl

/-- Some arrival asks for a run, or one was asked for already. -/
theorem dispatchRequested_markAll (t : UpdateTracker) (ms : List SensorMask) :
    (t.markAll ms).dispatchRequested = (t.dispatchRequested || ms.any fun m => !(m.inter .sensors).isEmpty) := by
  induction ms generalizing t with
  | nil => exact (Bool.or_false _).symm
  | cons m ms ih => rw [markAll_cons, ih, dispatchRequested_markMask, List.any_cons, Bool.or_assoc]

theorem markCount_markAll (t : UpdateTracker) (ms : List SensorMask) :
    (t.markAll ms).markCount = t.markCount + UInt32.ofNat (ms.countP fun m => !(m.inter .sensors).isEmpty) := by
  induction ms generalizing t with
  | nil => exact (UInt32.add_zero _).symm
  | cons m ms ih =>
    rw [markAll_cons, ih, markCount_markMask, List.countP_cons, UInt32.ofNat_add, UInt32.add_assoc]
    congr 1
    rw [UInt32.add_comm]
    cases (m.inter .sensors).isEmpty <;> rfl

end UpdateTracker

end SensorFusion
