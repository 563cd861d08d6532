/-
  SensorFusion.Chain.Unit — what a filter unit is: a state machine with a name, started
  once and then updated with the snapshot of every run.
-/

import SensorFusion.Error
import SensorFusion.Sensor.Snapshot

namespace SensorFusion

structure UnitStart (υ : Type) where
  unit : υ
  failure : Option FilterError

/-- What updating a unit gives. Changes that a unit made before it failed stay. -/
structure UnitUpdate (υ : Type) where
  unit : υ
  snapshot : Snapshot
  /-- Samples that arrived meanwhile, in order. -/
  arrivals : List SensorMask
  failure : Option FilterError

class FilterUnit (υ : Type) where
  /-- The name used in logs and reports. -/
  name : υ → String
  /-- One-time preparation. -/
  start : υ → UnitStart υ
  /-- Read and refine the snapshot of one run. -/
  update : υ → Snapshot → UnitUpdate υ

namespace FilterUnit

/-- A way to keep units of one type among units of another, each under its own name. -/
structure Boxing (α υ : Type) [FilterUnit α] [FilterUnit υ] where
  box : α → υ
  name_box (u : α) : name (box u) = name u

section Mixed

variable {α β : Type} [FilterUnit α] [FilterUnit β]

/-- Units of two types in one chain. -/
instance : FilterUnit (α ⊕ β) where
  name := Sum.elim name name
  start
    | .inl u => ⟨.inl (start u).unit, (start u).failure⟩
    | .inr u => ⟨.inr (start u).unit, (start u).failure⟩
  update
    | .inl u, s => let r := update u s; ⟨.inl r.unit, r.snapshot, r.arrivals, r.failure⟩
    | .inr u, s => let r := update u s; ⟨.inr r.unit, r.snapshot, r.arrivals, r.failure⟩

def Boxing.inl : Boxing α (α ⊕ β) := ⟨.inl, fun _ => rfl⟩

def Boxing.inr : Boxing β (α ⊕ β) := ⟨.inr, fun _ => rfl⟩

end Mixed

end FilterUnit

end SensorFusion
