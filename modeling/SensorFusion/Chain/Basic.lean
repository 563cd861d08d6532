/-
  SensorFusion.Chain.Basic — a fixed, ordered sequence of filter units.

  Units are called in order, each once per pass, and each sees what the ones before it
  did to the snapshot. A failing unit is reported and passed over; the others still
  run, since a partial estimate beats none.
-/

import SensorFusion.Chain.Report
import SensorFusion.Chain.Unit
import SensorFusion.Text.Quoted

namespace SensorFusion

structure StartPass (υ : Type) where
  units : List υ
  /-- Name and failure of every unit called. -/
  calls : List (String × Option FilterError)

structure UpdatePass (υ : Type) where
  units : List υ
  snapshot : Snapshot
  /-- Samples that arrived meanwhile, in order. -/
  arrivals : List SensorMask
  /-- Name and failure of every unit called. -/
  calls : List (String × Option FilterError)

section Passes

variable {υ : Type} [FilterUnit υ]

def StartPass.ofUnits : List υ → StartPass υ
  | [] => ⟨[], []⟩
  | u :: us =>
    let r := FilterUnit.start u
    let rest := ofUnits us
    ⟨r.unit :: rest.units, (FilterUnit.name r.unit, r.failure) :: rest.calls⟩

def UpdatePass.ofUnits : List υ → Snapshot → UpdatePass υ
  | [], s => ⟨[], s, [], []⟩
  | u :: us, s =>
    let r := FilterUnit.update u s
    let rest := ofUnits us r.snapshot
    ⟨r.unit :: rest.units, rest.snapshot, r.arrivals ++ rest.arrivals,
      (FilterUnit.name r.unit, r.failure) :: rest.calls⟩

theorem StartPass.length_units_ofUnits (us : List υ) : (ofUnits us).units.length = us.length := by
  induction us with
  | nil => rfl
  | cons u us ih => simp [ofUnits, ih]

theorem UpdatePass.length_units_ofUnits (us : List υ) (s : Snapshot) :
    (ofUnits us s).units.length = us.length := by
  induction us generalizing s with
  | nil => rfl
  | cons u us ih => simp [ofUnits, ih]

theorem UpdatePass.length_calls_ofUnits (us : List υ) (s : Snapshot) :
    (ofUnits us s).calls.length = us.length := by
  induction us generalizing s with
  | nil => rfl
  | cons u us ih => simp [ofUnits, ih]

namespace UpdatePass

/-- What some units in order make of a snapshot: the left fold of their updates. -/
def refined (us : List υ) (s : Snapshot) : Snapshot := us.foldl (fun s u => (FilterUnit.update u s).snapshot) s

/-- What the update of each unit gives, on what the units before it made of the snapshot. -/
def updates (us : List υ) (s : Snapshot) : List (UnitUpdate υ) :=
  us.mapIdx fun i u => FilterUnit.update u (refined (us.take i) s)

theorem updates_cons (u : υ) (us : List υ) (s : Snapshot) :
    updates (u :: us) s = FilterUnit.update u s :: updates us (FilterUnit.update u s).snapshot := by
  rw [updates, List.mapIdx_cons]
  rfl

theorem ofUnits_eq (us : List υ) (s : Snapshot) : ofUnits us s =
    { units := (updates us s).map UnitUpdate.unit
      snapshot := refined us s
      arrivals := (updates us s).flatMap UnitUpdate.arrivals
      calls := (updates us s).map fun r => (FilterUnit.name r.unit, r.failure) } := by
  induction us generalizing s with
  | nil => rfl
  | cons u us ih =>
    rw [ofUnits, ih, updates_cons]
    rfl

end UpdatePass

end Passes

structure FilterChain (υ : Type) where
  /-- The units in the order they run. -/
  units : List υ
  metrics : ChainMetrics
  length_le : units.length ≤ maxFilterUnits

namespace FilterChain

variable {υ : Type}

def ofUnits (units : List υ) (length_le : units.length ≤ maxFilterUnits) : FilterChain υ :=
  ⟨units, .zero, length_le⟩

def length (c : FilterChain υ) : Nat := c.units.length

def isEmpty (c : FilterChain υ) : Bool := c.units.isEmpty

variable [FilterUnit υ]

def names (c : FilterChain υ) : List String := c.units.map FilterUnit.name

def text (c : FilterChain υ) : String := Text.quotedList c.names

def start (c : FilterChain υ) : ChainReport × FilterChain υ :=
  let pass := StartPass.ofUnits c.units
  let report := ChainReport.ofCalls pass.calls
  (report, ⟨pass.units, c.metrics.recordStart report, by rw [StartPass.length_units_ofUnits]; exact c.length_le⟩)

structure Run (υ : Type) where
  report : ChainReport
  /-- The snapshot after the last unit. -/
  snapshot : Snapshot
  /-- Samples that arrived meanwhile, in order. -/
  arrivals : List SensorMask
  chain : FilterChain υ

def run (c : FilterChain υ) (s : Snapshot) : Run υ :=
  let pass := UpdatePass.ofUnits c.units s
  let report := ChainReport.ofCalls pass.calls
  ⟨report, pass.snapshot, pass.arrivals,
    ⟨pass.units, c.metrics.recordRun report, by rw [UpdatePass.length_units_ofUnits]; exact c.length_le⟩⟩

theorem index_lt_run {c : FilterChain υ} {s : Snapshot} {f : UnitFailure} (hf : f ∈ (c.run s).report.failures) :
    f.index < maxFilterUnits := by
  have hlt := ChainReport.index_lt_ofCalls hf
  rw [UpdatePass.length_calls_ofUnits] at hlt
  exact Nat.lt_of_lt_of_le hlt c.length_le

end FilterChain

end SensorFusion
