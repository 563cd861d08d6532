/-
  SensorFusion.Persistent — the values kept as JSON texts: settings, their parts, home
  locations, alarm levels and statistics.

  A record is an object with its fields in a fixed order. Reading wants every field
  once, passes over unknown ones, and takes an array of the values instead.
-/

import SensorFusion.Json.Number
import SensorFusion.Json.Reader
import SensorFusion.Json.Writer
import SensorFusion.Scheduler.Report

namespace SensorFusion

class Persistent (α : Type) where
  toJson : α → Json
  ofJson? : Json → Option α

namespace Persistent

variable {α : Type} [Persistent α]

def write (a : α) : String := (toJson a).text

def read? (s : String) : Option α := (Json.ofText? s).bind ofJson?

end Persistent

open Persistent (toJson ofJson?)

/-! ## Names -/

instance : Persistent FilterKind where
  toJson k := .ofString k.name
  ofJson? := Json.choice? (FilterKind.all.map fun k => (k.name, k))

instance : Persistent FusionPreset where
  toJson p := .ofString p.name
  ofJson? := Json.choice? (FusionPreset.all.map fun p => (p.name, p))

def AlarmLevel.keptName : AlarmLevel → String
  | clear => "Clear"
  | warning => "Warning"

instance : Persistent AlarmLevel where
  toJson l := .ofString l.keptName
  ofJson? := Json.choice? ([.clear, .warning].map fun l => (l.keptName, l))

/-! ## Records -/

instance : Persistent Vec3 where
  toJson v := .array (v.toList.map .ofFloat32)
  ofJson?
    | .array [x, y, z] => do
      let x ← x.float32?
      let y ← y.float32?
      let z ← z.float32?
      some ⟨x, y, z⟩
    | _ => none

instance : Persistent EstimationSettings where
  toJson s := .ofMembers
    [("timeout_ms", .ofUInt32 s.timeout), ("filter_order", .array (s.filterOrder.map toJson))]
  ofJson? j :=
    match j.record? ["timeout_ms", "filter_order"] with
    | some [timeout, order] => do
      let timeout ← timeout.uint32?
      let kinds ← order.array?
      let order ← kinds.mapM ofJson?
      EstimationSettings.ofOrder? timeout order
    | _ => none

instance : Persistent HomeLocation where
  toJson h := .ofMembers
    [("latitude", .ofFloat h.latitude), ("longitude", .ofFloat h.longitude), ("altitude", .ofFloat32 h.altitude),
      ("magnetic_field", toJson h.magneticField), ("set", .bool h.set)]
  ofJson? j :=
    match j.record? ["latitude", "longitude", "altitude", "magnetic_field", "set"] with
    | some [latitude, longitude, altitude, field, set] => do
      let latitude ← latitude.float?
      let longitude ← longitude.float?
      let altitude ← altitude.float32?
      let field ← ofJson? field
      let set ← set.bool?
      some ⟨latitude, longitude, altitude, field, set⟩
    | _ => none

def countersOfJson? (n : Nat) (j : Json) : Option (Vector UInt32 n) := do
  let xs ← j.array?
  let counters ← xs.mapM Json.uint32?
  if h : counters.toArray.size = n then some ⟨counters.toArray, h⟩ else none

instance : Persistent SchedulerStats where
  toJson s := .ofMembers
    [("runs", .ofUInt32 s.runs), ("sensor_runs", .ofUInt32 s.sensorRuns), ("timeout_runs", .ofUInt32 s.timeoutRuns),
      ("stale_runs", .ofUInt32 s.staleRuns), ("dropped", .array (s.dropped.toList.map .ofUInt32)),
      ("filter_failures", .ofUInt32 s.filterFailures)]
  ofJson? j :=
    match j.record? ["runs", "sensor_runs", "timeout_runs", "stale_runs", "dropped", "filter_failures"] with
    | some [runs, sensorRuns, timeoutRuns, staleRuns, dropped, filterFailures] => do
      let runs ← runs.uint32?
      let sensorRuns ← sensorRuns.uint32?
      let timeoutRuns ← timeoutRuns.uint32?
      let staleRuns ← staleRuns.uint32?
      let dropped ← countersOfJson? sensorClassCount dropped
      let filterFailures ← filterFailures.uint32?
      some ⟨runs, sensorRuns, timeoutRuns, staleRuns, dropped, filterFailures⟩
    | _ => none

end SensorFusion
