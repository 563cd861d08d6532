/-
  SensorFusion.Simulation.Unit — filter units that follow a script, to exercise chains
  and schedulers without real estimators.
-/

import SensorFusion.Chain.Unit

namespace SensorFusion.Simulation

inductive Assignment where
  | gyro (v : Vec3)
  | accel (v : Vec3)
  | mag (v : Vec3)
  | position (v : Vec3)
  | velocity (v : Vec3)
  | baro (x : Float32)
  | airspeed (x : Float32)
  | attitude (q : Quaternion)
  | updated (m : SensorMask)

def Assignment.apply (s : Snapshot) : Assignment → Snapshot
  | gyro v => { s with gyro := v }
  | accel v => { s with accel := v }
  | mag v => { s with mag := v }
  | position v => { s with position := v }
  | velocity v => { s with velocity := v }
  | baro x => { s with baro := x }
  | airspeed x => { s with airspeed := x }
  | attitude q => { s with attitude := q }
  | updated m => { s with updated := m }

inductive Action where
  | assign (a : Assignment)
  /-- The barometric altitude times `factor` plus `offset`, rounded twice. -/
  | affine (factor offset : Float32)
  /-- Take a bias off the angular rate. -/
  | bias (v : Vec3)
  | mark (m : SensorMask)
  | clear (m : SensorMask)
  /-- Fail unless every field of `m` is valid. -/
  | require (m : SensorMask)
  /-- Fail unless the unit was started. -/
  | needStart
  | fail (e : FilterError)
  /-- Fail in the updates with these numbers, counted from one. -/
  | failOn (updates : List Nat) (e : FilterError)
  /-- Samples arrive. -/
  | arrive (m : SensorMask)

structure ScriptedUnit where
  name : String
  /-- How starting fails. -/
  startFailure : Option FilterError
  /-- How often starting fails; always, if not given. -/
  startFailures : Option Nat
  /-- What each update does. -/
  script : List Action
  /-- Calls of `start` so far. -/
  starts : Nat
  /-- Calls of `update` so far. -/
  updates : Nat
  /-- Some start succeeded. -/
  ready : Bool

namespace ScriptedUnit

def new (name : String) (startFailure : Option FilterError) (startFailures : Option Nat)
    (script : List Action) : ScriptedUnit :=
  ⟨name, startFailure, startFailures, script, 0, 0, false⟩

def start (u : ScriptedUnit) : UnitStart ScriptedUnit :=
  let failure := u.startFailure.filter fun _ => u.startFailures.all (u.starts < ·)
  ⟨{ u with starts := u.starts + 1, ready := u.ready || failure.isNone }, failure⟩

structure Progress where
  snapshot : Snapshot
  arrivals : List SensorMask
  failure : Option FilterError

def act (update : Nat) (ready : Bool) : List Action → Snapshot → Progress
  | [], s => ⟨s, [], none⟩
  | a :: as, s =>
    match a with
    | .assign x => act update ready as (x.apply s)
    | .affine factor offset => act update ready as { s with baro := s.baro * factor + offset }
    | .bias v => act update ready as { s with gyro := s.gyro.sub v }
    | .mark m => act update ready as (s.markValid m)
    | .clear m => act update ready as (s.invalidate m)
    | .require m => if s.isValid m then act update ready as s else ⟨s, [], some .missingInput⟩
    | .needStart => if ready then act update ready as s else ⟨s, [], some .notInitialized⟩
    | .fail e => ⟨s, [], some e⟩
    | .failOn updates e => if updates.contains update then ⟨s, [], some e⟩ else act update ready as s
    | .arrive m =>
      let p := act update ready as s
      { p with arrivals := m :: p.arrivals }

def update (u : ScriptedUnit) (s : Snapshot) : UnitUpdate ScriptedUnit :=
  let p := act (u.updates + 1) u.ready u.script s
  ⟨{ u with updates := u.updates + 1 }, p.snapshot, p.arrivals, p.failure⟩

instance : FilterUnit ScriptedUnit := ⟨name, start, update⟩

end ScriptedUnit

end SensorFusion.Simulation
