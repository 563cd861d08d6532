/-
  SensorFusion.Gate — the sanity gate between the sensor bus and the filter chain.

  Every flagged class is read once, in class order. A sample that passes its check goes
  into the snapshot and its bit is set; any other is dropped with a reason. A rejection
  never ends a run.
-/

import SensorFusion.Environment
import SensorFusion.Home.Linearizer
import SensorFusion.Sensor.Snapshot

namespace SensorFusion

structure Rejection where
  sensor : SensorClass
  reason : SanityError

structure Screening where
  /-- Holds the accepted samples. -/
  snapshot : Snapshot
  /-- Classes that had an unread sample. -/
  consumed : SensorMask
  /-- Classes whose sample was dropped. -/
  rejected : SensorMask
  /-- Why each was dropped, in class order. -/
  rejections : List Rejection

namespace Screening

def accepted (s : Screening) : SensorMask := s.snapshot.updated

def empty (consumed : SensorMask) : Screening := ⟨.empty, consumed, .empty, []⟩

def accept (s : Screening) (c : SensorClass) (v : c.Field) : Screening :=
  { s with snapshot := (s.snapshot.setField c v).markValid c.bit }

/-- Drop a sample of class `c`. There is room for as many rejections as there are classes;
    beyond that the reason is lost. -/
def reject (s : Screening) (c : SensorClass) (reason : SanityError) : Screening :=
  { s with
    rejected := s.rejected.union c.bit
    rejections := if s.rejections.length < sensorClassCount then s.rejections ++ [⟨c, reason⟩] else s.rejections }

end Screening

structure SanityGate where
  /-- Fixes this close to zero on both axes are placeholders (degrees). -/
  nullFixTolerance : Float

namespace SanityGate

def default : SanityGate := ⟨Geodesy.nullFixTolerance⟩

/-- A gate with another tolerance; its sign does not matter. -/
def withTolerance (degrees : Float) : SanityGate := ⟨degrees.abs⟩

/-- Whether a fix is the placeholder of a receiver that has not acquired yet. -/
def isNullFix (g : SanityGate) (fix : Fix) : Bool :=
  Check.nearZero fix.latitude g.nullFixTolerance && Check.nearZero fix.longitude g.nullFixTolerance

/-- The offset of a fix from home: the fix must be finite, home known, the fix no
    placeholder and within limits, and the offset finite, in this order. -/
def checkPosition (g : SanityGate) (home : HomeLinearizer) (fix : Fix) : Except SanityError Vec3 :=
  if ¬ (Check.allFinite [fix.latitude, fix.longitude]
      ∧ Check.allFinite32 [fix.altitude, fix.geoidSeparation]) then .error .malformedValue
  else if ¬ home.isConfigured then .error .homeNotConfigured
  else if g.isNullFix fix then .error .nullFix
  else do
    Geodesy.checkCoordinate fix.latitude fix.longitude
    let ned ← home.convert fix
    Check.vector ned

def judge (g : SanityGate) (home : HomeLinearizer) : (c : SensorClass) → c.Sample → Except SanityError c.Field
  | .gyro, v => Check.vector v
  | .accel, v => Check.vector v
  | .mag, v => Check.vector v
  | .position, fix => g.checkPosition home fix
  | .velocity, v => Check.vector v
  | .baro, x => Check.scalar x
  | .airspeed, a => Check.airspeed a

def screenOne (g : SanityGate) (home : HomeLinearizer) (s : Screening) (x : Sampled) : Screening :=
  match g.judge home x.sensor x.sample with
  | .ok v => s.accept x.sensor v
  | .error reason => s.reject x.sensor reason

def screen (g : SanityGate) (home : HomeLinearizer) (consumed : SensorMask) (xs : List Sampled) : Screening :=
  xs.foldl (g.screenOne home) (.empty consumed)

structure Outcome (ε : Type) where
  screening : Screening
  /-- Arrivals while the sensors were read, in order. -/
  arrivals : List SensorMask
  after : ε

def apply {ε : Type} [Environment ε] (g : SanityGate) (home : HomeLinearizer) (flagged : SensorMask) (e : ε) :
    Outcome ε :=
  let consumed := flagged.inter .sensors
  let sweep := Sweep.read consumed.classes e
  ⟨g.screen home consumed sweep.samples, sweep.arrivals, sweep.after⟩

end SanityGate

end SensorFusion
