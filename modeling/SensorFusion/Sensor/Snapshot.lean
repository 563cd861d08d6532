/-
  SensorFusion.Sensor.Snapshot — the state that filter units share during one run.
  Only fields whose bit is in `updated` hold data of this run; the others are zero
  until a unit writes them.
-/

import SensorFusion.Sensor.Mask
import SensorFusion.Sensor.Sample

namespace SensorFusion

structure Snapshot where
  /-- Angular rate (deg/s), body frame. -/
  gyro : Vec3
  /-- Specific force (m/s²), body frame. -/
  accel : Vec3
  /-- Magnetic field, body frame. -/
  mag : Vec3
  /-- Offset from home (m), north, east and down. -/
  position : Vec3
  /-- Velocity (m/s), north, east and down. -/
  velocity : Vec3
  /-- Barometric altitude (m). -/
  baro : Float32
  /-- Calibrated airspeed (m/s). -/
  airspeed : Float32
  /-- Attitude, written by filter units. -/
  attitude : Quaternion
  /-- The fields valid in this run. -/
  updated : SensorMask

namespace Snapshot

def empty : Snapshot :=
  ⟨.zero, .zero, .zero, .zero, .zero, 0, 0, .zero, .empty⟩

def isValid (s : Snapshot) (m : SensorMask) : Bool := s.updated.contains m

def markValid (s : Snapshot) (m : SensorMask) : Snapshot := { s with updated := s.updated.union m }

def invalidate (s : Snapshot) (m : SensorMask) : Snapshot := { s with updated := s.updated.diff m }

def field (s : Snapshot) : (c : SensorClass) → c.Field
  | .gyro => s.gyro
  | .accel => s.accel
  | .mag => s.mag
  | .position => s.position
  | .velocity => s.velocity
  | .baro => s.baro
  | .airspeed => s.airspeed

def setField (s : Snapshot) : (c : SensorClass) → c.Field → Snapshot
  | .gyro, v => { s with gyro := v }
  | .accel, v => { s with accel := v }
  | .mag, v => { s with mag := v }
  | .position, v => { s with position := v }
  | .velocity, v => { s with velocity := v }
  | .baro, v => { s with baro := v }
  | .airspeed, v => { s with airspeed := v }

def vector (s : Snapshot) : SensorClass → Option Vec3
  | .gyro => some s.gyro
  | .accel => some s.accel
  | .mag => some s.mag
  | .position => some s.position
  | .velocity => some s.velocity
  | .baro => none
  | .airspeed => none

@[simp] theorem field_setField (s : Snapshot) (c : SensorClass) (v : c.Field) :
    (s.setField c v).field c = v := by cases c <;> rfl

theorem field_setField_of_ne (s : Snapshot) {c d : SensorClass} (v : c.Field) (h : d ≠ c) :
    (s.setField c v).field d = s.field d := by
  cases c <;> cases d <;> simp at h <;> rfl

@[simp] theorem updated_setField (s : Snapshot) (c : SensorClass) (v : c.Field) :
    (s.setField c v).updated = s.updated := by cases c <;> rfl

@[simp] theorem attitude_setField (s : Snapshot) (c : SensorClass) (v : c.Field) :
    (s.setField c v).attitude = s.attitude := by cases c <;> rfl

end Snapshot

end SensorFusion
