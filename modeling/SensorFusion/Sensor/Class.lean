/-
  SensorFusion.Sensor.Class — the seven kinds of sensor that feed the estimator, in
  the order used everywhere: masks, per-class counters and rejections.
-/

namespace SensorFusion

inductive SensorClass where
  /-- Rate gyroscope. -/
  | gyro
  /-- Accelerometer. -/
  | accel
  /-- Magnetometer. -/
  | mag
  /-- Position fix, converted to metres from home. -/
  | position
  /-- Velocity, north, east and down. -/
  | velocity
  /-- Barometric altitude. -/
  | baro
  /-- Calibrated airspeed. -/
  | airspeed
  deriving DecidableEq

abbrev sensorClassCount : Nat := 7

namespace SensorClass

def all : List SensorClass := [.gyro, .accel, .mag, .position, .velocity, .baro, .airspeed]

/-- A class's place in the order; also its bit in a mask. -/
def index : SensorClass → Fin sensorClassCount
  | gyro => 0
  | accel => 1
  | mag => 2
  | position => 3
  | velocity => 4
  | baro => 5
  | airspeed => 6

def name : SensorClass → String
  | gyro => "gyro"
  | accel => "accel"
  | mag => "mag"
  | position => "position"
  | velocity => "velocity"
  | baro => "baro"
  | airspeed => "airspeed"

@[simp] theorem mem_all (c : SensorClass) : c ∈ all := by cases c <;> decide

theorem index_injective (c d : SensorClass) : c.index = d.index → c = d := by
  cases c <;> cases d <;> decide

theorem length_le_of_nodup {cs : List SensorClass} (h : cs.Nodup) : cs.length ≤ sensorClassCount :=
  h.length_le_of_subset fun c _ => mem_all c

end SensorClass

end SensorFusion
