/-
  SensorFusion.Sensor.Sample — what each sensor delivers, and what a snapshot keeps
  of it.
-/

import SensorFusion.Sensor.Class

namespace SensorFusion

structure Vec3 where
  x : Float32
  y : Float32
  z : Float32

structure Quaternion where
  w : Float32
  x : Float32
  y : Float32
  z : Float32

namespace Vec3

def zero : Vec3 := ⟨0, 0, 0⟩

def sub (v w : Vec3) : Vec3 := ⟨v.x - w.x, v.y - w.y, v.z - w.z⟩

def toList (v : Vec3) : List Float32 := [v.x, v.y, v.z]

end Vec3

namespace Quaternion

def zero : Quaternion := ⟨0, 0, 0, 0⟩

def toList (q : Quaternion) : List Float32 := [q.w, q.x, q.y, q.z]

end Quaternion

structure Airspeed where
  /-- Calibrated airspeed (m/s). -/
  calibrated : Float32
  /-- The sensor reports itself connected. -/
  connected : Bool

structure Fix where
  /-- Latitude (degrees). -/
  latitude : Float
  /-- Longitude (degrees). -/
  longitude : Float
  /-- Altitude above mean sea level (m). -/
  altitude : Float32
  /-- Height of the geoid above the ellipsoid (m). -/
  geoidSeparation : Float32

namespace SensorClass

def Sample : SensorClass → Type
  | gyro => Vec3
  | accel => Vec3
  | mag => Vec3
  | position => Fix
  | velocity => Vec3
  | baro => Float32
  | airspeed => Airspeed

def Field : SensorClass → Type
  | gyro => Vec3
  | accel => Vec3
  | mag => Vec3
  | position => Vec3
  | velocity => Vec3
  | baro => Float32
  | airspeed => Float32

end SensorClass

structure Sampled where
  sensor : SensorClass
  sample : sensor.Sample

end SensorFusion
