/-
  SensorFusion.Check — the checks shared by the sanity gate and the home linearizer. A
  sample is well formed when its scalars are finite.
-/

import SensorFusion.Error
import SensorFusion.Sensor.Sample

namespace SensorFusion

def Vec3.isFinite (v : Vec3) : Bool := v.x.isFinite && v.y.isFinite && v.z.isFinite

namespace Check

def allFinite (xs : List Float) : Bool := xs.all Float.isFinite

def allFinite32 (xs : List Float32) : Bool := xs.all Float32.isFinite

def vector (v : Vec3) : Except SanityError Vec3 :=
  if v.isFinite then .ok v else .error .malformedValue

def scalar (x : Float32) : Except SanityError Float32 :=
  if x.isFinite then .ok x else .error .malformedValue

/-- The airspeed, if it is finite and the sensor connected, in this order. -/
def airspeed (a : Airspeed) : Except SanityError Float32 :=
  if ¬ a.calibrated.isFinite then .error .malformedValue
  else if ¬ a.connected then .error .sensorDisconnected
  else .ok a.calibrated

/-- Fails for a value below `min` or above `max`; a comparison with a bound that is no
    number fails nothing. -/
def range (value min max : Float) : Except SanityError Unit :=
  if value < min ∨ max < value then .error (.outOfRange value min max) else .ok ()

def nearZero (value epsilon : Float) : Bool := value.abs ≤ epsilon

theorem vector_cases (v : Vec3) : vector v = .ok v ∨ vector v = .error .malformedValue := by
  unfold vector
  split
  · exact Or.inl rfl
  · exact Or.inr rfl

theorem scalar_cases (x : Float32) : scalar x = .ok x ∨ scalar x = .error .malformedValue := by
  unfold scalar
  split
  · exact Or.inl rfl
  · exact Or.inr rfl

theorem airspeed_cases (a : Airspeed) :
    airspeed a = .ok a.calibrated ∨ airspeed a = .error .malformedValue ∨ airspeed a = .error .sensorDisconnected := by
  unfold airspeed
  split
  · exact Or.inr (Or.inl rfl)
  · split
    · exact Or.inr (Or.inr rfl)
    · exact Or.inl rfl

theorem range_cases (value min max : Float) :
    range value min max = .ok () ∨ range value min max = .error (.outOfRange value min max) := by
  unfold range
  split
  · exact Or.inr rfl
  · exact Or.inl rfl

end Check

end SensorFusion
