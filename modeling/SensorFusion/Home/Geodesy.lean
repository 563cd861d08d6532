/-
  SensorFusion.Home.Geodesy — constants of the Earth model and of coordinates, and
  angles in degrees.
-/

import SensorFusion.Check
import SensorFusion.Decimal.Binary

namespace SensorFusion.Geodesy

/-- Equatorial radius of the Earth (m). -/
def equatorialRadius : Float := 6378137.0

/-- Altitude grows upward, the down axis downward. -/
def downScale : Float := -1.0

def latitudeLimit : Float := 90.0

def longitudeLimit : Float := 180.0

/-- Fixes this close to zero on both axes are taken for a receiver's placeholder
    (degrees). -/
def nullFixTolerance : Float := 1.0e-7

def radians (degrees : Float) : Float := degrees * 0.017453292519943295

open Decimal in
/-- The angle less the nearest number of full turns, exactly; halfway between two, the
    even number of turns is taken off. The result lies in [-180, 180] and a zero keeps
    the sign of the angle. -/
def wrapDegrees (degrees : Float) : Float :=
  match Unpacked.ofFloat degrees with
  | .nan => degrees
  | .infinite _ => 0.0 / 0.0
  | .finite negative significand exponent =>
    let angle := significand * Nat.pow 2 exponent.toNat
    let turn := 360 * Nat.pow 2 (-exponent).toNat
    let rest := angle % turn
    let beyond := 2 * rest > turn ∨ (2 * rest = turn ∧ angle / turn % 2 = 1)
    let size := Float.ofNat (if beyond then turn - rest else rest) * twoPow (min exponent 0)
    if negative = decide beyond then size else -size

/-- Latitude and longitude within their limits, latitude first. -/
def checkCoordinate (latitude longitude : Float) : Except SanityError Unit := do
  Check.range latitude (-latitudeLimit) latitudeLimit
  Check.range longitude (-longitudeLimit) longitudeLimit

theorem checkCoordinate_cases (latitude longitude : Float) :
    checkCoordinate latitude longitude = .ok () ∨
      ∃ value min max, checkCoordinate latitude longitude = .error (.outOfRange value min max) := by
  unfold checkCoordinate
  rcases Check.range_cases latitude (-latitudeLimit) latitudeLimit with h | h <;> rw [h]
  · rcases Check.range_cases longitude (-longitudeLimit) longitudeLimit with h | h
    · exact Or.inl h
    · exact Or.inr ⟨_, _, _, h⟩
  · exact Or.inr ⟨_, _, _, rfl⟩

end SensorFusion.Geodesy
