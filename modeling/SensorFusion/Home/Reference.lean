/-
  SensorFusion.Home.Reference — a home location and the local frame derived from it.

  Over the tens of kilometres of a flight a first-order expansion around home is
  enough: the offset of a fix is its difference from home in latitude, longitude and
  altitude, each times a scale factor that home fixes once.
-/

import SensorFusion.Home.Geodesy

namespace SensorFusion

/-- A home location as announced; it may be unusable. -/
structure HomeLocation where
  /-- Latitude (degrees). -/
  latitude : Float
  /-- Longitude (degrees). -/
  longitude : Float
  /-- Altitude above the ellipsoid (m). -/
  altitude : Float32
  /-- Local magnetic field, north, east and down. -/
  magneticField : Vec3
  /-- Somebody has set this location. -/
  set : Bool

structure HomeReference where
  home : HomeLocation
  /-- Metres per radian of latitude. -/
  northScale : Float
  /-- Metres per radian of longitude. -/
  eastScale : Float
  downScale : Float

namespace HomeReference

/-- Accept a location that is set, finite and within limits, checked in this order. -/
def ofHome (home : HomeLocation) : Except SanityError HomeReference :=
  if ¬ home.set then .error .homeNotConfigured
  else if ¬ (Check.allFinite [home.latitude, home.longitude] ∧ home.altitude.isFinite
      ∧ home.magneticField.isFinite) then .error .malformedValue
  else do
    Geodesy.checkCoordinate home.latitude home.longitude
    let radius := home.altitude.toFloat + Geodesy.equatorialRadius
    pure ⟨home, radius, (Geodesy.radians home.latitude).cos * radius, Geodesy.downScale⟩

/-- The offset of a fix from home (m), the shorter way round. The fix is not checked. -/
def nedOffset (r : HomeReference) (fix : Fix) : Vec3 :=
  let north := Geodesy.radians (fix.latitude - r.home.latitude)
  let east := Geodesy.radians (Geodesy.wrapDegrees (fix.longitude - r.home.longitude))
  let up := fix.altitude.toFloat + fix.geoidSeparation.toFloat - r.home.altitude.toFloat
  ⟨(r.northScale * north).toFloat32, (r.eastScale * east).toFloat32, (r.downScale * up).toFloat32⟩

end HomeReference

end SensorFusion
