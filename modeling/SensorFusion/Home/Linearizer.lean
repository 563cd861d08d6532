/-
  SensorFusion.Home.Linearizer — the owner of the home reference. A sane location
  replaces the reference as a whole; any other leaves it in place, since a reference
  that is stale but valid beats none.
-/

import SensorFusion.Counter
import SensorFusion.Home.Reference

namespace SensorFusion

structure HomeLinearizer where
  reference : Option HomeReference
  /-- Locations accepted so far. -/
  accepted : UInt32
  /-- Locations rejected so far. -/
  rejected : UInt32

namespace HomeLinearizer

def empty : HomeLinearizer := ⟨none, 0, 0⟩

def isConfigured (l : HomeLinearizer) : Bool := l.reference.isSome

def changeHome (l : HomeLinearizer) (home : HomeLocation) : Except SanityError HomeReference × HomeLinearizer :=
  match HomeReference.ofHome home with
  | .ok r => (.ok r, { l with reference := some r, accepted := Counter.next l.accepted })
  | .error e => (.error e, { l with rejected := Counter.next l.rejected })

@[simp] theorem changeHome_result (l : HomeLinearizer) (home : HomeLocation) :
    (l.changeHome home).1 = HomeReference.ofHome home := by
  unfold changeHome; split <;> simp_all

theorem changeHome_of_error {home : HomeLocation} {e : SanityError} (h : HomeReference.ofHome home = .error e)
    (l : HomeLinearizer) : (l.changeHome home).2 = { l with rejected := Counter.next l.rejected } := by
  simp only [changeHome, h]

/-- An acceptable location replaces the reference, any other leaves it. -/
theorem changeHome_reference (l : HomeLinearizer) (home : HomeLocation) :
    (l.changeHome home).2.reference = (HomeReference.ofHome home).toOption.or l.reference := by
  unfold changeHome
  cases HomeReference.ofHome home <;> rfl

def convert (l : HomeLinearizer) (fix : Fix) : Except SanityError Vec3 :=
  match l.reference with
  | some r => .ok (r.nedOffset fix)
  | none => .error .homeNotConfigured

end HomeLinearizer

end SensorFusion
