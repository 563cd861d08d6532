/-
  SensorFusion.Alarm — the liveness level published after every run, and the number
  of times it rose.
-/

import SensorFusion.Counter

namespace SensorFusion

inductive AlarmLevel where
  /-- Fresh sensor input within the expected cadence. -/
  | clear
  /-- The timeout elapsed without any new sensor input. -/
  | warning
  deriving DecidableEq

structure LivenessAlarm where
  level : AlarmLevel
  /-- Changes from clear to warning. -/
  timesRaised : UInt32

namespace LivenessAlarm

def initial : LivenessAlarm := ⟨.clear, 0⟩

def changesTo (a : LivenessAlarm) (level : AlarmLevel) : Bool := a.level ≠ level

/-- Move to `level`; only a change to warning counts as a rise. -/
def update (a : LivenessAlarm) (level : AlarmLevel) : LivenessAlarm :=
  if a.changesTo level ∧ level = .warning then ⟨level, Counter.next a.timesRaised⟩
  else { a with level }

@[simp] theorem update_level (a : LivenessAlarm) (level : AlarmLevel) : (a.update level).level = level := by
  unfold update; split <;> rfl

@[simp] theorem update_self (a : LivenessAlarm) : a.update a.level = a := by
  simp [update, changesTo]

@[simp] theorem update_update (a : LivenessAlarm) (level : AlarmLevel) : (a.update level).update level = a.update level := by
  have h := update_self (a.update level)
  rwa [update_level] at h

/-- Only a change from clear to warning is a rise. -/
theorem timesRaised_update_eq (a : LivenessAlarm) (level : AlarmLevel) :
    (a.update level).timesRaised =
      if (a.level, level) = (.clear, .warning) then Counter.next a.timesRaised else a.timesRaised := by
  unfold update changesTo
  cases a.level <;> cases level <;> rfl

theorem timesRaised_update (a : LivenessAlarm) (level : AlarmLevel) :
    (a.update level).timesRaised.toNat ≤ a.timesRaised.toNat + 1 := by
  rw [timesRaised_update_eq]
  split
  · rw [Counter.toNat_next]
    omega
  · exact Nat.le_succ _

end LivenessAlarm

end SensorFusion
