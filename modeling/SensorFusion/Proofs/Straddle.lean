/-
  SensorFusion.Proofs.Straddle — runs during which the armed deadline passes.

  A run that starts at its deadline or after it spends the deadline. Whether the deadline
  has passed is looked at when the run starts, though, and the next deadline is armed when
  it ends: a deadline that passes in between (`Straddles`) is kept, already over.

  Proved (`deadline_ahead_unless_straddled`): just such runs leave a deadline that is not
  ahead. If nothing arrived meanwhile, the poll after any other run waits, and the poll
  after such a run warns, right after a run that may have had samples.
-/

import SensorFusion.Proofs.Stall

namespace SensorFusion.Estimator

variable {ε υ : Type} [Environment ε]

/-- The deadline lies ahead when a run starts now, and has passed when it ends. -/
def Straddles (x : Estimator ε υ) : Prop :=
  ∃ d, x.scheduler.deadline = some d ∧ Environment.clock x.env < d ∧ d ≤ x.runEnd

variable [FilterUnit υ]

theorem ran_nextDeadline_ahead_iff {x : Estimator ε υ} {d : Timestamp} (hd : x.scheduler.deadline = some d)
    (hT : TimeoutInRange x) (hroom : x.runEnd.toNat + maxTimeout.toNat ≤ Timestamp.limit) (t : Trigger) :
    x.runEnd < (x.ran t).1.nextDeadline ↔ ¬ Straddles x := by
  obtain ⟨hmin, hmax⟩ := EstimationSettings.timeoutInRange_iff.mp hT
  have hlater : x.runEnd < x.runEnd.later x.scheduler.timeout.toUInt64 := by
    have hpos : 0 < minTimeout.toNat := by decide
    apply Timestamp.lt_later <;> rw [UInt32.toNat_toUInt64] <;> omega
  have hstr : Straddles x ↔ Environment.clock x.env < d ∧ d ≤ x.runEnd := by simp [Straddles, hd]
  rw [hstr]
  by_cases hnow : Environment.clock x.env < d
  · by_cases hle : d ≤ x.runEnd.later x.scheduler.timeout.toUInt64
    · rw [ran_nextDeadline_of_ahead t hd hnow hle]
      simp [hnow]
    · -- a shorter timeout brings the deadline forward
      have hlt := UInt64.not_le.mp hle
      rw [ran_nextDeadline, Scheduler.nextDeadline_of_lt_armed (Scheduler.enter_deadline_of_ahead hd hnow) hlt]
      have hend : ¬ d ≤ x.runEnd := UInt64.not_le.mpr (UInt64.lt_trans hlater hlt)
      exact ⟨fun _ h => hend h.2, fun _ => hlater⟩
  · rw [ran_nextDeadline_of_due t hd (UInt64.not_lt.mp hnow)]
    exact ⟨fun _ h => hnow h.1, fun _ => hlater⟩

/-- Every run leaves a deadline ahead, unless the armed deadline passes during the run. Let
    a poll make a run in a reachable state `y`, with the longest timeout still to go on the
    clock at its end. The deadline that it arms is later than that clock exactly when it
    does not straddle the deadline. With no sample arrived since its take, the next poll at
    that clock then waits; after a run that straddles it warns. -/
theorem deadline_ahead_unless_straddled (env : ε) (chain : FilterChain υ) (gate : SanityGate)
    (settings : EstimationSettings) (ops : List (Op ε)) (r : RunReport) :
    let y := ((setUp env chain gate settings).exec ops).2
    y.poll.1 = some r → y.runEnd.toNat + maxTimeout.toNat ≤ Timestamp.limit →
      (y.runEnd < r.nextDeadline ↔ ¬ Straddles y) ∧
      ∀ e, Environment.clock e = y.runEnd → (∀ m ∈ y.midRun, m.inter .sensors = .empty) →
        let next := ({ y.poll.2 with env := e } : Estimator ε υ).poll.1
        (¬ Straddles y → next = none) ∧ (Straddles y → ∃ w, next = some w ∧ w.alarm = .warning) := by
  intro y hr hroom
  obtain ⟨t, harm, _, rfl, hp⟩ := poll_eq_some hr
  obtain ⟨d, hd⟩ := (exec_settled (setUp_settled ..) ops : Settled y).deadline_of_armed harm
  have hT : TimeoutInRange y := exec_timeoutInRange (setUp_timeoutInRange ..) ops
  have hiff := ran_nextDeadline_ahead_iff hd hT hroom t
  refine ⟨hiff, fun e he hm => ?_⟩
  have hs : Stalled ({ (y.ran t).2 with env := e } : Estimator ε υ) := ⟨rfl, (ran_stalled hm t).unread, (ran_stalled hm t).unasked⟩
  rw [hp]
  refine ⟨fun hn => ?_, fun hy => ?_⟩
  · refine hs.poll_of_ahead rfl ?_
    show Environment.clock e < (y.ran t).1.nextDeadline
    rw [he]
    exact hiff.mpr hn
  · have hdue : (y.ran t).1.nextDeadline ≤ Environment.clock e := by
      rw [he]
      exact UInt64.not_lt.mp fun hlt => hiff.mp hlt hy
    obtain ⟨t', hw⟩ := poll_of_due hs.armed rfl hdue
    obtain ⟨_, _, ha⟩ := hs.poll_eq_some (congrArg Prod.fst hw)
    exact ⟨_, congrArg Prod.fst hw, ha⟩

/-! ## Runs in a simulated world -/

open Simulation

/-- A read of 5 ms from 1050 on leaves the deadline at 1100, and the poll at 1055 waits. -/
theorem deadline_ahead_after_short_read :
    let world : World := ⟨{ Bus.silent with readTime := 5 }, .manual 1000, #[]⟩
    let start := setUp world (.ofUnits ([] : List ScriptedUnit) (by decide)) .default .default
    let ops := [.start none, .environment fun w => { w with clock := w.clock.advance 50 }, .mark .gyro]
    let y := (start.exec ops).2
    ∃ r, y.poll.1 = some r ∧ y.runEnd.toNat + maxTimeout.toNat ≤ Timestamp.limit ∧ ¬ Straddles y ∧
      (∀ m ∈ y.midRun, m.inter .sensors = .empty) ∧ y.runEnd < r.nextDeadline ∧ y.poll.2.poll.1 = none := by
  intro world start ops y
  have hr : y.poll.1 = some (y.ran .sensorUpdate).1 := rfl
  have hroom : y.runEnd.toNat + maxTimeout.toNat ≤ Timestamp.limit := by decide
  have hn : ¬ Straddles y := by
    rintro ⟨d, hd, _, hle⟩
    cases hd
    revert hle
    decide
  have hm : ∀ m ∈ y.midRun, m.inter .sensors = .empty := by decide
  obtain ⟨hiff, hnext⟩ := deadline_ahead_unless_straddled world _ _ _ ops _ hr hroom
  exact ⟨_, hr, hroom, hn, hm, hiff.mpr hn, (hnext y.poll.2.env rfl hm).1 hn⟩

/-- A read of 20 ms from 1090 on keeps the deadline of 1100, which has passed at its end:
    the poll at 1110 makes a run at once, and it warns. -/
theorem deadline_left_behind_by_long_read :
    let world : World := ⟨{ Bus.silent with readTime := 20 }, .manual 1000, #[]⟩
    let start := setUp world (.ofUnits ([] : List ScriptedUnit) (by decide)) .default .default
    let ops := [.start none, .environment fun w => { w with clock := w.clock.advance 90 }, .mark .gyro]
    let y := (start.exec ops).2
    ∃ r w, y.poll.1 = some r ∧ y.runEnd.toNat + maxTimeout.toNat ≤ Timestamp.limit ∧
      (∀ m ∈ y.midRun, m.inter .sensors = .empty) ∧ ¬ y.runEnd < r.nextDeadline ∧
      Environment.clock y.poll.2.env = y.runEnd ∧ y.poll.2.poll.1 = some w ∧ w.trigger = .timeout ∧
      w.alarm = .warning := by
  intro world start ops y
  have hr : y.poll.1 = some (y.ran .sensorUpdate).1 := rfl
  have hw : y.poll.2.poll.1 = some (y.poll.2.ran .timeout).1 := congrArg Prod.fst (poll_of_trigger rfl (by decide))
  exact ⟨_, _, hr, by decide, by decide, by decide, rfl, hw, rfl, by decide⟩

end SensorFusion.Estimator
