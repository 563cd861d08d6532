/-
  SensorFusion.Proofs.Deadline — the soonest deadline wins.

  The clock is looked at twice in a run: to see whether the deadline has passed, and to
  arm the next one. A run that starts before the deadline keeps it unless the timeout from
  the end of the run is sooner; a run that starts at the deadline or after it arms the
  timeout from its end. Runs before the deadline therefore never put it off, and with one
  timeout and a clock that never goes back they do not move it at all: it was armed by an
  earlier look at the clock (`Within`).
-/

import SensorFusion.Proofs.Forward
import SensorFusion.Proofs.Lifecycle
import SensorFusion.Simulation.Unit

namespace SensorFusion.Estimator

variable {ε υ : Type} [Environment ε]

def Within (T : UInt32) (x : Estimator ε υ) : Prop :=
  ∀ d, x.scheduler.deadline = some d → d ≤ (Environment.clock x.env).later T.toUInt64

structure Paced (T : UInt32) (x : Estimator ε υ) : Prop where
  timeout : x.scheduler.timeout = T
  within : Within T x

/-- Armed with the deadline `d` or a sooner one. -/
def ArmedBy (d : Timestamp) (x : Estimator ε υ) : Prop :=
  x.scheduler.state = .armed ∧ ∃ d', x.scheduler.deadline = some d' ∧ d' ≤ d

structure Held (T : UInt32) (d : Timestamp) (x : Estimator ε υ) : Prop where
  paced : Paced T x
  armed : x.scheduler.state = .armed
  deadline : x.scheduler.deadline = some d

def BeforeDeadline (x : Estimator ε υ) : Op ε → Prop
  | .poll => ∀ d, x.scheduler.deadline = some d → Environment.clock x.env < d
  | _ => True

theorem setUp_paced (env : ε) (chain : FilterChain υ) (gate : SanityGate) (settings : EstimationSettings) :
    Paced (setUp env chain gate settings).scheduler.timeout (setUp env chain gate settings) := by
  refine ⟨rfl, fun d hd => ?_⟩
  cases hd

variable [FilterUnit υ]

def KeepsTimeout (x : Estimator ε υ) (op : Op ε) : Prop :=
  (x.step op).2.scheduler.timeout = x.scheduler.timeout

/-! ## The deadline that a run arms -/

section Ran

variable {x : Estimator ε υ} {d : Timestamp} (t : Trigger)

theorem ran_nextDeadline_le (x : Estimator ε υ) :
    (x.ran t).1.nextDeadline ≤ x.runEnd.later x.scheduler.timeout.toUInt64 :=
  Scheduler.nextDeadline_le _ _

/-- A deadline that has passed is spent, whatever started the run. -/
theorem ran_nextDeadline_of_due (hd : x.scheduler.deadline = some d) (hdue : d ≤ Environment.clock x.env) :
    (x.ran t).1.nextDeadline = x.runEnd.later x.scheduler.timeout.toUInt64 :=
  Scheduler.nextDeadline_of_none (Scheduler.enter_deadline_of_due hd hdue) _

theorem ran_nextDeadline_le_armed (hd : x.scheduler.deadline = some d) (hnow : Environment.clock x.env < d) :
    (x.ran t).1.nextDeadline ≤ d :=
  Scheduler.nextDeadline_le_armed (Scheduler.enter_deadline_of_ahead hd hnow) _

theorem ran_nextDeadline_of_ahead (hd : x.scheduler.deadline = some d) (hnow : Environment.clock x.env < d)
    (hle : d ≤ x.runEnd.later x.scheduler.timeout.toUInt64) : (x.ran t).1.nextDeadline = d :=
  Scheduler.nextDeadline_of_armed_le (Scheduler.enter_deadline_of_ahead hd hnow) hle

end Ran

/-- An armed estimator whose deadline has passed runs, whatever is unread. -/
theorem poll_of_due {x : Estimator ε υ} {d : Timestamp} (ha : x.scheduler.state = .armed)
    (hd : x.scheduler.deadline = some d) (hdue : d ≤ Environment.clock x.env) :
    ∃ t, x.poll = (some (x.ran t).1, (x.ran t).2) := by
  cases ht : x.trigger? with
  | some t => exact ⟨t, poll_of_trigger ha ht⟩
  | none =>
    have hn := (Scheduler.trigger?_eq_none_iff.mp ht).2
    rw [Scheduler.isDue_iff.mpr ⟨d, hd, hdue⟩] at hn
    cases hn

/-! ## The deadline along an execution -/

/-- Before the deadline nothing puts it off. -/
theorem step_armedBy {d : Timestamp} (x : Estimator ε υ) (op : Op ε) (h : ArmedBy d x) (hb : BeforeDeadline x op) :
    ArmedBy d (x.step op).2 := by
  obtain ⟨ha, d', hd, hle⟩ := h
  rcases x.step_cases op with ⟨hs, hd'⟩ | ⟨hi, _⟩ | ⟨t, rfl, _, _, hp⟩
  · exact ⟨hs.trans ha, d', hd'.trans hd, hle⟩
  · rw [ha] at hi
    cases hi
  · rw [hp]
    exact ⟨rfl, _, rfl, UInt64.le_trans (ran_nextDeadline_le_armed t hd (hb d' hd)) hle⟩

/-- With timeouts up to `T` and a clock that never goes back the deadline stays within
    `T`. -/
theorem step_within {T : UInt32} (x : Estimator ε υ) (op : Op ε) (h : Within T x) (hT : x.scheduler.timeout ≤ T)
    (hf : Forward x op) : Within T (x.step op).2 := by
  have hT' : x.scheduler.timeout.toUInt64 ≤ T.toUInt64 := by
    rw [UInt64.le_iff_toNat_le, UInt32.toNat_toUInt64, UInt32.toNat_toUInt64]
    exact UInt32.le_iff_toNat_le.mp hT
  intro d hd
  rcases x.step_cases op with ⟨_, hk⟩ | ⟨_, _, hk⟩ | ⟨t, _, _, _, hp⟩
  · -- the deadline is as it was, and the clock has only come closer
    exact UInt64.le_trans (h d (hk ▸ hd)) (Timestamp.later_mono hf.1 (UInt64.le_refl _))
  · rw [hk] at hd
    cases hd
    exact Timestamp.later_mono hf.1 hT'
  · have hend := (hf.2 (x.ran t).1 (by rw [hp]; rfl)).2
    rw [hp] at hd hend ⊢
    cases hd
    exact UInt64.le_trans (ran_nextDeadline_le t x) (Timestamp.later_mono hend hT')

theorem step_paced {T : UInt32} (x : Estimator ε υ) (op : Op ε) (h : Paced T x)
    (hq : Forward x op ∧ KeepsTimeout x op) : Paced T (x.step op).2 :=
  ⟨hq.2.trans h.timeout, step_within x op h.within (by rw [h.timeout]; exact UInt32.le_refl _) hq.1⟩

/-- A burst of runs before the deadline leaves it where it is, as long as the timeout
    stays the same. -/
theorem step_held {T : UInt32} {d : Timestamp} (x : Estimator ε υ) (op : Op ε) (h : Held T d x)
    (hq : (Forward x op ∧ KeepsTimeout x op) ∧ BeforeDeadline x op) : Held T d (x.step op).2 := by
  have hpaced := step_paced x op h.paced hq.1
  rcases x.step_cases op with ⟨hs, hd⟩ | ⟨hi, _⟩ | ⟨t, rfl, _, _, hp⟩
  · exact ⟨hpaced, hs.trans h.armed, hd.trans h.deadline⟩
  · rw [h.armed] at hi
    cases hi
  · have hend := (hq.1.1.2 (x.ran t).1 (by rw [hp]; rfl)).1
    have hle : d ≤ x.runEnd.later x.scheduler.timeout.toUInt64 := by
      rw [h.paced.timeout]
      exact UInt64.le_trans (h.paced.within d h.deadline) (Timestamp.later_mono hend (UInt64.le_refl _))
    rw [hp] at hpaced ⊢
    exact ⟨hpaced, rfl, congrArg some (ran_nextDeadline_of_ahead t h.deadline (hq.2 d h.deadline) hle)⟩

/-- The soonest deadline wins, over whole executions of an estimator that is set up.
    (1) From a state `x` armed with the deadline `d`, as long as every poll comes before
        the deadline armed then, that deadline is never later than `d`; with a clock that
        never goes back and one timeout all along, it stays `d`.
    (2) A poll at the deadline or after it runs, whatever is unread, and arms the timeout
        from the end of the run.
    (3) Every run reports the deadline that it arms, at most the timeout from its end. -/
theorem soonest_wins (env : ε) (chain : FilterChain υ) (gate : SanityGate) (settings : EstimationSettings) :
    let start := setUp env chain gate settings
    (∀ ops ops' d,
      let x := (start.exec ops).2
      let y := (x.exec ops').2
      x.scheduler.state = .armed → x.scheduler.deadline = some d → Along BeforeDeadline x ops' →
        y.scheduler.state = .armed ∧ (∃ d', y.scheduler.deadline = some d' ∧ d' ≤ d) ∧
          (Along Forward start (ops ++ ops') → Along KeepsTimeout start (ops ++ ops') →
            y.scheduler.deadline = some d)) ∧
      (∀ ops tracker d,
        let y := { (start.exec ops).2 with tracker }
        y.scheduler.state = .armed → y.scheduler.deadline = some d → d ≤ Environment.clock y.env →
          ∃ r, y.poll.1 = some r ∧
            y.poll.2.scheduler.deadline = some (y.runEnd.later y.scheduler.timeout.toUInt64)) ∧
      ∀ ops r,
        let y := (start.exec ops).2
        y.poll.1 = some r →
          y.poll.2.scheduler.deadline = some r.nextDeadline ∧
            r.nextDeadline ≤ y.runEnd.later y.scheduler.timeout.toUInt64 := by
  intro start
  refine ⟨?_, ?_, ?_⟩
  · intro ops ops' d x y ha hd hb
    obtain ⟨hy, hle⟩ : ArmedBy d y := exec_along step_armedBy ⟨ha, d, hd, UInt64.le_refl d⟩ hb
    refine ⟨hy, hle, fun hf hk => ?_⟩
    -- up to `x` the deadline was armed with the one timeout; from there on it is held
    obtain ⟨hs, hs'⟩ := along_append.mp (along_and hf hk)
    have hx : Paced start.scheduler.timeout x := exec_along step_paced (setUp_paced ..) hs
    exact (exec_along step_held ⟨hx, ha, hd⟩ (along_and hs' hb)).deadline
  · intro ops tracker d y ha hd hdue
    obtain ⟨t, hp⟩ := poll_of_due ha hd hdue
    rw [hp]
    exact ⟨_, rfl, congrArg some (ran_nextDeadline_of_due t hd hdue)⟩
  · intro ops r y hr
    obtain ⟨t, _, _, rfl, hy⟩ := poll_eq_some hr
    exact ⟨by rw [hy, ran_deadline], ran_nextDeadline_le t y⟩

/-! ## A burst in a simulated world -/

open Simulation

/-- Reads of 5 ms each, in runs that start at 1010 and 1025, leave the deadline at 1100. -/
theorem soonest_wins_in_burst :
    let world : World := ⟨{ Bus.silent with readTime := 5 }, .manual 1000, #[]⟩
    let later : Op World := .environment fun w => { w with clock := w.clock.advance 10 }
    let start := setUp world (.ofUnits ([] : List ScriptedUnit) (by decide)) .default .default
    let ops := [.start none]
    let burst := [later, .mark .gyro, .poll, later, .mark .mag, .poll]
    let x := (start.exec ops).2
    x.scheduler.state = .armed ∧ x.scheduler.deadline = some 1100 ∧ Along BeforeDeadline x burst ∧
      Along Forward start (ops ++ burst) ∧ Along KeepsTimeout start (ops ++ burst) ∧
      (x.exec burst).2.scheduler.deadline = some 1100 := by
  intro world later start ops burst x
  have ha : x.scheduler.state = .armed := rfl
  have hd : x.scheduler.deadline = some 1100 := rfl
  have hb : Along BeforeDeadline x burst := by
    refine ⟨trivial, trivial, ?_, trivial, trivial, ?_, trivial⟩
    all_goals
      intro d hd
      cases hd
      decide
  have hf : Along Forward start (ops ++ burst) := by
    refine along_forward World.onward (fun change hc w => ?_) start
    have hl : change = fun w => { w with clock := w.clock.advance 10 } := by simpa [ops, burst, later] using hc
    rw [hl]
    exact Clock.now_le_advance _ _
  have hk : Along KeepsTimeout start (ops ++ burst) := ⟨rfl, rfl, rfl, rfl, rfl, rfl, rfl, trivial⟩
  exact ⟨ha, hd, hb, hf, hk, ((soonest_wins world _ _ _).1 ops burst 1100 ha hd hb).2.2 hf hk⟩

end SensorFusion.Estimator
