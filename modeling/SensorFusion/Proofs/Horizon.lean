/-
  SensorFusion.Proofs.Horizon — idle until started, and armed within the longest timeout
  from then on.

  A timeout comes in by two doors: construction takes the nearest acceptable one, a later
  change of settings is refused when it is not acceptable itself. Both keep the timeout in
  range, by the same range. A deadline is armed at the start and by every run, the timeout
  of that moment ahead, so with a clock that never goes back it stays within the longest
  timeout (`Within maxTimeout`), whatever becomes of the timeout while it is armed.

  Proved (`idle_until_started_then_armed_in_reach`): the lifecycle, the range of the timeout
  and the reach of the deadline, in every state of every execution.
-/

import SensorFusion.Proofs.Deadline

namespace SensorFusion.Estimator

variable {ε υ : Type} [Environment ε]

structure InReach (x : Estimator ε υ) : Prop where
  timeout : TimeoutInRange x
  within : Within maxTimeout x

theorem setUp_inReach (env : ε) (chain : FilterChain υ) (gate : SanityGate) (settings : EstimationSettings) :
    InReach (setUp env chain gate settings) := by
  refine ⟨setUp_timeoutInRange .., fun d hd => ?_⟩
  cases hd

/-- The time left until a deadline within reach is the longest timeout at most. -/
theorem InReach.untilDeadline {x : Estimator ε υ} (h : InReach x) {d : Timestamp} (hd : x.scheduler.deadline = some d) :
    ∃ ms, x.untilDeadline.1 = some ms ∧ ms.toNat ≤ maxTimeout.toNat := by
  refine ⟨(Environment.clock x.env).remaining d, by rw [Estimator.untilDeadline, hd], ?_⟩
  have hle := UInt64.le_iff_toNat_le.mp (h.within d hd)
  rw [Timestamp.toNat_later, UInt32.toNat_toUInt64] at hle
  rw [Timestamp.toNat_remaining]
  omega

variable [FilterUnit υ]

theorem step_inReach (x : Estimator ε υ) (op : Op ε) (h : InReach x) (hf : Forward x op) : InReach (x.step op).2 := by
  have hle : x.scheduler.timeout ≤ maxTimeout :=
    UInt32.le_iff_toNat_le.mpr (EstimationSettings.timeoutInRange_iff.mp h.timeout).2
  exact ⟨step_timeoutInRange x op h.timeout, step_within x op h.within hle hf⟩

/-- What is so between any two operations, in every execution from `setUp` with any
    settings, also when others consume from the tracker:
    (1) the scheduler is idle or armed, never in the middle of a run;
    (2) it is idle exactly as long as no start has succeeded, and exactly as long as there
        is no deadline; until then no run is counted and the chain is the one it was given;
    (3) the timeout is acceptable; construction takes the nearest acceptable one, which is
        the configured one exactly when validation finds its range acceptable, and settings
        with another one are refused;
    (4) with a clock that never goes back, the deadline of an armed scheduler is within the
        longest timeout, and so is the time left until it. -/
theorem idle_until_started_then_armed_in_reach (env : ε) (chain : FilterChain υ) (gate : SanityGate)
    (settings : EstimationSettings) (ops : List (SharedOp ε)) :
    let start := setUp env chain gate settings
    let y := (start.execShared ops).2
    let outOfRange : EstimationError := .invalidConfig "timeout_ms out of range"
    (y.scheduler.state = .idle ∨ y.scheduler.state = .armed) ∧
    (y.scheduler.state = .idle ↔ ¬ StartSucceeds start ops) ∧
    (y.scheduler.state = .idle ↔ y.scheduler.deadline = none) ∧
    (y.scheduler.state = .idle → y.scheduler.stats = .zero ∧ y.scheduler.chain = chain ∧ y.published = #[]) ∧
    (minTimeout ≤ y.scheduler.timeout ∧ y.scheduler.timeout ≤ maxTimeout) ∧
    start.scheduler.timeout.toNat = max minTimeout.toNat (min settings.timeout.toNat maxTimeout.toNat) ∧
    (∀ s : EstimationSettings,
      ((Scheduler.new chain s).timeout = s.timeout ↔ s.validate ≠ .error outOfRange) ∧
      (s.validate = .error outOfRange → y.scheduler.applySettings s = (.error outOfRange, y.scheduler))) ∧
    (AlongShared Forward start ops → y.scheduler.state = .armed →
      ∃ d ms, y.scheduler.deadline = some d ∧ d ≤ (Environment.clock y.env).later maxTimeout.toUInt64 ∧
        y.untilDeadline.1 = some ms ∧ ms.toNat ≤ maxTimeout.toNat) := by
  intro start y outOfRange
  have hphase : (¬ StartSucceeds start ops ∧ Untouched chain y) ∨
      (StartSucceeds start ops ∧ y.scheduler.state = .armed) :=
    execShared_started (setUp_untouched env chain gate settings) ops
  have hsettled : Settled y := execShared_invariant step_settled (fun _ _ h => h) (setUp_settled ..) ops
  have hT : TimeoutInRange y := execShared_timeoutInRange (setUp_timeoutInRange ..) ops
  refine ⟨?_, ?_, ?_, ?_, ?_, Scheduler.toNat_clampTimeout _, fun s => ⟨?_, fun hv => ?_⟩, fun hf ha => ?_⟩
  · exact hphase.imp (fun h => h.2.state) And.right
  · rcases hphase with ⟨hno, hu⟩ | ⟨hs, ha⟩
    · exact ⟨fun _ => hno, fun _ => hu.state⟩
    · simp [ha, hs]
  · rcases hsettled with ⟨hi, hn⟩ | ⟨ha, d, hd⟩
    · exact ⟨fun _ => hn, fun _ => hi⟩
    · simp [ha, hd]
  · intro hi
    rcases hphase with ⟨_, hu⟩ | ⟨_, ha⟩
    · exact ⟨hu.stats, hu.chain, hu.published⟩
    · rw [ha] at hi
      cases hi
  · rw [UInt32.le_iff_toNat_le, UInt32.le_iff_toNat_le]
    exact EstimationSettings.timeoutInRange_iff.mp hT
  · rw [ne_eq, EstimationSettings.validate_eq_out_of_range_iff, Bool.not_eq_false]
    exact Scheduler.clampTimeout_eq_self_iff
  · rcases y.scheduler.applySettings_cases s with ⟨hok, _⟩ | ⟨e, he, hx⟩
    · rw [hv] at hok
      cases hok
    · rw [hv] at he
      cases he
      exact hx
  · have hreach : InReach y := execShared_along step_inReach (fun _ _ h => ⟨h.timeout, h.within⟩) (setUp_inReach ..) hf
    obtain ⟨d, hd⟩ := hsettled.deadline_of_armed ha
    obtain ⟨ms, hms, hle⟩ := hreach.untilDeadline hd
    exact ⟨d, ms, hd, hreach.within d hd, hms, hle⟩

/-! ## A shortened timeout in a simulated world -/

open Simulation

/-- A configured timeout of 70 s is cut to 10 s. A timeout of 50 ms, taken over after the
    start, leaves the deadline armed at the start where it is, 10 s ahead. -/
theorem armed_in_reach_after_shorter_timeout :
    let world : World := ⟨.silent, .manual 5, #[]⟩
    let settings := EstimationSettings.default.withTimeout 70000
    let start := setUp world (.ofUnits ([] : List ScriptedUnit) (by decide)) .default settings
    let ops := [.own (.start none), .own (.applySettings (EstimationSettings.default.withTimeout 50))]
    let y := (start.execShared ops).2
    AlongShared Forward start ops ∧ y.scheduler.state = .armed ∧ y.scheduler.timeout = 50 ∧
      y.untilDeadline.1 = some 10000 ∧
      ∃ d ms, y.scheduler.deadline = some d ∧ d ≤ (Environment.clock y.env).later maxTimeout.toUInt64 ∧
        y.untilDeadline.1 = some ms ∧ ms.toNat ≤ maxTimeout.toNat := by
  intro world settings start ops y
  have hf : AlongShared Forward start ops := by
    refine alongShared_forward_of_advance (fun change hc => ?_) start
    simp [ops] at hc
  have ha : y.scheduler.state = .armed := rfl
  obtain ⟨_, _, _, _, _, _, _, hreach⟩ := idle_until_started_then_armed_in_reach world
    (.ofUnits ([] : List ScriptedUnit) (by decide)) .default settings ops
  exact ⟨hf, ha, rfl, by decide, hreach hf ha⟩

end SensorFusion.Estimator
