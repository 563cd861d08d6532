/-
  SensorFusion.Proofs.Warning — how long before a warning a sample may have been consumed.

  A warning tells that the armed deadline passed and nothing was unread then. It does not
  tell that the last sample is a whole timeout old: a run before the deadline keeps it, so
  the deadline may pass shortly after that run (`warning_soon_after_sample`).

  Proved (`warning_period_passed_or_deadline_kept`), for a clock that never goes back and
  one timeout all along: a run that started less than the timeout before a warning kept the
  very deadline which the warning met. So no warning is published while something is unread
  at every poll that meets a passed deadline. `Since` carries the first part from run to run.
-/

import SensorFusion.Proofs.Deadline

namespace SensorFusion.Estimator

variable {ε υ : Type} [Environment ε]

/-- At the pace `T`, and armed with a deadline that the run of `r` kept, or one that lies at
    least `T` after the start of that run. -/
structure Since (T : UInt32) (r : RunReport) (x : Estimator ε υ) : Prop where
  paced : Paced T x
  armed : x.scheduler.state = .armed
  started : r.startedAt ≤ Environment.clock x.env
  deadline : ∃ d, x.scheduler.deadline = some d ∧
    (r.startedAt.later T.toUInt64 ≤ d ∨ (r.startedAt < d ∧ d = r.nextDeadline))

/-- A poll that meets a passed deadline finds something unread. -/
def Served (x : Estimator ε υ) (op : Op ε) : Prop :=
  op = .poll → ∀ d, x.scheduler.deadline = some d → d ≤ Environment.clock x.env → x.tracker.pending ≠ .empty

structure Calm (x : Estimator ε υ) : Prop where
  published : ∀ level ∈ x.published, level = .clear
  alarm : x.scheduler.alarm = .initial

variable [FilterUnit υ]

/-! ## Runs at one pace -/

/-- A run keeps a deadline that lies ahead, and replaces one that has passed. -/
theorem Paced.ran_nextDeadline {T : UInt32} {x : Estimator ε υ} (h : Paced T x) {d : Timestamp}
    (hd : x.scheduler.deadline = some d) (hend : Environment.clock x.env ≤ x.runEnd) (t : Trigger) :
    (x.ran t).1.nextDeadline = if Environment.clock x.env < d then d else x.runEnd.later T.toUInt64 := by
  by_cases hnow : Environment.clock x.env < d
  · rw [if_pos hnow]
    apply ran_nextDeadline_of_ahead t hd hnow
    rw [h.timeout]
    exact UInt64.le_trans (h.within d hd) (Timestamp.later_mono hend (UInt64.le_refl _))
  · rw [if_neg hnow, ran_nextDeadline_of_due t hd (UInt64.not_lt.mp hnow), h.timeout]

theorem ran_since {T : UInt32} {x : Estimator ε υ} (h : Paced T x) {d : Timestamp}
    (hd : x.scheduler.deadline = some d) {t : Trigger} (hp : x.poll = (some (x.ran t).1, (x.ran t).2))
    (hf : Forward x .poll) : Since T (x.ran t).1 (x.ran t).2 := by
  have hx : (x.step .poll).2 = (x.ran t).2 := by simp only [step, hp]
  obtain ⟨hend, _⟩ := hf.2 (x.ran t).1 (by simp only [step, hp, Answer.run?])
  have hpaced : Paced T (x.step .poll).2 := step_paced x .poll h ⟨hf, by rw [KeepsTimeout, hx, ran_timeout]⟩
  have hnow := hf.1
  rw [hx] at hpaced hnow
  refine ⟨hpaced, ran_state x t, hnow, (x.ran t).1.nextDeadline, ran_deadline x t, ?_⟩
  rw [ran_startedAt, h.ran_nextDeadline hd hend t]
  by_cases hahead : Environment.clock x.env < d
  · rw [if_pos hahead]
    exact Or.inr ⟨hahead, rfl⟩
  · rw [if_neg hahead]
    exact Or.inl (Timestamp.later_mono hend (UInt64.le_refl _))

theorem step_since {T : UInt32} {r : RunReport} (x : Estimator ε υ) (op : Op ε) (h : Since T r x)
    (hq : Forward x op ∧ KeepsTimeout x op) : Since T r (x.step op).2 := by
  obtain ⟨d, hd, hle⟩ := h.deadline
  refine ⟨step_paced x op h.paced hq, x.step_armed op h.armed, UInt64.le_trans h.started hq.1.1, ?_⟩
  rcases x.step_cases op with ⟨_, hk⟩ | ⟨hi, _⟩ | ⟨t, _, _, _, hp⟩
  · exact ⟨d, hk.trans hd, hle⟩
  · rw [h.armed] at hi
    cases hi
  · obtain ⟨hend, _⟩ := hq.1.2 (x.ran t).1 (by rw [hp]; rfl)
    rw [hp]
    refine ⟨_, ran_deadline x t, ?_⟩
    rw [h.paced.ran_nextDeadline hd hend t]
    by_cases hahead : Environment.clock x.env < d
    · rw [if_pos hahead]
      exact hle
    · -- the deadline is replaced by one from the end of this run
      rw [if_neg hahead]
      exact Or.inl (Timestamp.later_mono (UInt64.le_trans h.started hend) (UInt64.le_refl _))

/-! ## Warnings -/

/-- A warning meets a passed deadline with nothing unread. -/
theorem poll_warning {x : Estimator ε υ} {w : RunReport} (hw : x.poll.1 = some w) (ha : w.alarm = .warning) :
    x.tracker.pending = .empty ∧ ∃ d, x.scheduler.deadline = some d ∧ d ≤ w.startedAt := by
  obtain ⟨t, _, ht, rfl, _⟩ := poll_eq_some hw
  rw [ran_alarm, Trigger.level_eq_warning_iff] at ha
  obtain ⟨rfl, hp⟩ := ha
  exact ⟨hp, due_of_timeout ht⟩

theorem step_calm (x : Estimator ε υ) (op : Op ε) (h : Calm x) (hs : Served x op) : Calm (x.step op).2 := by
  rcases x.step_run_cases op with ⟨_, hr⟩ | ⟨t, rfl, _, hp⟩
  · exact ⟨hr.published ▸ h.published, hr.alarm.trans h.alarm⟩
  · have hclear : (x.ran t).1.alarm = .clear := by
      cases hl : (x.ran t).1.alarm with
      | clear => rfl
      | warning =>
        obtain ⟨hu, d, hd, hdue⟩ := poll_warning (congrArg Prod.fst hp) hl
        exact absurd hu (hs rfl d hd hdue)
    simp only [step, hp]
    refine ⟨?_, ?_⟩
    · intro level hl
      rw [ran_published, Array.mem_push, hclear] at hl
      exact hl.elim (h.published level) id
    · rw [ran_liveness, h.alarm, hclear]
      rfl

/-- How far back the last sample lies when a warning is published, in executions of an
    estimator that is set up.
    (1) With a clock that never goes back and one timeout all along, let a run `r` be made
        in `y` and later a run `w` that warns in `z`. Then `r` started at least the timeout
        before `w`, or the deadline that `w` met was armed and ahead when `r` started, and
        `r` kept it.
    (2) As long as something is unread at every poll that meets a passed deadline, every
        level published is clear and the alarm never rises. -/
theorem warning_period_passed_or_deadline_kept (env : ε) (chain : FilterChain υ) (gate : SanityGate)
    (settings : EstimationSettings) :
    let start := setUp env chain gate settings
    let T := start.scheduler.timeout
    (∀ before between r w,
      let y := (start.exec before).2
      let z := (y.poll.2.exec between).2
      Along Forward start (before ++ .poll :: between) → Along KeepsTimeout start (before ++ .poll :: between) →
        y.poll.1 = some r → z.poll.1 = some w → w.alarm = .warning →
          r.startedAt.later T.toUInt64 ≤ w.startedAt ∨
            (y.scheduler.deadline = some r.nextDeadline ∧ r.startedAt < r.nextDeadline ∧
              z.scheduler.deadline = some r.nextDeadline ∧ r.nextDeadline ≤ w.startedAt)) ∧
      ∀ ops, Along Served start ops →
        let x := (start.exec ops).2
        (∀ level ∈ x.published, level = .clear) ∧ x.scheduler.alarm.timesRaised = 0 := by
  intro start T
  refine ⟨?_, ?_⟩
  · intro before between r w y z hf hk hr hw ha
    obtain ⟨hstart, hrest⟩ := along_append.mp (along_and hf hk)
    have hy : Paced T y := exec_along step_paced (setUp_paced ..) hstart
    obtain ⟨t, harm, _, rfl, hp⟩ := poll_eq_some hr
    obtain ⟨d, hd⟩ := (exec_settled (setUp_settled ..) before : Settled y).deadline_of_armed harm
    have hrun : Since T (y.ran t).1 y.poll.2 := by
      rw [hp]
      exact ran_since hy hd (Prod.ext hr hp) hrest.1.1
    have hz : Since T (y.ran t).1 z := exec_along step_since hrun hrest.2
    obtain ⟨_, d', hd', hdue⟩ := poll_warning hw ha
    obtain ⟨e, he, hle⟩ := hz.deadline
    rw [hd'] at he
    cases he
    rcases hle with hle | ⟨hlt, rfl⟩
    · exact Or.inl (UInt64.le_trans hle hdue)
    · have hend : Environment.clock y.env ≤ y.runEnd := (hrest.1.1.2 (y.ran t).1 hr).1
      have hnext := hy.ran_nextDeadline hd hend t
      by_cases hahead : Environment.clock y.env < d
      · rw [if_pos hahead] at hnext
        exact Or.inr ⟨by rw [hnext, hd], hlt, hd', hdue⟩
      · rw [if_neg hahead] at hnext
        rw [hnext] at hdue
        exact Or.inl (UInt64.le_trans (Timestamp.later_mono hend (UInt64.le_refl _)) hdue)
  · intro ops hs x
    have hstart : Calm start := ⟨fun _ h => by simp [start, setUp, withGate, new] at h, rfl⟩
    have hx : Calm x := exec_along step_calm hstart hs
    exact ⟨hx.published, congrArg LivenessAlarm.timesRaised hx.alarm⟩

/-! ## Warnings in a simulated world -/

open Simulation

/-- A sample taken at 120 spends the deadline of 100; the warning comes at 220. -/
theorem warning_after_spent_deadline :
    let world : World := ⟨.silent, .manual 0, #[]⟩
    let later (ms : UInt64) : Op World := .environment fun w => { w with clock := w.clock.advance ms }
    let start := setUp world (.ofUnits ([] : List ScriptedUnit) (by decide)) .default .default
    let before := [.start none, later 120, .mark .gyro]
    let between := [later 100]
    let y := (start.exec before).2
    let z := (y.poll.2.exec between).2
    Along Forward start (before ++ .poll :: between) ∧ Along KeepsTimeout start (before ++ .poll :: between) ∧
      ∃ r w, y.poll.1 = some r ∧ z.poll.1 = some w ∧ r.consumed.has .gyro = true ∧ w.alarm = .warning ∧
        (r.startedAt.later start.scheduler.timeout.toUInt64 ≤ w.startedAt ∨
          (y.scheduler.deadline = some r.nextDeadline ∧ r.startedAt < r.nextDeadline ∧
            z.scheduler.deadline = some r.nextDeadline ∧ r.nextDeadline ≤ w.startedAt)) := by
  intro world later start before between y z
  have hf : Along Forward start (before ++ .poll :: between) := by
    refine along_forward_of_advance (fun change hc => ?_) start
    have hl : .environment change = later 120 ∨ .environment change = later 100 := by simpa [before, between] using hc
    rcases hl with h | h
    · exact ⟨120, Op.environment.inj h⟩
    · exact ⟨100, Op.environment.inj h⟩
  have hk : Along KeepsTimeout start (before ++ .poll :: between) := ⟨rfl, rfl, rfl, rfl, rfl, trivial⟩
  have hr : y.poll.1 = some (y.ran .sensorUpdate).1 := rfl
  have hw : z.poll.1 = some (z.ran .timeout).1 := congrArg Prod.fst (poll_of_trigger rfl (by decide))
  have ha : (z.ran .timeout).1.alarm = .warning := by decide
  refine ⟨hf, hk, _, _, hr, hw, by decide, ha, ?_⟩
  exact (warning_period_passed_or_deadline_kept world _ _ _).1 before between _ _ hf hk hr hw ha

/-- A sample taken at 90 keeps the deadline of 100, and the warning comes then, ten
    milliseconds later, with a timeout of a hundred. -/
theorem warning_soon_after_sample :
    let world : World := ⟨.silent, .manual 0, #[]⟩
    let later (ms : UInt64) : Op World := .environment fun w => { w with clock := w.clock.advance ms }
    let start := setUp world (.ofUnits ([] : List ScriptedUnit) (by decide)) .default .default
    let before := [.start none, later 90, .mark .gyro]
    let between := [later 10]
    let y := (start.exec before).2
    let z := (y.poll.2.exec between).2
    Along Forward start (before ++ .poll :: between) ∧ Along KeepsTimeout start (before ++ .poll :: between) ∧
      ∃ r w, y.poll.1 = some r ∧ z.poll.1 = some w ∧ r.consumed ≠ .empty ∧ w.alarm = .warning ∧
        ¬ r.startedAt.toNat + start.scheduler.timeout.toNat ≤ w.startedAt.toNat := by
  intro world later start before between y z
  have hf : Along Forward start (before ++ .poll :: between) := by
    refine along_forward_of_advance (fun change hc => ?_) start
    have hl : .environment change = later 90 ∨ .environment change = later 10 := by simpa [before, between] using hc
    rcases hl with h | h
    · exact ⟨90, Op.environment.inj h⟩
    · exact ⟨10, Op.environment.inj h⟩
  have hk : Along KeepsTimeout start (before ++ .poll :: between) := ⟨rfl, rfl, rfl, rfl, rfl, trivial⟩
  have hr : y.poll.1 = some (y.ran .sensorUpdate).1 := rfl
  have hw : z.poll.1 = some (z.ran .timeout).1 := congrArg Prod.fst (poll_of_trigger rfl (by decide))
  exact ⟨hf, hk, _, _, hr, hw, by decide, by decide, by decide⟩

end SensorFusion.Estimator
