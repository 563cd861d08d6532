/-
  SensorFusion.Proofs.Poll — what the operations of an estimator can do, said once.

  A poll either finds the estimator unarmed and changes nothing, or looks at the clock,
  consumes the run request and waits, or makes a run (`poll_cases`). A run's report and
  the state after it follow from the state before by the parts below: what the gate and
  the chain make of the samples, what arrives meanwhile, and the clock at its end.
-/

import SensorFusion.Proofs.Execution

namespace SensorFusion.Estimator

variable {ε υ : Type} [Environment ε]

/-! ## The parts of a run that a poll makes now -/

def gated (x : Estimator ε υ) : SanityGate.Outcome ε :=
  x.scheduler.gate.apply x.scheduler.home x.tracker.pending (Environment.tick x.env)

/-- The sensors are read once each, in class order, whatever their samples. -/
theorem gated_sweep (x : Estimator ε υ) :
    let sweep := Sweep.read (x.tracker.pending.inter .sensors).classes (Environment.tick x.env)
    x.gated.arrivals = sweep.arrivals ∧ x.gated.after = sweep.after := ⟨rfl, rfl⟩

def runEnd (x : Estimator ε υ) : Timestamp := Environment.clock x.gated.after

def trigger? (x : Estimator ε υ) : Option Trigger :=
  x.scheduler.trigger? (Environment.clock x.env) x.tracker.dispatchRequested

theorem due_of_timeout {x : Estimator ε υ} (ht : x.trigger? = some .timeout) :
    ∃ d, x.scheduler.deadline = some d ∧ d ≤ Environment.clock x.env := by
  rcases Scheduler.trigger?_eq_some_iff.mp ht with ⟨h, _⟩ | ⟨_, _, hdue⟩
  · cases h
  · exact Scheduler.isDue_iff.mp hdue

def waited (x : Estimator ε υ) : Estimator ε υ :=
  { x with env := Environment.tick x.env, tracker := x.tracker.takeDispatch.2 }

variable [FilterUnit υ]

def passed (x : Estimator ε υ) : FilterChain.Run υ := x.scheduler.chain.run x.gated.screening.snapshot

/-- What arrives during the run, after its take: while sensors are read, then while units
    are updated. -/
def midRun (x : Estimator ε υ) : List SensorMask := x.gated.arrivals ++ x.passed.arrivals

/-- What the sensors' reads bring, each of an unread class, and then what the units' updates
    bring, each on what the units before it made of the gate's snapshot. -/
theorem midRun_eq (x : Estimator ε υ) : x.midRun =
    (Sweep.brought (x.tracker.pending.inter .sensors).classes (Environment.tick x.env)).flatten ++
      (UpdatePass.updates x.scheduler.chain.units x.gated.screening.snapshot).flatMap UnitUpdate.arrivals := by
  have hunits : x.passed.arrivals =
      (UpdatePass.updates x.scheduler.chain.units x.gated.screening.snapshot).flatMap UnitUpdate.arrivals :=
    congrArg UpdatePass.arrivals (UpdatePass.ofUnits_eq _ _)
  rw [midRun, x.gated_sweep.1, Sweep.arrivals_read, hunits]

/-- The tracker in the middle of a run, after its take and the first `n` arrivals. -/
def trackerMidRun (x : Estimator ε υ) (n : Nat) : UpdateTracker :=
  x.tracker.takeDispatch.2.take.2.markAll (x.midRun.take n)

def ran (x : Estimator ε υ) (t : Trigger) : RunReport × Estimator ε υ :=
  run { x.waited with scheduler := x.scheduler.enter (Environment.clock x.env) } t (Environment.clock x.env)

theorem poll_cases (x : Estimator ε υ) :
    (x.scheduler.state ≠ .armed ∧ x.poll = (none, x)) ∨
    (x.scheduler.state = .armed ∧ x.trigger? = none ∧ x.poll = (none, x.waited)) ∨
    ∃ t, x.scheduler.state = .armed ∧ x.trigger? = some t ∧ x.poll = (some (x.ran t).1, (x.ran t).2) := by
  by_cases h : x.scheduler.state = .armed
  · right
    cases ht : x.trigger? with
    | none =>
      have ht' : x.scheduler.trigger? (Environment.clock x.env) x.tracker.takeDispatch.1 = none := ht
      exact Or.inl ⟨h, rfl, by simp only [poll, h, if_true, ht']; rfl⟩
    | some t =>
      have ht' : x.scheduler.trigger? (Environment.clock x.env) x.tracker.takeDispatch.1 = some t := ht
      exact Or.inr ⟨t, h, rfl, by simp only [poll, h, if_true, ht']; rfl⟩
  · exact Or.inl ⟨h, by simp [poll, h]⟩

theorem poll_of_trigger {x : Estimator ε υ} {t : Trigger} (ha : x.scheduler.state = .armed)
    (ht : x.trigger? = some t) : x.poll = (some (x.ran t).1, (x.ran t).2) := by
  rcases x.poll_cases with ⟨hn, _⟩ | ⟨_, hn, _⟩ | ⟨t', _, ht', h⟩
  · exact absurd ha hn
  · rw [hn] at ht
    cases ht
  · rw [ht] at ht'
    cases ht'
    exact h

theorem poll_of_no_trigger {x : Estimator ε υ} (ha : x.scheduler.state = .armed) (ht : x.trigger? = none) :
    x.poll = (none, x.waited) := by
  rcases x.poll_cases with ⟨hn, _⟩ | ⟨_, _, h⟩ | ⟨t, _, ht', _⟩
  · exact absurd ha hn
  · exact h
  · rw [ht] at ht'
    cases ht'

theorem poll_eq_some {x : Estimator ε υ} {r : RunReport} (h : x.poll.1 = some r) :
    ∃ t, x.scheduler.state = .armed ∧ x.trigger? = some t ∧ r = (x.ran t).1 ∧ x.poll.2 = (x.ran t).2 := by
  rcases x.poll_cases with ⟨_, hp⟩ | ⟨_, _, hp⟩ | ⟨t, ha, ht, hp⟩
  · rw [hp] at h
    cases h
  · rw [hp] at h
    cases h
  · rw [hp] at h ⊢
    cases h
    exact ⟨t, ha, ht, rfl, rfl⟩

/-- An armed estimator waits only for want of a trigger. -/
theorem poll_eq_none {x : Estimator ε υ} (ha : x.scheduler.state = .armed) (h : x.poll.1 = none) :
    x.trigger? = none := by
  rcases x.poll_cases with ⟨hn, _⟩ | ⟨_, ht, _⟩ | ⟨t, _, _, hp⟩
  · exact absurd ha hn
  · exact ht
  · rw [hp] at h
    cases h

/-! ## The report of a run and the state after it -/

section Ran

variable (x : Estimator ε υ) (t : Trigger)

@[simp] theorem ran_trigger : (x.ran t).1.trigger = t := rfl
@[simp] theorem ran_startedAt : (x.ran t).1.startedAt = Environment.clock x.env := rfl
@[simp] theorem ran_consumed : (x.ran t).1.consumed = x.tracker.pending := rfl
@[simp] theorem ran_alarm : (x.ran t).1.alarm = t.level x.tracker.pending := rfl

theorem ran_nextDeadline : (x.ran t).1.nextDeadline =
    (x.scheduler.enter (Environment.clock x.env)).nextDeadline x.runEnd := rfl

@[simp] theorem ran_env : (x.ran t).2.env = Environment.tick x.gated.after := rfl

theorem ran_tracker : (x.ran t).2.tracker = UpdateTracker.markAll ⟨.empty, false, x.tracker.markCount⟩ x.midRun :=
  (UpdateTracker.markAll_append _ _ _).symm

@[simp] theorem ran_state : (x.ran t).2.scheduler.state = .armed := rfl
@[simp] theorem ran_deadline : (x.ran t).2.scheduler.deadline = some (x.ran t).1.nextDeadline := rfl
@[simp] theorem ran_timeout : (x.ran t).2.scheduler.timeout = x.scheduler.timeout := rfl
@[simp] theorem ran_chain : (x.ran t).2.scheduler.chain = x.passed.chain := rfl
@[simp] theorem ran_liveness :
    (x.ran t).2.scheduler.alarm = x.scheduler.alarm.update (x.ran t).1.alarm := rfl
@[simp] theorem ran_published : (x.ran t).2.published = x.published.push (x.ran t).1.alarm := rfl
@[simp] theorem ran_stats : (x.ran t).2.scheduler.stats = x.scheduler.stats.record (x.ran t).1 := rfl

end Ran

/-- A run leaves the tracker as its last arrival does. -/
theorem tracker_poll {x : Estimator ε υ} {r : RunReport} (h : x.poll.1 = some r) :
    x.poll.2.tracker = x.trackerMidRun x.midRun.length := by
  obtain ⟨t, _, _, _, hy⟩ := poll_eq_some h
  rw [hy, ran_tracker, trackerMidRun, List.take_length]
  rfl

/-! ## The other operations -/

/-- An estimator is started once; a refused start changes nothing. -/
theorem start_cases (x : Estimator ε υ) (home : Option HomeLocation) :
    (x.scheduler.state = .idle ∧ ∃ l, x.start home =
      (.ok x.scheduler.chain.start.1,
        { x with
          env := Environment.tick x.env
          scheduler := { x.scheduler with
            home := l
            chain := x.scheduler.chain.start.2
            deadline := some (x.scheduler.deadlineFrom (Environment.clock x.env))
            state := .armed } })) ∨
    (x.scheduler.state ≠ .idle ∧ ∃ e, x.start home = (.error e, x)) := by
  by_cases h : x.scheduler.state = .idle
  · exact Or.inl ⟨h, _, by simp only [start, Scheduler.start, h, if_true]; rfl⟩
  · exact Or.inr ⟨h, _, by simp only [start, Scheduler.start, h, if_false]; rfl⟩

theorem start_of_not_idle {x : Estimator ε υ} (h : x.scheduler.state ≠ .idle) (home : Option HomeLocation) :
    x.start home = (.error (.invalidState SchedulerState.idle.name x.scheduler.state.name), x) := by
  simp only [start, Scheduler.start, h, if_false]

end SensorFusion.Estimator

namespace SensorFusion.Scheduler

variable {υ : Type}

/-- Only acceptable settings are taken over, and of them only the timeout. -/
theorem applySettings_cases (s : Scheduler υ) (settings : EstimationSettings) :
    (settings.validate = .ok () ∧ s.applySettings settings = (.ok (), { s with timeout := settings.timeout })) ∨
    ∃ e, settings.validate = .error e ∧ s.applySettings settings = (.error e, s) := by
  unfold applySettings
  cases h : settings.validate with
  | ok _ => exact Or.inl ⟨rfl, rfl⟩
  | error e => exact Or.inr ⟨e, rfl, rfl⟩

end SensorFusion.Scheduler
