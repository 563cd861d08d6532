/-
  SensorFusion.Proofs.Wakeup — no arrival waits unnoticed, and a run's trigger tells the
  truth.

  The run request and the unread set are two pieces of a tracker, consumed at two moments
  of a poll. Between operations they agree (`Prompt`): a request stands exactly when
  something is unread. A poll that waits finds no request, hence nothing unread, and
  consuming the request changes nothing; a poll that runs consumes both before anything
  can arrive.
-/

import SensorFusion.Proofs.Lifecycle
import SensorFusion.Simulation.Unit
import SensorFusion.Simulation.World

namespace SensorFusion

namespace UpdateTracker

/-- A run is asked for exactly when something is unread. -/
def Prompt (t : UpdateTracker) : Prop := t.dispatchRequested = !t.pending.isEmpty

theorem prompt_iff {t : UpdateTracker} : t.Prompt ↔ (t.dispatchRequested = true ↔ t.pending ≠ .empty) := by
  rw [Prompt, Bool.eq_iff_iff, Bool.not_eq_true', ← Bool.not_eq_true, ne_eq, SensorMask.isEmpty_iff]

theorem Prompt.pending_eq_empty {t : UpdateTracker} (h : t.Prompt) (hd : t.dispatchRequested = false) :
    t.pending = .empty := by
  rw [Prompt, hd] at h
  exact SensorMask.isEmpty_iff.mp (by simpa using h.symm)

/-- Nothing is unread after a take, nor is a run asked for. -/
theorem prompt_taken (t : UpdateTracker) : t.takeDispatch.2.take.2.Prompt := rfl

theorem Prompt.markMask {t : UpdateTracker} (h : t.Prompt) (m : SensorMask) : (t.markMask m).Prompt := by
  rw [Prompt, dispatchRequested_markMask, pending_markMask, SensorMask.isEmpty_union, Bool.not_and, h]

theorem Prompt.markAll {t : UpdateTracker} (h : t.Prompt) (ms : List SensorMask) : (t.markAll ms).Prompt := by
  induction ms generalizing t with
  | nil => exact h
  | cons m ms ih => exact ih (h.markMask m)

theorem takeDispatch_of_not {t : UpdateTracker} (h : t.dispatchRequested = false) : t.takeDispatch.2 = t := by
  cases t
  cases h
  rfl

end UpdateTracker

namespace SchedulerStats

/-- A run that tells the truth keeps the counters of timeout runs and of warnings equal. -/
theorem record_stale_eq {s : SchedulerStats} {r : RunReport} (h : s.staleRuns = s.timeoutRuns)
    (hr : r.trigger = .timeout ↔ r.alarm = .warning) : (s.record r).staleRuns = (s.record r).timeoutRuns := by
  simp only [record, h, hr]

end SchedulerStats

namespace Estimator

variable {ε υ : Type}

structure Watchful (x : Estimator ε υ) : Prop where
  prompt : x.tracker.Prompt
  stale : x.scheduler.stats.staleRuns = x.scheduler.stats.timeoutRuns

theorem setUp_watchful (env : ε) (chain : FilterChain υ) (gate : SanityGate) (settings : EstimationSettings) :
    Watchful (setUp env chain gate settings) := ⟨rfl, rfl⟩

variable [Environment ε] [FilterUnit υ]

/-- With a prompt tracker an armed estimator that has something unread runs for it. -/
theorem poll_of_unread {x : Estimator ε υ} (h : x.tracker.Prompt) (ha : x.scheduler.state = .armed)
    (hp : x.tracker.pending ≠ .empty) : ∃ r, x.poll.1 = some r ∧ r.trigger = .sensorUpdate := by
  have hd : x.tracker.dispatchRequested = true := (UpdateTracker.prompt_iff.mp h).mpr hp
  have ht : x.trigger? = some .sensorUpdate := Scheduler.trigger?_eq_some_iff.mpr (Or.inl ⟨rfl, hd⟩)
  exact ⟨_, congrArg Prod.fst (poll_of_trigger ha ht), rfl⟩

/-- With a prompt tracker a run is due to the deadline exactly when it takes nothing, and
    exactly then it warns. -/
theorem ran_truthful {x : Estimator ε υ} (h : x.tracker.Prompt) {t : Trigger} (ht : x.trigger? = some t) :
    (t = .timeout ↔ x.tracker.pending = .empty) ∧ (x.tracker.pending = .empty ↔ (x.ran t).1.alarm = .warning) := by
  rw [ran_alarm, Trigger.level_eq_warning_iff]
  rcases Scheduler.trigger?_eq_some_iff.mp ht with ⟨rfl, hd⟩ | ⟨rfl, hd, _⟩
  · have hp := (UpdateTracker.prompt_iff.mp h).mp hd
    simp [hp]
  · have hp := h.pending_eq_empty hd
    simp [hp]

theorem step_watchful (x : Estimator ε υ) (op : Op ε) (h : Watchful x) : Watchful (x.step op).2 := by
  cases op with
  | mark c => exact ⟨h.prompt.markMask _, h.stale⟩
  | markMask m => exact ⟨h.prompt.markMask m, h.stale⟩
  | start home =>
    rcases x.start_cases home with ⟨_, l, hs⟩ | ⟨_, e, hs⟩ <;> simp only [step, hs] <;> exact ⟨h.prompt, h.stale⟩
  | applySettings settings =>
    rcases x.scheduler.applySettings_cases settings with ⟨_, hs⟩ | ⟨e, _, hs⟩ <;> simp only [step, hs] <;>
      exact ⟨h.prompt, h.stale⟩
  | poll =>
    rcases x.poll_cases with ⟨_, hp⟩ | ⟨_, ht, hp⟩ | ⟨t, _, ht, hp⟩
    · simp only [step, hp]
      exact h
    · have hd := (Scheduler.trigger?_eq_none_iff.mp ht).1
      simp only [step, hp]
      refine ⟨?_, h.stale⟩
      rw [waited, UpdateTracker.takeDispatch_of_not hd]
      exact h.prompt
    · obtain ⟨he, hw⟩ := ran_truthful h.prompt ht
      simp only [step, hp]
      refine ⟨?_, SchedulerStats.record_stale_eq h.stale (he.trans hw)⟩
      rw [ran_tracker]
      exact (UpdateTracker.prompt_taken _).markAll _
  | _ => exact ⟨h.prompt, h.stale⟩

theorem exec_watchful {x : Estimator ε υ} (h : Watchful x) (ops : List (Op ε)) : Watchful (x.exec ops).2 :=
  exec_invariant step_watchful h ops

/-- No wake-up is lost, and the trigger tells the truth, in every state `y` that an
    execution reaches:
    (1) a run is asked for exactly when something is unread, and in the middle of a run
        this holds again after its take and after every arrival, up to what the run leaves;
    (2) when `y` is armed with an unread sample, the next poll makes a run for it, at
        whatever time and deadline;
    (3) when `y` is armed and a poll waits, nothing is unread and the deadline lies ahead;
    (4) a run is due to the deadline exactly when it takes nothing, and exactly then it
        publishes a warning;
    (5) so there are as many warnings as timeout runs. -/
theorem no_lost_wakeup (env : ε) (chain : FilterChain υ) (gate : SanityGate) (settings : EstimationSettings)
    (ops : List (Op ε)) :
    let y := ((setUp env chain gate settings).exec ops).2
    (y.tracker.dispatchRequested = true ↔ y.tracker.pending ≠ .empty) ∧
      ((∀ n, (y.trackerMidRun n).dispatchRequested = true ↔ (y.trackerMidRun n).pending ≠ .empty) ∧
        ∀ r, y.poll.1 = some r → y.poll.2.tracker = y.trackerMidRun y.midRun.length) ∧
      (y.scheduler.state = .armed → y.tracker.pending ≠ .empty → ∀ e d,
        ∃ r, ({ y with env := e, scheduler := { y.scheduler with deadline := d } } : Estimator ε υ).poll.1 = some r ∧
          r.trigger = .sensorUpdate) ∧
      (y.scheduler.state = .armed → y.poll.1 = none →
        y.tracker.pending = .empty ∧ ∃ d, y.scheduler.deadline = some d ∧ Environment.clock y.env < d) ∧
      (∀ r, y.poll.1 = some r →
        (r.trigger = .timeout ↔ r.consumed = .empty) ∧ (r.consumed = .empty ↔ r.alarm = .warning) ∧
          y.poll.2.published = y.published.push r.alarm) ∧
      y.scheduler.stats.staleRuns = y.scheduler.stats.timeoutRuns := by
  intro y
  have h : Watchful y := exec_watchful (setUp_watchful ..) ops
  have hs : Settled y := exec_settled (setUp_settled ..) ops
  refine ⟨UpdateTracker.prompt_iff.mp h.prompt, ⟨fun n => ?_, fun _ => tracker_poll⟩, fun ha hp e d => ?_,
    fun ha hn => ?_, fun r hr => ?_, h.stale⟩
  · exact UpdateTracker.prompt_iff.mp ((UpdateTracker.prompt_taken _).markAll _)
  · exact poll_of_unread (x := { y with env := e, scheduler := { y.scheduler with deadline := d } }) h.prompt ha hp
  · obtain ⟨hd, hdue⟩ := Scheduler.trigger?_eq_none_iff.mp (poll_eq_none ha hn)
    obtain ⟨d, hd'⟩ := hs.deadline_of_armed ha
    refine ⟨h.prompt.pending_eq_empty hd, d, hd', UInt64.not_le.mp fun hle => ?_⟩
    rw [Scheduler.isDue_iff.mpr ⟨d, hd', hle⟩] at hdue
    cases hdue
  · obtain ⟨t, _, ht, rfl, hy⟩ := poll_eq_some hr
    obtain ⟨he, hw⟩ := ran_truthful h.prompt ht
    exact ⟨he, hw, by rw [hy, ran_published]⟩

open Simulation

/-- Every read brings a sample of the barometer. What the first run's read has brought makes
    another run, at any time and also without a deadline; without a sample a poll waits. -/
theorem no_lost_wakeup_across_reads :
    let world : World := ⟨{ Bus.silent with readArrivals := SensorClass.bit .baro }, .manual 0, #[]⟩
    let late : World := { world with clock := .manual 5000 }
    let chain : FilterChain ScriptedUnit := .ofUnits [] (by decide)
    let y := ((setUp world chain .default .default).exec [.mark .gyro, .start none, .poll]).2
    let quiet := ((setUp world chain .default .default).exec [.start none]).2
    (y.scheduler.state = .armed ∧ y.tracker.pending = .ofClasses [.baro] ∧
      ∃ r, ({ y with env := late, scheduler := { y.scheduler with deadline := none } } :
        Estimator World ScriptedUnit).poll.1 = some r ∧ r.trigger = .sensorUpdate) ∧
    ((y.trackerMidRun 0).dispatchRequested = false ∧ (y.trackerMidRun 1).dispatchRequested = true ∧
      y.poll.2.tracker = y.trackerMidRun 1) ∧
    (∃ r, y.poll.1 = some r ∧ (r.trigger = .timeout ↔ r.consumed = .empty) ∧ (r.consumed = .empty ↔ r.alarm = .warning)) ∧
    (quiet.scheduler.state = .armed ∧ quiet.poll.1 = none ∧ quiet.tracker.pending = .empty ∧
      ∃ d, quiet.scheduler.deadline = some d ∧ Environment.clock quiet.env < d) := by
  intro world late chain y quiet
  obtain ⟨_, ⟨hmid, hleft⟩, hnext, _, htruth, _⟩ :=
    no_lost_wakeup world chain .default .default [.mark .gyro, .start none, .poll]
  obtain ⟨_, _, _, hwait, _⟩ := no_lost_wakeup world chain .default .default [.start none]
  have hmidRun : y.midRun = [SensorClass.bit .baro] := by decide
  have hunread : y.tracker.pending = .ofClasses [.baro] := by decide
  have hsome : y.tracker.pending ≠ .empty := by decide
  obtain ⟨r, hr, _⟩ := hnext rfl hsome y.env y.scheduler.deadline
  obtain ⟨htrigger, hlevel, _⟩ := htruth r hr
  refine ⟨⟨rfl, hunread, hnext rfl hsome late none⟩, ⟨rfl, (hmid 1).mpr ?_, ?_⟩, ⟨r, hr, htrigger, hlevel⟩,
    rfl, rfl, hwait rfl rfl⟩
  · decide
  · rw [hleft r hr, hmidRun]
    rfl

end Estimator

end SensorFusion
