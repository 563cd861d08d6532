/-
  SensorFusion.Proofs.Isolation — filter units, sample values and home locations cannot
  disturb scheduling.

  Two estimators are driven side by side by paired executions: the same arrivals, starts,
  polls and settings, while each has units, samples, a gate and home locations of its own,
  and homes may be announced to one and not to the other (`Paired`). Their environments
  stay in a relation under which the clocks show the same time and a read of a class
  brings the same arrivals (`Alike`); nothing arrives while their units are updated
  (`Quiet`).

  Proved (`scheduling_isolated`): both show the same schedule after every step and the
  same timing in every run. `Agree` is the simulation relation: it is kept by a poll
  because a run's trigger, level and next deadline read nothing else (`agree_poll`).
-/

import SensorFusion.Proofs.Poll
import SensorFusion.Simulation.Unit
import SensorFusion.Simulation.World

namespace SensorFusion

/-! ## What scheduling shows -/

/-- An estimator without its chain, its gate, its home and what the runs dropped. -/
structure Schedule where
  tracker : UpdateTracker
  state : SchedulerState
  deadline : Option Timestamp
  timeout : UInt32
  alarm : LivenessAlarm
  runs : UInt32
  sensorRuns : UInt32
  timeoutRuns : UInt32
  staleRuns : UInt32

def Estimator.schedule {ε υ : Type} (x : Estimator ε υ) : Schedule :=
  { tracker := x.tracker
    state := x.scheduler.state
    deadline := x.scheduler.deadline
    timeout := x.scheduler.timeout
    alarm := x.scheduler.alarm
    runs := x.scheduler.stats.runs
    sensorRuns := x.scheduler.stats.sensorRuns
    timeoutRuns := x.scheduler.stats.timeoutRuns
    staleRuns := x.scheduler.stats.staleRuns }

/-- A report without its samples and failures. -/
structure RunTiming where
  trigger : Trigger
  startedAt : Timestamp
  consumed : SensorMask
  alarm : AlarmLevel
  nextDeadline : Timestamp

def RunReport.timing (r : RunReport) : RunTiming := ⟨r.trigger, r.startedAt, r.consumed, r.alarm, r.nextDeadline⟩

def Answer.timing? : Answer → Option (Option RunTiming)
  | polled r => some (r.map RunReport.timing)
  | _ => .none

/-- What a step shows; an announcement of a home location is passed over. -/
def sight {ε υ : Type} : Answer × Estimator ε υ → Option (Option (Option RunTiming) × Schedule)
  | (.homeChanged _, _) => none
  | (a, x) => some (a.timing?, x.schedule)

/-! ## Environments that show the same time -/

section Environments

variable {ε₁ ε₂ : Type} [Environment ε₁] [Environment ε₂] {R : ε₁ → ε₂ → Prop}

/-- Under `R` the clocks agree and reads bring the same arrivals, and looks and reads keep
    `R`. The samples may differ. -/
structure Alike (R : ε₁ → ε₂ → Prop) : Prop where
  clock : ∀ {e₁ e₂}, R e₁ e₂ → Environment.clock e₁ = Environment.clock e₂
  tick : ∀ {e₁ e₂}, R e₁ e₂ → R (Environment.tick e₁) (Environment.tick e₂)
  arrivals : ∀ {e₁ e₂} c, R e₁ e₂ → (Environment.read c e₁).arrivals = (Environment.read c e₂).arrivals
  read : ∀ {e₁ e₂} c, R e₁ e₂ → R (Environment.read c e₁).after (Environment.read c e₂).after

theorem Alike.sweep (hR : Alike R) (cs : List SensorClass) {e₁ : ε₁} {e₂ : ε₂} (h : R e₁ e₂) :
    (Sweep.read cs e₁).arrivals = (Sweep.read cs e₂).arrivals ∧
      R (Sweep.read cs e₁).after (Sweep.read cs e₂).after := by
  induction cs generalizing e₁ e₂ with
  | nil => exact ⟨rfl, h⟩
  | cons c cs ih =>
    obtain ⟨ha, hr⟩ := ih (hR.read c h)
    simp only [Sweep.read, hR.arrivals c h, ha]
    exact ⟨trivial, hr⟩

end Environments

/-! ## Units that bring no arrivals -/

section Units

variable {υ : Type} [FilterUnit υ] {Q : υ → Prop}

/-- Nothing arrives while a unit in `Q` is updated, and it stays in `Q`. -/
structure Quiet (Q : υ → Prop) : Prop where
  arrivals : ∀ u s, Q u → (FilterUnit.update u s).arrivals = []
  update : ∀ u s, Q u → Q (FilterUnit.update u s).unit
  start : ∀ u, Q u → Q (FilterUnit.start u).unit

theorem Quiet.updatePass (hQ : Quiet Q) {us : List υ} (h : ∀ u ∈ us, Q u) (s : Snapshot) :
    (UpdatePass.ofUnits us s).arrivals = [] ∧ ∀ u ∈ (UpdatePass.ofUnits us s).units, Q u := by
  induction us generalizing s with
  | nil => exact ⟨rfl, h⟩
  | cons u us ih =>
    have hu := h u (List.mem_cons_self ..)
    obtain ⟨ha, hq⟩ := ih (fun v hv => h v (List.mem_cons_of_mem _ hv)) (FilterUnit.update u s).snapshot
    simp only [UpdatePass.ofUnits, hQ.arrivals u s hu, ha, List.append_nil, List.mem_cons]
    refine ⟨trivial, fun v hv => ?_⟩
    rcases hv with rfl | hv
    · exact hQ.update u s hu
    · exact hq v hv

theorem Quiet.startPass (hQ : Quiet Q) {us : List υ} (h : ∀ u ∈ us, Q u) :
    ∀ u ∈ (StartPass.ofUnits us).units, Q u := by
  induction us with
  | nil => exact h
  | cons u us ih =>
    intro v hv
    rcases List.mem_cons.mp hv with rfl | hv
    · exact hQ.start u (h u (List.mem_cons_self ..))
    · exact ih (fun w hw => h w (List.mem_cons_of_mem _ hw)) v hv

end Units

/-! ## Paired executions -/

section Pairs

variable {ε₁ ε₂ : Type}

/-- Two executions with the same arrivals, polls, settings and changes of the clock, and
    with home locations of their own. -/
inductive Paired (R : ε₁ → ε₂ → Prop) : List (Op ε₁) → List (Op ε₂) → Prop
  | nil : Paired R [] []
  | homeLeft {ops₁ ops₂} (home : HomeLocation) : Paired R ops₁ ops₂ → Paired R (.changeHome home :: ops₁) ops₂
  | homeRight {ops₁ ops₂} (home : HomeLocation) : Paired R ops₁ ops₂ → Paired R ops₁ (.changeHome home :: ops₂)
  | mark {ops₁ ops₂} (c : SensorClass) : Paired R ops₁ ops₂ → Paired R (.mark c :: ops₁) (.mark c :: ops₂)
  | markMask {ops₁ ops₂} (m : SensorMask) :
      Paired R ops₁ ops₂ → Paired R (.markMask m :: ops₁) (.markMask m :: ops₂)
  | start {ops₁ ops₂} (home₁ home₂ : Option HomeLocation) :
      Paired R ops₁ ops₂ → Paired R (.start home₁ :: ops₁) (.start home₂ :: ops₂)
  | applySettings {ops₁ ops₂} (settings : EstimationSettings) :
      Paired R ops₁ ops₂ → Paired R (.applySettings settings :: ops₁) (.applySettings settings :: ops₂)
  | environment {ops₁ ops₂} (f : ε₁ → ε₁) (g : ε₂ → ε₂) : (∀ e₁ e₂, R e₁ e₂ → R (f e₁) (g e₂)) →
      Paired R ops₁ ops₂ → Paired R (.environment f :: ops₁) (.environment g :: ops₂)
  | poll {ops₁ ops₂} : Paired R ops₁ ops₂ → Paired R (.poll :: ops₁) (.poll :: ops₂)

end Pairs

/-! ## The simulation -/

namespace Scheduler

variable {υ₁ υ₂ : Type} {s : Scheduler υ₁} {s' : Scheduler υ₂}

theorem isDue_congr (hd : s.deadline = s'.deadline) (now : Timestamp) : s.isDue now = s'.isDue now := by
  rw [isDue, isDue, hd]

theorem nextDeadline_congr (hd : s.deadline = s'.deadline) (ht : s.timeout = s'.timeout) (now finish : Timestamp) :
    (s.enter now).nextDeadline finish = (s'.enter now).nextDeadline finish := by
  have he : (s.enter now).deadline = (s'.enter now).deadline := by
    rw [enter, enter, isDue_congr hd, hd]
  have hte : (s.enter now).timeout = (s'.enter now).timeout := ht
  rw [nextDeadline, nextDeadline, deadlineFrom, deadlineFrom, he, hte]

end Scheduler

theorem SchedulerStats.record_congr {s s' : SchedulerStats} {r r' : RunReport} (ht : r.trigger = r'.trigger)
    (ha : r.alarm = r'.alarm) (h₁ : s.runs = s'.runs) (h₂ : s.sensorRuns = s'.sensorRuns)
    (h₃ : s.timeoutRuns = s'.timeoutRuns) (h₄ : s.staleRuns = s'.staleRuns) :
    (s.record r).runs = (s'.record r').runs ∧ (s.record r).sensorRuns = (s'.record r').sensorRuns ∧
      (s.record r).timeoutRuns = (s'.record r').timeoutRuns ∧ (s.record r).staleRuns = (s'.record r').staleRuns := by
  simp only [record]
  rw [ht, ha, h₁, h₂, h₃, h₄]
  exact ⟨rfl, rfl, rfl, rfl⟩

namespace Estimator

variable {ε₁ ε₂ υ₁ υ₂ : Type} {R : ε₁ → ε₂ → Prop} {Q₁ : υ₁ → Prop} {Q₂ : υ₂ → Prop}

structure Agree (R : ε₁ → ε₂ → Prop) (Q₁ : υ₁ → Prop) (Q₂ : υ₂ → Prop) (x : Estimator ε₁ υ₁)
    (y : Estimator ε₂ υ₂) : Prop where
  env : R x.env y.env
  schedule : x.schedule = y.schedule
  quiet₁ : ∀ u ∈ x.scheduler.chain.units, Q₁ u
  quiet₂ : ∀ u ∈ y.scheduler.chain.units, Q₂ u

theorem agree_arrive {x : Estimator ε₁ υ₁} {y : Estimator ε₂ υ₂} (h : Agree R Q₁ Q₂ x y) (ms : List SensorMask) :
    Agree R Q₁ Q₂ (x.arrive ms) (y.arrive ms) := by
  have hsch := h.schedule
  simp only [schedule, Schedule.mk.injEq] at hsch
  exact ⟨h.env, by simp only [schedule, arrive, hsch], h.quiet₁, h.quiet₂⟩

variable [Environment ε₁] [Environment ε₂] [FilterUnit υ₁] [FilterUnit υ₂]

/-- Runs made now see the same arrivals and end at the same time. -/
theorem agree_midRun (hR : Alike R) (h₁ : Quiet Q₁) (h₂ : Quiet Q₂) {x : Estimator ε₁ υ₁} {y : Estimator ε₂ υ₂}
    (h : Agree R Q₁ Q₂ x y) : x.midRun = y.midRun ∧ R x.gated.after y.gated.after := by
  have ht : x.tracker = y.tracker := congrArg Schedule.tracker h.schedule
  obtain ⟨ha, he⟩ := hR.sweep (x.tracker.pending.inter .sensors).classes (hR.tick h.env)
  have hx : x.passed.arrivals = [] := (h₁.updatePass h.quiet₁ _).1
  have hy : y.passed.arrivals = [] := (h₂.updatePass h.quiet₂ _).1
  rw [midRun, midRun, hx, hy, x.gated_sweep.1, x.gated_sweep.2, y.gated_sweep.1, y.gated_sweep.2,
    ← ht, ha]
  exact ⟨rfl, he⟩

/-- What a run shows depends on the schedule, the time and the arrivals alone. -/
theorem ran_schedule {x : Estimator ε₁ υ₁} {y : Estimator ε₂ υ₂} (h : x.schedule = y.schedule)
    (hc : Environment.clock x.env = Environment.clock y.env) (hm : x.midRun = y.midRun) (he : x.runEnd = y.runEnd)
    (t : Trigger) : (x.ran t).1.timing = (y.ran t).1.timing ∧ (x.ran t).2.schedule = (y.ran t).2.schedule := by
  simp only [schedule, Schedule.mk.injEq] at h
  obtain ⟨ht, -, hd, hto, ha, h1, h2, h3, h4⟩ := h
  have hn : (x.ran t).1.nextDeadline = (y.ran t).1.nextDeadline := by
    rw [ran_nextDeadline, ran_nextDeadline, hc, he]
    exact Scheduler.nextDeadline_congr hd hto _ _
  have hl : (x.ran t).1.alarm = (y.ran t).1.alarm := by rw [ran_alarm, ran_alarm, ht]
  have htr : (x.ran t).1.trigger = (y.ran t).1.trigger := rfl
  obtain ⟨g1, g2, g3, g4⟩ := SchedulerStats.record_congr htr hl h1 h2 h3 h4
  constructor
  · simp only [RunReport.timing, ran_trigger, ran_startedAt, ran_consumed, hc, ht, hl, hn]
  · simp only [schedule, ran_tracker, ran_state, ran_deadline, ran_timeout, ran_liveness, ran_stats, hm, hn, hl, ht, hto,
      ha, g1, g2, g3, g4]

theorem agree_poll (hR : Alike R) (h₁ : Quiet Q₁) (h₂ : Quiet Q₂) {x : Estimator ε₁ υ₁} {y : Estimator ε₂ υ₂}
    (h : Agree R Q₁ Q₂ x y) :
    x.poll.1.map RunReport.timing = y.poll.1.map RunReport.timing ∧ Agree R Q₁ Q₂ x.poll.2 y.poll.2 := by
  have ht : x.tracker = y.tracker := congrArg Schedule.tracker h.schedule
  have hs : x.scheduler.state = y.scheduler.state := congrArg Schedule.state h.schedule
  have hd : x.scheduler.deadline = y.scheduler.deadline := congrArg Schedule.deadline h.schedule
  have hc := hR.clock h.env
  have htr : x.trigger? = y.trigger? := by
    rw [trigger?, trigger?, Scheduler.trigger?, Scheduler.trigger?, Scheduler.isDue_congr hd, ht, hc]
  -- the same state and the same trigger: both polls take the same branch
  rcases x.poll_cases with ⟨hn, hx⟩ | ⟨ha, hw, hx⟩ | ⟨t, ha, hw, hx⟩
  · have hy : y.poll = (none, y) := by
      rcases y.poll_cases with ⟨_, hy⟩ | ⟨ha, _⟩ | ⟨t, ha, _⟩
      · exact hy
      · exact absurd (hs.trans ha) hn
      · exact absurd (hs.trans ha) hn
    rw [hx, hy]
    exact ⟨rfl, h⟩
  · have hy : y.poll = (none, y.waited) := poll_of_no_trigger (hs ▸ ha) (htr ▸ hw)
    rw [hx, hy]
    have hsch := h.schedule
    simp only [schedule, Schedule.mk.injEq] at hsch
    exact ⟨rfl, hR.tick h.env, by simp only [schedule, waited, hsch], h.quiet₁, h.quiet₂⟩
  · have hy := poll_of_trigger (hs ▸ ha) (htr ▸ hw)
    obtain ⟨hm, he⟩ := agree_midRun hR h₁ h₂ h
    obtain ⟨htim, hsch⟩ := ran_schedule h.schedule hc hm (hR.clock he) t
    rw [hx, hy]
    exact ⟨congrArg some htim, hR.tick he, hsch, (h₁.updatePass h.quiet₁ _).2, (h₂.updatePass h.quiet₂ _).2⟩

theorem agree_start (hR : Alike R) (h₁ : Quiet Q₁) (h₂ : Quiet Q₂) {x : Estimator ε₁ υ₁} {y : Estimator ε₂ υ₂}
    (h : Agree R Q₁ Q₂ x y) (home₁ home₂ : Option HomeLocation) :
    Agree R Q₁ Q₂ (x.start home₁).2 (y.start home₂).2 := by
  have hsch := h.schedule
  simp only [schedule, Schedule.mk.injEq] at hsch
  obtain ⟨ht, hs, hd, hto, ha, hst⟩ := hsch
  rcases x.start_cases home₁ with ⟨hi, l, hx⟩ | ⟨hn, e, hx⟩
  · rcases y.start_cases home₂ with ⟨_, m, hy⟩ | ⟨hn, _⟩
    · rw [hx, hy]
      refine ⟨hR.tick h.env, ?_, h₁.startPass h.quiet₁, h₂.startPass h.quiet₂⟩
      simp only [schedule, Scheduler.deadlineFrom, hR.clock h.env, ht, hto, ha, hst]
    · exact absurd (hs.symm.trans hi) hn
  · rcases y.start_cases home₂ with ⟨hi, _⟩ | ⟨_, e', hy⟩
    · exact absurd (hs.trans hi) hn
    · rw [hx, hy]
      exact h

theorem agree_applySettings {x : Estimator ε₁ υ₁} {y : Estimator ε₂ υ₂} (h : Agree R Q₁ Q₂ x y)
    (settings : EstimationSettings) :
    Agree R Q₁ Q₂ (x.step (.applySettings settings)).2 (y.step (.applySettings settings)).2 := by
  have hsch := h.schedule
  simp only [schedule, Schedule.mk.injEq] at hsch
  rcases x.scheduler.applySettings_cases settings with ⟨hv, hx⟩ | ⟨e, hv, hx⟩
  · rcases y.scheduler.applySettings_cases settings with ⟨_, hy⟩ | ⟨e, hv', _⟩
    · simp only [step, hx, hy]
      exact ⟨h.env, by simp only [schedule, hsch], h.quiet₁, h.quiet₂⟩
    · rw [hv] at hv'
      cases hv'
  · rcases y.scheduler.applySettings_cases settings with ⟨hv', _⟩ | ⟨e', _, hy⟩
    · rw [hv] at hv'
      cases hv'
    · simp only [step, hx, hy]
      exact h

theorem sight_cons {x : Estimator ε₁ υ₁} {y : Estimator ε₂ υ₂} {op₁ : Op ε₁} {op₂ : Op ε₂} {ops₁ : List (Op ε₁)}
    {ops₂ : List (Op ε₂)} (h : sight (x.step op₁) = sight (y.step op₂))
    (ht : ((x.step op₁).2.trail ops₁).filterMap sight = ((y.step op₂).2.trail ops₂).filterMap sight) :
    (x.trail (op₁ :: ops₁)).filterMap sight = (y.trail (op₂ :: ops₂)).filterMap sight := by
  rw [trail, trail, List.filterMap_cons, List.filterMap_cons, h, ht]

theorem agree_exec (hR : Alike R) (h₁ : Quiet Q₁) (h₂ : Quiet Q₂) {ops₁ : List (Op ε₁)} {ops₂ : List (Op ε₂)}
    (hp : Paired R ops₁ ops₂) {x : Estimator ε₁ υ₁} {y : Estimator ε₂ υ₂} (h : Agree R Q₁ Q₂ x y) :
    (x.trail ops₁).filterMap sight = (y.trail ops₂).filterMap sight ∧
      Agree R Q₁ Q₂ (x.exec ops₁).2 (y.exec ops₂).2 := by
  -- a step that keeps `Agree` and answers alike
  have shown : ∀ {a b : Answer} {x' : Estimator ε₁ υ₁} {y' : Estimator ε₂ υ₂}, Agree R Q₁ Q₂ x' y' →
      a.timing? = b.timing? → some (a.timing?, x'.schedule) = some (b.timing?, y'.schedule) :=
    fun h' hab => by rw [hab, h'.schedule]
  induction hp generalizing x y with
  | nil => exact ⟨rfl, h⟩
  | homeLeft home _ ih => exact ih (x := (x.step (.changeHome home)).2) ⟨h.env, h.schedule, h.quiet₁, h.quiet₂⟩
  | homeRight home _ ih => exact ih (y := (y.step (.changeHome home)).2) ⟨h.env, h.schedule, h.quiet₁, h.quiet₂⟩
  | mark c _ ih =>
    have h' := agree_arrive h [c.bit]
    obtain ⟨ht, ha⟩ := ih h'
    exact ⟨sight_cons (shown h' rfl) ht, ha⟩
  | markMask m _ ih =>
    have h' := agree_arrive h [m]
    obtain ⟨ht, ha⟩ := ih h'
    exact ⟨sight_cons (shown h' rfl) ht, ha⟩
  | start home₁ home₂ _ ih =>
    have h' := agree_start hR h₁ h₂ h home₁ home₂
    obtain ⟨ht, ha⟩ := ih h'
    exact ⟨sight_cons (shown h' rfl) ht, ha⟩
  | applySettings settings _ ih =>
    have h' := agree_applySettings h settings
    obtain ⟨ht, ha⟩ := ih h'
    exact ⟨sight_cons (shown h' rfl) ht, ha⟩
  | environment f g hfg _ ih =>
    have h' : Agree R Q₁ Q₂ { x with env := f x.env } { y with env := g y.env } :=
      ⟨hfg _ _ h.env, h.schedule, h.quiet₁, h.quiet₂⟩
    obtain ⟨ht, ha⟩ := ih h'
    exact ⟨sight_cons (shown h' rfl) ht, ha⟩
  | poll _ ih =>
    obtain ⟨htim, h'⟩ := agree_poll hR h₁ h₂ h
    obtain ⟨ht, ha⟩ := ih h'
    exact ⟨sight_cons (shown h' (congrArg some htim)) ht, ha⟩

/-- Filter units, sample values, null-fix tolerances and home locations cannot disturb
    scheduling. Two estimators are set up with the same tracker, clock and timeout, and with
    chains, gates, samples and homes of their own; looks at the clock and reads of a class
    do the same to clock and tracker in both (`Alike`), units do nothing to them (`Quiet`).
    Then paired executions show the same after every step: whether a poll waits, each run's
    trigger, start, consumed classes, level and next deadline, and the schedule. -/
theorem scheduling_isolated (hR : Alike R) (h₁ : Quiet Q₁) (h₂ : Quiet Q₂) (tracker : UpdateTracker)
    (env₁ : ε₁) (env₂ : ε₂) (he : R env₁ env₂) (chain₁ : FilterChain υ₁) (chain₂ : FilterChain υ₂)
    (hc₁ : ∀ u ∈ chain₁.units, Q₁ u) (hc₂ : ∀ u ∈ chain₂.units, Q₂ u) (gate₁ gate₂ : SanityGate)
    (settings₁ settings₂ : EstimationSettings)
    (ht : Scheduler.clampTimeout settings₁.timeout = Scheduler.clampTimeout settings₂.timeout)
    (ops₁ : List (Op ε₁)) (ops₂ : List (Op ε₂)) (hp : Paired R ops₁ ops₂) :
    let x := { setUp env₁ chain₁ gate₁ settings₁ with tracker }
    let y := { setUp env₂ chain₂ gate₂ settings₂ with tracker }
    (x.trail ops₁).filterMap sight = (y.trail ops₂).filterMap sight ∧
      (x.exec ops₁).2.schedule = (y.exec ops₂).2.schedule := by
  intro x y
  have hsch : x.schedule = y.schedule := by
    simp only [x, y, schedule, setUp, withGate, new, Scheduler.new, ht]
  obtain ⟨hs, ha⟩ := agree_exec hR h₁ h₂ hp ⟨he, hsch, hc₁, hc₂⟩
  exact ⟨hs, ha.schedule⟩

/-! ## Simulated worlds that differ in their samples -/

open Simulation

def SameTiming (w₁ w₂ : World) : Prop :=
  w₁.clock = w₂.clock ∧ w₁.bus.readTime = w₂.bus.readTime ∧ w₁.bus.readArrivals = w₂.bus.readArrivals

theorem alike_sameTiming : Alike SameTiming where
  clock h := congrArg Clock.now h.1
  tick h := h
  arrivals _ h := congrArg (fun m => [m]) h.2.2
  read {w₁ w₂} c h := by
    obtain ⟨hc, ht, ha⟩ := h
    refine ⟨?_, ht, ha⟩
    show w₁.clockAfterRead = w₂.clockAfterRead
    rw [World.clockAfterRead, World.clockAfterRead, hc, ht]

theorem act_arrivals (n : Nat) (ready : Bool) (as : List Action) (s : Snapshot) (h : ∀ m, Action.arrive m ∉ as) :
    (ScriptedUnit.act n ready as s).arrivals = [] := by
  induction as generalizing s with
  | nil => rfl
  | cons a as ih =>
    have ih := fun s => ih s fun m hm => h m (List.mem_cons_of_mem _ hm)
    cases a with
    | arrive m => exact absurd (List.mem_cons_self ..) (h m)
    | require _ | needStart | failOn _ _ =>
      simp only [ScriptedUnit.act]
      split
      · first | exact ih _ | rfl
      · first | exact ih _ | rfl
    | fail _ => rfl
    | _ => exact ih _

theorem quiet_scripted : Quiet fun u : ScriptedUnit => ∀ m, Action.arrive m ∉ u.script where
  arrivals _ _ h := act_arrivals _ _ _ _ h
  update _ _ h := h
  start _ h := h

/-- An empty chain over a silent bus, and a failing unit that clears the snapshot, over a
    bus with a broken gyroscope and a home of its own: reads take 3 ms and a sample of the
    barometer arrives during each. -/
theorem scheduling_isolated_from_failures :
    let silent : World := ⟨{ Bus.silent with readTime := 3, readArrivals := SensorClass.baro.bit }, .manual 0, #[]⟩
    let noisy : World := { silent with bus := { silent.bus with gyro := ⟨0 / 0, 1, 2⟩, baro := 1000 } }
    let failing := ScriptedUnit.new "failing" none none [.assign (.updated .empty), .fail .missingInput]
    let home : HomeLocation := ⟨47, 8, 500, .zero, true⟩
    let later : Op World := .environment fun w => { w with clock := w.clock.advance 100 }
    let x := setUp silent (.ofUnits ([] : List ScriptedUnit) (by decide)) .default .default
    let y := setUp noisy (.ofUnits [failing] (by decide)) (.withTolerance 5) .default
    let ops₁ := [.start none, .mark .gyro, .poll, later, .poll]
    let ops₂ := [.start (some home), .mark .gyro, .changeHome home, .poll, later, .poll]
    SameTiming silent noisy ∧ Paired SameTiming ops₁ ops₂ ∧
      (x.trail ops₁).filterMap sight = (y.trail ops₂).filterMap sight ∧
      (x.exec ops₁).2.schedule = (y.exec ops₂).2.schedule := by
  intro silent noisy failing home later x y ops₁ ops₂
  have he : SameTiming silent noisy := ⟨rfl, rfl, rfl⟩
  have hl : ∀ w₁ w₂ : World, SameTiming w₁ w₂ →
      SameTiming { w₁ with clock := w₁.clock.advance 100 } { w₂ with clock := w₂.clock.advance 100 } :=
    fun _ _ h => ⟨congrArg (Clock.advance · 100) h.1, h.2⟩
  have hp : Paired SameTiming ops₁ ops₂ :=
    .start _ _ (.mark _ (.homeRight _ (.poll (.environment _ _ hl (.poll .nil)))))
  have hu : ∀ u ∈ [failing], ∀ m, Action.arrive m ∉ u.script := by simp [failing, ScriptedUnit.new]
  exact ⟨he, hp, scheduling_isolated alike_sameTiming quiet_scripted quiet_scripted .empty silent noisy he _ _
    (fun _ h => by cases h) hu _ _ .default .default rfl ops₁ ops₂ hp⟩

end Estimator

end SensorFusion
