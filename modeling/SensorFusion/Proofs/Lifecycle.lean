/-
  SensorFusion.Proofs.Lifecycle — the states between operations: idle without a deadline
  until started, armed with one from then on, and always with an acceptable timeout. Only
  runs publish, and only runs count; until the start there are none, and no unit is called.
-/

import SensorFusion.Proofs.Poll

namespace SensorFusion.Estimator

variable {ε υ : Type}

def Settled (x : Estimator ε υ) : Prop :=
  (x.scheduler.state = .idle ∧ x.scheduler.deadline = none) ∨
    (x.scheduler.state = .armed ∧ ∃ d, x.scheduler.deadline = some d)

theorem setUp_settled (env : ε) (chain : FilterChain υ) (gate : SanityGate) (settings : EstimationSettings) :
    Settled (setUp env chain gate settings) := Or.inl ⟨rfl, rfl⟩

theorem Settled.deadline_of_armed {x : Estimator ε υ} (h : Settled x) (ha : x.scheduler.state = .armed) :
    ∃ d, x.scheduler.deadline = some d := by
  rcases h with ⟨hi, _⟩ | ⟨_, hd⟩
  · rw [hi] at ha
    cases ha
  · exact hd

variable [Environment ε] [FilterUnit υ]

/-- Only the first start and a run change the state or the deadline. -/
theorem step_cases (x : Estimator ε υ) (op : Op ε) :
    ((x.step op).2.scheduler.state = x.scheduler.state ∧
      (x.step op).2.scheduler.deadline = x.scheduler.deadline) ∨
    (x.scheduler.state = .idle ∧ (x.step op).2.scheduler.state = .armed ∧
      (x.step op).2.scheduler.deadline = some (x.scheduler.deadlineFrom (Environment.clock x.env))) ∨
    ∃ t, op = .poll ∧ x.scheduler.state = .armed ∧ x.trigger? = some t ∧
      x.step op = (.polled (some (x.ran t).1), (x.ran t).2) := by
  cases op with
  | start home =>
    rcases x.start_cases home with ⟨hi, l, hs⟩ | ⟨_, e, hs⟩
    · refine Or.inr (Or.inl ⟨hi, ?_⟩)
      simp only [step, hs, and_self]
    · exact Or.inl (by simp only [step, hs, and_self])
  | applySettings settings =>
    rcases x.scheduler.applySettings_cases settings with ⟨_, hs⟩ | ⟨e, _, hs⟩ <;>
      exact Or.inl (by simp only [step, hs, and_self])
  | poll =>
    rcases x.poll_cases with ⟨_, hp⟩ | ⟨_, _, hp⟩ | ⟨t, ha, ht, hp⟩
    · exact Or.inl (by simp only [step, hp, and_self])
    · exact Or.inl (by simp only [step, hp, waited, and_self])
    · exact Or.inr (Or.inr ⟨t, rfl, ha, ht, by simp only [step, hp]⟩)
  | _ => exact Or.inl ⟨rfl, rfl⟩

theorem step_armed (x : Estimator ε υ) (op : Op ε) (h : x.scheduler.state = .armed) :
    (x.step op).2.scheduler.state = .armed := by
  rcases x.step_cases op with ⟨hs, _⟩ | ⟨_, hs, _⟩ | ⟨t, _, _, _, hp⟩
  · exact hs.trans h
  · exact hs
  · rw [hp]
    rfl

theorem step_settled (x : Estimator ε υ) (op : Op ε) (h : Settled x) : Settled (x.step op).2 := by
  rcases x.step_cases op with ⟨hs, hd⟩ | ⟨_, hs, hd⟩ | ⟨t, _, _, _, hp⟩
  · rw [Settled, hs, hd]
    exact h
  · exact Or.inr ⟨hs, _, hd⟩
  · rw [hp]
    exact Or.inr ⟨rfl, _, rfl⟩

theorem exec_settled {x : Estimator ε υ} (h : Settled x) (ops : List (Op ε)) : Settled (x.exec ops).2 :=
  exec_invariant step_settled h ops

/-! ## The start -/

structure Untouched (chain : FilterChain υ) (x : Estimator ε υ) : Prop where
  state : x.scheduler.state = .idle
  deadline : x.scheduler.deadline = none
  chain : x.scheduler.chain = chain
  stats : x.scheduler.stats = .zero
  published : x.published = #[]

def Starts (x : Estimator ε υ) (op : SharedOp ε) : Prop :=
  ∃ home report, op = .own (.start home) ∧ (x.start home).1 = .ok report

def StartSucceeds (x : Estimator ε υ) (ops : List (SharedOp ε)) : Prop :=
  ∃ before op after, ops = before ++ op :: after ∧ Starts (x.execShared before).2 op

omit [Environment ε] [FilterUnit υ] in
theorem setUp_untouched (env : ε) (chain : FilterChain υ) (gate : SanityGate) (settings : EstimationSettings) :
    Untouched chain (setUp env chain gate settings) := ⟨rfl, rfl, rfl, rfl, rfl⟩

theorem startSucceeds_cons {x : Estimator ε υ} {op : SharedOp ε} {ops : List (SharedOp ε)} :
    StartSucceeds x (op :: ops) ↔ Starts x op ∨ StartSucceeds (x.stepShared op).2 ops := by
  constructor
  · rintro ⟨before, op', after, he, hs⟩
    cases before with
    | nil =>
      obtain ⟨rfl, rfl⟩ := List.cons.inj he
      exact Or.inl hs
    | cons op'' before =>
      obtain ⟨rfl, rfl⟩ := List.cons.inj he
      exact Or.inr ⟨before, op', after, rfl, hs⟩
  · rintro (hs | ⟨before, op', after, rfl, hs⟩)
    · exact ⟨[], op, ops, rfl, hs⟩
    · exact ⟨op :: before, op', after, rfl, hs⟩

/-- Only a start touches an estimator that is not started, and it succeeds. -/
theorem step_untouched {chain : FilterChain υ} (x : Estimator ε υ) (op : Op ε) (h : Untouched chain x) :
    (¬ Starts x (.own op) ∧ Untouched chain (x.step op).2) ∨
      (Starts x (.own op) ∧ (x.step op).2.scheduler.state = .armed) := by
  cases op with
  | start home =>
    rcases x.start_cases home with ⟨_, l, hs⟩ | ⟨hn, _⟩
    · exact Or.inr ⟨⟨home, _, rfl, congrArg Prod.fst hs⟩, by simp only [step, hs]⟩
    · exact absurd h.state hn
  | applySettings settings =>
    refine Or.inl ⟨fun ⟨_, _, he, _⟩ => (by cases he), ?_⟩
    rcases x.scheduler.applySettings_cases settings with ⟨_, hs⟩ | ⟨e, _, hs⟩ <;> simp only [step, hs] <;>
      exact ⟨h.state, h.deadline, h.chain, h.stats, h.published⟩
  | poll =>
    have hn : x.scheduler.state ≠ .armed := by
      rw [h.state]
      decide
    refine Or.inl ⟨fun ⟨_, _, he, _⟩ => (by cases he), ?_⟩
    rcases x.poll_cases with ⟨_, hp⟩ | ⟨ha, _⟩ | ⟨_, ha, _⟩
    · simp only [step, hp]
      exact h
    · exact absurd ha hn
    · exact absurd ha hn
  | _ => exact Or.inl ⟨fun ⟨_, _, he, _⟩ => (by cases he), h.state, h.deadline, h.chain, h.stats, h.published⟩

theorem stepShared_untouched {chain : FilterChain υ} (x : Estimator ε υ) (op : SharedOp ε) (h : Untouched chain x) :
    (¬ Starts x op ∧ Untouched chain (x.stepShared op).2) ∨
      (Starts x op ∧ (x.stepShared op).2.scheduler.state = .armed) := by
  rcases x.stepShared_cases op with ⟨own, rfl, _⟩ | ⟨hno, tracker, hs⟩
  · exact step_untouched x own h
  · rw [hs]
    exact Or.inl ⟨fun ⟨home, _, he, _⟩ => hno _ he, h.state, h.deadline, h.chain, h.stats, h.published⟩

/-- An estimator is untouched until a start succeeds, and armed from then on. -/
theorem execShared_started {chain : FilterChain υ} {x : Estimator ε υ} (h : Untouched chain x)
    (ops : List (SharedOp ε)) :
    (¬ StartSucceeds x ops ∧ Untouched chain (x.execShared ops).2) ∨
      (StartSucceeds x ops ∧ (x.execShared ops).2.scheduler.state = .armed) := by
  induction ops generalizing x with
  | nil => exact Or.inl ⟨fun ⟨_, _, _, he, _⟩ => by simp at he, h⟩
  | cons op ops ih =>
    rw [startSucceeds_cons, execShared_cons]
    rcases stepShared_untouched x op h with ⟨hno, hx⟩ | ⟨hs, ha⟩
    · rw [or_iff_right hno]
      exact ih hx
    · exact Or.inr ⟨Or.inl hs, execShared_invariant step_armed (fun _ _ hy => hy) ha ops⟩

/-! ## The timeout -/

def TimeoutInRange (x : Estimator ε υ) : Prop := EstimationSettings.timeoutInRange x.scheduler.timeout = true

omit [Environment ε] [FilterUnit υ] in
theorem setUp_timeoutInRange (env : ε) (chain : FilterChain υ) (gate : SanityGate) (settings : EstimationSettings) :
    TimeoutInRange (setUp env chain gate settings) := Scheduler.timeoutInRange_clampTimeout settings.timeout

theorem step_timeoutInRange (x : Estimator ε υ) (op : Op ε) (h : TimeoutInRange x) : TimeoutInRange (x.step op).2 := by
  cases op with
  | start home =>
    rcases x.start_cases home with ⟨_, l, hs⟩ | ⟨_, e, hs⟩ <;> simp only [step, hs] <;> exact h
  | applySettings settings =>
    rcases x.scheduler.applySettings_cases settings with ⟨hv, hs⟩ | ⟨e, _, hs⟩ <;> simp only [step, hs]
    · exact EstimationSettings.timeoutInRange_of_validate hv
    · exact h
  | poll =>
    rcases x.poll_cases with ⟨_, hp⟩ | ⟨_, _, hp⟩ | ⟨t, _, _, hp⟩ <;> simp only [step, hp] <;> exact h
  | _ => exact h

theorem exec_timeoutInRange {x : Estimator ε υ} (h : TimeoutInRange x) (ops : List (Op ε)) :
    TimeoutInRange (x.exec ops).2 := exec_invariant step_timeoutInRange h ops

theorem execShared_timeoutInRange {x : Estimator ε υ} (h : TimeoutInRange x) (ops : List (SharedOp ε)) :
    TimeoutInRange (x.execShared ops).2 := execShared_invariant step_timeoutInRange (fun _ _ h => h) h ops

/-! ## Steps without a run -/

structure SameRecord (x y : Estimator ε υ) : Prop where
  published : y.published = x.published
  alarm : y.scheduler.alarm = x.scheduler.alarm
  stats : y.scheduler.stats = x.scheduler.stats
  runs : y.scheduler.chain.metrics.runs = x.scheduler.chain.metrics.runs
  failures : y.scheduler.chain.metrics.failures = x.scheduler.chain.metrics.failures

/-- A step makes a run, or leaves the record as it is. -/
theorem step_run_cases (x : Estimator ε υ) (op : Op ε) :
    ((x.step op).1.run? = none ∧ SameRecord x (x.step op).2) ∨
      ∃ t, op = .poll ∧ x.trigger? = some t ∧ x.poll = (some (x.ran t).1, (x.ran t).2) := by
  cases op with
  | start home =>
    rcases x.start_cases home with ⟨_, l, hs⟩ | ⟨_, e, hs⟩ <;> simp only [step, hs] <;>
      exact Or.inl ⟨rfl, rfl, rfl, rfl, rfl, rfl⟩
  | applySettings settings =>
    rcases x.scheduler.applySettings_cases settings with ⟨_, hs⟩ | ⟨e, _, hs⟩ <;> simp only [step, hs] <;>
      exact Or.inl ⟨rfl, rfl, rfl, rfl, rfl, rfl⟩
  | poll =>
    rcases x.poll_cases with ⟨_, hp⟩ | ⟨_, _, hp⟩ | ⟨t, _, ht, hp⟩
    · exact Or.inl (by simp only [step, hp]; exact ⟨rfl, rfl, rfl, rfl, rfl, rfl⟩)
    · exact Or.inl (by simp only [step, hp]; exact ⟨rfl, rfl, rfl, rfl, rfl, rfl⟩)
    · exact Or.inr ⟨t, rfl, ht, hp⟩
  | _ => exact Or.inl ⟨rfl, rfl, rfl, rfl, rfl, rfl⟩

theorem stepShared_run_cases (x : Estimator ε υ) (op : SharedOp ε) :
    ((x.stepShared op).1 = none ∧ SameRecord x (x.stepShared op).2) ∨
      ∃ t, op = .own .poll ∧ x.trigger? = some t ∧ x.stepShared op = (some (x.ran t).1, (x.ran t).2) := by
  rcases x.stepShared_cases op with ⟨own, rfl, hs⟩ | ⟨_, tracker, hs⟩ <;> rw [hs]
  · rcases x.step_run_cases own with ⟨hn, hsame⟩ | ⟨t, rfl, ht, hp⟩
    · exact Or.inl ⟨hn, hsame⟩
    · exact Or.inr ⟨t, rfl, ht, by simp only [step, hp, Answer.run?]⟩
  · exact Or.inl ⟨rfl, rfl, rfl, rfl, rfl, rfl⟩

end SensorFusion.Estimator
