/-
  SensorFusion.Proofs.Spacing — runs due to the deadline cannot storm.

  Such a run spends its deadline and arms the next one, a timeout after its end. Until that
  one has passed, runs for samples may keep it, bring it forward to a timeout after their
  own end, or spend it late and arm another; none of them arms anything sooner than the
  start of the first run plus the smallest timeout used since (`NotBefore`). Sums stop at
  the largest timestamp, so the clock must stay clear of it by the longest timeout.

  Proved (`timeout_runs_spaced`): two runs due to the deadline start at least the smallest
  timeout apart that any run used from the first of them on to the second.
-/

import SensorFusion.Proofs.Deadline
import SensorFusion.Simulation.Unit

namespace SensorFusion

/-- The next deadline is no sooner than both the armed one and the timeout from now. -/
theorem Scheduler.le_nextDeadline {υ : Type} {s : Scheduler υ} {now : Timestamp} {b : Nat}
    (hfrom : b ≤ (s.deadlineFrom now).toNat) (harmed : ∀ d, s.deadline = some d → b ≤ d.toNat) :
    b ≤ (s.nextDeadline now).toNat := by
  cases hd : s.deadline with
  | none =>
    rw [nextDeadline_of_none hd]
    exact hfrom
  | some d =>
    by_cases hle : d ≤ s.deadlineFrom now
    · rw [nextDeadline_of_armed_le hd hle]
      exact harmed d hd
    · rw [nextDeadline_of_lt_armed hd (UInt64.not_le.mp hle)]
      exact hfrom

/-- When the runs due to the deadline started. -/
def timeoutStarts (reports : List RunReport) : List Timestamp :=
  (reports.filter fun r => r.trigger = .timeout).map RunReport.startedAt

theorem timeoutStarts_cons (r : RunReport) (rs : List RunReport) :
    timeoutStarts (r :: rs) = if r.trigger = .timeout then r.startedAt :: timeoutStarts rs else timeoutStarts rs := by
  by_cases h : r.trigger = .timeout <;> simp [timeoutStarts, h]

/-- A window shorter than the gaps between some times has one of them at most. -/
theorem countP_window_le_one {m : Nat} {starts : List Timestamp}
    (hgap : starts.Pairwise fun s s' => s.toNat + m ≤ s'.toNat) {a b : Timestamp} (hlen : b.toNat < a.toNat + m) :
    starts.countP (fun s => a ≤ s ∧ s ≤ b) ≤ 1 := by
  rw [List.countP_eq_length_filter]
  have hin : ∀ s ∈ starts.filter fun s => a ≤ s ∧ s ≤ b, a.toNat ≤ s.toNat ∧ s.toNat ≤ b.toNat := by
    intro s hs
    simpa [UInt64.le_iff_toNat_le] using (List.mem_filter.mp hs).2
  cases hw : starts.filter fun s => a ≤ s ∧ s ≤ b with
  | nil => exact Nat.zero_le _
  | cons s rest =>
    cases rest with
    | nil => exact Nat.le_refl _
    | cons s' rest =>
      rw [hw] at hin
      have hss := (List.pairwise_cons.mp (hw ▸ hgap.filter _)).1 s' (List.mem_cons_self ..)
      have hs := hin s (List.mem_cons_self ..)
      have hs' := hin s' (List.mem_cons_of_mem _ (List.mem_cons_self ..))
      omega

namespace Estimator

variable {ε υ : Type} [Environment ε]

/-- Armed with a deadline not before `b`, and no more than `m` milliseconds short of `b`. -/
structure NotBefore (b m : Nat) (x : Estimator ε υ) : Prop where
  armed : x.scheduler.state = .armed
  deadline : ∃ d, x.scheduler.deadline = some d ∧ b ≤ d.toNat
  near : b ≤ (Environment.clock x.env).toNat + m

variable [FilterUnit υ]

/-- The timeout in effect when a step arms the next deadline, if it makes a run. -/
def rearm? (x : Estimator ε υ) (op : SharedOp ε) : Option UInt32 :=
  (x.stepShared op).1.map fun _ => x.scheduler.timeout

def rearms (x : Estimator ε υ) : List (SharedOp ε) → List UInt32
  | [] => []
  | op :: ops => (x.rearm? op).toList ++ (x.stepShared op).2.rearms ops

/-- A step that does not turn the clock back; if it makes a run, with a timeout of at least
    `m` and the clock that far from its limit. -/
structure Steady (m : Nat) (x : Estimator ε υ) (op : Op ε) : Prop where
  forward : Forward x op
  timeout : ∀ r, (x.step op).1.run? = some r → m ≤ x.scheduler.timeout.toNat
  room : ∀ r, (x.step op).1.run? = some r → x.runEnd.toNat + x.scheduler.timeout.toNat ≤ Timestamp.limit

/-! ## One run -/

theorem le_ran_nextDeadline {x : Estimator ε υ} {b : Nat}
    (hroom : x.runEnd.toNat + x.scheduler.timeout.toNat ≤ Timestamp.limit)
    (hfrom : b ≤ x.runEnd.toNat + x.scheduler.timeout.toNat)
    (harmed : ∀ d, x.scheduler.deadline = some d → Environment.clock x.env < d → b ≤ d.toNat) (t : Trigger) :
    b ≤ (x.ran t).1.nextDeadline.toNat := by
  refine Scheduler.le_nextDeadline ?_ fun d hd => ?_
  · show b ≤ (x.runEnd.later x.scheduler.timeout.toUInt64).toNat
    rw [Timestamp.toNat_later, UInt32.toNat_toUInt64]
    omega
  · -- only a deadline that lies ahead outlasts the entry
    cases ha : x.scheduler.deadline with
    | none => simp [Scheduler.enter, ha] at hd
    | some d' =>
      by_cases hnow : Environment.clock x.env < d'
      · rw [Scheduler.enter_deadline_of_ahead ha hnow] at hd
        cases hd
        exact harmed d ha hnow
      · rw [Scheduler.enter_deadline_of_due ha (UInt64.not_lt.mp hnow)] at hd
        cases hd

theorem step_notBefore {b m : Nat} (x : Estimator ε υ) (op : Op ε) (h : NotBefore b m x) (hq : Steady m x op) :
    NotBefore b m (x.step op).2 := by
  have hnow := UInt64.le_iff_toNat_le.mp hq.forward.1
  have hnear := h.near
  obtain ⟨d, hd, hle⟩ := h.deadline
  refine ⟨x.step_armed op h.armed, ?_, by omega⟩
  rcases x.step_cases op with ⟨_, hk⟩ | ⟨hi, _⟩ | ⟨t, rfl, _, _, hp⟩
  · exact ⟨d, hk.trans hd, hle⟩
  · rw [h.armed] at hi
    cases hi
  · have hr : (x.step .poll).1.run? = some (x.ran t).1 := by rw [hp]; rfl
    have hend := UInt64.le_iff_toNat_le.mp (hq.forward.2 _ hr).1
    have hm := hq.timeout _ hr
    rw [hp]
    refine ⟨_, ran_deadline x t, le_ran_nextDeadline (hq.room _ hr) (by omega) (fun d' hd' _ => ?_) t⟩
    rw [hd] at hd'
    cases hd'
    exact hle

/-- A run due to the deadline spends it, and arms none sooner than its start plus `m`. -/
theorem ran_notBefore {m : Nat} {x : Estimator ε υ} (ht : x.trigger? = some .timeout)
    (hp : x.poll = (some (x.ran .timeout).1, (x.ran .timeout).2)) (hq : Steady m x .poll) :
    NotBefore ((Environment.clock x.env).toNat + m) m (x.ran .timeout).2 := by
  have hr : (x.step .poll).1.run? = some (x.ran .timeout).1 := by simp only [step, hp, Answer.run?]
  have hend := UInt64.le_iff_toNat_le.mp (hq.forward.2 _ hr).1
  have hm := hq.timeout _ hr
  have hnow := UInt64.le_iff_toNat_le.mp hq.forward.1
  simp only [step, hp] at hnow
  refine ⟨rfl, ⟨_, ran_deadline x _, le_ran_nextDeadline (hq.room _ hr) (by omega) (fun d hd hahead => ?_) _⟩, by omega⟩
  -- the deadline has passed
  obtain ⟨d', hd', hle⟩ := due_of_timeout ht
  rw [hd] at hd'
  cases hd'
  exact absurd hahead (UInt64.not_lt.mpr hle)

omit [FilterUnit υ] in
/-- A run due to a deadline not before `b` starts at `b` or later. -/
theorem NotBefore.le_clock {b m : Nat} {x : Estimator ε υ} (h : NotBefore b m x) (ht : x.trigger? = some .timeout) :
    b ≤ (Environment.clock x.env).toNat := by
  obtain ⟨d, hd, hle⟩ := h.deadline
  obtain ⟨d', hd', hdue⟩ := due_of_timeout ht
  rw [hd] at hd'
  cases hd'
  exact Nat.le_trans hle (UInt64.le_iff_toNat_le.mp hdue)

/-! ## Executions -/

theorem timeoutStarts_execShared_cons (x : Estimator ε υ) (op : SharedOp ε) (ops : List (SharedOp ε)) :
    let rest := timeoutStarts ((x.stepShared op).2.execShared ops).1
    timeoutStarts (x.execShared (op :: ops)).1 = rest ∨
      (op = .own .poll ∧ x.trigger? = some .timeout ∧ x.poll = (some (x.ran .timeout).1, (x.ran .timeout).2) ∧
        timeoutStarts (x.execShared (op :: ops)).1 = Environment.clock x.env :: rest) := by
  rcases x.stepShared_run_cases op with ⟨hn, _⟩ | ⟨t, rfl, ht, hs⟩
  · rw [execShared_cons, hn]
    exact Or.inl rfl
  · rw [execShared_cons, hs, Option.toList_some, List.singleton_append, timeoutStarts_cons, ran_trigger]
    cases t with
    | timeout => exact Or.inr ⟨rfl, ht, hs, rfl⟩
    | _ => exact Or.inl rfl

/-- Each of the timeouts was in effect at some moment. -/
theorem mem_rearms {x : Estimator ε υ} {ops : List (SharedOp ε)} {T : UInt32} (h : T ∈ x.rearms ops) :
    ∃ before after, ops = before ++ after ∧ (x.execShared before).2.scheduler.timeout = T := by
  induction ops generalizing x with
  | nil => cases h
  | cons op ops ih =>
    rcases List.mem_append.mp h with h | h
    · obtain ⟨r, _, hr⟩ := Option.map_eq_some_iff.mp (Option.mem_toList.mp h)
      exact ⟨[], op :: ops, rfl, hr⟩
    · obtain ⟨before, after, rfl, hb⟩ := ih h
      exact ⟨op :: before, after, rfl, hb⟩

theorem clock_le_execShared {x : Estimator ε υ} {ops : List (SharedOp ε)} (hf : AlongShared Forward x ops) :
    Environment.clock x.env ≤ Environment.clock (x.execShared ops).2.env :=
  execShared_along (P := fun y => Environment.clock x.env ≤ Environment.clock y.env)
    (fun _ _ h hf => UInt64.le_trans h hf.1) (fun _ _ h => h) (UInt64.le_refl _) hf

theorem execShared_notBefore {b m : Nat} {x : Estimator ε υ} (h : NotBefore b m x) {ops : List (SharedOp ε)}
    (hq : AlongShared (Steady m) x ops) : NotBefore b m (x.execShared ops).2 :=
  execShared_along step_notBefore (fun _ _ h => ⟨h.armed, h.deadline, h.near⟩) h hq

/-- An execution is steady when its clock does not go back and has room at its end. -/
theorem alongShared_steady {m : Nat} {x : Estimator ε υ} {ops : List (SharedOp ε)} (hT : TimeoutInRange x)
    (hf : AlongShared Forward x ops)
    (hroom : (Environment.clock (x.execShared ops).2.env).toNat + maxTimeout.toNat ≤ Timestamp.limit)
    (hm : ∀ T ∈ x.rearms ops, m ≤ T.toNat) : AlongShared (Steady m) x ops := by
  induction ops generalizing x with
  | nil => trivial
  | cons op ops ih =>
    refine ⟨?_, ih ?_ hf.2 hroom fun T h => hm T (List.mem_append_right _ h)⟩
    · rintro own rfl
      have hforward := hf.1 own rfl
      refine ⟨hforward, fun r hr => hm _ (List.mem_append_left _ ?_), fun r hr => ?_⟩
      · rw [Option.mem_toList, rearm?]
        exact Option.map_eq_some_iff.mpr ⟨r, hr, rfl⟩
      · have hend := UInt64.le_iff_toNat_le.mp (UInt64.le_trans (hforward.2 r hr).2 (clock_le_execShared hf.2))
        have hmax := (EstimationSettings.timeoutInRange_iff.mp hT).2
        exact Nat.le_trans (Nat.add_le_add hend hmax) hroom
    · exact execShared_timeoutInRange hT [op]

theorem le_timeoutStarts {b m : Nat} {x : Estimator ε υ} (h : NotBefore b m x) {ops : List (SharedOp ε)}
    (hq : AlongShared (Steady m) x ops) : ∀ s ∈ timeoutStarts (x.execShared ops).1, b ≤ s.toNat := by
  induction ops generalizing x with
  | nil =>
    intro s hs
    cases hs
  | cons op ops ih =>
    have hone : AlongShared (Steady m) x [op] := ⟨hq.1, trivial⟩
    have hnext : NotBefore b m (x.stepShared op).2 := execShared_notBefore h hone
    rcases x.timeoutStarts_execShared_cons op ops with he | ⟨_, ht, _, he⟩ <;> rw [he]
    · exact ih hnext hq.2
    · exact List.forall_mem_cons.mpr ⟨h.le_clock ht, ih hnext hq.2⟩

theorem pairwise_timeoutStarts {m : Nat} {x : Estimator ε υ} {ops : List (SharedOp ε)}
    (hq : AlongShared (Steady m) x ops) :
    (timeoutStarts (x.execShared ops).1).Pairwise fun s s' => s.toNat + m ≤ s'.toNat := by
  induction ops generalizing x with
  | nil => exact List.Pairwise.nil
  | cons op ops ih =>
    rcases x.timeoutStarts_execShared_cons op ops with he | ⟨rfl, ht, hp, he⟩ <;> rw [he]
    · exact ih hq.2
    · have hafter : NotBefore ((Environment.clock x.env).toNat + m) m (x.stepShared (.own .poll)).2 := by
        simp only [stepShared, step, hp]
        exact ran_notBefore ht hp (hq.1 _ rfl)
      exact List.pairwise_cons.mpr ⟨le_timeoutStarts hafter hq.2, ih hq.2⟩

/-- Runs due to the deadline are spaced, in every execution from `setUp` whose clock never
    goes back and stays clear of its limit by the longest timeout, also when others consume
    from the tracker.
    (1) Of two such runs, `r` and then `w`, the second starts at least the smallest timeout
        later that was in effect when the runs from the first up to the second, this one
        left out, armed the next deadline.
    (2) Their starts strictly increase.
    (3) With one timeout all along, a window shorter than it has at most one of them. -/
theorem timeout_runs_spaced (env : ε) (chain : FilterChain υ) (gate : SanityGate) (settings : EstimationSettings) :
    let start := setUp env chain gate settings
    (∀ before between r w,
      let y := (start.execShared before).2
      let z := (y.poll.2.execShared between).2
      AlongShared Forward start (before ++ .own .poll :: between) → y.poll.1 = some r → z.poll.1 = some w →
        r.trigger = .timeout → w.trigger = .timeout → w.startedAt.toNat + maxTimeout.toNat ≤ Timestamp.limit →
          ∃ m, ((y.rearms (.own .poll :: between)).map UInt32.toNat).min? = some m ∧
            r.startedAt.toNat + m ≤ w.startedAt.toNat) ∧
    ∀ ops,
      let z := (start.execShared ops).2
      let starts := timeoutStarts (start.execShared ops).1
      AlongShared Forward start ops → (Environment.clock z.env).toNat + maxTimeout.toNat ≤ Timestamp.limit →
        starts.Pairwise (· < ·) ∧
        (AlongShared KeepsTimeout start ops → ∀ a b : Timestamp,
          b.toNat < a.toNat + start.scheduler.timeout.toNat → starts.countP (fun s => a ≤ s ∧ s ≤ b) ≤ 1) := by
  intro start
  have hinRange : ∀ ops, TimeoutInRange (start.execShared ops).2 := execShared_timeoutInRange (setUp_timeoutInRange ..)
  constructor
  · intro before between r w y z hf hr hw hrt hwt hroom
    obtain ⟨t, _, ht, rfl, hy⟩ := poll_eq_some hr
    obtain ⟨t', _, ht', rfl, _⟩ := poll_eq_some hw
    cases hrt
    cases hwt
    have hp : y.poll = (some (y.ran .timeout).1, (y.ran .timeout).2) := Prod.ext hr hy
    -- the run itself rearms, so there is a smallest timeout
    have hne : (y.rearms (.own .poll :: between)).map UInt32.toNat ≠ [] := by
      simp [rearms, rearm?, stepShared, step, hp, Answer.run?]
    obtain ⟨m, hm⟩ := Option.isSome_iff_exists.mp (List.isSome_min?_of_ne_nil hne)
    refine ⟨m, hm, ?_⟩
    have hmin : ∀ T ∈ y.rearms (.own .poll :: between), m ≤ T.toNat := fun T hT =>
      (List.min?_eq_some_iff.mp hm).2 _ (List.mem_map_of_mem hT)
    have hq : AlongShared (Steady m) y (.own .poll :: between) :=
      alongShared_steady (hinRange before) (alongShared_append.mp hf).2 hroom hmin
    have hafter : NotBefore ((Environment.clock y.env).toNat + m) m y.poll.2 := by
      rw [hy]
      exact ran_notBefore ht hp (hq.1 _ rfl)
    exact (execShared_notBefore hafter hq.2).le_clock ht'
  · intro ops z starts hf hroom
    refine ⟨?_, fun hk a b hlen => ?_⟩
    · have hone : ∀ T ∈ start.rearms ops, 1 ≤ T.toNat := by
        intro T hT
        obtain ⟨before, _, _, rfl⟩ := mem_rearms hT
        exact (EstimationSettings.timeoutInRange_iff.mp (hinRange before)).1
      refine (pairwise_timeoutStarts (alongShared_steady (hinRange []) hf hroom hone)).imp fun h => ?_
      exact UInt64.lt_iff_toNat_lt.mpr (Nat.lt_of_succ_le h)
    · have hT : ∀ T ∈ start.rearms ops, start.scheduler.timeout.toNat ≤ T.toNat := by
        intro T hT
        obtain ⟨before, after, rfl, rfl⟩ := mem_rearms hT
        have hsame : (start.execShared before).2.scheduler.timeout = start.scheduler.timeout :=
          execShared_along (P := fun y => y.scheduler.timeout = start.scheduler.timeout)
            (fun _ _ h hk => hk.trans h) (fun _ _ h => h) rfl (alongShared_append.mp hk).1
        exact Nat.le_of_eq (congrArg UInt32.toNat hsame.symm)
      exact countP_window_le_one (pairwise_timeoutStarts (alongShared_steady (hinRange []) hf hroom hT)) hlen

/-! ## A shortened timeout in a simulated world -/

open Simulation

/-- A run due to the deadline at 1100 arms the next one 100 ms later. After the timeout is
    cut to 30 ms, a run for samples at 1150 brings it forward to 1180, where it is due. -/
theorem timeout_runs_spaced_after_shorter_timeout :
    let world : World := ⟨.silent, .manual 1000, #[]⟩
    let later (ms : UInt64) : SharedOp World := .own (.environment fun w => { w with clock := w.clock.advance ms })
    let start := setUp world (.ofUnits ([] : List ScriptedUnit) (by decide)) .default .default
    let before := [.own (.start none), later 100]
    let between := [.own (.applySettings (EstimationSettings.default.withTimeout 30)), later 50, .own (.mark .gyro),
      .own .poll, later 30]
    let y := (start.execShared before).2
    let z := (y.poll.2.execShared between).2
    ∃ r w, AlongShared Forward start (before ++ .own .poll :: between) ∧ y.poll.1 = some r ∧ z.poll.1 = some w ∧
      r.trigger = .timeout ∧ w.trigger = .timeout ∧ r.startedAt = 1100 ∧ w.startedAt = 1180 ∧
      y.rearms (.own .poll :: between) = [100, 30] ∧
      ∃ m, ((y.rearms (.own .poll :: between)).map UInt32.toNat).min? = some m ∧
        r.startedAt.toNat + m ≤ w.startedAt.toNat := by
  intro world later start before between y z
  have hf : AlongShared Forward start (before ++ .own .poll :: between) := by
    refine alongShared_forward_of_advance (fun change hc => ?_) start
    simp only [before, between, later] at hc
    simp at hc
    rcases hc with rfl | rfl | rfl
    · exact ⟨100, rfl⟩
    · exact ⟨50, rfl⟩
    · exact ⟨30, rfl⟩
  have hz : z.scheduler.state = .armed ∧ z.trigger? = some .timeout ∧ Environment.clock z.env = 1180 := by decide
  have hr : y.poll.1 = some (y.ran .timeout).1 := rfl
  have hw : z.poll.1 = some (z.ran .timeout).1 := congrArg Prod.fst (poll_of_trigger hz.1 hz.2.1)
  have hrearms : y.rearms (.own .poll :: between) = [100, 30] := by decide
  refine ⟨_, _, hf, hr, hw, rfl, rfl, rfl, hz.2.2, hrearms, ?_⟩
  refine (timeout_runs_spaced world _ _ _).1 before between _ _ hf hr hw rfl rfl ?_
  rw [ran_startedAt, hz.2.2]
  decide

end Estimator

end SensorFusion
