/-
  SensorFusion.Proofs.Stall — a stream of samples that stops is noticed within one period.

  As long as nothing arrives (`Silent`), an armed estimator with nothing unread stays as it
  is (`Stalled`): its polls wait until the deadline has passed, then every run is due to the
  deadline and warns. So a stretch of silence raises the alarm once at most, and the first
  poll after a new arrival clears it.

  The deadline itself was armed by the last run, or by the start if there was none yet, and
  lies at most the timeout of that moment after the clock of that moment (`lastArming`).
-/

import SensorFusion.Proofs.Arrivals
import SensorFusion.Proofs.Deadline
import SensorFusion.Proofs.Wakeup

namespace SensorFusion.Estimator

variable {ε υ : Type}

/-- Armed with nothing unread and no run asked for. -/
structure Stalled (x : Estimator ε υ) : Prop where
  armed : x.scheduler.state = .armed
  unread : x.tracker.pending = .empty
  unasked : x.tracker.dispatchRequested = false

theorem Stalled.not_idle {x : Estimator ε υ} (h : Stalled x) : x.scheduler.state ≠ .idle := by
  rw [h.armed]
  decide

variable [Environment ε]

def PollsBefore (d : Timestamp) (x : Estimator ε υ) (op : Op ε) : Prop := op = .poll → Environment.clock x.env < d

theorem Stalled.trigger?_eq_none {x : Estimator ε υ} (h : Stalled x) {d : Timestamp}
    (hd : x.scheduler.deadline = some d) (hnow : Environment.clock x.env < d) : x.trigger? = none := by
  refine Scheduler.trigger?_eq_none_iff.mpr ⟨h.unasked, ?_⟩
  rw [Bool.eq_false_iff]
  intro hdue
  obtain ⟨d', hd', hle⟩ := Scheduler.isDue_iff.mp hdue
  rw [hd] at hd'
  cases hd'
  exact UInt64.not_le.mpr hnow hle

variable [FilterUnit υ]

/-- No sample arrives in a step, nor in the run that it makes. -/
def Silent (x : Estimator ε υ) (op : Op ε) : Prop := ∀ m, .arrived m ∈ x.happenings op → m.inter .sensors = .empty

/-! ## Polls of a stalled estimator -/

section Polls

variable {x : Estimator ε υ}

theorem Stalled.poll_of_ahead (h : Stalled x) {d : Timestamp} (hd : x.scheduler.deadline = some d)
    (hnow : Environment.clock x.env < d) : x.poll.1 = none := by
  rw [poll_of_no_trigger h.armed (h.trigger?_eq_none hd hnow)]

/-- Only the deadline makes a run, and the run warns. -/
theorem Stalled.poll_eq_some (h : Stalled x) {r : RunReport} (hr : x.poll.1 = some r) :
    r = (x.ran .timeout).1 ∧ x.poll.2 = (x.ran .timeout).2 ∧ r.alarm = .warning := by
  obtain ⟨t, _, ht, rfl, hp⟩ := Estimator.poll_eq_some hr
  rcases Scheduler.trigger?_eq_some_iff.mp ht with ⟨_, hd⟩ | ⟨rfl, _, _⟩
  · rw [h.unasked] at hd
    cases hd
  · refine ⟨rfl, hp, ?_⟩
    rw [ran_alarm, Trigger.level_eq_warning_iff]
    exact ⟨rfl, h.unread⟩

theorem midRun_of_silent (hs : Silent x .poll) {r : RunReport} (hr : x.poll.1 = some r) :
    ∀ m ∈ x.midRun, m.inter .sensors = .empty := by
  intro m hm
  apply hs m
  simp only [happenings, hr]
  exact List.mem_cons_of_mem _ (List.mem_map_of_mem hm)

/-- After a run during which no sample arrived nothing is unread. -/
theorem ran_stalled (hm : ∀ m ∈ x.midRun, m.inter .sensors = .empty) (t : Trigger) : Stalled (x.ran t).2 := by
  have ht := x.ran_tracker t
  rw [UpdateTracker.markAll_of_no_sensor hm] at ht
  exact ⟨rfl, congrArg UpdateTracker.pending ht, congrArg UpdateTracker.dispatchRequested ht⟩

end Polls

/-! ## Silence -/

theorem step_stalled (x : Estimator ε υ) (op : Op ε) (h : Stalled x) (hs : Silent x op) : Stalled (x.step op).2 := by
  cases op with
  | mark c =>
    have ht : x.tracker.mark c = x.tracker := UpdateTracker.markMask_of_no_sensor (hs _ (List.mem_singleton_self _)) _
    simp only [step, ht]
    exact h
  | markMask m =>
    have ht : x.tracker.markMask m = x.tracker := UpdateTracker.markMask_of_no_sensor (hs _ (List.mem_singleton_self _)) _
    simp only [step, ht]
    exact h
  | start home =>
    rcases x.start_cases home with ⟨hi, _⟩ | ⟨_, e, hx⟩
    · exact absurd hi h.not_idle
    · simp only [step, hx]
      exact h
  | applySettings settings =>
    rcases x.scheduler.applySettings_cases settings with ⟨_, hx⟩ | ⟨e, _, hx⟩ <;> simp only [step, hx] <;>
      exact ⟨h.armed, h.unread, h.unasked⟩
  | poll =>
    rcases x.poll_cases with ⟨_, hp⟩ | ⟨_, _, hp⟩ | ⟨t, _, _, hp⟩ <;> simp only [step, hp]
    · exact h
    · exact ⟨h.armed, h.unread, rfl⟩
    · exact ran_stalled (midRun_of_silent hs (congrArg Prod.fst hp)) t
  | _ => exact ⟨h.armed, h.unread, h.unasked⟩

/-- Before the deadline silence leaves it where it is. -/
theorem step_deadline {d : Timestamp} (x : Estimator ε υ) (op : Op ε) (h : Stalled x)
    (hd : x.scheduler.deadline = some d) (hb : PollsBefore d x op) : (x.step op).2.scheduler.deadline = some d := by
  rcases x.step_cases op with ⟨_, hk⟩ | ⟨hi, _⟩ | ⟨t, rfl, _, ht, _⟩
  · exact hk.trans hd
  · exact absurd hi h.not_idle
  · rw [h.trigger?_eq_none hd (hb rfl)] at ht
    cases ht

theorem step_alarm (x : Estimator ε υ) (op : Op ε) (h : Stalled x) :
    (x.step op).2.scheduler.alarm = x.scheduler.alarm ∨
      (x.step op).2.scheduler.alarm = x.scheduler.alarm.update .warning := by
  rcases x.step_run_cases op with ⟨_, hr⟩ | ⟨t, rfl, _, hp⟩
  · exact Or.inl hr.alarm
  · obtain ⟨_, _, hw⟩ := h.poll_eq_some (congrArg Prod.fst hp)
    right
    simp only [step, hp, ran_liveness, hw]

theorem exec_stalled {x : Estimator ε υ} (h : Stalled x) {ops : List (Op ε)} (hs : Along Silent x ops) :
    Stalled (x.exec ops).2 := exec_along step_stalled h hs

theorem exec_deadline {x : Estimator ε υ} (h : Stalled x) {d : Timestamp} (hd : x.scheduler.deadline = some d)
    {ops : List (Op ε)} (hs : Along Silent x ops) (hb : Along (PollsBefore d) x ops) :
    (x.exec ops).2.scheduler.deadline = some d := by
  have hstep : ∀ (y : Estimator ε υ) (op : Op ε), Stalled y ∧ y.scheduler.deadline = some d →
      Silent y op ∧ PollsBefore d y op → Stalled (y.step op).2 ∧ (y.step op).2.scheduler.deadline = some d :=
    fun y op hy hq => ⟨step_stalled y op hy.1 hq.1, step_deadline y op hy.1 hy.2 hq.2⟩
  exact (exec_along hstep ⟨h, hd⟩ (along_and hs hb)).2

/-- Silence warns once: repeating a warning changes nothing. -/
theorem exec_alarm {x : Estimator ε υ} (h : Stalled x) {ops : List (Op ε)} (hs : Along Silent x ops) :
    (x.exec ops).2.scheduler.alarm = x.scheduler.alarm ∨
      (x.exec ops).2.scheduler.alarm = x.scheduler.alarm.update .warning := by
  induction ops generalizing x with
  | nil => exact Or.inl rfl
  | cons op ops ih =>
    have ht := ih (step_stalled x op h hs.1) hs.2
    rw [exec_cons]
    rcases step_alarm x op h with ha | ha <;> rw [ha] at ht
    · exact ht
    · rw [LivenessAlarm.update_update] at ht
      exact Or.inr (ht.elim id id)

/-! ## Who armed the deadline -/

def arming (x : Estimator ε υ) : Op ε → Option (Timestamp × UInt32)
  | .start _ => if x.scheduler.state = .idle then some (Environment.clock x.env, x.scheduler.timeout) else none
  | .poll => x.poll.1.map fun _ => (x.runEnd, x.scheduler.timeout)
  | _ => none

/-- The clock and the timeout of the last step that armed a deadline: the last run, or the
    start when no run followed it. -/
def lastArming (x : Estimator ε υ) : List (Op ε) → Option (Timestamp × UInt32)
  | [] => none
  | op :: ops => ((x.step op).2.lastArming ops).or (x.arming op)

theorem step_arming (x : Estimator ε υ) (op : Op ε) :
    (x.arming op = none ∧ (x.step op).2.scheduler.deadline = x.scheduler.deadline) ∨
      ∃ finish timeout d, x.arming op = some (finish, timeout) ∧
        (x.step op).2.scheduler.deadline = some d ∧ d ≤ finish.later timeout.toUInt64 := by
  cases op with
  | start home =>
    rcases x.start_cases home with ⟨hi, l, hx⟩ | ⟨hn, e, hx⟩
    · exact Or.inr ⟨_, _, x.scheduler.deadlineFrom (Environment.clock x.env), if_pos hi, by simp only [step, hx],
        UInt64.le_refl _⟩
    · exact Or.inl ⟨if_neg hn, by simp only [step, hx]⟩
  | applySettings settings =>
    rcases x.scheduler.applySettings_cases settings with ⟨_, hx⟩ | ⟨e, _, hx⟩ <;>
      exact Or.inl ⟨rfl, by simp only [step, hx]⟩
  | poll =>
    rcases x.poll_cases with ⟨_, hp⟩ | ⟨_, _, hp⟩ | ⟨t, _, _, hp⟩
    · exact Or.inl (by simp only [arming, step, hp, Option.map_none, and_self])
    · exact Or.inl (by simp only [arming, step, hp, Option.map_none, waited, and_self])
    · exact Or.inr ⟨x.runEnd, x.scheduler.timeout, _, by simp only [arming, hp, Option.map_some],
        by simp only [step, hp, ran_deadline], ran_nextDeadline_le t x⟩
  | _ => exact Or.inl ⟨rfl, rfl⟩

theorem exec_lastArming (x : Estimator ε υ) (ops : List (Op ε)) :
    (x.lastArming ops = none ∧ (x.exec ops).2.scheduler.deadline = x.scheduler.deadline) ∨
      ∃ finish timeout d, x.lastArming ops = some (finish, timeout) ∧
        (x.exec ops).2.scheduler.deadline = some d ∧ d ≤ finish.later timeout.toUInt64 := by
  induction ops generalizing x with
  | nil => exact Or.inl ⟨rfl, rfl⟩
  | cons op ops ih =>
    rw [exec_cons, lastArming]
    rcases ih (x.step op).2 with ⟨hn, hk⟩ | ⟨finish, timeout, d, hl, hd, hle⟩
    · -- this step is the last one that may have armed
      rw [hn, hk, Option.none_or]
      exact step_arming x op
    · rw [hl, Option.some_or]
      exact Or.inr ⟨finish, timeout, d, rfl, hd, hle⟩

/-! ## New arrivals -/

theorem has_pending_of_arrived {x : Estimator ε υ} {op : Op ε} {m : SensorMask} {c : SensorClass}
    (hm : .arrived m ∈ x.happenings op) (hc : m.has c = true) : (x.step op).2.tracker.pending.has c = true := by
  rw [(x.step_accounted op).2, has_unreadAfter]
  right
  -- in a step that makes a run, the run comes first
  have hlast : ∀ ms : List SensorMask, m ∈ ms → ArrivedSinceRun c (ms.map .arrived) := by
    intro ms hms
    obtain ⟨before, after, rfl⟩ := List.append_of_mem hms
    exact ⟨before.map .arrived, m, after.map .arrived, by simp, by simp, hc⟩
  cases op with
  | mark c' =>
    cases List.mem_singleton.mp hm
    exact hlast [_] (List.mem_singleton_self _)
  | markMask m' =>
    cases List.mem_singleton.mp hm
    exact hlast [_] (List.mem_singleton_self _)
  | poll =>
    cases hr : x.poll.1 with
    | none => simp [happenings, hr] at hm
    | some r =>
      simp only [happenings, hr] at hm ⊢
      refine arrivedSinceRun_cons.mpr (Or.inr (hlast _ ?_))
      simpa using hm
  | _ => exact absurd hm List.not_mem_nil

/-- Only a run takes what is unread. -/
theorem exec_has_pending {x : Estimator ε υ} {c : SensorClass} (ha : x.scheduler.state = .armed)
    (hc : x.tracker.pending.has c = true) {ops : List (Op ε)} (hno : .poll ∉ ops) :
    (x.exec ops).2.scheduler.state = .armed ∧ (x.exec ops).2.tracker.pending.has c = true := by
  induction ops generalizing x with
  | nil => exact ⟨ha, hc⟩
  | cons op ops ih =>
    obtain ⟨hop, hops⟩ := not_or.mp (mt List.mem_cons.mpr hno)
    refine ih (x.step_armed op ha) ?_ hops
    rw [(x.step_accounted op).2, has_unreadAfter]
    refine Or.inl ⟨hc, ?_⟩
    intro r
    cases op with
    | poll => exact absurd rfl hop
    | _ => simp [happenings]

/-- A stream that stalls is noticed within one period. Let an execution reach a state `x`
    armed with the deadline `d`, with nothing unread. The last run before `x`, or the start,
    armed `d`, at most the timeout of that moment after the clock of that moment. And
    whenever nothing arrives from `x` to a later state `y`:
    (1) a poll in `y` before the deadline armed there waits;
    (2) if it is the first poll at or after `d`, it makes a run;
    (3) if it makes a run, the run is due to the deadline and publishes a warning;
    (4) the alarm rose once at most since `x`;
    (5) the first poll after the next arrival of a sensor class publishes that all is clear. -/
theorem stall_noticed_within_period (env : ε) (chain : FilterChain υ) (gate : SanityGate)
    (settings : EstimationSettings) (ops : List (Op ε)) (d : Timestamp) :
    let start := setUp env chain gate settings
    let x := (start.exec ops).2
    x.scheduler.state = .armed → x.tracker.pending = .empty → x.scheduler.deadline = some d →
      (∃ finish timeout, start.lastArming ops = some (finish, timeout) ∧ d ≤ finish.later timeout.toUInt64) ∧
      ∀ silence, Along Silent x silence →
        let y := (x.exec silence).2
        (∀ d', y.scheduler.deadline = some d' → Environment.clock y.env < d' → y.poll.1 = none) ∧
        (Along (PollsBefore d) x silence → d ≤ Environment.clock y.env → ∃ r, y.poll.1 = some r) ∧
        (∀ r, y.poll.1 = some r →
          r.trigger = .timeout ∧ r.alarm = .warning ∧ y.poll.2.published = y.published.push .warning) ∧
        y.scheduler.alarm.timesRaised.toNat ≤ x.scheduler.alarm.timesRaised.toNat + 1 ∧
        ∀ op m c between, .arrived m ∈ y.happenings op → m.has c = true → .poll ∉ between →
          let z := ((y.step op).2.exec between).2
          ∃ r, z.poll.1 = some r ∧ r.alarm = .clear ∧ z.poll.2.published = z.published.push .clear := by
  intro start x ha hu hd
  have hwx : Watchful x := exec_watchful (setUp_watchful ..) ops
  have hx : Stalled x := by
    refine ⟨ha, hu, ?_⟩
    rw [hwx.prompt, hu]
    rfl
  refine ⟨?_, ?_⟩
  · rcases start.exec_lastArming ops with ⟨_, hk⟩ | ⟨finish, timeout, d', hl, hd', hle⟩
    · -- a fresh estimator has no deadline
      rw [show (start.exec ops).2.scheduler.deadline = some d from hd] at hk
      cases hk
    · rw [show (start.exec ops).2.scheduler.deadline = some d from hd] at hd'
      cases hd'
      exact ⟨finish, timeout, hl, hle⟩
  intro silence hs y
  have hy : Stalled y := exec_stalled hx hs
  have hwy : Watchful y := exec_watchful hwx silence
  refine ⟨fun d' hd' hnow => hy.poll_of_ahead hd' hnow, ?_, ?_, ?_, ?_⟩
  · intro hb hdue
    have hdy : y.scheduler.deadline = some d := exec_deadline hx hd hs hb
    obtain ⟨t, hp⟩ := poll_of_due hy.armed hdy hdue
    exact ⟨_, congrArg Prod.fst hp⟩
  · intro r hr
    obtain ⟨rfl, hp, hw⟩ := hy.poll_eq_some hr
    refine ⟨rfl, hw, ?_⟩
    rw [hp, ran_published, hw]
  · rcases exec_alarm hx hs with h | h
    · rw [h]
      exact Nat.le_succ _
    · rw [h]
      exact LivenessAlarm.timesRaised_update _ _
  · intro op m c between hm hc hno z
    obtain ⟨haz, hcz⟩ := exec_has_pending (y.step_armed op hy.armed) (has_pending_of_arrived hm hc) hno
    have hwz : Watchful z := exec_watchful (step_watchful y op hwy) between
    have hne : z.tracker.pending ≠ .empty := by
      intro he
      rw [show z.tracker.pending = .empty from he, SensorMask.has_empty] at hcz
      cases hcz
    obtain ⟨r, hr, htr⟩ := poll_of_unread hwz.prompt haz hne
    obtain ⟨t, _, _, rfl, hp⟩ := Estimator.poll_eq_some hr
    have hclear : (z.ran t).1.alarm = .clear := by
      rw [ran_alarm, show t = .sensorUpdate from htr]
      rfl
    refine ⟨_, hr, hclear, ?_⟩
    rw [hp, ran_published, hclear]

/-! ## A stall in a simulated world -/

open Simulation

/-- Armed at 1000 for 1100, a poll at 1040 waits and the poll at 1100 warns. -/
theorem stall_noticed_after_quiet_poll :
    let world : World := ⟨.silent, .manual 1000, #[]⟩
    let later (ms : UInt64) : Op World := .environment fun w => { w with clock := w.clock.advance ms }
    let start := setUp world (.ofUnits ([] : List ScriptedUnit) (by decide)) .default .default
    let ops := [.start none]
    let silence := [later 40, .poll, later 60]
    let x := (start.exec ops).2
    let y := (x.exec silence).2
    x.scheduler.state = .armed ∧ x.tracker.pending = .empty ∧ x.scheduler.deadline = some 1100 ∧
      Along Silent x silence ∧ Along (PollsBefore 1100) x silence ∧ 1100 ≤ Environment.clock y.env ∧
      ∃ r, y.poll.1 = some r ∧ r.trigger = .timeout ∧ r.alarm = .warning := by
  intro world later start ops silence x y
  have ha : x.scheduler.state = .armed := rfl
  have hu : x.tracker.pending = .empty := rfl
  have hd : x.scheduler.deadline = some 1100 := rfl
  have hs : Along Silent x silence :=
    ⟨fun _ hm => absurd hm List.not_mem_nil, fun _ hm => absurd hm List.not_mem_nil,
      fun _ hm => absurd hm List.not_mem_nil, trivial⟩
  have hb : Along (PollsBefore 1100) x silence := by
    refine ⟨?_, fun _ => ?_, ?_, trivial⟩
    · intro h
      cases h
    · decide
    · intro h
      cases h
  have hdue : 1100 ≤ Environment.clock y.env := by decide
  obtain ⟨_, hrun, htrue, _⟩ := (stall_noticed_within_period world _ _ _ ops 1100 ha hu hd).2 silence hs
  obtain ⟨r, hr⟩ := hrun hb hdue
  obtain ⟨ht, hw, _⟩ := htrue r hr
  exact ⟨ha, hu, hd, hs, hb, hdue, r, hr, ht, hw⟩

end SensorFusion.Estimator
