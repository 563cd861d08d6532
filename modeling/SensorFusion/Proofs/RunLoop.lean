/-
  SensorFusion.Proofs.RunLoop — the run loop is plain polling.

  A turn of the loop is one poll, and then what happens around it: arrivals and changes of
  the environment while the report is handed on or the loop is parked. These are steps of an
  execution (`turnSteps`), so a loop is an execution whose polls are its turns (`loopSteps`),
  and what holds of every execution holds of it.

  The loop looks whether to stop before every poll, and parks only after a poll that had
  nothing to do. How long it parks follows from the deadline that this poll has left, which
  is within the longest timeout as long as the clock does not go back (`InReach`).

  Proved (`run_loop_polls_until_stopped`): what any number of turns hands on, counts and
  parks for, in any environment.
-/

import SensorFusion.Proofs.Horizon
import SensorFusion.Simulation.Rehearsal

namespace SensorFusion

def Answer.polled? : Answer → Option (Option RunReport)
  | polled r => some r
  | _ => .none

theorem Answer.filterMap_run? (as : List Answer) :
    as.filterMap Answer.run? = (as.filterMap Answer.polled?).filterMap id := by
  rw [List.filterMap_filterMap]
  congr
  funext a
  cases a <;> rfl

def Interlude.steps {ε : Type} (i : Interlude ε) : List (Op ε) :=
  .environment (fun _ => i.after) :: i.arrivals.map .markMask

namespace Estimator

variable {ε υ : Type} [Supervised ε]

/-! ## Parking -/

theorem toNat_parkTime_of_deadline {x : Estimator ε υ} {d : Timestamp} (hd : x.scheduler.deadline = some d) :
    x.parkTime.1.toNat = max 1 (d.toNat - (Environment.clock x.env).toNat) := by
  have hleft : x.parkTime.1 = max ((Environment.clock x.env).remaining d) 1 := by
    simp only [parkTime, untilDeadline, hd, Option.getD_some]
  rw [hleft, Timestamp.toNat_max, Timestamp.toNat_remaining, Nat.max_comm]
  rfl

/-- Without a deadline it parks for the timeout, which is a millisecond at least. -/
theorem toNat_parkTime_of_no_deadline {x : Estimator ε υ} (hd : x.scheduler.deadline = none) (hT : TimeoutInRange x) :
    x.parkTime.1.toNat = x.scheduler.timeout.toNat := by
  have hleft : x.parkTime.1 = max x.scheduler.timeout.toUInt64 1 := by
    simp only [parkTime, untilDeadline, hd, Option.getD_none]
  have hpos : 1 ≤ x.scheduler.timeout.toNat :=
    Nat.le_trans (by decide) (EstimationSettings.timeoutInRange_iff.mp hT).1
  rw [hleft, Timestamp.toNat_max, UInt32.toNat_toUInt64]
  exact Nat.max_eq_left hpos

theorem one_le_parkTime (x : Estimator ε υ) : 1 ≤ x.parkTime.1.toNat := by
  rw [parkTime, Timestamp.toNat_max]
  exact Nat.le_max_right _ _

/-- It does not park past a deadline that is ahead. -/
theorem parkTime_le_deadline {x : Estimator ε υ} {d : Timestamp} (hd : x.scheduler.deadline = some d)
    (hnow : Environment.clock x.env < d) : (Environment.clock x.env).toNat + x.parkTime.1.toNat ≤ d.toNat := by
  have := UInt64.lt_iff_toNat_lt.mp hnow
  rw [toNat_parkTime_of_deadline hd]
  omega

theorem parkTime_le_maxTimeout {x : Estimator ε υ} (h : InReach x) : x.parkTime.1.toNat ≤ maxTimeout.toNat := by
  have hmax : 1 ≤ maxTimeout.toNat := by decide
  cases hd : x.scheduler.deadline with
  | none =>
    rw [toNat_parkTime_of_no_deadline hd h.timeout]
    exact (EstimationSettings.timeoutInRange_iff.mp h.timeout).2
  | some d =>
    have hle := UInt64.le_iff_toNat_le.mp (h.within d hd)
    rw [Timestamp.toNat_later, UInt32.toNat_toUInt64] at hle
    rw [toNat_parkTime_of_deadline hd]
    omega

/-- What happens while the loop is parked follows on the look at the clock. -/
theorem parkTime_resume (x : Estimator ε υ) (i : Interlude ε) : x.parkTime.2.resume i = x.resume i := by
  unfold parkTime untilDeadline
  split <;> rfl

variable [FilterUnit υ]

/-! ## A turn as steps of an execution -/

def interlude (x : Estimator ε υ) : Option RunReport → Interlude ε
  | some report => Supervised.onRun report x.env
  | none => Supervised.park x.parkTime.1 x.parkTime.2.env

/-- The steps of a turn: a poll, and what happens until the next turn. -/
def turnSteps (x : Estimator ε υ) : List (Op ε) := .poll :: (x.poll.2.interlude x.poll.1).steps

def loopSteps (x : Estimator ε υ) : Nat → List (Op ε)
  | 0 => []
  | turns + 1 =>
    if Supervised.stopRequested x.env then []
    else x.turnSteps ++ (x.exec x.turnSteps).2.loopSteps turns

def turnEvent (x : Estimator ε υ) : LoopEvent :=
  match x.poll.1 with
  | some report => .ran report
  | none => .parked x.poll.2.parkTime.1

theorem turnEvent_report? (x : Estimator ε υ) : x.turnEvent.report? = x.poll.1 := by
  unfold turnEvent
  cases x.poll.1 <;> rfl

theorem turnEvent_eq_ran {x : Estimator ε υ} {r : RunReport} : x.turnEvent = .ran r ↔ x.poll.1 = some r := by
  unfold turnEvent
  cases x.poll.1 <;> simp

theorem turnEvent_eq_parked {x : Estimator ε υ} {ms : UInt64} :
    x.turnEvent = .parked ms ↔ x.poll.1 = none ∧ x.poll.2.parkTime.1 = ms := by
  unfold turnEvent
  cases x.poll.1 <;> simp

theorem exec_marks (x : Estimator ε υ) (ms : List SensorMask) :
    x.exec (ms.map .markMask) = (ms.map fun _ => .none, { x with tracker := x.tracker.markAll ms }) := by
  induction ms generalizing x with
  | nil => rfl
  | cons m ms ih => rw [List.map_cons, exec_cons, ih]; rfl

/-- To go on after an interlude is to take its steps; none of them polls. -/
theorem exec_interlude (x : Estimator ε υ) (i : Interlude ε) :
    (x.exec i.steps).2 = x.resume i ∧ (x.exec i.steps).1.filterMap Answer.polled? = [] := by
  rw [Interlude.steps, exec_cons, exec_marks]
  refine ⟨rfl, ?_⟩
  simp [step, Answer.polled?]

theorem exec_turnSteps (x : Estimator ε υ) :
    (x.exec x.turnSteps).2 = x.poll.2.resume (x.poll.2.interlude x.poll.1) ∧
      (x.exec x.turnSteps).1.filterMap Answer.polled? = [x.poll.1] := by
  obtain ⟨hx, ha⟩ := exec_interlude x.poll.2 (x.poll.2.interlude x.poll.1)
  exact ⟨hx, congrArg (x.poll.1 :: ·) ha⟩

theorem turn_eq (x : Estimator ε υ) :
    x.turn = if Supervised.stopRequested x.env then none else some (x.turnEvent, (x.exec x.turnSteps).2) := by
  rw [(x.exec_turnSteps).1, turn, turnEvent]
  split
  · rfl
  · rcases x.poll with ⟨_ | report, y⟩
    · exact congrArg (fun z => some (_, z)) (y.parkTime_resume _)
    · rfl

/-! ## The loop from its last turn -/

theorem runUntil_of_stop {x : Estimator ε υ} (hs : Supervised.stopRequested x.env = true) (turns : Nat) :
    x.runUntil turns = ⟨0, [], x, true⟩ := by
  cases turns with
  | zero => simp [runUntil, hs]
  | succ turns => simp [runUntil, turn, hs]

theorem runUntil_of_go {x : Estimator ε υ} (hs : Supervised.stopRequested x.env = false) (turns : Nat) :
    x.runUntil (turns + 1) =
      let rest := (x.exec x.turnSteps).2.runUntil turns
      ⟨x.turnEvent.runs + rest.count, x.turnEvent :: rest.events, rest.last, rest.stopped⟩ := by
  have ht := x.turn_eq
  rw [hs] at ht
  simp only [runUntil, ht, Bool.false_eq_true, if_false]

theorem loopSteps_of_go {x : Estimator ε υ} (hs : Supervised.stopRequested x.env = false) (turns : Nat) :
    x.loopSteps (turns + 1) = x.turnSteps ++ (x.exec x.turnSteps).2.loopSteps turns := by
  simp only [loopSteps, hs, Bool.false_eq_true, if_false]

def LoopResult.next (done : LoopResult ε υ) : LoopResult ε υ :=
  let y := (done.last.exec done.last.turnSteps).2
  ⟨done.count + done.last.turnEvent.runs, done.events ++ [done.last.turnEvent], y, Supervised.stopRequested y.env⟩

/-- The loop with one more turn left, seen from the turns before. -/
theorem runUntil_succ (x : Estimator ε υ) (turns : Nat) :
    x.runUntil (turns + 1) =
      if (x.runUntil turns).stopped then x.runUntil turns else (x.runUntil turns).next := by
  induction turns generalizing x with
  | zero =>
    cases hs : Supervised.stopRequested x.env with
    | true => simp [runUntil_of_stop hs]
    | false =>
      rw [runUntil_of_go hs]
      simp [runUntil, LoopResult.next, hs]
  | succ turns ih =>
    cases hs : Supervised.stopRequested x.env with
    | true => simp [runUntil_of_stop hs]
    | false =>
      -- what follows the first turn is a loop from the state after it
      rw [runUntil_of_go hs, ih, runUntil_of_go hs]
      cases hrest : ((x.exec x.turnSteps).2.runUntil turns).stopped with
      | true => simp [hrest]
      | false => simp [LoopResult.next, UInt64.add_assoc]

theorem loopSteps_succ (x : Estimator ε υ) (turns : Nat) :
    x.loopSteps (turns + 1) =
      if (x.runUntil turns).stopped then x.loopSteps turns
      else x.loopSteps turns ++ (x.runUntil turns).last.turnSteps := by
  induction turns generalizing x with
  | zero =>
    show (if _ then _ else _) = if Supervised.stopRequested x.env then [] else [] ++ x.turnSteps
    rw [loopSteps, List.append_nil, List.nil_append]
  | succ turns ih =>
    cases hs : Supervised.stopRequested x.env with
    | true => simp [runUntil_of_stop hs, loopSteps, hs]
    | false =>
      rw [loopSteps_of_go hs, ih, runUntil_of_go hs, loopSteps_of_go hs]
      split <;> simp only [List.append_assoc]

section Turns

variable (x : Estimator ε υ)

theorem stopped_runUntil (turns : Nat) :
    (x.runUntil turns).stopped = Supervised.stopRequested (x.runUntil turns).last.env := by
  induction turns with
  | zero => rfl
  | succ turns ih =>
    rw [runUntil_succ]
    split
    · exact ih
    · rfl

theorem runUntil_of_stopped {turns turns' : Nat} (hs : (x.runUntil turns).stopped = true) (hle : turns ≤ turns') :
    x.runUntil turns' = x.runUntil turns := by
  induction hle with
  | refl => rfl
  | step _ ih => rw [runUntil_succ, ih, if_pos hs]

theorem length_events_le (turns : Nat) : (x.runUntil turns).events.length ≤ turns := by
  induction turns with
  | zero => exact Nat.le_refl 0
  | succ turns ih =>
    rw [runUntil_succ]
    split
    · omega
    · simp [LoopResult.next, ih]

/-- A loop that has not stopped has made all its turns. -/
theorem length_events {turns : Nat} (hs : (x.runUntil turns).stopped = false) :
    (x.runUntil turns).events.length = turns := by
  induction turns with
  | zero => rfl
  | succ turns ih =>
    rw [runUntil_succ] at hs ⊢
    by_cases hprev : (x.runUntil turns).stopped = true
    · rw [if_pos hprev] at hs
      rw [hs] at hprev
      cases hprev
    · rw [if_neg hprev]
      simp [LoopResult.next, ih (by simpa using hprev)]

/-- What a loop counts and hands on is what its polls answer. -/
theorem exec_loopSteps (turns : Nat) :
    (x.exec (x.loopSteps turns)).2 = (x.runUntil turns).last ∧
      (x.exec (x.loopSteps turns)).1.filterMap Answer.polled? = (x.runUntil turns).events.map LoopEvent.report? := by
  induction turns with
  | zero => exact ⟨rfl, rfl⟩
  | succ turns ih =>
    obtain ⟨hlast, hpolls⟩ := ih
    rw [loopSteps_succ, runUntil_succ]
    split
    · exact ⟨hlast, hpolls⟩
    · rw [exec_append, hlast]
      refine ⟨rfl, ?_⟩
      rw [List.filterMap_append, hpolls, (exec_turnSteps _).2, ← turnEvent_report?]
      simp [LoopResult.next]

/-- What holds after every execution holds before every turn. -/
theorem last_of_exec {P : Estimator ε υ → Prop} (h : ∀ ops, P (x.exec ops).2) (turns : Nat) :
    P (x.runUntil turns).last := by
  rw [← (x.exec_loopSteps turns).1]
  exact h _

theorem count_runUntil (turns : Nat) :
    (x.runUntil turns).count = UInt64.ofNat (x.runUntil turns).reports.length := by
  induction turns with
  | zero => rfl
  | succ turns ih =>
    rw [runUntil_succ]
    split
    · exact ih
    · simp only [LoopResult.next, LoopResult.reports, List.filterMap_append, List.length_append, UInt64.ofNat_add, ih]
      cases (x.runUntil turns).last.turnEvent <;> rfl

/-- The loop counts the reports that it hands on, up to the size of the count. -/
theorem runs_runUntil (turns : Nat) :
    (x.runUntil turns).runs = (x.runUntil turns).reports.length % UInt64.size := by
  rw [LoopResult.runs, count_runUntil]
  exact UInt64.toNat_ofNat'

/-- Each event is the turn of the state before it, in which no stop was requested. -/
theorem turn_of_events {turns k : Nat} {event : LoopEvent} (hk : (x.runUntil turns).events[k]? = some event) :
    (x.runUntil k).stopped = false ∧ (x.runUntil k).last.turnEvent = event := by
  induction turns with
  | zero => cases hk
  | succ turns ih =>
    rw [runUntil_succ] at hk
    by_cases hs : (x.runUntil turns).stopped = true
    · rw [if_pos hs] at hk
      exact ih hk
    · rw [if_neg hs] at hk
      have hs' : (x.runUntil turns).stopped = false := by simpa using hs
      have hlen := x.length_events hs'
      simp only [LoopResult.next] at hk
      -- an event before the last one, or the last
      rcases Nat.lt_trichotomy k turns with hlt | rfl | hgt
      · rw [List.getElem?_append_left (by omega)] at hk
        exact ih hk
      · rw [List.getElem?_append_right (by omega), hlen, Nat.sub_self] at hk
        exact ⟨hs', Option.some.inj hk⟩
      · rw [List.getElem?_eq_none (by simp; omega)] at hk
        cases hk

theorem last_runUntil_succ {k : Nat} (hk : (x.runUntil k).stopped = false) :
    (x.runUntil (k + 1)).last =
      let y := (x.runUntil k).last
      y.poll.2.resume (y.poll.2.interlude y.poll.1) := by
  rw [runUntil_succ, hk, ← (exec_turnSteps _).1]
  rfl

/-- A stop requested in a turn makes it the last one. -/
theorem runUntil_of_stop_in_turn {turns k : Nat} {event : LoopEvent} (hk : (x.runUntil turns).events[k]? = some event)
    (hs : (x.runUntil (k + 1)).stopped = true) :
    (x.runUntil turns).events.length = k + 1 ∧ (x.runUntil turns).count = (x.runUntil k).count + event.runs := by
  obtain ⟨hgo, he⟩ := x.turn_of_events hk
  have hlen : k < (x.runUntil turns).events.length := (List.getElem?_eq_some_iff.mp hk).1
  have hle : k + 1 ≤ turns := Nat.le_trans hlen (x.length_events_le turns)
  have hend : x.runUntil turns = (x.runUntil k).next := by
    rw [x.runUntil_of_stopped hs hle, runUntil_succ, hgo]
    rfl
  rw [hend, ← he]
  refine ⟨?_, rfl⟩
  simp [LoopResult.next, x.length_events hgo]

theorem along_loopSteps {Q : Estimator ε υ → Op ε → Prop} {turns k : Nat} (ha : Along Q x (x.loopSteps turns))
    (hk : k < (x.runUntil turns).events.length) :
    Along Q x (x.loopSteps k) ∧ Along Q (x.runUntil k).last (x.runUntil k).last.turnSteps := by
  induction turns with
  | zero => cases hk
  | succ turns ih =>
    rw [loopSteps_succ] at ha
    rw [runUntil_succ] at hk
    by_cases hs : (x.runUntil turns).stopped = true
    · rw [if_pos hs] at ha hk
      exact ih ha hk
    · rw [if_neg hs] at ha hk
      obtain ⟨hbefore, hturn⟩ := along_append.mp ha
      have hlen := x.length_events (by simpa using hs)
      have hle : k < turns + 1 := by simpa [LoopResult.next, hlen] using hk
      rcases Nat.lt_succ_iff_lt_or_eq.mp hle with hlt | rfl
      · exact ih hbefore (by omega)
      · rw [(x.exec_loopSteps k).1] at hturn
        exact ⟨hbefore, hturn⟩

end Turns

/-! ## Parking after a poll -/

/-- With a clock that never goes back the deadline is within reach after every poll. -/
theorem inReach_of_turn {x : Estimator ε υ} (h : InReach x) {turns k : Nat} (ha : Along Forward x (x.loopSteps turns))
    (hk : k < (x.runUntil turns).events.length) : InReach (x.runUntil k).last.poll.2 := by
  obtain ⟨hbefore, hpoll, _⟩ := x.along_loopSteps ha hk
  have hreach : InReach (x.runUntil k).last := by
    rw [← (x.exec_loopSteps k).1]
    exact exec_along step_inReach h hbefore
  exact step_inReach _ .poll hreach hpoll

/-- The loop parks after a poll of an idle estimator, or of an armed one that has no run to
    make yet. -/
theorem parked_cases {x : Estimator ε υ} {ms : UInt64} (hx : Settled x) (hT : TimeoutInRange x)
    (hp : x.turnEvent = .parked ms) :
    (x.poll.2.scheduler.state = .idle ∧ x.poll.2.scheduler.deadline = none ∧
      ms.toNat = x.poll.2.scheduler.timeout.toNat) ∨
    (x.poll.2.scheduler.state = .armed ∧ x.tracker.dispatchRequested = false ∧
      ∃ d, x.poll.2.scheduler.deadline = some d ∧ Environment.clock x.env < d ∧
        ms.toNat = max 1 (d.toNat - (Environment.clock x.poll.2.env).toNat)) := by
  obtain ⟨hnone, rfl⟩ := turnEvent_eq_parked.mp hp
  rcases hx with ⟨hi, hd⟩ | ⟨ha, d, hd⟩
  · rcases x.poll_cases with ⟨_, h⟩ | ⟨ha, _⟩ | ⟨_, ha, _⟩
    · rw [h]
      exact Or.inl ⟨hi, hd, toNat_parkTime_of_no_deadline hd hT⟩
    · rw [hi] at ha
      cases ha
    · rw [hi] at ha
      cases ha
  · have ht := poll_eq_none ha hnone
    obtain ⟨hunasked, hearly⟩ := Scheduler.trigger?_eq_none_iff.mp ht
    have hnow : Environment.clock x.env < d := by
      rw [← UInt64.not_le]
      intro hdue
      rw [Scheduler.isDue_iff.mpr ⟨d, hd, hdue⟩] at hearly
      cases hearly
    rw [poll_of_no_trigger ha ht]
    exact Or.inr ⟨ha, hunasked, d, hd, hnow, toNat_parkTime_of_deadline hd⟩

/-! ## The loop -/

/-- What the run loop does in any number of turns, from any state that an estimator comes to
    after it is set up, whatever arrives, is announced or stops it in the meantime. `before k`
    is the state before the turn with the index `k`.
    (1) The loop is the execution of its turns' steps, with one poll for each event; the
        reports handed on are those of the runs that these polls make, each once and in
        order, and the loop counts them in 64 bits.
    (2) Every turn starts without a stop requested; once one is requested no further turn is
        made, and only that ends the loop.
    (3) After a run its report is handed on. A stop requested meanwhile ends the loop, with
        the runs so far and this one.
    (4) The loop parks only after a poll without a run, for the timeout as long as the
        estimator is idle. Once it is armed, no run was asked for at that poll and the
        deadline was ahead; then the loop parks for what is left of it now, but for a
        millisecond at least and not past the deadline. With a clock that never goes back it
        never parks for more than the longest timeout. -/
theorem run_loop_polls_until_stopped (env : ε) (chain : FilterChain υ) (gate : SanityGate)
    (settings : EstimationSettings) (ops : List (SharedOp ε)) (turns : Nat) :
    let start := setUp env chain gate settings
    let x := (start.execShared ops).2
    let steps := x.loopSteps turns
    let done := x.runUntil turns
    let before := fun k => (x.runUntil k).last
    ((x.exec steps).2 = done.last ∧
      (x.exec steps).1.filterMap Answer.polled? = done.events.map LoopEvent.report? ∧
      (x.exec steps).1.filterMap Answer.run? = done.reports ∧ done.runs = done.reports.length % UInt64.size ∧
      (done.reports.length < UInt64.size → done.runs = done.reports.length)) ∧
    ((∀ k event, done.events[k]? = some event → Supervised.stopRequested (before k).env = false) ∧
      (∀ k ≤ turns, Supervised.stopRequested (before k).env = true → done = x.runUntil k) ∧
      (done.events.length < turns → Supervised.stopRequested done.last.env = true)) ∧
    (∀ k r, done.events[k]? = some (.ran r) →
      (before k).poll.1 = some r ∧
      before (k + 1) = (before k).poll.2.resume (Supervised.onRun r (before k).poll.2.env) ∧
      (Supervised.stopRequested (before (k + 1)).env = true →
        done.events.length = k + 1 ∧ done.runs = ((x.runUntil k).runs + 1) % UInt64.size)) ∧
    (∀ k ms, done.events[k]? = some (.parked ms) →
      let y := (before k).poll.2
      let now := Environment.clock y.env
      (before k).poll.1 = none ∧ before (k + 1) = y.resume (Supervised.park ms y.parkTime.2.env) ∧
      ((y.scheduler.state = .idle ∧ y.scheduler.deadline = none ∧ ms.toNat = y.scheduler.timeout.toNat) ∨
        (y.scheduler.state = .armed ∧ (before k).tracker.dispatchRequested = false ∧
          ∃ d, y.scheduler.deadline = some d ∧ Environment.clock (before k).env < d ∧
            ms.toNat = max 1 (d.toNat - now.toNat))) ∧
      1 ≤ ms.toNat ∧
      (∀ d, y.scheduler.deadline = some d → now < d → now.toNat + ms.toNat ≤ d.toNat) ∧
      (AlongShared Forward start ops → Along Forward x steps → ms.toNat ≤ maxTimeout.toNat)) := by
  intro start x steps done before
  obtain ⟨hlast, hpolls⟩ := x.exec_loopSteps turns
  have hturn : ∀ k event, done.events[k]? = some event →
      (x.runUntil k).stopped = false ∧ (before k).turnEvent = event := fun _ _ => x.turn_of_events
  have hstopped : ∀ k, (x.runUntil k).stopped = Supervised.stopRequested (before k).env := x.stopped_runUntil
  have hnext : ∀ k, (x.runUntil k).stopped = false →
      before (k + 1) = (before k).poll.2.resume ((before k).poll.2.interlude (before k).poll.1) :=
    fun _ => x.last_runUntil_succ
  have hcount : done.runs = done.reports.length % UInt64.size := x.runs_runUntil turns
  refine ⟨⟨hlast, hpolls, ?_, hcount, fun hroom => hcount.trans (Nat.mod_eq_of_lt hroom)⟩, ⟨?_, ?_, ?_⟩, ?_, ?_⟩
  · rw [Answer.filterMap_run?, hpolls, List.filterMap_map]
    rfl
  · intro k event hk
    rw [← hstopped]
    exact (hturn k event hk).1
  · intro k hk hs
    exact x.runUntil_of_stopped ((hstopped k).trans hs) hk
  · intro hlt
    rw [← x.stopped_runUntil turns]
    cases hgo : (x.runUntil turns).stopped with
    | true => rfl
    | false =>
      have hall : done.events.length = turns := x.length_events hgo
      omega
  · intro k r hk
    obtain ⟨hgo, he⟩ := hturn k _ hk
    have hr := turnEvent_eq_ran.mp he
    refine ⟨hr, ?_, ?_⟩
    · rw [hnext k hgo, hr]
      rfl
    · intro hs
      obtain ⟨hlen, hcounted⟩ := x.runUntil_of_stop_in_turn hk ((hstopped (k + 1)).trans hs)
      exact ⟨hlen, (congrArg UInt64.toNat hcounted).trans (UInt64.toNat_add _ _)⟩
  · intro k ms hk y now
    obtain ⟨hgo, he⟩ := hturn k _ hk
    obtain ⟨hnone, hms⟩ := turnEvent_eq_parked.mp he
    have hsettled : Settled x := execShared_invariant step_settled (fun _ _ h => h) (setUp_settled ..) ops
    have hrange : TimeoutInRange x := execShared_timeoutInRange (setUp_timeoutInRange ..) ops
    have hx : Settled (before k) := x.last_of_exec (exec_settled hsettled) k
    have hT : TimeoutInRange (before k) := x.last_of_exec (exec_timeoutInRange hrange) k
    refine ⟨hnone, ?_, parked_cases hx hT he, ?_, ?_, ?_⟩ <;> rw [← hms]
    · rw [hnext k hgo, hnone]
      rfl
    · exact one_le_parkTime y
    · intro d hd hnow
      exact parkTime_le_deadline hd hnow
    · intro hf hf'
      have hreach : InReach x := execShared_along step_inReach (fun _ _ h => ⟨h.timeout, h.within⟩) (setUp_inReach ..) hf
      exact parkTime_le_maxTimeout (inReach_of_turn hreach hf' (List.getElem?_eq_some_iff.mp hk).1)

/-! ## A clock that never goes back -/

structure OnwardAround (ε : Type) [Supervised ε] : Prop extends Onward ε where
  onRun (r : RunReport) (e : ε) : Environment.clock e ≤ Environment.clock (Supervised.onRun r e).after
  park (ms : UInt64) (e : ε) : Environment.clock e ≤ Environment.clock (Supervised.park ms e).after

omit [FilterUnit υ] in
theorem OnwardAround.interlude (h : OnwardAround ε) (x : Estimator ε υ) (answer : Option RunReport) :
    Environment.clock x.env ≤ Environment.clock (x.interlude answer).after := by
  cases answer with
  | some r => exact h.onRun r x.env
  | none =>
    have hlook : Environment.clock x.env ≤ Environment.clock x.parkTime.2.env := by
      unfold parkTime untilDeadline
      split
      · exact h.tick x.env
      · exact UInt64.le_refl _
    exact UInt64.le_trans hlook (h.park _ _)

theorem along_forward_turnSteps (h : OnwardAround ε) (x : Estimator ε υ) : Along Forward x x.turnSteps := by
  have hmarks : ∀ (ms : List SensorMask) (y : Estimator ε υ), Along Forward y (ms.map .markMask) := by
    intro ms y
    refine along_forward h.toOnward (fun change hc => ?_) y
    obtain ⟨_, _, he⟩ := List.mem_map.mp hc
    cases he
  refine ⟨forward_of_onward h.toOnward x .poll (fun _ he => (by cases he)), ?_, hmarks _ _⟩
  exact ⟨h.interlude x.poll.2 x.poll.1, fun _ hr => (by cases hr)⟩

theorem along_forward_loopSteps (h : OnwardAround ε) (x : Estimator ε υ) (turns : Nat) :
    Along Forward x (x.loopSteps turns) := by
  induction turns with
  | zero => trivial
  | succ turns ih =>
    rw [loopSteps_succ]
    split
    · exact ih
    · rw [along_append, (x.exec_loopSteps turns).1]
      exact ⟨ih, along_forward_turnSteps h _⟩

end Estimator

/-- Only looking at the clock moves the clock of a rehearsal, and it moves it on. -/
theorem Simulation.Rehearsal.onwardAround : Estimator.OnwardAround Simulation.Rehearsal where
  tick r := Timestamp.le_later r.now r.pace
  read _ r := UInt64.le_refl r.now
  onRun _ r := UInt64.le_refl r.now
  park _ r := UInt64.le_refl r.now

namespace Estimator

/-! ## A rehearsal -/

open Simulation

/-- Every look at the clock takes 10 ms; a sample makes the first run, and the deadline at
    1100 the second, whose callback stops the loop. The turn at 1090 finds the deadline ahead,
    but its second look finds it reached: it parks for a millisecond. -/
theorem run_loop_polls_until_stopped_in_rehearsal :
    let rehearsal : Rehearsal := ⟨.silent, 1000, 10, 0, 100, 0, 2, [], false, #[]⟩
    let chain : FilterChain ScriptedUnit := .ofUnits [] (by decide)
    let start := setUp rehearsal chain .default .default
    let ops := [.own (.start none), .own (.mark .gyro)]
    let x := (start.execShared ops).2
    let done := x.runUntil 10
    AlongShared Forward start ops ∧ Along Forward x (x.loopSteps 10) ∧ done.events[4]? = some (.parked 1) ∧
      (∃ r, done.events[5]? = some (.ran r)) ∧ Supervised.stopRequested (x.runUntil 6).last.env = true ∧
      (x.runUntil 5).runs = 1 ∧ done.reports.length < UInt64.size ∧ done.runs = done.reports.length ∧
      (done.events.length = 6 ∧ done.runs = ((x.runUntil 5).runs + 1) % UInt64.size) ∧
      ∀ (k : Nat) ms, done.events[k]? = some (.parked ms) → ms.toNat ≤ maxTimeout.toNat := by
  have hf : ∀ y : Estimator Rehearsal ScriptedUnit,
      AlongShared Forward y [.own (.start none), .own (.mark .gyro)] := by
    refine alongShared_forward Rehearsal.onwardAround.toOnward fun change hc => ?_
    simp at hc
  have hf' : ∀ y : Estimator Rehearsal ScriptedUnit, Along Forward y (y.loopSteps 10) :=
    fun y => along_forward_loopSteps Rehearsal.onwardAround y 10
  refine ⟨hf _, hf' _, rfl, ⟨_, rfl⟩, rfl, rfl, by decide, ?_, ?_, ?_⟩
  · exact (run_loop_polls_until_stopped _ _ _ _ _ 10).1.2.2.2.2 (by decide)
  · exact ((run_loop_polls_until_stopped _ _ _ _ _ 10).2.2.1 5 _ rfl).2.2 rfl
  · intro k ms hk
    exact ((run_loop_polls_until_stopped _ _ _ _ _ 10).2.2.2 k ms hk).2.2.2.2.2 (hf _) (hf' _)

end Estimator

end SensorFusion
