/-
  SensorFusion.Proofs.ChainHistory — what a chain and its counters say after any calls.

  A chain is started and run in any order and any number of times; its units fail as they
  like. Seen from one unit, a start of the chain starts it and a run updates it, on what the
  units before it make of the snapshot (`unitCalls`). Nothing else ever happens to it, so
  after a history it is what its own calls make of it, and the reports say of it what its
  own calls said.

  Every counter stops at its limit by itself, and is the capped number of its events in the
  reports so far. The invariant is `Recorded`, of the reports and the chain: a step notes its
  report in the counters that its kind of call moves and leaves the others alone.

  The chain counts a whole report at once. `count?` counts the units' calls one by one, each
  in the slot of its place, and stops at a call that has no slot; it comes to the same, so
  no call is ever without one.

  Proved (`counters_tell_history`): all this for every chain that a builder makes.
-/

import SensorFusion.Proofs.Accounting
import SensorFusion.Proofs.FailSoft

namespace SensorFusion

/-! ## Counting call by call -/

/-- Count the calls that `p` holds of, each in the slot of its place, where the first is made
    at place `i`; nothing if a call to be counted has no slot. -/
def Counter.countEach? {α : Type} {n : Nat} (p : α → Bool) :
    Nat → List α → Vector UInt32 n → Option (Vector UInt32 n)
  | _, [], cs => some cs
  | i, x :: xs, cs =>
    if p x then
      if h : i < n then countEach? p (i + 1) xs (cs.set i (next cs[i])) else none
    else countEach? p (i + 1) xs cs

/-- With a slot for every call it comes to counting them all at once. -/
theorem Counter.countEach?_eq {α : Type} {n : Nat} (p : α → Bool) {i : Nat} {xs : List α} (h : i + xs.length ≤ n)
    (cs : Vector UInt32 n) :
    countEach? p i xs cs = some (bump cs fun j => decide (i ≤ j) && xs[j - i]?.any p) := by
  induction xs generalizing i cs with
  | nil =>
    refine congrArg some (Vector.ext fun j hj => ?_)
    simp [getElem_bump]
  | cons x xs ih =>
    rw [List.length_cons] at h
    have hi : i < n := by omega
    have hrest : i + 1 + xs.length ≤ n := by omega
    have hslot : ∀ j, (decide (i ≤ j) && (x :: xs)[j - i]?.any p) =
        if j = i then p x else decide (i + 1 ≤ j) && xs[j - (i + 1)]?.any p := fun j => by
      rcases Nat.lt_trichotomy j i with hlt | rfl | hgt
      · have hne : j ≠ i := by omega
        have hbefore : ¬ i ≤ j ∧ ¬ i + 1 ≤ j := by omega
        simp [hne, hbefore]
      · simp
      · have hne : j ≠ i := by omega
        have hafter : i ≤ j ∧ i + 1 ≤ j := by omega
        have hplace : j - i = j - (i + 1) + 1 := by omega
        simp [hne, hafter, hplace]
    have hnot : decide (i + 1 ≤ i) = false := decide_eq_false (by omega)
    simp only [hslot]
    unfold countEach?
    by_cases hp : p x = true
    · rw [if_pos hp, dif_pos hi, ih hrest]
      refine congrArg some (Vector.ext fun j hj => ?_)
      rw [getElem_bump, getElem_bump, Vector.getElem_set]
      by_cases hj : j = i
      · subst hj
        rw [hnot, if_pos rfl, if_pos rfl, hp]
        rfl
      · simp [hj, Ne.symm hj]
    · rw [if_neg hp, ih hrest]
      refine congrArg some (Vector.ext fun j hj => ?_)
      rw [getElem_bump, getElem_bump]
      by_cases hj : j = i
      · subst hj
        rw [hnot, if_pos rfl, if_neg hp]
        rfl
      · simp [hj]

/-! ## Calls -/

inductive ChainCall where
  | start
  | run (s : Snapshot)

inductive ChainEvent where
  | started (r : ChainReport)
  | ran (r : ChainReport)

inductive UnitCall where
  | start
  | update (s : Snapshot)

def ChainCall.isRun : ChainCall → Bool
  | start => false
  | run _ => true

namespace ChainEvent

def report : ChainEvent → ChainReport
  | started r | ran r => r

def started? : ChainEvent → Option ChainReport
  | started r => some r
  | ran _ => none

def ran? : ChainEvent → Option ChainReport
  | started _ => none
  | ran r => some r

theorem report_of_started? {e : ChainEvent} {r : ChainReport} (h : e.started? = some r) : e.report = r := by
  cases e with
  | started _ => exact Option.some.inj h
  | ran _ => cases h

theorem report_of_ran? {e : ChainEvent} {r : ChainReport} (h : e.ran? = some r) : e.report = r := by
  cases e with
  | started _ => cases h
  | ran _ => exact Option.some.inj h

end ChainEvent

section Calls

variable {υ : Type} [FilterUnit υ]

namespace UnitCall

def isUpdate : UnitCall → Bool
  | start => false
  | update _ => true

/-- How a unit fails when it is called, and the unit after it. -/
def perform (u : υ) : UnitCall → Option FilterError × υ
  | start => let r := FilterUnit.start u; (r.failure, r.unit)
  | update s => let r := FilterUnit.update u s; (r.failure, r.unit)

def performAll (u : υ) : List UnitCall → List (Option FilterError) × υ
  | [] => ([], u)
  | call :: calls =>
    let r := call.perform u
    let rest := performAll r.2 calls
    (r.1 :: rest.1, rest.2)

end UnitCall

theorem StartPass.ofUnits_eq (us : List υ) :
    ofUnits us =
      { units := us.map fun u => (FilterUnit.start u).unit
        calls := us.map fun u => (FilterUnit.name (FilterUnit.start u).unit, (FilterUnit.start u).failure) } := by
  induction us with
  | nil => rfl
  | cons u us ih =>
    rw [ofUnits, ih]
    rfl

namespace FilterChain

def step (c : FilterChain υ) : ChainCall → ChainEvent × FilterChain υ
  | .start => (.started c.start.1, c.start.2)
  | .run s => (.ran (c.run s).report, (c.run s).chain)

def exec (c : FilterChain υ) : List ChainCall → List ChainEvent × FilterChain υ
  | [] => ([], c)
  | call :: calls =>
    let r := c.step call
    let rest := r.2.exec calls
    (r.1 :: rest.1, rest.2)

def unitsCalled (c : FilterChain υ) : ChainCall → List (String × Option FilterError)
  | .start => (StartPass.ofUnits c.units).calls
  | .run s => (UpdatePass.ofUnits c.units s).calls

def unitCall (c : FilterChain υ) (i : Nat) : ChainCall → UnitCall
  | .start => .start
  | .run s => .update (UpdatePass.refined (c.units.take i) s)

def unitCalls (c : FilterChain υ) (i : Nat) : List ChainCall → List UnitCall
  | [] => []
  | call :: calls => c.unitCall i call :: (c.step call).2.unitCalls i calls

/-- The counters after a call, counted unit by unit; nothing if a unit has no slot. -/
def count? (c : FilterChain υ) (call : ChainCall) : Option ChainMetrics :=
  let m := c.metrics
  let units := c.unitsCalled call
  match call with
  | .start => do
    let startFailures ← Counter.countEach? (fun u => u.2.isSome) 0 units m.startFailures
    some { m with startFailures }
  | .run _ => do
    let invocations ← Counter.countEach? (fun _ => true) 0 units m.invocations
    let failures ← Counter.countEach? (fun u => u.2.isSome) 0 units m.failures
    some { m with runs := Counter.next m.runs, invocations, failures }

theorem length_unitsCalled (c : FilterChain υ) (call : ChainCall) : (c.unitsCalled call).length = c.length := by
  cases call with
  | start => rw [unitsCalled, StartPass.ofUnits_eq, List.length_map, length]
  | run s => exact UpdatePass.length_calls_ofUnits c.units s

theorem report_step (c : FilterChain υ) (call : ChainCall) :
    (c.step call).1.report = .ofCalls (c.unitsCalled call) := by
  cases call <;> rfl

theorem length_step (c : FilterChain υ) (call : ChainCall) : (c.step call).2.length = c.length := by
  cases call with
  | start => exact StartPass.length_units_ofUnits c.units
  | run s => exact UpdatePass.length_units_ofUnits c.units s

theorem getElem?_step (c : FilterChain υ) (call : ChainCall) (i : Nat) :
    (c.step call).2.units[i]? = c.units[i]?.map fun u => ((c.unitCall i call).perform u).2 := by
  cases call with
  | start =>
    show (StartPass.ofUnits c.units).units[i]? = _
    rw [StartPass.ofUnits_eq, List.getElem?_map]
    rfl
  | run s =>
    show (UpdatePass.ofUnits c.units s).units[i]? = _
    rw [UpdatePass.ofUnits_eq, List.getElem?_map, UpdatePass.updates, List.getElem?_mapIdx, Option.map_map]
    rfl

theorem getElem?_unitsCalled (c : FilterChain υ) (call : ChainCall) (i : Nat) :
    (c.unitsCalled call)[i]?.map Prod.snd = c.units[i]?.map fun u => ((c.unitCall i call).perform u).1 := by
  cases call with
  | start =>
    rw [unitsCalled, StartPass.ofUnits_eq, List.getElem?_map, Option.map_map]
    rfl
  | run s =>
    rw [unitsCalled, UpdatePass.calls_ofUnits, List.getElem?_map, UpdatePass.updates, List.getElem?_mapIdx,
      Option.map_map, Option.map_map]
    rfl

theorem failed_step (c : FilterChain υ) (call : ChainCall) (i : Nat) :
    (c.step call).1.report.failed i =
      (c.units[i]?.map fun u => ((c.unitCall i call).perform u).1).any Option.isSome := by
  have hroom : (c.unitsCalled call).length ≤ maxFilterUnits := by
    rw [length_unitsCalled]
    exact c.length_le
  rw [report_step, ChainReport.failed_ofCalls hroom, ← getElem?_unitsCalled, Option.any_map]

/-- The slots that a call of the chain moves are those of its report, and there is one for
    every unit. -/
theorem count?_eq (c : FilterChain υ) (call : ChainCall) : c.count? call = some (c.step call).2.metrics := by
  have hroom : 0 + (c.unitsCalled call).length ≤ maxFilterUnits := by
    rw [Nat.zero_add, length_unitsCalled]
    exact c.length_le
  have hfailed : (fun j => decide (0 ≤ j) && (c.unitsCalled call)[j - 0]?.any fun u => u.2.isSome) =
      (c.step call).1.report.failed := by
    funext j
    rw [report_step, ChainReport.failed_ofCalls (by omega)]
    simp
  have hcalled : (fun j => decide (0 ≤ j) && (c.unitsCalled call)[j - 0]?.any fun _ => true) =
      fun j => decide (j < (c.step call).1.report.executed) := by
    funext j
    rw [report_step, ChainReport.executed_ofCalls]
    by_cases hj : j < (c.unitsCalled call).length
    · simp [hj]
    · simp [hj]
  unfold count?
  simp only [Counter.countEach?_eq _ hroom, hfailed, hcalled]
  cases call <;> rfl

/-! ## Seen from one unit -/

/-- After any calls a unit is what its own calls make of it, and the reports say of it what
    its own calls said. -/
theorem exec_unit {c : FilterChain υ} {i : Nat} {u : υ} (hu : c.units[i]? = some u) (calls : List ChainCall) :
    let own := UnitCall.performAll u (c.unitCalls i calls)
    (c.exec calls).2.units[i]? = some own.2 ∧
      (c.exec calls).1.map (fun e => e.report.failed i) = own.1.map Option.isSome := by
  induction calls generalizing c u with
  | nil => exact ⟨hu, rfl⟩
  | cons call calls ih =>
    have hnext : (c.step call).2.units[i]? = some ((c.unitCall i call).perform u).2 := by
      rw [getElem?_step, hu]
      rfl
    have hreport : (c.step call).1.report.failed i = ((c.unitCall i call).perform u).1.isSome := by
      rw [failed_step, hu]
      rfl
    obtain ⟨hafter, hreports⟩ := ih hnext
    refine ⟨hafter, ?_⟩
    rw [exec, List.map_cons, hreports, hreport]
    rfl

theorem isUpdate_unitCalls (c : FilterChain υ) (i : Nat) (calls : List ChainCall) :
    (c.unitCalls i calls).map UnitCall.isUpdate = calls.map ChainCall.isRun := by
  induction calls generalizing c with
  | nil => rfl
  | cons call calls ih =>
    rw [unitCalls, List.map_cons, List.map_cons, ih]
    cases call <;> rfl

theorem length_ran (c : FilterChain υ) (calls : List ChainCall) :
    ((c.exec calls).1.filterMap ChainEvent.ran?).length = calls.countP ChainCall.isRun := by
  induction calls generalizing c with
  | nil => rfl
  | cons call calls ih =>
    rw [exec, List.countP_cons, ← ih (c.step call).2]
    cases call <;> rfl

end FilterChain

end Calls

/-! ## Counters of reports -/

structure ChainReport.Orderly (n : Nat) (r : ChainReport) : Prop where
  executed : r.executed = n
  failedOnce : (r.failures.map UnitFailure.index).Nodup
  failedWithin : ∀ f ∈ r.failures, f.index < n

theorem ChainReport.orderly_ofCalls (calls : List (String × Option FilterError)) :
    (ofCalls calls).Orderly calls.length where
  executed := executed_ofCalls calls
  failedOnce := (pairwise_index_ofCalls calls).imp fun h => Nat.ne_of_lt h
  failedWithin := fun _ hf => index_lt_ofCalls hf

namespace ChainReport.Orderly

variable {n : Nat} {r : ChainReport} (h : r.Orderly n)
include h

theorem failed_of_le {i : Nat} (hi : n ≤ i) : r.failed i = false := by
  rw [failed, List.any_eq_false]
  intro f hf
  have hlt := h.failedWithin f hf
  simp only [beq_iff_eq]
  omega

theorem countP_failed {m : Nat} (hm : n ≤ m) : (List.range m).countP r.failed = r.failures.length :=
  countP_range_any h.failedOnce fun f hf => Nat.lt_of_lt_of_le (h.failedWithin f hf) hm

end ChainReport.Orderly

namespace FilterChain

variable {υ : Type}

structure Recorded (n : Nat) (es : List ChainEvent) (c : FilterChain υ) : Prop where
  length : c.length = n
  orderly : ∀ e ∈ es, e.report.Orderly n
  ran : c.metrics.Counted (es.filterMap ChainEvent.ran?)
  invocations : Counter.Tally c.metrics.invocations (fun r i => i < r.executed) (es.filterMap ChainEvent.ran?)
  startFailures : Counter.Tally c.metrics.startFailures ChainReport.failed (es.filterMap ChainEvent.started?)

theorem ofUnits_recorded (us : List υ) (h : us.length ≤ maxFilterUnits) : Recorded us.length [] (ofUnits us h) where
  length := rfl
  orderly := fun _ he => by cases he
  ran := ChainMetrics.counted_zero
  invocations := Counter.tally_replicate
  startFailures := Counter.tally_replicate

namespace Recorded

variable {n : Nat} {es : List ChainEvent} {c : FilterChain υ} (h : Recorded n es c)
include h

theorem orderly_of_mem {f : ChainEvent → Option ChainReport} (hf : ∀ {e r}, f e = some r → e.report = r)
    {r : ChainReport} (hr : r ∈ es.filterMap f) : r.Orderly n := by
  obtain ⟨e, he, her⟩ := List.mem_filterMap.mp hr
  rw [← hf her]
  exact h.orderly e he

theorem orderly_ran {r : ChainReport} (hr : r ∈ es.filterMap ChainEvent.ran?) : r.Orderly n :=
  h.orderly_of_mem ChainEvent.report_of_ran? hr

theorem invocations_of_lt {i : Nat} (hi : i < n) (hslot : i < maxFilterUnits) :
    c.metrics.invocations[i] = c.metrics.runs := by
  have hall : (es.filterMap ChainEvent.ran?).countP (fun r => i < r.executed) =
      (es.filterMap ChainEvent.ran?).length := by
    refine List.countP_eq_length.mpr fun r hr => decide_eq_true ?_
    rw [(h.orderly_ran hr).executed]
    exact hi
  rw [h.invocations i hslot, h.ran.runs, hall]

theorem slots_of_le {i : Nat} (hi : n ≤ i) (hslot : i < maxFilterUnits) :
    c.metrics.invocations[i] = 0 ∧ c.metrics.failures[i] = 0 ∧ c.metrics.startFailures[i] = 0 := by
  have hran : (es.filterMap ChainEvent.ran?).countP (fun r => i < r.executed) = 0 := by
    refine List.countP_eq_zero.mpr fun r hr => ?_
    have hexecuted := (h.orderly_ran hr).executed
    simp only [decide_eq_true_eq]
    omega
  have hfailed : (es.filterMap ChainEvent.ran?).countP (fun r => r.failed i) = 0 :=
    List.countP_eq_zero.mpr fun r hr => by simp [(h.orderly_ran hr).failed_of_le hi]
  have hstarted : (es.filterMap ChainEvent.started?).countP (fun r => r.failed i) = 0 :=
    List.countP_eq_zero.mpr fun r hr => by simp [(h.orderly_of_mem ChainEvent.report_of_started? hr).failed_of_le hi]
  rw [h.invocations i hslot, h.ran.failures i hslot, h.startFailures i hslot, hran, hfailed, hstarted, Counter.ofNat_zero]
  exact ⟨rfl, rfl, rfl⟩

theorem failures_le_invocations {i : Nat} (hi : i < n) (hslot : i < maxFilterUnits) :
    c.metrics.failures[i] ≤ c.metrics.invocations[i] := by
  have hle : (es.filterMap ChainEvent.ran?).countP (fun r => r.failed i) ≤ (es.filterMap ChainEvent.ran?).length :=
    List.countP_le_length
  rw [h.invocations_of_lt hi hslot, h.ran.runs, h.ran.failures i hslot, UInt32.le_iff_toNat_le, Counter.toNat_ofNat,
    Counter.toNat_ofNat]
  omega

/-- The capped counters of the units add up to the capped number of all failed updates. -/
theorem totalFailures : c.metrics.totalFailures =
    Counter.ofNat ((es.filterMap ChainEvent.ran?).map fun r => r.failures.length).sum := by
  have hn : n ≤ maxFilterUnits := h.length ▸ c.length_le
  rw [ChainMetrics.totalFailures, h.ran.failures.total,
    List.map_congr_left fun r hr => (h.orderly_ran hr).countP_failed hn]

/-- By unit or by run, the failed updates are as many. -/
theorem sum_countP_failed : ((List.range n).map fun i => (es.filterMap ChainEvent.ran?).countP fun r => r.failed i).sum =
    ((es.filterMap ChainEvent.ran?).map fun r => r.failures.length).sum := by
  rw [← Counter.sum_countP_comm fun r i => ChainReport.failed r i,
    List.map_congr_left fun r hr => (h.orderly_ran hr).countP_failed (Nat.le_refl n)]

end Recorded

variable [FilterUnit υ]

theorem step_recorded {n : Nat} {es : List ChainEvent} {c : FilterChain υ} (h : Recorded n es c) (call : ChainCall) :
    Recorded n (es ++ [(c.step call).1]) (c.step call).2 := by
  have hlen : (c.step call).2.length = n := by rw [length_step, h.length]
  have horderly : ∀ e ∈ es ++ [(c.step call).1], e.report.Orderly n := by
    intro e he
    rcases List.mem_append.mp he with he | he
    · exact h.orderly e he
    · rw [List.mem_singleton.mp he, report_step, ← h.length, ← length_unitsCalled c call]
      exact ChainReport.orderly_ofCalls _
  cases call with
  | start =>
    have hran : (es ++ [(c.step .start).1]).filterMap ChainEvent.ran? = es.filterMap ChainEvent.ran? := by
      rw [List.filterMap_append]
      exact List.append_nil _
    have hstarted : (es ++ [(c.step .start).1]).filterMap ChainEvent.started? =
        es.filterMap ChainEvent.started? ++ [c.start.1] := by
      rw [List.filterMap_append]
      rfl
    refine ⟨hlen, horderly, ?_, ?_, ?_⟩
    · rw [hran]
      exact ⟨h.ran.runs, h.ran.failures⟩
    · rw [hran]
      exact h.invocations
    · rw [hstarted]
      exact h.startFailures.bump _
  | run s =>
    have hran : (es ++ [(c.step (.run s)).1]).filterMap ChainEvent.ran? =
        es.filterMap ChainEvent.ran? ++ [(c.run s).report] := by
      rw [List.filterMap_append]
      rfl
    have hstarted : (es ++ [(c.step (.run s)).1]).filterMap ChainEvent.started? =
        es.filterMap ChainEvent.started? := by
      rw [List.filterMap_append]
      exact List.append_nil _
    refine ⟨hlen, horderly, ?_, ?_, ?_⟩
    · rw [hran]
      exact h.ran.recordRun _
    · rw [hran]
      exact h.invocations.bump (c.run s).report
    · rw [hstarted]
      exact h.startFailures

theorem exec_recorded {n : Nat} {es : List ChainEvent} {c : FilterChain υ} (h : Recorded n es c)
    (calls : List ChainCall) : Recorded n (es ++ (c.exec calls).1) (c.exec calls).2 := by
  induction calls generalizing es c with
  | nil => simpa [exec] using h
  | cons call calls ih => simpa [exec] using ih (step_recorded h call)

/-- A chain that a builder made of some units, after starts and runs in any order.
    (1) It has these units and no others, in their order. Seen from one, each call of the
        chain was one call of it, a run an update of it, also if a start had failed or there
        was none; it is what these calls make of it, and the reports say how they failed.
    (2) The counter of runs is their number, up to the limit.
    (3) By unit, the updates are as many as the runs, and no fewer than the failed ones; the
        failed updates and starts are those of the reports, up to the limit. A slot without a
        unit counts nothing.
    (4) The total of failed updates is the true one of all units, which is that of all
        reports, up to the limit.
    (5) A call to come finds a slot for every unit. -/
theorem counters_tell_history {us : List υ} {chain : FilterChain υ} (hbuilt : ofList us = .ok chain)
    (calls : List ChainCall) :
    let done := chain.exec calls
    let runs := done.1.filterMap ChainEvent.ran?
    let starts := done.1.filterMap ChainEvent.started?
    let metrics := done.2.metrics
    let failed := ((List.range us.length).map fun i => runs.countP fun r => r.failed i).sum
    (chain.units = us ∧ done.2.length = us.length ∧
      ∀ i (hi : i < us.length),
        let own := chain.unitCalls i calls
        let after := UnitCall.performAll us[i] own
        own.map UnitCall.isUpdate = calls.map ChainCall.isRun ∧ done.2.units[i]? = some after.2 ∧
          done.1.map (fun e => e.report.failed i) = after.1.map Option.isSome) ∧
    (runs.length = calls.countP ChainCall.isRun ∧ metrics.runs.toNat = min (calls.countP ChainCall.isRun) Counter.limit) ∧
    (∀ i (hi : i < maxFilterUnits),
      (i < us.length → metrics.invocations[i] = metrics.runs ∧ metrics.failures[i] ≤ metrics.invocations[i] ∧
        metrics.failures[i].toNat = min (runs.countP fun r => r.failed i) Counter.limit ∧
        metrics.startFailures[i].toNat = min (starts.countP fun r => r.failed i) Counter.limit) ∧
      (us.length ≤ i → metrics.invocations[i] = 0 ∧ metrics.failures[i] = 0 ∧ metrics.startFailures[i] = 0)) ∧
    (metrics.totalFailures.toNat = min failed Counter.limit ∧
      failed = (runs.map fun r => r.failures.length).sum) ∧
    (∀ call, done.2.count? call = some (done.2.step call).2.metrics) := by
  intro done runs starts metrics failed
  obtain ⟨hroom, rfl⟩ := ofList_eq_ok_iff.mp hbuilt
  have h : Recorded us.length done.1 done.2 := exec_recorded (ofUnits_recorded us hroom) calls
  have hruns : runs.length = calls.countP ChainCall.isRun := length_ran (ofUnits us hroom) calls
  have hfailed : failed = (runs.map fun r => r.failures.length).sum := h.sum_countP_failed
  refine ⟨⟨rfl, h.length, fun i hi => ?_⟩, ⟨hruns, ?_⟩, fun i hi => ⟨fun hunit => ?_, fun hnone => ?_⟩,
    ⟨?_, hfailed⟩, fun call => done.2.count?_eq call⟩
  · exact ⟨isUpdate_unitCalls _ i calls, exec_unit (List.getElem?_eq_getElem hi) calls⟩
  · rw [← hruns, h.ran.runs, Counter.toNat_ofNat]
  · refine ⟨h.invocations_of_lt hunit hi, h.failures_le_invocations hunit hi, ?_, ?_⟩
    · rw [h.ran.failures i hi, Counter.toNat_ofNat]
    · rw [h.startFailures i hi, Counter.toNat_ofNat]
  · exact h.slots_of_le hnone hi
  · rw [hfailed, h.totalFailures, Counter.toNat_ofNat]

open Simulation

/-- A unit that no start readies, before one that needs none: run before, between and after
    the starts, both are updated in every run, and the first fails in all. -/
theorem counters_tell_history_of_unready_unit :
    let us := [ScriptedUnit.new "unready" (some .notInitialized) none [.needStart], ScriptedUnit.new "steady" none none []]
    let chain : FilterChain ScriptedUnit := .ofUnits us (by decide)
    let calls : List ChainCall := [.run .empty, .start, .run .empty, .start]
    let done := chain.exec calls
    let runs := done.1.filterMap ChainEvent.ran?
    ofList us = .ok chain ∧
      done.2.metrics =
        ⟨2, #v[2, 2, 0, 0, 0, 0, 0, 0], #v[2, 0, 0, 0, 0, 0, 0, 0], #v[2, 0, 0, 0, 0, 0, 0, 0]⟩ ∧
      (chain.unitCalls 0 calls).map UnitCall.isUpdate = [true, false, true, false] ∧
      (done.1.map fun e => e.report.failed 0) = [true, true, true, true] ∧
      (runs.map fun r => r.failures.length).sum = 2 := by
  intro us chain calls done runs
  have hbuilt : ofList us = .ok chain := ofList_of_length_le (by decide)
  have hmetrics : done.2.metrics =
      ⟨2, #v[2, 2, 0, 0, 0, 0, 0, 0], #v[2, 0, 0, 0, 0, 0, 0, 0], #v[2, 0, 0, 0, 0, 0, 0, 0]⟩ := by decide
  obtain ⟨⟨_, _, hunits⟩, _, _, ⟨htotal, hsum⟩, _⟩ := counters_tell_history hbuilt calls
  obtain ⟨hcalls, _, hfailed⟩ := hunits 0 (by decide)
  refine ⟨hbuilt, hmetrics, hcalls, hfailed.trans (by decide), ?_⟩
  have hlim : 2 < Counter.limit := by decide
  have hcount : 2 = min (runs.map fun r => r.failures.length).sum Counter.limit := by
    rw [← hsum, ← htotal, hmetrics]
    decide
  omega

end FilterChain

end SensorFusion
