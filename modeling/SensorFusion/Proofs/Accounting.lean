/-
  SensorFusion.Proofs.Accounting — the counters and the reports of an execution agree.

  Two sets of counters are kept apart: the scheduler counts its runs, the dropped samples
  by class and the failed updates of all units together, and the chain counts its runs and
  the failed updates by unit. Each stops at its limit by itself.

  Proved (`runs_accounted`), for every execution from `setUp` with a new chain, also one in
  which others consume from the tracker: each report splits the classes it consumed into
  accepted and rejected ones, whatever the units do; every counter of the scheduler is the
  capped number of its events in the reports; and the chain's counters give the same
  totals. The invariant is `Accurate`, of the reports so far and the estimator. The totals
  by class and by unit come from double counting: a report has at most one rejection of a
  class and one failure of a unit (`RunReport.Balanced`), so its slots are as many as its
  rejections and failures.
-/

import Mathlib.Data.List.Perm.Basic
import SensorFusion.Proofs.Counting
import SensorFusion.Proofs.Arrivals
import SensorFusion.Proofs.Lifecycle
import SensorFusion.Proofs.Screening
import SensorFusion.Simulation.Unit
import SensorFusion.Simulation.World

namespace SensorFusion

/-- Entries in different slots take as many slots as there are entries. -/
theorem countP_range_any {α : Type} {slot : α → Nat} {n : Nat} {l : List α} (hn : (l.map slot).Nodup)
    (hl : ∀ x ∈ l, slot x < n) : (List.range n).countP (fun i => l.any fun x => slot x == i) = l.length := by
  have hp : List.Perm ((List.range n).filter fun i => l.any fun x => slot x == i) (l.map slot) := by
    refine (List.perm_ext_iff_of_nodup (List.nodup_range.filter _) hn).mpr fun i => ?_
    simp only [List.mem_filter, List.mem_range, List.any_eq_true, beq_iff_eq, List.mem_map]
    constructor
    · rintro ⟨_, x, hx, rfl⟩
      exact ⟨x, hx, rfl⟩
    · rintro ⟨x, hx, rfl⟩
      exact ⟨hl x hx, x, hx, rfl⟩
  rw [List.countP_eq_length_filter, hp.length_eq, List.length_map]

/-! ## One report -/

namespace RunReport

def dropsAt (r : RunReport) (i : Nat) : Bool := r.rejections.any fun x => x.sensor.index.val == i

def intake (r : RunReport) : SensorMask × SensorMask × SensorMask × List Rejection :=
  (r.consumed, r.accepted, r.rejected, r.rejections)

/-- The report drops a class once at most, and names each failed unit once. -/
structure Balanced (r : RunReport) : Prop where
  split : Split r.consumed r.accepted r.rejected r.rejections
  failedOnce : (r.chain.failures.map UnitFailure.index).Nodup
  failedWithin : ∀ f ∈ r.chain.failures, f.index < maxFilterUnits

namespace Balanced

variable {r : RunReport} (h : r.Balanced)
include h

theorem dropsAt_index (c : SensorClass) : r.dropsAt c.index = r.rejected.has c := by
  rw [← h.split.classes, SensorMask.has_ofClasses, dropsAt, Bool.eq_iff_iff, List.any_eq_true, decide_eq_true_iff,
    List.mem_map]
  refine exists_congr fun x => and_congr_right fun _ => ?_
  rw [beq_iff_eq]
  exact ⟨fun hi => SensorClass.index_injective _ _ (Fin.ext hi), fun hc => by rw [hc]⟩

theorem nodup_slots : (r.rejections.map fun x => x.sensor.index).Nodup := by
  have hn : ((r.rejections.map Rejection.sensor).map SensorClass.index).Nodup :=
    h.split.once.map fun c d => SensorClass.index_injective c d
  rwa [List.map_map] at hn

theorem countP_dropsAt : (List.range sensorClassCount).countP r.dropsAt = r.rejections.length := by
  refine countP_range_any ?_ fun x _ => x.sensor.index.isLt
  have hn : ((r.rejections.map fun x => x.sensor.index).map Fin.val).Nodup :=
    h.nodup_slots.map fun i j => Fin.ext
  rwa [List.map_map] at hn

/-- Counted one by one, the rejections fill the slots of the classes that the report drops. -/
theorem countInto_rejections (cs : Vector UInt32 sensorClassCount) :
    Counter.countInto cs (r.rejections.map fun x => x.sensor.index) = Counter.bump cs r.dropsAt := by
  rw [Counter.countInto_of_nodup h.nodup_slots]
  congr
  funext i
  rw [List.any_map]
  rfl

theorem countP_failed : (List.range maxFilterUnits).countP r.chain.failed = r.chain.failures.length :=
  countP_range_any h.failedOnce h.failedWithin

theorem failures_le : r.chain.failures.length ≤ Counter.limit := by
  have hle : (List.range maxFilterUnits).countP r.chain.failed ≤ maxFilterUnits := by
    simpa using List.countP_le_length (p := r.chain.failed) (l := List.range maxFilterUnits)
  have hlim : maxFilterUnits ≤ Counter.limit := by decide
  rw [h.countP_failed] at hle
  omega

end Balanced

end RunReport

/-! ## Counters of reports -/

structure SchedulerStats.Counted (s : SchedulerStats) (rs : List RunReport) : Prop where
  runs : s.runs = Counter.ofNat rs.length
  sensorRuns : s.sensorRuns = Counter.ofNat (rs.countP fun r => r.trigger = .sensorUpdate)
  timeoutRuns : s.timeoutRuns = Counter.ofNat (rs.countP fun r => r.trigger = .timeout)
  staleRuns : s.staleRuns = Counter.ofNat (rs.countP fun r => r.alarm = .warning)
  dropped : Counter.Tally s.dropped RunReport.dropsAt rs
  filterFailures : s.filterFailures = Counter.ofNat (rs.map fun r => r.chain.failures.length).sum

theorem SchedulerStats.counted_zero : SchedulerStats.zero.Counted [] :=
  ⟨rfl, rfl, rfl, rfl, Counter.tally_replicate, rfl⟩

theorem SchedulerStats.Counted.record {s : SchedulerStats} {rs : List RunReport} (h : s.Counted rs) {r : RunReport}
    (hr : r.Balanced) : (s.record r).Counted (rs ++ [r]) where
  runs := by
    rw [List.length_append, SchedulerStats.record, h.runs]
    exact Counter.next_ofNat _
  sensorRuns := by
    rw [SchedulerStats.record, h.sensorRuns]
    exact Counter.next_ofNat_countP (fun r => r.trigger = .sensorUpdate) rs r
  timeoutRuns := by
    rw [SchedulerStats.record, h.timeoutRuns]
    exact Counter.next_ofNat_countP (fun r => r.trigger = .timeout) rs r
  staleRuns := by
    rw [SchedulerStats.record, h.staleRuns]
    exact Counter.next_ofNat_countP (fun r => r.alarm = .warning) rs r
  dropped := by
    rw [SchedulerStats.record, hr.countInto_rejections]
    exact h.dropped.bump r
  filterFailures := by
    rw [SchedulerStats.record, h.filterFailures, Counter.ofNat_of_le hr.failures_le, Counter.add_ofNat,
      List.map_append, List.sum_append]
    simp

structure ChainMetrics.Counted (m : ChainMetrics) (rs : List ChainReport) : Prop where
  runs : m.runs = Counter.ofNat rs.length
  failures : Counter.Tally m.failures ChainReport.failed rs

theorem ChainMetrics.counted_zero : ChainMetrics.zero.Counted [] := ⟨rfl, Counter.tally_replicate⟩

theorem ChainMetrics.Counted.recordRun {m : ChainMetrics} {rs : List ChainReport} (h : m.Counted rs) (r : ChainReport) :
    (m.recordRun r).Counted (rs ++ [r]) where
  runs := by
    rw [List.length_append, ChainMetrics.recordRun, h.runs]
    exact Counter.next_ofNat _
  failures := h.failures.bump r

/-! ## The invariant -/

namespace Estimator

variable {ε υ : Type} [Environment ε]

def withChain {υ' : Type} (x : Estimator ε υ) (chain : FilterChain υ') : Estimator ε υ' :=
  { env := x.env
    tracker := x.tracker
    scheduler :=
      { chain
        gate := x.scheduler.gate
        home := x.scheduler.home
        alarm := x.scheduler.alarm
        state := x.scheduler.state
        timeout := x.scheduler.timeout
        deadline := x.scheduler.deadline
        stats := x.scheduler.stats }
    published := x.published }

variable [FilterUnit υ]

structure Accurate (rs : List RunReport) (x : Estimator ε υ) : Prop where
  sensors : x.tracker.pending.inter .sensors = x.tracker.pending
  balanced : ∀ r ∈ rs, r.Balanced
  stats : x.scheduler.stats.Counted rs
  metrics : x.scheduler.chain.metrics.Counted (rs.map RunReport.chain)

omit [Environment ε] [FilterUnit υ] in
theorem setUp_accurate (env : ε) (units : List υ) (hunits : units.length ≤ maxFilterUnits) (gate : SanityGate)
    (settings : EstimationSettings) : Accurate [] (setUp env (.ofUnits units hunits) gate settings) where
  sensors := SensorMask.empty_inter _
  balanced := fun r hr => by cases hr
  stats := SchedulerStats.counted_zero
  metrics := ChainMetrics.counted_zero

theorem ran_balanced (x : Estimator ε υ) (t : Trigger) (hx : x.tracker.pending.inter .sensors = x.tracker.pending) :
    (x.ran t).1.Balanced where
  split := by
    have h := x.scheduler.gate.apply_split x.scheduler.home x.tracker.pending (Environment.tick x.env)
    rw [hx] at h
    exact h
  failedOnce := (ChainReport.pairwise_index_ofCalls _).imp fun h => Nat.ne_of_lt h
  failedWithin := fun _ hf => FilterChain.index_lt_run hf

theorem step_accurate (rs : List RunReport) (x : Estimator ε υ) (op : Op ε) (h : Accurate rs x) :
    Accurate (rs ++ (x.step op).1.run?.toList) (x.step op).2 := by
  have hs : (x.step op).2.tracker.pending.inter .sensors = (x.step op).2.tracker.pending := by
    rw [(x.step_accounted op).2]
    exact sensors_unreadAfter h.sensors _
  rcases x.step_run_cases op with ⟨hn, hsame⟩ | ⟨t, rfl, _, hp⟩
  · rw [hn, Option.toList_none, List.append_nil]
    refine ⟨hs, h.balanced, hsame.stats ▸ h.stats, ?_, ?_⟩
    · exact hsame.runs ▸ h.metrics.runs
    · exact hsame.failures ▸ h.metrics.failures
  · have hb := x.ran_balanced t h.sensors
    have hstep : x.step .poll = (.polled (some (x.ran t).1), (x.ran t).2) := by simp only [step, hp]
    rw [hstep] at hs ⊢
    refine ⟨hs, fun r hr => ?_, h.stats.record hb, ?_⟩
    · rcases List.mem_append.mp hr with hr | hr
      · exact h.balanced r hr
      · rw [List.mem_singleton.mp hr]
        exact hb
    · rw [Answer.run?, Option.toList_some, List.map_append]
      exact h.metrics.recordRun _

theorem stepShared_accurate (rs : List RunReport) (x : Estimator ε υ) (op : SharedOp ε) (h : Accurate rs x) :
    Accurate (rs ++ (x.stepShared op).1.toList) (x.stepShared op).2 := by
  cases op with
  | own op => exact step_accurate rs x op h
  | take =>
    rw [stepShared, Option.toList_none, List.append_nil]
    exact ⟨SensorMask.empty_inter _, h.balanced, h.stats, h.metrics⟩
  | takeDispatch =>
    rw [stepShared, Option.toList_none, List.append_nil]
    exact ⟨h.sensors, h.balanced, h.stats, h.metrics⟩

/-- What a run says of its samples is settled before the chain sees them. -/
theorem intake_poll_withChain {υ' : Type} [FilterUnit υ'] (x : Estimator ε υ) (chain : FilterChain υ') :
    (x.withChain chain).poll.1.map RunReport.intake = x.poll.1.map RunReport.intake := by
  rcases x.poll_cases with ⟨hn, hp⟩ | ⟨ha, ht, hp⟩ | ⟨t, ha, ht, hp⟩
  · rcases (x.withChain chain).poll_cases with ⟨_, hq⟩ | ⟨ha, _⟩ | ⟨_, ha, _⟩
    · rw [hp, hq]
    · exact absurd ha hn
    · exact absurd ha hn
  · rw [hp, poll_of_no_trigger (x := x.withChain chain) ha ht]
  · rw [hp, poll_of_trigger (x := x.withChain chain) ha ht]
    rfl

/-- Every run is accounted for, in any execution from `setUp` with a new chain, also when
    others consume from the tracker:
    (1) each report splits the classes it consumed into accepted and rejected ones, and its
        rejections name the rejected ones;
    (2) a run would have said the same of its samples with any other chain;
    (3) the scheduler's counters are the numbers of the reports' events, up to the limit;
    (4) so are the chain's counters of runs and of failed updates, together. -/
theorem runs_accounted (env : ε) (units : List υ) (hunits : units.length ≤ maxFilterUnits) (gate : SanityGate)
    (settings : EstimationSettings) (ops : List (SharedOp ε)) :
    let done := (setUp env (.ofUnits units hunits) gate settings).execShared ops
    let reports := done.1
    let stats := done.2.scheduler.stats
    let metrics := done.2.scheduler.chain.metrics
    (∀ r ∈ reports, r.accepted.inter r.rejected = .empty ∧ r.accepted.union r.rejected = r.consumed ∧
      SensorMask.ofClasses (r.rejections.map Rejection.sensor) = r.rejected) ∧
    (∀ {υ' : Type} [FilterUnit υ'] (chain : FilterChain υ'),
      (done.2.withChain chain).poll.1.map RunReport.intake = done.2.poll.1.map RunReport.intake) ∧
    stats.runs.toNat = min reports.length Counter.limit ∧
    stats.sensorRuns.toNat = min (reports.countP fun r => r.trigger = .sensorUpdate) Counter.limit ∧
    stats.timeoutRuns.toNat = min (reports.countP fun r => r.trigger = .timeout) Counter.limit ∧
    stats.staleRuns.toNat = min (reports.countP fun r => r.alarm = .warning) Counter.limit ∧
    (∀ c : SensorClass, stats.dropped[c.index].toNat = min (reports.countP fun r => r.rejected.has c) Counter.limit) ∧
    stats.totalDropped.toNat = min (reports.map fun r => r.rejections.length).sum Counter.limit ∧
    stats.filterFailures.toNat = min (reports.map fun r => r.chain.failures.length).sum Counter.limit ∧
    metrics.totalFailures = stats.filterFailures ∧
    metrics.runs = stats.runs := by
  intro done reports stats metrics
  obtain ⟨_, hb, hs, hm⟩ : Accurate reports done.2 :=
    execShared_history stepShared_accurate (setUp_accurate env units hunits gate settings) ops
  have hdrop : stats.totalDropped = Counter.ofNat (reports.map fun r => r.rejections.length).sum := by
    rw [SchedulerStats.totalDropped, hs.dropped.total, List.map_congr_left fun r hr => (hb r hr).countP_dropsAt]
  have hfail : metrics.totalFailures = Counter.ofNat (reports.map fun r => r.chain.failures.length).sum := by
    rw [ChainMetrics.totalFailures, hm.failures.total, List.map_map]
    exact congrArg (fun l : List Nat => Counter.ofNat l.sum) (List.map_congr_left fun r hr => (hb r hr).countP_failed)
  refine ⟨fun r hr => ⟨(hb r hr).split.disjoint, (hb r hr).split.union, (hb r hr).split.classes⟩,
    fun chain => done.2.intake_poll_withChain chain, ?_, ?_, ?_, ?_, fun c => ?_, ?_, ?_, ?_, ?_⟩
  · rw [hs.runs, Counter.toNat_ofNat]
  · rw [hs.sensorRuns, Counter.toNat_ofNat]
  · rw [hs.timeoutRuns, Counter.toNat_ofNat]
  · rw [hs.staleRuns, Counter.toNat_ofNat]
  · have hc : stats.dropped[c.index] = Counter.ofNat (reports.countP fun r => r.dropsAt c.index) :=
      hs.dropped c.index.val c.index.isLt
    rw [hc, Counter.toNat_ofNat, List.countP_congr fun r hr => by rw [(hb r hr).dropsAt_index c]]
  · rw [hdrop, Counter.toNat_ofNat]
  · rw [hs.filterFailures, Counter.toNat_ofNat]
  · rw [hfail, hs.filterFailures]
  · rw [hm.runs, hs.runs, List.length_map]

/-! ## Losses in a simulated world -/

open Simulation

/-- A unit that clears the snapshot and fails, over a broken gyroscope: a run drops its
    sample, the next finds that another consumer has taken the accelerometer's, and the
    third has none. -/
theorem runs_accounted_with_losses :
    let world : World := ⟨{ Bus.silent with gyro := ⟨0 / 0, 1, 2⟩ }, .manual 0, #[]⟩
    let failing := ScriptedUnit.new "failing" none none [.assign (.updated .empty), .fail .missingInput]
    let later : Op World := .environment fun w => { w with clock := w.clock.advance 100 }
    let ops : List (SharedOp World) :=
      [.own (.start none), .own (.mark .gyro), .own (.mark .baro), .own .poll, .own (.mark .accel), .take, .own .poll,
        .own later, .own .poll]
    let done := (setUp world (.ofUnits [failing] (by decide)) .default .default).execShared ops
    [failing].length ≤ maxFilterUnits ∧
      done.2.scheduler.stats = ⟨3, 2, 1, 1, #v[1, 0, 0, 0, 0, 0, 0], 3⟩ ∧
      (∀ r ∈ done.1, r.accepted.inter r.rejected = .empty ∧ r.accepted.union r.rejected = r.consumed ∧
        SensorMask.ofClasses (r.rejections.map Rejection.sensor) = r.rejected) ∧
      (done.1.map fun r => r.rejections.length).sum = 1 ∧
      done.2.scheduler.chain.metrics.totalFailures = 3 := by
  intro world failing later ops done
  have hunits : [failing].length ≤ maxFilterUnits := by decide
  have hstats : done.2.scheduler.stats = ⟨3, 2, 1, 1, #v[1, 0, 0, 0, 0, 0, 0], 3⟩ := by decide
  obtain ⟨hsplit, _, _, _, _, _, _, hdrop, _, hfail, _⟩ := runs_accounted world [failing] hunits .default .default ops
  refine ⟨hunits, hstats, hsplit, ?_, ?_⟩
  · have hone : 1 = min (done.1.map fun r => r.rejections.length).sum Counter.limit := by
      have htotal : done.2.scheduler.stats.totalDropped = 1 := by rw [hstats]; decide
      rw [← UInt32.toNat_one, ← htotal]
      exact hdrop
    have hlim : 1 < Counter.limit := by decide
    omega
  · rw [hfail, hstats]

end Estimator

end SensorFusion
