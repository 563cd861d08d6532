/-
  SensorFusion.Proofs.Arrivals — no sample is lost and none is counted twice.

  The log of an execution lists what arrived and which runs were made, in the order in
  which the tracker saw them: a run stands where it took the unread samples, and what
  arrives while it reads sensors or updates units follows it. Cut at the runs, the log
  falls into batches of arrivals (`batches`), one before each run and one after the last.

  Proved, for every execution from `setUp`: the k-th run consumes the sensor classes of
  the k-th batch, and the last batch is what is still unread
  (`each_arrival_consumed_by_one_run`). The invariant is `Accounted`: every run of the
  log consumes what the log before it leaves unread. What the log has of the middle of a
  run is what its reads and its units bring (`midRun_eq`).
-/

import SensorFusion.Proofs.Poll
import SensorFusion.Simulation.Unit
import SensorFusion.Simulation.World

namespace SensorFusion

inductive Happening where
  /-- Samples arrived. -/
  | arrived (m : SensorMask)
  /-- A run took the unread samples. -/
  | ran (report : RunReport)

namespace Happening

def arrival? : Happening → Option SensorMask
  | arrived m => some m
  | ran _ => none

def run? : Happening → Option RunReport
  | arrived _ => none
  | ran r => some r

end Happening

namespace Estimator

variable {ε υ : Type} [Environment ε] [FilterUnit υ]

/-- What one step adds to the log. -/
def happenings (x : Estimator ε υ) : Op ε → List Happening
  | .mark c => [.arrived c.bit]
  | .markMask m => [.arrived m]
  | .poll =>
    match x.poll.1 with
    | some report => .ran report :: x.midRun.map .arrived
    | none => []
  | _ => []

def log (x : Estimator ε υ) : List (Op ε) → List Happening
  | [] => []
  | op :: ops => x.happenings op ++ (x.step op).2.log ops

end Estimator

/-! ## Batches of arrivals -/

def sensorsIn : List SensorMask → SensorMask
  | [] => .empty
  | m :: ms => (m.inter .sensors).union (sensorsIn ms)

/-- The arrivals between the runs of a log: those before its first run, those between it
    and the second, and so on; the last batch holds those after the last run. -/
def batches : List Happening → List (List SensorMask)
  | [] => [[]]
  | .arrived m :: log => (batches log).modifyHead (m :: ·)
  | .ran _ :: log => [] :: batches log

def ArrivedSinceRun (c : SensorClass) (log : List Happening) : Prop :=
  ∃ earlier m between, log = earlier ++ .arrived m :: between ∧ (∀ r, .ran r ∉ between) ∧ m.has c = true

theorem batches_ne_nil (log : List Happening) : batches log ≠ [] := by
  induction log with
  | nil => simp [batches]
  | cons e log ih => cases e <;> simp [batches, ih]

/-- Every arrival is in exactly one batch. -/
theorem flatten_batches (log : List Happening) : (batches log).flatten = log.filterMap Happening.arrival? := by
  induction log with
  | nil => rfl
  | cons e log ih =>
    cases e with
    | arrived m =>
      obtain ⟨b, bs, hb⟩ := List.exists_cons_of_ne_nil (batches_ne_nil log)
      simp [batches, hb, Happening.arrival?, ← ih]
    | ran r => simp [batches, Happening.arrival?, List.filterMap_cons, ih]

theorem arrivedSinceRun_cons {c : SensorClass} {e : Happening} {log : List Happening} :
    ArrivedSinceRun c (e :: log) ↔
      (∃ m, e = .arrived m ∧ (∀ r, .ran r ∉ log) ∧ m.has c = true) ∨ ArrivedSinceRun c log := by
  constructor
  · rintro ⟨earlier, m, between, he, hno, hc⟩
    cases earlier with
    | nil =>
      obtain ⟨rfl, rfl⟩ := List.cons.inj he
      exact Or.inl ⟨m, rfl, hno, hc⟩
    | cons e' earlier =>
      obtain ⟨rfl, rfl⟩ := List.cons.inj he
      exact Or.inr ⟨earlier, m, between, rfl, hno, hc⟩
  · rintro (⟨m, rfl, hno, hc⟩ | ⟨earlier, m, between, rfl, hno, hc⟩)
    · exact ⟨[], m, log, rfl, hno, hc⟩
    · exact ⟨e :: earlier, m, between, rfl, hno, hc⟩

/-! ## What a log leaves unread -/

/-- What is unread after `log`, when `p` was unread before it. -/
def unreadAfter (p : SensorMask) : List Happening → SensorMask
  | [] => p
  | .arrived m :: log => unreadAfter (p.union (m.inter .sensors)) log
  | .ran _ :: log => unreadAfter .empty log

/-- Every run of `log` consumes what is unread when it comes. -/
def Accounted (p : SensorMask) : List Happening → Prop
  | [] => True
  | .arrived m :: log => Accounted (p.union (m.inter .sensors)) log
  | .ran r :: log => r.consumed = p ∧ Accounted .empty log

theorem unreadAfter_append (p : SensorMask) (log log' : List Happening) :
    unreadAfter p (log ++ log') = unreadAfter (unreadAfter p log) log' := by
  induction log generalizing p with
  | nil => rfl
  | cons e log ih => cases e <;> exact ih _

theorem accounted_append {p : SensorMask} {log log' : List Happening} :
    Accounted p (log ++ log') ↔ Accounted p log ∧ Accounted (unreadAfter p log) log' := by
  induction log generalizing p with
  | nil => simp [Accounted, unreadAfter]
  | cons e log ih => cases e <;> simp [Accounted, unreadAfter, ih, and_assoc]

theorem sensorsIn_append (ms ns : List SensorMask) : sensorsIn (ms ++ ns) = (sensorsIn ms).union (sensorsIn ns) := by
  induction ms with
  | nil => exact (SensorMask.empty_union _).symm
  | cons m ms ih => rw [List.cons_append, sensorsIn, sensorsIn, ih, SensorMask.union_assoc]

@[simp] theorem sensorsIn_singleton (m : SensorMask) : sensorsIn [m] = m.inter .sensors := SensorMask.union_empty _

theorem has_sensorsIn (ms : List SensorMask) (c : SensorClass) : (sensorsIn ms).has c = ms.any (·.has c) := by
  induction ms with
  | nil => exact SensorMask.has_empty c
  | cons m ms ih => simp [sensorsIn, ih]

theorem sensorsIn_inter_sensors (ms : List SensorMask) : (sensorsIn ms).inter .sensors = sensorsIn ms := by
  induction ms with
  | nil => exact SensorMask.empty_inter _
  | cons m ms ih => rw [sensorsIn, SensorMask.union_inter_distrib, SensorMask.inter_inter_self, ih]

/-- Neither the order of the masks matters nor how often one occurs. -/
theorem sensorsIn_congr {ms ns : List SensorMask} (h : ∀ m, m ∈ ms ↔ m ∈ ns) : sensorsIn ms = sensorsIn ns :=
  SensorMask.eq_of_has (sensorsIn_inter_sensors ms) (sensorsIn_inter_sensors ns) fun c => by
    rw [has_sensorsIn, has_sensorsIn, Bool.eq_iff_iff, List.any_eq_true, List.any_eq_true]
    exact exists_congr fun m => and_congr_left' (h m)

theorem unreadAfter_arrived (p : SensorMask) (ms : List SensorMask) :
    unreadAfter p (ms.map .arrived) = p.union (sensorsIn ms) := by
  induction ms generalizing p with
  | nil => exact (SensorMask.union_empty p).symm
  | cons m ms ih => rw [List.map_cons, unreadAfter, ih, sensorsIn, SensorMask.union_assoc]

theorem accounted_arrived (p : SensorMask) (ms : List SensorMask) : Accounted p (ms.map .arrived) := by
  induction ms generalizing p with
  | nil => trivial
  | cons m ms ih => exact ih _

/-- The runs of a log consume its batches, in order. -/
theorem map_sensorsIn_batches {p : SensorMask} {log : List Happening} (h : Accounted p log) :
    ((batches log).map sensorsIn).modifyHead p.union =
      (log.filterMap Happening.run?).map RunReport.consumed ++ [unreadAfter p log] := by
  -- what was unread before the log goes with its first batch
  induction log generalizing p with
  | nil => simp [batches, sensorsIn, unreadAfter]
  | cons e log ih =>
    cases e with
    | arrived m =>
      obtain ⟨b, bs, hb⟩ := List.exists_cons_of_ne_nil (batches_ne_nil log)
      have := ih h
      simp only [hb, List.map_cons, List.modifyHead_cons, SensorMask.union_assoc] at this
      simpa [batches, hb, Happening.run?, List.filterMap_cons, sensorsIn, unreadAfter] using this
    | ran r =>
      obtain ⟨b, bs, hb⟩ := List.exists_cons_of_ne_nil (batches_ne_nil log)
      have := ih h.2
      simp only [hb, List.map_cons, List.modifyHead_cons, SensorMask.empty_union] at this
      simpa [batches, hb, Happening.run?, List.filterMap_cons, sensorsIn, unreadAfter, h.1] using this

theorem has_unreadAfter {p : SensorMask} {log : List Happening} {c : SensorClass} :
    (unreadAfter p log).has c = true ↔ (p.has c = true ∧ ∀ r, .ran r ∉ log) ∨ ArrivedSinceRun c log := by
  induction log generalizing p with
  | nil => simp [unreadAfter, ArrivedSinceRun]
  | cons e log ih =>
    rw [arrivedSinceRun_cons]
    cases e with
    | arrived m =>
      rw [unreadAfter, ih]
      simp only [SensorMask.has_union, SensorMask.has_inter, SensorMask.has_sensors, Bool.and_true, Bool.or_eq_true,
        List.mem_cons, reduceCtorEq, false_or, Happening.arrived.injEq, exists_eq_left', or_and_right, or_assoc]
      rw [and_comm (a := m.has c = true)]
    | ran r =>
      rw [unreadAfter, ih]
      have hran : ¬ ∀ r', Happening.ran r' ∉ .ran r :: log := fun h => h r (List.mem_cons_self ..)
      simp only [hran, and_false, SensorMask.has_empty, Bool.false_eq_true, false_and, false_or, reduceCtorEq,
        exists_false]

theorem consumed_of_accounted {p : SensorMask} {before after : List Happening} {r : RunReport}
    (h : Accounted p (before ++ .ran r :: after)) : r.consumed = unreadAfter p before :=
  (accounted_append.mp h).2.1

theorem sensors_unreadAfter {p : SensorMask} (hp : p.inter .sensors = p) (log : List Happening) :
    (unreadAfter p log).inter .sensors = unreadAfter p log := by
  induction log generalizing p with
  | nil => exact hp
  | cons e log ih =>
    cases e with
    | arrived m =>
      refine ih ?_
      rw [SensorMask.union_inter_distrib, hp, SensorMask.inter_inter_self]
    | ran r => exact ih (SensorMask.empty_inter _)

theorem sensors_of_accounted {p : SensorMask} {log : List Happening} (hp : p.inter .sensors = p) (h : Accounted p log) :
    ∀ r ∈ log.filterMap Happening.run?, r.consumed.inter .sensors = r.consumed := by
  intro r hr
  obtain ⟨e, he, hr⟩ := List.mem_filterMap.mp hr
  cases e with
  | arrived m => cases hr
  | ran r =>
    cases hr
    obtain ⟨before, after, rfl⟩ := List.append_of_mem he
    rw [consumed_of_accounted h, sensors_unreadAfter hp]

/-! ## The tracker follows the log -/

theorem pending_markAll (t : UpdateTracker) (ms : List SensorMask) :
    (t.markAll ms).pending = unreadAfter t.pending (ms.map .arrived) := by
  induction ms generalizing t with
  | nil => rfl
  | cons m ms ih => rw [UpdateTracker.markAll_cons, ih, UpdateTracker.pending_markMask]; rfl

namespace Estimator

variable {ε υ : Type} [Environment ε] [FilterUnit υ]

theorem runs_happenings (x : Estimator ε υ) (op : Op ε) :
    (x.happenings op).filterMap Happening.run? = (x.step op).1.run?.toList := by
  cases op with
  | poll =>
    have hno : ∀ ms : List SensorMask, (ms.map Happening.arrived).filterMap Happening.run? = [] := fun ms => by
      simp [List.filterMap_map, Function.comp_def, Happening.run?]
    cases h : x.poll.1 <;> simp [happenings, step, Answer.run?, h, hno, Happening.run?]
  | _ => rfl

theorem runs_log (x : Estimator ε υ) (ops : List (Op ε)) :
    (x.log ops).filterMap Happening.run? = (x.exec ops).1.filterMap Answer.run? := by
  induction ops generalizing x with
  | nil => rfl
  | cons op ops ih =>
    rw [log, List.filterMap_append, runs_happenings, ih, exec_cons, List.filterMap_cons]
    cases (x.step op).1.run? <;> rfl

/-- One step takes and leaves unread what it logs. -/
theorem step_accounted (x : Estimator ε υ) (op : Op ε) :
    Accounted x.tracker.pending (x.happenings op) ∧
      (x.step op).2.tracker.pending = unreadAfter x.tracker.pending (x.happenings op) := by
  cases op with
  | mark c => exact ⟨trivial, UpdateTracker.pending_markMask ..⟩
  | markMask m => exact ⟨trivial, UpdateTracker.pending_markMask ..⟩
  | start home =>
    refine ⟨trivial, ?_⟩
    rcases x.start_cases home with ⟨_, l, h⟩ | ⟨_, e, h⟩ <;> simp only [step, h] <;> rfl
  | poll =>
    rcases x.poll_cases with ⟨_, h⟩ | ⟨_, _, h⟩ | ⟨t, _, _, h⟩
    · simp only [happenings, step, h]
      exact ⟨trivial, rfl⟩
    · simp only [happenings, step, h]
      exact ⟨trivial, rfl⟩
    · simp only [happenings, step, h]
      exact ⟨⟨rfl, accounted_arrived _ _⟩, by rw [ran_tracker, pending_markAll]; rfl⟩
  | _ => exact ⟨trivial, rfl⟩

theorem exec_accounted (x : Estimator ε υ) (ops : List (Op ε)) :
    Accounted x.tracker.pending (x.log ops) ∧
      (x.exec ops).2.tracker.pending = unreadAfter x.tracker.pending (x.log ops) := by
  induction ops generalizing x with
  | nil => exact ⟨trivial, rfl⟩
  | cons op ops ih =>
    obtain ⟨hs, hp⟩ := x.step_accounted op
    obtain ⟨ha, hq⟩ := ih (x.step op).2
    -- the rest of the log starts from what this step leaves unread
    rw [hp] at ha hq
    exact ⟨accounted_append.mpr ⟨hs, ha⟩, by rw [exec_cons, log, unreadAfter_append]; exact hq⟩

/-- Only what arrived since the take is unread in the middle of a run. -/
theorem pending_trackerMidRun (x : Estimator ε υ) (n : Nat) :
    (x.trackerMidRun n).pending = sensorsIn (x.midRun.take n) := by
  rw [trackerMidRun, pending_markAll, unreadAfter_arrived]
  exact SensorMask.empty_union _

/-- No sample is lost and none is counted twice, in any execution from `setUp`:
    (1) the log's runs are the runs that the polls reported, in order;
    (2) every arrival of the log is in exactly one batch;
    (3) the k-th run consumes just the sensor classes of the k-th batch, and what is still
        unread are those of the last batch;
    (4) a run consumes a class exactly when the class arrived since the run before it, so
        an arrival shows in the first run after it and, by itself, in no other;
    (5) no run consumes a bit that is no sensor's;
    (6) in the middle of a run just the classes that arrived since its take are unread, up
        to what the run leaves;
    (7) what arrives in the middle of a run is what the reads of the unread sensors bring,
        and then what the units' updates bring. -/
theorem each_arrival_consumed_by_one_run (env : ε) (chain : FilterChain υ) (gate : SanityGate)
    (settings : EstimationSettings) (ops : List (Op ε)) :
    let x := setUp env chain gate settings
    let y := (x.exec ops).2
    let reports := (x.exec ops).1.filterMap Answer.run?
    (x.log ops).filterMap Happening.run? = reports ∧
      (batches (x.log ops)).flatten = (x.log ops).filterMap Happening.arrival? ∧
      (batches (x.log ops)).map sensorsIn = reports.map RunReport.consumed ++ [y.tracker.pending] ∧
      (∀ before r after, x.log ops = before ++ .ran r :: after →
        ∀ c, r.consumed.has c = true ↔ ArrivedSinceRun c before) ∧
      (∀ r ∈ reports, r.consumed.inter .sensors = r.consumed) ∧
      ((∀ n, (y.trackerMidRun n).pending = sensorsIn (y.midRun.take n)) ∧
        ∀ r, y.poll.1 = some r → y.poll.2.tracker = y.trackerMidRun y.midRun.length) ∧
      y.midRun =
        (Sweep.brought (y.tracker.pending.inter .sensors).classes (Environment.tick y.env)).flatten ++
          (UpdatePass.updates y.scheduler.chain.units y.gated.screening.snapshot).flatMap UnitUpdate.arrivals := by
  intro x y reports
  have hruns : (x.log ops).filterMap Happening.run? = reports := x.runs_log ops
  obtain ⟨ha, hp⟩ := x.exec_accounted ops
  have hempty : x.tracker.pending = .empty := rfl
  rw [hempty] at ha hp
  refine ⟨hruns, flatten_batches _, ?_, fun before r after hlog c => ?_, ?_,
    ⟨y.pending_trackerMidRun, fun _ => tracker_poll⟩, y.midRun_eq⟩
  · have := map_sensorsIn_batches ha
    obtain ⟨b, bs, hb⟩ := List.exists_cons_of_ne_nil (batches_ne_nil (x.log ops))
    rw [hp, ← hruns, ← this, hb]
    simp
  · rw [hlog] at ha
    rw [consumed_of_accounted ha, has_unreadAfter]
    simp
  · rw [← hruns]
    exact sensors_of_accounted (SensorMask.empty_inter _) ha

open Simulation

/-- Every read brings a sample of the barometer, and the unit one of the magnetometer. The run
    takes what arrived before the start and after it; what its two reads and its unit bring is
    unread after it, together with a later sample, and in the middle of the next run the
    barometer is unread again. -/
theorem each_arrival_consumed_by_one_run_across_reads :
    let baro := SensorClass.bit .baro
    let mag := SensorClass.bit .mag
    let world : World := ⟨{ Bus.silent with readArrivals := baro }, .manual 0, #[]⟩
    let relay := ScriptedUnit.new "relay" none none [.arrive mag]
    let ops : List (Op World) :=
      [.mark .gyro, .start none, .markMask ((SensorClass.bit .accel).union .attitude), .poll, .mark .velocity]
    let x := setUp world (.ofUnits [relay] (by decide)) .default .default
    let y := (x.exec ops).2
    let reports := (x.exec ops).1.filterMap Answer.run?
    reports.map RunReport.consumed = [.ofClasses [.gyro, .accel]] ∧
      y.tracker.pending = .ofClasses [.mag, .velocity, .baro] ∧
      (batches (x.log ops)).map sensorsIn = reports.map RunReport.consumed ++ [y.tracker.pending] ∧
      (∃ before r after, x.log ops = before ++ .ran r :: after ∧ r.consumed.has .accel = true ∧
        ArrivedSinceRun .accel before ∧ ¬ ArrivedSinceRun .baro before) ∧
      y.midRun = [baro, baro, baro, mag] ∧ (y.trackerMidRun 1).pending = sensorsIn [baro] ∧
      ∃ r, y.poll.1 = some r ∧ y.poll.2.tracker = y.trackerMidRun 4 := by
  intro baro mag world relay ops x y reports
  obtain ⟨_, _, hbatches, htold, _, ⟨hmid, hleft⟩, _⟩ :=
    each_arrival_consumed_by_one_run world (.ofUnits [relay] (by decide)) .default .default ops
  have hlog : ∃ r after, x.log ops =
      [.arrived (SensorClass.bit .gyro), .arrived ((SensorClass.bit .accel).union .attitude)] ++ .ran r :: after ∧
        r.consumed = .ofClasses [.gyro, .accel] := ⟨_, _, rfl, rfl⟩
  obtain ⟨r, after, hr, hconsumed⟩ := hlog
  have htook := htold _ r after hr
  have hmidRun : y.midRun = [baro, baro, baro, mag] := by decide
  refine ⟨by decide, by decide, hbatches, ⟨_, r, after, hr, ?_, ?_, ?_⟩, hmidRun, ?_, ⟨_, rfl, ?_⟩⟩
  · rw [hconsumed]
    decide
  · rw [← htook, hconsumed]
    decide
  · rw [← htook, hconsumed]
    decide
  · rw [hmid 1, hmidRun]
    rfl
  · rw [hleft _ rfl, hmidRun]
    rfl

end Estimator

end SensorFusion
