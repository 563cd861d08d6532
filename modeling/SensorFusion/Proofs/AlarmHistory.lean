/-
  SensorFusion.Proofs.AlarmHistory — the liveness levels of an execution, kept three times.

  Every run publishes one level, moves the alarm to it and counts it if it is a warning. So
  what was published, the level that the alarm shows and the number of its rises are three
  readings of one history: the levels of the runs reported, in order (`Recorded`). Before
  the first run the level is clear, and a warning that follows a warning is no rise, so two
  rises have a run between them that published that all is clear.

  Proved (`one_level_per_run`): the three agree with the reports in every state of every
  execution, also when others consume from the tracker.
-/

import SensorFusion.Proofs.Lifecycle
import SensorFusion.Simulation.Unit
import SensorFusion.Simulation.World

namespace SensorFusion

namespace AlarmLevel

/-- Every level with the one before it; before the first it is clear. -/
def transitions (levels : List AlarmLevel) : List (AlarmLevel × AlarmLevel) := (clear :: levels).zip levels

/-- A warning that follows no warning. -/
def rise : AlarmLevel × AlarmLevel := (clear, warning)

variable {levels : List AlarmLevel}

theorem zip_cons_concat (before : AlarmLevel) (levels : List AlarmLevel) (level : AlarmLevel) :
    (before :: (levels ++ [level])).zip (levels ++ [level]) =
      (before :: levels).zip levels ++ [(levels.getLastD before, level)] := by
  induction levels generalizing before with
  | nil => rfl
  | cons l levels ih => rw [List.cons_append, List.zip_cons_cons, ih, List.zip_cons_cons, List.getLastD_cons]; rfl

theorem transitions_concat (levels : List AlarmLevel) (level : AlarmLevel) :
    transitions (levels ++ [level]) = transitions levels ++ [(levels.getLastD clear, level)] :=
  zip_cons_concat clear levels level

/-- A rise is a warning, so there are no more rises than warnings. -/
theorem countP_rise_le (levels : List AlarmLevel) :
    ((transitions levels).countP fun t => t = rise) ≤ levels.countP fun l => l = warning := by
  have hsnd : (transitions levels).map Prod.snd = levels := List.map_snd_zip (by simp)
  calc ((transitions levels).countP fun t => t = rise)
      ≤ (transitions levels).countP fun t => t.2 = warning := by
        refine List.countP_mono_left fun t _ ht => ?_
        rw [of_decide_eq_true ht]
        rfl
    _ = ((transitions levels).map Prod.snd).countP fun l => l = warning := by simp only [List.countP_map, Function.comp_def]
    _ = levels.countP fun l => l = warning := by rw [hsnd]

theorem getElem?_of_rise {i : Nat} (h : (transitions levels)[i]? = some rise) :
    (clear :: levels)[i]? = some clear ∧ levels[i]? = some warning := List.getElem?_zip_eq_some.mp h

/-- Between two rises the level was clear. -/
theorem clear_between_rises {i j : Nat} (hij : i < j) (hi : (transitions levels)[i]? = some rise)
    (hj : (transitions levels)[j]? = some rise) : ∃ k, i < k ∧ k < j ∧ levels[k]? = some clear := by
  obtain ⟨_, hwarn⟩ := getElem?_of_rise hi
  obtain ⟨hclear, _⟩ := getElem?_of_rise hj
  obtain ⟨k, rfl⟩ : ∃ k, j = k + 1 := ⟨j - 1, by omega⟩
  rw [List.getElem?_cons_succ] at hclear
  refine ⟨k, ?_, Nat.lt_succ_self k, hclear⟩
  have hne : i ≠ k := by
    rintro rfl
    rw [hwarn] at hclear
    cases hclear
  omega

end AlarmLevel

open AlarmLevel (transitions rise transitions_concat)

namespace LivenessAlarm

/-- The alarm has followed `levels`: it shows the last of them, and counts their rises. -/
structure Follows (a : LivenessAlarm) (levels : List AlarmLevel) : Prop where
  level : a.level = levels.getLastD .clear
  timesRaised : a.timesRaised = Counter.ofNat ((transitions levels).countP fun t => t = rise)

theorem follows_initial : initial.Follows [] := ⟨rfl, rfl⟩

theorem Follows.update {a : LivenessAlarm} {levels : List AlarmLevel} (h : a.Follows levels) (level : AlarmLevel) :
    (a.update level).Follows (levels ++ [level]) where
  level := by rw [update_level, List.getLastD_concat]
  timesRaised := by
    rw [timesRaised_update_eq, h.level, h.timesRaised, transitions_concat]
    exact Counter.next_ofNat_countP (fun t => t = rise) _ _

end LivenessAlarm

namespace Estimator

variable {ε υ : Type} [Environment ε] [FilterUnit υ]

structure Recorded (rs : List RunReport) (x : Estimator ε υ) : Prop where
  published : x.published.toList = rs.map RunReport.alarm
  alarm : x.scheduler.alarm.Follows (rs.map RunReport.alarm)
  warnings : x.scheduler.stats.staleRuns = Counter.ofNat (rs.countP fun r => r.alarm = .warning)

omit [Environment ε] [FilterUnit υ] in
theorem setUp_recorded (env : ε) (chain : FilterChain υ) (gate : SanityGate) (settings : EstimationSettings) :
    Recorded [] (setUp env chain gate settings) := ⟨rfl, LivenessAlarm.follows_initial, rfl⟩

/-- A run adds its level to all three. -/
theorem ran_recorded {rs : List RunReport} {x : Estimator ε υ} (h : Recorded rs x) (t : Trigger) :
    Recorded (rs ++ [(x.ran t).1]) (x.ran t).2 where
  published := by rw [ran_published, Array.toList_push, h.published, List.map_append]; rfl
  alarm := by
    rw [ran_liveness, List.map_append]
    exact h.alarm.update _
  warnings := by
    rw [ran_stats, SchedulerStats.record, h.warnings]
    exact Counter.next_ofNat_countP (fun r => r.alarm = .warning) rs _

theorem stepShared_recorded (rs : List RunReport) (x : Estimator ε υ) (op : SharedOp ε) (h : Recorded rs x) :
    Recorded (rs ++ (x.stepShared op).1.toList) (x.stepShared op).2 := by
  rcases x.stepShared_run_cases op with ⟨hn, hsame⟩ | ⟨t, _, _, hs⟩
  · rw [hn, Option.toList_none, List.append_nil]
    exact ⟨hsame.published ▸ h.published, hsame.alarm ▸ h.alarm, hsame.stats ▸ h.warnings⟩
  · rw [hs]
    exact ran_recorded h t

/-- One level for every run, in every state `y` that an execution from `setUp` reaches, also
    when others consume from the tracker:
    (1) what was published are the levels of the runs reported, one each and in order;
    (2) the alarm shows the last of them, or clear before the first;
    (3) it counts the warnings among them that follow no warning, up to the limit;
    (4) so it never counts more rises than there were warnings;
    (5) between two rises a run published that all is clear. -/
theorem one_level_per_run (env : ε) (chain : FilterChain υ) (gate : SanityGate) (settings : EstimationSettings)
    (ops : List (SharedOp ε)) :
    let done := (setUp env chain gate settings).execShared ops
    let reports := done.1
    let levels := reports.map RunReport.alarm
    let y := done.2
    y.published.toList = levels ∧
      y.scheduler.alarm.level = levels.getLastD .clear ∧
      y.scheduler.alarm.timesRaised.toNat = min ((transitions levels).countP fun t => t = rise) Counter.limit ∧
      y.scheduler.alarm.timesRaised ≤ y.scheduler.stats.staleRuns ∧
      ∀ i j : Nat, i < j → (transitions levels)[i]? = some rise → (transitions levels)[j]? = some rise →
        ∃ (k : Nat) (r : RunReport), i < k ∧ k < j ∧ reports[k]? = some r ∧ r.alarm = .clear := by
  intro done reports levels y
  have h : Recorded reports y := execShared_history stepShared_recorded (setUp_recorded env chain gate settings) ops
  have hrises : y.scheduler.alarm.timesRaised = Counter.ofNat ((transitions levels).countP fun t => t = rise) :=
    h.alarm.timesRaised
  refine ⟨h.published, h.alarm.level, ?_, ?_, fun i j hij hi hj => ?_⟩
  · rw [hrises, Counter.toNat_ofNat]
  · have hle : ((transitions levels).countP fun t => t = rise) ≤ reports.countP fun r => r.alarm = .warning := by
      simpa only [levels, List.countP_map, Function.comp_def] using AlarmLevel.countP_rise_le levels
    rw [UInt32.le_iff_toNat_le, hrises, h.warnings, Counter.toNat_ofNat, Counter.toNat_ofNat]
    omega
  · obtain ⟨k, hik, hkj, hk⟩ := AlarmLevel.clear_between_rises hij hi hj
    rw [List.getElem?_map, Option.map_eq_some_iff] at hk
    obtain ⟨r, hr, hclear⟩ := hk
    exact ⟨k, r, hik, hkj, hr, hclear⟩

/-! ## Two rises in a simulated world -/

open Simulation

/-- Two quiet periods with a sample between them: the alarm rises twice, and clears once in
    between. -/
theorem one_level_per_run_of_two_rises :
    let world : World := ⟨.silent, .manual 0, #[]⟩
    let later : SharedOp World := .own (.environment fun w => { w with clock := w.clock.advance 100 })
    let ops := [.own (.start none), later, .own .poll, .own (.mark .gyro), .own .poll, later, .own .poll]
    let done := (setUp world (.ofUnits ([] : List ScriptedUnit) (by decide)) .default .default).execShared ops
    let levels := done.1.map RunReport.alarm
    levels = [.warning, .clear, .warning] ∧ done.2.published.toList = levels ∧
      done.2.scheduler.alarm.timesRaised.toNat = 2 ∧
      ∃ (k : Nat) (r : RunReport), 0 < k ∧ k < 2 ∧ done.1[k]? = some r ∧ r.alarm = .clear := by
  -- `done` and `levels` stay inlined: comparing projections of them would run the execution
  intro world later ops
  have hlevels : ((setUp world (.ofUnits ([] : List ScriptedUnit) (by decide)) .default .default).execShared ops).1.map
      RunReport.alarm = [.warning, .clear, .warning] := by decide +kernel
  obtain ⟨hpub, _, hrises, _, hclear⟩ :=
    one_level_per_run world (.ofUnits ([] : List ScriptedUnit) (by decide)) .default .default ops
  rw [hlevels] at hrises hclear
  exact ⟨hlevels, hpub, hrises, hclear 0 2 (by decide) rfl rfl⟩

end Estimator

end SensorFusion
