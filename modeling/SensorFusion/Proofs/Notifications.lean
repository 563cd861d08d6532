/-
  SensorFusion.Proofs.Notifications — notifications from independent sources commute.

  Between two polls samples arrive, home locations are announced and settings change, each
  told by a source that knows nothing of the others. What a notification changes is read by
  none of another kind: the arrivals go to the tracker, a home location to the linearizer,
  settings to the timeout, on success and on failure alike. So the estimator after any
  interleaving is the one that has been told the three sequences one after the other
  (`exec_interleaving`).

  Of the arrivals neither the order matters nor, but for their count, how often one is
  repeated (`markAll_of_mem_iff`).

  Proved (`notifications_commute`): interleavings of the same home locations, of the same
  settings and of the same arrivals, these in any order, lead to the same estimator, with
  the same answers on the way and to the poll after them.
-/

import SensorFusion.Proofs.Arrivals
import SensorFusion.Proofs.HomeHistory
import SensorFusion.Simulation.Unit
import SensorFusion.Simulation.World

namespace SensorFusion

/-! ## Arrivals in any order -/

namespace UpdateTracker

/-- Masks that come to the same set lead to the same tracker, but for the count. -/
theorem markAll_of_mem_iff {ms ns : List SensorMask} (h : ∀ m, m ∈ ms ↔ m ∈ ns) (t : UpdateTracker) :
    t.markAll ms = { t.markAll ns with markCount := (t.markAll ms).markCount } := by
  have hpending : (t.markAll ms).pending = (t.markAll ns).pending := by
    rw [pending_markAll, pending_markAll, unreadAfter_arrived, unreadAfter_arrived, sensorsIn_congr h]
  have hdispatch : (t.markAll ms).dispatchRequested = (t.markAll ns).dispatchRequested := by
    rw [dispatchRequested_markAll, dispatchRequested_markAll]
    congr 1
    rw [Bool.eq_iff_iff, List.any_eq_true, List.any_eq_true]
    exact exists_congr fun m => and_congr_left' (h m)
  exact UpdateTracker.ext hpending hdispatch rfl

theorem markAll_perm {ms ns : List SensorMask} (h : ms.Perm ns) (t : UpdateTracker) : t.markAll ms = t.markAll ns := by
  rw [markAll_of_mem_iff (fun m => h.mem_iff) t, markCount_markAll, h.countP_eq, ← markCount_markAll]

/-- To repeat a mark is to count it again. -/
theorem markAll_cons_of_mem {m : SensorMask} {ms : List SensorMask} (h : m ∈ ms) (t : UpdateTracker) :
    t.markAll (m :: ms) =
      { t.markAll ms with
        markCount := (t.markAll ms).markCount + if (m.inter .sensors).isEmpty then 0 else 1 } := by
  have hset : ∀ n, n ∈ m :: ms ↔ n ∈ ms := fun n => by
    rw [List.mem_cons, or_iff_right_of_imp]
    rintro rfl
    exact h
  have hcount : (t.markAll (m :: ms)).markCount =
      (t.markAll ms).markCount + if (m.inter .sensors).isEmpty then 0 else 1 := by
    rw [markAll_perm (List.perm_append_singleton m ms).symm, markAll_append]
    exact markCount_markMask _ _
  rw [← hcount]
  exact markAll_of_mem_iff hset t

end UpdateTracker

/-! ## Interleavings -/

/-- The timeout once settings were taken over in order, as far as they are acceptable. -/
def EstimationSettings.timeoutAfter (timeout : UInt32) (settings : List EstimationSettings) : UInt32 :=
  settings.foldl (fun t s => if s.validate.isOk then s.timeout else t) timeout

def Answer.homeResult? : Answer → Option (Except SanityError HomeReference)
  | homeChanged r => some r
  | _ => .none

def Answer.settingsResult? : Answer → Option (Except EstimationError Unit)
  | settingsApplied r => some r
  | _ => .none

/-- `ops` interleaves the arrivals, the announcements of the home locations and the changes
    of the settings, each in the order of its list. -/
inductive Interleaving {ε : Type} :
    List SensorMask → List HomeLocation → List EstimationSettings → List (Op ε) → Prop
  | nil : Interleaving [] [] [] []
  | mark (c : SensorClass) {arrivals homes settings ops} (rest : Interleaving arrivals homes settings ops) :
      Interleaving (c.bit :: arrivals) homes settings (.mark c :: ops)
  | markMask (m : SensorMask) {arrivals homes settings ops} (rest : Interleaving arrivals homes settings ops) :
      Interleaving (m :: arrivals) homes settings (.markMask m :: ops)
  | changeHome (home : HomeLocation) {arrivals homes settings ops} (rest : Interleaving arrivals homes settings ops) :
      Interleaving arrivals (home :: homes) settings (.changeHome home :: ops)
  | applySettings (s : EstimationSettings) {arrivals homes settings ops}
      (rest : Interleaving arrivals homes settings ops) :
      Interleaving arrivals homes (s :: settings) (.applySettings s :: ops)

theorem Scheduler.applySettings_eq {υ : Type} (s : Scheduler υ) (settings : EstimationSettings) :
    s.applySettings settings =
      (settings.validate, { s with timeout := EstimationSettings.timeoutAfter s.timeout [settings] }) := by
  rcases s.applySettings_cases settings with ⟨hv, hs⟩ | ⟨e, hv, hs⟩
  · rw [hs, EstimationSettings.timeoutAfter, List.foldl_cons, hv]
    rfl
  · rw [hs, EstimationSettings.timeoutAfter, List.foldl_cons, hv]
    rfl

namespace Estimator

variable {ε υ : Type}

/-- The estimator once it was told three sequences of notifications, one after the other. -/
def told (x : Estimator ε υ) (arrivals : List SensorMask) (homes : List HomeLocation)
    (settings : List EstimationSettings) : Estimator ε υ :=
  { x with
    tracker := x.tracker.markAll arrivals
    scheduler := { x.scheduler with
      home := x.scheduler.home.changeAll homes
      timeout := EstimationSettings.timeoutAfter x.scheduler.timeout settings } }

variable [Environment ε] [FilterUnit υ]
variable {arrivals : List SensorMask} {homes : List HomeLocation} {settings : List EstimationSettings}
variable {ops : List (Op ε)}

/-- An interleaving comes to the same as its three sequences one after the other, and home
    locations and settings are answered by themselves alone. -/
theorem exec_interleaving (h : Interleaving arrivals homes settings ops) (x : Estimator ε υ) :
    (x.exec ops).2 = x.told arrivals homes settings ∧
      (x.exec ops).1.filterMap Answer.homeResult? = homes.map HomeReference.ofHome ∧
      (x.exec ops).1.filterMap Answer.settingsResult? = settings.map EstimationSettings.validate := by
  induction h generalizing x with
  | nil => exact ⟨rfl, rfl, rfl⟩
  | mark c _ ih => exact ih _
  | markMask m _ ih => exact ih _
  | changeHome home _ ih =>
    have hresult : (x.step (.changeHome home)).1.homeResult? = some (HomeReference.ofHome home) :=
      congrArg some (HomeLinearizer.changeHome_result x.scheduler.home home)
    obtain ⟨hx, hh, hs⟩ := ih (x.step (.changeHome home)).2
    refine ⟨hx, ?_, hs⟩
    rw [exec_cons, List.filterMap_cons_some hresult, hh, List.map_cons]
  | applySettings s _ ih =>
    have hstep := x.scheduler.applySettings_eq s
    have hresult : (x.step (.applySettings s)).1.settingsResult? = some s.validate :=
      congrArg (fun r : Except EstimationError Unit × Scheduler υ => some r.1) hstep
    obtain ⟨hx, hh, hs⟩ := ih (x.step (.applySettings s)).2
    refine ⟨?_, hh, ?_⟩
    · rw [exec_cons, hx, step, hstep]
      rfl
    · rw [exec_cons, List.filterMap_cons_some hresult, hs, List.map_cons]

/-- Notifications between two polls, for every estimator. Given are two interleavings of the
    same home locations and the same settings with the same arrivals, these in any two
    orders.
    (1) They lead to the same estimator.
    (2) Every home location and all settings are answered the same, by themselves alone.
    (3) The poll after them answers the same.
    (4) One more copy of an arrival, wherever it comes, changes no answer to the others and
        nothing but the count of the arrivals, by one if it is of a sensor. -/
theorem notifications_commute (x : Estimator ε υ) {arrivals' : List SensorMask} {ops' : List (Op ε)}
    (hperm : arrivals'.Perm arrivals) (h : Interleaving arrivals homes settings ops)
    (h' : Interleaving arrivals' homes settings ops') :
    (x.exec ops').2 = (x.exec ops).2 ∧
    (((x.exec ops).1.filterMap Answer.homeResult? = homes.map HomeReference.ofHome ∧
        (x.exec ops').1.filterMap Answer.homeResult? = homes.map HomeReference.ofHome) ∧
      (x.exec ops).1.filterMap Answer.settingsResult? = settings.map EstimationSettings.validate ∧
      (x.exec ops').1.filterMap Answer.settingsResult? = settings.map EstimationSettings.validate) ∧
    (x.exec ops').2.poll = (x.exec ops).2.poll ∧
    ∀ m ∈ arrivals, ∀ (more : List SensorMask) (repeated : List (Op ε)), more.Perm (m :: arrivals) →
      Interleaving more homes settings repeated →
      (x.exec repeated).1.filterMap Answer.homeResult? = homes.map HomeReference.ofHome ∧
      (x.exec repeated).1.filterMap Answer.settingsResult? = settings.map EstimationSettings.validate ∧
      (x.exec repeated).2 =
        { (x.exec ops).2 with
          tracker := { (x.exec ops).2.tracker with
            markCount := (x.exec ops).2.tracker.markCount + if (m.inter .sensors).isEmpty then 0 else 1 } } := by
  obtain ⟨hx, hh, hs⟩ := exec_interleaving h x
  obtain ⟨hx', hh', hs'⟩ := exec_interleaving h' x
  have hsame : (x.exec ops').2 = (x.exec ops).2 := by
    rw [hx, hx', told, told, UpdateTracker.markAll_perm hperm]
  refine ⟨hsame, ⟨⟨hh, hh'⟩, hs, hs'⟩, by rw [hsame], fun m hm more repeated hmore hr => ?_⟩
  obtain ⟨hxr, hhr, hsr⟩ := exec_interleaving hr x
  refine ⟨hhr, hsr, ?_⟩
  rw [hxr, hx, told, told, UpdateTracker.markAll_perm hmore, UpdateTracker.markAll_cons_of_mem hm]

/-! ## Notifications in a simulated world -/

open Simulation

/-- A gyroscope sample, a mask with a sensor bit and one without; a home location and one that
    nobody has set; a timeout of nothing and one of half a second. Told in two orders they
    lead to the same estimator, and the sample told twice is counted twice. -/
theorem notifications_commute_across_rejections :
    let world : World := ⟨.silent, .manual 0, #[]⟩
    let x := (setUp world (.ofUnits ([] : List ScriptedUnit) (by decide)) .default .default).step (.start none) |>.2
    let home : HomeLocation := ⟨47, 8, 500, .zero, true⟩
    let unset : HomeLocation := { home with set := false }
    let never := EstimationSettings.default.withTimeout 0
    let slow := EstimationSettings.default.withTimeout 500
    let arrivals := [SensorClass.gyro.bit, ⟨260⟩, .attitude]
    let arrivals' := [.attitude, ⟨260⟩, SensorClass.gyro.bit]
    let ops : List (Op World) := [.mark .gyro, .changeHome home, .applySettings never, .markMask ⟨260⟩,
      .changeHome unset, .markMask .attitude, .applySettings slow]
    let ops' : List (Op World) := [.applySettings never, .markMask .attitude, .applySettings slow,
      .changeHome home, .markMask ⟨260⟩, .mark .gyro, .changeHome unset]
    (arrivals'.Perm arrivals ∧ Interleaving arrivals [home, unset] [never, slow] ops ∧
      Interleaving arrivals' [home, unset] [never, slow] ops') ∧
    (x.exec ops').2 = (x.exec ops).2 ∧
    (x.exec ops').1.filterMap Answer.settingsResult? =
      [.error (.invalidConfig "timeout_ms out of range"), .ok ()] ∧
    (x.exec (.mark .gyro :: ops)).2.tracker.markCount = 3 := by
  intro world x home unset never slow arrivals arrivals' ops ops'
  have hperm : arrivals'.Perm arrivals := by decide
  have h : Interleaving arrivals [home, unset] [never, slow] ops :=
    .mark _ (.changeHome _ (.applySettings _ (.markMask _ (.changeHome _ (.markMask _ (.applySettings _ .nil))))))
  have h' : Interleaving arrivals' [home, unset] [never, slow] ops' :=
    .applySettings _ (.markMask _ (.applySettings _ (.changeHome _ (.markMask _ (.mark _ (.changeHome _ .nil))))))
  obtain ⟨hsame, ⟨_, _, hs⟩, _, hmore⟩ := notifications_commute x hperm h h'
  obtain ⟨_, _, htwice⟩ := hmore SensorClass.gyro.bit (List.mem_cons_self ..) _ _ (List.Perm.refl _) (.mark .gyro h)
  refine ⟨⟨hperm, h, h'⟩, hsame, hs.trans (by rfl), ?_⟩
  rw [htwice]
  rfl

end Estimator

end SensorFusion
