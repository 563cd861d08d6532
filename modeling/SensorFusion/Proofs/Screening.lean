/-
  SensorFusion.Proofs.Screening — what the sanity gate makes of the samples of one run.

  A sample passes or is dropped by its own verdict (`refusal?`), so a screening can be
  read off its samples (`foldl_screenOne`). Every class of a mask is read once: the
  accepted and the rejected classes split the mask's sensor bits, and the rejections name
  each rejected class once (`apply_split`). The field of an accepted class is what the
  check of its sample gives (`field_screen`); for a fix this is its offset from the
  reference that the linearizer holds.
-/

import Mathlib.Data.List.Nodup
import SensorFusion.Gate

namespace SensorFusion

/-- The accepted and the rejected classes split the consumed ones, and the rejections name
    each rejected class once. -/
structure Split (consumed accepted rejected : SensorMask) (rejections : List Rejection) : Prop where
  disjoint : accepted.inter rejected = .empty
  union : accepted.union rejected = consumed
  classes : SensorMask.ofClasses (rejections.map Rejection.sensor) = rejected
  once : (rejections.map Rejection.sensor).Nodup

def Fix.isFinite (fix : Fix) : Bool :=
  Check.allFinite [fix.latitude, fix.longitude] && Check.allFinite32 [fix.altitude, fix.geoidSeparation]

structure Screening.Shows (s : Screening) (c : SensorClass) (verdict : Except SanityError c.Field) : Prop where
  accepted : s.accepted.has c = verdict.toOption.isSome
  rejected : s.rejected.has c = verdict.toOption.isNone
  rejections : ∀ reason, ⟨c, reason⟩ ∈ s.rejections ↔ verdict = .error reason
  field : s.snapshot.field c = verdict.toOption.getD (Snapshot.empty.field c)

namespace SanityGate

variable (g : SanityGate) (home : HomeLinearizer)

/-! ## The verdict on one sample -/

/-- The verdict on a fix goes by the reference alone. -/
theorem checkPosition_eq (fix : Fix) :
    g.checkPosition home fix =
      if fix.isFinite then
        match home.reference with
        | none => .error .homeNotConfigured
        | some ref =>
          if g.isNullFix fix then .error .nullFix
          else (Geodesy.checkCoordinate fix.latitude fix.longitude).bind fun _ => Check.vector (ref.nedOffset fix)
      else .error .malformedValue := by
  have hfinite : (Check.allFinite [fix.latitude, fix.longitude] = true ∧
      Check.allFinite32 [fix.altitude, fix.geoidSeparation] = true) ↔ fix.isFinite = true := by
    rw [Fix.isFinite, Bool.and_eq_true]
  unfold checkPosition HomeLinearizer.isConfigured HomeLinearizer.convert
  simp only [hfinite, ite_not]
  cases home.reference <;> rfl

theorem judge_position_of_no_reference {home : HomeLinearizer} (hr : home.reference = none) (fix : Fix) :
    g.judge home .position fix = .error (if fix.isFinite then .homeNotConfigured else .malformedValue) := by
  show g.checkPosition home fix = _
  rw [checkPosition_eq, hr]
  split <;> rfl

/-- With a reference, a fix is kept as its offset from it, or dropped for another reason
    than the want of a home. -/
theorem judge_position_of_reference {home : HomeLinearizer} {ref : HomeReference} (hr : home.reference = some ref)
    (fix : Fix) :
    g.judge home .position fix = .ok (ref.nedOffset fix) ∨
      ∃ e, g.judge home .position fix = .error e ∧ e ≠ .homeNotConfigured := by
  show g.checkPosition home fix = _ ∨ ∃ e, g.checkPosition home fix = _ ∧ _
  simp only [checkPosition_eq, hr]
  split
  · split
    · exact Or.inr ⟨_, rfl, by simp⟩
    · rcases Geodesy.checkCoordinate_cases fix.latitude fix.longitude with h | ⟨_, _, _, h⟩ <;> rw [h]
      · rcases Check.vector_cases (ref.nedOffset fix) with h | h
        · exact Or.inl h
        · exact Or.inr ⟨_, h, by simp⟩
      · exact Or.inr ⟨_, rfl, by simp⟩
  · exact Or.inr ⟨_, rfl, by simp⟩

theorem judge_position_eq_ok {home : HomeLinearizer} {fix : Fix} {v : Vec3} (h : g.judge home .position fix = .ok v) :
    ∃ ref, home.reference = some ref ∧ v = ref.nedOffset fix := by
  cases hr : home.reference with
  | none =>
    rw [g.judge_position_of_no_reference hr] at h
    cases h
  | some ref =>
    rcases g.judge_position_of_reference hr fix with hok | ⟨e, he, _⟩
    · exact ⟨ref, rfl, Except.ok.inj (h.symm.trans hok)⟩
    · rw [he] at h
      cases h

theorem judge_ne_homeNotConfigured {home : HomeLinearizer} {ref : HomeReference} (hr : home.reference = some ref)
    (c : SensorClass) (sample : c.Sample) : g.judge home c sample ≠ .error .homeNotConfigured := by
  have hvector (v : Vec3) : Check.vector v ≠ .error .homeNotConfigured := by
    rcases Check.vector_cases v with h | h <;> simp [h]
  have hscalar (x : Float32) : Check.scalar x ≠ .error .homeNotConfigured := by
    rcases Check.scalar_cases x with h | h <;> simp [h]
  have hairspeed (a : Airspeed) : Check.airspeed a ≠ .error .homeNotConfigured := by
    rcases Check.airspeed_cases a with h | h | h <;> simp [h]
  cases c with
  | position =>
    rcases g.judge_position_of_reference hr sample with h | ⟨e, h, he⟩
    · simp [h]
    · rw [h]
      simpa using he
  | baro => exact hscalar sample
  | airspeed => exact hairspeed sample
  | _ => exact hvector sample

/-! ## Screening sample by sample -/

def refusal? (x : Sampled) : Option Rejection :=
  match g.judge home x.sensor x.sample with
  | .ok _ => none
  | .error reason => some ⟨x.sensor, reason⟩

def passing (xs : List Sampled) : List SensorClass :=
  (xs.filter fun x => (g.refusal? home x).isNone).map Sampled.sensor

theorem screenOne_cases (s : Screening) (x : Sampled) :
    (∃ v, g.refusal? home x = none ∧ g.screenOne home s x = s.accept x.sensor v) ∨
      ∃ reason, g.refusal? home x = some ⟨x.sensor, reason⟩ ∧ g.screenOne home s x = s.reject x.sensor reason := by
  unfold refusal? screenOne
  cases g.judge home x.sensor x.sample with
  | ok v => exact Or.inl ⟨v, rfl, rfl⟩
  | error reason => exact Or.inr ⟨reason, rfl, rfl⟩

theorem sensor_of_refusal? {x : Sampled} {r : Rejection} (h : g.refusal? home x = some r) : r.sensor = x.sensor := by
  unfold refusal? at h
  split at h
  · cases h
  · cases h
    rfl

theorem map_sensor_refusals (xs : List Sampled) :
    (xs.filterMap (g.refusal? home)).map Rejection.sensor =
      (xs.filter fun x => (g.refusal? home x).isSome).map Sampled.sensor := by
  induction xs with
  | nil => rfl
  | cons x xs ih =>
    cases h : g.refusal? home x with
    | none => simp [h, ih]
    | some r => simp [h, ih, g.sensor_of_refusal? home h]

theorem foldl_screenOne (xs : List Sampled) (s : Screening) :
    (xs.foldl (g.screenOne home) s).accepted = s.accepted.union (.ofClasses (g.passing home xs)) ∧
      (xs.foldl (g.screenOne home) s).rejected =
        s.rejected.union (.ofClasses ((xs.filterMap (g.refusal? home)).map Rejection.sensor)) := by
  induction xs generalizing s with
  | nil => simp [passing]
  | cons x xs ih =>
    obtain ⟨ha, hr⟩ := ih (g.screenOne home s x)
    rw [List.foldl_cons, ha, hr]
    rcases g.screenOne_cases home s x with ⟨v, h, hs⟩ | ⟨reason, h, hs⟩ <;> rw [hs]
    · have hacc : (s.accept x.sensor v).accepted = s.accepted.union x.sensor.bit := by
        simp [Screening.accept, Screening.accepted, Snapshot.markValid]
      have hp : g.passing home (x :: xs) = [x.sensor] ++ g.passing home xs := by simp [passing, h]
      rw [hacc, hp, SensorMask.ofClasses_append, SensorMask.ofClasses_singleton, SensorMask.union_assoc,
        List.filterMap_cons_none h]
      exact ⟨rfl, rfl⟩
    · have hp : g.passing home (x :: xs) = g.passing home xs := by simp [passing, h]
      rw [hp, List.filterMap_cons_some h, List.map_cons, ← List.singleton_append, SensorMask.ofClasses_append,
        SensorMask.ofClasses_singleton, ← SensorMask.union_assoc]
      exact ⟨rfl, rfl⟩

/-- As long as there is room, no reason is lost. -/
theorem rejections_foldl_screenOne (xs : List Sampled) (s : Screening)
    (hroom : s.rejections.length + xs.length ≤ sensorClassCount) :
    (xs.foldl (g.screenOne home) s).rejections = s.rejections ++ xs.filterMap (g.refusal? home) := by
  induction xs generalizing s with
  | nil => simp
  | cons x xs ih =>
    rw [List.length_cons] at hroom
    rw [List.foldl_cons]
    rcases g.screenOne_cases home s x with ⟨v, h, hs⟩ | ⟨reason, h, hs⟩ <;> rw [hs]
    · rw [List.filterMap_cons_none h]
      refine ih _ ?_
      show s.rejections.length + xs.length ≤ sensorClassCount
      omega
    · have hl : (s.reject x.sensor reason).rejections = s.rejections ++ [⟨x.sensor, reason⟩] := if_pos (by omega)
      rw [List.filterMap_cons_some h, ih, hl, List.append_assoc, List.singleton_append]
      rw [hl, List.length_append, List.length_singleton]
      omega

/-- What no sample touches. -/
theorem foldl_screenOne_frame (xs : List Sampled) (s : Screening) :
    (xs.foldl (g.screenOne home) s).consumed = s.consumed ∧
      (xs.foldl (g.screenOne home) s).snapshot.attitude = s.snapshot.attitude := by
  induction xs generalizing s with
  | nil => exact ⟨rfl, rfl⟩
  | cons x xs ih =>
    obtain ⟨hc, ha⟩ := ih (g.screenOne home s x)
    rw [List.foldl_cons, hc, ha]
    rcases g.screenOne_cases home s x with ⟨v, _, hs⟩ | ⟨reason, _, hs⟩ <;> rw [hs]
    · exact ⟨rfl, Snapshot.attitude_setField _ _ _⟩
    · exact ⟨rfl, rfl⟩

section Screen

variable (consumed : SensorMask) (xs : List Sampled)

theorem accepted_screen : (g.screen home consumed xs).accepted = .ofClasses (g.passing home xs) :=
  (g.foldl_screenOne home xs (.empty consumed)).1.trans (SensorMask.empty_union _)

theorem rejected_screen : (g.screen home consumed xs).rejected =
    .ofClasses ((xs.filterMap (g.refusal? home)).map Rejection.sensor) :=
  (g.foldl_screenOne home xs (.empty consumed)).2.trans (SensorMask.empty_union _)

/-- Samples of different classes leave room for every reason. -/
theorem rejections_screen (hx : (xs.map Sampled.sensor).Nodup) :
    (g.screen home consumed xs).rejections = xs.filterMap (g.refusal? home) := by
  have hlen := SensorClass.length_le_of_nodup hx
  rw [List.length_map] at hlen
  refine g.rejections_foldl_screenOne home xs (.empty consumed) ?_
  show 0 + xs.length ≤ sensorClassCount
  omega

end Screen

theorem mem_map_sensor {xs : List Sampled} {c : SensorClass} : c ∈ xs.map Sampled.sensor ↔
    c ∈ g.passing home xs ∨ c ∈ (xs.filterMap (g.refusal? home)).map Rejection.sensor := by
  rw [map_sensor_refusals, passing]
  simp only [List.mem_map, List.mem_filter, ← exists_or]
  refine exists_congr fun x => ?_
  cases g.refusal? home x <;> simp

/-- A class read once does not both pass and get dropped. -/
theorem not_mem_of_passing {xs : List Sampled} (hx : (xs.map Sampled.sensor).Nodup) {c : SensorClass}
    (hc : c ∈ g.passing home xs) : c ∉ (xs.filterMap (g.refusal? home)).map Rejection.sensor := by
  rw [map_sensor_refusals]
  intro hn
  obtain ⟨x, hxs, rfl⟩ := List.mem_map.mp hc
  obtain ⟨y, hys, hxy⟩ := List.mem_map.mp hn
  obtain ⟨hxs, hpass⟩ := List.mem_filter.mp hxs
  obtain ⟨hys, hdrop⟩ := List.mem_filter.mp hys
  rw [List.inj_on_of_nodup_map hx hys hxs hxy, Option.isSome_iff_ne_none] at hdrop
  exact hdrop (Option.isNone_iff_eq_none.mp hpass)

/-- Samples of different classes are split by their verdicts. -/
theorem screen_split (consumed : SensorMask) {xs : List Sampled} (hx : (xs.map Sampled.sensor).Nodup) :
    Split (.ofClasses (xs.map Sampled.sensor)) (g.screen home consumed xs).accepted
      (g.screen home consumed xs).rejected (g.screen home consumed xs).rejections := by
  rw [accepted_screen, rejected_screen, g.rejections_screen home consumed xs hx]
  constructor
  · refine SensorMask.eq_of_has ?_ (SensorMask.empty_inter _) fun c => ?_
    · rw [SensorMask.inter_assoc, SensorMask.ofClasses_inter_sensors]
    · rw [SensorMask.has_inter, SensorMask.has_ofClasses, SensorMask.has_ofClasses, SensorMask.has_empty,
        Bool.and_eq_false_imp, decide_eq_true_iff, decide_eq_false_iff_not]
      exact g.not_mem_of_passing home hx
  · refine SensorMask.eq_of_has ?_ (SensorMask.ofClasses_inter_sensors _) fun c => ?_
    · rw [SensorMask.union_inter_distrib, SensorMask.ofClasses_inter_sensors, SensorMask.ofClasses_inter_sensors]
    · rw [SensorMask.has_union, SensorMask.has_ofClasses, SensorMask.has_ofClasses, SensorMask.has_ofClasses,
        ← Bool.decide_or, decide_eq_decide]
      exact (g.mem_map_sensor home).symm
  · rfl
  · rw [map_sensor_refusals]
    exact hx.sublist (List.filter_sublist.map _)

/-! ## One class -/

theorem refusal?_eq_none_iff {x : Sampled} :
    g.refusal? home x = none ↔ ∃ v, g.judge home x.sensor x.sample = .ok v := by
  unfold refusal?
  cases g.judge home x.sensor x.sample <;> simp

theorem refusal?_eq_some_iff {x : Sampled} {r : Rejection} :
    g.refusal? home x = some r ↔ ∃ reason, g.judge home x.sensor x.sample = .error reason ∧ r = ⟨x.sensor, reason⟩ := by
  unfold refusal?
  cases g.judge home x.sensor x.sample <;> simp [eq_comm]

theorem screenOne_of_ok {s : Screening} {x : Sampled} {v : x.sensor.Field}
    (h : g.judge home x.sensor x.sample = .ok v) : g.screenOne home s x = s.accept x.sensor v := by
  simp only [screenOne, h]

theorem mem_passing {xs : List Sampled} {c : SensorClass} :
    c ∈ g.passing home xs ↔ ∃ sample v, ⟨c, sample⟩ ∈ xs ∧ g.judge home c sample = .ok v := by
  simp only [passing, List.mem_map, List.mem_filter, Option.isNone_iff_eq_none, refusal?_eq_none_iff]
  constructor
  · rintro ⟨⟨_, sample⟩, ⟨hx, v, hv⟩, rfl⟩
    exact ⟨sample, v, hx, hv⟩
  · rintro ⟨sample, v, hx, hv⟩
    exact ⟨⟨c, sample⟩, ⟨hx, v, hv⟩, rfl⟩

theorem sample_unique {xs : List Sampled} (hx : (xs.map Sampled.sensor).Nodup) {c : SensorClass} {a b : c.Sample}
    (ha : ⟨c, a⟩ ∈ xs) (hb : ⟨c, b⟩ ∈ xs) : a = b := by
  have h : (⟨c, a⟩ : Sampled) = ⟨c, b⟩ := List.inj_on_of_nodup_map hx ha hb rfl
  injection h

/-- What some sample of a class read once meets, its one sample meets. -/
theorem exists_sample_iff {xs : List Sampled} (hx : (xs.map Sampled.sensor).Nodup) {c : SensorClass}
    {sample : c.Sample} (hs : ⟨c, sample⟩ ∈ xs) {P : c.Sample → Prop} :
    (∃ other, ⟨c, other⟩ ∈ xs ∧ P other) ↔ P sample := by
  constructor
  · rintro ⟨other, ho, hp⟩
    rwa [sample_unique hx hs ho]
  · intro hp
    exact ⟨sample, hs, hp⟩

/-- Only a sample that passes changes the field of its class. -/
theorem field_foldl_of_not_passing {xs : List Sampled} {c : SensorClass} (hc : c ∉ g.passing home xs) (s : Screening) :
    (xs.foldl (g.screenOne home) s).snapshot.field c = s.snapshot.field c := by
  induction xs generalizing s with
  | nil => rfl
  | cons x xs ih =>
    rw [List.foldl_cons]
    rcases g.screenOne_cases home s x with ⟨v, h, hs⟩ | ⟨reason, h, hs⟩ <;> rw [hs]
    · have hp : g.passing home (x :: xs) = x.sensor :: g.passing home xs := by simp [passing, h]
      rw [hp, List.mem_cons, not_or] at hc
      exact (ih hc.2 _).trans (Snapshot.field_setField_of_ne _ _ hc.1)
    · have hp : g.passing home (x :: xs) = g.passing home xs := by simp [passing, h]
      rw [hp] at hc
      exact ih hc _

theorem field_screen (consumed : SensorMask) {xs : List Sampled} (hx : (xs.map Sampled.sensor).Nodup)
    {c : SensorClass} {sample : c.Sample} (hs : ⟨c, sample⟩ ∈ xs) {v : c.Field} (hv : g.judge home c sample = .ok v) :
    (g.screen home consumed xs).snapshot.field c = v := by
  unfold screen
  generalize Screening.empty consumed = s
  induction xs generalizing s with
  | nil => cases hs
  | cons x xs ih =>
    obtain ⟨hnot, hx⟩ := List.nodup_cons.mp hx
    rw [List.foldl_cons]
    rcases List.mem_cons.mp hs with rfl | hs
    · -- the samples that follow are of other classes
      have hrest : c ∉ g.passing home xs := fun h => hnot ((g.mem_map_sensor home).mpr (Or.inl h))
      rw [field_foldl_of_not_passing g home hrest, g.screenOne_of_ok home hv]
      exact Snapshot.field_setField _ _ _
    · exact ih hx hs _

theorem has_accepted_screen {consumed : SensorMask} {xs : List Sampled} {c : SensorClass} :
    (g.screen home consumed xs).accepted.has c = true ↔
      ∃ sample v, ⟨c, sample⟩ ∈ xs ∧ g.judge home c sample = .ok v := by
  rw [accepted_screen, SensorMask.has_ofClasses, decide_eq_true_iff, mem_passing]

theorem mem_rejections_screen {consumed : SensorMask} {xs : List Sampled} (hx : (xs.map Sampled.sensor).Nodup)
    {c : SensorClass} {reason : SanityError} :
    ⟨c, reason⟩ ∈ (g.screen home consumed xs).rejections ↔
      ∃ sample, ⟨c, sample⟩ ∈ xs ∧ g.judge home c sample = .error reason := by
  simp only [g.rejections_screen home consumed xs hx, List.mem_filterMap, refusal?_eq_some_iff]
  constructor
  · rintro ⟨⟨_, sample⟩, hx, _, hj, he⟩
    cases he
    exact ⟨sample, hx, hj⟩
  · rintro ⟨sample, hx, hj⟩
    exact ⟨_, hx, reason, hj, rfl⟩

theorem has_rejected_screen {consumed : SensorMask} {xs : List Sampled} (hx : (xs.map Sampled.sensor).Nodup)
    {c : SensorClass} :
    (g.screen home consumed xs).rejected.has c = true ↔
      ∃ sample reason, ⟨c, sample⟩ ∈ xs ∧ g.judge home c sample = .error reason := by
  rw [rejected_screen, ← g.rejections_screen home consumed xs hx, SensorMask.has_ofClasses, decide_eq_true_iff, List.mem_map]
  constructor
  · rintro ⟨⟨_, reason⟩, hr, rfl⟩
    obtain ⟨sample, hs, hj⟩ := (g.mem_rejections_screen home hx).mp hr
    exact ⟨sample, reason, hs, hj⟩
  · rintro ⟨sample, reason, hs, hj⟩
    exact ⟨⟨c, reason⟩, (g.mem_rejections_screen home hx).mpr ⟨sample, hs, hj⟩, rfl⟩

theorem field_of_not_accepted {consumed : SensorMask} {xs : List Sampled} {c : SensorClass}
    (hc : (g.screen home consumed xs).accepted.has c = false) :
    (g.screen home consumed xs).snapshot.field c = Snapshot.empty.field c := by
  rw [accepted_screen, SensorMask.has_ofClasses, decide_eq_false_iff_not] at hc
  exact g.field_foldl_of_not_passing home hc _

/-- What a screening has of a class is what the verdict on its sample says. -/
theorem shows_of_reading (consumed : SensorMask) {xs : List Sampled} (hx : (xs.map Sampled.sensor).Nodup)
    {c : SensorClass} {sample : c.Sample} (hs : ⟨c, sample⟩ ∈ xs) :
    (g.screen home consumed xs).Shows c (g.judge home c sample) := by
  have haccepted : (g.screen home consumed xs).accepted.has c = (g.judge home c sample).toOption.isSome := by
    rw [Bool.eq_iff_iff, has_accepted_screen]
    simp only [exists_and_left, exists_sample_iff hx hs]
    cases g.judge home c sample <;> simp [Except.toOption]
  have hrejected : (g.screen home consumed xs).rejected.has c = (g.judge home c sample).toOption.isNone := by
    rw [Bool.eq_iff_iff, g.has_rejected_screen home hx]
    simp only [exists_and_left, exists_sample_iff hx hs]
    cases g.judge home c sample <;> simp [Except.toOption]
  refine ⟨haccepted, hrejected, fun reason => ?_, ?_⟩
  · rw [g.mem_rejections_screen home hx, exists_sample_iff hx hs]
  · cases h : g.judge home c sample with
    | ok v => exact g.field_screen home consumed hx hs h
    | error e =>
      rw [h] at haccepted
      exact g.field_of_not_accepted home haccepted

/-- A class read once is rejected for the one reason that its check gives. -/
theorem rejected_of_error (consumed : SensorMask) {xs : List Sampled} (hx : (xs.map Sampled.sensor).Nodup)
    {c : SensorClass} {sample : c.Sample} (hs : ⟨c, sample⟩ ∈ xs) {e : SanityError}
    (he : g.judge home c sample = .error e) :
    (g.screen home consumed xs).rejected.has c = true ∧
      ∀ reason, ⟨c, reason⟩ ∈ (g.screen home consumed xs).rejections ↔ reason = e := by
  have hshows := g.shows_of_reading home consumed hx hs
  rw [he] at hshows
  refine ⟨hshows.rejected, fun reason => ?_⟩
  rw [hshows.rejections, Except.error.injEq, eq_comm]

end SanityGate

/-! ## The classes of a mask -/

section Apply

variable {ε : Type} [Environment ε]

def SensorMask.readings (m : SensorMask) (e : ε) : List Sampled := (Sweep.read (m.inter .sensors).classes e).samples

theorem SensorMask.map_sensor_readings (m : SensorMask) (e : ε) :
    (m.readings e).map Sampled.sensor = (m.inter .sensors).classes := Sweep.map_sensor_read _ _

theorem SensorMask.nodup_readings (m : SensorMask) (e : ε) : ((m.readings e).map Sampled.sensor).Nodup := by
  rw [map_sensor_readings]
  exact nodup_classes _

theorem SensorMask.mem_map_sensor_readings {m : SensorMask} {e : ε} {c : SensorClass} :
    c ∈ (m.readings e).map Sampled.sensor ↔ m.has c = true := by
  rw [map_sensor_readings, classes_inter_sensors, mem_classes]

theorem SensorMask.existsUnique_reading {m : SensorMask} {c : SensorClass} (h : m.has c = true) (e : ε) :
    ∃! sample, ⟨c, sample⟩ ∈ m.readings e := by
  have hc : c ∈ (m.readings e).map Sampled.sensor := mem_map_sensor_readings.mpr h
  obtain ⟨⟨_, sample⟩, hs, rfl⟩ := List.mem_map.mp hc
  exact ⟨sample, hs, fun _ hs' => SanityGate.sample_unique (m.nodup_readings e) hs' hs⟩

namespace SanityGate

variable (g : SanityGate) (home : HomeLinearizer)

theorem apply_shows {flagged : SensorMask} {e : ε} {c : SensorClass} {sample : c.Sample}
    (hs : ⟨c, sample⟩ ∈ flagged.readings e) : (g.apply home flagged e).screening.Shows c (g.judge home c sample) :=
  g.shows_of_reading home _ (flagged.nodup_readings e) hs

/-- What becomes of the classes flagged in a mask. -/
theorem apply_split (flagged : SensorMask) (e : ε) :
    let s := (g.apply home flagged e).screening
    Split (flagged.inter .sensors) s.accepted s.rejected s.rejections := by
  have h := g.screen_split home (flagged.inter .sensors) (flagged.nodup_readings e)
  rw [flagged.map_sensor_readings e, SensorMask.ofClasses_classes, SensorMask.inter_inter_self] at h
  exact h

end SanityGate

end Apply

end SensorFusion
