/-
  SensorFusion.Proofs.Acceptance — exactly which samples the gate accepts.

  What a sample must meet is a list (`requirements`), in the order in which the reasons take
  precedence: scalars finite, then what its class asks for beyond that. The verdict of the
  gate is the first requirement that is not met (`judge_eq`). The last one of a fix is that
  its offset is finite: a finite fix can be too far from home for single precision.

  Whatever the gate accepts is finite and everything else in its snapshot is zero, so no
  other scalar comes to the filter chain (`isFinite_apply`); what a unit is given after that is
  the work of the units before it (`UpdatePass.inputs`).

  Proved (`accepted_iff_requirements_met`): which flagged classes are accepted, what is kept of
  their samples and why the others are rejected, and what the filter chain gets of them.
-/

import SensorFusion.Proofs.Positions

namespace SensorFusion

/-! ## Scalars -/

def SensorClass.scalars : (c : SensorClass) → c.Field → List Float32
  | .gyro, v | .accel, v | .mag, v | .position, v | .velocity, v => v.toList
  | .baro, x | .airspeed, x => [x]

def Snapshot.scalars (s : Snapshot) : List Float32 :=
  [s.gyro, s.accel, s.mag, s.position, s.velocity].flatMap Vec3.toList ++ [s.baro, s.airspeed] ++ s.attitude.toList

def Snapshot.isFinite (s : Snapshot) : Bool := s.scalars.all Float32.isFinite

theorem Snapshot.isFinite_of_field {s : Snapshot} (hf : ∀ c : SensorClass, (c.scalars (s.field c)).all Float32.isFinite = true)
    (ha : s.attitude.toList.all Float32.isFinite = true) : s.isFinite = true := by
  have hvectors : ([s.gyro, s.accel, s.mag, s.position, s.velocity].flatMap Vec3.toList).all Float32.isFinite = true := by
    simp only [List.flatMap_cons, List.flatMap_nil, List.all_append, List.append_nil, Bool.and_eq_true]
    exact ⟨hf .gyro, hf .accel, hf .mag, hf .position, hf .velocity⟩
  have hscalars : [s.baro, s.airspeed].all Float32.isFinite = true := by
    simpa [SensorClass.scalars, field] using And.intro (hf .baro) (hf .airspeed)
  rw [isFinite, scalars, List.all_append, List.all_append, hvectors, hscalars, ha]
  rfl

/-! ## Requirements -/

structure Requirement where
  met : Bool
  otherwise : SanityError

/-- The reason to reject a sample: that of the first requirement that is not met. -/
def firstUnmet (rs : List Requirement) : Option SanityError :=
  (rs.find? fun r => !r.met).map Requirement.otherwise

theorem firstUnmet_eq_none_iff {rs : List Requirement} : firstUnmet rs = none ↔ ∀ r ∈ rs, r.met = true := by
  simp [firstUnmet]

def demand {α : Type} (rs : List Requirement) (kept : Except SanityError α) : Except SanityError α :=
  match firstUnmet rs with
  | some reason => .error reason
  | none => kept

theorem demand_nil {α : Type} (kept : Except SanityError α) : demand [] kept = kept := rfl

theorem demand_cons {α : Type} (met : Bool) (reason : SanityError) (rs : List Requirement)
    (kept : Except SanityError α) : demand (⟨met, reason⟩ :: rs) kept = if met then demand rs kept else .error reason := by
  cases met <;> rfl

theorem Vec3.all_isFinite (v : Vec3) : [v.x, v.y, v.z].all Float32.isFinite = v.isFinite := by
  simp [isFinite, Bool.and_assoc]

namespace SanityGate

def positionRequirements (g : SanityGate) (home : HomeLinearizer) (fix : Fix) : List Requirement :=
  [⟨[fix.latitude, fix.longitude].all Float.isFinite && [fix.altitude, fix.geoidSeparation].all Float32.isFinite,
      .malformedValue⟩,
    ⟨home.reference.isSome, .homeNotConfigured⟩,
    ⟨!(fix.latitude.abs ≤ g.nullFixTolerance && fix.longitude.abs ≤ g.nullFixTolerance), .nullFix⟩,
    ⟨!(fix.latitude < -90.0 || 90.0 < fix.latitude), .outOfRange fix.latitude (-90.0) 90.0⟩,
    ⟨!(fix.longitude < -180.0 || 180.0 < fix.longitude), .outOfRange fix.longitude (-180.0) 180.0⟩,
    ⟨(home.convert fix).toOption.any fun v => [v.x, v.y, v.z].all Float32.isFinite, .malformedValue⟩]

/-- What a sample must meet to be accepted, in order of precedence. -/
def requirements (g : SanityGate) (home : HomeLinearizer) : (c : SensorClass) → c.Sample → List Requirement
  | .gyro, v | .accel, v | .mag, v | .velocity, v => [⟨[v.x, v.y, v.z].all Float32.isFinite, .malformedValue⟩]
  | .baro, x => [⟨x.isFinite, .malformedValue⟩]
  | .airspeed, a => [⟨a.calibrated.isFinite, .malformedValue⟩, ⟨a.connected, .sensorDisconnected⟩]
  | .position, fix => g.positionRequirements home fix

/-- What is kept of a sample: the sample itself, and of a fix its offset from home. -/
def kept (home : HomeLinearizer) : (c : SensorClass) → c.Sample → Except SanityError c.Field
  | .gyro, v | .accel, v | .mag, v | .velocity, v => .ok v
  | .baro, x => .ok x
  | .airspeed, a => .ok a.calibrated
  | .position, fix => home.convert fix

variable (g : SanityGate) (home : HomeLinearizer)

theorem range_bind {α : Type} (value min max : Float) (next : Unit → Except SanityError α) :
    (Check.range value min max).bind next =
      if !(value < min || max < value) then next () else .error (.outOfRange value min max) := by
  have hout : (!(value < min || max < value)) = !decide (value < min ∨ max < value) := by rw [Bool.decide_or]
  unfold Check.range
  rw [hout]
  by_cases h : value < min ∨ max < value
  · rw [if_pos h, decide_eq_true h]
    rfl
  · rw [if_neg h, decide_eq_false h]
    rfl

theorem checkCoordinate_bind {α : Type} (latitude longitude : Float) (next : Unit → Except SanityError α) :
    (Geodesy.checkCoordinate latitude longitude).bind next =
      if !(latitude < -90.0 || 90.0 < latitude) then
        if !(longitude < -180.0 || 180.0 < longitude) then next ()
        else .error (.outOfRange longitude (-180.0) 180.0)
      else .error (.outOfRange latitude (-90.0) 90.0) := by
  have hbind : (Geodesy.checkCoordinate latitude longitude).bind next =
      (Check.range latitude (-Geodesy.latitudeLimit) Geodesy.latitudeLimit).bind fun _ =>
        (Check.range longitude (-Geodesy.longitudeLimit) Geodesy.longitudeLimit).bind next := by
    unfold Geodesy.checkCoordinate
    cases Check.range latitude (-Geodesy.latitudeLimit) Geodesy.latitudeLimit <;> rfl
  rw [hbind, range_bind, range_bind, Geodesy.latitudeLimit, Geodesy.longitudeLimit]

theorem checkPosition_eq_demand (fix : Fix) :
    g.checkPosition home fix = demand (g.positionRequirements home fix) (home.convert fix) := by
  have hfinite : ([fix.latitude, fix.longitude].all Float.isFinite &&
      [fix.altitude, fix.geoidSeparation].all Float32.isFinite) = fix.isFinite := rfl
  have hnull : (fix.latitude.abs ≤ g.nullFixTolerance && fix.longitude.abs ≤ g.nullFixTolerance) = g.isNullFix fix := rfl
  rw [checkPosition_eq]
  simp only [positionRequirements, demand_cons, demand_nil, hfinite, hnull]
  refine if_congr Iff.rfl ?_ rfl
  -- without a reference there is no offset to look at, with one it is the offset from there
  cases href : home.reference with
  | none => rfl
  | some ref =>
    have hconvert : home.convert fix = .ok (ref.nedOffset fix) := by rw [HomeLinearizer.convert, href]
    simp only [hconvert, Option.isSome_some, if_true]
    cases g.isNullFix fix with
    | true => rfl
    | false =>
      simp only [Bool.false_eq_true, if_false, Bool.not_false, if_true, checkCoordinate_bind, Check.vector,
        ← Vec3.all_isFinite]
      rfl

theorem judge_eq (c : SensorClass) (sample : c.Sample) :
    g.judge home c sample = demand (g.requirements home c sample) (kept home c sample) := by
  have hvector (v : Vec3) : Check.vector v = demand [⟨[v.x, v.y, v.z].all Float32.isFinite, .malformedValue⟩] (.ok v) := by
    rw [Check.vector, demand_cons, Vec3.all_isFinite]
    rfl
  have hscalar (x : Float32) : Check.scalar x = demand [⟨x.isFinite, .malformedValue⟩] (.ok x) := by
    rw [Check.scalar, demand_cons]
    rfl
  have hairspeed (a : Airspeed) : Check.airspeed a =
      demand [⟨a.calibrated.isFinite, .malformedValue⟩, ⟨a.connected, .sensorDisconnected⟩] (.ok a.calibrated) := by
    rw [Check.airspeed, demand_cons, demand_cons, ite_not, ite_not]
    rfl
  cases c with
  | position => exact g.checkPosition_eq_demand home sample
  | baro => exact hscalar sample
  | airspeed => exact hairspeed sample
  | _ => exact hvector sample

/-- With every requirement met there is something finite to keep. -/
theorem kept_of_met {c : SensorClass} {sample : c.Sample} (h : firstUnmet (g.requirements home c sample) = none) :
    ∃ v, kept home c sample = .ok v ∧ (c.scalars v).all Float32.isFinite = true := by
  rw [firstUnmet_eq_none_iff] at h
  cases c with
  | position =>
    have hoffset : (home.convert sample).toOption.any (fun v => v.toList.all Float32.isFinite) = true :=
      h _ (List.mem_of_getLast? rfl)
    show ∃ v, home.convert sample = .ok v ∧ v.toList.all Float32.isFinite = true
    cases hc : home.convert sample with
    | ok v =>
      rw [hc] at hoffset
      exact ⟨v, rfl, hoffset⟩
    | error e =>
      rw [hc] at hoffset
      cases hoffset
  | baro => exact ⟨sample, rfl, (Bool.and_true _).trans (h _ (List.mem_singleton_self _))⟩
  | airspeed => exact ⟨_, rfl, (Bool.and_true _).trans (h _ (List.mem_cons_self ..))⟩
  | _ => exact ⟨sample, rfl, h _ (List.mem_singleton_self _)⟩

/-- A sample is kept, or rejected for the first requirement that it does not meet. -/
theorem judge_cases (c : SensorClass) (sample : c.Sample) :
    (∃ v, firstUnmet (g.requirements home c sample) = none ∧ kept home c sample = .ok v ∧
      (c.scalars v).all Float32.isFinite = true ∧ g.judge home c sample = .ok v) ∨
    ∃ reason, firstUnmet (g.requirements home c sample) = some reason ∧ g.judge home c sample = .error reason := by
  have hj := g.judge_eq home c sample
  unfold demand at hj
  cases h : firstUnmet (g.requirements home c sample) with
  | none =>
    obtain ⟨v, hv, hfinite⟩ := g.kept_of_met home h
    rw [h] at hj
    exact Or.inl ⟨v, rfl, hv, hfinite, hj.trans hv⟩
  | some reason =>
    rw [h] at hj
    exact Or.inr ⟨reason, rfl, hj⟩

variable {ε : Type} [Environment ε]

theorem isFinite_apply (flagged : SensorMask) (e : ε) : (g.apply home flagged e).screening.snapshot.isFinite = true := by
  have hzero : ∀ c : SensorClass, (c.scalars (Snapshot.empty.field c)).all Float32.isFinite = true := by
    intro c
    cases c <;> decide
  have hattitude : (g.apply home flagged e).screening.snapshot.attitude = .zero :=
    (g.foldl_screenOne_frame home (flagged.readings e) (.empty _)).2
  refine Snapshot.isFinite_of_field (fun c => ?_) ?_
  · cases hacc : (g.apply home flagged e).screening.accepted.has c with
    | false =>
      have hfield : (g.apply home flagged e).screening.snapshot.field c = Snapshot.empty.field c :=
        g.field_of_not_accepted home hacc
      rw [hfield]
      exact hzero c
    | true =>
      obtain ⟨sample, v, hs, hv⟩ := (g.has_accepted_screen home).mp hacc
      have hfield : (g.apply home flagged e).screening.snapshot.field c = v :=
        g.field_screen home _ (flagged.nodup_readings e) hs hv
      rw [hfield]
      rcases g.judge_cases home c sample with ⟨w, _, _, hw, hj⟩ | ⟨reason, _, hj⟩ <;> rw [hj] at hv
      · rwa [← Except.ok.inj hv]
      · cases hv
  · rw [hattitude]
    decide

end SanityGate

/-! ## What the units are given -/

def UpdatePass.inputs {υ : Type} [FilterUnit υ] : List υ → Snapshot → List Snapshot
  | [], _ => []
  | u :: us, s => s :: inputs us (FilterUnit.update u s).snapshot

/-- As long as no unit spoils a finite snapshot, every unit is given one. -/
theorem UpdatePass.isFinite_inputs {υ : Type} [FilterUnit υ] {us : List υ}
    (hu : ∀ u ∈ us, ∀ s : Snapshot, s.isFinite = true → (FilterUnit.update u s).snapshot.isFinite = true)
    {s : Snapshot} (hs : s.isFinite = true) : ∀ i ∈ inputs us s, i.isFinite = true := by
  induction us generalizing s with
  | nil =>
    intro i hi
    cases hi
  | cons u us ih =>
    intro i hi
    rcases List.mem_cons.mp hi with rfl | hi
    · exact hs
    · exact ih (fun w hw => hu w (List.mem_cons_of_mem _ hw)) (hu u (List.mem_cons_self ..) s hs) i hi

open SanityGate in
/-- Exactly what the gate accepts, for any mask, samples, tolerance and linearizer, and what
    the filter chain gets of it in any run.
    (1) Every flagged class is read, once.
    (2) It is accepted just when its sample meets every requirement; the sample is then kept
        as it is, and a fix as its offset from home. Otherwise it is rejected for the first
        requirement that is not met, and for no other reason.
    (3) Every scalar of the snapshot is finite.
    (4) A run passes such a snapshot to the chain, and nothing else; so no unit is given a
        scalar that is not finite unless a unit before it has put it there. -/
theorem accepted_iff_requirements_met {ε υ : Type} [Environment ε] [FilterUnit υ] (g : SanityGate)
    (home : HomeLinearizer) (flagged : SensorMask) (e : ε) (x : Estimator ε υ) :
    let s := (g.apply home flagged e).screening
    let units := x.scheduler.chain.units
    let fed := x.gated.screening.snapshot
    (∀ c, flagged.has c = true → ∃! sample, ⟨c, sample⟩ ∈ flagged.readings e) ∧
    (∀ c sample, ⟨c, sample⟩ ∈ flagged.readings e →
      let unmet := firstUnmet (g.requirements home c sample)
      (s.accepted.has c = true ↔ unmet = none) ∧
      (s.accepted.has c = true → kept home c sample = .ok (s.snapshot.field c)) ∧
      (∀ reason, ⟨c, reason⟩ ∈ s.rejections ↔ unmet = some reason)) ∧
    s.snapshot.isFinite = true ∧
    (∀ r, x.poll.1 = some r →
      fed.isFinite = true ∧ r.accepted = fed.updated ∧ r.snapshot = (UpdatePass.ofUnits units fed).snapshot ∧
      ((∀ u ∈ units, ∀ i : Snapshot, i.isFinite = true → (FilterUnit.update u i).snapshot.isFinite = true) →
        ∀ i ∈ UpdatePass.inputs units fed, i.isFinite = true)) := by
  intro s units fed
  refine ⟨fun c hc => SensorMask.existsUnique_reading hc e, ?_, g.isFinite_apply home flagged e, ?_⟩
  · intro c sample hs unmet
    have hshows := g.apply_shows home hs
    rcases g.judge_cases home c sample with ⟨v, hmet, hkept, _, hj⟩ | ⟨reason, hunmet, hj⟩ <;> rw [hj] at hshows
    · have hmet' : unmet = none := hmet
      have hacc : s.accepted.has c = true := hshows.accepted
      refine ⟨iff_of_true hacc hmet', fun _ => ?_, fun reason => ?_⟩
      · exact hkept.trans (congrArg Except.ok hshows.field.symm)
      · rw [hmet', hshows.rejections]
        simp
    · have hunmet' : unmet = some reason := hunmet
      have hno : s.accepted.has c = false := hshows.accepted
      rw [hunmet', hno]
      refine ⟨by simp, fun h => (by cases h), fun other => ?_⟩
      rw [hshows.rejections, Except.error.injEq, Option.some.injEq]
  · intro r hr
    have hfed : fed.isFinite = true := SanityGate.isFinite_apply _ _ _ _
    obtain ⟨t, _, _, rfl, _⟩ := Estimator.poll_eq_some hr
    exact ⟨hfed, rfl, rfl, fun hu => UpdatePass.isFinite_inputs hu hfed⟩

/-! ## A malformed airspeed in a simulated world -/

open Simulation in
/-- Without a home the fix is rejected. An airspeed that is not a number is malformed although
    its sensor is disconnected, too. Zero is an altitude like any other. -/
theorem accepted_iff_requirements_met_of_nan_airspeed :
    let world : World := ⟨{ Bus.silent with airspeed := ⟨0 / 0, false⟩ }, .manual 0, #[]⟩
    let flagged : SensorMask := .ofClasses [.position, .baro, .airspeed]
    let unit : ScriptedUnit := .new "attitude" none none [.mark .attitude]
    let x := ((Estimator.setUp world (.ofUnits [unit] (by decide)) .default .default).exec
      [.start none, .mark .airspeed]).2
    let s := (SanityGate.default.apply .empty flagged world).screening
    s.accepted.has .baro = true ∧ SanityGate.kept .empty .baro (0 : Float32) = .ok (s.snapshot.field .baro) ∧
      ⟨.airspeed, .malformedValue⟩ ∈ s.rejections ∧ ⟨.position, .homeNotConfigured⟩ ∈ s.rejections ∧
      ∃ r, x.poll.1 = some r ∧
        ∀ i ∈ UpdatePass.inputs x.scheduler.chain.units x.gated.screening.snapshot, i.isFinite = true := by
  intro world flagged unit x s
  have hclasses : (flagged.inter .sensors).classes = [.position, .baro, .airspeed] := by decide
  obtain ⟨_, hexact, _, hfed⟩ := accepted_iff_requirements_met SanityGate.default .empty flagged world x
  have hread : flagged.readings world =
      [⟨.position, ⟨0, 0, 0, 0⟩⟩, ⟨.baro, (0 : Float32)⟩, ⟨.airspeed, ⟨0 / 0, false⟩⟩] := by
    rw [SensorMask.readings, hclasses]
    rfl
  obtain ⟨hbaro, hkept, _⟩ := hexact .baro (0 : Float32) (by rw [hread]; exact .tail _ (.head _))
  obtain ⟨_, _, hairspeed⟩ := hexact .airspeed ⟨0 / 0, false⟩ (by rw [hread]; exact .tail _ (.tail _ (.head _)))
  obtain ⟨_, _, hposition⟩ := hexact .position ⟨0, 0, 0, 0⟩ (by rw [hread]; exact .head _)
  have hacc : s.accepted.has .baro = true := hbaro.mpr rfl
  have hr : x.poll.1 = some (x.ran .sensorUpdate).1 := rfl
  have hunits : ∀ u ∈ x.scheduler.chain.units, ∀ i : Snapshot, i.isFinite = true →
      (FilterUnit.update u i).snapshot.isFinite = true := by
    intro u hu i hi
    rw [List.mem_singleton.mp hu]
    exact hi
  exact ⟨hacc, hkept hacc, (hairspeed .malformedValue).mpr rfl, (hposition .homeNotConfigured).mpr rfl, _, hr,
    (hfed _ hr).2.2.2 hunits⟩

end SensorFusion
