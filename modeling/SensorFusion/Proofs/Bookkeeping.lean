/-
  SensorFusion.Proofs.Bookkeeping — the gate keeps its books class by class.

  Every sensor bit of a mask is either accepted or rejected, and every rejected class has
  its one entry in the list of rejections. What the gate has of a class follows from the
  verdict on its own sample (`Screening.Shows`), so it is the same whatever other classes
  are flagged. With constant samples the screening of two masks together is therefore the
  union of their screenings: both lists of rejections are in class order, and two lists in
  class order with the same entries are the same.

  Proved (`gate_bookkeeping`): what `SanityGate.apply` returns for any mask, gate,
  linearizer and environment.
-/

import SensorFusion.Proofs.Screening
import SensorFusion.Simulation.World

namespace SensorFusion

/-! ## Class order -/

/-- Classes in class order are determined by which they are. -/
theorem SensorClass.eq_of_pairwise_index {cs ds : List SensorClass} (hc : cs.Pairwise (·.index < ·.index))
    (hd : ds.Pairwise (·.index < ·.index)) (h : ∀ c, c ∈ cs ↔ c ∈ ds) : cs = ds := by
  have hne : ∀ {c d : SensorClass}, c.index < d.index → c ≠ d := by
    rintro c _ hlt rfl
    exact Fin.lt_irrefl _ hlt
  have hperm : cs.Perm ds := (List.perm_ext_iff_of_nodup (hc.imp hne) (hd.imp hne)).mpr h
  refine hperm.eq_of_pairwise (fun c d _ _ hcd hdc => ?_) hc hd
  exact absurd (Fin.lt_trans hcd hdc) (Fin.lt_irrefl _)

namespace SensorMask

theorem has_eq_false_of_disjoint {m n : SensorMask} (h : m.inter n = .empty) {c : SensorClass} (hc : m.has c = true) :
    n.has c = false := by
  have hboth : (m.inter n).has c = false := by rw [h, has_empty]
  rwa [has_inter, hc, Bool.true_and] at hboth

theorem perm_classes_union {m n : SensorMask} (h : m.inter n = .empty) :
    (m.union n).classes.Perm (m.classes ++ n.classes) := by
  have hapart : (m.classes ++ n.classes).Nodup := by
    refine List.nodup_append.mpr ⟨m.nodup_classes, n.nodup_classes, ?_⟩
    rintro c hc _ hd rfl
    have hno := has_eq_false_of_disjoint h (mem_classes.mp hc)
    rw [mem_classes.mp hd] at hno
    cases hno
  refine (List.perm_ext_iff_of_nodup (m.union n).nodup_classes hapart).mpr fun c => ?_
  rw [List.mem_append, mem_classes, mem_classes, mem_classes, has_union, Bool.or_eq_true]

theorem eq_union_of_has {u a b : SensorMask} (hu : u.inter sensors = u) (ha : a.inter sensors = a)
    (hb : b.inter sensors = b) (h : ∀ c, u.has c = (a.has c || b.has c)) : u = a.union b := by
  refine eq_of_has hu ?_ fun c => ?_
  · rw [union_inter_distrib, ha, hb]
  · rw [has_union, h c]

end SensorMask

/-! ## One mask -/

namespace SanityGate

variable {ε : Type} [Environment ε] (g : SanityGate) (home : HomeLinearizer) (flagged : SensorMask) (e : ε)

theorem rejections_apply : (g.apply home flagged e).screening.rejections = (flagged.readings e).filterMap (g.refusal? home) :=
  g.rejections_screen home _ _ (flagged.nodup_readings e)

theorem pairwise_rejections_apply :
    ((g.apply home flagged e).screening.rejections.map Rejection.sensor).Pairwise (·.index < ·.index) := by
  have hsub : ((g.apply home flagged e).screening.rejections.map Rejection.sensor).Sublist
      ((flagged.readings e).map Sampled.sensor) := by
    rw [rejections_apply, map_sensor_refusals]
    exact List.filter_sublist.map _
  rw [flagged.map_sensor_readings] at hsub
  exact (SensorMask.pairwise_classes _).sublist hsub

theorem map_sensor_rejections_apply : (g.apply home flagged e).screening.rejections.map Rejection.sensor =
    (g.apply home flagged e).screening.rejected.classes := by
  refine SensorClass.eq_of_pairwise_index (g.pairwise_rejections_apply home flagged e) (SensorMask.pairwise_classes _) ?_
  intro c
  rw [← (g.apply_split home flagged e).classes, SensorMask.mem_classes, SensorMask.has_ofClasses, decide_eq_true_iff]

theorem inter_sensors_apply :
    (g.apply home flagged e).screening.accepted.inter .sensors = (g.apply home flagged e).screening.accepted ∧
      (g.apply home flagged e).screening.rejected.inter .sensors = (g.apply home flagged e).screening.rejected := by
  constructor
  · show (g.screen home _ (flagged.readings e)).accepted.inter .sensors = (g.screen home _ (flagged.readings e)).accepted
    rw [accepted_screen, SensorMask.ofClasses_inter_sensors]
  · rw [← (g.apply_split home flagged e).classes, SensorMask.ofClasses_inter_sensors]

theorem apply_of_not_flagged {flagged : SensorMask} {c : SensorClass} (hc : flagged.has c = false) :
    (g.apply home flagged e).screening.accepted.has c = false ∧
      (g.apply home flagged e).screening.rejected.has c = false := by
  have hunion := congrArg (·.has c) (g.apply_split home flagged e).union
  simpa [hc] using hunion

end SanityGate

/-! ## Constant samples -/

/-- Whatever has been read before, a read delivers the sample that `samples` has. -/
def Environment.Delivers {ε : Type} [Environment ε] (e : ε) (samples : (c : SensorClass) → c.Sample) : Prop :=
  ∀ cs c, (Environment.read c (Sweep.read cs e).after).sample = samples c

section Constant

variable {ε : Type} [Environment ε] {e : ε} {samples : (c : SensorClass) → c.Sample}

theorem Sweep.samples_read_of_delivers (h : Environment.Delivers e samples) (cs : List SensorClass) :
    (Sweep.read cs e).samples = cs.map fun c => ⟨c, samples c⟩ := by
  induction cs generalizing e with
  | nil => rfl
  | cons c cs ih =>
    have hrest : Environment.Delivers (Environment.read c e).after samples := fun ds => h (c :: ds)
    have hsample : (Environment.read c e).sample = samples c := h [] c
    simp only [read, ih hrest, hsample, List.map_cons]

theorem SensorMask.readings_of_delivers (h : Environment.Delivers e samples) (m : SensorMask) :
    m.readings e = m.classes.map fun c => ⟨c, samples c⟩ := by
  rw [readings, Sweep.samples_read_of_delivers h, classes_inter_sensors]

namespace SanityGate

variable (g : SanityGate) (home : HomeLinearizer)

theorem shows_of_delivers (h : Environment.Delivers e samples) {m : SensorMask} {c : SensorClass}
    (hc : m.has c = true) : (g.apply home m e).screening.Shows c (g.judge home c (samples c)) := by
  refine g.apply_shows home ?_
  rw [SensorMask.readings_of_delivers h]
  exact List.mem_map_of_mem (SensorMask.mem_classes.mpr hc)

theorem has_accepted_of_delivers (h : Environment.Delivers e samples) (m : SensorMask) (c : SensorClass) :
    (g.apply home m e).screening.accepted.has c = (m.has c && (g.judge home c (samples c)).toOption.isSome) := by
  cases hc : m.has c with
  | true => exact (g.shows_of_delivers home h hc).accepted
  | false => exact (g.apply_of_not_flagged home e hc).1

theorem has_rejected_of_delivers (h : Environment.Delivers e samples) (m : SensorMask) (c : SensorClass) :
    (g.apply home m e).screening.rejected.has c = (m.has c && (g.judge home c (samples c)).toOption.isNone) := by
  cases hc : m.has c with
  | true => exact (g.shows_of_delivers home h hc).rejected
  | false => exact (g.apply_of_not_flagged home e hc).2

theorem field_of_delivers (h : Environment.Delivers e samples) (m : SensorMask) (c : SensorClass) :
    (g.apply home m e).screening.snapshot.field c =
      if m.has c then (g.judge home c (samples c)).toOption.getD (Snapshot.empty.field c)
      else Snapshot.empty.field c := by
  cases hc : m.has c with
  | true => exact (g.shows_of_delivers home h hc).field
  | false => exact g.field_of_not_accepted home (g.apply_of_not_flagged home e hc).1

theorem rejections_of_delivers (h : Environment.Delivers e samples) (m : SensorMask) :
    (g.apply home m e).screening.rejections = m.classes.filterMap fun c => g.refusal? home ⟨c, samples c⟩ := by
  rw [rejections_apply, SensorMask.readings_of_delivers h, List.filterMap_map]
  rfl

end SanityGate

end Constant

/-! ## Two masks -/

namespace SanityGate

variable {ε : Type} [Environment ε] (g : SanityGate) (home : HomeLinearizer)

def comesFirst (x y : Rejection) : Bool := x.sensor.index ≤ y.sensor.index

section Union

variable {e em en : ε} {samples : (c : SensorClass) → c.Sample} (h : Environment.Delivers e samples)
  (hm : Environment.Delivers em samples) (hn : Environment.Delivers en samples) (m n : SensorMask)

include h hm hn

theorem accepted_union : (g.apply home (m.union n) e).screening.accepted =
    (g.apply home m em).screening.accepted.union (g.apply home n en).screening.accepted := by
  refine SensorMask.eq_union_of_has (g.inter_sensors_apply home _ e).1 (g.inter_sensors_apply home m em).1
    (g.inter_sensors_apply home n en).1 fun c => ?_
  rw [g.has_accepted_of_delivers home h, g.has_accepted_of_delivers home hm, g.has_accepted_of_delivers home hn,
    SensorMask.has_union, Bool.and_or_distrib_right]

theorem rejected_union : (g.apply home (m.union n) e).screening.rejected =
    (g.apply home m em).screening.rejected.union (g.apply home n en).screening.rejected := by
  refine SensorMask.eq_union_of_has (g.inter_sensors_apply home _ e).2 (g.inter_sensors_apply home m em).2
    (g.inter_sensors_apply home n en).2 fun c => ?_
  rw [g.has_rejected_of_delivers home h, g.has_rejected_of_delivers home hm, g.has_rejected_of_delivers home hn,
    SensorMask.has_union, Bool.and_or_distrib_right]

/-- A class flagged in neither mask has the zero field on both sides. -/
theorem field_union (c : SensorClass) : (g.apply home (m.union n) e).screening.snapshot.field c =
    if m.has c then (g.apply home m em).screening.snapshot.field c
    else (g.apply home n en).screening.snapshot.field c := by
  rw [g.field_of_delivers home h, g.field_of_delivers home hm, g.field_of_delivers home hn, SensorMask.has_union]
  cases m.has c <;> rfl

variable {m n} in
theorem rejections_union (hapart : m.inter n = .empty) : (g.apply home (m.union n) e).screening.rejections =
    (g.apply home m em).screening.rejections.merge (g.apply home n en).screening.rejections comesFirst := by
  have hsorted : ∀ (k : SensorMask) (e : ε), (g.apply home k e).screening.rejections.Pairwise (comesFirst · ·) := by
    intro k e
    refine (List.pairwise_map.mp (g.pairwise_rejections_apply home k e)).imp fun hlt => ?_
    exact decide_eq_true (Nat.le_of_lt hlt)
  have hperm : (g.apply home (m.union n) e).screening.rejections.Perm
      ((g.apply home m em).screening.rejections.merge (g.apply home n en).screening.rejections comesFirst) := by
    refine List.Perm.trans ?_ (List.merge_perm_append comesFirst).symm
    rw [g.rejections_of_delivers home h, g.rejections_of_delivers home hm, g.rejections_of_delivers home hn,
      ← List.filterMap_append]
    exact (SensorMask.perm_classes_union hapart).filterMap _
  have hmerged : ((g.apply home m em).screening.rejections.merge (g.apply home n en).screening.rejections
      comesFirst).Pairwise (comesFirst · ·) := by
    refine List.pairwise_merge (fun a b c hab hbc => ?_) (fun a b => ?_) _ _ (hsorted m em) (hsorted n en)
    · exact decide_eq_true (Nat.le_trans (of_decide_eq_true hab) (of_decide_eq_true hbc))
    · simp only [comesFirst, Bool.or_eq_true, decide_eq_true_iff]
      exact Nat.le_total _ _
  -- in the same order, and no class twice
  refine hperm.eq_of_pairwise (fun x y hx hy hxy hyx => ?_) (hsorted _ e) hmerged
  have hsensor : x.sensor = y.sensor :=
    SensorClass.index_injective _ _ (Fin.le_antisymm (of_decide_eq_true hxy) (of_decide_eq_true hyx))
  exact List.inj_on_of_nodup_map (g.apply_split home (m.union n) e).once hx (hperm.mem_iff.mpr hy) hsensor

end Union

end SanityGate

/-! ## The gate -/

namespace SanityGate

theorem checkPosition_congr (g : SanityGate) {home home' : HomeLinearizer} (h : home'.reference = home.reference)
    (fix : Fix) : g.checkPosition home' fix = g.checkPosition home fix := by
  rw [checkPosition_eq, checkPosition_eq, h]

/-- The verdict on a class goes by its sample alone, and for a fix by the tolerance and the
    reference. -/
theorem judge_congr {g g' : SanityGate} {home home' : HomeLinearizer} {c : SensorClass}
    (h : c = .position → g' = g ∧ home'.reference = home.reference) (sample : c.Sample) :
    g'.judge home' c sample = g.judge home c sample := by
  cases c with
  | position =>
    obtain ⟨rfl, href⟩ := h rfl
    exact g'.checkPosition_congr href sample
  | _ => rfl

/-- What the gate returns, for any mask, gate, linearizer and environment.
    (1) The consumed classes are the mask's sensor bits; each is either accepted or rejected.
    (2) There is one rejection for each rejected class, in class order, and no more of them
        than there is room for.
    (3) A class that is not accepted keeps its zero field, and so does the attitude.
    (4) The environment is left as reading each flagged class once, in class order, leaves
        it; no other class is read.
    (5) What becomes of a class depends on its own sample alone, and for a fix on the
        tolerance and the reference, whatever else differs between two applications.
    (6) Over the same constant samples, two masks without a common bit are screened together
        as they are one by one: accepted and rejected classes are united, the rejections
        merged in class order, and each field is the one of the mask that has its class. -/
theorem gate_bookkeeping {ε ε' : Type} [Environment ε] [Environment ε'] (g g' : SanityGate)
    (home home' : HomeLinearizer) (flagged flagged' : SensorMask) (e : ε) (e' : ε') :
    let o := g.apply home flagged e
    let s := o.screening
    let s' := (g'.apply home' flagged' e').screening
    (s.consumed = flagged.inter .sensors ∧ s.accepted.inter s.rejected = .empty ∧
      s.accepted.union s.rejected = s.consumed) ∧
    (s.rejections.map Rejection.sensor = s.rejected.classes ∧
      (s.rejections.map Rejection.sensor).Pairwise (·.index < ·.index) ∧ s.rejections.length ≤ sensorClassCount) ∧
    ((∀ c, s.accepted.has c = false → s.snapshot.field c = Snapshot.empty.field c) ∧ s.snapshot.attitude = .zero) ∧
    (o.after = flagged.classes.foldl (fun e c => (Environment.read c e).after) e ∧
      flagged.classes.Pairwise (·.index < ·.index) ∧ ∀ c, c ∈ flagged.classes ↔ flagged.has c = true) ∧
    (∀ c sample, ⟨c, sample⟩ ∈ flagged.readings e → ⟨c, sample⟩ ∈ flagged'.readings e' →
      (c = .position → g' = g ∧ home'.reference = home.reference) →
        s'.accepted.has c = s.accepted.has c ∧ s'.rejected.has c = s.rejected.has c ∧
          (∀ reason, ⟨c, reason⟩ ∈ s'.rejections ↔ ⟨c, reason⟩ ∈ s.rejections) ∧
          s'.snapshot.field c = s.snapshot.field c) ∧
    (∀ (m n : SensorMask) (em en : ε) (samples : (c : SensorClass) → c.Sample), m.inter n = .empty →
      Environment.Delivers e samples → Environment.Delivers em samples → Environment.Delivers en samples →
        let a := (g.apply home m em).screening
        let b := (g.apply home n en).screening
        let u := (g.apply home (m.union n) e).screening
        u.accepted = a.accepted.union b.accepted ∧ u.rejected = a.rejected.union b.rejected ∧
          u.rejections = a.rejections.merge b.rejections (fun x y => x.sensor.index ≤ y.sensor.index) ∧
          ∀ c, u.snapshot.field c = if m.has c then a.snapshot.field c else b.snapshot.field c) := by
  intro o s s'
  have hsplit : Split (flagged.inter .sensors) s.accepted s.rejected s.rejections := g.apply_split home flagged e
  have hframe := g.foldl_screenOne_frame home (flagged.readings e) (.empty (flagged.inter .sensors))
  have hsorted : (s.rejections.map Rejection.sensor).Pairwise (·.index < ·.index) :=
    g.pairwise_rejections_apply home flagged e
  have hlen := SensorClass.length_le_of_nodup hsplit.once
  rw [List.length_map] at hlen
  refine ⟨⟨hframe.1, hsplit.disjoint, hsplit.union.trans hframe.1.symm⟩,
    ⟨g.map_sensor_rejections_apply home flagged e, hsorted, hlen⟩, ⟨fun c hc => ?_, hframe.2⟩,
    ⟨?_, flagged.pairwise_classes, fun c => SensorMask.mem_classes⟩, ?_, ?_⟩
  · exact g.field_of_not_accepted home hc
  · rw [← flagged.classes_inter_sensors]
    exact Sweep.after_read _ e
  · intro c sample hs hs' hsame
    have h := g.apply_shows home hs
    have h' := g'.apply_shows home' hs'
    rw [judge_congr hsame] at h'
    exact ⟨h'.accepted.trans h.accepted.symm, h'.rejected.trans h.rejected.symm,
      fun reason => (h'.rejections reason).trans (h.rejections reason).symm, h'.field.trans h.field.symm⟩
  · intro m n em en samples hapart h hm hn a b u
    exact ⟨g.accepted_union home h hm hn m n, g.rejected_union home h hm hn m n,
      g.rejections_union home h hm hn hapart, g.field_union home h hm hn m n⟩

end SanityGate

/-! ## A disconnected airspeed sensor in a simulated world -/

open Simulation

theorem Simulation.World.delivers (w : World) : Environment.Delivers w w.bus.sample := by
  have hbus : ∀ (cs : List SensorClass) (w : World), (Sweep.read cs w).after.bus = w.bus := by
    intro cs
    induction cs with
    | nil => exact fun _ => rfl
    | cons c cs ih => exact fun w => ih (Environment.read c w).after
  intro cs c
  show (Sweep.read cs w).after.bus.sample c = w.bus.sample c
  rw [hbus]

/-- Without a home the fix is rejected, and the airspeed for its sensor is disconnected, also
    by a gate with another tolerance. The rejection of the fix comes first whichever mask has
    it. -/
theorem SanityGate.gate_bookkeeping_of_two_rejections :
    let world : World := ⟨.silent, .manual 0, #[]⟩
    let wide : SanityGate := ⟨1⟩
    let m : SensorMask := .ofClasses [.gyro, .airspeed]
    let n : SensorMask := .ofClasses [.position, .baro]
    let a := (SanityGate.default.apply .empty m world).screening
    let b := (SanityGate.default.apply .empty n world).screening
    let u := (SanityGate.default.apply .empty (m.union n) world).screening
    let w := (wide.apply .empty m world).screening
    m.inter n = .empty ∧ Environment.Delivers world world.bus.sample ∧
      a.rejections.map Rejection.sensor = [.airspeed] ∧ b.rejections.map Rejection.sensor = [.position] ∧
      u.rejections.map Rejection.sensor = [.position, .airspeed] ∧
      u.rejections = a.rejections.merge b.rejections (fun x y => x.sensor.index ≤ y.sensor.index) ∧
      u.accepted.has .airspeed = false ∧ u.snapshot.field .airspeed = Snapshot.empty.field .airspeed ∧
      ⟨.airspeed, ⟨0, false⟩⟩ ∈ (m.union n).readings world ∧ ⟨.airspeed, ⟨0, false⟩⟩ ∈ m.readings world ∧
      w.rejected.has .airspeed = u.rejected.has .airspeed := by
  intro world wide m n a b u w
  have hapart : m.inter n = .empty := by decide
  have hdelivers : Environment.Delivers world world.bus.sample := world.delivers
  have hread : ∀ k : SensorMask, k.has .airspeed = true → ⟨.airspeed, ⟨0, false⟩⟩ ∈ k.readings world := by
    intro k hk
    rw [SensorMask.readings_of_delivers hdelivers]
    exact List.mem_map.mpr ⟨.airspeed, SensorMask.mem_classes.mpr hk, rfl⟩
  have hu := hread (m.union n) (by decide)
  have hm := hread m (by decide)
  have hno : u.accepted.has .airspeed = false := by decide +kernel
  obtain ⟨_, _, ⟨hzero, _⟩, _, hlocal, hunion⟩ :=
    gate_bookkeeping SanityGate.default wide .empty .empty (m.union n) m world world
  obtain ⟨_, _, hmerge, _⟩ := hunion m n world world world.bus.sample hapart hdelivers hdelivers hdelivers
  obtain ⟨_, hrejected, _⟩ := hlocal .airspeed ⟨0, false⟩ hu hm (fun h => by cases h)
  exact ⟨hapart, hdelivers, by decide +kernel, by decide +kernel, by decide +kernel, hmerge, hno,
    hzero .airspeed hno, hu, hm, hrejected⟩

end SensorFusion
