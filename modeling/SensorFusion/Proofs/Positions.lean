/-
  SensorFusion.Proofs.Positions — positions are offsets from the latest acceptable home.

  A fix is measured from the reference that the linearizer holds when the run reads it. Over
  a whole execution this is the reference of the last acceptable home location announced
  (`HomeHistory`), so until there is one every fix is dropped for the want of a home, unless
  it is malformed, and from then on none is dropped for it again, whatever is announced.

  Proved (`positions_measured_from_latest_home`): what becomes of the fix of every run of
  every execution.
-/

import SensorFusion.Proofs.HomeHistory
import SensorFusion.Proofs.Screening
import SensorFusion.Simulation.Unit
import SensorFusion.Simulation.World

namespace SensorFusion.Estimator

variable {ε υ : Type} [Environment ε]

def readings (x : Estimator ε υ) : List Sampled :=
  (Sweep.read (x.tracker.pending.inter .sensors).classes (Environment.tick x.env)).samples

theorem nodup_readings (x : Estimator ε υ) : (x.readings.map Sampled.sensor).Nodup :=
  x.tracker.pending.nodup_readings (Environment.tick x.env)

theorem existsUnique_reading {x : Estimator ε υ} {c : SensorClass} (h : x.tracker.pending.has c = true) :
    ∃! sample, ⟨c, sample⟩ ∈ x.readings := SensorMask.existsUnique_reading h (Environment.tick x.env)

variable [FilterUnit υ]

/-- Positions are offsets from the latest acceptable home, in every run of every execution
    from `setUp`, also when others consume from the tracker:
    (1) a run that consumes a position reads one fix;
    (2) as long as no home location announced was acceptable, the fix is rejected, as
        malformed if one of its scalars is not finite, and else for the want of a home;
    (3) once one was acceptable, nothing is rejected for the want of a home;
    (4) an accepted position goes to the filter chain as the offset of the fix from the
        reference of the last acceptable location. -/
theorem positions_measured_from_latest_home (env : ε) (chain : FilterChain υ) (gate : SanityGate)
    (settings : EstimationSettings) (ops : List (SharedOp ε)) (r : RunReport) :
    let start := setUp env chain gate settings
    let y := (start.execShared ops).2
    let homes := start.announced ops
    let fed := y.gated.screening.snapshot
    y.poll.1 = some r →
      (r.consumed.has .position = true → ∃! fix : Fix, ⟨.position, fix⟩ ∈ y.readings) ∧
      ((∀ home ∈ homes, ∃ e, HomeReference.ofHome home = .error e) → ∀ fix : Fix, ⟨.position, fix⟩ ∈ y.readings →
        r.rejected.has .position = true ∧
          ∀ reason, ⟨.position, reason⟩ ∈ r.rejections ↔
            reason = if fix.isFinite then .homeNotConfigured else .malformedValue) ∧
      ((∃ home ∈ homes, ∃ ref, HomeReference.ofHome home = .ok ref) → ∀ c, ⟨c, .homeNotConfigured⟩ ∉ r.rejections) ∧
      (r.accepted.has .position = true →
        ∃ (fix : Fix) (ref : HomeReference), ⟨.position, fix⟩ ∈ y.readings ∧ HomeReference.latest homes = some ref ∧
          fed.updated = r.accepted ∧ fed.position = ref.nedOffset fix ∧
          r.snapshot = (y.scheduler.chain.run fed).snapshot) := by
  intro start y homes fed hr
  obtain ⟨t, _, _, rfl, _⟩ := poll_eq_some hr
  have hlatest : y.scheduler.home.reference = HomeReference.latest homes := setUp_execShared_reference ..
  refine ⟨fun hc => existsUnique_reading (x := y) hc, fun hnone fix hfix => ?_, ?_, fun hacc => ?_⟩
  · have hno := hlatest.trans (HomeReference.latest_eq_none_iff.mpr hnone)
    exact SanityGate.rejected_of_error _ _ _ y.nodup_readings hfix (SanityGate.judge_position_of_no_reference _ hno fix)
  · rintro ⟨home, hm, _, hok⟩ c hc
    obtain ⟨ref, href⟩ := HomeReference.exists_latest hm hok
    obtain ⟨sample, _, hj⟩ := (SanityGate.mem_rejections_screen _ _ y.nodup_readings).mp hc
    exact y.scheduler.gate.judge_ne_homeNotConfigured (hlatest.trans href) c sample hj
  · obtain ⟨fix, v, hfix, hv⟩ := (SanityGate.has_accepted_screen _ _).mp hacc
    obtain ⟨ref, href, rfl⟩ := SanityGate.judge_position_eq_ok _ hv
    exact ⟨fix, ref, hfix, hlatest.symm.trans href, rfl,
      SanityGate.field_screen _ _ _ y.nodup_readings hfix hv, rfl⟩

/-! ## A home set late in a simulated world -/

open Simulation

/-- A fix is rejected for the want of a home, since nobody has set the location given at the
    start. After a location that is set it is rejected for other reasons only, although one
    that is not set follows. -/
theorem position_rejected_before_and_after_home :
    let world : World := ⟨.silent, .manual 0, #[]⟩
    let start := setUp world (.ofUnits ([] : List ScriptedUnit) (by decide)) .default .default
    let home (set : Bool) : HomeLocation := ⟨47, 8, 500, .zero, set⟩
    let early := [.own (.start (some (home false))), .own (.mark .position)]
    let late := early ++ [.own .poll, .own (.changeHome (home true)), .own (.changeHome (home false)),
      .own (.mark .position)]
    let y := (start.execShared early).2
    let z := (start.execShared late).2
    ∃ r w, y.poll.1 = some r ∧ z.poll.1 = some w ∧
      (∀ reason, ⟨.position, reason⟩ ∈ r.rejections ↔ reason = .homeNotConfigured) ∧
      (∀ c, ⟨c, .homeNotConfigured⟩ ∉ w.rejections) ∧ w.rejected.has .position = true := by
  intro world start home early late y z
  have hr : y.poll.1 = some (y.ran .sensorUpdate).1 := rfl
  have hw : z.poll.1 = some (z.ran .sensorUpdate).1 := rfl
  obtain ⟨_, hbefore, _, _⟩ := positions_measured_from_latest_home world _ _ _ early _ hr
  obtain ⟨_, _, hafter, _⟩ := positions_measured_from_latest_home world _ _ _ late _ hw
  have hunset : ∀ h ∈ start.announced early, ∃ e, HomeReference.ofHome h = .error e := by
    intro h hm
    cases hm with
    | head => exact ⟨_, rfl⟩
    | tail _ hm => cases hm
  have hok : ∃ ref, HomeReference.ofHome ⟨47, 8, 500, .zero, true⟩ = .ok ref := ⟨_, rfl⟩
  have hset : ∃ h ∈ start.announced late, ∃ ref, HomeReference.ofHome h = .ok ref := ⟨_, .tail _ (.head _), hok⟩
  have hfix : ⟨.position, ⟨0, 0, 0, 0⟩⟩ ∈ y.readings := by
    have hclasses : (y.tracker.pending.inter .sensors).classes = [.position] := by decide
    rw [readings, hclasses]
    exact .head _
  exact ⟨_, _, hr, hw, (hbefore hunset _ hfix).2, hafter hset, by decide +kernel⟩

end SensorFusion.Estimator
