/-
  SensorFusion.Proofs.FailSoft — a chain passes a snapshot through all its units, whichever
  of them fail.

  A unit is any state machine: an update takes its state and the snapshot to a new state, a
  new snapshot and a verdict. What a chain makes of a snapshot is the left fold of the
  updates (`UpdatePass.refined`), and each unit is given what the units before it made of it
  (`UpdatePass.updates`). The pass of a chain is a recursion over its units, so each part of
  it is read off by induction on them. The report is a loop with room for as many failures as
  a chain has units; a chain has no more, so it loses none.

  Proved (`every_unit_runs`): what a run of any chain does and reports; that verdicts decide
  about the report and nothing else (`SameEffect`); that a chain split in two runs as its
  parts do, one after the other.
-/

import Mathlib.Data.List.Forall2
import SensorFusion.Chain.Builder
import SensorFusion.Simulation.Unit

namespace SensorFusion

/-! ## One pass -/

namespace UpdatePass

variable {υ : Type} [FilterUnit υ]

theorem calls_ofUnits (us : List υ) (s : Snapshot) :
    (ofUnits us s).calls = (updates us s).map fun r => (FilterUnit.name r.unit, r.failure) := by
  rw [ofUnits_eq]

theorem refined_append (us vs : List υ) (s : Snapshot) : refined (us ++ vs) s = refined vs (refined us s) :=
  List.foldl_append

/-- Later units go on where the earlier ones stopped. -/
theorem ofUnits_append (us vs : List υ) (s : Snapshot) :
    ofUnits (us ++ vs) s =
      { units := (ofUnits us s).units ++ (ofUnits vs (ofUnits us s).snapshot).units
        snapshot := (ofUnits vs (ofUnits us s).snapshot).snapshot
        arrivals := (ofUnits us s).arrivals ++ (ofUnits vs (ofUnits us s).snapshot).arrivals
        calls := (ofUnits us s).calls ++ (ofUnits vs (ofUnits us s).snapshot).calls } := by
  induction us generalizing s with
  | nil => rfl
  | cons u us ih => simp [ofUnits, ih]

end UpdatePass

/-! ## Reports -/

namespace ChainReport

variable {calls : List (String × Option FilterError)}

theorem mem_failures_ofCalls (h : calls.length ≤ maxFilterUnits) {f : UnitFailure} :
    f ∈ (ofCalls calls).failures ↔ calls[f.index]? = some (f.name, some f.error) := by
  rw [failures_ofCalls h, failuresFrom, List.mem_filterMap]
  constructor
  · rintro ⟨⟨⟨name, failure⟩, i⟩, hx, hf⟩
    rw [List.mem_zipIdx_iff_getElem?] at hx
    obtain ⟨e, rfl, rfl⟩ := Option.map_eq_some_iff.mp hf
    exact hx
  · intro hx
    exact ⟨((f.name, some f.error), f.index), List.mem_zipIdx_iff_getElem?.mpr hx, rfl⟩

theorem failed_ofCalls (h : calls.length ≤ maxFilterUnits) (i : Nat) :
    (ofCalls calls).failed i = calls[i]?.any fun call => call.2.isSome := by
  rw [Bool.eq_iff_iff, failed, List.any_eq_true]
  simp only [beq_iff_eq, mem_failures_ofCalls h, Option.any_eq_true, Option.isSome_iff_exists]
  constructor
  · rintro ⟨f, hf, rfl⟩
    exact ⟨_, hf, _, rfl⟩
  · rintro ⟨⟨name, _⟩, hf, e, rfl⟩
    exact ⟨⟨i, name, e⟩, hf, rfl⟩

theorem isClean_ofCalls (h : calls.length ≤ maxFilterUnits) :
    (ofCalls calls).isClean = true ↔ ∀ call ∈ calls, call.2 = none := by
  rw [isClean, List.isEmpty_iff, List.eq_nil_iff_forall_not_mem]
  constructor
  · rintro hnone ⟨name, failure⟩ hc
    obtain ⟨i, hi⟩ := List.mem_iff_getElem?.mp hc
    cases failure with
    | none => rfl
    | some e => exact absurd ((mem_failures_ofCalls h).mpr hi) (hnone ⟨i, name, e⟩)
  · intro hnone f hf
    cases hnone _ (List.mem_of_getElem? ((mem_failures_ofCalls h).mp hf))

theorem failuresFrom_add (k start : Nat) (calls : List (String × Option FilterError)) :
    failuresFrom (k + start) calls = (failuresFrom start calls).map fun f => { f with index := k + f.index } := by
  induction calls generalizing start with
  | nil => rfl
  | cons call calls ih =>
    rw [failuresFrom_cons, failuresFrom_cons, List.map_append, ← ih, Nat.add_assoc]
    cases call.2 <;> rfl

theorem failuresFrom_append (start : Nat) (calls calls' : List (String × Option FilterError)) :
    failuresFrom start (calls ++ calls') = failuresFrom start calls ++ failuresFrom (start + calls.length) calls' := by
  rw [failuresFrom, failuresFrom, failuresFrom, List.zipIdx_append, List.filterMap_append]

end ChainReport

/-! ## Runs -/

/-- Units that `R` relates have the same effect on states and snapshots. Their names and
    verdicts may differ. -/
structure SameEffect {υ υ' : Type} [FilterUnit υ] [FilterUnit υ'] (R : υ → υ' → Prop) : Prop where
  snapshot : ∀ {u u'} s, R u u' → (FilterUnit.update u' s).snapshot = (FilterUnit.update u s).snapshot
  unit : ∀ {u u'} s, R u u' → R (FilterUnit.update u s).unit (FilterUnit.update u' s).unit

theorem SameEffect.updatePass {υ υ' : Type} [FilterUnit υ] [FilterUnit υ'] {R : υ → υ' → Prop} (hR : SameEffect R)
    {us : List υ} {us' : List υ'} (h : List.Forall₂ R us us') (s : Snapshot) :
    (UpdatePass.ofUnits us' s).snapshot = (UpdatePass.ofUnits us s).snapshot ∧
      List.Forall₂ R (UpdatePass.ofUnits us s).units (UpdatePass.ofUnits us' s).units := by
  induction h generalizing s with
  | nil => exact ⟨rfl, .nil⟩
  | cons hu _ ih =>
    simp only [UpdatePass.ofUnits, hR.snapshot s hu]
    exact ⟨(ih _).1, .cons (hR.unit s hu) (ih _).2⟩

namespace FilterChain

variable {υ : Type} [FilterUnit υ]

theorem length_calls_le (c : FilterChain υ) (s : Snapshot) :
    (UpdatePass.ofUnits c.units s).calls.length ≤ maxFilterUnits := by
  rw [UpdatePass.length_calls_ofUnits]
  exact c.length_le

theorem executed_run (c : FilterChain υ) (s : Snapshot) : (c.run s).report.executed = c.length :=
  (ChainReport.executed_ofCalls _).trans (UpdatePass.length_calls_ofUnits c.units s)

theorem failures_run (c : FilterChain υ) (s : Snapshot) :
    (c.run s).report.failures = ChainReport.failuresFrom 0 (UpdatePass.ofUnits c.units s).calls :=
  ChainReport.failures_ofCalls (c.length_calls_le s)

/-- A chain of the units of two runs as the first and then the second. -/
theorem run_of_append {c first second : FilterChain υ} (h : c.units = first.units ++ second.units) (s : Snapshot) :
    let r₁ := first.run s
    let r₂ := second.run r₁.snapshot
    (c.run s).snapshot = r₂.snapshot ∧ (c.run s).chain.units = r₁.chain.units ++ r₂.chain.units ∧
      (c.run s).arrivals = r₁.arrivals ++ r₂.arrivals ∧
      (c.run s).report.executed = r₁.report.executed + r₂.report.executed ∧
      (c.run s).report.failures = r₁.report.failures ++
        r₂.report.failures.map fun f => { f with index := first.length + f.index } := by
  intro r₁ r₂
  have hpass : UpdatePass.ofUnits c.units s = _ := h ▸ UpdatePass.ofUnits_append first.units second.units s
  have hsnapshot := congrArg UpdatePass.snapshot hpass
  have hunits := congrArg UpdatePass.units hpass
  have harrivals := congrArg UpdatePass.arrivals hpass
  refine ⟨hsnapshot, hunits, harrivals, ?_, ?_⟩
  · rw [executed_run, executed_run, executed_run, length, h, List.length_append]
    rfl
  · have hlen : (UpdatePass.ofUnits first.units s).calls.length = first.length :=
      UpdatePass.length_calls_ofUnits first.units s
    rw [failures_run, failures_run, failures_run, congrArg UpdatePass.calls hpass, ChainReport.failuresFrom_append,
      hlen, Nat.zero_add, ← ChainReport.failuresFrom_add, Nat.add_zero]
    rfl

/-- A run of any chain on any snapshot.
    (1) Each unit is updated once, in chain order, on what the units before it made of the
        snapshot, the failing ones included: the left fold of their updates. The run ends with
        the fold of all.
    (2) The report counts every unit, and has the failures of those that failed, in chain
        order, each under the place, name and error of its unit; none is lost.
    (3) It says of a place that its unit failed just when it did, and is clean just when none
        failed.
    (4) Units with the same effect but other verdicts give the same snapshot, and as many of
        them run.
    (5) A chain of the units of two runs as the first and then the second, on what the first
        made of the snapshot. -/
theorem every_unit_runs (c : FilterChain υ) (s : Snapshot) :
    let r := c.run s
    let given (i : Nat) := UpdatePass.refined (c.units.take i) s
    let us := c.units.mapIdx fun i u => FilterUnit.update u (given i)
    ((given 0 = s ∧
        ∀ i (hi : i < c.units.length), given (i + 1) = (FilterUnit.update c.units[i] (given i)).snapshot) ∧
      r.chain.units = us.map UnitUpdate.unit ∧ r.snapshot = UpdatePass.refined c.units s) ∧
    (r.report.executed = c.length ∧ (r.report.failures.map UnitFailure.index).Pairwise (· < ·) ∧
      r.report.failures = us.zipIdx.filterMap fun (u, i) => u.failure.map fun e => ⟨i, FilterUnit.name u.unit, e⟩) ∧
    ((∀ i, r.report.failed i = true ↔ ∃ u, us[i]? = some u ∧ u.failure ≠ none) ∧
      (r.report.isClean = true ↔ ∀ u ∈ us, u.failure = none)) ∧
    (∀ {υ' : Type} [FilterUnit υ'] (R : υ → υ' → Prop) (c' : FilterChain υ'), SameEffect R →
      List.Forall₂ R c.units c'.units →
        (c'.run s).snapshot = r.snapshot ∧ (c'.run s).report.executed = r.report.executed ∧
          List.Forall₂ R r.chain.units (c'.run s).chain.units) ∧
    (∀ first second : FilterChain υ, c.units = first.units ++ second.units →
      let r₁ := first.run s
      let r₂ := second.run r₁.snapshot
      r.snapshot = r₂.snapshot ∧ r.chain.units = r₁.chain.units ++ r₂.chain.units ∧
        r.arrivals = r₁.arrivals ++ r₂.arrivals ∧ r.report.executed = r₁.report.executed + r₂.report.executed ∧
        r.report.failures = r₁.report.failures ++
          r₂.report.failures.map fun f => { f with index := first.length + f.index }) := by
  intro r given us
  have hcalls : (UpdatePass.ofUnits c.units s).calls = us.map fun u => (FilterUnit.name u.unit, u.failure) :=
    UpdatePass.calls_ofUnits c.units s
  have hreport : r.report = .ofCalls (us.map fun u => (FilterUnit.name u.unit, u.failure)) := by
    rw [← hcalls]
    rfl
  have hroom : (us.map fun u => (FilterUnit.name u.unit, u.failure)).length ≤ maxFilterUnits := by
    rw [← hcalls]
    exact c.length_calls_le s
  refine ⟨⟨⟨rfl, fun i hi => ?_⟩, ?_, ?_⟩, ⟨c.executed_run s, ChainReport.pairwise_index_ofCalls _, ?_⟩, ⟨fun i => ?_, ?_⟩,
    fun R c' hR hunits => ?_, fun first second hunits => run_of_append hunits s⟩
  · show UpdatePass.refined (c.units.take (i + 1)) s = _
    rw [List.take_succ_eq_append_getElem hi, UpdatePass.refined_append]
    rfl
  · exact congrArg UpdatePass.units (UpdatePass.ofUnits_eq c.units s)
  · exact congrArg UpdatePass.snapshot (UpdatePass.ofUnits_eq c.units s)
  · rw [hreport, ChainReport.failures_ofCalls hroom, ChainReport.failuresFrom, List.zipIdx_map, List.filterMap_map]
    rfl
  · rw [hreport, ChainReport.failed_ofCalls hroom, List.getElem?_map]
    cases us[i]? with
    | none => simp
    | some u => simp [Option.isSome_iff_ne_none]
  · rw [hreport, ChainReport.isClean_ofCalls hroom, List.forall_mem_map]
  · obtain ⟨hsnapshot, hafter⟩ := hR.updatePass hunits s
    refine ⟨hsnapshot, ?_, hafter⟩
    rw [executed_run, executed_run]
    exact hunits.length_eq.symm

open Simulation

/-- A unit that sets the altitude and fails, before one that doubles it: the second is given
    what the first has set, also if the first is pardoned, and the two run as one after the
    other. -/
theorem second_unit_runs_after_failure :
    let set : Action := .assign (.baro 5)
    let failing := ScriptedUnit.new "set" none none [set, .fail .missingInput]
    let pardoned := ScriptedUnit.new "set" none none [set]
    let double := ScriptedUnit.new "double" none none [.affine 2 0]
    let R : ScriptedUnit → ScriptedUnit → Prop := fun u u' =>
      u' = u ∨ u.script = [set, .fail .missingInput] ∧ u'.script = [set]
    let c : FilterChain ScriptedUnit := .ofUnits [failing, double] (by decide)
    let c' : FilterChain ScriptedUnit := .ofUnits [pardoned, double] (by decide)
    let first : FilterChain ScriptedUnit := .ofUnits [failing] (by decide)
    let second : FilterChain ScriptedUnit := .ofUnits [double] (by decide)
    let r := c.run .empty
    let given := (UpdatePass.refined (c.units.take 1) .empty)
    0 < c.units.length ∧ SameEffect R ∧ List.Forall₂ R c.units c'.units ∧ c.units = first.units ++ second.units ∧
      given = (FilterUnit.update failing .empty).snapshot ∧ r.snapshot.baro = 10 ∧
      r.report = ⟨2, [⟨0, "set", .missingInput⟩]⟩ ∧ (c'.run .empty).snapshot = r.snapshot ∧
      r.snapshot = (second.run (first.run .empty).snapshot).snapshot := by
  intro set failing pardoned double R c c' first second r given
  have hpos : 0 < c.units.length := by decide
  have hR : SameEffect R := by
    constructor
    · rintro u u' s (rfl | ⟨hu, hu'⟩)
      · rfl
      · simp only [FilterUnit.update, ScriptedUnit.update, hu, hu']
        rfl
    · rintro u u' s (rfl | ⟨hu, hu'⟩)
      · exact Or.inl rfl
      · exact Or.inr ⟨hu, hu'⟩
  have hunits : List.Forall₂ R c.units c'.units := .cons (Or.inr ⟨rfl, rfl⟩) (.cons (Or.inl rfl) .nil)
  obtain ⟨⟨⟨_, hgiven⟩, _⟩, _, _, hverdicts, hparts⟩ := every_unit_runs c .empty
  exact ⟨hpos, hR, hunits, rfl, hgiven 0 hpos, by decide +kernel, by decide, (hverdicts R c' hR hunits).1,
    (hparts first second rfl).1⟩

end FilterChain

end SensorFusion
