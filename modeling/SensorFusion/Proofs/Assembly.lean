/-
  SensorFusion.Proofs.Assembly — assembling a chain from settings.

  The units come from a constructor with state, so it matters which kinds it is asked for, in
  what order and how often. `Assembly.answers` and `Assembly.asked` say what it would answer,
  and how it would be left, if it were asked for a list of kinds whatever it answers;
  `Assembly.recorded` has it note the kinds it is asked for.

  Acceptable settings list no kind twice and there are seven kinds, so a builder with room
  for eight units never runs over.

  Proved (`assembled_in_configured_order`): the result of the assembly, the calls of the
  constructor and the state it is left in, for any settings and any constructor.
-/

import SensorFusion.Chain.Builder
import SensorFusion.Simulation.Unit

namespace SensorFusion

namespace Assembly

variable {υ σ : Type} (make : FilterKind → σ → Option υ × σ)

def answers (s : σ) : List FilterKind → List (Option υ)
  | [] => []
  | k :: ks => (make k s).1 :: answers (make k s).2 ks

def asked (s : σ) (ks : List FilterKind) : σ := ks.foldl (fun s k => (make k s).2) s

/-- The constructor, with a list of the kinds it was asked for. -/
def recorded (k : FilterKind) (x : σ × List FilterKind) : Option υ × (σ × List FilterKind) :=
  ((make k x.1).1, (make k x.1).2, x.2 ++ [k])

theorem length_answers (s : σ) (ks : List FilterKind) : (answers make s ks).length = ks.length := by
  induction ks generalizing s with
  | nil => rfl
  | cons k ks ih => rw [answers, List.length_cons, List.length_cons, ih]

theorem answers_recorded (x : σ × List FilterKind) (ks : List FilterKind) :
    answers (recorded make) x ks = answers make x.1 ks := by
  induction ks generalizing x with
  | nil => rfl
  | cons k ks ih =>
    rw [answers, answers, ih]
    rfl

theorem asked_recorded (x : σ × List FilterKind) (ks : List FilterKind) :
    asked (recorded make) x ks = (asked make x.1 ks, x.2 ++ ks) := by
  induction ks generalizing x with
  | nil => simp [asked]
  | cons k ks ih =>
    have hstep : asked (recorded make) x (k :: ks) = asked (recorded make) (recorded make k x).2 ks := rfl
    rw [hstep, ih]
    simp [recorded, asked]

theorem answers_cases (s : σ) (ks : List FilterKind) :
    (∃ units : List υ, answers make s ks = units.map some) ∨
      ∃ (earlier : List FilterKind) (k : FilterKind) (later : List FilterKind) (units : List υ),
        ks = earlier ++ k :: later ∧ answers make s earlier = units.map some ∧
          (make k (asked make s earlier)).1 = none := by
  induction ks generalizing s with
  | nil => exact Or.inl ⟨[], rfl⟩
  | cons k ks ih =>
    cases hk : (make k s).1 with
    | none => exact Or.inr ⟨[], k, ks, [], rfl, rfl, hk⟩
    | some u =>
      rcases ih (make k s).2 with ⟨units, hu⟩ | ⟨earlier, k', later, units, rfl, hu, hno⟩
      · exact Or.inl ⟨u :: units, by rw [answers, hk, hu, List.map_cons]⟩
      · exact Or.inr ⟨k :: earlier, k', later, u :: units, rfl, by rw [answers, hk, hu, List.map_cons], hno⟩

end Assembly

namespace FilterChain

open Assembly

variable {υ σ : Type} {make : FilterKind → σ → Option υ × σ}

theorem assemble_of_answers {s : σ} {ks : List FilterKind} {units : List υ} (h : answers make s ks = units.map some)
    (b : ChainBuilder υ) : assemble make ks b s = ((units.foldl ChainBuilder.add b).build, asked make s ks) := by
  induction ks generalizing s units b with
  | nil =>
    obtain rfl : units = [] := by simpa [answers] using h.symm
    rfl
  | cons k ks ih =>
    cases units with
    | nil => simp [answers] at h
    | cons u units =>
      rw [answers, List.map_cons, List.cons.injEq] at h
      obtain ⟨hk, hks⟩ := h
      have hmake : make k s = (some u, (make k s).2) := Prod.ext hk rfl
      rw [assemble, hmake, List.foldl_cons]
      exact ih hks (b.add u)

/-- The first refusal ends the assembly. -/
theorem assemble_of_refusal {s : σ} {earlier : List FilterKind} {units : List υ}
    (h : answers make s earlier = units.map some) {k : FilterKind} (hk : (make k (asked make s earlier)).1 = none)
    (later : List FilterKind) (b : ChainBuilder υ) : assemble make (earlier ++ k :: later) b s =
      (.error (.unknownFilter k.name), asked make s (earlier ++ [k])) := by
  induction earlier generalizing s units b with
  | nil =>
    have hmake : make k s = (none, (make k s).2) := Prod.ext hk rfl
    rw [List.nil_append, assemble, hmake]
    rfl
  | cons k' earlier ih =>
    cases units with
    | nil => simp [answers] at h
    | cons u units =>
      rw [answers, List.map_cons, List.cons.injEq] at h
      obtain ⟨hk', hearlier⟩ := h
      have hmake : make k' s = (some u, (make k' s).2) := Prod.ext hk' rfl
      rw [List.cons_append, assemble, hmake]
      exact ih hearlier hk (b.add u)

theorem ofSettings_of_answers {settings : EstimationSettings} (hv : settings.validate = .ok ()) {s : σ}
    {units : List υ} (h : answers make s settings.filterOrder = units.map some) :
    ∃ hlen, ofSettings settings make s = (.ok (.ofUnits units hlen), asked make s settings.filterOrder) := by
  have hlen : units.length ≤ maxFilterUnits := by
    rw [← List.length_map (f := some), ← h, length_answers]
    exact settings.length_le
  refine ⟨hlen, ?_⟩
  simp only [ofSettings, hv]
  rw [assemble_of_answers h, ← ofList, ofList_of_length_le hlen]

theorem ofSettings_of_refusal {settings : EstimationSettings} (hv : settings.validate = .ok ()) {s : σ}
    {earlier later : List FilterKind} {k : FilterKind} (horder : settings.filterOrder = earlier ++ k :: later)
    {units : List υ} (h : answers make s earlier = units.map some) (hk : (make k (asked make s earlier)).1 = none) :
    ofSettings settings make s = (.error (.unknownFilter k.name), asked make s (earlier ++ [k])) := by
  simp only [ofSettings, hv, horder]
  exact assemble_of_refusal h hk later .empty

/-- Assembling a chain from any settings with any constructor.
    (1) Having it note the kinds it is asked for changes nothing else.
    (2) Settings that are not acceptable give their error, and it is asked for nothing.
    (3) Otherwise it is asked for the configured kinds in the configured order, once each:
        either for all of them, each giving a unit, and the result is a new chain of these
        units; or up to the first kind that it refuses, and the result names that kind.
    (4) A chain never gets too many units, since acceptable settings list seven kinds at
        most. -/
theorem assembled_in_configured_order (settings : EstimationSettings) (make : FilterKind → σ → Option υ × σ) (s : σ) :
    let o := ofSettings settings make s
    let noted := ofSettings settings (recorded make) (s, [])
    let order := settings.filterOrder
    (noted.1 = o.1 ∧ noted.2.1 = o.2) ∧
    (∀ e, settings.validate = .error e → o = (.error e, s) ∧ noted.2.2 = []) ∧
    (settings.validate = .ok () →
      (∃ (units : List υ) (chain : FilterChain υ), answers make s order = units.map some ∧
        o = (.ok chain, asked make s order) ∧ noted.2.2 = order ∧ chain.units = units ∧ chain.metrics = .zero) ∨
      ∃ (earlier : List FilterKind) (k : FilterKind) (later : List FilterKind) (units : List υ),
        order = earlier ++ k :: later ∧ answers make s earlier = units.map some ∧
          (make k (asked make s earlier)).1 = none ∧
          o = (.error (.unknownFilter k.name), asked make s (earlier ++ [k])) ∧ noted.2.2 = earlier ++ [k]) ∧
    (∀ capacity, o.1 ≠ .error (.tooManyFilters capacity)) ∧
    (settings.validate = .ok () → order.length ≤ 7) := by
  intro o noted order
  cases hv : settings.validate with
  | error e =>
    have ho : o = (.error e, s) := by simp only [o, ofSettings, hv]
    have hnoted : noted = (.error e, s, []) := by simp only [noted, ofSettings, hv]
    rw [ho, hnoted]
    refine ⟨⟨rfl, rfl⟩, fun e' he => ?_, fun h => (by cases h), fun capacity h => ?_, fun h => (by cases h)⟩
    · cases he
      exact ⟨rfl, rfl⟩
    · cases h
      exact settings.validate_ne_tooManyFilters capacity hv
  | ok u =>
    have hlen : order.length ≤ 7 := FilterKind.length_le_of_nodup (EstimationSettings.validate_eq_ok_iff.mp hv).2
    rcases answers_cases make s order with ⟨units, hu⟩ | ⟨earlier, k, later, units, horder, hu, hk⟩
    · obtain ⟨hle, ho⟩ := ofSettings_of_answers hv hu
      obtain ⟨_, hnoted⟩ := ofSettings_of_answers (s := (s, [])) hv ((answers_recorded make (s, []) order).trans hu)
      have ho' : o = (.ok (.ofUnits units hle), asked make s order) := ho
      have hnoted' : noted = (.ok (.ofUnits units hle), asked make s order, order) := by
        rw [asked_recorded] at hnoted
        exact hnoted
      rw [ho', hnoted']
      exact ⟨⟨rfl, rfl⟩, fun _ h => (by cases h), fun _ => Or.inl ⟨units, _, hu, rfl, rfl, rfl, rfl⟩,
        fun _ h => (by cases h), fun _ => hlen⟩
    · have ho : o = (.error (.unknownFilter k.name), asked make s (earlier ++ [k])) :=
        ofSettings_of_refusal hv horder hu hk
      have hk' : (recorded make k (asked (recorded make) (s, []) earlier)).1 = none := by
        rw [asked_recorded]
        exact hk
      have hnoted : noted = (.error (.unknownFilter k.name), asked make s (earlier ++ [k]), earlier ++ [k]) := by
        have h := ofSettings_of_refusal hv horder ((answers_recorded make (s, []) earlier).trans hu) hk'
        rw [asked_recorded] at h
        exact h
      rw [ho, hnoted]
      exact ⟨⟨rfl, rfl⟩, fun _ h => (by cases h),
        fun _ => Or.inr ⟨earlier, k, later, units, horder, hu, hk, rfl, rfl⟩, fun _ h => (by cases h), fun _ => hlen⟩

open Simulation

/-- A constructor that makes two units and no more, under the default settings, refuses the
    third kind; under settings with no timeout it is asked for nothing. -/
theorem assembly_stops_at_first_refusal :
    let make : FilterKind → Nat → Option ScriptedUnit × Nat := fun k made =>
      (if made < 2 then some (ScriptedUnit.new k.name none none []) else none, made + 1)
    let settings : EstimationSettings := .default
    let hasty := settings.withTimeout 0
    let o := ofSettings settings make 0
    let noted := ofSettings settings (recorded make) (0, [])
    settings.validate = .ok () ∧ hasty.validate = .error (.invalidConfig "timeout_ms out of range") ∧
      o = (.error (.unknownFilter "complementary"), 3) ∧
      noted.2.2 = [.magnetometer, .barometer, .complementary] ∧
      (∃ (earlier : List FilterKind) (k : FilterKind) (later : List FilterKind),
        settings.filterOrder = earlier ++ k :: later ∧ o.1 = .error (.unknownFilter k.name) ∧
          noted.2.2 = earlier ++ [k]) ∧
      ofSettings hasty make 0 = (.error (.invalidConfig "timeout_ms out of range"), 0) := by
  intro make settings hasty o noted
  have hok : settings.validate = .ok () := EstimationSettings.validate_eq_ok_iff.mpr (by decide)
  have hhasty : hasty.validate = .error (.invalidConfig "timeout_ms out of range") :=
    EstimationSettings.validate_eq_out_of_range_iff.mpr (by decide)
  have ho : o = (.error (.unknownFilter "complementary"), 3) := rfl
  refine ⟨hok, hhasty, ho, rfl, ?_, ((assembled_in_configured_order hasty make 0).2.1 _ hhasty).1⟩
  rcases (assembled_in_configured_order settings make 0).2.2.1 hok with
    ⟨_, _, _, hmade, _⟩ | ⟨earlier, k, later, _, horder, _, _, hrefused, hnoted⟩
  · cases ho.symm.trans hmade
  · exact ⟨earlier, k, later, horder, congrArg Prod.fst hrefused, hnoted⟩

end FilterChain

end SensorFusion
