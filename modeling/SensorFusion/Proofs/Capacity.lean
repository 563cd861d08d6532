/-
  SensorFusion.Proofs.Capacity — a chain built unit by unit.

  A builder has room for eight units. It drops a unit that there is no room for, says nothing
  and goes on; the refusal comes when the chain is asked for. Units come in two ways, each of
  a type of its own or already of the type that the chain holds.

  What a builder holds after any additions is a prefix of what was added, and its flag says
  whether the prefix is proper (`ChainBuilder.foldl_add`). So the two agree at every moment:
  there is a chain exactly if nothing was dropped.

  Proved (`whole_or_refused`): all this for every sequence of additions to a new builder.
-/

import SensorFusion.Chain.Builder
import SensorFusion.Simulation.Unit

namespace SensorFusion

/-! ## Additions -/

inductive Addition (υ : Type) [FilterUnit υ] : Type 1 where
  /-- A unit of a type of its own. -/
  | unit {α : Type} [FilterUnit α] (boxing : FilterUnit.Boxing α υ) (u : α)
  /-- A unit of the chain's type. -/
  | boxed (u : υ)

namespace Addition

variable {υ : Type} [FilterUnit υ]

def held : Addition υ → υ
  | unit boxing u => boxing.box u
  | boxed u => u

def name : Addition υ → String
  | unit _ u => FilterUnit.name u
  | boxed u => FilterUnit.name u

theorem name_held (a : Addition υ) : FilterUnit.name a.held = a.name := by
  cases a with
  | unit boxing u => exact boxing.name_box u
  | boxed u => rfl

def apply (b : ChainBuilder υ) : Addition υ → ChainBuilder υ
  | unit boxing u => b.addUnit boxing u
  | boxed u => b.add u

/-- In whichever way a unit comes, it is appended in the same way. -/
theorem apply_eq (b : ChainBuilder υ) (a : Addition υ) : a.apply b = b.add a.held := by
  cases a with
  | unit boxing u => rfl
  | boxed u => rfl

end Addition

namespace ChainBuilder

variable {υ : Type} [FilterUnit υ]

def after (additions : List (Addition υ)) : ChainBuilder υ := additions.foldl Addition.apply empty

theorem build_after (additions : List (Addition υ)) :
    (after additions).build = FilterChain.ofList (additions.map Addition.held) := by
  have happly : (Addition.apply : ChainBuilder υ → Addition υ → _) = fun b a => b.add a.held :=
    funext fun b => funext fun a => Addition.apply_eq b a
  rw [after, happly, FilterChain.ofList, List.foldl_map]

theorem names_ofUnits_held (additions : List (Addition υ))
    (h : (additions.map Addition.held).length ≤ maxFilterUnits) :
    (FilterChain.ofUnits (additions.map Addition.held) h).names = additions.map Addition.name := by
  rw [FilterChain.names, FilterChain.ofUnits, List.map_map]
  exact List.map_congr_left fun a _ => Addition.name_held a

theorem build_after_of_le {additions : List (Addition υ)} (h : (additions.map Addition.held).length ≤ maxFilterUnits) :
    (after additions).build = .ok (.ofUnits (additions.map Addition.held) h) := by
  rw [build_after, FilterChain.ofList_of_length_le h]

theorem build_after_of_lt {additions : List (Addition υ)} (h : maxFilterUnits < additions.length) :
    (after additions).build = .error (.tooManyFilters maxFilterUnits) := by
  rw [build_after]
  exact FilterChain.ofList_of_lt (by rwa [List.length_map])

/-- Building a chain by any additions to a new builder.
    (1) There is a chain exactly if at most eight units were added.
    (2) A chain has all the units that were added, in the order in which they were added, under
        their names, and nothing was counted yet.
    (3) Otherwise the refusal tells the capacity.
    (4) Once refused, always refused, whatever is added further. -/
theorem whole_or_refused (additions : List (Addition υ)) :
    let result := (after additions).build
    ((∃ chain, result = .ok chain) ↔ additions.length ≤ 8) ∧
    (∀ chain, result = .ok chain →
      chain.units = additions.map Addition.held ∧ chain.names = additions.map Addition.name ∧
        chain.length = additions.length ∧ (chain.isEmpty = true ↔ additions = []) ∧
        chain.metrics.runs = 0 ∧
        ∀ i (hi : i < maxFilterUnits), chain.metrics.invocations[i] = 0 ∧ chain.metrics.failures[i] = 0 ∧
          chain.metrics.startFailures[i] = 0) ∧
    (¬ additions.length ≤ 8 → result = .error (.tooManyFilters 8)) ∧
    ∀ (e : EstimationError) (later : List (Addition υ)), result = .error e →
      e = .tooManyFilters 8 ∧ (after (additions ++ later)).build = .error (.tooManyFilters 8) := by
  intro result
  by_cases h : additions.length ≤ maxFilterUnits
  · have hfit : (additions.map Addition.held).length ≤ maxFilterUnits := by rwa [List.length_map]
    have hresult : result = .ok (.ofUnits (additions.map Addition.held) hfit) := build_after_of_le hfit
    rw [hresult]
    refine ⟨⟨fun _ => h, fun _ => ⟨_, rfl⟩⟩, ?_, fun hmore => absurd h hmore, ?_⟩
    · intro chain hchain
      cases hchain
      refine ⟨rfl, names_ofUnits_held additions hfit, List.length_map _, ?_, rfl, fun i hi => ?_⟩
      · rw [FilterChain.isEmpty, FilterChain.ofUnits, List.isEmpty_iff, List.map_eq_nil_iff]
      · simp [FilterChain.ofUnits, ChainMetrics.zero]
    · intro e later he
      cases he
  · have hmore : maxFilterUnits < additions.length := Nat.lt_of_not_le h
    have hresult : result = .error (.tooManyFilters maxFilterUnits) := build_after_of_lt hmore
    rw [hresult]
    refine ⟨⟨?_, fun hle => absurd hle h⟩, ?_, fun _ => rfl, ?_⟩
    · rintro ⟨chain, hchain⟩
      cases hchain
    · intro chain hchain
      cases hchain
    · intro e later he
      cases he
      have hlonger : maxFilterUnits < (additions ++ later).length := by
        rw [List.length_append]
        omega
      exact ⟨rfl, build_after_of_lt hlonger⟩

open FilterUnit Simulation

/-- Three units of two types, added in both ways, make a chain. Nine of them are refused, also
    after three more. -/
theorem whole_or_refused_of_mixed_units :
    let leveller := ScriptedUnit.new "leveller" none none []
    let smoother := ScriptedUnit.new "smoother" none none []
    let three : List (Addition (ScriptedUnit ⊕ ScriptedUnit)) :=
      [.unit Boxing.inl leveller, .boxed (.inr smoother), .unit Boxing.inr leveller]
    let nine := three ++ three ++ three
    (∃ chain, (after three).build = .ok chain ∧ chain.units = [.inl leveller, .inr smoother, .inr leveller] ∧
      chain.names = ["leveller", "smoother", "leveller"] ∧ chain.length = 3 ∧ chain.isEmpty = false) ∧
    ¬ nine.length ≤ 8 ∧ (after nine).build = .error (.tooManyFilters 8) ∧
    (after (nine ++ three)).build = .error (.tooManyFilters 8) := by
  intro leveller smoother three nine
  obtain ⟨chain, hchain⟩ := (whole_or_refused three).1.mpr (by decide)
  obtain ⟨hunits, hnames, hlength, hempty, -, -⟩ := (whole_or_refused three).2.1 chain hchain
  have hmany : ¬ nine.length ≤ 8 := by decide
  have hnine := (whole_or_refused nine).2.2.1 hmany
  refine ⟨⟨chain, hchain, hunits, hnames, hlength, ?_⟩, hmany, hnine, ((whole_or_refused nine).2.2.2 _ three hnine).2⟩
  exact Bool.eq_false_iff.mpr fun h => List.cons_ne_nil _ _ (hempty.mp h)

end ChainBuilder

end SensorFusion
