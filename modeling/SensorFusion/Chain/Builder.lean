/-
  SensorFusion.Chain.Builder — assembling a chain, unit by unit or from settings.
-/

import SensorFusion.Chain.Basic

namespace SensorFusion

/-- A chain under construction. A unit too many is dropped and remembered, so that the
    chain cannot come out short. -/
structure ChainBuilder (υ : Type) where
  units : List υ
  overflow : Bool
  length_le : units.length ≤ maxFilterUnits

namespace ChainBuilder

variable {υ : Type}

def empty : ChainBuilder υ := ⟨[], false, Nat.zero_le _⟩

theorem length_concat_le {us : List υ} (u : υ) (h : us.length < maxFilterUnits) :
    (us ++ [u]).length ≤ maxFilterUnits := by
  rw [List.length_append, List.length_singleton]
  exact h

def add (b : ChainBuilder υ) (u : υ) : ChainBuilder υ :=
  if h : b.units.length < maxFilterUnits then
    ⟨b.units ++ [u], b.overflow, length_concat_le u h⟩
  else { b with overflow := true }

def addUnit {α : Type} [FilterUnit α] [FilterUnit υ] (b : ChainBuilder υ) (boxing : FilterUnit.Boxing α υ) (u : α) :
    ChainBuilder υ :=
  b.add (boxing.box u)

theorem add_of_room {b : ChainBuilder υ} (h : b.units.length < maxFilterUnits) (u : υ) :
    b.add u = ⟨b.units ++ [u], b.overflow, length_concat_le u h⟩ := dif_pos h

theorem add_of_full {b : ChainBuilder υ} (h : b.units.length = maxFilterUnits) (u : υ) :
    b.add u = { b with overflow := true } := dif_neg (Nat.not_lt.mpr (Nat.le_of_eq h.symm))

def build (b : ChainBuilder υ) : Except EstimationError (FilterChain υ) :=
  if b.overflow then .error (.tooManyFilters maxFilterUnits)
  else .ok (.ofUnits b.units b.length_le)

theorem build_eq_ok_iff {b : ChainBuilder υ} {c : FilterChain υ} :
    b.build = .ok c ↔ b.overflow = false ∧ c = .ofUnits b.units b.length_le := by
  unfold build
  cases b.overflow <;> simp [eq_comm]

/-- As many units as there is room for are kept, in order; one more is remembered. -/
theorem foldl_add (us : List υ) (b : ChainBuilder υ) :
    (us.foldl add b).units = (b.units ++ us).take maxFilterUnits ∧
      (us.foldl add b).overflow = (b.overflow || decide (maxFilterUnits < b.units.length + us.length)) := by
  induction us generalizing b with
  | nil =>
    have hroom : ¬ maxFilterUnits < b.units.length := Nat.not_lt.mpr b.length_le
    simp [List.take_of_length_le b.length_le, hroom]
  | cons u us ih =>
    rw [List.foldl_cons, List.length_cons]
    obtain ⟨hunits, hoverflow⟩ := ih (b.add u)
    rw [hunits, hoverflow]
    by_cases h : b.units.length < maxFilterUnits
    · have hlen : b.units.length + 1 + us.length = b.units.length + (us.length + 1) := by omega
      simp [add_of_room h, hlen]
    · -- full: every further unit is dropped
      have hfull : b.units.length = maxFilterUnits := Nat.le_antisymm b.length_le (Nat.not_lt.mp h)
      have hmore : maxFilterUnits < b.units.length + (us.length + 1) := by omega
      simp [add_of_full hfull, hmore, List.take_left' hfull]

theorem foldl_add_empty (us : List υ) :
    (us.foldl add empty).units = us.take maxFilterUnits ∧
      (us.foldl add empty).overflow = decide (maxFilterUnits < us.length) := by
  simpa only [empty, List.nil_append, List.length_nil, Nat.zero_add, Bool.false_or] using foldl_add us empty

end ChainBuilder

namespace FilterChain

variable {υ σ : Type}

def ofList (us : List υ) : Except EstimationError (FilterChain υ) := (us.foldl ChainBuilder.add .empty).build

/-- The builder has room for as many units as a chain. -/
theorem ofList_eq_ok_iff {us : List υ} {c : FilterChain υ} : ofList us = .ok c ↔ ∃ h, c = .ofUnits us h := by
  obtain ⟨hunits, hoverflow⟩ := ChainBuilder.foldl_add_empty us
  rw [ofList, ChainBuilder.build_eq_ok_iff, hoverflow, decide_eq_false_iff_not, Nat.not_lt]
  constructor
  · rintro ⟨h, rfl⟩
    refine ⟨h, ?_⟩
    simp only [ofUnits, hunits, List.take_of_length_le h]
  · rintro ⟨h, rfl⟩
    refine ⟨h, ?_⟩
    simp only [ofUnits, hunits, List.take_of_length_le h]

theorem ofList_of_length_le {us : List υ} (h : us.length ≤ maxFilterUnits) : ofList us = .ok (.ofUnits us h) :=
  ofList_eq_ok_iff.mpr ⟨h, rfl⟩

theorem ofList_of_lt {us : List υ} (h : maxFilterUnits < us.length) :
    ofList us = .error (.tooManyFilters maxFilterUnits) := by
  have hoverflow : (us.foldl ChainBuilder.add .empty).overflow = true := by
    rw [(ChainBuilder.foldl_add_empty us).2]
    exact decide_eq_true h
  rw [ofList, ChainBuilder.build, if_pos hoverflow]

/-- Add a unit of each kind in order, made by `make`, a constructor with state. The
    first kind that it makes nothing for ends the assembly. -/
def assemble (make : FilterKind → σ → Option υ × σ) :
    List FilterKind → ChainBuilder υ → σ → Except EstimationError (FilterChain υ) × σ
  | [], b, s => (b.build, s)
  | k :: ks, b, s =>
    match make k s with
    | (none, s') => (.error (.unknownFilter k.name), s')
    | (some u, s') => assemble make ks (b.add u) s'

def ofSettings (settings : EstimationSettings) (make : FilterKind → σ → Option υ × σ) (s : σ) :
    Except EstimationError (FilterChain υ) × σ :=
  match settings.validate with
  | .error e => (.error e, s)
  | .ok () => assemble make settings.filterOrder .empty s

end FilterChain

end SensorFusion
