/-
  SensorFusion.Chain.Report — the outcome of one pass over a chain, and the counters
  kept over all passes.
-/

import SensorFusion.Counter
import SensorFusion.Error
import SensorFusion.Settings

namespace SensorFusion

structure UnitFailure where
  /-- The unit's place in the chain. -/
  index : Nat
  name : String
  error : FilterError
  deriving DecidableEq

structure ChainReport where
  /-- Units called. -/
  executed : Nat
  /-- Units that failed, in chain order. -/
  failures : List UnitFailure
  deriving DecidableEq

namespace ChainReport

def empty : ChainReport := ⟨0, []⟩

/-- After one more unit was called, given by its name and failure. There is room for as
    many failures as a chain has units; beyond that a failure is lost. -/
def note (r : ChainReport) (call : String × Option FilterError) : ChainReport :=
  { executed := r.executed + 1
    failures :=
      match call.2 with
      | some e =>
        if r.failures.length < maxFilterUnits then r.failures ++ [⟨r.executed, call.1, e⟩] else r.failures
      | none => r.failures }

def ofCalls (calls : List (String × Option FilterError)) : ChainReport := calls.foldl note empty

def isClean (r : ChainReport) : Bool := r.failures.isEmpty

def failed (r : ChainReport) (index : Nat) : Bool := r.failures.any fun f => f.index == index

/-- The failures among calls, the first of which is made at place `start`. -/
def failuresFrom (start : Nat) (calls : List (String × Option FilterError)) : List UnitFailure :=
  (calls.zipIdx start).filterMap fun (call, i) => call.2.map fun e => ⟨i, call.1, e⟩

theorem failuresFrom_cons (start : Nat) (call : String × Option FilterError)
    (calls : List (String × Option FilterError)) : failuresFrom start (call :: calls) =
      (call.2.map fun e => ⟨start, call.1, e⟩).toList ++ failuresFrom (start + 1) calls := by
  obtain ⟨name, failure⟩ := call
  cases failure <;> rfl

theorem foldl_note (calls : List (String × Option FilterError)) (r : ChainReport)
    (h : r.failures.length ≤ maxFilterUnits) : calls.foldl note r =
      ⟨r.executed + calls.length, (r.failures ++ failuresFrom r.executed calls).take maxFilterUnits⟩ := by
  induction calls generalizing r with
  | nil => simp [failuresFrom, List.take_of_length_le h]
  | cons call calls ih =>
    obtain ⟨name, failure⟩ := call
    have hexecuted : r.executed + 1 + calls.length = r.executed + (calls.length + 1) := by omega
    rw [List.foldl_cons, failuresFrom_cons, List.length_cons, ← hexecuted]
    cases failure with
    | none => exact ih ⟨r.executed + 1, r.failures⟩ h
    | some e =>
      by_cases hroom : r.failures.length < maxFilterUnits
      · have hnote : note r (name, some e) = ⟨r.executed + 1, r.failures ++ [⟨r.executed, name, e⟩]⟩ := by
          simp only [note, if_pos hroom]
        have hlen : (note r (name, some e)).failures.length ≤ maxFilterUnits := by
          rw [hnote, List.length_append, List.length_singleton]
          exact hroom
        rw [ih _ hlen, hnote, List.append_assoc]
        rfl
      · -- full: whatever follows is cut off
        have hfull : r.failures.length = maxFilterUnits := Nat.le_antisymm h (Nat.not_lt.mp hroom)
        have hnote : note r (name, some e) = ⟨r.executed + 1, r.failures⟩ := by
          simp only [note, if_neg hroom]
        rw [hnote, ih ⟨r.executed + 1, r.failures⟩ h, List.take_left' hfull, List.take_left' hfull]

theorem executed_ofCalls (calls : List (String × Option FilterError)) : (ofCalls calls).executed = calls.length := by
  rw [ofCalls, foldl_note calls empty (Nat.zero_le _)]
  exact Nat.zero_add _

theorem failures_ofCalls_eq_take (calls : List (String × Option FilterError)) :
    (ofCalls calls).failures = (failuresFrom 0 calls).take maxFilterUnits := by
  rw [ofCalls, foldl_note calls empty (Nat.zero_le _)]
  rfl

/-- As many calls as a chain has units leave room for every failure. -/
theorem failures_ofCalls {calls : List (String × Option FilterError)} (h : calls.length ≤ maxFilterUnits) :
    (ofCalls calls).failures = failuresFrom 0 calls := by
  have hlen : (failuresFrom 0 calls).length ≤ calls.length := by
    simpa [failuresFrom] using List.length_filterMap_le _ (calls.zipIdx 0)
  rw [failures_ofCalls_eq_take, List.take_of_length_le (Nat.le_trans hlen h)]

/-- Failures stand in chain order, so that no unit fails twice in a pass. -/
theorem pairwise_index_ofCalls (calls : List (String × Option FilterError)) :
    ((ofCalls calls).failures.map UnitFailure.index).Pairwise (· < ·) := by
  have hi : (calls.zipIdx 0).Pairwise fun x y => x.2 < y.2 := by
    rw [← List.pairwise_map (f := Prod.snd), List.zipIdx_map_snd]
    exact List.pairwise_lt_range' ..
  have hall : (failuresFrom 0 calls).Pairwise fun f g => f.index < g.index := by
    rw [failuresFrom, List.pairwise_filterMap]
    refine hi.imp fun hlt f hf g hg => ?_
    simp only [Option.map_eq_some_iff] at hf hg
    obtain ⟨_, _, rfl⟩ := hf
    obtain ⟨_, _, rfl⟩ := hg
    exact hlt
  rw [List.pairwise_map, failures_ofCalls_eq_take]
  exact hall.sublist (List.take_sublist ..)

theorem index_lt_ofCalls {calls : List (String × Option FilterError)} {f : UnitFailure}
    (hf : f ∈ (ofCalls calls).failures) : f.index < calls.length := by
  rw [failures_ofCalls_eq_take] at hf
  have hmem := List.mem_of_mem_take hf
  simp only [failuresFrom, List.mem_filterMap, Option.map_eq_some_iff] at hmem
  obtain ⟨x, hx, _, _, rfl⟩ := hmem
  exact List.snd_lt_of_mem_zipIdx hx

end ChainReport

/-- Counters over all passes; those per unit have a slot for every place of the chain. -/
structure ChainMetrics where
  /-- Completed runs. -/
  runs : UInt32
  /-- Updates, by unit. -/
  invocations : Vector UInt32 maxFilterUnits
  /-- Failed updates, by unit. -/
  failures : Vector UInt32 maxFilterUnits
  /-- Failed starts, by unit. -/
  startFailures : Vector UInt32 maxFilterUnits
  deriving DecidableEq

namespace ChainMetrics

def zero : ChainMetrics :=
  ⟨0, Vector.replicate _ 0, Vector.replicate _ 0, Vector.replicate _ 0⟩

def recordStart (m : ChainMetrics) (r : ChainReport) : ChainMetrics :=
  { m with startFailures := Counter.bump m.startFailures r.failed }

def recordRun (m : ChainMetrics) (r : ChainReport) : ChainMetrics :=
  { m with
    runs := Counter.next m.runs
    invocations := Counter.bump m.invocations (· < r.executed)
    failures := Counter.bump m.failures r.failed }

def totalFailures (m : ChainMetrics) : UInt32 := Counter.total m.failures.toList

end ChainMetrics

end SensorFusion
