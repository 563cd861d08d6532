/-
  SensorFusion.Settings — the deployment's configuration: how long a run may be
  awaited, and which filter units run in which order.

  A configuration is a plain value and may be unacceptable; `validate` accepts exactly
  the timeouts within limits and the orders without repetition.
-/

import SensorFusion.Error

namespace SensorFusion

def maxFilterUnits : Nat := 8

/-- The timeout unless told otherwise (ms). -/
def defaultTimeout : UInt32 := 100

def minTimeout : UInt32 := 1

def maxTimeout : UInt32 := 10000

inductive FilterKind where
  /-- Magnetometer preprocessing. -/
  | magnetometer
  /-- Barometer preprocessing. -/
  | barometer
  /-- Stationary detector. -/
  | stationary
  /-- Complementary attitude filter. -/
  | complementary
  /-- Complementary filter with magnetic heading. -/
  | complementaryMag
  /-- Inertial navigation filter with 13 states. -/
  | ins13
  /-- Inertial navigation filter with 16 states. -/
  | ins16
  deriving DecidableEq

namespace FilterKind

def all : List FilterKind :=
  [.magnetometer, .barometer, .stationary, .complementary, .complementaryMag, .ins13, .ins16]

def name : FilterKind → String
  | magnetometer => "magnetometer"
  | barometer => "barometer"
  | stationary => "stationary"
  | complementary => "complementary"
  | complementaryMag => "complementary_mag"
  | ins13 => "ins13"
  | ins16 => "ins16"

theorem mem_all (k : FilterKind) : k ∈ all := by cases k <;> decide

theorem length_le_of_nodup {ks : List FilterKind} (h : ks.Nodup) : ks.length ≤ 7 := by
  have hall : ks ⊆ all := fun k _ => mem_all k
  exact h.length_le_of_subset hall

end FilterKind

inductive FusionPreset where
  | complementary
  | complementaryMag
  /-- Navigation with a stationary detector, no position fixes. -/
  | ins13Indoor
  | ins13Outdoor
  | ins16
  deriving DecidableEq

namespace FusionPreset

def all : List FusionPreset := [.complementary, .complementaryMag, .ins13Indoor, .ins13Outdoor, .ins16]

def name : FusionPreset → String
  | complementary => "complementary"
  | complementaryMag => "complementary_mag"
  | ins13Indoor => "ins13_indoor"
  | ins13Outdoor => "ins13_outdoor"
  | ins16 => "ins16"

/-- Preprocessing comes first, so that the fusion unit sees its output in the same run. -/
def filterOrder : FusionPreset → List FilterKind
  | complementary => [.magnetometer, .barometer, .complementary]
  | complementaryMag => [.magnetometer, .barometer, .complementaryMag]
  | ins13Indoor => [.magnetometer, .barometer, .stationary, .ins13]
  | ins13Outdoor => [.magnetometer, .barometer, .ins13]
  | ins16 => [.magnetometer, .barometer, .ins16]

end FusionPreset

structure EstimationSettings where
  /-- How long a run may be awaited (ms). -/
  timeout : UInt32
  /-- The filter units in the order they run. -/
  filterOrder : List FilterKind
  length_le : filterOrder.length ≤ maxFilterUnits
  deriving DecidableEq

namespace EstimationSettings

/-- Settings with any timeout and any order that a chain could hold. -/
def ofOrder? (timeout : UInt32) (order : List FilterKind) : Option EstimationSettings :=
  if h : order.length ≤ maxFilterUnits then some ⟨timeout, order, h⟩ else none

def ofPreset (p : FusionPreset) : EstimationSettings :=
  ⟨defaultTimeout, p.filterOrder, by cases p <;> decide⟩

def default : EstimationSettings := ofPreset .complementary

def withTimeout (s : EstimationSettings) (timeout : UInt32) : EstimationSettings := { s with timeout }

def timeoutInRange (timeout : UInt32) : Bool := minTimeout ≤ timeout ∧ timeout ≤ maxTimeout

def listsAgain (seen : List FilterKind) : List FilterKind → Bool
  | [] => false
  | k :: ks => seen.contains k || listsAgain (k :: seen) ks

/-- The timeout is looked at first. -/
def validate (s : EstimationSettings) : Except EstimationError Unit :=
  if ¬ timeoutInRange s.timeout then .error (.invalidConfig "timeout_ms out of range")
  else if listsAgain [] s.filterOrder then .error (.invalidConfig "filter unit listed twice")
  else .ok ()

theorem timeoutInRange_iff {timeout : UInt32} :
    timeoutInRange timeout = true ↔ minTimeout.toNat ≤ timeout.toNat ∧ timeout.toNat ≤ maxTimeout.toNat := by
  simp [timeoutInRange, UInt32.le_iff_toNat_le]

theorem listsAgain_eq_false_iff {seen ks : List FilterKind} :
    listsAgain seen ks = false ↔ ks.Nodup ∧ ∀ k ∈ ks, k ∉ seen := by
  induction ks generalizing seen with
  | nil => simp [listsAgain]
  | cons k ks ih =>
    simp only [listsAgain, Bool.or_eq_false_iff, ih, List.nodup_cons, List.mem_cons, not_or, List.contains_eq_mem,
      decide_eq_false_iff_not]
    constructor
    · rintro ⟨hk, hn, hs⟩
      refine ⟨⟨fun h => (hs k h).1 rfl, hn⟩, ?_⟩
      rintro x (rfl | hx)
      · exact hk
      · exact (hs x hx).2
    · rintro ⟨⟨hk, hn⟩, hs⟩
      refine ⟨hs k (Or.inl rfl), hn, fun x hx => ⟨?_, hs x (Or.inr hx)⟩⟩
      rintro rfl
      exact hk hx

theorem listsAgain_nil_iff {ks : List FilterKind} : listsAgain [] ks = true ↔ ¬ ks.Nodup := by
  rw [← Bool.not_eq_false, listsAgain_eq_false_iff]
  simp

/-- The range of the timeout is checked first, then the order is looked through. -/
theorem validate_cases (s : EstimationSettings) :
    (timeoutInRange s.timeout = false ∧ s.validate = .error (.invalidConfig "timeout_ms out of range")) ∨
      (timeoutInRange s.timeout = true ∧ ¬ s.filterOrder.Nodup ∧
        s.validate = .error (.invalidConfig "filter unit listed twice")) ∨
      (timeoutInRange s.timeout = true ∧ s.filterOrder.Nodup ∧ s.validate = .ok ()) := by
  rw [← Classical.not_not (a := s.filterOrder.Nodup), ← listsAgain_nil_iff]
  unfold validate
  cases timeoutInRange s.timeout <;> cases listsAgain [] s.filterOrder <;> simp

theorem validate_eq_ok_iff {s : EstimationSettings} :
    s.validate = .ok () ↔ timeoutInRange s.timeout = true ∧ s.filterOrder.Nodup := by
  rcases s.validate_cases with ⟨ht, hv⟩ | ⟨ht, hn, hv⟩ | ⟨ht, hn, hv⟩ <;> simp [*]

theorem validate_eq_out_of_range_iff {s : EstimationSettings} :
    s.validate = .error (.invalidConfig "timeout_ms out of range") ↔ timeoutInRange s.timeout = false := by
  rcases s.validate_cases with ⟨ht, hv⟩ | ⟨ht, _, hv⟩ | ⟨ht, _, hv⟩ <;> simp [ht, hv]

theorem validate_eq_twice_iff {s : EstimationSettings} :
    s.validate = .error (.invalidConfig "filter unit listed twice") ↔
      timeoutInRange s.timeout = true ∧ ¬ s.filterOrder.Nodup := by
  rcases s.validate_cases with ⟨ht, hv⟩ | ⟨ht, hn, hv⟩ | ⟨ht, hn, hv⟩ <;> simp [*]

theorem validate_ne_tooManyFilters (s : EstimationSettings) (n : Nat) : s.validate ≠ .error (.tooManyFilters n) := by
  rcases s.validate_cases with ⟨_, hv⟩ | ⟨_, _, hv⟩ | ⟨_, _, hv⟩ <;> simp [hv]

theorem timeoutInRange_of_validate {s : EstimationSettings} (h : s.validate = .ok ()) :
    timeoutInRange s.timeout = true := (validate_eq_ok_iff.mp h).1

def withFilters (order : List FilterKind) : Except EstimationError EstimationSettings :=
  match ofOrder? defaultTimeout order with
  | none => .error (.tooManyFilters maxFilterUnits)
  | some s => s.validate.map fun _ => s

end EstimationSettings

end SensorFusion
