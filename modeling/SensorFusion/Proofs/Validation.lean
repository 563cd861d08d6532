/-
  SensorFusion.Proofs.Validation — which settings are acceptable.

  The order of the units is looked through once, each kind against those before it. That
  finds a kind before itself exactly when some kind occurs twice (`listsAgain_iff`), however
  long the order is.

  There are eight places and seven kinds. An order that overflows is refused for its length
  and not looked through, although it must repeat a kind; one that fills all places is
  looked through and repeats a kind, too, so no acceptable order has more than seven.

  Proved (`accepted_iff_well_formed`): the answer of the validation for any settings, and of
  an explicit order for a list of any length.
-/

import SensorFusion.Settings

namespace SensorFusion.EstimationSettings

def TimeoutAllowed (timeout : UInt32) : Prop := 1 ≤ timeout.toNat ∧ timeout.toNat ≤ 10000

def Repeats (order : List FilterKind) : Prop := ∃ k, 2 ≤ order.count k

instance (timeout : UInt32) : Decidable (TimeoutAllowed timeout) := inferInstanceAs (Decidable (_ ∧ _))

theorem repeats_iff {order : List FilterKind} : Repeats order ↔ ¬ order.Nodup := by
  rw [List.nodup_iff_count, Classical.not_forall]
  exact exists_congr fun k => Nat.not_le.symm

/-- A repetition is found by looking for each kind among those before it. -/
theorem listsAgain_iff {order : List FilterKind} : listsAgain [] order = true ↔ Repeats order := by
  rw [repeats_iff, listsAgain_nil_iff]

instance (order : List FilterKind) : Decidable (Repeats order) := decidable_of_iff _ listsAgain_iff

theorem repeats_of_length {order : List FilterKind} (h : 7 < order.length) : Repeats order :=
  repeats_iff.mpr fun hn => Nat.not_le.mpr h (FilterKind.length_le_of_nodup hn)

/-! ## The answer of the validation -/

theorem timeoutAllowed_iff {timeout : UInt32} : TimeoutAllowed timeout ↔ timeoutInRange timeout = true :=
  timeoutInRange_iff.symm

theorem validate_ok_iff {s : EstimationSettings} :
    s.validate = .ok () ↔ TimeoutAllowed s.timeout ∧ ¬ Repeats s.filterOrder := by
  rw [timeoutAllowed_iff, repeats_iff, Classical.not_not]
  exact validate_eq_ok_iff

theorem validate_out_of_range_iff {s : EstimationSettings} :
    s.validate = .error (.invalidConfig "timeout_ms out of range") ↔ ¬ TimeoutAllowed s.timeout := by
  rw [timeoutAllowed_iff, Bool.not_eq_true]
  exact validate_eq_out_of_range_iff

theorem validate_twice_iff {s : EstimationSettings} :
    s.validate = .error (.invalidConfig "filter unit listed twice") ↔
      TimeoutAllowed s.timeout ∧ Repeats s.filterOrder := by
  rw [timeoutAllowed_iff, repeats_iff]
  exact validate_eq_twice_iff

theorem allowed_defaultTimeout : TimeoutAllowed defaultTimeout := by decide

/-- An explicit order is refused for its length, for a repetition, or not at all. -/
theorem withFilters_cases (order : List FilterKind) :
    (¬ order.length ≤ 8 ∧ withFilters order = .error (.tooManyFilters 8)) ∨
      (order.length ≤ 8 ∧ Repeats order ∧ withFilters order = .error (.invalidConfig "filter unit listed twice")) ∨
      (order.length ≤ 8 ∧ ¬ Repeats order ∧
        ∃ r, withFilters order = .ok r ∧ r.timeout = defaultTimeout ∧ r.filterOrder = order) := by
  by_cases h : order.length ≤ maxFilterUnits
  · have hfit : ofOrder? defaultTimeout order = some ⟨defaultTimeout, order, h⟩ := dif_pos h
    simp only [withFilters, hfit]
    by_cases hr : Repeats order
    · have hv := validate_twice_iff (s := ⟨defaultTimeout, order, h⟩).mpr ⟨allowed_defaultTimeout, hr⟩
      exact Or.inr (Or.inl ⟨h, hr, by rw [hv]; rfl⟩)
    · have hv := validate_ok_iff (s := ⟨defaultTimeout, order, h⟩).mpr ⟨allowed_defaultTimeout, hr⟩
      exact Or.inr (Or.inr ⟨h, hr, _, by rw [hv]; rfl, rfl, rfl⟩)
  · have hover : ofOrder? defaultTimeout order = none := dif_neg h
    simp only [withFilters, hover]
    exact Or.inl ⟨h, rfl⟩

/-- What is accepted, and how the rest is refused, for any settings and an explicit order of
    any length.
    (1) Settings are accepted if the timeout is allowed and no kind occurs twice; a timeout
        that is not allowed is reported first.
    (2) An order of more than eight kinds is too long; a shorter one is refused if some kind
        occurs twice, and for nothing else.
    (3) What comes of an order has the default timeout and just this order, of seven kinds
        at most; it is acceptable, and with another timeout if that is allowed. -/
theorem accepted_iff_well_formed (s : EstimationSettings) (order : List FilterKind) :
    ((s.validate = .ok () ↔ TimeoutAllowed s.timeout ∧ ¬ Repeats s.filterOrder) ∧
      (s.validate = .error (.invalidConfig "timeout_ms out of range") ↔ ¬ TimeoutAllowed s.timeout) ∧
      (s.validate = .error (.invalidConfig "filter unit listed twice") ↔
        TimeoutAllowed s.timeout ∧ Repeats s.filterOrder)) ∧
    ((withFilters order = .error (.tooManyFilters 8) ↔ 8 < order.length) ∧
      (withFilters order = .error (.invalidConfig "filter unit listed twice") ↔ order.length ≤ 8 ∧ Repeats order) ∧
      ((∃ r, withFilters order = .ok r) ↔ order.length ≤ 8 ∧ ¬ Repeats order)) ∧
    ∀ r, withFilters order = .ok r →
      r.timeout = 100 ∧ r.filterOrder = order ∧ r.filterOrder.length ≤ 7 ∧ r.validate = .ok () ∧
        ∀ t, (r.withTimeout t).validate = .ok () ↔ TimeoutAllowed t := by
  refine ⟨⟨validate_ok_iff, validate_out_of_range_iff, validate_twice_iff⟩, ⟨?_, ?_, ?_⟩, fun r hr => ?_⟩
  · rw [← Nat.not_le]
    rcases withFilters_cases order with ⟨hl, hw⟩ | ⟨hl, _, hw⟩ | ⟨hl, _, r, hw, _⟩ <;> simp [hl, hw]
  · rcases withFilters_cases order with ⟨hl, hw⟩ | ⟨hl, hr, hw⟩ | ⟨hl, hr, _, hw, _⟩ <;> simp [*]
  · rcases withFilters_cases order with ⟨hl, hw⟩ | ⟨hl, hr, hw⟩ | ⟨hl, hr, _, hw, _⟩ <;> simp [*]
  · rcases withFilters_cases order with ⟨_, hw⟩ | ⟨_, _, hw⟩ | ⟨_, hn, r', hw, htimeout, horder⟩
    · cases hw.symm.trans hr
    · cases hw.symm.trans hr
    · obtain rfl : r' = r := Except.ok.inj (hw.symm.trans hr)
      have hno : ¬ Repeats r'.filterOrder := horder ▸ hn
      refine ⟨htimeout, horder, Nat.not_lt.mp fun hlen => hno (repeats_of_length hlen), ?_, fun t => ?_⟩
      · rw [validate_ok_iff, htimeout]
        exact ⟨allowed_defaultTimeout, hno⟩
      · rw [validate_ok_iff]
        exact and_iff_left hno

/-- All seven kinds in one order, with the longest timeout there is and one too long; an eighth
    kind repeats and a ninth is too many. -/
theorem accepted_iff_well_formed_of_all_kinds :
    let order := FilterKind.all
    ∃ r, withFilters order = .ok r ∧ r.timeout = 100 ∧ r.filterOrder = order ∧ r.validate = .ok () ∧
      (r.withTimeout 10000).validate = .ok () ∧ (r.withTimeout 10001).validate ≠ .ok () ∧
      withFilters (.ins16 :: order) = .error (.invalidConfig "filter unit listed twice") ∧
      withFilters (.ins13 :: .ins16 :: order) = .error (.tooManyFilters 8) := by
  intro order
  obtain ⟨_, ⟨_, _, hok⟩, hmade⟩ := accepted_iff_well_formed .default order
  obtain ⟨_, ⟨_, htwice, _⟩, _⟩ := accepted_iff_well_formed .default (.ins16 :: order)
  obtain ⟨_, ⟨hlong, _, _⟩, _⟩ := accepted_iff_well_formed .default (.ins13 :: .ins16 :: order)
  obtain ⟨r, hr⟩ := hok.mpr (by decide)
  obtain ⟨htimeout, horder, _, hv, ht⟩ := hmade r hr
  refine ⟨r, hr, htimeout, horder, hv, (ht 10000).mpr (by decide), ?_, htwice.mpr (by decide), hlong.mpr (by decide)⟩
  rw [ne_eq, ht]
  decide

end SensorFusion.EstimationSettings
