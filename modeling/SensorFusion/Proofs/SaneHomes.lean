/-
  SensorFusion.Proofs.SaneHomes — what the linearizer makes of any sequence of home locations.

  A location is sane (`HomeLocation.Sane`) when somebody has set it, its scalars are finite
  and its coordinates are not outside their limits. As a list of requirements
  (`HomeLocation.requirements`) this gives the reasons to reject a location their order. The
  frame of a sane location is a function of that location alone (`HomeReference.derived`), so
  a reference cannot mix two of them.

  `HomeLinearizer.HasSeen` is the invariant, of the locations announced so far and the
  linearizer: its reference is that of the last sane one, and its counters count. A change of
  home keeps it (`HasSeen.changeHome`), hence any sequence of changes (`HasSeen.changeAll`).

  Proved (`reference_of_last_sane_home`): the reference and the counters after any sequence of
  changes, and what one change more does.
-/

import SensorFusion.Proofs.Acceptance

namespace SensorFusion

/-! ## Sane locations -/

namespace HomeLocation

def isFinite (home : HomeLocation) : Bool :=
  [home.latitude, home.longitude].all Float.isFinite && home.altitude.isFinite &&
    home.magneticField.toList.all Float32.isFinite

/-- Set, finite, and not outside the limits of a coordinate. -/
structure Sane (home : HomeLocation) : Prop where
  set : home.set = true
  finite : home.isFinite = true
  latitude : ¬ (home.latitude < -90.0 ∨ 90.0 < home.latitude)
  longitude : ¬ (home.longitude < -180.0 ∨ 180.0 < home.longitude)

theorem sane_iff {home : HomeLocation} : home.Sane ↔
    home.set = true ∧ home.isFinite = true ∧ ¬ (home.latitude < -90.0 ∨ 90.0 < home.latitude) ∧
      ¬ (home.longitude < -180.0 ∨ 180.0 < home.longitude) :=
  ⟨fun h => ⟨h.set, h.finite, h.latitude, h.longitude⟩, fun ⟨hs, hf, hlat, hlon⟩ => ⟨hs, hf, hlat, hlon⟩⟩

instance (home : HomeLocation) : Decidable home.Sane := decidable_of_iff _ sane_iff.symm

def requirements (home : HomeLocation) : List Requirement :=
  [⟨home.set, .homeNotConfigured⟩,
    ⟨home.isFinite, .malformedValue⟩,
    ⟨!(home.latitude < -90.0 || 90.0 < home.latitude), .outOfRange home.latitude (-90.0) 90.0⟩,
    ⟨!(home.longitude < -180.0 || 180.0 < home.longitude), .outOfRange home.longitude (-180.0) 180.0⟩]

theorem firstUnmet_requirements_eq_none_iff {home : HomeLocation} :
    firstUnmet home.requirements = none ↔ home.Sane := by
  rw [firstUnmet_eq_none_iff, sane_iff]
  simp [requirements]

end HomeLocation

/-! ## References -/

namespace HomeReference

/-- The frame of a location: radians of latitude are measured at its altitude above the
    equatorial radius, those of longitude on its parallel, and down is up reversed. -/
def derived (home : HomeLocation) : HomeReference :=
  let radius := home.altitude.toFloat + 6378137.0
  { home
    northScale := radius
    eastScale := (Geodesy.radians home.latitude).cos * radius
    downScale := -1.0 }

theorem ofHome_eq_demand (home : HomeLocation) : ofHome home = demand home.requirements (.ok (derived home)) := by
  have hfinite : (Check.allFinite [home.latitude, home.longitude] ∧ home.altitude.isFinite ∧
      home.magneticField.isFinite) ↔ home.isFinite = true := by
    have hfield : home.magneticField.toList.all Float32.isFinite = home.magneticField.isFinite :=
      home.magneticField.all_isFinite
    simp only [HomeLocation.isFinite, hfield, Check.allFinite, Bool.and_eq_true, and_assoc]
  unfold ofHome
  simp only [HomeLocation.requirements, demand_cons, demand_nil, ite_not, hfinite]
  refine if_congr Iff.rfl (if_congr Iff.rfl ?_ rfl) rfl
  exact SanityGate.checkCoordinate_bind home.latitude home.longitude fun _ => .ok (derived home)

theorem ofHome_of_sane {home : HomeLocation} (h : home.Sane) : ofHome home = .ok (derived home) := by
  rw [ofHome_eq_demand, demand, HomeLocation.firstUnmet_requirements_eq_none_iff.mpr h]

/-- Any other location is rejected, for the first requirement that it does not meet. -/
theorem ofHome_of_not_sane {home : HomeLocation} (h : ¬ home.Sane) :
    ∃ reason, firstUnmet home.requirements = some reason ∧ ofHome home = .error reason := by
  rw [← HomeLocation.firstUnmet_requirements_eq_none_iff, ← ne_eq, Option.ne_none_iff_exists'] at h
  obtain ⟨reason, hr⟩ := h
  refine ⟨reason, hr, ?_⟩
  rw [ofHome_eq_demand, demand, hr]

theorem ofHome_eq_ok_iff {home : HomeLocation} {ref : HomeReference} :
    ofHome home = .ok ref ↔ home.Sane ∧ ref = derived home := by
  by_cases h : home.Sane
  · rw [ofHome_of_sane h, Except.ok.injEq, eq_comm]
    simp [h]
  · obtain ⟨reason, _, hr⟩ := ofHome_of_not_sane h
    rw [hr]
    simp [h]

theorem ofHome_home {home : HomeLocation} {ref : HomeReference} (h : ofHome home = .ok ref) :
    ofHome ref.home = .ok ref := by
  obtain ⟨_, rfl⟩ := ofHome_eq_ok_iff.mp h
  exact h

variable {homes : List HomeLocation}

theorem latest_eq_none_iff_not_sane : latest homes = none ↔ ∀ home ∈ homes, ¬ home.Sane := by
  rw [latest_eq_none_iff]
  refine forall₂_congr fun home _ => ?_
  by_cases h : home.Sane
  · simp [ofHome_of_sane h, h]
  · obtain ⟨reason, _, hr⟩ := ofHome_of_not_sane h
    simp [hr, h]

theorem latest_append (homes homes' : List HomeLocation) :
    latest (homes ++ homes') = (latest homes').or (latest homes) := by
  rw [latest, latest, latest, List.filterMap_append, List.getLast?_append]

/-- What comes after the last sane location leaves its reference. -/
theorem latest_of_last_sane {home : HomeLocation} {later : List HomeLocation} (h : home.Sane)
    (hl : ∀ next ∈ later, ¬ next.Sane) (earlier : List HomeLocation) :
    latest (earlier ++ home :: later) = some (derived home) := by
  rw [latest_append, latest_cons, latest_eq_none_iff_not_sane.mpr hl, ofHome_of_sane h]
  rfl

theorem exists_of_latest {ref : HomeReference} (h : latest homes = some ref) :
    ∃ home ∈ homes, ofHome home = .ok ref := by
  obtain ⟨home, hm, hok⟩ := List.mem_filterMap.mp (List.mem_of_getLast? h)
  refine ⟨home, hm, ?_⟩
  cases hr : ofHome home with
  | ok ref' => rw [hr] at hok; exact congrArg Except.ok (Option.some.inj hok)
  | error e => rw [hr] at hok; cases hok

end HomeReference

/-! ## The linearizer -/

namespace HomeLinearizer

structure HasSeen (homes : List HomeLocation) (l : HomeLinearizer) : Prop where
  reference : l.reference = HomeReference.latest homes
  accepted : l.accepted = Counter.ofNat (homes.countP fun home => home.Sane)
  rejected : l.rejected = Counter.ofNat (homes.countP fun home => ¬ home.Sane)

theorem hasSeen_empty : HasSeen [] empty := ⟨rfl, rfl, rfl⟩

theorem changeHome_of_sane {home : HomeLocation} (h : home.Sane) (l : HomeLinearizer) :
    l.changeHome home = (.ok (HomeReference.derived home),
      { l with reference := some (HomeReference.derived home), accepted := Counter.next l.accepted }) := by
  simp only [changeHome, HomeReference.ofHome_of_sane h]

theorem HasSeen.changeHome {homes : List HomeLocation} {l : HomeLinearizer} (h : l.HasSeen homes) (home : HomeLocation) :
    (l.changeHome home).2.HasSeen (homes ++ [home]) := by
  have hreference : (l.changeHome home).2.reference = HomeReference.latest (homes ++ [home]) := by
    rw [changeHome_reference, HomeReference.latest_append, HomeReference.latest_cons, h.reference]
    rfl
  have haccepted := Counter.next_ofNat_countP (fun home : HomeLocation => home.Sane) homes home
  have hrejected := Counter.next_ofNat_countP (fun home : HomeLocation => ¬ home.Sane) homes home
  by_cases hs : home.Sane
  · rw [if_pos hs, ← h.accepted] at haccepted
    rw [if_neg (not_not.mpr hs), ← h.rejected] at hrejected
    rw [changeHome_of_sane hs] at hreference ⊢
    exact ⟨hreference, haccepted, hrejected⟩
  · obtain ⟨e, _, he⟩ := HomeReference.ofHome_of_not_sane hs
    rw [if_neg hs, ← h.accepted] at haccepted
    rw [if_pos hs, ← h.rejected] at hrejected
    rw [changeHome_of_error he] at hreference ⊢
    exact ⟨hreference, haccepted, hrejected⟩

theorem HasSeen.changeAll {homes : List HomeLocation} {l : HomeLinearizer} (h : l.HasSeen homes)
    (homes' : List HomeLocation) : (l.changeAll homes').HasSeen (homes ++ homes') := by
  induction homes' generalizing homes l with
  | nil => rw [List.append_nil]; exact h
  | cons home homes' ih =>
    rw [changeAll_cons, List.append_cons]
    exact ih (h.changeHome home)

theorem isConfigured_changeAll {l : HomeLinearizer} (h : l.isConfigured = true) (homes : List HomeLocation) :
    (l.changeAll homes).isConfigured = true := by
  unfold isConfigured at h ⊢
  rw [changeAll_reference, Option.isSome_or, h, Bool.or_true]

/-- A new linearizer after any sequence of home locations.
    (1) A sane location is accepted with the reference derived from it; any other is rejected
        for the first requirement that it does not meet.
    (2) There is no reference as long as no location was sane; after that it is the one
        derived from the last sane location, as a whole.
    (3) Once there is a reference, no sequence of changes takes it away.
    (4) The counters are the numbers of sane and of other locations, up to the limit.
    (5) A location that is not sane is rejected and changes the counter of rejections only.
    (6) The location of the reference gives the same reference again. -/
theorem reference_of_last_sane_home (homes : List HomeLocation) :
    let l := empty.changeAll homes
    ((∀ home : HomeLocation, home.Sane → HomeReference.ofHome home = .ok (HomeReference.derived home)) ∧
      ∀ home : HomeLocation, ¬ home.Sane →
        ∃ reason, firstUnmet home.requirements = some reason ∧ HomeReference.ofHome home = .error reason) ∧
    (l.reference = none ↔ ∀ home ∈ homes, ¬ home.Sane) ∧
    (∀ (earlier : List HomeLocation) (home : HomeLocation) (later : List HomeLocation),
      homes = earlier ++ home :: later → home.Sane → (∀ next ∈ later, ¬ next.Sane) →
        l.reference = some (HomeReference.derived home)) ∧
    (∀ more, l.isConfigured = true → (l.changeAll more).isConfigured = true) ∧
    l.accepted.toNat = min (homes.countP fun home => home.Sane) Counter.limit ∧
    l.rejected.toNat = min (homes.countP fun home => ¬ home.Sane) Counter.limit ∧
    (∀ home : HomeLocation, ¬ home.Sane → (∃ reason, (l.changeHome home).1 = .error reason) ∧
      (l.changeHome home).2 = { l with rejected := Counter.next l.rejected }) ∧
    (∀ ref, l.reference = some ref → HomeReference.ofHome ref.home = .ok ref) := by
  intro l
  have hseen : l.HasSeen homes := hasSeen_empty.changeAll homes
  refine ⟨⟨fun _ => HomeReference.ofHome_of_sane, fun _ => HomeReference.ofHome_of_not_sane⟩, ?_, ?_,
    fun more h => isConfigured_changeAll h more, ?_, ?_, fun home h => ?_, fun ref h => ?_⟩
  · rw [hseen.reference, HomeReference.latest_eq_none_iff_not_sane]
  · intro earlier home later hsplit h hlater
    rw [hseen.reference, hsplit, HomeReference.latest_of_last_sane h hlater]
  · rw [hseen.accepted, Counter.toNat_ofNat]
  · rw [hseen.rejected, Counter.toNat_ofNat]
  · obtain ⟨reason, _, hr⟩ := HomeReference.ofHome_of_not_sane h
    exact ⟨⟨reason, (l.changeHome_result home).trans hr⟩, changeHome_of_error hr l⟩
  · rw [hseen.reference] at h
    obtain ⟨home, _, hok⟩ := HomeReference.exists_of_latest h
    exact HomeReference.ofHome_home hok

/-- A location that nobody has set, a sane one, and one too far north: the reference is that
    of the second, and announcing the first again changes the counter of rejections only. -/
theorem reference_of_sane_home_between_rejections :
    let unset : HomeLocation := ⟨46, 7, 300, .zero, false⟩
    let sane : HomeLocation := ⟨45, 7, 300, .zero, true⟩
    let north : HomeLocation := ⟨95, 7, 300, .zero, true⟩
    let l := empty.changeAll [unset, sane, north]
    ¬ unset.Sane ∧ sane.Sane ∧ ¬ north.Sane ∧
      HomeReference.ofHome north = .error (.outOfRange 95 (-90.0) 90.0) ∧
      HomeReference.ofHome sane = .ok (HomeReference.derived sane) ∧
      l.reference = some (HomeReference.derived sane) ∧ l.accepted.toNat = 1 ∧ l.rejected.toNat = 2 ∧
      (l.changeAll [unset]).isConfigured = true ∧
      (l.changeHome unset).2 = { l with rejected := Counter.next l.rejected } ∧
      HomeReference.ofHome (HomeReference.derived sane).home = .ok (HomeReference.derived sane) := by
  intro unset sane north l
  have hunset : ¬ unset.Sane := by decide
  have hsane : sane.Sane := by decide
  have hnorth : ¬ north.Sane := by decide
  obtain ⟨⟨haccepts, hrejects⟩, _, hlast, hkeeps, haccepted, hrejected, hother, hagain⟩ :=
    reference_of_last_sane_home [unset, sane, north]
  have href : l.reference = some (HomeReference.derived sane) :=
    hlast [unset] sane [north] rfl hsane (by simpa using hnorth)
  have hconfigured : l.isConfigured = true := by rw [isConfigured, href]; rfl
  obtain ⟨reason, hreason, hno⟩ := hrejects north hnorth
  have hlatitude : firstUnmet (HomeLocation.requirements ⟨95, 7, 300, .zero, true⟩) =
      some (.outOfRange 95 (-90.0) 90.0) := by rfl
  obtain rfl := Option.some.inj (hlatitude.symm.trans hreason)
  refine ⟨hunset, hsane, hnorth, hno, haccepts sane hsane, href, ?_, ?_, hkeeps [unset] hconfigured,
    (hother unset hunset).2, hagain _ href⟩
  · exact haccepted.trans (by decide)
  · exact hrejected.trans (by decide)

end HomeLinearizer

end SensorFusion
