/-
  SensorFusion.Proofs.HomeHistory — the home reference, from the home locations announced.

  A location reaches the linearizer by two doors: the start, if it is the first and gives
  one, and a later announcement. Both replace the reference or leave it, as a whole, so the
  reference is that of the last acceptable location (`HomeReference.latest`), whatever came
  after it and whatever else happened in between.
-/

import SensorFusion.Proofs.Poll

namespace SensorFusion

/-- The reference of the last acceptable home location, if one is acceptable. -/
def HomeReference.latest (homes : List HomeLocation) : Option HomeReference :=
  (homes.filterMap fun home => (ofHome home).toOption).getLast?

namespace HomeReference

variable {homes : List HomeLocation}

theorem latest_eq_none_iff : latest homes = none ↔ ∀ home ∈ homes, ∃ e, ofHome home = .error e := by
  rw [latest, List.getLast?_eq_none_iff, List.filterMap_eq_nil_iff]
  refine forall₂_congr fun home _ => ?_
  cases ofHome home <;> simp [Except.toOption]

theorem latest_cons (home : HomeLocation) (homes : List HomeLocation) :
    latest (home :: homes) = (latest homes).or (ofHome home).toOption := by
  rw [latest, latest, List.filterMap_cons]
  cases ofHome home with
  | error e => exact Option.or_none.symm
  | ok ref =>
    show (ref :: _).getLast? = _
    rw [List.getLast?_cons]
    cases (homes.filterMap fun home => (ofHome home).toOption).getLast? <;> rfl

theorem exists_latest {home : HomeLocation} {ref : HomeReference} (hm : home ∈ homes) (hok : ofHome home = .ok ref) :
    ∃ ref, latest homes = some ref := by
  rw [← Option.ne_none_iff_exists', ne_eq, latest_eq_none_iff]
  intro hall
  obtain ⟨e, he⟩ := hall home hm
  rw [hok] at he
  cases he

end HomeReference

namespace HomeLinearizer

def changeAll (l : HomeLinearizer) (homes : List HomeLocation) : HomeLinearizer :=
  homes.foldl (fun l home => (l.changeHome home).2) l

@[simp] theorem changeAll_nil (l : HomeLinearizer) : l.changeAll [] = l := rfl

@[simp] theorem changeAll_cons (l : HomeLinearizer) (home : HomeLocation) (homes : List HomeLocation) :
    l.changeAll (home :: homes) = (l.changeHome home).2.changeAll homes := rfl

theorem changeAll_append (l : HomeLinearizer) (homes homes' : List HomeLocation) :
    l.changeAll (homes ++ homes') = (l.changeAll homes).changeAll homes' := List.foldl_append

theorem changeAll_reference (l : HomeLinearizer) (homes : List HomeLocation) :
    (l.changeAll homes).reference = (HomeReference.latest homes).or l.reference := by
  induction homes generalizing l with
  | nil => rfl
  | cons home homes ih => rw [changeAll_cons, ih, changeHome_reference, HomeReference.latest_cons, Option.or_assoc]

end HomeLinearizer

namespace Estimator

variable {ε υ : Type} [Environment ε] [FilterUnit υ]

/-- The home locations that a step brings to the linearizer; a start does if it is the
    first. -/
def announces (x : Estimator ε υ) : SharedOp ε → List HomeLocation
  | .own (.start home) => if x.scheduler.state = .idle then home.toList else []
  | .own (.changeHome home) => [home]
  | _ => []

def announced (x : Estimator ε υ) : List (SharedOp ε) → List HomeLocation
  | [] => []
  | op :: ops => x.announces op ++ (x.stepShared op).2.announced ops

theorem start_home (x : Estimator ε υ) (home : Option HomeLocation) :
    (x.start home).2.scheduler.home = x.scheduler.home.changeAll (x.announces (.own (.start home))) := by
  by_cases h : x.scheduler.state = .idle
  · simp only [start, Scheduler.start, announces, h, if_true]
    cases home <;> rfl
  · rw [start_of_not_idle h]
    simp only [announces, if_neg h, HomeLinearizer.changeAll_nil]

theorem step_home (x : Estimator ε υ) (op : Op ε) :
    (x.step op).2.scheduler.home = x.scheduler.home.changeAll (x.announces (.own op)) := by
  cases op with
  | start home => exact x.start_home home
  | applySettings settings =>
    rcases x.scheduler.applySettings_cases settings with ⟨_, hs⟩ | ⟨e, _, hs⟩ <;> simp only [step, hs] <;> rfl
  | poll =>
    rcases x.poll_cases with ⟨_, hp⟩ | ⟨_, _, hp⟩ | ⟨t, _, _, hp⟩ <;> simp only [step, hp] <;> rfl
  | _ => rfl

/-- The linearizer has seen what was announced, and nothing else. -/
theorem execShared_home (x : Estimator ε υ) (ops : List (SharedOp ε)) :
    (x.execShared ops).2.scheduler.home = x.scheduler.home.changeAll (x.announced ops) := by
  induction ops generalizing x with
  | nil => rfl
  | cons op ops ih =>
    rw [execShared_cons, ih, announced, HomeLinearizer.changeAll_append]
    congr 1
    cases op with
    | own op => exact x.step_home op
    | take => rfl
    | takeDispatch => rfl

/-- The reference is the one of the last acceptable location announced. -/
theorem setUp_execShared_reference (env : ε) (chain : FilterChain υ) (gate : SanityGate) (settings : EstimationSettings)
    (ops : List (SharedOp ε)) :
    let start := setUp env chain gate settings
    (start.execShared ops).2.scheduler.home.reference = HomeReference.latest (start.announced ops) := by
  intro start
  rw [execShared_home, HomeLinearizer.changeAll_reference]
  exact Option.or_none

end Estimator

end SensorFusion
