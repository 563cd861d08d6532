/-
  SensorFusion.Proofs.Refusal — operations that come to nothing leave the estimator as it was.

  A poll consumes the run request before it knows whether it will run; when it waits, there
  was none to consume, so the tracker is as it was, even if others have taken the request of
  samples that are still unread. A refused start looks neither at the home location it was
  given nor at the chain. Settings are validated before anything of them is taken over, and
  a rejected home location counts as such and does nothing else.

  Environment and filter units are arbitrary here: an estimator that is left with the same
  chain, and with an environment that was looked at for the time at most, has read no
  sensor and called no unit.
-/

import SensorFusion.Proofs.Wakeup
import SensorFusion.Simulation.Unit
import SensorFusion.Simulation.World

namespace SensorFusion

namespace Estimator

variable {ε υ : Type} [Environment ε] [FilterUnit υ]

/-- A poll that waits has looked at the clock, unless there was no deadline to compare it
    with, and has done nothing else. -/
theorem poll_of_waits {x : Estimator ε υ} (h : x.poll.1 = none) :
    x.poll.2 = { x with env := if x.scheduler.state = .armed then Environment.tick x.env else x.env } := by
  rcases x.poll_cases with ⟨hn, hp⟩ | ⟨ha, ht, hp⟩ | ⟨t, _, _, hp⟩
  · rw [hp, if_neg hn]
  · have hd : x.tracker.dispatchRequested = false := (Scheduler.trigger?_eq_none_iff.mp ht).1
    rw [hp, if_pos ha, waited, UpdateTracker.takeDispatch_of_not hd]
  · rw [hp] at h
    cases h

/-- A start succeeds until one has succeeded, and is refused from then on. -/
theorem start_after {chain : FilterChain υ} {x : Estimator ε υ} (h : Untouched chain x) (ops : List (SharedOp ε))
    (home : Option HomeLocation) :
    (¬ StartSucceeds x ops ∧ ∃ report, ((x.execShared ops).2.start home).1 = .ok report) ∨
      (StartSucceeds x ops ∧
        (x.execShared ops).2.start home = (.error (.invalidState "idle" "armed"), (x.execShared ops).2)) := by
  rcases execShared_started h ops with ⟨hno, hu⟩ | ⟨hs, ha⟩
  · rcases (x.execShared ops).2.start_cases home with ⟨_, l, hok⟩ | ⟨hn, _⟩
    · exact Or.inl ⟨hno, _, congrArg Prod.fst hok⟩
    · exact absurd hu.state hn
  · have hn : (x.execShared ops).2.scheduler.state ≠ .idle := by
      rw [ha]
      decide
    have herr := start_of_not_idle hn home
    rw [ha] at herr
    exact Or.inr ⟨hs, herr⟩

/-- Errors, and polls that wait, leave the estimator intact, in every state `y` that an
    execution reaches, also when others consume from the tracker:
    (1) a poll that waits changes nothing, but for a look at the clock when armed;
    (2) a start that is refused changes nothing, whatever home it is given, and the refusal
        names the state;
    (3) a start is refused exactly when one has succeeded before;
    (4) settings that are refused change nothing;
    (5) a home location that is rejected changes nothing but the count of rejected ones. -/
theorem refused_leaves_intact (env : ε) (chain : FilterChain υ) (gate : SanityGate) (settings : EstimationSettings)
    (ops : List (SharedOp ε)) :
    let start := setUp env chain gate settings
    let y := (start.execShared ops).2
    (y.poll.1 = none →
      y.poll.2 = { y with env := if y.scheduler.state = .armed then Environment.tick y.env else y.env }) ∧
    (∀ home e, (y.start home).1 = .error e → e = .invalidState "idle" "armed" ∧ (y.start home).2 = y) ∧
    (∀ home, (∃ e, (y.start home).1 = .error e) ↔ StartSucceeds start ops) ∧
    (∀ s e, (y.step (.applySettings s)).1 = .settingsApplied (.error e) → (y.step (.applySettings s)).2 = y) ∧
    ∀ home e, (y.step (.changeHome home)).1 = .homeChanged (.error e) →
      ∃ n : UInt32, n.toNat = min (y.scheduler.home.rejected.toNat + 1) Counter.limit ∧
        (y.step (.changeHome home)).2 =
          { y with scheduler := { y.scheduler with home := { y.scheduler.home with rejected := n } } } := by
  intro start y
  have hstart := start_after (setUp_untouched env chain gate settings) ops
  refine ⟨poll_of_waits, fun home e he => ?_, fun home => ?_, fun s e he => ?_, fun home e he => ?_⟩
  · rcases hstart home with ⟨_, report, hok⟩ | ⟨_, herr⟩
    · rw [hok] at he
      cases he
    · rw [herr] at he ⊢
      cases he
      exact ⟨rfl, rfl⟩
  · rcases hstart home with ⟨hno, report, hok⟩ | ⟨hs, herr⟩
    · rw [hok]
      refine ⟨?_, fun hs => absurd hs hno⟩
      rintro ⟨_, he⟩
      cases he
    · rw [herr]
      exact ⟨fun _ => hs, fun _ => ⟨_, rfl⟩⟩
  · rcases y.scheduler.applySettings_cases s with ⟨_, hok⟩ | ⟨_, _, herr⟩
    · simp only [step, hok] at he
      cases he
    · simp only [step, herr]
  · have hhome : HomeReference.ofHome home = .error e := by
      simp only [step, Scheduler.changeHome, HomeLinearizer.changeHome_result, Answer.homeChanged.injEq] at he
      exact he
    refine ⟨Counter.next y.scheduler.home.rejected, Counter.toNat_next _, ?_⟩
    simp only [step, Scheduler.changeHome, HomeLinearizer.changeHome_of_error hhome]

/-! ## Refusals in a simulated world -/

open Simulation

/-- Another consumer took the run request of a gyroscope sample. The poll then waits and
    leaves the sample unread, a second start is refused, and so are a timeout of nothing
    and a home location that nobody has set. -/
theorem refused_leaves_unread_sample :
    let world : World := ⟨.silent, .manual 0, #[]⟩
    let start := setUp world (.ofUnits ([] : List ScriptedUnit) (by decide)) .default .default
    let ops := [.own (.start none), .own (.mark .gyro), .takeDispatch]
    let y := (start.execShared ops).2
    let never := EstimationSettings.default.withTimeout 0
    let unset : HomeLocation := ⟨47, 8, 500, .zero, false⟩
    y.tracker.pending = SensorClass.gyro.bit ∧ y.poll.1 = none ∧ y.poll.2 = y ∧
      (∃ e, (y.start unset).1 = .error e) ∧ (y.start unset).2 = y ∧
      (∃ e, (y.step (.applySettings never)).1 = .settingsApplied (.error e)) ∧ (y.step (.applySettings never)).2 = y ∧
      (∃ e, (y.step (.changeHome unset)).1 = .homeChanged (.error e)) ∧
      (y.step (.changeHome unset)).2.scheduler.home.rejected.toNat = 1 := by
  intro world start ops y never unset
  obtain ⟨hpoll, hstart, _, hset, hhome⟩ :=
    refused_leaves_intact world (.ofUnits ([] : List ScriptedUnit) (by decide)) .default .default ops
  have hw : y.poll.1 = none := congrArg Prod.fst (poll_of_no_trigger rfl (by decide))
  have hs : (y.start unset).1 = .error (.invalidState "idle" "armed") := rfl
  have ht : (y.step (.applySettings never)).1 = .settingsApplied (.error (.invalidConfig "timeout_ms out of range")) := rfl
  have hu : (y.step (.changeHome unset)).1 = .homeChanged (.error .homeNotConfigured) := rfl
  obtain ⟨n, hn, hx⟩ := hhome unset _ hu
  refine ⟨by decide, hw, hpoll hw, ⟨_, hs⟩, (hstart unset _ hs).2, ⟨_, ht⟩, hset never _ ht, ⟨_, hu⟩, ?_⟩
  rw [hx]
  exact hn

end Estimator

end SensorFusion
