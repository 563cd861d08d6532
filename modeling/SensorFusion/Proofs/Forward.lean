/-
  SensorFusion.Proofs.Forward — executions along which the clock never goes back.

  A run looks at the clock twice, at its start and at its end, and the environment may
  change in between. An environment whose looks and reads never turn its clock back
  (`Onward`) leaves this to the changes made from outside.
-/

import SensorFusion.Proofs.Poll
import SensorFusion.Simulation.World

namespace SensorFusion

structure Onward (ε : Type) [Environment ε] : Prop where
  tick (e : ε) : Environment.clock e ≤ Environment.clock (Environment.tick e)
  read (c : SensorClass) (e : ε) : Environment.clock e ≤ Environment.clock (Environment.read c e).after

theorem Onward.sweep {ε : Type} [Environment ε] (h : Onward ε) (cs : List SensorClass) (e : ε) :
    Environment.clock e ≤ Environment.clock (Sweep.read cs e).after := by
  induction cs generalizing e with
  | nil => exact UInt64.le_refl _
  | cons c cs ih => exact UInt64.le_trans (h.read c e) (ih _)

namespace Estimator

variable {ε υ : Type} [Environment ε]

theorem le_runEnd (h : Onward ε) (x : Estimator ε υ) : Environment.clock x.env ≤ x.runEnd :=
  UInt64.le_trans (h.tick x.env) (h.sweep _ _)

variable [FilterUnit υ]

/-- The clock does not go back, over a step and over the looks at it that a run takes. -/
def Forward (x : Estimator ε υ) (op : Op ε) : Prop :=
  Environment.clock x.env ≤ Environment.clock (x.step op).2.env ∧
    ∀ r, (x.step op).1.run? = some r →
      Environment.clock x.env ≤ x.runEnd ∧ x.runEnd ≤ Environment.clock (x.step op).2.env

theorem forward_of_onward (h : Onward ε) (x : Estimator ε υ) (op : Op ε)
    (hop : ∀ change, op = .environment change → Environment.clock x.env ≤ Environment.clock (change x.env)) :
    Forward x op := by
  cases op with
  | start home =>
    refine ⟨?_, fun r hr => by cases hr⟩
    rcases x.start_cases home with ⟨_, l, hs⟩ | ⟨_, e, hs⟩ <;> simp only [step, hs]
    · exact h.tick x.env
    · exact UInt64.le_refl _
  | environment change => exact ⟨hop change rfl, fun r hr => by cases hr⟩
  | poll =>
    rcases x.poll_cases with ⟨_, hp⟩ | ⟨_, _, hp⟩ | ⟨t, _, _, hp⟩ <;> simp only [Forward, step, hp, Answer.run?]
    · exact ⟨UInt64.le_refl _, fun r hr => by cases hr⟩
    · exact ⟨h.tick x.env, fun r hr => by cases hr⟩
    · have hend : x.runEnd ≤ Environment.clock (x.ran t).2.env := by
        rw [ran_env]
        exact h.tick x.gated.after
      exact ⟨UInt64.le_trans (le_runEnd h x) hend, fun _ _ => ⟨le_runEnd h x, hend⟩⟩
  | _ => exact ⟨UInt64.le_refl _, fun r hr => by cases hr⟩

theorem alongShared_forward (h : Onward ε) {ops : List (SharedOp ε)}
    (hops : ∀ change, .own (.environment change) ∈ ops → ∀ e, Environment.clock e ≤ Environment.clock (change e))
    (x : Estimator ε υ) : AlongShared Forward x ops := by
  induction ops generalizing x with
  | nil => trivial
  | cons op ops ih =>
    refine ⟨?_, ih (fun change hc => hops change (List.mem_cons_of_mem _ hc)) _⟩
    rintro own rfl
    refine forward_of_onward h x own fun change hc => ?_
    exact hops change (hc ▸ List.mem_cons_self ..) _

theorem along_forward (h : Onward ε) {ops : List (Op ε)}
    (hops : ∀ change, Op.environment change ∈ ops → ∀ e, Environment.clock e ≤ Environment.clock (change e))
    (x : Estimator ε υ) : Along Forward x ops := by
  refine alongShared_own.mp (alongShared_forward h (fun change hc => hops change ?_) x)
  obtain ⟨own, hm, he⟩ := List.mem_map.mp hc
  rwa [← SharedOp.own.inj he]

end Estimator

/-- At most, a read of a simulated world takes time. -/
theorem Simulation.World.onward : Onward World where
  tick w := UInt64.le_refl _
  read c w := by
    show w.clock.now ≤ w.clockAfterRead.now
    unfold clockAfterRead
    split
    · exact UInt64.le_refl _
    · exact Clock.now_le_advance _ _

namespace Estimator

variable {υ : Type} [FilterUnit υ]

/-- The clock of a simulated world never goes back while it is only advanced. -/
theorem along_forward_of_advance {ops : List (Op Simulation.World)}
    (hops : ∀ change, .environment change ∈ ops → ∃ ms, change = fun w => { w with clock := w.clock.advance ms })
    (x : Estimator Simulation.World υ) : Along Forward x ops := by
  refine along_forward Simulation.World.onward ?_ x
  intro change hc w
  obtain ⟨ms, rfl⟩ := hops change hc
  exact Clock.now_le_advance _ _

theorem alongShared_forward_of_advance {ops : List (SharedOp Simulation.World)}
    (hops : ∀ change, .own (.environment change) ∈ ops → ∃ ms, change = fun w => { w with clock := w.clock.advance ms })
    (x : Estimator Simulation.World υ) : AlongShared Forward x ops := by
  refine alongShared_forward Simulation.World.onward ?_ x
  intro change hc w
  obtain ⟨ms, rfl⟩ := hops change hc
  exact Clock.now_le_advance _ _

end Estimator

end SensorFusion
