/-
  SensorFusion.Proofs.Execution — executions as data: the estimator they start from, the
  trail of their steps, and conditions that hold along them.

  A property of every reachable state is kept by every step (`exec_invariant`), or by the
  steps that a condition allows (`exec_along`). Where others consume from the tracker, too,
  the property must not depend on the tracker (`execShared_along`).
-/

import SensorFusion.Execution

namespace SensorFusion

def Answer.run? : Answer → Option RunReport
  | polled r => r
  | _ => .none

namespace Estimator

variable {ε υ : Type}

/-- An estimator as it is set up: not started, nothing unread. -/
def setUp (env : ε) (chain : FilterChain υ) (gate : SanityGate) (settings : EstimationSettings) : Estimator ε υ :=
  (new env chain settings).withGate gate

variable [Environment ε] [FilterUnit υ]

/-! ## Executions -/

@[simp] theorem exec_nil (x : Estimator ε υ) : x.exec [] = ([], x) := rfl

@[simp] theorem exec_cons (x : Estimator ε υ) (op : Op ε) (ops : List (Op ε)) :
    x.exec (op :: ops) = ((x.step op).1 :: ((x.step op).2.exec ops).1, ((x.step op).2.exec ops).2) := rfl

theorem exec_append (x : Estimator ε υ) (ops ops' : List (Op ε)) :
    x.exec (ops ++ ops') = ((x.exec ops).1 ++ ((x.exec ops).2.exec ops').1, ((x.exec ops).2.exec ops').2) := by
  induction ops generalizing x with
  | nil => rfl
  | cons op ops ih => simp [ih]

theorem exec_invariant {P : Estimator ε υ → Prop} (hP : ∀ x op, P x → P (x.step op).2) {x : Estimator ε υ}
    (h : P x) (ops : List (Op ε)) : P (x.exec ops).2 := by
  induction ops generalizing x with
  | nil => exact h
  | cons op ops ih => exact ih (hP x op h)

/-- The answer of every step, with the state after it. -/
def trail (x : Estimator ε υ) : List (Op ε) → List (Answer × Estimator ε υ)
  | [] => []
  | op :: ops => x.step op :: (x.step op).2.trail ops

/-! ## A tracker with other consumers -/

/-- A step of an execution in which others consume from the tracker, too. -/
inductive SharedOp (ε : Type) where
  | own (op : Op ε)
  /-- Another consumer takes the unread samples. -/
  | take
  /-- Another consumer takes the run request. -/
  | takeDispatch

def stepShared (x : Estimator ε υ) : SharedOp ε → Option RunReport × Estimator ε υ
  | .own op => let r := x.step op; (r.1.run?, r.2)
  | .take => (none, { x with tracker := x.tracker.take.2 })
  | .takeDispatch => (none, { x with tracker := x.tracker.takeDispatch.2 })

def execShared (x : Estimator ε υ) : List (SharedOp ε) → List RunReport × Estimator ε υ
  | [] => ([], x)
  | op :: ops =>
    let r := x.stepShared op
    let rest := r.2.execShared ops
    (r.1.toList ++ rest.1, rest.2)

@[simp] theorem execShared_nil (x : Estimator ε υ) : x.execShared [] = ([], x) := rfl

@[simp] theorem execShared_cons (x : Estimator ε υ) (op : SharedOp ε) (ops : List (SharedOp ε)) :
    x.execShared (op :: ops) = ((x.stepShared op).1.toList ++ ((x.stepShared op).2.execShared ops).1,
      ((x.stepShared op).2.execShared ops).2) := rfl

theorem stepShared_cases (x : Estimator ε υ) (op : SharedOp ε) :
    (∃ own, op = .own own ∧ x.stepShared op = ((x.step own).1.run?, (x.step own).2)) ∨
      ((∀ own, op ≠ .own own) ∧ ∃ tracker, x.stepShared op = (none, { x with tracker })) := by
  cases op with
  | own op => exact Or.inl ⟨op, rfl, rfl⟩
  | take => exact Or.inr ⟨fun _ h => (by cases h), _, rfl⟩
  | takeDispatch => exact Or.inr ⟨fun _ h => (by cases h), _, rfl⟩

/-- What every step keeps of the reports so far and the estimator, an execution keeps. -/
theorem execShared_history {P : List RunReport → Estimator ε υ → Prop}
    (hP : ∀ rs x op, P rs x → P (rs ++ (x.stepShared op).1.toList) (x.stepShared op).2) {rs : List RunReport}
    {x : Estimator ε υ} (h : P rs x) (ops : List (SharedOp ε)) :
    P (rs ++ (x.execShared ops).1) (x.execShared ops).2 := by
  induction ops generalizing rs x with
  | nil => simpa [execShared] using h
  | cons op ops ih => simpa [execShared] using ih (hP rs x op h)

/-! ## Conditions along an execution -/

/-- `Q` holds of every step, in the state where it is taken. -/
def Along (Q : Estimator ε υ → Op ε → Prop) (x : Estimator ε υ) : List (Op ε) → Prop
  | [] => True
  | op :: ops => Q x op ∧ Along Q (x.step op).2 ops

variable {Q : Estimator ε υ → Op ε → Prop}

theorem along_append {x : Estimator ε υ} {ops ops' : List (Op ε)} :
    Along Q x (ops ++ ops') ↔ Along Q x ops ∧ Along Q (x.exec ops).2 ops' := by
  induction ops generalizing x with
  | nil => simp [Along]
  | cons op ops ih => simp [Along, ih, and_assoc]

theorem along_and {Q' : Estimator ε υ → Op ε → Prop} {x : Estimator ε υ} {ops : List (Op ε)}
    (h : Along Q x ops) (h' : Along Q' x ops) : Along (fun y op => Q y op ∧ Q' y op) x ops := by
  induction ops generalizing x with
  | nil => trivial
  | cons op ops ih => exact ⟨⟨h.1, h'.1⟩, ih h.2 h'.2⟩

theorem exec_along {P : Estimator ε υ → Prop} (hP : ∀ x op, P x → Q x op → P (x.step op).2) {x : Estimator ε υ}
    (h : P x) {ops : List (Op ε)} (ha : Along Q x ops) : P (x.exec ops).2 := by
  induction ops generalizing x with
  | nil => exact h
  | cons op ops ih => exact ih (hP x op h ha.1) ha.2

/-- `Q` holds of every step of the estimator's own, in the state where it is taken. -/
def AlongShared (Q : Estimator ε υ → Op ε → Prop) (x : Estimator ε υ) : List (SharedOp ε) → Prop
  | [] => True
  | op :: ops => (∀ own, op = .own own → Q x own) ∧ AlongShared Q (x.stepShared op).2 ops

/-- With no other consumer these are all steps. -/
theorem alongShared_own {x : Estimator ε υ} {ops : List (Op ε)} : AlongShared Q x (ops.map .own) ↔ Along Q x ops := by
  induction ops generalizing x with
  | nil => exact Iff.rfl
  | cons op ops ih =>
    rw [List.map_cons, AlongShared, Along, stepShared, ih]
    exact and_congr_left' ⟨fun h => h op rfl, fun h own ho => SharedOp.own.inj ho ▸ h⟩

theorem alongShared_append {x : Estimator ε υ} {ops ops' : List (SharedOp ε)} :
    AlongShared Q x (ops ++ ops') ↔ AlongShared Q x ops ∧ AlongShared Q (x.execShared ops).2 ops' := by
  induction ops generalizing x with
  | nil => simp [AlongShared]
  | cons op ops ih => simp [AlongShared, ih, and_assoc]

theorem execShared_along {P : Estimator ε υ → Prop} (hP : ∀ x op, P x → Q x op → P (x.step op).2)
    (hT : ∀ x tracker, P x → P { x with tracker }) {x : Estimator ε υ} (h : P x) {ops : List (SharedOp ε)}
    (ha : AlongShared Q x ops) : P (x.execShared ops).2 := by
  induction ops generalizing x with
  | nil => exact h
  | cons op ops ih =>
    rw [execShared_cons]
    refine ih ?_ ha.2
    rcases x.stepShared_cases op with ⟨own, rfl, _⟩ | ⟨_, tracker, hs⟩
    · exact hP x own h (ha.1 own rfl)
    · rw [hs]
      exact hT x tracker h

/-- What every step keeps, an execution keeps, if it does not depend on the tracker. -/
theorem execShared_invariant {P : Estimator ε υ → Prop} (hP : ∀ x op, P x → P (x.step op).2)
    (hT : ∀ x tracker, P x → P { x with tracker }) {x : Estimator ε υ} (h : P x) (ops : List (SharedOp ε)) :
    P (x.execShared ops).2 := by
  have ha : AlongShared (fun _ _ => True) x ops := by
    clear h
    induction ops generalizing x with
    | nil => trivial
    | cons op ops ih => exact ⟨fun _ _ => trivial, ih⟩
  exact execShared_along (fun y op hy _ => hP y op hy) hT h ha

end Estimator

end SensorFusion
