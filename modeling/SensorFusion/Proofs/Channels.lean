/-
  SensorFusion.Proofs.Channels — the tracker as two channels, each told by its history.

  Every arrival feeds both channels, the unread samples and the run request. They are taken
  separately, by whoever likes to and in any order. What a call answers depends on the
  arrivals since the last take from its own channel (`unread`, `requested`), so that a take
  from the other channel, a look, and a mask without a sensor bit might as well not have
  been made: leaving such calls out changes no other answer (`exec_filter`).

  Proved (`calls_told_by_history`): all this for every sequence of calls of a new tracker.
-/

import SensorFusion.Proofs.Arrivals

namespace SensorFusion

/-! ## Calls -/

inductive TrackerCall where
  | mark (c : SensorClass)
  | markMask (m : SensorMask)
  | take
  | takeDispatch
  /-- Look at the unread samples and leave them. -/
  | peek

inductive TrackerAnswer where
  | none
  | unread (m : SensorMask)
  | requested (asked : Bool)

namespace TrackerAnswer

def unread? : TrackerAnswer → Option SensorMask
  | unread m => some m
  | _ => .none

def requested? : TrackerAnswer → Option Bool
  | requested b => some b
  | _ => .none

end TrackerAnswer

namespace UpdateTracker

def step (t : UpdateTracker) : TrackerCall → TrackerAnswer × UpdateTracker
  | .mark c => (.none, t.mark c)
  | .markMask m => (.none, t.markMask m)
  | .take => (.unread t.take.1, t.take.2)
  | .takeDispatch => (.requested t.takeDispatch.1, t.takeDispatch.2)
  | .peek => (.unread t.pending, t)

def exec (t : UpdateTracker) : List TrackerCall → List TrackerAnswer × UpdateTracker
  | [] => ([], t)
  | c :: cs => ((t.step c).1 :: ((t.step c).2.exec cs).1, ((t.step c).2.exec cs).2)

theorem length_exec (t : UpdateTracker) (calls : List TrackerCall) : (t.exec calls).1.length = calls.length := by
  induction calls generalizing t with
  | nil => rfl
  | cons c calls ih => simp [exec, ih]

theorem exec_append (t : UpdateTracker) (calls later : List TrackerCall) :
    t.exec (calls ++ later) = ((t.exec calls).1 ++ ((t.exec calls).2.exec later).1, ((t.exec calls).2.exec later).2) := by
  induction calls generalizing t with
  | nil => rfl
  | cons c calls ih => simp [exec, ih]

theorem getElem?_exec (t : UpdateTracker) (calls later : List TrackerCall) (c : TrackerCall) :
    (t.exec (calls ++ c :: later)).1[calls.length]? = some ((t.exec calls).2.step c).1 := by
  rw [exec_append, ← length_exec t calls, List.getElem?_append_right (Nat.le_refl _), Nat.sub_self]
  rfl

end UpdateTracker

/-! ## What a history says -/

namespace TrackerCall

def marked : TrackerCall → SensorMask
  | mark c => c.bit
  | markMask m => m
  | _ => .empty

def isArrival (c : TrackerCall) : Bool := !(c.marked.inter .sensors).isEmpty

def isIdle : TrackerCall → Bool
  | markMask m => (m.inter .sensors).isEmpty
  | _ => false

def isTake : TrackerCall → Bool
  | take => true
  | _ => false

def isTakeDispatch : TrackerCall → Bool
  | takeDispatch => true
  | _ => false

def isPeek : TrackerCall → Bool
  | peek => true
  | _ => false

/-- The calls after the last one that `p` holds of; all of them if it holds of none. -/
def since (p : TrackerCall → Bool) (past : List TrackerCall) : List TrackerCall :=
  (past.reverse.takeWhile fun c => !p c).reverse

/-- The sensors marked since the unread samples were last taken. -/
def unread (past : List TrackerCall) : SensorMask :=
  sensorsIn (((since isTake past).filter isArrival).map marked)

/-- Some sensor was marked since the run request was last taken. -/
def requested (past : List TrackerCall) : Bool := (since isTakeDispatch past).any isArrival

def arrivals (past : List TrackerCall) : Nat := past.countP isArrival

variable {p : TrackerCall → Bool} {past : List TrackerCall}

theorem since_concat (c : TrackerCall) : since p (past ++ [c]) = if p c then [] else since p past ++ [c] := by
  rw [since, List.reverse_append, List.reverse_singleton, List.singleton_append, List.takeWhile_cons]
  cases p c <;> simp [since]

theorem sensorsIn_marked (c : TrackerCall) :
    sensorsIn (([c].filter isArrival).map marked) = c.marked.inter .sensors := by
  cases h : c.isArrival with
  | true => simp [h]
  | false =>
    have hno : (c.marked.inter .sensors).isEmpty = true := by simpa [isArrival] using h
    rw [SensorMask.isEmpty_iff.mp hno]
    simp [h, sensorsIn]

theorem unread_concat (c : TrackerCall) :
    unread (past ++ [c]) = if c.isTake then .empty else (unread past).union (c.marked.inter .sensors) := by
  rw [unread, since_concat]
  cases c.isTake with
  | true => rfl
  | false =>
    rw [if_neg Bool.false_ne_true, if_neg Bool.false_ne_true, List.filter_append, List.map_append, sensorsIn_append,
      sensorsIn_marked, unread]

theorem requested_concat (c : TrackerCall) :
    requested (past ++ [c]) = if c.isTakeDispatch then false else requested past || c.isArrival := by
  rw [requested, since_concat]
  cases c.isTakeDispatch <;> simp [requested]

theorem arrivals_concat (c : TrackerCall) : arrivals (past ++ [c]) = arrivals past + if c.isArrival then 1 else 0 := by
  rw [arrivals, List.countP_append, List.countP_singleton, arrivals]

end TrackerCall

/-! ## The tracker follows its history -/

namespace UpdateTracker

open TrackerCall

structure Remembers (past : List TrackerCall) (t : UpdateTracker) : Prop where
  pending : t.pending = unread past
  dispatchRequested : t.dispatchRequested = requested past
  markCount : t.markCount = UInt32.ofNat (arrivals past)

variable {past : List TrackerCall} {t : UpdateTracker}

theorem remembers_empty : Remembers [] empty := ⟨rfl, rfl, rfl⟩

theorem Remembers.markMask (h : Remembers past t) {c : TrackerCall} (hc : c.isTake = false ∧ c.isTakeDispatch = false) :
    Remembers (past ++ [c]) (t.markMask c.marked) where
  pending := by rw [pending_markMask, unread_concat, h.pending, hc.1]; rfl
  dispatchRequested := by rw [dispatchRequested_markMask, requested_concat, h.dispatchRequested, hc.2]; rfl
  markCount := by
    rw [markCount_markMask, arrivals_concat, h.markCount, UInt32.ofNat_add, isArrival]
    cases (c.marked.inter .sensors).isEmpty <;> rfl

theorem Remembers.step (h : Remembers past t) (c : TrackerCall) : Remembers (past ++ [c]) (t.step c).2 := by
  cases c with
  | mark c => exact h.markMask (c := .mark c) ⟨rfl, rfl⟩
  | markMask m => exact h.markMask (c := .markMask m) ⟨rfl, rfl⟩
  | take =>
    refine ⟨?_, ?_, ?_⟩
    · rw [unread_concat]
      rfl
    · rw [requested_concat]
      exact h.dispatchRequested.trans (Bool.or_false _).symm
    · rw [arrivals_concat]
      exact h.markCount
  | takeDispatch =>
    refine ⟨?_, ?_, ?_⟩
    · rw [unread_concat]
      exact h.pending.trans (SensorMask.union_empty _).symm
    · rw [requested_concat]
      rfl
    · rw [arrivals_concat]
      exact h.markCount
  | peek =>
    refine ⟨?_, ?_, ?_⟩
    · rw [unread_concat]
      exact h.pending.trans (SensorMask.union_empty _).symm
    · rw [requested_concat]
      exact h.dispatchRequested.trans (Bool.or_false _).symm
    · rw [arrivals_concat]
      exact h.markCount

theorem Remembers.exec (h : Remembers past t) (calls : List TrackerCall) : Remembers (past ++ calls) (t.exec calls).2 := by
  induction calls generalizing past t with
  | nil => rwa [List.append_nil]
  | cons c calls ih =>
    rw [List.append_cons]
    exact ih (h.step c)

/-! ## Calls that might as well not have been made -/

/-- Leaving out calls whose answers are not looked at, and that change nothing that matters
    to the answers looked at, changes none of these. -/
theorem exec_filter {α : Type} {see : TrackerAnswer → Option α} {keep : TrackerCall → Bool}
    {R : UpdateTracker → UpdateTracker → Prop}
    (kept : ∀ t u c, R t u → keep c = true → see (t.step c).1 = see (u.step c).1 ∧ R (t.step c).2 (u.step c).2)
    (left : ∀ t u c, R t u → keep c = false → see (t.step c).1 = none ∧ R (t.step c).2 u)
    {t u : UpdateTracker} (h : R t u) (calls : List TrackerCall) :
    (t.exec calls).1.filterMap see = (u.exec (calls.filter keep)).1.filterMap see ∧
      R (t.exec calls).2 (u.exec (calls.filter keep)).2 := by
  induction calls generalizing t u with
  | nil => exact ⟨rfl, h⟩
  | cons c calls ih =>
    cases hc : keep c with
    | true =>
      obtain ⟨hsee, hR⟩ := kept t u c h hc
      obtain ⟨hs, hr⟩ := ih hR
      rw [List.filter_cons_of_pos hc]
      simp only [exec, List.filterMap_cons, hsee, hs]
      exact ⟨trivial, hr⟩
    | false =>
      obtain ⟨hsee, hR⟩ := left t u c h hc
      obtain ⟨hs, hr⟩ := ih hR
      rw [List.filter_cons_of_neg (by rw [hc]; exact Bool.false_ne_true)]
      simp only [exec, List.filterMap_cons, hsee, hs]
      exact ⟨trivial, hr⟩

/-- Taking the run request does not show in the unread samples. -/
theorem exec_without_takeDispatch (t : UpdateTracker) (calls : List TrackerCall) :
    (t.exec calls).1.filterMap TrackerAnswer.unread? =
        (t.exec (calls.filter fun c => !c.isTakeDispatch)).1.filterMap TrackerAnswer.unread? ∧
      (t.exec calls).2.pending = (t.exec (calls.filter fun c => !c.isTakeDispatch)).2.pending ∧
      (t.exec calls).2.markCount = (t.exec (calls.filter fun c => !c.isTakeDispatch)).2.markCount := by
  refine exec_filter (R := fun t u => t.pending = u.pending ∧ t.markCount = u.markCount) ?_ ?_ ⟨rfl, rfl⟩ calls
  · rintro t u c ⟨hp, hm⟩ -
    cases c <;> simp [step, mark, take, takeDispatch, hp, hm, TrackerAnswer.unread?]
  · rintro t u c ⟨hp, hm⟩ hc
    cases c <;> simp [isTakeDispatch] at hc
    exact ⟨rfl, hp, hm⟩

/-- Taking the unread samples, or looking at them, does not show in the run request. -/
theorem exec_without_take (t : UpdateTracker) (calls : List TrackerCall) :
    (t.exec calls).1.filterMap TrackerAnswer.requested? =
        (t.exec (calls.filter fun c => !(c.isTake || c.isPeek))).1.filterMap TrackerAnswer.requested? ∧
      (t.exec calls).2.dispatchRequested = (t.exec (calls.filter fun c => !(c.isTake || c.isPeek))).2.dispatchRequested ∧
      (t.exec calls).2.markCount = (t.exec (calls.filter fun c => !(c.isTake || c.isPeek))).2.markCount := by
  refine exec_filter (R := fun t u => t.dispatchRequested = u.dispatchRequested ∧ t.markCount = u.markCount) ?_ ?_
    ⟨rfl, rfl⟩ calls
  · rintro t u c ⟨hd, hm⟩ -
    cases c <;> simp [step, mark, take, takeDispatch, hd, hm, TrackerAnswer.requested?]
  · rintro t u c ⟨hd, hm⟩ hc
    cases c <;> simp [isTake, isPeek] at hc
    · exact ⟨rfl, hd, hm⟩
    · exact ⟨rfl, hd, hm⟩

/-- Marking no sensor does not show at all. -/
theorem exec_without_idle {α : Type} {see : TrackerAnswer → Option α} (hsee : see .none = none) (t : UpdateTracker)
    (calls : List TrackerCall) :
    (t.exec calls).1.filterMap see = (t.exec (calls.filter fun c => !c.isIdle)).1.filterMap see ∧
      (t.exec calls).2 = (t.exec (calls.filter fun c => !c.isIdle)).2 := by
  refine exec_filter (R := Eq) ?_ ?_ rfl calls
  · rintro t _ c rfl -
    exact ⟨rfl, rfl⟩
  · rintro t _ c rfl hc
    cases c <;> simp [isIdle] at hc
    exact ⟨hsee, markMask_of_no_sensor (SensorMask.isEmpty_iff.mp hc) t⟩

/-- What the calls of a new tracker answer, whoever makes them and in whatever order; `calls`
    are those made so far, and `later` any that follow.
    (1) A take answers the sensors marked since the take before it, and so does a look.
    (2) The run request answers whether a sensor was marked since it was last taken.
    (3) The count is that of the marks of a sensor, modulo 2³².
    (4) Without the takes of the run request the unread samples are the same, at every take
        and look and in the end, and without the takes and looks the run request is; the
        count is the same in either case.
    (5) Without the marks of no sensor everything is the same. -/
theorem calls_told_by_history (calls later : List TrackerCall) :
    let exec := empty.exec
    let answer (c : TrackerCall) := (exec (calls ++ c :: later)).1[calls.length]?
    let unasked := calls.filter fun c => !c.isTakeDispatch
    let untaken := calls.filter fun c => !(c.isTake || c.isPeek)
    let telling := calls.filter fun c => !c.isIdle
    (answer .take = some (.unread (unread calls)) ∧ answer .peek = some (.unread (unread calls))) ∧
    answer .takeDispatch = some (.requested (requested calls)) ∧
    (exec calls).2.markCount.toNat = arrivals calls % UInt32.size ∧
    (((exec calls).1.filterMap TrackerAnswer.unread? = (exec unasked).1.filterMap TrackerAnswer.unread? ∧
        (exec calls).2.pending = (exec unasked).2.pending ∧ (exec calls).2.markCount = (exec unasked).2.markCount) ∧
      (exec calls).1.filterMap TrackerAnswer.requested? = (exec untaken).1.filterMap TrackerAnswer.requested? ∧
        (exec calls).2.dispatchRequested = (exec untaken).2.dispatchRequested ∧
          (exec calls).2.markCount = (exec untaken).2.markCount) ∧
    ((exec calls).1.filterMap TrackerAnswer.unread? = (exec telling).1.filterMap TrackerAnswer.unread? ∧
      (exec calls).1.filterMap TrackerAnswer.requested? = (exec telling).1.filterMap TrackerAnswer.requested? ∧
      (exec calls).2 = (exec telling).2) := by
  intro exec answer unasked untaken telling
  have hr : Remembers calls (exec calls).2 := remembers_empty.exec calls
  have hanswer : ∀ c, answer c = some ((exec calls).2.step c).1 := empty.getElem?_exec calls later
  refine ⟨⟨?_, ?_⟩, ?_, ?_, ⟨exec_without_takeDispatch empty calls, exec_without_take empty calls⟩, ?_, ?_⟩
  · rw [hanswer, ← hr.pending]
    rfl
  · rw [hanswer, ← hr.pending]
    rfl
  · rw [hanswer, ← hr.dispatchRequested]
    rfl
  · rw [hr.markCount]
    exact UInt32.toNat_ofNat
  · exact (exec_without_idle rfl empty calls).1
  · exact exec_without_idle rfl empty calls

end UpdateTracker

end SensorFusion
