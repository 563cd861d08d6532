/-
  SensorFusion.Simulation.Rehearsal — a scripted environment for the run loop. The
  clock moves on by itself with every look at it, and after enough looks or enough runs
  the loop is asked to stop; so the loop ends although parking takes no time.
-/

import SensorFusion.RunLoop
import SensorFusion.Simulation.World

namespace SensorFusion.Simulation

structure Rehearsal where
  bus : Bus
  now : Timestamp
  /-- Milliseconds that pass with each look at the clock. -/
  pace : UInt64
  /-- Looks at the clock so far. -/
  looks : Nat
  /-- Looks at the clock after which the loop is to stop. -/
  maxLooks : Nat
  /-- Runs so far. -/
  runs : Nat
  /-- Runs after which the loop is to stop. -/
  stopAfter : Nat
  /-- The classes that arrive after each run, from the next one on. -/
  arrivals : List (List SensorClass)
  stop : Bool
  /-- The sensors read so far. -/
  reads : Array SensorClass

namespace Rehearsal

def look (r : Rehearsal) : Rehearsal :=
  { r with
    now := r.now.later r.pace
    looks := r.looks + 1
    stop := r.stop || r.maxLooks ≤ r.looks + 1 }

def noteRun (r : Rehearsal) : Interlude Rehearsal :=
  ⟨(r.arrivals.headD []).map SensorClass.bit,
    { r with
      runs := r.runs + 1
      arrivals := r.arrivals.tail
      stop := r.stop || r.stopAfter ≤ r.runs + 1 }⟩

instance : Supervised Rehearsal where
  clock := now
  tick := look
  read c r := ⟨r.bus.sample c, [], { r with reads := r.reads.push c }⟩
  stopRequested := stop
  onRun _ r := r.noteRun
  park _ r := ⟨[], r⟩

/-- Run the loop to its end: every turn looks at the clock at least once. -/
def runToEnd {υ : Type} [FilterUnit υ] (x : Estimator Rehearsal υ) : Estimator.LoopResult Rehearsal υ :=
  x.runUntil (x.env.maxLooks + 1)

end Rehearsal

end SensorFusion.Simulation
