/-
  SensorFusion.Environment — what the estimator finds around it: a clock, and a bus
  that holds the latest sample of every sensor.

  Looking at the clock and reading a sensor may change the environment, and samples may
  arrive while a sensor is read; both are part of what an environment says.
-/

import SensorFusion.Clock
import SensorFusion.Sensor.Mask
import SensorFusion.Sensor.Sample

namespace SensorFusion

structure Reading (c : SensorClass) (ε : Type) where
  sample : c.Sample
  /-- Arrivals during the read, in order. -/
  arrivals : List SensorMask
  after : ε

class Environment (ε : Type) where
  /-- The time the clock shows. -/
  clock : ε → Timestamp
  /-- The environment after a look at the clock. -/
  tick : ε → ε
  /-- Read the latest sample of a sensor. -/
  read : (c : SensorClass) → ε → Reading c ε

structure Sweep (ε : Type) where
  samples : List Sampled
  /-- Arrivals during the reads, in order. -/
  arrivals : List SensorMask
  after : ε

namespace Sweep

variable {ε : Type} [Environment ε]

def read : List SensorClass → ε → Sweep ε
  | [], e => ⟨[], [], e⟩
  | c :: cs, e =>
    let r := Environment.read c e
    let rest := read cs r.after
    ⟨⟨c, r.sample⟩ :: rest.samples, r.arrivals ++ rest.arrivals, rest.after⟩

theorem map_sensor_read (cs : List SensorClass) (e : ε) : (read cs e).samples.map Sampled.sensor = cs := by
  induction cs generalizing e with
  | nil => rfl
  | cons c cs ih => simp [read, ih]

/-- What reading sensors in order makes of the environment: the left fold of the reads. -/
def left (cs : List SensorClass) (e : ε) : ε := cs.foldl (fun e c => (Environment.read c e).after) e

/-- What arrives during each read, made in what the reads before it left of the environment. -/
def brought (cs : List SensorClass) (e : ε) : List (List SensorMask) :=
  cs.mapIdx fun i c => (Environment.read c (left (cs.take i) e)).arrivals

theorem brought_cons (c : SensorClass) (cs : List SensorClass) (e : ε) :
    brought (c :: cs) e = (Environment.read c e).arrivals :: brought cs (Environment.read c e).after := by
  rw [brought, List.mapIdx_cons]
  rfl

theorem after_read (cs : List SensorClass) (e : ε) : (read cs e).after = left cs e := by
  induction cs generalizing e with
  | nil => rfl
  | cons c cs ih => exact ih _

/-- Nothing arrives in a sweep but what its reads bring, and nothing of that is lost. -/
theorem arrivals_read (cs : List SensorClass) (e : ε) : (read cs e).arrivals = (brought cs e).flatten := by
  induction cs generalizing e with
  | nil => rfl
  | cons c cs ih =>
    rw [brought_cons, List.flatten_cons, ← ih]
    rfl

end Sweep

end SensorFusion
