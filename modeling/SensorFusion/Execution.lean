/-
  SensorFusion.Execution — whole executions of an estimator: any order of arrivals,
  announcements, changes of the environment and polls.
-/

import SensorFusion.Estimator

namespace SensorFusion

inductive Op (ε : Type) where
  | mark (c : SensorClass)
  | markMask (m : SensorMask)
  | start (home : Option HomeLocation)
  | changeHome (home : HomeLocation)
  | applySettings (settings : EstimationSettings)
  /-- The clock moves, or the bus gets new samples. -/
  | environment (change : ε → ε)
  | poll

inductive Answer where
  | none
  | started (result : Except EstimationError ChainReport)
  | homeChanged (result : Except SanityError HomeReference)
  | settingsApplied (result : Except EstimationError Unit)
  /-- The report of the run, if the poll made one. -/
  | polled (result : Option RunReport)

namespace Estimator

variable {ε υ : Type} [Environment ε] [FilterUnit υ]

def step (x : Estimator ε υ) : Op ε → Answer × Estimator ε υ
  | .mark c => (.none, { x with tracker := x.tracker.mark c })
  | .markMask m => (.none, { x with tracker := x.tracker.markMask m })
  | .start home => let r := x.start home; (.started r.1, r.2)
  | .changeHome home =>
    let r := x.scheduler.changeHome home
    (.homeChanged r.1, { x with scheduler := r.2 })
  | .applySettings settings =>
    let r := x.scheduler.applySettings settings
    (.settingsApplied r.1, { x with scheduler := r.2 })
  | .environment change => (.none, { x with env := change x.env })
  | .poll => let r := x.poll; (.polled r.1, r.2)

def exec (x : Estimator ε υ) : List (Op ε) → List Answer × Estimator ε υ
  | [] => ([], x)
  | op :: ops =>
    let r := x.step op
    let rest := r.2.exec ops
    (r.1 :: rest.1, rest.2)

end Estimator

end SensorFusion
