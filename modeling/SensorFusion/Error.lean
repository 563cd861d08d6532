/-
  SensorFusion.Error — why a sample is rejected, how a filter unit fails, and what can
  be wrong with the set-up; with the text of each.
-/

import SensorFusion.Decimal.Layout

namespace SensorFusion

open Decimal (plainText)

inductive SanityError where
  /-- A scalar is not a finite number. -/
  | malformedValue
  /-- The sensor reports itself disconnected. -/
  | sensorDisconnected
  /-- No sane home location has been accepted yet. -/
  | homeNotConfigured
  /-- The all-zero fix of a receiver that has not acquired yet. -/
  | nullFix
  /-- A coordinate outside its domain. -/
  | outOfRange (value min max : Float)

inductive FilterError where
  /-- Updated before a successful start. -/
  | notInitialized
  /-- An input it needs is not valid in this run. -/
  | missingInput
  /-- Its state left the numeric envelope. -/
  | diverged (reason : String)
  /-- Anything else. -/
  | failed (reason : String)
  deriving DecidableEq

inductive EstimationError where
  /-- Not allowed in the scheduler's state. -/
  | invalidState (expected actual : String)
  /-- More filter units than a chain holds. -/
  | tooManyFilters (capacity : Nat)
  /-- No unit can be made for a configured kind. -/
  | unknownFilter (name : String)
  /-- The settings are not acceptable. -/
  | invalidConfig (reason : String)
  deriving DecidableEq

def SanityError.message : SanityError → String
  | malformedValue => "Invalid value: not a finite number"
  | sensorDisconnected => "Sensor not connected"
  | homeNotConfigured => "Home location not configured"
  | nullFix => "Null GPS fix"
  | outOfRange value min max =>
    s!"Value {plainText value} outside range [{plainText min}, {plainText max}]"

def FilterError.message : FilterError → String
  | notInitialized => "Filter unit not initialized"
  | missingInput => "Required input missing"
  | diverged reason => s!"Filter diverged: {reason}"
  | failed reason => s!"Filter failure: {reason}"

def EstimationError.message : EstimationError → String
  | invalidState expected actual => s!"Invalid scheduler state: expected {expected}, found {actual}"
  | tooManyFilters capacity => s!"Filter chain full: capacity {capacity}"
  | unknownFilter name => s!"No constructor for filter unit {name}"
  | invalidConfig reason => s!"Invalid configuration: {reason}"

end SensorFusion
