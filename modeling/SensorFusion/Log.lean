/-
  SensorFusion.Log — what the estimator tells about its work: each entry is a cause,
  with a level and a text. The entries of an operation follow from what it was applied
  to and what it answered.
-/

import SensorFusion.Execution

namespace SensorFusion

open Decimal (plainText plainText32)

inductive LogLevel where
  | trace
  | debug
  | info
  | warn
  deriving DecidableEq

def LogLevel.name : LogLevel → String
  | trace => "trace"
  | debug => "debug"
  | info => "info"
  | warn => "warn"

inductive LogEntry where
  | homeAccepted (home : HomeLocation)
  | homeRejected (reason : SanityError)
  | unitNotStarted (failure : UnitFailure)
  | started (units failures : Nat) (timeout : UInt32)
  | sampleDropped (rejection : Rejection)
  | unitFailed (failure : UnitFailure)
  | inputStale (timeout : UInt32)
  | inputResumed
  | ran (report : RunReport)

namespace Trigger

def name : Trigger → String
  | sensorUpdate => "SensorUpdate"
  | timeout => "Timeout"

end Trigger

namespace SensorMask

def hex (m : SensorMask) : String :=
  let ds := Nat.toDigits 16 m.bits.toNat
  "0x" ++ String.ofList (List.replicate (4 - ds.length) '0' ++ ds)

end SensorMask

namespace LogEntry

def level : LogEntry → LogLevel
  | homeAccepted _ => .info
  | homeRejected _ => .warn
  | unitNotStarted _ => .warn
  | started _ _ _ => .info
  | sampleDropped _ => .debug
  | unitFailed _ => .debug
  | inputStale _ => .warn
  | inputResumed => .info
  | ran _ => .trace

def message : LogEntry → String
  | homeAccepted h =>
    s!"home location accepted: lat {plainText h.latitude} lon {plainText h.longitude} alt {plainText32 h.altitude}"
  | homeRejected e => s!"home location rejected ({e.message}), keeping previous reference"
  | unitNotStarted f => s!"filter unit {f.name} failed to initialize: {f.error.message}"
  | started units failures timeout =>
    s!"estimation started: {units} filter units, {failures} init failures, timeout {timeout} ms"
  | sampleDropped r => s!"dropped {r.sensor.name} update: {r.reason.message}"
  | unitFailed f => s!"filter unit {f.name} failed: {f.error.message}"
  | inputStale timeout => s!"no sensor update within {timeout} ms"
  | inputResumed => "sensor updates resumed"
  | ran r =>
    s!"run {r.trigger.name}: consumed {r.consumed.hex} accepted {r.accepted.hex} next deadline {r.nextDeadline}"

/-! ## The entries of an operation -/

def ofHome (home : HomeLocation) : LogEntry :=
  match HomeReference.ofHome home with
  | .ok _ => homeAccepted home
  | .error e => homeRejected e

def ofChainStart (r : ChainReport) : List LogEntry := r.failures.map unitNotStarted

def ofChainRun (r : ChainReport) : List LogEntry := r.failures.map unitFailed

def ofRejections (rs : List Rejection) : List LogEntry := rs.map sampleDropped

def ofLevel {υ : Type} (before : Scheduler υ) (level : AlarmLevel) : List LogEntry :=
  if before.alarm.changesTo level then
    match level with
    | .warning => [inputStale before.timeout]
    | .clear => [inputResumed]
  else []

def ofRun {υ : Type} (before : Scheduler υ) (r : RunReport) : List LogEntry :=
  ofRejections r.rejections ++ ofChainRun r.chain ++ ofLevel before r.alarm ++ [ran r]

def ofRuns {υ : Type} (before : Scheduler υ) : List RunReport → List LogEntry
  | [] => []
  | r :: rs => ofRun before r ++ ofRuns { before with alarm := before.alarm.update r.alarm } rs

/-- A scheduler is started; a refused start tells nothing. -/
def ofStart {υ : Type} (before : Scheduler υ) (home : Option HomeLocation) :
    Except EstimationError ChainReport → List LogEntry
  | .error _ => []
  | .ok r =>
    home.toList.map ofHome ++ ofChainStart r ++ [started before.chain.length r.failures.length before.timeout]

def ofStep {ε υ : Type} (before : Estimator ε υ) : Op ε → Answer → List LogEntry
  | .start home, .started result => ofStart before.scheduler home result
  | .changeHome home, _ => [ofHome home]
  | .poll, .polled (some report) => ofRun before.scheduler report
  | _, _ => []

end LogEntry

end SensorFusion
