/-
  SensorFusion.Simulation.World — a simulated sensor bus and clock.
-/

import SensorFusion.Environment

namespace SensorFusion.Simulation

structure Bus where
  gyro : Vec3
  accel : Vec3
  mag : Vec3
  position : Fix
  velocity : Vec3
  baro : Float32
  airspeed : Airspeed
  /-- Milliseconds that a read takes. -/
  readTime : UInt64
  /-- Arrivals during every read. -/
  readArrivals : SensorMask

namespace Bus

/-- Zero samples, the airspeed sensor disconnected, reads that cost nothing. -/
def silent : Bus :=
  ⟨.zero, .zero, .zero, ⟨0, 0, 0, 0⟩, .zero, 0, ⟨0, false⟩, 0, .empty⟩

def sample (b : Bus) : (c : SensorClass) → c.Sample
  | .gyro => b.gyro
  | .accel => b.accel
  | .mag => b.mag
  | .position => b.position
  | .velocity => b.velocity
  | .baro => b.baro
  | .airspeed => b.airspeed

end Bus

/-- A bus and a clock. Looking at the clock does not move it; a read takes time on a
    manual clock only. -/
structure World where
  bus : Bus
  clock : Clock
  /-- The sensors read so far. -/
  reads : Array SensorClass

namespace World

def clockAfterRead (w : World) : Clock :=
  match w.clock with
  | .fixed _ => w.clock
  | .manual _ => w.clock.advance w.bus.readTime

instance : Environment World where
  clock w := w.clock.now
  tick w := w
  read c w := ⟨w.bus.sample c, [w.bus.readArrivals], { w with clock := w.clockAfterRead, reads := w.reads.push c }⟩

end World

end SensorFusion.Simulation
