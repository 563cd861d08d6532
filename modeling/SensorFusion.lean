import SensorFusion.Chain.Builder
import SensorFusion.Log
import SensorFusion.Persistent
import SensorFusion.Simulation.Rehearsal
import SensorFusion.Simulation.Unit
import SensorFusion.Simulation.World
import SensorFusion.Version
import SensorFusion.Proofs.Execution
import SensorFusion.Proofs.Poll
import SensorFusion.Proofs.Arrivals
import SensorFusion.Proofs.Lifecycle
import SensorFusion.Proofs.Wakeup
import SensorFusion.Proofs.Isolation
import SensorFusion.Proofs.Deadline
import SensorFusion.Proofs.Stall
import SensorFusion.Proofs.Warning
import SensorFusion.Proofs.Straddle
import SensorFusion.Proofs.Screening
import SensorFusion.Proofs.Accounting
import SensorFusion.Proofs.Refusal
import SensorFusion.Proofs.Horizon
import SensorFusion.Proofs.HomeHistory
import SensorFusion.Proofs.Positions
import SensorFusion.Proofs.Spacing
import SensorFusion.Proofs.AlarmHistory
import SensorFusion.Proofs.RunLoop
import SensorFusion.Proofs.Bookkeeping
import SensorFusion.Proofs.Acceptance
import SensorFusion.Proofs.Assembly
import SensorFusion.Proofs.Capacity
import SensorFusion.Proofs.FailSoft
import SensorFusion.Proofs.SaneHomes
import SensorFusion.Proofs.ChainHistory
import SensorFusion.Proofs.Channels
import SensorFusion.Proofs.Validation
import SensorFusion.Proofs.Notifications
import SensorFusion.Proofs.JsonText
import SensorFusion.Proofs.RoundTrip
