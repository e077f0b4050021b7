import Ioniq5Ecan.Supervisor.OutputGate
import Ioniq5Ecan.Supervisor.Latch
import Ioniq5Ecan.Supervisor.LongitudinalLatch
import Ioniq5Ecan.Supervisor.Passing
import Ioniq5Ecan.Supervisor.HealthySession
import Ioniq5Ecan.Supervisor.Observation
import Ioniq5Ecan.Supervisor.ButtonMemory
import Ioniq5Ecan.Supervisor.RecoveryWindow
import Ioniq5Ecan.Supervisor.OutlivedFault
import Ioniq5Ecan.Supervisor.SteeringIndependence
import Ioniq5Ecan.Supervisor.Driving
import Ioniq5Ecan.Supervisor.Withdrawal
import Ioniq5Ecan.Node.Sampling
import Ioniq5Ecan.Node.SampleFreshness
import Ioniq5Ecan.Node.Recovery
import Ioniq5Ecan.Node.Threads
import Ioniq5Ecan.Node.ControlLoop
import Ioniq5Ecan.Node.ControlMoves
import Ioniq5Ecan.Node.ActuationMutex
import Ioniq5Ecan.Node.ExplicitOff
import Ioniq5Ecan.Node.ArmHandshake
import Ioniq5Ecan.Node.RestoreExclusion
import Ioniq5Ecan.Node.Shutdown
import Ioniq5Ecan.Node.SilencedEcu
import Ioniq5Ecan.Firmware.Session
import Ioniq5Ecan.Firmware.SetAfterBrake
import Ioniq5Ecan.Firmware.ButtonEdges
import Ioniq5Ecan.Firmware.ToggleLockstep
import Ioniq5Ecan.Library.Stages
import Ioniq5Ecan.Node.RestoreOutcome
import Ioniq5Ecan.Library.History
import Ioniq5Ecan.Node.InhibitedRearm
import Ioniq5Ecan.Node.TakeoverLicences
import Ioniq5Ecan.Node.IterationPhases
import Ioniq5Ecan.Node.LicensedIteration
import Ioniq5Ecan.Node.MovingTakeover
import Ioniq5Ecan.Library.SeqLock
import Ioniq5Ecan.Node.HealthEpoch
import Ioniq5Ecan.Node.HealthFreshness
import Ioniq5Ecan.Library.Framing
import Ioniq5Ecan.Panda.PacketStream
import Ioniq5Ecan.Panda.SendStream
import Ioniq5Ecan.Node.RawGate
import Ioniq5Ecan.Node.RawPermission
import Ioniq5Ecan.Library.BitFields
import Ioniq5Ecan.Vehicle.Signals
import Ioniq5Ecan.Vehicle.Codec
import Ioniq5Ecan.Vehicle.SccOverlay
import Ioniq5Ecan.Library.DoubleRange
import Ioniq5Ecan.Vehicle.CommandAdapter
import Ioniq5Ecan.Vehicle.DecisionFrames
import Ioniq5Ecan.Firmware.Hooks
import Ioniq5Ecan.Firmware.BlockedSession
import Ioniq5Ecan.Firmware.SessionPermission
import Ioniq5Ecan.Firmware.ModeChanges
import Ioniq5Ecan.Library.TableCrc
import Ioniq5Ecan.Vehicle.StateParser
import Ioniq5Ecan.Vehicle.CanDashboard
import Ioniq5Ecan.Vehicle.DashboardDecoding
import Ioniq5Ecan.Panda.LoggerStream
import Ioniq5Ecan.Vehicle.AdapterRuns
import Ioniq5Ecan.Vehicle.DirectTorque
import Ioniq5Ecan.Vehicle.TorqueSlew
import Ioniq5Ecan.Library.DutyCycle
import Ioniq5Ecan.Vehicle.RequestPattern
import Ioniq5Ecan.Supervisor.Resampling
import Ioniq5Ecan.Supervisor.Consistency
import Ioniq5Ecan.Supervisor.BrakeDrop
import Ioniq5Ecan.Firmware.ColdStart
import Ioniq5Ecan.Vehicle.RefusedFrames
import Ioniq5Ecan.Vehicle.BitCodec
import Ioniq5Ecan.Library.CrcBursts
import Ioniq5Ecan.Vehicle.SignalDecoder
import Ioniq5Ecan.Vehicle.ChecksumBursts
import Ioniq5Ecan.Library.SerialOrder
import Ioniq5Ecan.Node.CommandOrder
import Ioniq5Ecan.Library.Backoff
import Ioniq5Ecan.Node.RetrySchedule
import Ioniq5Ecan.Vehicle.SignalOverlay
import Ioniq5Ecan.Library.Dialogue
import Ioniq5Ecan.Panda.UsbDriver
import Ioniq5Ecan.Panda.UsbSession
import Ioniq5Ecan.Panda.UsbCalls
import Ioniq5Ecan.Node.ControlFrames
import Ioniq5Ecan.Node.EcuPrograms
import Ioniq5Ecan.Node.UdsExchange
import Ioniq5Ecan.Node.EcuSessions
import Ioniq5Ecan.Node.EcuRefinement
import Ioniq5Ecan.Node.VehicleMode
import Ioniq5Ecan.Node.WireDiscipline
import Ioniq5Ecan.Node.ReceivedState
import Ioniq5Ecan.Node.TorquePublishers
import Ioniq5Ecan.Node.WireCounters
import Ioniq5Ecan.Scripts.SteeringSweep
import Ioniq5Ecan.Scripts.SweepMonitor
import Ioniq5Ecan.Scripts.SweepDriving
import Ioniq5Ecan.Scripts.SweepPhases
import Ioniq5Ecan.Scripts.SweepDiagnostics
import Ioniq5Ecan.Scripts.SweepCleanup
