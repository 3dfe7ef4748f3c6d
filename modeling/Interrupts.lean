import Interrupts.Proofs.Delivery.AtMostOnce
import Interrupts.Proofs.Delivery.ClockArrivals
import Interrupts.Proofs.Delivery.ClockPreemption
import Interrupts.Proofs.Delivery.Lines
import Interrupts.Proofs.Delivery.Routing
import Interrupts.Proofs.Delivery.SerialGates
import Interrupts.Proofs.Global.Stops
import Interrupts.Proofs.Independence.Sources
import Interrupts.Proofs.Lines.Agreement
import Interrupts.Proofs.Lines.Transaction
import Interrupts.Proofs.Lines.Triggers
import Interrupts.Proofs.Lines.Usable
import Interrupts.Proofs.Lines.Window
import Interrupts.Proofs.Locking.Discipline
import Interrupts.Proofs.Registration.Refused
import Interrupts.Proofs.Removal.Law
import Interrupts.Proofs.Simulated.Signal
import Interrupts.Proofs.Switching.Armed
import Interrupts.Proofs.Switching.Refused
import Interrupts.Proofs.Switching.StaysOff
import Interrupts.Proofs.Sync.MaskingLock
import Interrupts.Proofs.Sync.SpinLock
import Interrupts.Proofs.Tables.Registry
import Interrupts.Proofs.Tables.Vectors
import Interrupts.Proofs.Vectors.Registers
import Interrupts.Proofs.Word.Scan
import Interrupts.Run.FaultyRig
import Interrupts.Run.Max32660Rig
import Interrupts.Run.SimulatedRig
import Interrupts.Serial
import Interrupts.Sync.MaskingLock
import Interrupts.Sync.SpinLock
