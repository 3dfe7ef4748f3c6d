import Interrupts.Operation.Delivery
import Interrupts.Operation.Global
import Interrupts.Operation.Switching
import Interrupts.Recording

/-! # Operations

All that a user of the library can ask of it, as one type, so that a history of
use is a list of operations. `Operation.routine` gives each its meaning.
-/

namespace Interrupts

inductive Operation where
  | register (source : SourceName) (callback : Callback)
  | unregister (source : SourceName)
  | release (line : UInt8)
  | enable (source : SourceName)
  | disable (source : SourceName)
  | retrigger (line : UInt8) (trigger : Trigger)
  | prioritise (source : SourceName) (priority : Priority)
  | enableAll
  | disableAll
  | isRegistered (source : SourceName)
  | lineSetting (line : UInt8)
  | handle (vector : Nat)
  | dispatch (peripheral : Peripheral)
deriving DecidableEq

/-- What an operation, a call or a look at the tables ends with. -/
inductive Outcome where
  | done
  | refused (fault : Fault)
  | truth (value : Bool)
  | number (value : Nat)
  | line (setting : LineSetting)
  | vectors (table : VectorTable)
  | recording (recording : Recording)
deriving DecidableEq

namespace Outcome

def ofResult : Except Fault Unit → Outcome
  | .ok () => done
  | .error fault => refused fault

theorem ofResult_eq_done {result : Except Fault Unit} :
    ofResult result = done ↔ result = .ok () := by
  cases result <;> simp [ofResult]

theorem ofResult_eq_refused {result : Except Fault Unit} {fault : Fault} :
    ofResult result = refused fault ↔ result = .error fault := by
  cases result <;> simp [ofResult]

def ofLine : Except Fault LineSetting → Outcome
  | .ok setting => line setting
  | .error fault => refused fault

def ofAnswer : (call : Call) → call.Answer → Outcome
  | .controller (.enable _), reply => ofResult reply
  | .controller (.disable _), reply => ofResult reply
  | .controller (.isPending _), reply => truth reply
  | .controller (.clearPending _), reply => ofResult reply
  | .controller (.setPriority _ _), reply => ofResult reply
  | .controller (.priority _), reply => number reply.toNat
  | .lines (.setInput _), reply => ofResult reply
  | .lines (.configureTrigger _ _), reply => ofResult reply
  | .lines (.setEnabled _ _), reply => ofResult reply
  | .lines (.isEnabled _), reply => truth reply
  | .lines .readStatus, reply => number reply.toNat
  | .lines (.clearStatus _), () => done
  | .clock .readControl, reply => number reply.toNat
  | .clock (.clearControl _), () => done
  | .clock (.arm _ _), reply => ofResult reply
  | .clock (.disarm _), reply => ofResult reply
  | .serial _ .readFlags, reply => number reply.toNat
  | .serial _ (.clearFlags _), () => done
  | .serial _ .readEnabled, reply => number reply.toNat

end Outcome

namespace Operation

/-- The meaning of an operation on a board with the given vectors. -/
def routine (vectors : VectorTable) : Operation → Routine Outcome
  | register source callback =>
      Outcome.ofResult <$> (Registration.register vectors source callback).run
  | unregister source => Outcome.ofResult <$> (Registration.unregister vectors source).run
  | release line => Outcome.ofResult <$> (Registration.release vectors line).run
  | enable source => Outcome.ofResult <$> (Switching.enable vectors source).run
  | disable source => Outcome.ofResult <$> (Switching.disable vectors source).run
  | retrigger line trigger => Outcome.ofResult <$> (Switching.retrigger line trigger).run
  | prioritise source priority =>
      Outcome.ofResult <$> (Switching.prioritise vectors source priority).run
  | enableAll => Outcome.ofResult <$> (Global.enableAll vectors).run
  | disableAll => Outcome.ofResult <$> (Global.disableAll vectors).run
  | isRegistered source => Outcome.truth <$> Registration.isRegistered source
  | lineSetting line => Outcome.ofLine <$> (Switching.lineSetting line).run
  | handle vector => (fun _ => Outcome.done) <$> Delivery.handle vectors vector
  | dispatch peripheral => (fun _ => Outcome.done) <$> Delivery.dispatch peripheral

end Operation

end Interrupts
