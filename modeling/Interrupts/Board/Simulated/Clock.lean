import Interrupts.Call

/-! # Simulated clock

A control register and a deadline for each alarm. A test can set any control bit,
have further bits dropped by the next clear, and make the clock refuse to be
armed. Disarming is never refused.
-/

namespace Interrupts.Simulated

structure Clock where
  control : Word
  timeOfDayDeadline : Word
  subSecondDeadline : Word
  /-- Bits that the next clear drops besides its own. -/
  dropped : Word
  busy : Bool
deriving DecidableEq

namespace Clock

def initial : Clock := ⟨0, 0, 0, 0, false⟩

def set (clock : Clock) (mask : Word) : Clock :=
  { clock with control := clock.control ||| mask }

def dropOnClear (clock : Clock) (mask : Word) : Clock :=
  { clock with dropped := clock.dropped ||| mask }

def setBusy (clock : Clock) (busy : Bool) : Clock := { clock with busy }

def deadline (clock : Clock) : Alarm → Word
  | .timeOfDay => clock.timeOfDayDeadline
  | .subSecond => clock.subSecondDeadline

def setDeadline (clock : Clock) (alarm : Alarm) (deadline : Word) : Clock :=
  match alarm with
  | .timeOfDay => { clock with timeOfDayDeadline := deadline }
  | .subSecond => { clock with subSecondDeadline := deadline }

def isArmed (clock : Clock) (alarm : Alarm) : Bool := clock.control.covers alarm.enableBit

def respond (call : ClockCall) (clock : Clock) : call.Answer × Clock :=
  match call with
  | .readControl => (clock.control, clock)
  | .clearControl mask =>
      ((), { clock with control := clock.control.without (mask ||| clock.dropped), dropped := 0 })
  | .arm alarm deadline =>
      if clock.busy then (.error .busy, clock)
      else (.ok (), (clock.setDeadline alarm deadline).set alarm.enableBit)
  | .disarm alarm =>
      (.ok (), { clock with control := clock.control.without alarm.enableBit })

end Clock

end Interrupts.Simulated
