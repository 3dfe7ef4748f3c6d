import Interrupts.Board.Registers

/-! # Clock of the MAX32660

The clock accepts writes only while its busy flag is clear, and writes to its
alarm registers only while the write-enable bit is set. Every change is bracketed:
write access is opened once the clock is ready, and closed again whatever happens
in between.
-/

namespace Interrupts.Max32660.Clock

def base : Nat := 0x40006000

def timeOfDayAlarm : Nat := base + 0x08
def subSecondAlarm : Nat := base + 0x0C
def control : Nat := base + 0x10

/-- Reads of the busy flag before the clock is given up. -/
def patience : Nat := 10000

def deadlineRegister : Alarm → Nat
  | .timeOfDay => timeOfDayAlarm
  | .subSecond => subSecondAlarm

def awaitReadyWithin : (reads : Nat) → Driver (Except Fault Unit)
  | 0 => return .error .busy
  | reads + 1 => do
      let value ← Driver.read control
      if value.covers ClockControl.busy then awaitReadyWithin reads else return .ok ()

def awaitReady : ExceptT Fault Driver Unit := ExceptT.mk (awaitReadyWithin patience)

/-- Runs `body` on the control word with write access open. The clock is awaited
before and after access is opened; access is closed also when the second wait or
the body fails. -/
def withWriteAccess (body : Word → ExceptT Fault Driver Unit) : ExceptT Fault Driver Unit := do
  awaitReady
  Driver.modify control ClockControl.writeEnable true
  let result ← ExceptT.lift (ExceptT.run do
    awaitReady
    body (← Driver.read control))
  Driver.modify control ClockControl.writeEnable false
  ExceptT.mk (pure result)

/-- Programs an alarm. The deadline is written while the alarm is off, because
alarm registers take a value only then. -/
def arm (alarm : Alarm) (deadline : Word) : ExceptT Fault Driver Unit :=
  withWriteAccess fun value => do
    Driver.write control (value.without alarm.enableBit)
    awaitReady
    Driver.write (deadlineRegister alarm) deadline
    awaitReady
    Driver.modify control alarm.enableBit true

def disarm (alarm : Alarm) : ExceptT Fault Driver Unit :=
  withWriteAccess fun value => do
    Driver.write control (value.without alarm.enableBit)

def drive (call : ClockCall) : Driver call.Answer :=
  match call with
  | .readControl => Driver.read control
  | .clearControl mask => Driver.modify control mask false
  | .arm alarm deadline => (arm alarm deadline).run
  | .disarm alarm => (disarm alarm).run

end Interrupts.Max32660.Clock
