import Interrupts.Operation.Registration

/-! # Switching sources

Enabling and disabling one source, giving a line another trigger, and setting
the priority of a vector. None of these changes the registry.
-/

namespace Interrupts.Switching

open Routine Guarded

def registeredAlarm : Guarded AlarmSetting := do
  match (← find .rtc).bind (·.setting.alarm?) with
  | some alarm => pure alarm
  | none => do
      note .noAlarm
      throw .invalidArgument

/-- What enabling does at the source itself: a line is switched on, the alarm of
the clock is armed, a serial channel needs nothing. -/
def switchOn : Source → Guarded Unit
  | .gpio line => LineControl.switch line true
  | .rtc => do
      let alarm ← registeredAlarm
      attempt (clock (.arm alarm.alarm alarm.deadline))
  | .uart _ => pure ()

/-- Switches a source on, then unmasks its vector. -/
def enable (vectors : VectorTable) (name : SourceName) : Guarded Unit := do
  let source ← resolve name
  locked do
    switchOn source
    attempt (controller (.enable (vectors.number source.peripheral)))
    note (.enabled name)

def disable (vectors : VectorTable) (name : SourceName) : Guarded Unit := do
  let source ← resolve name
  locked do
    let entry ← find source
    Registration.switchOff vectors source (entry.map (·.setting))
    note (.disabled name)

def retrigger (index : UInt8) (trigger : Trigger) : Guarded Unit := do
  match ← resolve (.gpio index) with
  | .gpio line => do
      locked (LineControl.retrigger line trigger)
      note (.retriggered line trigger)
  | _ => throw .invalidArgument

def prioritise (vectors : VectorTable) (name : SourceName) (priority : Priority) :
    Guarded Unit := do
  let source ← resolve name
  attempt (controller (.setPriority (vectors.number source.peripheral) priority))

/-- The stored state of a line. An index out of range is refused without a notice. -/
def lineSetting (index : UInt8) : Guarded LineSetting :=
  match Line.ofNat? index.toNat with
  | some line => observe (critical (perform (.readLine line)))
  | none => throw .invalidArgument

end Interrupts.Switching
