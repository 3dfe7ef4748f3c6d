import Interrupts.Operation.Lines

/-! # Registering callbacks

A callback is installed last, after every change of hardware that it needs has
been accepted; it is removed last, after its source was switched off. A refused
operation leaves the registry as it was.
-/

namespace Interrupts.Registration

open Routine Guarded

def prepare : Source → Setting → Guarded Unit
  | .gpio line, .gpio trigger => do
      attempt (lines (.setInput line))
      LineControl.retrigger line trigger
  | _, _ => pure ()

/-- Disarms the alarm of the callback to be replaced, unless the new one names the same. -/
def disarmReplaced (setting : Setting) (replaced : Option Callback) : Guarded Unit :=
  match replaced.bind (·.setting.alarm?), setting.alarm? with
  | some old, some new =>
      if old.alarm = new.alarm then pure ()
      else attempt (clock (.disarm old.alarm))
  | _, _ => pure ()

/-- Registers `callback` for a source, in place of any other. The vector of the
source takes the priority of the callback first. -/
def register (vectors : VectorTable) (name : SourceName) (callback : Callback) :
    Guarded Unit := do
  let source ← resolve name
  if callback.setting.fits source then
    locked do
      attempt (controller (.setPriority (vectors.number source.peripheral) callback.priority))
      prepare source callback.setting
      disarmReplaced callback.setting (← find source)
      match ← perform (.install source callback) with
      | some _ => note (.replaced name)
      | none => note (.registered name)
  else
    note (.misfit callback.setting name)
    throw .invalidArgument

/-- Switches `source` off. A line is masked at its bank only, because it shares
its vector; the clock is disarmed, then masked at its vector; a serial channel is
masked at its vector. The clock cannot be switched off without an alarm. -/
def switchOff (vectors : VectorTable) (source : Source) (setting : Option Setting) :
    Guarded Unit :=
  match source with
  | .gpio line => LineControl.switch line false
  | .rtc =>
      match setting.bind Setting.alarm? with
      | some alarm => do
          attempt (clock (.disarm alarm.alarm))
          attempt (controller (.disable (vectors.number .rtc)))
      | none => do
          note .noAlarm
          throw .invalidArgument
  | .uart channel => attempt (controller (.disable (vectors.number (.uart channel))))

def unregister (vectors : VectorTable) (name : SourceName) : Guarded Unit := do
  let source ← resolve name
  locked do
    match ← find source with
    | none => do
        note (.noCallback name)
        throw .invalidArgument
    | some callback => do
        switchOff vectors source (some callback.setting)
        discard (attempt (perform (.erase source)))
        note (.unregistered name)

/-- Like `unregister` for a line, but a line without a callback is no fault. -/
def release (vectors : VectorTable) (index : UInt8) : Guarded Unit := do
  let source ← resolve (.gpio index)
  locked do
    match ← find source with
    | none => pure ()
    | some callback => do
        switchOff vectors source (some callback.setting)
        discard (attempt (perform (.erase source)))
        note (.released index)

def isRegistered (name : SourceName) : Routine Bool :=
  match name.resolve with
  | .ok source => do return (← critical (find source)).isSome
  | .error _ => pure false

end Interrupts.Registration
