import Interrupts.Operation.Lines

/-! # Operations on all vectors

The vectors are visited by ascending number; the first refusal ends the visit
and is passed on. Neither the registry nor the trigger of a line changes.
-/

namespace Interrupts.Global

open Routine Guarded

def armAll : List Alarm → Guarded Unit
  | [] => pure ()
  | alarm :: rest => do
      attempt (clock (.arm alarm Alarm.latestDeadline))
      armAll rest

def disarmAll : List Alarm → Guarded Unit
  | [] => pure ()
  | alarm :: rest => do
      attempt (clock (.disarm alarm))
      disarmAll rest

/-- Unmasks a vector, then switches on what it serves: every line that has a
trigger, or both alarms. -/
def enableEntry : Nat × Peripheral → Guarded Unit
  | (n, peripheral) => do
      attempt (controller (.enable n))
      match peripheral with
      | .gpio => do
          let ready ← LineControl.triggered Line.all
          LineControl.switchAll true ready
      | .rtc => armAll Alarm.all
      | .uart _ => pure ()

/-- Clears and masks a vector, then switches off what it serves: every line, or
both alarms. -/
def disableEntry : Nat × Peripheral → Guarded Unit
  | (n, peripheral) => do
      attempt (controller (.clearPending n))
      attempt (controller (.disable n))
      match peripheral with
      | .gpio => LineControl.switchAll false Line.all
      | .rtc => disarmAll Alarm.all
      | .uart _ => pure ()

def visit (act : Nat × Peripheral → Guarded Unit) : List (Nat × Peripheral) → Guarded Unit
  | [] => pure ()
  | entry :: rest => do
      act entry
      visit act rest

def enableAll (vectors : VectorTable) : Guarded Unit :=
  locked do
    visit enableEntry vectors.entries
    note .allEnabled

def disableAll (vectors : VectorTable) : Guarded Unit :=
  locked do
    visit disableEntry vectors.entries
    note .allDisabled

def start (vectors : VectorTable) : Routine Unit :=
  note (.started vectors)

def stop (vectors : VectorTable) : Guarded Unit := do
  visit (fun entry => attempt (controller (.disable entry.1))) vectors.entries
  note .stopped

end Interrupts.Global
