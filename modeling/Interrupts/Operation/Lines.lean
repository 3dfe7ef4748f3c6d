import Interrupts.Effect

/-! # Operations on a line

Each operation changes the bank of lines first and the line table only once the
bank has accepted the change, so a refused change leaves the table as it was.
-/

namespace Interrupts.LineControl

open Routine Guarded

/-- Gives `line` a new trigger. The line raises no interrupt while its trigger
changes: its enable bit is remembered and cleared, stale status is discarded, the
trigger is programmed, and the enable bit is restored as remembered, also when the
programming was refused. Of two refusals that of the programming counts. -/
def retrigger (line : Line) (trigger : Trigger) : Guarded Unit := do
  let wasEnabled ← lines (.isEnabled line)
  if wasEnabled then
    attempt (lines (.setEnabled line false))
  lines (.clearStatus line.mask)
  let programmed ← observe (lines (.configureTrigger line trigger))
  let restored ← observe (if wasEnabled then lines (.setEnabled line true) else pure (.ok ()))
  conclude programmed
  conclude restored
  perform (.writeLine line ⟨some trigger, wasEnabled⟩)

/-- Turns `line` on or off at its bank, then in the table. Its trigger stays. -/
def switch (line : Line) (on : Bool) : Guarded Unit := do
  attempt (lines (.setEnabled line on))
  let setting ← perform (.readLine line)
  perform (.writeLine line { setting with enabled := on })

def switchAll (on : Bool) : List Line → Guarded Unit
  | [] => pure ()
  | line :: rest => do
      switch line on
      switchAll on rest

def triggered : List Line → Routine (List Line)
  | [] => pure []
  | line :: rest => do
      let setting ← perform (.readLine line)
      let others ← triggered rest
      return if setting.trigger.isSome then line :: others else others

end Interrupts.LineControl
