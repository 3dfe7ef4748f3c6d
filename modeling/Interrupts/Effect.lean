import Interrupts.Call
import Interrupts.Notice
import Interrupts.Program
import Interrupts.Table.Lines
import Interrupts.Table.Registry

/-! # Effects

Everything that code of the interrupt layer can do: mask and unmask interrupts,
take and give back the lock of the tables, read and write the tables, call the
board, write to the log, and invoke a callback. A `Routine` is a program of such
effects; a `Guarded` routine can also end with a fault.

`critical`, with its failing form `locked`, is the only way in which the operations
of this library touch the tables: interrupts are masked before the lock is taken
and restored after it is given back, whether the body fails or not.
-/

namespace Interrupts

inductive Effect where
  /-- Masks interrupts one level deeper; the answer is the depth before. -/
  | mask
  | restore (depth : Nat)
  | acquire
  | release
  | find (source : Source)
  /-- The answer is the callback that was replaced. -/
  | install (source : Source) (callback : Callback)
  /-- The answer is the callback that was taken out; without one it is a refusal. -/
  | erase (source : Source)
  | readLine (line : Line)
  | writeLine (line : Line) (setting : LineSetting)
  | call (call : Call)
  | note (notice : Notice)
  /-- Tells the callback of `source` of the event `index`. -/
  | invoke (source : Source) (callback : Callback) (index : Nat)
deriving DecidableEq

namespace Effect

@[reducible] def Answer : Effect → Type
  | mask => Nat
  | find _ | install _ _ => Option Callback
  | erase _ => Except Fault Callback
  | readLine _ => LineSetting
  | call c => c.Answer
  | restore _ | acquire | release | writeLine _ _ | note _ | invoke _ _ _ => Unit

end Effect

abbrev Routine := Program Effect Effect.Answer

/-- A routine that can end with a fault. -/
abbrev Guarded := ExceptT Fault Routine

namespace Routine

def perform (effect : Effect) : Routine effect.Answer := Program.request effect

def controller (c : ControllerCall) : Routine c.Answer := perform (.call (.controller c))

def lines (c : LineCall) : Routine c.Answer := perform (.call (.lines c))

def clock (c : ClockCall) : Routine c.Answer := perform (.call (.clock c))

def serial (channel : Channel) (c : SerialCall) : Routine c.Answer :=
  perform (.call (.serial channel c))

def note (notice : Notice) : Routine Unit := perform (.note notice)

def find (source : Source) : Routine (Option Callback) := perform (.find source)

/-- Runs `body` with interrupts masked and the tables locked. -/
def critical {α : Type} (body : Routine α) : Routine α := do
  let depth ← perform .mask
  perform .acquire
  let result ← body
  perform .release
  perform (.restore depth)
  return result

end Routine

namespace Guarded

variable {α : Type}

/-- Goes on with the value that `routine` ends with; a fault ends the whole program. -/
def attempt (routine : Routine (Except Fault α)) : Guarded α := ExceptT.mk routine

/-- Goes on with whatever `routine` ends with, a refusal included. -/
def observe (routine : Routine α) : Guarded α := ExceptT.lift routine

/-- Goes on with the value of a result observed earlier; a fault ends the whole program. -/
def conclude (result : Except Fault α) : Guarded α := ExceptT.mk (pure result)

/-- A critical section that can fail; the tables are unlocked before the fault is passed on. -/
def locked (body : Guarded α) : Guarded α := ExceptT.mk (Routine.critical body.run)

/-- The source that a name means; a name out of range is noted and refused. -/
def resolve (name : SourceName) : Guarded Source :=
  match name.resolve with
  | .ok source => pure source
  | .error fault => do
      Routine.note (.outOfRange name)
      throw fault

theorem run_locked (body : Guarded α) : (locked body).run = Routine.critical body.run := rfl

theorem resolve_of_ok {name : SourceName} {source : Source} (h : name.resolve = .ok source) :
    resolve name = pure source := by
  simp [resolve, h]

theorem run_resolve_of_error {name : SourceName} {fault : Fault}
    (h : name.resolve = .error fault) :
    (resolve name).run = (fun _ => .error fault) <$> Routine.note (.outOfRange name) := by
  simp only [resolve, h]
  rfl

end Guarded

end Interrupts
