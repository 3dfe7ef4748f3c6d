import Interrupts.Board.Hardware

/-! # Scheduled refusals

Any board can be given refusals in advance. A refusal waits for calls of one
name, lets some of them pass, and then refuses one without telling the board. Of
several refusals that wait for the same name only the first counts calls. Calls
that cannot be refused are not affected.
-/

namespace Interrupts

/-- A refusal of the call `name` that comes after `after` others. -/
structure Refusal where
  name : String
  after : Nat
  fault : Fault
deriving DecidableEq

/-- A board together with the refusals that still wait. -/
structure Faulty (β : Type) where
  board : β
  waiting : List Refusal

namespace Refusal

/-- What the waiting refusals do to a call of the given name: the fault, if it is
refused, and the refusals that wait afterwards. -/
def meet (name : String) : List Refusal → Option Fault × List Refusal
  | [] => (none, [])
  | refusal :: rest =>
      if refusal.name = name then
        match refusal.after with
        | 0 => (some refusal.fault, rest)
        | after + 1 => (none, { refusal with after } :: rest)
      else
        let (fault, left) := meet name rest
        (fault, refusal :: left)

end Refusal

/-- The name of a call that can be refused, with the answer that refuses it. -/
def Call.refusable? : (call : Call) → Option (String × (Fault → call.Answer))
  | .controller (.enable n) => some (ControllerCall.name (.enable n), .error)
  | .controller (.disable n) => some (ControllerCall.name (.disable n), .error)
  | .controller (.clearPending n) => some (ControllerCall.name (.clearPending n), .error)
  | .controller (.setPriority n p) => some (ControllerCall.name (.setPriority n p), .error)
  | .lines (.setInput line) => some (LineCall.name (.setInput line), .error)
  | .lines (.configureTrigger line t) => some (LineCall.name (.configureTrigger line t), .error)
  | .lines (.setEnabled line on) => some (LineCall.name (.setEnabled line on), .error)
  | .clock (.arm alarm deadline) => some (ClockCall.name (.arm alarm deadline), .error)
  | .clock (.disarm alarm) => some (ClockCall.name (.disarm alarm), .error)
  | _ => none

namespace Faulty

variable {β : Type}

def fresh (board : β) : Faulty β := ⟨board, []⟩

def respond (hardware : Hardware β) (call : Call) (faulty : Faulty β) :
    call.Answer × Faulty β × List Transfer :=
  let pass (waiting : List Refusal) : call.Answer × Faulty β × List Transfer :=
    let (answer, board, transfers) := hardware.respond call faulty.board
    (answer, ⟨board, waiting⟩, transfers)
  match call.refusable? with
  | none => pass faulty.waiting
  | some (name, refused) =>
      match Refusal.meet name faulty.waiting with
      | (none, waiting) => pass waiting
      | (some fault, waiting) => (refused fault, { faulty with waiting }, [])

def hardware (hardware : Hardware β) : Hardware (Faulty β) where
  number := hardware.number
  respond := respond hardware

def schedule (faulty : Faulty β) (refusal : Refusal) : Faulty β :=
  { faulty with waiting := faulty.waiting ++ [refusal] }

end Faulty

end Interrupts
