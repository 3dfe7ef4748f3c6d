import Interrupts.Board.Hardware
import Interrupts.Effect
import Interrupts.Operation

/-! # Events of a run

A run is observed by the list of its events: every effect with its answer, the
transfers on the register bus, every adjustment of the board from outside, and
the beginning and the end of each step that a callback takes. How much of it is
written down is a matter of the display.
-/

namespace Interrupts

inductive Event (η : Type) where
  | performed (effect : Effect) (answer : effect.Answer)
  | transferred (transfer : Transfer)
  | adjusted (adjustment : η)
  | began (label : String)
  | ended (outcome : Outcome)

/-- Which events are written down, beside masking, notices, callbacks and transfers. -/
structure Display where
  /-- Calls on the board. -/
  calls : Bool
  lookups : Bool
  outcome : Outcome → String

namespace Event

variable {η : Type}

def isRead : Event η → Bool
  | transferred transfer => transfer.direction = .read
  | _ => false

/-- The written form of an event, if the display shows it. The invocation of a
recorder is never shown. -/
def text? (display : Display) : Event η → Option String
  | performed .mask depth => some s!"mask {depth}"
  | performed (.restore depth) () => some s!"restore {depth}"
  | performed (.find source) _ =>
      if display.lookups then some ("lookup " ++ source.text) else none
  | performed (.call call) answer => if display.calls then some (call.text answer) else none
  | performed (.note notice) () => some ("log " ++ notice.text)
  | performed (.invoke _ callback index) () =>
      match callback.receiver with
      | .routine => some (callback.invocationText index)
      | .recorder _ => none
  | performed _ _ => none
  | transferred transfer => some transfer.text
  | adjusted _ => none
  | began label => some ("do " ++ label)
  | ended outcome => some ("done " ++ display.outcome outcome)

/-- The events that the display shows, in order. Equal reads without another shown
event between them are one entry with their number behind it. -/
def texts (display : Display) (events : List (Event η)) : List String :=
  let shown := events.filterMap fun event =>
    (event.text? display).map fun text => (event.isRead, text)
  let groups := shown.splitBy fun a b => a.1 && a == b
  groups.filterMap fun group =>
    match group with
    | [] => none
    | [entry] => some entry.2
    | entry :: _ => some (entry.2 ++ s!" x{group.length}")

end Event

end Interrupts
