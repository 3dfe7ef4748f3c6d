import Interrupts.Callback

/-! # Calls on a board

A board is four kinds of device: the controller of the interrupt vectors, the
bank of input lines, the clock, and the serial channels. These are all the
calls that the interrupt layer makes on them, with the type of each answer. Only
calls whose answer is an `Except` can be refused.
-/

namespace Interrupts

inductive ControllerCall where
  | enable (vector : Nat)
  | disable (vector : Nat)
  | isPending (vector : Nat)
  | clearPending (vector : Nat)
  | setPriority (vector : Nat) (priority : Priority)
  | priority (vector : Nat)
deriving DecidableEq

inductive LineCall where
  | setInput (line : Line)
  /-- Programs the condition on which the line interrupts; its enable bit stays. -/
  | configureTrigger (line : Line) (trigger : Trigger)
  | setEnabled (line : Line) (on : Bool)
  | isEnabled (line : Line)
  | readStatus
  /-- Clears the status bits of the mask and no other. -/
  | clearStatus (mask : Word)
deriving DecidableEq

inductive ClockCall where
  | readControl
  | clearControl (mask : Word)
  /-- Programs the deadline, then sets the enable bit of the alarm. -/
  | arm (alarm : Alarm) (deadline : Word)
  | disarm (alarm : Alarm)
deriving DecidableEq

inductive SerialCall where
  | readFlags
  | clearFlags (mask : Word)
  | readEnabled
deriving DecidableEq

inductive Call where
  | controller (call : ControllerCall)
  | lines (call : LineCall)
  | clock (call : ClockCall)
  | serial (channel : Channel) (call : SerialCall)
deriving DecidableEq

/-! ## Answers -/

@[reducible] def ControllerCall.Answer : ControllerCall → Type
  | enable _ | disable _ | clearPending _ | setPriority _ _ => Except Fault Unit
  | isPending _ => Bool
  | priority _ => Priority

@[reducible] def LineCall.Answer : LineCall → Type
  | setInput _ | configureTrigger _ _ | setEnabled _ _ => Except Fault Unit
  | isEnabled _ => Bool
  | readStatus => Word
  | clearStatus _ => Unit

@[reducible] def ClockCall.Answer : ClockCall → Type
  | readControl => Word
  | clearControl _ => Unit
  | arm _ _ | disarm _ => Except Fault Unit

@[reducible] def SerialCall.Answer : SerialCall → Type
  | readFlags | readEnabled => Word
  | clearFlags _ => Unit

@[reducible] def Call.Answer : Call → Type
  | controller call => call.Answer
  | lines call => call.Answer
  | clock call => call.Answer
  | serial _ call => call.Answer

/-! ## Text

A call is written as its name and its arguments, in decimal. The answer of a
read follows an equals sign; a refused call ends with an exclamation mark and
the name of the fault. -/

/-- The mark of a refused call; nothing for an accepted one. -/
def refusalText : Except Fault Unit → String
  | .ok () => ""
  | .error fault => " !" ++ fault.name

namespace ControllerCall

def name : ControllerCall → String
  | enable _ => "nvic.enable"
  | disable _ => "nvic.disable"
  | isPending _ => "nvic.is_pending"
  | clearPending _ => "nvic.clear_pending"
  | setPriority _ _ => "nvic.set_priority"
  | priority _ => "nvic.priority"

def text (call : ControllerCall) (answer : call.Answer) : String :=
  call.name ++ match call, answer with
    | enable n, reply | disable n, reply | clearPending n, reply => s!" {n}" ++ refusalText reply
    | setPriority n p, reply => s!" {n} {p.toNat}" ++ refusalText reply
    | isPending n, reply => s!" {n} = " ++ Text.truth reply
    | priority n, reply => s!" {n} = {reply.toNat}"

end ControllerCall

namespace LineCall

def name : LineCall → String
  | setInput _ => "gpio.set_input"
  | configureTrigger _ _ => "gpio.configure_trigger"
  | setEnabled _ _ => "gpio.set_irq_enabled"
  | isEnabled _ => "gpio.irq_enabled"
  | readStatus => "gpio.read_status"
  | clearStatus _ => "gpio.clear_status"

def text (call : LineCall) (answer : call.Answer) : String :=
  call.name ++ match call, answer with
    | setInput line, reply => s!" {line.val}" ++ refusalText reply
    | configureTrigger line trigger, reply =>
        s!" {line.val} {trigger.text}" ++ refusalText reply
    | setEnabled line on, reply => s!" {line.val} " ++ Text.truth on ++ refusalText reply
    | isEnabled line, reply => s!" {line.val} = " ++ Text.truth reply
    | readStatus, reply => s!" = {reply.toNat}"
    | clearStatus mask, () => s!" {mask.toNat}"

end LineCall

namespace ClockCall

def name : ClockCall → String
  | readControl => "rtc.read_ctrl"
  | clearControl _ => "rtc.clear_ctrl"
  | arm _ _ => "rtc.enable_alarm"
  | disarm _ => "rtc.disable_alarm"

def text (call : ClockCall) (answer : call.Answer) : String :=
  call.name ++ match call, answer with
    | readControl, reply => s!" = {reply.toNat}"
    | clearControl mask, () => s!" {mask.toNat}"
    | arm alarm deadline, reply => s!" {alarm.text} {deadline.toNat}" ++ refusalText reply
    | disarm alarm, reply => s!" {alarm.text}" ++ refusalText reply

end ClockCall

namespace SerialCall

def name : SerialCall → String
  | readFlags => "read_int_flags"
  | clearFlags _ => "clear_int_flags"
  | readEnabled => "int_enabled"

def text (call : SerialCall) (answer : call.Answer) : String :=
  call.name ++ match call, answer with
    | readFlags, reply | readEnabled, reply => s!" = {reply.toNat}"
    | clearFlags mask, () => s!" {mask.toNat}"

end SerialCall

namespace Call

def text : (call : Call) → call.Answer → String
  | controller call, answer => call.text answer
  | lines call, answer => call.text answer
  | clock call, answer => call.text answer
  | serial channel call, answer => s!"uart{channel.val}." ++ call.text answer

end Call

end Interrupts
