import Interrupts.Source
import Interrupts.Trigger
import Interrupts.Clock

/-! # Callbacks

A callback is what a source delivers its events to: a receiver, a context word
of the caller's choice, and the setting that the source takes while the callback
is registered.
-/

namespace Interrupts

abbrev Priority := UInt8

structure AlarmSetting where
  alarm : Alarm
  deadline : Word
deriving DecidableEq

/-- What registering a callback does to its source; one form per kind of source. -/
inductive Setting where
  | gpio (trigger : Trigger)
  /-- The alarm that enabling the clock arms. -/
  | rtc (alarm : AlarmSetting)
  /-- Serial channels take no setting. -/
  | uart
deriving DecidableEq

namespace AlarmSetting

def text (setting : AlarmSetting) : String :=
  Text.labelled "RtcAlarmConfig"
    [("alarm", setting.alarm.text), ("deadline", toString setting.deadline.toNat)]

end AlarmSetting

namespace Setting

def fits : Setting → Source → Bool
  | gpio _, .gpio _ => true
  | rtc _, .rtc => true
  | uart, .uart _ => true
  | _, _ => false

def alarm? : Setting → Option AlarmSetting
  | rtc alarm => some alarm
  | _ => none

def text : Setting → String
  | gpio trigger => Text.labelled "Gpio" [("trigger", trigger.text)]
  | rtc alarm => Text.tagged "Rtc" [alarm.text]
  | uart => "Uart"

end Setting

abbrev Recorder := Fin 8

/-- The code that a callback runs. -/
inductive Receiver where
  | routine
  /-- A recorder, which keeps what it is told. -/
  | recorder (recorder : Recorder)
deriving DecidableEq

structure Callback where
  receiver : Receiver
  context : UInt64
  setting : Setting
  /-- The priority that registration gives to the vector of the source. -/
  priority : Priority
deriving DecidableEq

namespace Callback

def defaultPriority : Priority := 1

def invocationText (callback : Callback) (index : Nat) : String :=
  s!"cb {callback.context.toNat} {index} " ++ callback.setting.text

end Callback

end Interrupts
