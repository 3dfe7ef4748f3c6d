import Interrupts.Word.Flags

/-! # Clock alarms and events

The real-time clock has two alarms and raises one vector for three events. Flags
and enable bits share the control register: every event has a flag that reports
it and a gate, an enable bit that must still be set when the event is delivered.
-/

namespace Interrupts

/-! ## Control register -/

namespace ClockControl

/-- The counter runs; gates the read-ready event. -/
def running : Word := Word.bit 0
def timeOfDayEnable : Word := Word.bit 1
def subSecondEnable : Word := Word.bit 2
/-- The counter does not accept writes. -/
def busy : Word := Word.bit 3
def readReady : Word := Word.bit 5
def timeOfDayFlag : Word := Word.bit 6
def subSecondFlag : Word := Word.bit 7
/-- Alarm registers accept writes only while this bit is set. -/
def writeEnable : Word := Word.bit 15

def eventFlags : Word := readReady ||| timeOfDayFlag ||| subSecondFlag

def layout : FlagLayout where
  name := "RtcCtrl"
  flags :=
    [("ENABLE", running), ("TOD_ALARM_IE", timeOfDayEnable),
      ("SUBSEC_ALARM_IE", subSecondEnable), ("BUSY", busy), ("READY", readReady),
      ("TOD_ALARM", timeOfDayFlag), ("SUBSEC_ALARM", subSecondFlag),
      ("WRITE_ENABLE", writeEnable)]

def text (control : Word) : String := layout.text control

end ClockControl

/-! ## Alarms -/

inductive Alarm where
  /-- Goes off when the seconds counter reaches the deadline. -/
  | timeOfDay
  /-- Goes off when the sub-second counter reaches the deadline. -/
  | subSecond
deriving DecidableEq

namespace Alarm

def all : List Alarm := [timeOfDay, subSecond]

theorem mem_all (alarm : Alarm) : alarm ∈ all := by
  cases alarm <;> decide

def text : Alarm → String
  | timeOfDay => "TimeOfDay"
  | subSecond => "SubSecond"

def ofText? (text : String) : Option Alarm := all.find? (·.text == text)

def enableBit : Alarm → Word
  | timeOfDay => ClockControl.timeOfDayEnable
  | subSecond => ClockControl.subSecondEnable

def latestDeadline : Word := BitVec.allOnes 32

end Alarm

/-! ## Events -/

inductive ClockEvent where
  | readReady
  | timeOfDay
  | subSecond
deriving DecidableEq

namespace ClockEvent

def all : List ClockEvent := [readReady, timeOfDay, subSecond]

def text : ClockEvent → String
  | readReady => "ReadReady"
  | timeOfDay => "TimeOfDay"
  | subSecond => "SubSecond"

def ofText? (text : String) : Option ClockEvent := all.find? (·.text == text)

def index : ClockEvent → Nat
  | readReady => 0
  | timeOfDay => 1
  | subSecond => 2

def flag : ClockEvent → Word
  | readReady => ClockControl.readReady
  | timeOfDay => ClockControl.timeOfDayFlag
  | subSecond => ClockControl.subSecondFlag

/-- The bit that must still be set when the event is delivered. -/
def gate : ClockEvent → Word
  | readReady => ClockControl.running
  | timeOfDay => ClockControl.timeOfDayEnable
  | subSecond => ClockControl.subSecondEnable

end ClockEvent

end Interrupts
