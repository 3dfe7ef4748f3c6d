import Interrupts.Callback
import Interrupts.Table.Vectors

/-! # Notices

What the interrupt layer writes to the log. A notice is a value; its level and
its wording are fixed here.
-/

namespace Interrupts

inductive NoticeLevel where
  | warn
  | debug
  | trace
deriving DecidableEq

inductive Notice where
  | started (vectors : VectorTable)
  | stopped
  | outOfRange (source : SourceName)
  | misfit (setting : Setting) (source : SourceName)
  | registered (source : SourceName)
  | replaced (source : SourceName)
  | noCallback (source : SourceName)
  | unregistered (source : SourceName)
  | released (line : UInt8)
  | enabled (source : SourceName)
  | disabled (source : SourceName)
  | retriggered (line : Line) (trigger : Trigger)
  | noAlarm
  | allEnabled
  | allDisabled
  /-- The scan of `snapshot` ended at `index`, which has no callback. -/
  | dropped (index : Nat) (snapshot : Word)
deriving DecidableEq

namespace NoticeLevel

def text : NoticeLevel → String
  | warn => "WARN"
  | debug => "DEBUG"
  | trace => "TRACE"

end NoticeLevel

namespace Notice

def level : Notice → NoticeLevel
  | outOfRange _ | misfit _ _ | noCallback _ | noAlarm => .warn
  | dropped _ _ => .trace
  | _ => .debug

def message : Notice → String
  | started vectors => "irq: manager up, vectors " ++ vectors.text
  | stopped => "irq: manager removed"
  | outOfRange source => "irq: " ++ source.text ++ " is out of range"
  | misfit setting source => "irq: " ++ setting.text ++ " does not fit " ++ source.text
  | registered source => "irq: registered callback for " ++ source.text
  | replaced source => "irq: replaced callback for " ++ source.text
  | noCallback source => "irq: " ++ source.text ++ " has no callback"
  | unregistered source => "irq: unregistered " ++ source.text
  | released line => s!"irq: released line {line.toNat}"
  | enabled source => "irq: enabled " ++ source.text
  | disabled source => "irq: disabled " ++ source.text
  | retriggered line trigger => s!"irq: line {line.val} now {trigger.text}"
  | noAlarm => "irq: rtc has no alarm configuration"
  | allEnabled => "irq: global enable"
  | allDisabled => "irq: global disable"
  | dropped index snapshot =>
      s!"gpio: no callback for line {index}, dropping 0x" ++ Text.hex snapshot.toNat

def text (notice : Notice) : String :=
  notice.level.text ++ " " ++ notice.message

end Notice

end Interrupts
