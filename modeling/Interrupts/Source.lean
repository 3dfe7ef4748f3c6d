import Interrupts.Fault
import Interrupts.Word
import Interrupts.Text

/-! # Interrupt sources

A caller names a source by its kind and any index. Resolving the name checks the
index once; past that point a line or a channel is in range by its type. Every
source belongs to one peripheral, and it is the peripheral that owns an interrupt
vector: all lines share one.
-/

namespace Interrupts

/-- One of the fourteen input lines that can raise interrupts. -/
abbrev Line := Fin 14

/-- One of the two serial channels. -/
abbrev Channel := Fin 2

/-- A place in a table with one place per source: the lines, the clock, the serial channels. -/
abbrev Slot := Fin 17

namespace Line

def all : List Line := List.finRange 14

def ofNat? (n : Nat) : Option Line :=
  if h : n < 14 then some ⟨n, h⟩ else none

def mask (line : Line) : Word := Word.bit line.val

def text (line : Line) : String := Text.tagged "Line" [toString line.val]

@[simp] theorem ofNat?_val (line : Line) : ofNat? line.val = some line :=
  dif_pos line.isLt

theorem eq_val_of_ofNat? {n : Nat} {line : Line} (h : ofNat? n = some line) : n = line.val := by
  unfold ofNat? at h
  split at h
  · cases h; rfl
  · cases h

end Line

namespace Channel

def all : List Channel := List.finRange 2

def ofNat? (n : Nat) : Option Channel :=
  if h : n < 2 then some ⟨n, h⟩ else none

def text (channel : Channel) : String := Text.tagged "Port" [toString channel.val]

theorem eq_val_of_ofNat? {n : Nat} {channel : Channel} (h : ofNat? n = some channel) :
    n = channel.val := by
  unfold ofNat? at h
  split at h
  · cases h; rfl
  · cases h

end Channel

/-- A source as callers name it; the index may be out of range. -/
inductive SourceName where
  | gpio (index : UInt8)
  | rtc
  | uart (index : UInt8)
deriving DecidableEq

inductive Source where
  | gpio (line : Line)
  | rtc
  | uart (channel : Channel)
deriving DecidableEq

/-- The owner of an interrupt vector. -/
inductive Peripheral where
  | gpio
  | rtc
  | uart (channel : Channel)
deriving DecidableEq

namespace SourceName

def text : SourceName → String
  | gpio index => Text.tagged "Gpio" [toString index.toNat]
  | rtc => "Rtc"
  | uart index => Text.tagged "Uart" [toString index.toNat]

/-- The source that is meant, or a fault if the index is beyond the last one of its kind. -/
def resolve : SourceName → Except Fault Source
  | gpio index =>
      match Line.ofNat? index.toNat with
      | some line => .ok (.gpio line)
      | none => .error .invalidArgument
  | rtc => .ok .rtc
  | uart index =>
      match Channel.ofNat? index.toNat with
      | some channel => .ok (.uart channel)
      | none => .error .invalidArgument

end SourceName

namespace Source

def slot : Source → Slot
  | gpio line => ⟨line.val, by omega⟩
  | rtc => 14
  | uart channel => ⟨15 + channel.val, by omega⟩

def all : List Source := Line.all.map gpio ++ [rtc] ++ Channel.all.map uart

def peripheral : Source → Peripheral
  | gpio _ => .gpio
  | rtc => .rtc
  | uart channel => .uart channel

def toName : Source → SourceName
  | gpio line => .gpio (UInt8.ofNat line.val)
  | rtc => .rtc
  | uart channel => .uart (UInt8.ofNat channel.val)

def text : Source → String
  | gpio line => Text.tagged "Gpio" [line.text]
  | rtc => "Rtc"
  | uart channel => Text.tagged "Uart" [channel.text]

theorem mem_all (source : Source) : source ∈ all := by
  cases source <;> simp [all, Line.all, Channel.all]

theorem map_slot_all : all.map slot = List.finRange 17 := by decide

theorem nodup_all : all.Nodup := by decide

theorem slot_injective {a b : Source} (h : a.slot = b.slot) : a = b := by
  cases a <;> cases b <;> simp [slot, Fin.ext_iff] at h ⊢ <;> omega

end Source

namespace Peripheral

def all : List Peripheral := [gpio, rtc] ++ Channel.all.map uart

def text : Peripheral → String
  | gpio => "Gpio"
  | rtc => "Rtc"
  | uart channel => Text.tagged "Uart" [channel.text]

theorem mem_all (peripheral : Peripheral) : peripheral ∈ all := by
  cases peripheral <;> simp [all, Channel.all]

end Peripheral

end Interrupts
