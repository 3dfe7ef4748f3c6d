import Interrupts.Effect
import Interrupts.Word.SetBits

/-! # Delivery of events

What happens when a peripheral interrupts: its status is read once, the events
of that snapshot are cleared, and the callbacks of the snapshot are invoked from
the lowest bit upwards. No lock is held while a callback runs, so a callback may
use every operation of the library.

The bank of lines asks for the callback of each line when the scan reaches it;
the clock and the serial channels are given their one callback beforehand.
-/

namespace Interrupts.Delivery

open Routine

/-- Invokes the callbacks of the given bits; the first bit without a line or
without a callback ends the scan. -/
def scanLines (find : Source → Routine (Option Callback)) (snapshot : Word) :
    List Nat → Routine Unit
  | [] => pure ()
  | index :: rest => do
      match Line.ofNat? index with
      | none => note (.dropped index snapshot)
      | some line => do
          match ← find (.gpio line) with
          | none => note (.dropped index snapshot)
          | some callback => do
              perform (.invoke (.gpio line) callback index)
              scanLines find snapshot rest

def gpio (find : Source → Routine (Option Callback)) : Routine Unit := do
  let snapshot ← lines .readStatus
  -- Bits that the scan does not reach are lost by this.
  lines (.clearStatus snapshot)
  scanLines find snapshot (SetBits.mk snapshot).toList

/-- Delivers the flagged events whose gate is still set when their turn comes. -/
def scanEvents (callback : Callback) (snapshot : Word) : List ClockEvent → Routine Unit
  | [] => pure ()
  | event :: rest => do
      if snapshot.covers event.flag then
        let control ← clock .readControl
        if control.covers event.gate then
          perform (.invoke .rtc callback event.index)
      scanEvents callback snapshot rest

def rtc (entry : Option Callback) : Routine Unit := do
  let snapshot ← clock .readControl
  -- Not only what is in the snapshot: the flags of all three events.
  clock (.clearControl ClockControl.eventFlags)
  match entry with
  | none => pure ()
  | some callback => scanEvents callback snapshot ClockEvent.all

/-- Delivers the causes that are still enabled when their turn comes. -/
def scanCauses (channel : Channel) (callback : Callback) : List Nat → Routine Unit
  | [] => pure ()
  | index :: rest => do
      let enabled ← serial channel .readEnabled
      if enabled.meets (Word.bit index) then
        perform (.invoke (.uart channel) callback index)
      scanCauses channel callback rest

def uart (channel : Channel) (entry : Option Callback) : Routine Unit := do
  let snapshot ← serial channel .readFlags
  serial channel (.clearFlags snapshot)
  match entry with
  | none => pure ()
  | some callback => scanCauses channel callback (SetBits.mk snapshot).toList

-- The lock is free again when the callback runs.
def lookUp (source : Source) : Routine (Option Callback) := critical (find source)

def dispatch : Peripheral → Routine Unit
  | .gpio => gpio lookUp
  | .rtc => do rtc (← lookUp .rtc)
  | .uart channel => do uart channel (← lookUp (.uart channel))

/-- Serves the owner of vector `n`; a vector that nobody owns is ignored. -/
def handle (vectors : VectorTable) (n : Nat) : Routine Unit :=
  match vectors.find? n with
  | some peripheral => dispatch peripheral
  | none => pure ()

end Interrupts.Delivery
