import Interrupts.Board.Hardware
import Interrupts.Program
import Std.Data.TreeMap

/-! # Register access

Drivers of memory-mapped devices are programs whose requests are accesses to
addresses. They can be run against any answers; here they run against a register
file, a plain memory of words in which a write stores its value and does nothing
else. A test can queue values for an address: each read takes the next of them,
as hardware would change a register between two reads.
-/

namespace Interrupts

inductive Access where
  | read (address : Nat)
  | write (address : Nat) (value : Word)
  | readByte (address : Nat)
  | writeByte (address : Nat) (value : UInt8)
deriving DecidableEq

@[reducible] def Access.Answer : Access → Type
  | .read _ => Word
  | .readByte _ => UInt8
  | .write _ _ | .writeByte _ _ => Unit

abbrev Driver := Program Access Access.Answer

namespace Driver

def read (address : Nat) : Driver Word := Program.request (Access.read address)

def write (address : Nat) (value : Word) : Driver Unit :=
  Program.request (Access.write address value)

def readByte (address : Nat) : Driver UInt8 := Program.request (Access.readByte address)

def writeByte (address : Nat) (value : UInt8) : Driver Unit :=
  Program.request (Access.writeByte address value)

/-- Reads a register, sets or clears the bits of the mask, and writes it back. -/
def modify (address : Nat) (mask : Word) (on : Bool) : Driver Unit := do
  let value ← read address
  write address (value.write mask on)

end Driver

/-! ## The register file -/

/-- A memory of registers and the values queued for reads, by address. -/
structure RegisterFile where
  /-- The nonzero words, by the address of their lowest byte. -/
  words : Std.TreeMap Nat Word
  queued : List (Nat × List Nat)

namespace RegisterFile

def empty : RegisterFile := ⟨∅, []⟩

/-- The address of the word that holds the byte at `address`. -/
def aligned (address : Nat) : Nat := address - address % 4

/-- How far the byte at `address` lies above the lowest bit of its word. -/
def byteShift (address : Nat) : Nat := 8 * (address % 4)

def load (file : RegisterFile) (address : Nat) : Word :=
  file.words.getD (aligned address) 0

def store (file : RegisterFile) (address : Nat) (value : Word) : RegisterFile :=
  { file with words := file.words.insert (aligned address) value }

def loadByte (file : RegisterFile) (address : Nat) : UInt8 :=
  UInt8.ofNat (file.load address >>> byteShift address).toNat

def storeByte (file : RegisterFile) (address : Nat) (value : UInt8) : RegisterFile :=
  let shift := byteShift address
  let kept := (file.load address).without (0xff#32 <<< shift)
  file.store address (kept ||| BitVec.ofNat 32 value.toNat <<< shift)

def takeQueued (address : Nat) : List (Nat × List Nat) → Option Nat × List (Nat × List Nat)
  | [] => (none, [])
  | (queue, values) :: rest =>
      match queue == address, values with
      | true, value :: later => (some value, (queue, later) :: rest)
      | _, _ =>
          let (value, left) := takeQueued address rest
          (value, (queue, values) :: left)

def queue (file : RegisterFile) (address : Nat) (values : List Nat) : RegisterFile :=
  { file with queued := file.queued ++ [(address, values)] }

/-- Moves the next queued value, if there is one, into the register. -/
def advance (file : RegisterFile) (address : Nat)
    (put : RegisterFile → Nat → RegisterFile) : RegisterFile :=
  match takeQueued address file.queued with
  | (none, _) => file
  | (some value, queued) => put { file with queued } value

/-- Answers an access; the transfers made so far are kept, the latest first. -/
def respond (access : Access) (state : RegisterFile × List Transfer) :
    access.Answer × RegisterFile × List Transfer :=
  let (file, transfers) := state
  match access with
  | .read address =>
      let file := file.advance address fun file value => file.store address (BitVec.ofNat 32 value)
      let value := file.load address
      (value, file, ⟨.read, address, value.toNat⟩ :: transfers)
  | .write address value =>
      ((), file.store address value, ⟨.write, address, value.toNat⟩ :: transfers)
  | .readByte address =>
      let file := file.advance address fun file value => file.storeByte address (UInt8.ofNat value)
      let value := file.loadByte address
      (value, file, ⟨.read, address, value.toNat⟩ :: transfers)
  | .writeByte address value =>
      ((), file.storeByte address value, ⟨.write, address, value.toNat⟩ :: transfers)

/-- Runs a driver on the register file; the transfers are in the order in which they were made. -/
def drive {α : Type} (driver : Driver α) (file : RegisterFile) :
    α × RegisterFile × List Transfer :=
  let (value, file, transfers) := driver.run respond (file, [])
  (value, file, transfers.reverse)

def nonzero (file : RegisterFile) : List (Nat × Word) :=
  file.words.toList.filter fun entry => entry.2 != 0

end RegisterFile

end Interrupts
