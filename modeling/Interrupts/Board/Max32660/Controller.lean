import Interrupts.Board.Registers

/-! # Vector controller of the MAX32660

The nested vectored interrupt controller of the Cortex-M4 core. Enable, disable
and pending bits lie in registers of 32 vectors each; set and clear registers
ignore the zero bits of a write, so one write touches one vector. Priorities are
bytes, of which the top three bits are kept.
-/

namespace Interrupts.Max32660.Controller

def vectorCount : Nat := 66

def setEnable : Nat := 0xE000E100
def clearEnable : Nat := 0xE000E180
def setPending : Nat := 0xE000E200
def clearPending : Nat := 0xE000E280
def priorities : Nat := 0xE000E400

/-- Priority bits are held in the top of each priority byte. -/
def priorityBits : Nat := 3

def register (base n : Nat) : Nat := base + n / 32 * 4

def bit (n : Nat) : Word := Word.bit (n % 32)

/-- Writes the bit of a vector to its register; a vector that does not exist is
refused without an access. -/
def strike (base n : Nat) : Driver (Except Fault Unit) :=
  if n < vectorCount then do
    Driver.write (register base n) (bit n)
    return .ok ()
  else return .error .invalidArgument

def drive (call : ControllerCall) : Driver call.Answer :=
  match call with
  | .enable n => strike setEnable n
  | .disable n => strike clearEnable n
  | .isPending n =>
      if n < vectorCount then do return (← Driver.read (register setPending n)).meets (bit n)
      else return false
  | .clearPending n => strike clearPending n
  | .setPriority n priority =>
      if n < vectorCount ∧ priority.toNat < 1 <<< priorityBits then do
        Driver.writeByte (priorities + n) (UInt8.ofNat (priority.toNat <<< (8 - priorityBits)))
        return .ok ()
      else return .error .invalidArgument
  | .priority n =>
      if n < vectorCount then do
        return UInt8.ofNat ((← Driver.readByte (priorities + n)).toNat >>> (8 - priorityBits))
      else return 0

end Interrupts.Max32660.Controller
