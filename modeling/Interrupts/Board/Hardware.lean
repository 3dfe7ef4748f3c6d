import Interrupts.Call
import Interrupts.Table.Vectors

/-! # Hardware

A kind of board is given by the vector number that it wires to each peripheral
and by its response to every call: an answer, the board afterwards, and the
transfers on the register bus that the call took. A board without registers
reports no transfers.
-/

namespace Interrupts

inductive Direction where
  | read
  | write
deriving DecidableEq

/-- One access on the register bus, with the value obtained or stored. -/
structure Transfer where
  direction : Direction
  address : Nat
  value : Nat
deriving DecidableEq

namespace Transfer

def text (transfer : Transfer) : String :=
  (match transfer.direction with | .read => "r " | .write => "w ") ++
    Text.hexPadded 8 transfer.address ++ " " ++ Text.hex transfer.value

end Transfer

/-- A kind of board, whose state is a `β`. -/
structure Hardware (β : Type) where
  number : Peripheral → Nat
  respond : (call : Call) → β → call.Answer × β × List Transfer

namespace Hardware

def vectors {β : Type} (hardware : Hardware β) : VectorTable :=
  VectorTable.ofNumbering hardware.number

end Hardware

end Interrupts
