import Interrupts.Board.Max32660
import Interrupts.Run.Scenario

/-! # The MAX32660 as a rig

A test can store a value in a register and queue values for reads of it. Priority
registers are accessed by bytes, all other registers by words.
-/

namespace Interrupts.Max32660

inductive Adjustment where
  | poke (address value : Nat)
  | queue (address : Nat) (values : List Nat)
deriving DecidableEq

def adjust : Adjustment → RegisterFile → Outcome × RegisterFile
  | .poke address value, file =>
      (.done,
        if Controller.priorities ≤ address then file.storeByte address (UInt8.ofNat value)
        else file.store address (BitVec.ofNat 32 value))
  | .queue address values, file => (.done, file.queue address values)

def rig : Rig RegisterFile Adjustment where
  hardware := hardware
  adjust := adjust

end Interrupts.Max32660
