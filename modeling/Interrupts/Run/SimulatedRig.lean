import Interrupts.Board.Simulated
import Interrupts.Run.Scenario

/-! # The simulated board as a rig

A test can give the board stimuli and look at the enable bit of a vector.
-/

namespace Interrupts.Simulated

inductive Adjustment where
  | stimulate (stimulus : Stimulus)
  | isEnabled (vector : Nat)
deriving DecidableEq

def adjust : Adjustment → Board → Outcome × Board
  | .stimulate stimulus, board => (.done, board.stimulate stimulus)
  | .isEnabled n, board => (.truth (board.controller.isEnabled n), board)

def rig (number : Peripheral → Nat) : Rig Board Adjustment where
  hardware := hardware number
  adjust := adjust

end Interrupts.Simulated
