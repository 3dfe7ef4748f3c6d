import Interrupts.Board.Faulty
import Interrupts.Run.Scenario

/-! # Rigs behind scheduled refusals

Any rig can be put behind scheduled refusals; scheduling one is a further way to
adjust it.
-/

namespace Interrupts

/-- An adjustment of the board itself, or a refusal to schedule. -/
inductive Faulty.Adjustment (η : Type) where
  | board (adjustment : η)
  | refuse (refusal : Refusal)
deriving DecidableEq

def Rig.faulty {β η : Type} (rig : Rig β η) : Rig (Faulty β) (Faulty.Adjustment η) where
  hardware := Faulty.hardware rig.hardware
  adjust
    | .board adjustment, faulty =>
        let (outcome, board) := rig.adjust adjustment faulty.board
        (outcome, { faulty with board })
    | .refuse refusal, faulty => (.done, faulty.schedule refusal)

end Interrupts
