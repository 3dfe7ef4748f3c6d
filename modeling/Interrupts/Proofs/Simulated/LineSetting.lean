import Interrupts.Proofs.Run.Assembly
import Interrupts.Proofs.Word.Masks
import Interrupts.Run.SimulatedRig

/-! # What the line registers hold

The enable bit and the trigger of a line are spread over five registers that all lines
share. `LineBank.setting` gathers them for one line; each call on the bank either leaves
the settings of all lines alone or changes one part of the setting of one line.
-/

namespace Interrupts

/-- The registers in which a bank holds the triggers of its lines. -/
structure TriggerRegisters where
  edge : Word
  activeLow : Word
  dualEdge : Word
deriving DecidableEq

namespace TriggerRegisters

def encoding (registers : TriggerRegisters) (line : Line) : Trigger.Encoding :=
  ⟨registers.edge.meets line.mask, registers.activeLow.meets line.mask,
    registers.dualEdge.meets line.mask⟩

def program (registers : TriggerRegisters) (line : Line) (bits : Trigger.Encoding) :
    TriggerRegisters :=
  ⟨registers.edge.write line.mask bits.edge, registers.activeLow.write line.mask bits.activeLow,
    registers.dualEdge.write line.mask bits.dualEdge⟩

theorem encoding_program (registers : TriggerRegisters) (line other : Line)
    (bits : Trigger.Encoding) :
    (registers.program line bits).encoding other =
      if line = other then bits else registers.encoding other := by
  simp only [encoding, program, Line.meets_mask, Word.getLsbD_write, Line.getLsbD_mask,
    decide_eq_true_eq, Fin.val_inj]
  split <;> rfl

end TriggerRegisters

namespace Simulated

namespace LineBank

def triggerRegisters (bank : LineBank) : TriggerRegisters :=
  ⟨bank.edge, bank.activeLow, bank.dualEdge⟩

/-- The setting of a line as its registers hold it. -/
def setting (bank : LineBank) (line : Line) : LineSetting :=
  ⟨bank.trigger? line, bank.enabled.getLsbD line.val⟩

theorem setting_initial (line : Line) : initial.setting line = .initial := by
  simp [setting, trigger?, initial, LineSetting.initial]

theorem setting_setEnabled (bank : LineBank) (line other : Line) (on : Bool) :
    (bank.respond (.setEnabled line on)).2.setting other =
      if line = other then { bank.setting other with enabled := on } else bank.setting other := by
  have trigger : (bank.respond (.setEnabled line on)).2.trigger? other = bank.trigger? other := rfl
  unfold setting
  rw [trigger]
  simp only [respond, Word.getLsbD_write, Line.getLsbD_mask, decide_eq_true_eq, Fin.val_inj]
  split <;> rfl

theorem encoding_program (bank : LineBank) (line other : Line) (bits : Trigger.Encoding) :
    (bank.program line bits).encoding other =
      if line = other then bits else bank.encoding other :=
  bank.triggerRegisters.encoding_program line other bits

theorem trigger?_program (bank : LineBank) (line other : Line) (trigger : Trigger) :
    (bank.program line trigger.encode).trigger? other =
      if line = other then some trigger else bank.trigger? other := by
  unfold trigger?
  rw [encoding_program]
  by_cases h : line = other
  · simp [h, program]
  · have hv : line.val ≠ other.val := fun e => h (Fin.ext e)
    simp [h, hv, program]

theorem setting_deliverInjected (bank : LineBank) (line other : Line) :
    (bank.deliverInjected line).setting other = bank.setting other := by
  unfold deliverInjected
  split <;> rfl

theorem setting_program (bank : LineBank) (line other : Line) (trigger : Trigger) :
    ((bank.deliverInjected line).program line trigger.encode).setting other =
      if line = other then { bank.setting other with trigger := some trigger }
      else bank.setting other := by
  have same := bank.setting_deliverInjected line other
  have enabled : ((bank.deliverInjected line).program line trigger.encode).enabled =
    (bank.deliverInjected line).enabled := rfl
  simp only [setting, LineSetting.mk.injEq] at same
  simp only [setting, trigger?_program, enabled, same]
  split <;> rfl

/-- Programming a trigger is refused, or it changes the trigger of the line. -/
theorem configureTrigger_cases (bank : LineBank) (line : Line) (trigger : Trigger) :
    bank.respond (.configureTrigger line trigger) = (.error .busy, bank) ∨
      bank.respond (.configureTrigger line trigger) =
        (.ok (), (bank.deliverInjected line).program line trigger.encode) := by
  simp only [respond]
  split
  · exact .inl rfl
  · exact .inr rfl

end LineBank

theorem setting_respond {call : Call} (plain : (Effect.call call).Plain) (board : Board)
    (line : Line) : (board.respond call).2.lines.setting line = board.lines.setting line := by
  cases call with
  | lines call =>
      cases call with
      | configureTrigger _ _ => exact plain.elim
      | setEnabled _ _ => exact plain.elim
      | _ => rfl
  | _ => rfl

theorem setting_stimulate (stimulus : Stimulus) (board : Board) (line : Line) :
    (board.stimulate stimulus).lines.setting line = board.lines.setting line := by
  cases stimulus <;> rfl

end Simulated

end Interrupts
