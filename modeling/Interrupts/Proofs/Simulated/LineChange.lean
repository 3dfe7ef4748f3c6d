import Interrupts.Proofs.Run.State
import Interrupts.Proofs.Simulated.LineSetting

/-! # Changes of a line

What the two ways to change a line do to the simulated board and to the line table, as
equations. Switching a line always succeeds. Giving it another trigger is refused only by
a line whose trigger cannot be programmed, and then only its stale status is lost.
-/

namespace Interrupts.Simulated

open Routine Guarded

namespace LineBank

def discarded (bank : LineBank) (line : Line) : LineBank :=
  { bank with status := bank.status.without line.mask }

def masked (bank : LineBank) (line : Line) : LineBank :=
  { bank with enabled := bank.enabled.write line.mask false }

def programmed (bank : LineBank) (line : Line) (trigger : Trigger) : LineBank :=
  ((bank.discarded line).deliverInjected line).program line trigger.encode

/-- The bank after the trigger of a line was programmed while its interrupt was off. -/
def retriggered (bank : LineBank) (line : Line) (trigger : Trigger) : LineBank :=
  { (bank.masked line).programmed line trigger with enabled := bank.enabled }

theorem enabled_programmed (bank : LineBank) (line : Line) (trigger : Trigger) :
    (bank.programmed line trigger).enabled = bank.enabled := by
  simp only [programmed, program, deliverInjected]
  split <;> rfl

theorem retriggered_of_on {bank : LineBank} {line : Line}
    (on : bank.enabled.getLsbD line.val = true) (trigger : Trigger) :
    bank.retriggered line trigger =
      { (bank.masked line).programmed line trigger with
        enabled := ((bank.masked line).programmed line trigger).enabled.write line.mask true } := by
  have back := line.write_write_back bank.enabled false
  rw [on] at back
  rw [enabled_programmed, masked, back, retriggered, masked]

theorem retriggered_of_off {bank : LineBank} {line : Line}
    (off : bank.enabled.getLsbD line.val = false) (trigger : Trigger) :
    bank.retriggered line trigger = bank.programmed line trigger := by
  have same : bank.masked line = bank := by
    rw [masked, Word.write, if_neg Bool.false_ne_true, Line.without_eq_self off]
  rw [retriggered, same, ← bank.enabled_programmed line trigger]

/-- The line has the new trigger, and its enable bit is the old one. -/
theorem setting_retriggered (bank : LineBank) (line : Line) (trigger : Trigger) :
    (bank.retriggered line trigger).setting line =
      ⟨some trigger, bank.enabled.getLsbD line.val⟩ := by
  have programmed :=
    (((bank.masked line).discarded line).deliverInjected line).trigger?_program line line trigger
  rw [if_pos rfl] at programmed
  exact congrArg (LineSetting.mk · (bank.enabled.getLsbD line.val)) programmed

/-- A masked line does not fire when an event is injected. -/
theorem fired_retriggered (bank : LineBank) (line : Line) (trigger : Trigger) :
    (bank.retriggered line trigger).fired = bank.fired := by
  have off : (bank.enabled.write line.mask false).getLsbD line.val = false := by
    simp [Word.getLsbD_write]
  simp only [retriggered, programmed, program, deliverInjected, discarded, masked,
    Line.meets_mask, off, Bool.false_eq_true, if_false]
  split <;> rfl

theorem injected_retriggered (bank : LineBank) (line : Line) (trigger : Trigger) :
    (bank.retriggered line trigger).injected.getLsbD line.val = false := by
  simp only [retriggered, programmed, program, deliverInjected, discarded, masked,
    Line.meets_mask]
  split
  next => simp [Word.getLsbD_without]
  next none => simpa using none

theorem status_retriggered {bank : LineBank} {line other : Line} {trigger : Trigger}
    (waited : bank.injected.getLsbD other.val = true)
    (injected : (bank.retriggered line trigger).injected.getLsbD other.val = false) :
    (bank.retriggered line trigger).status.getLsbD other.val = true := by
  simp only [retriggered, programmed, program, deliverInjected, discarded, masked,
    Line.meets_mask] at injected ⊢
  split at injected
  next own =>
    -- Programming a line consumes its own event and no other.
    simp only [own, if_true]
    by_cases same : line.val = other.val
    · simp [same]
    · simp [Word.getLsbD_without, waited, same] at injected
  next own => exact absurd (waited.symm.trans injected) (by decide)

end LineBank

def withLines (state : State Board) (bank : LineBank) : State Board :=
  { state with board := { state.board with lines := bank } }

variable {number : Peripheral → Nat}

theorem run_lines (call : LineCall) (state : State Board) :
    state.run (hardware number) (Routine.lines call) =
      ((state.board.lines.respond call).1, withLines state (state.board.lines.respond call).2) :=
  rfl

theorem run_switch (line : Line) (on : Bool) (state : State Board) :
    state.run (hardware number) (LineControl.switch line on).run =
      (.ok (), { withLines state { state.board.lines with
          enabled := state.board.lines.enabled.write line.mask on } with
        lines := state.lines.set line { state.lines.get line with enabled := on } }) := rfl

theorem run_program (line : Line) (trigger : Trigger) (state : State Board)
    {α : Type} (rest : Except Fault Unit → Guarded α) :
    state.run (hardware number) (show Guarded α from do
        Routine.lines (.clearStatus line.mask)
        let programmed ← observe (Routine.lines (.configureTrigger line trigger))
        rest programmed).run =
      if state.board.lines.failing.getLsbD line.val then
        (withLines state (state.board.lines.discarded line)).run (hardware number)
          (rest (.error .busy)).run
      else
        (withLines state (state.board.lines.programmed line trigger)).run (hardware number)
          (rest (.ok ())).run := by
  rw [State.run_andThen, State.run_lift, run_lines]
  dsimp only
  rw [State.run_andThen, State.run_observe, run_lines]
  dsimp only [LineBank.respond, withLines]
  rw [Line.meets_mask]
  split <;> rfl

/-- Giving a line another trigger leaves the enable bits as they were. The stored flag of
the line becomes its enable bit. -/
theorem run_retrigger (line : Line) (trigger : Trigger) (state : State Board) :
    state.run (hardware number) (LineControl.retrigger line trigger).run =
      if state.board.lines.failing.getLsbD line.val then
        (.error .busy, withLines state (state.board.lines.discarded line))
      else
        (.ok (), { withLines state (state.board.lines.retriggered line trigger) with
          lines := state.lines.set line
            ⟨some trigger, state.board.lines.enabled.getLsbD line.val⟩ }) := by
  unfold LineControl.retrigger
  rw [State.run_andThen, State.run_lift, run_lines]
  dsimp only [LineBank.respond]
  rw [Line.meets_mask]
  -- An enabled line is masked first, and unmasked again even if the programming fails.
  cases on : state.board.lines.enabled.getLsbD line.val with
  | true =>
      have back := line.write_write_back state.board.lines.enabled false
      rw [on] at back
      rw [if_pos rfl, State.run_andThen, State.run_attempt, run_lines]
      dsimp only [LineBank.respond]
      rw [run_program]
      refine ite_congr rfl (fun _ => ?_) fun _ => ?_
      · change (_, withLines state { state.board.lines.discarded line with
          enabled := (state.board.lines.enabled.write line.mask false).write line.mask true }) = _
        rw [back]
        rfl
      · rw [LineBank.retriggered_of_on on]
        rfl
  | false =>
      rw [LineBank.retriggered_of_off on]
      exact run_program line trigger _ _

end Interrupts.Simulated
