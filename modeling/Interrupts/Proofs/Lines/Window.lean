import Interrupts.Proofs.Registration.Cases
import Interrupts.Proofs.Run.Reachable

/-! # The window while a trigger is programmed

A line whose trigger is being programmed may see an event that has nothing to do with
either trigger. The operations close this window: the line is masked while it is open, so
the event does not fire; it is left in the status; and the enable bits of all lines are
afterwards what they were. `Undisturbed` says this of two banks, before and after.
-/

namespace Interrupts.Simulated

open Routine Guarded

/-! ## One operation -/

/-- What happened to the bank in between changed no enable bit, fired no line, and lost no
event that was injected. A line that was programmed has its event delivered. -/
structure LineBank.Undisturbed (programmed : Line → Prop) (before after : LineBank) :
    Prop where
  enabled : after.enabled = before.enabled
  fired : after.fired = before.fired
  status {line : Line} : before.injected.getLsbD line.val = true →
    after.injected.getLsbD line.val = false → after.status.getLsbD line.val = true
  delivered {line : Line} : programmed line → after.injected.getLsbD line.val = false

namespace LineBank.Undisturbed

variable {programmed : Line → Prop}

theorem of_eq {before after : LineBank} (enabled : after.enabled = before.enabled)
    (fired : after.fired = before.fired) (injected : after.injected = before.injected)
    (nothing : ∀ line, ¬ programmed line) : before.Undisturbed programmed after where
  enabled := enabled
  fired := fired
  status waits consumed := by
    rw [injected, waits] at consumed
    cases consumed
  delivered h := absurd h (nothing _)

theorem weaken {other : Line → Prop} {before after : LineBank}
    (h : before.Undisturbed programmed after) (fewer : ∀ line, other line → programmed line) :
    before.Undisturbed other after :=
  ⟨h.enabled, h.fired, h.status, fun programs => h.delivered (fewer _ programs)⟩

theorem refl (bank : LineBank) (nothing : ∀ line, ¬ programmed line) :
    bank.Undisturbed programmed bank :=
  of_eq rfl rfl rfl nothing

theorem retriggered (bank : LineBank) {line : Line} (trigger : Trigger)
    (only : ∀ other, programmed other → other = line) :
    bank.Undisturbed programmed (bank.retriggered line trigger) where
  enabled := rfl
  fired := bank.fired_retriggered line trigger
  status := status_retriggered
  delivered h := by
    rw [only _ h]
    exact bank.injected_retriggered line trigger

theorem of_directed {bank after : LineBank} {line : Line}
    (h : (bank.directed line).Undisturbed programmed after) : bank.Undisturbed programmed after :=
  ⟨h.enabled, h.fired, h.status, h.delivered⟩

end LineBank.Undisturbed

/-- The bank of lines was not disturbed on the way to this end. The lines of which the
second argument holds were programmed if the end is a success. -/
def Closes (state : State Board) (target : Line → Prop)
    (ended : Except Fault Unit × State Board) : Prop :=
  state.board.lines.Undisturbed (fun line => ended.1 = .ok () ∧ target line)
    ended.2.board.lines

theorem not_programmed (fault : Fault) {target : Line → Prop} (line : Line) :
    ¬ ((.error fault : Except Fault Unit) = .ok () ∧ target line) := fun h => nomatch h.1

theorem closes_retrigger (number : Peripheral → Nat) (line : Line) (trigger : Trigger)
    (state : State Board) :
    Closes state (· = line)
      (state.run (hardware number) (LineControl.retrigger line trigger).run) := by
  rw [run_retrigger]
  split
  · exact .of_eq rfl rfl rfl (not_programmed _)
  · exact .retriggered _ _ fun _ => And.right

theorem closes_register (number : Peripheral → Nat) (vectors : VectorTable) (name : SourceName)
    (callback : Callback) (state : State Board) :
    Closes state (fun line => name.resolve = .ok (.gpio line))
      (state.run (hardware number) (Registration.register vectors name callback).run) := by
  have registered := registers number vectors name callback state
  generalize state.run (hardware number) _ = ended at registered ⊢
  cases registered with
  | refused fault => exact .refl _ (not_programmed _)
  | lineRefused _ _ _ _ => exact .of_eq rfl rfl rfl (not_programmed _)
  | line named _ _ =>
      refine .of_directed (.retriggered _ _ ?_)
      rintro other ⟨-, h⟩
      rw [named] at h
      cases h
      rfl
  | other named plain _ _ =>
      refine .refl _ ?_
      rintro line ⟨-, h⟩
      rw [named] at h
      cases h
      exact plain line rfl

theorem closes_switchingRetrigger (number : Peripheral → Nat) (index : UInt8)
    (trigger : Trigger) (state : State Board) :
    Closes state (fun line => (SourceName.gpio index).resolve = .ok (.gpio line))
      (state.run (hardware number) (Switching.retrigger index trigger).run) := by
  unfold Switching.retrigger
  have resolved := State.run_resolve (hardware number) (.gpio index) state
  cases named : (SourceName.gpio index).resolve with
  | error fault =>
      rw [named] at resolved
      rw [State.run_andThen_error _ resolved]
      exact .refl _ (not_programmed _)
  | ok source =>
      rw [named] at resolved
      rw [State.run_andThen_ok _ resolved]
      cases source with
      | gpio line =>
          have closes := closes_retrigger number line trigger state
          rw [State.run_andThen, State.run_locked]
          generalize state.run (hardware number) _ = ended at closes ⊢
          obtain ⟨result, after⟩ := ended
          cases result with
          | error fault => exact closes.weaken fun _ h => nomatch h.1
          | ok value =>
              refine closes.weaken ?_
              rintro other ⟨-, h⟩
              cases h
              exact ⟨rfl, rfl⟩
      | rtc => exact .refl _ (not_programmed _)
      | uart channel => exact .refl _ (not_programmed _)

/-- The line is the one that the operation is to give another trigger. -/
def Retargets (line : Line) : Operation → Prop
  | .register name _ => name.resolve = .ok (.gpio line)
  | .retrigger index _ => (SourceName.gpio index).resolve = .ok (.gpio line)
  | _ => False

theorem undisturbed_operation (number : Peripheral → Nat) (vectors : VectorTable)
    {operation : Operation} (reprograms : operation.Reprograms) (state : State Board) :
    state.board.lines.Undisturbed
      (fun line => (state.run (hardware number) (operation.routine vectors)).1 = .done ∧
        Retargets line operation)
      (state.run (hardware number) (operation.routine vectors)).2.board.lines := by
  cases operation with
  | register name callback =>
      rw [Operation.routine, State.run_map]
      exact (closes_register number vectors name callback state).weaken fun line h =>
        ⟨Outcome.ofResult_eq_done.1 h.1, h.2⟩
  | retrigger index trigger =>
      rw [Operation.routine, State.run_map]
      exact (closes_switchingRetrigger number index trigger state).weaken fun line h =>
        ⟨Outcome.ofResult_eq_done.1 h.1, h.2⟩
  | _ => exact reprograms.elim

/-! ## Reachable worlds -/

/-- Only programming a trigger can fire a line. -/
theorem fired_respond_call (number : Peripheral → Nat) (react : Reaction Board Adjustment)
    {c : Call} (other : ∀ line trigger, c ≠ .lines (.configureTrigger line trigger))
    (world : World Board Adjustment) :
    (world.respond (hardware number) react (.call c)).2.board.lines.fired =
      world.board.lines.fired := by
  rw [World.respond_call]
  cases c with
  | lines c =>
      cases c with
      | configureTrigger line trigger => exact absurd rfl (other line trigger)
      | _ => rfl
  | _ => rfl

theorem fired_respond {react : Reaction Board Adjustment} {effect : Effect} (plain : effect.Plain)
    (world : World Board Adjustment) :
    (world.respond (hardware number) react effect).2.board.lines.fired =
      world.board.lines.fired := by
  cases effect with
  | invoke _ _ _ => exact plain.elim
  | writeLine _ _ => exact plain.elim
  | call c =>
      refine fired_respond_call number react ?_ world
      rintro line trigger rfl
      exact plain
  | _ => rfl

def SparesTriggers : Command Adjustment → Prop
  | .step ⟨_, .call (.lines (.configureTrigger _ _))⟩ => False
  | _ => True

theorem fired_assembled (number : Peripheral → Nat) (react : Reaction Board Adjustment) :
    Assembled fun α => Upholds (α := α) (hardware number) react
      fun world => world.state.board.lines.fired = 0 where
  toSequential := Upholds.sequential
  perform effect plain := Upholds.perform effect plain.quiet fun world unfired =>
    (fired_respond plain world).trans unfired
  retrigger line trigger := (Quiet.enabling.retrigger line trigger).upholds
    fun state unfired => (closes_retrigger number line trigger state).fired.trans unfired
  switch line on := by
    have kept (state : State Board) (unfired : state.board.lines.fired = 0) :
        (state.run (hardware number) (LineControl.switch line on).run).2.board.lines.fired = 0 := by
      rw [run_switch]
      exact unfired
    cases on with
    | true => exact (Quiet.enabling.lineOn line).upholds kept
    | false => exact (Quiet.enabling.lineOff line).upholds kept

theorem fired_invariant (number : Peripheral → Nat) :
    (rig number).Invariant SparesTriggers
      fun (_ : Unit) world => world.state.board.lines.fired = 0 where
  began _ _ _ unfired := unfired
  ended _ _ _ unfired := unfired
  operate _ operation react keeps _ _ := by
    have parts := fired_assembled number react
    refine parts.operation _ (parts.dispatch ?_) operation
    intro source callback index
    refine Upholds.invoke source callback index ?_ (keeps ())
    intro v unfired
    exact (congrArg (·.lines.fired) v.board_entry).trans unfired
  call _ c react _ world permit unfired := by
    refine (fired_respond_call number react ?_ world).trans unfired
    rintro line trigger rfl
    exact permit
  adjust _ adjustment _ world _ unfired := by
    cases adjustment with
    | isEnabled n => exact unfired
    | stimulate stimulus => cases stimulus <;> exact unfired
  restart react _ world after _ h unfired := by
    have parts := fired_assembled number react
    rw [Rig.eq_of_restart h]
    have stopped := (parts.stop (rig number).hardware.vectors).final unfired
    exact (parts.start (rig number).hardware.vectors).final stopped

/-- No line ever fires while its trigger is programmed, as long as triggers are programmed by
operations only. An operation that may program a trigger leaves the enable bits of all
lines as they were, and the events injected meanwhile in the status, in whatever world and
however it ends; if it succeeds, no event is left waiting for its line. -/
theorem window_closed (number : Peripheral → Nat) (behaviour : Behaviour Board Adjustment)
    (budget : Nat) (commands : List (Command Adjustment)) (world : World Board Adjustment)
    (bodies : ∀ callback index world,
      (behaviour callback index world).Only fun step => SparesTriggers (.step step))
    (throughout : ∀ command ∈ commands, SparesTriggers command)
    (reached : (rig number).Reachable behaviour budget Board.initial commands world) :
    world.board.lines.fired = 0 ∧
    ∀ (react : Reaction Board Adjustment) (before : World Board Adjustment)
      (operation : Operation), operation.Reprograms →
      let (outcome, after) := before.run (hardware number) react
        (operation.routine (hardware number).vectors)
      after.board.lines.enabled = before.board.lines.enabled ∧
      ∀ line : Line, before.board.lines.injected.getLsbD line.val = true →
        after.board.lines.injected.getLsbD line.val = false ∨
          outcome = .done ∧ Retargets line operation →
        after.board.lines.status.getLsbD line.val = true := by
  constructor
  · have fresh : (World.initial Board.initial : World Board Adjustment).state.board.lines.fired =
      0 := rfl
    have parts := fired_assembled number ((rig number).reentrant behaviour budget)
    have started := (parts.start (rig number).hardware.vectors).final fresh
    exact (fired_invariant number).reaches (j := ()) bodies reached throughout started
  · intro react before operation reprograms
    have quiet := (Quiet.operation (hardware number).vectors reprograms.silent).run
      (hardware number) react before
    have kept := undisturbed_operation number (hardware number).vectors reprograms before.state
    rw [← quiet] at kept
    refine ⟨kept.enabled, ?_⟩
    rintro line waits (delivered | programmed)
    · exact kept.status waits delivered
    · exact kept.status waits (kept.delivered programmed)

/-- An enabled line is given another trigger from inside its own callback while an event
waits for that; a restart follows. The event is left in the status and nothing fires. -/
theorem window_closed_nested :
    let told : Callback := ⟨.routine, 1, .gpio .risingEdge, 1⟩
    let operate (operation : Operation) : Step Adjustment := ⟨"", .operate operation⟩
    let stimulate (stimulus : Stimulus) : Step Adjustment := ⟨"", .adjust (.stimulate stimulus)⟩
    let commands := [.step (operate (.register (.gpio 3) told)),
      .step (operate (.enable (.gpio 3))), .step ⟨"", .call (.lines (.setEnabled 4 true))⟩,
      .step (stimulate (.injectOnConfigure 0x18)), .step (stimulate (.raiseLines 0x8)),
      .step (operate (.dispatch .gpio)), .restart]
    let behaviour : Behaviour Board Adjustment := fun _ _ _ =>
      Body.ofSteps [operate (.retrigger 3 .levelLow)]
    ∃ world, (rig Simulated.number).Reachable behaviour 1 Board.initial commands world ∧
      world.board.lines.fired = 0 ∧ world.board.lines.status = 0x8 ∧
      world.board.lines.injected = 0x10 ∧ world.board.lines.enabled = 0x18 := by
  intro told operate stimulate commands behaviour
  have reached : (rig Simulated.number).Reachable behaviour 1 Board.initial commands _ :=
    .later rfl (.later rfl (.later rfl (.later rfl (.later rfl (.later rfl (.later rfl
      (.here _ _)))))))
  have bodies (callback : Callback) (index : Nat) (world : World Board Adjustment) :
      (behaviour callback index world).Only fun step => SparesTriggers (.step step) :=
    ⟨trivial, fun _ => trivial⟩
  have throughout : ∀ command ∈ commands, SparesTriggers command := by
    simp [commands, SparesTriggers, operate, stimulate]
  exact ⟨_, reached, (window_closed _ _ _ _ _ bodies throughout reached).1,
    by decide +kernel, by decide +kernel, by decide +kernel⟩

end Interrupts.Simulated
