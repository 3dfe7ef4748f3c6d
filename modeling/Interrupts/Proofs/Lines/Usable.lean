import Interrupts.Proofs.Global.RoundTrip
import Interrupts.Proofs.Registration.Cases

/-! # Registered lines can be used

A line is made an input and given its trigger before its callback is installed. Nothing turns
an input back or takes a trigger away, so a line with a callback can be used at any later time.
Enabling everything relies on that: it selects the lines that have a trigger, and so misses no
line that has a callback.
-/

namespace Interrupts.Simulated

open Routine Guarded State

/-! ## What a line does not lose -/

namespace LineBank

structure Grows (before after : LineBank) : Prop where
  input (i : Nat) : before.input.getLsbD i = true → after.input.getLsbD i = true
  configured (i : Nat) : before.configured.getLsbD i = true → after.configured.getLsbD i = true

namespace Grows

variable {first middle last : LineBank}

theorem of_eq (input : last.input = first.input) (configured : last.configured = first.configured) :
    first.Grows last :=
  ⟨fun _ h => input ▸ h, fun _ h => configured ▸ h⟩

theorem trans (a : first.Grows middle) (b : middle.Grows last) : first.Grows last :=
  ⟨fun i h => b.input i (a.input i h), fun i h => b.configured i (a.configured i h)⟩

theorem directed (bank : LineBank) (line : Line) : bank.Grows (bank.directed line) :=
  ⟨fun i h => by simp [LineBank.directed, h], fun _ => id⟩

theorem program (bank : LineBank) (line : Line) (bits : Trigger.Encoding) :
    bank.Grows ((bank.deliverInjected line).program line bits) where
  input i h := by
    simp only [LineBank.program, deliverInjected]
    split <;> exact h
  configured i h := by
    simp only [LineBank.program, deliverInjected]
    split <;> simp [h]

theorem retriggered (bank : LineBank) (line : Line) (trigger : Trigger) :
    bank.Grows (bank.retriggered line trigger) := by
  have masked : bank.Grows ((bank.masked line).discarded line) := .of_eq rfl rfl
  exact masked.trans ((program _ line trigger.encode).trans (.of_eq rfl rfl))

theorem respond (bank : LineBank) (call : LineCall) : bank.Grows (bank.respond call).2 := by
  cases call with
  | setInput line => exact directed bank line
  | configureTrigger line trigger =>
      rcases bank.configureTrigger_cases line trigger with refused | accepted
      · rw [refused]
        exact .of_eq rfl rfl
      · rw [accepted]
        exact program bank line trigger.encode
  | _ => exact .of_eq rfl rfl

end Grows

theorem configured_retriggered (bank : LineBank) (line : Line) (trigger : Trigger) :
    (bank.retriggered line trigger).configured.getLsbD line.val = true := by
  simp [retriggered, programmed, program]

end LineBank

/-- On the way to the second state no line has lost its input mode, what was programmed for
it, or its stored trigger. -/
structure Gains (before after : State Board) : Prop where
  bank : before.board.lines.Grows after.board.lines
  stored (line : Line) : (before.lines.get line).trigger.isSome = true →
    (after.lines.get line).trigger.isSome = true

variable {number : Peripheral → Nat} {line : Line} {state after : State Board}

namespace Gains

theorem refl (state : State Board) : Gains state state := ⟨.of_eq rfl rfl, fun _ => id⟩

theorem trans {last : State Board} (first : Gains state after) (later : Gains after last) :
    Gains state last :=
  ⟨first.bank.trans later.bank, fun line h => later.stored line (first.stored line h)⟩

theorem set (gains : Gains state after) (line : Line) (trigger : Trigger) (on : Bool) :
    Gains state { after with lines := after.lines.set line ⟨some trigger, on⟩ } where
  bank := gains.bank
  stored other given := by
    rw [LineTable.get_set]
    split
    next => rfl
    next => exact gains.stored other given

theorem call (number : Peripheral → Nat) (c : Call) (state : State Board) :
    Gains state (state.respond (hardware number) (.call c)).2 := by
  cases c with
  | lines c => exact ⟨.respond _ c, fun _ => id⟩
  | _ => exact ⟨.of_eq rfl rfl, fun _ => id⟩

theorem assembled (number : Peripheral → Nat) : Assembled fun α (routine : Routine α) =>
    ∀ state : State Board, Gains state (state.run (hardware number) routine).2 where
  pure _ state := refl state
  bind first later state := by
    rw [run_bind]
    exact (first state).trans (later _ _)
  perform effect plain state := by
    cases effect with
    | call c => exact call number c state
    | writeLine _ _ => exact plain.elim
    | invoke _ _ _ => exact plain.elim
    | _ => exact ⟨.of_eq rfl rfl, fun _ => id⟩
  retrigger line trigger state := by
    rw [run_retrigger]
    split
    · exact ⟨.of_eq rfl rfl, fun _ => id⟩
    · have given : Gains state (withLines state (state.board.lines.retriggered line trigger)) :=
        ⟨.retriggered _ line trigger, fun _ => id⟩
      exact given.set line trigger _
  switch line on state := by
    refine ⟨.of_eq rfl rfl, fun other given => ?_⟩
    rw [trigger_switch]
    exact given

theorem operation (number : Peripheral → Nat) (operation : Operation) (state : State Board) :
    Gains state
      (state.run (hardware number) (operation.routine (hardware number).vectors)).2 := by
  have parts := assembled number
  exact parts.operation _ (parts.dispatch fun _ _ _ => refl) operation state

theorem adjust (adjustment : Adjustment) (state : State Board) :
    Gains state { state with board := (Simulated.adjust adjustment state.board).2 } := by
  cases adjustment with
  | isEnabled n => exact refl state
  | stimulate stimulus => cases stimulus <;> exact ⟨.of_eq rfl rfl, fun _ => id⟩

theorem keeps (number : Peripheral → Nat) (start : State Board) :
    (rig number).Keeps (· ≠ .restart) (Gains start) where
  parts := (assembled number).enabling.toSectional.mono Keeps.sequential
    fun parts state gains => gains.trans (parts state)
  operate _ change _ _ state gains := gains.trans (operation number change state)
  call _ c _ state gains := gains.trans (call number c state)
  adjust _ adjustment state _ gains := gains.trans (adjust adjustment state)
  restart _ permit := absurd rfl permit

end Gains

/-! ## Registered lines -/

/-- The line is an input. It has a trigger, and a trigger was programmed for it. -/
structure Usable (line : Line) (state : State Board) : Prop where
  input : state.board.lines.input.getLsbD line.val = true
  programmed : state.board.lines.configured.getLsbD line.val = true
  stored : (state.lines.get line).trigger.isSome = true

theorem Usable.gains (usable : Usable line state) (gains : Gains state after) :
    Usable line after :=
  ⟨gains.bank.input _ usable.input, gains.bank.configured _ usable.programmed,
    gains.stored line usable.stored⟩

def RegisteredUsable (state : State Board) : Prop :=
  ∀ line, state.registry.contains (.gpio line) = true → Usable line state

theorem RegisteredUsable.gains (holds : RegisteredUsable state) (gains : Gains state after)
    (registry : ∀ line, after.registry.contains (.gpio line) = true →
      state.registry.contains (.gpio line) = true) : RegisteredUsable after :=
  fun line registered => (holds line (registry line registered)).gains gains

theorem RegisteredUsable.of_empty (board : Board) :
    RegisteredUsable ⟨board, .empty, .initial⟩ := fun line registered => by
  rw [Registry.contains_eq_isSome, Registry.find?_empty] at registered
  cases registered

theorem registeredUsable_enabling (number : Peripheral → Nat) :
    Enabling fun α => State.Keeps (α := α) (hardware number) RegisteredUsable :=
  ((Gains.assembled number).enabling.and (settled (hardware number))).mono Keeps.sequential
    fun parts state holds =>
      holds.gains (parts.1 state) fun _ registered => parts.2 state ▸ registered

theorem registeredUsable_erase (number : Peripheral → Nat) (source : Source) :
    State.Keeps (hardware number) RegisteredUsable (Routine.perform (.erase source)) := by
  intro state holds
  refine holds.gains ⟨.of_eq rfl rfl, fun _ => id⟩ fun line registered => ?_
  change (state.registry.erase source).2.contains (.gpio line) = true at registered
  rw [Registry.contains_eq_isSome, Registry.find?_erase] at registered
  split at registered
  · cases registered
  · exact registered

/-- A line whose registration succeeds is an input by then, and has its trigger. -/
theorem RegisteredUsable.registers {vectors : VectorTable} {name : SourceName}
    {callback : Callback} {result : Except Fault Unit} (holds : RegisteredUsable state)
    (ended : Registers vectors name callback state (result, after)) : RegisteredUsable after := by
  cases ended with
  | refused fault => exact holds
  | @lineRefused line _ _ _ _ _ =>
      have grown : state.board.lines.Grows ((state.board.lines.directed line).discarded line) :=
        .trans (.directed _ line) (.of_eq rfl rfl)
      exact holds.gains ⟨grown, fun _ => id⟩ fun _ => id
  | @line own trigger _ _ _ =>
      have given := LineBank.Grows.retriggered (state.board.lines.directed own) own trigger
      have prepared : Gains state (withLines
          (prioritised state (vectors.number .gpio) callback.priority)
          ((state.board.lines.directed own).retriggered own trigger)) :=
        ⟨(LineBank.Grows.directed _ own).trans given, fun _ => id⟩
      have gains := prepared.set own trigger (state.board.lines.enabled.getLsbD own.val)
      intro line registered
      by_cases same : own = line
      · subst same
        refine ⟨given.input _ ?_, LineBank.configured_retriggered _ own trigger, ?_⟩
        · simp [LineBank.directed]
        · rw [LineTable.get_set, if_pos rfl]
          rfl
      · rw [Registry.contains_eq_isSome, Registry.find?_install,
          if_neg fun h => same (Source.gpio.inj h)] at registered
        exact (holds line registered).gains ⟨gains.bank, gains.stored⟩
  | @other source _ plain _ _ =>
      refine holds.gains ⟨.of_eq rfl rfl, fun _ => id⟩ fun line registered => ?_
      rw [Registry.contains_eq_isSome, Registry.find?_install, if_neg (plain line)] at registered
      exact registered

theorem registeredUsable_keeps (number : Peripheral → Nat) :
    (rig number).Keeps (fun _ => True) RegisteredUsable where
  parts := (registeredUsable_enabling number).toSectional
  operate label operation _ silent := by
    have parts := registeredUsable_enabling number
    have layers := Keeps.layered parts.toSectional
    have erase := registeredUsable_erase number
    refine layers.operation _ operation (fun enrols => ?_) (layers.enables parts _ operation)
      fun delivers => absurd delivers silent
    cases operation with
    | register name callback =>
        refine layers.outside.map (fun state holds => ?_) _
        exact holds.registers (registers number _ name callback state)
    | unregister name => exact layers.outside.map (layers.unregister _ name erase) _
    | release index => exact layers.outside.map (layers.release _ index erase) _
    | _ => exact enrols.elim
  call label c _ state holds := holds.gains (Gains.call number c state) fun _ => id
  adjust label adjustment state _ holds :=
    holds.gains (Gains.adjust adjustment state) fun _ => id
  restart state _ _ := .of_empty state.board

theorem lineIs_of_enableAll {react : Reaction Board Adjustment}
    {before after : World Board Adjustment}
    (executed : (rig number).act react (.operate .enableAll) before = (.done, after))
    (usable : Usable line after.state) : LineIs true line after.state := by
  have ran := State.ok_of_done (hardware number) (Rig.state_of_executed id executed)
  exact (entryOn_of_enableAll .gpio ran).2 line usable.stored

/-- In every world that a session reaches, every line with a callback can be used. Until a
restart no line that has a trigger is without one. So enabling everything, if it succeeds,
leaves every line on that has a callback, whatever came before. -/
theorem registered_lines_usable (number : Peripheral → Nat) (behaviour : Behaviour Board Adjustment)
    (budget : Nat) (board : Board) (commands : List (Command Adjustment)) :
    let react := (rig number).reentrant behaviour budget
    let history := (rig number).history behaviour budget commands
      ((rig number).start react (World.initial board))
    (∀ world, (rig number).Reachable behaviour budget board commands world →
      ∀ line, world.registry.contains (.gpio line) = true → Usable line world.state) ∧
    (∀ earlier moment between last later,
      history = earlier ++ moment :: (between ++ last :: later) →
      (∀ m ∈ moment :: between, m.Spares (· ≠ .restart)) →
        ∀ line, (moment.world.lines.get line).trigger.isSome = true →
          (last.world.lines.get line).trigger.isSome = true) ∧
    ∀ label before after, .ended (.step ⟨label, .operate .enableAll⟩) before .done after ∈ history →
      ∀ line, after.registry.contains (.gpio line) = true → LineIs true line after.state := by
  intro react history
  have keeps := registeredUsable_keeps number
  refine ⟨fun world reached => ?_, ?_, ?_⟩
  · exact keeps.reachable (fun _ _ _ => Program.only_of_forall (fun _ => trivial) _)
      (fun _ _ => trivial) reached (.of_empty board)
  · intro earlier moment between last later session spared line given
    have carried := (Gains.keeps number moment.world.state).carries.history behaviour budget
      commands ((rig number).start react (World.initial board))
    change Carried _ _ _ history _ at carried
    rw [session] at carried
    rw [List.forall_mem_cons] at spared
    exact (carried.since.lasts ⟨spared.1, .refl _⟩ spared.2).stored line given
  · intro label before after ended line registered
    have started : RegisteredUsable ((rig number).start react (World.initial board)).state :=
      .of_empty board
    have holds : RegisteredUsable after.state :=
      keeps.moments (fun _ => trivial) started _ ended
    obtain ⟨react, executed⟩ := Rig.executed_history _ ended
    exact lineIs_of_enableAll executed (holds line registered)

/-- The replacement of a callback is refused by its line, and all sources are disabled. The line
can be used nevertheless, and it is on once everything has been enabled. -/
theorem registered_lines_usable_refused :
    let told : Callback := ⟨.routine, 1, .gpio .risingEdge, 1⟩
    let other : Callback := ⟨.routine, 2, .gpio .levelLow, 1⟩
    let operate (operation : Operation) : Step Adjustment := ⟨"", .operate operation⟩
    let steps := [operate (.register (.gpio 3) told),
      ⟨"", .adjust (.stimulate (.failConfigure 0x8))⟩, operate (.register (.gpio 3) other),
      operate .disableAll]
    let behaviour : Behaviour Board Adjustment := fun _ _ _ => Body.ofSteps []
    let usual := rig Simulated.number
    let react := usual.reentrant behaviour 0
    let before := usual.follow react steps (usual.start react (World.initial Board.initial))
    before.registry.find? (.gpio 3) = some told ∧ before.board.lines.enabled = 0 ∧
      Usable 3 before.state ∧
      ∃ after, usual.act react (.operate .enableAll) before = (.done, after) ∧
        LineIs true 3 after.state := by
  intro told other operate steps behaviour usual react before
  have registered : before.registry.find? (.gpio 3) = some told := by decide +kernel
  have dark : before.board.lines.enabled = 0 := by decide +kernel
  have done : (usual.act react (.operate .enableAll) before).1 = .done := by decide +kernel
  have kept : (usual.act react (.operate .enableAll) before).2.registry.contains (.gpio 3) =
      true := by decide +kernel
  generalize executed : usual.act react (.operate .enableAll) before = ended at done kept
  obtain ⟨outcome, after⟩ := ended
  cases done
  have reached : usual.Reachable behaviour 0 Board.initial (steps.map Command.step) before :=
    Rig.reaches_follow 0 steps _
  have usable := (registered_lines_usable Simulated.number behaviour 0 Board.initial _).1 before
    reached 3 (congrArg Option.isSome registered)
  have moment := Rig.ended_mem_history (operate .enableAll) [] rfl executed
  have lit := (registered_lines_usable Simulated.number behaviour 0 Board.initial _).2.2 ""
    before after moment 3 kept
  exact ⟨registered, dark, usable, after, rfl, lit⟩

end Interrupts.Simulated
