import Interrupts.Proofs.Registration.Cases

/-! # Refused registrations

A registration that is refused leaves both tables as they were, and the board too, unless
the line was what refused: then the priority of the vector of the lines, the input bit of
the line and its stale status are what has changed, and nothing else. A name out of range
or a setting of another kind is not even brought to the board.
-/

namespace Interrupts.Simulated

open Routine Guarded Registration

/-- The source is out of range, or the setting is of another kind. -/
def Misfits (name : SourceName) (callback : Callback) : Prop :=
  ∀ source, name.resolve = .ok source → callback.setting.fits source = false

/-- The board after `line` refused its trigger and vector `n` had taken the priority. -/
def lineRefused (board : Board) (n : Nat) (priority : Priority) (line : Line) : Board :=
  { board with
    controller := { board.controller with
      priorities := board.controller.priorities.setIfInBounds n priority }
    lines := { board.lines with
      input := board.lines.input ||| line.mask
      status := board.lines.status.without line.mask } }

theorem eq_invalidArgument_of_resolve {name : SourceName} {fault : Fault}
    (h : name.resolve = .error fault) : fault = .invalidArgument := by
  unfold SourceName.resolve at h
  cases name with
  | gpio index =>
      dsimp only at h
      split at h <;> cases h
      rfl
  | rtc => cases h
  | uart index =>
      dsimp only at h
      split at h <;> cases h
      rfl

theorem register_of_misfits (vectors : VectorTable) {name : SourceName} {callback : Callback}
    (misfits : Misfits name callback) :
    ∃ notice, (Operation.register name callback).routine vectors = (do
      Routine.note notice
      return .refused .invalidArgument) := by
  rw [Operation.routine, register_eq]
  cases named : name.resolve with
  | error fault =>
      refine ⟨.outOfRange name, ?_⟩
      rw [resolve, named, eq_invalidArgument_of_resolve named]
      rfl
  | ok source =>
      have misfit : ¬ callback.setting.fits source = true := by
        rw [misfits source named]
        exact Bool.false_ne_true
      refine ⟨.misfit callback.setting name, ?_⟩
      rw [resolve_of_ok named, pure_bind, if_neg misfit]
      rfl

/-- How a registration that ends in the state `after` may have been refused. -/
theorem registers_error {number : Peripheral → Nat} {name : SourceName} {callback : Callback}
    {state after : State Board} {fault : Fault}
    (ended : Registers (VectorTable.ofNumbering number) name callback state
      (.error fault, after)) :
    after = state ∨
      ∃ line trigger, name.resolve = .ok (.gpio line) ∧ callback.setting = .gpio trigger ∧
        Accepts state (number .gpio) callback.priority ∧
        state.board.lines.failing.getLsbD line.val = true ∧ fault = .busy ∧
        after = { state with
          board := lineRefused state.board (number .gpio) callback.priority line } := by
  cases ended with
  | refused => exact .inl rfl
  | lineRefused named setting accepted failing =>
      rw [VectorTable.number_ofNumbering] at accepted ⊢
      exact .inr ⟨_, _, named, setting, accepted, failing, rfl, rfl⟩

theorem accepted_of_registers {number : Peripheral → Nat} {name : SourceName}
    {callback : Callback} {state after : State Board}
    (ended : Registers (VectorTable.ofNumbering number) name callback state (.ok (), after)) :
    ∃ source, name.resolve = .ok source ∧
      Accepts state (number source.peripheral) callback.priority := by
  cases ended with
  | line named _ accepted =>
      rw [VectorTable.number_ofNumbering] at accepted
      exact ⟨_, named, accepted⟩
  | other named _ accepted _ =>
      rw [VectorTable.number_ofNumbering] at accepted
      exact ⟨_, named, accepted⟩

theorem registers_run (number : Peripheral → Nat) (react : Reaction Board Adjustment)
    (world : World Board Adjustment) (vectors : VectorTable) (name : SourceName)
    (callback : Callback) :
    let ended := world.run (hardware number) react
      ((Operation.register name callback).routine vectors)
    ∃ result, ended.1 = .ofResult result ∧
      Registers vectors name callback world.state (result, ended.2.state) := by
  intro ended
  let routine := (Operation.register name callback).routine vectors
  have quiet : Quiet routine := Quiet.operation _ id
  have ended := registers number vectors name callback world.state
  have mapped : world.state.run (hardware number) routine = _ := State.run_map _ _ _ _
  refine ⟨_, (quiet.fst world).trans (congrArg Prod.fst mapped), ?_⟩
  change Registers vectors name callback world.state
    (_, (world.run (hardware number) react routine).2.state)
  rw [quiet.state world, mapped]
  exact ended

/-- If a registration is refused, the registry and the line table are as before, and so is the
board unless the line refused to be programmed. What does not fit is not brought to the
board; where the controller does not take the priority nothing is changed. -/
theorem register_refused (number : Peripheral → Nat) (react : Reaction Board Adjustment)
    (world : World Board Adjustment) (name : SourceName) (callback : Callback) :
    let routine := (Operation.register name callback).routine (hardware number).vectors
    let outcome := (world.run (hardware number) react routine).1
    let after := (world.run (hardware number) react routine).2
    (∀ fault, outcome = .refused fault →
      after.registry = world.registry ∧ after.lines = world.lines ∧
      (after.board = world.board ∨
        ∃ line trigger, name.resolve = .ok (.gpio line) ∧ callback.setting = .gpio trigger ∧
          world.board.lines.failing.getLsbD line.val = true ∧ fault = .busy ∧
          after.board = lineRefused world.board (number .gpio) callback.priority line)) ∧
    (Misfits name callback → outcome = .refused .invalidArgument ∧ routine.Only
      fun effect => ∃ notice, effect = .note notice) ∧
    (∀ source, name.resolve = .ok source →
      ¬ Accepts world.state (number source.peripheral) callback.priority →
        (∃ fault, outcome = .refused fault) ∧ after.state = world.state) := by
  intro routine outcome after
  obtain ⟨result, said, ended⟩ :=
    registers_run number react world (hardware number).vectors name callback
  refine ⟨?_, ?_, ?_⟩
  · rintro fault refused
    cases result with
    | ok value => cases said.symm.trans refused
    | error other =>
        cases said.symm.trans refused
        obtain same | ⟨line, trigger, named, setting, -, failing, busy, changed⟩ :=
          registers_error ended
        · exact ⟨congrArg State.registry same, congrArg State.lines same,
            .inl (congrArg State.board same)⟩
        · exact ⟨congrArg State.registry changed, congrArg State.lines changed,
            .inr ⟨line, trigger, named, setting, failing, busy, congrArg State.board changed⟩⟩
  · intro misfits
    obtain ⟨notice, same⟩ := register_of_misfits (hardware number).vectors misfits
    simp only [outcome, routine, same]
    exact ⟨rfl, ⟨notice, rfl⟩, fun _ => trivial⟩
  · intro source named rejected
    cases result with
    | ok value =>
        obtain ⟨other, same, accepted⟩ := accepted_of_registers ended
        cases named.symm.trans same
        exact absurd accepted rejected
    | error fault =>
        refine ⟨⟨fault, said⟩, ?_⟩
        obtain same | ⟨line, _, other, _, accepted, _⟩ := registers_error ended
        · exact same
        · cases named.symm.trans other
          exact absurd accepted rejected

/-- A line that is enabled and can no longer be programmed refuses a second callback. The
first one stays registered, and the board has changed. -/
theorem register_refused_busy :
    let first : Callback := ⟨.routine, 1, .gpio .risingEdge, 1⟩
    let second : Callback := ⟨.routine, 2, .gpio .levelLow, 7⟩
    let react : Reaction Board Adjustment := fun _ _ world => world
    let vectors := (hardware Simulated.number).vectors
    let prepared := ((World.initial Board.initial).run (hardware Simulated.number) react do
      let _ ← (Operation.register (.gpio 3) first).routine vectors
      (Operation.enable (.gpio 3)).routine vectors).2
    let world := { prepared with board :=
      (prepared.board.stimulate (.failConfigure 0x8)).stimulate (.raiseLines 0x8) }
    let ended := world.run (hardware Simulated.number) react
      ((Operation.register (.gpio 3) second).routine vectors)
    ended.1 = .refused .busy ∧ ended.2.registry = world.registry ∧
      ended.2.registry.find? (.gpio 3) = some first ∧ ended.2.board ≠ world.board := by
  intro first second react vectors prepared world ended
  have busy : ended.1 = .refused .busy := by decide +kernel
  obtain ⟨registry, -⟩ :=
    (register_refused Simulated.number react world (.gpio 3) second).1 .busy busy
  dsimp only [ended, vectors]
  exact ⟨busy, registry, by decide +kernel, by decide +kernel⟩

end Interrupts.Simulated
