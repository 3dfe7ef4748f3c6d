import Interrupts.Board.Faulty
import Interrupts.Proofs.Run.Calls
import Interrupts.Proofs.Simulated.LineChange

/-! # Giving a line another trigger, on any bank

What a bank answers to the calls by which a line is given a trigger is not for software to
decide, and any of them may be refused. `Course` follows the calls on a bank that answers in
any way: which of them are made, what comes of it, and when the line table is written.
-/

namespace Interrupts

open Routine Guarded

variable {β η : Type}

namespace LineControl

def programming (hardware : Hardware β) (line : Line) (trigger : Trigger) (board : β) :
    Except Fault Unit × β :=
  hardware.askLines (.configureTrigger line trigger)
    (hardware.askLines (.clearStatus line.mask) board).2

def turning (hardware : Hardware β) (line : Line) (wasEnabled on : Bool) (board : β) :
    Except Fault Unit × β :=
  if wasEnabled then hardware.askLines (.setEnabled line on) board else (.ok (), board)

/-- The answers to the calls by which a line is given a trigger, each with the board
afterwards. -/
structure Course (β : Type) where
  asked : Bool × β
  masked : Except Fault Unit × β
  programmed : Except Fault Unit × β
  restored : Except Fault Unit × β

def course (hardware : Hardware β) (line : Line) (trigger : Trigger) (board : β) : Course β :=
  let asked := hardware.askLines (.isEnabled line) board
  let masked := turning hardware line asked.1 false asked.2
  let programmed := programming hardware line trigger masked.2
  let restored := turning hardware line asked.1 true programmed.2
  ⟨asked, masked, programmed, restored⟩

def turns (line : Line) (wasEnabled on : Bool) : List LineCall :=
  if wasEnabled then [.setEnabled line on] else []

namespace Course

def wasEnabled (course : Course β) : Bool := course.asked.1

/-- The calls that are made. A line that cannot be masked is left at that. -/
def calls (course : Course β) (line : Line) (trigger : Trigger) : List LineCall :=
  .isEnabled line :: turns line course.wasEnabled false ++
    match course.masked.1 with
    | .ok () => [.clearStatus line.mask, .configureTrigger line trigger] ++
        turns line course.wasEnabled true
    | .error _ => []

/-- The refusal to mask the line, else that of the programming, else that of restoring. -/
def result (course : Course β) : Except Fault Unit := do
  course.masked.1
  course.programmed.1
  course.restored.1

def last (course : Course β) : β :=
  match course.masked.1 with
  | .ok () => course.restored.2
  | .error _ => course.masked.2

end Course

/-- What is asked of the line table for this result. -/
def stores (line : Line) (setting : LineSetting) : Except Fault Unit → List Effect
  | .ok () => [.writeLine line setting]
  | .error _ => []

/-- What becomes of the line table for this result. -/
def stored (line : Line) (setting : LineSetting) (table : LineTable) :
    Except Fault Unit → LineTable
  | .ok () => table.set line setting
  | .error _ => table

/-! ## The program in two halves -/

def shield (line : Line) (wasEnabled : Bool) : Guarded Unit :=
  if wasEnabled then attempt (lines (.setEnabled line false)) else pure ()

def reprogram (line : Line) (trigger : Trigger) (wasEnabled : Bool) : Guarded Unit := do
  lines (.clearStatus line.mask)
  let programmed ← observe (lines (.configureTrigger line trigger))
  let restored ← observe (if wasEnabled then lines (.setEnabled line true) else pure (.ok ()))
  conclude programmed
  conclude restored
  perform (.writeLine line ⟨some trigger, wasEnabled⟩)

theorem retrigger_eq (line : Line) (trigger : Trigger) :
    retrigger line trigger = (do
      let wasEnabled ← lines (.isEnabled line)
      shield line wasEnabled
      reprogram line trigger wasEnabled) := by
  refine bind_congr fun wasEnabled => ?_
  cases wasEnabled <;> rfl

variable {hardware : Hardware β} {effects : List Effect} {after : State β} {α γ : Type}

/-- Begun in the state, the program asks for these effects and ends with this result in this
state. -/
structure Proceeds (hardware : Hardware β) (program : Guarded α) (state : State β)
    (effects : List Effect) (result : Except Fault α) (after : State β) : Prop where
  run : state.run hardware program.run = (result, after)
  requests : (state.requests hardware program.run).map Prod.fst = effects

def asking (calls : List LineCall) : List Effect := calls.map fun c => .call (.lines c)

namespace Proceeds

variable {state between : State β} {result : Except Fault γ} {earlier : List Effect}

theorem andThen {program : Guarded α} {rest : α → Guarded γ} {value : α}
    (first : Proceeds hardware program state earlier (.ok value) between)
    (later : Proceeds hardware (rest value) between effects result after) :
    Proceeds hardware (program >>= rest) state (earlier ++ effects) result after where
  run := (State.run_andThen_ok hardware first.run).trans later.run
  requests := by
    rw [State.requests_andThen, first.run, List.map_append, first.requests, later.requests]

theorem andThen_error {program : Guarded α} {rest : α → Guarded γ} {fault : Fault}
    (first : Proceeds hardware program state earlier (.error fault) between) :
    Proceeds hardware (program >>= rest) state earlier (.error fault) between where
  run := State.run_andThen_error hardware first.run
  requests := by
    rw [State.requests_andThen, first.run, List.append_nil, first.requests]

theorem observe (hardware : Hardware β) (c : LineCall) (state : State β) :
    Proceeds hardware (observe (lines c)) state (asking [c])
      (.ok (hardware.askLines c state.board).1)
      { state with board := (hardware.askLines c state.board).2 } :=
  ⟨rfl, rfl⟩

end Proceeds

theorem shield_proceeds (hardware : Hardware β) (line : Line) (wasEnabled : Bool)
    (state : State β) :
    let masked := turning hardware line wasEnabled false state.board
    Proceeds hardware (shield line wasEnabled) state (asking (turns line wasEnabled false))
      masked.1 { state with board := masked.2 } := by
  cases wasEnabled <;> exact ⟨rfl, rfl⟩

theorem restore_proceeds (hardware : Hardware β) (line : Line) (wasEnabled : Bool)
    (state : State β) :
    let restored := turning hardware line wasEnabled true state.board
    Proceeds hardware
      (observe (if wasEnabled then lines (.setEnabled line true) else pure (.ok ()))) state
      (asking (turns line wasEnabled true)) (.ok restored.1)
      { state with board := restored.2 } := by
  cases wasEnabled <;> exact ⟨rfl, rfl⟩

/-- Of two results that were kept back the first refusal counts; without one the setting is
stored. -/
theorem conclude_proceeds (hardware : Hardware β) (line : Line) (setting : LineSetting)
    (programmed restored : Except Fault Unit) (state : State β) :
    let result : Except Fault Unit := do programmed; restored
    Proceeds hardware
      (do conclude programmed; conclude restored; perform (.writeLine line setting)) state
      (stores line setting result) result
      { state with lines := stored line setting state.lines result } := by
  cases programmed <;> cases restored <;> exact ⟨rfl, rfl⟩

theorem reprogram_proceeds (hardware : Hardware β) (line : Line) (trigger : Trigger)
    (wasEnabled : Bool) (state : State β) :
    let programmed := programming hardware line trigger state.board
    let restored := turning hardware line wasEnabled true programmed.2
    let setting : LineSetting := ⟨some trigger, wasEnabled⟩
    let result : Except Fault Unit := do programmed.1; restored.1
    Proceeds hardware (reprogram line trigger wasEnabled) state
      (asking ([.clearStatus line.mask, .configureTrigger line trigger] ++
        turns line wasEnabled true) ++ stores line setting result)
      result
      { state with board := restored.2, lines := stored line setting state.lines result } := by
  intro programmed restored setting result
  have split : asking ([.clearStatus line.mask, .configureTrigger line trigger] ++
        turns line wasEnabled true) ++ stores line setting result =
      asking [.clearStatus line.mask] ++ (asking [.configureTrigger line trigger] ++
        (asking (turns line wasEnabled true) ++ stores line setting result)) := by
    simp [asking]
  rw [split]
  apply (Proceeds.observe hardware (.clearStatus line.mask) state).andThen
  apply (Proceeds.observe hardware (.configureTrigger line trigger) _).andThen
  apply (restore_proceeds hardware line wasEnabled _).andThen
  exact conclude_proceeds hardware line setting programmed.1 restored.1
    { state with board := restored.2 }

/-- The calls are made, the result comes about and the setting is stored as the answers have
it, and nothing else is asked for. -/
theorem retrigger_proceeds (hardware : Hardware β) (line : Line) (trigger : Trigger)
    (state : State β) :
    let course := course hardware line trigger state.board
    let setting : LineSetting := ⟨some trigger, course.wasEnabled⟩
    Proceeds hardware (retrigger line trigger) state
      (asking (course.calls line trigger) ++ stores line setting course.result) course.result
      { state with
        board := course.last, lines := stored line setting state.lines course.result } := by
  intro course setting
  have masked : Proceeds hardware (shield line course.wasEnabled)
      { state with board := course.asked.2 } (asking (turns line course.wasEnabled false))
      course.masked.1 { state with board := course.masked.2 } :=
    shield_proceeds hardware line course.wasEnabled { state with board := course.asked.2 }
  rw [retrigger_eq]
  cases first : course.masked.1 with
  | ok value =>
      rw [first] at masked
      have calls : course.calls line trigger = .isEnabled line ::
          (turns line course.wasEnabled false ++ ([.clearStatus line.mask,
            .configureTrigger line trigger] ++ turns line course.wasEnabled true)) := by
        rw [Course.calls, first]
        rfl
      have result : course.result = (do course.programmed.1; course.restored.1) := by
        rw [Course.result, first]
        rfl
      have last : course.last = course.restored.2 := by rw [Course.last, first]
      rw [calls, result, last, asking, List.map_cons, List.map_append, List.cons_append,
        List.append_assoc]
      apply (Proceeds.observe hardware (.isEnabled line) state).andThen
      apply masked.andThen
      exact reprogram_proceeds hardware line trigger course.wasEnabled
        { state with board := course.masked.2 }
  | error fault =>
      rw [first] at masked
      have calls : course.calls line trigger =
          .isEnabled line :: turns line course.wasEnabled false := by
        rw [Course.calls, first, List.append_nil]
      have result : course.result = .error fault := by
        rw [Course.result, first]
        rfl
      have last : course.last = course.masked.2 := by rw [Course.last, first]
      rw [calls, result, last, stores, List.append_nil]
      apply (Proceeds.observe hardware (.isEnabled line) state).andThen
      exact masked.andThen_error

/-- On the simulated board a line that is given a trigger has afterwards the stored setting
that its registers hold, whatever the two were before. -/
theorem get_eq_setting_of_retrigger {number : Peripheral → Nat} {line : Line}
    {trigger : Trigger} {state after : State Simulated.Board}
    (done : state.run (Simulated.hardware number) (retrigger line trigger).run =
      (.ok (), after)) :
    after.lines.get line = after.board.lines.setting line := by
  rw [Simulated.run_retrigger] at done
  split at done
  next => cases done
  next =>
    cases done
    have stored := state.lines.get_set line line
      ⟨some trigger, state.board.lines.enabled.getLsbD line.val⟩
    rw [if_pos rfl] at stored
    exact stored.trans (state.board.lines.setting_retriggered line trigger).symm

/-- Whatever the bank answers, giving a line a trigger asks for nothing but this: whether the
line is enabled; that it be masked, if it was; then, unless that was refused, that its status
be discarded, that the trigger be programmed, and that the line be enabled again, if it was.
The first refusal counts, except that after programming the restoring is still asked for.
Only without a refusal is the table written, and only for this line. On the simulated board
the setting then stored is what the registers of the line hold. -/
theorem retrigger_transacts (hardware : Hardware β) (react : Reaction β η) (line : Line)
    (trigger : Trigger) (world : World β η) :
    let course := course hardware line trigger world.board
    let setting : LineSetting := ⟨some trigger, course.wasEnabled⟩
    let program := (retrigger line trigger).run
    let effects := (world.requests hardware react program).map Prod.fst
    let after := (world.run hardware react program).2
    (world.run hardware react program).1 = course.result ∧
    after.board = course.last ∧ after.registry = world.registry ∧
    (course.result = .ok () →
      effects = asking (course.calls line trigger) ++ [.writeLine line setting] ∧
      after.lines = world.lines.set line setting) ∧
    (∀ fault, course.result = .error fault →
      effects = asking (course.calls line trigger) ∧ after.lines = world.lines) ∧
    ∀ (number : Peripheral → Nat) (react : Reaction Simulated.Board Simulated.Adjustment)
      (world : World Simulated.Board Simulated.Adjustment),
      let after := (world.run (Simulated.hardware number) react program).2
      (world.run (Simulated.hardware number) react program).1 = .ok () →
        (after.lines.get line).trigger = after.board.lines.trigger? line ∧
        (after.lines.get line).enabled = after.board.lines.enabled.getLsbD line.val := by
  intro course setting program effects after
  have quiet : Quiet program := Quiet.enabling.retrigger line trigger
  have inner : program.Only Effect.Inner := Effect.inner_enabling.retrigger line trigger
  have proceeds : Proceeds hardware (retrigger line trigger) world.state _ _ _ :=
    retrigger_proceeds hardware line trigger world.state
  have requests : effects =
      asking (course.calls line trigger) ++ stores line setting course.result := by
    have same := congrArg (List.map Prod.fst) (World.requests_state hardware react inner world)
    rw [proceeds.requests, List.map_map] at same
    exact same
  have result : (world.run hardware react program).1 = course.result := by
    rw [quiet.fst, proceeds.run]
    rfl
  have last : after.state = ⟨course.last, world.registry,
      stored line setting world.lines course.result⟩ := by
    rw [quiet.state, proceeds.run]
    rfl
  refine ⟨result, congrArg State.board last, congrArg State.registry last, ?_, ?_, ?_⟩
  · intro ok
    rw [ok] at requests last
    exact ⟨requests, congrArg State.lines last⟩
  · intro fault error
    rw [error, stores, List.append_nil] at requests
    rw [error] at last
    exact ⟨requests, congrArg State.lines last⟩
  · intro number react world after done
    have ran : (_, _) = world.state.run (Simulated.hardware number) program :=
      quiet.run (Simulated.hardware number) react world
    have agrees := get_eq_setting_of_retrigger (ran.symm.trans (congrArg (·, _) done))
    exact ⟨congrArg LineSetting.trigger agrees, congrArg LineSetting.enabled agrees⟩

/-- A line is enabled at its bank, and the table does not know of it. The change sets the
table right; if both the programming and the restoring are refused, the table stays wrong. -/
theorem retrigger_transacts_unrecorded :
    let bank : Simulated.LineBank := { Simulated.LineBank.initial with enabled := 0x8 }
    let board : Simulated.Board := { Simulated.Board.initial with lines := bank }
    let hardware := Simulated.hardware Simulated.number
    let program := (retrigger 3 .levelLow).run
    let world : World Simulated.Board Simulated.Adjustment := World.initial board
    let after := (world.run hardware (fun _ _ => id) program).2
    let refusals : List Refusal :=
      [⟨"gpio.configure_trigger", 0, .busy⟩, ⟨"gpio.set_irq_enabled", 1, .invalidArgument⟩]
    let refusing : World (Faulty Simulated.Board) Unit := World.initial ⟨board, refusals⟩
    let refused := refusing.run (Faulty.hardware hardware) (fun _ _ => id) program
    world.lines.get 3 = ⟨none, false⟩ ∧
    after.lines = world.lines.set 3 ⟨some .levelLow, true⟩ ∧
    (after.lines.get 3).trigger = after.board.lines.trigger? 3 ∧
    (refusing.requests (Faulty.hardware hardware) (fun _ _ => id) program).map Prod.fst =
      asking [.isEnabled 3, .setEnabled 3 false, .clearStatus 0x8,
        .configureTrigger 3 .levelLow, .setEnabled 3 true] ∧
    refused.1 = .error .busy ∧ refused.2.lines = world.lines := by
  intro bank board hardware program world after refusals refusing refused
  obtain ⟨result, -, -, accepted, -, simulated⟩ :=
    retrigger_transacts hardware (fun _ _ => id) 3 .levelLow world
  obtain ⟨refusal, -, -, -, rejected, -⟩ :=
    retrigger_transacts (Faulty.hardware hardware) (fun _ _ => id) 3 .levelLow refusing
  have done : (course hardware 3 .levelLow board).result = .ok () :=
    Outcome.ofResult_eq_done.1 (by decide +kernel)
  have busy : (course (Faulty.hardware hardware) 3 .levelLow refusing.board).result =
      .error .busy :=
    Outcome.ofResult_eq_refused.1 (by decide +kernel)
  have table := (accepted done).2
  have kept := rejected .busy busy
  have calls : (course (Faulty.hardware hardware) 3 .levelLow refusing.board).calls 3
      .levelLow = [.isEnabled 3, .setEnabled 3 false, .clearStatus 0x8,
        .configureTrigger 3 .levelLow, .setEnabled 3 true] := by decide +kernel
  have on : (course hardware 3 .levelLow board).wasEnabled = true := by decide +kernel
  have agrees := simulated Simulated.number (fun _ _ => id) world (result.trans done)
  have staged : world.board = board := rfl
  rw [staged, on] at table
  rw [calls] at kept
  exact ⟨by decide, table, agrees.1, kept.1, refusal.trans busy, kept.2⟩

end LineControl
end Interrupts
