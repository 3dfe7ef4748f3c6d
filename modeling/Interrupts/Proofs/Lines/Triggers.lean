import Interrupts.Proofs.Max32660.Registers
import Interrupts.Proofs.Run.Calls
import Interrupts.Proofs.Simulated.LineSetting

/-! # Triggers as registers hold them

The triggers of all lines lie in three registers, one bit of each for a line, and every board
changes them bit by bit. Whatever the registers held before, and in whatever order lines are
given triggers, the bits of a line decode to the trigger that it was given last, and the bits
of all others stay. Boards on which the same triggers were accepted hold the same.
-/

namespace Interrupts

/-- The trigger that the list gives to a line last. -/
def lastGiven (line : Line) (calls : List (Line × Trigger)) : Option Trigger :=
  ((calls.filter fun call => call.1 == line).getLast?).map Prod.snd

theorem lastGiven_cons (line : Line) (call : Line × Trigger) (rest : List (Line × Trigger)) :
    lastGiven line (call :: rest) =
      if call.1 = line then some ((lastGiven line rest).getD call.2) else lastGiven line rest := by
  by_cases own : call.1 = line
  · simp only [lastGiven, own, List.filter_cons, beq_self_eq_true, if_true, List.getLast?_cons]
    cases (rest.filter fun call => call.1 == line).getLast? <;> rfl
  · simp [lastGiven, own]

namespace TriggerRegisters

def give (registers : TriggerRegisters) (calls : List (Line × Trigger)) : TriggerRegisters :=
  calls.foldl (fun registers call => registers.program call.1 call.2.encode) registers

theorem encoding_give (registers : TriggerRegisters) (calls : List (Line × Trigger))
    (line : Line) :
    (registers.give calls).encoding line =
      ((lastGiven line calls).map Trigger.encode).getD (registers.encoding line) := by
  induction calls generalizing registers with
  | nil => rfl
  | cons call rest ih =>
      refine (ih (registers.program call.1 call.2.encode)).trans ?_
      rw [encoding_program, lastGiven_cons]
      split
      next => cases lastGiven line rest <;> rfl
      next => rfl

theorem getLsbD_write_beyond (w : Word) (line : Line) (on : Bool) {i : Nat} (beyond : 14 ≤ i) :
    (w.write line.mask on).getLsbD i = w.getLsbD i := by
  have apart : line.val ≠ i := by omega
  simp [Word.getLsbD_write, apart]

/-- What it means that the registers were given the triggers of a list. -/
structure Given (calls : List (Line × Trigger)) (before after : TriggerRegisters) : Prop where
  /-- The bits of a line decode to its last trigger. -/
  decode {line : Line} {trigger : Trigger} : lastGiven line calls = some trigger →
    (after.encoding line).decode = trigger
  /-- A line that is not in the list keeps its bits. -/
  unnamed {line : Line} : (∀ call ∈ calls, call.1 ≠ line) →
    after.encoding line = before.encoding line
  /-- So do the bits beyond the last line. -/
  beyond {i : Nat} : 14 ≤ i → after.edge.getLsbD i = before.edge.getLsbD i ∧
    after.activeLow.getLsbD i = before.activeLow.getLsbD i ∧
    after.dualEdge.getLsbD i = before.dualEdge.getLsbD i

theorem given_give (registers : TriggerRegisters) (calls : List (Line × Trigger)) :
    Given calls registers (registers.give calls) where
  decode {line trigger} last := by
    rw [encoding_give, last]
    exact trigger.decode_encode
  unnamed {line} absent := by
    have none : calls.filter (fun call => call.1 == line) = [] :=
      List.filter_eq_nil_iff.2 fun call listed => by simpa using absent call listed
    rw [encoding_give, lastGiven, none]
    rfl
  beyond {i} above := by
    induction calls generalizing registers with
    | nil => exact ⟨rfl, rfl, rfl⟩
    | cons call rest ih =>
        obtain ⟨edge, activeLow, dualEdge⟩ := ih (registers.program call.1 call.2.encode)
        exact ⟨edge.trans (getLsbD_write_beyond _ _ _ above),
          activeLow.trans (getLsbD_write_beyond _ _ _ above),
          dualEdge.trans (getLsbD_write_beyond _ _ _ above)⟩

end TriggerRegisters

/-! ## Calls on a board -/

namespace Hardware

variable {β : Type} (hardware : Hardware β)

/-- Asks for the triggers of the listed lines in turn, whatever is refused. The result lists
what was accepted, and the board afterwards. -/
def configureAll : List (Line × Trigger) → β → List (Line × Trigger) × β
  | [], board => ([], board)
  | call :: rest, board =>
      let (result, after) := hardware.askLines (.configureTrigger call.1 call.2) board
      let (accepted, last) := configureAll rest after
      match result with
      | .ok () => (call :: accepted, last)
      | .error _ => (accepted, last)

variable {hardware} in
theorem configureAll_of_ok {call : Line × Trigger} {board after : β}
    (asked : hardware.askLines (.configureTrigger call.1 call.2) board = (.ok (), after))
    (rest : List (Line × Trigger)) :
    hardware.configureAll (call :: rest) board =
      (call :: (hardware.configureAll rest after).1, (hardware.configureAll rest after).2) := by
  rw [configureAll, asked]

variable {hardware} in
theorem configureAll_of_error {call : Line × Trigger} {board after : β} {fault : Fault}
    (asked : hardware.askLines (.configureTrigger call.1 call.2) board = (.error fault, after))
    (rest : List (Line × Trigger)) :
    hardware.configureAll (call :: rest) board = hardware.configureAll rest after := by
  rw [configureAll, asked]

/-- The board holds triggers in its registers: one that is accepted is programmed, and one that
is refused changes nothing in them. -/
structure HoldsTriggers (registers : β → TriggerRegisters) : Prop where
  accepted {line : Line} {trigger : Trigger} {board after : β} :
    hardware.askLines (.configureTrigger line trigger) board = (.ok (), after) →
      registers after = (registers board).program line trigger.encode
  refused {line : Line} {trigger : Trigger} {board after : β} {fault : Fault} :
    hardware.askLines (.configureTrigger line trigger) board = (.error fault, after) →
      registers after = registers board

variable {hardware} {registers : β → TriggerRegisters}

theorem HoldsTriggers.give (holds : hardware.HoldsTriggers registers)
    (calls : List (Line × Trigger)) (board : β) :
    registers (hardware.configureAll calls board).2 =
      (registers board).give (hardware.configureAll calls board).1 := by
  induction calls generalizing board with
  | nil => rfl
  | cons call rest ih =>
      rcases asked : hardware.askLines (.configureTrigger call.1 call.2) board with
        ⟨result, after⟩
      cases result with
      | ok value =>
          rw [configureAll_of_ok asked, ih, holds.accepted asked]
          rfl
      | error fault => rw [configureAll_of_error asked, ih, holds.refused asked]

end Hardware

/-! ## The simulated board -/

namespace Simulated

theorem askLines_of_failing (number : Peripheral → Nat) {line : Line} {board : Board}
    (failing : board.lines.failing.meets line.mask = true) (trigger : Trigger) :
    (hardware number).askLines (.configureTrigger line trigger) board = (.error .busy, board) := by
  change ((board.lines.respond (.configureTrigger line trigger)).1,
    { board with lines := (board.lines.respond (.configureTrigger line trigger)).2 }) = _
  rw [LineBank.respond, if_pos failing]

theorem askLines_of_sound (number : Peripheral → Nat) {line : Line} {board : Board}
    (sound : board.lines.failing.meets line.mask = false) (trigger : Trigger) :
    (hardware number).askLines (.configureTrigger line trigger) board =
      (.ok (), { board with
        lines := (board.lines.deliverInjected line).program line trigger.encode }) := by
  change ((board.lines.respond (.configureTrigger line trigger)).1,
    { board with lines := (board.lines.respond (.configureTrigger line trigger)).2 }) = _
  rw [LineBank.respond, if_neg (Bool.eq_false_iff.1 sound)]

theorem triggerRegisters_deliverInjected (bank : LineBank) (line : Line) :
    (bank.deliverInjected line).triggerRegisters = bank.triggerRegisters := by
  unfold LineBank.deliverInjected
  split <;> rfl

theorem failing_deliverInjected (bank : LineBank) (line : Line) :
    (bank.deliverInjected line).failing = bank.failing := by
  unfold LineBank.deliverInjected
  split <;> rfl

theorem holdsTriggers (number : Peripheral → Nat) :
    (hardware number).HoldsTriggers fun board => board.lines.triggerRegisters where
  accepted {line trigger board after} asked := by
    cases failing : board.lines.failing.meets line.mask with
    | true =>
        rw [askLines_of_failing number failing] at asked
        cases asked
    | false =>
        rw [askLines_of_sound number failing] at asked
        cases asked
        exact congrArg (TriggerRegisters.program · line trigger.encode)
          (triggerRegisters_deliverInjected board.lines line)
  refused {line trigger board after fault} asked := by
    cases failing : board.lines.failing.meets line.mask with
    | true =>
        rw [askLines_of_failing number failing] at asked
        cases asked
        rfl
    | false =>
        rw [askLines_of_sound number failing] at asked
        cases asked

/-- A trigger is accepted for exactly the lines that are not made to fail, and it is what is
reported of the line until the next one is. -/
theorem configureAll_reports (number : Peripheral → Nat) (calls : List (Line × Trigger))
    (board : Board) :
    let (accepted, last) := (hardware number).configureAll calls board
    accepted = calls.filter (fun call => !board.lines.failing.meets call.1.mask) ∧
      ∀ line, last.lines.trigger? line =
        (lastGiven line accepted).or (board.lines.trigger? line) := by
  induction calls generalizing board with
  | nil => exact ⟨rfl, fun _ => rfl⟩
  | cons call rest ih =>
      cases failing : board.lines.failing.meets call.1.mask with
      | true =>
          obtain ⟨accepted, reported⟩ := ih board
          rw [Hardware.configureAll_of_error (askLines_of_failing number failing call.2),
            List.filter_cons, failing]
          exact ⟨accepted, reported⟩
      | false =>
          let after : Board := { board with
            lines := (board.lines.deliverInjected call.1).program call.1 call.2.encode }
          obtain ⟨accepted, reported⟩ := ih after
          have same : after.lines.failing = board.lines.failing :=
            failing_deliverInjected board.lines call.1
          rw [Hardware.configureAll_of_ok (askLines_of_sound number failing call.2),
            List.filter_cons, failing]
          rw [same] at accepted
          refine ⟨congrArg (call :: ·) accepted, fun line => (reported line).trans ?_⟩
          have given : after.lines.trigger? line =
              if call.1 = line then some call.2 else board.lines.trigger? line := by
            have set := congrArg LineSetting.trigger
              (board.lines.setting_program call.1 line call.2)
            exact set.trans (by split <;> rfl)
          rw [given, lastGiven_cons]
          split
          next => cases lastGiven line _ <;> rfl
          next => rfl

end Simulated

/-! ## The MAX32660 -/

namespace Max32660

variable {σ : Type} {bus : Bus σ} {content : σ → Nat → Word}

/-- The three trigger registers hold what is written to them. -/
structure LineBank.HeldOn (bus : Bus σ) (content : σ → Nat → Word) : Prop where
  mode : bus.Holds content LineBank.mode 0
  polarity : bus.Holds content LineBank.polarity 0
  dualEdge : bus.Holds content LineBank.dualEdge 0

def LineBank.triggerRegisters (content : Nat → Word) : TriggerRegisters :=
  ⟨content LineBank.mode, content LineBank.polarity, content LineBank.dualEdge⟩

theorem askLines_configureTrigger (bus : Bus σ) (line : Line) (trigger : Trigger) (state : σ) :
    (hardwareOn bus).askLines (.configureTrigger line trigger) state =
      (.ok (), (bus.run (LineBank.program line trigger.encode) state).2) := by
  change ((bus.drive (LineBank.drive (.configureTrigger line trigger)) state).1,
    (bus.drive (LineBank.drive (.configureTrigger line trigger)) state).2.1) = _
  rw [Bus.drive_eq]
  simp [LineBank.drive]

theorem triggerRegisters_program (held : LineBank.HeldOn bus content) (line : Line)
    (bits : Trigger.Encoding) (state : σ) :
    LineBank.triggerRegisters (content (bus.run (LineBank.program line bits) state).2) =
      (LineBank.triggerRegisters (content state)).program line bits := by
  have changes {address : Nat} (holds : bus.Holds content address 0) (on : Bool) (state : σ) :
      content (bus.run (Driver.modify address line.mask on) state).2 address =
        (content state address).write line.mask on := by
    simpa only [Word.without_zero] using holds.run_modify (BitVec.and_zero) on state
  have spares {address other : Nat} (holds : bus.Holds content address 0)
      (elsewhere : RegisterFile.aligned other ≠ address) (on : Bool) (state : σ) :
      content (bus.run (Driver.modify other line.mask on) state).2 address =
        content state address := by
    simpa only [Word.without_zero] using
      holds.run_spares (Driver.modify_spares elsewhere line.mask on) state
  simp only [LineBank.triggerRegisters, LineBank.program, Bus.run_bind,
    TriggerRegisters.program, TriggerRegisters.mk.injEq]
  refine ⟨?_, ?_, ?_⟩
  · rw [spares held.mode (by decide), spares held.mode (by decide), changes held.mode]
  · rw [spares held.polarity (by decide), changes held.polarity,
      spares held.polarity (by decide)]
  · rw [changes held.dualEdge, spares held.dualEdge (by decide),
      spares held.dualEdge (by decide)]

theorem holdsTriggers (held : LineBank.HeldOn bus content) :
    (hardwareOn bus).HoldsTriggers fun state => LineBank.triggerRegisters (content state) where
  accepted {line trigger state after} asked := by
    rw [askLines_configureTrigger] at asked
    cases asked
    exact triggerRegisters_program held line trigger.encode state
  refused {line trigger state after fault} asked := by
    rw [askLines_configureTrigger] at asked
    cases asked

theorem accepted_configureAll (bus : Bus σ) (calls : List (Line × Trigger)) (state : σ) :
    ((hardwareOn bus).configureAll calls state).1 = calls := by
  induction calls generalizing state with
  | nil => rfl
  | cons call rest ih =>
      rw [Hardware.configureAll_of_ok (askLines_configureTrigger bus call.1 call.2 state)]
      exact congrArg (call :: ·) (ih _)

end Max32660

/-- Lines are asked to take triggers, any lines any triggers in any order, on boards whose
trigger registers hold anything to begin with. The bits of a line decode in the end to the last
trigger that was accepted for it; the bits of lines for which none was, and those that belong to
no line, are what they were. The simulated board refuses exactly the lines that are made to fail
and reports the same triggers, and a refused call leaves it as it was. The MAX32660 refuses
nothing, and begun with the same registers and asked for what the simulated board has accepted
it ends with the same registers. -/
theorem triggers_programmed {σ : Type} {bus : Bus σ} {content : σ → Nat → Word}
    (held : Max32660.LineBank.HeldOn bus content) (number : Peripheral → Nat)
    (calls : List (Line × Trigger)) (board : Simulated.Board) (state : σ) :
    let simulated := (Simulated.hardware number).configureAll calls board
    let driven calls := (Max32660.hardwareOn bus).configureAll calls state
    let registers (state : σ) := Max32660.LineBank.triggerRegisters (content state)
    TriggerRegisters.Given simulated.1 board.lines.triggerRegisters
        simulated.2.lines.triggerRegisters ∧
      simulated.1 = calls.filter (fun call => !board.lines.failing.meets call.1.mask) ∧
      (∀ line, simulated.2.lines.trigger? line =
        (lastGiven line simulated.1).or (board.lines.trigger? line)) ∧
      (∀ line trigger fault,
        ((Simulated.hardware number).askLines (.configureTrigger line trigger) board).1 =
            .error fault →
          ((Simulated.hardware number).askLines (.configureTrigger line trigger) board).2 =
            board) ∧
      TriggerRegisters.Given calls (registers state) (registers (driven calls).2) ∧
      (driven calls).1 = calls ∧
      (board.lines.triggerRegisters = registers state →
        simulated.2.lines.triggerRegisters = registers (driven simulated.1).2) := by
  intro simulated driven registers
  have reached : simulated.2.lines.triggerRegisters =
      board.lines.triggerRegisters.give simulated.1 :=
    (Simulated.holdsTriggers number).give calls board
  have driving (calls : List (Line × Trigger)) :
      registers (driven calls).2 = (registers state).give calls := by
    have given := (Max32660.holdsTriggers held).give calls state
    rwa [Max32660.accepted_configureAll] at given
  obtain ⟨accepted, reported⟩ := Simulated.configureAll_reports number calls board
  refine ⟨?_, accepted, reported, ?_, ?_, Max32660.accepted_configureAll bus calls state, ?_⟩
  · rw [reached]
    exact TriggerRegisters.given_give _ _
  · intro line trigger fault refused
    cases failing : board.lines.failing.meets line.mask with
    | true => rw [Simulated.askLines_of_failing number failing]
    | false =>
        rw [Simulated.askLines_of_sound number failing] at refused
        cases refused
  · rw [driving]
    exact TriggerRegisters.given_give _ _
  · intro same
    rw [reached, driving, same]

/-- Line 0 is given a trigger twice and line 3 cannot be programmed. A stale bit for both edges
would turn the last trigger of line 0 into another; the bits of line 3 and bit 20 stay. -/
theorem triggers_programmed_twice :
    let registers : TriggerRegisters := ⟨0x100008, 0x100000, 0x100008⟩
    let bank : Simulated.LineBank :=
      { Simulated.LineBank.initial with
        edge := registers.edge, activeLow := registers.activeLow, dualEdge := registers.dualEdge
        failing := 0x8 }
    let board : Simulated.Board := { Simulated.Board.initial with lines := bank }
    let file := ((RegisterFile.empty.store Max32660.LineBank.mode registers.edge).store
      Max32660.LineBank.polarity registers.activeLow).store
        Max32660.LineBank.dualEdge registers.dualEdge
    let calls : List (Line × Trigger) := [(0, .bothEdges), (3, .levelLow), (0, .fallingEdge)]
    let simulated := (Simulated.hardware Simulated.number).configureAll calls board
    let driven := (Max32660.hardwareOn RegisterFile.unattended).configureAll simulated.1
      ⟨file, rfl⟩
    simulated.1 = [(0, .bothEdges), (0, .fallingEdge)] ∧
      (simulated.2.lines.triggerRegisters.encoding 0).decode = .fallingEdge ∧
      simulated.2.lines.triggerRegisters.encoding 3 = registers.encoding 3 ∧
      simulated.2.lines.triggerRegisters.dualEdge.getLsbD 20 = true ∧
      Max32660.LineBank.triggerRegisters driven.2.1.load =
        simulated.2.lines.triggerRegisters := by
  intro registers bank board file calls simulated driven
  have held : Max32660.LineBank.HeldOn RegisterFile.unattended fun file => file.1.load :=
    ⟨RegisterFile.holds_unattended (by decide), RegisterFile.holds_unattended (by decide),
      RegisterFile.holds_unattended (by decide)⟩
  obtain ⟨given, accepted, -, -, -, -, same⟩ :=
    triggers_programmed held Simulated.number calls board ⟨file, rfl⟩
  have taken : simulated.1 = [(0, .bothEdges), (0, .fallingEdge)] := accepted.trans (by decide)
  have alike : bank.triggerRegisters = Max32660.LineBank.triggerRegisters file.load := by
    decide +kernel
  refine ⟨taken, given.decode (by rw [taken]; decide), given.unnamed ?_, ?_, (same alike).symm⟩
  · rw [taken]
    decide
  · exact (given.beyond (by decide : 14 ≤ 20)).2.2.trans (by decide)

end Interrupts
