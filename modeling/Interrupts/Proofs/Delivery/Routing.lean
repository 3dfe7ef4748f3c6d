import Interrupts.Proofs.Delivery.Arrivals
import Interrupts.Proofs.Global.Entries
import Interrupts.Proofs.Registration.Accounts
import Interrupts.Proofs.Word.Ones

/-! # From the vector to the callback

The vector that is unmasked for a source is the one whose handling asks the peripheral of
the source for its events. If one event of the source is all there is, its callback is told
of it, and nobody of anything else.
-/

namespace Interrupts

open Routine Guarded Delivery

def Invocation.told {β η : Type} (v : Invocation β η) : Source × Callback × Nat :=
  (v.source, v.callback, v.index)

/-! ## The vector of a source -/

section

variable {name : SourceName} {source : Source}

/-- If the effect is a call on the controller, it is this one. -/
def Effect.Drives (c : ControllerCall) : Effect → Prop
  | call (.controller other) => other = c
  | _ => True

theorem drives_switchOn (c : ControllerCall) (source : Source) :
    (Switching.switchOn source).run.Only (Effect.Drives c) := by
  have seq := @only_sequential (Effect.Drives c)
  cases source with
  | gpio line =>
      exact seq.switch (fun _ _ => ⟨trivial, fun _ => trivial⟩) ⟨trivial, fun _ => trivial⟩
        (fun _ => ⟨trivial, fun _ => trivial⟩) true
  | uart channel => exact seq.succeed ()
  | rtc =>
      refine seq.andThen (seq.andThen (seq.lift ⟨trivial, fun _ => trivial⟩) fun entry => ?_)
        fun alarm => ⟨trivial, fun _ => trivial⟩
      split
      · exact seq.succeed _
      · exact seq.andThen (seq.lift ⟨trivial, fun _ => trivial⟩) fun _ => seq.fail _

theorem drives_enable (vectors : VectorTable) (named : name.resolve = .ok source) :
    ((Operation.enable name).routine vectors).Only
      (Effect.Drives (.enable (vectors.number source.peripheral))) := by
  have seq := @only_sequential (Effect.Drives (.enable (vectors.number source.peripheral)))
  refine seq.map ?_ Outcome.ofResult
  rw [Switching.enable, resolve_of_ok named, pure_bind]
  refine seq.critical (seq.andThen (drives_switchOn _ source) fun _ =>
    seq.andThen ⟨rfl, fun _ => trivial⟩ fun _ => seq.lift ⟨trivial, fun _ => trivial⟩) ?_
  intro effect guards
  cases effect with
  | mask | restore _ | acquire | release => exact ⟨trivial, fun _ => trivial⟩
  | _ => exact guards.elim

theorem prioritise_eq (vectors : VectorTable) (named : name.resolve = .ok source)
    (priority : Priority) :
    (Operation.prioritise name priority).routine vectors = Outcome.ofResult <$>
      controller (.setPriority (vectors.number source.peripheral) priority) := by
  rw [Operation.routine, Switching.prioritise, resolve_of_ok named, pure_bind]
  rfl

end

namespace Simulated

theorem unmasked_of_done {number : Peripheral → Nat} {name : SourceName} {source : Source}
    (vectors : VectorTable) (named : name.resolve = .ok source)
    {state after : State Board}
    (done : state.run (hardware number) ((Operation.enable name).routine vectors) =
      (.done, after)) : Unmasked (vectors.number source.peripheral) after := by
  have ran := State.ok_of_done (hardware number) done
  rw [Switching.enable, resolve_of_ok named, pure_bind, State.run_locked] at ran
  obtain ⟨_, between, -, ran⟩ := State.of_andThen_ok (hardware number) ran
  obtain ⟨_, last, enabled, noted⟩ := State.of_andThen_ok (hardware number) ran
  cases noted
  exact unmasked_of_enable enabled

section

variable {number : Peripheral → Nat}

theorem unmasked_of_enabled {η : Type} {name : SourceName} {source : Source}
    {react : Reaction Board η} {world : World Board η} (named : name.resolve = .ok source)
    (done : (world.run (hardware number) react
      ((Operation.enable name).routine (hardware number).vectors)).1 = .done) :
    Unmasked (number source.peripheral) (world.run (hardware number) react
      ((Operation.enable name).routine (hardware number).vectors)).2.state := by
  have quiet : Quiet ((Operation.enable name).routine (hardware number).vectors) :=
    Quiet.operation _ id
  have ran := (quiet.run (hardware number) react world).symm
  rw [done] at ran
  have unmasked := unmasked_of_done _ named ran
  rwa [show (hardware number).vectors.number source.peripheral = _ from
    VectorTable.number_ofNumbering number source.peripheral] at unmasked

theorem handle_of_owner (distinct : ∀ a b, number a = number b → a = b)
    (peripheral : Peripheral) :
    handle (hardware number).vectors (number peripheral) = dispatch peripheral := by
  have owner : (hardware number).vectors.find? (number peripheral) = some peripheral :=
    VectorTable.find?_ofNumbering distinct peripheral
  rw [handle, owner]

theorem handle_of_free {n : Nat} (free : ∀ peripheral, number peripheral ≠ n) :
    handle (hardware number).vectors n = pure () := by
  have none : (hardware number).vectors.find? n = none :=
    VectorTable.find?_ofNumbering_eq_none free
  rw [handle, none]

end

/-! ## What is cleared -/

namespace Board

/-- Nothing is staged for the next read or for the next clear. -/
def Unstaged (board : Board) : Prop := board.lines.late = 0 ∧ board.clock.dropped = 0

def served (board : Board) : Peripheral → Board
  | .gpio => { board with lines := { board.lines with status := 0 } }
  | .rtc => { board with
      clock := { board.clock with
        control := board.clock.control.without ClockControl.eventFlags } }
  | .uart channel => { board with
      serial := board.serial.setIfInBounds channel.val
        { board.serial.get channel with flags := 0 } }

variable {board : Board}

theorem serial_served (board : Board) (channel : Channel) :
    (board.served (.uart channel)).serial = board.serial.set channel.val
      { board.serial.get channel with flags := 0 } channel.isLt := by
  ext1 i inside
  rw [served, Vector.getElem_setIfInBounds inside, Vector.getElem_set channel.isLt inside]

theorem respond_statusCall (unstaged : board.Unstaged) (peripheral : Peripheral) :
    (board.respond peripheral.statusCall).2 = board := by
  obtain ⟨late, -⟩ := unstaged
  cases peripheral with
  | gpio =>
      have same : board.lines.status ||| board.lines.late = board.lines.status := by
        rw [late]
        exact BitVec.or_zero
      simp only [Peripheral.statusCall, respond, LineBank.respond, same, ← late]
  | rtc => rfl
  | uart channel =>
      have same : board.serial.set channel board.serial[channel] = board.serial :=
        Vector.set_getElem_self _
      exact congrArg (fun serial => { board with serial }) same

theorem respond_clearCall (unstaged : board.Unstaged) (peripheral : Peripheral) :
    (board.respond (peripheral.clearCall (peripheral.cleared (board.status peripheral)))).2 =
      board.served peripheral := by
  obtain ⟨-, dropped⟩ := unstaged
  have all (w : Word) : w.without w = 0 := BitVec.and_not_self w
  cases peripheral with
  | gpio =>
      simp only [Peripheral.clearCall, Peripheral.cleared, status, respond, LineBank.respond, all,
        served]
  | rtc =>
      have same : ClockControl.eventFlags ||| board.clock.dropped = ClockControl.eventFlags := by
        rw [dropped]
        exact BitVec.or_zero
      simp only [Peripheral.clearCall, Peripheral.cleared, respond, Clock.respond, same, served,
        ← dropped]
  | uart channel =>
      have none : (board.serial.get channel).flags.without _ = 0 := all _
      have serial := board.serial_served channel
      rw [← none] at serial
      exact (congrArg (fun serial => { board with serial }) serial).symm

end Board

section

variable {η : Type} (number : Peripheral → Nat) (react : Reaction Board η)
  {world : World Board η}

theorem snapshot_simulated (world : World Board η) (peripheral : Peripheral) :
    (snapshot (hardware number) react world peripheral).1 = world.board.status peripheral := by
  cases peripheral <;> rfl

theorem state_ahead (world : World Board η) (peripheral : Peripheral) :
    (ahead (hardware number) react world peripheral).2.state = world.state := by
  cases peripheral with
  | gpio => rfl
  | rtc => rw [ahead, lookAhead, World.run_lookUp]; rfl
  | uart channel => rw [ahead, lookAhead, World.run_lookUp]; rfl

theorem state_snapshot (unstaged : world.board.Unstaged) (peripheral : Peripheral) :
    (snapshot (hardware number) react world peripheral).2.state = world.state := by
  have read : (snapshot (hardware number) react world peripheral).2 =
      ((ahead (hardware number) react world peripheral).2.respond (hardware number) react
        (.call peripheral.statusCall)).2 := by
    cases peripheral <;> rfl
  have board : (ahead (hardware number) react world peripheral).2.board = world.board :=
    congrArg State.board (state_ahead number react world peripheral)
  rw [read, World.state_respond_call, state_ahead, board]
  exact congrArg (fun board => { world.state with board })
    (Board.respond_statusCall unstaged peripheral)

/-- Before the scan the events of the peripheral are cleared, and nothing else has changed. -/
theorem state_afterClear (unstaged : world.board.Unstaged) (peripheral : Peripheral) :
    (afterClear (hardware number) react world peripheral).state =
      { world.state with board := world.board.served peripheral } := by
  have read := state_snapshot number react unstaged peripheral
  have board : (snapshot (hardware number) react world peripheral).2.board = world.board :=
    congrArg State.board read
  rw [afterClear_eq, World.state_respond_call, read, snapshot_simulated, board]
  exact congrArg (fun board => { world.state with board }) (Board.respond_clearCall unstaged _)

/-- Callbacks leave the board and the tables as they find them. -/
def Passive (react : Reaction Board η) : Prop :=
  ∀ callback index world, (react callback index world).state = world.state

variable {react}

theorem state_respond_scans (passive : Passive react) {peripheral : Peripheral} {effect : Effect}
    (scans : effect.Scans peripheral) (world : World Board η) :
    (world.respond (hardware number) react effect).2.state = world.state := by
  cases effect with
  | call c =>
      rw [World.state_respond_call]
      exact congrArg (fun board => { world.state with board })
        (Board.respond_scans scans world.board)
  | invoke source callback index =>
      rw [World.respond_invoke]
      exact (passive _ _ _).trans (Invocation.state_entry _)
  | mask | restore _ | acquire | release | find _ | note _ => rfl
  | _ => exact scans.elim

/-- If callbacks leave everything alone, a dispatch clears the events of its peripheral and
changes nothing else. -/
theorem state_dispatch (passive : Passive react) (unstaged : world.board.Unstaged)
    (peripheral : Peripheral) :
    (world.run (hardware number) react (dispatch peripheral)).2.state =
      { world.state with board := world.board.served peripheral } := by
  have keeps (effect : Effect) (between : World Board η) (scans : effect.Scans peripheral)
      (same : between.state = { world.state with board := world.board.served peripheral }) :=
    (state_respond_scans number passive scans between).trans same
  rw [run_dispatch]
  exact ((scans_scan peripheral _ _).invariant (World.respond (hardware number) react) keeps
    (state_afterClear number react unstaged peripheral)).1

/-! ## Who is told -/

variable (react)

theorem told_scanLines {world : World Board η} {line : Line} {callback : Callback}
    (found : world.registry.find? (.gpio line) = some callback) (snapshot : Word) :
    (world.invocations (hardware number) react (scanLines lookUp snapshot [line.val])).map
      Invocation.told = [(.gpio line, callback, line.val)] := by
  simp only [scanLines, Line.ofNat?_val, World.invocations_bind, World.invocations_lookUp,
    World.run_lookUp, found, World.invocations_pure, List.nil_append]
  rfl

theorem told_scanEvents {world : World Board η} {callback : Callback} {event : ClockEvent}
    {snapshot : Word} (flagged : snapshot.covers event.flag = true)
    (gate : world.board.clock.control.covers event.gate = true) :
    (world.invocations (hardware number) react (scanEvents callback snapshot [event])).map
      Invocation.told = [(.rtc, callback, event.index)] := by
  have control : (world.run (hardware number) react (clock .readControl)).1 =
      world.board.clock.control := rfl
  have none : world.invocations (hardware number) react (clock .readControl) = [] := rfl
  simp only [scanEvents, flagged, if_true, World.invocations_bind, none, control, gate,
    World.invocations_pure, List.nil_append]
  rfl

theorem told_scanCauses {world : World Board η} {channel : Channel} {callback : Callback}
    {cause : Nat}
    (enabled : (world.board.serial.get channel).enabled.meets (Word.bit cause) = true) :
    (world.invocations (hardware number) react (scanCauses channel callback [cause])).map
      Invocation.told = [(.uart channel, callback, cause)] := by
  have read : (world.run (hardware number) react (serial channel .readEnabled)).1 =
      (world.board.serial.get channel).enabled := rfl
  have none : world.invocations (hardware number) react (serial channel .readEnabled) = [] := rfl
  simp only [scanCauses, World.invocations_bind, none, read, enabled, if_true,
    World.invocations_pure, List.nil_append]
  rfl

end

/-- The event is the only one of its peripheral that is asserted, and its gate is open. -/
def Signal.Alone (signal : Signal) (board : Board) : Prop :=
  match signal with
  | .line l => board.lines.status = l.mask
  | .clock event =>
      (∀ other : ClockEvent, board.clock.control.covers other.flag = true ↔ other = event) ∧
        board.clock.control.covers event.gate = true
  | .serial channel cause =>
      (board.serial.get channel).flags = Word.bit cause ∧
        (board.serial.get channel).enabled.meets (Word.bit cause) = true

theorem scanEvents_of_alone {snapshot : Word} {event : ClockEvent}
    (alone : ∀ other : ClockEvent, snapshot.covers other.flag = true ↔ other = event)
    (callback : Callback) :
    scanEvents callback snapshot ClockEvent.all = scanEvents callback snapshot [event] := by
  cases event <;> simp [scanEvents, ClockEvent.all, alone]

theorem covers_gate_without (w : Word) (event : ClockEvent) :
    (w.without ClockControl.eventFlags).covers event.gate = w.covers event.gate := by
  have bit (w : Word) : w.covers event.gate = w.getLsbD event.index := by
    cases event <;> exact w.covers_bit (by decide)
  have apart : ClockControl.eventFlags.getLsbD event.index = false := by
    cases event <;> decide
  rw [bit, bit, Word.getLsbD_without, apart, Bool.not_false, Bool.and_true]

section

variable {η : Type} (number : Peripheral → Nat) (react : Reaction Board η)
  {world : World Board η}

section

variable (unstaged : world.board.Unstaged) {callback : Callback}

include unstaged

theorem told_of_line {line : Line} (alone : world.board.lines.status = line.mask)
    (found : world.registry.find? (.gpio line) = some callback) :
    (world.invocations (hardware number) react (dispatch .gpio)).map Invocation.told =
      [(.gpio line, callback, line.val)] := by
  have bits : (SetBits.mk world.board.lines.status).toList = [line.val] := by
    rw [SetBits.toList_eq_ones, alone]
    exact Word.ones_bit line.val_lt_width
  -- The entry of the line is looked up only after the clear.
  have kept : (afterClear (hardware number) react world .gpio).registry = world.registry :=
    congrArg State.registry (state_afterClear number react unstaged .gpio)
  rw [invocations_dispatch, afterwards, snapshot_simulated]
  change List.map _ (World.invocations _ _
    (scanLines lookUp world.board.lines.status (SetBits.mk world.board.lines.status).toList) _) = _
  rw [bits]
  exact told_scanLines number react (kept ▸ found) _

theorem told_of_event {event : ClockEvent}
    (alone : ∀ other : ClockEvent,
      world.board.clock.control.covers other.flag = true ↔ other = event)
    (gate : world.board.clock.control.covers event.gate = true)
    (found : world.registry.find? .rtc = some callback) :
    (world.invocations (hardware number) react (dispatch .rtc)).map Invocation.told =
      [(.rtc, callback, event.index)] := by
  -- The callback is looked up before the clear, the gate is read after it.
  have entry : (ahead (hardware number) react world .rtc).1 = some callback := found
  have cleared : (afterClear (hardware number) react world .rtc).board =
      world.board.served .rtc :=
    congrArg State.board (state_afterClear number react unstaged .rtc)
  have kept : (afterClear (hardware number) react world .rtc).board.clock.control.covers
      event.gate = true := by
    rw [cleared]
    exact (covers_gate_without _ event).trans gate
  rw [invocations_dispatch, afterwards, snapshot_simulated, entry]
  change List.map _ (World.invocations _ _
    (scanEvents callback world.board.clock.control ClockEvent.all) _) = _
  rw [scanEvents_of_alone alone]
  exact told_scanEvents number react ((alone event).2 rfl) kept

theorem told_of_cause {channel : Channel} {cause : Nat}
    (alone : (world.board.serial.get channel).flags = Word.bit cause)
    (enabled : (world.board.serial.get channel).enabled.meets (Word.bit cause) = true)
    (found : world.registry.find? (.uart channel) = some callback) :
    (world.invocations (hardware number) react (dispatch (.uart channel))).map
      Invocation.told = [(.uart channel, callback, cause)] := by
  have bits : (SetBits.mk (world.board.serial.get channel).flags).toList = [cause] := by
    rw [SetBits.toList_eq_ones, alone]
    exact Word.ones_bit (Word.lt_of_meets_bit enabled)
  have entry : (ahead (hardware number) react world (.uart channel)).1 = some callback := found
  have cleared : (afterClear (hardware number) react world (.uart channel)).board =
      world.board.served (.uart channel) :=
    congrArg State.board (state_afterClear number react unstaged (.uart channel))
  have kept : ((afterClear (hardware number) react world (.uart channel)).board.serial.get
      channel).enabled = (world.board.serial.get channel).enabled := by
    rw [cleared, Board.serial_served, get_set_serial, if_pos rfl]
  rw [invocations_dispatch, afterwards, snapshot_simulated, entry]
  change List.map _ (World.invocations _ _ (scanCauses channel callback
    (SetBits.mk (world.board.serial.get channel).flags).toList) _) = _
  rw [bits]
  exact told_scanCauses number react (kept ▸ enabled)

/-- A dispatch tells the callback of a source of the only event that there is. -/
theorem told_of_alone {signal : Signal} (alone : signal.Alone world.board)
    (found : world.registry.find? signal.source = some callback) :
    (world.invocations (hardware number) react (dispatch signal.source.peripheral)).map
      Invocation.told = [(signal.source, callback, signal.index)] := by
  cases signal with
  | line l => exact told_of_line number react unstaged alone found
  | clock event => exact told_of_event number react unstaged alone.1 alone.2 found
  | serial channel cause => exact told_of_cause number react unstaged alone.1 alone.2 found

end

end

/-- A callback that was registered for a source is there at every later moment of a session
until it is replaced or taken out, and the vector of the source leads to it. Enabling the
source unmasks that vector and no other, and giving the source a priority gives it to that
vector. If the only event of the peripheral is one of the source, handling the vector tells
the callback of this event and invokes nothing else, apart from what the callback does itself.
Where callbacks leave everything alone, handling a vector clears the events of its peripheral
and changes nothing else. A vector that nobody owns is ignored. -/
theorem event_routed (number : Peripheral → Nat) (distinct : ∀ a b, number a = number b → a = b)
    (behaviour : Behaviour Board Adjustment) (budget : Nat)
    (commands : List (Command Adjustment)) (start : World Board Adjustment) (source : Source)
    (name : SourceName) (callback : Callback) (label : String)
    (before after : World Board Adjustment) (earlier between later : List (Moment Board Adjustment))
    (session : (rig number).history behaviour budget commands start =
      earlier ++ .ended (.step ⟨label, .operate (.register name callback)⟩) before .done after ::
        (between ++ later))
    (named : name.resolve = .ok source)
    (spared : ∀ moment ∈ between, ¬ moment.Replaces source)
    (react : Reaction Board Adjustment) :
    let registered : Moment Board Adjustment :=
      .ended (.step ⟨label, .operate (.register name callback)⟩) before .done after
    let world := (between.getLastD registered).world
    let routine (operation : Operation) := operation.routine (hardware number).vectors
    let requests (operation : Operation) := world.requests (hardware number) react
      (routine operation)
    let run (operation : Operation) := world.run (hardware number) react (routine operation)
    let vector := number source.peripheral
    (∀ x ∈ requests (.enable name), ∀ c, x.1 = .call (.controller c) → c = .enable vector) ∧
    ((run (.enable name)).1 = .done →
      (run (.enable name)).2.board.controller.isEnabled vector = true) ∧
    (∀ priority, requests (.prioritise name priority) =
      [(.call (.controller (.setPriority vector priority)), world)]) ∧
    (world.board.Unstaged → ∀ signal : Signal, signal.source = source →
      signal.Alone world.board →
        (world.invocations (hardware number) react (routine (.handle vector))).map
          Invocation.told = [(source, callback, signal.index)]) ∧
    (world.board.Unstaged → Passive react → ∀ peripheral,
      (run (.handle (number peripheral))).2.state =
        { world.state with board := world.board.served peripheral }) ∧
    ∀ n, (∀ peripheral, number peripheral ≠ n) →
      requests (.handle n) = [] ∧ run (.handle n) = (.done, world) := by
  intro registered world routine requests run vector
  have found : world.registry.find? source = some callback :=
    Rig.find?_of_history session named spared
  have own : (hardware number).vectors.number source.peripheral = vector :=
    VectorTable.number_ofNumbering number source.peripheral
  refine ⟨?_, ?_, ?_, ?_, ?_, ?_⟩
  · rintro ⟨effect, between⟩ hx c rfl
    have drives := (drives_enable (hardware number).vectors named).forall_mem _ _ _ hx
    exact own ▸ drives
  · exact unmasked_of_enabled named
  · intro priority
    simp only [requests, routine, prioritise_eq _ named, World.requests_map, ← own]
    rfl
  · rintro unstaged signal rfl alone
    simp only [routine, Operation.routine, World.invocations_map, vector,
      handle_of_owner distinct]
    exact told_of_alone number react unstaged alone found
  · intro unstaged passive peripheral
    simp only [run, routine, Operation.routine, World.run_map, handle_of_owner distinct]
    exact state_dispatch number passive unstaged peripheral
  · intro n free
    have ignored := handle_of_free free
    constructor
    · simp only [requests, routine, Operation.routine, World.requests_map, ignored]
      rfl
    · simp only [run, routine, Operation.routine, World.run_map, ignored, World.run_pure]

/-- The peripherals have the vectors in the reverse of the usual order. A second callback for
a line is refused, so when the line asserts its event the first one is told of it. -/
theorem event_routed_reversed :
    let first : Callback := ⟨.routine, 1, .gpio .risingEdge, 1⟩
    let second : Callback := ⟨.routine, 2, .gpio .levelLow, 7⟩
    let register (callback : Callback) : Step Adjustment :=
      ⟨"", .operate (.register (.gpio 3) callback)⟩
    let stimulate (stimulus : Stimulus) : Step Adjustment := ⟨"", .adjust (.stimulate stimulus)⟩
    let steps := [register first, stimulate (.failConfigure 0x8), register second,
      stimulate (.raiseLines 0x8)]
    let number (peripheral : Peripheral) := 60 - Simulated.number peripheral
    let behaviour : Behaviour Board Adjustment := fun _ _ _ => Body.ofSteps []
    let reversed := rig number
    let react := reversed.reentrant behaviour 1
    let world := reversed.follow react steps (World.initial Board.initial)
    number .gpio = 36 ∧
      (world.invocations reversed.hardware react
        ((Operation.handle 36).routine reversed.hardware.vectors)).map Invocation.told =
          [(.gpio 3, first, 3)] ∧
      world.run reversed.hardware react
        ((Operation.handle 24).routine reversed.hardware.vectors) = (.done, world) := by
  intro first second register stimulate steps number behaviour reversed react world
  have bound (p : Peripheral) : Simulated.number p ≤ 24 := by
    cases p <;> simp only [Simulated.number] <;> omega
  have distinct (a b : Peripheral) (same : number a = number b) : a = b := by
    have ofA := bound a
    have ofB := bound b
    change 60 - Simulated.number a = 60 - Simulated.number b at same
    exact number_distinct a b (by omega)
  have free (p : Peripheral) (same : number p = 24) : False := by
    have ofP := bound p
    change 60 - Simulated.number p = 24 at same
    omega
  let act (step : Step Adjustment) (world : World Board Adjustment) :=
    reversed.act react step.action world
  let initial : World Board Adjustment := World.initial Board.initial
  let failing := (act (stimulate (.failConfigure 0x8)) (act (register first) initial).2).2
  have done : (act (register first) initial).1 = .done := by decide +kernel
  have busy : (act (register second) failing).1 = .refused .busy := by decide +kernel
  -- No callback runs, so every step has two moments.
  let moments (step : Step Adjustment) (world : World Board Adjustment) :
      List (Moment Board Adjustment) := reversed.commandMoments behaviour 1 (.step step) world
  have unfolded (a b c d : Step Adjustment) (world : World Board Adjustment) :
      reversed.history behaviour 1 [.step a, .step b, .step c, .step d] world =
        moments a world ++ (moments b (act a world).2 ++ (moments c (act b (act a world).2).2 ++
          (moments d (act c (act b (act a world).2).2).2 ++ []))) := rfl
  have session := unfolded (register first) (stimulate (.failConfigure 0x8)) (register second)
    (stimulate (.raiseLines 0x8)) initial
  have registering (callback : Callback) (world : World Board Adjustment) :
      moments (register callback) world = [.begun _ _, .ended (.step (register callback)) world
        (act (register callback) world).1 (act (register callback) world).2] :=
    Rig.stepMoments_of_silent id _ _
  have stimulating (stimulus : Stimulus) (world : World Board Adjustment) :
      moments (stimulate stimulus) world = [.begun _ _, .ended (.step (stimulate stimulus)) world
        (act (stimulate stimulus) world).1 (act (stimulate stimulus) world).2] := rfl
  rw [registering, registering, stimulating, stimulating, done, busy] at session
  obtain ⟨-, -, -, told, -, ignored⟩ := event_routed number distinct behaviour 1 _ initial
    (.gpio 3) (.gpio 3) first "" _ _ [_] [_, _, _, _, _, _] [] session rfl
    (by simp [Moment.Replaces, register, stimulate]) react
  have last : (act (stimulate (.raiseLines 0x8)) (act (register second)
      (act (stimulate (.failConfigure 0x8)) (act (register first) initial).2).2).2).2 = world := rfl
  simp only [List.getLastD_cons, List.getLastD_nil, Moment.world, last] at told ignored
  have status : world.board.lines.status = Line.mask 3 := by decide +kernel
  have heard := told ⟨by decide +kernel, by decide +kernel⟩ (.line 3) rfl status
  exact ⟨rfl, heard, (ignored 24 free).2⟩

end Simulated

end Interrupts
