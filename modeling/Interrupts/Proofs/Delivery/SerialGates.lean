import Interrupts.Proofs.Delivery.ClockGates

/-! # The gates of a serial channel

When a serial channel is served, its callback is looked up once, and is told in ascending order
of those causes of the snapshot whose enable bits are set when their turn comes. Whatever
callbacks do, the scan itself has to do with no other channel and with no other entry.
-/

namespace Interrupts

open Routine Delivery

variable {β η : Type}

def lookingUp (source : Source) (depth : Nat) : List Effect :=
  [.mask, .acquire, .find source, .release, .restore depth]

theorem World.requests_lookUp (hardware : Hardware β) (react : Reaction β η) (source : Source)
    (world : World β η) :
    (world.requests hardware react (lookUp source)).map Prod.fst =
      lookingUp source world.depth := by
  rw [lookUp, World.requests_critical, List.map_append, List.map_append]
  rfl

section

variable (hardware : Hardware β) (react : Reaction β η) (channel : Channel) (world : World β η)

/-- To serve a channel is to look its callback up, and to go on with what was found. -/
theorem requests_dispatch_uart :
    (world.requests hardware react (dispatch (.uart channel))).map Prod.fst =
      lookingUp (.uart channel) world.depth ++
        ((world.lookedUp (.uart channel)).requests hardware react
          ((Gated.serial channel).serve (world.registry.find? (.uart channel)))).map Prod.fst := by
  rw [dispatch, World.requests_bind, List.map_append, World.requests_lookUp, World.run_lookUp,
    uart_eq_serve]

theorem invocations_dispatch_uart :
    world.invocations hardware react (dispatch (.uart channel)) =
      (world.lookedUp (.uart channel)).invocations hardware react
        ((Gated.serial channel).serve (world.registry.find? (.uart channel))) := by
  rw [dispatch, World.invocations_bind, World.invocations_lookUp, World.run_lookUp,
    uart_eq_serve, List.nil_append]

theorem run_dispatch_uart :
    world.run hardware react (dispatch (.uart channel)) =
      (world.lookedUp (.uart channel)).run hardware react
        ((Gated.serial channel).serve (world.registry.find? (.uart channel))) := by
  rw [dispatch, World.run_bind, World.run_lookUp, uart_eq_serve]

end

theorem LiveScan.told_cause {channel : Channel} {callback : Callback} {hardware : Hardware β}
    {react : Reaction β η} {snapshot : Word} {start last : World β η} {turns : List (Turn β η)}
    {asked : List Effect} {told : List (Invocation β η)}
    (scan : LiveScan (.serial channel) callback hardware react snapshot.ones start turns asked
      told last) (index : Nat) :
    (∃ v ∈ told, v.index = index) ↔
      snapshot.getLsbD index = true ∧ ∃ turn ∈ turns, turn.index = index ∧
        (hardware.respond (.serial channel .readEnabled) turn.before.board).1.getLsbD index =
          true := by
  rw [scan.told_iff]
  constructor
  · rintro ⟨turn, listed, rfl, opened⟩
    have given : turn.index ∈ snapshot.ones := by
      rw [← scan.index]
      exact List.mem_map_of_mem listed
    exact ⟨Word.mem_ones.1 given, turn, listed, rfl, opened⟩
  · rintro ⟨-, turn, listed, rfl, opened⟩
    exact ⟨turn, listed, rfl, opened⟩

namespace Simulated

def Board.quieted (board : Board) (channel : Channel) : Board :=
  { board with
    serial := Vector.ofFn fun other =>
      if channel = other then { board.serial.get other with flags := 0 }
      else board.serial.get other }

theorem Board.quieted_eq_set (board : Board) (channel : Channel) :
    board.quieted channel = { board with
      serial := board.serial.set channel.val { board.serial.get channel with flags := 0 }
        channel.isLt } := by
  refine congrArg (fun serial => { board with serial }) (Vector.ext fun n below => ?_)
  refine (Vector.getElem_ofFn below).trans (.trans ?_ (get_set_serial _ channel ⟨n, below⟩ _).symm)
  split
  next same => rw [same]
  next => rfl

theorem state_cleared_serial (number : Peripheral → Nat) (react : Reaction Board η)
    (channel : Channel) (world : World Board η) :
    ((Gated.serial channel).cleared (hardware number) react world).state =
      { world.state with board := world.board.quieted channel } := by
  have same : world.board.serial.set channel world.board.serial[channel] = world.board.serial :=
    Vector.set_getElem_self _
  have read : (world.run (hardware number) react (readStatus (.uart channel))).2.state =
      world.state :=
    (World.state_respond_call (hardware number) react (.serial channel .readFlags) world).trans
      (congrArg (fun serial => { world.state with board := { world.board with serial } }) same)
  have board : (world.run (hardware number) react (readStatus (.uart channel))).2.board =
      world.board := congrArg State.board read
  have clear := World.state_respond_call (hardware number) react
    (.serial channel (.clearFlags (world.board.serial.get channel).flags))
    (world.run (hardware number) react (readStatus (.uart channel))).2
  rw [read, board] at clear
  have none : (world.board.serial.get channel).flags.without
      (world.board.serial.get channel).flags = 0 := BitVec.and_not_self _
  rw [Board.quieted_eq_set, ← none]
  exact clear

/-- The channel tells of a flagged cause if its enable bit is set in what the callback has left
when it was told of a lower one, and nothing else happens in between. -/
theorem serve_serial (number : Peripheral → Nat) (react : Reaction Board η) (channel : Channel)
    (world : World Board η) (callback : Callback) :
    let told := world.invocations (hardware number) react
      ((Gated.serial channel).serve (some callback))
    let start : State Board := { world.state with board := world.board.quieted channel }
    told.map (fun v => v.world.state) ++
        [(world.run (hardware number) react
          ((Gated.serial channel).serve (some callback))).2.state] =
      start :: told.map (fun v => (v.outcome react).state) ∧
    ∀ index, (∃ v ∈ told, v.index = index) ↔
      (world.board.serial.get channel).flags.getLsbD index = true ∧
        ((leftBefore react start told index).board.serial.get channel).enabled.getLsbD index =
          true := by
  obtain ⟨chain, tells⟩ : _ ∧ _ :=
    Gated.serve_still (still_gates number (.serial channel)) callback world
  rw [state_cleared_serial] at chain tells
  refine ⟨chain, fun index => (tells index).trans ?_⟩
  exact and_congr_left' Word.mem_ones

end Simulated

/-- Serving a channel looks its callback up, reads the flags of the channel, clears what was
read, and ends there without a callback. Otherwise it reads the enable register again for each
cause that was flagged, in ascending order, and tells the callback that was found of those
whose enable bit is set in what is read then. It asks for nothing else, so for nothing of the
other channel. Each turn begins in the world that the turn before has left, whatever the
callback has done to it. On the simulated board the callback is told in the state that the clear
or the callback has left, so nothing else has changed in between, and it is told of a flagged
cause if the enable bit is set in what it has left when it was told of a lower one. -/
theorem dispatch_uart_tells_while_enabled (hardware : Hardware β) (react : Reaction β η)
    (channel : Channel) (world : World β η) :
    let asked := (world.requests hardware react (dispatch (.uart channel))).map Prod.fst
    let told := world.invocations hardware react (dispatch (.uart channel))
    let last := (world.run hardware react (dispatch (.uart channel))).2
    let snapshot := (hardware.respond (.serial channel .readFlags) world.board).1
    let cleared := ((world.lookedUp (.uart channel)).run hardware react (do
      let _ ← serial channel .readFlags
      serial channel (.clearFlags snapshot))).2
    let opening := lookingUp (.uart channel) world.depth ++
      [.call (.serial channel .readFlags), .call (.serial channel (.clearFlags snapshot))]
    (world.registry.find? (.uart channel) = none →
      asked = opening ∧ told = [] ∧ last = cleared) ∧
    (∀ callback, world.registry.find? (.uart channel) = some callback →
      ∃ turns rest, asked = opening ++ rest ∧
        LiveScan (.serial channel) callback hardware react snapshot.ones cleared turns rest told
          last ∧
        (∀ v ∈ told, v.source = .uart channel ∧ v.callback = callback) ∧
        (told.map Invocation.index).Pairwise (· < ·) ∧
        ∀ index, (∃ v ∈ told, v.index = index) ↔
          snapshot.getLsbD index = true ∧ ∃ turn ∈ turns, turn.index = index ∧
            (hardware.respond (.serial channel .readEnabled) turn.before.board).1.getLsbD index =
              true) ∧
    ∀ (number : Peripheral → Nat) (react : Reaction Simulated.Board η) (channel : Channel)
      (world : World Simulated.Board η) (callback : Callback),
      world.registry.find? (.uart channel) = some callback →
        let simulated := Simulated.hardware number
        let told := world.invocations simulated react (dispatch (.uart channel))
        let last := (world.run simulated react (dispatch (.uart channel))).2
        let cleared : State Simulated.Board :=
          { world.state with board := world.board.quieted channel }
        told.map (fun v => v.world.state) ++ [last.state] =
          cleared :: told.map (fun v => (v.outcome react).state) ∧
        (∀ index, (∃ v ∈ told, v.index = index) ↔
          (world.board.serial.get channel).flags.getLsbD index = true ∧
            ((leftBefore react cleared told index).board.serial.get channel).enabled.getLsbD
              index = true) ∧
        ∀ other, other ≠ channel →
          cleared.board.serial.get other = world.board.serial.get other := by
  intro asked told last snapshot cleared opening
  let found := world.lookedUp (.uart channel)
  have read : (Gated.serial channel).snapshot hardware react found = snapshot :=
    congrArg Prod.fst (World.respond_call hardware react (.serial channel .readFlags) found)
  have start : (Gated.serial channel).cleared hardware react found = cleared := by
    rw [Gated.cleared, read]
    rfl
  have opens : lookingUp (.uart channel) world.depth ++
      (Gated.serial channel).opening hardware react found = opening := by
    rw [Gated.opening, read]
    rfl
  have asks := requests_dispatch_uart hardware react channel world
  have tells : told = _ := invocations_dispatch_uart hardware react channel world
  have ends : last = _ := congrArg Prod.snd (run_dispatch_uart hardware react channel world)
  refine ⟨fun entry => ?_, fun callback entry => ?_, fun number react channel world callback
    entry => ⟨?_, ?_, ?_⟩⟩
  · obtain ⟨asks', tells', ends'⟩ := (Gated.serial channel).serve_none hardware react found
    rw [entry] at asks tells ends
    exact ⟨asks.trans ((congrArg (_ ++ ·) asks').trans opens), tells.trans tells',
      ends.trans (ends'.trans start)⟩
  · obtain ⟨turns, rest, asks', scan⟩ :=
      (Gated.serial channel).serve_live callback hardware react found
    rw [entry] at asks tells ends
    rw [start, read, ← tells, ← ends] at scan
    refine ⟨turns, rest, ?_, scan, scan.own, ?_, scan.told_cause⟩
    · rw [← opens, List.append_assoc, ← asks']
      exact asks
    · exact snapshot.ones_ascending.sublist scan.sublist
  · rw [invocations_dispatch_uart, run_dispatch_uart, entry]
    exact (Simulated.serve_serial number react channel (world.lookedUp _) callback).1
  · rw [invocations_dispatch_uart, entry]
    exact (Simulated.serve_serial number react channel (world.lookedUp _) callback).2
  · intro other differs
    exact (Vector.getElem_ofFn other.isLt).trans (if_neg differs.symm)

/-- Bits 2, 5 and 20 are flagged, of which bits 2 and 20 are enabled, the last of them nobody's
cause. The callback enables all bits and raises bit 7 in both channels when it is told: it is
told of bits 2, 5 and 20, but not of bit 7, and the clear has left the other channel alone.
Without the callback nobody is told. -/
theorem dispatch_uart_tells_while_enabled_late :
    let react : Reaction Simulated.Board Unit := fun _ _ world =>
      { world with
        board := { world.board with serial := world.board.serial.map fun channel =>
          { flags := channel.flags ||| Word.bit 7, enabled := 0xFFFFFFFF } } }
    let busy : Simulated.SerialChannel := ⟨0x100024, 0x100004⟩
    let board := { Simulated.Board.initial with serial := #v[busy, busy] }
    let callback : Callback := ⟨.routine, 1, .uart, 1⟩
    let silent : World Simulated.Board Unit := World.initial board
    let world := { silent with registry := silent.registry.put (.uart 0) (some callback) }
    let simulated := Simulated.hardware Simulated.number
    let told := world.invocations simulated react (dispatch (.uart 0))
    silent.registry.find? (.uart 0) = none ∧
      silent.invocations simulated react (dispatch (.uart 0)) = [] ∧
      world.registry.find? (.uart 0) = some callback ∧
      (∀ v ∈ told, v.callback = callback) ∧
      (∀ index < 32, (∃ v ∈ told, v.index = index) ↔ index ∈ [2, 5, 20]) ∧
      (1 : Channel) ≠ 0 ∧ (world.board.quieted 0).serial.get 1 = busy := by
  intro react busy board callback silent world simulated told
  have nobody : silent.registry.find? (.uart 0) = none := by decide
  have entry : world.registry.find? (.uart 0) = some callback := by decide
  have differs : (1 : Channel) ≠ 0 := by decide
  obtain ⟨quiet, -⟩ := dispatch_uart_tells_while_enabled simulated react 0 silent
  obtain ⟨-, tells, still⟩ := dispatch_uart_tells_while_enabled simulated react 0 world
  obtain ⟨-, -, -, -, own, -⟩ := tells callback entry
  obtain ⟨-, told_iff, alone⟩ := still Simulated.number react 0 world callback entry
  refine ⟨nobody, (quiet nobody).2.1, entry, fun v hv => (own v hv).2, fun index below => ?_,
    differs, alone 1 differs⟩
  rw [told_iff index]
  revert index
  decide +kernel

end Interrupts
