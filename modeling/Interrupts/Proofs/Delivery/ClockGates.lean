import Interrupts.Proofs.Delivery.Arrivals
import Interrupts.Proofs.Delivery.Gates

/-! # The gates of the clock

When the clock is served, its events are looked at in their order, and each is told if it was
flagged in the status that was read first and its own gate is open in the control register as
it is read last: after the clear, and after all that the callbacks of earlier events have done.
-/

namespace Interrupts

open Routine Delivery

variable {β η : Type}

namespace Simulated

theorem still_gates (number : Peripheral → Nat) (gated : Gated) :
    gated.Still (hardware number) := by
  intro board
  cases gated with
  | clock =>
      have scans : (Effect.call (.clock .readControl)).Scans .rtc := rfl
      exact Board.respond_scans scans board
  | serial channel =>
      have scans : (Effect.call (.serial channel .readEnabled)).Scans (.uart channel) := rfl
      exact Board.respond_scans scans board

/-- The clock once its events are cleared, and what else a test has had dropped. -/
def Clock.cleared (clock : Clock) : Clock :=
  { clock with
    control := clock.control.without (ClockControl.eventFlags ||| clock.dropped)
    dropped := 0 }

theorem Clock.cleared_of_idle {clock : Clock} (idle : clock.dropped = 0) :
    clock.cleared = { clock with control := clock.control.without ClockControl.eventFlags } := by
  have same : ClockControl.eventFlags ||| clock.dropped = ClockControl.eventFlags := by
    rw [idle]
    exact BitVec.or_zero
  rw [Clock.cleared, same, ← idle]

theorem state_cleared_clock (number : Peripheral → Nat) (react : Reaction Board η)
    (world : World Board η) :
    (Gated.clock.cleared (hardware number) react world).state =
      { world.state with
        board := { world.board with clock := world.board.clock.cleared } } := rfl

end Simulated

theorem mem_flagged_clock {snapshot : Word} {event : ClockEvent} :
    event.index ∈ Gated.clock.flagged snapshot ↔ snapshot.covers event.flag = true := by
  have apart (other : ClockEvent) (same : other.index = event.index) : other = event := by
    cases other <;> cases event <;> first | rfl | cases same
  constructor
  · intro listed
    obtain ⟨other, flagged, same⟩ := List.mem_map.1 listed
    rw [← apart other same]
    exact (List.mem_filter.1 flagged).2
  · intro flagged
    have listed : event ∈ ClockEvent.all := by cases event <;> decide
    exact List.mem_map_of_mem (List.mem_filter.2 ⟨listed, flagged⟩)

theorem LiveScan.told_event {callback : Callback} {hardware : Hardware β} {react : Reaction β η}
    {snapshot : Word} {start last : World β η} {turns : List (Turn β η)} {asked : List Effect}
    {told : List (Invocation β η)}
    (scan : LiveScan .clock callback hardware react (Gated.clock.flagged snapshot) start turns
      asked told last) (event : ClockEvent) :
    (∃ v ∈ told, v.index = event.index) ↔
      snapshot.covers event.flag = true ∧ ∃ turn ∈ turns, turn.index = event.index ∧
        (hardware.respond (.clock .readControl) turn.before.board).1.covers event.gate = true := by
  have opens {turn : Turn β η} (own : turn.index = event.index) :
      turn.isOpen .clock hardware =
        (hardware.respond (.clock .readControl) turn.before.board).1.covers event.gate := by
    rw [ClockEvent.covers_gate, Turn.isOpen, own]
    rfl
  rw [scan.told_iff]
  constructor
  · rintro ⟨turn, listed, own, opened⟩
    have given : event.index ∈ Gated.clock.flagged snapshot := by
      rw [← scan.index, ← own]
      exact List.mem_map_of_mem listed
    exact ⟨mem_flagged_clock.1 given, turn, listed, own, opens own ▸ opened⟩
  · rintro ⟨-, turn, listed, own, opened⟩
    exact ⟨turn, listed, own, (opens own).trans opened⟩

/-- The clock tells of a flagged event if its gate is open in what the callback has left when it
was told of an earlier one, and nothing else happens in between. -/
theorem Simulated.serve_clock (number : Peripheral → Nat) (react : Reaction Board η)
    (world : World Board η) (callback : Callback) :
    let told := world.invocations (hardware number) react (rtc (some callback))
    let start : State Board :=
      { world.state with board := { world.board with clock := world.board.clock.cleared } }
    told.map (fun v => v.world.state) ++
        [(world.run (hardware number) react (rtc (some callback))).2.state] =
      start :: told.map (fun v => (v.outcome react).state) ∧
    ∀ event : ClockEvent, (∃ v ∈ told, v.index = event.index) ↔
      world.board.clock.control.covers event.flag = true ∧
        (leftBefore react start told event.index).board.clock.control.covers event.gate = true := by
  obtain ⟨chain, tells⟩ : _ ∧ _ := Gated.serve_still (still_gates number .clock) callback world
  rw [state_cleared_clock] at chain tells
  rw [rtc_eq_serve]
  refine ⟨chain, fun event => (tells event.index).trans ?_⟩
  rw [mem_flagged_clock, ClockEvent.covers_gate]
  rfl

/-- Serving the clock reads its control register, clears the flags of all events, and ends
there without a callback. Otherwise it reads the control register again for each event that
was flagged, in the order of the events, and for no other, and the callback is told if the
gate of the event is open in what is read then. Each turn begins in the world that the turn
before has left, whatever the callback has done to it. On the simulated board the clear takes
away the flags and what was to be dropped, and an event is told if its gate is open in what the
callback has left when it was told of an earlier event, or else in what the clear has left. -/
theorem rtc_tells_while_open (hardware : Hardware β) (react : Reaction β η) (world : World β η) :
    let asked entry := (world.requests hardware react (rtc entry)).map Prod.fst
    let told entry := world.invocations hardware react (rtc entry)
    let last entry := (world.run hardware react (rtc entry)).2
    let snapshot := (hardware.respond (.clock .readControl) world.board).1
    let flagged := ClockEvent.all.filter fun event => snapshot.covers event.flag
    let cleared := (world.run hardware react (do
      let _ ← clock .readControl
      clock (.clearControl ClockControl.eventFlags))).2
    let opening : List Effect :=
      [.call (.clock .readControl), .call (.clock (.clearControl ClockControl.eventFlags))]
    (asked none = opening ∧ told none = [] ∧ last none = cleared) ∧
    (∀ callback, ∃ turns rest, asked (some callback) = opening ++ rest ∧
      LiveScan .clock callback hardware react (flagged.map ClockEvent.index) cleared turns rest
        (told (some callback)) (last (some callback)) ∧
      ((told (some callback)).map Invocation.index).Pairwise (· < ·) ∧
      ∀ event : ClockEvent, (∃ v ∈ told (some callback), v.index = event.index) ↔
        snapshot.covers event.flag = true ∧ ∃ turn ∈ turns, turn.index = event.index ∧
          (hardware.respond (.clock .readControl) turn.before.board).1.covers event.gate =
            true) ∧
    ∀ (number : Peripheral → Nat) (react : Reaction Simulated.Board η)
      (world : World Simulated.Board η),
      let simulated := Simulated.hardware number
      let before := world.board.clock
      let cleared : State Simulated.Board :=
        { world.state with board := { world.board with clock := before.cleared } }
      (before.dropped = 0 → before.cleared =
        { before with control := before.control.without ClockControl.eventFlags }) ∧
      (world.run simulated react (rtc none)).2.state = cleared ∧
      ∀ callback,
        let told := world.invocations simulated react (rtc (some callback))
        let last := (world.run simulated react (rtc (some callback))).2
        told.map (fun v => v.world.state) ++ [last.state] =
          cleared :: told.map (fun v => (v.outcome react).state) ∧
        ∀ event : ClockEvent, (∃ v ∈ told, v.index = event.index) ↔
          before.control.covers event.flag = true ∧
            (leftBefore react cleared told event.index).board.clock.control.covers
              event.gate = true := by
  intro asked told last snapshot flagged cleared opening
  have read : Gated.clock.snapshot hardware react world = snapshot :=
    Gated.clock.fst_run_read hardware react world
  refine ⟨?_, fun callback => ?_, fun number react world => ⟨Simulated.Clock.cleared_of_idle, ?_,
    Simulated.serve_clock number react world⟩⟩
  · exact Gated.clock.serve_none hardware react world
  · obtain ⟨turns, rest, asks, scan⟩ := Gated.clock.serve_live callback hardware react world
    rw [read, ← rtc_eq_serve] at scan
    rw [← rtc_eq_serve] at asks
    refine ⟨turns, rest, asks, scan, ?_, scan.told_event⟩
    exact (Gated.clock.flagged_ascending snapshot).sublist scan.sublist
  · rw [rtc_eq_serve]
    exact congrArg World.state (Gated.clock.serve_none (Simulated.hardware number) react world).2.2

/-- All three events are flagged with their gates open, but the clear drops the gate of the
first, and the callback that is told of the second closes the gate of the third: it is told of
the second only. Without anything to be dropped an unknown control bit outlives the clear. -/
theorem rtc_tells_while_open_closing :
    let control : Word := ClockControl.eventFlags ||| 0x7 ||| 0x100000
    let idle : Simulated.Clock := { Simulated.Clock.initial with control }
    let staged : Simulated.Clock := { idle with dropped := ClockControl.running }
    let world (clock : Simulated.Clock) : World Simulated.Board Simulated.Adjustment :=
      World.initial { Simulated.Board.initial with clock }
    let react : Reaction Simulated.Board Simulated.Adjustment := fun _ _ world =>
      { world with board := (world.board.respond (.clock (.disarm .subSecond))).2 }
    let simulated := Simulated.hardware Simulated.number
    let callback : Callback := ⟨.routine, 1, .rtc ⟨.subSecond, 9⟩, 1⟩
    let told := (world staged).invocations simulated react (rtc (some callback))
    (∀ event : ClockEvent, (∃ v ∈ told, v.index = event.index) ↔ event = .timeOfDay) ∧
      idle.cleared.control = 0x100007 := by
  intro control idle staged world react simulated callback told
  obtain ⟨-, -, tells⟩ := rtc_tells_while_open simulated react (world staged)
  obtain ⟨unstaged, -⟩ := tells Simulated.number react (world idle)
  obtain ⟨-, -, tells⟩ := tells Simulated.number react (world staged)
  have kept := congrArg Simulated.Clock.control (unstaged rfl)
  refine ⟨fun event => ((tells callback).2 event).trans ?_, kept.trans (by decide)⟩
  cases event <;> decide +kernel

end Interrupts
