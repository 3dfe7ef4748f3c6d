import Interrupts.Proofs.Delivery.Arrivals

/-! # Events of the clock that arrive during a delivery

The clock is served like the other peripherals but for its clear, which takes the flags of
all three events whether they are in the snapshot or not. An event that is flagged between
the snapshot and the clear is therefore lost: it is not delivered, and no flag is left of it.
The clear of the MAX32660 reads the control register again and writes it back without any
event flag, so there also what is flagged between this read and the write is lost.
-/

namespace Interrupts

open Routine Delivery

namespace Effect

/-- If the effect invokes a callback, it is for an event that is flagged in the snapshot. -/
def Announces (snapshot : Word) : Effect → Prop
  | invoke _ _ index => ∃ event : ClockEvent, index = event.index ∧
      snapshot.covers event.flag = true
  | _ => True

end Effect

namespace Delivery

theorem announces_scanEvents (callback : Callback) (snapshot : Word) (events : List ClockEvent) :
    (scanEvents callback snapshot events).Only (Effect.Announces snapshot) := by
  induction events with
  | nil => trivial
  | cons event rest ih =>
      unfold scanEvents
      split
      next flagged =>
        refine Program.Only.bind ⟨trivial, fun _ => trivial⟩ fun control => ?_
        split
        · exact Program.Only.bind ⟨⟨event, rfl, flagged⟩, fun _ => trivial⟩ fun _ => ih
        · exact ih
      next => exact ih

theorem announces_dispatch {β η : Type} (hardware : Hardware β) (react : Reaction β η)
    (world : World β η) :
    ∀ v ∈ world.invocations hardware react (dispatch .rtc), ∃ event : ClockEvent,
      v.index = event.index ∧
        (snapshot hardware react world .rtc).1.covers event.flag = true := by
  intro v hv
  rw [invocations_dispatch] at hv
  obtain ⟨⟨effect, before⟩, scanned, same⟩ := List.mem_filterMap.1 hv
  have announces : effect.Announces (snapshot hardware react world .rtc).1 := by
    refine Program.Only.forall_mem ?_ _ _ _ scanned
    unfold afterwards
    cases (ahead hardware react world .rtc).1 with
    | none => trivial
    | some callback => exact announces_scanEvents callback _ _
  cases effect with
  | invoke source callback index =>
      cases same
      exact announces
  | _ => cases same

end Delivery

theorem Word.covers_without_eventFlags (w dropped : Word) (event : ClockEvent) :
    (w.without (ClockControl.eventFlags ||| dropped)).covers event.flag = false := by
  have mask : ClockControl.eventFlags.getLsbD (5 + event.index) = true := by
    cases event <;> decide
  rw [Simulated.Signal.covers_flag, Word.getLsbD_without, BitVec.getLsbD_or, mask]
  simp

namespace Simulated

variable {η : Type} (number : Peripheral → Nat) (react : Reaction Live η) (world : World Live η)

theorem covers_afterClear (event : ClockEvent) :
    (afterClear (liveHardware number) react world .rtc).board.board.clock.control.covers
      event.flag = false := by
  rw [board_afterClear]
  exact Word.covers_without_eventFlags _ _ event

variable {react} in
/-- An event is flagged at the end exactly if some request after the clear finds it unflagged
and leaves it flagged. -/
theorem event_flagged_iff (gentle : Gentle .rtc react) (event : ClockEvent) :
    (world.run (liveHardware number) react
        (dispatch .rtc)).2.board.board.clock.control.covers event.flag = true ↔
      ∃ x ∈ scanning number react world .rtc,
        x.2.board.board.clock.control.covers event.flag = false ∧
          (x.2.respond (liveHardware number) react x.1).2.board.board.clock.control.covers
            event.flag = true := by
  have cleared : ¬ (afterClear (liveHardware number) react world .rtc).board.Flagged .rtc
      (5 + event.index) := by
    rw [Live.Flagged, Board.status, ← Signal.covers_flag, covers_afterClear]
    exact Bool.false_ne_true
  simp only [Signal.covers_flag]
  constructor
  · intro flagged
    obtain ⟨x, hx, before, came⟩ := flagged_anew number react world cleared flagged
    exact ⟨x, hx, Bool.eq_false_iff.2 before, came⟩
  · rintro ⟨x, hx, _, came⟩
    exact flagged_lasts number react world gentle hx came

end Simulated

open Simulated Max32660 in
/-- An event of the clock that is flagged between the snapshot and the clear is lost. The
dispatch announces events of its snapshot only, and after the clear no event is flagged; if
callbacks clear no flag, an event is flagged at the end exactly if it is flagged anew after
the clear. On the MAX32660 the control register is read a second time for the clear, and no
event flag is written back, whichever of them were read. -/
theorem clock_arrivals_lost {η σ : Type} (number : Peripheral → Nat) (react : Reaction Live η)
    (world : World Live η) (bus : Bus σ) (react' : Reaction σ η) (world' : World σ η) :
    (let reading := (ahead (liveHardware number) react world .rtc).2
      let clearing := (snapshot (liveHardware number) react world .rtc).2
      let clear := Effect.call (.clock (.clearControl ClockControl.eventFlags))
      let cleared := (clearing.respond (liveHardware number) react clear).2
      let after := scanning number react world .rtc
      let last := (world.run (liveHardware number) react (dispatch .rtc)).2
      world.requests (liveHardware number) react (dispatch .rtc) =
          world.requests (liveHardware number) react (lookAhead .rtc) ++
            [(.call (.clock .readControl), reading), (clear, clearing)] ++ after ∧
        (∀ v ∈ world.invocations (liveHardware number) react (dispatch .rtc),
          ∃ event : ClockEvent, v.index = event.index ∧
            reading.board.arrived.clock.control.covers event.flag = true) ∧
        (∀ event : ClockEvent, cleared.board.board.clock.control.covers event.flag = false) ∧
        (Gentle .rtc react → ∀ event : ClockEvent,
          last.board.board.clock.control.covers event.flag = true ↔
            ∃ x ∈ after, x.2.board.board.clock.control.covers event.flag = false ∧
              (x.2.respond (liveHardware number) react x.1).2.board.board.clock.control.covers
                event.flag = true)) ∧
    (let first := bus (.read Max32660.Clock.control) world'.board
      let second := bus (.read Max32660.Clock.control) first.2
      let written := second.1.without ClockControl.eventFlags
      (∀ event : ClockEvent, written.covers event.flag = false) ∧
        (∀ v ∈ world'.invocations (hardwareOn bus) react' (dispatch .rtc),
          ∃ event : ClockEvent, v.index = event.index ∧ first.1.covers event.flag = true) ∧
        ∃ gates, world'.transfers (hardwareOn bus) react' (dispatch .rtc) =
            ⟨.read, Max32660.Clock.control, first.1.toNat⟩ ::
              ⟨.read, Max32660.Clock.control, second.1.toNat⟩ ::
              ⟨.write, Max32660.Clock.control, written.toNat⟩ :: gates ∧
          ∀ t ∈ gates, t.direction = .read) := by
  constructor
  · intro reading clearing clear cleared after last
    have read : (snapshot (liveHardware number) react world .rtc).1 =
        reading.board.arrived.clock.control := snapshot_live number react world
    have ended : afterClear (liveHardware number) react world .rtc = cleared := by
      rw [afterClear_eq]
      rfl
    refine ⟨requests_dispatch .., read ▸ announces_dispatch _ _ _, fun event => ?_,
      fun gentle => event_flagged_iff number world gentle⟩
    rw [← ended]
    exact covers_afterClear number react world event
  · intro first second written
    have none (event : ClockEvent) : written.covers event.flag = false := by
      have clears := Word.covers_without_eventFlags second.1 0 event
      rwa [BitVec.ofNat_eq_ofNat, BitVec.or_zero] at clears
    have read : (snapshot (hardwareOn bus) react' world' .rtc).1 = first.1 :=
      (snapshot_on bus react' world' .rtc).1
    exact ⟨none, read ▸ announces_dispatch _ _ _, transfers_dispatch_clock bus react' world'⟩

open Simulated in
/-- The time of day is flagged when the status is read, the sub-second alarm before the clear,
and the read-ready event while the gate is looked at. The first is delivered, the second is
lost, and the third is flagged at the end. -/
theorem clock_arrivals_lost_once :
    let board := Board.initial.stimulate
      (.setClock (ClockControl.timeOfDayFlag ||| ClockControl.timeOfDayEnable))
    let coming := [[], [.setClock ClockControl.subSecondFlag], [.setClock ClockControl.readReady]]
    let react : Reaction Live Unit := fun _ _ world => world
    let world : World Live Unit :=
      { World.initial ⟨board, coming⟩ with
        registry := (Registry.empty.install .rtc
          ⟨.routine, 1, .rtc ⟨.timeOfDay, 30⟩, 1⟩).2 }
    let last := (world.run (liveHardware Simulated.number) react (dispatch .rtc)).2
    (world.invocations (liveHardware Simulated.number) react (dispatch .rtc)).map (·.index) =
        [1] ∧
      last.board.board.clock.control.covers ClockEvent.subSecond.flag = false ∧
      last.board.board.clock.control.covers ClockEvent.readReady.flag = true := by
  intro board coming react world last
  have gentle : Gentle .rtc react := fun _ _ _ _ flagged => flagged
  obtain ⟨⟨_, _, _, flagged⟩, _⟩ := clock_arrivals_lost Simulated.number react world
    RegisterFile.bus (fun _ _ world => world) (World.initial RegisterFile.empty)
  exact ⟨by decide +kernel, Bool.eq_false_iff.2 fun lost =>
    absurd ((flagged gentle .subSecond).1 lost) (by decide +kernel),
    (flagged gentle .readReady).2 (by decide +kernel)⟩

open Max32660 in
/-- On the MAX32660 the sub-second alarm is flagged after the snapshot, and its flag is seen
by the second read of the control register. The register has no flag at the end, and only the
time of day has been delivered. -/
theorem clock_arrival_overwritten :
    let file := RegisterFile.empty.queue Max32660.Clock.control [0x42, 0xC2]
    let react : Reaction RegisterFile Unit := fun _ _ world => world
    let world : World RegisterFile Unit :=
      { World.initial file with
        registry := (Registry.empty.install .rtc
          ⟨.routine, 1, .rtc ⟨.timeOfDay, 30⟩, 1⟩).2 }
    let last := (world.run Max32660.hardware react (dispatch .rtc)).2
    Word.covers 0x42 ClockEvent.subSecond.flag = false ∧
      Word.covers 0xC2 ClockEvent.subSecond.flag = true ∧
      world.transfers Max32660.hardware react (dispatch .rtc) =
        [⟨.read, Max32660.Clock.control, 0x42⟩, ⟨.read, Max32660.Clock.control, 0xC2⟩,
          ⟨.write, Max32660.Clock.control, 0x02⟩, ⟨.read, Max32660.Clock.control, 0x02⟩] ∧
      (world.invocations Max32660.hardware react (dispatch .rtc)).map (·.index) = [1] ∧
      (last.board.load Max32660.Clock.control).covers ClockEvent.subSecond.flag = false := by
  decide +kernel

end Interrupts
