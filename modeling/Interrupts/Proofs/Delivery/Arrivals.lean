import Interrupts.Proofs.Max32660.Bus
import Interrupts.Proofs.Simulated.Signal

/-! # Events that arrive during a delivery

Between any two calls on a board hardware may assert further events. A live board takes what
comes from outside before it answers a call. A delivery reads the status once and clears it
once; an event that arrives in between is lost if and only if the clear takes it along.
-/

namespace Interrupts

open Routine Delivery

namespace Simulated

/-- A simulated board with what comes from outside. -/
structure Live where
  board : Board
  /-- What happens before each of the next calls; afterwards nothing happens. -/
  coming : List (List Stimulus)

namespace Live

def arrived (live : Live) : Board := (live.coming.headD []).foldl Board.stimulate live.board

end Live

def liveHardware (number : Peripheral → Nat) : Hardware Live where
  number := number
  respond call live :=
    let (answer, board) := live.arrived.respond call
    (answer, ⟨board, live.coming.tail⟩, [])

/-- The register in which the events of the peripheral are flagged. -/
def Board.status (board : Board) : Peripheral → Word
  | .gpio => board.lines.status
  | .rtc => board.clock.control
  | .uart channel => (board.serial.get channel).flags

def Live.Flagged (peripheral : Peripheral) (i : Nat) (live : Live) : Prop :=
  (live.board.status peripheral).getLsbD i = true

theorem get_set_serial (serial : Vector SerialChannel 2) (channel other : Channel)
    (state : SerialChannel) : (serial.set channel.val state channel.isLt).get other =
      if channel = other then state else serial.get other := by
  by_cases h : channel = other
  · subst h
    exact (Vector.getElem_set_self channel.isLt).trans (if_pos rfl).symm
  · have hv : channel.val ≠ other.val := fun e => h (Fin.ext e)
    exact (Vector.getElem_set_ne channel.isLt other.isLt hv).trans (if_neg h).symm

theorem Board.status_stimulate {board : Board} {peripheral : Peripheral} {i : Nat}
    (flagged : (board.status peripheral).getLsbD i = true) (stimulus : Stimulus) :
    ((board.stimulate stimulus).status peripheral).getLsbD i = true := by
  have kept {w : Word} (h : w.getLsbD i = true) (mask : Word) :
      (w ||| mask).getLsbD i = true := by
    rw [BitVec.getLsbD_or, h, Bool.true_or]
  cases peripheral with
  | gpio =>
      cases stimulus with
      | raiseLines mask => exact kept flagged mask
      | _ => exact flagged
  | rtc =>
      cases stimulus with
      | setClock mask => exact kept flagged mask
      | _ => exact flagged
  | uart channel =>
      cases stimulus with
      | raiseSerial other mask =>
          simp only [status, stimulate, get_set_serial]
          split
          next same => exact kept (same ▸ flagged) mask
          next => exact flagged
      | enableSerial other mask =>
          simp only [status, stimulate, get_set_serial]
          split
          next same => exact same ▸ flagged
          next => exact flagged
      | _ => exact flagged

theorem Live.arrived_status {live : Live} {peripheral : Peripheral} {i : Nat}
    (flagged : live.Flagged peripheral i) :
    (live.arrived.status peripheral).getLsbD i = true := by
  unfold arrived
  unfold Flagged at flagged
  generalize live.board = board at flagged
  induction live.coming.headD [] generalizing board with
  | nil => exact flagged
  | cons stimulus rest ih => exact ih _ (Board.status_stimulate flagged stimulus)

/-! ## What a delivery does to the status -/

namespace Board

theorem respond_scans {peripheral : Peripheral} {c : Call}
    (scans : (Effect.call c).Scans peripheral) (board : Board) : (board.respond c).2 = board := by
  cases c with
  | controller c => exact scans.elim
  | lines c => exact scans.elim
  | clock c =>
      cases c with
      | readControl => rfl
      | _ => exact scans.elim
  | serial channel c =>
      cases c with
      | readEnabled =>
          have same : board.serial.set channel board.serial[channel] = board.serial :=
            Vector.set_getElem_self _
          exact congrArg (fun serial => { board with serial }) same
      | _ => exact scans.elim

/-- A clear takes the bits of its mask off the status, and nothing else happens to it; from
the clock it also takes what a test has dropped. -/
theorem status_clear (peripheral : Peripheral) (polled : peripheral ≠ .rtc) (mask : Word)
    (board : Board) :
    ((board.respond (peripheral.clearCall mask)).2.status peripheral) =
      (board.status peripheral).without mask := by
  cases peripheral with
  | gpio => rfl
  | rtc => exact absurd rfl polled
  | uart channel =>
      simp only [Peripheral.clearCall, respond, status, get_set_serial, if_true]
      rfl

end Board

section

variable {η : Type} (number : Peripheral → Nat) (react : Reaction Live η) (world : World Live η)
  {peripheral : Peripheral}

/-- Callbacks clear no status bit of the peripheral. -/
def Gentle (peripheral : Peripheral) (react : Reaction Live η) : Prop :=
  ∀ callback index world i, world.board.Flagged peripheral i →
    (react callback index world).board.Flagged peripheral i

section

variable {react world}

theorem flagged_of_scans (gentle : Gentle peripheral react) {effect : Effect}
    (scans : effect.Scans peripheral) {i : Nat} (flagged : world.board.Flagged peripheral i) :
    (world.respond (liveHardware number) react effect).2.board.Flagged peripheral i := by
  cases effect with
  | call c =>
      rw [World.respond_call]
      simp only [liveHardware, Live.Flagged, Board.respond_scans scans]
      exact Live.arrived_status flagged
  | invoke source callback index =>
      rw [World.respond_invoke]
      exact gentle _ _ _ i (by rwa [Invocation.board_entry])
  | _ => exact flagged

/-- What an effect of a scan finds flagged afterwards came from outside or while a callback
ran, if it was not there before. -/
theorem arrived_of_scans {effect : Effect} (scans : effect.Scans peripheral) {i : Nat}
    (flagged : (world.respond (liveHardware number) react effect).2.board.Flagged peripheral i) :
    effect.Invokes ∨ (world.board.arrived.status peripheral).getLsbD i = true := by
  cases effect with
  | call c =>
      rw [World.respond_call] at flagged
      simp only [liveHardware, Live.Flagged, Board.respond_scans scans] at flagged
      exact .inr flagged
  | invoke source callback index => exact .inl trivial
  | _ => exact .inr (Live.arrived_status flagged)

end

theorem snapshot_live : (snapshot (liveHardware number) react world peripheral).1 =
    (ahead (liveHardware number) react world peripheral).2.board.arrived.status peripheral := by
  cases peripheral <;> rfl

theorem board_afterClear :
    (afterClear (liveHardware number) react world peripheral).board.board =
      ((snapshot (liveHardware number) react world peripheral).2.board.arrived.respond
        (peripheral.clearCall (peripheral.cleared
          (snapshot (liveHardware number) react world peripheral).1))).2 := by
  rw [afterClear_eq, World.respond_call]
  rfl

def scanning (world : World Live η) (peripheral : Peripheral) : List (Effect × World Live η) :=
  (afterClear (liveHardware number) react world peripheral).requests (liveHardware number) react
    (afterwards (liveHardware number) react world peripheral)

theorem scans_of_scanning {x : Effect × World Live η}
    (hx : x ∈ scanning number react world peripheral) : x.1.Scans peripheral :=
  (scans_scan peripheral _ _).forall_mem _ _ x hx

theorem flagged_lasts (gentle : Gentle peripheral react) {i : Nat}
    {x : Effect × World Live η} (hx : x ∈ scanning number react world peripheral)
    (flagged : (x.2.respond (liveHardware number) react x.1).2.board.Flagged peripheral i) :
    (world.run (liveHardware number) react (dispatch peripheral)).2.board.Flagged
      peripheral i := by
  rw [run_dispatch]
  have keeps (effect : Effect) (world : World Live η) (scans : effect.Scans peripheral)
      (flagged : world.board.Flagged peripheral i) :=
    flagged_of_scans number gentle scans flagged
  exact (scans_scan peripheral _ _).lasts (World.respond (liveHardware number) react) keeps x hx
    flagged

theorem flagged_of_afterClear (gentle : Gentle peripheral react) {i : Nat}
    (flagged : (afterClear (liveHardware number) react world peripheral).board.Flagged
      peripheral i) :
    (world.run (liveHardware number) react (dispatch peripheral)).2.board.Flagged
      peripheral i := by
  rw [run_dispatch]
  have keeps (effect : Effect) (world : World Live η) (scans : effect.Scans peripheral)
      (flagged : world.board.Flagged peripheral i) :=
    flagged_of_scans number gentle scans flagged
  exact ((scans_scan peripheral _ _).invariant (World.respond (liveHardware number) react) keeps
    flagged).1

/-- What the clear took is flagged at the end only if it was asserted anew. -/
theorem flagged_anew {i : Nat}
    (cleared : ¬ (afterClear (liveHardware number) react world peripheral).board.Flagged
      peripheral i)
    (flagged : (world.run (liveHardware number) react (dispatch peripheral)).2.board.Flagged
      peripheral i) :
    ∃ x ∈ scanning number react world peripheral, ¬ x.2.board.Flagged peripheral i ∧
      (x.2.respond (liveHardware number) react x.1).2.board.Flagged peripheral i := by
  rw [run_dispatch] at flagged
  exact Program.exists_request (fun world : World Live η => world.board.Flagged peripheral i)
    (World.respond (liveHardware number) react) _ cleared flagged

end

end Simulated

open Simulated Max32660 in
/-- Events of lines and serial channels that arrive while they are served are not lost. The
status is read once and what was read is cleared at once, before any callback is invoked. A
bit that is not in the snapshot is still set at the end, whether it was asserted before the
clear or later, if callbacks clear no status; a bit of the snapshot is cleared whether or not
it is delivered, and set at the end only if it was asserted anew. On the MAX32660 the one
value that is written to the status is the one that was read, whatever it was. -/
theorem arrivals_kept {peripheral : Peripheral} (polled : peripheral ≠ .rtc) :
    (∀ {η : Type} (number : Peripheral → Nat) (react : Reaction Live η) (world : World Live η),
      let reading := (ahead (liveHardware number) react world peripheral).2
      let clearing := (snapshot (liveHardware number) react world peripheral).2
      let status := reading.board.arrived.status peripheral
      let cleared := (clearing.respond (liveHardware number) react
        (.call (peripheral.clearCall status))).2
      let after := scanning number react world peripheral
      let last := (world.run (liveHardware number) react (dispatch peripheral)).2
      world.requests (liveHardware number) react (dispatch peripheral) =
          world.requests (liveHardware number) react (lookAhead peripheral) ++
            [(.call peripheral.statusCall, reading),
              (.call (peripheral.clearCall status), clearing)] ++ after ∧
        (∀ x ∈ world.requests (liveHardware number) react (lookAhead peripheral), x.1.Looks) ∧
        (∀ x ∈ after, x.1.Scans peripheral) ∧
        cleared.board.board.status peripheral =
          (clearing.board.arrived.status peripheral).without status ∧
        (Gentle peripheral react →
          (∀ i, (clearing.board.arrived.status peripheral).getLsbD i = true →
            status.getLsbD i = false → last.board.Flagged peripheral i) ∧
          ∀ x ∈ after, ∀ i, x.2.board.Flagged peripheral i → last.board.Flagged peripheral i) ∧
        ∀ i, status.getLsbD i = true → last.board.Flagged peripheral i →
          ∃ x ∈ after, ¬ x.2.board.Flagged peripheral i ∧
            (x.1.Invokes ∨ (x.2.board.arrived.status peripheral).getLsbD i = true)) ∧
    ∀ {σ η : Type} (bus : Bus σ) (react : Reaction σ η) (world : World σ η),
      let value := (bus (.read (statusRegister peripheral)) world.board).1
      ∃ gates, world.transfers (hardwareOn bus) react (dispatch peripheral) =
          ⟨.read, statusRegister peripheral, value.toNat⟩ ::
            ⟨.write, clearRegister peripheral, value.toNat⟩ :: gates ∧
        ∀ t ∈ gates, t.direction = .read ∧ t.address ≠ statusRegister peripheral := by
  have same (snapshot : Word) : peripheral.cleared snapshot = snapshot := by
    cases peripheral with
    | rtc => exact absurd rfl polled
    | gpio | uart channel => rfl
  refine ⟨?_, fun bus react world => transfers_dispatch_polled bus react world polled⟩
  intro η number react world reading clearing status cleared after last
  have read : (snapshot (liveHardware number) react world peripheral).1 = status :=
    snapshot_live number react world
  have requests := requests_dispatch (liveHardware number) react world peripheral
  rw [same, read] at requests
  have ended : afterClear (liveHardware number) react world peripheral = cleared := by
    rw [afterClear_eq, same, read]
  have clears : cleared.board.board.status peripheral =
      (clearing.board.arrived.status peripheral).without status := by
    rw [← ended, board_afterClear, same, read, Board.status_clear peripheral polled]
  have bits (i : Nat) : cleared.board.Flagged peripheral i ↔
      (clearing.board.arrived.status peripheral).getLsbD i = true ∧
        status.getLsbD i = false := by
    rw [Live.Flagged, clears, Word.getLsbD_without, Bool.and_eq_true, Bool.not_eq_true']
  refine ⟨requests, (looks_lookAhead peripheral).forall_mem _ _,
    fun x hx => scans_of_scanning number react world hx, clears, fun gentle => ⟨?_, ?_⟩, ?_⟩
  · intro i arrived fresh
    refine flagged_of_afterClear number react world gentle ?_
    rw [ended, bits]
    exact ⟨arrived, fresh⟩
  · intro x hx i flagged
    have scans := scans_of_scanning number react world hx
    exact flagged_lasts number react world gentle hx
      (flagged_of_scans number gentle scans flagged)
  · intro i read flagged
    have cleared : ¬ (afterClear (liveHardware number) react world peripheral).board.Flagged
        peripheral i := by
      rw [ended, bits, read]
      exact fun none => Bool.noConfusion none.2
    obtain ⟨x, hx, before, came⟩ := flagged_anew number react world cleared flagged
    have scans := scans_of_scanning number react world hx
    exact ⟨x, hx, before, arrived_of_scans number scans came⟩

open Simulated Max32660 in
/-- Lines 0 and 3 have asserted their events when the status is read, and only line 0 has a
callback. Lines 0 and 5 assert theirs before the clear, and line 6 while the callback runs.
At the end 5 and 6 are set. On the register file the value 9 is read and written back. -/
theorem arrivals_kept_lines :
    let board := Board.initial.stimulate (.raiseLines 9)
    let react : Reaction Live Unit := fun _ _ world =>
      { world with board.board := world.board.board.stimulate (.raiseLines (Word.bit 6)) }
    let world : World Live Unit :=
      { World.initial ⟨board, [[], [.raiseLines (Word.bit 0 ||| Word.bit 5)]]⟩ with
        registry := (Registry.empty.install (.gpio 0) ⟨.routine, 1, .gpio .risingEdge, 1⟩).2 }
    let last := (world.run (liveHardware Simulated.number) react (dispatch .gpio)).2
    let file := RegisterFile.empty.store LineBank.status 9
    last.board.Flagged .gpio 5 ∧ last.board.board.lines.status = Word.bit 5 ||| Word.bit 6 ∧
      ∃ gates, (World.initial file : World RegisterFile Unit).transfers
          (hardwareOn RegisterFile.bus) (fun _ _ world => world) (dispatch .gpio) =
        ⟨.read, LineBank.status, 9⟩ :: ⟨.write, LineBank.statusClear, 9⟩ :: gates := by
  intro board react world last file
  have gentle : Gentle .gpio react := fun _ _ world i flagged =>
    Board.status_stimulate flagged (.raiseLines (Word.bit 6))
  have polled : Peripheral.gpio ≠ .rtc := by decide
  obtain ⟨live, onBus⟩ := arrivals_kept polled
  obtain ⟨_, _, _, _, kept, _⟩ := live Simulated.number react world
  obtain ⟨gates, transfers, _⟩ := onBus RegisterFile.bus (fun _ _ world => world)
    (World.initial file : World RegisterFile Unit)
  have fifth : last.board.Flagged .gpio 5 :=
    (kept gentle).1 5 (by decide +kernel) (by decide +kernel)
  have ended : last.board.board.lines.status = Word.bit 5 ||| Word.bit 6 := by decide +kernel
  have value : (RegisterFile.bus (.read (statusRegister .gpio))
      (World.initial file : World RegisterFile Unit).board).1 = 9 := by decide +kernel
  refine ⟨fifth, ended, gates, ?_⟩
  rw [transfers, value]
  rfl

end Interrupts
