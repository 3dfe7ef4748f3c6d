import Interrupts.Board.Max32660
import Interrupts.Proofs.Delivery.Snapshot

/-! # The MAX32660 on any bus

What hardware answers to a read is not for software to decide, so what a driver writes is
here related to what it reads on a bus that answers in any way. The register file is one
such bus. All transfers of a delivery are those of its status read, of its clear, and of the
gates that its scan looks at.
-/

namespace Interrupts

/-- Registers that answer accesses in any way. -/
abbrev Bus (σ : Type) := (access : Access) → σ → access.Answer × σ

def RegisterFile.bus : Bus RegisterFile := fun access file =>
  let (answer, file, _) := respond access (file, [])
  (answer, file)

namespace Access

def transfer : (access : Access) → access.Answer → Transfer
  | read address, value => ⟨.read, address, value.toNat⟩
  | write address value, () => ⟨.write, address, value.toNat⟩
  | readByte address, value => ⟨.read, address, value.toNat⟩
  | writeByte address value, () => ⟨.write, address, value.toNat⟩

end Access

namespace Bus

variable {σ α : Type}

def respond (bus : Bus σ) (access : Access) (state : σ × List Transfer) :
    access.Answer × σ × List Transfer :=
  let (answer, after) := bus access state.1
  (answer, after, access.transfer answer :: state.2)

def drive (bus : Bus σ) (driver : Driver α) (state : σ) : α × σ × List Transfer :=
  let (value, state, transfers) := driver.run bus.respond (state, [])
  (value, state, transfers.reverse)

end Bus

namespace Max32660

def hardwareOn {σ : Type} (bus : Bus σ) : Hardware σ where
  number := number
  respond call state := bus.drive (drive call) state

/-- On the register file this is the MAX32660 as it is otherwise used. -/
theorem hardwareOn_registerFile : hardwareOn RegisterFile.bus = hardware := by
  have same : RegisterFile.bus.respond = RegisterFile.respond := by
    funext access state
    cases access <;> rfl
  unfold hardwareOn Bus.drive hardware RegisterFile.drive
  rw [same]

end Max32660

/-! ## The transfers of a routine -/

namespace World

variable {β η α γ : Type} (hardware : Hardware β) (react : Reaction β η)

/-- The transfers that performing an effect takes, without those of a callback. -/
def transfersOf : Effect × World β η → List Transfer
  | (.call c, world) => (hardware.respond c world.board).2.2
  | _ => []

def transfers (routine : Routine α) (world : World β η) : List Transfer :=
  (world.requests hardware react routine).flatMap (transfersOf hardware)

theorem transfers_of_only {permitted : Effect → Prop} {routine : Routine α}
    (only : routine.Only permitted) (silent : ∀ c, ¬ permitted (.call c)) (world : World β η) :
    world.transfers hardware react routine = [] := by
  refine List.flatMap_eq_nil_iff.2 fun x hx => ?_
  have asked := only.forall_mem _ _ x hx
  obtain ⟨effect, world⟩ := x
  cases effect with
  | call c => exact absurd asked (silent c)
  | _ => rfl

end World

namespace Max32660

open Delivery

variable {σ η : Type} (bus : Bus σ) (react : Reaction σ η) (world : World σ η)

def statusRegister : Peripheral → Nat
  | .gpio => LineBank.status
  | .rtc => Clock.control
  | .uart channel => SerialChannel.flags channel

def clearRegister : Peripheral → Nat
  | .gpio => LineBank.statusClear
  | .rtc => Clock.control
  | .uart channel => SerialChannel.flags channel

def statusOn (peripheral : Peripheral) (state : σ) : Word × σ :=
  bus (.read (statusRegister peripheral)) state

theorem run_readStatus (peripheral : Peripheral) :
    ((world.run (hardwareOn bus) react (readStatus peripheral)).1 =
        (statusOn bus peripheral world.board).1 ∧
      (world.run (hardwareOn bus) react (readStatus peripheral)).2.board =
        (statusOn bus peripheral world.board).2) := by
  cases peripheral <;> exact ⟨rfl, rfl⟩

theorem board_ahead (peripheral : Peripheral) :
    (ahead (hardwareOn bus) react world peripheral).2.board = world.board := by
  cases peripheral with
  | gpio => rfl
  | rtc => exact congrArg (·.2.board) (World.run_lookUp _ _ .rtc world)
  | uart channel => exact congrArg (·.2.board) (World.run_lookUp _ _ (.uart channel) world)

theorem snapshot_on (peripheral : Peripheral) :
    (snapshot (hardwareOn bus) react world peripheral).1 =
        (statusOn bus peripheral world.board).1 ∧
      (snapshot (hardwareOn bus) react world peripheral).2.board =
        (statusOn bus peripheral world.board).2 := by
  have read := run_readStatus bus react (ahead (hardwareOn bus) react world peripheral).2 peripheral
  rwa [board_ahead] at read

theorem transfersOf_statusCall (peripheral : Peripheral) :
    World.transfersOf (hardwareOn bus) (.call peripheral.statusCall, world) =
      [⟨.read, statusRegister peripheral, (statusOn bus peripheral world.board).1.toNat⟩] := by
  cases peripheral <;> rfl

theorem transfersOf_clearCall {peripheral : Peripheral} (polled : peripheral ≠ .rtc)
    (mask : Word) :
    World.transfersOf (hardwareOn bus) (.call (peripheral.clearCall mask), world) =
      [⟨.write, clearRegister peripheral, mask.toNat⟩] := by
  cases peripheral with
  | rtc => exact absurd rfl polled
  | gpio | uart channel => rfl

/-- The control register of the clock is read again to be cleared. -/
theorem transfersOf_clearControl (mask : Word) :
    World.transfersOf (hardwareOn bus) (.call (.clock (.clearControl mask)), world) =
      [⟨.read, Clock.control, (statusOn bus .rtc world.board).1.toNat⟩,
        ⟨.write, Clock.control, ((statusOn bus .rtc world.board).1.without mask).toNat⟩] := rfl

/-- A scan looks at gates and makes no other transfer. The gates of the clock are in its
status register. -/
theorem transfersOf_scans {peripheral : Peripheral} {effect : Effect}
    (scans : effect.Scans peripheral) : ∀ t ∈ World.transfersOf (hardwareOn bus) (effect, world),
      t.direction = .read ∧ (peripheral ≠ .rtc → t.address ≠ statusRegister peripheral) := by
  intro t ht
  cases effect with
  | call c =>
      cases c with
      | controller c => exact scans.elim
      | lines c => exact scans.elim
      | clock c =>
          cases c with
          | readControl =>
              obtain rfl := List.mem_singleton.1 ht
              exact ⟨rfl, fun polled => absurd scans polled⟩
          | _ => exact scans.elim
      | serial channel c =>
          cases c with
          | readEnabled =>
              obtain rfl : peripheral = .uart channel := scans
              obtain rfl := List.mem_singleton.1 ht
              refine ⟨rfl, fun _ => ?_⟩
              change SerialChannel.base channel + 0x0C ≠ SerialChannel.base channel + 0x10
              omega
          | _ => exact scans.elim
  | _ => cases ht

theorem transfers_lookAhead (peripheral : Peripheral) :
    world.transfers (hardwareOn bus) react (lookAhead peripheral) = [] :=
  World.transfers_of_only _ _ (looks_lookAhead peripheral) (fun _ => id) world

theorem transfers_dispatch (peripheral : Peripheral) :
    ∃ gates, world.transfers (hardwareOn bus) react (dispatch peripheral) =
        World.transfersOf (hardwareOn bus)
            (.call peripheral.statusCall, (ahead (hardwareOn bus) react world peripheral).2) ++
          World.transfersOf (hardwareOn bus)
            (.call (peripheral.clearCall (peripheral.cleared
              (snapshot (hardwareOn bus) react world peripheral).1)),
              (snapshot (hardwareOn bus) react world peripheral).2) ++ gates ∧
      ∀ t ∈ gates, t.direction = .read ∧
        (peripheral ≠ .rtc → t.address ≠ statusRegister peripheral) := by
  have silent := transfers_lookAhead bus react world peripheral
  have scans := (scans_scan peripheral (ahead (hardwareOn bus) react world peripheral).1
    (snapshot (hardwareOn bus) react world peripheral).1).forall_mem
      (World.respond (hardwareOn bus) react)
      (afterClear (hardwareOn bus) react world peripheral)
  refine ⟨(World.requests (hardwareOn bus) react
    (afterwards (hardwareOn bus) react world peripheral)
      (afterClear (hardwareOn bus) react world peripheral)).flatMap
        (World.transfersOf (hardwareOn bus)), ?_, ?_⟩
  · rw [World.transfers] at silent
    rw [World.transfers, requests_dispatch, List.flatMap_append, List.flatMap_append, silent]
    simp
  · intro t ht
    obtain ⟨x, hx, ht⟩ := List.mem_flatMap.1 ht
    exact transfersOf_scans bus x.2 (scans x hx) t ht

/-- What is cleared of lines and serial channels is what was read, whatever that was. -/
theorem transfers_dispatch_polled {peripheral : Peripheral} (polled : peripheral ≠ .rtc) :
    ∃ gates, world.transfers (hardwareOn bus) react (dispatch peripheral) =
        ⟨.read, statusRegister peripheral, (statusOn bus peripheral world.board).1.toNat⟩ ::
        ⟨.write, clearRegister peripheral, (statusOn bus peripheral world.board).1.toNat⟩ ::
          gates ∧
      ∀ t ∈ gates, t.direction = .read ∧ t.address ≠ statusRegister peripheral := by
  obtain ⟨gates, transfers, reads⟩ := transfers_dispatch bus react world peripheral
  have same (snapshot : Word) : peripheral.cleared snapshot = snapshot := by
    cases peripheral with
    | rtc => exact absurd rfl polled
    | gpio | uart channel => rfl
  refine ⟨gates, ?_, fun t ht => ⟨(reads t ht).1, (reads t ht).2 polled⟩⟩
  rw [transfers, transfersOf_statusCall, transfersOf_clearCall bus _ polled, same,
    (snapshot_on bus react world peripheral).1, board_ahead]
  rfl

/-- The control register is read twice before it is written, and what is written has no event
flag, whichever of them were read. -/
theorem transfers_dispatch_clock :
    let first := statusOn bus .rtc world.board
    let second := statusOn bus .rtc first.2
    ∃ gates, world.transfers (hardwareOn bus) react (dispatch .rtc) =
        ⟨.read, Clock.control, first.1.toNat⟩ :: ⟨.read, Clock.control, second.1.toNat⟩ ::
        ⟨.write, Clock.control, (second.1.without ClockControl.eventFlags).toNat⟩ :: gates ∧
      ∀ t ∈ gates, t.direction = .read := by
  intro first second
  obtain ⟨gates, transfers, reads⟩ := transfers_dispatch bus react world .rtc
  refine ⟨gates, ?_, fun t ht => (reads t ht).1⟩
  have clears := transfersOf_clearControl bus
    (snapshot (hardwareOn bus) react world .rtc).2 ClockControl.eventFlags
  rw [(snapshot_on bus react world .rtc).2] at clears
  rw [transfers, transfersOf_statusCall, board_ahead]
  exact congrArg (_ ++ · ++ gates) clears

end Max32660

end Interrupts
