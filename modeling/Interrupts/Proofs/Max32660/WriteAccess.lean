import Mathlib.Algebra.Order.BigOperators.Group.List
import Mathlib.Algebra.Order.Ring.Nat
import Interrupts.Proofs.Max32660.Stages

/-! # Write access is closed again

Whatever the control register of the clock answers, at every single read, a call that programs
an alarm comes to an end, and if it has opened write access it ends by closing it. What it
writes to the control register is what it has read there just before, but for one bit that it
means to change.
-/

namespace Interrupts.Max32660.Clock

variable {σ : Type} (bus : Bus σ)

/-! ## Transfers -/

/-- Every write of the control register puts back what was read there just before, with the bits
of one of the masks set or cleared. -/
def WritesBack (masks : List Word) (transfers : List Transfer) : Prop :=
  ∀ before value after, transfers = before ++ ⟨.write, control, value⟩ :: after →
    ∃ earlier, ∃ read : Word, ∃ mask ∈ masks, ∃ on : Bool,
      before = earlier ++ [⟨.read, control, read.toNat⟩] ∧ value = (read.write mask on).toNat

/-- The first write is one of the control register, and sets the write-enable bit. -/
def Opens (transfers : List Transfer) : Prop :=
  ∃ before, ∃ value : Word, ∃ after,
    transfers = before ++ ⟨.write, control, value.toNat⟩ :: after ∧
      (∀ transfer ∈ before, transfer.direction = .read) ∧
      value.covers ClockControl.writeEnable = true

/-- The last transfer is a write of the control register that clears the write-enable bit. -/
def Closes (transfers : List Transfer) : Prop :=
  ∃ before, ∃ value : Word, transfers = before ++ [⟨.write, control, value.toNat⟩] ∧
    value.covers ClockControl.writeEnable = false

namespace WritesBack

variable {masks : List Word} {first second : List Transfer}

theorem append (h : WritesBack masks first) (h' : WritesBack masks second) :
    WritesBack masks (first ++ second) := by
  intro before value after split
  rcases List.append_eq_append_iff.1 split with ⟨front, rfl, rest⟩ | ⟨back, own, rest⟩
  · obtain ⟨earlier, read, mask, listed, on, rfl, same⟩ := h' front value after rest
    exact ⟨first ++ earlier, read, mask, listed, on, (List.append_assoc ..).symm, same⟩
  · cases back with
    | nil =>
        obtain ⟨earlier, read, mask, listed, on, none, -⟩ := h' [] value after rest.symm
        cases earlier <;> cases none
    | cons write back =>
        obtain ⟨rfl, rfl⟩ := List.cons.inj rest
        exact h before value back own

theorem flatMap {ι : Type} {items : List ι} {transfers : ι → List Transfer}
    (h : ∀ item ∈ items, WritesBack masks (transfers item)) :
    WritesBack masks (items.flatMap transfers) := by
  induction items with
  | nil => exact fun before value after none => by cases before <;> cases none
  | cons item rest ih =>
      rw [List.forall_mem_cons] at h
      exact h.1.append (ih h.2)

theorem of_reads (reads : ∀ transfer ∈ first, transfer.direction = .read) :
    WritesBack masks first := by
  rintro before value after rfl
  have own := reads ⟨.write, control, value⟩
    (List.mem_append_right _ List.mem_cons_self)
  cases own

end WritesBack

/-! ## The transfers of a stage -/

namespace Stage

def bound : Stage → Nat
  | await => patience
  | force _ _ => 2
  | schedule _ _ => 1

def mask? : Stage → Option Word
  | force mask _ => some mask
  | _ => none

end Stage

theorem reads_polls (n : Nat) (state : σ) :
    ∀ transfer ∈ bus.polls control n state, transfer.direction = .read := by
  intro transfer listed
  obtain ⟨i, -, rfl⟩ := List.mem_map.1 listed
  rfl

theorem transfers_await (state : σ) :
    ∃ n ≤ patience, (Leg.mk .await state).transfers bus = bus.polls control n state := by
  rcases Leg.await_cases bus state with ⟨-, -, polled⟩ | ⟨-, -, polled⟩
  · exact polled
  · exact ⟨patience, Nat.le_refl _, polled⟩

theorem transfers_force (mask : Word) (on : Bool) (state : σ) :
    (Leg.mk (.force mask on) state).transfers bus =
      [⟨.read, control, (bus (.read control) state).1.toNat⟩,
        ⟨.write, control, ((bus (.read control) state).1.write mask on).toNat⟩] := rfl

theorem length_transfers (leg : Leg σ) : (leg.transfers bus).length ≤ leg.stage.bound := by
  obtain ⟨stage, state⟩ := leg
  cases stage with
  | await =>
      obtain ⟨n, most, made⟩ := transfers_await bus state
      rw [made, Bus.polls, List.length_map, List.length_range]
      exact most
  | force mask on => exact Nat.le_refl 2
  | schedule alarm deadline => exact Nat.le_refl 1

theorem writesBack_leg {masks : List Word} (leg : Leg σ)
    (own : ∀ mask ∈ leg.stage.mask?, mask ∈ masks) : WritesBack masks (leg.transfers bus) := by
  obtain ⟨stage, state⟩ := leg
  cases stage with
  | await =>
      obtain ⟨n, -, made⟩ := transfers_await bus state
      rw [made]
      exact .of_reads (reads_polls bus n state)
  | force mask on =>
      intro before value after split
      rw [transfers_force] at split
      generalize (bus (.read control) state).1 = read at split
      -- The write is the second of two transfers, so exactly one stands before it.
      rcases before with _ | ⟨first, _ | ⟨second, rest⟩⟩
      · cases split
      · obtain ⟨rfl, others⟩ := List.cons.inj split
        obtain ⟨same, -⟩ := List.cons.inj others
        exact ⟨[], read, mask, own mask rfl, on, rfl, (congrArg Transfer.value same).symm⟩
      · obtain ⟨-, others⟩ := List.cons.inj split
        obtain ⟨-, none⟩ := List.cons.inj others
        cases rest <;> cases none
  | schedule alarm deadline =>
      intro before value after split
      have made : [⟨.write, deadlineRegister alarm, deadline.toNat⟩] =
        before ++ ⟨.write, control, value⟩ :: after := split
      rcases before with _ | ⟨first, rest⟩
      · have apart : deadlineRegister alarm ≠ control := by cases alarm <;> decide
        exact absurd (congrArg Transfer.address (List.cons.inj made).1) apart
      · cases rest <;> cases (List.cons.inj made).2

/-! ## The bracket -/

/-- A call ends with the wait that comes first, or it begins and ends as a bracket does. -/
theorem course_cases (stages : List Stage) (state : σ) :
    (¬ ReadyInTime bus state ∧ course bus stages state = [⟨.await, state⟩]) ∨
      ∃ ready opened last, course bus stages state =
        ⟨.await, state⟩ :: ⟨.force ClockControl.writeEnable true, ready⟩ ::
          (legs bus stages opened ++ [⟨closing, last⟩]) := by
  have first := Leg.result_cases bus ⟨.await, state⟩
  unfold Leg.result at first
  rw [course, opening, legs, follow, Bus.run_andThen]
  rcases ran : bus.run Stage.await.driver.run state with ⟨result, ready⟩
  rw [ran] at first
  rcases first with ⟨ok, -⟩ | ⟨error, -, late⟩
  · obtain rfl : result = .ok () := ok
    exact .inr ⟨ready, _, _, rfl⟩
  · obtain rfl : result = .error .busy := error
    exact .inl ⟨late, rfl⟩

theorem course_stages (stages : List Stage) (state : σ) :
    ((course bus stages state).map Leg.stage).Sublist (opening ++ stages ++ [closing]) ∧
      ((bus.run (bracketed stages).run state).1 = .ok () →
        (course bus stages state).map Leg.stage = opening ++ stages ++ [closing]) := by
  obtain ⟨first, whole⟩ := (followed bus opening state).stages_begun
  rw [course, run_bracketed, List.append_assoc]
  rcases ran : bus.run (follow opening).run state with ⟨_ | _, opened⟩
  · simp only [List.append_nil]
    refine ⟨first.sublist.trans (List.sublist_append_left ..), fun failed => ?_⟩
    cases failed
  · obtain ⟨second, rest⟩ := (followed bus stages opened).stages_begun
    simp only [List.map_append, List.map_singleton]
    refine ⟨first.sublist.append (second.sublist.append (List.Sublist.refl _)), fun ok => ?_⟩
    rw [whole (by rw [ran]), rest ok]

theorem transfers_bracketed (stages : List Stage) (state : σ) :
    bus.transfers (bracketed stages).run state =
      (course bus stages state).flatMap fun leg => leg.transfers bus := by
  unfold Leg.transfers Bus.transfers
  rw [requests_bracketed, List.map_flatMap]
  rfl

theorem length_transfers_bracketed (stages : List Stage) (state : σ) :
    (bus.transfers (bracketed stages).run state).length ≤
      ((opening ++ stages ++ [closing]).map Stage.bound).sum := by
  have each := (course_stages bus stages state).1.map Stage.bound
  rw [transfers_bracketed, List.length_flatMap]
  calc ((course bus stages state).map fun leg => (leg.transfers bus).length).sum
      ≤ ((course bus stages state).map fun leg => leg.stage.bound).sum :=
        List.sum_le_sum fun leg _ => length_transfers bus leg
    _ = (((course bus stages state).map Leg.stage).map Stage.bound).sum := by
        rw [List.map_map]
        rfl
    _ ≤ ((opening ++ stages ++ [closing]).map Stage.bound).sum :=
        each.sum_le_sum fun _ _ => Nat.zero_le _

theorem result_bracketed_cases (stages : List Stage) (state : σ) :
    (bus.run (bracketed stages).run state).1 = .ok () ∨
      (bus.run (bracketed stages).run state).1 = .error .busy := by
  have first := (followed bus opening state).result_cases
  rw [run_bracketed]
  generalize bus.run (follow opening).run state = opens at first ⊢
  rcases opens with ⟨_ | _, opened⟩
  · exact first
  · exact (followed bus stages opened).result_cases

theorem covers_writeEnable (w : Word) (on : Bool) :
    (w.write ClockControl.writeEnable on).covers ClockControl.writeEnable = on :=
  (Word.covers_write w _ (by decide) on).trans (if_pos (Word.covers_self _))

theorem opens_of_force (n : Nat) (state ready : σ) (rest : List Transfer) :
    Opens (bus.polls control n state ++
      ((Leg.mk (.force ClockControl.writeEnable true) ready).transfers bus ++ rest)) := by
  rw [transfers_force]
  generalize (bus (.read control) ready).1 = read
  refine ⟨bus.polls control n state ++ [⟨.read, control, read.toNat⟩],
    read.write ClockControl.writeEnable true, rest, ?_, ?_, covers_writeEnable read true⟩
  · rw [List.append_assoc]
    rfl
  · rw [List.forall_mem_append, List.forall_mem_singleton]
    exact ⟨reads_polls bus n state, rfl⟩

theorem closes_of_closing (before : List Transfer) (last : σ) :
    Closes (before ++ (Leg.mk closing last).transfers bus) := by
  rw [closing, transfers_force]
  generalize (bus (.read control) last).1 = read
  refine ⟨before ++ [⟨.read, control, read.toNat⟩], read.write ClockControl.writeEnable false, ?_,
    covers_writeEnable read false⟩
  rw [List.append_assoc]
  rfl

/-- A call that does not end with the wait that comes first opens write access and closes it. -/
theorem transfers_bracketed_cases (stages : List Stage) (state : σ) :
    (bus.transfers (bracketed stages).run state = bus.polls control patience state ∧
        (∀ n < patience, BusyAt bus n state) ∧
        (bus.run (bracketed stages).run state).1 = .error .busy) ∨
      (Opens (bus.transfers (bracketed stages).run state) ∧
        Closes (bus.transfers (bracketed stages).run state)) := by
  rw [transfers_bracketed]
  rcases course_cases bus stages state with ⟨late, alone⟩ | ⟨ready, opened, last, whole⟩
  · obtain ⟨-, always, polled⟩ := (Leg.await_cases bus state).resolve_left fun ok => late ok.2.1
    refine .inl ⟨by rw [alone, List.flatMap_singleton, polled], always, ?_⟩
    refine (result_bracketed_cases bus stages state).resolve_left fun ok => late ?_
    have first := (result_bracketed bus stages state).1 ok ⟨.await, state⟩
      (alone ▸ List.mem_singleton_self _)
    exact (Leg.result_eq_ok_iff bus _).1 first rfl
  · obtain ⟨n, -, polled⟩ := transfers_await bus state
    rw [whole, List.flatMap_cons, List.flatMap_cons, List.flatMap_append, List.flatMap_singleton,
      polled]
    refine .inr ⟨opens_of_force bus n state ready _, ?_⟩
    rw [← List.append_assoc, ← List.append_assoc]
    exact closes_of_closing bus _ last

theorem writesBack_bracketed {masks : List Word} (stages : List Stage) (state : σ)
    (own : ∀ stage ∈ opening ++ stages ++ [closing], ∀ mask ∈ stage.mask?, mask ∈ masks) :
    WritesBack masks (bus.transfers (bracketed stages).run state) := by
  have among := (course_stages bus stages state).1.subset
  rw [transfers_bracketed]
  exact .flatMap fun leg begun =>
    writesBack_leg bus leg (own leg.stage (among (List.mem_map_of_mem begun)))

/-! ## Calls -/

/-- What becomes of a call that programs an alarm, with its result and its transfers. -/
structure Concluded (alarm : Alarm) (change : Change) (state : σ) (result : Except Fault Unit)
    (transfers : List Transfer) : Prop where
  /-- The transfers are those of the stages that are begun. -/
  traced : transfers =
    (course bus (change.stages alarm) state).flatMap fun leg => leg.transfers bus
  bounded : transfers.length ≤ 4 * patience + 9
  /-- Write access is not opened, because the clock is busy, or it is closed in the end. -/
  bracket : (transfers = bus.polls control patience state ∧ (∀ n < patience, BusyAt bus n state) ∧
    result = .error .busy) ∨ (Opens transfers ∧ Closes transfers)
  writesBack : WritesBack [ClockControl.writeEnable, alarm.enableBit] transfers
  result_cases : result = .ok () ∨ result = .error .busy
  /-- The call succeeds if every wait that it comes to finds the clock ready in time. -/
  ok_iff : result = .ok () ↔
    ∀ leg ∈ course bus (change.stages alarm) state, leg.stage = .await → ReadyInTime bus leg.state
  /-- Then there is no stage that it does not come to. -/
  whole : result = .ok () →
    (course bus (change.stages alarm) state).map Leg.stage =
      opening ++ change.stages alarm ++ [closing]

/-- Whatever the registers answer, a call that programs an alarm comes to an end, with write
access closed, and fails only if it waits in vain. Any sequence of answers is that of some bus. -/
theorem write_access_closed (alarm : Alarm) (change : Change) (state : σ) :
    let driven := bus.drive (change.driver alarm) state
    Concluded bus alarm change state driven.1 driven.2.2 := by
  simp only [bus.drive_eq, change.driver_eq]
  let stages := change.stages alarm
  have bound : ((opening ++ stages ++ [closing]).map Stage.bound).sum ≤ 4 * patience + 9 := by
    cases change <;> simp [stages, Change.stages, opening, closing, Stage.bound] <;> omega
  have own : ∀ stage ∈ opening ++ stages ++ [closing], ∀ mask ∈ stage.mask?,
      mask ∈ [ClockControl.writeEnable, alarm.enableBit] := by
    cases change <;> simp [stages, Change.stages, opening, closing, Stage.mask?]
  constructor
  case traced => exact transfers_bracketed bus stages state
  case bounded => exact (length_transfers_bracketed bus stages state).trans bound
  case bracket => exact transfers_bracketed_cases bus stages state
  case writesBack => exact writesBack_bracketed bus stages state own
  case result_cases => exact result_bracketed_cases bus stages state
  case ok_iff =>
    simp only [result_bracketed, Leg.result_eq_ok_iff]
  case whole => exact (course_stages bus stages state).2

end Interrupts.Max32660.Clock
