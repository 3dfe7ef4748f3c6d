import Interrupts.Proofs.Delivery.Snapshot
import Interrupts.Proofs.Max32660.Alarms
import Interrupts.Proofs.Max32660.Instants

/-! # A delivery of the clock that is interrupted

The clear of the MAX32660 writes back what it has read of the control register but for the event
flags, and no lock is held meanwhile. A handler that comes in between this read and this write
may arm or disarm alarms, and what it does is then undone. At every other instant the rest of
the delivery leaves the alarms as it finds them.
-/

namespace Interrupts

open Routine Delivery

namespace Max32660

open Clock

def Instant.Spares : Instant → Prop
  | effect e => ∀ call, e ≠ .call call
  | access a => a.Spares control
  | answered _ _ => True

def Still {σ η : Type} (react : Reaction σ η) : Prop :=
  ∀ callback index world, (react callback index world).board = world.board

namespace Stepwise

/-- The next access writes the control register of the clock. What it writes is settled, so it
takes no notice of what happens before it is made. -/
def stale {α : Type} : Stepwise α → Bool
  | .ask (.access (.write address _)) _ => address == control
  | _ => false

/-- The control register is only written at once after it was read, with what was read in all
bits that the clock does not change by itself. -/
inductive Refreshing {α : Type} : Stepwise α → Prop
  | done (value : α) : Refreshing (.done value)
  | ask {instant : Instant} {next : instant.Answer → Stepwise α} (spares : instant.Spares)
      (later : ∀ reply, Refreshing (next reply)) : Refreshing (.ask instant next)
  | refresh (written : Word → Word) (rest : Word → Stepwise α)
      (same : ∀ read, (written read).without volatileBits = read.without volatileBits)
      (later : ∀ read, Refreshing (rest read)) :
      Refreshing (.ask (.access (.read control)) fun read =>
        .ask (.access (.write control (written read))) fun _ => rest read)

/-! ### Runs -/

variable {σ η : Type} {bus : Bus σ} {content : σ → Nat → Word} {react : Reaction σ η}

theorem respond_spares (held : bus.Holds content control volatileBits)
    (still : Still react) {instant : Instant} (spares : instant.Spares) (world : World σ η) :
    (content (instant.respond bus react world).2.board control).without volatileBits =
      (content world.board control).without volatileBits := by
  cases instant with
  | effect effect =>
      have same : (world.respond (hardwareOn bus) react effect).2.board = world.board := by
        cases effect with
        | call call => exact absurd rfl (spares call)
        | invoke source callback index =>
            exact (still ..).trans (Invocation.board_entry ⟨source, callback, index, world⟩)
        | _ => rfl
      exact congrArg (fun board => (content board control).without volatileBits) same
  | access access => exact held.spares access world.board spares
  | answered call reply => rfl

namespace Refreshing

variable {α γ : Type}

theorem bind {program : Stepwise α} {rest : α → Stepwise γ} (first : Refreshing program)
    (later : ∀ value, Refreshing (rest value)) : Refreshing (program >>= rest) := by
  induction first with
  | done value => exact later value
  | ask spares _ ih => exact .ask spares ih
  | refresh written rest same _ ih => exact .refresh written _ same ih

theorem not_stale {program : Stepwise α} (refreshing : Refreshing program) :
    program.stale = false := by
  cases refreshing with
  | done value => rfl
  | refresh written rest same later => rfl
  | @ask instant next spares later =>
      cases instant with
      | access access =>
          cases access with
          | write address value =>
              refine beq_eq_false_iff_ne.2 ?_
              rintro rfl
              exact spares (by decide)
          | _ => rfl
      | _ => rfl

/-- A refreshing program is stopped between reading the control register and writing it back, or
what is left of it is refreshing again. -/
theorem after (held : bus.Holds content control volatileBits) {program : Stepwise α}
    (refreshing : Refreshing program) (n : Nat) (world : World σ η) :
    let stopped := program.after (Instant.respond bus react) n world
    Refreshing stopped.1 ∨ ∃ value rest,
      stopped.1 = .ask (.access (.write control value)) (fun _ => rest) ∧ Refreshing rest ∧
        value.without volatileBits =
          (content stopped.2.board control).without volatileBits := by
  -- Not on the number of instants: a refresh takes two of them, and its rest comes after both.
  induction refreshing generalizing n world with
  | done value =>
      rw [Program.after_done]
      exact .inl (.done value)
  | ask spares later ih =>
      cases n with
      | zero => exact .inl (.ask spares later)
      | succ n => exact ih _ n _
  | refresh written rest same later ih =>
      rcases n with _ | _ | n
      · exact .inl (.refresh written rest same later)
      · -- Stopped in between: what has been read is what the register holds at this moment.
        refine .inr ⟨_, _, rfl, later _, ?_⟩
        rw [same]
        exact congrArg (Word.without · volatileBits) (held.shows world.board)
      · exact ih _ n _

theorem run_eq (held : bus.Holds content control volatileBits) (still : Still react)
    {program : Stepwise α} (refreshing : Refreshing program) (world : World σ η) :
    (content (program.run (Instant.respond bus react) world).2.board control).without
        volatileBits = (content world.board control).without volatileBits := by
  induction refreshing generalizing world with
  | done value => rfl
  | ask spares _ ih => exact (ih _ _).trans (respond_spares held still spares world)
  | refresh written rest same _ ih =>
      let read := bus (.read control) world.board
      refine (ih _ _).trans ((held.stores (written read.1) read.2).trans ?_)
      rw [same]
      exact held.fst_read world.board

end Refreshing

/-- Whatever is done meanwhile, an interrupted program leaves the control register as the
interruption does, or if it has just read it, as it was before. -/
theorem refreshing_interrupted (held : bus.Holds content control volatileBits)
    (still : Still react) {α : Type} {routine : Routine α}
    (refreshing : Refreshing (ofRoutine routine)) (react' : Reaction σ η) (n : Nat)
    (operation : Operation) (world : World σ η) :
    let run := interrupted bus react react' n operation routine world
    let steady (world : World σ η) := (content world.board control).without volatileBits
    (run.left.stale = true → steady run.final = steady run.before) ∧
      (run.left.stale = false → steady run.final = steady run.between) := by
  intro run steady
  rcases refreshing.after held n world with whole | ⟨value, rest, left, whole, read⟩
  · have fresh : run.left.stale = false := whole.not_stale
    rw [fresh]
    exact ⟨nofun, fun _ => whole.run_eq held still run.between⟩
  · have left : run.left = .ask (.access (.write control value)) fun _ => rest := left
    have final : run.final = (run.left.run (Instant.respond bus react) run.between).2 := rfl
    rw [final, left]
    refine ⟨fun _ => ?_, nofun⟩
    exact (whole.run_eq held still _).trans ((held.stores value run.between.board).trans read)

/-! ## The delivery -/

variable {α : Type}

theorem refreshing_sequential :
    Sequential fun _ routine => Refreshing (ofRoutine routine) where
  pure value := .done value
  bind first later := by
    rw [ofRoutine_bind]
    exact first.bind later

theorem refreshing_perform {effect : Effect} (other : ∀ call, effect ≠ .call call) :
    Refreshing (ofRoutine (perform effect)) := by
  rw [perform, Program.request, ofRoutine_effect other]
  exact .ask other .done

theorem refreshing_invoke (source : Source) (callback : Callback) (index : Nat) :
    Refreshing (ofRoutine (perform (.invoke source callback index))) :=
  refreshing_perform fun _ same => by cases same

theorem refreshing_readControl : Refreshing (ofRoutine (clock .readControl)) :=
  .ask trivial fun read => .ask trivial fun _ => .done read

theorem refreshing_clearControl {mask : Word} (within : mask.without volatileBits = 0) :
    Refreshing (ofRoutine (clock (.clearControl mask))) :=
  let rest : Stepwise Unit :=
    .ask (.answered (.clock (.clearControl mask)) ()) fun _ => .done ()
  .refresh (·.without mask) (fun _ => rest) (fun _ => Word.without_without within)
    fun _ => .ask trivial fun _ => .done ()

theorem refreshing_lookUp (source : Source) : Refreshing (ofRoutine (lookUp source)) :=
  refreshing_sequential.critical (refreshing_perform nofun) fun effect guards => by
    refine refreshing_perform fun call same => ?_
    rw [same] at guards
    exact guards

theorem refreshing_scanEvents (callback : Callback) (snapshot : Word) (events : List ClockEvent) :
    Refreshing (ofRoutine (scanEvents callback snapshot events)) := by
  induction events with
  | nil => exact .done ()
  | cons event rest ih =>
      unfold scanEvents
      split
      · refine refreshing_sequential.bind refreshing_readControl fun control => ?_
        split
        · exact refreshing_sequential.bind (refreshing_invoke ..) fun _ => ih
        · exact ih
      · exact ih

theorem refreshing_dispatch : Refreshing (ofRoutine (dispatch .rtc)) := by
  refine refreshing_sequential.bind (refreshing_lookUp .rtc) fun entry => ?_
  refine refreshing_sequential.bind refreshing_readControl fun snapshot => ?_
  refine refreshing_sequential.bind (refreshing_clearControl (by decide)) fun _ => ?_
  cases entry with
  | none => exact .done ()
  | some callback => exact refreshing_scanEvents callback snapshot ClockEvent.all

end Stepwise

end Max32660

open Max32660 in
/-- A delivery of the clock is interrupted after any number of instants, and another handler
carries out any operation meanwhile. If the clear has read the control register and is about to
write it, the alarms are armed in the end as they were before the operation. Otherwise they are
armed as the operation has left them. -/
theorem clock_dispatch_interrupted {σ η : Type} {bus : Bus σ} {content : σ → Nat → Word}
    (held : bus.Holds content Clock.control Clock.volatileBits) {react : Reaction σ η}
    (still : Still react) (react' : Reaction σ η) (n : Nat) (operation : Operation)
    (world : World σ η) :
    let run := interrupted bus react react' n operation (dispatch .rtc) world
    let armed (world : World σ η) := (Clock.settings content world.board).armed
    run.left.run (Instant.respond bus react) run.before =
        world.run (hardwareOn bus) react (dispatch .rtc) ∧
      (run.left.stale = true → armed run.final = armed run.before) ∧
      (run.left.stale = false → armed run.final = armed run.between) := by
  intro run armed
  have goesOn : run.left.run (Instant.respond bus react) run.before =
      world.run (hardwareOn bus) react (dispatch .rtc) := by
    rw [← Stepwise.run_ofRoutine]
    exact Program.run_after ..
  have armed_eq {w v : World σ η}
      (same : (content w.board Clock.control).without Clock.volatileBits =
        (content v.board Clock.control).without Clock.volatileBits) : armed w = armed v := by
    have settings := congrArg Clock.Settings.armed (Clock.Settings.ofWord_congr same fun _ => 0)
    exact settings
  obtain ⟨undone, left⟩ := Stepwise.refreshing_interrupted held still
    Stepwise.refreshing_dispatch react' n operation world
  exact ⟨goesOn, fun stale => armed_eq (undone stale), fun fresh => armed_eq (left fresh)⟩

open Max32660 in
/-- The alarm is disarmed before the clear reads the control register, and stays so. -/
theorem clock_dispatch_interrupted_before_read :
    let file := RegisterFile.empty.store Clock.control 0x42
    let react : Reaction {file : RegisterFile // file.Unattended} Unit := fun _ _ world => world
    let world : World {file : RegisterFile // file.Unattended} Unit :=
      { World.initial ⟨file, rfl⟩ with
        registry := (Registry.empty.install .rtc ⟨.routine, 1, .rtc ⟨.timeOfDay, 30⟩, 1⟩).2 }
    let run := interrupted RegisterFile.unattended react react 7 (.disable .rtc)
      (dispatch .rtc) world
    let armed (world : World {file : RegisterFile // file.Unattended} Unit) :=
      (Clock.settings (fun file => file.1.load) world.board).armed .timeOfDay
    armed run.before = true ∧ run.outcome = .done ∧ armed run.final = false := by
  intro file react world run armed
  have still : Still react := fun _ _ _ => rfl
  obtain ⟨-, -, left⟩ := clock_dispatch_interrupted Clock.heldOn_unattended.controlHeld still react
    7 (.disable .rtc) world
  have fresh : run.left.stale = false := by decide +kernel
  have kept := congrFun (left fresh) .timeOfDay
  exact ⟨by decide +kernel, by decide +kernel, kept.trans (by decide +kernel)⟩

open Max32660 in
/-- Between the read and the write an alarm that is disarmed is armed again, and one that is
armed is lost. Interrupts are not masked there, and the lock is free. -/
theorem clock_preemption_undone :
    let react : Reaction {file : RegisterFile // file.Unattended} Unit := fun _ _ world => world
    let world (control : Word) : World {file : RegisterFile // file.Unattended} Unit :=
      { World.initial ⟨RegisterFile.empty.store Clock.control control, rfl⟩ with
        registry := (Registry.empty.install .rtc ⟨.routine, 1, .rtc ⟨.timeOfDay, 30⟩, 1⟩).2 }
    let run control operation := interrupted RegisterFile.unattended react react 8 operation
      (dispatch .rtc) (world control)
    let armed (world : World {file : RegisterFile // file.Unattended} Unit) :=
      (Clock.settings (fun file => file.1.load) world.board).armed .timeOfDay
    let disarmed := run 0x42 (.disable .rtc)
    let rearmed := run 0x40 (.enable .rtc)
    (disarmed.before.depth = 0 ∧ disarmed.before.held = false ∧ disarmed.outcome = .done ∧
        armed disarmed.between = false ∧ armed disarmed.final = true) ∧
      (rearmed.before.depth = 0 ∧ rearmed.before.held = false ∧ rearmed.outcome = .done ∧
        armed rearmed.between = true ∧ armed rearmed.final = false) := by
  decide +kernel

end Interrupts
