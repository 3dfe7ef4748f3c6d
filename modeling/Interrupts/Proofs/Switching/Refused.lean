import Interrupts.Proofs.Switching.Decided

/-! # Refused switching

A source is unregistered, released, disabled or enabled exactly if what this needs is there,
and where it is refused nothing has changed. The log never says that the clock has no alarm
while a callback is registered for the clock: registered callbacks fit their sources, so the
callback of the clock names one.
-/

namespace Interrupts

open Routine Guarded

/-! ## The report that the clock has no alarm -/

def Effect.Unreported (effect : Effect) : Prop := effect ≠ .note .noAlarm

theorem unreported_sequential :
    Sequential fun α (routine : Routine α) => routine.Only Effect.Unreported :=
  only_sequential

theorem unreported_perform {effect : Effect} (other : effect ≠ .note .noAlarm) :
    (Routine.perform effect).Only Effect.Unreported :=
  ⟨other, fun _ => trivial⟩

theorem unreported_note {notice : Notice} (other : notice ≠ .noAlarm) :
    (Routine.note notice).Only Effect.Unreported :=
  unreported_perform fun same => other (Effect.note.inj same)

theorem unreported_switch (line : Line) (on : Bool) :
    (LineControl.switch line on).run.Only Effect.Unreported := by
  have seq := unreported_sequential
  exact seq.andThen (unreported_perform Effect.noConfusion) fun _ =>
    seq.andThen (seq.lift (unreported_perform Effect.noConfusion)) fun _ =>
      seq.lift (unreported_perform Effect.noConfusion)

theorem unreported_switchOff (vectors : VectorTable) {source : Source}
    {setting : Option Setting}
    (known : source = .rtc → (setting.bind Setting.alarm?).isSome = true) :
    (Registration.switchOff vectors source setting).run.Only Effect.Unreported := by
  have seq := unreported_sequential
  cases source with
  | gpio line => exact unreported_switch line false
  | uart channel => exact unreported_perform Effect.noConfusion
  | rtc =>
      obtain ⟨alarm, named⟩ := Option.isSome_iff_exists.1 (known rfl)
      simp only [Registration.switchOff, named]
      exact seq.andThen (unreported_perform Effect.noConfusion) fun _ =>
        unreported_perform Effect.noConfusion

theorem unreported_erase (source : Source) {notice : Notice} (other : notice ≠ .noAlarm) :
    (show Guarded Unit from do
      discard (attempt (perform (.erase source)))
      Routine.note notice).run.Only Effect.Unreported := by
  have seq := unreported_sequential
  exact seq.andThen (seq.discard (unreported_perform Effect.noConfusion)) fun _ =>
    seq.lift (unreported_note other)

/-! ## Operations that find a callback of the clock -/

section

variable {β η α : Type} (hardware : Hardware β) (react : Reaction β η) (world : World β η)

/-- Begun in this world the routine does not report that the clock has no alarm. -/
def Unreporting (routine : Routine α) : Prop :=
  ∀ x ∈ world.requests hardware react routine, x.1.Unreported

end

namespace Unreporting

variable {β η α : Type} {hardware : Hardware β} {react : Reaction β η} {world : World β η}

theorem locked {body : Guarded α} (h : Unreporting hardware react world.entered body.run) :
    Unreporting hardware react world (Guarded.locked body).run := by
  intro x hx
  rw [run_locked, World.requests_critical] at hx
  simp only [List.mem_append, List.mem_cons, List.not_mem_nil, or_false] at hx
  obtain ((rfl | rfl) | hx) | rfl | rfl := hx
  · exact Effect.noConfusion
  · exact Effect.noConfusion
  · exact h x hx
  · exact Effect.noConfusion
  · exact Effect.noConfusion

theorem find {source : Source} {rest : Option Callback → Guarded α}
    (later : (rest (world.registry.find? source)).run.Only Effect.Unreported) :
    Unreporting hardware react world (do rest (← Routine.find source) : Guarded α).run :=
  List.forall_mem_cons.2 ⟨Effect.noConfusion, later.forall_mem _ _⟩

theorem resolve {name : SourceName} {rest : Source → Guarded Unit}
    (later : ∀ source, name.resolve = .ok source →
      Unreporting hardware react world (rest source).run) :
    Unreporting hardware react world
      (Outcome.ofResult <$> (do rest (← Guarded.resolve name) : Guarded Unit).run) := by
  rw [Unreporting, World.requests_map]
  cases named : name.resolve with
  | ok source =>
      rw [resolve_of_ok named, pure_bind]
      exact later source named
  | error fault =>
      have noted : (Routine.note (.outOfRange name)).Only Effect.Unreported :=
        unreported_note Notice.noConfusion
      rw [ExceptT.run_bind, run_resolve_of_error named, bind_map_left]
      exact Program.Only.forall_mem
        (unreported_sequential.bind noted fun _ => unreported_sequential.pure _) _ _

end Unreporting

namespace Simulated

section

variable {β η : Type} (hardware : Hardware β) (react : Reaction β η) {world : World β η}
  (vectors : VectorTable)

theorem unreporting_unregister (fitting : world.registry.Fitting) (name : SourceName) :
    Unreporting hardware react world ((Operation.unregister name).routine vectors) := by
  have seq := unreported_sequential
  refine .resolve fun source _ => .locked (.find ?_)
  cases found : world.entered.registry.find? source with
  | none =>
      exact seq.andThen (seq.lift (unreported_note Notice.noConfusion))
        fun _ => seq.fail _
  | some callback =>
      exact seq.andThen (unreported_switchOff vectors (fitting.isSome_alarm? found))
        fun _ => unreported_erase source Notice.noConfusion

theorem unreporting_release (fitting : world.registry.Fitting) (index : UInt8) :
    Unreporting hardware react world ((Operation.release index).routine vectors) := by
  refine .resolve fun source _ => .locked (.find ?_)
  cases found : world.entered.registry.find? source with
  | none => exact unreported_sequential.succeed ()
  | some callback =>
      exact unreported_sequential.andThen
        (unreported_switchOff vectors (fitting.isSome_alarm? found))
        fun _ => unreported_erase source Notice.noConfusion

theorem unreporting_disable (fitting : world.registry.Fitting)
    (registered : world.registry.contains .rtc = true) (name : SourceName) :
    Unreporting hardware react world ((Operation.disable name).routine vectors) := by
  have seq := unreported_sequential
  refine .resolve fun source _ => .locked (.find ?_)
  refine seq.andThen (unreported_switchOff vectors ?_) fun _ =>
    seq.lift (unreported_note Notice.noConfusion)
  rintro rfl
  exact fitting.isSome_clock_alarm?.trans registered

theorem unreporting_enable (fitting : world.registry.Fitting)
    (registered : world.registry.contains .rtc = true) (name : SourceName) :
    Unreporting hardware react world ((Operation.enable name).routine vectors) := by
  have seq := unreported_sequential
  refine .resolve fun source _ => .locked ?_
  -- Unmasking the vector of the source comes last.
  have unmasked : (show Guarded Unit from do
      attempt (controller (.enable (vectors.number source.peripheral)))
      Routine.note (.enabled name)).run.Only Effect.Unreported :=
    seq.andThen (unreported_perform Effect.noConfusion) fun _ =>
      seq.lift (unreported_note Notice.noConfusion)
  cases source with
  | gpio line =>
      have switched := seq.andThen (unreported_switch line true) fun _ => unmasked
      exact switched.forall_mem _ _
  | uart channel => exact unmasked.forall_mem _ _
  | rtc =>
      obtain ⟨callback, found⟩ := Option.isSome_iff_exists.1 registered
      obtain ⟨alarm, sets⟩ := fitting.alarm? found
      have named : (world.entered.registry.find? .rtc).bind (·.setting.alarm?) = some alarm :=
        found ▸ sets
      rw [Switching.switchOn, Switching.registeredAlarm, bind_assoc, bind_assoc]
      refine .find ?_
      rw [named]
      exact seq.andThen (seq.succeed alarm) fun _ =>
        seq.andThen (unreported_perform Effect.noConfusion) fun _ => unmasked

/-- A switching operation finds the alarm of the clock if the clock has a callback. -/
theorem unreporting (fitting : world.registry.Fitting)
    (registered : world.registry.contains .rtc = true) {operation : Operation}
    (switches : Switches operation) :
    Unreporting hardware react world (operation.routine vectors) := by
  cases operation with
  | unregister name => exact unreporting_unregister hardware react vectors fitting name
  | release index => exact unreporting_release hardware react vectors fitting index
  | disable name => exact unreporting_disable hardware react vectors fitting registered name
  | enable name => exact unreporting_enable hardware react vectors fitting registered name
  | _ => exact switches.elim

end

/-- In every world that a session reaches on any board, the registered callbacks fit their
sources, and while the clock has a callback no switching operation reports that the clock has
no alarm. On a simulated board that has the vectors of all peripherals, a switching operation
is then done exactly if it has what it needs. Otherwise it is refused, and the registry, the
line table and the board are what they were. -/
theorem switching_decided :
    (∀ {β η : Type} (rig : Rig β η) (behaviour : Behaviour β η) (budget : Nat) (board : β)
        (commands : List (Command η)) (world : World β η),
      rig.Reachable behaviour budget board commands world →
        (∀ source callback, world.registry.find? source = some callback →
          callback.setting.fits source = true) ∧
        (world.registry.contains .rtc = true → ∀ react operation, Switches operation →
          ∀ x ∈ world.requests rig.hardware react (operation.routine rig.hardware.vectors),
            x.1 ≠ .note .noAlarm)) ∧
    ∀ number, Listed number → ∀ (behaviour : Behaviour Board Adjustment) (budget : Nat)
        (board : Board) (commands : List (Command Adjustment)) (world : World Board Adjustment),
      (rig number).Reachable behaviour budget board commands world →
        ∀ react operation, Switches operation →
          let ended := world.run (hardware number) react
            (operation.routine (hardware number).vectors)
          (ended.1 = .done ↔ Needs world.state operation) ∧
          (¬ Needs world.state operation →
            (∃ fault, ended.1 = .refused fault) ∧ ended.2.state = world.state) := by
  constructor
  · intro β η rig behaviour budget board commands world reached
    have fitting := reachable_fitting reached
    refine ⟨fitting, fun registered react operation switches => ?_⟩
    exact unreporting rig.hardware react rig.hardware.vectors fitting registered switches
  · intro number listed behaviour budget board commands world reached react operation switches
    have quiet : Quiet (operation.routine (hardware number).vectors) :=
      Quiet.operation _ switches.silent
    intro ended
    have fitting : world.state.registry.Fitting := reachable_fitting reached
    have decided := decided listed fitting switches
    simp only [ended]
    rw [quiet.fst world, quiet.state world]
    exact decided

/-- A clock that is busy refuses to be enabled, although it has a callback. The board stays as
it is, and what the log says is not that the clock has no alarm. -/
theorem switching_decided_busy :
    let told : Callback := ⟨.routine, 1, .rtc ⟨.timeOfDay, 7⟩, 1⟩
    let steps : List (Step Adjustment) := [⟨"", .operate (.register .rtc told)⟩,
      ⟨"", .adjust (.stimulate (.clockBusy true))⟩]
    let behaviour : Behaviour Board Adjustment := fun _ _ _ => Body.ofSteps []
    let usual := rig Simulated.number
    let react := usual.reentrant behaviour 0
    let world := usual.follow react steps (usual.start react (World.initial Board.initial))
    let routine := (Operation.enable .rtc).routine usual.hardware.vectors
    let ended := world.run usual.hardware react routine
    world.registry.find? .rtc = some told ∧ (∃ fault, ended.1 = .refused fault) ∧
      ended.2.state = world.state ∧
      ∀ x ∈ world.requests usual.hardware react routine, x.1 ≠ .note .noAlarm := by
  intro told steps behaviour usual react world routine ended
  have reached : usual.Reachable behaviour 0 Board.initial (steps.map Command.step) world :=
    Rig.reaches_follow 0 steps _
  have registered : world.registry.find? .rtc = some told := by decide +kernel
  have contained : world.registry.contains .rtc = true := congrArg Option.isSome registered
  have busy : world.board.clock.busy = true := by decide +kernel
  have unreported := (switching_decided.1 usual behaviour 0 _ _ world reached).2 contained
  have refused := (switching_decided.2 Simulated.number listed_number behaviour 0 _ _ world
    reached react (.enable .rtc) trivial).2
  obtain ⟨fault, same⟩ := refused fun needs => by
    rw [Needs] at needs
    exact Bool.false_ne_true ((needs.2 rfl).2.symm.trans busy)
  exact ⟨registered, fault, same, unreported react (.enable .rtc) trivial⟩

end Simulated

end Interrupts
