import Interrupts.Proofs.Removal.Runs
import Interrupts.Proofs.Run.Reachable
import Interrupts.Run.SimulatedRig

/-! # Callbacks after their removal

A callback that was taken out of its source should not be invoked again until it is
installed again. The lines look a callback up right before they invoke it, so they keep
to this. The clock and the serial channels look their callback up once, before a scan of
several events; a callback that takes itself out is still told of the later events of the
scan. That is the only way in which a removed callback is invoked.
-/

namespace Interrupts

open Routine Guarded

variable {β η : Type}

/-! ## Operations that remove -/

section

variable {hardware : Hardware β} {react : Reaction β η} {source : Source} {callback : Callback}

theorem respond_registry {effect : Effect} (other : ¬ effect.Concerns) (world : World β η) :
    (world.respond hardware react effect).2.registry = world.registry := by
  cases effect with
  | install _ _ => exact absurd trivial other
  | erase _ => exact absurd trivial other
  | invoke _ _ _ => exact absurd trivial other
  | call c => rw [World.respond_call]
  | _ => rfl

theorem switchOff_registry (property : Registry → Prop) (vectors : VectorTable) (source : Source)
    (setting : Option Setting) :
    Upholds hardware react (fun world => property world.registry)
      (Registration.switchOff vectors source setting).run := by
  have seq : Sequential fun α => Upholds (α := α) hardware react
    fun world => property world.registry := Upholds.sequential
  have keeps (effect : Effect) (other : ¬ effect.Concerns) :
      Upholds hardware react (fun world => property world.registry) (perform effect) := by
    apply Upholds.perform effect
    · intro invokes
      cases effect with
      | invoke _ _ _ => exact other trivial
      | _ => exact invokes
    · intro world h
      rwa [respond_registry other]
  cases source with
  | gpio line =>
      apply seq.andThen (keeps (.call (.lines (.setEnabled line false))) id)
      intro _
      apply seq.andThen (seq.lift (keeps (.readLine line) id))
      intro setting
      exact seq.lift (keeps (.writeLine line _) id)
  | rtc =>
      unfold Registration.switchOff
      cases setting.bind Setting.alarm? with
      | some alarm =>
          apply seq.andThen (keeps (.call (.clock (.disarm _))) id)
          intro _
          exact keeps (.call (.controller (.disable _))) id
      | none =>
          apply seq.andThen (seq.lift (keeps (.note .noAlarm) id))
          intro _
          exact seq.fail _
  | uart channel => exact keeps (.call (.controller (.disable _))) id

def Has (source : Source) (callback : Callback) (world : World β η) : Prop :=
  world.registry.find? source = some callback

/-- A program that succeeds has removed the callback. -/
abbrev removes (source : Source) (callback : Callback) : Except Fault Unit → World β η → Prop :=
  either (fun _ world => Removed source callback world.trace) fun _ => True

theorem takeOut_removes (vectors : VectorTable) (notice : Notice) :
    Leads hardware react (Has source callback) (Has source callback) (removes source callback)
      (show Guarded Unit from do
        Registration.switchOff vectors source (some callback.setting)
        Functor.discard (attempt (perform (Effect.erase source)))
        Routine.note notice).run := by
  -- The callback is still there when its entry is erased, and nothing after that installs it.
  have off : Leads hardware react (Has source callback) (Has source callback)
      (either (fun _ => Has source callback) fun _ => True)
      (Registration.switchOff vectors source (some callback.setting)).run :=
    (switchOff_registry (fun registry => registry.find? source = some callback) vectors source
      _).weaken (fun _ h => h) fun result _ h => by cases result <;> first | exact h | trivial
  have erased : Leads hardware react (Has source callback) (Has source callback)
      (removes source callback)
      (Functor.discard (attempt (perform (Effect.erase source)))).run := by
    change Leads hardware react _ _ _
      ((fun _ => PUnit.unit) <$> attempt (perform (Effect.erase source)) : Guarded PUnit).run
    rw [ExceptT.run_map, ← bind_pure_comp]
    have answered : Leads hardware react (Has source callback) (Has source callback)
        (fun (_ : Except Fault Callback) world => Removed source callback world.trace)
        (perform (.erase source)) := by
      apply Leads.perform (.erase source) id
      intro world h
      have reply : (world.respond hardware react (.erase source)).2.trace =
          .performed (.erase source) (world.registry.erase source).1 :: world.trace := rfl
      rw [reply, Registry.erase_of_find? h]
      exact removedWhen_cons.2 (.inl ⟨rfl, trivial⟩)
    apply Leads.bind answered
    intro result
    apply Leads.pure
    intro world h
    cases result with
    | ok _ => exact h
    | error _ => trivial
  have noted : Leads hardware react (Has source callback)
      (fun world => Removed source callback world.trace) (removes source callback)
      (liftM (Routine.note notice) : Guarded Unit).run :=
    Leads.observe (Leads.perform (.note notice) id fun world h =>
      removedWhen_cons.2 (.inr ⟨nofun, h⟩))
  apply Leads.andThen off
  intro _
  apply Leads.andThen erased
  intro _
  exact noted

theorem removed_of_performed {effect : Effect} {answer : effect.Answer} {trace : List (Event η)}
    (other : ¬ effect.Concerns) (h : Removed source callback trace) :
    Removed source callback (.performed effect answer :: trace) := by
  refine removedWhen_cons.2 (.inr ⟨fun replaced same => ?_, h⟩)
  injection same with same
  exact other (same ▸ trivial)

theorem locked_removes {body : Guarded Unit}
    (h : Leads hardware react (Has source callback) (Has source callback)
      (removes source callback) body.run)
    {world : World β η} (found : Has source callback world)
    (done : (world.run hardware react (locked body).run).1 = .ok ()) :
    Removed source callback (world.run hardware react (locked body).run).2.trace := by
  rw [run_locked, World.run_critical] at done ⊢
  have inner := h.final (show Has source callback world.entered from found)
  rw [done] at inner
  exact removed_of_performed id (removed_of_performed id inner)

theorem find_has : Leads hardware react (Has source callback) (Has source callback)
    (either (fun entry world => entry = some callback ∧ Has source callback world) fun _ => True)
    (liftM (Routine.find source) : Guarded (Option Callback)).run :=
  Leads.observe (Leads.perform (.find source) id fun _ h => ⟨h, h⟩)

/-- When `unregister` succeeds, or `release` for a line with a callback, the callback is
removed. -/
theorem removed_of_done (vectors : VectorTable) {name : SourceName} {operation : Operation}
    (removal : operation = .unregister name ∨
      ∃ index, name = .gpio index ∧ operation = .release index)
    (resolved : name.resolve = .ok source) {world : World β η}
    (found : world.registry.find? source = some callback)
    (done : (world.run hardware react (operation.routine vectors)).1 = .done) :
    Removed source callback (world.run hardware react (operation.routine vectors)).2.trace := by
  have ok_of_done {result : Except Fault Unit} (h : Outcome.ofResult result = .done) :
      result = .ok () := by
    cases result with
    | ok value => rfl
    | error fault => cases h
  rcases removal with rfl | ⟨index, rfl, rfl⟩
  · rw [Operation.routine, World.run_map] at done ⊢
    replace done := ok_of_done done
    unfold Registration.unregister at done ⊢
    rw [resolve_of_ok resolved, pure_bind] at done ⊢
    refine locked_removes (Leads.andThen find_has ?_) found done
    intro entry
    apply Leads.given
    rintro rfl
    exact takeOut_removes vectors _
  · rw [Operation.routine, World.run_map] at done ⊢
    replace done := ok_of_done done
    unfold Registration.release at done ⊢
    rw [resolve_of_ok resolved, pure_bind] at done ⊢
    refine locked_removes (Leads.andThen find_has ?_) found done
    intro entry
    apply Leads.given
    rintro rfl
    exact takeOut_removes vectors _

end

/-! ## Sessions -/

section

variable {rig : Rig β η} {behaviour : Behaviour β η} {budget : Nat}

/-- Between two commands no callback is running. -/
def AtRest (world : World β η) : Prop := Within (fun _ _ _ => False) [] world

theorem atRest_start {world : World β η} (h : AtRest world) :
    AtRest (rig.start (rig.reentrant behaviour budget) world) :=
  ((assembled_within rig.hardware _ fun _ _ _ => False.elim).start _).final h

theorem atRest_cleared {world : World β η} (h : AtRest world) : AtRest (Rig.cleared world) :=
  ⟨⟨h.1.lawful, fun found => by simp [Rig.cleared] at found, False.elim⟩, h.2⟩

theorem atRest_execute {command : Command η} {world after : World β η} (h : AtRest world)
    (executed : (rig.execute (rig.reentrant behaviour budget) command world).world =
      some after) : AtRest after := by
  cases command with
  | step step =>
      cases executed
      exact act_within rig (steady_reentrant rig behaviour budget) (fun _ _ _ => False.elim)
        step.action h
  | restart =>
      have stopped : AtRest _ :=
        ((assembled_within rig.hardware (rig.reentrant behaviour budget)
          fun _ _ _ => False.elim).stop rig.hardware.vectors).final h
      rw [Rig.eq_of_restart executed]
      exact atRest_start (atRest_cleared stopped)

theorem atRest_executeAll {commands : List (Command η)} {world after : World β η}
    {report : Report β η} (h : AtRest world)
    (reported : report ∈ rig.executeAll (rig.reentrant behaviour budget) commands world)
    (left : report.world = some after) : AtRest after := by
  induction commands generalizing world with
  | nil => simp [Rig.executeAll] at reported
  | cons command rest ih =>
      simp only [Rig.executeAll] at reported
      cases executed : (rig.execute (rig.reentrant behaviour budget) command world).world with
      | none =>
          rw [executed, List.mem_singleton] at reported
          rw [reported, executed] at left
          cases left
      | some next =>
          rw [executed] at reported
          rcases List.mem_cons.1 reported with rfl | reported
          · exact atRest_execute h left
          · exact ih (atRest_execute h executed) reported

end

/-- An operation that removes a callback and succeeds leaves it removed. In a session, with
callbacks that do anything and are nested to any depth, a removed callback is invoked again
exactly if the source is no line and an operation that was running the callback when it was
removed, so that it was removed by its own doing, goes on to invoke it. -/
theorem invoked_after_removal (rig : Rig β η) (behaviour : Behaviour β η) (budget : Nat) :
    (∀ (name : SourceName) (operation : Operation) (source : Source) (callback : Callback)
      (world : World β η),
      (operation = .unregister name ∨ ∃ index, name = .gpio index ∧ operation = .release index) →
      name.resolve = .ok source → world.registry.find? source = some callback →
      (rig.act (rig.reentrant behaviour budget) (.operate operation) world).1 = .done →
      Removed source callback
        (rig.act (rig.reentrant behaviour budget) (.operate operation) world).2.trace) ∧
    ∀ (board : β) (commands : List (Command η)) (report : Report β η) (world : World β η),
      report ∈ rig.session (rig.reentrant behaviour budget) board commands →
      report.world = some world → ∀ (source : Source) (callback : Callback),
        (InvokedWhen (Removed source callback) source callback world.trace ↔
          (∀ line, source ≠ .gpio line) ∧
          InvokedWhen (fun rest =>
            RemovedUnder (some (source, callback) :: (frames rest).tail) source callback rest)
            source callback world.trace) := by
  constructor
  · intro name operation source callback world removal resolved found done
    exact removed_of_done _ removal resolved found done
  intro board commands report world reported left source callback
  have fresh : AtRest (World.initial (η := η) board) :=
    ⟨⟨by simp [Lawful, World.initial], by simp [World.initial], False.elim⟩, none, rfl⟩
  have rest : AtRest world := by
    rcases List.mem_cons.1 reported with rfl | reported
    · cases left
      exact atRest_start fresh
    · exact atRest_executeAll (atRest_start fresh) reported left
  constructor
  · intro invoked
    obtain ⟨later, index, before, split, removed⟩ := invoked
    obtain ⟨notLine, under⟩ := rest.1.lawful later source callback index before split removed
    exact ⟨notLine, later, index, before, split, under⟩
  · intro invoked
    obtain ⟨_, later, index, before, split, under⟩ := invoked
    exact ⟨later, index, before, split, under.removed⟩

open Simulated in
/-- A callback that takes itself out when it is told of the first of two causes: the removal
is the doing of the operation that goes on to tell it of the second. -/
theorem invoked_after_removal_self :
    let told : Callback := ⟨.routine, 1, .uart, 1⟩
    let scripts : Scripts Adjustment :=
      [(1, [⟨"unregister", .operate (.unregister (.uart 0))⟩])]
    let registered := ((rig number).act ((rig number).reentrant scripts.behaviour 3)
      (.operate (.register (.uart 0) told)) (World.initial Board.initial)).2
    let commands : List (Command Adjustment) :=
      [.step ⟨"register", .operate (.register (.uart 0) told)⟩,
        .step ⟨"enable", .adjust (.stimulate (.enableSerial 0 3))⟩,
        .step ⟨"raise", .adjust (.stimulate (.raiseSerial 0 3))⟩,
        .step ⟨"dispatch", .operate (.dispatch (.uart 0))⟩]
    Removed (.uart 0) told ((rig number).act ((rig number).reentrant scripts.behaviour 3)
      (.operate (.unregister (.uart 0))) registered).2.trace ∧
    ∃ report ∈ (rig number).session ((rig number).reentrant scripts.behaviour 3)
        Board.initial commands,
      ∃ world, report.world = some world ∧
        InvokedWhen (fun rest => RemovedUnder (some (.uart 0, told) :: (frames rest).tail)
          (.uart 0) told rest) (.uart 0) told world.trace := by
  intro told scripts registered commands
  have law := invoked_after_removal (rig number) scripts.behaviour 3
  constructor
  · have found : registered.registry.find? (.uart 0) = some told := by decide +kernel
    have done : ((rig number).act ((rig number).reentrant scripts.behaviour 3)
        (.operate (.unregister (.uart 0))) registered).1 = .done := by decide +kernel
    exact law.1 (.uart 0) _ (.uart 0) told registered (.inl rfl) rfl found done
  · let reports := (rig number).session ((rig number).reentrant scripts.behaviour 3)
      Board.initial commands
    have last : reports[4]? = some ⟨_, _, _⟩ := rfl
    have member := List.mem_of_getElem? last
    refine ⟨_, member, _, rfl, ?_⟩
    refine ((law.2 Board.initial commands _ _ member rfl (.uart 0) told).1 ?_).2
    decide +kernel

open Simulated in
/-- A callback of a serial channel with two causes raised, which takes itself out when it is
told of the first: the removal succeeds, and then the callback is told of the second. -/
theorem serial_invoked_after_unregister :
    let told : Callback := ⟨.routine, 1, .uart, 1⟩
    let scripts : Scripts Adjustment :=
      [(1, [⟨"unregister", .operate (.unregister (.uart 0))⟩])]
    let commands : List (Command Adjustment) :=
      [.step ⟨"register", .operate (.register (.uart 0) told)⟩,
        .step ⟨"enable", .adjust (.stimulate (.enableSerial 0 3))⟩,
        .step ⟨"raise", .adjust (.stimulate (.raiseSerial 0 3))⟩,
        .step ⟨"dispatch", .operate (.dispatch (.uart 0))⟩]
    ∃ report ∈ (rig number).session ((rig number).reentrant scripts.behaviour 3)
        Board.initial commands,
      ∃ world, report.world = some world ∧
        InvokedWhen (fun rest => Removed (.uart 0) told rest ∧
          rest.any (· matches .ended .done)) (.uart 0) told world.trace := by
  intro told scripts commands
  let reports := (rig number).session ((rig number).reentrant scripts.behaviour 3)
    Board.initial commands
  have last : reports[4]? = some ⟨_, _, _⟩ := rfl
  exact ⟨_, List.mem_of_getElem? last, _, rfl, by decide +kernel⟩

end Interrupts
