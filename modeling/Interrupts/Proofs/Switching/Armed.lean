import Interrupts.Proofs.Registration.Cases
import Interrupts.Proofs.Switching.Decided
import Interrupts.Proofs.Switching.Off

/-! # The armed alarm

Operations arm an alarm of the clock on behalf of its callback: the one that the callback
names. When the callback is replaced or taken out, that alarm is disarmed first. As long as
nothing else arms an alarm, the only one that can be armed is the one that the registered
callback names, whatever is refused on the way.
-/

namespace Interrupts.Simulated

open Routine Guarded State

variable {number : Peripheral → Nat} {state after : State Board}

/-- An alarm that is armed is the one that the callback of the clock names. -/
def ArmedAsNamed (state : State Board) : Prop :=
  ∀ alarm, state.board.clock.isArmed alarm = true →
    alarmOf (state.registry.find? .rtc) = some alarm

def Unarmed (before after : State Board) : Prop :=
  ∀ alarm, Disarmed alarm before → Disarmed alarm after

/-- Where no alarm was armed meanwhile, an entry that named the armed alarm names it still. -/
theorem named_of_unarmed {entry : Option Callback}
    (named : ∀ alarm, state.board.clock.isArmed alarm = true → alarmOf entry = some alarm)
    (unarmed : Unarmed state after) (alarm : Alarm)
    (armed : after.board.clock.isArmed alarm = true) : alarmOf entry = some alarm := by
  refine Decidable.byContradiction fun other => ?_
  have off : Disarmed alarm state := Bool.eq_false_iff.2 fun h => other (named alarm h)
  exact Bool.false_ne_true ((unarmed alarm off).symm.trans armed)

namespace ArmedAsNamed

theorem of_disarmed (h : ∀ alarm, Disarmed alarm state) : ArmedAsNamed state :=
  fun alarm armed => absurd ((h alarm).symm.trans armed) Bool.false_ne_true

theorem of_others (h : ∀ alarm, alarmOf (state.registry.find? .rtc) ≠ some alarm →
    Disarmed alarm state) : ArmedAsNamed state := fun alarm armed =>
  Decidable.byContradiction fun other =>
    Bool.false_ne_true ((h alarm other).symm.trans armed)

theorem disarmed (h : ArmedAsNamed state) {alarm : Alarm}
    (other : alarmOf (state.registry.find? .rtc) ≠ some alarm) : Disarmed alarm state :=
  Bool.eq_false_iff.2 fun armed => other (h alarm armed)

theorem of_unarmed (h : ArmedAsNamed state) (unarmed : Unarmed state after)
    (kept : after.registry.find? .rtc = state.registry.find? .rtc) : ArmedAsNamed after :=
  fun alarm armed => kept ▸ named_of_unarmed h unarmed alarm armed

end ArmedAsNamed

/-! ## Operations -/

theorem armedAsNamed_sectional (number : Peripheral → Nat) :
    Sectional fun α => State.Keeps (α := α) (hardware number) ArmedAsNamed :=
  ((Dims.sectional number).and (settled (hardware number)).toSectional).mono Keeps.sequential
    fun parts state holds =>
      holds.of_unarmed (parts.1 state).alarms (by rw [parts.2 state])

/-- Once a callback has been replaced, only the alarm that the new one names can be armed. -/
theorem Clock.eq_of_isArmed_replacing {clock : Clock} {setting : Setting} {new : AlarmSetting}
    {replaced : Option Callback} {alarm : Alarm} (sets : setting.alarm? = some new)
    (named : ∀ alarm, clock.isArmed alarm = true → alarmOf replaced = some alarm)
    (armed : (clock.replacing setting replaced).isArmed alarm = true) : alarm = new.alarm := by
  unfold replacing at armed
  cases old : replaced.bind (·.setting.alarm?) with
  | none =>
      rw [old] at armed
      have := named alarm armed
      simp [alarmOf, old] at this
  | some own =>
      have same (armed : clock.isArmed alarm = true) : alarm = own.alarm := by
        have := named alarm armed
        simpa [alarmOf, old, eq_comm] using this
      rw [old, sets] at armed
      dsimp only at armed
      split at armed
      next kept => exact (same armed).trans kept
      next =>
        -- The old alarm is disarmed, and no other was armed.
        cases same (Word.covers_of_without armed)
        exact absurd (own.alarm.covers_without _ ▸ armed) Bool.false_ne_true

theorem ArmedAsNamed.registers {vectors : VectorTable} {name : SourceName} {callback : Callback}
    {result : Except Fault Unit} (holds : ArmedAsNamed state)
    (ended : Registers vectors name callback state (result, after)) : ArmedAsNamed after := by
  cases ended with
  | refused fault => exact holds
  | lineRefused _ _ _ _ => exact holds
  | line _ _ _ =>
      refine holds.of_unarmed (fun _ h => h) ?_
      rw [Registry.find?_install, if_neg Source.noConfusion]
  | @other source _ plain _ fits =>
      have alarmed := Setting.isSome_alarm?_iff fits
      cases source with
      | gpio line => exact absurd rfl (plain line)
      | uart channel =>
          have silent : callback.setting.alarm? = none :=
            Option.not_isSome_iff_eq_none.1 fun sets => nomatch alarmed.1 sets
          rw [Clock.replacing_of_no_alarm _ silent]
          refine holds.of_unarmed (fun _ h => h) ?_
          rw [Registry.find?_install, if_neg Source.noConfusion]
      | rtc =>
          intro alarm armed
          obtain ⟨new, sets⟩ := Option.isSome_iff_exists.1 (alarmed.2 rfl)
          rw [Clock.eq_of_isArmed_replacing sets holds armed, Registry.find?_install, if_pos rfl]
          simp [alarmOf, sets]

/-- Switching the clock off disarms the alarm that its callback names, even if the vector is
not masked then. -/
theorem disarmed_of_switchOff (number : Peripheral → Nat) (vectors : VectorTable)
    (holds : ArmedAsNamed state) {callback : Callback}
    (found : state.registry.find? .rtc = some callback) (alarm : Alarm) :
    Disarmed alarm (state.run (hardware number)
      (Registration.switchOff vectors .rtc (some callback.setting)).run).2 := by
  have parts := Dims.sectional number
  by_cases named : alarmOf (some callback) = some alarm
  · obtain ⟨setting, sets, rfl⟩ := Option.map_eq_some_iff.1 named
    have known : (some callback.setting).bind Setting.alarm? = some setting := sets
    simp only [Registration.switchOff, known]
    rw [run_andThen]
    exact (parts.call (.controller (.disable _)) trivial id _).alarms _
      (setting.alarm.covers_without _)
  · have off := holds.disarmed (found ▸ named)
    exact (parts.switchOff vectors .rtc _ state).alarms alarm off

theorem armedAsNamed_takeOut (vectors : VectorTable) (holds : ArmedAsNamed state)
    {source : Source} {callback : Callback}
    (found : state.registry.find? source = some callback) (notice : Notice) :
    ArmedAsNamed (state.run (hardware number) (show Guarded Unit from do
      Registration.switchOff vectors source (some callback.setting)
      discard (attempt (perform (.erase source)))
      note notice).run).2 := by
  by_cases clock : source = .rtc
  · subst clock
    have parts := Dims.sectional number
    have off := disarmed_of_switchOff number vectors holds found
    refine .of_disarmed fun alarm => ?_
    rw [run_andThen]
    split
    next between switched =>
      rw [switched] at off
      refine (parts.andThen (parts.discard ?_) (fun _ => parts.note notice) between).alarms alarm
        (off alarm)
      exact Dims.perform number (.erase .rtc) trivial id
    next between switched =>
      rw [switched] at off
      exact off alarm
  · have parts := armedAsNamed_sectional number
    refine parts.takeOut vectors ?_ callback notice state holds
    intro state holds
    refine holds.of_unarmed (fun _ h => h) ?_
    exact (Registry.find?_erase _ _ _).trans (if_neg clock)

theorem armedAsNamed_enrols (vectors : VectorTable) {operation : Operation}
    (enrols : operation.Enrols) :
    State.Keeps (hardware number) ArmedAsNamed (operation.routine vectors) := by
  have layers := Keeps.layered (armedAsNamed_sectional number)
  have parts := layers.inside
  cases operation with
  | register name callback =>
      refine layers.outside.map (fun state holds => ?_) _
      exact holds.registers (registers number vectors name callback state)
  | unregister name =>
      refine layers.outside.map (layers.resolve name fun source _ => layers.locked ?_) _
      intro state holds
      rw [run_andThen_ok _ (run_lift _ _ _), run_find]
      cases found : state.registry.find? source with
      | none => exact parts.andThen (parts.note _) (fun _ => parts.fail _) state holds
      | some callback => exact armedAsNamed_takeOut vectors holds found _
  | release index =>
      refine layers.outside.map (layers.resolve (.gpio index) fun source _ => layers.locked ?_) _
      intro state holds
      rw [run_andThen_ok _ (run_lift _ _ _), run_find]
      cases found : state.registry.find? source with
      | none => exact holds
      | some callback => exact armedAsNamed_takeOut vectors holds found _
  | _ => exact enrols.elim

theorem armedAsNamed_switchOn (source : Source) :
    State.Keeps (hardware number) ArmedAsNamed (Switching.switchOn source).run := by
  intro state holds
  cases source with
  | gpio line => exact holds.of_unarmed (fun _ h => h) rfl
  | uart channel => exact holds
  | rtc =>
      have asked := run_registeredAlarm number state
      cases named : (state.registry.find? .rtc).bind (·.setting.alarm?) with
      | none =>
          rw [named] at asked
          rw [Switching.switchOn, run_andThen_error _ asked]
          exact holds
      | some setting =>
          rw [named] at asked
          rw [Switching.switchOn, run_andThen_ok _ asked]
          have own : alarmOf (state.registry.find? .rtc) = some setting.alarm := by
            rw [alarmOf, named, Option.map_some]
          refine .of_others fun alarm other => ?_
          have differs : setting.alarm ≠ alarm := fun same => other (own.trans (same ▸ rfl))
          exact Clock.isArmed_arm differs setting.deadline (holds.disarmed other)

/-! ## Sessions -/

/-- The command arms an alarm by enabling the clock or not at all: it is neither a restart nor
the operation that enables everything, and sets no enable bit of an alarm by a direct call or a
stimulus. -/
def ArmsByEnabling : Command Adjustment → Prop
  | .restart => False
  | .step step =>
      match step.action with
      | .operate .enableAll => False
      | .call (.clock (.arm _ _)) => False
      | .adjust (.stimulate (.setClock mask)) =>
          ∀ alarm : Alarm, mask.covers alarm.enableBit = false
      | _ => True

theorem unarmed_call (number : Peripheral → Nat) {label : String} {c : Call}
    (permit : ArmsByEnabling (.step ⟨label, .call c⟩)) (state : State Board) :
    Unarmed state (state.respond (hardware number) (.call c)).2 := by
  cases c with
  | clock c =>
      have plain : (Effect.call (.clock c)).Plain := trivial
      have tame : ¬ (Effect.call (.clock c)).Enables := by
        intro enables
        cases c with
        | arm _ _ => exact permit
        | _ => exact enables
      exact (Dims.call plain tame state).alarms
  | _ => exact fun _ h => h

theorem unarmed_adjust {label : String} {adjustment : Adjustment}
    (permit : ArmsByEnabling (.step ⟨label, .adjust adjustment⟩)) (state : State Board) :
    Unarmed state { state with board := (adjust adjustment state.board).2 } := by
  cases adjustment with
  | isEnabled n => exact fun _ h => h
  | stimulate stimulus =>
      cases stimulus with
      | setClock mask => exact fun alarm h => Clock.isArmed_set (permit alarm) h
      | _ => exact fun _ h => h

theorem armedAsNamed_keeps (number : Peripheral → Nat) :
    (rig number).Keeps ArmsByEnabling ArmedAsNamed where
  parts := armedAsNamed_sectional number
  operate label operation permit silent := by
    have layers := Keeps.layered (armedAsNamed_sectional number)
    refine layers.operation _ operation (armedAsNamed_enrols _) (fun enables => ?_)
      fun delivers => absurd delivers silent
    cases operation with
    | enable name =>
        refine layers.outside.map (layers.enable _ name
          (fun source _ => armedAsNamed_switchOn source) fun source _ => ?_) _
        exact fun state holds => holds.of_unarmed (fun _ h => h) rfl
    | enableAll => exact permit.elim
    | _ => exact enables.elim
  call label c permit state holds := holds.of_unarmed (unarmed_call number permit state) rfl
  adjust label adjustment state permit holds := holds.of_unarmed (unarmed_adjust permit state) rfl
  restart _ permit _ := permit.elim

/-! ## Deliveries -/

def alarmEvent : Alarm → ClockEvent
  | .timeOfDay => .timeOfDay
  | .subSecond => .subSecond

theorem gate_of_index {event : ClockEvent} {alarm : Alarm}
    (same : event.index = (alarmEvent alarm).index) : event.gate = alarm.enableBit := by
  cases event <;> cases alarm <;> first | rfl | cases same

theorem invocations_readControl {α : Type} (number : Peripheral → Nat)
    (react : Reaction Board Adjustment) (world : World Board Adjustment)
    (rest : Word → Routine α) :
    ∃ read : World Board Adjustment, read.board = world.board ∧
      world.invocations (hardware number) react (clock .readControl >>= rest) =
        read.invocations (hardware number) react (rest world.board.clock.control) := by
  refine ⟨(world.respond (hardware number) react (.call (.clock .readControl))).2, ?_, ?_⟩
  · rw [World.respond_call]
    rfl
  · rw [World.invocations_bind]
    exact List.nil_append _

/-- While alarms are scanned for a callback that names the armed one, and that arms none when
it runs, no other is delivered. -/
theorem alarmOf_of_scanEvents {react : Reaction Board Adjustment} {callback : Callback}
    (calm : ∀ index (world : World Board Adjustment),
      Unarmed world.state (react callback index world).state) (snapshot : Word)
    (events : List ClockEvent) {world : World Board Adjustment}
    (named : ∀ alarm, world.board.clock.isArmed alarm = true →
      alarmOf (some callback) = some alarm) :
    ∀ v ∈ world.invocations (hardware number) react
        (Delivery.scanEvents callback snapshot events),
      v.callback = callback ∧
        ∀ alarm, v.index = (alarmEvent alarm).index → alarmOf (some callback) = some alarm := by
  induction events generalizing world with
  | nil => exact fun _ hv => absurd hv List.not_mem_nil
  | cons event rest ih =>
      unfold Delivery.scanEvents
      split
      · obtain ⟨read, same, reading⟩ := invocations_readControl number react world fun control =>
          (do
            if control.covers event.gate then
              perform (.invoke .rtc callback event.index)
            Delivery.scanEvents callback snapshot rest : Routine Unit)
        rw [← same] at named reading
        rw [reading]
        let told : Invocation Board Adjustment := ⟨.rtc, callback, event.index, read⟩
        split
        next gate =>
          rw [World.invocations_bind]
          refine List.forall_mem_append.2 ⟨fun v hv => ?_, ih ?_⟩
          · cases List.mem_singleton.1 hv
            refine ⟨rfl, fun alarm delivered => named alarm ?_⟩
            rw [Clock.isArmed, ← gate_of_index delivered]
            exact gate
          · -- The callback has armed nothing, so what is armed was armed before.
            have entered : ∀ alarm, told.entry.state.board.clock.isArmed alarm = true →
                alarmOf (some callback) = some alarm := told.state_entry ▸ named
            exact fun alarm armed =>
              named_of_unarmed entered (calm event.index told.entry) alarm armed
        next => exact ih named
      · exact ih named

theorem alarmOf_of_dispatch {react : Reaction Board Adjustment} {world : World Board Adjustment}
    (holds : ArmedAsNamed world.state)
    (calm : ∀ callback, world.registry.find? .rtc = some callback →
      ∀ index (world : World Board Adjustment),
        Unarmed world.state (react callback index world).state) :
    ∀ v ∈ world.invocations (hardware number) react (Delivery.dispatch .rtc),
      world.registry.find? .rtc = some v.callback ∧
        ∀ alarm, v.index = (alarmEvent alarm).index → alarmOf (some v.callback) = some alarm := by
  rw [Delivery.dispatch, World.invocations_bind, World.invocations_lookUp, World.run_lookUp,
    List.nil_append]
  cases found : world.registry.find? .rtc with
  | none => exact fun _ hv => absurd hv List.not_mem_nil
  | some callback =>
      have parts := armedAsNamed_sectional number
      let clear := Routine.clock (.clearControl ClockControl.eventFlags)
      let read := (world.lookedUp .rtc).run (hardware number) react (Routine.clock .readControl)
      have quiet (c : ClockCall) : Quiet (Routine.clock c) := Quiet.perform (.call (.clock c)) id id
      -- The scan begins when the control register was read and its flags were cleared.
      have begun : ArmedAsNamed (read.2.run (hardware number) react clear).2.state := by
        rw [(quiet _).state, (quiet _).state]
        exact parts.call (.clock (.clearControl _)) trivial id _
          (parts.call (.clock .readControl) trivial id _ holds)
      have named (alarm : Alarm)
          (armed : (read.2.run (hardware number) react clear).2.board.clock.isArmed alarm = true) :
          alarmOf (some callback) = some alarm := by
        have registered : alarmOf (world.registry.find? .rtc) = some alarm := begun alarm armed
        rwa [found] at registered
      intro v hv
      obtain ⟨rfl, delivered⟩ := alarmOf_of_scanEvents (calm callback found) read.1
        ClockEvent.all named v hv
      exact ⟨rfl, delivered⟩

theorem unarmed_reentrant {behaviour : Behaviour Board Adjustment} {callback : Callback}
    (bodies : ∀ index world, (behaviour callback index world).Only fun step =>
      ArmsByEnabling (.step step) ∧ ∀ operation, step.action ≠ .operate operation)
    (budget index : Nat) (world : World Board Adjustment) :
    Unarmed world.state ((rig number).reentrant behaviour budget callback index world).state := by
  intro alarm off
  -- No induction on the budget: without operations no callback runs inside this one.
  cases budget with
  | zero => exact off
  | succ budget =>
      have steps (step : Step Adjustment) (world : World Board Adjustment)
          (permit : ArmsByEnabling (.step step) ∧ ∀ operation, step.action ≠ .operate operation)
          (off : Disarmed alarm world.state) :
          Disarmed alarm ((rig number).actInside ((rig number).reentrant behaviour budget)
            step world).2.state := by
        obtain ⟨label, action⟩ := step
        cases action with
        | operate operation => exact absurd rfl (permit.2 operation)
        | call c =>
            have quiet : Quiet (Routine.perform (.call c)) := Quiet.perform (.call c) id id
            change Disarmed alarm ((world.log (.began label)).run (hardware number)
              ((rig number).reentrant behaviour budget) (Routine.perform (.call c))).2.state
            rw [quiet.state]
            exact unarmed_call number permit.1 world.state alarm off
        | adjust adjustment => exact unarmed_adjust permit.1 world.state alarm off
        | vectors => exact off
        | recording recorder => exact off
      exact ((bodies index world).invariant _ steps off).1

/-- In every world that a session on a new board reaches, an alarm that is armed is the one
that the registered callback of the clock names, as long as alarms are armed by enabling the
clock only. So no two alarms are armed at once, and none without a callback. If the callback
starts no operation of its own, a dispatch of the clock delivers no other alarm to it. -/
theorem armed_alarm_named (number : Peripheral → Nat) (behaviour : Behaviour Board Adjustment)
    (budget : Nat) (commands : List (Command Adjustment)) (world : World Board Adjustment)
    (bodies : ∀ callback index world,
      (behaviour callback index world).Only fun step => ArmsByEnabling (.step step))
    (throughout : ∀ command ∈ commands, ArmsByEnabling command)
    (reached : (rig number).Reachable behaviour budget Board.initial commands world) :
    (∀ alarm, world.board.clock.isArmed alarm = true →
      alarmOf (world.registry.find? .rtc) = some alarm) ∧
    (∀ one other, world.board.clock.isArmed one = true →
      world.board.clock.isArmed other = true → one = other) ∧
    (world.registry.find? .rtc = none → ∀ alarm, world.board.clock.isArmed alarm = false) ∧
    ∀ depth, (∀ callback, world.registry.find? .rtc = some callback → ∀ index world,
        (behaviour callback index world).Only fun step =>
          ∀ operation, step.action ≠ .operate operation) →
      ∀ v ∈ world.invocations (hardware number) ((rig number).reentrant behaviour depth)
          (Delivery.dispatch .rtc),
        world.registry.find? .rtc = some v.callback ∧
          ∀ alarm, v.index = (alarmEvent alarm).index →
            alarmOf (some v.callback) = some alarm := by
  have holds : ArmedAsNamed world.state :=
    (armedAsNamed_keeps number).reachable bodies throughout reached
      (.of_disarmed fun alarm => by cases alarm <;> rfl)
  have named : ∀ alarm, world.board.clock.isArmed alarm = true →
      alarmOf (world.registry.find? .rtc) = some alarm := holds
  refine ⟨named, fun one other h h' => ?_, fun none alarm => holds.disarmed ?_, ?_⟩
  · exact Option.some.inj ((named one h).symm.trans (named other h'))
  · change alarmOf (world.registry.find? .rtc) ≠ some alarm
    rw [none]
    exact nofun
  · intro depth apart
    exact alarmOf_of_dispatch holds fun callback found index world =>
      unarmed_reentrant (fun index world => (bodies _ _ _).and (apart callback found index world))
        depth index world

/-- A callback for one alarm is replaced by a callback for the other, and both alarms go off.
Only the second is armed, and only of it the callback is told. -/
theorem armed_alarm_named_replaced :
    let first : Callback := ⟨.routine, 1, .rtc ⟨.timeOfDay, 7⟩, 1⟩
    let second : Callback := ⟨.routine, 2, .rtc ⟨.subSecond, 9⟩, 1⟩
    let operate (operation : Operation) : Step Adjustment := ⟨"", .operate operation⟩
    let flags : Step Adjustment := ⟨"", .adjust (.stimulate (.setClock 0xc0))⟩
    let steps := [operate (.register .rtc first), operate (.enable .rtc),
      operate (.register .rtc second), operate (.enable .rtc), flags]
    let behaviour : Behaviour Board Adjustment := fun _ _ _ => Body.ofSteps []
    let usual := rig Simulated.number
    let react := usual.reentrant behaviour 1
    let world := usual.follow react steps (usual.start react (World.initial Board.initial))
    world.board.clock.isArmed .subSecond = true ∧
      world.board.clock.isArmed .timeOfDay = false ∧
      ∃ v ∈ world.invocations usual.hardware react (Delivery.dispatch .rtc),
        v.index = 2 ∧ v.callback = second ∧ alarmOf (some v.callback) = some .subSecond := by
  intro first second operate flags steps behaviour usual react world
  have reached : usual.Reachable behaviour 1 Board.initial (steps.map Command.step) world :=
    Rig.reaches_follow 1 steps _
  have bodies (callback : Callback) (index : Nat) (world : World Board Adjustment) :
      (behaviour callback index world).Only fun step => ArmsByEnabling (.step step) := trivial
  have throughout : ∀ command ∈ steps.map Command.step, ArmsByEnabling command := by
    simp only [steps, List.map_cons, List.map_nil, List.forall_mem_cons]
    refine ⟨trivial, trivial, trivial, trivial, fun alarm => ?_, fun _ h => nomatch h⟩
    cases alarm <;> decide
  obtain ⟨-, single, -, delivered⟩ := armed_alarm_named Simulated.number behaviour 1 _ world bodies
    throughout reached
  have armed : world.board.clock.isArmed .subSecond = true := by decide +kernel
  have registered : world.registry.find? .rtc = some second := by decide +kernel
  have told : (world.invocations usual.hardware react (Delivery.dispatch .rtc)).map
      (·.index) = [2] := by decide +kernel
  obtain ⟨v, hv, index⟩ := List.mem_map.1 (told ▸ List.mem_singleton_self 2)
  obtain ⟨entry, named⟩ := delivered 1 (fun _ _ _ _ => trivial) v hv
  have differs : Alarm.subSecond ≠ .timeOfDay := Alarm.noConfusion
  have disarmed : world.board.clock.isArmed .timeOfDay = false :=
    Bool.eq_false_iff.2 fun other => differs (single _ _ armed other)
  have same : v.callback = second := Option.some.inj (entry.symm.trans registered)
  exact ⟨armed, disarmed, v, hv, index, same, named .subSecond index⟩

end Interrupts.Simulated
