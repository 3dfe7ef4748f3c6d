import Interrupts.Proofs.Simulated.Calls

/-! # Sources that are off

When a source is off on the simulated board, and what turns it off. `Dims` relates two
states if everything that was off in the first is off in the second: so it is with every
effect that neither writes the line table nor switches anything on, and with the two ways
of changing a line in which it is not switched on.
-/

namespace Interrupts.Simulated

open Routine Guarded

/-! ## Off -/

/-- The enable bit of the line and its stored flag are clear. -/
def LineOff (line : Line) (state : State Board) : Prop :=
  state.board.lines.enabled.getLsbD line.val = false ∧ (state.lines.get line).enabled = false

def Masked (n : Nat) (state : State Board) : Prop := state.board.controller.isEnabled n = false

def Disarmed (alarm : Alarm) (state : State Board) : Prop :=
  state.board.clock.isArmed alarm = false

def alarmOf (entry : Option Callback) : Option Alarm :=
  (entry.bind (·.setting.alarm?)).map (·.alarm)

/-- The source is off: a line is switched off; the clock is disarmed, as to the alarm of its
entry, and masked; a serial channel is masked. -/
def IsOff (number : Peripheral → Nat) (entry : Option Callback) (source : Source)
    (state : State Board) : Prop :=
  match source with
  | .gpio line => LineOff line state
  | .rtc => (∃ alarm, alarmOf entry = some alarm ∧ Disarmed alarm state) ∧
      Masked (number .rtc) state
  | .uart channel => Masked (number (.uart channel)) state

/-- Nothing was switched on on the way to the second state. -/
structure Dims (before after : State Board) : Prop where
  lines (line : Line) : LineOff line before → LineOff line after
  alarms (alarm : Alarm) : Disarmed alarm before → Disarmed alarm after
  vectors (n : Nat) : Masked n before → Masked n after

variable {number : Peripheral → Nat} {entry : Option Callback} {source : Source}
  {state after : State Board}

theorem IsOff.dims (off : IsOff number entry source state) (dims : Dims state after) :
    IsOff number entry source after := by
  cases source with
  | gpio line => exact dims.lines line off
  | rtc =>
      obtain ⟨⟨alarm, named, disarmed⟩, masked⟩ := off
      exact ⟨⟨alarm, named, dims.alarms alarm disarmed⟩, dims.vectors _ masked⟩
  | uart channel => exact dims.vectors _ off

/-! ## What every other effect does -/

namespace Controller

theorem isEnabled_enable {controller : Controller} {n m : Nat} (other : n ≠ m)
    (masked : controller.isEnabled m = false) :
    (controller.respond (.enable n)).2.isEnabled m = false := by
  simp only [respond]
  split
  · simpa [isEnabled, getLsbD_bit, other] using masked
  · exact masked

theorem isEnabled_respond {controller : Controller} {call : ControllerCall} {m : Nat}
    (other : ∀ n, call ≠ .enable n) (masked : controller.isEnabled m = false) :
    (controller.respond call).2.isEnabled m = false := by
  cases call with
  | enable n => exact absurd rfl (other n)
  | disable n =>
      simp only [respond]
      split
      · rw [isEnabled] at masked ⊢
        simp [masked]
      · exact masked
  | clearPending n =>
      simp only [respond]
      split <;> exact masked
  | setPriority n priority =>
      simp only [respond]
      split
      · split <;> exact masked
      · exact masked
  | isPending n => exact masked
  | priority n => exact masked

end Controller

namespace Clock

theorem isArmed_arm {clock : Clock} {alarm other : Alarm} (differs : alarm ≠ other)
    (deadline : Word) (disarmed : clock.isArmed other = false) :
    (clock.respond (.arm alarm deadline)).2.isArmed other = false := by
  simp only [Clock.respond]
  split
  · exact disarmed
  · exact (clock.isArmed_armed alarm other deadline).trans (by simp [disarmed, differs])

theorem isArmed_set {clock : Clock} {alarm : Alarm} {mask : Word}
    (apart : mask.covers alarm.enableBit = false) (disarmed : clock.isArmed alarm = false) :
    (clock.set mask).isArmed alarm = false := by
  rw [Clock.isArmed, Clock.set, Alarm.covers_or, apart, Bool.or_false]
  exact disarmed

end Clock

namespace Dims

theorem of_eq (lines : after.board.lines.enabled = state.board.lines.enabled)
    (table : after.lines = state.lines) (clock : after.board.clock = state.board.clock)
    (controller : after.board.controller = state.board.controller) : Dims state after := by
  refine ⟨fun line h => ?_, fun alarm h => ?_, fun n h => ?_⟩
  · rwa [LineOff, lines, table]
  · rwa [Disarmed, clock]
  · rwa [Masked, controller]

theorem refl (state : State Board) : Dims state state := of_eq rfl rfl rfl rfl

theorem trans {last : State Board} (first : Dims state after) (later : Dims after last) :
    Dims state last where
  lines line h := later.lines line (first.lines line h)
  alarms alarm h := later.alarms alarm (first.alarms alarm h)
  vectors n h := later.vectors n (first.vectors n h)

theorem call {c : Call} (plain : (Effect.call c).Plain) (tame : ¬ (Effect.call c).Enables)
    (state : State Board) : Dims state (state.respond (hardware number) (.call c)).2 := by
  cases c with
  | controller c =>
      refine ⟨fun _ h => h, fun _ h => h, fun n h => Controller.isEnabled_respond ?_ h⟩
      rintro n rfl
      exact tame trivial
  | lines c =>
      cases c with
      | configureTrigger _ _ => exact plain.elim
      | setEnabled _ _ => exact plain.elim
      | _ => exact of_eq rfl rfl rfl rfl
  | clock c =>
      have cleared {alarm : Alarm} {mask : Word} (h : Disarmed alarm state) :
          (state.board.clock.control.without mask).covers alarm.enableBit = false := by
        refine Bool.eq_false_iff.2 fun armed => ?_
        exact Bool.false_ne_true (h.symm.trans (Word.covers_of_without armed))
      cases c with
      | readControl => exact of_eq rfl rfl rfl rfl
      | clearControl mask => exact ⟨fun _ h => h, fun _ h => cleared h, fun _ h => h⟩
      | arm _ _ => exact absurd trivial tame
      | disarm alarm => exact ⟨fun _ h => h, fun _ h => cleared h, fun _ h => h⟩
  | serial channel c => exact of_eq rfl rfl rfl rfl

theorem respond {effect : Effect} (plain : effect.Plain) (tame : ¬ effect.Enables)
    (state : State Board) : Dims state (state.respond (hardware number) effect).2 := by
  cases effect with
  | invoke _ _ _ => exact plain.elim
  | writeLine _ _ => exact plain.elim
  | call c => exact call plain tame state
  | _ => exact of_eq rfl rfl rfl rfl

theorem perform (number : Peripheral → Nat) (effect : Effect) (plain : effect.Plain)
    (tame : ¬ effect.Enables) (state : State Board) :
    Dims state (state.run (hardware number) (Routine.perform effect)).2 := by
  rw [State.run_perform]
  exact respond plain tame state

theorem retrigger (line : Line) (trigger : Trigger) (state : State Board) :
    Dims state (state.run (hardware number) (LineControl.retrigger line trigger).run).2 := by
  rw [run_retrigger]
  split
  · exact of_eq rfl rfl rfl rfl
  · refine ⟨fun other h => ⟨h.1, ?_⟩, fun _ h => h, fun _ h => h⟩
    rw [LineTable.get_set]
    split
    -- The flag is written anew, with the enable bit that was read.
    next same => exact same ▸ h.1
    next => exact h.2

theorem lineOff (line : Line) (state : State Board) :
    Dims state (state.run (hardware number) (LineControl.switch line false).run).2 := by
  rw [run_switch]
  refine ⟨fun other h => ⟨?_, ?_⟩, fun _ h => h, fun _ h => h⟩
  · simpa [withLines, Word.getLsbD_write] using fun _ => h.1
  · rw [LineTable.get_set]
    split
    · rfl
    · exact h.2

theorem sectional (number : Peripheral → Nat) :
    Sectional fun α (routine : Routine α) =>
      ∀ state : State Board, Dims state (state.run (hardware number) routine).2 where
  pure _ state := refl state
  bind first later state := by
    rw [State.run_bind]
    exact (first state).trans (later _ _)
  perform effect plain _ tame _ state := perform number effect plain tame state
  retrigger line trigger state := retrigger line trigger state
  lineOff line state := lineOff line state

end Dims

/-! ## Switching off -/

/-- The source is what the operation switches off if it succeeds; releasing a line does so if
the line has a callback. -/
def SwitchesOff (source : Source) (entry : Option Callback) : Operation → Prop
  | .unregister name | .disable name => name.resolve = .ok source
  | .release index => (SourceName.gpio index).resolve = .ok source ∧ entry.isSome = true
  | _ => False

theorem SwitchesOff.silent {operation : Operation} (h : SwitchesOff source entry operation) :
    ¬ operation.Delivers := by
  cases operation with
  | handle _ => exact h.elim
  | dispatch _ => exact h.elim
  | _ => exact id

theorem masked_of_disable {n : Nat}
    (h : state.run (hardware number) (controller (.disable n)) = (.ok (), after)) :
    Masked n after ∧ after.board.clock = state.board.clock := by
  let response := state.board.controller.respond (.disable n)
  change (response.1, ({ state with board :=
    { state.board with controller := response.2 } } : State Board)) = _ at h
  simp only [response, Controller.respond] at h
  split at h
  next listed =>
    cases h
    simp [Masked, Controller.isEnabled, Controller.getLsbD_bit, listed]
  next => cases h

theorem off_of_switchOff (number : Peripheral → Nat) {setting : Option Setting}
    (entered : setting = entry.map (·.setting))
    (h : state.run (hardware number)
      (Registration.switchOff (VectorTable.ofNumbering number) source setting).run =
        (.ok (), after)) : IsOff number entry source after := by
  cases source with
  | gpio line =>
      cases (run_switch line false state).symm.trans h
      simp [IsOff, LineOff, withLines, Word.getLsbD_write]
  | rtc =>
      cases named : setting.bind Setting.alarm? with
      | none =>
          simp only [Registration.switchOff, named] at h
          cases h
      | some alarm =>
          simp only [Registration.switchOff, named] at h
          obtain ⟨_, between, disarmed, disabled⟩ := State.of_andThen_ok _ h
          cases disarmed
          obtain ⟨masked, clock⟩ := masked_of_disable disabled
          rw [VectorTable.number_ofNumbering] at masked
          have kept : alarmOf entry = some alarm.alarm := by
            rw [entered, Option.bind_map] at named
            exact congrArg (Option.map (·.alarm)) named
          refine ⟨⟨alarm.alarm, kept, ?_⟩, masked⟩
          rw [Disarmed, clock]
          exact alarm.alarm.covers_without _
  | uart channel =>
      have masked := (masked_of_disable h).1
      rw [VectorTable.number_ofNumbering] at masked
      exact masked

theorem off_of_andThen (number : Peripheral → Nat) {setting : Option Setting}
    {rest : Guarded Unit} (entered : setting = entry.map (·.setting))
    (leaves : ∀ state : State Board, Dims state (state.run (hardware number) rest.run).2)
    (h : state.run (hardware number) (do
      Registration.switchOff (VectorTable.ofNumbering number) source setting
      rest : Guarded Unit).run = (.ok (), after)) : IsOff number entry source after := by
  obtain ⟨_, between, switched, rested⟩ := State.of_andThen_ok _ h
  have kept := leaves between
  rw [rested] at kept
  exact (off_of_switchOff number entered switched).dims kept

theorem off_of_takeOut (number : Peripheral → Nat) {callback : Callback} {notice : Notice}
    (h : state.run (hardware number) (do
      Registration.switchOff (VectorTable.ofNumbering number) source (some callback.setting)
      discard (attempt (perform (.erase source)))
      note notice : Guarded Unit).run = (.ok (), after)) :
    IsOff number (some callback) source after := by
  have parts := Dims.sectional number
  refine off_of_andThen number rfl (parts.andThen (parts.discard ?_) fun _ => parts.note _) h
  exact Dims.perform number (.erase source) trivial id

theorem off_of_unregister (number : Peripheral → Nat) {name : SourceName}
    (named : name.resolve = .ok source)
    (h : state.run (hardware number)
      (Registration.unregister (VectorTable.ofNumbering number) name).run = (.ok (), after)) :
    IsOff number (state.registry.find? source) source after := by
  rw [Registration.unregister, resolve_of_ok named, pure_bind, State.run_locked,
    State.run_andThen_ok _ (State.run_lift _ _ _), State.run_find] at h
  dsimp only at h
  cases found : state.registry.find? source with
  | none =>
      rw [found] at h
      cases h
  | some callback =>
      rw [found] at h
      exact off_of_takeOut number h

/-- Releasing a line without a callback succeeds too, but switches nothing off. -/
theorem off_of_release (number : Peripheral → Nat) {index : UInt8}
    (named : (SourceName.gpio index).resolve = .ok source)
    (registered : (state.registry.find? source).isSome = true)
    (h : state.run (hardware number)
      (Registration.release (VectorTable.ofNumbering number) index).run = (.ok (), after)) :
    IsOff number (state.registry.find? source) source after := by
  rw [Registration.release, resolve_of_ok named, pure_bind, State.run_locked,
    State.run_andThen_ok _ (State.run_lift _ _ _), State.run_find] at h
  dsimp only at h
  cases found : state.registry.find? source with
  | none =>
      rw [found] at registered
      cases registered
  | some callback =>
      rw [found] at h
      exact off_of_takeOut number h

theorem off_of_disable (number : Peripheral → Nat) {name : SourceName}
    (named : name.resolve = .ok source)
    (h : state.run (hardware number)
      (Switching.disable (VectorTable.ofNumbering number) name).run = (.ok (), after)) :
    IsOff number (state.registry.find? source) source after := by
  rw [Switching.disable, resolve_of_ok named, pure_bind, State.run_locked,
    State.run_andThen_ok _ (State.run_lift _ _ _), State.run_find] at h
  exact off_of_andThen number rfl (Dims.sectional number |>.note _) h

/-- An operation that switches a source off and succeeds leaves it off. -/
theorem off_of_done (number : Peripheral → Nat) {operation : Operation}
    (switches : SwitchesOff source (state.registry.find? source) operation)
    (done : state.run (hardware number)
      (operation.routine (VectorTable.ofNumbering number)) = (.done, after)) :
    IsOff number (state.registry.find? source) source after := by
  cases operation with
  | unregister name => exact off_of_unregister number switches (State.ok_of_done _ done)
  | disable name => exact off_of_disable number switches (State.ok_of_done _ done)
  | release index =>
      exact off_of_release number switches.1 switches.2 (State.ok_of_done _ done)
  | _ => exact switches.elim

end Interrupts.Simulated
