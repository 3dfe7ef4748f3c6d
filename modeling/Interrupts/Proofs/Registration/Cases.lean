import Interrupts.Proofs.Simulated.Calls

/-! # How a registration ends

On the simulated board a registration can end in four ways. It is refused at once; it is
refused by a line whose trigger cannot be programmed; it is accepted for a line, or for a
source without a trigger. `Registers` gives the result and the state for each.
-/

namespace Interrupts.Simulated

open Routine Guarded Registration

def LineBank.directed (bank : LineBank) (line : Line) : LineBank :=
  { bank with input := bank.input ||| line.mask }

def prioritised (state : State Board) (n : Nat) (priority : Priority) : State Board :=
  { state with board := { state.board with controller := { state.board.controller with
      priorities := state.board.controller.priorities.setIfInBounds n priority } } }

/-- The clock once a callback with this setting takes the place of another: the alarm that
was set by the other is disarmed, unless the new one is the same. -/
def Clock.replacing (clock : Clock) (setting : Setting) (replaced : Option Callback) : Clock :=
  match replaced.bind (·.setting.alarm?), setting.alarm? with
  | some old, some new =>
      if old.alarm = new.alarm then clock
      else { clock with control := clock.control.without old.alarm.enableBit }
  | _, _ => clock

/-- The controller has the vector and takes the priority for it. -/
def Accepts (state : State Board) (n : Nat) (priority : Priority) : Prop :=
  n < 64 ∧ priority ≤ state.board.controller.limit

/-- The results of registering `callback` under `name`, each with the state afterwards. -/
inductive Registers (vectors : VectorTable) (name : SourceName) (callback : Callback)
    (state : State Board) : Except Fault Unit × State Board → Prop
  | refused (fault : Fault) : Registers vectors name callback state (.error fault, state)
  /-- Refused by the line, after its vector took the priority. -/
  | lineRefused {line : Line} {trigger : Trigger} (named : name.resolve = .ok (.gpio line))
      (setting : callback.setting = .gpio trigger)
      (accepted : Accepts state (vectors.number .gpio) callback.priority)
      (failing : state.board.lines.failing.getLsbD line.val = true) :
      Registers vectors name callback state
        (.error .busy,
          withLines (prioritised state (vectors.number .gpio) callback.priority)
            ((state.board.lines.directed line).discarded line))
  | line {line : Line} {trigger : Trigger} (named : name.resolve = .ok (.gpio line))
      (setting : callback.setting = .gpio trigger)
      (accepted : Accepts state (vectors.number .gpio) callback.priority) :
      Registers vectors name callback state
        (.ok (),
          { withLines (prioritised state (vectors.number .gpio) callback.priority)
              ((state.board.lines.directed line).retriggered line trigger) with
            registry := (state.registry.install (.gpio line) callback).2
            lines := state.lines.set line
              ⟨some trigger, state.board.lines.enabled.getLsbD line.val⟩ })
  /-- The alarm of a callback that was replaced may have been disarmed. -/
  | other {source : Source} (named : name.resolve = .ok source)
      (plain : ∀ line, source ≠ .gpio line)
      (accepted : Accepts state (vectors.number source.peripheral) callback.priority)
      (fits : callback.setting.fits source = true) :
      Registers vectors name callback state
        (.ok (),
          { withClock (prioritised state (vectors.number source.peripheral) callback.priority)
              (state.board.clock.replacing callback.setting (state.registry.find? source)) with
            registry := (state.registry.install source callback).2 })

def installation (name : SourceName) (source : Source) (callback : Callback) :
    Guarded Unit := do
  disarmReplaced callback.setting (← find source)
  match ← perform (.install source callback) with
  | some _ => note (.replaced name)
  | none => note (.registered name)

theorem register_eq (vectors : VectorTable) (name : SourceName) (callback : Callback) :
    register vectors name callback = (do
      let source ← resolve name
      if callback.setting.fits source then
        locked do
          attempt (controller (.setPriority (vectors.number source.peripheral) callback.priority))
          prepare source callback.setting
          installation name source callback
      else
        note (.misfit callback.setting name)
        throw .invalidArgument) := by
  refine bind_congr fun source => ite_congr rfl (fun _ => congrArg locked ?_) fun _ => rfl
  refine bind_congr fun _ => bind_congr fun _ => bind_congr fun _ => bind_congr fun _ =>
    bind_congr fun replaced => ?_
  cases replaced <;> rfl

variable {number : Peripheral → Nat} {vectors : VectorTable} {name : SourceName}
  {callback : Callback} {state : State Board}

theorem run_setPriority (number : Peripheral → Nat) (n : Nat) (priority : Priority)
    (state : State Board) :
    state.run (hardware number) (controller (.setPriority n priority)) =
      if n < 64 ∧ priority ≤ state.board.controller.limit then
        (.ok (), prioritised state n priority)
      else (.error .invalidArgument, state) := by
  let response := state.board.controller.respond (.setPriority n priority)
  change (response.1, ({ state with board :=
    { state.board with controller := response.2 } } : State Board)) = _
  by_cases listed : n < 64
  · by_cases accepted : priority ≤ state.board.controller.limit
    · have inBounds : state.board.controller.priorities.set n priority =
          state.board.controller.priorities.setIfInBounds n priority := by
        ext i hi
        simp [Vector.getElem_set, Vector.getElem_setIfInBounds]
      simp only [response, Controller.respond, listed, accepted, and_self, dite_true, if_true,
        prioritised, inBounds]
    · simp only [response, Controller.respond, listed, accepted, and_false, dite_true, if_false]
  · simp only [response, Controller.respond, listed, false_and, dite_false, if_false]

theorem run_disarmReplaced (number : Peripheral → Nat) (setting : Setting)
    (replaced : Option Callback) (state : State Board) :
    state.run (hardware number) (disarmReplaced setting replaced).run =
      (.ok (), withClock state (state.board.clock.replacing setting replaced)) := by
  unfold disarmReplaced Clock.replacing
  cases replaced.bind (·.setting.alarm?) with
  | none => rfl
  | some old =>
      cases setting.alarm? with
      | none => rfl
      | some new =>
          dsimp only
          split <;> rfl

theorem Clock.replacing_of_no_alarm (clock : Clock) {setting : Setting}
    (silent : setting.alarm? = none) (replaced : Option Callback) :
    clock.replacing setting replaced = clock := by
  unfold replacing
  rw [silent]
  cases replaced.bind _ <;> rfl

theorem run_installation (number : Peripheral → Nat) (name : SourceName) (source : Source)
    (callback : Callback) (state : State Board) :
    state.run (hardware number) (installation name source callback).run =
      (.ok (), { withClock state
          (state.board.clock.replacing callback.setting (state.registry.find? source)) with
        registry := (state.registry.install source callback).2 }) := by
  unfold installation
  rw [State.run_andThen_ok _ (State.run_lift _ _ _), State.run_find,
    State.run_andThen_ok _ (run_disarmReplaced _ _ _ _),
    State.run_andThen_ok _ (State.run_lift _ _ _)]
  split <;> rfl

/-- A line becomes an input and is given its trigger before the callback is installed. -/
theorem registers_line {line : Line} {trigger : Trigger}
    (named : name.resolve = .ok (.gpio line)) (setting : callback.setting = .gpio trigger)
    (accepted : Accepts state (vectors.number .gpio) callback.priority) :
    Registers vectors name callback state
      ((prioritised state (vectors.number .gpio) callback.priority).run (hardware number) (do
        prepare (.gpio line) callback.setting
        installation name (.gpio line) callback : Guarded Unit).run) := by
  let directed := withLines (prioritised state (vectors.number .gpio) callback.priority)
    (state.board.lines.directed line)
  have prepared : (prioritised state (vectors.number .gpio) callback.priority).run
      (hardware number) (prepare (.gpio line) (.gpio trigger)).run =
        directed.run (hardware number) (LineControl.retrigger line trigger).run :=
    State.run_andThen_ok _ rfl
  rw [run_retrigger] at prepared
  rw [setting]
  split at prepared
  next failing =>
    rw [State.run_andThen_error _ prepared]
    exact .lineRefused named setting accepted failing
  next =>
    have silent : callback.setting.alarm? = none := by rw [setting]; rfl
    rw [State.run_andThen_ok _ prepared, run_installation, Clock.replacing_of_no_alarm _ silent]
    exact .line named setting accepted

theorem registers_other {source : Source} (named : name.resolve = .ok source)
    (plain : ∀ line, source ≠ .gpio line)
    (accepted : Accepts state (vectors.number source.peripheral) callback.priority)
    (fits : callback.setting.fits source = true) :
    Registers vectors name callback state
      ((prioritised state (vectors.number source.peripheral) callback.priority).run
        (hardware number) (do
          prepare source callback.setting
          installation name source callback : Guarded Unit).run) := by
  have unprepared : prepare source callback.setting = pure () := by
    cases source with
    | gpio line => exact absurd rfl (plain line)
    | rtc => rfl
    | uart channel => rfl
  rw [unprepared, pure_bind, run_installation]
  exact .other named plain accepted fits

theorem registers (number : Peripheral → Nat) (vectors : VectorTable) (name : SourceName)
    (callback : Callback) (state : State Board) :
    Registers vectors name callback state
      (state.run (hardware number) (register vectors name callback).run) := by
  rw [register_eq]
  -- One case for each early return, in the order of the steps.
  cases named : name.resolve with
  | error fault =>
      have refused : state.run (hardware number) (resolve name).run = (.error fault, state) := by
        rw [State.run_resolve, named]
      rw [State.run_andThen_error _ refused]
      exact .refused fault
  | ok source =>
      have resolved : state.run (hardware number) (resolve name).run = (.ok source, state) := by
        rw [State.run_resolve, named]
      rw [State.run_andThen_ok _ resolved]
      by_cases fits : callback.setting.fits source = true
      · rw [if_pos fits, State.run_locked]
        have priority := run_setPriority number (vectors.number source.peripheral)
          callback.priority state
        split at priority
        next accepted =>
          rw [State.run_andThen_ok _ (by exact priority)]
          cases source with
          | gpio line =>
              cases setting : callback.setting with
              | gpio trigger =>
                  rw [← setting]
                  exact registers_line named setting accepted
              | rtc _ => simp [setting, Setting.fits] at fits
              | uart => simp [setting, Setting.fits] at fits
          | rtc => exact registers_other named (fun _ => Source.noConfusion) accepted fits
          | uart channel => exact registers_other named (fun _ => Source.noConfusion) accepted fits
        next =>
          rw [State.run_andThen_error _ (by exact priority)]
          exact .refused .invalidArgument
      · rw [if_neg fits]
        exact .refused .invalidArgument

end Interrupts.Simulated
