import Interrupts.Proofs.Registration.Fits
import Interrupts.Proofs.Simulated.Calls

/-! # What the switching operations depend on

Unregistering, releasing, disabling and enabling check before they act. On a simulated
board that has all the vectors it is known beforehand whether one of them succeeds, and if
it does not, nothing has happened. `Decided` says this of a program and a condition.
-/

namespace Interrupts

open Routine Guarded

/-! ## Programs decided by a condition -/

/-- Under the condition the program succeeds; otherwise it fails and changes nothing. -/
structure State.Decided {β : Type} (hardware : Hardware β) (program : Guarded Unit)
    (condition : Prop) (state : State β) : Prop where
  accepts : condition → ∃ after, state.run hardware program.run = (.ok (), after)
  refuses : ¬ condition → ∃ fault, state.run hardware program.run = (.error fault, state)

theorem State.run_erased {β : Type} (hardware : Hardware β) {state : State β} {source : Source}
    {callback : Callback} (found : state.registry.find? source = some callback)
    (notice : Notice) :
    state.run hardware (show Guarded Unit from do
      discard (attempt (perform (.erase source)))
      note notice).run = (.ok (), { state with registry := state.registry.put source none }) := by
  have answered : state.respond hardware (.erase source) =
      (.ok callback, { state with registry := state.registry.put source none }) := by
    simp only [respond, Registry.erase_of_find? found]
  have erased : state.run hardware (discard (attempt (perform (.erase source)))).run =
      (.ok (), { state with registry := state.registry.put source none }) := by
    change state.run hardware ((fun _ => PUnit.unit) <$>
      attempt (perform (.erase source)) : Guarded PUnit).run = _
    rw [ExceptT.run_map, run_map, run_attempt, run_perform, answered]
    rfl
  rw [run_andThen_ok _ erased]
  rfl

namespace State.Decided

variable {β : Type} {hardware : Hardware β} {program : Guarded Unit} {condition : Prop}
  {state : State β}

theorem of_ok (h : ∃ after, state.run hardware program.run = (.ok (), after))
    (holds : condition) : Decided hardware program condition state :=
  ⟨fun _ => h, fun no => absurd holds no⟩

theorem of_error {fault : Fault}
    (h : state.run hardware program.run = (.error fault, state)) (no : ¬ condition) :
    Decided hardware program condition state :=
  ⟨fun holds => absurd holds no, fun _ => ⟨fault, h⟩⟩

theorem congr {other : Prop} (h : Decided hardware program condition state)
    (same : condition ↔ other) : Decided hardware program other state :=
  ⟨fun holds => h.accepts (same.2 holds), fun no => h.refuses fun holds => no (same.1 holds)⟩

theorem andThen {rest : Guarded Unit} (first : Decided hardware program condition state)
    (later : ∀ between, state.run hardware program.run = (.ok (), between) →
      ∃ after, between.run hardware rest.run = (.ok (), after)) :
    Decided hardware (do program; rest) condition state where
  accepts holds := by
    obtain ⟨between, ran⟩ := first.accepts holds
    obtain ⟨after, ended⟩ := later between ran
    exact ⟨after, (run_andThen_ok hardware ran).trans ended⟩
  refuses no := by
    obtain ⟨fault, ran⟩ := first.refuses no
    exact ⟨fault, run_andThen_error hardware ran⟩

theorem locked (h : Decided hardware program condition state) :
    Decided hardware (Guarded.locked program) condition state := by
  constructor
  · rw [run_locked]
    exact h.accepts
  · rw [run_locked]
    exact h.refuses

theorem resolve {name : SourceName} {rest : Source → Guarded Unit} {condition : Source → Prop}
    (later : ∀ source, name.resolve = .ok source →
      Decided hardware (rest source) (condition source) state) :
    Decided hardware (do rest (← Guarded.resolve name))
      (∃ source, name.resolve = .ok source ∧ condition source) state := by
  cases named : name.resolve with
  | error fault =>
      have refused : state.run hardware (Guarded.resolve name).run = (.error fault, state) := by
        rw [run_resolve, named]
      exact of_error (run_andThen_error hardware refused) fun ⟨_, other, _⟩ => nomatch other
  | ok source =>
      rw [resolve_of_ok named, pure_bind]
      have decided := later source named
      refine ⟨?_, fun no => decided.refuses fun holds => no ⟨source, rfl, holds⟩⟩
      rintro ⟨other, same, holds⟩
      cases same
      exact decided.accepts holds

theorem find {source : Source} {rest : Option Callback → Guarded Unit}
    (later : Decided hardware (rest (state.registry.find? source)) condition state) :
    Decided hardware (do rest (← Routine.find source)) condition state := by
  have found : state.run hardware (liftM (Routine.find source) : Guarded _).run =
    (.ok (state.registry.find? source), state) := run_lift _ _ _
  constructor
  · rw [run_andThen_ok _ found]
    exact later.accepts
  · rw [run_andThen_ok _ found]
    exact later.refuses

theorem outcome (h : Decided hardware program condition state) :
    ((state.run hardware (Outcome.ofResult <$> program.run)).1 = .done ↔ condition) ∧
    (¬ condition → (∃ fault, (state.run hardware (Outcome.ofResult <$> program.run)).1 =
      .refused fault) ∧ (state.run hardware (Outcome.ofResult <$> program.run)).2 = state) := by
  rw [run_map, Outcome.ofResult_eq_done]
  by_cases holds : condition
  · obtain ⟨after, ran⟩ := h.accepts holds
    rw [ran]
    exact ⟨iff_of_true rfl holds, fun no => absurd holds no⟩
  · obtain ⟨fault, ran⟩ := h.refuses holds
    rw [ran]
    exact ⟨iff_of_false (fun same => nomatch same) holds, fun _ => ⟨⟨fault, rfl⟩, rfl⟩⟩

end State.Decided

/-! ## The switching operations -/

namespace Simulated

open State

/-- The operation switches one source, or takes out its callback. -/
def Switches : Operation → Prop
  | .unregister _ | .release _ | .disable _ | .enable _ => True
  | _ => False

theorem Switches.silent {operation : Operation} (h : Switches operation) :
    ¬ operation.Delivers := by
  cases operation with
  | handle _ => exact h.elim
  | dispatch _ => exact h.elim
  | _ => exact id

def InRange : SourceName → Prop
  | .gpio index => index.toNat < 14
  | .rtc => True
  | .uart index => index.toNat < 2

/-- A name in range means a source, and no other name means the clock than its own. -/
theorem exists_resolve_iff (name : SourceName) (clock : Prop) :
    (∃ source, name.resolve = .ok source ∧ (source = .rtc → clock)) ↔
      InRange name ∧ (name = .rtc → clock) := by
  cases name with
  | gpio index =>
      by_cases h : index.toNat < 14 <;> simp [SourceName.resolve, Line.ofNat?, InRange, h]
  | rtc => simp [SourceName.resolve, InRange]
  | uart index =>
      by_cases h : index.toNat < 2 <;> simp [SourceName.resolve, Channel.ofNat?, InRange, h]

/-- What a switching operation needs. A source out of range is never switched, and the clock
only while it is registered; it is not armed while it is busy. -/
def Needs (state : State Board) : Operation → Prop
  | .unregister name =>
      ∃ source, name.resolve = .ok source ∧ state.registry.contains source = true
  | .release index => InRange (.gpio index)
  | .disable name => InRange name ∧ (name = .rtc → state.registry.contains .rtc = true)
  | .enable name =>
      InRange name ∧
        (name = .rtc → state.registry.contains .rtc = true ∧ state.board.clock.busy = false)
  | _ => True

variable {number : Peripheral → Nat} {state : State Board}

theorem enable_accepted (listed : Listed number) (peripheral : Peripheral)
    (state : State Board) :
    ∃ after, state.run (hardware number)
      (controller (.enable ((VectorTable.ofNumbering number).number peripheral))) =
        (.ok (), after) := by
  rw [VectorTable.number_ofNumbering]
  exact ⟨_, run_enable number (listed peripheral) state⟩

theorem disable_accepted (listed : Listed number) (peripheral : Peripheral)
    (state : State Board) :
    ∃ after, state.run (hardware number)
      (controller (.disable ((VectorTable.ofNumbering number).number peripheral))) =
        (.ok (), after) := by
  rw [VectorTable.number_ofNumbering]
  exact ⟨_, run_disable number (listed peripheral) state⟩

theorem decided_switchOff (listed : Listed number) (source : Source) (setting : Option Setting)
    (state : State Board) :
    Decided (hardware number)
      (Registration.switchOff (VectorTable.ofNumbering number) source setting)
      (source = .rtc → (setting.bind Setting.alarm?).isSome = true) state := by
  cases source with
  | gpio line => exact .of_ok ⟨_, run_switch line false state⟩ Source.noConfusion
  | rtc =>
      cases named : setting.bind Setting.alarm? with
      | some alarm =>
          simp only [Registration.switchOff, named]
          obtain ⟨after, disabled⟩ := disable_accepted listed .rtc
            (withClock state (state.board.clock.respond (.disarm alarm.alarm)).2)
          exact .of_ok ⟨after, (run_andThen_ok _ rfl).trans disabled⟩ fun _ => rfl
      | none =>
          have refused : ¬ (True → (none : Option AlarmSetting).isSome = true) :=
            fun h => Bool.false_ne_true (h trivial)
          simp only [Registration.switchOff, named]
          exact .of_error rfl refused
  | uart channel => exact .of_ok (disable_accepted listed _ _) Source.noConfusion

theorem run_takeOut (listed : Listed number) (fitting : state.registry.Fitting)
    {source : Source} {callback : Callback}
    (found : state.registry.find? source = some callback) (notice : Notice) :
    ∃ after, state.run (hardware number) (show Guarded Unit from do
      Registration.switchOff (VectorTable.ofNumbering number) source (some callback.setting)
      discard (attempt (perform (.erase source)))
      note notice).run = (.ok (), after) := by
  obtain ⟨between, switched⟩ :=
    (decided_switchOff listed source _ state).accepts (fitting.isSome_alarm? found)
  -- Switching off leaves the registry alone, so the callback is still there to be erased.
  have kept := (State.settled (hardware number)).switchOff
    (VectorTable.ofNumbering number) source (some callback.setting) state
  rw [switched] at kept
  have still : between.registry.find? source = some callback := kept ▸ found
  have erased := run_erased (hardware number) still notice
  exact ⟨_, (run_andThen_ok _ switched).trans erased⟩

theorem decided_unregister (listed : Listed number) (fitting : state.registry.Fitting)
    (name : SourceName) :
    Decided (hardware number) (Registration.unregister (VectorTable.ofNumbering number) name)
      (Needs state (.unregister name)) state := by
  refine .resolve fun source _ => .locked (.find ?_)
  rw [Registry.contains_eq_isSome]
  cases found : state.registry.find? source with
  | none => exact .of_error rfl Bool.false_ne_true
  | some callback => exact .of_ok (run_takeOut listed fitting found _) rfl

theorem decided_release (listed : Listed number) (fitting : state.registry.Fitting)
    (index : UInt8) :
    Decided (hardware number) (Registration.release (VectorTable.ofNumbering number) index)
      (Needs state (.release index)) state := by
  have inRange := (exists_resolve_iff (.gpio index) True).trans (and_iff_left fun _ => trivial)
  refine Decided.congr (.resolve fun source _ => .locked (.find ?_)) inRange
  cases found : state.registry.find? source with
  | none => exact .of_ok ⟨_, rfl⟩ fun _ => trivial
  | some callback => exact .of_ok (run_takeOut listed fitting found _) fun _ => trivial

theorem decided_disable (listed : Listed number) (fitting : state.registry.Fitting)
    (name : SourceName) :
    Decided (hardware number) (Switching.disable (VectorTable.ofNumbering number) name)
      (Needs state (.disable name)) state := by
  refine Decided.congr (.resolve fun source _ => .locked (.find ?_)) (exists_resolve_iff name _)
  have switched := decided_switchOff listed source
    ((state.registry.find? source).map (·.setting)) state
  refine (switched.congr ?_).andThen fun between _ => ⟨_, rfl⟩
  refine forall_congr' fun same => ?_
  rw [same, fitting.isSome_clock_alarm?]

theorem run_registeredAlarm (number : Peripheral → Nat) (state : State Board) :
    state.run (hardware number) Switching.registeredAlarm.run =
      match (state.registry.find? .rtc).bind (·.setting.alarm?) with
      | some alarm => (.ok alarm, state)
      | none => (.error .invalidArgument, state) := by
  unfold Switching.registeredAlarm
  rw [run_andThen_ok _ (run_lift _ _ _), run_find]
  dsimp only
  cases (state.registry.find? .rtc).bind (·.setting.alarm?) <;> rfl

theorem decided_switchOn (fitting : state.registry.Fitting) (source : Source) :
    Decided (hardware number) (Switching.switchOn source)
      (source = .rtc → state.registry.contains .rtc = true ∧ state.board.clock.busy = false)
      state := by
  cases source with
  | gpio line => exact .of_ok ⟨_, run_switch line true state⟩ Source.noConfusion
  | uart channel => exact .of_ok ⟨_, rfl⟩ Source.noConfusion
  | rtc =>
      have asked := run_registeredAlarm number state
      rw [Registry.contains_eq_isSome]
      cases found : state.registry.find? .rtc with
      | none =>
          rw [found] at asked
          exact .of_error (run_andThen_error _ asked) fun h => Bool.false_ne_true (h rfl).1
      | some callback =>
          obtain ⟨alarm, sets⟩ := fitting.alarm? found
          rw [found, Option.bind_some, sets] at asked
          have armed : state.run (hardware number) (Switching.switchOn .rtc).run =
              state.run (hardware number) (clock (.arm alarm.alarm alarm.deadline)) :=
            run_andThen_ok _ asked
          rw [run_arm] at armed
          split at armed
          next busy =>
            exact .of_error armed fun h => Bool.false_ne_true ((h rfl).2.symm.trans busy)
          next free => exact .of_ok ⟨_, armed⟩ fun _ => ⟨rfl, Bool.eq_false_iff.2 free⟩

theorem decided_enable (listed : Listed number) (fitting : state.registry.Fitting)
    (name : SourceName) :
    Decided (hardware number) (Switching.enable (VectorTable.ofNumbering number) name)
      (Needs state (.enable name)) state := by
  refine Decided.congr (.resolve fun source _ => .locked ?_) (exists_resolve_iff name _)
  refine (decided_switchOn fitting source).andThen fun between _ => ?_
  obtain ⟨after, enabled⟩ := enable_accepted listed source.peripheral between
  exact ⟨after, (run_andThen_ok _ enabled).trans rfl⟩

/-- A switching operation is done exactly if it has what it needs; otherwise it is refused and
changes nothing. -/
theorem decided (listed : Listed number) (fitting : state.registry.Fitting)
    {operation : Operation} (switches : Switches operation) :
    let ended := state.run (hardware number)
      (operation.routine (VectorTable.ofNumbering number))
    (ended.1 = .done ↔ Needs state operation) ∧
    (¬ Needs state operation → (∃ fault, ended.1 = .refused fault) ∧ ended.2 = state) := by
  cases operation with
  | unregister name => exact (decided_unregister listed fitting name).outcome
  | release index => exact (decided_release listed fitting index).outcome
  | disable name => exact (decided_disable listed fitting name).outcome
  | enable name => exact (decided_enable listed fitting name).outcome
  | _ => exact switches.elim

end Simulated

end Interrupts
