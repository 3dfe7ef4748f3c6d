import Interrupts.Proofs.Max32660.WriteAccess

/-! # Alarms are never armed half-programmed

On a clock that holds what is written to it, but for the bits that it changes by itself, every
stage of a call changes the settings in a definite way. Where a call ends depends on which of
its waits is given up, so what it leaves is followed through the list of its stages, with the
settings at which it may stop.
-/

namespace Interrupts.Max32660.Clock

variable {σ : Type}

/-! ## Settings -/

/-- What software sets up on the clock. -/
structure Settings where
  running : Bool
  writable : Bool
  armed : Alarm → Bool
  deadline : Alarm → Word

def Settings.ofWord (w : Word) (deadline : Alarm → Word) : Settings where
  running := w.covers ClockControl.running
  writable := w.covers ClockControl.writeEnable
  armed alarm := w.covers alarm.enableBit
  deadline := deadline

def settings (content : σ → Nat → Word) (state : σ) : Settings :=
  .ofWord (content state control) fun alarm => content state (deadlineRegister alarm)

/-- The bits of the control register that the clock changes by itself. -/
def volatileBits : Word := ClockControl.busy ||| ClockControl.eventFlags

theorem writeEnable_apart : ClockControl.writeEnable &&& volatileBits = 0 := by decide

theorem enableBit_apart (alarm : Alarm) : alarm.enableBit &&& volatileBits = 0 := by
  cases alarm <;> decide

/-- The registers of the clock hold what is written to them. At any access the busy flag and the
event flags may change, and nothing else does. -/
structure HeldOn (bus : Bus σ) (content : σ → Nat → Word) : Prop where
  controlHeld : bus.Holds content control volatileBits
  deadlineHeld (alarm : Alarm) : bus.Holds content (deadlineRegister alarm) 0

namespace Settings

/-- The alarm is as it was. -/
def SameFor (alarm : Alarm) (s t : Settings) : Prop :=
  s.armed alarm = t.armed alarm ∧ s.deadline alarm = t.deadline alarm

def force (s : Settings) (mask : Word) (on : Bool) : Settings where
  running := if mask.covers ClockControl.running then on else s.running
  writable := if mask.covers ClockControl.writeEnable then on else s.writable
  armed alarm := if mask.covers alarm.enableBit then on else s.armed alarm
  deadline := s.deadline

def schedule (s : Settings) (alarm : Alarm) (deadline : Word) : Settings :=
  { s with deadline := Function.update s.deadline alarm deadline }

section Forced

variable (s : Settings) (alarm other : Alarm) (deadline mask : Word) (on : Bool)

@[simp] theorem deadline_force : (s.force mask on).deadline = s.deadline := rfl

@[simp] theorem running_force_writeEnable :
    (s.force ClockControl.writeEnable on).running = s.running := rfl

@[simp] theorem writable_force_writeEnable :
    (s.force ClockControl.writeEnable on).writable = on := rfl

@[simp] theorem armed_force_writeEnable :
    (s.force ClockControl.writeEnable on).armed other = s.armed other := by
  cases other <;> rfl

@[simp] theorem running_force_enableBit :
    (s.force alarm.enableBit on).running = s.running := by
  cases alarm <;> rfl

@[simp] theorem writable_force_enableBit :
    (s.force alarm.enableBit on).writable = s.writable := by
  cases alarm <;> rfl

@[simp] theorem armed_force_enableBit :
    (s.force alarm.enableBit on).armed other = if other = alarm then on else s.armed other := by
  have own : alarm = other ↔ other = alarm := eq_comm
  simp only [force, Alarm.covers_enableBit, decide_eq_true_eq, own]

@[simp] theorem running_schedule : (s.schedule alarm deadline).running = s.running := rfl

@[simp] theorem writable_schedule : (s.schedule alarm deadline).writable = s.writable := rfl

@[simp] theorem armed_schedule : (s.schedule alarm deadline).armed = s.armed := rfl

@[simp] theorem deadline_schedule : (s.schedule alarm deadline).deadline other =
    if other = alarm then deadline else s.deadline other :=
  Function.update_apply ..

end Forced

theorem ofWord_congr {w v : Word} (same : w.without volatileBits = v.without volatileBits)
    (deadline : Alarm → Word) : ofWord w deadline = ofWord v deadline := by
  have bit {mask : Word} (apart : mask &&& volatileBits = 0) : w.covers mask = v.covers mask := by
    rw [← Word.covers_without apart, same, Word.covers_without apart]
  simp only [ofWord, bit (by decide : ClockControl.running &&& volatileBits = 0),
    bit writeEnable_apart, bit (enableBit_apart _)]

theorem ofWord_write (w mask : Word) (on : Bool) (deadline : Alarm → Word) :
    ofWord (w.write mask on) deadline = (ofWord w deadline).force mask on := by
  have enable (alarm : Alarm) : (w.write mask on).covers alarm.enableBit =
      if mask.covers alarm.enableBit then on else w.covers alarm.enableBit := by
    obtain ⟨n, inside, same⟩ := alarm.enableBit_eq
    rw [same, Word.covers_write _ _ inside]
  have running := Word.covers_write w mask (n := 0) (by decide) on
  have writable := Word.covers_write w mask (n := 15) (by decide) on
  rw [ofWord, ClockControl.running, ClockControl.writeEnable, running, writable, funext enable]
  rfl

end Settings

namespace Stage

def apply : Stage → Settings → Settings
  | await, s => s
  | force mask on, s => s.force mask on
  | schedule alarm deadline, s => s.schedule alarm deadline

def Steady (stage : Stage) : Prop := ∀ mask ∈ stage.mask?, mask &&& volatileBits = 0

/-- A deadline is written only while the alarm is off and write access is open. -/
def Guarded : Stage → Settings → Prop
  | schedule alarm _, s => s.armed alarm = false ∧ s.writable = true
  | _, _ => True

end Stage

theorem steady_opening : ∀ stage ∈ opening, stage.Steady := by
  simp [opening, Stage.Steady, Stage.mask?, writeEnable_apart]

theorem steady_closing : closing.Steady := by
  simp [closing, Stage.Steady, Stage.mask?, writeEnable_apart]

theorem Change.steady_stages (alarm : Alarm) (change : Change) :
    ∀ stage ∈ change.stages alarm, stage.Steady := by
  cases change <;> simp [stages, Stage.Steady, Stage.mask?, enableBit_apart]

def goal (stages : List Stage) (s : Settings) : Settings :=
  stages.foldl (fun s stage => stage.apply s) s

/-- The settings at which one of the waits may be given up. -/
def stops : List Stage → Settings → List Settings
  | [], _ => []
  | .await :: rest, s => s :: stops rest s
  | stage :: rest, s => stops rest (stage.apply s)

theorem mem_stops_cons {stage : Stage} {rest : List Stage} {s t : Settings}
    (later : t ∈ stops rest (stage.apply s)) : t ∈ stops (stage :: rest) s := by
  cases stage with
  | await => exact List.mem_cons_of_mem _ later
  | force mask on => exact later
  | schedule alarm deadline => exact later

def AllGuarded : List Stage → Settings → Prop
  | [], _ => True
  | stage :: rest, s => stage.Guarded s ∧ AllGuarded rest (stage.apply s)

/-! ## Stages on a clock that holds its settings -/

variable {α : Type} {bus : Bus σ} {content : σ → Nat → Word}

theorem awaitReady_spares (reads address : Nat) :
    (awaitReadyWithin reads).Only (Access.Spares address) := by
  induction reads with
  | zero => trivial
  | succ reads ih =>
      refine ⟨trivial, fun value => ?_⟩
      change Program.Only _ (if value.covers ClockControl.busy = true then awaitReadyWithin reads
        else pure (.ok ()))
      split
      · exact ih
      · trivial

theorem aligned_control_ne (alarm : Alarm) :
    RegisterFile.aligned control ≠ deadlineRegister alarm := by
  cases alarm <;> decide

theorem aligned_deadline_ne_control (alarm : Alarm) :
    RegisterFile.aligned (deadlineRegister alarm) ≠ control := by
  cases alarm <;> decide

theorem aligned_deadline_ne {alarm other : Alarm} (apart : other ≠ alarm) :
    RegisterFile.aligned (deadlineRegister alarm) ≠ deadlineRegister other := by
  revert apart
  cases alarm <;> cases other <;> decide

namespace HeldOn

theorem deadlines_eq (held : HeldOn bus content) {driver : Driver α}
    (only : ∀ alarm, driver.Only (Access.Spares (deadlineRegister alarm))) (state : σ) :
    (fun alarm => content (bus.run driver state).2 (deadlineRegister alarm)) =
      fun alarm => content state (deadlineRegister alarm) := by
  funext alarm
  have kept := (held.deadlineHeld alarm).run_spares (only alarm) state
  rwa [Word.without_zero, Word.without_zero] at kept

theorem settings_stage (held : HeldOn bus content) {stage : Stage} (steady : stage.Steady)
    (state : σ) :
    settings content (bus.run stage.driver.run state).2 =
      stage.apply (settings content state) := by
  cases stage with
  | await =>
      have waits := awaitReady_spares patience
      have same := held.controlHeld.run_spares (waits control) state
      have deadlines := held.deadlines_eq (fun alarm => waits (deadlineRegister alarm)) state
      exact (Settings.ofWord_congr same _).trans (congrArg _ deadlines)
  | force mask on =>
      have written := held.controlHeld.run_modify (steady mask rfl) on state
      rw [← Word.without_write (steady mask rfl)] at written
      have deadlines := held.deadlines_eq
        (fun alarm => Driver.modify_spares (aligned_control_ne alarm) mask on) state
      refine (Settings.ofWord_congr written _).trans ((congrArg _ deadlines).trans ?_)
      exact Settings.ofWord_write ..
  | schedule alarm deadline =>
      let after := (bus (.write (deadlineRegister alarm) deadline) state).2
      have same := held.controlHeld.spares (.write (deadlineRegister alarm) deadline) state
        (aligned_deadline_ne_control alarm)
      -- The clock changes no bit of a deadline by itself, so it is held as it was written.
      have deadlines : (fun other => content after (deadlineRegister other)) =
          Function.update (fun other => content state (deadlineRegister other)) alarm deadline := by
        funext other
        rw [Function.update_apply]
        split
        next own =>
          subst own
          have stored := (held.deadlineHeld other).stores deadline state
          rwa [Word.without_zero, Word.without_zero] at stored
        next apart =>
          have kept := (held.deadlineHeld other).spares (.write (deadlineRegister alarm) deadline)
            state (aligned_deadline_ne apart)
          rwa [Word.without_zero, Word.without_zero] at kept
      exact (Settings.ofWord_congr same _).trans (congrArg _ deadlines)

variable {stages : List Stage}

/-- Stages that are gone through end at their goal, or where a wait is given up. -/
theorem settings_follow (held : HeldOn bus content) (steady : ∀ stage ∈ stages, stage.Steady)
    (state : σ) :
    let (result, after) := bus.run (follow stages).run state
    (result = .ok () ∧ settings content after = goal stages (settings content state)) ∨
      (result = .error .busy ∧ settings content after ∈ stops stages (settings content state)) := by
  induction stages generalizing state with
  | nil => exact .inl ⟨rfl, rfl⟩
  | cons stage rest ih =>
      rw [List.forall_mem_cons] at steady
      have first := held.settings_stage steady.1 state
      have ends := Leg.result_cases bus ⟨stage, state⟩
      rw [Leg.result] at ends
      rw [follow, Bus.run_andThen]
      generalize bus.run stage.driver.run state = ran at first ends ⊢
      obtain ⟨result, next⟩ := ran
      rcases ends with ⟨ok, -⟩ | ⟨error, waits, -⟩
      · obtain rfl : result = .ok () := ok
        have later := ih steady.2 next
        rw [first] at later
        exact later.imp_right (And.imp_right mem_stops_cons)
      · -- What fails is a wait, and a wait changes nothing.
        obtain rfl : result = .error .busy := error
        obtain rfl : stage = .await := waits
        exact .inr ⟨rfl, List.mem_cons.2 (.inl first)⟩

theorem guarded_legs (held : HeldOn bus content) (steady : ∀ stage ∈ stages, stage.Steady)
    (state : σ) (guarded : AllGuarded stages (settings content state)) :
    ∀ leg ∈ legs bus stages state, leg.stage.Guarded (settings content leg.state) := by
  induction stages generalizing state with
  | nil => exact List.forall_mem_nil _
  | cons stage rest ih =>
      rw [List.forall_mem_cons] at steady
      have first := held.settings_stage steady.1 state
      rw [legs, List.forall_mem_cons]
      refine ⟨guarded.1, ?_⟩
      generalize bus.run stage.driver.run state = ran at first ⊢
      rcases ran with ⟨_ | _, next⟩
      · exact List.forall_mem_nil _
      · exact ih steady.2 next (first ▸ guarded.2)

/-- A call ends with write access closed again behind what its stages leave, or it has changed
nothing. -/
theorem settings_bracketed (held : HeldOn bus content) (steady : ∀ stage ∈ stages, stage.Steady)
    (state : σ) :
    let before := settings content state
    let opened := before.force ClockControl.writeEnable true
    let (result, after) := bus.run (bracketed stages).run state
    (result = .ok () ∧ settings content after = closing.apply (goal stages opened)) ∨
      (result = .error .busy ∧ (settings content after = before ∨
        ∃ stop ∈ stops stages opened, settings content after = closing.apply stop)) := by
  intro before opened
  have opens := held.settings_follow steady_opening state
  rw [run_bracketed]
  generalize bus.run (follow opening).run state = ran at opens ⊢
  obtain ⟨result, ready⟩ := ran
  rcases opens with ⟨ok, reached⟩ | ⟨error, stopped⟩
  · obtain rfl : result = .ok () := ok
    have inside := held.settings_follow steady ready
    rw [show settings content ready = opened from reached] at inside
    have closes := held.settings_stage steady_closing (bus.run (follow stages).run ready).2
    exact inside.imp (fun ⟨ok, done⟩ => ⟨ok, closes.trans (congrArg closing.apply done)⟩)
      fun ⟨busy, stopped⟩ => ⟨busy, .inr ⟨_, stopped, closes⟩⟩
  · obtain rfl : result = .error .busy := error
    exact .inr ⟨rfl, .inl (List.mem_singleton.1 stopped)⟩

theorem guarded_course (held : HeldOn bus content) (steady : ∀ stage ∈ stages, stage.Steady)
    (state : σ) (guarded : AllGuarded stages
      ((settings content state).force ClockControl.writeEnable true)) :
    ∀ leg ∈ course bus stages state, leg.stage.Guarded (settings content leg.state) := by
  have first := held.guarded_legs steady_opening state ⟨trivial, trivial, trivial⟩
  have opens := held.settings_follow steady_opening state
  rw [course, List.forall_mem_append]
  refine ⟨first, ?_⟩
  generalize bus.run (follow opening).run state = ran at opens ⊢
  rcases ran with ⟨_ | _, ready⟩
  · exact List.forall_mem_nil _
  · rcases opens with ⟨-, reached⟩ | ⟨error, -⟩
    · rw [List.forall_mem_append, List.forall_mem_singleton]
      exact ⟨held.guarded_legs steady ready (reached ▸ guarded), trivial⟩
    · cases error

end HeldOn

/-! ## Calls -/

/-- What a call leaves of an alarm, by how it ends. -/
def Change.Leaves (alarm : Alarm) : Change → Except Fault Unit → Settings → Settings → Prop
  | arm deadline, .ok (), _, after => after.armed alarm = true ∧ after.deadline alarm = deadline
  | arm _, .error _, before, after => after.SameFor alarm before ∨ after.armed alarm = false
  | disarm, .ok (), _, after => after.armed alarm = false
  | disarm, .error _, before, after => after.SameFor alarm before

structure Change.Settles (alarm : Alarm) (change : Change) (result : Except Fault Unit)
    (before after : Settings) : Prop where
  result_cases : result = .ok () ∨ result = .error .busy
  leaves : change.Leaves alarm result before after
  others (other : Alarm) : other ≠ alarm → after.SameFor other before
  running : after.running = before.running

namespace Change

variable {alarm : Alarm} {change : Change} {before after : Settings}

theorem settles_of_goal (done : after = closing.apply
    (goal (change.stages alarm) (before.force ClockControl.writeEnable true))) :
    change.Settles alarm (.ok ()) before after := by
  subst done
  cases change <;>
    constructor <;>
    simp +contextual [Leaves, Settings.SameFor, stages, goal, closing, Stage.apply]

theorem settles_of_stop (stopped : after = before ∨
    ∃ stop ∈ stops (change.stages alarm) (before.force ClockControl.writeEnable true),
      after = closing.apply stop) : change.Settles alarm (.error .busy) before after := by
  rcases stopped with rfl | ⟨stop, stopped, rfl⟩
  · cases change <;> constructor <;> simp [Leaves, Settings.SameFor]
  · cases change with
    | arm deadline =>
        -- The alarm is as it was, or it is off, or it is off and has its new deadline.
        rcases (by simpa [stages, stops, Stage.apply] using stopped) with rfl | rfl | rfl
        all_goals
          constructor <;>
          simp +contextual [Leaves, Settings.SameFor, closing, Stage.apply]
    | disarm =>
        obtain rfl : stop = before.force ClockControl.writeEnable true := by
          simpa [stages, stops, Stage.apply] using stopped
        constructor <;> simp [Leaves, Settings.SameFor, closing, Stage.apply]

theorem allGuarded (s : Settings) (writable : s.writable = true) :
    AllGuarded (change.stages alarm) s := by
  cases change <;> simp [stages, AllGuarded, Stage.Guarded, Stage.apply, writable]

theorem schedules {written : Alarm} {deadline : Word}
    (among : .schedule written deadline ∈ opening ++ change.stages alarm ++ [closing]) :
    written = alarm := by
  cases change with
  | arm given =>
      simp only [opening, closing, stages, List.cons_append, List.nil_append, List.mem_cons,
        reduceCtorEq, false_or, Stage.schedule.injEq, List.not_mem_nil, or_false] at among
      exact among.1
  | disarm => simp [opening, closing, stages] at among

end Change

theorem schedules_of_not_spares {leg : Leg σ} {access : Access} {moment : σ} {written : Alarm}
    (asked : (access, moment) ∈ leg.requests bus)
    (writes : ¬ access.Spares (deadlineRegister written)) :
    ∃ deadline, leg.stage = .schedule written deadline ∧ moment = leg.state := by
  obtain ⟨stage, state⟩ := leg
  have spared {driver : Driver (Except Fault Unit)}
      (only : driver.Only (Access.Spares (deadlineRegister written)))
      (asked : (access, moment) ∈ bus.requests driver state) : False :=
    writes (only.forall_mem bus state _ asked)
  cases stage with
  | await => exact (spared (awaitReady_spares patience _) asked).elim
  | force mask on =>
      exact (spared (Driver.modify_spares (aligned_control_ne written) mask on) asked).elim
  | schedule alarm deadline =>
      obtain ⟨rfl, rfl⟩ := Prod.mk.inj (List.mem_singleton.1 asked)
      by_cases own : written = alarm
      · exact ⟨deadline, own ▸ rfl, rfl⟩
      · exact absurd (aligned_deadline_ne own) writes

/-- A call that arms an alarm leaves it armed with exactly its deadline, or if the clock is busy,
as it was or off; one that disarms it leaves it off, or if the clock is busy, as it was. Nothing
becomes of the other alarm or of the counter. No deadline but that of the alarm is written, and
only at moments when it is off and write access is open. -/
theorem alarm_settles (held : HeldOn bus content) (alarm : Alarm) (change : Change) (state : σ) :
    let driven := bus.drive (change.driver alarm) state
    change.Settles alarm driven.1 (settings content state) (settings content driven.2.1) ∧
      ∀ access moment, (access, moment) ∈ bus.requests (change.driver alarm) state →
        ∀ written, ¬ access.Spares (deadlineRegister written) → written = alarm ∧
          (settings content moment).armed alarm = false ∧
          (settings content moment).writable = true := by
  simp only [bus.drive_eq, change.driver_eq]
  have steady := change.steady_stages alarm
  have ends := held.settings_bracketed steady state
  refine ⟨?_, fun access moment asked written writes => ?_⟩
  · generalize bus.run (bracketed (change.stages alarm)).run state = ran at ends ⊢
    obtain ⟨result, after⟩ := ran
    rcases ends with ⟨rfl, done⟩ | ⟨rfl, stopped⟩
    · exact Change.settles_of_goal done
    · exact Change.settles_of_stop stopped
  · rw [requests_bracketed] at asked
    obtain ⟨leg, begun, asked⟩ := List.mem_flatMap.1 asked
    have guarded := held.guarded_course steady state (Change.allGuarded _ rfl) leg begun
    obtain ⟨deadline, schedules, rfl⟩ := schedules_of_not_spares asked writes
    rw [schedules] at guarded
    have among := (course_stages bus (change.stages alarm) state).1.subset
      (List.mem_map_of_mem begun)
    rw [schedules] at among
    obtain rfl : written = alarm := change.schedules among
    exact ⟨rfl, guarded⟩

theorem heldOn_unattended : HeldOn RegisterFile.unattended fun file => file.1.load where
  controlHeld := (RegisterFile.holds_unattended (by decide)).weaken volatileBits
  deadlineHeld alarm := RegisterFile.holds_unattended (by cases alarm <;> decide)

/-- Both alarms are armed and one is given another deadline, while event flags and a bit without
a name are set. -/
theorem alarm_settles_anew :
    let file := ((RegisterFile.empty.store control 0x1000C7).store timeOfDayAlarm 5).store
      subSecondAlarm 9
    let content (file : {file : RegisterFile // file.Unattended}) := file.1.load
    let driven := RegisterFile.unattended.drive ((Change.arm 7).driver .timeOfDay) ⟨file, rfl⟩
    let after := settings content driven.2.1
    driven.1 = .ok () ∧ after.armed .timeOfDay = true ∧ after.deadline .timeOfDay = 7 ∧
      after.armed .subSecond = true ∧ after.deadline .subSecond = 9 ∧ after.running = true := by
  intro file content driven after
  obtain ⟨settles, -⟩ := alarm_settles heldOn_unattended .timeOfDay (.arm 7) ⟨file, rfl⟩
  have done : driven.1 = .ok () := by decide +kernel
  have armed : after.armed .timeOfDay = true ∧ after.deadline .timeOfDay = 7 := by
    have leaves := settles.leaves
    rwa [done] at leaves
  have other := settles.others .subSecond (by decide)
  exact ⟨done, armed.1, armed.2, other.1.trans (by decide +kernel),
    other.2.trans (by decide +kernel), settles.running.trans (by decide +kernel)⟩

end Interrupts.Max32660.Clock
