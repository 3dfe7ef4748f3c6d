import Interrupts.Proofs.Run.Kept
import Interrupts.Proofs.Switching.Off

/-! # What the global operations settle

The global operations visit the vectors and switch on or off what each of them serves. To
visit an entry settles it: its vector, its lines or its alarms are then as the operation wants
them. No later visit unsettles an entry, and to visit a settled entry again changes nothing.
-/

namespace Interrupts

theorem LineTable.set_get (table : LineTable) (line : Line) :
    table.set line (table.get line) = table := by
  simp [LineTable.set, LineTable.get]

namespace Simulated

open Routine Guarded State

variable {number : Peripheral → Nat} {state after : State Board}

/-! ## Lines -/

/-- The enable bit of the line and its stored flag are both on, or both off. -/
def LineIs (on : Bool) (line : Line) (state : State Board) : Prop :=
  state.board.lines.enabled.getLsbD line.val = on ∧ (state.lines.get line).enabled = on

theorem lineIs_of_switch (number : Peripheral → Nat) {on : Bool} {line : Line}
    (h : state.run (hardware number) (LineControl.switch line on).run = (.ok (), after)) :
    LineIs on line after := by
  cases (run_switch line on state).symm.trans h
  simp [LineIs, withLines, Word.getLsbD_write]

theorem lineIs_switch_other {on : Bool} {line other : Line} (differs : other ≠ line)
    (value : Bool) :
    State.Keeps (hardware number) (LineIs on line) (LineControl.switch other value).run := by
  intro state is
  have apart : other.val ≠ line.val := fun same => differs (Fin.ext same)
  rw [run_switch]
  refine ⟨?_, ?_⟩
  · simpa [withLines, Word.getLsbD_write, apart] using is.1
  · rw [LineTable.get_set, if_neg differs]
    exact is.2

theorem lineIs_switch (on : Bool) (line other : Line) :
    State.Keeps (hardware number) (LineIs on line) (LineControl.switch other on).run := by
  by_cases same : other = line
  · exact fun state _ => same ▸ lineIs_of_switch number (run_switch other on state)
  · exact lineIs_switch_other same on

theorem switch_idle {on : Bool} {line : Line} (is : LineIs on line state) :
    state.run (hardware number) (LineControl.switch line on).run = (.ok (), state) := by
  have flag : { state.lines.get line with enabled := on } = state.lines.get line := by
    rw [← is.2]
  rw [run_switch, Line.write_eq_self is.1, flag, LineTable.set_get]
  rfl

theorem run_switchReady (number : Peripheral → Nat) (state : State Board) :
    state.run (hardware number) (show Guarded Unit from do
        let ready ← LineControl.triggered Line.all
        LineControl.switchAll true ready).run =
      state.run (hardware number)
        (each (fun line => LineControl.switch line true)
          (state.lines.configured.map Prod.fst)).run := by
  rw [run_andThen_ok _ (run_lift _ _ _), run_triggered_all, LineControl.switchAll_eq_each]

/-! ## Alarms -/

/-- The alarm is armed at the latest deadline, and the clock takes orders. -/
structure ArmedLatest (alarm : Alarm) (state : State Board) : Prop where
  armed : state.board.clock.isArmed alarm = true
  deadline : state.board.clock.deadline alarm = Alarm.latestDeadline
  idle : state.board.clock.busy = false

theorem armedLatest_of_arm {alarm : Alarm}
    (h : state.run (hardware number) (clock (.arm alarm Alarm.latestDeadline)) = (.ok (), after)) :
    ArmedLatest alarm after := by
  rw [run_arm] at h
  split at h
  next => cases h
  next free =>
    cases h
    refine ⟨?_, ?_, ?_⟩
    · exact (Clock.isArmed_armed _ _ _ _).trans (by simp)
    · exact (Clock.deadline_armed _ _ _ _).trans (if_pos rfl)
    · have kept : (state.board.clock.armed alarm Alarm.latestDeadline).busy =
          state.board.clock.busy := by cases alarm <;> rfl
      exact kept.trans (Bool.eq_false_iff.2 free)

theorem armedLatest_arm (alarm other : Alarm) :
    State.Keeps (hardware number) (ArmedLatest alarm)
      (clock (.arm other Alarm.latestDeadline)) := by
  intro state latest
  rw [run_arm, latest.idle, if_neg Bool.false_ne_true]
  refine ⟨?_, ?_, ?_⟩
  · exact (Clock.isArmed_armed _ _ _ _).trans (by simp [latest.armed])
  · refine (Clock.deadline_armed _ _ _ _).trans ?_
    split
    · rfl
    · exact latest.deadline
  · exact (show _ = state.board.clock.busy by cases other <;> rfl).trans latest.idle

theorem arm_idle {alarm : Alarm} (latest : ArmedLatest alarm state) :
    state.run (hardware number) (clock (.arm alarm Alarm.latestDeadline)) = (.ok (), state) := by
  rw [run_arm, latest.idle, if_neg Bool.false_ne_true,
    Clock.armed_eq_self latest.armed latest.deadline]
  rfl

theorem disarmed_of_disarm {alarm : Alarm}
    (h : state.run (hardware number) (clock (.disarm alarm)) = (.ok (), after)) :
    Disarmed alarm after := by
  cases h
  exact alarm.covers_without _

theorem disarmed_disarm (alarm other : Alarm) :
    State.Keeps (hardware number) (Disarmed alarm) (clock (.disarm other)) := fun state off =>
  (Dims.perform number (.call (.clock (.disarm other))) trivial id state).alarms alarm off

theorem disarm_idle {alarm : Alarm} (off : Disarmed alarm state) :
    state.run (hardware number) (clock (.disarm alarm)) = (.ok (), state) := by
  rw [run_clock]
  simp only [Clock.respond, Alarm.without_enableBit off]
  rfl

/-! ## Vectors -/

def Unmasked (n : Nat) (state : State Board) : Prop := state.board.controller.isEnabled n = true

def Clear (n : Nat) (state : State Board) : Prop := state.board.controller.isPending n = false

/-- The vector exists and is masked and clear. -/
structure Hushed (n : Nat) (state : State Board) : Prop where
  listed : n < 64
  masked : Masked n state
  clear : Clear n state

theorem refused_of_not_listed (number : Peripheral → Nat) {n : Nat} (unlisted : ¬ n < 64)
    (state : State Board) :
    state.run (hardware number) (controller (.enable n)) = (.error .invalidArgument, state) ∧
    state.run (hardware number) (controller (.clearPending n)) =
      (.error .invalidArgument, state) := by
  constructor
  · rw [run_controller, Controller.respond, if_neg unlisted]
    rfl
  · rw [run_controller, Controller.respond, if_neg unlisted]
    rfl

theorem unmasked_of_enable {n : Nat}
    (h : state.run (hardware number) (controller (.enable n)) = (.ok (), after)) :
    Unmasked n after := by
  by_cases listed : n < 64
  · rw [run_enable number listed] at h
    cases h
    simp [Unmasked, Controller.isEnabled, withController, Controller.getLsbD_bit, listed]
  · cases (refused_of_not_listed number listed state).1.symm.trans h

theorem unmasked_enable (n other : Nat) :
    State.Keeps (hardware number) (Unmasked n) (controller (.enable other)) := by
  intro state on
  by_cases listed : other < 64
  · rw [run_enable number listed]
    rw [Unmasked, Controller.isEnabled] at on ⊢
    simp [withController, on]
  · rw [(refused_of_not_listed number listed state).1]
    exact on

theorem enable_idle {n : Nat} (on : Unmasked n state) :
    state.run (hardware number) (controller (.enable n)) = (.ok (), state) := by
  rw [run_enable number (BitVec.lt_of_getLsbD on), Controller.or_bit_eq_self on]
  rfl

theorem clear_controller (n : Nat) (call : ControllerCall) :
    State.Keeps (hardware number) (Clear n) (controller call) := fun _ clear =>
  Controller.isPending_respond call clear

theorem clear_of_clearPending {n : Nat}
    (h : state.run (hardware number) (controller (.clearPending n)) = (.ok (), after)) :
    n < 64 ∧ Clear n after := by
  by_cases listed : n < 64
  · rw [run_clearPending number listed] at h
    cases h
    refine ⟨listed, ?_⟩
    simp [Clear, Controller.isPending, withController, Controller.getLsbD_bit, listed]
  · cases (refused_of_not_listed number listed state).2.symm.trans h

theorem hushed_of_disable {n : Nat} {between : State Board}
    (cleared : state.run (hardware number) (controller (.clearPending n)) = (.ok (), between))
    (disabled : between.run (hardware number) (controller (.disable n)) = (.ok (), after)) :
    Hushed n after := by
  obtain ⟨listed, clear⟩ := clear_of_clearPending cleared
  have kept : Clear n (between.run (hardware number) (controller (.disable n))).2 :=
    clear_controller n (.disable n) between clear
  rw [disabled] at kept
  exact ⟨listed, (masked_of_disable disabled).1, kept⟩

theorem hushed_controller (n : Nat) {call : ControllerCall} (other : ∀ m, call ≠ .enable m) :
    State.Keeps (hardware number) (Hushed n) (controller call) := fun state hushed =>
  ⟨hushed.listed, Controller.isEnabled_respond other hushed.masked,
    clear_controller n call state hushed.clear⟩

theorem clearPending_idle {n : Nat} (hushed : Hushed n state) :
    state.run (hardware number) (controller (.clearPending n)) = (.ok (), state) := by
  rw [run_clearPending number hushed.listed, Controller.without_bit_eq_self hushed.clear]
  rfl

theorem disable_idle {n : Nat} (hushed : Hushed n state) :
    state.run (hardware number) (controller (.disable n)) = (.ok (), state) := by
  rw [run_disable number hushed.listed, Controller.without_bit_eq_self hushed.masked]
  rfl

/-! ## Entries -/

def ServedOn : Peripheral → State Board → Prop
  | .gpio, state => ∀ line, (state.lines.get line).trigger.isSome = true → LineIs true line state
  | .rtc, state => ∀ alarm, ArmedLatest alarm state
  | .uart _, _ => True

def ServedOff : Peripheral → State Board → Prop
  | .gpio, state => ∀ line, LineIs false line state
  | .rtc, state => ∀ alarm, Disarmed alarm state
  | .uart _, _ => True

/-- The entry is as enabling everything leaves it. -/
def EntryOn (entry : Nat × Peripheral) (state : State Board) : Prop :=
  Unmasked entry.1 state ∧ ServedOn entry.2 state

/-- The entry is as disabling everything leaves it. -/
def EntryOff (entry : Nat × Peripheral) (state : State Board) : Prop :=
  Hushed entry.1 state ∧ ServedOff entry.2 state

theorem trigger_switch (number : Peripheral → Nat) (line : Line) (on : Bool)
    (state : State Board) (other : Line) :
    ((state.run (hardware number) (LineControl.switch line on).run).2.lines.get other).trigger =
      (state.lines.get other).trigger := by
  rw [run_switch, LineTable.get_set]
  split
  next same => rw [same]
  next => rfl

/-- What is served stays on while lines and alarms stay on and triggers stay as they are. -/
theorem ServedOn.mono {peripheral : Peripheral} (on : ServedOn peripheral state)
    (triggers : ∀ line, (after.lines.get line).trigger = (state.lines.get line).trigger)
    (lines : ∀ line, LineIs true line state → LineIs true line after)
    (alarms : ∀ alarm, ArmedLatest alarm state → ArmedLatest alarm after) :
    ServedOn peripheral after := by
  cases peripheral with
  | gpio => exact fun line given => lines line (on line (triggers line ▸ given))
  | rtc => exact fun alarm => alarms alarm (on alarm)
  | uart channel => trivial

theorem entryOn_enableEntry (entry other : Nat × Peripheral) :
    State.Keeps (hardware number) (EntryOn entry) (Global.enableEntry other).run := by
  have same {alarm : Alarm} {state after : State Board}
      (clock : after.board.clock = state.board.clock) (latest : ArmedLatest alarm state) :
      ArmedLatest alarm after :=
    ⟨clock ▸ latest.armed, clock ▸ latest.deadline, clock ▸ latest.idle⟩
  refine Keeps.sequential.enableEntry (fun m state on => ?_) (fun _ _ on => on)
    (fun line state on => ?_) (fun alarm state on => ?_) other
  · exact ⟨unmasked_enable entry.1 m state on.1,
      on.2.mono (fun _ => rfl) (fun _ is => is) fun _ => same rfl⟩
  · exact ⟨on.1, on.2.mono (trigger_switch number line true state)
      (fun other is => lineIs_switch true other line state is) fun _ => same rfl⟩
  · exact ⟨on.1, on.2.mono (fun _ => rfl) (fun _ is => is)
      fun other latest => armedLatest_arm other alarm state latest⟩

theorem ServedOff.mono {peripheral : Peripheral} (off : ServedOff peripheral state)
    (lines : ∀ line, LineIs false line state → LineIs false line after)
    (alarms : ∀ alarm, Disarmed alarm state → Disarmed alarm after) :
    ServedOff peripheral after := by
  cases peripheral with
  | gpio => exact fun line => lines line (off line)
  | rtc => exact fun alarm => alarms alarm (off alarm)
  | uart channel => trivial

theorem entryOff_disableEntry (entry other : Nat × Peripheral) :
    State.Keeps (hardware number) (EntryOff entry) (Global.disableEntry other).run := by
  have vector {call : ControllerCall} (tame : ∀ m, call ≠ .enable m) :
      State.Keeps (hardware number) (EntryOff entry) (controller call) := fun state off =>
    ⟨hushed_controller entry.1 tame state off.1, off.2.mono (fun _ is => is) fun _ h => h⟩
  refine Keeps.sequential.disableEntry (fun _ => vector fun _ => ControllerCall.noConfusion)
    (fun _ => vector fun _ => ControllerCall.noConfusion)
    (fun line state off => ?_) (fun alarm state off => ?_) other
  · exact ⟨⟨off.1.listed, off.1.masked, off.1.clear⟩,
      off.2.mono (fun other is => lineIs_switch false other line state is) fun _ h => h⟩
  · exact ⟨⟨off.1.listed, off.1.masked, off.1.clear⟩,
      off.2.mono (fun _ is => is) fun other h => disarmed_disarm other alarm state h⟩

/-! ## Visits -/

/-- Neither visit changes the registry, a trigger, or whether the clock is busy. -/
structure Retains (before after : State Board) : Prop where
  registry : after.registry = before.registry
  stored (line : Line) : (after.lines.get line).trigger = (before.lines.get line).trigger
  held (line : Line) : after.board.lines.trigger? line = before.board.lines.trigger? line
  busy : after.board.clock.busy = before.board.clock.busy

theorem Retains.refl (state : State Board) : Retains state state :=
  ⟨rfl, fun _ => rfl, fun _ => rfl, rfl⟩

theorem retains_switch (number : Peripheral → Nat) (start : State Board) (line : Line)
    (on : Bool) :
    State.Keeps (hardware number) (Retains start) (LineControl.switch line on).run :=
  fun state kept => ⟨kept.registry, fun other =>
    (trigger_switch number line on state other).trans (kept.stored other), kept.held, kept.busy⟩

theorem retains_enableEntry (number : Peripheral → Nat) (start : State Board)
    (entry : Nat × Peripheral) :
    State.Keeps (hardware number) (Retains start) (Global.enableEntry entry).run := by
  refine Keeps.sequential.enableEntry (fun m state kept => ?_) (fun _ _ kept => kept)
    (fun line => retains_switch number start line true) (fun alarm state kept => ?_) entry
  · exact ⟨kept.registry, kept.stored, kept.held, kept.busy⟩
  · refine ⟨kept.registry, kept.stored, kept.held, ?_⟩
    rw [run_arm]
    split
    · exact kept.busy
    · exact (show _ = state.board.clock.busy by cases alarm <;> rfl).trans kept.busy

theorem retains_disableEntry (number : Peripheral → Nat) (start : State Board)
    (entry : Nat × Peripheral) :
    State.Keeps (hardware number) (Retains start) (Global.disableEntry entry).run := by
  have vector (call : ControllerCall) :
      State.Keeps (hardware number) (Retains start) (controller call) :=
    fun _ kept => ⟨kept.registry, kept.stored, kept.held, kept.busy⟩
  exact Keeps.sequential.disableEntry (fun _ => vector _) (fun _ => vector _)
    (fun line => retains_switch number start line false)
    (fun _ _ kept => ⟨kept.registry, kept.stored, kept.held, kept.busy⟩) entry

theorem entryOn_of_enableEntry {entry : Nat × Peripheral}
    (h : state.run (hardware number) (Global.enableEntry entry).run = (.ok (), after)) :
    EntryOn entry after := by
  obtain ⟨n, peripheral⟩ := entry
  obtain ⟨_, between, unmasked, served⟩ := of_andThen_ok _ h
  have on : Unmasked n between := unmasked_of_enable unmasked
  cases peripheral with
  | gpio =>
      rw [run_switchReady] at served
      have lit : ∀ line ∈ between.lines.configured.map Prod.fst, LineIs true line after :=
        settled_of_run_each (fun _ _ _ => lineIs_of_switch number) (lineIs_switch true) served
      -- The lines are those that had a trigger at first, and switching takes none away.
      have switched (line : Line) : State.Keeps (hardware number)
          (fun state => Unmasked n state ∧ ∀ line,
            (state.lines.get line).trigger = (between.lines.get line).trigger)
          (LineControl.switch line true).run := fun state kept =>
        ⟨kept.1, fun other => (trigger_switch number line true state other).trans (kept.2 other)⟩
      have kept := kept_of_run_each (fun line _ => switched line) ⟨on, fun _ => rfl⟩ served
      exact ⟨kept.1, fun line given =>
        lit line (LineTable.mem_configured.2 (kept.2 line ▸ given))⟩
  | rtc =>
      change between.run (hardware number) (Global.armAll Alarm.all).run = _ at served
      rw [Global.armAll_eq_each] at served
      have armed : ∀ alarm ∈ Alarm.all, ArmedLatest alarm after :=
        settled_of_run_each (fun _ _ _ => armedLatest_of_arm) armedLatest_arm served
      have kept : Unmasked n after := kept_of_run_each (fun _ _ _ on => on) on served
      exact ⟨kept, fun alarm => armed alarm alarm.mem_all⟩
  | uart channel =>
      cases served
      exact ⟨on, trivial⟩

theorem entryOff_of_disableEntry {entry : Nat × Peripheral}
    (h : state.run (hardware number) (Global.disableEntry entry).run = (.ok (), after)) :
    EntryOff entry after := by
  obtain ⟨n, peripheral⟩ := entry
  obtain ⟨_, between, cleared, rest⟩ := of_andThen_ok _ h
  obtain ⟨_, masked, disabled, served⟩ := of_andThen_ok _ rest
  have off : Hushed n masked := hushed_of_disable cleared disabled
  cases peripheral with
  | gpio =>
      change masked.run (hardware number) (LineControl.switchAll false Line.all).run = _ at served
      rw [LineControl.switchAll_eq_each] at served
      have dark : ∀ line ∈ Line.all, LineIs false line after :=
        settled_of_run_each (fun _ _ _ => lineIs_of_switch number) (lineIs_switch false) served
      have kept : Hushed n after :=
        kept_of_run_each (fun _ _ _ off => ⟨off.listed, off.masked, off.clear⟩) off served
      exact ⟨kept, fun line => dark line (List.mem_finRange line)⟩
  | rtc =>
      change masked.run (hardware number) (Global.disarmAll Alarm.all).run = _ at served
      rw [Global.disarmAll_eq_each] at served
      have disarmed : ∀ alarm ∈ Alarm.all, Disarmed alarm after :=
        settled_of_run_each (fun _ _ _ => disarmed_of_disarm) disarmed_disarm served
      have kept : Hushed n after :=
        kept_of_run_each (fun _ _ _ off => ⟨off.listed, off.masked, off.clear⟩) off served
      exact ⟨kept, fun alarm => disarmed alarm alarm.mem_all⟩
  | uart channel =>
      cases served
      exact ⟨off, trivial⟩

theorem enableEntry_idle {entry : Nat × Peripheral} (on : EntryOn entry state) :
    state.run (hardware number) (Global.enableEntry entry).run = (.ok (), state) := by
  obtain ⟨n, peripheral⟩ := entry
  refine (run_andThen_ok _ (enable_idle on.1)).trans ?_
  cases peripheral with
  | gpio =>
      rw [run_switchReady]
      exact run_each_idle fun line given => switch_idle (on.2 line (LineTable.mem_configured.1 given))
  | rtc =>
      dsimp only
      rw [Global.armAll_eq_each]
      exact run_each_idle fun alarm _ => arm_idle (on.2 alarm)
  | uart channel => rfl

theorem disableEntry_idle {entry : Nat × Peripheral} (off : EntryOff entry state) :
    state.run (hardware number) (Global.disableEntry entry).run = (.ok (), state) := by
  obtain ⟨n, peripheral⟩ := entry
  refine (run_andThen_ok _ (clearPending_idle off.1)).trans ?_
  refine (run_andThen_ok _ (disable_idle off.1)).trans ?_
  cases peripheral with
  | gpio =>
      dsimp only
      rw [LineControl.switchAll_eq_each]
      exact run_each_idle fun line _ => switch_idle (off.2 line)
  | rtc =>
      dsimp only
      rw [Global.disarmAll_eq_each]
      exact run_each_idle fun alarm _ => disarm_idle (off.2 alarm)
  | uart channel => rfl

theorem enableEntry_accepted (number : Peripheral → Nat) {entry : Nat × Peripheral}
    (listed : entry.1 < 64) {state : State Board} (idle : state.board.clock.busy = false) :
    ∃ after, state.run (hardware number) (Global.enableEntry entry).run = (.ok (), after) ∧
      after.board.clock.busy = false := by
  obtain ⟨n, peripheral⟩ := entry
  have unmasked := run_enable number listed state
  refine Exists.imp (fun after => And.imp_left (run_andThen_ok _ unmasked).trans) ?_
  cases peripheral with
  | gpio =>
      rw [run_switchReady]
      exact run_each_accepts (fun line _ state idle => ⟨_, run_switch line true state, idle⟩) idle
  | rtc =>
      dsimp only
      rw [Global.armAll_eq_each]
      refine run_each_accepts (fun alarm _ state idle => ?_) idle
      refine ⟨_, (run_arm number alarm _ state).trans (if_neg (Bool.eq_false_iff.1 idle)), ?_⟩
      exact (show _ = state.board.clock.busy by cases alarm <;> rfl).trans idle
  | uart channel => exact ⟨_, rfl, idle⟩

theorem disableEntry_accepted (number : Peripheral → Nat) {entry : Nat × Peripheral}
    (listed : entry.1 < 64) (state : State Board) :
    ∃ after, state.run (hardware number) (Global.disableEntry entry).run = (.ok (), after) := by
  obtain ⟨n, peripheral⟩ := entry
  have cleared := run_clearPending number listed state
  have disabled := run_disable number listed
  refine Exists.imp (fun after ran => (run_andThen_ok _ cleared).trans <|
    (run_andThen_ok _ (disabled _)).trans ran) ?_
  cases peripheral with
  | gpio =>
      dsimp only
      rw [LineControl.switchAll_eq_each]
      exact run_each_ok (fun line _ state => ⟨_, run_switch line false state⟩) _
  | rtc =>
      dsimp only
      rw [Global.disarmAll_eq_each]
      exact run_each_ok (fun alarm _ state => ⟨_, rfl⟩) _
  | uart channel => exact ⟨_, rfl⟩

end Simulated

end Interrupts
