import Interrupts.Proofs.Run.Kept
import Interrupts.Proofs.Switching.Off

/-! # Sources stay off

A source that is off is turned on by the operations that switch it on, and by calls and
stimuli that set its bits behind the back of the operations. Nothing else does: from one
moment of a session to the next it is carried on that the source is off.
-/

namespace Interrupts.Simulated

open Routine Guarded

variable {number : Peripheral → Nat} {entry : Option Callback} {source : Source}
  {state : State Board}

/-! ## What turns a source on -/

/-- The operation may switch the source on. -/
def SwitchesOn (source : Source) : Operation → Prop
  | .enable name => name.resolve = .ok source
  | .enableAll => True
  | _ => False

theorem not_switchesOn_of_reprograms {operation : Operation} (h : operation.Reprograms) :
    ¬ SwitchesOn source operation := by
  cases operation with
  | enable _ => exact h.elim
  | enableAll => exact h.elim
  | _ => exact id

/-- The call sets a bit that is clear while the source is off. -/
def Sets (number : Peripheral → Nat) (entry : Option Callback) (source : Source) : Call → Prop
  | .lines (.setEnabled line on) => on = true ∧ source = .gpio line
  | .controller (.enable n) => (∀ line, source ≠ .gpio line) ∧ n = number source.peripheral
  | .clock (.arm alarm _) => source = .rtc ∧ alarmOf entry = some alarm
  | _ => False

def Arms (entry : Option Callback) (source : Source) : Stimulus → Prop
  | .setClock mask =>
      source = .rtc ∧ ∃ alarm, alarmOf entry = some alarm ∧ mask.covers alarm.enableBit = true
  | _ => False

/-- The command may turn the source on: an operation that switches it on, or a call or a
stimulus that sets one of its bits behind the back of the operations. -/
def TurnsOn (number : Peripheral → Nat) (entry : Option Callback) (source : Source) :
    Command Adjustment → Prop
  | .step ⟨_, .operate operation⟩ => SwitchesOn source operation
  | .step ⟨_, .call c⟩ => Sets number entry source c
  | .step ⟨_, .adjust (.stimulate stimulus)⟩ => Arms entry source stimulus
  | _ => False

theorem IsOff.call {c : Call} (off : IsOff number entry source state)
    (plain : (Effect.call c).Plain) (tame : ¬ (Effect.call c).Enables) :
    IsOff number entry source (state.respond (hardware number) (.call c)).2 :=
  off.dims (Dims.call plain tame state)

theorem IsOff.of_call {c : Call} (off : IsOff number entry source state)
    (unset : ¬ Sets number entry source c) :
    IsOff number entry source (state.respond (hardware number) (.call c)).2 := by
  -- Three calls can set a bit that is off, and `unset` says that it is none of this source.
  cases c with
  | controller c =>
      cases c with
      | enable n =>
          cases source with
          | gpio line => exact off
          | rtc =>
              have other : n ≠ number .rtc := fun same => unset ⟨fun _ => Source.noConfusion, same⟩
              exact ⟨off.1, Controller.isEnabled_enable other off.2⟩
          | uart channel =>
              have other : n ≠ number (.uart channel) :=
                fun same => unset ⟨fun _ => Source.noConfusion, same⟩
              exact Controller.isEnabled_enable other off
      | _ => exact off.call trivial id
  | lines c =>
      cases c with
      | setEnabled line on =>
          cases source with
          | gpio other =>
              refine ⟨?_, off.2⟩
              change (state.board.lines.enabled.write line.mask on).getLsbD other.val = false
              rw [Word.getLsbD_write, Line.getLsbD_mask]
              split
              next same =>
                have line_eq : line = other := Fin.ext (of_decide_eq_true same)
                exact Bool.eq_false_iff.2 fun h => unset ⟨h, congrArg Source.gpio line_eq.symm⟩
              next => exact off.1
          | rtc => exact off
          | uart channel => exact off
      | configureTrigger line trigger =>
          -- The call is not a plain one, but it writes neither an enable bit nor the table.
          have kept : (state.board.lines.respond (.configureTrigger line trigger)).2.enabled =
              state.board.lines.enabled := by
            rcases state.board.lines.configureTrigger_cases line trigger with h | h
            · rw [h]
            · rw [h]
              simp only [LineBank.program, LineBank.deliverInjected]
              split <;> rfl
          exact off.dims (.of_eq kept rfl rfl rfl)
      | _ => exact off.call trivial id
  | clock c =>
      cases c with
      | arm alarm deadline =>
          cases source with
          | rtc =>
              obtain ⟨⟨other, named, disarmed⟩, masked⟩ := off
              have differs : alarm ≠ other := fun same => unset ⟨rfl, same ▸ named⟩
              exact ⟨⟨other, named, Clock.isArmed_arm differs deadline disarmed⟩, masked⟩
          | gpio line => exact off
          | uart channel => exact off
      | _ => exact off.call trivial id
  | serial channel c => exact off.call trivial id

/-- Unmasking the vector of another source sets no bit of this one. A line has no part in
its vector; no other source shares it. -/
theorem not_sets_enable (distinct : ∀ a b, number a = number b → a = b) {other : Source}
    (differs : other ≠ source) : ¬ Sets number entry source
      (.controller (.enable ((VectorTable.ofNumbering number).number other.peripheral))) := by
  rintro ⟨plain, same⟩
  rw [VectorTable.number_ofNumbering] at same
  have shared := distinct _ _ same
  cases source with
  | gpio line => exact plain line rfl
  | rtc => cases other <;> simp_all [Source.peripheral]
  | uart channel => cases other <;> simp_all [Source.peripheral]

section

variable (number) (react : Reaction Board Adjustment) (entry) (source)

def LeavesOff {α : Type} (routine : Routine α) : Prop :=
  Bridges (hardware number) react
    (fun world : World Board Adjustment => IsOff number entry source world.state) routine

theorem leavesOff_layered :
    Layered (fun α => LeavesOff (α := α) number entry source react)
      (fun α => LeavesOff (α := α) number entry source react) :=
  Bridges.layered react <| (Dims.sectional number).mono State.Keeps.sequential
    fun dims state off => off.dims (dims state)

end

variable {react : Reaction Board Adjustment}

theorem leavesOff_call {c : Call} (unset : ¬ Sets number entry source c) :
    LeavesOff number entry source react (Routine.perform (.call c)) :=
  Bridges.of_quiet (Quiet.perform (.call c) id id) fun _ off => off.of_call unset

theorem leavesOff_switchOn {other : Source} (differs : other ≠ source) :
    LeavesOff number entry source react (Switching.switchOn other).run := by
  have parts := (leavesOff_layered number entry source react).inside
  cases other with
  | gpio line =>
      refine Bridges.of_quiet (Quiet.enabling.lineOn line) fun state off => ?_
      rw [Switching.switchOn, run_switch]
      cases source with
      | gpio own =>
          -- The lines share a register and a table, each with a place of its own.
          have apart : line ≠ own := fun same => differs (congrArg Source.gpio same)
          have bit : line.val ≠ own.val := fun same => apart (Fin.ext same)
          refine ⟨?_, ?_⟩
          · simpa [withLines, Word.getLsbD_write, bit] using off.1
          · rw [LineTable.get_set, if_neg apart]
            exact off.2
      | rtc => exact off
      | uart channel => exact off
  | rtc =>
      apply parts.andThen parts.registeredAlarm
      intro alarm
      exact leavesOff_call fun sets => differs sets.1.symm
  | uart channel => exact parts.succeed ()

/-- Deliveries leave a source off, and so do operations that do not switch it on. -/
theorem leavesOff_operation (distinct : ∀ a b, number a = number b → a = b)
    (operation : Operation) (allowed : operation.Delivers ∨ ¬ SwitchesOn source operation) :
    LeavesOff number entry source react
      (operation.routine (VectorTable.ofNumbering number)) := by
  have layers := leavesOff_layered number entry source react
  -- The walk stops at the operations that switch something on, and at callbacks.
  refine layers.operation _ operation (layers.enrols _ (fun effect enrols => ?_) operation)
    (fun enables => ?_) (layers.delivers _ ?_ operation)
  · obtain ⟨plain, _, tame⟩ := enrols.plain
    exact Bridges.of_quiet (Quiet.enrol effect enrols) fun state off =>
      off.dims (Dims.perform number effect plain tame state)
  · cases operation with
    | enable name =>
        have spared := allowed.resolve_left id
        have differs (other : Source) (named : name.resolve = .ok other) : other ≠ source := by
          rintro rfl
          exact spared named
        refine layers.outside.map (layers.enable _ name ?_ ?_) _
        · exact fun other named => leavesOff_switchOn (differs other named)
        · exact fun other named => leavesOff_call (not_sets_enable distinct (differs other named))
    | enableAll => exact absurd trivial (allowed.resolve_left id)
    | _ => exact enables.elim
  · exact layers.dispatch fun source callback index => Bridges.invoke source callback index
      fun v off => by
        rwa [World.state, v.board_entry, v.registry_entry, v.lines_entry]

theorem IsOff.stimulated {stimulus : Stimulus} (off : IsOff number entry source state)
    (spared : ¬ Arms entry source stimulus) :
    IsOff number entry source { state with board := state.board.stimulate stimulus } := by
  cases stimulus with
  | setClock mask =>
      cases source with
      | rtc =>
          obtain ⟨⟨alarm, named, disarmed⟩, masked⟩ := off
          have apart : mask.covers alarm.enableBit = false :=
            Bool.eq_false_iff.2 fun covered => spared ⟨rfl, alarm, named, covered⟩
          exact ⟨⟨alarm, named, Clock.isArmed_set apart disarmed⟩, masked⟩
      | gpio line => exact off
      | uart channel => exact off
  | pend n =>
      refine off.dims ⟨fun _ h => h, fun _ h => h, fun m h => ?_⟩
      have kept : (state.board.controller.pend n).enabled = state.board.controller.enabled := by
        unfold Controller.pend
        split <;> rfl
      rw [Masked, Controller.isEnabled] at h ⊢
      exact (congrArg (·.getLsbD m) kept).trans h
  | _ => exact off.dims ⟨fun _ h => h, fun _ h => h, fun _ h => h⟩

theorem IsOff.cleared {world : World Board Adjustment}
    (off : IsOff number entry source world.state) :
    IsOff number entry source (Rig.cleared world).state := by
  cases source with
  | gpio line => exact ⟨off.1, by simp [Rig.cleared, World.state, LineSetting.initial]⟩
  | rtc => exact off
  | uart channel => exact off

theorem IsOff.restarted {react : Reaction Board Adjustment} {world after : World Board Adjustment}
    (off : IsOff number entry source world.state)
    (h : ((rig number).execute react .restart world).world = some after) :
    IsOff number entry source after.state := by
  have layers := leavesOff_layered number entry source react
  let vectors := (rig number).hardware.vectors
  have stopped := (layers.stop vectors).final ((Quiet.layered.stop vectors).invocations _ _ _) off
  rw [Rig.eq_of_restart h]
  exact (layers.start vectors).final ((Quiet.layered.start vectors).invocations _ _ _)
    (IsOff.cleared stopped)

theorem off_carries (distinct : ∀ a b, number a = number b → a = b) (entry : Option Callback)
    (source : Source) :
    (rig number).Carries (fun command => ¬ TurnsOn number entry source command)
      fun world => IsOff number entry source world.state where
  began _ _ off := off
  ended _ _ off := off
  operate label operation react allowed := by
    have leaves : LeavesOff number entry source react
        (operation.routine (VectorTable.ofNumbering number)) :=
      leavesOff_operation distinct operation allowed
    exact leaves
  call _ c react world unset off := by
    have apart : ¬ Sets number entry source c := unset
    change IsOff number entry source
      (world.run (hardware number) react (Routine.perform (.call c))).2.state
    rw [(Quiet.perform (.call c) id id).state world]
    exact off.of_call apart
  adjust _ adjustment world spared off := by
    cases adjustment with
    | isEnabled n => exact off
    | stimulate stimulus =>
        have apart : ¬ Arms entry source stimulus := spared
        have kept := IsOff.stimulated off apart
        exact kept
  restart _ _ _ _ h off := off.restarted h

theorem off_of_executed {operation : Operation} {world after : World Board Adjustment}
    (switches : SwitchesOff source (world.registry.find? source) operation)
    (executed : (rig number).act react (.operate operation) world = (.done, after)) :
    IsOff number (world.registry.find? source) source after.state :=
  off_of_done number switches (Rig.state_of_executed switches.silent executed)

/-- Once an operation that switches a source off has succeeded, the source is off. A source
that is off then is off at every later moment of the session until it is turned on: between
commands and inside callbacks, whatever they do meanwhile. Registering a callback and giving a
line another trigger never turn a source on, whether they succeed or fail.

Of the clock this is said of the alarm of one `entry`, which is the same at all these moments:
the entry that the clock had when the operation was executed, or any other whose alarm was off
then. It is not said of the alarm that a callback names which is registered later. -/
theorem off_stays_off (number : Peripheral → Nat) (distinct : ∀ a b, number a = number b → a = b)
    (behaviour : Behaviour Board Adjustment) (budget : Nat)
    (commands : List (Command Adjustment)) (world : World Board Adjustment) (source : Source)
    (label : String) (operation : Operation) (before after : World Board Adjustment)
    (earlier later : List (Moment Board Adjustment))
    (session : (rig number).history behaviour budget commands world =
      earlier ++ .ended (.step ⟨label, .operate operation⟩) before .done after :: later)
    (switches : SwitchesOff source (before.registry.find? source) operation) :
    IsOff number (before.registry.find? source) source after.state ∧
    (∀ entry between moment rest, IsOff number entry source after.state →
      later = between ++ moment :: rest →
      (∀ m ∈ between, m.Spares fun command => ¬ TurnsOn number entry source command) →
        IsOff number entry source moment.world.state) ∧
    ∀ (react : Reaction Board Adjustment) (change : Operation) (start : World Board Adjustment)
      (entry : Option Callback) (target : Source),
      change.Reprograms → IsOff number entry target start.state →
        IsOff number entry target (start.run (hardware number) react
          (change.routine (hardware number).vectors)).2.state := by
  refine ⟨?_, ?_, ?_⟩
  · have ended : .ended (.step ⟨label, .operate operation⟩) before .done after ∈
        (rig number).history behaviour budget commands world :=
      session ▸ List.mem_append_right earlier List.mem_cons_self
    obtain ⟨react, executed⟩ := Rig.executed_history _ ended
    exact off_of_executed switches executed
  · rintro entry between moment rest off rfl spared
    have carried := (off_carries distinct entry source).history behaviour budget commands world
    rw [session] at carried
    exact carried.since.lasts ⟨trivial, off⟩ spared
  · intro react change start entry target reprograms off
    have leaves : LeavesOff number entry target react
        (change.routine (VectorTable.ofNumbering number)) :=
      leavesOff_operation distinct change (.inr (not_switchesOn_of_reprograms reprograms))
    have quiet := Quiet.operation (VectorTable.ofNumbering number) reprograms.silent
    exact leaves.final (quiet.invocations _ _ _) off

/-- A line is switched off and given another trigger from inside its own callback. It is off
when that step ends, and still when the delivery is over. -/
theorem off_stays_off_nested :
    let told : Callback := ⟨.routine, 1, .gpio .risingEdge, 1⟩
    let operate (operation : Operation) : Step Adjustment := ⟨"", .operate operation⟩
    let raise : Step Adjustment := ⟨"", .adjust (.stimulate (.raiseLines 0x8))⟩
    let behaviour : Behaviour Board Adjustment := fun _ _ _ =>
      Body.ofSteps [operate (.disable (.gpio 3)), operate (.retrigger 3 .levelLow)]
    let usual := rig Simulated.number
    let act (step : Step Adjustment) (world : World Board Adjustment) :=
      (usual.act (usual.reentrant behaviour 1) step.action world).2
    let ready := act raise (act (operate (.enable (.gpio 3)))
      (act (operate (.register (.gpio 3) told)) (World.initial Board.initial)))
    ∃ earlier before after between last,
      usual.history behaviour 1 [.step (operate (.dispatch .gpio))] ready =
        earlier ++ .ended (.step (operate (.disable (.gpio 3)))) before .done after ::
          (between ++ [last]) ∧
      IsOff Simulated.number (some told) (.gpio 3) after.state ∧
      IsOff Simulated.number (some told) (.gpio 3) last.world.state := by
  intro told operate raise behaviour usual act ready
  let react := usual.reentrant behaviour 0
  let calls := usual.invoked (usual.reentrant behaviour 1) (.operate (.dispatch .gpio)) ready
  let begun (v : Invocation Board Adjustment) := v.entry.log (.began "")
  have called : calls.length = 1 ∧ ∀ v ∈ calls,
      (usual.act react (.operate (.disable (.gpio 3))) (begun v)).1 = .done ∧
        (begun v).registry.find? (.gpio 3) = some told := by
    decide +kernel
  obtain ⟨v, one⟩ := List.length_eq_one_iff.1 called.1
  obtain ⟨done, registered⟩ := called.2 v (one ▸ List.mem_singleton_self v)
  -- The callback ends two steps, and no callback runs during either.
  let step := usual.stepMoments react (usual.callbackMoments behaviour 0)
  have disabled (idle : World Board Adjustment) :
      step (operate (.disable (.gpio 3))) idle (begun v) = [.begun _ _, .ended _ _ .done _] :=
    (Rig.stepMoments_of_silent id _ _).trans (by rw [done])
  have retriggered (idle world : World Board Adjustment) :
      step (operate (.retrigger 3 .levelLow)) idle world = [.begun _ _, .ended _ _ _ _] :=
    Rig.stepMoments_of_silent id _ _
  have body : usual.callbackMoments behaviour 1 v =
      .entered v.entry :: ((step (operate (.disable (.gpio 3))) v.entry (begun v) ++
        (step (operate (.retrigger 3 .levelLow)) _ _ ++ [])) ++ [.left _]) := rfl
  let ended := usual.act (usual.reentrant behaviour 1) (.operate (.dispatch .gpio)) ready
  have dispatched : usual.commandMoments behaviour 1 (.step (operate (.dispatch .gpio))) ready =
      .begun _ _ :: (calls.flatMap (usual.callbackMoments behaviour 1) ++
        [.ended _ ready ended.1 ended.2]) := rfl
  rw [one, List.flatMap_singleton, body, disabled, retriggered] at dispatched
  have session := (Rig.history_step 1 (operate (.dispatch .gpio)) [] ready).trans
    ((List.append_nil _).trans dispatched)
  have off := off_stays_off Simulated.number number_distinct behaviour 1 _ ready (.gpio 3) ""
    (.disable (.gpio 3)) (begun v) _ [_, _, _] [_, _, _, _] session rfl
  rw [registered] at off
  refine ⟨[_, _, _], _, _, [_, _, _], _, session, off.1, ?_⟩
  refine off.2.1 (some told) [_, _, _] _ [] off.1 rfl ?_
  simp [Moment.Spares, TurnsOn, SwitchesOn, operate]

end Interrupts.Simulated
