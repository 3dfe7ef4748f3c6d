import Interrupts.Proofs.Global.Entries

/-! # The global round trip

On a simulated board that has all the vectors and whose clock is not busy, disabling
everything and enabling everything succeed. Neither forgets anything that the other needs:
callbacks and triggers stay, so the lines that had a trigger before are on afterwards, and no
others.
-/

namespace Interrupts.Simulated

open Routine Guarded State

variable {number : Peripheral → Nat} {state after : State Board}

/-! ## The operations on states -/

theorem run_noted {β : Type} (hardware : Hardware β) (program : Guarded Unit) (notice : Notice)
    (state : State β) :
    state.run hardware (locked do
      program
      note notice).run = state.run hardware program.run := by
  rw [State.run_locked, run_andThen]
  split
  next ran => exact ran.symm ▸ rfl
  next ran => exact ran.symm

theorem run_enableAll (number : Peripheral → Nat) (vectors : VectorTable) (state : State Board) :
    state.run (hardware number) (Global.enableAll vectors).run =
      state.run (hardware number) (each Global.enableEntry vectors.entries).run := by
  rw [Global.enableAll, run_noted, Global.visit_eq_each]

theorem run_disableAll (number : Peripheral → Nat) (vectors : VectorTable) (state : State Board) :
    state.run (hardware number) (Global.disableAll vectors).run =
      state.run (hardware number) (each Global.disableEntry vectors.entries).run := by
  rw [Global.disableAll, run_noted, Global.visit_eq_each]

theorem entryOn_of_enableAll (peripheral : Peripheral)
    (h : state.run (hardware number)
      (Global.enableAll (VectorTable.ofNumbering number)).run = (.ok (), after)) :
    EntryOn (number peripheral, peripheral) after := by
  rw [run_enableAll] at h
  exact settled_of_run_each (fun _ _ _ => entryOn_of_enableEntry) entryOn_enableEntry h _
    (VectorTable.mem_ofNumbering.2 rfl)

theorem entryOff_of_disableAll (peripheral : Peripheral)
    (h : state.run (hardware number)
      (Global.disableAll (VectorTable.ofNumbering number)).run = (.ok (), after)) :
    EntryOff (number peripheral, peripheral) after := by
  rw [run_disableAll] at h
  exact settled_of_run_each (fun _ _ _ => entryOff_of_disableEntry) entryOff_disableEntry h _
    (VectorTable.mem_ofNumbering.2 rfl)

theorem keeps_enableAll {property : State Board → Prop}
    (keeps : ∀ entry, State.Keeps (hardware number) property (Global.enableEntry entry).run)
    (holds : property state)
    (h : state.run (hardware number)
      (Global.enableAll (VectorTable.ofNumbering number)).run = (.ok (), after)) :
    property after := by
  rw [run_enableAll] at h
  exact kept_of_run_each (fun entry _ => keeps entry) holds h

theorem keeps_disableAll {property : State Board → Prop}
    (keeps : ∀ entry, State.Keeps (hardware number) property (Global.disableEntry entry).run)
    (holds : property state)
    (h : state.run (hardware number)
      (Global.disableAll (VectorTable.ofNumbering number)).run = (.ok (), after)) :
    property after := by
  rw [run_disableAll] at h
  exact kept_of_run_each (fun entry _ => keeps entry) holds h

theorem enableAll_accepted (listed : Listed number)
    (idle : state.board.clock.busy = false) :
    ∃ after, state.run (hardware number)
      (Global.enableAll (VectorTable.ofNumbering number)).run = (.ok (), after) := by
  have accepts (entry : Nat × Peripheral)
      (given : entry ∈ (VectorTable.ofNumbering number).entries) (state : State Board)
      (idle : state.board.clock.busy = false) :=
    enableEntry_accepted number (VectorTable.mem_ofNumbering.1 given ▸ listed _) idle
  obtain ⟨after, ran, -⟩ := run_each_accepts accepts idle
  exact ⟨after, (run_enableAll number _ state).trans ran⟩

theorem disableAll_accepted (listed : Listed number)
    (state : State Board) :
    ∃ after, state.run (hardware number)
      (Global.disableAll (VectorTable.ofNumbering number)).run = (.ok (), after) := by
  rw [run_disableAll]
  refine run_each_ok (fun entry given state => ?_) state
  exact disableEntry_accepted number (VectorTable.mem_ofNumbering.1 given ▸ listed _) state

/-- Enabling everything a second time changes nothing. -/
theorem enableAll_again
    (h : state.run (hardware number)
      (Global.enableAll (VectorTable.ofNumbering number)).run = (.ok (), after)) :
    after.run (hardware number)
      (Global.enableAll (VectorTable.ofNumbering number)).run = (.ok (), after) := by
  rw [run_enableAll]
  refine run_each_idle fun entry given => enableEntry_idle ?_
  have on := entryOn_of_enableAll entry.2 h
  rwa [← VectorTable.mem_ofNumbering.1 given] at on

theorem disableAll_again
    (h : state.run (hardware number)
      (Global.disableAll (VectorTable.ofNumbering number)).run = (.ok (), after)) :
    after.run (hardware number)
      (Global.disableAll (VectorTable.ofNumbering number)).run = (.ok (), after) := by
  rw [run_disableAll]
  refine run_each_idle fun entry given => disableEntry_idle ?_
  have off := entryOff_of_disableAll entry.2 h
  rwa [← VectorTable.mem_ofNumbering.1 given] at off

/-! ## What enabling leaves alone -/

theorem clear_enableEntry (n : Nat) (entry : Nat × Peripheral) :
    State.Keeps (hardware number) (Clear n) (Global.enableEntry entry).run :=
  Keeps.sequential.enableEntry (fun m => clear_controller n (.enable m))
    (fun _ _ clear => clear) (fun _ _ clear => clear) (fun _ _ clear => clear) entry

/-- Every line without a trigger is off. -/
def Dark (state : State Board) : Prop :=
  ∀ line, (state.lines.get line).trigger = none → LineIs false line state

theorem dark_switch {line : Line} {state : State Board}
    (given : (state.lines.get line).trigger.isSome = true) (dark : Dark state) :
    Dark (state.run (hardware number) (LineControl.switch line true).run).2 := by
  intro other none
  rw [trigger_switch] at none
  have differs : line ≠ other := by
    rintro rfl
    rw [none] at given
    cases given
  exact lineIs_switch_other differs true state (dark other none)

theorem dark_enableEntry (entry : Nat × Peripheral) :
    State.Keeps (hardware number) Dark (Global.enableEntry entry).run := by
  obtain ⟨n, peripheral⟩ := entry
  refine Keeps.sequential.andThen (fun state dark => dark) fun _ => ?_
  cases peripheral with
  | gpio =>
      intro state dark
      have switched (line : Line) (given : line ∈ state.lines.configured.map Prod.fst) :
          State.Keeps (hardware number) (fun after => Dark after ∧
            ∀ line, (after.lines.get line).trigger = (state.lines.get line).trigger)
          (LineControl.switch line true).run := fun after kept =>
        ⟨dark_switch (kept.2 line ▸ LineTable.mem_configured.1 given) kept.1, fun other =>
          (trigger_switch number line true after other).trans (kept.2 other)⟩
      rw [run_switchReady]
      exact (Keeps.sequential.each switched state ⟨dark, fun _ => rfl⟩).1
  | rtc =>
      dsimp only
      rw [Global.armAll_eq_each]
      exact Keeps.sequential.each fun alarm _ state dark => dark
  | uart channel => exact Keeps.sequential.succeed ()

/-! ## The round trip -/

/-- Every line is off, every vector is masked and clear, and no alarm is armed. -/
structure AllOff (number : Peripheral → Nat) (state : State Board) : Prop where
  lines (line : Line) : LineIs false line state
  masked (peripheral : Peripheral) : Masked (number peripheral) state
  clear (peripheral : Peripheral) : Clear (number peripheral) state
  alarms (alarm : Alarm) : Disarmed alarm state

/-- Exactly the lines that have a trigger are on, every vector is unmasked and clear, and both
alarms are armed at the latest deadline. -/
structure AllOn (number : Peripheral → Nat) (state : State Board) : Prop where
  lines (line : Line) : LineIs (state.lines.get line).trigger.isSome line state
  unmasked (peripheral : Peripheral) : Unmasked (number peripheral) state
  clear (peripheral : Peripheral) : Clear (number peripheral) state
  alarms (alarm : Alarm) : ArmedLatest alarm state

theorem allOff_of_disableAll
    (h : state.run (hardware number)
      (Global.disableAll (VectorTable.ofNumbering number)).run = (.ok (), after)) :
    AllOff number after where
  lines := (entryOff_of_disableAll .gpio h).2
  masked peripheral := (entryOff_of_disableAll peripheral h).1.masked
  clear peripheral := (entryOff_of_disableAll peripheral h).1.clear
  alarms := (entryOff_of_disableAll .rtc h).2

/-- Lines without a trigger and pending vectors are not taken care of by enabling everything:
they have to be off and clear before. -/
theorem AllOff.allOn (off : AllOff number state)
    (h : state.run (hardware number)
      (Global.enableAll (VectorTable.ofNumbering number)).run = (.ok (), after)) :
    AllOn number after where
  lines line := by
    have dark : Dark after := keeps_enableAll dark_enableEntry (fun line _ => off.lines line) h
    cases given : (after.lines.get line).trigger with
    | none => exact dark line given
    | some trigger =>
        exact (entryOn_of_enableAll .gpio h).2 line (Option.isSome_iff_exists.2 ⟨trigger, given⟩)
  unmasked peripheral := (entryOn_of_enableAll peripheral h).1
  clear peripheral := keeps_enableAll (clear_enableEntry _) (off.clear peripheral) h
  alarms := (entryOn_of_enableAll .rtc h).2

/-- An operation that succeeds, and succeeds again without changing anything, does so in any
world that has the state. -/
theorem done_twice {program : Guarded Unit} (quiet : Quiet (Outcome.ofResult <$> program.run))
    (react : Reaction Board Adjustment) {start : World Board Adjustment}
    (first : start.state.run (hardware number) program.run = (.ok (), after))
    (again : after.run (hardware number) program.run = (.ok (), after)) :
    let once := start.run (hardware number) react (Outcome.ofResult <$> program.run)
    let twice := once.2.run (hardware number) react (Outcome.ofResult <$> program.run)
    once.1 = .done ∧ twice.1 = .done ∧ twice.2.state = once.2.state := by
  intro once twice
  obtain ⟨done, same⟩ : once.1 = .done ∧ once.2.state = after := quiet.done_of_ok first
  obtain ⟨done', same'⟩ : twice.1 = .done ∧ twice.2.state = after :=
    quiet.done_of_ok (same.symm ▸ again)
  exact ⟨done, done', same'.trans same.symm⟩

/-- In a world whose clock is not busy, on a board that has the vectors of all peripherals,
disabling everything is done and leaves all off, and enabling everything is done then and
leaves all on. Neither changes a callback or a trigger, so the lines that had a trigger are on
in the end and no others, and a line that was on with a trigger is on with that trigger. Either
operation done a second time changes nothing. -/
theorem global_round_trip (number : Peripheral → Nat) (listed : Listed number)
    (react : Reaction Board Adjustment) (world : World Board Adjustment)
    (idle : world.board.clock.busy = false) :
    let vectors := (hardware number).vectors
    let off := world.run (hardware number) react (Operation.disableAll.routine vectors)
    let on := off.2.run (hardware number) react (Operation.enableAll.routine vectors)
    (off.1 = .done ∧ AllOff number off.2.state ∧ Retains world.state off.2.state) ∧
    (on.1 = .done ∧ AllOn number on.2.state ∧ Retains world.state on.2.state) ∧
    (∀ line, LineIs (world.lines.get line).trigger.isSome line on.2.state) ∧
    (∀ line trigger, world.lines.get line = ⟨some trigger, true⟩ →
      on.2.state.lines.get line = ⟨some trigger, true⟩) ∧
    ∀ operation : Operation, operation = .disableAll ∨ operation = .enableAll →
      ∀ start : World Board Adjustment, start.board.clock.busy = false →
        let once := start.run (hardware number) react (operation.routine vectors)
        let twice := once.2.run (hardware number) react (operation.routine vectors)
        once.1 = .done ∧ twice.1 = .done ∧ twice.2.state = once.2.state := by
  intro vectors off on
  -- Neither operation runs a callback, so both can be looked at on states.
  have quietOff : Quiet (Operation.disableAll.routine vectors) := Quiet.operation vectors id
  have quietOn : Quiet (Operation.enableAll.routine vectors) := Quiet.operation vectors id
  obtain ⟨dark, disabled⟩ := disableAll_accepted listed world.state
  obtain ⟨offDone, offState⟩ : off.1 = .done ∧ off.2.state = dark := quietOff.done_of_ok disabled
  have allOff : AllOff number dark := allOff_of_disableAll disabled
  have retained : Retains world.state dark :=
    keeps_disableAll (retains_disableEntry number world.state) (.refl _) disabled
  obtain ⟨lit, enabled⟩ := enableAll_accepted listed (retained.busy.trans idle)
  obtain ⟨onDone, onState⟩ : on.1 = .done ∧ on.2.state = lit :=
    quietOn.done_of_ok (offState.symm ▸ enabled)
  have allOn : AllOn number lit := allOff.allOn enabled
  have restored : Retains world.state lit :=
    keeps_enableAll (retains_enableEntry number world.state) retained enabled
  have lines (line : Line) : LineIs (world.lines.get line).trigger.isSome line lit :=
    (congrArg Option.isSome (restored.stored line)) ▸ allOn.lines line
  rw [offState, onState]
  refine ⟨⟨offDone, allOff, retained⟩, ⟨onDone, allOn, restored⟩, lines, ?_, ?_⟩
  · intro line trigger stored
    have given : (lit.lines.get line).trigger = some trigger :=
      (restored.stored line).trans (congrArg LineSetting.trigger stored)
    have on' : (lit.lines.get line).enabled = true := by
      simpa [stored] using (lines line).2
    rw [← given, ← on']
  · rintro operation (rfl | rfl) start idle
    · obtain ⟨after, ran⟩ := disableAll_accepted listed start.state
      exact done_twice quietOff react ran (disableAll_again ran)
    · have free : start.state.board.clock.busy = false := idle
      obtain ⟨after, ran⟩ := enableAll_accepted listed free
      exact done_twice quietOn react ran (enableAll_again ran)

/-- Line 3 was on with a trigger, line 5 was on without one, and line 7 had one and was off. In
the end lines 3 and 7 are on. The alarms are armed although the clock has no callback. -/
theorem global_round_trip_lines :
    let operate (operation : Operation) : Step Adjustment := ⟨"", .operate operation⟩
    let steps := [operate (.register (.gpio 3) ⟨.routine, 1, .gpio .risingEdge, 1⟩),
      operate (.enable (.gpio 3)), operate (.enable (.gpio 5)), operate (.retrigger 7 .levelLow),
      ⟨"", .adjust (.stimulate (.pend 24))⟩]
    let usual := rig Simulated.number
    let react := usual.reentrant (fun _ _ _ => Body.ofSteps []) 0
    let world := usual.follow react steps (usual.start react (World.initial Board.initial))
    let vectors := usual.hardware.vectors
    let off := world.run usual.hardware react (Operation.disableAll.routine vectors)
    let on := off.2.run usual.hardware react (Operation.enableAll.routine vectors)
    world.lines.get 5 = ⟨none, true⟩ ∧ world.lines.get 7 = ⟨some .levelLow, false⟩ ∧
      off.1 = .done ∧ on.1 = .done ∧ on.2.state.lines.get 3 = ⟨some .risingEdge, true⟩ ∧
      LineIs false 5 on.2.state ∧ LineIs true 7 on.2.state ∧
      ArmedLatest .timeOfDay on.2.state := by
  intro operate steps usual react world vectors off on
  have third : world.lines.get 3 = ⟨some .risingEdge, true⟩ := by decide +kernel
  have fifth : world.lines.get 5 = ⟨none, true⟩ := by decide +kernel
  have seventh : world.lines.get 7 = ⟨some .levelLow, false⟩ := by decide +kernel
  have idle : world.board.clock.busy = false := by decide +kernel
  obtain ⟨⟨offDone, -⟩, ⟨onDone, allOn, -⟩, lines, back, -⟩ :=
    global_round_trip Simulated.number listed_number react world idle
  have fifth' := lines 5
  have seventh' := lines 7
  rw [fifth] at fifth'
  rw [seventh] at seventh'
  exact ⟨fifth, seventh, offDone, onDone, back 3 _ third, fifth', seventh', allOn.alarms _⟩

end Interrupts.Simulated
