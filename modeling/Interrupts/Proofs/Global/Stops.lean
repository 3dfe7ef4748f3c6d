import Interrupts.Proofs.Global.RoundTrip
import Interrupts.Proofs.Run.Follows

/-! # Where the global operations stop

Each global operation has a fixed list of calls in front of it, which the numbering of the
vectors and the triggers of the lines determine. It goes through that list up to the first
call that hardware refuses, and passes the refusal on. The simulated controller refuses
vectors that are too large, and these come last: so disabling everything and ending the use
of the board mask all others first.
-/

namespace Interrupts

open Routine Guarded

variable {β η : Type}

namespace Global

/-! ## The calls in front -/

/-- The calls by which what a peripheral serves is switched on: the lines that have a
trigger, or both alarms. -/
def callsOn (triggers : Line → Option Trigger) : Peripheral → List Call
  | .gpio => (Line.all.filter fun line => (triggers line).isSome).map fun line =>
      .lines (.setEnabled line true)
  | .rtc => Alarm.all.map fun alarm => .clock (.arm alarm Alarm.latestDeadline)
  | .uart _ => []

def callsOff : Peripheral → List Call
  | .gpio => Line.all.map fun line => .lines (.setEnabled line false)
  | .rtc => Alarm.all.map fun alarm => .clock (.disarm alarm)
  | .uart _ => []

def enableCalls (triggers : Line → Option Trigger) (entry : Nat × Peripheral) : List Call :=
  .controller (.enable entry.1) :: callsOn triggers entry.2

def disableCalls (entry : Nat × Peripheral) : List Call :=
  .controller (.clearPending entry.1) :: .controller (.disable entry.1) :: callsOff entry.2

def maskCalls (entry : Nat × Peripheral) : List Call := [.controller (.disable entry.1)]

section

variable {hardware : Hardware β} {triggers : Line → Option Trigger}

theorem calls_triggered (hardware : Hardware β) (lines : List Line) (state : State β) :
    state.calls hardware (LineControl.triggered lines) = [] := by
  have silent : (LineControl.triggered lines).Only fun effect => ∀ c, effect ≠ .call c :=
    only_sequential.triggered (fun line => ⟨fun _ => Effect.noConfusion, fun _ => trivial⟩) lines
  refine List.filterMap_eq_nil_iff.2 fun asked given => ?_
  have other := silent.forall_mem (State.respond hardware) state asked given
  obtain ⟨effect, between⟩ := asked
  cases effect with
  | call c => exact absurd rfl (other c)
  | _ => rfl

theorem switchReady_pursues :
    Pursues hardware triggers
      (do let ready ← LineControl.triggered Line.all; LineControl.switchAll true ready)
      (callsOn triggers .gpio) := by
  intro state given
  have ready : (Line.all.filter fun line => (state.lines.get line).trigger.isSome) =
      Line.all.filter fun line => (triggers line).isSome :=
    congrArg (Line.all.filter ·) (funext fun line => by rw [given])
  have found : state.run hardware (liftM (LineControl.triggered Line.all) : Guarded _).run =
      (.ok (Line.all.filter fun line => (triggers line).isSome), state) := by
    rw [State.run_lift, State.run_triggered, ready]
  rw [State.run_andThen, State.calls_andThen, State.calls_lift, calls_triggered, found]
  dsimp only
  rw [LineControl.switchAll_eq_each]
  exact Pursues.map (fun line _ => .switch line true) state given

theorem enableEntry_pursues (entry : Nat × Peripheral) :
    Pursues hardware triggers (enableEntry entry) (enableCalls triggers entry) := by
  obtain ⟨n, peripheral⟩ := entry
  have unmask : Pursues hardware triggers (attempt (controller (.enable n)))
      [.controller (.enable n)] :=
    .plain (fun _ => rfl) (fun _ => rfl) (fun _ => rfl) fun _ => rfl
  refine unmask.andThen ?_
  cases peripheral with
  | gpio => exact switchReady_pursues
  | rtc =>
      dsimp only
      rw [armAll_eq_each]
      refine Pursues.map fun alarm _ => ?_
      exact .plain (fun _ => rfl) (fun _ => rfl) (fun _ => rfl) fun _ => rfl
  | uart channel => exact .succeed

theorem mask_pursues (n : Nat) :
    Pursues hardware triggers (attempt (controller (.disable n))) [.controller (.disable n)] :=
  .plain (fun _ => rfl) (fun _ => rfl) (fun _ => rfl) fun _ => rfl

theorem disableEntry_pursues (entry : Nat × Peripheral) :
    Pursues hardware triggers (disableEntry entry) (disableCalls entry) := by
  obtain ⟨n, peripheral⟩ := entry
  have clear : Pursues hardware triggers (attempt (controller (.clearPending n)))
      [.controller (.clearPending n)] :=
    .plain (fun _ => rfl) (fun _ => rfl) (fun _ => rfl) fun _ => rfl
  refine clear.andThen ((mask_pursues n).andThen ?_)
  cases peripheral with
  | gpio =>
      dsimp only
      rw [LineControl.switchAll_eq_each]
      exact Pursues.map fun line _ => .switch line false
  | rtc =>
      dsimp only
      rw [disarmAll_eq_each]
      refine Pursues.map fun alarm _ => ?_
      exact .plain (fun _ => rfl) (fun _ => rfl) (fun _ => rfl) fun _ => rfl
  | uart channel => exact .succeed

/-- A global operation without its lock: a visit of all vectors, and a notice. -/
def tour (vectors : VectorTable) (act : Nat × Peripheral → Guarded Unit) (notice : Notice) :
    Guarded Unit := do
  visit act vectors.entries
  note notice

theorem tour_pursues {act : Nat × Peripheral → Guarded Unit}
    {callsOf : Nat × Peripheral → List Call}
    (pursues : ∀ entry, Pursues hardware triggers (act entry) (callsOf entry))
    (vectors : VectorTable) (notice : Notice) :
    Pursues hardware triggers (tour vectors act notice) (vectors.entries.flatMap callsOf) := by
  refine Pursues.noted ?_ notice
  rw [visit_eq_each]
  exact .each fun entry _ => pursues entry

end

/-! ## The operations -/

/-- The calls of the operation are those in front of it up to the first refusal, which it
passes on; neither the registry nor a trigger changes, and what is stored of a line changes
by its flag, if the bank has switched the line. -/
structure StopsCleanly (hardware : Hardware β) (react : Reaction β η) (program : Guarded Unit)
    (inFront : List Call) (world : World β η) : Prop where
  isPrefix : (world.calls hardware react program.run).map Asked.call <+: inFront
  ending :
    ((world.run hardware react program.run).1 = .ok () ∧
      (world.calls hardware react program.run).map Asked.call = inFront ∧
      ∀ asked ∈ world.calls hardware react program.run, asked.fault? hardware = none) ∨
    ∃ earlier asked fault,
      world.calls hardware react program.run = earlier ++ [asked] ∧
      (∀ before ∈ earlier, before.fault? hardware = none) ∧
      asked.fault? hardware = some fault ∧
      (world.run hardware react program.run).1 = .error fault
  registry : (world.run hardware react program.run).2.registry = world.registry
  trigger (line : Line) : ((world.run hardware react program.run).2.lines.get line).trigger =
    (world.lines.get line).trigger
  stored (line : Line) :
    (∃ on, (∃ asked ∈ world.calls hardware react program.run,
        asked.Switches hardware line on) ∧
      (world.run hardware react program.run).2.lines.get line =
        { world.lines.get line with enabled := on }) ∨
    (∀ asked ∈ world.calls hardware react program.run, ∀ on,
        ¬ asked.Switches hardware line on) ∧
      (world.run hardware react program.run).2.lines.get line = world.lines.get line

section

variable (hardware : Hardware β) (react : Reaction β η)

/-- What every part of a section has in common: it invokes no callback and takes no lock, and
the registry stays as it is. -/
def Contained {α : Type} (routine : Routine α) : Prop :=
  (routine.Only Effect.Inner ∧ Quiet routine) ∧
    ∀ state : State β, (state.run hardware routine).2.registry = state.registry

theorem contained_enabling : Enabling fun α => Contained (α := α) hardware :=
  (Effect.inner_enabling.and Quiet.enabling).and (State.settled hardware)

variable {hardware}

theorem stopsCleanly_of_pursues {program : Guarded Unit} {inFront : List Call}
    (world : World β η) (contained : Contained hardware program.run)
    (pursues : Pursues hardware (fun line => (world.lines.get line).trigger) program inFront) :
    StopsCleanly hardware react program inFront world := by
  obtain ⟨⟨inner, quiet⟩, settled⟩ := contained
  have follows : Follows hardware world.lines inFront (world.calls hardware react program.run)
      (world.run hardware react program.run).1
      (world.run hardware react program.run).2.state.lines := by
    rw [World.calls_state hardware react inner, quiet.fst, quiet.state]
    exact pursues world.state fun _ => rfl
  have registry : (world.run hardware react program.run).2.state.registry = world.registry := by
    rw [quiet.state]
    exact settled world.state
  exact ⟨follows.isPrefix, follows.ending, registry, follows.trigger, follows.stored⟩

theorem StopsCleanly.locked {program : Guarded Unit} {inFront : List Call} {world : World β η}
    (stops : StopsCleanly hardware react program inFront world.entered) :
    StopsCleanly hardware react (Guarded.locked program) inFront world := by
  have calls : world.calls hardware react (Guarded.locked program).run =
      world.entered.calls hardware react program.run := World.calls_critical hardware react _ world
  have run : world.run hardware react (Guarded.locked program).run =
      ((world.entered.run hardware react program.run).1,
        (world.entered.run hardware react program.run).2.exited world.depth) :=
    World.run_critical hardware react _ world
  constructor
  · rw [calls]
    exact stops.isPrefix
  · rw [calls, run]
    exact stops.ending
  · rw [run]
    exact stops.registry
  · rw [run]
    exact stops.trigger
  · rw [calls, run]
    exact stops.stored

theorem tour_stopsCleanly {act : Nat × Peripheral → Guarded Unit}
    {callsOf : Nat × Peripheral → List Call} (world : World β η)
    (contained : ∀ entry, Contained hardware (act entry).run)
    (pursues : ∀ entry, Pursues hardware (fun line => (world.lines.get line).trigger) (act entry)
      (callsOf entry)) (vectors : VectorTable) (notice : Notice) :
    StopsCleanly hardware react (tour vectors act notice) (vectors.entries.flatMap callsOf)
      world := by
  have parts := contained_enabling hardware
  refine stopsCleanly_of_pursues react world ?_ (tour_pursues pursues vectors notice)
  exact parts.andThen (parts.visit contained _) fun _ => parts.note notice

theorem enableAll_stopsCleanly (vectors : VectorTable) (world : World β η) :
    StopsCleanly hardware react (enableAll vectors)
      (vectors.entries.flatMap (enableCalls fun line => (world.lines.get line).trigger)) world :=
  (tour_stopsCleanly react world.entered (contained_enabling hardware).enableEntry
    enableEntry_pursues vectors .allEnabled).locked

theorem disableAll_stopsCleanly (vectors : VectorTable) (world : World β η) :
    StopsCleanly hardware react (disableAll vectors)
      (vectors.entries.flatMap disableCalls) world :=
  (tour_stopsCleanly react world.entered (contained_enabling hardware).disableEntry
    disableEntry_pursues vectors .allDisabled).locked

theorem stop_stopsCleanly (vectors : VectorTable) (world : World β η) :
    StopsCleanly hardware react (stop vectors) (vectors.entries.flatMap maskCalls) world :=
  tour_stopsCleanly react world
    (fun entry => (contained_enabling hardware).call (.controller (.disable entry.1)) trivial id)
    (fun entry => mask_pursues entry.1) vectors .stopped

end

end Global

namespace Simulated

variable {number : Peripheral → Nat} {act : Nat × Peripheral → Guarded Unit}

/-! ## Vectors that the simulated controller does not have -/

/-- To act on an entry masks its vector, if the controller has it, and is refused otherwise.
Nothing is switched on by it. -/
structure Masks (number : Peripheral → Nat) (act : Nat × Peripheral → Guarded Unit) :
    Prop where
  accepts {entry : Nat × Peripheral} (listed : entry.1 < 64) (state : State Board) :
    ∃ after, state.run (hardware number) (act entry).run = (.ok (), after) ∧
      Masked entry.1 after
  refuses {entry : Nat × Peripheral} (unlisted : ¬ entry.1 < 64) (state : State Board) :
    state.run (hardware number) (act entry).run = (.error .invalidArgument, state)
  dims (entry : Nat × Peripheral) (state : State Board) :
    Dims state (state.run (hardware number) (act entry).run).2

theorem masks_disable (number : Peripheral → Nat) :
    Masks number fun entry => attempt (Routine.controller (.disable entry.1)) where
  accepts listed state := by
    have disabled := run_disable number listed state
    exact ⟨_, disabled, (masked_of_disable disabled).1⟩
  refuses unlisted state := by
    rw [State.run_attempt, run_controller, Controller.respond, if_neg unlisted]
    rfl
  dims entry := (Dims.sectional number).call (.controller (.disable entry.1)) trivial id

theorem masks_disableEntry (number : Peripheral → Nat) : Masks number Global.disableEntry where
  accepts listed state := by
    obtain ⟨after, ran⟩ := disableEntry_accepted number listed state
    exact ⟨after, ran, (entryOff_of_disableEntry ran).1.masked⟩
  refuses unlisted state :=
    State.run_andThen_error _ (refused_of_not_listed number unlisted state).2
  dims := (Dims.sectional number).disableEntry

/-- The vectors that the controller has come first, so all of them are masked before any other
is refused. -/
theorem Masks.each (masks : Masks number act) {entries : List (Nat × Peripheral)}
    (sorted : entries.Pairwise fun a b => a.1 ≤ b.1) (state : State Board) :
    ∃ result after, state.run (hardware number) (each act entries).run = (result, after) ∧
      (∀ entry ∈ entries, entry.1 < 64 → Masked entry.1 after) ∧
      ((∀ entry ∈ entries, entry.1 < 64) → result = .ok ()) ∧
      (¬ (∀ entry ∈ entries, entry.1 < 64) → result = .error .invalidArgument) := by
  induction entries generalizing state with
  | nil => exact ⟨.ok (), state, rfl, by simp, fun _ => rfl, fun h => absurd (by simp) h⟩
  | cons entry rest ih =>
      rw [List.pairwise_cons] at sorted
      by_cases listed : entry.1 < 64
      · obtain ⟨between, first, masked⟩ := masks.accepts listed state
        obtain ⟨result, after, later, others, ok, refused⟩ := ih sorted.2 between
        have dims : Dims between (between.run (hardware number) (Guarded.each act rest).run).2 :=
          (Dims.sectional number).each (fun entry _ => masks.dims entry) between
        rw [later] at dims
        simp only [List.forall_mem_cons, listed, true_and]
        exact ⟨result, after, (State.run_andThen_ok _ first).trans later,
          ⟨fun _ => dims.vectors _ masked, others⟩, ok, refused⟩
      · have unlisted : ∀ other ∈ entry :: rest, ¬ other.1 < 64 :=
          List.forall_mem_cons.2 ⟨listed, fun other given => by
            have above := sorted.1 other given
            omega⟩
        refine ⟨.error .invalidArgument, state,
          State.run_andThen_error _ (masks.refuses listed state), ?_, ?_, fun _ => rfl⟩
        · exact fun other given small => absurd small (unlisted other given)
        · exact fun all => absurd (all entry List.mem_cons_self) listed

theorem masked_of_masking {number : Peripheral → Nat} {program : Guarded Unit}
    (masking : program = Global.disableAll (VectorTable.ofNumbering number) ∨
      program = Global.stop (VectorTable.ofNumbering number)) (state : State Board) :
    ∃ result after, state.run (hardware number) program.run = (result, after) ∧
      (∀ peripheral, number peripheral < 64 → Masked (number peripheral) after) ∧
      (Listed number → result = .ok ()) ∧ (¬ Listed number → result = .error .invalidArgument) := by
  let entries := (VectorTable.ofNumbering number).entries
  have visits : ∃ act, Masks number act ∧ state.run (hardware number) program.run =
      state.run (hardware number) (each act entries).run := by
    rcases masking with rfl | rfl
    · exact ⟨_, masks_disableEntry number, run_disableAll number _ state⟩
    · refine ⟨_, masks_disable number, ?_⟩
      rw [← Global.visit_eq_each, ← State.run_locked]
      exact run_noted (hardware number) _ _ state
  obtain ⟨act, masks, ran⟩ := visits
  obtain ⟨result, after, went, masked, ok, refused⟩ :=
    masks.each (VectorTable.sorted_ofNumbering number) state
  have all : (∀ entry ∈ entries, entry.1 < 64) ↔ Listed number := by
    constructor
    · exact fun small peripheral =>
        small (number peripheral, peripheral) (VectorTable.mem_ofNumbering.2 rfl)
    · exact fun listed entry given => VectorTable.mem_ofNumbering.1 given ▸ listed entry.2
  rw [all] at ok refused
  exact ⟨result, after, ran.trans went, fun peripheral =>
    masked (number peripheral, peripheral) (VectorTable.mem_ofNumbering.2 rfl), ok, refused⟩

end Simulated

namespace Global

/-- On a board that gives every peripheral a vector of its own, and whatever it refuses, the
three global operations visit the vectors in strictly ascending number. Each makes the calls in
front of it up to the first one refused, passes that refusal on, and stores exactly the flags
of the lines that the bank has switched. The simulated board refuses these calls only for
vectors that its controller does not have, so ending its use and disabling everything mask all
vectors that it has, refused or not. -/
theorem global_operations_stop (hardware : Hardware β) (react : Reaction β η)
    (world : World β η) (distinct : ∀ a b, hardware.number a = hardware.number b → a = b) :
    let vectors := hardware.vectors
    let triggers line := (world.lines.get line).trigger
    (vectors.entries.Pairwise fun a b => a.1 < b.1) ∧
    (∀ entry, entry ∈ vectors.entries ↔ entry.1 = hardware.number entry.2) ∧
    StopsCleanly hardware react (enableAll vectors)
      (vectors.entries.flatMap (enableCalls triggers)) world ∧
    StopsCleanly hardware react (disableAll vectors)
      (vectors.entries.flatMap disableCalls) world ∧
    StopsCleanly hardware react (stop vectors) (vectors.entries.flatMap maskCalls) world ∧
    ∀ (number : Peripheral → Nat) (react : Reaction Simulated.Board Simulated.Adjustment)
      (world : World Simulated.Board Simulated.Adjustment) (program : Guarded Unit),
      let simulated := Simulated.hardware number
      let ended := world.run simulated react program.run
      program = disableAll simulated.vectors ∨ program = stop simulated.vectors →
        (∀ peripheral, number peripheral < 64 →
          ended.2.board.controller.isEnabled (number peripheral) = false) ∧
        ((∀ peripheral, number peripheral < 64) → ended.1 = .ok ()) ∧
        (¬ (∀ peripheral, number peripheral < 64) → ended.1 = .error .invalidArgument) := by
  intro vectors triggers
  refine ⟨VectorTable.ascending_ofNumbering distinct, fun _ => VectorTable.mem_ofNumbering,
    enableAll_stopsCleanly react vectors world, disableAll_stopsCleanly react vectors world,
    stop_stopsCleanly react vectors world, ?_⟩
  intro number react world program simulated ended masking
  have quiet : Quiet program.run := by
    rcases masking with rfl | rfl
    · exact Quiet.layered.disableAll simulated.vectors
    · exact Quiet.layered.stop simulated.vectors
  obtain ⟨result, after, ran, masked, ok, refused⟩ :=
    Simulated.masked_of_masking masking world.state
  have ends : (ended.1, ended.2.state) = (result, after) := (quiet.run _ react world).trans ran
  obtain ⟨rfl, rfl⟩ := Prod.mk.inj ends
  exact ⟨masked, ok, refused⟩

/-- The clock has a vector that the controller does not have. Ending the use of the board is
refused at that vector, after the others have been masked. -/
theorem global_operations_stop_unlisted :
    let number : Peripheral → Nat
      | .gpio => 24
      | .rtc => 70
      | .uart channel => 14 + channel.val
    let board : Simulated.Board := { Simulated.Board.initial with
      controller := { Simulated.Controller.initial with enabled := BitVec.allOnes 64 } }
    let hardware := Simulated.hardware number
    let world : World Simulated.Board Simulated.Adjustment := World.initial board
    let program := stop hardware.vectors
    let ended := world.run hardware (fun _ _ => id) program.run
    (∀ a b, number a = number b → a = b) ∧ board.controller.isEnabled 24 = true ∧
      (world.calls hardware (fun _ _ => id) program.run).map Asked.call <+:
        hardware.vectors.entries.flatMap maskCalls ∧
      ended.1 = .error .invalidArgument ∧ ended.2.board.controller.isEnabled 24 = false := by
  intro number board hardware world program ended
  have distinct (a b : Peripheral) (same : number a = number b) : a = b := by
    cases a <;> cases b <;> simp [number, Fin.ext_iff] at same ⊢ <;> omega
  obtain ⟨-, -, -, -, stops, masks⟩ :=
    global_operations_stop hardware (fun _ _ => id) world distinct
  obtain ⟨masked, -, refused⟩ := masks number (fun _ _ => id) world program (.inr rfl)
  exact ⟨distinct, by decide, stops.isPrefix, refused fun small => absurd (small .rtc) (by decide),
    masked .gpio (by decide)⟩

end Global

end Interrupts
