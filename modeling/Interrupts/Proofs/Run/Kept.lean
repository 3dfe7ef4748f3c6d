import Interrupts.Proofs.Run.Carried

/-! # Properties of the state

A property of the board and the two tables needs no trace and no lock. If each operation
without callbacks keeps it, so does a session: what a delivery does itself is looking up,
reading and clearing, and between two of its callbacks nothing else happens. From this
follow both ways of following a property along a session, with callbacks that keep it
(`Rig.Invariant`) and with callbacks of which nothing is asked (`Rig.Carries`).
-/

namespace Interrupts

variable {β η : Type}

theorem Invocation.state_entry (v : Invocation β η) : v.entry.state = v.world.state := by
  rw [World.state, v.board_entry, v.registry_entry, v.lines_entry, World.state]

namespace State

variable {hardware : Hardware β} {property : State β → Prop}

theorem registry_respond (hardware : Hardware β) {effect : Effect} (settled : ¬ effect.Enrols)
    (state : State β) : (state.respond hardware effect).2.registry = state.registry := by
  cases effect with
  | install _ _ => exact absurd trivial settled
  | erase _ => exact absurd trivial settled
  | _ => rfl

theorem settled (hardware : Hardware β) : Enabling fun α (routine : Routine α) =>
    ∀ state : State β, (state.run hardware routine).2.registry = state.registry := by
  have seq : Sequential fun α (routine : Routine α) =>
      ∀ state : State β, (state.run hardware routine).2.registry = state.registry := {
    pure := fun _ _ => rfl
    bind := fun first later state => by
      rw [run_bind]
      exact (later _ _).trans (first state) }
  exact seq.enabling fun effect _ _ settled state => by
    rw [run_perform, registry_respond hardware settled]

/-- Whatever state with the property the routine begins in, it ends in one with the property. -/
def Keeps {α : Type} (hardware : Hardware β) (property : State β → Prop)
    (routine : Routine α) : Prop :=
  ∀ state, property state → property (state.run hardware routine).2

namespace Keeps

theorem sequential : Sequential fun α => Keeps (α := α) hardware property where
  pure _ _ holds := holds
  bind first later state holds := by
    rw [run_bind]
    exact later _ _ (first state holds)

theorem registry (hardware : Hardware β) (property : Registry → Prop) :
    Enabling fun α => Keeps (α := α) hardware fun state => property state.registry :=
  (settled hardware).mono sequential fun same state holds =>
    (congrArg property (same state)).mpr holds

theorem layered (parts : Sectional fun α => Keeps (α := α) hardware property) :
    Layered (fun α => Keeps (α := α) hardware property)
      (fun α => Keeps (α := α) hardware property) where
  inside := parts
  outside := sequential
  note notice := parts.perform (.note notice) trivial id id id
  call c plain tame := parts.call c plain tame
  critical h state holds := by
    rw [run_critical]
    exact h state holds

end Keeps

/-! ## Going through a list -/

open Guarded

variable {ι : Type} {act : ι → Guarded Unit} {items : List ι}

theorem run_each_accepts
    (accepts : ∀ item ∈ items, ∀ state, property state →
      ∃ after, state.run hardware (act item).run = (.ok (), after) ∧ property after)
    {state : State β} (holds : property state) :
    ∃ after, state.run hardware (each act items).run = (.ok (), after) ∧ property after := by
  induction items generalizing state with
  | nil => exact ⟨state, rfl, holds⟩
  | cons item rest ih =>
      rw [List.forall_mem_cons] at accepts
      obtain ⟨between, first, kept⟩ := accepts.1 state holds
      obtain ⟨after, ran, last⟩ := ih accepts.2 kept
      exact ⟨after, (run_andThen_ok hardware first).trans ran, last⟩

theorem run_each_ok (accepts : ∀ item ∈ items, ∀ state : State β,
      ∃ after, state.run hardware (act item).run = (.ok (), after)) (state : State β) :
    ∃ after, state.run hardware (each act items).run = (.ok (), after) := by
  have always : ∀ item ∈ items, ∀ state : State β, True →
      ∃ after, state.run hardware (act item).run = (.ok (), after) ∧ True := by
    simpa using accepts
  obtain ⟨after, ran, -⟩ := run_each_accepts always trivial
  exact ⟨after, ran⟩

theorem kept_of_run_each (keeps : ∀ item ∈ items, Keeps hardware property (act item).run)
    {state after : State β} {result : Except Fault Unit} (holds : property state)
    (ran : state.run hardware (each act items).run = (result, after)) : property after := by
  have kept := Keeps.sequential.each keeps state holds
  rw [ran] at kept
  exact kept

/-- What an accepted action settles for its item stays settled, if no action of another item
unsettles it. -/
theorem settled_of_run_each {settled : ι → State β → Prop}
    (settles : ∀ item (state after : State β),
      state.run hardware (act item).run = (.ok (), after) → settled item after)
    (keeps : ∀ item other, Keeps hardware (settled item) (act other).run)
    {state after : State β} (ran : state.run hardware (each act items).run = (.ok (), after)) :
    ∀ item ∈ items, settled item after := by
  induction items generalizing state with
  | nil => exact fun _ h => absurd h List.not_mem_nil
  | cons item rest ih =>
      obtain ⟨_, between, first, later⟩ := of_andThen_ok hardware ran
      have settled := settles item state between first
      have kept := kept_of_run_each (fun other _ => keeps item other) settled later
      exact List.forall_mem_cons.2 ⟨kept, ih later⟩

theorem run_each_idle {state : State β}
    (idle : ∀ item ∈ items, state.run hardware (act item).run = (.ok (), state)) :
    state.run hardware (each act items).run = (.ok (), state) := by
  induction items with
  | nil => rfl
  | cons item rest ih =>
      rw [List.forall_mem_cons] at idle
      exact (run_andThen_ok hardware idle.1).trans (ih idle.2)

theorem run_triggered (hardware : Hardware β) (lines : List Line) (state : State β) :
    state.run hardware (LineControl.triggered lines) =
      (lines.filter fun line => (state.lines.get line).trigger.isSome, state) := by
  induction lines with
  | nil => rfl
  | cons line rest ih =>
      rw [LineControl.triggered, run_bind, run_perform]
      dsimp only [respond]
      rw [run_bind, ih, run_pure, List.filter_cons]
      rfl

/-- Reading the lines one by one finds those that the table lists as configured. -/
theorem run_triggered_all (hardware : Hardware β) (state : State β) :
    state.run hardware (LineControl.triggered Line.all) =
      (state.lines.configured.map Prod.fst, state) := by
  rw [run_triggered, LineTable.map_fst_configured]

end State

namespace Bridges

open State

variable {hardware : Hardware β} {react : Reaction β η} {property : State β → Prop}

theorem layered (react : Reaction β η)
    (parts : Sectional fun α => Keeps (α := α) hardware property) :
    Layered
      (fun α => Bridges (α := α) hardware react fun world : World β η => property world.state)
      (fun α => Bridges (α := α) hardware react fun world : World β η => property world.state)
    where
  inside := {
    toSequential := sequential
    perform := fun effect plain inside tame settled =>
      of_quiet (Quiet.perform effect plain.quiet inside)
        (parts.perform effect plain inside tame settled)
    retrigger := fun line trigger =>
      of_quiet (Quiet.enabling.retrigger line trigger) (parts.retrigger line trigger)
    lineOff := fun line => of_quiet (Quiet.enabling.lineOff line) (parts.lineOff line) }
  outside := sequential
  note notice := of_quiet (Quiet.perform (.note notice) id id)
    (parts.perform (.note notice) trivial id id id)
  call c plain tame := of_quiet (Quiet.perform (.call c) id id) (parts.call c plain tame)
  critical := critical

theorem invocation (source : Source) (callback : Callback) (index : Nat) :
    Bridges hardware react (fun world : World β η => property world.state)
      (Routine.perform (.invoke source callback index)) :=
  invoke source callback index fun v holds => v.state_entry ▸ holds

theorem upholds {α : Type} {routine : Routine α} {property : World β η → Prop}
    (h : Bridges hardware react property routine)
    (keeps : ∀ callback index world, property world → property (react callback index world)) :
    Routine.Upholds hardware react property routine := by
  have passes {vs : List (Invocation β η)} {given goal : Prop} (holds : given)
      (bridged : Bridged react property given vs goal) :
      goal ∧ ∀ v ∈ vs, property v.entry := by
    induction vs generalizing given with
    | nil => exact ⟨bridged holds, fun _ h => absurd h List.not_mem_nil⟩
    | cons v rest ih =>
        have entered := bridged.1 holds
        obtain ⟨ends, others⟩ := ih (keeps _ _ _ entered) bridged.2
        exact ⟨ends, List.forall_mem_cons.2 ⟨entered, others⟩⟩
  exact ⟨fun holds => (passes holds (h _)).1, fun holds => (passes holds (h _)).2⟩

end Bridges

namespace Rig

open State

/-- Every permitted command keeps the property, up to the callbacks that it may run. -/
structure Keeps (rig : Rig β η) (permitted : Command η → Prop) (property : State β → Prop) :
    Prop where
  parts : Sectional fun α => State.Keeps (α := α) rig.hardware property
  operate (label : String) (operation : Operation) :
    permitted (.step ⟨label, .operate operation⟩) → ¬ operation.Delivers →
      State.Keeps rig.hardware property (operation.routine rig.hardware.vectors)
  call (label : String) (c : Call) : permitted (.step ⟨label, .call c⟩) →
    State.Keeps rig.hardware property (Routine.perform (.call c))
  adjust (label : String) (adjustment : η) (state : State β) :
    permitted (.step ⟨label, .adjust adjustment⟩) → property state →
      property { state with board := (rig.adjust adjustment state.board).2 }
  restart (state : State β) : permitted .restart → property state →
    property { state with registry := .empty, lines := .initial }

namespace Keeps

variable {rig : Rig β η} {permitted : Command η → Prop} {property : State β → Prop}

theorem bridges (keeps : rig.Keeps permitted property) {label : String} {operation : Operation}
    (react : Reaction β η)
    (allowed : operation.Delivers ∨ permitted (.step ⟨label, .operate operation⟩)) :
    Bridges rig.hardware react (fun world => property world.state)
      (operation.routine rig.hardware.vectors) := by
  have layers := Bridges.layered react keeps.parts
  by_cases delivers : operation.Delivers
  · exact layers.delivers _ (layers.dispatch Bridges.invocation) operation delivers
  · have keeps := keeps.operate label operation (allowed.resolve_left delivers) delivers
    exact Bridges.of_quiet (Quiet.operation _ delivers) keeps

theorem called (keeps : rig.Keeps permitted property) {label : String} {c : Call}
    (react : Reaction β η) {world : World β η} (permit : permitted (.step ⟨label, .call c⟩))
    (holds : property world.state) :
    property (world.respond rig.hardware react (.call c)).2.state := by
  have quiet : Quiet (Routine.perform (.call c)) := Quiet.perform (.call c) id id
  change property (world.run rig.hardware react (Routine.perform (.call c))).2.state
  rw [quiet.state world]
  exact keeps.call label c permit _ holds

theorem restarted (keeps : rig.Keeps permitted property) (react : Reaction β η)
    {world after : World β η} (permit : permitted .restart)
    (h : (rig.execute react .restart world).world = some after)
    (holds : property world.state) : property after.state := by
  let stop := (Global.stop rig.hardware.vectors).run
  have quiet : Quiet stop := Quiet.layered.stop rig.hardware.vectors
  have stopped : (world.run rig.hardware react stop).2.state =
      (world.state.run rig.hardware stop).2 := quiet.state world
  have kept := (State.Keeps.layered keeps.parts).stop rig.hardware.vectors _ holds
  rw [← stopped] at kept
  rw [Rig.eq_of_restart h]
  exact keeps.restart _ permit kept

theorem carries (keeps : rig.Keeps permitted property) :
    rig.Carries permitted fun world => property world.state where
  began _ _ holds := holds
  ended _ _ holds := holds
  operate _ _ react allowed := keeps.bridges react allowed
  call _ _ react _ permit holds := keeps.called react permit holds
  adjust label adjustment world permit holds :=
    keeps.adjust label adjustment world.state permit holds
  restart react _ _ permit h holds := keeps.restarted react permit h holds

theorem invariant (keeps : rig.Keeps permitted property) :
    rig.Invariant permitted fun (_ : Unit) world => property world.state where
  began _ _ _ holds := holds
  ended _ _ _ holds := holds
  operate _ _ react callbacks permit _ :=
    (keeps.bridges react (.inr permit)).upholds (callbacks ())
  call _ _ react _ _ permit holds := keeps.called react permit holds
  adjust label adjustment _ world permit holds :=
    keeps.adjust label adjustment world.state permit holds
  restart react _ _ _ permit h holds := keeps.restarted react permit h holds

/-- What holds of a new board with empty tables holds of every world that a session of
permitted commands reaches. -/
theorem reachable (keeps : rig.Keeps permitted property) {behaviour : Behaviour β η}
    (bodies : ∀ callback index world,
      (behaviour callback index world).Only fun step => permitted (.step step))
    {budget : Nat} {board : β} {commands : List (Command η)} {world : World β η}
    (throughout : ∀ command ∈ commands, permitted command)
    (reached : rig.Reachable behaviour budget board commands world)
    (fresh : property ⟨board, .empty, .initial⟩) : property world.state :=
  keeps.invariant.reaches (j := ()) bodies reached throughout fresh

/-- What every command keeps holds at every moment of a session, if it holds at first. -/
theorem moments (keeps : rig.Keeps permitted property) (all : ∀ command, permitted command)
    {behaviour : Behaviour β η} {budget : Nat} {commands : List (Command η)} {world : World β η}
    (holds : property world.state) :
    ∀ moment ∈ rig.history behaviour budget commands world, property moment.world.state := by
  intro moment hm
  obtain ⟨earlier, later, session⟩ := List.append_of_mem hm
  have carried := keeps.carries.history behaviour budget commands world
  rw [session] at carried
  exact carried.lasts holds fun m _ => m.spares_of_forall all

end Keeps

end Rig

end Interrupts
