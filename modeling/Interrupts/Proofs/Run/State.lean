import Interrupts.Proofs.Run.Leads

/-! # Runs without callbacks

An operation during which no callback runs is a function of the board and the two tables.
It writes the trace and never reads it, and what it takes of the lock it gives back, so
`State.run` can do without either. A routine is quiet if every run of it is such a
run; what is proved of states then holds of worlds with any trace and any callbacks.
-/

namespace Interrupts

open Routine Guarded

/-- What an operation works on. -/
structure State (β : Type) where
  board : β
  registry : Registry
  lines : LineTable

namespace State

variable {β α γ : Type}

/-- The answer to an effect and the state afterwards. Masking, locking and notices leave
the state alone, and so does an invocation as long as the callback is not looked into. -/
def respond (hardware : Hardware β) (effect : Effect) (state : State β) :
    effect.Answer × State β :=
  match effect with
  | .mask => (0, state)
  | .restore _ | .acquire | .release | .note _ | .invoke _ _ _ => ((), state)
  | .find source => (state.registry.find? source, state)
  | .install source callback =>
      let (replaced, registry) := state.registry.install source callback
      (replaced, { state with registry })
  | .erase source =>
      let (removed, registry) := state.registry.erase source
      (removed, { state with registry })
  | .readLine line => (state.lines.get line, state)
  | .writeLine line setting => ((), { state with lines := state.lines.set line setting })
  | .call call =>
      let (reply, board, _) := hardware.respond call state.board
      (reply, { state with board })

def run (hardware : Hardware β) (routine : Routine α) (state : State β) : α × State β :=
  Program.run (respond hardware) routine state

variable (hardware : Hardware β)

@[simp] theorem run_pure (value : α) (state : State β) :
    state.run hardware (pure value) = (value, state) := rfl

@[simp] theorem run_perform (effect : Effect) (state : State β) :
    state.run hardware (Routine.perform effect) = state.respond hardware effect := rfl

@[simp] theorem run_bind (routine : Routine α) (rest : α → Routine γ) (state : State β) :
    state.run hardware (routine >>= rest) =
      (state.run hardware routine).2.run hardware (rest (state.run hardware routine).1) :=
  Program.run_bind _ routine rest state

@[simp] theorem run_map (routine : Routine α) (f : α → γ) (state : State β) :
    state.run hardware (f <$> routine) =
      (f (state.run hardware routine).1, (state.run hardware routine).2) := by
  rw [← bind_pure_comp, run_bind, run_pure]

@[simp] theorem run_critical (body : Routine α) (state : State β) :
    state.run hardware (critical body) = state.run hardware body := by
  simp only [critical, run_bind, run_pure]
  rfl

theorem run_find (source : Source) (state : State β) :
    state.run hardware (Routine.find source) = (state.registry.find? source, state) := rfl

/-! ## Programs that can fail -/

theorem run_andThen (program : Guarded α) (rest : α → Guarded γ) (state : State β) :
    state.run hardware (program >>= rest).run =
      match state.run hardware program.run with
      | (.ok value, after) => after.run hardware (rest value).run
      | (.error fault, after) => (.error fault, after) := by
  rw [ExceptT.run_bind, run_bind]
  obtain ⟨result, after⟩ := state.run hardware program.run
  cases result <;> rfl

theorem run_andThen_ok {program : Guarded α} {rest : α → Guarded γ} {state after : State β}
    {value : α} (h : state.run hardware program.run = (.ok value, after)) :
    state.run hardware (program >>= rest).run = after.run hardware (rest value).run := by
  rw [run_andThen, h]

theorem run_andThen_error {program : Guarded α} {rest : α → Guarded γ} {state after : State β}
    {fault : Fault} (h : state.run hardware program.run = (.error fault, after)) :
    state.run hardware (program >>= rest).run = (.error fault, after) := by
  rw [run_andThen, h]

theorem of_andThen_ok {program : Guarded α} {rest : α → Guarded γ} {state after : State β}
    {value : γ} (h : state.run hardware (program >>= rest).run = (.ok value, after)) :
    ∃ first between, state.run hardware program.run = (.ok first, between) ∧
      between.run hardware (rest first).run = (.ok value, after) := by
  rw [run_andThen] at h
  split at h
  next first between ran => exact ⟨first, between, ran, h⟩
  next => cases h

theorem run_attempt (routine : Routine (Except Fault α)) (state : State β) :
    state.run hardware (attempt routine).run = state.run hardware routine := rfl

theorem run_lift (routine : Routine α) (state : State β) :
    state.run hardware (liftM routine : Guarded α).run =
      (.ok (state.run hardware routine).1, (state.run hardware routine).2) :=
  run_map hardware routine Except.ok state

theorem run_observe (routine : Routine α) (state : State β) :
    state.run hardware (observe routine).run =
      (.ok (state.run hardware routine).1, (state.run hardware routine).2) :=
  run_lift hardware routine state

theorem run_locked (body : Guarded α) (state : State β) :
    state.run hardware (locked body).run = state.run hardware body.run :=
  run_critical hardware body.run state

theorem ok_of_done {program : Guarded Unit} {state after : State β}
    (ran : state.run hardware (Outcome.ofResult <$> program.run) = (.done, after)) :
    state.run hardware program.run = (.ok (), after) := by
  rw [run_map] at ran
  obtain ⟨done, rfl⟩ := Prod.ext_iff.1 ran
  exact Prod.ext (Outcome.ofResult_eq_done.1 done) rfl

theorem run_resolve (name : SourceName) (state : State β) :
    state.run hardware (Guarded.resolve name).run = (name.resolve, state) := by
  cases resolved : name.resolve with
  | ok source => rw [resolve_of_ok resolved]; rfl
  | error fault => rw [run_resolve_of_error resolved, run_map]; rfl

end State

/-- What the world holds besides its trace, its lock and its recordings. -/
def World.state {β η : Type} (world : World β η) : State β :=
  ⟨world.board, world.registry, world.lines⟩

theorem World.state_respond_call {β η : Type} (hardware : Hardware β) (react : Reaction β η)
    (call : Call) (world : World β η) :
    (world.respond hardware react (.call call)).2.state =
      { world.state with board := (hardware.respond call world.board).2.1 } := by
  rw [World.respond_call]
  rfl

/-- The routine invokes no callback and does in any world what it does in the state. -/
structure Quiet {α : Type} (routine : Routine α) : Prop where
  run {β η : Type} (hardware : Hardware β) (react : Reaction β η) (world : World β η) :
    ((world.run hardware react routine).1, (world.run hardware react routine).2.state) =
      world.state.run hardware routine
  invocations {β η : Type} (hardware : Hardware β) (react : Reaction β η) (world : World β η) :
    world.invocations hardware react routine = []

namespace Quiet

variable {β η α : Type} {hardware : Hardware β} {react : Reaction β η}

theorem sequential : Sequential fun α => Quiet (α := α) where
  pure _ := ⟨fun _ _ _ => rfl, fun _ _ _ => rfl⟩
  bind first later := by
    constructor
    · intro β η hardware react world
      have before := first.run hardware react world
      rw [World.run_bind, State.run_bind, ← before]
      exact (later _).run hardware react _
    · intro β η hardware react world
      rw [World.invocations_bind, first.invocations, (later _).invocations]
      rfl

theorem perform (effect : Effect) (quiet : ¬ effect.Invokes) (inside : ¬ effect.Guards) :
    Quiet (Routine.perform effect) := by
  constructor
  · intro β η hardware react world
    cases effect with
    | call c => rw [World.run_perform, World.respond_call]; rfl
    | mask => exact absurd trivial inside
    | restore _ => exact absurd trivial inside
    | acquire => exact absurd trivial inside
    | release => exact absurd trivial inside
    | invoke _ _ _ => exact absurd trivial quiet
    | _ => rfl
  · intro β η hardware react world
    rw [World.invocations_perform]
    cases effect with
    | invoke _ _ _ => exact absurd trivial quiet
    | _ => rfl

theorem critical {body : Routine α} (h : Quiet body) : Quiet (Routine.critical body) := by
  constructor
  · intro β η hardware react world
    rw [World.run_critical, State.run_critical]
    exact h.run hardware react world.entered
  · intro β η hardware react world
    have none (effect : Effect) (quiet : ¬ effect.Invokes) (world : World β η) :
        world.invocations hardware react (Routine.perform effect) = [] := by
      rw [World.invocations_perform]
      cases effect with
      | invoke _ _ _ => exact absurd trivial quiet
      | _ => rfl
    simp only [Routine.critical, World.invocations_bind, World.invocations_pure, h.invocations]
    rw [none _ id, none _ id, none _ id, none _ id]
    rfl

theorem enrol (effect : Effect) (enrols : effect.Enrols) : Quiet (Routine.perform effect) :=
  perform effect enrols.plain.1.quiet enrols.plain.2.1

theorem enabling : Enabling fun α => Quiet (α := α) :=
  sequential.enabling fun effect quiet inside _ => perform effect quiet inside

theorem layered : Layered (fun α => Quiet (α := α)) (fun α => Quiet (α := α)) where
  inside := enabling.toSectional
  outside := sequential
  note notice := perform (.note notice) id id
  call c _ _ := perform (.call c) id id
  critical := critical

theorem operation (vectors : VectorTable) {operation : Operation}
    (silent : ¬ operation.Delivers) : Quiet (operation.routine vectors) :=
  layered.operation vectors operation (layered.enrols vectors enrol operation)
    (layered.enables enabling vectors operation) fun delivers => absurd delivers silent

theorem fst {routine : Routine α} (h : Quiet routine) (world : World β η) :
    (world.run hardware react routine).1 = (world.state.run hardware routine).1 :=
  congrArg Prod.fst (h.run hardware react world)

theorem state {routine : Routine α} (h : Quiet routine) (world : World β η) :
    (world.run hardware react routine).2.state = (world.state.run hardware routine).2 :=
  congrArg Prod.snd (h.run hardware react world)

/-- A quiet program that succeeds in the state is done in the world. -/
theorem done_of_ok {program : Guarded Unit}
    (h : Quiet (Outcome.ofResult <$> program.run)) {world : World β η} {after : State β}
    (ran : world.state.run hardware program.run = (.ok (), after)) :
    (world.run hardware react (Outcome.ofResult <$> program.run)).1 = .done ∧
      (world.run hardware react (Outcome.ofResult <$> program.run)).2.state = after := by
  rw [h.fst world, h.state world, State.run_map, ran]
  exact ⟨rfl, rfl⟩

theorem upholds {routine : Routine α} (h : Quiet routine) {property : State β → Prop}
    (keeps : ∀ state, property state → property (state.run hardware routine).2) :
    Upholds hardware react (fun world => property world.state) routine where
  final {world} holds := by
    rw [h.state world]
    exact keeps _ holds
  entry _ := by simp [h.invocations]

end Quiet

end Interrupts
