import Interrupts.Proofs.Run.Kept

/-! # What a session has registered

Three operations change the registry, and only if they are done: one that is refused leaves
it as it was, and no callback runs while one of them is under way. A delivery has callbacks
but leaves the registry to them. So the history of a session accounts for the registry: at
every moment it is what it was at the moment before, unless one of the three has just been
done. What is carried on (`Carried`) is broken by a command that begins; here it matters how
the command ended.
-/

namespace Interrupts

open Routine Guarded

variable {β η : Type}

/-! ## Operations -/

namespace Operation

/-- The name whose entry the operation changes, and the entry that it leaves. -/
def entry? : Operation → Option (SourceName × Option Callback)
  | register name callback => some (name, some callback)
  | unregister name => some (name, none)
  | release index => some (.gpio index, none)
  | _ => none

/-- The registry once the operation is done. -/
def enrolled (operation : Operation) (registry : Registry) : Registry :=
  match operation.entry? with
  | some (name, entry) =>
      match name.resolve with
      | .ok source => registry.put source entry
      | .error _ => registry
  | none => registry

theorem enrolled_of_resolve {operation : Operation} {name : SourceName} {entry : Option Callback}
    {source : Source} (changes : operation.entry? = some (name, entry))
    (named : name.resolve = .ok source) (registry : Registry) :
    operation.enrolled registry = registry.put source entry := by
  simp only [enrolled, changes, named]

theorem enrolled_of_none {operation : Operation} (settled : operation.entry? = none)
    (registry : Registry) : operation.enrolled registry = registry := by
  simp only [enrolled, settled]

theorem find?_enrolled {operation : Operation} {source : Source}
    (apart : ∀ name entry, operation.entry? = some (name, entry) → name.resolve ≠ .ok source)
    (registry : Registry) :
    (operation.enrolled registry).find? source = registry.find? source := by
  unfold enrolled
  split
  next name entry changes =>
    split
    next other named =>
      have differs : other ≠ source := by
        rintro rfl
        exact apart name entry changes named
      rw [Registry.find?_put, if_neg differs]
    next => rfl
  next => rfl

end Operation

namespace State

variable {α γ : Type} {hardware : Hardware β} {change : Registry → Registry} {state : State β}

/-- Begun in the state the program changes the registry in this way if it succeeds, and not
at all if it fails. -/
def Alters (hardware : Hardware β) (change : Registry → Registry) (program : Guarded α)
    (state : State β) : Prop :=
  (state.run hardware program.run).2.registry =
    match (state.run hardware program.run).1 with
    | .ok _ => change state.registry
    | .error _ => state.registry

namespace Alters

theorem after {first : Guarded α} {rest : α → Guarded γ}
    (same : (state.run hardware first.run).2.registry = state.registry)
    (later : ∀ value between, Alters hardware change (rest value) between) :
    Alters hardware change (first >>= rest) state := by
  unfold Alters
  rw [run_andThen]
  split
  next value between ran =>
    rw [ran] at same
    rw [← same]
    exact later value between
  next fault between ran =>
    rw [ran] at same
    exact same

theorem andThen {first : Guarded α} {rest : α → Guarded γ}
    (altered : Alters hardware change first state)
    (ends : ∀ value (between : State β), ∃ result,
      between.run hardware (rest value).run = (.ok result, between)) :
    Alters hardware change (first >>= rest) state := by
  unfold Alters at altered ⊢
  rw [run_andThen]
  split
  next value between ran =>
    obtain ⟨result, ended⟩ := ends value between
    rw [ran] at altered
    rw [ended]
    exact altered
  next fault between ran =>
    rw [ran] at altered
    exact altered

theorem locked {body : Guarded α} (h : Alters hardware change body state) :
    Alters hardware change (Guarded.locked body) state := by
  unfold Alters
  rw [run_locked]
  exact h

theorem resolve {name : SourceName} {rest : Source → Guarded α}
    (later : ∀ source, name.resolve = .ok source → Alters hardware change (rest source) state) :
    Alters hardware change (Guarded.resolve name >>= rest) state := by
  have resolved := run_resolve hardware name state
  cases named : name.resolve with
  | ok source =>
      rw [resolve_of_ok named, pure_bind]
      exact later source named
  | error fault =>
      rw [named] at resolved
      unfold Alters
      rw [run_andThen_error hardware resolved]

theorem note (notice : Notice) (between : State β) : ∃ result,
    between.run hardware (liftM (Routine.note notice) : Guarded Unit).run =
      (.ok result, between) := ⟨(), rfl⟩

end Alters

theorem alters_erase (hardware : Hardware β) (source : Source) (state : State β) :
    Alters hardware (·.put source none) (discard (attempt (perform (.erase source)))) state := by
  have ran : state.run hardware (discard (attempt (perform (.erase source)))).run =
      ((state.registry.erase source).1.map fun _ => PUnit.unit,
        { state with registry := (state.registry.erase source).2 }) := by
    change state.run hardware ((fun _ => PUnit.unit) <$>
      attempt (perform (.erase source)) : Guarded PUnit).run = _
    rw [ExceptT.run_map, run_map, run_attempt, run_perform]
    rfl
  unfold Alters
  rw [ran]
  cases found : state.registry.find? source with
  | some callback => rw [Registry.erase_of_find? found]; rfl
  | none => rw [Registry.erase_of_find?_none found]; rfl

theorem alters_takeOut (hardware : Hardware β) (vectors : VectorTable) (source : Source)
    (callback : Callback) (notice : Notice) (state : State β) :
    Alters hardware (·.put source none) (show Guarded Unit from do
      Registration.switchOff vectors source (some callback.setting)
      discard (attempt (perform (.erase source)))
      Routine.note notice) state :=
  .after ((settled hardware).switchOff vectors source _ state) fun _ between =>
    .andThen (alters_erase hardware source between) fun _ => Alters.note notice

theorem alters_register (hardware : Hardware β) (vectors : VectorTable) (name : SourceName)
    (callback : Callback) (state : State β) :
    Alters hardware (Operation.register name callback).enrolled
      (Registration.register vectors name callback) state := by
  have parts := settled hardware
  refine .resolve fun source named => ?_
  rw [funext ((Operation.register name callback).enrolled_of_resolve rfl named)]
  split
  next =>
    refine .locked (.after (parts.call (.controller (.setPriority _ _)) trivial id _) ?_)
    intro _ state
    refine .after (parts.prepare source callback.setting state) fun _ state => ?_
    refine .after (parts.find source state) fun replaced state => ?_
    refine .after (parts.disarmReplaced callback.setting replaced state) fun _ state => ?_
    refine .andThen rfl fun replaced between => ?_
    split <;> exact Alters.note _ between
  next => exact .after rfl fun _ _ => rfl

theorem alters_unregister (hardware : Hardware β) (vectors : VectorTable) (name : SourceName)
    (state : State β) :
    Alters hardware (Operation.unregister name).enrolled
      (Registration.unregister vectors name) state := by
  have parts := settled hardware
  refine .resolve fun source named => ?_
  rw [funext ((Operation.unregister name).enrolled_of_resolve rfl named)]
  refine .locked (.after (parts.find source state) fun entry between => ?_)
  cases entry with
  | none => exact .after rfl fun _ _ => rfl
  | some callback => exact alters_takeOut hardware vectors source callback _ between

/-- A line without a callback has no entry afterwards either. -/
theorem alters_release (hardware : Hardware β) (vectors : VectorTable) (index : UInt8)
    (state : State β) :
    Alters hardware (Operation.release index).enrolled
      (Registration.release vectors index) state := by
  refine .resolve fun source named => ?_
  rw [funext ((Operation.release index).enrolled_of_resolve rfl named)]
  refine .locked ?_
  unfold Alters
  rw [run_andThen_ok hardware (run_lift _ _ _), run_find]
  cases found : state.registry.find? source with
  | none =>
      have kept := state.registry.put_find? source
      rw [found] at kept
      exact kept.symm
  | some callback => exact alters_takeOut hardware vectors source callback _ state

/-- An operation without callbacks that is done leaves the registry with its entry, and any
other leaves it as it was. -/
theorem registry_of_run (hardware : Hardware β) (vectors : VectorTable) {operation : Operation}
    (silent : ¬ operation.Delivers) (state : State β) :
    (state.run hardware (operation.routine vectors)).2.registry =
      if (state.run hardware (operation.routine vectors)).1 = .done then
        operation.enrolled state.registry
      else state.registry := by
  have altered {program : Guarded Unit}
      (h : Alters hardware operation.enrolled program state) :
      (state.run hardware (Outcome.ofResult <$> program.run)).2.registry =
        if (state.run hardware (Outcome.ofResult <$> program.run)).1 = .done then
          operation.enrolled state.registry
        else state.registry := by
    unfold Alters at h
    rw [run_map, h]
    cases (state.run hardware program.run).1 with
    | ok _ => rfl
    | error _ => rfl
  by_cases enrols : operation.Enrols
  · cases operation with
    | register name callback => exact altered (alters_register hardware vectors name callback state)
    | unregister name => exact altered (alters_unregister hardware vectors name state)
    | release index => exact altered (alters_release hardware vectors index state)
    | _ => exact enrols.elim
  · have parts := Keeps.registry hardware (· = state.registry)
    have layers := Keeps.layered parts.toSectional
    have kept := layers.operation vectors operation (fun h => absurd h enrols)
      (layers.enables parts vectors operation) (fun h => absurd h silent) state rfl
    have same : operation.enrolled state.registry = state.registry := by
      refine Operation.enrolled_of_none ?_ _
      cases operation with
      | register _ _ | unregister _ | release _ => exact absurd trivial enrols
      | _ => rfl
    rw [same, ite_self]
    exact kept

end State

/-! ## Moments -/

namespace Moment

/-- The registry at the moment, by what it was at the moment before. -/
def enrolled (registry : Registry) : Moment β η → Registry
  | ended (.step ⟨_, .operate operation⟩) _ outcome _ =>
      if outcome = .done then operation.enrolled registry else registry
  | ended .restart _ _ _ => .empty
  | _ => registry

/-- At the moment an operation was done that gives the source a callback or takes its
callback out, or the tables were emptied. -/
def Replaces (source : Source) : Moment β η → Prop
  | ended (.step ⟨_, .operate operation⟩) _ outcome _ =>
      outcome = .done ∧ ∃ name entry, operation.entry? = some (name, entry) ∧
        name.resolve = .ok source
  | ended .restart _ _ _ => True
  | _ => False

theorem find?_enrolled {moment : Moment β η} {source : Source}
    (spared : ¬ moment.Replaces source) (registry : Registry) :
    (moment.enrolled registry).find? source = registry.find? source := by
  unfold enrolled
  split
  next operation before outcome after =>
    split
    next done =>
      exact operation.find?_enrolled (fun name entry changes named =>
        spared ⟨done, name, entry, changes, named⟩) registry
    next => rfl
  next => exact absurd trivial spared
  next => rfl

end Moment

/-- From the registry at first, each moment has that of the moment before with what has been
done at it, and nothing is done after the last. -/
def Accounts : Registry → List (Moment β η) → Registry → Prop
  | registry, [], last => last = registry
  | registry, moment :: rest, last =>
      moment.world.registry = moment.enrolled registry ∧ Accounts moment.world.registry rest last

namespace Accounts

variable {registry between last : Registry} {react : Reaction β η}
  {inside : Invocation β η → List (Moment β η)}

theorem append {moments others : List (Moment β η)} (first : Accounts registry moments between)
    (later : Accounts between others last) : Accounts registry (moments ++ others) last := by
  induction moments generalizing registry with
  | nil => exact first ▸ later
  | cons moment rest ih => exact ⟨first.1, ih first.2⟩

theorem flatMap {vs : List (Invocation β η)}
    (bridged : ∀ r, Bridged react (fun world => world.registry = r) (registry = r) vs (last = r))
    (accounted : ∀ v, Accounts v.entry.registry (inside v) (v.outcome react).registry) :
    Accounts registry (vs.flatMap inside) last := by
  induction vs generalizing registry with
  | nil => exact bridged registry rfl
  | cons v rest ih =>
      have entered : v.entry.registry = registry := (bridged registry).1 rfl
      have first := accounted v
      rw [entered] at first
      exact first.append (ih fun r => (bridged r).2)

theorem since {earlier later : List (Moment β η)} {moment : Moment β η}
    (h : Accounts registry (earlier ++ moment :: later) last) :
    ∃ before, moment.world.registry = moment.enrolled before ∧
      Accounts moment.world.registry later last := by
  induction earlier generalizing registry with
  | nil => exact ⟨registry, h⟩
  | cons first rest ih => exact ih h.2

theorem find?_eq {source : Source} {moments later : List (Moment β η)} {moment : Moment β η}
    (h : Accounts moment.world.registry (moments ++ later) last)
    (spared : ∀ m ∈ moments, ¬ m.Replaces source) :
    (moments.getLastD moment).world.registry.find? source =
      moment.world.registry.find? source := by
  induction moments generalizing moment with
  | nil => rfl
  | cons next rest ih =>
      rw [List.forall_mem_cons] at spared
      rw [List.getLastD_cons, ih h.2 spared.2, h.1, Moment.find?_enrolled spared.1]

end Accounts

/-! ## Sessions -/

namespace Rig

variable (rig : Rig β η) (behaviour : Behaviour β η) {react : Reaction β η}
  {inside : Invocation β η → List (Moment β η)}

theorem bridges_registry (react : Reaction β η) {operation : Operation}
    (delivers : operation.Delivers) (registry : Registry) :
    Bridges rig.hardware react (fun world => world.registry = registry)
      (operation.routine rig.hardware.vectors) := by
  have parts := State.Keeps.registry rig.hardware (· = registry)
  have layers := Bridges.layered react parts.toSectional
  exact layers.delivers _ (layers.dispatch fun source callback index =>
    Bridges.invoke source callback index fun v same => v.registry_entry.trans same) operation
      delivers

theorem enrolled_of_delivers {operation : Operation} (delivers : operation.Delivers)
    (registry : Registry) : operation.enrolled registry = registry := by
  cases operation with
  | handle _ | dispatch _ => rfl
  | _ => exact delivers.elim

theorem accounts_stepMoments
    (accounted : ∀ v, Accounts v.entry.registry (inside v) (v.outcome react).registry)
    (step : Step η) {idle world : World β η} (same : idle.registry = world.registry) :
    Accounts idle.registry (rig.stepMoments react inside step idle world)
      (rig.act react step.action world).2.registry := by
  refine ⟨rfl, ?_⟩
  change Accounts idle.registry _ _
  rw [same]
  obtain ⟨label, action⟩ := step
  cases action with
  | operate operation =>
      by_cases delivers : operation.Delivers
      · -- The callbacks account for the registry, and the delivery adds nothing.
        refine .append (.flatMap (fun r => rig.bridges_registry react delivers r world) accounted)
          ⟨?_, rfl⟩
        simp only [Moment.enrolled, Moment.world, enrolled_of_delivers delivers, ite_self]
      · have quiet := Quiet.operation rig.hardware.vectors delivers
        have altered := State.registry_of_run rig.hardware rig.hardware.vectors delivers world.state
        rw [← quiet.run rig.hardware react world] at altered
        rw [Rig.invoked, quiet.invocations]
        exact ⟨altered, rfl⟩
  | call c =>
      have kept : (world.respond rig.hardware react (.call c)).2.registry = world.registry := by
        rw [World.respond_call]
      exact ⟨kept, rfl⟩
  | adjust adjustment => exact ⟨rfl, rfl⟩
  | vectors => exact ⟨rfl, rfl⟩
  | recording recorder => exact ⟨rfl, rfl⟩

theorem accounts_bodyMoments
    (accounted : ∀ v, Accounts v.entry.registry (inside v) (v.outcome react).registry)
    (body : Body η) (world : World β η) :
    Accounts world.registry
      ((Program.requests (rig.actInside react) body world).flatMap fun x =>
        rig.stepMoments react inside x.1 x.2 (x.2.log (.began x.1.label)))
      (Program.run (rig.actInside react) body world).2.registry := by
  induction body generalizing world with
  | done value => rfl
  | ask step next ih =>
      have first := rig.accounts_stepMoments accounted step
        (Eq.refl (world.log (.began step.label)).registry)
      have later := ih (rig.actInside react step world).1 (rig.actInside react step world).2
      exact first.append later

theorem accounts_callbackMoments (budget : Nat) (v : Invocation β η) :
    Accounts v.entry.registry (rig.callbackMoments behaviour budget v)
      (v.outcome (rig.reentrant behaviour budget)).registry := by
  induction budget generalizing v with
  | zero => exact ⟨rfl, rfl, rfl⟩
  | succ budget ih =>
      have body := rig.accounts_bodyMoments ih (behaviour v.callback v.index v.entry) v.entry
      exact ⟨rfl, body.append ⟨rfl, rfl⟩⟩

variable {rig} in
theorem registry_of_restart {world after : World β η}
    (h : (rig.execute react .restart world).world = some after) : after.registry = .empty := by
  rw [eq_of_restart h]
  rfl

/-- The history of a session accounts for the registry. -/
theorem accounts_history (budget : Nat) (commands : List (Command η)) (world : World β η) :
    ∃ last, Accounts world.registry (rig.history behaviour budget commands world) last := by
  induction commands generalizing world with
  | nil => exact ⟨_, rfl⟩
  | cons command rest ih =>
      rw [history]
      cases command with
      | step step =>
          obtain ⟨last, later⟩ := ih (rig.act (rig.reentrant behaviour budget) step.action world).2
          have first := rig.accounts_stepMoments (rig.accounts_callbackMoments behaviour budget)
            step (Eq.refl world.registry)
          exact ⟨last, first.append later⟩
      | restart =>
          rw [commandMoments]
          cases restarted : (rig.execute (rig.reentrant behaviour budget) .restart world).world with
          | none => exact ⟨_, rfl, rfl⟩
          | some after =>
              obtain ⟨last, later⟩ := ih after
              exact ⟨last, rfl, registry_of_restart restarted, later⟩

variable {rig behaviour} in
/-- A callback that was registered for a source is found there at every later moment, until
the source is given another one or its callback is taken out. -/
theorem find?_of_history {budget : Nat} {commands : List (Command η)} {world : World β η}
    {name : SourceName} {callback : Callback} {label : String} {before after : World β η}
    {earlier between later : List (Moment β η)} {source : Source}
    (session : rig.history behaviour budget commands world =
      earlier ++ .ended (.step ⟨label, .operate (.register name callback)⟩) before .done after ::
        (between ++ later))
    (named : name.resolve = .ok source)
    (spared : ∀ moment ∈ between, ¬ moment.Replaces source) :
    (between.getLastD (.ended (.step ⟨label, .operate (.register name callback)⟩) before .done
      after)).world.registry.find? source = some callback := by
  obtain ⟨last, accounts⟩ := rig.accounts_history behaviour budget commands world
  rw [session] at accounts
  obtain ⟨registry, registered, since⟩ := accounts.since
  rw [since.find?_eq spared, registered]
  have entered := (Operation.register name callback).enrolled_of_resolve rfl named registry
  change ((Operation.register name callback).enrolled registry).find? source = _
  rw [entered, Registry.find?_put, if_pos rfl]

end Rig

end Interrupts
