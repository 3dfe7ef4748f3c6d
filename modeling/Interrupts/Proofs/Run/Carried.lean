import Interrupts.Proofs.Run.History

/-! # Properties that are carried on

A property is carried on if it holds at a moment of a session whenever it held at the
moment before, unless a command that breaks it has begun in between. Nothing is asked of
callbacks: they may break the property and restore it. It is enough that operations carry
it from their beginning to the first callback, from each callback to the next, and from
the last one to their end (`Bridges`), and that calls, adjustments and restarts keep it.
-/

namespace Interrupts

variable {β η : Type}

/-! ## Operations -/

/-- Given at the beginning the property holds where the first callback is entered; where it
holds when a callback is left it holds where the next is entered, and then at the end. -/
def Bridged (react : Reaction β η) (property : World β η → Prop) :
    Prop → List (Invocation β η) → Prop → Prop
  | given, [], goal => given → goal
  | given, v :: rest, goal =>
      (given → property v.entry) ∧ Bridged react property (property (v.outcome react)) rest goal

/-- The routine carries the property over everything that it does itself. -/
def Bridges {α : Type} (hardware : Hardware β) (react : Reaction β η)
    (property : World β η → Prop) (routine : Routine α) : Prop :=
  ∀ world : World β η, Bridged react property (property world)
    (world.invocations hardware react routine)
    (property (world.run hardware react routine).2)

namespace Bridged

variable {react : Reaction β η} {property : World β η → Prop} {given middle goal : Prop}

theorem strengthen {more : Prop} {vs : List (Invocation β η)}
    (h : Bridged react property given vs goal) (enough : more → given) :
    Bridged react property more vs goal := by
  cases vs with
  | nil => exact fun holds => h (enough holds)
  | cons v rest => exact ⟨fun holds => h.1 (enough holds), h.2⟩

theorem append {vs others : List (Invocation β η)}
    (first : Bridged react property given vs middle)
    (later : Bridged react property middle others goal) :
    Bridged react property given (vs ++ others) goal := by
  induction vs generalizing given with
  | nil => exact later.strengthen first
  | cons v rest ih => exact ⟨first.1, ih first.2⟩

end Bridged

namespace Bridges

variable {hardware : Hardware β} {react : Reaction β η} {property : World β η → Prop}

theorem sequential : Sequential fun α => Bridges (α := α) hardware react property where
  pure _ _ := id
  bind first later world := by
    rw [World.invocations_bind, World.run_bind]
    exact (first world).append (later _ _)

theorem perform {effect : Effect} (quiet : ¬ effect.Invokes)
    (keeps : ∀ world : World β η, property world →
      property (world.respond hardware react effect).2) :
    Bridges hardware react property (Routine.perform effect) := by
  intro world
  rw [World.invocations_perform]
  cases effect with
  | invoke _ _ _ => exact absurd trivial quiet
  | _ => exact keeps world

theorem invoke (source : Source) (callback : Callback) (index : Nat)
    (enters : ∀ v : Invocation β η, property v.world → property v.entry) :
    Bridges hardware react property (Routine.perform (.invoke source callback index)) :=
  fun _ => ⟨enters ⟨source, callback, index, _⟩, id⟩

theorem of_quiet {α : Type} {routine : Routine α} {property : State β → Prop}
    (quiet : Quiet routine)
    (keeps : ∀ state, property state → property (state.run hardware routine).2) :
    Bridges hardware react (fun world : World β η => property world.state) routine := by
  intro world
  rw [quiet.invocations]
  intro holds
  rw [quiet.state]
  exact keeps world.state holds

theorem critical {α : Type} {body : Routine α} {property : State β → Prop}
    (h : Bridges hardware react (fun world : World β η => property world.state) body) :
    Bridges hardware react (fun world : World β η => property world.state)
      (Routine.critical body) := by
  refine sequential.critical h fun effect guards => ?_
  cases effect with
  | mask => exact perform id fun _ holds => holds
  | restore _ => exact perform id fun _ holds => holds
  | acquire => exact perform id fun _ holds => holds
  | release => exact perform id fun _ holds => holds
  | _ => exact guards.elim

theorem final {α : Type} {routine : Routine α} (h : Bridges hardware react property routine)
    {world : World β η} (quiet : world.invocations hardware react routine = [])
    (holds : property world) : property (world.run hardware react routine).2 := by
  have bridged := h world
  rw [quiet] at bridged
  exact bridged holds

end Bridges

/-! ## Moments -/

namespace Moment

def Spares (spares : Command η → Prop) : Moment β η → Prop
  | begun command _ => spares command
  | _ => True

theorem spares_of_forall {spares : Command η → Prop} (all : ∀ command, spares command)
    (moment : Moment β η) : moment.Spares spares := by
  cases moment with
  | begun command _ => exact all command
  | _ => trivial

end Moment

/-- From what is given to the first moment, from each moment to the next, and from the last
to the goal the property is carried on. -/
def Carried (property : World β η → Prop) (spares : Command η → Prop) :
    Prop → List (Moment β η) → Prop → Prop
  | given, [], goal => given → goal
  | given, moment :: rest, goal =>
      (given → property moment.world) ∧
        Carried property spares (moment.Spares spares ∧ property moment.world) rest goal

namespace Carried

variable {property : World β η → Prop} {spares : Command η → Prop} {given middle goal : Prop}

theorem strengthen {more : Prop} {moments : List (Moment β η)}
    (h : Carried property spares given moments goal) (enough : more → given) :
    Carried property spares more moments goal := by
  cases moments with
  | nil => exact fun holds => h (enough holds)
  | cons moment rest => exact ⟨fun holds => h.1 (enough holds), h.2⟩

theorem weaken {less : Prop} {moments : List (Moment β η)}
    (h : Carried property spares given moments goal) (enough : goal → less) :
    Carried property spares given moments less := by
  induction moments generalizing given with
  | nil => exact fun holds => enough (h holds)
  | cons moment rest ih => exact ⟨h.1, ih h.2⟩

theorem append {moments others : List (Moment β η)}
    (first : Carried property spares given moments middle)
    (later : Carried property spares middle others goal) :
    Carried property spares given (moments ++ others) goal := by
  induction moments generalizing given with
  | nil => exact later.strengthen first
  | cons moment rest ih => exact ⟨first.1, ih first.2⟩

theorem flatMap {react : Reaction β η} {inside : Invocation β η → List (Moment β η)}
    {vs : List (Invocation β η)} (bridged : Bridged react property given vs goal)
    (carried : ∀ v, Carried property spares (property v.entry) (inside v)
      (property (v.outcome react))) :
    Carried property spares given (vs.flatMap inside) goal := by
  induction vs generalizing given with
  | nil => exact bridged
  | cons v rest ih => exact ((carried v).strengthen bridged.1).append (ih bridged.2)

theorem since {earlier later : List (Moment β η)} {moment : Moment β η}
    (h : Carried property spares given (earlier ++ moment :: later) goal) :
    Carried property spares (moment.Spares spares ∧ property moment.world) later goal := by
  induction earlier generalizing given with
  | nil => exact h.2
  | cons first rest ih => exact ih h.2

theorem lasts {between later : List (Moment β η)} {moment : Moment β η}
    (h : Carried property spares given (between ++ moment :: later) goal) (holds : given)
    (spared : ∀ m ∈ between, m.Spares spares) : property moment.world := by
  induction between generalizing given with
  | nil => exact h.1 holds
  | cons first rest ih =>
      have here := spared first List.mem_cons_self
      exact ih h.2 ⟨here, h.1 holds⟩ fun m hm => spared m (List.mem_cons_of_mem _ hm)

end Carried

/-! ## Sessions -/

namespace Rig

variable {rig : Rig β η} {behaviour : Behaviour β η}

/-- All commands that spare the property carry it on, and deliveries do in any case. -/
structure Carries (rig : Rig β η) (spares : Command η → Prop) (property : World β η → Prop) :
    Prop where
  began (world : World β η) (label : String) :
    property world → property (world.log (.began label))
  ended (world : World β η) (outcome : Outcome) :
    property world → property (world.log (.ended outcome))
  operate (label : String) (operation : Operation) (react : Reaction β η) :
    operation.Delivers ∨ spares (.step ⟨label, .operate operation⟩) →
      Bridges rig.hardware react property (operation.routine rig.hardware.vectors)
  call (label : String) (c : Call) (react : Reaction β η) (world : World β η) :
    spares (.step ⟨label, .call c⟩) → property world →
      property (world.respond rig.hardware react (.call c)).2
  adjust (label : String) (adjustment : η) (world : World β η) :
    spares (.step ⟨label, .adjust adjustment⟩) → property world →
      property ({ world with board := (rig.adjust adjustment world.board).2 }.log
        (.adjusted adjustment))
  restart (react : Reaction β η) (world after : World β η) :
    spares .restart → (rig.execute react .restart world).world = some after →
      property world → property after

namespace Carries

variable {spares : Command η → Prop} {property : World β η → Prop}

theorem stepMoments (carries : rig.Carries spares property) {react : Reaction β η}
    {inside : Invocation β η → List (Moment β η)}
    (carried : ∀ v, Carried property spares (property v.entry) (inside v)
      (property (v.outcome react)))
    (step : Step η) {idle world : World β η} (begins : property idle → property world) :
    Carried property spares (property idle) (rig.stepMoments react inside step idle world)
      (property (rig.act react step.action world).2) := by
  refine ⟨id, Carried.append ?_ ⟨id, And.right⟩⟩
  obtain ⟨label, action⟩ := step
  cases action with
  | operate operation =>
      -- A delivery is bridged whatever begins with it; any other operation runs no callback,
      -- so what it bridges it keeps.
      by_cases delivers : operation.Delivers
      · have bridged := carries.operate label operation react (.inl delivers) world
        exact Carried.flatMap (bridged.strengthen fun h => begins h.2) carried
      · have quiet := (Quiet.operation rig.hardware.vectors delivers).invocations
          rig.hardware react world
        rw [Rig.invoked, quiet]
        intro h
        exact (carries.operate label operation react (.inr h.1)).final quiet (begins h.2)
  | call c => exact fun h => carries.call label c react world h.1 (begins h.2)
  | adjust adjustment => exact fun h => carries.adjust label adjustment world h.1 (begins h.2)
  | vectors => exact fun h => begins h.2
  | recording recorder => exact fun h => begins h.2

theorem bodyMoments (carries : rig.Carries spares property) {react : Reaction β η}
    {inside : Invocation β η → List (Moment β η)}
    (carried : ∀ v, Carried property spares (property v.entry) (inside v)
      (property (v.outcome react)))
    (body : Body η) (world : World β η) :
    Carried property spares (property world)
      ((Program.requests (rig.actInside react) body world).flatMap fun x =>
        rig.stepMoments react inside x.1 x.2 (x.2.log (.began x.1.label)))
      (property (Program.run (rig.actInside react) body world).2) := by
  induction body generalizing world with
  | done value => exact id
  | ask step next ih =>
      have first := carries.stepMoments carried step (carries.began world step.label)
      exact first.append ((ih _ _).strengthen (carries.ended _ _))

theorem callbackMoments (carries : rig.Carries spares property) (behaviour : Behaviour β η)
    (budget : Nat) (v : Invocation β η) :
    Carried property spares (property v.entry) (rig.callbackMoments behaviour budget v)
      (property (v.outcome (rig.reentrant behaviour budget))) := by
  -- The budget bounds the depth, so the hypothesis serves the callbacks inside this one.
  induction budget generalizing v with
  | zero => exact ⟨id, And.right, And.right⟩
  | succ budget ih =>
      have body := carries.bodyMoments ih (behaviour v.callback v.index v.entry) v.entry
      exact ⟨id, (body.strengthen And.right).append ⟨id, And.right⟩⟩

theorem commandMoments (carries : rig.Carries spares property) (behaviour : Behaviour β η)
    (budget : Nat) (command : Command η) (world : World β η) :
    Carried property spares (property world)
      (rig.commandMoments behaviour budget command world)
      (∀ after, (rig.execute (rig.reentrant behaviour budget) command world).world =
        some after → property after) := by
  cases command with
  | step step =>
      have same : property world → property world := id
      refine (carries.stepMoments (carries.callbackMoments behaviour budget) step same).weaken ?_
      rintro holds after h
      cases h
      exact holds
  | restart =>
      refine ⟨id, ?_⟩
      split
      next after h =>
        exact ⟨fun given => carries.restart _ world after given.1 h given.2,
          fun given other same => Option.some.inj (h.symm.trans same) ▸ given.2⟩
      next h => exact fun _ after same => nomatch h.symm.trans same

theorem history (carries : rig.Carries spares property) (behaviour : Behaviour β η)
    (budget : Nat) (commands : List (Command η)) (world : World β η) :
    Carried property spares (property world) (rig.history behaviour budget commands world)
      True := by
  induction commands generalizing world with
  | nil => exact fun _ => trivial
  | cons command rest ih =>
      have first := carries.commandMoments behaviour budget command world
      rw [Rig.history]
      refine first.append ?_
      split
      next after h => exact (ih after).strengthen fun holds => holds after h
      next => exact fun _ => trivial

end Carries

end Rig

end Interrupts
