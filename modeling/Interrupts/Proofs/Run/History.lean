import Interrupts.Proofs.Run.Reachable
import Interrupts.Proofs.Run.State

/-! # Histories

All moments of a session at which control passes between the code of a user and an
operation: a command begins or has ended, a callback is entered or left. The moments of
what a callback does stand between its entry and its end, so what is later in the list is
later in the run, at whatever depth. Every world that a session reaches is the world of
one of its moments.
-/

namespace Interrupts

variable {β η : Type}

inductive Moment (β η : Type) where
  | begun (command : Command η) (world : World β η)
  /-- The command was executed in `before`, and this came of it. -/
  | ended (command : Command η) (before : World β η) (outcome : Outcome) (after : World β η)
  | entered (world : World β η)
  | left (world : World β η)

namespace Moment

def world : Moment β η → World β η
  | begun _ world | ended _ _ _ world | entered world | left world => world

/-- If a step has ended at the moment, it was executed with callbacks of some kind. -/
def Executed (rig : Rig β η) : Moment β η → Prop
  | ended (.step step) before outcome after =>
      ∃ react, rig.act react step.action before = (outcome, after)
  | _ => True

end Moment

namespace Rig

variable (rig : Rig β η) (behaviour : Behaviour β η)

def invoked (react : Reaction β η) : Action η → World β η → List (Invocation β η)
  | .operate operation, world =>
      world.invocations rig.hardware react (operation.routine rig.hardware.vectors)
  | _, _ => []

/-- The moments of a step that the user begins in `idle` and that is executed in `world`;
`inside` are those of a callback. -/
def stepMoments (react : Reaction β η) (inside : Invocation β η → List (Moment β η))
    (step : Step η) (idle world : World β η) : List (Moment β η) :=
  let (outcome, after) := rig.act react step.action world
  .begun (.step step) idle ::
    ((rig.invoked react step.action world).flatMap inside ++
      [.ended (.step step) world outcome after])

def callbackMoments : (budget : Nat) → Invocation β η → List (Moment β η)
  | 0, v => [.entered v.entry, .left v.entry]
  | budget + 1, v =>
      let react := rig.reentrant behaviour budget
      let steps := Program.requests (rig.actInside react)
        (behaviour v.callback v.index v.entry) v.entry
      .entered v.entry ::
        (steps.flatMap (fun x => rig.stepMoments react (callbackMoments budget) x.1 x.2
            (x.2.log (.began x.1.label))) ++
          [.left (v.outcome (rig.reentrant behaviour (budget + 1)))])

def commandMoments (budget : Nat) : Command η → World β η → List (Moment β η)
  | .step step, world =>
      rig.stepMoments (rig.reentrant behaviour budget) (rig.callbackMoments behaviour budget)
        step world world
  | .restart, world =>
      .begun .restart world ::
        match (rig.execute (rig.reentrant behaviour budget) .restart world).world with
        | some after => [.ended .restart world .done after]
        | none => []

def history (budget : Nat) : List (Command η) → World β η → List (Moment β η)
  | [], _ => []
  | command :: rest, world =>
      rig.commandMoments behaviour budget command world ++
        match (rig.execute (rig.reentrant behaviour budget) command world).world with
        | some after => history budget rest after
        | none => []

variable {rig behaviour}

theorem history_step (budget : Nat) (step : Step η) (rest : List (Command η)) (world : World β η) :
    rig.history behaviour budget (.step step :: rest) world =
      rig.commandMoments behaviour budget (.step step) world ++
        rig.history behaviour budget rest
          (rig.act (rig.reentrant behaviour budget) step.action world).2 := rfl

theorem stepMoments_of_silent {react : Reaction β η} {inside : Invocation β η → List (Moment β η)}
    {label : String} {operation : Operation} (silent : ¬ operation.Delivers)
    (idle world : World β η) :
    rig.stepMoments react inside ⟨label, .operate operation⟩ idle world =
      [.begun (.step ⟨label, .operate operation⟩) idle,
       .ended (.step ⟨label, .operate operation⟩) world
        (rig.act react (.operate operation) world).1
        (rig.act react (.operate operation) world).2] := by
  rw [stepMoments, invoked, (Quiet.operation _ silent).invocations]
  rfl

theorem ended_mem_history {budget : Nat} {earlier : List (Step η)} (step : Step η)
    (rest : List (Command η)) {world before after : World β η} {outcome : Outcome}
    (left : rig.follow (rig.reentrant behaviour budget) earlier world = before)
    (executed : rig.act (rig.reentrant behaviour budget) step.action before = (outcome, after)) :
    .ended (.step step) before outcome after ∈
      rig.history behaviour budget (earlier.map Command.step ++ .step step :: rest) world := by
  induction earlier generalizing world with
  | nil =>
      cases left
      obtain ⟨rfl, rfl⟩ := Prod.ext_iff.1 executed
      exact List.mem_append_left _
        (List.mem_cons_of_mem _ (List.mem_append_right _ List.mem_cons_self))
  | cons first others ih => exact List.mem_append_right _ (ih left)

/-! ## Every reachable world -/

theorem mem_callbackMoments_entered (budget : Nat) (v : Invocation β η) :
    .entered v.entry ∈ rig.callbackMoments behaviour budget v := by
  cases budget <;> exact List.mem_cons_self

theorem mem_callbackMoments_left (budget : Nat) (v : Invocation β η) :
    .left (v.outcome (rig.reentrant behaviour budget)) ∈
      rig.callbackMoments behaviour budget v := by
  cases budget with
  | zero => exact List.mem_cons_of_mem _ List.mem_cons_self
  | succ budget =>
      exact List.mem_cons_of_mem _ (List.mem_append_right _ List.mem_cons_self)

theorem mem_callbackMoments_step {budget : Nat} {v : Invocation β η} {x : Step η × World β η}
    (hx : x ∈ Program.requests (rig.actInside (rig.reentrant behaviour budget))
      (behaviour v.callback v.index v.entry) v.entry) {moment : Moment β η}
    (h : moment ∈ rig.stepMoments (rig.reentrant behaviour budget)
      (rig.callbackMoments behaviour budget) x.1 x.2 (x.2.log (.began x.1.label))) :
    moment ∈ rig.callbackMoments behaviour (budget + 1) v :=
  List.mem_cons_of_mem _ (List.mem_append_left _ (List.mem_flatMap.2 ⟨x, hx, h⟩))

theorem mem_moments_of_visits {budget : Nat} {action : Action η} {world seen : World β η}
    (h : rig.Visits behaviour budget action world seen) :
    ∃ moment ∈ (rig.invoked (rig.reentrant behaviour budget) action world).flatMap
      (rig.callbackMoments behaviour budget), moment.world = seen := by
  induction h with
  | entered hv =>
      exact ⟨_, List.mem_flatMap.2 ⟨_, hv, mem_callbackMoments_entered _ _⟩, rfl⟩
  | between hv hx =>
      have begun := mem_callbackMoments_step hx List.mem_cons_self
      exact ⟨_, List.mem_flatMap.2 ⟨_, hv, begun⟩, rfl⟩
  | inside hv hx _ ih =>
      obtain ⟨moment, hm, same⟩ := ih
      have nested := mem_callbackMoments_step hx
        (List.mem_cons_of_mem _ (List.mem_append_left _ hm))
      exact ⟨moment, List.mem_flatMap.2 ⟨_, hv, nested⟩, same⟩
  | left hv =>
      exact ⟨_, List.mem_flatMap.2 ⟨_, hv, mem_callbackMoments_left _ _⟩, rfl⟩

theorem mem_commandMoments_ended {budget : Nat} {command : Command η} {world after : World β η}
    (h : (rig.execute (rig.reentrant behaviour budget) command world).world = some after) :
    ∃ moment ∈ rig.commandMoments behaviour budget command world, moment.world = after := by
  cases command with
  | step step =>
      cases h
      exact ⟨_, List.mem_cons_of_mem _ (List.mem_append_right _ List.mem_cons_self), rfl⟩
  | restart =>
      simp only [commandMoments, h]
      exact ⟨_, List.mem_cons_of_mem _ List.mem_cons_self, rfl⟩

/-- The history passes through every world that the session reaches. -/
theorem mem_history_of_reaches {budget : Nat} {commands : List (Command η)}
    {world seen : World β η} (h : rig.Reaches behaviour budget commands world seen) :
    seen = world ∨ ∃ moment ∈ rig.history behaviour budget commands world,
      moment.world = seen := by
  induction h with
  | here commands world => exact .inl rfl
  | within hv =>
      obtain ⟨moment, hm, same⟩ := mem_moments_of_visits hv
      refine .inr ⟨moment, List.mem_append_left _ ?_, same⟩
      exact List.mem_cons_of_mem _ (List.mem_append_left _ hm)
  | @later command rest world after seen he _ ih =>
      right
      have history : rig.history behaviour budget (command :: rest) world =
          rig.commandMoments behaviour budget command world ++
            rig.history behaviour budget rest after := by
        rw [Rig.history, he]
      rw [history]
      rcases ih with rfl | ⟨moment, hm, same⟩
      · obtain ⟨moment, hm, same⟩ := mem_commandMoments_ended he
        exact ⟨moment, List.mem_append_left _ hm, same⟩
      · exact ⟨moment, List.mem_append_right _ hm, same⟩

/-! ## Every ended step -/

theorem state_of_executed {react : Reaction β η} {operation : Operation}
    (silent : ¬ operation.Delivers) {before after : World β η} {outcome : Outcome}
    (executed : rig.act react (.operate operation) before = (outcome, after)) :
    before.state.run rig.hardware (operation.routine rig.hardware.vectors) =
      (outcome, after.state) := by
  obtain ⟨rfl, rfl⟩ := Prod.ext_iff.1 executed
  exact ((Quiet.operation rig.hardware.vectors silent).run rig.hardware react before).symm

theorem executed_stepMoments {react : Reaction β η} {inside : Invocation β η → List (Moment β η)}
    (within : ∀ v, ∀ moment ∈ inside v, moment.Executed rig) (step : Step η)
    (idle world : World β η) :
    ∀ moment ∈ rig.stepMoments react inside step idle world, moment.Executed rig := by
  intro moment hm
  simp only [stepMoments, List.mem_cons, List.mem_append, List.mem_flatMap, List.not_mem_nil,
    or_false] at hm
  obtain rfl | ⟨v, -, hm⟩ | rfl := hm
  · trivial
  · exact within v moment hm
  · exact ⟨react, rfl⟩

theorem executed_callbackMoments (budget : Nat) (v : Invocation β η) :
    ∀ moment ∈ rig.callbackMoments behaviour budget v, moment.Executed rig := by
  induction budget generalizing v with
  | zero =>
      intro moment hm
      simp only [callbackMoments, List.mem_cons, List.not_mem_nil, or_false] at hm
      obtain rfl | rfl := hm <;> trivial
  | succ budget ih =>
      intro moment hm
      simp only [callbackMoments, List.mem_cons, List.mem_append, List.mem_flatMap,
        List.not_mem_nil, or_false] at hm
      obtain rfl | ⟨x, -, hm⟩ | rfl := hm
      · trivial
      · exact executed_stepMoments ih _ _ _ moment hm
      · trivial

/-- What a history says of a step that has ended is what comes of executing it. -/
theorem executed_history {budget : Nat} {commands : List (Command η)} {world : World β η} :
    ∀ moment ∈ rig.history behaviour budget commands world, moment.Executed rig := by
  induction commands generalizing world with
  | nil => exact fun _ h => absurd h List.not_mem_nil
  | cons command rest ih =>
      intro moment hm
      rw [history] at hm
      rcases List.mem_append.1 hm with hm | hm
      · cases command with
        | step step => exact executed_stepMoments (executed_callbackMoments budget) _ _ _ _ hm
        | restart =>
            rcases List.mem_cons.1 hm with rfl | hm
            · trivial
            · split at hm
              next =>
                rw [List.mem_singleton.1 hm]
                trivial
              next => exact absurd hm List.not_mem_nil
      · split at hm
        next => exact ih moment hm
        next => exact absurd hm List.not_mem_nil

end Rig

end Interrupts
