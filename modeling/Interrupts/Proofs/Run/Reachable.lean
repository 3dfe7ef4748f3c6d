import Interrupts.Proofs.Run.Leads
import Interrupts.Run.Scenario

/-! # Reachable worlds

The worlds that the code of a user can meet: those between the commands of a session,
and those inside a callback, which begins in the middle of an operation and may itself
start operations with callbacks of their own. `Reaches` lists them all, at any depth
of nesting.

An invariant of a rig is a property that every operation keeps, given that callbacks
keep it, and with which every callback is entered. `Invariant.reaches` makes it a
property of every reachable world. The properties come as a family because a callback
that is invoked in the middle of a scan has to keep more than the scan is to keep.
-/

namespace Interrupts

/-! ## Reachable worlds -/

namespace Rig

variable {β η : Type} (rig : Rig β η) (behaviour : Behaviour β η)

/-- While the action is carried out in `world`, the code of a callback is in control in
the world `seen`. The number bounds how deep callbacks may run inside one another. -/
inductive Visits : Nat → Action η → World β η → World β η → Prop
  | entered {budget : Nat} {operation : Operation} {world : World β η} {v : Invocation β η} :
      v ∈ world.invocations rig.hardware (rig.reentrant behaviour budget)
        (operation.routine rig.hardware.vectors) →
      Visits budget (.operate operation) world v.entry
  /-- A callback has come to a step of its body. -/
  | between {budget : Nat} {operation : Operation} {world : World β η} {v : Invocation β η}
      {x : Step η × World β η} :
      v ∈ world.invocations rig.hardware (rig.reentrant behaviour (budget + 1))
        (operation.routine rig.hardware.vectors) →
      x ∈ Program.requests (rig.actInside (rig.reentrant behaviour budget))
        (behaviour v.callback v.index v.entry) v.entry →
      Visits (budget + 1) (.operate operation) world x.2
  /-- The step of the body has invoked further callbacks. -/
  | inside {budget : Nat} {operation : Operation} {world seen : World β η}
      {v : Invocation β η} {x : Step η × World β η} :
      v ∈ world.invocations rig.hardware (rig.reentrant behaviour (budget + 1))
        (operation.routine rig.hardware.vectors) →
      x ∈ Program.requests (rig.actInside (rig.reentrant behaviour budget))
        (behaviour v.callback v.index v.entry) v.entry →
      Visits budget x.1.action (x.2.log (.began x.1.label)) seen →
      Visits (budget + 1) (.operate operation) world seen
  | left {budget : Nat} {operation : Operation} {world : World β η} {v : Invocation β η} :
      v ∈ world.invocations rig.hardware (rig.reentrant behaviour budget)
        (operation.routine rig.hardware.vectors) →
      Visits budget (.operate operation) world (v.outcome (rig.reentrant behaviour budget))

/-- A session that executes the commands from `world` reaches the world `seen`, between
two commands or inside a callback. -/
inductive Reaches (budget : Nat) : List (Command η) → World β η → World β η → Prop
  | here (commands : List (Command η)) (world : World β η) : Reaches budget commands world world
  | within {step : Step η} {rest : List (Command η)} {world seen : World β η} :
      rig.Visits behaviour budget step.action world seen →
      Reaches budget (.step step :: rest) world seen
  | later {command : Command η} {rest : List (Command η)} {world after seen : World β η} :
      (rig.execute (rig.reentrant behaviour budget) command world).world = some after →
      Reaches budget rest after seen →
      Reaches budget (command :: rest) world seen

def follow (react : Reaction β η) (steps : List (Step η)) (world : World β η) : World β η :=
  steps.foldl (fun world step => (rig.act react step.action world).2) world

/-- A session on a new board reaches the world `seen`. -/
def Reachable (budget : Nat) (board : β) (commands : List (Command η)) (seen : World β η) :
    Prop :=
  rig.Reaches behaviour budget commands
    (rig.start (rig.reentrant behaviour budget) (World.initial board)) seen

variable {rig behaviour}

theorem reaches_follow (budget : Nat) (steps : List (Step η)) (world : World β η) :
    rig.Reaches behaviour budget (steps.map Command.step) world
      (rig.follow (rig.reentrant behaviour budget) steps world) := by
  induction steps generalizing world with
  | nil => exact .here [] world
  | cons step rest ih => exact .later rfl (ih _)

theorem reaches_of_mem_executeAll {budget : Nat} {commands : List (Command η)}
    {world after : World β η} {report : Report β η}
    (h : report ∈ rig.executeAll (rig.reentrant behaviour budget) commands world)
    (ha : report.world = some after) : rig.Reaches behaviour budget commands world after := by
  induction commands generalizing world with
  | nil => simp [executeAll] at h
  | cons command rest ih =>
      simp only [executeAll] at h
      cases he : (rig.execute (rig.reentrant behaviour budget) command world).world with
      | none =>
          rw [he, List.mem_singleton] at h
          rw [h, he] at ha
          cases ha
      | some next =>
          rw [he] at h
          rcases List.mem_cons.1 h with rfl | h
          · exact .later ha (.here rest after)
          · exact .later he (ih h)

theorem reachable_of_mem_session {budget : Nat} {board : β} {commands : List (Command η)}
    {after : World β η} {report : Report β η}
    (h : report ∈ rig.session (rig.reentrant behaviour budget) board commands)
    (ha : report.world = some after) :
    rig.Reachable behaviour budget board commands after := by
  rcases List.mem_cons.1 h with rfl | h
  · cases ha
    exact .here _ _
  · exact reaches_of_mem_executeAll h ha

theorem eq_of_restart {react : Reaction β η} {world after : World β η}
    (h : (rig.execute react .restart world).world = some after) :
    after = rig.start react
      (cleared (world.run rig.hardware react (Global.stop rig.hardware.vectors).run).2) := by
  simp only [execute] at h
  split at h
  next stopped stop =>
    cases h
    rw [stop]
  next => cases h

/-! ## Invariants -/

/-- A family of properties that all permitted actions uphold, provided that callbacks
keep every member of the family. -/
structure Invariant {ι : Type} (rig : Rig β η) (permitted : Command η → Prop)
    (family : ι → World β η → Prop) : Prop where
  began (j : ι) (world : World β η) (label : String) :
    family j world → family j (world.log (.began label))
  ended (j : ι) (world : World β η) (outcome : Outcome) :
    family j world → family j (world.log (.ended outcome))
  operate (label : String) (operation : Operation) (react : Reaction β η)
    (keeps : ∀ j callback index world, family j world → family j (react callback index world)) :
    permitted (.step ⟨label, .operate operation⟩) → ∀ j,
      Routine.Upholds rig.hardware react (family j) (operation.routine rig.hardware.vectors)
  call (label : String) (c : Call) (react : Reaction β η) (j : ι) (world : World β η) :
    permitted (.step ⟨label, .call c⟩) → family j world →
      family j (world.respond rig.hardware react (.call c)).2
  adjust (label : String) (adjustment : η) (j : ι) (world : World β η) :
    permitted (.step ⟨label, .adjust adjustment⟩) → family j world →
      family j ({ world with board := (rig.adjust adjustment world.board).2 }.log
        (.adjusted adjustment))
  restart (react : Reaction β η) (j : ι) (world after : World β η) :
    permitted .restart → (rig.execute react .restart world).world = some after →
      family j world → family j after

namespace Invariant

variable {ι : Type} {permitted : Command η → Prop} {family : ι → World β η → Prop}

theorem act (inv : rig.Invariant permitted family) {react : Reaction β η}
    (keeps : ∀ j callback index world, family j world → family j (react callback index world))
    {step : Step η} (h : permitted (.step step)) {j : ι} {world : World β η}
    (holds : family j world) : family j (rig.act react step.action world).2 := by
  obtain ⟨label, action⟩ := step
  cases action with
  | operate operation => exact (inv.operate label operation react keeps h j).final holds
  | call c => exact inv.call label c react j world h holds
  | adjust adjustment => exact inv.adjust label adjustment j world h holds
  | vectors => exact holds
  | recording recorder => exact holds

theorem actInside (inv : rig.Invariant permitted family) {react : Reaction β η}
    (keeps : ∀ j callback index world, family j world → family j (react callback index world))
    {step : Step η} (h : permitted (.step step)) {j : ι} {world : World β η}
    (holds : family j world) : family j (rig.actInside react step world).2 :=
  inv.ended _ _ _ (inv.act keeps h (inv.began _ _ _ holds))

theorem body (inv : rig.Invariant permitted family) {react : Reaction β η}
    (keeps : ∀ j callback index world, family j world → family j (react callback index world))
    {body : Body η} (h : body.Only fun step => permitted (.step step)) {j : ι}
    {world : World β η} (holds : family j world) :
    family j (Program.run (rig.actInside react) body world).2 ∧
      ∀ x ∈ Program.requests (rig.actInside react) body world,
        permitted (.step x.1) ∧ family j x.2 :=
  h.invariant (rig.actInside react) (fun _ _ h holds => inv.actInside keeps h holds) holds

/-- Callbacks keep the invariant, however deep they are nested. -/
theorem reentrant (inv : rig.Invariant permitted family)
    (bodies : ∀ callback index world,
      (behaviour callback index world).Only fun step => permitted (.step step))
    (budget : Nat) (j : ι) (callback : Callback) (index : Nat) (world : World β η)
    (holds : family j world) : family j (rig.reentrant behaviour budget callback index world) := by
  induction budget generalizing j callback index world with
  | zero => exact holds
  | succ budget ih => exact (inv.body ih (bodies _ _ _) holds).1

theorem visits (inv : rig.Invariant permitted family)
    (bodies : ∀ callback index world,
      (behaviour callback index world).Only fun step => permitted (.step step))
    {budget : Nat} {action : Action η} {world seen : World β η}
    (h : rig.Visits behaviour budget action world seen) :
    ∀ {label : String}, permitted (.step ⟨label, action⟩) → ∀ {j : ι}, family j world →
      family j seen := by
  induction h with
  | entered hv =>
      intro label permit j holds
      exact (inv.operate label _ _ (inv.reentrant bodies _) permit j).entry holds _ hv
  | between hv hx =>
      intro label permit j holds
      have entry := (inv.operate label _ _ (inv.reentrant bodies _) permit j).entry holds _ hv
      exact ((inv.body (inv.reentrant bodies _) (bodies _ _ _) entry).2 _ hx).2
  | inside hv hx _ ih =>
      intro label permit j holds
      have entry := (inv.operate label _ _ (inv.reentrant bodies _) permit j).entry holds _ hv
      obtain ⟨allowed, met⟩ :=
        (inv.body (inv.reentrant bodies _) (bodies _ _ _) entry).2 _ hx
      exact ih allowed (inv.began _ _ _ met)
  | left hv =>
      intro label permit j holds
      have entry := (inv.operate label _ _ (inv.reentrant bodies _) permit j).entry holds _ hv
      exact inv.reentrant bodies _ j _ _ _ entry

theorem execute (inv : rig.Invariant permitted family)
    (bodies : ∀ callback index world,
      (behaviour callback index world).Only fun step => permitted (.step step))
    {budget : Nat} {command : Command η} (permit : permitted command) {j : ι}
    {world after : World β η} (holds : family j world)
    (h : (rig.execute (rig.reentrant behaviour budget) command world).world = some after) :
    family j after := by
  cases command with
  | step step =>
      cases h
      exact inv.act (inv.reentrant bodies budget) permit holds
  | restart => exact inv.restart _ j world after permit h holds

/-- An invariant holds in every world that a session reaches. -/
theorem reaches (inv : rig.Invariant permitted family)
    (bodies : ∀ callback index world,
      (behaviour callback index world).Only fun step => permitted (.step step))
    {budget : Nat} {commands : List (Command η)} {world seen : World β η}
    (h : rig.Reaches behaviour budget commands world seen)
    (permit : ∀ command ∈ commands, permitted command) {j : ι} (holds : family j world) :
    family j seen := by
  induction h with
  | here commands world => exact holds
  | within hv => exact inv.visits bodies hv (permit _ List.mem_cons_self) holds
  | later he _ ih =>
      exact ih (fun command hc => permit command (List.mem_cons_of_mem _ hc))
        (inv.execute bodies (permit _ List.mem_cons_self) holds he)

end Invariant

end Rig

end Interrupts
