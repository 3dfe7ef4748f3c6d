import Interrupts.Run.World

/-! # Scenarios

A rig is a board that can be adjusted from outside. On a rig, steps are carried
out: operations, calls that bypass the interrupt layer, adjustments, looks at the
tables. The body of a callback is a program of such steps, so a callback can use
every operation while the one that invoked it is still running. A body may invoke
callbacks again; how deep is bounded by a budget, below which callbacks do nothing.
-/

namespace Interrupts

/-- A kind of board with the ways in which it can be adjusted from outside. -/
structure Rig (β η : Type) where
  hardware : Hardware β
  adjust : η → β → Outcome × β

inductive Action (η : Type) where
  | operate (operation : Operation)
  /-- A call on the board that bypasses the interrupt layer. -/
  | call (call : Call)
  | adjust (adjustment : η)
  | vectors
  | recording (recorder : Recorder)

structure Step (η : Type) where
  label : String
  action : Action η

/-- The body of a callback: steps, each chosen by the outcomes of those before. -/
abbrev Body (η : Type) := Program (Step η) (fun _ => Outcome) Unit

/-- The bodies of all callbacks. What a callback does may depend on the callback,
the index, and everything that has happened so far. -/
abbrev Behaviour (β η : Type) := Callback → Nat → World β η → Body η

namespace Body

variable {η : Type}

def ofSteps : List (Step η) → Body η
  | [] => .done ()
  | step :: rest => .ask step fun _ => ofSteps rest

end Body

abbrev Scripts (η : Type) := List (UInt64 × List (Step η))

namespace Scripts

variable {β η : Type}

/-- Callbacks that follow their script. Recorders and callbacks without a script do
nothing. -/
def behaviour (scripts : Scripts η) : Behaviour β η := fun callback _ _ =>
  match callback.receiver, scripts.find? (·.1 == callback.context) with
  | .routine, some (_, steps) => Body.ofSteps steps
  | _, _ => .done ()

end Scripts

namespace Rig

variable {β η : Type} (rig : Rig β η)

def act (react : Reaction β η) (action : Action η) (world : World β η) : Outcome × World β η :=
  match action with
  | .operate operation =>
      world.run rig.hardware react (operation.routine rig.hardware.vectors)
  | .call call =>
      let (answer, world) := world.respond rig.hardware react (.call call)
      (Outcome.ofAnswer call answer, world)
  | .adjust adjustment =>
      let (outcome, board) := rig.adjust adjustment world.board
      (outcome, { world with board }.log (.adjusted adjustment))
  | .vectors => (.vectors rig.hardware.vectors, world)
  | .recording recorder => (.recording (world.recordings.get recorder), world)

def actInside (react : Reaction β η) (step : Step η) (world : World β η) :
    Outcome × World β η :=
  let (outcome, world) := rig.act react step.action (world.log (.began step.label))
  (outcome, world.log (.ended outcome))

/-- The reaction of callbacks that run their bodies, at most `budget` of them inside
one another. -/
def reentrant (behaviour : Behaviour β η) : (budget : Nat) → Reaction β η
  | 0, _, _, world => world
  | budget + 1, callback, index, world =>
      (Program.run (rig.actInside (reentrant behaviour budget))
        (behaviour callback index world) world).2

end Rig

/-! ## Sessions -/

inductive Command (η : Type) where
  | step (step : Step η)
  /-- Ends the use of the board and begins it anew with empty tables. -/
  | restart

/-- What came of a command. There is no world afterwards if a restart failed. -/
structure Report (β η : Type) where
  outcome : Outcome
  events : List (Event η)
  world : Option (World β η)

namespace Rig

variable {β η : Type} (rig : Rig β η) (react : Reaction β η)

def start (world : World β η) : World β η :=
  (world.run rig.hardware react (Global.start rig.hardware.vectors)).2

def cleared (world : World β η) : World β η :=
  { world with registry := .empty, lines := .initial }

def execute (command : Command η) (world : World β η) : Report β η :=
  match command with
  | .step step =>
      let (outcome, after) := rig.act react step.action world
      ⟨outcome, world.eventsSince after, some after⟩
  | .restart =>
      match world.run rig.hardware react (Global.stop rig.hardware.vectors).run with
      | (.ok (), stopped) =>
          let after := rig.start react (cleared stopped)
          ⟨.done, world.eventsSince after, some after⟩
      | (.error fault, after) => ⟨.refused fault, world.eventsSince after, none⟩

def executeAll : List (Command η) → World β η → List (Report β η)
  | [], _ => []
  | command :: rest, world =>
      let report := rig.execute react command world
      match report.world with
      | some after => report :: executeAll rest after
      | none => [report]

/-- A whole session on a new board. The first report is that of the start. -/
def session (board : β) (commands : List (Command η)) : List (Report β η) :=
  let world := World.initial board
  let started := rig.start react world
  ⟨.done, world.eventsSince started, some started⟩ :: rig.executeAll react commands started

end Rig

end Interrupts
