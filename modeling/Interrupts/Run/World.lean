import Interrupts.Run.Event

/-! # Worlds

A world is a board together with the state of the interrupt layer: the tables,
their lock, the masking depth, the recordings, and the trace of everything that
has happened. Running a routine is answering its effects in a world. What a
callback does is a parameter, the reaction, so that a statement can be made for
callbacks that do anything at all.
-/

namespace Interrupts

/-- A board in the state `β`, whose adjustments are `η`, in use. -/
structure World (β η : Type) where
  board : β
  registry : Registry
  lines : LineTable
  /-- The lock of the tables is taken. -/
  held : Bool
  /-- The lock was asked for while it was taken: the context spins for ever. -/
  stuck : Bool
  /-- How deep interrupts are masked. -/
  depth : Nat
  recordings : Vector Recording 8
  /-- All events, the latest first. -/
  trace : List (Event η)

abbrev Reaction (β η : Type) := Callback → Nat → World β η → World β η

namespace World

variable {β η : Type}

def initial (board : β) : World β η where
  board
  registry := .empty
  lines := .initial
  held := false
  stuck := false
  depth := 0
  recordings := Vector.replicate 8 .empty
  trace := []

def log (event : Event η) (world : World β η) : World β η :=
  { world with trace := event :: world.trace }

/-- A recorder keeps what it is told; other receivers keep nothing. -/
def record (callback : Callback) (index : Nat) (world : World β η) : World β η :=
  match callback.receiver with
  | .routine => world
  | .recorder recorder =>
      { world with
        recordings := world.recordings.set recorder
          ((world.recordings.get recorder).add index callback.setting) recorder.isLt }

/-- What an effect is answered and how it changes the world, apart from the trace
and from what an invoked callback does. -/
def answer (effect : Effect) (world : World β η) (hardware : Hardware β) :
    effect.Answer × World β η × List Transfer :=
  match effect with
  | .mask => (world.depth, { world with depth := world.depth + 1 }, [])
  | .restore depth => ((), { world with depth }, [])
  | .acquire => ((), { world with held := true, stuck := world.stuck || world.held }, [])
  | .release => ((), { world with held := false }, [])
  | .find source => (world.registry.find? source, world, [])
  | .install source callback =>
      let (replaced, registry) := world.registry.install source callback
      (replaced, { world with registry }, [])
  | .erase source =>
      let (removed, registry) := world.registry.erase source
      (removed, { world with registry }, [])
  | .readLine line => (world.lines.get line, world, [])
  | .writeLine line setting => ((), { world with lines := world.lines.set line setting }, [])
  | .call call =>
      let (reply, board, transfers) := hardware.respond call world.board
      (reply, { world with board }, transfers)
  | .note _ => ((), world, [])
  | .invoke _ callback index => ((), world.record callback index, [])

def respond (hardware : Hardware β) (react : Reaction β η) (effect : Effect)
    (world : World β η) : effect.Answer × World β η :=
  let (reply, world, transfers) := world.answer effect hardware
  let world := transfers.foldl (fun world transfer => world.log (.transferred transfer)) world
  let world := world.log (.performed effect reply)
  match effect with
  | .invoke _ callback index => (reply, react callback index world)
  | _ => (reply, world)

def run {α : Type} (hardware : Hardware β) (react : Reaction β η) (routine : Routine α)
    (world : World β η) : α × World β η :=
  Program.run (respond hardware react) routine world

def eventsSince (earlier later : World β η) : List (Event η) :=
  (later.trace.take (later.trace.length - earlier.trace.length)).reverse

@[simp] theorem run_pure {α : Type} (hardware : Hardware β) (react : Reaction β η) (value : α)
    (world : World β η) : world.run hardware react (pure value) = (value, world) := rfl

@[simp] theorem run_perform (hardware : Hardware β) (react : Reaction β η) (effect : Effect)
    (world : World β η) :
    world.run hardware react (Routine.perform effect) = world.respond hardware react effect := rfl

@[simp] theorem run_bind {α γ : Type} (hardware : Hardware β) (react : Reaction β η)
    (routine : Routine α) (rest : α → Routine γ) (world : World β η) :
    world.run hardware react (routine >>= rest) =
      (world.run hardware react routine).2.run hardware react
        (rest (world.run hardware react routine).1) :=
  Program.run_bind _ routine rest world

end World

end Interrupts
