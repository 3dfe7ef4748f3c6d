import Interrupts.Proofs.Max32660.Registers
import Interrupts.Proofs.Run.Respond

/-! # Between two accesses

A call on the MAX32660 takes several register accesses, and unless interrupts are masked a
handler of higher priority may come in between any two of them. Here a routine is taken apart
into its single accesses. It runs as before, but its run can be stopped at every instant, and
what is left of it can be gone on with in the world that the other handler leaves.
-/

namespace Interrupts

namespace Program

variable {ρ : Type} {answer : ρ → Type} {α σ : Type}

/-- What is left of a program after `n` requests, and the state at that moment. -/
def after (respond : (r : ρ) → σ → answer r × σ) :
    Nat → Program ρ answer α → σ → Program ρ answer α × σ
  | n + 1, ask r next, state =>
      let (reply, state) := respond r state
      after respond n (next reply) state
  | _, program, state => (program, state)

@[simp] theorem after_zero (respond : (r : ρ) → σ → answer r × σ) (program : Program ρ answer α)
    (state : σ) : program.after respond 0 state = (program, state) := by
  cases program <;> rfl

@[simp] theorem after_done (respond : (r : ρ) → σ → answer r × σ) (n : Nat) (value : α)
    (state : σ) :
    (done value : Program ρ answer α).after respond n state = (done value, state) := by
  cases n <;> rfl

theorem run_after (respond : (r : ρ) → σ → answer r × σ) (n : Nat) (program : Program ρ answer α)
    (state : σ) :
    (program.after respond n state).1.run respond (program.after respond n state).2 =
      program.run respond state := by
  induction n generalizing program state with
  | zero => rw [after_zero]
  | succ n ih =>
      cases program with
      | done value => rfl
      | ask r next => exact ih _ _

end Program

namespace Max32660

/-- What a routine does at one instant. -/
inductive Instant where
  | effect (effect : Effect)
  | access (access : Access)
  /-- The accesses of a call are made. -/
  | answered (call : Call) (reply : call.Answer)

namespace Instant

@[reducible] def Answer : Instant → Type
  | effect e => e.Answer
  | access a => a.Answer
  | answered _ _ => Unit

variable {σ η : Type} (bus : Bus σ) (react : Reaction σ η)

def respond : (instant : Instant) → World σ η → instant.Answer × World σ η
  | effect e, world => world.respond (hardwareOn bus) react e
  | access a, world =>
      let (answer, board) := bus a world.board
      (answer, { world with board }.log (.transferred (a.transfer answer)))
  | answered call reply, world => ((), world.log (.performed (.call call) reply))

end Instant

/-- Programs that do one thing at an instant. -/
abbrev Stepwise := Program Instant Instant.Answer

namespace Stepwise

variable {σ η α γ : Type}

def ofDriver : Driver α → Stepwise α
  | .done value => .done value
  | .ask access next => .ask (.access access) fun reply => ofDriver (next reply)

def ofRoutine : Routine α → Stepwise α
  | .done value => .done value
  | .ask (.call call) next =>
      (ofDriver (drive call)).bind fun reply =>
        .ask (.answered call reply) fun _ => ofRoutine (next reply)
  | .ask effect next => .ask (.effect effect) fun reply => ofRoutine (next reply)

theorem ofRoutine_call (call : Call) (next : call.Answer → Routine α) :
    ofRoutine (.ask (.call call) next) =
      ofDriver (drive call) >>= fun reply =>
        .ask (.answered call reply) fun _ => ofRoutine (next reply) := rfl

theorem ofRoutine_effect {effect : Effect} (other : ∀ call, effect ≠ .call call)
    (next : effect.Answer → Routine α) :
    ofRoutine (.ask effect next) = .ask (.effect effect) fun reply => ofRoutine (next reply) := by
  cases effect with
  | call call => exact absurd rfl (other call)
  | _ => rfl

theorem ofRoutine_bind (routine : Routine α) (rest : α → Routine γ) :
    ofRoutine (routine >>= rest) = ofRoutine routine >>= fun value => ofRoutine (rest value) := by
  induction routine with
  | done value => rfl
  | ask effect next ih =>
      by_cases calls : ∃ call, effect = .call call
      · obtain ⟨call, rfl⟩ := calls
        change ofRoutine (.ask (.call call) fun reply => next reply >>= rest) = _
        rw [ofRoutine_call, ofRoutine_call, bind_assoc]
        refine congrArg (ofDriver (drive call) >>= ·) (funext fun reply => ?_)
        exact congrArg (Program.ask _) (funext fun _ => ih reply)
      · have other (call : Call) : effect ≠ .call call := fun same => calls ⟨call, same⟩
        change ofRoutine (.ask effect fun reply => next reply >>= rest) = _
        rw [ofRoutine_effect other, ofRoutine_effect other]
        exact congrArg (Program.ask _) (funext ih)

variable (bus : Bus σ) (react : Reaction σ η)

theorem run_ofDriver (driver : Driver α) (world : World σ η) :
    (ofDriver driver).run (Instant.respond bus react) world =
      ((bus.run driver world.board).1,
        { world with
          board := (bus.run driver world.board).2
          trace := ((bus.transfers driver world.board).map Event.transferred).reverse ++
            world.trace }) := by
  induction driver generalizing world with
  | done value => rfl
  | ask access next ih =>
      refine (ih _ _).trans ?_
      simp only [World.log, Bus.transfers, Bus.requests, Bus.run,
        Program.requests, Program.run, List.map_cons, List.reverse_cons, List.append_assoc,
        List.singleton_append]

/-- Taken apart, a routine runs as it does otherwise. -/
theorem run_ofRoutine (routine : Routine α) (world : World σ η) :
    (ofRoutine routine).run (Instant.respond bus react) world =
      world.run (hardwareOn bus) react routine := by
  induction routine generalizing world with
  | done value => rfl
  | ask effect next ih =>
      by_cases calls : ∃ call, effect = .call call
      · obtain ⟨call, rfl⟩ := calls
        have driven : (hardwareOn bus).respond call world.board = _ :=
          bus.drive_eq (drive call) world.board
        rw [ofRoutine_call, Program.run_bind, run_ofDriver]
        refine (ih _ _).trans ?_
        change _ = (world.respond (hardwareOn bus) react (.call call)).2.run _ react
          (next (world.respond (hardwareOn bus) react (.call call)).1)
        rw [World.respond_call, driven]
        rfl
      · have other (call : Call) : effect ≠ .call call := fun same => calls ⟨call, same⟩
        rw [ofRoutine_effect other]
        exact ih _ _

end Stepwise

/-! ## Interruptions -/

/-- A routine between two instants of which another handler has carried out an operation. -/
structure Interrupted (σ η α : Type) where
  left : Stepwise α
  before : World σ η
  outcome : Outcome
  /-- The world that the operation leaves, in which the routine goes on. -/
  between : World σ η
  final : World σ η

/-- Interrupts a routine after `n` instants. Callbacks that the operation invokes react in their
own way. -/
def interrupted {σ η α : Type} (bus : Bus σ) (react react' : Reaction σ η) (n : Nat)
    (operation : Operation) (routine : Routine α) (world : World σ η) : Interrupted σ η α :=
  let (left, before) := (Stepwise.ofRoutine routine).after (Instant.respond bus react) n world
  let (outcome, between) :=
    before.run (hardwareOn bus) react' (operation.routine (hardwareOn bus).vectors)
  let (_, final) := left.run (Instant.respond bus react) between
  { left, before, outcome, between, final }

end Max32660

end Interrupts
