import Interrupts.Proofs.Run.State

/-! # The calls of a run

Of all that a routine asks for, what reaches hardware are its calls on the board. `calls`
lists them in their order, each with the state of the board that answers it, so that the
answers, and with them the refusals, can be read off. A routine that takes no lock and invokes
no callback asks in a world for what it asks for in the state.
-/

namespace Interrupts

open Routine Guarded

/-- A call with the board that answers it. -/
structure Asked (β : Type) where
  call : Call
  board : β

def Hardware.askLines {β : Type} (hardware : Hardware β) (c : LineCall) (board : β) :
    c.Answer × β :=
  ((hardware.respond (.lines c) board).1, (hardware.respond (.lines c) board).2.1)

namespace Effect

def asked? {β : Type} (board : β) : Effect → Option (Asked β)
  | call c => some ⟨c, board⟩
  | _ => none

/-- The effect neither hands control to a callback nor has to do with the lock. -/
def Inner (effect : Effect) : Prop := ¬ effect.Invokes ∧ ¬ effect.Guards

theorem inner_enabling : Enabling fun α (routine : Routine α) => routine.Only Inner :=
  only_sequential.enabling fun _ quiet free _ => ⟨⟨quiet, free⟩, fun _ => trivial⟩

end Effect

def Asked.fault? {β : Type} (hardware : Hardware β) (asked : Asked β) : Option Fault :=
  match Outcome.ofAnswer asked.call (hardware.respond asked.call asked.board).1 with
  | .refused fault => some fault
  | _ => none

namespace State

variable {β α γ : Type} (hardware : Hardware β)

/-- The effects that a routine asks for, each with the state at that moment. -/
def requests (routine : Routine α) (state : State β) : List (Effect × State β) :=
  Program.requests (respond hardware) routine state

def calls (routine : Routine α) (state : State β) : List (Asked β) :=
  (state.requests hardware routine).filterMap fun x => x.1.asked? x.2.board

theorem requests_bind (routine : Routine α) (rest : α → Routine γ) (state : State β) :
    state.requests hardware (routine >>= rest) =
      state.requests hardware routine ++
        (state.run hardware routine).2.requests hardware
          (rest (state.run hardware routine).1) :=
  Program.requests_bind _ routine rest state

theorem requests_map (routine : Routine α) (f : α → γ) (state : State β) :
    state.requests hardware (f <$> routine) = state.requests hardware routine := by
  rw [← bind_pure_comp, requests_bind]
  exact List.append_nil _

theorem requests_lift (routine : Routine α) (state : State β) :
    state.requests hardware (liftM routine : Guarded α).run = state.requests hardware routine :=
  requests_map hardware routine Except.ok state

theorem requests_andThen (program : Guarded α) (rest : α → Guarded γ) (state : State β) :
    state.requests hardware (program >>= rest).run =
      state.requests hardware program.run ++
        match state.run hardware program.run with
        | (.ok value, after) => after.requests hardware (rest value).run
        | (.error _, _) => [] := by
  rw [ExceptT.run_bind, requests_bind]
  obtain ⟨result, after⟩ := state.run hardware program.run
  cases result <;> rfl

theorem calls_andThen (program : Guarded α) (rest : α → Guarded γ) (state : State β) :
    state.calls hardware (program >>= rest).run =
      state.calls hardware program.run ++
        match state.run hardware program.run with
        | (.ok value, after) => after.calls hardware (rest value).run
        | (.error _, _) => [] := by
  rw [calls, requests_andThen, List.filterMap_append]
  split <;> rfl

theorem calls_lift (routine : Routine α) (state : State β) :
    state.calls hardware (liftM routine : Guarded α).run = state.calls hardware routine := by
  rw [calls, requests_lift, calls]

end State

namespace World

variable {β η α : Type} (hardware : Hardware β) (react : Reaction β η)

def calls (routine : Routine α) (world : World β η) : List (Asked β) :=
  (world.requests hardware react routine).filterMap fun x => x.1.asked? x.2.board

theorem calls_critical (body : Routine α) (world : World β η) :
    world.calls hardware react (critical body) = world.entered.calls hardware react body := by
  rw [calls, requests_critical, List.filterMap_append, List.filterMap_append]
  simp only [List.filterMap_cons, List.filterMap_nil, Effect.asked?, List.nil_append,
    List.append_nil]
  rfl

/-- What is neither an invocation nor of the lock does in a world what it does in the state. -/
theorem respond_state {effect : Effect} (inner : effect.Inner) (world : World β η) :
    world.state.respond hardware effect = ((world.respond hardware react effect).1,
      (world.respond hardware react effect).2.state) :=
  ((Quiet.perform effect inner.1 inner.2).run hardware react world).symm

theorem requests_state {routine : Routine α} (inner : routine.Only Effect.Inner)
    (world : World β η) :
    (world.requests hardware react routine).map (fun x => (x.1, x.2.state)) =
      world.state.requests hardware routine := by
  induction routine generalizing world with
  | done value => rfl
  | ask effect next ih =>
      have later := ih (world.respond hardware react effect).1 (inner.2 _)
        (world.respond hardware react effect).2
      refine congrArg ((effect, world.state) :: ·) (later.trans ?_)
      rw [respond_state hardware react inner.1 world]
      rfl

theorem calls_state {routine : Routine α} (inner : routine.Only Effect.Inner)
    (world : World β η) :
    world.calls hardware react routine = world.state.calls hardware routine := by
  rw [calls, State.calls, ← requests_state hardware react inner world, List.filterMap_map]
  rfl

end World

end Interrupts
