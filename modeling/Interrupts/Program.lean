/-! # Programs over requests

A program is a tree: it is done, or it makes a request and goes on according to
the answer. What a request means is left to whoever runs the program, so one
program can be run against any board, any lock and any callbacks.

Running is compositional: `run_bind` splits a run at any point of the program, and
by `run_invariant` a run keeps whatever every single answer keeps.
-/

namespace Interrupts

/-- A program that makes requests `ρ`, is answered in `answer`, and ends with an `α`. -/
inductive Program (ρ : Type) (answer : ρ → Type) (α : Type) where
  | done (value : α)
  | ask (request : ρ) (next : answer request → Program ρ answer α)

namespace Program

variable {ρ : Type} {answer : ρ → Type} {α β σ : Type}

protected def bind : Program ρ answer α → (α → Program ρ answer β) → Program ρ answer β
  | done value, rest => rest value
  | ask request next, rest => ask request fun reply => (next reply).bind rest

instance : Monad (Program ρ answer) where
  pure := done
  bind := Program.bind

def request (r : ρ) : Program ρ answer (answer r) := ask r done

def run (respond : (r : ρ) → σ → answer r × σ) : Program ρ answer α → σ → α × σ
  | done value, state => (value, state)
  | ask r next, state =>
      let (reply, state) := respond r state
      run respond (next reply) state

theorem bind_done (p : Program ρ answer α) : p.bind done = p := by
  induction p with
  | done value => rfl
  | ask r next ih => simp only [Program.bind, ih]

theorem bind_assoc {γ : Type} (p : Program ρ answer α) (f : α → Program ρ answer β)
    (g : β → Program ρ answer γ) :
    (p.bind f).bind g = p.bind fun value => (f value).bind g := by
  induction p with
  | done value => rfl
  | ask r next ih => simp only [Program.bind, ih]

instance : LawfulMonad (Program ρ answer) :=
  LawfulMonad.mk' _ (fun p => bind_done p) (fun _ _ => rfl) (fun p f g => bind_assoc p f g)

@[simp] theorem run_pure (respond : (r : ρ) → σ → answer r × σ) (value : α) (state : σ) :
    run respond (pure value : Program ρ answer α) state = (value, state) := rfl

@[simp] theorem run_request (respond : (r : ρ) → σ → answer r × σ) (r : ρ) (state : σ) :
    run respond (request r : Program ρ answer (answer r)) state = respond r state := rfl

@[simp] theorem run_bind (respond : (r : ρ) → σ → answer r × σ) (p : Program ρ answer α)
    (rest : α → Program ρ answer β) (state : σ) :
    run respond (p >>= rest) state =
      run respond (rest (run respond p state).1) (run respond p state).2 := by
  change run respond (p.bind rest) state = _
  induction p generalizing state with
  | done value => rfl
  | ask r next ih => exact ih _ _

theorem run_invariant {invariant : σ → Prop} (respond : (r : ρ) → σ → answer r × σ)
    (keeps : ∀ r state, invariant state → invariant (respond r state).2)
    (p : Program ρ answer α) {state : σ} (holds : invariant state) :
    invariant (run respond p state).2 := by
  induction p generalizing state with
  | done value => exact holds
  | ask r next ih => exact ih _ (keeps r state holds)

end Program

end Interrupts
