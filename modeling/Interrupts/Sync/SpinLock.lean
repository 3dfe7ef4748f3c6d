/-! # Spin lock

A lock that several contexts share, as a machine of atomic steps. A context that
wants the lock tries to swap its flag from free to taken; if that fails it reads
the flag until it is free and tries again. The lock neither queues nor favours
anybody. The protected value is written only by the context inside.

A context stands for one call and the guard that comes of it; who tries again with a
guard in hand does so as another context. Reading the value leaves the lock as it
is, so it is no move.

Any sequence of moves by any contexts is a run; a move that does not apply to the
phase of its context leaves the lock as it is.
-/

namespace Interrupts

/-- Where a context stands with respect to the lock. -/
inductive SpinLock.Phase where
  /-- The context has no business with the lock. -/
  | outside
  /-- Its next step tries to take the lock. -/
  | wanting
  /-- It has failed to take the lock and waits for the flag to be free. -/
  | spinning
  | inside
deriving DecidableEq

/-- A lock, its value, and the phase of every context. -/
structure SpinLock (α : Type) where
  taken : Bool
  value : α
  phase : Nat → SpinLock.Phase

namespace SpinLock

variable {α : Type}

def free (value : α) : SpinLock α := ⟨false, value, fun _ => .outside⟩

inductive Move (α : Type) where
  | want
  /-- Swaps the flag from free to taken, or fails and starts to spin. -/
  | attempt
  /-- Reads the flag; once it is free the context tries again. -/
  | look
  /-- Swaps the flag from free to taken, or fails and goes away. -/
  | tryOnce
  | write (value : α)
  | leave

def enter (lock : SpinLock α) (context : Nat) (phase : Phase) : Nat → Phase :=
  fun other => if other = context then phase else lock.phase other

def step (context : Nat) (move : Move α) (lock : SpinLock α) : SpinLock α :=
  match move, lock.phase context with
  | .want, .outside => { lock with phase := lock.enter context .wanting }
  | .attempt, .wanting =>
      if lock.taken then { lock with phase := lock.enter context .spinning }
      else { lock with taken := true, phase := lock.enter context .inside }
  | .look, .spinning =>
      if lock.taken then lock else { lock with phase := lock.enter context .wanting }
  | .tryOnce, .outside =>
      if lock.taken then lock
      else { lock with taken := true, phase := lock.enter context .inside }
  | .write value, .inside => { lock with value }
  | .leave, .inside => { lock with taken := false, phase := lock.enter context .outside }
  | _, _ => lock

def run (schedule : List (Nat × Move α)) (lock : SpinLock α) : SpinLock α :=
  schedule.foldl (fun lock entry => lock.step entry.1 entry.2) lock

def holds (lock : SpinLock α) (context : Nat) : Bool := lock.phase context = .inside

/-- One more attempt of a context that wants the lock or waits for it. -/
def pursue (context : Nat) (lock : SpinLock α) : SpinLock α :=
  ((lock.step context .want).step context .look).step context .attempt

def updateAndLeave (context : Nat) (f : α → α) (lock : SpinLock α) : SpinLock α :=
  (lock.step context (.write (f lock.value))).step context .leave

/-- Contexts `1` to `count` start together, each to update the value once under
the lock. If context `0` holds the lock it leaves once all of them have made
their first attempt. Whoever is first gets in; the others follow in turn. -/
def contend (count : Nat) (f : α → α) (lock : SpinLock α) : SpinLock α :=
  let contexts := (List.range count).map (· + 1)
  let started := contexts.foldl (fun lock context => lock.pursue context) lock
  let left := started.step 0 .leave
  contexts.foldl (fun lock context => (lock.pursue context).updateAndLeave context f) left

end SpinLock

end Interrupts
