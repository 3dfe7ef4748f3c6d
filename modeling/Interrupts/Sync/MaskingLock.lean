/-! # Masking lock

A lock for values that interrupt handlers share. Taking it masks interrupts
first, one level deeper, and remembers the depth before; giving it back frees
the lock and then sets the depth to the remembered one. Several locks share the
masking depth of the context that takes them.
-/

namespace Interrupts

inductive MaskEvent where
  /-- Masked one level deeper; the depth before is given. -/
  | mask (depth : Nat)
  | restore (depth : Nat)
deriving DecidableEq

def MaskEvent.text : MaskEvent → String
  | mask depth => s!"mask {depth}"
  | restore depth => s!"restore {depth}"

structure MaskingLock (α : Type) where
  value : α
  taken : Bool
  /-- The depth that the live guard remembers, if there is one. -/
  guard : Option Nat
deriving DecidableEq

/-- All locks of a context and its masking depth. -/
structure MaskingLocks (α : Type) where
  depth : Nat
  locks : List (MaskingLock α)
deriving DecidableEq

namespace MaskingLocks

variable {α : Type}

def free (values : List α) : MaskingLocks α :=
  ⟨0, values.map fun value => ⟨value, false, none⟩⟩

def lock? (state : MaskingLocks α) (i : Nat) : Option (MaskingLock α) := state.locks[i]?

def put (state : MaskingLocks α) (i : Nat) (lock : MaskingLock α) : MaskingLocks α :=
  { state with locks := state.locks.set i lock }

def guarded? (state : MaskingLocks α) (i : Nat) : Option α := do
  let lock ← state.lock? i
  if lock.guard.isSome then some lock.value else none

/-- Takes lock `i`. There is no answer if the lock is taken: the context would
spin on a lock that it holds itself. -/
def acquire? (state : MaskingLocks α) (i : Nat) : Option (List MaskEvent × MaskingLocks α) := do
  let lock ← state.lock? i
  if lock.taken then none
  else
    let masked := { state with depth := state.depth + 1 }
    some ([.mask state.depth], masked.put i { lock with taken := true, guard := some state.depth })

def release? (state : MaskingLocks α) (i : Nat) : Option (List MaskEvent × MaskingLocks α) := do
  let lock ← state.lock? i
  let depth ← lock.guard
  some ([.restore depth], { state.put i { lock with taken := false, guard := none } with depth })

def update? (state : MaskingLocks α) (i : Nat) (f : α → α) : Option (α × MaskingLocks α) := do
  let lock ← state.lock? i
  if lock.guard.isSome then some (f lock.value, state.put i { lock with value := f lock.value })
  else none

def within? (state : MaskingLocks α) (i : Nat) (f : α → α) :
    Option (α × List MaskEvent × MaskingLocks α) := do
  let (masked, state) ← state.acquire? i
  let (value, state) ← state.update? i f
  let (restored, state) ← state.release? i
  some (value, masked ++ restored, state)

/-- Other contexts, each with a masking depth of its own, update lock `i` once
each. If this context holds the lock it drops its guard for them. Then it reads
the value under the lock. -/
def contend? (state : MaskingLocks α) (i count : Nat) (f : α → α) :
    Option (α × List MaskEvent × MaskingLocks α) := do
  let (dropped, state) := (state.release? i).getD ([], state)
  let lock ← state.lock? i
  let state := state.put i { lock with value := Nat.repeat f count lock.value }
  let (value, events, state) ← state.within? i id
  some (value, dropped ++ events, state)

end MaskingLocks

end Interrupts
