import Interrupts.Proofs.Removal.Trace
import Interrupts.Proofs.Run.Leads
import Interrupts.Run.Scenario

/-! # Sound traces

The law of removals, and the invariant that carries it through a run: no registered
callback is a removed one, and the callback of a scan under way was removed, if at all,
from within that scan. Here the invariant is followed from event to event.
-/

namespace Interrupts

/-- A removed callback is invoked only for a clock or a serial channel, and only by an
operation that was running it when it was removed. -/
def Lawful {η : Type} (trace : List (Event η)) : Prop :=
  ∀ later source callback index rest,
    trace = later ++ .performed (.invoke source callback index) () :: rest →
    Removed source callback rest →
    (∀ line, source ≠ .gpio line) ∧
      RemovedUnder (some (source, callback) :: (frames rest).tail) source callback rest

section

variable {η : Type} {event : Event η} {trace : List (Event η)}

theorem Lawful.cons (h : Lawful trace)
    (first : ∀ source callback index, event = .performed (.invoke source callback index) () →
      Removed source callback trace →
      (∀ line, source ≠ .gpio line) ∧
        RemovedUnder (some (source, callback) :: (frames trace).tail) source callback trace) :
    Lawful (event :: trace) := by
  intro later source callback index rest split removed
  cases later with
  | nil =>
      obtain ⟨same, rfl⟩ := List.cons.inj split
      exact first source callback index same removed
  | cons _ later =>
      obtain ⟨_, rfl⟩ := List.cons.inj split
      exact h later source callback index rest rfl removed

def Effect.Concerns : Effect → Prop
  | install _ _ | erase _ | invoke _ _ _ => True
  | _ => False

def Event.Concerns : Event η → Prop
  | performed effect _ => effect.Concerns
  | _ => False

theorem Removed.of_cons {source : Source} {callback : Callback} (other : ¬ event.Concerns)
    (h : Removed source callback (event :: trace)) : Removed source callback trace := by
  rcases removedWhen_cons.1 h with ⟨rfl, _⟩ | ⟨_, h⟩
  · exact absurd trivial other
  · exact h

/-- Callbacks and the frames from within which alone they may have been removed. -/
abbrev Watch := Source → Callback → List Frame → Prop

/-- The trace is lawful, no registered callback is a removed one, and what is watched was
removed only from within its frames. -/
structure Sound (watched : Watch) (registry : Registry) (trace : List (Event η)) : Prop where
  lawful : Lawful trace
  standing {source : Source} {callback : Callback} :
    registry.find? source = some callback → ¬ Removed source callback trace
  watch {source : Source} {callback : Callback} {below : List Frame} :
    watched source callback below → RemovedOnlyUnder below source callback trace

namespace Sound

variable {watched : Watch} {registry : Registry}

theorem mono {fewer : Watch} (h : Sound watched registry trace)
    (le : ∀ source callback below, fewer source callback below → watched source callback below) :
    Sound fewer registry trace where
  lawful := h.lawful
  standing := h.standing
  watch w := h.watch (le _ _ _ w)

theorem cons (h : Sound watched registry trace) (other : ¬ event.Concerns) :
    Sound watched registry (event :: trace) where
  lawful := h.lawful.cons fun _ _ _ same => by
    subst same
    exact absurd trivial other
  standing found removed := h.standing found (removed.of_cons other)
  watch w := (h.watch w).cons fun _ _ same => by
    subst same
    exact absurd trivial other

theorem transferred (h : Sound watched registry trace) (transfers : List Transfer) :
    Sound watched registry ((transfers.map Event.transferred).reverse ++ trace) := by
  rw [← List.map_reverse]
  induction transfers.reverse with
  | nil => exact h
  | cons transfer rest ih => exact ih.cons id

theorem install (h : Sound watched registry trace) (source : Source) (callback : Callback)
    (replaced : Option Callback) :
    Sound watched (registry.install source callback).2
      (.performed (.install source callback) replaced :: trace) where
  lawful := h.lawful.cons fun _ _ _ same => nomatch same
  standing {other found} entry removed := by
    rw [Registry.find?_install] at entry
    rcases removedWhen_cons.1 removed with ⟨same, _⟩ | ⟨kept, removed⟩
    · cases same
    · split at entry
      next same =>
        subst same
        cases entry
        exact kept replaced rfl
      next => exact h.standing entry removed
  watch w := (h.watch w).cons fun _ _ same => nomatch same

theorem erase (h : Sound watched registry trace)
    (below : ∀ source callback below, watched source callback below →
      below <:+ (frames trace).tail) (source : Source) :
    Sound watched (registry.erase source).2
      (.performed (.erase source) (registry.erase source).1 :: trace) where
  lawful := h.lawful.cons fun _ _ _ same => nomatch same
  standing {other found} entry removed := by
    rw [Registry.find?_erase] at entry
    split at entry
    next => cases entry
    next different =>
      rcases removedWhen_cons.1 removed with ⟨same, _⟩ | ⟨_, removed⟩
      · injection same with effects
        injection effects with same
        exact different same
      · exact h.standing entry removed
  watch w := (h.watch w).cons fun _ _ _ => below _ _ _ w

theorem invoke (h : Sound watched registry trace) {source : Source} {callback : Callback}
    (index : Nat)
    (lawful : Removed source callback trace → (∀ line, source ≠ .gpio line) ∧
      RemovedUnder (some (source, callback) :: (frames trace).tail) source callback trace) :
    Sound watched registry (.performed (.invoke source callback index) () :: trace) where
  lawful := h.lawful.cons fun _ _ _ same => by
    cases same
    exact lawful
  standing entry removed := by
    rcases removedWhen_cons.1 removed with ⟨same, _⟩ | ⟨_, removed⟩
    · cases same
    · exact h.standing entry removed
  watch w := (h.watch w).cons fun _ _ same => nomatch same

end Sound

end

end Interrupts
