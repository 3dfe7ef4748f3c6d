import Interrupts.Proofs.Run.Requests

/-! # Removals in a trace

A trace tells when a callback was taken out of its source, and which callbacks were
running at that moment. `frames` reads the latter from the trace: every operation under
way has a frame, in which stands the callback that it invoked last, and the steps of that
callback open frames above it.
-/

namespace Interrupts

variable {η : Type}

/-- What an operation under way invoked last. -/
abbrev Frame := Option (Source × Callback)

def frames : List (Event η) → List Frame
  | [] => [none]
  | .performed (.invoke source callback _) _ :: rest =>
      some (source, callback) :: (frames rest).tail
  | .began _ :: rest => none :: frames rest
  | .ended _ :: rest => (frames rest).tail
  | _ :: rest => frames rest

theorem frames_performed {effect : Effect} (quiet : ¬ effect.Invokes) (answer : effect.Answer)
    (trace : List (Event η)) : frames (.performed effect answer :: trace) = frames trace := by
  cases effect with
  | invoke _ _ _ => exact absurd trivial quiet
  | _ => rfl

theorem frames_transferred (transfers : List Transfer) (trace : List (Event η)) :
    frames ((transfers.map Event.transferred).reverse ++ trace) = frames trace := by
  rw [← List.map_reverse]
  induction transfers.reverse with
  | nil => rfl
  | cons transfer rest ih => exact ih

/-- The callback was taken out of the source when the trace so far met the condition, and
it was not installed again since. -/
def RemovedWhen (condition : List (Event η) → Prop) (source : Source) (callback : Callback)
    (trace : List (Event η)) : Prop :=
  ∃ between before, trace = between ++ .performed (.erase source) (.ok callback) :: before ∧
    (∀ replaced, .performed (.install source callback) replaced ∉ between) ∧ condition before

/-- The callback was taken out of the source and was not installed again since. -/
def Removed (source : Source) (callback : Callback) (trace : List (Event η)) : Prop :=
  RemovedWhen (fun _ => True) source callback trace

def RemovedUnder (below : List Frame) (source : Source) (callback : Callback)
    (trace : List (Event η)) : Prop :=
  RemovedWhen (fun before => below <:+ (frames before).tail) source callback trace

variable {condition : List (Event η) → Prop} {source : Source} {callback : Callback}
  {event : Event η} {trace : List (Event η)}

theorem removedWhen_cons : RemovedWhen condition source callback (event :: trace) ↔
    (event = .performed (.erase source) (.ok callback) ∧ condition trace) ∨
      ((∀ replaced, event ≠ .performed (.install source callback) replaced) ∧
        RemovedWhen condition source callback trace) := by
  constructor
  · intro removed
    obtain ⟨between, before, split, kept, holds⟩ := removed
    cases between with
    | nil =>
        obtain ⟨rfl, rfl⟩ := List.cons.inj split
        exact .inl ⟨rfl, holds⟩
    | cons first rest =>
        obtain ⟨rfl, rfl⟩ := List.cons.inj split
        have other (replaced) : event ≠ .performed (.install source callback) replaced := by
          intro same
          exact kept replaced (same ▸ List.mem_cons_self)
        have keptAfter (replaced) : .performed (.install source callback) replaced ∉ rest := by
          intro member
          exact kept replaced (List.mem_cons_of_mem _ member)
        exact .inr ⟨other, rest, before, rfl, keptAfter, holds⟩
  · intro either
    rcases either with ⟨rfl, holds⟩ | ⟨other, between, before, rfl, kept, holds⟩
    · exact ⟨[], trace, rfl, by simp, holds⟩
    · refine ⟨event :: between, before, rfl, ?_, holds⟩
      intro replaced member
      rcases List.mem_cons.1 member with same | member
      · exact other replaced same.symm
      · exact kept replaced member

def isRemoved (source : Source) (callback : Callback) : List (Event η) → Bool
  | [] => false
  | .performed (.erase other) (.ok erased) :: rest =>
      (other, erased) = (source, callback) || isRemoved source callback rest
  | .performed (.install other installed) _ :: rest =>
      (other, installed) ≠ (source, callback) && isRemoved source callback rest
  | _ :: rest => isRemoved source callback rest

theorem isRemoved_iff : isRemoved source callback trace = true ↔ Removed source callback trace := by
  induction trace with
  | nil => simp [isRemoved, Removed, RemovedWhen]
  | cons event rest ih =>
      rw [Removed, removedWhen_cons, ← Removed, ← ih]
      cases event with
      | performed effect answer =>
          cases effect with
          | erase other => cases answer <;> simp [isRemoved]
          | install other installed =>
              by_cases same : (other, installed) = (source, callback)
              · cases same
                simp [isRemoved]
              · have kept (replaced) : Event.performed (.install other installed) answer ≠
                    Event.performed (η := η) (.install source callback) replaced := by
                  intro equal
                  cases equal
                  exact same rfl
                simp [isRemoved, same, kept]
          | _ => simp [isRemoved]
      | _ => simp [isRemoved]

instance : Decidable (Removed source callback trace) := decidable_of_iff _ isRemoved_iff

theorem RemovedUnder.removed {below : List Frame}
    (h : RemovedUnder below source callback trace) : Removed source callback trace := by
  obtain ⟨between, before, split, kept, _⟩ := h
  exact ⟨between, before, split, kept, trivial⟩

/-- If the callback was removed at all, then from within these frames. -/
def RemovedOnlyUnder (below : List Frame) (source : Source) (callback : Callback)
    (trace : List (Event η)) : Prop :=
  Removed source callback trace → RemovedUnder below source callback trace

theorem RemovedOnlyUnder.cons {below : List Frame}
    (h : RemovedOnlyUnder below source callback trace)
    (within : ∀ source callback, event = .performed (.erase source) (.ok callback) →
      below <:+ (frames trace).tail) :
    RemovedOnlyUnder below source callback (event :: trace) := by
  intro removed
  rcases removedWhen_cons.1 removed with ⟨erased, _⟩ | ⟨other, removed⟩
  · exact removedWhen_cons.2 (.inl ⟨erased, within _ _ erased⟩)
  · exact removedWhen_cons.2 (.inr ⟨other, h removed⟩)

/-! ## Invocations -/

/-- The callback was invoked for the source when the trace so far met the condition. -/
def InvokedWhen (condition : List (Event η) → Prop) (source : Source) (callback : Callback)
    (trace : List (Event η)) : Prop :=
  ∃ later index rest,
    trace = later ++ .performed (.invoke source callback index) () :: rest ∧ condition rest

def isInvokedWhen (condition : List (Event η) → Bool) (source : Source) (callback : Callback) :
    List (Event η) → Bool
  | [] => false
  | .performed (.invoke other invoked _) _ :: rest =>
      ((other, invoked) = (source, callback) && condition rest) ||
        isInvokedWhen condition source callback rest
  | _ :: rest => isInvokedWhen condition source callback rest

theorem invokedWhen_cons : InvokedWhen condition source callback (event :: trace) ↔
    ((∃ index, event = .performed (.invoke source callback index) ()) ∧ condition trace) ∨
      InvokedWhen condition source callback trace := by
  constructor
  · intro invoked
    obtain ⟨later, index, rest, split, holds⟩ := invoked
    cases later with
    | nil =>
        obtain ⟨rfl, rfl⟩ := List.cons.inj split
        exact .inl ⟨⟨index, rfl⟩, holds⟩
    | cons _ later =>
        obtain ⟨_, rfl⟩ := List.cons.inj split
        exact .inr ⟨later, index, rest, rfl, holds⟩
  · intro either
    rcases either with ⟨⟨index, rfl⟩, holds⟩ | ⟨later, index, rest, rfl, holds⟩
    · exact ⟨[], index, trace, rfl, holds⟩
    · exact ⟨event :: later, index, rest, rfl, holds⟩

theorem isInvokedWhen_iff [DecidablePred condition] :
    isInvokedWhen (condition ·) source callback trace = true ↔
      InvokedWhen condition source callback trace := by
  induction trace with
  | nil => simp [isInvokedWhen, InvokedWhen]
  | cons event rest ih =>
      rw [invokedWhen_cons, ← ih]
      cases event with
      | performed effect answer =>
          cases effect with
          | invoke other invoked index => simp [isInvokedWhen]
          | _ => simp [isInvokedWhen]
      | _ => simp [isInvokedWhen]

instance [DecidablePred condition] : Decidable (InvokedWhen condition source callback trace) :=
  decidable_of_iff _ isInvokedWhen_iff

end Interrupts
