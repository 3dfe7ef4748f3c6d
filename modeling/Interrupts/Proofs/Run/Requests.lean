import Interrupts.Run.World

/-! # Requests of a run

A run is more than its end: between any two requests there is a state. `requests`
lists all of them, so that a statement can speak about the moment at which something
was asked for. For a routine in a world the requests that matter most are the
invocations, for it is there that the code of a user takes over.

`Only` bounds the requests that a program can make at all, whatever it is answered;
what such requests keep, the program keeps.
-/

namespace Interrupts

namespace Program

variable {ρ : Type} {answer : ρ → Type} {α β σ : Type}

/-- The requests of a run in their order, each with the state that answers it. -/
def requests (respond : (r : ρ) → σ → answer r × σ) : Program ρ answer α → σ → List (ρ × σ)
  | done _, _ => []
  | ask r next, state =>
      (r, state) :: requests respond (next (respond r state).1) (respond r state).2

@[simp] theorem requests_pure (respond : (r : ρ) → σ → answer r × σ) (value : α) (state : σ) :
    requests respond (pure value : Program ρ answer α) state = [] := rfl

@[simp] theorem requests_bind (respond : (r : ρ) → σ → answer r × σ) (p : Program ρ answer α)
    (rest : α → Program ρ answer β) (state : σ) :
    requests respond (p >>= rest) state =
      requests respond p state ++
        requests respond (rest (run respond p state).1) (run respond p state).2 := by
  change requests respond (p.bind rest) state = _
  induction p generalizing state with
  | done value => rfl
  | ask r next ih => exact congrArg ((r, state) :: ·) (ih _ _)

/-- Whatever the answers, the program makes no other requests than these. -/
def Only (permitted : ρ → Prop) : Program ρ answer α → Prop
  | done _ => True
  | ask r next => permitted r ∧ ∀ reply, (next reply).Only permitted

variable {permitted : ρ → Prop}

theorem only_of_forall (h : ∀ r, permitted r) (p : Program ρ answer α) : p.Only permitted := by
  induction p with
  | done value => trivial
  | ask r next ih => exact ⟨h r, ih⟩

theorem Only.mono {allowed : ρ → Prop} {p : Program ρ answer α} (h : p.Only permitted)
    (entails : ∀ r, permitted r → allowed r) : p.Only allowed := by
  induction p with
  | done value => trivial
  | ask r next ih => exact ⟨entails r h.1, fun reply => ih reply (h.2 reply)⟩

theorem Only.and {other : ρ → Prop} {p : Program ρ answer α} (h : p.Only permitted)
    (h' : p.Only other) : p.Only fun r => permitted r ∧ other r := by
  induction p with
  | done value => trivial
  | ask r next ih => exact ⟨⟨h.1, h'.1⟩, fun reply => ih reply (h.2 reply) (h'.2 reply)⟩

theorem Only.bind {p : Program ρ answer α} {rest : α → Program ρ answer β}
    (first : p.Only permitted) (later : ∀ value, (rest value).Only permitted) :
    (p >>= rest).Only permitted := by
  change (p.bind rest).Only permitted
  induction p with
  | done value => exact later value
  | ask r next ih => exact ⟨first.1, fun reply => ih reply (first.2 reply)⟩

theorem Only.forall_mem {p : Program ρ answer α} (h : p.Only permitted)
    (respond : (r : ρ) → σ → answer r × σ) (state : σ) :
    ∀ x ∈ p.requests respond state, permitted x.1 := by
  induction p generalizing state with
  | done value => exact fun _ hx => absurd hx List.not_mem_nil
  | ask r next ih => exact List.forall_mem_cons.2 ⟨h.1, ih _ (h.2 _) _⟩

theorem Only.invariant {invariant : σ → Prop} (respond : (r : ρ) → σ → answer r × σ)
    (keeps : ∀ r state, permitted r → invariant state → invariant (respond r state).2)
    {p : Program ρ answer α} (h : p.Only permitted) {state : σ} (holds : invariant state) :
    invariant (run respond p state).2 ∧
      ∀ x ∈ requests respond p state, permitted x.1 ∧ invariant x.2 := by
  induction p generalizing state with
  | done value => exact ⟨holds, by simp [requests]⟩
  | ask r next ih =>
      obtain ⟨last, within⟩ := ih _ (h.2 _) (keeps r state h.1 holds)
      refine ⟨last, ?_⟩
      intro x hx
      rcases List.mem_cons.1 hx with rfl | hx
      · exact ⟨h.1, holds⟩
      · exact within x hx

theorem Only.lasts {invariant : σ → Prop} (respond : (r : ρ) → σ → answer r × σ)
    (keeps : ∀ r state, permitted r → invariant state → invariant (respond r state).2)
    {p : Program ρ answer α} (h : p.Only permitted) {state : σ} :
    ∀ x ∈ requests respond p state, invariant (respond x.1 x.2).2 →
      invariant (run respond p state).2 := by
  induction p generalizing state with
  | done value => exact fun _ hx => absurd hx List.not_mem_nil
  | ask r next ih =>
      intro x hx holds
      rcases List.mem_cons.1 hx with rfl | hx
      · exact ((h.2 _).invariant respond keeps holds).1
      · exact ih _ (h.2 _) x hx holds

/-- What holds at the end but not at the beginning comes with some request. -/
theorem exists_request (property : σ → Prop) (respond : (r : ρ) → σ → answer r × σ)
    (p : Program ρ answer α) {state : σ} (before : ¬ property state)
    (after : property (run respond p state).2) :
    ∃ x ∈ requests respond p state, ¬ property x.2 ∧ property (respond x.1 x.2).2 := by
  induction p generalizing state with
  | done value => exact absurd after before
  | ask r next ih =>
      by_cases now : property (respond r state).2
      · exact ⟨(r, state), List.mem_cons_self, before, now⟩
      · obtain ⟨x, hx, came⟩ := ih _ now after
        exact ⟨x, List.mem_cons_of_mem _ hx, came⟩

end Program

/-! ## Invocations -/

/-- A callback about to be told of an event. -/
structure Invocation (β η : Type) where
  source : Source
  callback : Callback
  index : Nat
  world : World β η

namespace Invocation

variable {β η : Type}

/-- The world that the callback is handed, in which its invocation is recorded. -/
def entry (v : Invocation β η) : World β η :=
  (v.world.record v.callback v.index).log (.performed (.invoke v.source v.callback v.index) ())

def outcome (react : Reaction β η) (v : Invocation β η) : World β η :=
  react v.callback v.index v.entry

def ofRequest? : Effect × World β η → Option (Invocation β η)
  | (.invoke source callback index, world) => some ⟨source, callback, index, world⟩
  | _ => none

end Invocation

namespace Effect

def Invokes : Effect → Prop
  | invoke _ _ _ => True
  | _ => False

end Effect

namespace World

variable {β η : Type} {α γ : Type} (hardware : Hardware β) (react : Reaction β η)

def requests (routine : Routine α) (world : World β η) : List (Effect × World β η) :=
  Program.requests (respond hardware react) routine world

/-- The callbacks that a routine invokes itself, in their order. Those that are invoked
while one of them runs are not among them. -/
def invocations (routine : Routine α) (world : World β η) : List (Invocation β η) :=
  (world.requests hardware react routine).filterMap Invocation.ofRequest?

theorem requests_bind (routine : Routine α) (rest : α → Routine γ) (world : World β η) :
    world.requests hardware react (routine >>= rest) =
      world.requests hardware react routine ++
        (world.run hardware react routine).2.requests hardware react
          (rest (world.run hardware react routine).1) :=
  Program.requests_bind _ routine rest world

theorem requests_map (routine : Routine α) (f : α → γ) (world : World β η) :
    world.requests hardware react (f <$> routine) = world.requests hardware react routine := by
  rw [← bind_pure_comp, requests_bind]
  exact List.append_nil _

theorem invocations_map (routine : Routine α) (f : α → γ) (world : World β η) :
    world.invocations hardware react (f <$> routine) =
      world.invocations hardware react routine := by
  rw [invocations, requests_map, invocations]

@[simp] theorem invocations_pure (value : α) (world : World β η) :
    world.invocations hardware react (pure value) = [] := rfl

@[simp] theorem invocations_perform (effect : Effect) (world : World β η) :
    world.invocations hardware react (Routine.perform effect) =
      (Invocation.ofRequest? (effect, world)).toList := by
  cases effect <;> rfl

@[simp] theorem invocations_bind (routine : Routine α) (rest : α → Routine γ)
    (world : World β η) :
    world.invocations hardware react (routine >>= rest) =
      world.invocations hardware react routine ++
        (world.run hardware react routine).2.invocations hardware react
          (rest (world.run hardware react routine).1) := by
  rw [invocations, requests_bind, List.filterMap_append]
  rfl

@[simp] theorem run_map (routine : Routine α) (f : α → γ) (world : World β η) :
    world.run hardware react (f <$> routine) =
      (f (world.run hardware react routine).1, (world.run hardware react routine).2) := by
  rw [← bind_pure_comp, run_bind]
  simp

@[simp] theorem respond_invoke (source : Source) (callback : Callback) (index : Nat)
    (world : World β η) :
    world.respond hardware react (.invoke source callback index) =
      ((), (Invocation.mk source callback index world).outcome react) := rfl

end World

end Interrupts
