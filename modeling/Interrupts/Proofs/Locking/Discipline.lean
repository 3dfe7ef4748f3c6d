import Interrupts.Proofs.Locking.Sections
import Interrupts.Proofs.Run.Reachable
import Interrupts.Run.FaultyRig
import Interrupts.Run.SimulatedRig

/-! # The discipline of the lock

Every operation takes the lock in sections that are not nested, touches the tables and
programs triggers only inside of them, and invokes callbacks only between them. A callback
therefore finds the lock free and interrupts unmasked, and so do the operations that it
makes; no operation ever waits for a lock that is held by itself. All this holds on any
board, whatever the board refuses.
-/

namespace Interrupts

variable {β η : Type}

namespace Effect

/-- The effect reads or writes a table, or programs the trigger of a line. -/
def Touches : Effect → Prop
  | find _ | install _ _ | erase _ | readLine _ | writeLine _ _ => True
  | call (.lines (.configureTrigger _ _)) => True
  | _ => False

end Effect

/-- An effect may be asked for in the world: what touches the tables inside of a section,
an invocation between two sections, the lock while it is free. -/
structure Permitted (base : World β η) (effect : Effect) (now : World β η) : Prop where
  touches : effect.Touches → Stands base true now
  invokes : effect.Invokes → Stands base false now
  acquires : effect = .acquire → now.held = false

/-- A routine that begins inside of a section, or between two, ends there, and all that it
asks for is permitted. -/
structure Disciplined {α : Type} (hardware : Hardware β) (react : Reaction β η)
    (base : World β η) (locked : Bool) (routine : Routine α) : Prop where
  final {world : World β η} : Stands base locked world →
    Stands base locked (world.run hardware react routine).2
  requests {world : World β η} : Stands base locked world →
    ∀ x ∈ world.requests hardware react routine, Permitted base x.1 x.2

namespace Disciplined

variable {hardware : Hardware β} {react : Reaction β η} {base : World β η} {locked : Bool}
  {α : Type}

theorem sequential : Sequential fun α => Disciplined (α := α) hardware react base locked where
  pure _ := ⟨id, fun _ _ h => absurd h List.not_mem_nil⟩
  bind first later := by
    constructor
    · intro world stands
      rw [World.run_bind]
      exact (later _).final (first.final stands)
    · intro world stands x hx
      rw [World.requests_bind] at hx
      rcases List.mem_append.1 hx with hx | hx
      · exact first.requests stands x hx
      · exact (later _).requests (first.final stands) x hx

theorem perform {effect : Effect} (quiet : ¬ effect.Invokes) (free : ¬ effect.Guards)
    (apart : effect.Touches → locked = true) :
    Disciplined hardware react base locked (Routine.perform effect) where
  final stands := stands.respond quiet free
  requests stands x hx := by
    rw [List.mem_singleton.1 hx]
    exact {
      touches := fun touches => apart touches ▸ stands
      invokes := fun invokes => absurd invokes quiet
      acquires := by
        rintro rfl
        exact absurd trivial free }

theorem critical {body : Routine α} (h : Disciplined hardware react base true body) :
    Disciplined hardware react base false (Routine.critical body) where
  final {world} stands := by
    rw [World.run_critical, stands.depth]
    exact (h.final stands.entered).exited
  requests {world} stands x hx := by
    rw [World.requests_critical] at hx
    simp only [List.mem_append, List.mem_cons, List.not_mem_nil, or_false] at hx
    obtain ((rfl | rfl) | within) | rfl | rfl := hx
    · exact ⟨False.elim, False.elim, fun h => nomatch h⟩
    · exact ⟨False.elim, False.elim, fun _ => stands.held⟩
    · exact h.requests stands.entered x within
    · exact ⟨False.elim, False.elim, fun h => nomatch h⟩
    · exact ⟨False.elim, False.elim, fun h => nomatch h⟩

theorem invoke (source : Source) (callback : Callback) (index : Nat)
    (keeps : ∀ callback index world, Stands base false world →
      Stands base false (react callback index world)) :
    Disciplined hardware react base false (Routine.perform (.invoke source callback index)) where
  final stands := keeps _ _ _ (Stands.entry (v := ⟨source, callback, index, _⟩) stands)
  requests stands x hx := by
    rw [List.mem_singleton.1 hx]
    exact ⟨False.elim, fun _ => stands, fun h => nomatch h⟩

theorem enabling : Enabling fun α => Disciplined (α := α) hardware react base true :=
  sequential.enabling fun _ quiet free _ => perform quiet free fun _ => rfl

theorem layered : Layered (fun α => Disciplined (α := α) hardware react base true)
    (fun α => Disciplined (α := α) hardware react base false) where
  inside := enabling.toSectional
  outside := sequential
  note notice := perform id id False.elim
  call c plain _ := by
    refine perform id id fun touches => ?_
    cases c with
    | lines c =>
        cases c with
        | configureTrigger _ _ => exact plain.elim
        | _ => exact touches.elim
    | _ => exact touches.elim
  critical := critical

theorem operation (vectors : VectorTable) (operation : Operation)
    (keeps : ∀ callback index world, Stands base false world →
      Stands base false (react callback index world)) :
    Disciplined hardware react base false (operation.routine vectors) :=
  layered.operation vectors operation
    (layered.enrols vectors (fun _ enrols => perform enrols.plain.1.quiet enrols.plain.2.1
      fun _ => rfl) operation)
    (layered.enables enabling vectors operation)
    (layered.delivers vectors (layered.dispatch fun _ _ _ => invoke _ _ _ keeps) operation)

theorem upholds {routine : Routine α} (h : Disciplined hardware react base false routine) :
    Routine.Upholds hardware react (Stands base false) routine where
  final := h.final
  entry stands v hv := by
    obtain ⟨x, hx, same⟩ := List.mem_filterMap.1 hv
    have permitted := h.requests stands x hx
    unfold Invocation.ofRequest? at same
    split at same
    next =>
      cases same
      exact Stands.entry (permitted.invokes trivial)
    next => cases same

end Disciplined

/-! ## Nested operations -/

namespace Rig

variable (rig : Rig β η) (behaviour : Behaviour β η)

/-- While the action is carried out in `world`, an operation asks for the effect in the
world beside it: the operation that is the action, or one that a callback makes. -/
inductive Performs : Nat → Action η → World β η → Effect × World β η → Prop
  | own {budget : Nat} {operation : Operation} {world : World β η} {x : Effect × World β η} :
      x ∈ world.requests rig.hardware (rig.reentrant behaviour budget)
        (operation.routine rig.hardware.vectors) →
      Performs budget (.operate operation) world x
  | nested {budget : Nat} {operation : Operation} {world : World β η} {v : Invocation β η}
      {step : Step η × World β η} {x : Effect × World β η} :
      v ∈ world.invocations rig.hardware (rig.reentrant behaviour (budget + 1))
        (operation.routine rig.hardware.vectors) →
      step ∈ Program.requests (rig.actInside (rig.reentrant behaviour budget))
        (behaviour v.callback v.index v.entry) v.entry →
      Performs budget step.1.action (step.2.log (.began step.1.label)) x →
      Performs (budget + 1) (.operate operation) world x

/-- While the command is executed in `world`, an operation asks for the effect in the world
beside it. -/
inductive Asks (budget : Nat) : Command η → World β η → Effect × World β η → Prop
  | step {step : Step η} {world : World β η} {x : Effect × World β η} :
      rig.Performs behaviour budget step.action world x → Asks budget (.step step) world x
  | stop {world : World β η} {x : Effect × World β η} :
      x ∈ world.requests rig.hardware (rig.reentrant behaviour budget)
        (Global.stop rig.hardware.vectors).run →
      Asks budget .restart world x
  | start {world : World β η} {x : Effect × World β η} :
      x ∈ (cleared (world.run rig.hardware (rig.reentrant behaviour budget)
        (Global.stop rig.hardware.vectors).run).2).requests rig.hardware
          (rig.reentrant behaviour budget) (Global.start rig.hardware.vectors) →
      Asks budget .restart world x

variable {rig behaviour} {base world : World β η}

theorem stands_stop (rig : Rig β η) (react : Reaction β η) (stands : Stands base false world) :
    Stands base false (world.run rig.hardware react (Global.stop rig.hardware.vectors).run).2 :=
  (Disciplined.layered.stop _).final stands

theorem stands_cleared (stands : Stands base false world) : Stands base false (cleared world) :=
  ⟨stands.held, stands.depth, stands.stuck, stands.since⟩

theorem stands_invariant (rig : Rig β η) :
    rig.Invariant (fun _ => True) fun base world => Stands base false world where
  began _ _ _ stands := stands.logged rfl rfl rfl rfl rfl
  ended _ _ _ stands := stands.logged rfl rfl rfl rfl rfl
  operate _ operation _ keeps _ base :=
    (Disciplined.operation _ operation (keeps base)).upholds
  call _ c _ _ _ _ stands := stands.respond id id
  adjust _ _ _ world _ stands := stands.logged rfl rfl rfl rfl rfl
  restart react base world after _ h stands := by
    rw [eq_of_restart h]
    exact (Disciplined.layered.start _).final (stands_cleared (stands_stop rig react stands))

theorem stands_reentrant (rig : Rig β η) (behaviour : Behaviour β η) (budget : Nat)
    (base : World β η) (callback : Callback) (index : Nat) (world : World β η)
    (stands : Stands base false world) :
    Stands base false (rig.reentrant behaviour budget callback index world) :=
  (stands_invariant rig).reentrant (fun _ _ _ => Program.only_of_forall (fun _ => trivial) _)
    budget base callback index world stands

theorem disciplined_reentrant (rig : Rig β η) (behaviour : Behaviour β η) (budget : Nat)
    (base : World β η) (operation : Operation) :
    Disciplined rig.hardware (rig.reentrant behaviour budget) base false
      (operation.routine rig.hardware.vectors) :=
  Disciplined.operation _ operation (stands_reentrant rig behaviour budget base)

theorem Performs.permitted {budget : Nat} {action : Action η} {x : Effect × World β η}
    (h : rig.Performs behaviour budget action world x) (stands : Stands base false world) :
    Permitted base x.1 x.2 := by
  -- By induction on the depth: a callback is entered between two sections, and what its steps
  -- do brings each next step back there.
  induction h with
  | own hx => exact (disciplined_reentrant rig behaviour _ base _).requests stands _ hx
  | nested hv hstep _ ih =>
      have entry := (disciplined_reentrant rig behaviour _ base _).upholds.entry stands _ hv
      have steps := ((stands_invariant rig).body (stands_reentrant rig behaviour _)
        (Program.only_of_forall (fun _ => trivial) _) entry).2 _ hstep
      exact ih (steps.2.logged rfl rfl rfl rfl rfl)

theorem Asks.permitted {budget : Nat} {command : Command η} {x : Effect × World β η}
    (h : rig.Asks behaviour budget command world x) (stands : Stands base false world) :
    Permitted base x.1 x.2 := by
  cases h with
  | step performs => exact performs.permitted stands
  | stop hx => exact (Disciplined.layered.stop _).requests stands x hx
  | start hx =>
      exact (Disciplined.layered.start _).requests (stands_cleared (stands_stop rig _ stands)) x hx

theorem stands_execute (rig : Rig β η) (behaviour : Behaviour β η) (budget : Nat)
    (command : Command η) (stands : Stands base false world) :
    ∃ last, Stands base false last ∧
      (rig.execute (rig.reentrant behaviour budget) command world).events =
        world.eventsSince last ∧
      ∀ after, (rig.execute (rig.reentrant behaviour budget) command world).world = some after →
        after = last := by
  cases command with
  | step step =>
      have kept : Stands base false
          (rig.act (rig.reentrant behaviour budget) step.action world).2 :=
        (stands_invariant rig).act (stands_reentrant rig behaviour budget) trivial stands
      exact ⟨_, kept, rfl, fun _ h => (Option.some.inj h).symm⟩
  | restart =>
      have stopped := stands_stop rig (rig.reentrant behaviour budget) stands
      simp only [execute]
      split
      next after ended =>
        rw [ended] at stopped
        have started : Stands base false (rig.start (rig.reentrant behaviour budget)
            (cleared after)) := (Disciplined.layered.start _).final (stands_cleared stopped)
        exact ⟨_, started, rfl, fun _ h => (Option.some.inj h).symm⟩
      next fault after ended =>
        rw [ended] at stopped
        refine ⟨after, stopped, rfl, ?_⟩
        rintro _ h
        cases h

/-- No context ever waits for the lock: it is free whenever the code of a user runs. -/
theorem reachable_unlocked {budget : Nat} {board : β} {commands : List (Command η)}
    (reached : rig.Reachable behaviour budget board commands world) :
    world.held = false ∧ world.depth = 0 ∧ world.stuck = false := by
  have fresh : Stands (World.initial board) false (World.initial board : World β η) :=
    .refl rfl rfl
  have started : Stands (World.initial board) false
      (rig.start (rig.reentrant behaviour budget) (World.initial board)) :=
    (Disciplined.layered.start _).final fresh
  have stands := (stands_invariant rig).reaches (j := World.initial board)
    (fun _ _ _ => Program.only_of_forall (fun _ => trivial) _) reached (fun _ _ => trivial) started
  exact ⟨stands.held, stands.depth, stands.stuck⟩

end Rig

/-- Whatever is done with the lock free and interrupts unmasked, on any board and with any
callbacks, masks and restores in pairs that are not nested, and leaves the lock free and
interrupts unmasked. The tables and the triggers of lines are touched inside of the pairs
only, callbacks are invoked outside of them, and the lock is asked for only while it is
free. -/
theorem lock_discipline (rig : Rig β η) (behaviour : Behaviour β η) (budget : Nat)
    (command : Command η) (world : World β η) (free : world.held = false)
    (unmasked : world.depth = 0) :
    let report := rig.execute (rig.reentrant behaviour budget) command world
    (∃ n, maskings report.events = sections n) ∧
    (∀ after, report.world = some after →
      after.held = false ∧ after.depth = 0 ∧ after.stuck = world.stuck) ∧
    ∀ effect now, rig.Asks behaviour budget command world (effect, now) →
      (effect.Touches → now.held = true ∧ now.depth = 1 ∧
        ∃ n, maskings (world.eventsSince now) = sections n ++ [.mask 0]) ∧
      (effect.Invokes → now.held = false ∧ now.depth = 0 ∧
        ∃ n, maskings (world.eventsSince now) = sections n) ∧
      (effect = .acquire → now.held = false) := by
  intro report
  have stands := Stands.refl free unmasked
  obtain ⟨last, rests, events, ends⟩ :=
    rig.stands_execute behaviour budget command stands
  have free {now : World β η} (h : Stands world false now) :
      now.held = false ∧ now.depth = 0 ∧ ∃ n, maskings (world.eventsSince now) = sections n := by
    obtain ⟨n, same⟩ := h.maskings_eq
    exact ⟨h.held, h.depth, n, same.trans (List.append_nil _)⟩
  refine ⟨?_, ?_, ?_⟩
  · rw [events]
    exact (free rests).2.2
  · intro after h
    obtain rfl := ends after h
    exact ⟨rests.held, rests.depth, rests.stuck⟩
  · intro effect now asks
    have permitted := asks.permitted stands
    exact ⟨fun touches => ⟨(permitted.touches touches).held, (permitted.touches touches).depth,
      (permitted.touches touches).maskings_eq⟩, fun invokes => free (permitted.invokes invokes),
      permitted.acquires⟩

open Simulated in
/-- A callback gives its own line another trigger, which the board refuses: one section for
the lookup and one for the refused operation, and the lock is free. -/
theorem lock_discipline_refused :
    let rig := (rig number).faulty
    let behaviour : Behaviour (Faulty Board) (Faulty.Adjustment Adjustment) := fun _ _ _ =>
      Body.ofSteps [⟨"", .operate (.retrigger 3 .levelLow)⟩]
    let react := rig.reentrant behaviour 1
    let refusal : Refusal := ⟨LineCall.name (.configureTrigger 3 .levelLow), 1, .busy⟩
    let board := (Faulty.fresh Board.initial).schedule refusal
    let registered := (rig.act react
      (.operate (.register (.gpio 3) ⟨.routine, 1, .gpio .risingEdge, 1⟩)) (World.initial board)).2
    let world := (rig.act react (.adjust (.board (.stimulate (.raiseLines 0x8)))) registered).2
    let report := rig.execute react (.step ⟨"", .operate (.dispatch .gpio)⟩) world
    maskings report.events = sections 2 ∧
      report.events.any (· matches .ended (.refused .busy)) = true ∧
      ∃ after, report.world = some after ∧ after.held = false := by
  intro rig behaviour react refusal board registered world report
  have discipline := lock_discipline rig behaviour 1 (.step ⟨"", .operate (.dispatch .gpio)⟩) world
    (by decide +kernel) (by decide +kernel)
  refine ⟨?_, ?_, _, rfl, (discipline.2.1 _ rfl).1⟩
  · decide +kernel
  · decide +kernel

end Interrupts
