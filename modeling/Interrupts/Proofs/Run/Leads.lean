import Interrupts.Proofs.Run.Assembly
import Interrupts.Proofs.Run.Respond

/-! # Leading from one property to another

What can be said of a routine when the callbacks that it invokes are only known to keep
some property: where it leads from a world with the one property, and in what worlds the
callbacks are entered. A routine that leads from a property to itself and hands it to its
callbacks upholds it. Operations uphold whatever all effects but invocations keep and
whatever the deliveries uphold.
-/

namespace Interrupts

namespace Routine

/-- Begun in a world with `before`, the routine ends with `after` and hands only worlds
with `seen` to the callbacks that it invokes. -/
structure Leads {β η α : Type} (hardware : Hardware β) (react : Reaction β η)
    (seen before : World β η → Prop) (after : α → World β η → Prop) (routine : Routine α) :
    Prop where
  final {world : World β η} : before world →
    after (world.run hardware react routine).1 (world.run hardware react routine).2
  entry {world : World β η} : before world →
    ∀ v ∈ world.invocations hardware react routine, seen v.entry

/-- The routine keeps the property and hands it to its callbacks. -/
def Upholds {β η α : Type} (hardware : Hardware β) (react : Reaction β η)
    (property : World β η → Prop) (routine : Routine α) : Prop :=
  Leads hardware react property property (fun _ => property) routine

def either {β η α : Type} (succeeded : α → World β η → Prop) (failed : World β η → Prop) :
    Except Fault α → World β η → Prop
  | .ok value => succeeded value
  | .error _ => failed

theorem of_either {β η α : Type} {property : World β η → Prop} {result : Except Fault α}
    {world : World β η} (h : either (fun _ => property) property result world) :
    property world := by
  cases result <;> exact h

variable {β η α γ : Type} {hardware : Hardware β} {react : Reaction β η}
  {seen before : World β η → Prop} {after : α → World β η → Prop}

namespace Leads

theorem pure {value : α} (h : ∀ world : World β η, before world → after value world) :
    Leads hardware react seen before after (Pure.pure value) where
  final holds := h _ holds
  entry _ := by simp

theorem bind {routine : Routine α} {rest : α → Routine γ} {last : γ → World β η → Prop}
    (first : Leads hardware react seen before after routine)
    (later : ∀ value, Leads hardware react seen (after value) last (rest value)) :
    Leads hardware react seen before last (routine >>= rest) where
  final holds := by
    have middle := first.final holds
    rw [World.run_bind]
    exact (later _).final middle
  entry holds v hv := by
    have middle := first.final holds
    rw [World.invocations_bind] at hv
    rcases List.mem_append.1 hv with hv | hv
    · exact first.entry holds v hv
    · exact (later _).entry middle v hv

theorem weaken {routine : Routine α} {stronger : World β η → Prop}
    {weaker : α → World β η → Prop} (h : Leads hardware react seen before after routine)
    (given : ∀ world, stronger world → before world)
    (wanted : ∀ value world, after value world → weaker value world) :
    Leads hardware react seen stronger weaker routine where
  final holds := wanted _ _ (h.final (given _ holds))
  entry holds := h.entry (given _ holds)

theorem given {routine : Routine α} {fact : Prop}
    (h : fact → Leads hardware react seen before after routine) :
    Leads hardware react seen (fun world => fact ∧ before world) after routine where
  final holds := (h holds.1).final holds.2
  entry holds := (h holds.1).entry holds.2

theorem perform (effect : Effect) {after : effect.Answer → World β η → Prop}
    (quiet : ¬ effect.Invokes)
    (answers : ∀ world : World β η, before world →
      after (world.respond hardware react effect).1 (world.respond hardware react effect).2) :
    Leads hardware react seen before after (Routine.perform effect) where
  final := answers _
  entry _ v hv := by
    rw [World.invocations_perform] at hv
    cases effect with
    | invoke _ _ _ => exact absurd trivial quiet
    | _ => simp [Invocation.ofRequest?] at hv

theorem invoke {source : Source} {callback : Callback} {index : Nat}
    {after : World β η → Prop}
    (enters : ∀ world : World β η, before world →
      seen (Invocation.mk source callback index world).entry)
    (reacts : ∀ world : World β η, before world →
      after ((Invocation.mk source callback index world).outcome react)) :
    Leads hardware react seen before (fun _ => after)
      (Routine.perform (.invoke source callback index)) where
  final holds := reacts _ holds
  entry holds v hv := by
    rw [World.invocations_perform] at hv
    obtain rfl : v = ⟨source, callback, index, _⟩ := List.mem_singleton.1 hv
    exact enters _ holds

/-- A lookup leads to a property of its world and of the entry that is found. -/
theorem lookUp {source : Source} {after : Option Callback → World β η → Prop}
    (finds : ∀ world : World β η, before world →
      after (world.registry.find? source) (world.lookedUp source)) :
    Leads hardware react seen before after (Delivery.lookUp source) where
  final holds := by
    rw [World.run_lookUp]
    exact finds _ holds
  entry _ := by simp [World.invocations_lookUp]

theorem andThen {program : Guarded α} {rest : α → Guarded γ} {failed : World β η → Prop}
    {middle : α → World β η → Prop} {last : γ → World β η → Prop}
    (first : Leads hardware react seen before (either middle failed) program.run)
    (later : ∀ value,
      Leads hardware react seen (middle value) (either last failed) (rest value).run) :
    Leads hardware react seen before (either last failed) (program >>= rest).run := by
  rw [ExceptT.run_bind]
  apply bind first
  intro result
  cases result with
  | ok value => exact later value
  | error fault => exact pure fun _ holds => holds

theorem observe {routine : Routine α} {failed : World β η → Prop}
    (h : Leads hardware react seen before after routine) :
    Leads hardware react seen before (either after failed) (liftM routine : Guarded α).run := by
  change Leads hardware react seen before (either after failed) (Except.ok <$> routine)
  rw [← bind_pure_comp]
  exact bind h fun _ => pure fun _ holds => holds

theorem conclude_ok {value : α} {failed : World β η → Prop} :
    Leads hardware react seen before (either (fun _ => before) failed)
      (Guarded.conclude (.ok value)).run :=
  pure fun _ holds => holds

theorem conclude_error {fault : Fault} {rest : α → Guarded γ} {failed : World β η → Prop}
    {last : γ → World β η → Prop} (h : ∀ world, before world → failed world) :
    Leads hardware react seen before (either last failed)
      (Guarded.conclude (.error fault) >>= rest).run :=
  pure h

end Leads

namespace Upholds

variable {property : World β η → Prop}

theorem sequential : Sequential fun α => Upholds (α := α) hardware react property where
  pure _ := Leads.pure fun _ holds => holds
  bind first later := Leads.bind first later

theorem perform (effect : Effect) (quiet : ¬ effect.Invokes)
    (keeps : ∀ world : World β η, property world →
      property (world.respond hardware react effect).2) :
    Upholds hardware react property (Routine.perform effect) :=
  Leads.perform effect quiet keeps

theorem invoke (source : Source) (callback : Callback) (index : Nat)
    (enters : ∀ v : Invocation β η, property v.world → property v.entry)
    (keeps : ∀ callback index (world : World β η), property world →
      property (react callback index world)) :
    Upholds hardware react property (Routine.perform (.invoke source callback index)) :=
  Leads.invoke (fun _ holds => enters _ holds) fun _ holds => keeps _ _ _ (enters _ holds)

theorem and {other : World β η → Prop} {routine : Routine α}
    (h : Upholds hardware react property routine) (h' : Upholds hardware react other routine) :
    Upholds hardware react (fun world => property world ∧ other world) routine where
  final holds := ⟨h.final holds.1, h'.final holds.2⟩
  entry holds v hv := ⟨h.entry holds.1 v hv, h'.entry holds.2 v hv⟩

end Upholds

end Routine

end Interrupts
