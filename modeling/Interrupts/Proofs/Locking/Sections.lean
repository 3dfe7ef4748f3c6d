import Interrupts.Proofs.Run.Assembly
import Interrupts.Proofs.Run.Respond
import Interrupts.Sync.MaskingLock

/-! # Sections of a run

Which masking events a run leaves in its trace. A run that takes the lock only in critical
sections, one after the other, leaves a sequence of pairs: masked from depth zero, restored
to depth zero. `Stands` says where a world is in such a run: between two pairs with the
lock free, or inside of one with the lock taken.
-/

namespace Interrupts

variable {β η : Type}

namespace Event

def masking? : Event η → Option MaskEvent
  | performed .mask depth => some (.mask depth)
  | performed (.restore depth) _ => some (.restore depth)
  | _ => none

end Event

def maskings (events : List (Event η)) : List MaskEvent := events.filterMap Event.masking?

theorem maskings_append (earlier later : List (Event η)) :
    maskings (earlier ++ later) = maskings earlier ++ maskings later :=
  List.filterMap_append

theorem maskings_eq_nil {events : List (Event η)} (h : ∀ event ∈ events, event.masking? = none) :
    maskings events = [] :=
  List.filterMap_eq_nil_iff.2 h

/-- The maskings of critical sections that are not nested. -/
def sections : Nat → List MaskEvent
  | 0 => []
  | n + 1 => sections n ++ [.mask 0, .restore 0]

theorem eventsSince_of_trace {base world : World β η} {recent : List (Event η)}
    (h : world.trace = recent ++ base.trace) : base.eventsSince world = recent.reverse := by
  rw [World.eventsSince, h, List.length_append, Nat.add_sub_cancel, List.take_left]

/-- Since `base` only whole sections have passed, save one that has begun if the lock is
taken. -/
structure Stands (base : World β η) (locked : Bool) (world : World β η) : Prop where
  held : world.held = locked
  depth : world.depth = locked.toNat
  stuck : world.stuck = base.stuck
  since : ∃ recent n, world.trace = recent ++ base.trace ∧
    maskings recent.reverse = sections n ++ if locked then [.mask 0] else []

namespace Stands

variable {base world after : World β η} {locked : Bool}

theorem refl (held : base.held = false) (depth : base.depth = 0) : Stands base false base where
  held := held
  depth := depth
  stuck := rfl
  since := ⟨[], 0, rfl, rfl⟩

theorem maskings_eq (h : Stands base locked world) :
    ∃ n, maskings (base.eventsSince world) =
      sections n ++ if locked then [.mask 0] else [] := by
  obtain ⟨recent, n, trace, same⟩ := h.since
  exact ⟨n, by rw [eventsSince_of_trace trace, same]⟩

theorem continued (h : Stands base locked world) (held : after.held = world.held)
    (depth : after.depth = world.depth) (stuck : after.stuck = world.stuck)
    {events : List (Event η)} (trace : after.trace = events ++ world.trace)
    (quiet : ∀ event ∈ events, event.masking? = none) : Stands base locked after where
  held := held.trans h.held
  depth := depth.trans h.depth
  stuck := stuck.trans h.stuck
  since := by
    obtain ⟨recent, n, before, same⟩ := h.since
    refine ⟨events ++ recent, n, by rw [trace, before, List.append_assoc], ?_⟩
    have none : maskings events.reverse = [] :=
      maskings_eq_nil fun event h => quiet event (List.mem_reverse.1 h)
    rw [List.reverse_append, maskings_append, same, none, List.append_nil]

theorem logged (h : Stands base locked world) (held : after.held = world.held)
    (depth : after.depth = world.depth) (stuck : after.stuck = world.stuck) {event : Event η}
    (trace : after.trace = event :: world.trace) (quiet : event.masking? = none) :
    Stands base locked after :=
  h.continued held depth stuck (trace.trans (List.singleton_append).symm) fun _ h => by
    rw [List.mem_singleton.1 h]
    exact quiet

theorem respond {hardware : Hardware β} {react : Reaction β η} {effect : Effect}
    (quiet : ¬ effect.Invokes) (free : ¬ effect.Guards) (h : Stands base locked world) :
    Stands base locked (world.respond hardware react effect).2 := by
  cases effect with
  | mask => exact absurd trivial free
  | restore _ => exact absurd trivial free
  | acquire => exact absurd trivial free
  | release => exact absurd trivial free
  | invoke _ _ _ => exact absurd trivial quiet
  | call c =>
      let events : List (Event η) := .performed (.call c) (hardware.respond c world.board).1 ::
        ((hardware.respond c world.board).2.2.map Event.transferred).reverse
      have trace : (world.respond hardware react (.call c)).2.trace = events ++ world.trace := by
        rw [World.respond_call]
        rfl
      rw [World.respond_call] at trace ⊢
      refine h.continued rfl rfl rfl trace ?_
      intro event hevent
      rcases List.mem_cons.1 hevent with rfl | transferred
      · rfl
      · obtain ⟨transfer, -, rfl⟩ := List.mem_map.1 (List.mem_reverse.1 transferred)
        rfl
  | _ => exact h.logged rfl rfl rfl rfl rfl

theorem entry {v : Invocation β η} (h : Stands base locked v.world) :
    Stands base locked v.entry := by
  have kept : v.entry.held = v.world.held ∧ v.entry.depth = v.world.depth ∧
      v.entry.stuck = v.world.stuck := by
    unfold Invocation.entry World.record
    split <;> exact ⟨rfl, rfl, rfl⟩
  exact h.logged kept.1 kept.2.1 kept.2.2 v.trace_entry rfl

theorem entered (h : Stands base false world) : Stands base true world.entered where
  held := rfl
  depth := congrArg (· + 1) h.depth
  stuck := by rw [World.entered, h.held, h.stuck, Bool.or_false]
  since := by
    obtain ⟨recent, n, before, same⟩ := h.since
    refine ⟨.performed .acquire () :: .performed .mask world.depth :: recent, n, ?_, ?_⟩
    · rw [World.entered, before]
      rfl
    · rw [List.reverse_cons, List.reverse_cons, maskings_append, maskings_append, same, h.depth]
      simp [maskings, Event.masking?]

theorem exited (h : Stands base true world) : Stands base false (world.exited 0) where
  held := rfl
  depth := rfl
  stuck := h.stuck
  since := by
    obtain ⟨recent, n, before, same⟩ := h.since
    refine ⟨.performed (.restore 0) () :: .performed .release () :: recent, n + 1, ?_, ?_⟩
    · rw [World.exited, before]
      rfl
    · rw [List.reverse_cons, List.reverse_cons, maskings_append, maskings_append, same]
      simp [sections, maskings, Event.masking?]

end Stands

end Interrupts
