import Interrupts.Proofs.Removal.Sound

/-! # Runs after removals

Every effect keeps a sound trace sound. An operation stays in its frame, a callback runs
in the frame of the operation that invoked it, and so do the operations that the callback
makes, to any depth.
-/

namespace Interrupts

open Routine Delivery

def Watch.From (watched : Watch) (below : List Frame) : Prop :=
  ∀ source callback frames, watched source callback frames → frames <:+ below

theorem Watch.From.cons {watched : Watch} {below : List Frame} (outer : watched.From below)
    (frame : Frame) : watched.From (frame :: below) := fun _ _ _ watch =>
  (outer _ _ _ watch).trans (List.suffix_cons _ _)

variable {β η : Type}

/-- The world is sound, and an operation is under way above the given frames. -/
def Within (watched : Watch) (below : List Frame) (world : World β η) : Prop :=
  Sound watched world.registry world.trace ∧ ∃ head, frames world.trace = head :: below

/-- Callbacks leave a sound world sound and return to the frames in which they began. -/
def Steady (react : Reaction β η) : Prop :=
  ∀ (watched : Watch) callback index (world : World β η), watched.From (frames world.trace) →
    Sound watched world.registry world.trace →
    Sound watched (react callback index world).registry (react callback index world).trace ∧
      frames (react callback index world).trace = frames world.trace

namespace Within

variable {hardware : Hardware β} {react : Reaction β η} {watched : Watch} {below : List Frame}
  {world : World β η}

/-- A removal asks that everything watched is from farther out; other effects do not. -/
theorem respond {effect : Effect} (quiet : ¬ effect.Invokes)
    (outer : ∀ source, effect = .erase source → watched.From below)
    (h : Within watched below world) :
    Within watched below (world.respond hardware react effect).2 := by
  obtain ⟨sound, head, level⟩ := h
  cases effect with
  | invoke _ _ _ => exact absurd trivial quiet
  | install source callback => exact ⟨sound.install source callback _, head, level⟩
  | erase source =>
      have farther (source' callback' frames') (watch : watched source' callback' frames') :
          frames' <:+ (frames world.trace).tail := by
        rw [level]
        exact outer source rfl _ _ _ watch
      exact ⟨sound.erase farther source, head, level⟩
  | call c =>
      rw [World.respond_call]
      refine ⟨(sound.transferred _).cons id, head, ?_⟩
      rw [frames_performed id, frames_transferred, level]
  | _ => exact ⟨sound.cons id, head, level⟩

theorem lookedUp (h : Within watched below world) (source : Source) :
    Within watched below (world.lookedUp source) :=
  ⟨((((h.1.cons id).cons id).cons id).cons id).cons id, h.2⟩

theorem invoked (steady : Steady react) {v : Invocation β η}
    (outer : watched.From (some (v.source, v.callback) :: below))
    (h : Within watched below v.world)
    (lawful : Removed v.source v.callback v.world.trace →
      (∀ line, v.source ≠ .gpio line) ∧
        RemovedUnder (some (v.source, v.callback) :: below) v.source v.callback v.world.trace) :
    Within watched below v.entry ∧ Within watched below (v.outcome react) := by
  obtain ⟨sound, head, level⟩ := h
  have inside : frames v.entry.trace = some (v.source, v.callback) :: below := by
    rw [Invocation.trace_entry, frames, level, List.tail_cons]
  have entered : Sound watched v.entry.registry v.entry.trace := by
    rw [Invocation.trace_entry, Invocation.registry_entry]
    exact sound.invoke v.index (by rwa [level])
  obtain ⟨left, same⟩ := steady watched v.callback v.index v.entry (inside ▸ outer) entered
  exact ⟨⟨entered, _, inside⟩, left, _, same.trans inside⟩

end Within

/-! ## Deliveries -/

section

variable {hardware : Hardware β} {react : Reaction β η} {watched : Watch} {below : List Frame}

theorem perform_within (effect : Effect) (quiet : ¬ effect.Invokes)
    (outer : ∀ source, effect = .erase source → watched.From below)
    (seen : World β η → Prop) :
    Leads hardware react seen (Within watched below) (fun _ => Within watched below)
      (perform effect) :=
  Leads.perform effect quiet fun _ h => h.respond quiet outer

theorem call_within (c : Call) (seen : World β η → Prop) :
    Leads hardware react seen (Within watched below) (fun _ => Within watched below)
      (perform (.call c)) :=
  perform_within (.call c) id (fun _ same => nomatch same) seen

theorem scanLines_within (steady : Steady react) (outer : watched.From below) (snapshot : Word)
    (bits : List Nat) :
    Upholds hardware react (Within watched below) (scanLines lookUp snapshot bits) := by
  induction bits with
  | nil => exact Leads.pure fun _ h => h
  | cons index rest ih =>
      have drop : Upholds hardware react (Within watched below)
          (note (.dropped index snapshot)) :=
        perform_within (.note _) id (fun _ same => nomatch same) _
      unfold scanLines
      split
      · exact drop
      next line hl =>
        have looked : Leads hardware react (Within watched below) (Within watched below)
            (fun entry world => Within watched below world ∧
              world.registry.find? (.gpio line) = entry) (lookUp (.gpio line)) :=
          Leads.lookUp fun _ h => ⟨h.lookedUp _, rfl⟩
        apply Leads.bind looked
        intro entry
        cases entry with
        | none => exact drop.weaken (fun _ h => h.1) fun _ _ h => h
        | some callback =>
            -- The entry stands in the registry, so it cannot be a removed one.
            have served (world : World β η)
                (h : Within watched below world ∧
                  world.registry.find? (.gpio line) = some callback) :=
              Within.invoked (v := ⟨.gpio line, callback, index, world⟩) steady (outer.cons _) h.1
                fun removed => absurd removed (h.1.1.standing h.2)
            have invoked : Leads hardware react (Within watched below)
                (fun world => Within watched below world ∧
                  world.registry.find? (.gpio line) = some callback)
                (fun _ => Within watched below) (perform (.invoke (.gpio line) callback index)) :=
              Leads.invoke (fun world h => (served world h).1) fun world h => (served world h).2
            exact Leads.bind invoked fun _ => ih

/-- What is watched, and the callback that a scan is serving besides. -/
def Watch.serving (watched : Watch) (source : Source) (callback : Callback)
    (below : List Frame) : Watch := fun source' callback' frames =>
  watched source' callback' frames ∨
    source' = source ∧ callback' = callback ∧ frames = some (source, callback) :: below

theorem Within.unserved {world : World β η} {source : Source} {callback : Callback}
    (h : Within (watched.serving source callback below) below world) :
    Within watched below world :=
  ⟨h.1.mono fun _ _ _ watch => .inl watch, h.2⟩

theorem Within.serving {world : World β η} {source : Source} {callback : Callback}
    (h : Within watched below world)
    (found : world.registry.find? source = some callback) :
    Within (watched.serving source callback below) below world := by
  refine ⟨⟨h.1.lawful, h.1.standing, ?_⟩, h.2⟩
  intro source' callback' frames watch
  rcases watch with watch | ⟨rfl, rfl, rfl⟩
  · exact h.1.watch watch
  · intro removed
    exact absurd removed (h.1.standing found)

/-- A scan goes on with its callback. If that was removed meanwhile, then by itself. -/
theorem invoke_serving (steady : Steady react) (outer : watched.From below) {source : Source}
    (callback : Callback) (index : Nat) (notLine : ∀ line, source ≠ .gpio line) :
    Leads hardware react (Within watched below)
      (Within (watched.serving source callback below) below)
      (fun _ => Within (watched.serving source callback below) below)
      (perform (.invoke source callback index)) := by
  have inner : (watched.serving source callback below).From (some (source, callback) :: below) := by
    intro source' callback' frames watch
    rcases watch with watch | ⟨rfl, rfl, rfl⟩
    · exact outer.cons _ _ _ _ watch
    · exact List.suffix_refl _
  have served (world : World β η)
      (h : Within (watched.serving source callback below) below world) :=
    Within.invoked (v := ⟨source, callback, index, world⟩) steady inner h
      fun removed => ⟨notLine, h.1.watch (.inr ⟨rfl, rfl, rfl⟩) removed⟩
  exact Leads.invoke (fun world h => (served world h).1.unserved) fun world h => (served world h).2

theorem scanEvents_serving (steady : Steady react) (outer : watched.From below)
    (callback : Callback) (snapshot : Word) (events : List ClockEvent) :
    Leads hardware react (Within watched below)
      (Within (watched.serving .rtc callback below) below)
      (fun _ => Within (watched.serving .rtc callback below) below)
      (scanEvents callback snapshot events) := by
  induction events with
  | nil => exact Leads.pure fun _ h => h
  | cons event rest ih =>
      have tells : Leads hardware react (Within watched below)
          (Within (watched.serving .rtc callback below) below)
          (fun _ => Within (watched.serving .rtc callback below) below)
          (perform (.invoke .rtc callback event.index)) :=
        invoke_serving steady outer callback event.index (by simp)
      unfold scanEvents
      split
      · apply Leads.bind (call_within (.clock .readControl) _)
        intro control
        split
        · exact Leads.bind tells fun _ => ih
        · exact ih
      · exact ih

theorem scanCauses_serving (steady : Steady react) (outer : watched.From below)
    (channel : Channel) (callback : Callback) (causes : List Nat) :
    Leads hardware react (Within watched below)
      (Within (watched.serving (.uart channel) callback below) below)
      (fun _ => Within (watched.serving (.uart channel) callback below) below)
      (scanCauses channel callback causes) := by
  induction causes with
  | nil => exact Leads.pure fun _ h => h
  | cons index rest ih =>
      have tells : Leads hardware react (Within watched below)
          (Within (watched.serving (.uart channel) callback below) below)
          (fun _ => Within (watched.serving (.uart channel) callback below) below)
          (perform (.invoke (.uart channel) callback index)) :=
        invoke_serving steady outer callback index (by simp)
      unfold scanCauses
      apply Leads.bind (call_within (.serial channel .readEnabled) _)
      intro enabled
      split
      · exact Leads.bind tells fun _ => ih
      · exact ih

theorem lookUp_serving (source : Source) :
    Leads hardware react (Within watched below) (Within watched below)
      (fun entry world => match entry with
        | some callback => Within (watched.serving source callback below) below world
        | none => Within watched below world) (lookUp source) := by
  apply Leads.lookUp
  intro world h
  have looked : Within watched below (world.lookedUp source) := h.lookedUp source
  cases found : world.registry.find? source with
  | none => exact looked
  | some callback => exact looked.serving found

theorem dispatch_within (steady : Steady react) (outer : watched.From below)
    (peripheral : Peripheral) :
    Upholds hardware react (Within watched below) (dispatch peripheral) := by
  -- Lines are looked up bit by bit. Clock and channel keep the entry that is found before the
  -- clear, so from then on it is watched as the callback that is being served.
  cases peripheral with
  | gpio =>
      apply Leads.bind (call_within (.lines .readStatus) _)
      intro snapshot
      apply Leads.bind (call_within (.lines (.clearStatus snapshot)) _)
      intro _
      exact scanLines_within steady outer snapshot _
  | rtc =>
      apply Leads.bind (lookUp_serving .rtc)
      intro entry
      cases entry with
      | none =>
          apply Leads.bind (call_within (.clock .readControl) _)
          intro _
          apply Leads.bind (call_within (.clock (.clearControl _)) _)
          intro _
          exact Leads.pure fun _ h => h
      | some callback =>
          apply Leads.bind (call_within (.clock .readControl) _)
          intro snapshot
          apply Leads.bind (call_within (.clock (.clearControl _)) _)
          intro _
          exact (scanEvents_serving steady outer callback snapshot _).weaken (fun _ h => h)
            fun _ _ h => h.unserved
  | uart channel =>
      apply Leads.bind (lookUp_serving (.uart channel))
      intro entry
      cases entry with
      | none =>
          apply Leads.bind (call_within (.serial channel .readFlags) _)
          intro snapshot
          apply Leads.bind (call_within (.serial channel (.clearFlags snapshot)) _)
          intro _
          exact Leads.pure fun _ h => h
      | some callback =>
          apply Leads.bind (call_within (.serial channel .readFlags) _)
          intro snapshot
          apply Leads.bind (call_within (.serial channel (.clearFlags snapshot)) _)
          intro _
          exact (scanCauses_serving steady outer channel callback _).weaken (fun _ h => h)
            fun _ _ h => h.unserved

theorem assembled_within (hardware : Hardware β) (react : Reaction β η)
    (outer : watched.From below) :
    Assembled fun α => Upholds (α := α) hardware react (Within watched below) :=
  Upholds.sequential.assembled fun effect quiet => perform_within effect quiet (fun _ _ => outer) _

end

/-! ## Sessions -/

section

variable {watched : Watch} {below : List Frame}

theorem act_within (rig : Rig β η) {react : Reaction β η} (steady : Steady react)
    (outer : watched.From below) (action : Action η) {world : World β η}
    (h : Within watched below world) :
    Within watched below (rig.act react action world).2 := by
  cases action with
  | operate operation =>
      exact ((assembled_within rig.hardware react outer).operation _
        (dispatch_within steady outer) operation).final h
  | call c =>
      have called : Upholds rig.hardware react (Within watched below) (perform (.call c)) :=
        call_within c _
      exact called.final h
  | adjust adjustment => exact ⟨h.1.cons id, h.2⟩
  | vectors => exact h
  | recording recorder => exact h

theorem steady_reentrant (rig : Rig β η) (behaviour : Behaviour β η) (budget : Nat) :
    Steady (rig.reentrant behaviour budget) := by
  induction budget with
  | zero => exact fun _ _ _ _ _ sound => ⟨sound, rfl⟩
  | succ budget ih =>
      intro watched callback index world outer sound
      -- between the steps of the body the frames are those of its beginning
      let between (now : World β η) : Prop :=
        Sound watched now.registry now.trace ∧ frames now.trace = frames world.trace
      have steps (step : Step η) (now : World β η) (h : between now) :
          between (rig.actInside (rig.reentrant behaviour budget) step now).2 := by
        have began : Within watched (frames world.trace) (now.log (.began step.label)) :=
          ⟨h.1.cons id, none, congrArg _ h.2⟩
        obtain ⟨left, head, level⟩ := act_within rig ih outer step.action began
        exact ⟨left.cons id, congrArg List.tail level⟩
      exact Program.run_invariant (rig.actInside (rig.reentrant behaviour budget)) steps
        (behaviour callback index world) ⟨sound, rfl⟩

end

end Interrupts
