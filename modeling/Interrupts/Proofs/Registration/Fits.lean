import Interrupts.Proofs.Run.Kept

/-! # Registered callbacks fit their sources

The registry takes any callback for any source. It is the registration that compares the
setting of a callback with the kind of the source before it installs it, and nothing else
installs anything, so on any board the registry holds fitting callbacks only.
-/

namespace Interrupts

variable {β η : Type}

theorem Setting.isSome_alarm?_iff {setting : Setting} {source : Source}
    (fits : setting.fits source = true) : setting.alarm?.isSome = true ↔ source = .rtc := by
  cases setting <;> cases source <;> simp_all [alarm?, Setting.fits]

/-- The setting of every callback belongs to the kind of its source. -/
def Registry.Fitting (registry : Registry) : Prop :=
  ∀ source callback, registry.find? source = some callback →
    callback.setting.fits source = true

namespace Registry.Fitting

variable {registry : Registry}

theorem empty : Registry.empty.Fitting := fun source _ h => by
  rw [find?_empty] at h
  cases h

theorem install (h : registry.Fitting) {source : Source} {callback : Callback}
    (fits : callback.setting.fits source = true) :
    (registry.install source callback).2.Fitting := by
  intro other found registered
  rw [find?_install] at registered
  split at registered
  next same =>
    cases registered
    exact same ▸ fits
  next => exact h other found registered

theorem erase (h : registry.Fitting) (source : Source) : (registry.erase source).2.Fitting := by
  intro other found registered
  rw [find?_erase] at registered
  split at registered
  next => cases registered
  next => exact h other found registered

theorem alarm? (h : registry.Fitting) {callback : Callback}
    (found : registry.find? .rtc = some callback) :
    ∃ alarm, callback.setting.alarm? = some alarm :=
  Option.isSome_iff_exists.1 ((Setting.isSome_alarm?_iff (h .rtc callback found)).2 rfl)

theorem isSome_alarm? (h : registry.Fitting) {source : Source}
    {callback : Callback} (found : registry.find? source = some callback)
    (same : source = .rtc) : ((some callback.setting).bind Setting.alarm?).isSome = true :=
  (Setting.isSome_alarm?_iff (h source callback found)).2 same

theorem isSome_clock_alarm? (h : registry.Fitting) :
    (((registry.find? .rtc).map (·.setting)).bind Setting.alarm?).isSome =
      registry.contains .rtc := by
  rw [Registry.contains_eq_isSome]
  cases found : registry.find? .rtc with
  | none => rfl
  | some callback => exact h.isSome_alarm? found rfl

end Registry.Fitting

open State

theorem fitting_keeps (rig : Rig β η) :
    rig.Keeps (fun _ => True) fun state => state.registry.Fitting where
  parts := (Keeps.registry rig.hardware Registry.Fitting).toSectional
  operate label operation _ silent := by
    have parts := Keeps.registry rig.hardware Registry.Fitting
    have layers := Keeps.layered parts.toSectional
    have erase (source : Source) : Keeps rig.hardware (fun state => state.registry.Fitting)
        (Routine.perform (.erase source)) := fun _ fitting => fitting.erase source
    refine layers.operation _ operation (fun enrols => ?_) (layers.enables parts _ operation)
      fun delivers => absurd delivers silent
    cases operation with
    | register name callback =>
        exact layers.outside.map (layers.register _ name fun _ fits _ fitting =>
          fitting.install fits) _
    | unregister name => exact layers.outside.map (layers.unregister _ name erase) _
    | release index => exact layers.outside.map (layers.release _ index erase) _
    | _ => exact enrols.elim
  call _ _ _ _ fitting := fitting
  adjust _ _ _ _ fitting := fitting
  restart _ _ _ := .empty

/-- Whatever a session does, on any board and with any callbacks, the registry holds fitting
callbacks only. -/
theorem reachable_fitting {rig : Rig β η} {behaviour : Behaviour β η} {budget : Nat} {board : β}
    {commands : List (Command η)} {world : World β η}
    (reached : rig.Reachable behaviour budget board commands world) :
    world.registry.Fitting :=
  (fitting_keeps rig).reachable
    (fun _ _ _ => Program.only_of_forall (fun _ => trivial) _) (fun _ _ => trivial) reached .empty

end Interrupts
