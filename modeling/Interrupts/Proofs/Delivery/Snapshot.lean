import Interrupts.Proofs.Run.Assembly
import Interrupts.Proofs.Run.Respond

/-! # The snapshot of a delivery

Every peripheral is served in the same steps: perhaps a lookup, one read of the status, one
clear, and a scan that never touches the status again. What is cleared is what was read,
except for the clock, where it is always the flags of all events.
-/

namespace Interrupts

open Routine

namespace Peripheral

def statusCall : Peripheral → Call
  | gpio => .lines .readStatus
  | rtc => .clock .readControl
  | uart channel => .serial channel .readFlags

def clearCall : Peripheral → Word → Call
  | gpio, mask => .lines (.clearStatus mask)
  | rtc, mask => .clock (.clearControl mask)
  | uart channel, mask => .serial channel (.clearFlags mask)

def cleared : Peripheral → Word → Word
  | rtc, _ => ClockControl.eventFlags
  | gpio, snapshot | uart _, snapshot => snapshot

end Peripheral

namespace Effect

/-- The effect is part of a lookup under the lock. -/
def Looks : Effect → Prop
  | mask | restore _ | acquire | release | find _ => True
  | _ => False

/-- What a scan asks for: lookups, notices, the gates of its events, and callbacks. -/
def Scans (peripheral : Peripheral) : Effect → Prop
  | mask | restore _ | acquire | release | find _ | note _ | invoke _ _ _ => True
  | call (.clock .readControl) => peripheral = .rtc
  | call (.serial channel .readEnabled) => peripheral = .uart channel
  | _ => False

theorem Looks.scans {effect : Effect} (looks : effect.Looks) (peripheral : Peripheral) :
    effect.Scans peripheral := by
  cases effect with
  | mask | restore _ | acquire | release | find _ => trivial
  | _ => exact looks.elim

end Effect

namespace Delivery

def readStatus : Peripheral → Routine Word
  | .gpio => lines .readStatus
  | .rtc => clock .readControl
  | .uart channel => serial channel .readFlags

def clearStatus (peripheral : Peripheral) (mask : Word) : Routine Unit :=
  match peripheral with
  | .gpio => lines (.clearStatus mask)
  | .rtc => clock (.clearControl mask)
  | .uart channel => serial channel (.clearFlags mask)

def lookAhead : Peripheral → Routine (Option Callback)
  | .gpio => pure none
  | .rtc => lookUp .rtc
  | .uart channel => lookUp (.uart channel)

def scan (peripheral : Peripheral) (entry : Option Callback) (snapshot : Word) : Routine Unit :=
  match peripheral, entry with
  | .gpio, _ => scanLines lookUp snapshot (SetBits.mk snapshot).toList
  | .rtc, some callback => scanEvents callback snapshot ClockEvent.all
  | .uart channel, some callback => scanCauses channel callback (SetBits.mk snapshot).toList
  | _, none => pure ()

theorem dispatch_eq (peripheral : Peripheral) :
    dispatch peripheral = (do
      let entry ← lookAhead peripheral
      let snapshot ← readStatus peripheral
      clearStatus peripheral (peripheral.cleared snapshot)
      scan peripheral entry snapshot) := by
  cases peripheral with
  | gpio => rfl
  | rtc =>
      refine congrArg (lookUp .rtc >>= ·) (funext fun entry => ?_)
      cases entry <;> rfl
  | uart channel =>
      refine congrArg (lookUp (.uart channel) >>= ·) (funext fun entry => ?_)
      cases entry <;> rfl

theorem looks_lookUp (source : Source) : (lookUp source).Only Effect.Looks :=
  only_sequential.critical ⟨trivial, fun _ => trivial⟩ fun effect guards => by
    cases effect with
    | mask | restore _ | acquire | release => exact ⟨trivial, fun _ => trivial⟩
    | _ => exact guards.elim

theorem looks_lookAhead (peripheral : Peripheral) : (lookAhead peripheral).Only Effect.Looks := by
  cases peripheral with
  | gpio => trivial
  | rtc => exact looks_lookUp .rtc
  | uart channel => exact looks_lookUp (.uart channel)

theorem scans_scanLines (snapshot : Word) (bits : List Nat) :
    (scanLines lookUp snapshot bits).Only (Effect.Scans .gpio) := by
  induction bits with
  | nil => trivial
  | cons index rest ih =>
      unfold scanLines
      split
      · exact ⟨trivial, fun _ => trivial⟩
      · refine ((looks_lookUp _).mono fun effect looks => looks.scans .gpio).bind fun entry => ?_
        split
        · exact ⟨trivial, fun _ => trivial⟩
        · exact Program.Only.bind ⟨trivial, fun _ => trivial⟩ fun _ => ih

theorem scans_scanEvents (callback : Callback) (snapshot : Word) (events : List ClockEvent) :
    (scanEvents callback snapshot events).Only (Effect.Scans .rtc) := by
  induction events with
  | nil => trivial
  | cons event rest ih =>
      unfold scanEvents
      split
      · refine Program.Only.bind ⟨rfl, fun _ => trivial⟩ fun control => ?_
        split
        · exact Program.Only.bind ⟨trivial, fun _ => trivial⟩ fun _ => ih
        · exact ih
      · exact ih

theorem scans_scanCauses (channel : Channel) (callback : Callback) (causes : List Nat) :
    (scanCauses channel callback causes).Only (Effect.Scans (.uart channel)) := by
  induction causes with
  | nil => trivial
  | cons index rest ih =>
      unfold scanCauses
      refine Program.Only.bind ⟨rfl, fun _ => trivial⟩ fun enabled => ?_
      split
      · exact Program.Only.bind ⟨trivial, fun _ => trivial⟩ fun _ => ih
      · exact ih

theorem scans_scan (peripheral : Peripheral) (entry : Option Callback) (snapshot : Word) :
    (scan peripheral entry snapshot).Only (Effect.Scans peripheral) := by
  unfold scan
  split
  · exact scans_scanLines _ _
  · exact scans_scanEvents _ _ _
  · exact scans_scanCauses _ _ _
  · trivial

/-! ## The moments of a dispatch -/

section

variable {β η : Type} (hardware : Hardware β) (react : Reaction β η) (world : World β η)
  (peripheral : Peripheral)

def ahead : Option Callback × World β η := world.run hardware react (lookAhead peripheral)

def snapshot : Word × World β η :=
  (ahead hardware react world peripheral).2.run hardware react (readStatus peripheral)

def afterClear : World β η :=
  let (status, world) := snapshot hardware react world peripheral
  (world.run hardware react (clearStatus peripheral (peripheral.cleared status))).2

/-- The rest of a dispatch, which begins in the world after the clear. -/
def afterwards : Routine Unit :=
  scan peripheral (ahead hardware react world peripheral).1
    (snapshot hardware react world peripheral).1

theorem requests_readStatus : world.requests hardware react (readStatus peripheral) =
    [(.call peripheral.statusCall, world)] := by
  cases peripheral <;> rfl

theorem requests_clearStatus (mask : Word) :
    world.requests hardware react (clearStatus peripheral mask) =
      [(.call (peripheral.clearCall mask), world)] := by
  cases peripheral <;> rfl

theorem afterClear_eq : afterClear hardware react world peripheral =
    ((snapshot hardware react world peripheral).2.respond hardware react
      (.call (peripheral.clearCall
        (peripheral.cleared (snapshot hardware react world peripheral).1)))).2 := by
  cases peripheral <;> rfl

/-- The status is read once and cleared at once, before any callback is invoked. -/
theorem requests_dispatch :
    world.requests hardware react (dispatch peripheral) =
      world.requests hardware react (lookAhead peripheral) ++
        [(.call peripheral.statusCall, (ahead hardware react world peripheral).2),
          (.call (peripheral.clearCall (peripheral.cleared (snapshot hardware react world
            peripheral).1)), (snapshot hardware react world peripheral).2)] ++
        (afterClear hardware react world peripheral).requests hardware react
          (afterwards hardware react world peripheral) := by
  rw [dispatch_eq]
  rw [World.requests_bind, World.requests_bind, World.requests_bind, requests_readStatus,
    requests_clearStatus, List.append_assoc]
  rfl

theorem invocations_dispatch :
    world.invocations hardware react (dispatch peripheral) =
      (afterClear hardware react world peripheral).invocations hardware react
        (afterwards hardware react world peripheral) := by
  have none : (world.requests hardware react (lookAhead peripheral)).filterMap
      Invocation.ofRequest? = [] := by
    refine List.filterMap_eq_nil_iff.2 fun ⟨effect, before⟩ hx => ?_
    have looks := (looks_lookAhead peripheral).forall_mem _ _ _ hx
    cases effect with
    | invoke _ _ _ => exact looks.elim
    | _ => rfl
  rw [World.invocations, requests_dispatch, List.filterMap_append, List.filterMap_append, none]
  rfl

theorem run_dispatch :
    world.run hardware react (dispatch peripheral) =
      (afterClear hardware react world peripheral).run hardware react
        (afterwards hardware react world peripheral) := by
  rw [dispatch_eq, World.run_bind, World.run_bind, World.run_bind]
  rfl

end

end Delivery

end Interrupts
