import Interrupts.Proofs.Run.Requests
import Interrupts.Operation.Delivery

/-! # What an answer changes

Every effect changes one part of the world and continues the trace. A call changes the
board only, and a lookup under the lock gives everything back as it was: these are the
facts by which the deliveries are followed from one callback to the next.
-/

namespace Interrupts

namespace World

variable {β η : Type}

@[simp] theorem board_log (event : Event η) (world : World β η) :
    (world.log event).board = world.board := rfl

@[simp] theorem registry_log (event : Event η) (world : World β η) :
    (world.log event).registry = world.registry := rfl

@[simp] theorem lines_log (event : Event η) (world : World β η) :
    (world.log event).lines = world.lines := rfl

@[simp] theorem trace_log (event : Event η) (world : World β η) :
    (world.log event).trace = event :: world.trace := rfl

@[simp] theorem board_record (callback : Callback) (index : Nat) (world : World β η) :
    (world.record callback index).board = world.board := by
  unfold record
  split <;> rfl

@[simp] theorem registry_record (callback : Callback) (index : Nat) (world : World β η) :
    (world.record callback index).registry = world.registry := by
  unfold record
  split <;> rfl

@[simp] theorem lines_record (callback : Callback) (index : Nat) (world : World β η) :
    (world.record callback index).lines = world.lines := by
  unfold record
  split <;> rfl

@[simp] theorem trace_record (callback : Callback) (index : Nat) (world : World β η) :
    (world.record callback index).trace = world.trace := by
  unfold record
  split <;> rfl

theorem foldl_log_transferred (transfers : List Transfer) (world : World β η) :
    transfers.foldl (fun world transfer => world.log (.transferred transfer)) world =
      { world with trace := (transfers.map Event.transferred).reverse ++ world.trace } := by
  induction transfers generalizing world with
  | nil => rfl
  | cons transfer rest ih => rw [List.foldl_cons, ih]; simp [log]

variable (hardware : Hardware β) (react : Reaction β η)

theorem respond_call (call : Call) (world : World β η) :
    world.respond hardware react (.call call) =
      ((hardware.respond call world.board).1,
        { world with
          board := (hardware.respond call world.board).2.1
          trace := .performed (.call call) (hardware.respond call world.board).1 ::
            (((hardware.respond call world.board).2.2.map Event.transferred).reverse ++
              world.trace) }) := by
  simp only [respond, answer, foldl_log_transferred]
  rfl

end World

namespace Invocation

variable {β η : Type} (v : Invocation β η)

@[simp] theorem board_entry : v.entry.board = v.world.board := by simp [entry]

@[simp] theorem registry_entry : v.entry.registry = v.world.registry := by simp [entry]

@[simp] theorem lines_entry : v.entry.lines = v.world.lines := by simp [entry]

@[simp] theorem trace_entry :
    v.entry.trace = .performed (.invoke v.source v.callback v.index) () :: v.world.trace := by
  simp [entry]

end Invocation

/-! ## Critical sections -/

namespace World

variable {β η : Type}

def entered (world : World β η) : World β η :=
  { world with
    depth := world.depth + 1
    held := true
    stuck := world.stuck || world.held
    trace := .performed .acquire () :: .performed .mask world.depth :: world.trace }

/-- The world after a critical section before which the masking depth was `depth`. -/
def exited (depth : Nat) (world : World β η) : World β η :=
  { world with
    held := false
    depth
    trace := .performed (.restore depth) () :: .performed .release () :: world.trace }

def lookedUp (source : Source) (world : World β η) : World β η :=
  (world.entered.log (.performed (.find source) (world.registry.find? source))).exited world.depth

variable (hardware : Hardware β) (react : Reaction β η)

theorem run_mask (world : World β η) : world.run hardware react (Routine.perform .mask) =
    (world.depth, { world with depth := world.depth + 1 }.log
      (.performed .mask world.depth)) := rfl

theorem run_restore (depth : Nat) (world : World β η) :
    world.run hardware react (Routine.perform (.restore depth)) =
      ((), { world with depth }.log (.performed (.restore depth) ())) := rfl

theorem run_acquire (world : World β η) : world.run hardware react (Routine.perform .acquire) =
    ((), { world with held := true, stuck := world.stuck || world.held }.log
      (.performed .acquire ())) := rfl

theorem run_release (world : World β η) : world.run hardware react (Routine.perform .release) =
    ((), { world with held := false }.log (.performed .release ())) := rfl

theorem run_find (source : Source) (world : World β η) :
    world.run hardware react (Routine.find source) =
      (world.registry.find? source,
        world.log (.performed (.find source) (world.registry.find? source))) := rfl

theorem run_critical {α : Type} (body : Routine α) (world : World β η) :
    world.run hardware react (Routine.critical body) =
      ((world.entered.run hardware react body).1,
        (world.entered.run hardware react body).2.exited world.depth) := by
  simp only [Routine.critical, run_bind, run_pure]
  rw [run_mask, run_acquire, run_release, run_restore]
  rfl

/-- A section asks for the mask and the lock, for what its body asks for, and gives both back. -/
theorem requests_critical {α : Type} (body : Routine α) (world : World β η) :
    let masked := (world.respond hardware react .mask).2
    let done := (world.entered.run hardware react body).2
    world.requests hardware react (Routine.critical body) =
      [(.mask, world), (.acquire, masked)] ++ world.entered.requests hardware react body ++
        [(.release, done), (.restore world.depth, (done.respond hardware react .release).2)] := by
  simp only [requests, Routine.critical, Program.requests_bind, Program.requests_pure]
  rfl

theorem run_lookUp (source : Source) (world : World β η) :
    world.run hardware react (Delivery.lookUp source) =
      (world.registry.find? source, world.lookedUp source) := by
  rw [Delivery.lookUp, run_critical, run_find]
  rfl

theorem invocations_lookUp (source : Source) (world : World β η) :
    world.invocations hardware react (Delivery.lookUp source) = [] := by
  simp only [Delivery.lookUp, Routine.critical, invocations_bind, invocations_pure]
  rfl

end World

end Interrupts
