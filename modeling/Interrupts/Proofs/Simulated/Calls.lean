import Interrupts.Proofs.Simulated.LineChange

/-! # Calls on the controller and the clock

What calls on these two devices of the simulated board do to the state, as equations. The
controller refuses only calls for vectors that it does not have.
-/

namespace Interrupts.Simulated

def withController (state : State Board) (controller : Controller) : State Board :=
  { state with board := { state.board with controller } }

def withClock (state : State Board) (clock : Clock) : State Board :=
  { state with board := { state.board with clock } }

variable {number : Peripheral → Nat}

theorem run_controller (call : ControllerCall) (state : State Board) :
    state.run (hardware number) (Routine.controller call) =
      ((state.board.controller.respond call).1,
        withController state (state.board.controller.respond call).2) := rfl

theorem run_clock (call : ClockCall) (state : State Board) :
    state.run (hardware number) (Routine.clock call) =
      ((state.board.clock.respond call).1,
        withClock state (state.board.clock.respond call).2) := rfl

def Clock.armed (clock : Clock) (alarm : Alarm) (deadline : Word) : Clock :=
  (clock.setDeadline alarm deadline).set alarm.enableBit

theorem run_arm (number : Peripheral → Nat) (alarm : Alarm) (deadline : Word)
    (state : State Board) :
    state.run (hardware number) (Routine.clock (.arm alarm deadline)) =
      if state.board.clock.busy then (.error .busy, state)
      else (.ok (), withClock state (state.board.clock.armed alarm deadline)) := by
  rw [run_clock]
  simp only [Clock.respond]
  split <;> rfl

namespace Clock

theorem isArmed_armed (clock : Clock) (alarm other : Alarm) (deadline : Word) :
    (clock.armed alarm deadline).isArmed other =
      (clock.isArmed other || decide (alarm = other)) := by
  have control : (clock.setDeadline alarm deadline).control = clock.control := by
    cases alarm <;> rfl
  rw [isArmed, armed, set, control, Alarm.covers_or, Alarm.covers_enableBit, isArmed]

theorem deadline_armed (clock : Clock) (alarm other : Alarm) (deadline : Word) :
    (clock.armed alarm deadline).deadline other =
      if alarm = other then deadline else clock.deadline other := by
  cases alarm <;> cases other <;> rfl

theorem armed_eq_self {clock : Clock} {alarm : Alarm} {deadline : Word}
    (armed : clock.isArmed alarm = true) (same : clock.deadline alarm = deadline) :
    clock.armed alarm deadline = clock := by
  have kept : clock.setDeadline alarm deadline = clock := by
    rw [← same]
    cases alarm <;> rfl
  rw [Clock.armed, kept, set, Alarm.or_enableBit armed]

end Clock

namespace Controller

variable {n : Nat}

theorem getLsbD_bit (n m : Nat) :
    (bit n).getLsbD m = (decide (m < 64) && decide (n = m)) :=
  Word.getLsbD_one_shiftLeft n m

theorem or_bit_eq_self {w : BitVec 64} (h : w.getLsbD n = true) : w ||| bit n = w :=
  Word.or_one_shiftLeft_eq_self h

theorem without_bit_eq_self {w : BitVec 64} (h : w.getLsbD n = false) : w &&& ~~~bit n = w :=
  Word.and_not_one_shiftLeft_eq_self h

theorem isPending_respond {controller : Controller} (call : ControllerCall) {m : Nat}
    (clear : controller.isPending m = false) : (controller.respond call).2.isPending m = false := by
  cases call with
  | clearPending n =>
      simp only [respond]
      split
      · rw [isPending] at clear ⊢
        simp [clear]
      · exact clear
  | enable n =>
      simp only [respond]
      split <;> exact clear
  | disable n =>
      simp only [respond]
      split <;> exact clear
  | setPriority n priority =>
      simp only [respond]
      split
      · split <;> exact clear
      · exact clear
  | isPending n => exact clear
  | priority n => exact clear

end Controller

/-- The vector of every peripheral exists. -/
def Listed (number : Peripheral → Nat) : Prop := ∀ peripheral, number peripheral < 64

theorem number_distinct (a b : Peripheral) (same : Simulated.number a = Simulated.number b) :
    a = b := by
  cases a <;> cases b <;> simp [Simulated.number, Fin.ext_iff] at same ⊢ <;> omega

theorem listed_number : Listed Simulated.number := by
  rintro (_ | _ | channel) <;> simp only [Simulated.number] <;> omega

section

variable (number : Peripheral → Nat) {n : Nat} (listed : n < 64) (state : State Board)

include listed

theorem run_enable : state.run (hardware number) (Routine.controller (.enable n)) =
    (.ok (), withController state { state.board.controller with
      enabled := state.board.controller.enabled ||| Controller.bit n }) := by
  rw [run_controller, Controller.respond, if_pos listed]

theorem run_disable : state.run (hardware number) (Routine.controller (.disable n)) =
    (.ok (), withController state { state.board.controller with
      enabled := state.board.controller.enabled &&& ~~~Controller.bit n }) := by
  rw [run_controller, Controller.respond, if_pos listed]

theorem run_clearPending : state.run (hardware number) (Routine.controller (.clearPending n)) =
    (.ok (), withController state { state.board.controller with
      pending := state.board.controller.pending &&& ~~~Controller.bit n }) := by
  rw [run_controller, Controller.respond, if_pos listed]

end

end Interrupts.Simulated
