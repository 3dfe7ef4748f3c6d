import Interrupts.Proofs.Word.Masks
import Interrupts.Run.SimulatedRig

/-! # Signals of the simulated board

A signal is one reason for an interrupt: an input line, an event of the clock, or a cause
of a serial channel. It has a status bit, which stimuli assert and which deliveries clear.
Some assertions of a line are deferred: they reach the status bit with the next read of
the status, or with the next programming of the trigger. What is pending, in the status or
deferred, grows by assertions only.
-/

namespace Interrupts.Simulated

inductive Signal where
  | line (line : Line)
  | clock (event : ClockEvent)
  | serial (channel : Channel) (cause : Nat)
deriving DecidableEq

namespace Signal

def source : Signal → Source
  | line l => .gpio l
  | clock _ => .rtc
  | serial channel _ => .uart channel

/-- The index under which the callback is told of the signal. -/
def index : Signal → Nat
  | line l => l.val
  | clock event => event.index
  | serial _ cause => cause

def flagged (signal : Signal) (board : Board) : Bool :=
  match signal with
  | line l => board.lines.status.getLsbD l.val
  | clock event => board.clock.control.covers event.flag
  | serial channel cause => (board.serial.get channel).flags.getLsbD cause

/-- The number of assertions that have not reached the status bit yet. -/
def deferred (signal : Signal) (board : Board) : Nat :=
  match signal with
  | line l => (board.lines.late.getLsbD l.val).toNat + (board.lines.injected.getLsbD l.val).toNat
  | clock _ | serial _ _ => 0

/-- What is still to be delivered. -/
def pending (signal : Signal) (board : Board) : Nat :=
  (signal.flagged board).toNat + signal.deferred board

def assertedBy (signal : Signal) (stimulus : Stimulus) : Bool :=
  match signal, stimulus with
  | line l, .raiseLines mask | line l, .raiseLinesAfterRead mask
  | line l, .injectOnConfigure mask => mask.getLsbD l.val
  | clock event, .setClock mask => mask.covers event.flag
  | serial channel cause, .raiseSerial other mask => other = channel && mask.getLsbD cause
  | _, _ => false

theorem covers_flag (w : Word) (event : ClockEvent) :
    w.covers event.flag = w.getLsbD (5 + event.index) := by
  cases event <;> exact w.covers_bit (by decide)

theorem get_eq_getElem {α : Type} {n : Nat} (xs : Vector α n) (i : Fin n) :
    xs.get i = getElem xs i.val i.isLt := rfl

theorem toNat_or_le (a b : Bool) : (a || b).toNat ≤ a.toNat + b.toNat := by
  cases a <;> cases b <;> decide

theorem toNat_and_not_le (a b : Bool) : (a && !b).toNat ≤ a.toNat := by
  cases a <;> cases b <;> decide

/-- A stimulus adds at most one assertion to what is pending. -/
theorem pending_stimulate (signal : Signal) (stimulus : Stimulus) (board : Board) :
    signal.pending (board.stimulate stimulus) ≤
      signal.pending board + (signal.assertedBy stimulus).toNat := by
  cases signal with
  | line l =>
      have adds (w mask : Word) :
          (w ||| mask |>.getLsbD l.val).toNat ≤ (w.getLsbD l.val).toNat +
            (mask.getLsbD l.val).toNat := by
        rw [BitVec.getLsbD_or]
        exact toNat_or_le _ _
      cases stimulus with
      | raiseLines mask =>
          have := adds board.lines.status mask
          simp only [pending, flagged, deferred, assertedBy, Board.stimulate, LineBank.raise]
          omega
      | raiseLinesAfterRead mask =>
          have := adds board.lines.late mask
          simp only [pending, flagged, deferred, assertedBy, Board.stimulate,
            LineBank.raiseAfterRead]
          omega
      | injectOnConfigure mask =>
          have := adds board.lines.injected mask
          simp only [pending, flagged, deferred, assertedBy, Board.stimulate,
            LineBank.injectOnConfigure]
          omega
      | _ => exact Nat.le_add_right _ _
  | clock event =>
      cases stimulus with
      | setClock mask =>
          simp only [pending, flagged, deferred, assertedBy, Board.stimulate, Clock.set,
            covers_flag, BitVec.getLsbD_or]
          exact toNat_or_le _ _
      | _ => exact Nat.le_add_right _ _
  | serial channel cause =>
      cases stimulus with
      | raiseSerial other mask =>
          by_cases h : other = channel
          · subst h
            simp only [pending, flagged, deferred, assertedBy, Board.stimulate, get_eq_getElem,
              Fin.getElem_fin, Vector.getElem_set_self, SerialChannel.raise, BitVec.getLsbD_or,
              decide_true, Bool.true_and]
            exact toNat_or_le _ _
          · have hv : other.val ≠ channel.val := fun e => h (Fin.ext e)
            simp [pending, flagged, deferred, Board.stimulate, get_eq_getElem, hv]
      | enableSerial other mask =>
          by_cases h : other = channel
          · subst h
            simp [pending, flagged, deferred, Board.stimulate, SerialChannel.setEnabled,
              get_eq_getElem]
          · have hv : other.val ≠ channel.val := fun e => h (Fin.ext e)
            simp [pending, flagged, deferred, Board.stimulate, get_eq_getElem, hv]
      | _ => exact Nat.le_add_right _ _

theorem pending_deliverInjected (l line : Line) (bank : LineBank) :
    ((bank.deliverInjected line).status.getLsbD l.val).toNat +
        ((bank.deliverInjected line).injected.getLsbD l.val).toNat ≤
      (bank.status.getLsbD l.val).toNat + (bank.injected.getLsbD l.val).toNat := by
  unfold LineBank.deliverInjected
  split
  next waiting =>
    rw [Line.meets_mask] at waiting
    by_cases h : line.val = l.val
    · rw [h] at waiting
      simp [Word.getLsbD_without, h, waiting]
    · simp [Word.getLsbD_without, h]
  next => exact Nat.le_refl _

theorem pending_line_respond (l : Line) (call : LineCall) (board : Board) :
    (line l).pending (board.respond (.lines call)).2 ≤ (line l).pending board := by
  cases call with
  | configureTrigger line trigger =>
      have moved := pending_deliverInjected l line board.lines
      have late : (board.lines.deliverInjected line).late = board.lines.late := by
        unfold LineBank.deliverInjected
        split <;> rfl
      simp only [pending, flagged, deferred, Board.respond, LineBank.respond]
      split
      · exact Nat.le_refl _
      · simp only [LineBank.program, late]
        omega
  | readStatus =>
      have := toNat_or_le (board.lines.status.getLsbD l.val) (board.lines.late.getLsbD l.val)
      simp only [pending, flagged, deferred, Board.respond, LineBank.respond, BitVec.getLsbD_or,
        BitVec.ofNat_eq_ofNat, BitVec.getLsbD_zero, Bool.toNat_false]
      omega
  | clearStatus mask =>
      have := toNat_and_not_le (board.lines.status.getLsbD l.val) (mask.getLsbD l.val)
      simp only [pending, flagged, deferred, Board.respond, LineBank.respond,
        Word.getLsbD_without]
      omega
  | _ => exact Nat.le_refl _

theorem pending_clock_respond (event : ClockEvent) (call : ClockCall) (board : Board) :
    (clock event).pending (board.respond (.clock call)).2 ≤ (clock event).pending board := by
  have kept (w : Word) (alarm : Alarm) :
      (w ||| alarm.enableBit).getLsbD (5 + event.index) = w.getLsbD (5 + event.index) := by
    have : alarm.enableBit.getLsbD (5 + event.index) = false := by
      cases alarm <;> cases event <;> decide
    rw [BitVec.getLsbD_or, this, Bool.or_false]
  simp only [pending, flagged, deferred, covers_flag, Board.respond]
  cases call with
  | readControl => exact Nat.le_refl _
  | clearControl mask =>
      simp only [Clock.respond, Word.getLsbD_without]
      exact toNat_and_not_le _ _
  | arm alarm deadline =>
      simp only [Clock.respond]
      split
      · exact Nat.le_refl _
      · have : (board.clock.setDeadline alarm deadline).control = board.clock.control := by
          cases alarm <;> rfl
        simp only [Clock.set, this, kept, Nat.le_refl]
  | disarm alarm =>
      simp only [Clock.respond, Word.getLsbD_without]
      exact toNat_and_not_le _ _

theorem pending_serial_respond (channel other : Channel) (cause : Nat) (call : SerialCall)
    (board : Board) :
    (serial channel cause).pending (board.respond (.serial other call)).2 ≤
      (serial channel cause).pending board := by
  by_cases h : other = channel
  · subst h
    cases call with
    | clearFlags mask =>
        simp only [pending, flagged, deferred, Board.respond, SerialChannel.respond,
          get_eq_getElem, Fin.getElem_fin, Vector.getElem_set_self, Word.getLsbD_without]
        exact toNat_and_not_le _ _
    | _ =>
        simp [pending, flagged, deferred, Board.respond, SerialChannel.respond, get_eq_getElem]
  · have hv : other.val ≠ channel.val := fun e => h (Fin.ext e)
    simp [pending, flagged, deferred, Board.respond, get_eq_getElem, hv]

/-- No call adds to what is pending. -/
theorem pending_respond (signal : Signal) (call : Call) (board : Board) :
    signal.pending (board.respond call).2 ≤ signal.pending board := by
  cases signal with
  | line l =>
      cases call with
      | lines call => exact pending_line_respond l call board
      | _ => exact Nat.le_refl _
  | clock event =>
      cases call with
      | clock call => exact pending_clock_respond event call board
      | _ => exact Nat.le_refl _
  | serial channel cause =>
      cases call with
      | serial other call => exact pending_serial_respond channel other cause call board
      | _ => exact Nat.le_refl _

/-! ## Clearing -/

theorem pending_clearStatus (l : Line) (mask : Word) (board : Board)
    (shown : mask.getLsbD l.val = true → board.lines.status.getLsbD l.val = true) :
    (line l).pending (board.respond (.lines (.clearStatus mask))).2 +
      (mask.getLsbD l.val).toNat ≤ (line l).pending board := by
  simp only [pending, flagged, deferred, Board.respond, LineBank.respond, Word.getLsbD_without]
  cases h : mask.getLsbD l.val with
  | false => simp
  | true =>
      rw [shown h]
      simp only [Bool.not_true, Bool.and_false, Bool.toNat_false, Bool.toNat_true]
      omega

/-- The flags of all events are taken off the board together. -/
theorem pending_clearControl (event : ClockEvent) (board : Board) :
    (clock event).pending (board.respond (.clock (.clearControl ClockControl.eventFlags))).2 +
      (board.clock.control.covers event.flag).toNat ≤ (clock event).pending board := by
  have named : ClockControl.eventFlags.getLsbD (5 + event.index) = true := by
    cases event <;> decide
  simp [pending, flagged, deferred, covers_flag, Board.respond, Clock.respond,
    Word.getLsbD_without, named]

theorem pending_clearFlags (channel : Channel) (cause : Nat) (board : Board) :
    (serial channel cause).pending
        (board.respond (.serial channel (.clearFlags (board.serial.get channel).flags))).2 +
      ((board.serial.get channel).flags.getLsbD cause).toNat ≤
        (serial channel cause).pending board := by
  simp [pending, flagged, deferred, Board.respond, SerialChannel.respond, get_eq_getElem,
    Word.getLsbD_without]

end Signal

end Interrupts.Simulated
