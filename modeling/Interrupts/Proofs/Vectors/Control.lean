import Interrupts.Proofs.Independence.Places

/-! # What a vector controller does

The calls on a vector controller are given a meaning of their own: what a call answers and what it
makes of its vector, on a controller with a number of vectors and eight priorities. Two controllers
that meet it cannot be told apart by calls for vectors that both of them have or neither has, even
if interrupts become pending at any moments in between. The simulated controller meets it if its
limit is the largest of the eight priorities.
-/

namespace Interrupts

/-- What a controller has for one vector. -/
structure VectorState where
  enabled : Bool
  pending : Bool
  priority : Priority
deriving DecidableEq

namespace ControllerCall

/-- What an accepted call makes of its vector. -/
def apply : ControllerCall → VectorState → VectorState
  | enable _, vector => { vector with enabled := true }
  | disable _, vector => { vector with enabled := false }
  | clearPending _, vector => { vector with pending := false }
  | setPriority _ given, vector => { vector with priority := given }
  | isPending _, vector | priority _, vector => vector

def reply (vector : VectorState) : (call : ControllerCall) → call.Answer
  | enable _ | disable _ | clearPending _ | setPriority _ _ => .ok ()
  | isPending _ => vector.pending
  | priority _ => vector.priority

def refusal : (call : ControllerCall) → call.Answer
  | enable _ | disable _ | clearPending _ | setPriority _ _ => .error .invalidArgument
  | isPending _ => false
  | priority _ => 0

/-- A controller with `count` vectors accepts calls for these and the priorities from 0 to 7. -/
def Accepted (count : Nat) : ControllerCall → Prop
  | setPriority n given => n < count ∧ given.toNat < 8
  | enable n | disable n | clearPending n | isPending n | priority n => n < count

instance (count : Nat) (call : ControllerCall) : Decidable (call.Accepted count) := by
  cases call <;> unfold Accepted <;> infer_instance

theorem Accepted.lt {count : Nat} {call : ControllerCall} (accepted : call.Accepted count) :
    call.vector < count := by
  cases call with
  | setPriority n given => exact accepted.1
  | enable n | disable n | clearPending n | isPending n | priority n => exact accepted

theorem accepted_iff {small large : Nat} (le : small ≤ large) {call : ControllerCall}
    (known : call.vector < small ∨ large ≤ call.vector) :
    call.Accepted small ↔ call.Accepted large := by
  cases call <;> simp only [Accepted, vector] at known ⊢ <;> omega

end ControllerCall

/-- In its `valid` states, what answers by `respond` and makes vectors pending by `pend` is a
controller of `count` vectors, which `vectors` gives for each state: an accepted call is answered by
its vector and changes no other, and a rejected call changes nothing. -/
structure Controls {β : Type} (count : Nat)
    (respond : (call : ControllerCall) → β → call.Answer × β) (pend : Nat → β → β)
    (vectors : β → Nat → VectorState) (valid : β → Prop) : Prop where
  answers {call : ControllerCall} {s : β} : valid s → call.Accepted count →
    (respond call s).1 = call.reply (vectors s call.vector)
  applies {call : ControllerCall} {s : β} : valid s → call.Accepted count → ∀ n, n < count →
    vectors (respond call s).2 n =
      if n = call.vector then call.apply (vectors s n) else vectors s n
  rejects {call : ControllerCall} {s : β} : valid s → ¬ call.Accepted count →
    respond call s = (call.refusal, s)
  pends {m : Nat} {s : β} : valid s → ∀ n, n < count →
    vectors (pend m s) n = if n = m then { vectors s n with pending := true } else vectors s n
  responded {call : ControllerCall} {s : β} : valid s → valid (respond call s).2
  pended {m : Nat} {s : β} : valid s → valid (pend m s)

/-- A call for the controller, or an interrupt that becomes pending from outside. -/
inductive ControllerEvent where
  | call (call : ControllerCall)
  | pend (n : Nat)

namespace ControllerEvent

/-- All answers to the calls among the events, in their order, and the state in the end. -/
def run {β : Type} (respond : (call : ControllerCall) → β → call.Answer × β)
    (pend : Nat → β → β) :
    List ControllerEvent → β → List ((call : ControllerCall) × call.Answer) × β
  | [], s => ([], s)
  | .call c :: rest, s =>
      let (answer, s) := respond c s
      let (answers, s) := run respond pend rest s
      (⟨c, answer⟩ :: answers, s)
  | .pend n :: rest, s => run respond pend rest (pend n s)

end ControllerEvent

namespace Controls

variable {β γ : Type} {small large : Nat}
  {respond : (call : ControllerCall) → β → call.Answer × β} {pend : Nat → β → β}
  {vectors : β → Nat → VectorState} {valid : β → Prop}
  {respond' : (call : ControllerCall) → γ → call.Answer × γ} {pend' : Nat → γ → γ}
  {vectors' : γ → Nat → VectorState} {valid' : γ → Prop}

section

variable (controls : Controls large respond pend vectors valid)
  (controls' : Controls small respond' pend' vectors' valid') (le : small ≤ large)

include controls controls' le

theorem respond_alike {call : ControllerCall}
    (known : call.vector < small ∨ large ≤ call.vector) {s : β} {s' : γ} (ok : valid s)
    (ok' : valid' s') (alike : ∀ n, n < small → vectors s n = vectors' s' n) :
    (respond call s).1 = (respond' call s').1 ∧
      ∀ n, n < small → vectors (respond call s).2 n = vectors' (respond' call s').2 n := by
  by_cases accepted : call.Accepted small
  · have accepted' := (ControllerCall.accepted_iff le known).1 accepted
    constructor
    · rw [controls.answers ok accepted', controls'.answers ok' accepted, alike _ accepted.lt]
    · intro n inside
      rw [controls.applies ok accepted' n (by omega), controls'.applies ok' accepted n inside,
        alike n inside]
  · have rejected := mt (ControllerCall.accepted_iff le known).2 accepted
    rw [controls.rejects ok rejected, controls'.rejects ok' accepted]
    exact ⟨rfl, alike⟩

theorem pend_alike (m : Nat) {s : β} {s' : γ} (ok : valid s) (ok' : valid' s')
    (alike : ∀ n, n < small → vectors s n = vectors' s' n) (n : Nat) (inside : n < small) :
    vectors (pend m s) n = vectors' (pend' m s') n := by
  rw [controls.pends ok n (by omega), controls'.pends ok' n inside, alike n inside]

/-- Through any events the answers are the same, and the vectors that both have stay alike. -/
theorem run_alike {events : List ControllerEvent}
    (known : ∀ call, .call call ∈ events → call.vector < small ∨ large ≤ call.vector)
    {s : β} {s' : γ} (ok : valid s) (ok' : valid' s')
    (alike : ∀ n, n < small → vectors s n = vectors' s' n) :
    (ControllerEvent.run respond pend events s).1 =
        (ControllerEvent.run respond' pend' events s').1 ∧
      ∀ n, n < small → vectors (ControllerEvent.run respond pend events s).2 n =
        vectors' (ControllerEvent.run respond' pend' events s').2 n := by
  induction events generalizing s s' with
  | nil => exact ⟨rfl, alike⟩
  | cons event events ih =>
      have later (call : ControllerCall) (member : .call call ∈ events) :
          call.vector < small ∨ large ≤ call.vector :=
        known call (List.mem_cons_of_mem _ member)
      cases event with
      | pend m =>
          exact ih later (controls.pended ok) (controls'.pended ok')
            (controls.pend_alike controls' le m ok ok' alike)
      | call call =>
          obtain ⟨same, after⟩ := controls.respond_alike controls' le
            (known call List.mem_cons_self) ok ok' alike
          obtain ⟨answers, final⟩ :=
            ih later (controls.responded ok) (controls'.responded ok') after
          simp only [ControllerEvent.run]
          exact ⟨by rw [same, answers], final⟩

end

end Controls

/-! ## The simulated controller -/

namespace Simulated.Controller

def vectorState (controller : Controller) (n : Nat) : VectorState :=
  ⟨controller.isEnabled n, controller.isPending n, controller.priority n⟩

theorem vectorState_respond_other (call : ControllerCall) (controller : Controller) {n : Nat}
    (other : n ≠ call.vector) :
    (respond call controller).2.vectorState n = controller.vectorState n := by
  have kept := (confined call).elsewhere controller (Ne.symm other)
  obtain ⟨enabled, pending, priorities, _⟩ := content_eq_iff.1 kept
  simp only [vectorState, isEnabled, isPending, priority, enabled, pending, priorities]

theorem within_limit {controller : Controller} (limited : controller.limit = 7)
    (given : Priority) : given ≤ controller.limit ↔ given.toNat < 8 := by
  rw [limited, UInt8.le_iff_toNat_le]
  exact Nat.lt_succ_iff.symm

theorem respond_accepted {call : ControllerCall} {controller : Controller}
    (limited : controller.limit = 7) (accepted : call.Accepted 64) :
    (respond call controller).1 = call.reply (controller.vectorState call.vector) ∧
      (respond call controller).2.vectorState call.vector =
        call.apply (controller.vectorState call.vector) := by
  have inside := accepted.lt
  cases call with
  | enable n | disable n | clearPending n =>
      simp only [ControllerCall.vector] at inside ⊢
      simp [respond, inside, ControllerCall.reply, ControllerCall.apply, vectorState, isEnabled,
        isPending, priority, getLsbD_bit]
  | setPriority n given =>
      have low := (within_limit limited given).2 accepted.2
      simp only [ControllerCall.vector] at inside ⊢
      simp [respond, inside, low, ControllerCall.reply, ControllerCall.apply, vectorState,
        isEnabled, isPending, priority]
  | isPending n => exact ⟨rfl, rfl⟩
  | priority n => exact ⟨rfl, rfl⟩

theorem respond_rejected {call : ControllerCall} {controller : Controller}
    (limited : controller.limit = 7) (rejected : ¬ call.Accepted 64) :
    respond call controller = (call.refusal, controller) := by
  cases call with
  | setPriority n given =>
      by_cases inside : n < 64
      · have high : ¬ given ≤ controller.limit := by
          rw [within_limit limited]
          exact fun low => rejected ⟨inside, low⟩
        simp [respond, inside, high, ControllerCall.refusal]
      · simp [respond, inside, ControllerCall.refusal]
  | isPending n =>
      have beyond : 64 ≤ n := Nat.le_of_not_lt rejected
      simp [respond, isPending, ControllerCall.refusal, beyond]
  | priority n =>
      have beyond : 64 ≤ n := Nat.le_of_not_lt rejected
      simp [respond, priority, ControllerCall.refusal, beyond]
  | enable n | disable n | clearPending n =>
      have beyond : ¬ n < 64 := rejected
      simp [respond, ControllerCall.refusal, beyond]

theorem limit_respond (call : ControllerCall) (controller : Controller) :
    (respond call controller).2.limit = controller.limit := by
  have elsewhere : call.vector ≠ call.vector + 1 := by omega
  have kept := (confined call).elsewhere controller elsewhere
  exact (content_eq_iff.1 kept).2.2.2

/-- With the largest of eight priorities as its limit, the simulated controller is one of 64
vectors. -/
theorem controls :
    Controls 64 respond (fun m controller => controller.pend m) vectorState (·.limit = 7) where
  answers limited accepted := (respond_accepted limited accepted).1
  applies := by
    intro call controller limited accepted n _
    by_cases own : n = call.vector
    · rw [if_pos own, own]
      exact (respond_accepted limited accepted).2
    · rw [if_neg own]
      exact vectorState_respond_other call controller own
  rejects := respond_rejected
  pends := by
    intro m controller _ n inside
    by_cases listed : m < 64
    · by_cases own : n = m
      · simp [pend, vectorState, isEnabled, isPending, priority, getLsbD_bit, own, listed]
      · simp [pend, vectorState, isEnabled, isPending, priority, getLsbD_bit, own, Ne.symm own,
          listed]
    · have other : n ≠ m := by omega
      simp [pend, listed, other]
  responded limited := (limit_respond _ _).trans limited
  pended := by
    intro m controller limited
    unfold pend
    split <;> exact limited

end Simulated.Controller

end Interrupts
