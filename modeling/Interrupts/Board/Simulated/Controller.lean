import Interrupts.Call

/-! # Simulated vector controller

Sixty-four vectors, each with an enable bit, a pending bit and a priority. The
only calls refused are those for a vector that does not exist and a priority
above the limit.
-/

namespace Interrupts.Simulated

structure Controller where
  enabled : BitVec 64
  pending : BitVec 64
  priorities : Vector Priority 64
  /-- The largest number accepted as a priority. -/
  limit : Priority
deriving DecidableEq

namespace Controller

def initial : Controller := ⟨0, 0, Vector.replicate 64 0, 255⟩

def bit (n : Nat) : BitVec 64 := 1#64 <<< n

/-- A vector that does not exist is never enabled. -/
def isEnabled (controller : Controller) (n : Nat) : Bool := controller.enabled.getLsbD n

def isPending (controller : Controller) (n : Nat) : Bool := controller.pending.getLsbD n

def priority (controller : Controller) (n : Nat) : Priority := controller.priorities[n]?.getD 0

def enabledVectors (controller : Controller) : List Nat :=
  (List.range 64).filter controller.isEnabled

def pendingVectors (controller : Controller) : List Nat :=
  (List.range 64).filter controller.isPending

def pend (controller : Controller) (n : Nat) : Controller :=
  if n < 64 then { controller with pending := controller.pending ||| bit n } else controller

def respond (call : ControllerCall) (controller : Controller) : call.Answer × Controller :=
  match call with
  | .enable n =>
      if n < 64 then (.ok (), { controller with enabled := controller.enabled ||| bit n })
      else (.error .invalidArgument, controller)
  | .disable n =>
      if n < 64 then (.ok (), { controller with enabled := controller.enabled &&& ~~~bit n })
      else (.error .invalidArgument, controller)
  | .isPending n => (controller.isPending n, controller)
  | .clearPending n =>
      if n < 64 then (.ok (), { controller with pending := controller.pending &&& ~~~bit n })
      else (.error .invalidArgument, controller)
  | .setPriority n priority =>
      if h : n < 64 then
        if priority ≤ controller.limit then
          (.ok (), { controller with priorities := controller.priorities.set n priority })
        else (.error .invalidArgument, controller)
      else (.error .invalidArgument, controller)
  | .priority n => (controller.priority n, controller)

end Controller

end Interrupts.Simulated
