import Interrupts.Proofs.Delivery.Snapshot
import Interrupts.Proofs.Run.State
import Interrupts.Proofs.Word.Masks
import Interrupts.Proofs.Word.Ones

/-! # Gates

The clock and the serial channels tell of an event only while its gate is open. The gates are
bits of a register that callbacks may change, so they are read anew for each event, when its
turn comes. Both scans are the same program, `Gated.scan`, and `Gated.turns` lists what it does
about one event after the other: each turn begins where the one before has ended, the
callback that was told then included.
-/

namespace Interrupts

open Routine Delivery

/-- What tells of its events only while their gates are open. -/
inductive Gated where
  | clock
  | serial (channel : Channel)
deriving DecidableEq

/-- What a scan does about one event. -/
structure Turn (β η : Type) where
  index : Nat
  /-- The world in which the gates are read. -/
  before : World β η

variable {β η : Type}

namespace Gated

def source : Gated → Source
  | clock => .rtc
  | serial channel => .uart channel

def gateCall : Gated → Call
  | clock => .clock .readControl
  | serial channel => .serial channel .readEnabled

def gates (gated : Gated) (hardware : Hardware β) (board : β) : Word :=
  match gated with
  | clock => (hardware.respond (.clock .readControl) board).1
  | serial channel => (hardware.respond (.serial channel .readEnabled) board).1

def read : Gated → Routine Word
  | clock => Routine.clock .readControl
  | serial channel => Routine.serial channel .readEnabled

def scan (gated : Gated) (callback : Callback) : List Nat → Routine Unit
  | [] => pure ()
  | index :: rest => do
      let gates ← gated.read
      if gates.getLsbD index then
        perform (.invoke gated.source callback index)
      gated.scan callback rest

end Gated

theorem ClockEvent.covers_gate (w : Word) (event : ClockEvent) :
    w.covers event.gate = w.getLsbD event.index := by
  cases event <;> exact w.covers_bit (by decide)

theorem Delivery.scanEvents_eq (callback : Callback) (snapshot : Word)
    (events : List ClockEvent) :
    scanEvents callback snapshot events =
      Gated.clock.scan callback
        ((events.filter fun event => snapshot.covers event.flag).map ClockEvent.index) := by
  induction events with
  | nil => rfl
  | cons event rest ih =>
      rw [scanEvents, ih, List.filter_cons]
      cases snapshot.covers event.flag with
      | false => rfl
      | true =>
          simp only [if_true, List.map_cons, Gated.scan, ClockEvent.covers_gate]
          rfl

theorem Delivery.scanCauses_eq (channel : Channel) (callback : Callback) {causes : List Nat}
    (named : ∀ index ∈ causes, index < 32) :
    scanCauses channel callback causes = (Gated.serial channel).scan callback causes := by
  induction causes with
  | nil => rfl
  | cons index rest ih =>
      rw [List.forall_mem_cons] at named
      simp only [scanCauses, Gated.scan, Word.meets_bit _ named.1, ih named.2]
      rfl

namespace Turn

variable (gated : Gated) (callback : Callback) (hardware : Hardware β) (react : Reaction β η)
  (turn : Turn β η)

def isOpen : Bool := (gated.gates hardware turn.before.board).getLsbD turn.index

def read : World β η := (turn.before.run hardware react gated.read).2

def invocation : Invocation β η :=
  ⟨gated.source, callback, turn.index, turn.read gated hardware react⟩

def after : World β η :=
  if turn.isOpen gated hardware then (turn.invocation gated callback hardware react).outcome react
  else turn.read gated hardware react

def effects : List Effect :=
  .call gated.gateCall ::
    if turn.isOpen gated hardware then [.invoke gated.source callback turn.index] else []

def told : List (Invocation β η) :=
  if turn.isOpen gated hardware then [turn.invocation gated callback hardware react] else []

variable {gated callback hardware react turn}

theorem mem_told {v : Invocation β η} :
    v ∈ turn.told gated callback hardware react ↔
      turn.isOpen gated hardware = true ∧ v = turn.invocation gated callback hardware react := by
  rw [told]
  split <;> simp_all

end Turn

namespace Gated

variable (gated : Gated) (callback : Callback) (hardware : Hardware β) (react : Reaction β η)

def turns : List Nat → World β η → List (Turn β η)
  | [], _ => []
  | index :: rest, world =>
      let turn : Turn β η := ⟨index, world⟩
      turn :: turns rest (turn.after gated callback hardware react)

theorem fst_run_read (world : World β η) :
    (world.run hardware react gated.read).1 = gated.gates hardware world.board := by
  cases gated with
  | clock => exact congrArg Prod.fst (World.respond_call hardware react (.clock .readControl) world)
  | serial channel =>
      exact congrArg Prod.fst
        (World.respond_call hardware react (.serial channel .readEnabled) world)

theorem requests_read (world : World β η) :
    world.requests hardware react gated.read = [(.call gated.gateCall, world)] := by
  cases gated <;> rfl

variable {gated callback hardware react}

/-! ### One turn -/

section

variable (index : Nat) (rest : List Nat) (world : World β η)

theorem run_scan_cons :
    world.run hardware react (gated.scan callback (index :: rest)) =
      ((Turn.mk index world).after gated callback hardware react).run hardware react
        (gated.scan callback rest) := by
  rw [scan, World.run_bind, fst_run_read, Turn.after, Turn.isOpen]
  dsimp only
  split <;> rfl

theorem requests_scan_cons :
    (world.requests hardware react (gated.scan callback (index :: rest))).map Prod.fst =
      (Turn.mk index world).effects gated callback hardware ++
        (((Turn.mk index world).after gated callback hardware react).requests hardware react
          (gated.scan callback rest)).map Prod.fst := by
  rw [scan, World.requests_bind, requests_read, fst_run_read, List.map_append, Turn.effects,
    Turn.after, Turn.isOpen]
  dsimp only
  split <;> rfl

theorem invocations_scan_cons :
    world.invocations hardware react (gated.scan callback (index :: rest)) =
      (Turn.mk index world).told gated callback hardware react ++
        ((Turn.mk index world).after gated callback hardware react).invocations hardware react
          (gated.scan callback rest) := by
  have none : world.invocations hardware react gated.read = [] := by
    rw [World.invocations, requests_read]
    rfl
  rw [scan, World.invocations_bind, none, fst_run_read, Turn.told, Turn.after, Turn.isOpen]
  dsimp only
  split <;> rfl

end

/-! ### All turns -/

/-- Each turn begins in the world that the one before has left, the first where the scan
begins, and the last leaves the world in which the scan ends. -/
theorem turns_chain (indices : List Nat) (world : World β η) :
    (gated.turns callback hardware react indices world).map Turn.before ++
        [(world.run hardware react (gated.scan callback indices)).2] =
      world :: (gated.turns callback hardware react indices world).map
        (Turn.after gated callback hardware react) := by
  induction indices generalizing world with
  | nil => rfl
  | cons index rest ih =>
      rw [run_scan_cons, turns, List.map_cons, List.map_cons, List.cons_append, ih]

theorem turns_index (indices : List Nat) (world : World β η) :
    (gated.turns callback hardware react indices world).map Turn.index = indices := by
  induction indices generalizing world with
  | nil => rfl
  | cons index rest ih => exact congrArg (index :: ·) (ih _)

theorem requests_scan (indices : List Nat) (world : World β η) :
    (world.requests hardware react (gated.scan callback indices)).map Prod.fst =
      (gated.turns callback hardware react indices world).flatMap
        (Turn.effects gated callback hardware) := by
  induction indices generalizing world with
  | nil => rfl
  | cons index rest ih => rw [requests_scan_cons, ih, turns, List.flatMap_cons]

theorem invocations_scan (indices : List Nat) (world : World β η) :
    world.invocations hardware react (gated.scan callback indices) =
      ((gated.turns callback hardware react indices world).filter
        (Turn.isOpen gated hardware)).map (Turn.invocation gated callback hardware react) := by
  induction indices generalizing world with
  | nil => rfl
  | cons index rest ih =>
      rw [invocations_scan_cons, ih, turns, List.filter_cons, Turn.told]
      split <;> rfl

end Gated

/-- What is known of a scan of the given events that begins in `start`, asks for `asked`, tells
`told` and ends in `last`, turn by turn: each turn begins in the world that the one before has
left; it asks for the gates and, if the gate of its event is open then, for the callback. -/
structure LiveScan (gated : Gated) (callback : Callback) (hardware : Hardware β)
    (react : Reaction β η) (given : List Nat) (start : World β η) (turns : List (Turn β η))
    (asked : List Effect) (told : List (Invocation β η)) (last : World β η) : Prop where
  index : turns.map Turn.index = given
  chain : turns.map Turn.before ++ [last] =
    start :: turns.map (Turn.after gated callback hardware react)
  asked : asked = turns.flatMap (Turn.effects gated callback hardware)
  told : told = (turns.filter (Turn.isOpen gated hardware)).map
    (Turn.invocation gated callback hardware react)

namespace LiveScan

variable {gated : Gated} {callback : Callback} {hardware : Hardware β} {react : Reaction β η}
  {given : List Nat} {start last : World β η} {turns : List (Turn β η)} {asked : List Effect}
  {told : List (Invocation β η)}

theorem own (scan : LiveScan gated callback hardware react given start turns asked told last) :
    ∀ v ∈ told, v.source = gated.source ∧ v.callback = callback := by
  rw [scan.told]
  intro v hv
  obtain ⟨turn, -, rfl⟩ := List.mem_map.1 hv
  exact ⟨rfl, rfl⟩

theorem sublist (scan : LiveScan gated callback hardware react given start turns asked told last) :
    (told.map Invocation.index).Sublist given := by
  have kept : ((turns.filter (Turn.isOpen gated hardware)).map Turn.index).Sublist
      (turns.map Turn.index) := List.filter_sublist.map _
  rw [scan.told, ← scan.index, List.map_map]
  exact kept

theorem told_iff (scan : LiveScan gated callback hardware react given start turns asked told last)
    (index : Nat) :
    (∃ v ∈ told, v.index = index) ↔
      ∃ turn ∈ turns, turn.index = index ∧ turn.isOpen gated hardware = true := by
  rw [scan.told]
  constructor
  · rintro ⟨v, hv, rfl⟩
    obtain ⟨turn, listed, rfl⟩ := List.mem_map.1 hv
    obtain ⟨listed, opened⟩ := List.mem_filter.1 listed
    exact ⟨turn, listed, rfl, opened⟩
  · rintro ⟨turn, listed, rfl, opened⟩
    exact ⟨_, List.mem_map_of_mem (List.mem_filter.2 ⟨listed, opened⟩), rfl⟩

end LiveScan

namespace Gated

variable (gated : Gated) (callback : Callback) (hardware : Hardware β) (react : Reaction β η)

theorem scan_live (indices : List Nat) (world : World β η) :
    LiveScan gated callback hardware react indices world
      (gated.turns callback hardware react indices world)
      ((world.requests hardware react (gated.scan callback indices)).map Prod.fst)
      (world.invocations hardware react (gated.scan callback indices))
      (world.run hardware react (gated.scan callback indices)).2 :=
  ⟨turns_index indices world, turns_chain indices world, requests_scan indices world,
    invocations_scan indices world⟩

/-! ### Serving -/

def peripheral : Gated → Peripheral
  | clock => .rtc
  | serial channel => .uart channel

/-- The events that a status reports, by ascending number. -/
def flagged : Gated → Word → List Nat
  | clock, snapshot =>
      (ClockEvent.all.filter fun event => snapshot.covers event.flag).map ClockEvent.index
  | serial _, snapshot => snapshot.ones

theorem flagged_ascending (snapshot : Word) : (gated.flagged snapshot).Pairwise (· < ·) := by
  cases gated with
  | clock =>
      have all : (ClockEvent.all.map ClockEvent.index).Pairwise (· < ·) := by decide
      exact all.sublist (List.filter_sublist.map _)
  | serial channel => exact snapshot.ones_ascending

/-- Reads the status, clears it, and tells the callback, if there is one. -/
def serve (entry : Option Callback) : Routine Unit := do
  let snapshot ← readStatus gated.peripheral
  clearStatus gated.peripheral (gated.peripheral.cleared snapshot)
  match entry with
  | none => pure ()
  | some callback => gated.scan callback (gated.flagged snapshot)

end Gated

theorem Delivery.rtc_eq_serve (entry : Option Callback) : rtc entry = Gated.clock.serve entry := by
  cases entry with
  | none => rfl
  | some callback =>
      refine bind_congr fun snapshot => bind_congr fun _ => ?_
      exact scanEvents_eq callback snapshot ClockEvent.all

theorem Delivery.uart_eq_serve (channel : Channel) (entry : Option Callback) :
    uart channel entry = (Gated.serial channel).serve entry := by
  cases entry with
  | none => rfl
  | some callback =>
      refine bind_congr fun snapshot => bind_congr fun _ => ?_
      have named : ∀ index ∈ snapshot.ones, index < 32 := fun index set =>
        Word.lt_of_getLsbD (Word.mem_ones.1 set)
      dsimp only
      rw [SetBits.toList_eq_ones]
      exact scanCauses_eq channel callback named

namespace Gated

variable (gated : Gated) (hardware : Hardware β) (react : Reaction β η) (world : World β η)

def snapshot : Word := (world.run hardware react (readStatus gated.peripheral)).1

def cleared : World β η :=
  ((world.run hardware react (readStatus gated.peripheral)).2.run hardware react
    (clearStatus gated.peripheral
      (gated.peripheral.cleared (gated.snapshot hardware react world)))).2

/-- The two calls before the scan. -/
def opening : List Effect :=
  [.call gated.peripheral.statusCall, .call (gated.peripheral.clearCall
    (gated.peripheral.cleared (gated.snapshot hardware react world)))]

theorem serve_none :
    (world.requests hardware react (gated.serve none)).map Prod.fst =
        gated.opening hardware react world ∧
      world.invocations hardware react (gated.serve none) = [] ∧
      (world.run hardware react (gated.serve none)).2 = gated.cleared hardware react world := by
  cases gated <;> exact ⟨rfl, rfl, rfl⟩

theorem serve_some (callback : Callback) :
    let start := gated.cleared hardware react world
    let scan := gated.scan callback (gated.flagged (gated.snapshot hardware react world))
    (world.requests hardware react (gated.serve (some callback))).map Prod.fst =
        gated.opening hardware react world ++ (start.requests hardware react scan).map Prod.fst ∧
      world.invocations hardware react (gated.serve (some callback)) =
        start.invocations hardware react scan ∧
      (world.run hardware react (gated.serve (some callback))).2 =
        (start.run hardware react scan).2 := by
  cases gated <;> exact ⟨rfl, rfl, rfl⟩

theorem serve_live (gated : Gated) (callback : Callback) (hardware : Hardware β)
    (react : Reaction β η) (world : World β η) :
    ∃ turns rest,
      (world.requests hardware react (gated.serve (some callback))).map Prod.fst =
        gated.opening hardware react world ++ rest ∧
      LiveScan gated callback hardware react (gated.flagged (gated.snapshot hardware react world))
        (gated.cleared hardware react world) turns rest
        (world.invocations hardware react (gated.serve (some callback)))
        (world.run hardware react (gated.serve (some callback))).2 := by
  obtain ⟨asked, told, last⟩ := serve_some gated hardware react world callback
  have live := scan_live gated callback hardware react
    (gated.flagged (gated.snapshot hardware react world)) (gated.cleared hardware react world)
  rw [← told, ← last] at live
  exact ⟨_, _, asked, live⟩

end Gated

/-! ### Where the gates can be read without effect -/

/-- What the last of the callbacks told of an earlier event has left; what was there at first,
if there is none. -/
def leftBefore (react : Reaction β η) (first : State β) (told : List (Invocation β η))
    (index : Nat) : State β :=
  (told.filter fun v => decide (v.index < index)).foldl (fun _ v => (v.outcome react).state) first

section

variable {react : Reaction β η} {first : State β} {told : List (Invocation β η)} {index : Nat}

theorem leftBefore_of_le (none : ∀ v ∈ told, index ≤ v.index) :
    leftBefore react first told index = first := by
  have nobody : told.filter (fun v => decide (v.index < index)) = [] :=
    List.filter_eq_nil_iff.2 fun v given => by simpa using none v given
  rw [leftBefore, nobody, List.foldl_nil]

theorem leftBefore_cons_of_lt {v : Invocation β η} (before : v.index < index) :
    leftBefore react first (v :: told) index =
      leftBefore react (v.outcome react).state told index := by
  rw [leftBefore, List.filter_cons_of_pos (by simpa using before), List.foldl_cons, leftBefore]

end

namespace Gated

variable {gated : Gated} {callback : Callback} {hardware : Hardware β} {react : Reaction β η}

def Still (gated : Gated) (hardware : Hardware β) : Prop :=
  ∀ board, (hardware.respond gated.gateCall board).2.1 = board

variable (still : gated.Still hardware)

include still

theorem state_read (turn : Turn β η) :
    (turn.read gated hardware react).state = turn.before.state := by
  have same := still turn.before.board
  cases gated with
  | clock =>
      rw [Turn.read, read, Routine.clock, World.run_perform, World.respond_call]
      exact congrArg (fun board => { turn.before.state with board }) same
  | serial channel =>
      rw [Turn.read, read, Routine.serial, World.run_perform, World.respond_call]
      exact congrArg (fun board => { turn.before.state with board }) same

/-- Each callback is told in the state that the one before has left, the first in the state in
which the scan begins, and the last leaves the state in which the scan ends. -/
theorem told_chain (indices : List Nat) (world : World β η) :
    let told := world.invocations hardware react (gated.scan callback indices)
    told.map (fun v => v.world.state) ++
        [(world.run hardware react (gated.scan callback indices)).2.state] =
      world.state :: told.map fun v => (v.outcome react).state := by
  induction indices generalizing world with
  | nil => rfl
  | cons index rest ih =>
      have later := ih ((Turn.mk index world).after gated callback hardware react)
      have same : ((Turn.mk index world).read gated hardware react).state = world.state :=
        state_read still _
      dsimp only at later ⊢
      rw [run_scan_cons, invocations_scan_cons, Turn.told]
      rw [Turn.after] at later ⊢
      cases opened : (Turn.mk index world).isOpen gated hardware with
      | true =>
          simp only [opened, if_true] at later
          refine Eq.trans ?_ (congrArg (world.state :: ·) later)
          exact congrArg (· :: _) same
      | false =>
          simp only [opened, if_false, Bool.false_eq_true] at later
          rw [same] at later
          exact later

/-- To an event that comes later it is all one whether a turn has told the callback: what
counts is the state in which the scan goes on. -/
theorem leftBefore_turn (callback : Callback) (react : Reaction β η) (world : World β η)
    {first index : Nat} (later : first < index) (told : List (Invocation β η)) :
    let turn : Turn β η := ⟨first, world⟩
    leftBefore react world.state (turn.told gated callback hardware react ++ told) index =
      leftBefore react (turn.after gated callback hardware react).state told index := by
  intro turn
  rw [Turn.told, Turn.after]
  cases turn.isOpen gated hardware with
  | true => exact leftBefore_cons_of_lt later
  | false => exact congrArg (leftBefore react · told index) (state_read still turn).symm

theorem told_iff_left {indices : List Nat} (ascending : indices.Pairwise (· < ·))
    (world : World β η) (index : Nat) :
    let told := world.invocations hardware react (gated.scan callback indices)
    (∃ v ∈ told, v.index = index) ↔ index ∈ indices ∧
      (gated.gates hardware (leftBefore react world.state told index).board).getLsbD index =
        true := by
  -- On the events that are left, from any world: the next turn begins in what this one leaves.
  induction indices generalizing world with
  | nil => simp [scan]
  | cons first rest ih =>
      rw [List.pairwise_cons] at ascending
      let turn : Turn β η := ⟨first, world⟩
      have later := ih ascending.2 (turn.after gated callback hardware react)
      have above : ∀ v ∈ (turn.after gated callback hardware react).invocations hardware react
          (gated.scan callback rest), first < v.index := fun v told =>
        ascending.1 _ ((gated.scan_live callback hardware react rest _).sublist.subset
          (List.mem_map_of_mem told))
      have step (given : index ∈ rest) :=
        leftBefore_turn still callback react world (ascending.1 index given)
      dsimp only at later step ⊢
      rw [invocations_scan_cons]
      generalize (turn.after gated callback hardware react).invocations hardware react
        (gated.scan callback rest) = told at later above ⊢
      have own {v : Invocation β η} (now : v ∈ turn.told gated callback hardware react) :
          v.index = first :=
        congrArg Invocation.index (Turn.mem_told.1 now).2
      by_cases same : index = first
      · -- The event of this turn: nobody has been told of an earlier one.
        subst same
        rw [leftBefore_of_le fun v given => (List.mem_append.1 given).elim
          (fun now => Nat.le_of_eq (own now).symm) fun told => Nat.le_of_lt (above v told)]
        constructor
        · rintro ⟨v, given, is⟩
          refine ⟨List.mem_cons_self, ?_⟩
          rcases List.mem_append.1 given with now | told
          · exact (Turn.mem_told.1 now).1
          · exact absurd is (Nat.ne_of_gt (above v told))
        · rintro ⟨-, opened⟩
          exact ⟨_, List.mem_append_left told (Turn.mem_told.2 ⟨opened, rfl⟩), rfl⟩
      · -- Any other event comes later.
        constructor
        · rintro ⟨v, given, is⟩
          rcases List.mem_append.1 given with now | told
          · exact absurd (is.symm.trans (own now)) same
          · obtain ⟨given, opened⟩ := later.1 ⟨v, told, is⟩
            exact ⟨List.mem_cons_of_mem _ given, step given _ ▸ opened⟩
        · rintro ⟨given, opened⟩
          have given := List.mem_of_ne_of_mem same given
          obtain ⟨v, told, is⟩ := later.2 ⟨given, step given _ ▸ opened⟩
          exact ⟨v, List.mem_append_right _ told, is⟩

/-- When a source is served, its callback is told in the state that the clear, and then each
callback, has left, and of an event that was flagged if its gate is open there. -/
theorem serve_still (callback : Callback) (world : World β η) :
    let told := world.invocations hardware react (gated.serve (some callback))
    let start := (gated.cleared hardware react world).state
    told.map (fun v => v.world.state) ++
        [(world.run hardware react (gated.serve (some callback))).2.state] =
      start :: told.map (fun v => (v.outcome react).state) ∧
    ∀ index, (∃ v ∈ told, v.index = index) ↔
      index ∈ gated.flagged (gated.snapshot hardware react world) ∧
        (gated.gates hardware (leftBefore react start told index).board).getLsbD index = true := by
  obtain ⟨-, told, last⟩ := serve_some gated hardware react world callback
  rw [told, last]
  exact ⟨told_chain still _ _, told_iff_left still (gated.flagged_ascending _) _⟩

end Gated

end Interrupts
