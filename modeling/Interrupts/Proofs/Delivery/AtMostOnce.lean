import Interrupts.Proofs.Run.Reachable
import Interrupts.Proofs.Simulated.Signal
import Interrupts.Proofs.Word.Ones

/-! # No assertion is delivered twice

Every delivery of a signal is paid for by an assertion. Between the two the assertion is
either pending on the board or owed to a scan that has read and cleared it but has not
come to its bit yet. Scans are nested when callbacks serve vectors themselves, so there is
no bound on how many scans are under way; each keeps account of what it is owed only, and
asks of the callbacks that they leave this account covered.
-/

namespace Interrupts.Simulated

open Routine Delivery

namespace Signal

def told (signal : Signal) (source : Source) (index : Nat) : Bool :=
  source = signal.source && index = signal.index

def isDelivery (signal : Signal) : Event Adjustment → Bool
  | .performed (.invoke source _ index) _ => signal.told source index
  | _ => false

def isAssertion (signal : Signal) : Event Adjustment → Bool
  | .adjusted (.stimulate stimulus) => signal.assertedBy stimulus
  | _ => false

def deliveries (signal : Signal) (world : World Board Adjustment) : Nat :=
  world.trace.countP signal.isDelivery

def assertions (signal : Signal) (world : World Board Adjustment) : Nat :=
  world.trace.countP signal.isAssertion

/-- The assertions cover all deliveries so far, what is pending, and what is owed to a
scan under way. -/
def Covered (signal : Signal) (owed : Nat) (world : World Board Adjustment) : Prop :=
  signal.deliveries world + signal.pending world.board + owed ≤ signal.assertions world

variable {signal : Signal} {owed : Nat} {world : World Board Adjustment}

theorem Covered.mono {less : Nat} (h : signal.Covered owed world) (le : less ≤ owed) :
    signal.Covered less world :=
  Nat.le_trans (Nat.add_le_add_left le _) h

theorem Covered.log {event : Event Adjustment} (h : signal.Covered owed world)
    (notDelivery : signal.isDelivery event = false)
    (notAssertion : signal.isAssertion event = false) :
    signal.Covered owed (world.log event) := by
  simpa [Covered, deliveries, assertions, notDelivery, notAssertion] using h

theorem Covered.cleared (h : signal.Covered owed world) : signal.Covered owed (Rig.cleared world) :=
  h

variable {number : Peripheral → Nat} {react : Reaction Board Adjustment}

/-- What a call takes off the board may be owed instead. -/
theorem Covered.called {c : Call} (h : signal.Covered owed world) (less : Nat)
    (taken : signal.pending (world.board.respond c).2 + less ≤ signal.pending world.board) :
    signal.Covered (owed + less) (world.respond (hardware number) react (.call c)).2 := by
  have board : ((hardware number).respond c world.board).2.1 = (world.board.respond c).2 := rfl
  rw [World.respond_call, board]
  simp only [Covered, deliveries, assertions, hardware, List.map_nil, List.reverse_nil,
    List.nil_append, List.countP_cons, isDelivery, isAssertion, Bool.false_eq_true, if_false,
    Nat.add_zero] at h ⊢
  omega

theorem Covered.respond {effect : Effect} (quiet : ¬ effect.Invokes)
    (h : signal.Covered owed world) :
    signal.Covered owed (world.respond (hardware number) react effect).2 := by
  cases effect with
  | invoke _ _ _ => exact absurd trivial quiet
  | call c => exact h.called 0 (signal.pending_respond c world.board)
  | _ => exact h.log rfl rfl

theorem deliveries_entry (signal : Signal) (v : Invocation Board Adjustment) :
    signal.deliveries v.entry =
      signal.deliveries v.world + (signal.told v.source v.index).toNat := by
  unfold deliveries
  rw [Invocation.trace_entry]
  cases told : signal.told v.source v.index with
  | false => rw [List.countP_cons_of_neg (by simp [isDelivery, told])]; rfl
  | true => rw [List.countP_cons_of_pos (by simp [isDelivery, told])]; rfl

/-- A callback is told of the signal at the expense of what is owed. -/
theorem Covered.entry {v : Invocation Board Adjustment}
    (h : signal.Covered (owed + (signal.told v.source v.index).toNat) v.world) :
    signal.Covered owed v.entry := by
  have asserted : signal.assertions v.entry = signal.assertions v.world := by
    simp [assertions, isAssertion]
  unfold Covered at h ⊢
  rw [deliveries_entry, asserted, Invocation.board_entry]
  omega

/-! ## Reading and clearing -/

/-- The index stands for the signal in a scan of the peripheral. -/
def due (signal : Signal) (peripheral : Peripheral) (index : Nat) : Bool :=
  peripheral = signal.source.peripheral && index = signal.index

theorem due_iff {peripheral : Peripheral} {i : Nat} : signal.due peripheral i = true ↔
    peripheral = signal.source.peripheral ∧ i = signal.index := by
  simp [due]

theorem countP_cons_toNat {α : Type} (p : α → Bool) (a : α) (rest : List α) :
    (a :: rest).countP p = rest.countP p + (p a).toNat := by
  rw [List.countP_cons]
  cases p a <;> rfl

theorem Covered.clearStatus {mask : Word} (h : signal.Covered owed world)
    (shown : ∀ i, mask.getLsbD i = true → world.board.lines.status.getLsbD i = true) :
    signal.Covered (owed + mask.ones.countP (signal.due .gpio))
      (world.respond (hardware number) react (.call (.lines (.clearStatus mask)))).2 := by
  refine h.called _ ?_
  cases signal with
  | line l =>
      have count : mask.ones.countP ((line l).due .gpio) = (mask.getLsbD l.val).toNat := by
        rw [← mask.countP_ones]
        exact List.countP_congr fun i _ => by simp [due_iff, source, index, Source.peripheral]
      rw [count]
      exact pending_clearStatus l mask world.board (shown l.val)
  | _ =>
      rw [List.countP_eq_zero.2 (by simp [due, source, Source.peripheral])]
      exact pending_respond _ _ _

theorem Covered.clearControl (h : signal.Covered owed world) :
    signal.Covered (owed + ClockEvent.all.countP fun event =>
        world.board.clock.control.covers event.flag && signal.due .rtc event.index)
      (world.respond (hardware number) react
        (.call (.clock (.clearControl ClockControl.eventFlags)))).2 := by
  refine h.called _ ?_
  cases signal with
  | clock event =>
      have count : (ClockEvent.all.countP fun other =>
          world.board.clock.control.covers other.flag && (clock event).due .rtc other.index) =
            (world.board.clock.control.covers event.flag).toNat := by
        cases event <;>
          simp [ClockEvent.all, countP_cons_toNat, due, source, index, Source.peripheral,
            ClockEvent.index]
      rw [count]
      exact pending_clearControl event world.board
  | _ =>
      rw [List.countP_eq_zero.2 (by simp [due, source, Source.peripheral])]
      exact pending_respond _ _ _

theorem Covered.clearFlags (channel : Channel) (h : signal.Covered owed world) :
    signal.Covered (owed +
        (world.board.serial.get channel).flags.ones.countP (signal.due (.uart channel)))
      (world.respond (hardware number) react
        (.call (.serial channel (.clearFlags (world.board.serial.get channel).flags)))).2 := by
  refine h.called _ ?_
  have others (h : signal.source ≠ .uart channel) :
      (world.board.serial.get channel).flags.ones.countP (signal.due (.uart channel)) = 0 := by
    refine List.countP_eq_zero.2 fun i _ => ?_
    cases signal <;> simp_all [due, source, Source.peripheral, eq_comm]
  cases signal with
  | serial other cause =>
      by_cases same : other = channel
      · subst same
        have count : (world.board.serial.get other).flags.ones.countP
            ((serial other cause).due (.uart other)) =
              ((world.board.serial.get other).flags.getLsbD cause).toNat := by
          rw [← Word.countP_ones]
          exact List.countP_congr fun i _ => by simp [due_iff, source, index, Source.peripheral]
        rw [count]
        exact pending_clearFlags other cause world.board
      · rw [others (by simpa [source] using same)]
        exact pending_respond _ _ _
  | _ =>
      rw [others (by simp [source])]
      exact pending_respond _ _ _

/-! ## Scans -/

theorem told_le_due (signal : Signal) (source : Source) (index : Nat) :
    (signal.told source index).toNat ≤ (signal.due source.peripheral index).toNat := by
  cases told : signal.told source index with
  | false => exact Nat.zero_le _
  | true =>
      simp only [Signal.told, Bool.and_eq_true, decide_eq_true_eq] at told
      simp [due, told]

theorem perform_covers (effect : Effect) (quiet : ¬ effect.Invokes) (seen : Nat) :
    Leads (hardware number) react (signal.Covered seen) (signal.Covered owed)
      (fun _ => signal.Covered owed) (perform effect) :=
  Leads.perform effect quiet fun _ h => h.respond quiet

theorem lookUp_covers (source : Source) (seen : Nat) :
    Leads (hardware number) react (signal.Covered seen) (signal.Covered owed)
      (fun _ => signal.Covered owed) (lookUp source) :=
  Leads.lookUp fun _ h => ((((h.log rfl rfl).log rfl rfl).log rfl rfl).log rfl rfl).log rfl rfl

/-- What is owed for one index pays for its callback, which leaves the rest covered. -/
theorem invoke_covers (source : Source) (callback : Callback) (index rest : Nat)
    (keeps : ∀ owed callback index world, signal.Covered owed world →
      signal.Covered owed (react callback index world)) :
    Leads (hardware number) react (signal.Covered owed)
      (signal.Covered (owed + rest + (signal.due source.peripheral index).toNat))
      (fun _ => signal.Covered (owed + rest)) (perform (.invoke source callback index)) := by
  have paid (world : World Board Adjustment)
      (h : signal.Covered (owed + rest + (signal.due source.peripheral index).toNat) world) :
      signal.Covered (owed + rest) (Invocation.mk source callback index world).entry :=
    Covered.entry (h.mono (Nat.add_le_add_left (signal.told_le_due source index) _))
  exact Leads.invoke (fun world h => (paid world h).mono (Nat.le_add_right _ _))
    fun world h => keeps _ _ _ _ (paid world h)

section

variable (keeps : ∀ owed callback index world, signal.Covered owed world →
  signal.Covered owed (react callback index world))

include keeps

theorem scanLines_covers (snapshot : Word) (bits : List Nat) :
    Leads (hardware number) react (signal.Covered owed)
      (signal.Covered (owed + bits.countP (signal.due .gpio)))
      (fun _ => signal.Covered owed) (scanLines lookUp snapshot bits) := by
  induction bits with
  | nil => exact Leads.pure fun _ h => h
  | cons index rest ih =>
      have drop : Leads (hardware number) react (signal.Covered owed)
          (signal.Covered (owed + (index :: rest).countP (signal.due .gpio)))
          (fun _ => signal.Covered owed) (note (.dropped index snapshot)) :=
        (perform_covers (.note _) id owed).weaken
          (fun _ h => h.mono (Nat.le_add_right _ _)) fun _ _ h => h
      unfold scanLines
      split
      · exact drop
      next line hl =>
        obtain rfl := Line.eq_val_of_ofNat? hl
        apply Leads.bind (lookUp_covers _ _)
        intro entry
        cases entry with
        | none => exact drop
        | some callback =>
            refine Leads.bind ?_ fun _ => ih
            rw [countP_cons_toNat, ← Nat.add_assoc]
            exact invoke_covers (.gpio line) callback line.val _ keeps

theorem scanEvents_covers (callback : Callback) (snapshot : Word) (events : List ClockEvent) :
    Leads (hardware number) react (signal.Covered owed)
      (signal.Covered (owed + events.countP fun event =>
        snapshot.covers event.flag && signal.due .rtc event.index))
      (fun _ => signal.Covered owed) (scanEvents callback snapshot events) := by
  induction events with
  | nil => exact Leads.pure fun _ h => h
  | cons event rest ih =>
      -- What is owed for an event that is not told is forgone.
      have skip : Leads (hardware number) react (signal.Covered owed)
          (signal.Covered (owed + (event :: rest).countP fun event =>
            snapshot.covers event.flag && signal.due .rtc event.index))
          (fun _ => signal.Covered owed) (scanEvents callback snapshot rest) := by
        apply ih.weaken
        · intro world h
          rw [countP_cons_toNat] at h
          exact h.mono (by omega)
        · exact fun _ _ h => h
      unfold scanEvents
      split
      next flagged =>
        apply Leads.bind (perform_covers (.call (.clock .readControl)) id owed)
        intro control
        split
        · refine Leads.bind ?_ fun _ => ih
          rw [countP_cons_toNat, ← Nat.add_assoc, flagged, Bool.true_and]
          exact invoke_covers .rtc callback event.index _ keeps
        · exact skip
      next => exact skip

theorem scanCauses_covers (channel : Channel) (callback : Callback) (causes : List Nat) :
    Leads (hardware number) react (signal.Covered owed)
      (signal.Covered (owed + causes.countP (signal.due (.uart channel))))
      (fun _ => signal.Covered owed) (scanCauses channel callback causes) := by
  induction causes with
  | nil => exact Leads.pure fun _ h => h
  | cons index rest ih =>
      unfold scanCauses
      apply Leads.bind (perform_covers (.call (.serial channel .readEnabled)) id owed)
      intro enabled
      split
      · refine Leads.bind ?_ fun _ => ih
        rw [countP_cons_toNat, ← Nat.add_assoc]
        exact invoke_covers (.uart channel) callback index _ keeps
      · apply ih.weaken
        · intro world h
          rw [countP_cons_toNat] at h
          exact h.mono (by omega)
        · exact fun _ _ h => h

theorem gpio_covers :
    Upholds (hardware number) react (signal.Covered owed) (gpio lookUp) := by
  have reads : Leads (hardware number) react (signal.Covered owed) (signal.Covered owed)
      (fun snapshot world => signal.Covered owed world ∧
        ∀ i, snapshot.getLsbD i = true → world.board.lines.status.getLsbD i = true)
      (Routine.lines .readStatus) := by
    apply Leads.perform (.call (.lines .readStatus)) id
    intro world h
    refine ⟨h.respond id, ?_⟩
    intro i set
    rw [World.respond_call] at set ⊢
    simp only [hardware, Board.respond, LineBank.respond, BitVec.getLsbD_or] at set ⊢
    rw [set, Bool.true_or]
  have clears (snapshot : Word) : Leads (hardware number) react (signal.Covered owed)
      (fun world => signal.Covered owed world ∧
        ∀ i, snapshot.getLsbD i = true → world.board.lines.status.getLsbD i = true)
      (fun _ => signal.Covered (owed + snapshot.ones.countP (signal.due .gpio)))
      (Routine.lines (.clearStatus snapshot)) :=
    Leads.perform (.call (.lines (.clearStatus snapshot))) id fun _ h => h.1.clearStatus h.2
  apply Leads.bind reads
  intro snapshot
  apply Leads.bind (clears snapshot)
  intro _
  rw [SetBits.toList_eq_ones]
  exact scanLines_covers keeps snapshot snapshot.ones

theorem rtc_covers (entry : Option Callback) :
    Upholds (hardware number) react (signal.Covered owed) (rtc entry) := by
  have reads : Leads (hardware number) react (signal.Covered owed) (signal.Covered owed)
      (fun snapshot world => signal.Covered owed world ∧ snapshot = world.board.clock.control)
      (Routine.clock .readControl) := by
    apply Leads.perform (.call (.clock .readControl)) id
    intro world h
    refine ⟨h.respond id, ?_⟩
    rw [World.respond_call]
    rfl
  have clears (snapshot : Word) : Leads (hardware number) react (signal.Covered owed)
      (fun world => signal.Covered owed world ∧ snapshot = world.board.clock.control)
      (fun _ => signal.Covered (owed + ClockEvent.all.countP fun event =>
        snapshot.covers event.flag && signal.due .rtc event.index))
      (Routine.clock (.clearControl ClockControl.eventFlags)) := by
    apply Leads.perform (.call (.clock (.clearControl _))) id
    intro world h
    obtain ⟨covered, rfl⟩ := h
    exact covered.clearControl
  apply Leads.bind reads
  intro snapshot
  apply Leads.bind (clears snapshot)
  intro _
  cases entry with
  | none => exact Leads.pure fun _ h => h.mono (Nat.le_add_right _ _)
  | some callback => exact scanEvents_covers keeps callback snapshot ClockEvent.all

theorem uart_covers (channel : Channel) (entry : Option Callback) :
    Upholds (hardware number) react (signal.Covered owed) (uart channel entry) := by
  have reads : Leads (hardware number) react (signal.Covered owed) (signal.Covered owed)
      (fun snapshot world =>
        signal.Covered owed world ∧ snapshot = (world.board.serial.get channel).flags)
      (Routine.serial channel .readFlags) := by
    apply Leads.perform (.call (.serial channel .readFlags)) id
    intro world h
    refine ⟨h.respond id, ?_⟩
    rw [World.respond_call]
    simp [hardware, Board.respond, SerialChannel.respond, get_eq_getElem]
  -- What the clear takes off the board is owed to the scan, since it is what was read.
  have clears (snapshot : Word) : Leads (hardware number) react (signal.Covered owed)
      (fun world => signal.Covered owed world ∧ snapshot = (world.board.serial.get channel).flags)
      (fun _ => signal.Covered (owed + snapshot.ones.countP (signal.due (.uart channel))))
      (Routine.serial channel (.clearFlags snapshot)) := by
    apply Leads.perform (.call (.serial channel (.clearFlags snapshot))) id
    intro world h
    obtain ⟨covered, rfl⟩ := h
    exact covered.clearFlags channel
  apply Leads.bind reads
  intro snapshot
  apply Leads.bind (clears snapshot)
  intro _
  rw [SetBits.toList_eq_ones]
  cases entry with
  | none => exact Leads.pure fun _ h => h.mono (Nat.le_add_right _ _)
  | some callback => exact scanCauses_covers keeps channel callback snapshot.ones

theorem dispatch_covers (peripheral : Peripheral) :
    Upholds (hardware number) react (signal.Covered owed) (dispatch peripheral) := by
  cases peripheral with
  | gpio => exact gpio_covers keeps
  | rtc => exact Leads.bind (lookUp_covers _ _) fun entry => rtc_covers keeps entry
  | uart channel =>
      exact Leads.bind (lookUp_covers _ _) fun entry => uart_covers keeps channel entry

end

/-! ## Reachable worlds -/

theorem covered_assembled (number : Peripheral → Nat) (react : Reaction Board Adjustment)
    (signal : Signal) (owed : Nat) :
    Assembled fun α => Upholds (α := α) (hardware number) react (signal.Covered owed) :=
  Upholds.sequential.assembled fun effect quiet =>
    Upholds.perform effect quiet fun _ h => h.respond quiet

theorem covered_invariant (number : Peripheral → Nat) :
    (rig number).Invariant (fun _ => True)
      fun (account : Signal × Nat) => account.1.Covered account.2 where
  began _ _ _ h := h.log rfl rfl
  ended _ _ _ h := h.log rfl rfl
  operate _ operation react keeps _ account :=
    (covered_assembled number react account.1 account.2).operation _
      (dispatch_covers fun owed => keeps (account.1, owed)) operation
  call _ _ _ _ _ _ h := h.respond id
  adjust _ adjustment account world _ h := by
    obtain ⟨signal, owed⟩ := account
    cases adjustment with
    | isEnabled n => exact h.log rfl rfl
    | stimulate stimulus =>
        have le := signal.pending_stimulate stimulus world.board
        simp only [Covered, deliveries, assertions, World.log, rig, adjust, countP_cons_toNat,
          isDelivery, isAssertion, Bool.toNat_false] at h ⊢
        omega
  restart react account world after _ h holds := by
    have parts := covered_assembled number react account.1 account.2
    have stopped := (parts.stop (rig number).hardware.vectors).final holds
    rw [Rig.eq_of_restart h]
    exact (parts.start (rig number).hardware.vectors).final stopped.cleared

/-- No assertion of a signal is delivered twice: in every world that a session on a new
board reaches, however callbacks are nested, the signal was delivered at most as often as
it was asserted, and once less while its status bit is set. -/
theorem deliveries_le_assertions (number : Peripheral → Nat)
    (behaviour : Behaviour Board Adjustment) (budget : Nat) (commands : List (Command Adjustment))
    (world : World Board Adjustment)
    (reached : (rig number).Reachable behaviour budget Board.initial commands world)
    (signal : Signal) :
    signal.deliveries world + (signal.flagged world.board).toNat ≤ signal.assertions world := by
  have fresh : signal.Covered 0 (World.initial Board.initial) := by
    have : signal.pending Board.initial = 0 := by
      cases signal with
      | line l => simp [pending, flagged, deferred, Board.initial, LineBank.initial]
      | clock event => cases event <;> rfl
      | serial channel cause =>
          simp [pending, flagged, deferred, Board.initial, SerialChannel.initial, get_eq_getElem]
    simp [Covered, deliveries, assertions, World.initial, this]
  have parts := covered_assembled number ((rig number).reentrant behaviour budget) signal 0
  have started := (parts.start (rig number).hardware.vectors).final fresh
  have bodies (callback : Callback) (index : Nat) (world : World Board Adjustment) :
      (behaviour callback index world).Only fun _ => True :=
    Program.only_of_forall (fun _ => trivial) _
  have covered : signal.Covered 0 world :=
    (covered_invariant number).reaches (j := (signal, 0)) bodies reached (fun _ _ => trivial)
      started
  unfold Covered pending at covered
  omega

/-- The callback raises its line again and serves it again, to the depth of the budget. -/
theorem deliveries_le_assertions_nested :
    let told : Callback := ⟨.routine, 1, .gpio .risingEdge, 1⟩
    let raise : Step Adjustment := ⟨"raise", .adjust (.stimulate (.raiseLines 0x18))⟩
    let serve : Step Adjustment := ⟨"serve", .operate (.dispatch .gpio)⟩
    let commands := [.step ⟨"register", .operate (.register (.gpio 3) told)⟩, .step raise,
      .step serve]
    let nested : Behaviour Board Adjustment := fun _ _ _ => Body.ofSteps [raise, serve]
    ∃ world, (rig Simulated.number).Reachable nested 2 Board.initial commands world ∧
      (line 3).deliveries world = 3 ∧ (line 3).assertions world = 3 ∧
      (line 3).deliveries world + ((line 3).flagged world.board).toNat ≤
        (line 3).assertions world := by
  intro told raise serve commands nested
  have reached : (rig Simulated.number).Reachable nested 2 Board.initial commands _ :=
    .later rfl (.later rfl (.later rfl (.here _ _)))
  exact ⟨_, reached, by decide +kernel, by decide +kernel,
    deliveries_le_assertions _ _ _ _ _ reached _⟩

end Signal

end Interrupts.Simulated
