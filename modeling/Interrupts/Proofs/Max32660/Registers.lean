import Interrupts.Proofs.Max32660.Bus
import Interrupts.Proofs.Word.Masks

/-! # Registers that hold what is written to them

A driver relies on finding again what it has written. How far it may do so is said here of any
bus: a register holds its content if a read obtains it, a write stores it, and no access to
another register changes it, but for those of its bits that hardware changes by itself. In the
register file every register holds its content as long as no values are queued.
-/

namespace Interrupts

namespace Word

theorem without_zero (w : Word) : w.without 0 = w := by
  refine BitVec.eq_of_getLsbD_eq fun i _ => ?_
  rw [getLsbD_without, BitVec.ofNat_eq_ofNat, BitVec.getLsbD_zero, Bool.not_false, Bool.and_true]

theorem covers_write (w mask : Word) {n : Nat} (h : n < 32) (on : Bool) :
    (w.write mask on).covers (bit n) = if mask.covers (bit n) then on else w.covers (bit n) := by
  simp only [covers_bit _ h, getLsbD_write]

theorem covers_self (mask : Word) : mask.covers mask = true := by
  rw [covers, BitVec.and_self, beq_self_eq_true]

theorem covers_without {mask own : Word} (apart : mask &&& own = 0) (w : Word) :
    (w.without own).covers mask = w.covers mask := by
  have same : w.without own &&& mask = w &&& mask := by
    refine BitVec.eq_of_getLsbD_eq fun i _ => ?_
    have never : (mask.getLsbD i && own.getLsbD i) = false := by
      rw [← BitVec.getLsbD_and, apart, BitVec.ofNat_eq_ofNat, BitVec.getLsbD_zero]
    rw [BitVec.getLsbD_and, BitVec.getLsbD_and, getLsbD_without]
    cases given : mask.getLsbD i with
    | true =>
        rw [given, Bool.true_and] at never
        rw [never, Bool.not_false, Bool.and_true]
    | false => rw [Bool.and_false, Bool.and_false]
  rw [covers, covers, same]

/-- Bits that are written can be told apart from those that hardware changes. -/
theorem without_write {w mask own : Word} (apart : mask &&& own = 0) (on : Bool) :
    (w.write mask on).without own = (w.without own).write mask on := by
  refine BitVec.eq_of_getLsbD_eq fun i _ => ?_
  have never : (mask.getLsbD i && own.getLsbD i) = false := by
    rw [← BitVec.getLsbD_and, apart, BitVec.ofNat_eq_ofNat, BitVec.getLsbD_zero]
  simp only [getLsbD_without, getLsbD_write]
  cases given : mask.getLsbD i with
  | true =>
      rw [given, Bool.true_and] at never
      simp [never]
  | false => simp

theorem without_without {w mask own : Word} (within : mask.without own = 0) :
    (w.without mask).without own = w.without own := by
  refine BitVec.eq_of_getLsbD_eq fun i _ => ?_
  have inside : (mask.getLsbD i && !own.getLsbD i) = false := by
    rw [← getLsbD_without, within, BitVec.ofNat_eq_ofNat, BitVec.getLsbD_zero]
  simp only [getLsbD_without]
  cases given : mask.getLsbD i with
  | true =>
      rw [given, Bool.true_and] at inside
      simp [inside]
  | false => simp

end Word

/-- The access leaves the register at `address` alone: it reads, or it writes elsewhere. -/
def Access.Spares (address : Nat) : Access → Prop
  | read _ | readByte _ => True
  | write other _ | writeByte other _ => RegisterFile.aligned other ≠ address

namespace Bus

variable {σ α γ : Type} (bus : Bus σ)

/-! ## Running drivers -/

def run (driver : Driver α) (state : σ) : α × σ := Program.run bus driver state

def requests (driver : Driver α) (state : σ) : List (Access × σ) :=
  Program.requests bus driver state

def transfers (driver : Driver α) (state : σ) : List Transfer :=
  (bus.requests driver state).map fun x => x.1.transfer (bus x.1 x.2).1

@[simp] theorem run_pure (value : α) (state : σ) :
    bus.run (pure value) state = (value, state) := rfl

@[simp] theorem run_bind (driver : Driver α) (rest : α → Driver γ) (state : σ) :
    bus.run (driver >>= rest) state =
      bus.run (rest (bus.run driver state).1) (bus.run driver state).2 :=
  Program.run_bind bus driver rest state

@[simp] theorem run_map (driver : Driver α) (f : α → γ) (state : σ) :
    bus.run (f <$> driver) state = (f (bus.run driver state).1, (bus.run driver state).2) := by
  rw [← bind_pure_comp, run_bind, run_pure]

theorem requests_bind (driver : Driver α) (rest : α → Driver γ) (state : σ) :
    bus.requests (driver >>= rest) state =
      bus.requests driver state ++
        bus.requests (rest (bus.run driver state).1) (bus.run driver state).2 :=
  Program.requests_bind bus driver rest state

theorem requests_map (driver : Driver α) (f : α → γ) (state : σ) :
    bus.requests (f <$> driver) state = bus.requests driver state := by
  rw [← bind_pure_comp, requests_bind]
  exact List.append_nil _

theorem run_respond (driver : Driver α) (state : σ) (made : List Transfer) :
    driver.run bus.respond (state, made) =
      ((bus.run driver state).1, (bus.run driver state).2,
        (bus.transfers driver state).reverse ++ made) := by
  induction driver generalizing state made with
  | done value => rfl
  | ask access next ih =>
      refine (ih _ _ _).trans ?_
      simp only [transfers, requests, run, Program.requests, Program.run, List.map_cons,
        List.reverse_cons, List.append_assoc, List.singleton_append]

theorem drive_eq (driver : Driver α) (state : σ) :
    bus.drive driver state =
      ((bus.run driver state).1, (bus.run driver state).2, bus.transfers driver state) := by
  unfold drive
  rw [run_respond]
  simp

theorem run_andThen (program : ExceptT Fault Driver α) (rest : α → ExceptT Fault Driver γ)
    (state : σ) :
    bus.run (program >>= rest).run state =
      match bus.run program.run state with
      | (.ok value, after) => bus.run (rest value).run after
      | (.error fault, after) => (.error fault, after) := by
  rw [ExceptT.run_bind, run_bind]
  obtain ⟨result, after⟩ := bus.run program.run state
  cases result <;> rfl

theorem requests_andThen (program : ExceptT Fault Driver α)
    (rest : α → ExceptT Fault Driver γ) (state : σ) :
    bus.requests (program >>= rest).run state =
      bus.requests program.run state ++
        match bus.run program.run state with
        | (.ok value, after) => bus.requests (rest value).run after
        | (.error _, _) => [] := by
  rw [ExceptT.run_bind, requests_bind]
  obtain ⟨result, after⟩ := bus.run program.run state
  cases result <;> rfl

theorem run_lift (driver : Driver α) (state : σ) :
    bus.run (ExceptT.lift driver : ExceptT Fault Driver α).run state =
      (.ok (bus.run driver state).1, (bus.run driver state).2) :=
  bus.run_map driver Except.ok state

theorem requests_lift (driver : Driver α) (state : σ) :
    bus.requests (ExceptT.lift driver : ExceptT Fault Driver α).run state =
      bus.requests driver state :=
  bus.requests_map driver Except.ok state

/-! ## Content -/

/-- The register at `address` holds its content, which is given for every state, in all bits
that are not its own to change. -/
structure Holds (content : σ → Nat → Word) (address : Nat) (own : Word) : Prop where
  shows (state : σ) :
    (bus (.read address) state).1 = content (bus (.read address) state).2 address
  stores (value : Word) (state : σ) :
    (content (bus (.write address value) state).2 address).without own = value.without own
  spares (access : Access) (state : σ) : access.Spares address →
    (content (bus access state).2 address).without own = (content state address).without own

namespace Holds

variable {bus} {content : σ → Nat → Word} {address : Nat} {own : Word}

/-- A register without such bits holds its content also where it is not asked of some. -/
theorem weaken (h : bus.Holds content address 0) (own : Word) :
    bus.Holds content address own where
  shows := h.shows
  stores value state := by
    have stored := h.stores value state
    rw [Word.without_zero, Word.without_zero] at stored
    rw [stored]
  spares access state spares := by
    have kept := h.spares access state spares
    rw [Word.without_zero, Word.without_zero] at kept
    rw [kept]

theorem fst_read (h : bus.Holds content address own) (state : σ) :
    (bus (.read address) state).1.without own = (content state address).without own := by
  rw [h.shows]
  exact h.spares _ _ trivial

theorem run_spares (h : bus.Holds content address own) {driver : Driver α}
    (only : driver.Only (Access.Spares address)) (state : σ) :
    (content (bus.run driver state).2 address).without own =
      (content state address).without own := by
  let kept (after : σ) : Prop :=
    (content after address).without own = (content state address).without own
  have keeps (access : Access) (before : σ) (spares : access.Spares address)
      (same : kept before) : kept (bus access before).2 :=
    (h.spares access before spares).trans same
  exact (only.invariant bus keeps (rfl : kept state)).1

theorem run_modify (h : bus.Holds content address own) {mask : Word} (apart : mask &&& own = 0)
    (on : Bool) (state : σ) :
    (content (bus.run (Driver.modify address mask on) state).2 address).without own =
      ((content state address).without own).write mask on := by
  refine (h.stores _ _).trans ?_
  rw [Word.without_write apart, h.fst_read]

end Holds

end Bus

theorem Driver.modify_spares {address other : Nat}
    (elsewhere : RegisterFile.aligned other ≠ address) (mask : Word) (on : Bool) :
    (modify other mask on).Only (Access.Spares address) :=
  ⟨trivial, fun _ => ⟨elsewhere, fun _ => trivial⟩⟩

/-! ## The register file -/

namespace RegisterFile

theorem load_store (file : RegisterFile) (address other : Nat) (value : Word) :
    (file.store address value).load other =
      if aligned address = aligned other then value else file.load other := by
  simp only [load, store, Std.TreeMap.getD_insert]
  by_cases h : aligned address = aligned other <;> simp [h]

/-- No value is queued, so that no register changes between two accesses. -/
def Unattended (file : RegisterFile) : Prop := file.queued = []

theorem bus_unattended {file : RegisterFile} (h : file.Unattended) (access : Access) :
    (bus access file).2.Unattended := by
  obtain ⟨words, queued⟩ := file
  obtain rfl : queued = [] := h
  cases access <;> rfl

def unattended : Bus {file : RegisterFile // file.Unattended} := fun access file =>
  ((bus access file.1).1, ⟨(bus access file.1).2, bus_unattended file.2 access⟩)

theorem holds_unattended {address : Nat} (word : aligned address = address) :
    unattended.Holds (fun file => file.1.load) address 0 := by
  have elsewhere (file : RegisterFile) {other : Nat} (apart : aligned other ≠ address)
      (value : Word) : (file.store other value).load address = file.load address := by
    rw [load_store, word, if_neg apart]
  constructor
  · rintro ⟨⟨words, queued⟩, none⟩
    obtain rfl : queued = [] := none
    rfl
  · rintro value ⟨file, none⟩
    refine congrArg (Word.without · 0) ?_
    exact (file.load_store address address value).trans (if_pos rfl)
  · rintro access ⟨⟨words, queued⟩, none⟩ spares
    obtain rfl : queued = [] := none
    refine congrArg (Word.without · 0) ?_
    cases access with
    | read other | readByte other => rfl
    | write other value => exact elsewhere _ spares _
    | writeByte other value => exact elsewhere _ spares _

end RegisterFile

end Interrupts
