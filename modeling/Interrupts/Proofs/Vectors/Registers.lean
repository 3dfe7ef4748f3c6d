import Interrupts.Proofs.Max32660.Registers
import Interrupts.Proofs.Vectors.Control

/-! # The vector controller in registers

What hardware does with the registers of the controller is said for any bus: registers that set or
clear the bits written as one, pending bits that can be read, and bytes of which the top three bits
are kept. On such a bus the driver of the MAX32660 is a controller of 66 vectors, whichever bank a
vector lies in, with one access for a call that is accepted and none for one that is rejected. So it
refines the simulated controller, which has 64.
-/

namespace Interrupts

/-- A cell of the hardware has its priority in the top three bits of a byte. -/
def VectorState.decoded (cell : VectorState) : VectorState :=
  { cell with priority := cell.priority >>> 5 }

namespace Max32660.Controller

variable {σ : Type}

/-- The registers in the row that starts at `base` have a bit for each of 32 vectors, and a write to
one of them does `change` to the cells of the bits that are written as one. -/
def TakesOnes (bus : Bus σ) (cells : σ → Nat → VectorState) (base : Nat)
    (change : VectorState → VectorState) : Prop :=
  ∀ (bank : Nat) (value : Word) (s : σ) (n : Nat), bank < 3 → n < 66 →
    cells (bus (.write (base + 4 * bank) value) s).2 n =
      if n / 32 = bank ∧ value.getLsbD (n % 32) = true then change (cells s n) else cells s n

/-- What the registers of the controller mean, where `cells` gives what hardware holds for each of
the vectors: a vector has a bit in each row of registers, and a byte for its priority. With `pend`
a vector becomes pending by itself. -/
structure Means (bus : Bus σ) (pend : Nat → σ → σ) (cells : σ → Nat → VectorState) : Prop where
  setsEnable : TakesOnes bus cells 0xE000E100 fun cell => { cell with enabled := true }
  clearsEnable : TakesOnes bus cells 0xE000E180 fun cell => { cell with enabled := false }
  clearsPending : TakesOnes bus cells 0xE000E280 fun cell => { cell with pending := false }
  showsPending (bank i : Nat) (s : σ) : i < 32 → 32 * bank + i < 66 →
    (bus (.read (0xE000E200 + 4 * bank)) s).1.getLsbD i = (cells s (32 * bank + i)).pending
  keepsPending (bank : Nat) (s : σ) (n : Nat) : bank < 3 → n < 66 →
    cells (bus (.read (0xE000E200 + 4 * bank)) s).2 n = cells s n
  storesPriority (m : Nat) (value : UInt8) (s : σ) (n : Nat) : m < 66 → n < 66 →
    cells (bus (.writeByte (0xE000E400 + m) value) s).2 n =
      if n = m then { cells s n with priority := value &&& 0xE0 } else cells s n
  showsPriority (m : Nat) (s : σ) : m < 66 →
    (bus (.readByte (0xE000E400 + m)) s).1 = (cells s m).priority
  keepsPriority (m : Nat) (s : σ) (n : Nat) : m < 66 → n < 66 →
    cells (bus (.readByte (0xE000E400 + m)) s).2 n = cells s n
  pends (m : Nat) (s : σ) (n : Nat) : n < 66 →
    cells (pend m s) n = if n = m then { cells s n with pending := true } else cells s n

/-! ## The access of a call -/

def access : ControllerCall → Access
  | .enable n => .write (register setEnable n) (bit n)
  | .disable n => .write (register clearEnable n) (bit n)
  | .isPending n => .read (register setPending n)
  | .clearPending n => .write (register clearPending n) (bit n)
  | .setPriority n given =>
      .writeByte (priorities + n) (UInt8.ofNat (given.toNat <<< (8 - priorityBits)))
  | .priority n => .readByte (priorities + n)

def interpret : (call : ControllerCall) → (access call).Answer → call.Answer
  | .enable _, _ | .disable _, _ | .clearPending _, _ | .setPriority _ _, _ => .ok ()
  | .isPending n, (value : Word) => value.meets (bit n)
  | .priority _, (value : UInt8) => UInt8.ofNat (value.toNat >>> (8 - priorityBits))

theorem drive_accepted {call : ControllerCall} (accepted : call.Accepted 66) :
    drive call = interpret call <$> Program.request (access call) := by
  cases call with
  | enable n | disable n | clearPending n => exact if_pos accepted
  | isPending n | priority n => exact if_pos accepted
  | setPriority n given => exact if_pos accepted

theorem drive_rejected {call : ControllerCall} (rejected : ¬ call.Accepted 66) :
    drive call = pure call.refusal := by
  cases call with
  | enable n | disable n | clearPending n => exact if_neg rejected
  | isPending n | priority n => exact if_neg rejected
  | setPriority n given => exact if_neg rejected

theorem requests_accepted (bus : Bus σ) {call : ControllerCall} (accepted : call.Accepted 66)
    (s : σ) : bus.requests (drive call) s = [(access call, s)] := by
  rw [drive_accepted accepted, Bus.requests_map]
  rfl

theorem run_accepted (bus : Bus σ) {call : ControllerCall} (accepted : call.Accepted 66)
    (s : σ) :
    bus.run (drive call) s =
      (interpret call (bus (access call) s).1, (bus (access call) s).2) := by
  rw [drive_accepted accepted, Bus.run_map]
  rfl

theorem requests_rejected (bus : Bus σ) {call : ControllerCall} (rejected : ¬ call.Accepted 66)
    (s : σ) : bus.requests (drive call) s = [] := by
  rw [drive_rejected rejected]
  rfl

theorem run_rejected (bus : Bus σ) {call : ControllerCall} (rejected : ¬ call.Accepted 66)
    (s : σ) : bus.run (drive call) s = (call.refusal, s) := by
  rw [drive_rejected rejected, Bus.run_pure]

/-! ## Banks and priorities -/

theorem register_eq (base n : Nat) : register base n = base + 4 * (n / 32) := by
  unfold register
  omega

/-- The bit of a vector in the register of its bank is that of no other vector. -/
theorem struck_iff (m n : Nat) :
    n / 32 = m / 32 ∧ (bit m).getLsbD (n % 32) = true ↔ n = m := by
  have small : n % 32 < 32 := Nat.mod_lt n (by omega)
  simp only [bit, Word.getLsbD_bit, small, decide_true, Bool.true_and, decide_eq_true_eq]
  omega

theorem TakesOnes.cells_bit {bus : Bus σ} {cells : σ → Nat → VectorState} {base : Nat}
    {change : VectorState → VectorState} (takes : TakesOnes bus cells base change) {m n : Nat}
    (listed : m < 66) (inside : n < 66) (s : σ) :
    cells (bus (.write (register base m) (bit m)) s).2 n =
      if n = m then change (cells s n) else cells s n := by
  have bank : m / 32 < 3 := by omega
  rw [register_eq, takes (m / 32) (bit m) s n bank inside]
  simp only [struck_iff]

@[elab_as_elim]
theorem of_low {motive : Priority → Prop} {given : Priority} (low : given.toNat < 8)
    (each : ∀ k : Fin 8, motive (UInt8.ofNat k.val)) : motive given := by
  have shown := each ⟨given.toNat, low⟩
  rwa [UInt8.ofNat_toNat] at shown

theorem stored_priority {given : Priority} (low : given.toNat < 8) :
    UInt8.ofNat (given.toNat <<< (8 - priorityBits)) &&& (0xE0 : UInt8) = given <<< 5 :=
  of_low low (by decide)

theorem found_priority {given : Priority} (low : given.toNat < 8) : given <<< 5 >>> 5 = given :=
  of_low low (by decide)

theorem ofNat_shiftRight (byte : UInt8) :
    UInt8.ofNat (byte.toNat >>> (8 - priorityBits)) = byte >>> 5 := by
  apply UInt8.toNat.inj
  rw [UInt8.toNat_shiftRight, UInt8.toNat_ofNat']
  have small : byte.toNat >>> 5 < 256 := by
    have := byte.toNat_lt
    omega
  exact Nat.mod_eq_of_lt small

end Max32660.Controller

def ControllerCall.store : ControllerCall → VectorState → VectorState
  | setPriority _ given, cell => { cell with priority := given <<< 5 }
  | call, cell => call.apply cell

theorem ControllerCall.decoded_store {call : ControllerCall} (accepted : call.Accepted 66)
    (cell : VectorState) : (call.store cell).decoded = call.apply cell.decoded := by
  cases call with
  | enable n | disable n | clearPending n => rfl
  | isPending n | priority n => rfl
  | setPriority n given =>
      simp only [store, apply, VectorState.decoded,
        Max32660.Controller.found_priority accepted.2]

namespace Max32660.Controller

/-! ## The driver is a vector controller -/

namespace Means

variable {bus : Bus σ} {pend : Nat → σ → σ} {cells : σ → Nat → VectorState}
  (means : Means bus pend cells)

include means

/-- The access of an accepted call changes the cell of its vector and no other. -/
theorem cells_access {call : ControllerCall} (accepted : call.Accepted 66) (s : σ) {n : Nat}
    (inside : n < 66) :
    cells (bus (access call) s).2 n =
      if n = call.vector then call.store (cells s n) else cells s n := by
  have listed := accepted.lt
  cases call with
  | enable m => exact means.setsEnable.cells_bit listed inside s
  | disable m => exact means.clearsEnable.cells_bit listed inside s
  | clearPending m => exact means.clearsPending.cells_bit listed inside s
  | isPending m =>
      have bank : m / 32 < 3 := by
        simp only [ControllerCall.vector] at listed
        omega
      have kept := means.keepsPending (m / 32) s n bank inside
      rw [← register_eq] at kept
      exact kept.trans (ite_self _).symm
  | setPriority m given =>
      rw [access, priorities, means.storesPriority m _ s n listed inside,
        stored_priority accepted.2]
      rfl
  | priority m => exact (means.keepsPriority m s n listed inside).trans (ite_self _).symm

theorem interpret_access {call : ControllerCall} (accepted : call.Accepted 66) (s : σ) :
    interpret call (bus (access call) s).1 = call.reply (cells s call.vector).decoded := by
  have listed := accepted.lt
  cases call with
  | enable m | disable m | clearPending m => rfl
  | setPriority m given => rfl
  | isPending m =>
      have small : m % 32 < 32 := Nat.mod_lt m (by omega)
      have shown := means.showsPending (m / 32) (m % 32) s small (by
        rw [Nat.div_add_mod]
        exact listed)
      rw [Nat.div_add_mod, ← register_eq] at shown
      exact (Word.meets_bit _ small).trans shown
  | priority m =>
      have shown : (bus (access (.priority m)) s).1 = (cells s m).priority :=
        means.showsPriority m s listed
      simp only [interpret, shown, ofNat_shiftRight]
      rfl

theorem cells_other (call : ControllerCall) (s : σ) {n : Nat} (inside : n < 66)
    (other : n ≠ call.vector) : cells (bus.run (drive call) s).2 n = cells s n := by
  by_cases accepted : call.Accepted 66
  · rw [run_accepted bus accepted, means.cells_access accepted s inside, if_neg other]
  · rw [run_rejected bus accepted]

theorem controls :
    Controls 66 (fun call => bus.run (drive call)) pend (fun s n => (cells s n).decoded)
      (fun _ => True) where
  answers := by
    intro call s _ accepted
    rw [run_accepted bus accepted, means.interpret_access accepted]
  applies := by
    intro call s _ accepted n inside
    rw [run_accepted bus accepted, means.cells_access accepted s inside]
    split
    · exact ControllerCall.decoded_store accepted _
    · rfl
  rejects := fun _ rejected => run_rejected bus rejected _
  pends := by
    intro m s _ n inside
    rw [means.pends m s n inside]
    split <;> rfl
  responded := fun _ => trivial
  pended := fun _ => trivial

end Means

/-! ## Hardware with these registers -/

/-- Rows of words, and a byte for each vector. -/
structure Hardware where
  enabled : Nat → Word
  pending : Nat → Word
  priority : Nat → UInt8

namespace Hardware

def reset : Hardware := ⟨fun _ => 0, fun _ => 0, fun _ => 0⟩

/-- The word of a bank after a write. Its row is set by the three registers at `base` and cleared
by the three that lie 128 bytes above. -/
def written (row : Nat → Word) (base address : Nat) (value : Word) (bank : Nat) : Word :=
  if bank < 3 ∧ address = base + 4 * bank then row bank ||| value
  else if bank < 3 ∧ address = base + 0x80 + 4 * bank then (row bank).without value
  else row bank

def bus : Bus Hardware
  | .read address, h =>
      (if 0xE000E200 ≤ address then h.pending ((address - 0xE000E200) / 4) else 0, h)
  | .write address value, h =>
      ((), { h with
        enabled := written h.enabled 0xE000E100 address value
        pending := written h.pending 0xE000E200 address value })
  | .readByte address, h =>
      (if 0xE000E400 ≤ address then h.priority (address - 0xE000E400) else 0, h)
  | .writeByte address value, h =>
      ((), { h with
        priority := fun n =>
          if address = 0xE000E400 + n then value &&& 0xE0 else h.priority n })

def pend (m : Nat) (h : Hardware) : Hardware :=
  { h with
    pending := fun bank =>
      if bank = m / 32 then h.pending bank ||| bit m else h.pending bank }

def cells (h : Hardware) (n : Nat) : VectorState :=
  ⟨(h.enabled (n / 32)).getLsbD (n % 32), (h.pending (n / 32)).getLsbD (n % 32), h.priority n⟩

section

variable (row : Nat → Word) (base : Nat) {bank : Nat} (value : Word) (other : Nat)

theorem getLsbD_set (low : bank < 3) (i : Nat) :
    (written row base (base + 4 * bank) value other).getLsbD i =
      if other = bank ∧ value.getLsbD i = true then true else (row other).getLsbD i := by
  by_cases own : other = bank
  · cases given : value.getLsbD i <;> simp [written, own, low, given]
  · have elsewhere : ¬ (other < 3 ∧ base + 4 * bank = base + 4 * other) := by omega
    have apart : ¬ (other < 3 ∧ base + 4 * bank = base + 0x80 + 4 * other) := by omega
    simp only [written, if_neg elsewhere, if_neg apart, own, false_and, if_false]

theorem getLsbD_cleared (low : bank < 3) (i : Nat) :
    (written row base (base + 0x80 + 4 * bank) value other).getLsbD i =
      if other = bank ∧ value.getLsbD i = true then false else (row other).getLsbD i := by
  have apart : ¬ (other < 3 ∧ base + 0x80 + 4 * bank = base + 4 * other) := by omega
  by_cases own : other = bank
  · rw [written, if_neg apart, own, if_pos ⟨low, rfl⟩, Word.getLsbD_without]
    cases given : value.getLsbD i <;> simp
  · have elsewhere : ¬ (other < 3 ∧ base + 0x80 + 4 * bank = base + 0x80 + 4 * other) := by omega
    simp only [written, if_neg elsewhere, if_neg apart, own, false_and, if_false]

theorem written_apart {address : Nat} (apart : address < base ∨ base + 0x100 ≤ address) :
    written row base address value other = row other := by
  have first : ¬ (other < 3 ∧ address = base + 4 * other) := by omega
  have second : ¬ (other < 3 ∧ address = base + 0x80 + 4 * other) := by omega
  rw [written, if_neg first, if_neg second]

end

/-- The registers of this hardware mean what they should. -/
theorem means : Means bus pend cells where
  setsEnable := by
    intro bank value h n low _
    have apart : written h.pending 0xE000E200 (0xE000E100 + 4 * bank) value (n / 32) =
        h.pending (n / 32) := written_apart _ _ _ _ (by omega)
    simp only [cells, bus, apart, getLsbD_set _ _ _ _ low]
    split <;> rfl
  clearsEnable := by
    intro bank value h n low _
    have apart : written h.pending 0xE000E200 (0xE000E180 + 4 * bank) value (n / 32) =
        h.pending (n / 32) := written_apart _ _ _ _ (by omega)
    have cleared := getLsbD_cleared h.enabled 0xE000E100 value (n / 32) low
    simp only [cells, bus, apart, cleared]
    split <;> rfl
  clearsPending := by
    intro bank value h n low _
    have apart : written h.enabled 0xE000E100 (0xE000E280 + 4 * bank) value (n / 32) =
        h.enabled (n / 32) := written_apart _ _ _ _ (by omega)
    have cleared := getLsbD_cleared h.pending 0xE000E200 value (n / 32) low
    simp only [cells, bus, apart, cleared]
    split <;> rfl
  showsPending := by
    intro bank i h small _
    have above : 0xE000E200 ≤ 0xE000E200 + 4 * bank := by omega
    have first : (0xE000E200 + 4 * bank - 0xE000E200) / 4 = bank := by omega
    have second : (32 * bank + i) / 32 = bank := by omega
    have third : (32 * bank + i) % 32 = i := by omega
    simp only [cells, bus, if_pos above, first, second, third]
  keepsPending := fun _ _ _ _ _ => rfl
  storesPriority := by
    intro m value h n _ _
    have same : 0xE000E400 + m = 0xE000E400 + n ↔ n = m := by omega
    simp only [cells, bus, same]
    split <;> rfl
  showsPriority := by
    intro m h _
    have above : 0xE000E400 ≤ 0xE000E400 + m := by omega
    have found : 0xE000E400 + m - 0xE000E400 = m := by omega
    simp only [cells, bus, if_pos above, found]
  keepsPriority := fun _ _ _ _ _ => rfl
  pends := by
    intro m h n _
    by_cases same : n / 32 = m / 32
    · have own : n = m ↔ m % 32 = n % 32 := by omega
      have small : n % 32 < 32 := Nat.mod_lt n (by omega)
      simp only [cells, pend, same, if_true, BitVec.getLsbD_or, bit, Word.getLsbD_bit, small,
        own, decide_true, Bool.true_and]
      by_cases hit : m % 32 = n % 32 <;> simp [hit]
    · have other : n ≠ m := fun own => same (by rw [own])
      simp only [cells, pend, if_neg same, if_neg other]

end Hardware

/-! ## The driver refines the simulated controller -/

/-- The answers of the driver to the calls, and the state in which it leaves the hardware. -/
def driven (bus : Bus σ) (pend : Nat → σ → σ) (events : List ControllerEvent) (s : σ) :
    List ((call : ControllerCall) × call.Answer) × σ :=
  ControllerEvent.run (fun call => bus.run (drive call)) pend events s

def simulated (events : List ControllerEvent) (controller : Simulated.Controller) :
    List ((call : ControllerCall) × call.Answer) × Simulated.Controller :=
  ControllerEvent.run Simulated.Controller.respond (fun n controller => controller.pend n) events
    controller

/-- The driver of the MAX32660 and a simulated controller limited to eight priorities answer alike
and agree in the vectors that both have, through any calls for vectors that both have or neither
has and with vectors becoming pending at any moments. An accepted call is one access and is
answered by the cell of its vector, a rejected one is no access and changes nothing, and no call
changes the cell of another vector. -/
theorem driver_refines_simulation {bus : Bus σ} {pend : Nat → σ → σ}
    {cells : σ → Nat → VectorState} (means : Means bus pend cells) :
    (∀ (events : List ControllerEvent) (s : σ) (controller : Simulated.Controller),
      (∀ call, .call call ∈ events → call.vector < 64 ∨ 66 ≤ call.vector) →
      controller.limit = 7 →
      (∀ n, n < 64 → (cells s n).decoded = controller.vectorState n) →
        (driven bus pend events s).1 = (simulated events controller).1 ∧
          ∀ n, n < 64 → (cells (driven bus pend events s).2 n).decoded =
            (simulated events controller).2.vectorState n) ∧
    (∀ call s, call.Accepted 66 →
      (bus.run (drive call) s).1 = call.reply (cells s call.vector).decoded ∧
        (bus.transfers (drive call) s).length = 1) ∧
    (∀ call s, ¬ call.Accepted 66 →
      bus.run (drive call) s = (call.refusal, s) ∧ bus.transfers (drive call) s = []) ∧
    ∀ call s n, n < 66 → n ≠ call.vector →
      cells (bus.run (drive call) s).2 n = cells s n := by
  refine ⟨?_, ?_, ?_, fun call s n inside other => means.cells_other call s inside other⟩
  · intro events s controller known limited alike
    exact means.controls.run_alike Simulated.Controller.controls (by omega) known trivial limited
      alike
  · intro call s accepted
    constructor
    · exact means.controls.answers trivial accepted
    · rw [Bus.transfers, requests_accepted bus accepted]
      rfl
  · intro call s rejected
    constructor
    · exact run_rejected bus rejected s
    · rw [Bus.transfers, requests_rejected bus rejected]
      rfl

/-- On hardware, with the last vector that both have and one that becomes pending meanwhile. -/
theorem driver_refines_simulation_history :
    let events : List ControllerEvent :=
      [.call (.enable 63), .pend 40, .call (.setPriority 63 7), .call (.setPriority 5 8),
        .call (.isPending 40), .call (.clearPending 40), .pend 63, .call (.isPending 63),
        .call (.isPending 40), .call (.disable 66), .call (.priority 63)]
    let controller := { Simulated.Controller.initial with limit := 7 }
    (driven Hardware.bus Hardware.pend events Hardware.reset).1 =
        (simulated events controller).1 ∧
      (simulated events controller).1 =
        [⟨.enable 63, .ok ()⟩, ⟨.setPriority 63 7, .ok ()⟩,
          ⟨.setPriority 5 8, .error .invalidArgument⟩, ⟨.isPending 40, true⟩,
          ⟨.clearPending 40, .ok ()⟩, ⟨.isPending 63, true⟩, ⟨.isPending 40, false⟩,
          ⟨.disable 66, .error .invalidArgument⟩, ⟨.priority 63, (7 : Priority)⟩] ∧
      (Hardware.bus.transfers (drive (.enable 65)) Hardware.reset).length = 1 ∧
      Hardware.bus.transfers (drive (.enable 66)) Hardware.reset = [] := by
  intro events controller
  have known : ∀ call, .call call ∈ events → call.vector < 64 ∨ 66 ≤ call.vector := by
    simp [events, ControllerCall.vector]
  have refines := driver_refines_simulation Hardware.means
  refine ⟨(refines.1 events Hardware.reset controller known rfl (by decide)).1, ?_,
    (refines.2.1 (.enable 65) Hardware.reset (by decide)).2,
    (refines.2.2.1 (.enable 66) Hardware.reset (by decide)).2⟩
  simp only [events, controller]
  rfl

end Max32660.Controller

end Interrupts
