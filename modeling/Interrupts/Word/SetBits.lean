import Interrupts.Word
import Interrupts.Text

/-! # Scanning a mask

The set bits of a word are enumerated from the lowest upwards. The scan's own
state is the mask of the bits still to come, so a scan can be stopped after any
number of bits and resumed.
-/

namespace Interrupts

/-- A scan over the set bits of a word, holding the bits not yet visited. -/
structure SetBits where
  mask : Word
deriving DecidableEq

namespace SetBits

def lowest? (mask : Word) : Option Nat :=
  if mask = 0 then none else some mask.ctz.toNat

/-- The lowest bit and the scan that is left once it is visited. -/
def next? (scan : SetBits) : Option (Nat × SetBits) :=
  (lowest? scan.mask).map fun bit => (bit, ⟨scan.mask &&& (scan.mask - 1)⟩)

def take : Nat → SetBits → List Nat × SetBits
  | 0, scan => ([], scan)
  | count + 1, scan =>
      match scan.next? with
      | none => ([], scan)
      | some (bit, rest) =>
          let (bits, left) := take count rest
          (bit :: bits, left)

/-- All bits still to come. A word has 32 bits, so 32 visits end every scan. -/
def toList (scan : SetBits) : List Nat := (scan.take 32).1

def text (scan : SetBits) : String :=
  Text.tagged "SetBits" [toString scan.mask.toNat]

@[simp] theorem take_zero (scan : SetBits) : scan.take 0 = ([], scan) := rfl

theorem take_succ_of_none {scan : SetBits} (count : Nat) (h : scan.next? = none) :
    scan.take (count + 1) = ([], scan) := by
  simp [take, h]

theorem take_succ_of_some {scan rest : SetBits} {bit : Nat} (count : Nat)
    (h : scan.next? = some (bit, rest)) :
    scan.take (count + 1) = (bit :: (rest.take count).1, (rest.take count).2) := by
  simp [take, h]

theorem lowest?_eq_none_iff {mask : Word} : lowest? mask = none ↔ mask = 0 := by
  unfold lowest?
  split
  next zero => exact iff_of_true rfl zero
  next nonzero => exact iff_of_false (Option.some_ne_none _) nonzero

theorem eq_ctz_of_lowest? {mask : Word} {bit : Nat} (h : lowest? mask = some bit) :
    mask ≠ 0 ∧ bit = mask.ctz.toNat := by
  unfold lowest? at h
  split at h
  next => cases h
  next nonzero => exact ⟨nonzero, (Option.some.inj h).symm⟩

theorem getLsbD_of_lowest? {mask : Word} {bit : Nat} (h : lowest? mask = some bit) :
    mask.getLsbD bit = true := by
  obtain ⟨nonzero, rfl⟩ := eq_ctz_of_lowest? h
  exact BitVec.getLsbD_true_ctz_of_ne_zero nonzero

theorem lowest?_lt {mask : Word} {bit : Nat} (h : lowest? mask = some bit) : bit < 32 :=
  BitVec.lt_of_getLsbD (getLsbD_of_lowest? h)

theorem getLsbD_below_lowest? {mask : Word} {bit i : Nat} (h : lowest? mask = some bit)
    (below : i < bit) : mask.getLsbD i = false := by
  obtain ⟨-, rfl⟩ := eq_ctz_of_lowest? h
  exact BitVec.getLsbD_false_of_lt_ctz below

/-- A visit goes to the position below which all is clear, and clears it by taking one from a word
that is not zero. -/
theorem of_next?_eq_some {scan rest : SetBits} {bit : Nat} (h : scan.next? = some (bit, rest)) :
    scan.mask ≠ 0 ∧ bit = scan.mask.ctz.toNat ∧ rest = ⟨scan.mask &&& (scan.mask - 1)⟩ := by
  obtain ⟨first, lowest, visited⟩ := Option.map_eq_some_iff.1 h
  obtain ⟨nonzero, position⟩ := eq_ctz_of_lowest? lowest
  cases visited
  exact ⟨nonzero, position, rfl⟩

end SetBits

end Interrupts
