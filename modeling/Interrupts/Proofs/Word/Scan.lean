import Interrupts.Proofs.Word.Masks
import Interrupts.Proofs.Word.Ones
import Mathlib.Data.List.Basic

/-! # How a scan goes through a word

A scan has no counter: that it ends, and when, follows from the word alone. It visits one bit for
every set bit of the word and then stops, it may be left and taken up again after any number of
visits, and at every visit there is a bit to clear, so nothing is ever borrowed from a zero.
-/

namespace Interrupts

namespace Word

theorem cpopNatRec_eq_countP (w : Word) (n : Nat) :
    w.cpopNatRec n 0 = (List.range n).countP w.getLsbD := by
  induction n with
  | zero => rfl
  | succ n ih =>
      rw [BitVec.cpopNatRec_succ, BitVec.cpopNatRec_eq, ih, List.range_succ, List.countP_append,
        List.countP_singleton, Nat.zero_add]
      cases w.getLsbD n <;> rfl

theorem length_ones (w : Word) : w.ones.length = w.cpop.toNat := by
  rw [BitVec.toNat_cpop, cpopNatRec_eq_countP, ones, List.countP_eq_length_filter]

theorem toNat_bit {n : Nat} (h : n < 32) : (bit n).toNat = 2 ^ n := by
  rw [bit_eq_twoPow, BitVec.toNat_twoPow_of_lt h]

end Word

namespace SetBits

theorem next?_eq_none_iff {scan : SetBits} : scan.next? = none ↔ scan.mask.ones = [] := by
  rw [next?, Option.map_eq_none_iff, lowest?_eq_head?, List.head?_eq_none_iff]

theorem take_of_ended {scan : SetBits} (ended : scan.next? = none) (count : Nat) :
    scan.take count = ([], scan) := by
  cases count with
  | zero => rfl
  | succ count => exact take_succ_of_none count ended

/-- A scan that is left after some visits and taken up again is the same scan. -/
theorem take_add (count more : Nat) (scan : SetBits) :
    scan.take (count + more) =
      ((scan.take count).1 ++ ((scan.take count).2.take more).1,
        ((scan.take count).2.take more).2) := by
  induction count generalizing scan with
  | zero => rw [Nat.zero_add, take_zero, List.nil_append]
  | succ count ih =>
      cases step : scan.next? with
      | none => rw [take_of_ended step, take_of_ended step, take_of_ended step, List.nil_append]
      | some visit =>
          obtain ⟨bit, rest⟩ := visit
          rw [Nat.add_right_comm, take_succ_of_some _ step, take_succ_of_some _ step, ih,
            List.cons_append]

theorem toList_take (count : Nat) (scan : SetBits) :
    (scan.take count).1 ++ (scan.take count).2.toList = scan.toList := by
  obtain ⟨visited, left⟩ := take_ones count scan.mask
  rw [toList_eq_ones, toList_eq_ones, visited, left, List.take_append_drop]

theorem getLsbD_take (count : Nat) (scan : SetBits) (bit : Nat) :
    (scan.take count).2.mask.getLsbD bit = true ↔
      scan.mask.getLsbD bit = true ∧ bit ∉ (scan.take count).1 := by
  obtain ⟨visited, left⟩ := take_ones count scan.mask
  have apart := List.disjoint_take_drop scan.mask.ones_nodup (Nat.le_refl count)
  rw [← Word.mem_ones, ← Word.mem_ones, visited, left]
  constructor
  · intro remains
    exact ⟨List.mem_of_mem_drop remains, fun seen => apart seen remains⟩
  · rintro ⟨set, unseen⟩
    rw [← List.take_append_drop count scan.mask.ones, List.mem_append] at set
    exact set.resolve_left unseen

/-- For every word and every number of visits: the scan is at its end exactly after as many visits
as the word has set bits, so it makes that many. They go to the positions of the set bits, all of
them, from the lowest upwards; each position lies in the word, so a one that is shifted there is not
lost. What the visits leave is the word without the bits visited, and from there the scan goes on as
a scan of what is left. A further visit goes to the position that has the trailing zeros below it,
and takes one from a word that is not zero. -/
theorem scan_enumerates (mask : Word) (count : Nat) :
    let scan : SetBits := ⟨mask⟩
    let visited := (scan.take count).1
    let left := (scan.take count).2
    (left.next? = none ↔ mask.cpop.toNat ≤ count) ∧
    visited.length = min count mask.cpop.toNat ∧
    scan.toList.length = mask.cpop.toNat ∧
    scan.toList.Pairwise (· < ·) ∧
    (∀ bit, bit ∈ scan.toList ↔ mask.getLsbD bit = true) ∧
    (∀ bit ∈ scan.toList, bit < 32 ∧ (Word.bit bit).toNat = 2 ^ bit) ∧
    visited ++ left.toList = scan.toList ∧
    (∀ bit, left.mask.getLsbD bit = true ↔ mask.getLsbD bit = true ∧ bit ∉ visited) ∧
    (∀ more, scan.take (count + more) = (visited ++ (left.take more).1, (left.take more).2)) ∧
    ∀ bit rest, left.next? = some (bit, rest) →
      bit = left.mask.ctz.toNat ∧ rest.mask = left.mask &&& (left.mask - 1) ∧
        (left.mask - 1).toNat + 1 = left.mask.toNat := by
  intro scan visited left
  obtain ⟨first, remaining⟩ := take_ones count mask
  have listed : scan.toList = mask.ones := toList_eq_ones mask
  have ends : left.next? = none ↔ mask.cpop.toNat ≤ count := by
    rw [next?_eq_none_iff, remaining, List.drop_eq_nil_iff, Word.length_ones]
  have inside : ∀ bit ∈ scan.toList, bit < 32 ∧ (Word.bit bit).toNat = 2 ^ bit := by
    intro bit member
    have below := Word.lt_of_getLsbD (Word.mem_ones.1 (listed ▸ member))
    exact ⟨below, Word.toNat_bit below⟩
  have visits : ∀ bit rest, left.next? = some (bit, rest) →
      bit = left.mask.ctz.toNat ∧ rest.mask = left.mask &&& (left.mask - 1) ∧
        (left.mask - 1).toNat + 1 = left.mask.toNat := by
    intro bit rest step
    obtain ⟨nonzero, lowest, cleared⟩ := of_next?_eq_some step
    exact ⟨lowest, congrArg SetBits.mask cleared, Word.toNat_sub_one_add_one nonzero⟩
  refine ⟨ends, ?_, ?_, ?_, ?_, inside, toList_take count scan, getLsbD_take count scan,
    fun more => take_add count more scan, visits⟩
  · rw [← Word.length_ones, ← List.length_take]
    exact congrArg List.length first
  · rw [listed, Word.length_ones]
  · rw [listed]
    exact mask.ones_ascending
  · intro bit
    rw [listed, Word.mem_ones]

example : take 2 ⟨0xa5⟩ = ([0, 2], ⟨0xa0⟩) ∧ toList ⟨0xa0⟩ = [5, 7] := by
  decide +kernel

end SetBits

end Interrupts
