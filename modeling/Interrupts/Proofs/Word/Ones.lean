import Interrupts.Word.SetBits
import Mathlib.Algebra.Group.Nat.Defs

/-! # The set bits of a word

A scan steps from bit to bit by clearing the lowest one. Here it is compared with the
plain list of all positions at which the word has a bit.
-/

namespace Interrupts

namespace Word

/-- The positions of the set bits, ascending. -/
def ones (w : Word) : List Nat := (List.range 32).filter w.getLsbD

theorem lt_of_getLsbD {w : Word} {i : Nat} (h : w.getLsbD i = true) : i < 32 :=
  BitVec.lt_of_getLsbD h

theorem mem_ones {w : Word} {i : Nat} : i ∈ w.ones ↔ w.getLsbD i = true := by
  simp only [ones, List.mem_filter, List.mem_range, and_iff_right_iff_imp]
  exact lt_of_getLsbD

theorem ones_ascending (w : Word) : w.ones.Pairwise (· < ·) :=
  List.pairwise_lt_range.filter _

theorem ones_nodup (w : Word) : w.ones.Nodup :=
  w.ones_ascending.imp Nat.ne_of_lt

theorem ones_bit {n : Nat} (h : n < 32) : (bit n).ones = [n] := by
  refine List.perm_singleton.1 ((List.perm_ext_iff_of_nodup (ones_nodup _)
    (List.pairwise_singleton _ n)).2 fun i => ?_)
  rw [mem_ones, getLsbD_bit, List.mem_singleton]
  by_cases same : n = i
  · simp [← same, h]
  · simp [same, Ne.symm same]

theorem countP_ones (w : Word) (n : Nat) :
    w.ones.countP (fun i => decide (i = n)) = (w.getLsbD n).toNat := by
  calc w.ones.countP (fun i => decide (i = n)) = w.ones.count n :=
        List.countP_congr fun i _ => by simp
    _ = if n ∈ w.ones then 1 else 0 := w.ones_nodup.count
    _ = (w.getLsbD n).toNat := by
        simp only [mem_ones]
        cases w.getLsbD n <;> rfl

/-- A word whose lowest bit is at `b` is an odd multiple of `2 ^ b`. -/
theorem toNat_of_lowest {w : Word} {b : Nat} (hb : w.getLsbD b = true)
    (below : ∀ i < b, w.getLsbD i = false) :
    w.toNat = 2 ^ (b + 1) * (w.toNat / 2 ^ (b + 1)) + 2 ^ b := by
  have low : w.toNat % 2 ^ (b + 1) = 2 ^ b := by
    refine Nat.eq_of_testBit_eq fun i => ?_
    rw [Nat.testBit_mod_two_pow, Nat.testBit_two_pow]
    rcases Nat.lt_trichotomy i b with hi | rfl | hi
    · have := below i hi
      simp only [BitVec.getLsbD] at this
      simp [this, Nat.ne_of_gt hi]
    · simpa [BitVec.getLsbD] using hb
    · have : ¬ i < b + 1 := by omega
      simp [this, Nat.ne_of_lt hi]
  have split := Nat.div_add_mod w.toNat (2 ^ (b + 1))
  omega

theorem toNat_sub_one_add_one {w : Word} (h : w ≠ 0) : (w - 1).toNat + 1 = w.toNat := by
  have positive : w.toNat ≠ 0 := fun zero => h (BitVec.eq_of_toNat_eq zero)
  have one_le : 1 ≤ w := by rw [BitVec.le_def]; simp; omega
  rw [BitVec.toNat_sub_of_le one_le]
  simp
  omega

theorem getLsbD_and_sub_one {w : Word} {b : Nat} (hb : w.getLsbD b = true)
    (below : ∀ i < b, w.getLsbD i = false) (i : Nat) :
    (w &&& (w - 1)).getLsbD i = (w.getLsbD i && decide (i ≠ b)) := by
  have shape := toNat_of_lowest hb below
  generalize w.toNat / 2 ^ (b + 1) = q at shape
  have positive : 0 < 2 ^ b := Nat.two_pow_pos b
  have half : 2 ^ (b + 1) = 2 * 2 ^ b := by rw [Nat.pow_succ, Nat.mul_comm]
  have nonzero : w ≠ 0 := by
    rintro rfl
    simp at hb
  have pred : (w - 1).toNat = 2 ^ (b + 1) * q + (2 ^ b - 1) := by
    have := toNat_sub_one_add_one nonzero
    omega
  -- Above `b` both words have the bits of `q`; below it one has zeros and the other ones.
  rw [BitVec.getLsbD_and]
  simp only [BitVec.getLsbD, pred]
  rw [shape, Nat.testBit_two_pow_mul_add q (by omega), Nat.testBit_two_pow_mul_add q (by omega),
    Nat.testBit_two_pow_sub_one, Nat.testBit_two_pow]
  by_cases hi : i < b + 1
  · simp only [hi, if_true]
    by_cases he : i = b
    · simp [he]
    · simp [he, Ne.symm he]
  · have : i ≠ b := by omega
    simp [hi, this]

end Word

namespace SetBits

open Word

theorem lowest?_eq_head? (w : Word) : lowest? w = w.ones.head? := by
  rw [ones, List.head?_filter]
  cases h : lowest? w with
  | none =>
      refine (List.find?_eq_none.2 fun i _ => ?_).symm
      simp [lowest?_eq_none_iff.1 h]
  | some bit =>
      refine (List.find?_range_eq_some.2 ⟨getLsbD_of_lowest? h, ?_, fun i below => ?_⟩).symm
      · exact List.mem_range.2 (lowest?_lt h)
      · rw [getLsbD_below_lowest? h below, Bool.not_false]

theorem ones_and_sub_one {w : Word} {b : Nat} {rest : List Nat} (h : w.ones = b :: rest) :
    (w &&& (w - 1)).ones = rest := by
  have ascending := h ▸ w.ones_ascending
  have hb : w.getLsbD b = true := mem_ones.1 (h ▸ List.mem_cons_self)
  have below : ∀ i < b, w.getLsbD i = false := by
    intro i hi
    refine Bool.eq_false_iff.2 fun hw => ?_
    have : i ∈ b :: rest := h ▸ mem_ones.2 hw
    rcases List.mem_cons.1 this with rfl | hr
    · exact Nat.lt_irrefl _ hi
    · have := List.rel_of_pairwise_cons ascending hr
      omega
  have same : (w &&& (w - 1)).ones = w.ones.filter fun i => decide (i ≠ b) := by
    simp only [ones, List.filter_filter]
    refine List.filter_congr fun i _ => ?_
    rw [getLsbD_and_sub_one hb below, Bool.and_comm]
  rw [same, h, List.filter_cons_of_neg (by simp), List.filter_eq_self]
  intro i hi
  have := List.rel_of_pairwise_cons ascending hi
  exact decide_eq_true (by omega)

/-- A scan that visits `count` bits visits the lowest ones and leaves the others. -/
theorem take_ones (count : Nat) (w : Word) :
    (take count ⟨w⟩).1 = w.ones.take count ∧ (take count ⟨w⟩).2.mask.ones = w.ones.drop count := by
  induction count generalizing w with
  | zero => exact ⟨rfl, rfl⟩
  | succ count ih =>
      cases h : w.ones with
      | nil => simp [take_succ_of_none, next?, lowest?_eq_head?, h]
      | cons b rest =>
          have step : next? ⟨w⟩ = some (b, ⟨w &&& (w - 1)⟩) := by
            simp [next?, lowest?_eq_head?, h]
          obtain ⟨visited, left⟩ := ih (w &&& (w - 1))
          rw [ones_and_sub_one h] at visited left
          rw [take_succ_of_some count step, visited, left, List.take_succ_cons,
            List.drop_succ_cons]
          exact ⟨rfl, rfl⟩

theorem toList_eq_ones (w : Word) : toList ⟨w⟩ = w.ones := by
  rw [toList, (take_ones 32 w).1, List.take_of_length_le]
  calc w.ones.length ≤ (List.range 32).length := List.length_filter_le ..
    _ = 32 := List.length_range

end SetBits

end Interrupts
