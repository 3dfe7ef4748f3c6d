/-! # Register words

A register holds 32 bits. A mask names a set of bits; the operations below are
those that register code uses: does a word meet a mask, does it cover a mask,
and write every bit of a mask to one value.
-/

namespace Interrupts

abbrev Word := BitVec 32

namespace Word

/-- The mask of bit `n` alone; zero if `n` is 32 or more. -/
def bit (n : Nat) : Word := 1#32 <<< n

/-- Some bit of `mask` is set in `w`. -/
def meets (w mask : Word) : Bool := w &&& mask != 0

/-- Every bit of `mask` is set in `w`. -/
def covers (w mask : Word) : Bool := w &&& mask == mask

def without (w mask : Word) : Word := w &&& ~~~mask

/-- The word `w` with every bit of `mask` set or cleared. -/
def write (w mask : Word) (on : Bool) : Word :=
  if on then w ||| mask else w.without mask

theorem getLsbD_one_shiftLeft {v : Nat} (n i : Nat) :
    (1#v <<< n).getLsbD i = (decide (i < v) && decide (n = i)) := by
  rw [← BitVec.twoPow_eq, BitVec.getLsbD_twoPow]
  by_cases h : n = i <;> simp [h]

theorem getLsbD_bit (n i : Nat) : (bit n).getLsbD i = (decide (i < 32) && decide (n = i)) :=
  getLsbD_one_shiftLeft n i

theorem getLsbD_without (w mask : Word) (i : Nat) :
    (w.without mask).getLsbD i = (w.getLsbD i && !mask.getLsbD i) := by
  by_cases h : i < 32
  · simp [without, h]
  · simp [without, BitVec.getLsbD_of_ge w i (by omega)]

theorem getLsbD_write (w mask : Word) (on : Bool) (i : Nat) :
    (w.write mask on).getLsbD i = if mask.getLsbD i then on else w.getLsbD i := by
  cases on with
  | true => cases h : mask.getLsbD i <;> simp [write, h]
  | false => cases h : mask.getLsbD i <;> simp [write, getLsbD_without, h]

end Word

end Interrupts
