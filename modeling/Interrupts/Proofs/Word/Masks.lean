import Interrupts.Clock
import Interrupts.Source

/-! # Masks of one bit

Register code asks whether a word meets or covers a mask. For the mask of a single bit
both questions are about that bit.
-/

namespace Interrupts

namespace Word

theorem bit_eq_twoPow (n : Nat) : bit n = BitVec.twoPow 32 n := (BitVec.twoPow_eq 32 n).symm

theorem and_bit (w : Word) (n : Nat) : w &&& bit n = if w.getLsbD n then bit n else 0 := by
  rw [bit_eq_twoPow, BitVec.and_twoPow]
  rfl

theorem bit_ne_zero {n : Nat} (h : n < 32) : bit n ≠ 0 := by
  intro zero
  have set : (bit n).getLsbD n = true := by simp only [getLsbD_bit, h, decide_true, Bool.and_self]
  rw [zero, BitVec.ofNat_eq_ofNat, BitVec.getLsbD_zero] at set
  exact Bool.false_ne_true set

theorem meets_bit (w : Word) {n : Nat} (h : n < 32) : w.meets (bit n) = w.getLsbD n := by
  rw [meets, and_bit]
  cases w.getLsbD n with
  | true => simpa using bit_ne_zero h
  | false => rfl

theorem lt_of_meets_bit {w : Word} {n : Nat} (h : w.meets (bit n) = true) : n < 32 := by
  refine Decidable.byContradiction fun beyond => ?_
  have zero : bit n = 0 := BitVec.eq_of_getLsbD_eq fun i inside => by
    rw [getLsbD_bit, decide_eq_false (by omega : ¬ n = i), Bool.and_false]
    exact (BitVec.getLsbD_zero).symm
  simp [meets, zero] at h

theorem covers_bit (w : Word) {n : Nat} (h : n < 32) : w.covers (bit n) = w.getLsbD n := by
  rw [covers, and_bit]
  cases w.getLsbD n with
  | true => simp
  | false => simpa using (bit_ne_zero h).symm

theorem or_one_shiftLeft_eq_self {v n : Nat} {w : BitVec v} (h : w.getLsbD n = true) :
    w ||| 1#v <<< n = w := by
  refine BitVec.eq_of_getLsbD_eq fun i _ => ?_
  rw [BitVec.getLsbD_or, getLsbD_one_shiftLeft]
  by_cases own : n = i
  · rw [← own, h, Bool.true_or]
  · simp [own]

theorem and_not_one_shiftLeft_eq_self {v n : Nat} {w : BitVec v} (h : w.getLsbD n = false) :
    w &&& ~~~(1#v <<< n) = w := by
  refine BitVec.eq_of_getLsbD_eq fun i inside => ?_
  rw [BitVec.getLsbD_and, BitVec.getLsbD_not, getLsbD_one_shiftLeft]
  by_cases own : n = i
  · rw [← own, h, Bool.false_and]
  · simp [own, inside]

theorem or_bit_eq_self {w : Word} {n : Nat} (h : w.getLsbD n = true) : w ||| bit n = w :=
  or_one_shiftLeft_eq_self h

theorem without_bit_eq_self {w : Word} {n : Nat} (h : w.getLsbD n = false) :
    w.without (bit n) = w :=
  and_not_one_shiftLeft_eq_self h

theorem covers_of_without {w mask b : Word} (h : (w.without mask).covers b = true) :
    w.covers b = true := by
  have kept : w &&& ~~~mask &&& b = b := by simpa [covers, without] using h
  have same : w &&& b = b := by
    calc w &&& b = w &&& (w &&& ~~~mask &&& b) := by rw [kept]
      _ = w &&& ~~~mask &&& b := by
        rw [← BitVec.and_assoc, ← BitVec.and_assoc, BitVec.and_self]
      _ = b := kept
  simpa [covers] using same

end Word

namespace Alarm

/-- The place of the enable bit of an alarm, which is a single bit. -/
theorem enableBit_eq (alarm : Alarm) : ∃ n < 32, alarm.enableBit = Word.bit n := by
  cases alarm with
  | timeOfDay => exact ⟨1, by decide, rfl⟩
  | subSecond => exact ⟨2, by decide, rfl⟩

theorem covers_or (w mask : Word) (alarm : Alarm) :
    (w ||| mask).covers alarm.enableBit =
      (w.covers alarm.enableBit || mask.covers alarm.enableBit) := by
  obtain ⟨n, h, same⟩ := alarm.enableBit_eq
  simp only [same, Word.covers_bit _ h, BitVec.getLsbD_or]

theorem covers_without (w : Word) (alarm : Alarm) :
    (w.without alarm.enableBit).covers alarm.enableBit = false := by
  obtain ⟨n, h, same⟩ := alarm.enableBit_eq
  simp only [same, Word.covers_bit _ h, Word.getLsbD_without, Word.getLsbD_bit, h, decide_true,
    Bool.and_self, Bool.not_true, Bool.and_false]

theorem covers_enableBit (alarm other : Alarm) :
    alarm.enableBit.covers other.enableBit = decide (alarm = other) := by
  cases alarm <;> cases other <;> decide

theorem or_enableBit {w : Word} {alarm : Alarm} (h : w.covers alarm.enableBit = true) :
    w ||| alarm.enableBit = w := by
  obtain ⟨n, inside, same⟩ := alarm.enableBit_eq
  rw [same, Word.covers_bit _ inside] at h
  rw [same, Word.or_bit_eq_self h]

theorem without_enableBit {w : Word} {alarm : Alarm} (h : w.covers alarm.enableBit = false) :
    w.without alarm.enableBit = w := by
  obtain ⟨n, inside, same⟩ := alarm.enableBit_eq
  rw [same, Word.covers_bit _ inside] at h
  rw [same, Word.without_bit_eq_self h]

end Alarm

namespace Line

theorem val_lt_width (line : Line) : line.val < 32 := Nat.lt_trans line.isLt (by decide)

@[simp] theorem getLsbD_mask (line : Line) (i : Nat) :
    line.mask.getLsbD i = decide (line.val = i) := by
  rw [mask, Word.getLsbD_bit]
  by_cases h : line.val = i
  · have : i < 32 := h ▸ line.val_lt_width
    simp [h, this]
  · simp [h]

@[simp] theorem meets_mask (w : Word) (line : Line) : w.meets line.mask = w.getLsbD line.val :=
  Word.meets_bit w line.val_lt_width

theorem write_write_back (w : Word) (line : Line) (on : Bool) :
    (w.write line.mask on).write line.mask (w.getLsbD line.val) = w := by
  refine BitVec.eq_of_getLsbD_eq fun i _ => ?_
  simp only [Word.getLsbD_write, getLsbD_mask, decide_eq_true_eq]
  by_cases h : line.val = i <;> simp [h]

theorem without_eq_self {w : Word} {line : Line} (h : w.getLsbD line.val = false) :
    w.without line.mask = w :=
  Word.without_bit_eq_self h

theorem write_eq_self {w : Word} {line : Line} {on : Bool} (h : w.getLsbD line.val = on) :
    w.write line.mask on = w := by
  cases on with
  | true => exact Word.or_bit_eq_self h
  | false => exact without_eq_self h

end Line

end Interrupts
