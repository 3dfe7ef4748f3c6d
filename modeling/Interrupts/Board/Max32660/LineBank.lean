import Interrupts.Board.Registers

/-! # Line bank of the MAX32660

Pairs of set and clear registers make the update of one line independent of the
others. The trigger registers have no such pair: they are read, changed and
written back, and must only be changed under the lock of the tables.
-/

namespace Interrupts.Max32660.LineBank

def base : Nat := 0x40008000

def functionSet : Nat := base + 0x04
def outputClear : Nat := base + 0x14
def mode : Nat := base + 0x28
def polarity : Nat := base + 0x2C
def enabled : Nat := base + 0x34
def enableSet : Nat := base + 0x38
def enableClear : Nat := base + 0x3C
def status : Nat := base + 0x40
def statusClear : Nat := base + 0x48
def dualEdge : Nat := base + 0x5C

def program (line : Line) (bits : Trigger.Encoding) : Driver Unit := do
  Driver.modify mode line.mask bits.edge
  Driver.modify polarity line.mask bits.activeLow
  Driver.modify dualEdge line.mask bits.dualEdge

def drive (call : LineCall) : Driver call.Answer :=
  match call with
  | .setInput line => do
      Driver.write functionSet line.mask
      Driver.write outputClear line.mask
      return .ok ()
  | .configureTrigger line trigger => do
      program line trigger.encode
      return .ok ()
  | .setEnabled line on => do
      Driver.write (if on then enableSet else enableClear) line.mask
      return .ok ()
  | .isEnabled line => do return (← Driver.read enabled).meets line.mask
  | .readStatus => Driver.read status
  | .clearStatus mask => Driver.write statusClear mask

end Interrupts.Max32660.LineBank
