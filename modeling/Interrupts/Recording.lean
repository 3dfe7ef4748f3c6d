import Interrupts.Callback

/-! # Recordings

A recorder keeps the indices of the first events it is told of, up to a fixed
number, and the setting that came with the last one.
-/

namespace Interrupts

structure Recording where
  indices : List Nat
  last : Option Setting
deriving DecidableEq

namespace Recording

def empty : Recording := ⟨[], none⟩

def capacity : Nat := 32

/-- The setting is kept even when there is no more room for the index. -/
def add (recording : Recording) (index : Nat) (setting : Setting) : Recording where
  indices :=
    if recording.indices.length < capacity then recording.indices ++ [index]
    else recording.indices
  last := some setting

end Recording

end Interrupts
