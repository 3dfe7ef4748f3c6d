import Interrupts.Board.Registers

/-! # Serial channels of the MAX32660

Interrupt flags are cleared by writing ones to them.
-/

namespace Interrupts.Max32660.SerialChannel

def base (channel : Channel) : Nat := 0x40042000 + 0x1000 * channel.val

def enabled (channel : Channel) : Nat := base channel + 0x0C
def flags (channel : Channel) : Nat := base channel + 0x10

def drive (channel : Channel) (call : SerialCall) : Driver call.Answer :=
  match call with
  | .readFlags => Driver.read (flags channel)
  | .clearFlags mask => Driver.write (flags channel) mask
  | .readEnabled => Driver.read (enabled channel)

end Interrupts.Max32660.SerialChannel
