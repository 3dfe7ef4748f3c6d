import Interrupts.Board.Max32660.Clock
import Interrupts.Board.Max32660.Controller
import Interrupts.Board.Max32660.LineBank
import Interrupts.Board.Max32660.SerialChannel

/-! # The MAX32660

A microcontroller with a Cortex-M4 core. Every call on it is a driver, that is a
program of register accesses, so the exact sequence of accesses of each call is a
matter of its definition.
-/

namespace Interrupts.Max32660

def number : Peripheral → Nat
  | .gpio => 24
  | .rtc => 3
  | .uart channel => 14 + channel.val

def drive (call : Call) : Driver call.Answer :=
  match call with
  | .controller call => Controller.drive call
  | .lines call => LineBank.drive call
  | .clock call => Clock.drive call
  | .serial channel call => SerialChannel.drive channel call

def hardware : Hardware RegisterFile where
  number := number
  respond call file := file.drive (drive call)

end Interrupts.Max32660
