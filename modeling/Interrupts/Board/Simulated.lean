import Interrupts.Board.Hardware
import Interrupts.Board.Simulated.Clock
import Interrupts.Board.Simulated.Controller
import Interrupts.Board.Simulated.LineBank
import Interrupts.Board.Simulated.SerialChannel

/-! # The simulated board

A board of simulated devices. A test moves it by stimuli: events that hardware
would cause, and limits that hardware would impose. `Faulty` adds refusals that a
test schedules for any call that can be refused.
-/

namespace Interrupts.Simulated

structure Board where
  controller : Controller
  lines : LineBank
  clock : Clock
  serial : Vector SerialChannel 2
deriving DecidableEq

namespace Board

def initial : Board where
  controller := .initial
  lines := .initial
  clock := .initial
  serial := Vector.replicate 2 .initial

def respond (call : Call) (board : Board) : call.Answer × Board :=
  match call with
  | .controller call =>
      let (answer, controller) := board.controller.respond call
      (answer, { board with controller })
  | .lines call =>
      let (answer, lines) := board.lines.respond call
      (answer, { board with lines })
  | .clock call =>
      let (answer, clock) := board.clock.respond call
      (answer, { board with clock })
  | .serial channel call =>
      let (answer, state) := board.serial[channel].respond call
      (answer, { board with serial := board.serial.set channel state })

end Board

def number : Peripheral → Nat
  | .gpio => 24
  | .rtc => 3
  | .uart channel => 14 + channel.val

def hardware (number : Peripheral → Nat) : Hardware Board where
  number := number
  respond call board :=
    let (answer, board) := board.respond call
    (answer, board, [])

/-! ## Stimuli -/

inductive Stimulus where
  | raiseLines (mask : Word)
  | raiseLinesAfterRead (mask : Word)
  | injectOnConfigure (mask : Word)
  | failConfigure (mask : Word)
  | setClock (mask : Word)
  | dropOnClear (mask : Word)
  | clockBusy (busy : Bool)
  | raiseSerial (channel : Channel) (mask : Word)
  | enableSerial (channel : Channel) (mask : Word)
  | pend (vector : Nat)
  | limitPriority (limit : Priority)
deriving DecidableEq

def Board.stimulate (board : Board) : Stimulus → Board
  | .raiseLines mask => { board with lines := board.lines.raise mask }
  | .raiseLinesAfterRead mask => { board with lines := board.lines.raiseAfterRead mask }
  | .injectOnConfigure mask => { board with lines := board.lines.injectOnConfigure mask }
  | .failConfigure mask => { board with lines := board.lines.failConfigure mask }
  | .setClock mask => { board with clock := board.clock.set mask }
  | .dropOnClear mask => { board with clock := board.clock.dropOnClear mask }
  | .clockBusy busy => { board with clock := board.clock.setBusy busy }
  | .raiseSerial channel mask =>
      { board with serial := board.serial.set channel (board.serial[channel].raise mask) }
  | .enableSerial channel mask =>
      { board with serial := board.serial.set channel (board.serial[channel].setEnabled mask) }
  | .pend n => { board with controller := board.controller.pend n }
  | .limitPriority limit => { board with controller := { board.controller with limit } }

end Interrupts.Simulated
