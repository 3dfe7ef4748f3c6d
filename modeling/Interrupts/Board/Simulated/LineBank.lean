import Interrupts.Call

/-! # Simulated line bank

One register bit per line for input mode, interrupt enable, the three trigger
bits and status. A test can assert status bits at chosen moments: at once, right
after the next status read, or while a trigger is being programmed. An event of
the last kind counts as fired if the line was enabled at that moment.
-/

namespace Interrupts.Simulated

structure LineBank where
  input : Word
  enabled : Word
  edge : Word
  activeLow : Word
  dualEdge : Word
  /-- Lines whose trigger was ever programmed. -/
  configured : Word
  status : Word
  /-- Status to assert after the next status read. -/
  late : Word
  /-- Status to assert while the trigger of the line is being programmed. -/
  injected : Word
  /-- Lines on which an injected event met a set enable bit. -/
  fired : Word
  /-- Lines whose trigger cannot be programmed. -/
  failing : Word
deriving DecidableEq

namespace LineBank

def initial : LineBank := ⟨0, 0, 0, 0, 0, 0, 0, 0, 0, 0, 0⟩

def raise (bank : LineBank) (mask : Word) : LineBank :=
  { bank with status := bank.status ||| mask }

def raiseAfterRead (bank : LineBank) (mask : Word) : LineBank :=
  { bank with late := bank.late ||| mask }

def injectOnConfigure (bank : LineBank) (mask : Word) : LineBank :=
  { bank with injected := bank.injected ||| mask }

def failConfigure (bank : LineBank) (mask : Word) : LineBank :=
  { bank with failing := bank.failing ||| mask }

def encoding (bank : LineBank) (line : Line) : Trigger.Encoding :=
  ⟨bank.edge.meets line.mask, bank.activeLow.meets line.mask, bank.dualEdge.meets line.mask⟩

/-- The trigger that the registers hold for a line, if it was ever programmed. -/
def trigger? (bank : LineBank) (line : Line) : Option Trigger :=
  if bank.configured.meets line.mask then some (bank.encoding line).decode else none

def triggers (bank : LineBank) : List (Option Trigger) := Line.all.map bank.trigger?

def deliverInjected (bank : LineBank) (line : Line) : LineBank :=
  if bank.injected.meets line.mask then
    { bank with
      injected := bank.injected.without line.mask
      status := bank.status ||| line.mask
      fired := if bank.enabled.meets line.mask then bank.fired ||| line.mask else bank.fired }
  else bank

def program (bank : LineBank) (line : Line) (bits : Trigger.Encoding) : LineBank :=
  { bank with
    edge := bank.edge.write line.mask bits.edge
    activeLow := bank.activeLow.write line.mask bits.activeLow
    dualEdge := bank.dualEdge.write line.mask bits.dualEdge
    configured := bank.configured ||| line.mask }

def respond (call : LineCall) (bank : LineBank) : call.Answer × LineBank :=
  match call with
  | .setInput line => (.ok (), { bank with input := bank.input ||| line.mask })
  | .configureTrigger line trigger =>
      if bank.failing.meets line.mask then (.error .busy, bank)
      else (.ok (), (bank.deliverInjected line).program line trigger.encode)
  | .setEnabled line on => (.ok (), { bank with enabled := bank.enabled.write line.mask on })
  | .isEnabled line => (bank.enabled.meets line.mask, bank)
  | .readStatus => (bank.status, { bank with status := bank.status ||| bank.late, late := 0 })
  | .clearStatus mask => ((), { bank with status := bank.status.without mask })

end LineBank

end Interrupts.Simulated
