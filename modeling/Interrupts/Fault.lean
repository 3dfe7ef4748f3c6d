/-! # Faults

Every operation that can fail fails with one of these causes. The name and the
message of a fault are fixed text.
-/

namespace Interrupts

inductive Fault where
  /-- A number is out of range, or a value does not belong where it was given. -/
  | invalidArgument
  /-- No room is left. -/
  | resourceExhausted
  /-- The peripheral does not accept the access now. -/
  | busy
deriving DecidableEq

namespace Fault

def name : Fault → String
  | invalidArgument => "InvalidArgument"
  | resourceExhausted => "ResourceExhausted"
  | busy => "Busy"

def message : Fault → String
  | invalidArgument => "invalid argument"
  | resourceExhausted => "resource exhausted"
  | busy => "peripheral busy"

def ofName? (name : String) : Option Fault :=
  [invalidArgument, resourceExhausted, busy].find? (·.name == name)

end Fault

end Interrupts
