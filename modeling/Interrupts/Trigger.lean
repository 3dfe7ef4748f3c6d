import Interrupts.Text

/-! # Triggers

The condition on which an input line raises its interrupt, and the three register
bits by which a bank of lines holds it: edge or level, polarity, and an override
for both edges.
-/

namespace Interrupts

inductive Trigger where
  | risingEdge
  | fallingEdge
  | bothEdges
  | levelHigh
  | levelLow
deriving DecidableEq

namespace Trigger

def all : List Trigger := [risingEdge, fallingEdge, bothEdges, levelHigh, levelLow]

def text : Trigger → String
  | risingEdge => "RisingEdge"
  | fallingEdge => "FallingEdge"
  | bothEdges => "BothEdges"
  | levelHigh => "LevelHigh"
  | levelLow => "LevelLow"

def ofText? (text : String) : Option Trigger := all.find? (·.text == text)

def isEdge : Trigger → Bool
  | risingEdge | fallingEdge | bothEdges => true
  | levelHigh | levelLow => false

/-- The register bits that hold a trigger. -/
structure Encoding where
  /-- Edge if set, level if clear. -/
  edge : Bool
  /-- Falling edge or low level if set. -/
  activeLow : Bool
  /-- Both edges, whatever the other two bits say. -/
  dualEdge : Bool
deriving DecidableEq

def encode : Trigger → Encoding
  | risingEdge => ⟨true, false, false⟩
  | fallingEdge => ⟨true, true, false⟩
  | bothEdges => ⟨true, false, true⟩
  | levelHigh => ⟨false, false, false⟩
  | levelLow => ⟨false, true, false⟩

namespace Encoding

def decode : Encoding → Trigger
  | ⟨_, _, true⟩ => .bothEdges
  | ⟨true, false, false⟩ => .risingEdge
  | ⟨true, true, false⟩ => .fallingEdge
  | ⟨false, false, false⟩ => .levelHigh
  | ⟨false, true, false⟩ => .levelLow

def text (bits : Encoding) : String :=
  Text.labelled "TriggerBits"
    [("edge", Text.truth bits.edge), ("active_low", Text.truth bits.activeLow),
      ("dual_edge", Text.truth bits.dualEdge)]

end Encoding

@[simp] theorem decode_encode (trigger : Trigger) : trigger.encode.decode = trigger := by
  cases trigger <;> rfl

end Trigger

end Interrupts
