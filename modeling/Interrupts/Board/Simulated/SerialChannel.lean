import Interrupts.Call

/-! # Simulated serial channel

A flag register, which a test can raise, and an enable register, which a test can
write. No call is refused.
-/

namespace Interrupts.Simulated

structure SerialChannel where
  flags : Word
  enabled : Word
deriving DecidableEq

namespace SerialChannel

def initial : SerialChannel := ⟨0, 0⟩

def raise (channel : SerialChannel) (mask : Word) : SerialChannel :=
  { channel with flags := channel.flags ||| mask }

def setEnabled (channel : SerialChannel) (mask : Word) : SerialChannel :=
  { channel with enabled := mask }

def respond (call : SerialCall) (channel : SerialChannel) : call.Answer × SerialChannel :=
  match call with
  | .readFlags => (channel.flags, channel)
  | .clearFlags mask => ((), { channel with flags := channel.flags.without mask })
  | .readEnabled => (channel.enabled, channel)

end SerialChannel

end Interrupts.Simulated
