import Interrupts.Word.Flags

/-! # Serial interrupt causes

The flag register and the enable register of a serial channel share one layout;
the position of a cause is the index under which a callback is told of it.
-/

namespace Interrupts.SerialCause

def layout : FlagLayout where
  name := "UartIntFlags"
  flags :=
    [("RX_FRAME_ERROR", Word.bit 0), ("RX_PARITY_ERROR", Word.bit 1),
      ("CTS_CHANGE", Word.bit 2), ("RX_OVERRUN", Word.bit 3),
      ("RX_FIFO_THRESHOLD", Word.bit 4), ("TX_FIFO_ALMOST_EMPTY", Word.bit 5),
      ("TX_FIFO_THRESHOLD", Word.bit 6), ("BREAK", Word.bit 7),
      ("RX_TIMEOUT", Word.bit 8), ("LAST_BREAK", Word.bit 9)]

end Interrupts.SerialCause
