import Interrupts.Word
import Interrupts.Text

/-! # Named flags

A flag layout gives names to some bits of a word. A word may also hold bits that
the layout does not name; they are kept by every operation except complement and
truncation, and written as one hexadecimal number behind the names.
-/

namespace Interrupts

/-- The named bits of a kind of register, in the order in which they are written. -/
structure FlagLayout where
  name : String
  flags : List (String × Word)

namespace FlagLayout

def all (layout : FlagLayout) : Word :=
  layout.flags.foldl (fun mask flag => mask ||| flag.2) 0

/-- The word itself, unless it holds an unnamed bit. -/
def known? (layout : FlagLayout) (w : Word) : Option Word :=
  if w.without layout.all = 0 then some w else none

def truncate (layout : FlagLayout) (w : Word) : Word := w &&& layout.all

def complement (layout : FlagLayout) (w : Word) : Word := layout.all.without w

def named (layout : FlagLayout) (w : Word) : List (String × Word) :=
  layout.flags.filter fun flag => w.covers flag.2

/-- The names of the flags set in `w`, then its unnamed bits, joined by bars; `0x0`
if `w` is zero. -/
def text (layout : FlagLayout) (w : Word) : String :=
  let unnamed := w.without layout.all
  let names := (layout.named w).map (·.1)
  let parts := if unnamed = 0 then names else names ++ ["0x" ++ Text.hex unnamed.toNat]
  Text.tagged layout.name [if parts.isEmpty then "0x0" else " | ".intercalate parts]

end FlagLayout

end Interrupts
