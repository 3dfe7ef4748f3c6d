/-! # Text of values

The written form of a value is a name alone, a name with its parts in round
brackets, or a name with labelled parts in braces. Words are written in
lower-case hexadecimal where a register is meant.
-/

namespace Interrupts.Text

def tagged (name : String) (parts : List String) : String :=
  name ++ "(" ++ ", ".intercalate parts ++ ")"

def labelled (name : String) (parts : List (String × String)) : String :=
  name ++ " \x7b " ++ ", ".intercalate (parts.map fun part => part.1 ++ ": " ++ part.2) ++ " \x7d"

def sequence (parts : List String) : String :=
  "[" ++ ", ".intercalate parts ++ "]"

def optional {α : Type} (text : α → String) : Option α → String
  | none => "None"
  | some value => tagged "Some" [text value]

def truth : Bool → String
  | true => "true"
  | false => "false"

/-- Hexadecimal digits without leading zeros; zero is `0`. -/
def hex (n : Nat) : String :=
  String.ofList (Nat.toDigits 16 n)

/-- Hexadecimal with leading zeros up to `width` digits; a longer number keeps all its digits. -/
def hexPadded (width n : Nat) : String :=
  let digits := Nat.toDigits 16 n
  String.ofList (List.replicate (width - digits.length) '0' ++ digits)

end Interrupts.Text
