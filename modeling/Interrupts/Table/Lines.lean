import Interrupts.Source
import Interrupts.Trigger

/-! # The line table

What every line was last told: its trigger, if it was ever given one, and whether
it may raise interrupts. The table is kept apart from the registry, so a line
keeps its trigger when it loses its callback.
-/

namespace Interrupts

structure LineSetting where
  trigger : Option Trigger
  enabled : Bool
deriving DecidableEq

namespace LineSetting

def initial : LineSetting := ⟨none, false⟩

def text (setting : LineSetting) : String :=
  Text.labelled "LineConfig"
    [("trigger", Text.optional Trigger.text setting.trigger),
      ("enabled", Text.truth setting.enabled)]

/-- The state an observer sees: a disabled line hides its trigger. A line can be
enabled before it has a trigger. -/
def stateText (setting : LineSetting) : String :=
  if setting.enabled then
    Text.tagged "Enabled" [Text.optional Trigger.text setting.trigger]
  else
    "Disabled"

/-- The trigger or a dash, with a plus sign behind it if the line is enabled. -/
def summary (setting : LineSetting) : String :=
  ((setting.trigger.map Trigger.text).getD "-") ++ (if setting.enabled then "+" else "")

end LineSetting

structure LineTable where
  lines : Vector LineSetting 14
deriving DecidableEq

namespace LineTable

def initial : LineTable := ⟨Vector.replicate 14 LineSetting.initial⟩

def get (table : LineTable) (line : Line) : LineSetting := table.lines[line]

def set (table : LineTable) (line : Line) (setting : LineSetting) : LineTable :=
  ⟨table.lines.set line setting⟩

/-- The lines that have a trigger, ascending, with that trigger. -/
def configured (table : LineTable) : List (Line × Trigger) :=
  Line.all.filterMap fun line => (table.get line).trigger.map fun trigger => (line, trigger)

def summary (table : LineTable) : List String :=
  Line.all.map fun line => (table.get line).summary

theorem map_fst_configured (table : LineTable) :
    table.configured.map Prod.fst =
      Line.all.filter fun line => (table.get line).trigger.isSome := by
  rw [configured, List.map_filterMap, ← List.filterMap_eq_filter]
  refine congrArg (List.filterMap · Line.all) (funext fun line => ?_)
  cases trigger : (table.get line).trigger <;> simp [Option.guard, trigger]

theorem mem_configured {table : LineTable} {line : Line} :
    line ∈ table.configured.map Prod.fst ↔ (table.get line).trigger.isSome = true := by
  simp [map_fst_configured, Line.all]

@[simp] theorem get_initial (line : Line) : initial.get line = LineSetting.initial := by
  simp [get, initial]

@[simp] theorem get_set (table : LineTable) (line other : Line) (setting : LineSetting) :
    (table.set line setting).get other = if line = other then setting else table.get other := by
  by_cases h : line = other
  · subst h; simp [get, set]
  · have hv : line.val ≠ other.val := fun e => h (Fin.ext e)
    simp [get, set, h, hv]

end LineTable

end Interrupts
