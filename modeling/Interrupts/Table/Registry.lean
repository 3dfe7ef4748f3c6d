import Interrupts.Callback

/-! # The callback registry

At most one callback per source. The registry maps some of the sources to
callbacks; which setting a callback carries is not checked here.
-/

namespace Interrupts

/-- The callback of every source that has one. -/
structure Registry where
  slots : Vector (Option Callback) 17
deriving DecidableEq

namespace Registry

def empty : Registry := ⟨Vector.replicate 17 none⟩

def find? (registry : Registry) (source : Source) : Option Callback :=
  registry.slots[source.slot]

def contains (registry : Registry) (source : Source) : Bool :=
  (registry.find? source).isSome

def put (registry : Registry) (source : Source) (entry : Option Callback) : Registry :=
  ⟨registry.slots.set source.slot entry⟩

/-- Gives `source` a callback; answers with the one that it replaces. -/
def install (registry : Registry) (source : Source) (callback : Callback) :
    Option Callback × Registry :=
  (registry.find? source, registry.put source (some callback))

/-- Takes the callback of `source` out; answers with it. A source without a
callback is refused. -/
def erase (registry : Registry) (source : Source) : Except Fault Callback × Registry :=
  match registry.find? source with
  | some callback => (.ok callback, registry.put source none)
  | none => (.error .invalidArgument, registry)

def sources (registry : Registry) : List Source :=
  Source.all.filter registry.contains

def size (registry : Registry) : Nat := registry.slots.countP Option.isSome

def isEmpty (registry : Registry) : Bool := registry.size == 0

@[simp] theorem find?_empty (source : Source) : empty.find? source = none := by
  simp [find?, empty]

theorem find?_put (registry : Registry) (source other : Source)
    (entry : Option Callback) :
    (registry.put source entry).find? other =
      if source = other then entry else registry.find? other := by
  by_cases h : source = other
  · subst h; simp [find?, put]
  · have hs : source.slot.val ≠ other.slot.val :=
      fun e => h (Source.slot_injective (Fin.ext e))
    simp [find?, put, h, hs]

theorem put_find? (registry : Registry) (source : Source) :
    registry.put source (registry.find? source) = registry :=
  congrArg Registry.mk (Vector.set_getElem_self _)

@[simp] theorem find?_install (registry : Registry) (source other : Source)
    (callback : Callback) :
    (registry.install source callback).2.find? other =
      if source = other then some callback else registry.find? other :=
  find?_put ..

@[simp] theorem find?_erase (registry : Registry) (source other : Source) :
    (registry.erase source).2.find? other =
      if source = other then none else registry.find? other := by
  unfold erase
  split
  next => exact find?_put ..
  next h =>
    by_cases hs : source = other
    · subst hs; simp [h]
    · simp [hs]

@[simp] theorem install_fst (registry : Registry) (source : Source) (callback : Callback) :
    (registry.install source callback).1 = registry.find? source := rfl

theorem erase_of_find? {registry : Registry} {source : Source} {callback : Callback}
    (h : registry.find? source = some callback) :
    registry.erase source = (.ok callback, registry.put source none) := by
  simp [erase, h]

theorem erase_of_find?_none {registry : Registry} {source : Source}
    (h : registry.find? source = none) :
    registry.erase source = (.error .invalidArgument, registry) := by
  simp [erase, h]

theorem mem_sources (registry : Registry) (source : Source) :
    source ∈ registry.sources ↔ registry.contains source = true := by
  simp [sources, Source.mem_all]

theorem toList_slots (registry : Registry) :
    registry.slots.toList = Source.all.map registry.find? := by
  have get (slot : Slot) : registry.slots.get slot = registry.slots[slot] := rfl
  calc registry.slots.toList = (List.finRange 17).map registry.slots.get := by
        refine List.ext_getElem (by simp) fun i _ _ => ?_
        simp [get]
    _ = (Source.all.map Source.slot).map registry.slots.get := by rw [Source.map_slot_all]
    _ = Source.all.map registry.find? := List.map_map

theorem size_eq_length_sources (registry : Registry) :
    registry.size = registry.sources.length := by
  rw [size, ← Vector.countP_toList, toList_slots, List.countP_map, sources,
    ← List.countP_eq_length_filter]
  rfl

theorem contains_eq_isSome (registry : Registry) (source : Source) :
    registry.contains source = (registry.find? source).isSome := rfl

end Registry

end Interrupts
