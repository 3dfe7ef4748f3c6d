import Interrupts.Proofs.Run.Respond
import Interrupts.Proofs.Word.Ones

/-! # Serving the input lines

The scan of the lines takes turns with the callbacks: it looks a callback up, hands
control to it, and goes on in whatever world the callback leaves. So what the scan does
is not a function of the registry at its beginning. `Scan` follows it through the
registries that it meets; all that is known about a delivery is read off from `Scan` by
induction, for callbacks that do anything at all.
-/

namespace Interrupts

def Registry.ofLine? (registry : Registry) (index : Nat) : Option Callback :=
  (Line.ofNat? index).bind fun line => registry.find? (.gpio line)

@[simp] theorem Registry.ofLine?_val (registry : Registry) (line : Line) :
    registry.ofLine? line.val = registry.find? (.gpio line) := by
  simp [ofLine?]

theorem Registry.ofLine?_eq_none {registry : Registry} {index : Nat} :
    registry.ofLine? index = none ↔
      14 ≤ index ∨ ∃ line : Line, line.val = index ∧ registry.find? (.gpio line) = none := by
  by_cases h : index < 14
  · have isLine : Line.ofNat? index = some ⟨index, h⟩ := dif_pos h
    simp only [ofLine?, isLine, Option.bind_some]
    constructor
    · intro empty
      exact .inr ⟨⟨index, h⟩, rfl, empty⟩
    · intro either
      rcases either with beyond | ⟨line, rfl, empty⟩
      · omega
      · exact empty
  · have noLine : Line.ofNat? index = none := dif_neg h
    simp only [ofLine?, noLine, Option.bind_none, true_iff]
    exact .inl (by omega)

namespace Delivery

variable {β η : Type}

/-- A scan of the given bits that begins with one registry invokes the given callbacks
and ends with another registry. -/
inductive Scan (react : Reaction β η) :
    Registry → List Nat → List (Invocation β η) → Registry → Prop
  | finished (registry : Registry) : Scan react registry [] [] registry
  | stopped {registry : Registry} {index : Nat} (rest : List Nat) :
      registry.ofLine? index = none → Scan react registry (index :: rest) [] registry
  | served {line : Line} {v : Invocation β η} {rest : List Nat}
      {later : List (Invocation β η)} {last : Registry} :
      v.source = .gpio line → v.index = line.val →
      v.world.registry.find? (.gpio line) = some v.callback →
      Scan react (v.outcome react).registry rest later last →
      Scan react v.world.registry (line.val :: rest) (v :: later) last

theorem scanLines_scan (hardware : Hardware β) (react : Reaction β η) (snapshot : Word)
    (bits : List Nat) (world : World β η) :
    Scan react world.registry bits
      (world.invocations hardware react (scanLines lookUp snapshot bits))
      (world.run hardware react (scanLines lookUp snapshot bits)).2.registry := by
  induction bits generalizing world with
  | nil => exact .finished _
  | cons index rest ih =>
      cases hl : Line.ofNat? index with
      | none =>
          have stop : scanLines lookUp snapshot (index :: rest) =
              Routine.note (.dropped index snapshot) := by
            simp [scanLines, hl]
          rw [stop]
          exact .stopped rest (by simp [Registry.ofLine?, hl])
      | some line =>
          obtain rfl := Line.eq_val_of_ofNat? hl
          cases hf : world.registry.find? (.gpio line) with
          | none =>
              simp only [scanLines, hl, World.invocations_bind, World.run_bind, World.run_lookUp,
                World.invocations_lookUp, hf, List.nil_append]
              exact .stopped rest (by simp [hf])
          | some callback =>
              simp only [scanLines, hl, World.invocations_bind, World.run_bind, World.run_lookUp,
                World.invocations_lookUp, hf, List.nil_append]
              rw [World.invocations_perform, World.run_perform, World.respond_invoke]
              let v : Invocation β η :=
                ⟨.gpio line, callback, line.val, world.lookedUp (.gpio line)⟩
              exact Scan.served (v := v) rfl rfl hf (ih (v.outcome react))

namespace Scan

variable {react : Reaction β η} {registry last : Registry} {bits : List Nat}
  {served : List (Invocation β η)}

theorem registered (scan : Scan react registry bits served last) :
    ∀ v ∈ served, ∃ line : Line, v.source = .gpio line ∧ v.index = line.val ∧
      v.world.registry.find? (.gpio line) = some v.callback := by
  induction scan with
  | finished => simp
  | stopped => simp
  | @served line v rest later last hs hi hf _ ih =>
      intro u hu
      rcases List.mem_cons.1 hu with rfl | hu
      · exact ⟨line, hs, hi, hf⟩
      · exact ih u hu

/-- Between two callbacks the registry stays as the first has left it. -/
theorem registries (scan : Scan react registry bits served last) :
    served.map (·.world.registry) ++ [last] =
      registry :: served.map fun v => (v.outcome react).registry := by
  induction scan with
  | finished => rfl
  | stopped => rfl
  | served _ _ _ _ ih => exact congrArg _ ih

/-- The scan ends with its bits or at one whose line has no callback at that moment. -/
theorem ending (scan : Scan react registry bits served last) :
    bits = served.map (·.index) ∨
      ∃ index rest, bits = served.map (·.index) ++ index :: rest ∧
        last.ofLine? index = none := by
  induction scan with
  | finished => exact .inl rfl
  | stopped rest none => exact .inr ⟨_, rest, rfl, none⟩
  | served _ hi _ _ ih =>
      rcases ih with all | ⟨index, rest, split, none⟩
      · exact .inl (by rw [List.map_cons, ← all, hi])
      · exact .inr ⟨index, rest, by rw [List.map_cons, List.cons_append, ← split, hi], none⟩

theorem isPrefix (scan : Scan react registry bits served last) :
    served.map (·.index) <+: bits := by
  rcases scan.ending with all | ⟨index, rest, split, _⟩
  · exact ⟨[], by rw [List.append_nil, ← all]⟩
  · exact ⟨index :: rest, split.symm⟩

/-- Callbacks that leave the registry alone are those of the longest run of bits whose
lines are registered. -/
theorem undisturbed (scan : Scan react registry bits served last)
    (quiet : ∀ v ∈ served, (v.outcome react).registry = v.world.registry) :
    served.map (·.index) = bits.takeWhile fun index => (registry.ofLine? index).isSome := by
  induction scan with
  | finished => rfl
  | stopped rest none => simp [none]
  | @served line v rest later last hs hi hf _ ih =>
      have same := ih fun u hu => quiet u (List.mem_cons_of_mem _ hu)
      rw [quiet v List.mem_cons_self] at same
      rw [List.map_cons, same, hi, List.takeWhile_cons_of_pos (by simp [hf])]

end Scan

theorem dispatch_gpio_scan (hardware : Hardware β) (react : Reaction β η) (world : World β η) :
    Scan react world.registry (hardware.respond (.lines .readStatus) world.board).1.ones
      (world.invocations hardware react (dispatch .gpio))
      (world.run hardware react (dispatch .gpio)).2.registry := by
  let snapshot := (hardware.respond (.lines .readStatus) world.board).1
  have calls (c : LineCall) (world : World β η) :
      world.invocations hardware react (Routine.lines c) = [] := rfl
  have keeps (c : LineCall) (world : World β η) :
      (world.run hardware react (Routine.lines c)).2.registry = world.registry := by
    rw [Routine.lines, World.run_perform, World.respond_call]
  have reads : (world.run hardware react (Routine.lines .readStatus)).1 = snapshot := by
    rw [Routine.lines, World.run_perform, World.respond_call]
  simp only [dispatch, gpio, World.invocations_bind, World.run_bind, calls, List.nil_append]
  rw [reads, SetBits.toList_eq_ones]
  have scan := scanLines_scan hardware react snapshot snapshot.ones
    ((world.run hardware react (Routine.lines .readStatus)).2.run hardware react
      (Routine.lines (.clearStatus snapshot))).2
  rw [keeps, keeps] at scan
  exact scan

/-- Serving the lines invokes callbacks at ascending set bits of the status read at the
beginning, each with the callback that its line has at that moment, up to the first bit
without a line or without a callback. Callbacks may do anything in between; if none of
them changes the registry, the served bits are the longest registered prefix. -/
theorem dispatch_gpio_serves (hardware : Hardware β) (react : Reaction β η)
    (world : World β η) :
    let snapshot := (hardware.respond (.lines .readStatus) world.board).1
    let served := world.invocations hardware react (dispatch .gpio)
    let last := (world.run hardware react (dispatch .gpio)).2.registry
    let indices := served.map (·.index)
    indices.Pairwise (· < ·) ∧
    (∀ v ∈ served, snapshot.getLsbD v.index = true ∧
      ∃ line : Line, v.source = .gpio line ∧ v.index = line.val ∧
        v.world.registry.find? (.gpio line) = some v.callback) ∧
    served.map (·.world.registry) ++ [last] =
      world.registry :: served.map (fun v => (v.outcome react).registry) ∧
    (snapshot.ones = indices ∨
      ∃ index rest, snapshot.ones = indices ++ index :: rest ∧
        (14 ≤ index ∨ ∃ line : Line, line.val = index ∧ last.find? (.gpio line) = none)) ∧
    ((∀ v ∈ served, (v.outcome react).registry = v.world.registry) →
      indices = snapshot.ones.takeWhile fun index => (world.registry.ofLine? index).isSome) := by
  intro snapshot served last indices
  have scan : Scan react world.registry snapshot.ones served last :=
    dispatch_gpio_scan hardware react world
  have ascending : indices.Pairwise (· < ·) :=
    snapshot.ones_ascending.sublist scan.isPrefix.sublist
  have shown : ∀ v ∈ served, snapshot.getLsbD v.index = true := by
    intro v hv
    have member : v.index ∈ snapshot.ones := scan.isPrefix.subset (List.mem_map_of_mem hv)
    exact Word.mem_ones.1 member
  have stops : snapshot.ones = indices ∨
      ∃ index rest, snapshot.ones = indices ++ index :: rest ∧
        (14 ≤ index ∨ ∃ line : Line, line.val = index ∧ last.find? (.gpio line) = none) := by
    simpa only [Registry.ofLine?_eq_none] using scan.ending
  exact ⟨ascending, fun v hv => ⟨shown v hv, scan.registered v hv⟩, scan.registries, stops,
    scan.undisturbed⟩

end Delivery

end Interrupts
