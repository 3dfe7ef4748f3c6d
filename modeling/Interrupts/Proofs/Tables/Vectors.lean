import Interrupts.Table.Vectors

/-! # What the vector table lists and finds

A board gives each peripheral any number. The table made of them lists every peripheral once and
in ascending order, and its two searches, by halving for a number and from the front for a
peripheral, answer as the numbering says. Nothing of this depends on how peripherals with the same
number are ordered; where there are none the two searches are inverse to each other.
-/

namespace Interrupts

theorem Peripheral.filter_all (peripheral : Peripheral) :
    all.filter (· = peripheral) = [peripheral] := by
  cases peripheral with
  | gpio => decide
  | rtc => decide
  | uart channel => revert channel; decide

namespace VectorTable

theorem Arranges.filter_entries {table : VectorTable} {number : Peripheral → Nat}
    (arranges : table.Arranges number) (peripheral : Peripheral) :
    table.entries.filter (·.2 = peripheral) = [(number peripheral, peripheral)] := by
  have listed := arranges.perm.filter (·.2 = peripheral)
  have own : (Peripheral.all.filter (· = peripheral)).map (fun p => (number p, p)) =
      [(number peripheral, peripheral)] := by
    rw [Peripheral.filter_all, List.map_singleton]
  rw [List.filter_map] at listed
  exact List.perm_singleton.1 (listed.trans (.of_eq own))

/-- The table of a numbering is an ascending arrangement of the numbered peripherals. Any such
arrangement has one entry for each peripheral, tells its number, and finds a peripheral for a number
unless nobody has the number. If no two peripherals share a number, the arrangement is strictly
ascending and what it finds for a number is its owner. -/
theorem numbering_tabulated (number : Peripheral → Nat) :
    (ofNumbering number).Arranges number ∧
    ∀ table : VectorTable, table.Arranges number →
      (∀ peripheral,
        table.entries.filter (·.2 = peripheral) = [(number peripheral, peripheral)]) ∧
      (table.entries.Pairwise fun a b => a.1 ≤ b.1) ∧
      (∀ peripheral, table.number peripheral = number peripheral) ∧
      (∀ n, table.find? n = none ↔ ∀ peripheral, number peripheral ≠ n) ∧
      (∀ n peripheral, table.find? n = some peripheral → number peripheral = n) ∧
      ((∀ a b, number a = number b → a = b) →
        (table.entries.Pairwise fun a b => a.1 < b.1) ∧
        ∀ n peripheral, table.find? n = some peripheral ↔ number peripheral = n) := by
  refine ⟨arranges_ofNumbering number, fun table arranges => ?_⟩
  refine ⟨arranges.filter_entries, arranges.sorted, arranges.number_eq, ?_, ?_, ?_⟩
  · intro n
    exact arranges.find?_eq_none_iff
  · intro n peripheral
    exact arranges.number_of_find?
  · intro distinct
    exact ⟨arranges.ascending distinct, fun n peripheral => arranges.find?_eq_some_iff distinct⟩

/-- A serial channel and the lines share a number, and the table has them in the order in which
sorting does not leave them; then a numbering without shared numbers, with the lines last. -/
theorem numbering_tabulated_shared :
    let shared (peripheral : Peripheral) : Nat :=
      if peripheral = .rtc then 3 else if peripheral = .uart 1 then 15 else 24
    let table : VectorTable := ⟨[(3, .rtc), (15, .uart 1), (24, .uart 0), (24, .gpio)]⟩
    let apart (peripheral : Peripheral) : Nat :=
      if peripheral = .gpio then 4294967295 else if peripheral = .rtc then 7
      else if peripheral = .uart 0 then 9 else 0
    (table ≠ ofNumbering shared ∧ table.Arranges shared ∧
      table.entries.filter (·.2 = .gpio) = [(24, .gpio)] ∧ table.number (.uart 0) = 24 ∧
      table.find? 24 ≠ none ∧ table.find? 16 = none) ∧
    (ofNumbering apart).Arranges apart ∧ (∀ a b, apart a = apart b → a = b) ∧
      (ofNumbering apart).find? 4294967295 = some .gpio ∧
      (ofNumbering apart).find? 0 = some (.uart 1) := by
  intro shared table apart
  have other : table ≠ ofNumbering shared := by decide
  have arranges : table.Arranges shared := ⟨by decide, by decide⟩
  obtain ⟨once, _, numbered, unlisted, _, _⟩ := (numbering_tabulated shared).2 table arranges
  have none : table.find? 16 = none := by
    refine (unlisted 16).2 fun peripheral => ?_
    have apart : ∀ p ∈ Peripheral.all, shared p ≠ 16 := by decide
    exact apart peripheral (Peripheral.mem_all peripheral)
  have distinct (a b : Peripheral) (same : apart a = apart b) : a = b := by
    have differ : ∀ a ∈ Peripheral.all, ∀ b ∈ Peripheral.all, apart a = apart b → a = b := by
      decide
    exact differ a (Peripheral.mem_all a) b (Peripheral.mem_all b) same
  obtain ⟨ordered, tabulated⟩ := numbering_tabulated apart
  obtain ⟨_, _, _, _, _, inverse⟩ := tabulated (ofNumbering apart) ordered
  refine ⟨⟨other, arranges, once .gpio, numbered (.uart 0), ?_, none⟩, ordered, distinct,
    ((inverse distinct).2 _ _).2 rfl, ((inverse distinct).2 _ _).2 rfl⟩
  exact fun none => (unlisted 24).1 none .gpio rfl

end VectorTable

end Interrupts
