import Interrupts.Source

/-! # The vector table

Every peripheral owns one interrupt vector. The table lists the peripherals by
ascending vector number; it is what turns a vector number into the peripheral to
serve, and a source into the vector to unmask.
-/

namespace Interrupts

/-- Vector numbers and their peripherals, by ascending number. -/
structure VectorTable where
  entries : List (Nat × Peripheral)
deriving DecidableEq

namespace VectorTable

/-- Puts an entry before the first one of the same or a larger number. -/
def insert (entry : Nat × Peripheral) : List (Nat × Peripheral) → List (Nat × Peripheral)
  | [] => [entry]
  | first :: rest =>
      if entry.1 ≤ first.1 then entry :: first :: rest else first :: insert entry rest

def ofNumbering (number : Peripheral → Nat) : VectorTable :=
  ⟨(Peripheral.all.map fun peripheral => (number peripheral, peripheral)).foldr insert []⟩

/-- Halves the entries until at most one is left. Of ascending entries that is the last one whose
number is not larger than `n`, or the first one if all numbers are. -/
def search (n : Nat) (entries : List (Nat × Peripheral)) : Option (Nat × Peripheral) :=
  if entries.length ≤ 1 then entries.head?
  else
    let half := entries.length / 2
    let upper := entries.drop half
    if upper.head?.any (n < ·.1) then search n (entries.take (entries.length - half))
    else search n upper
termination_by entries.length

/-- The owner of vector `n`; one of them if several peripherals share the number. -/
def find? (table : VectorTable) (n : Nat) : Option Peripheral :=
  ((search n table.entries).filter (·.1 == n)).map (·.2)

/-- The vector number of `peripheral`; zero if the table does not list it. -/
def number (table : VectorTable) (peripheral : Peripheral) : Nat :=
  ((table.entries.find? fun entry => entry.2 == peripheral).map (·.1)).getD 0

def text (table : VectorTable) : String :=
  Text.labelled "VectorTable"
    [("entries", Text.sequence (table.entries.map fun entry =>
      Text.tagged "" [toString entry.1, entry.2.text]))]

/-! ## Sorting the entries -/

theorem mem_insert {entry other : Nat × Peripheral} {entries : List (Nat × Peripheral)} :
    other ∈ insert entry entries ↔ other = entry ∨ other ∈ entries := by
  induction entries with
  | nil => simp [insert]
  | cons first rest ih =>
      unfold insert
      split
      · simp
      · simp only [List.mem_cons, ih]
        constructor
        · rintro (h | h | h) <;> simp [h]
        · rintro (h | h | h) <;> simp [h]

theorem insert_perm (entry : Nat × Peripheral) (entries : List (Nat × Peripheral)) :
    (insert entry entries).Perm (entry :: entries) := by
  induction entries with
  | nil => exact .refl _
  | cons first rest ih =>
      unfold insert
      split
      · exact .refl _
      · exact (ih.cons first).trans (.swap entry first rest)

theorem foldr_insert_perm (entries : List (Nat × Peripheral)) :
    (entries.foldr insert []).Perm entries := by
  induction entries with
  | nil => exact .refl _
  | cons first rest ih => exact (insert_perm first _).trans (ih.cons first)

theorem sorted_insert {entry : Nat × Peripheral} {entries : List (Nat × Peripheral)}
    (h : entries.Pairwise fun a b => a.1 ≤ b.1) :
    (insert entry entries).Pairwise fun a b => a.1 ≤ b.1 := by
  induction entries with
  | nil => simp [insert]
  | cons first rest ih =>
      rw [List.pairwise_cons] at h
      unfold insert
      split
      next hle =>
        rw [List.pairwise_cons]
        refine ⟨fun b hb => ?_, List.pairwise_cons.2 h⟩
        rcases List.mem_cons.1 hb with rfl | hb
        · exact hle
        · exact Nat.le_trans hle (h.1 b hb)
      next hlt =>
        rw [List.pairwise_cons]
        refine ⟨fun b hb => ?_, ih h.2⟩
        rcases mem_insert.1 hb with rfl | hb
        · omega
        · exact h.1 b hb

/-! ## Finding the owner of a vector -/

theorem mem_of_search {n : Nat} {entries : List (Nat × Peripheral)} {entry : Nat × Peripheral}
    (found : search n entries = some entry) : entry ∈ entries := by
  fun_induction search n entries with
  | case1 entries short => exact List.mem_of_head? found
  | case2 entries long half upper above ih => exact List.mem_of_mem_take (ih found)
  | case3 entries long half upper notAbove ih => exact List.mem_of_mem_drop (ih found)

section

variable {n : Nat} {lower rest : List (Nat × Peripheral)} {first entry : Nat × Peripheral}
  (sorted : (lower ++ first :: rest).Pairwise fun a b => a.1 ≤ b.1)

include sorted

/-- If the upper half begins above the number that is sought, it lies in the lower half. -/
theorem mem_lower (above : n < first.1) (member : entry ∈ lower ++ first :: rest)
    (same : entry.1 = n) : entry ∈ lower := by
  have ordered := List.pairwise_cons.1 (List.pairwise_append.1 sorted).2.1
  rcases List.mem_append.1 member with inLower | inUpper
  · exact inLower
  · rcases List.mem_cons.1 inUpper with rfl | later
    · omega
    · have := ordered.1 entry later
      omega

theorem exists_upper (notAbove : first.1 ≤ n) (member : entry ∈ lower ++ first :: rest)
    (same : entry.1 = n) : ∃ other ∈ first :: rest, other.1 = n := by
  rcases List.mem_append.1 member with inLower | inUpper
  · have := (List.pairwise_append.1 sorted).2.2 entry inLower first List.mem_cons_self
    exact ⟨first, List.mem_cons_self, by omega⟩
  · exact ⟨entry, inUpper, same⟩

end

/-- The search among ascending entries ends with the number that is sought if it is there. -/
theorem search_of_mem {n : Nat} {entries : List (Nat × Peripheral)}
    (sorted : entries.Pairwise fun a b => a.1 ≤ b.1) (listed : ∃ entry ∈ entries, entry.1 = n) :
    ∃ entry, search n entries = some entry ∧ entry.1 = n := by
  fun_induction search n entries with
  | case1 entries short =>
      obtain ⟨entry, member, same⟩ := listed
      cases entries with
      | nil => simp at member
      | cons first rest =>
          obtain rfl : rest = [] := by simpa using short
          obtain rfl : entry = first := by simpa using member
          exact ⟨entry, rfl, same⟩
  | case2 entries long half upper above ih =>
      obtain ⟨entry, member, same⟩ := listed
      have halves : entries.take half ++ upper = entries := List.take_append_drop half entries
      apply ih (sorted.sublist (List.take_sublist _ _))
      cases shape : upper with
      | nil => simp [shape] at above
      | cons first rest =>
          rw [shape] at halves above
          have larger : n < first.1 := by simpa using above
          have inLower : entry ∈ entries.take half :=
            mem_lower (by rwa [halves]) larger (by rwa [halves]) same
          have shorter : half ≤ entries.length - half := by omega
          exact ⟨entry, List.take_subset_take_left entries shorter inLower, same⟩
  | case3 entries long half upper notAbove ih =>
      obtain ⟨entry, member, same⟩ := listed
      have halves : entries.take half ++ upper = entries := List.take_append_drop half entries
      apply ih (sorted.sublist (List.drop_sublist _ _))
      cases shape : upper with
      | nil =>
          have none : upper.length = 0 := by rw [shape]; rfl
          simp only [upper, half, List.length_drop] at none
          omega
      | cons first rest =>
          rw [shape] at halves notAbove
          have notLarger : first.1 ≤ n := by simpa using notAbove
          exact exists_upper (by rwa [halves]) notLarger (by rwa [halves]) same

theorem mem_of_find? {table : VectorTable} {n : Nat} {peripheral : Peripheral}
    (found : table.find? n = some peripheral) : (n, peripheral) ∈ table.entries := by
  obtain ⟨entry, searched, rfl⟩ := Option.map_eq_some_iff.1 found
  obtain ⟨ended, same⟩ := Option.filter_eq_some_iff.1 searched
  obtain rfl : entry.1 = n := by simpa using same
  exact mem_of_search ended

theorem find?_eq_none_iff {table : VectorTable} {n : Nat}
    (sorted : table.entries.Pairwise fun a b => a.1 ≤ b.1) :
    table.find? n = none ↔ ∀ entry ∈ table.entries, entry.1 ≠ n := by
  constructor
  · intro none entry member same
    obtain ⟨found, searched, numbered⟩ := search_of_mem sorted ⟨entry, member, same⟩
    simp [find?, searched, numbered] at none
  · intro free
    cases found : table.find? n with
    | none => rfl
    | some peripheral => exact absurd rfl (free _ (mem_of_find? found))

/-! ## Tables of a numbering -/

/-- The table lists every peripheral under its number, by ascending number. Peripherals that share
a number may be listed in any order. -/
structure Arranges (table : VectorTable) (number : Peripheral → Nat) : Prop where
  perm : table.entries.Perm (Peripheral.all.map fun peripheral => (number peripheral, peripheral))
  sorted : table.entries.Pairwise fun a b => a.1 ≤ b.1

theorem arranges_ofNumbering (number : Peripheral → Nat) :
    (ofNumbering number).Arranges number where
  perm := foldr_insert_perm _
  sorted := by
    unfold ofNumbering
    generalize Peripheral.all.map _ = entries
    induction entries with
    | nil => exact List.Pairwise.nil
    | cons first rest ih => exact sorted_insert ih

namespace Arranges

variable {table : VectorTable} {number : Peripheral → Nat} (arranges : table.Arranges number)

include arranges

theorem mem_iff {entry : Nat × Peripheral} :
    entry ∈ table.entries ↔ entry.1 = number entry.2 := by
  rw [arranges.perm.mem_iff, List.mem_map]
  constructor
  · rintro ⟨peripheral, _, rfl⟩
    rfl
  · intro h
    exact ⟨entry.2, Peripheral.mem_all entry.2, by rw [← h]⟩

theorem nodup : table.entries.Nodup := by
  refine arranges.perm.nodup_iff.2 (List.pairwise_map.2 ?_)
  have apart : Peripheral.all.Nodup := by decide
  exact apart.imp fun differs same => differs (congrArg Prod.snd same)

theorem number_eq (peripheral : Peripheral) : table.number peripheral = number peripheral := by
  have listed : (number peripheral, peripheral) ∈ table.entries := arranges.mem_iff.2 rfl
  unfold VectorTable.number
  cases found : table.entries.find? fun entry => entry.2 == peripheral with
  | none => simpa using List.find?_eq_none.1 found _ listed
  | some entry =>
      have same : entry.2 = peripheral := by simpa using List.find?_some found
      have numbered := arranges.mem_iff.1 (List.mem_of_find?_eq_some found)
      rw [same] at numbered
      exact numbered

theorem number_of_find? {n : Nat} {peripheral : Peripheral}
    (found : table.find? n = some peripheral) : number peripheral = n :=
  (arranges.mem_iff.1 (mem_of_find? found)).symm

theorem find?_eq_none_iff {n : Nat} :
    table.find? n = none ↔ ∀ peripheral, number peripheral ≠ n := by
  rw [VectorTable.find?_eq_none_iff arranges.sorted]
  constructor
  · intro free peripheral
    exact free (number peripheral, peripheral) (arranges.mem_iff.2 rfl)
  · intro free entry listed same
    exact free entry.2 ((arranges.mem_iff.1 listed).symm.trans same)

section

variable (distinct : ∀ a b, number a = number b → a = b)

include distinct

/-- If no two peripherals share a number, the table finds the owner of each. -/
theorem find?_eq_some_iff {n : Nat} {peripheral : Peripheral} :
    table.find? n = some peripheral ↔ number peripheral = n := by
  constructor
  · exact arranges.number_of_find?
  · intro numbered
    cases found : table.find? n with
    | none => exact absurd numbered (arranges.find?_eq_none_iff.1 found peripheral)
    | some other =>
        have same := (arranges.number_of_find? found).trans numbered.symm
        exact congrArg some (distinct _ _ same)

theorem ascending : table.entries.Pairwise fun a b => a.1 < b.1 := by
  refine (arranges.sorted.and arranges.nodup).imp_of_mem ?_
  intro a b ha hb both
  refine Nat.lt_of_le_of_ne both.1 fun same => both.2 ?_
  have owner : a.2 = b.2 :=
    distinct _ _ ((arranges.mem_iff.1 ha).symm.trans (same.trans (arranges.mem_iff.1 hb)))
  exact Prod.ext same owner

end

end Arranges

/-! ## The table of a board -/

theorem mem_ofNumbering {number : Peripheral → Nat} {entry : Nat × Peripheral} :
    entry ∈ (ofNumbering number).entries ↔ entry.1 = number entry.2 :=
  (arranges_ofNumbering number).mem_iff

theorem number_ofNumbering (number : Peripheral → Nat) (peripheral : Peripheral) :
    (ofNumbering number).number peripheral = number peripheral :=
  (arranges_ofNumbering number).number_eq peripheral

theorem sorted_ofNumbering (number : Peripheral → Nat) :
    (ofNumbering number).entries.Pairwise fun a b => a.1 ≤ b.1 :=
  (arranges_ofNumbering number).sorted

theorem ascending_ofNumbering {number : Peripheral → Nat}
    (distinct : ∀ a b, number a = number b → a = b) :
    (ofNumbering number).entries.Pairwise fun a b => a.1 < b.1 :=
  (arranges_ofNumbering number).ascending distinct

theorem find?_ofNumbering {number : Peripheral → Nat}
    (distinct : ∀ a b, number a = number b → a = b) (peripheral : Peripheral) :
    (ofNumbering number).find? (number peripheral) = some peripheral :=
  ((arranges_ofNumbering number).find?_eq_some_iff distinct).2 rfl

theorem find?_ofNumbering_eq_none {number : Peripheral → Nat} {n : Nat}
    (free : ∀ peripheral, number peripheral ≠ n) : (ofNumbering number).find? n = none :=
  (arranges_ofNumbering number).find?_eq_none_iff.2 free

end VectorTable

end Interrupts
