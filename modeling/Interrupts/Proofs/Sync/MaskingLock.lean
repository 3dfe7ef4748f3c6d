import Interrupts.Sync.MaskingLock

/-! # How long guards keep interrupts masked

Several locks share one masking depth, and each guard sets it back to what it found. So the depth
at any moment is that of the guard that was dropped or taken last, whichever guards are live. If
guards are dropped in the reverse order of their taking, the depth counts the live guards. In
other orders interrupts stay masked exactly as long as the guard that was taken first, at the depth
of the outside, outlives the others; if it is dropped before them, interrupts are unmasked under
live guards, and the last guard to go leaves them masked.
-/

namespace Interrupts

namespace MaskingLocks

variable {α : Type}

/-! ## Runs -/

/-- What the context does with its locks; it updates a value through the live guard. -/
inductive Move (α : Type) where
  | acquire (i : Nat)
  | update (i : Nat) (f : α → α)
  | release (i : Nat)

/-- There is no answer if the move takes a lock that is taken or needs a guard that is not live. -/
def step? (state : MaskingLocks α) : Move α → Option (MaskingLocks α)
  | .acquire i => (state.acquire? i).map (·.2)
  | .update i f => (state.update? i f).map (·.2)
  | .release i => (state.release? i).map (·.2)

def run? (state : MaskingLocks α) (moves : List (Move α)) : Option (MaskingLocks α) :=
  moves.foldlM step? state

def guard? (state : MaskingLocks α) (i : Nat) : Option Nat := (state.lock? i).bind (·.guard)

def Free (state : MaskingLocks α) : Prop :=
  ∀ i lock, state.lock? i = some lock → lock.taken = false ∧ lock.guard = none

/-- A lock is marked as taken exactly while its guard is live. -/
def Marked (state : MaskingLocks α) : Prop :=
  ∀ i lock, state.lock? i = some lock → (lock.taken = true ↔ lock.guard.isSome = true)

def Masked (depth : Nat) (state : MaskingLocks α) : Prop :=
  ((∃ i, state.guard? i ≠ none) → depth < state.depth) ∧
    ((∀ i, state.guard? i = none) → state.depth = depth)

/-! ## What a move does -/

theorem lock?_put (state : MaskingLocks α) {i : Nat} {lock : MaskingLock α}
    (there : state.lock? i = some lock) (j : Nat) (new : MaskingLock α) :
    (state.put i new).lock? j = if j = i then some new else state.lock? j := by
  have inside : i < state.locks.length := (List.getElem?_eq_some_iff.1 there).choose
  unfold put lock?
  by_cases same : j = i
  · subst same
    simp [inside]
  · simp [same, Ne.symm same]

theorem guard?_put (state : MaskingLocks α) {i : Nat} {lock : MaskingLock α}
    (there : state.lock? i = some lock) (j : Nat) (new : MaskingLock α) :
    (state.put i new).guard? j = if j = i then new.guard else state.guard? j := by
  unfold guard?
  rw [lock?_put state there]
  by_cases same : j = i <;> simp [same]

theorem Marked.put {state : MaskingLocks α} (marked : state.Marked) {i : Nat}
    {lock new : MaskingLock α} (there : state.lock? i = some lock)
    (correct : new.taken = true ↔ new.guard.isSome = true) : (state.put i new).Marked := by
  intro j other given
  rw [lock?_put state there] at given
  by_cases same : j = i
  · rw [if_pos same] at given
    cases given
    exact correct
  · rw [if_neg same] at given
    exact marked j other given

/-- What a move does to the guards, to the depth, and to the marks. -/
inductive Moves (state : MaskingLocks α) : Move α → MaskingLocks α → Prop where
  | acquire {i : Nat} {next : MaskingLocks α} (fresh : state.guard? i = none)
      (guards : ∀ j, next.guard? j = if j = i then some state.depth else state.guard? j)
      (depth : next.depth = state.depth + 1) (marked : next.Marked) :
      Moves state (.acquire i) next
  | update {i : Nat} {f : α → α} {next : MaskingLocks α}
      (guards : ∀ j, next.guard? j = state.guard? j)
      (depth : next.depth = state.depth) (marked : next.Marked) :
      Moves state (.update i f) next
  | release {i depth : Nat} {next : MaskingLocks α} (live : state.guard? i = some depth)
      (guards : ∀ j, next.guard? j = if j = i then none else state.guard? j)
      (restored : next.depth = depth) (marked : next.Marked) :
      Moves state (.release i) next

theorem moves_of_step {state next : MaskingLocks α} {move : Move α} (marked : state.Marked)
    (stepped : state.step? move = some next) : state.Moves move next := by
  cases move with
  | acquire i =>
      obtain ⟨answer, acquired, rfl⟩ := Option.map_eq_some_iff.1 stepped
      obtain ⟨lock, there, taken⟩ := Option.bind_eq_some_iff.1 acquired
      split at taken
      · cases taken
      · rename_i free
        cases taken
        have none : lock.guard = none := by
          have := marked i lock there
          simp_all
        refine .acquire ?_ (fun j => ?_) rfl ?_
        · simp [guard?, there, none]
        · exact guard?_put { state with depth := state.depth + 1 } there j _
        · have deeper : Marked { state with depth := state.depth + 1 } := marked
          exact deeper.put there (by simp)
  | update i f =>
      obtain ⟨answer, updated, rfl⟩ := Option.map_eq_some_iff.1 stepped
      obtain ⟨lock, there, through⟩ := Option.bind_eq_some_iff.1 updated
      split at through
      · cases through
        refine .update (fun j => ?_) rfl (marked.put there (marked i lock there))
        rw [guard?_put state there]
        by_cases same : j = i
        · simp [same, guard?, there]
        · simp [same]
      · cases through
  | release i =>
      obtain ⟨answer, released, rfl⟩ := Option.map_eq_some_iff.1 stepped
      obtain ⟨lock, there, dropped⟩ := Option.bind_eq_some_iff.1 released
      obtain ⟨depth, remembered, restored⟩ := Option.bind_eq_some_iff.1 dropped
      cases restored
      have live : state.guard? i = some depth := by simp [guard?, there, remembered]
      refine .release live (fun j => ?_) rfl ?_
      · exact guard?_put state there j _
      · exact marked.put there (by simp)

/-! ## Along a run -/

theorem run?_cons (state : MaskingLocks α) (move : Move α) (moves : List (Move α)) :
    state.run? (move :: moves) = (state.step? move).bind (·.run? moves) := by
  simp [run?, List.foldlM_cons]

theorem run?_append (state : MaskingLocks α) (first second : List (Move α)) :
    state.run? (first ++ second) = (state.run? first).bind (·.run? second) := by
  simp [run?, List.foldlM_append]

/-- What each move of a run keeps holds whenever a part of the run has been made. The moves may be
told apart by where they stand in the run. -/
theorem holds_along {property : MaskingLocks α → Prop} {start : MaskingLocks α}
    {moves : List (Move α)} (holds : property start)
    (keeps : ∀ made move state next, made ++ [move] <+: moves → start.run? made = some state →
      state.step? move = some next → property state → property next) :
    ∀ made state, made <+: moves → start.run? made = some state → property state := by
  intro made
  induction made generalizing start moves with
  | nil =>
      rintro state _ ran
      cases ran
      exact holds
  | cons move made ih =>
      rintro state ⟨rest, rfl⟩ ran
      rw [run?_cons] at ran
      obtain ⟨next, stepped, ran⟩ := Option.bind_eq_some_iff.1 ran
      have first : [] ++ [move] <+: move :: made ++ rest := ⟨made ++ rest, rfl⟩
      have kept := keeps [] move start next first rfl stepped holds
      refine ih kept (fun earlier later s t isPart ran' => ?_) state
        (List.prefix_append made rest) ran
      apply keeps (move :: earlier) later s t
      · obtain ⟨left, split⟩ := isPart
        exact ⟨left, by simp [← split]⟩
      · rw [run?_cons, stepped]
        exact ran'

theorem exists_release {state : MaskingLocks α} {i depth : Nat}
    (live : state.guard? i = some depth) : ∃ next, state.step? (.release i) = some next := by
  obtain ⟨lock, there, remembered⟩ := Option.bind_eq_some_iff.1 live
  exact ⟨_, by simp [step?, release?, there, remembered]; rfl⟩

theorem Free.marked {state : MaskingLocks α} (free : state.Free) : state.Marked := by
  intro i lock there
  have := free i lock there
  simp [this]

theorem Free.guard?_eq_none {state : MaskingLocks α} (free : state.Free) (i : Nat) :
    state.guard? i = none := by
  unfold guard?
  cases there : state.lock? i with
  | none => rfl
  | some lock => exact (free i lock there).2

/-- In any order of taking and dropping the marks are right, and neither the depth nor what any
guard remembers falls below the depth of the outside. -/
structure Sound (depth : Nat) (state : MaskingLocks α) : Prop where
  marked : state.Marked
  least : depth ≤ state.depth
  remembered : ∀ i d, state.guard? i = some d → depth ≤ d

theorem Sound.step {depth : Nat} {state next : MaskingLocks α} {move : Move α}
    (sound : Sound depth state) (moves : state.Moves move next) : Sound depth next := by
  obtain ⟨_, least, remembered⟩ := sound
  cases moves with
  | acquire fresh guards deeper marked =>
      refine ⟨marked, by omega, fun j d given => ?_⟩
      rw [guards] at given
      split at given
      · cases given
        exact least
      · exact remembered j d given
  | update guards same marked =>
      exact ⟨marked, by omega, fun j d given => remembered j d (guards j ▸ given)⟩
  | release live guards restored marked =>
      refine ⟨marked, restored ▸ remembered _ _ live, fun j d given => ?_⟩
      rw [guards] at given
      split at given
      · cases given
      · exact remembered j d given

theorem Free.sound {start : MaskingLocks α} (free : start.Free) : Sound start.depth start where
  marked := free.marked
  least := Nat.le_refl _
  remembered i d given := by simp [free.guard?_eq_none] at given

theorem sound_along {start : MaskingLocks α} (free : start.Free) {moves : List (Move α)} :
    ∀ made state, made <+: moves → start.run? made = some state → Sound start.depth state :=
  holds_along free.sound fun _ _ _ _ _ _ stepped sound =>
    sound.step (moves_of_step sound.marked stepped)

/-! ## Dropping the outermost guard last -/

/-- Interrupts are masked as they should be, and as long as any guard is live, so is one that
remembers the depth of the outside. -/
structure Outermost (depth : Nat) (state : MaskingLocks α) : Prop where
  masked : state.Masked depth
  kept : (∃ i, state.guard? i ≠ none) → ∃ i, state.guard? i = some depth

/-- A move keeps this if it does not drop a guard that remembers the depth of the outside while
another guard is live. -/
theorem Outermost.step {depth : Nat} {state next : MaskingLocks α} {move : Move α}
    (outermost : Outermost depth state) (sound : Sound depth state)
    (moves : state.Moves move next)
    (last : ∀ i, move = .release i → state.guard? i = some depth →
      ∀ j, j ≠ i → state.guard? j = none) : Outermost depth next := by
  obtain ⟨⟨deeper, back⟩, kept⟩ := outermost
  cases moves with
  | @acquire i _ fresh guards down marked =>
      have live : next.guard? i = some state.depth := by rw [guards, if_pos rfl]
      have outer : ∃ j, next.guard? j = some depth := by
        by_cases alone : ∀ j, state.guard? j = none
        · exact ⟨i, by rw [live, back alone]⟩
        · obtain ⟨j, held⟩ := kept (Classical.not_forall.1 alone)
          have other : j ≠ i := by
            rintro rfl
            simp [fresh] at held
          exact ⟨j, by rw [guards, if_neg other, held]⟩
      refine ⟨⟨fun _ => ?_, fun none => ?_⟩, fun _ => outer⟩
      · have := sound.least
        omega
      · simp [none i] at live
  | update guards same marked =>
      simp only [← guards, ← same] at deeper back kept
      exact ⟨⟨deeper, back⟩, kept⟩
  | @release i d _ live guards restored marked =>
      by_cases outer : d = depth
      · -- the outermost guard goes, and by `last` no other is left
        subst outer
        have gone (j : Nat) : next.guard? j = none := by
          rw [guards]
          by_cases same : j = i
          · rw [if_pos same]
          · rw [if_neg same, last i rfl live j same]
        exact ⟨⟨fun ⟨j, held⟩ => absurd (gone j) held, fun _ => restored⟩,
          fun ⟨j, held⟩ => absurd (gone j) held⟩
      · -- an inner guard goes, and the outermost one stays
        obtain ⟨j, held⟩ := kept ⟨i, by simp [live]⟩
        have other : j ≠ i := by
          rintro rfl
          rw [live] at held
          exact outer (Option.some.inj held)
        have stays : next.guard? j = some depth := by rw [guards, if_neg other, held]
        refine ⟨⟨fun _ => ?_, fun none => ?_⟩, fun _ => ⟨j, stays⟩⟩
        · have := sound.remembered i d live
          omega
        · simp [none j] at stays

/-- Interrupts stay masked along a run exactly if no guard that remembers the depth of the outside
is dropped while another is live. -/
theorem masked_along_iff {start : MaskingLocks α} (free : start.Free) (moves : List (Move α)) :
    (∀ made state, made <+: moves → start.run? made = some state → state.Masked start.depth) ↔
      ∀ made i state, made ++ [.release i] <+: moves → start.run? made = some state →
        state.guard? i = some start.depth → ∀ j, j ≠ i → state.guard? j = none := by
  constructor
  · intro masked made i state isPart ran live j other
    have sound := sound_along free made state ((List.prefix_append _ _).trans isPart) ran
    obtain ⟨next, stepped⟩ := exists_release live
    have ran' : start.run? (made ++ [.release i]) = some next := by
      rw [run?_append, ran]
      simp [run?, stepped]
    obtain ⟨deeper, _⟩ := masked _ next isPart ran'
    cases moves_of_step sound.marked stepped with
    | release live' guards restored marked =>
        rw [live] at live'
        cases live'
        by_cases held : state.guard? j = none
        · exact held
        · have := deeper ⟨j, by rwa [guards, if_neg other]⟩
          omega
  · intro last
    have initially : Outermost start.depth start :=
      ⟨⟨fun ⟨i, held⟩ => absurd (free.guard?_eq_none i) held, fun _ => rfl⟩,
        fun ⟨i, held⟩ => absurd (free.guard?_eq_none i) held⟩
    have along : ∀ made state, made <+: moves → start.run? made = some state →
        Sound start.depth state ∧ Outermost start.depth state := by
      refine holds_along ⟨free.sound, initially⟩ ?_
      intro made move state next isPart ran stepped both
      have moves := moves_of_step both.1.marked stepped
      refine ⟨both.1.step moves, both.2.step both.1 moves ?_⟩
      rintro i rfl
      exact last made i state isPart ran
    exact fun made state isPart ran => (along made state isPart ran).2.masked

/-! ## Dropping guards in the reverse order of their taking -/

/-- The locks whose guards are live after the moves, the one taken last in front, if those of
`stack` were live before. There is no answer if a guard is dropped before one that was taken
later. -/
def nesting : List Nat → List (Move α) → Option (List Nat)
  | stack, [] => some stack
  | stack, .acquire i :: rest => nesting (i :: stack) rest
  | stack, .update _ _ :: rest => nesting stack rest
  | [], .release _ :: _ => none
  | top :: stack, .release i :: rest => if i = top then nesting stack rest else none

def remembered? (depth : Nat) : List Nat → Nat → Option Nat
  | [], _ => none
  | top :: stack, i => if i = top then some (depth + stack.length) else remembered? depth stack i

theorem isSome_remembered? (depth : Nat) (stack : List Nat) (i : Nat) :
    (remembered? depth stack i).isSome = true ↔ i ∈ stack := by
  induction stack with
  | nil => simp [remembered?]
  | cons top stack ih => by_cases same : i = top <;> simp [remembered?, same, ih]

structure Nested (depth : Nat) (stack : List Nat) (state : MaskingLocks α) : Prop where
  marked : state.Marked
  guards : ∀ i, state.guard? i = remembered? depth stack i
  distinct : stack.Nodup
  counted : state.depth = depth + stack.length

theorem Nested.run {depth : Nat} {moves : List (Move α)} {stack left : List Nat}
    {state final : MaskingLocks α} (nested : Nested depth stack state)
    (ordered : nesting stack moves = some left) (ran : state.run? moves = some final) :
    Nested depth left final := by
  induction moves generalizing stack state with
  | nil =>
      cases ordered
      cases ran
      exact nested
  | cons move moves ih =>
      rw [run?_cons] at ran
      obtain ⟨next, stepped, onward⟩ := Option.bind_eq_some_iff.1 ran
      obtain ⟨marked, remembers, distinct, counted⟩ := nested
      cases moves_of_step marked stepped with
      | @acquire i _ fresh guards deeper marked =>
          have new : i ∉ stack := by
            rw [← isSome_remembered? depth, ← remembers, fresh]
            simp
          refine ih ⟨marked, fun j => ?_, List.nodup_cons.2 ⟨new, distinct⟩, ?_⟩ ordered onward
          · rw [guards, remembered?, counted, remembers]
          · simp [deeper, counted]
            omega
      | update guards same marked =>
          refine ih ⟨marked, fun j => ?_, distinct, same.trans counted⟩ ordered onward
          rw [guards, remembers]
      | @release i _ _ live guards restored marked =>
          -- Only the top may be dropped, and what it remembers is the depth of the rest.
          cases stack with
          | nil => cases ordered
          | cons top stack =>
              unfold nesting at ordered
              split at ordered
              · rename_i same
                subst same
                obtain ⟨new, distinct⟩ := List.nodup_cons.1 distinct
                rw [remembers, remembered?, if_pos rfl] at live
                cases live
                refine ih ⟨marked, fun j => ?_, distinct, restored⟩ ordered onward
                rw [guards, remembers, remembered?]
                by_cases same : j = i
                · rw [← isSome_remembered? depth] at new
                  simp_all
                · simp [same]
              · cases ordered

theorem Free.nested {start : MaskingLocks α} (free : start.Free) : Nested start.depth [] start where
  marked := free.marked
  guards := free.guard?_eq_none
  distinct := List.nodup_nil
  counted := rfl

/-- From locks that are all free, whatever is taken and dropped in whatever order: a lock is marked
as taken exactly while its guard is live, and the depth does not fall below that of the outside.
It is deeper than the outside exactly while guards are live, all along a run, if and only if no
guard that remembers the depth of the outside is dropped while another is live. If each guard is
dropped before those that were taken earlier, the depth counts the live guards. -/
theorem masked_while_outermost_lives {start : MaskingLocks α} (free : start.Free)
    (moves : List (Move α)) :
    (∀ made state, made <+: moves → start.run? made = some state →
      state.Marked ∧ start.depth ≤ state.depth) ∧
    ((∀ made state, made <+: moves → start.run? made = some state →
        state.Masked start.depth) ↔
      ∀ made i state, made ++ [.release i] <+: moves → start.run? made = some state →
        state.guard? i = some start.depth → ∀ j, j ≠ i → state.guard? j = none) ∧
    ∀ stack final, nesting [] moves = some stack → start.run? moves = some final →
      (∀ i, (final.guard? i).isSome = true ↔ i ∈ stack) ∧ stack.Nodup ∧
        final.depth = start.depth + stack.length := by
  refine ⟨fun made state isPart ran => ?_, masked_along_iff free moves, ?_⟩
  · have sound := sound_along free made state isPart ran
    exact ⟨sound.marked, sound.least⟩
  · intro stack final ordered ran
    have nested := free.nested.run ordered ran
    refine ⟨fun i => ?_, nested.distinct, nested.counted⟩
    rw [nested.guards, isSome_remembered?]

/-- Three locks, taken in turn; the middle guard is dropped first and the first one last, which is
not the reverse order, and interrupts are masked throughout. Then two locks in the reverse order. -/
theorem masked_while_outermost_lives_inner :
    let start : MaskingLocks Nat := free [10, 20, 30]
    let moves : List (Move Nat) :=
      [.acquire 0, .acquire 1, .acquire 2, .release 1, .update 2 (· + 1), .release 2, .release 0]
    let inner : List (Move Nat) := [.acquire 2, .acquire 0, .release 0]
    start.Free ∧ nesting [] moves = none ∧
      (∀ made state, made <+: moves → start.run? made = some state → state.Masked 0) ∧
      nesting [] inner = some [2] ∧
      ∃ final, start.run? inner = some final ∧ final.depth = 1 := by
  intro start moves inner
  have free : start.Free := by
    intro i lock there
    rcases i with _ | _ | _ | i <;> cases there <;> exact ⟨rfl, rfl⟩
  have last (made : List (Move Nat)) (i : Nat) (state : MaskingLocks Nat)
      (isPart : made ++ [.release i] <+: moves) (ran : start.run? made = some state)
      (live : state.guard? i = some 0) (j : Nat) (other : j ≠ i) : state.guard? j = none := by
    obtain ⟨rest, split⟩ := isPart
    rcases made with _ | ⟨_, _ | ⟨_, _ | ⟨_, _ | ⟨_, _ | ⟨_, _ | ⟨_, _ | ⟨_, made⟩⟩⟩⟩⟩⟩⟩ <;>
      simp [moves] at split
    · obtain ⟨rfl, rfl, rfl, rfl, _⟩ := split
      cases ran
      exact absurd live (by decide)
    · obtain ⟨rfl, rfl, rfl, rfl, rfl, rfl, _⟩ := split
      cases ran
      exact absurd live (by decide)
    · obtain ⟨rfl, rfl, rfl, rfl, rfl, rfl, rfl, _⟩ := split
      cases ran
      rcases j with _ | _ | _ | j
      · exact absurd rfl other
      all_goals rfl
  have law := masked_while_outermost_lives free moves
  have ordered := masked_while_outermost_lives free inner
  refine ⟨free, rfl, law.2.1.2 last, rfl, _, rfl, (ordered.2.2 [2] _ rfl rfl).2.2⟩

/-- Two locks are taken, and the guard that was taken first is dropped first: interrupts are
unmasked under the other guard, and stay masked when both are gone. -/
theorem overlapping_guards_unmask :
    let start : MaskingLocks Nat := free [10, 20]
    let moves : List (Move Nat) := [.acquire 0, .acquire 1, .release 0]
    start.Free ∧
      (∃ state, start.run? moves = some state ∧ state.guard? 1 = some 1 ∧ state.depth = 0) ∧
      ∃ state, start.run? (moves ++ [.release 1]) = some state ∧ (∀ i, state.guard? i = none) ∧
        state.depth = 1 := by
  intro start moves
  have free : start.Free := by
    intro i lock there
    rcases i with _ | _ | i <;> cases there <;> exact ⟨rfl, rfl⟩
  refine ⟨free, ⟨_, rfl, rfl, rfl⟩, _, rfl, fun i => ?_, rfl⟩
  rcases i with _ | _ | i <;> rfl

end MaskingLocks

end Interrupts
