import Interrupts.Sync.SpinLock

/-! # Mutual exclusion by the spin lock

However the steps of the contexts are interleaved, the flag of the lock is taken exactly while one
context is inside, so an attempt succeeds exactly if nobody is. A run is then a list of stays
inside the lock, one after the other. Only the context that stays writes the value, so every stay
begins with the value with which the one before it has ended.
-/

namespace Interrupts

namespace SpinLock

variable {α : Type}

theorem holds_iff {lock : SpinLock α} {context : Nat} :
    lock.holds context = true ↔ lock.phase context = .inside := by
  simp [holds]

theorem enter_inside (lock : SpinLock α) (context : Nat) (phase : Phase) (d : Nat) :
    decide (lock.enter context phase d = .inside) =
      if d = context then decide (phase = .inside) else lock.holds d := by
  by_cases same : d = context <;> simp [enter, holds, same]

def Vacant (lock : SpinLock α) : Prop := ∀ context, lock.holds context = false

/-- At most one context is inside, and the flag is taken exactly while one is. -/
structure Exclusive (lock : SpinLock α) : Prop where
  unique : ∀ a b, lock.holds a = true → lock.holds b = true → a = b
  taken_iff : lock.taken = true ↔ ∃ context, lock.holds context = true

/-! ## What a step does -/

/-- A step of a context changes nothing but where contexts wait, or lets the context in, or writes
the value from inside, or lets the context out. -/
inductive Steps (lock : SpinLock α) (context : Nat) : Move α → SpinLock α → Prop where
  | idle {move : Move α} {next : SpinLock α} (flag : next.taken = lock.taken)
      (kept : next.value = lock.value) (same : ∀ d, next.holds d = lock.holds d)
      (reads : lock.holds context = true → ∀ value, move ≠ .write value) :
      Steps lock context move next
  | enter {move : Move α} {next : SpinLock α} (free : lock.taken = false)
      (without : lock.holds context = false) (flag : next.taken = true)
      (kept : next.value = lock.value)
      (inside : ∀ d, next.holds d = (d == context || lock.holds d)) :
      Steps lock context move next
  | write {value : α} {next : SpinLock α} (within : lock.holds context = true)
      (flag : next.taken = lock.taken) (written : next.value = value)
      (same : ∀ d, next.holds d = lock.holds d) :
      Steps lock context (.write value) next
  | leave {next : SpinLock α} (within : lock.holds context = true)
      (flag : next.taken = false) (kept : next.value = lock.value)
      (outside : ∀ d, next.holds d = (d != context && lock.holds d)) :
      Steps lock context .leave next

namespace Steps

variable {lock : SpinLock α} {context : Nat} {move : Move α}

theorem unmoved (reads : lock.holds context = true → ∀ value, move ≠ .write value) :
    Steps lock context move lock :=
  .idle rfl rfl (fun _ => rfl) reads

theorem waits (phase : Phase) (without : lock.holds context = false) (out : phase ≠ .inside) :
    Steps lock context move { lock with phase := lock.enter context phase } := by
  refine .idle rfl rfl (fun d => (enter_inside lock context phase d).trans ?_) (by simp [without])
  by_cases same : d = context <;> simp [same, without, out]

theorem enters (free : lock.taken = false) (without : lock.holds context = false) :
    Steps lock context move
      { lock with taken := true, phase := lock.enter context .inside } := by
  refine .enter free without rfl rfl fun d => (enter_inside lock context .inside d).trans ?_
  by_cases same : d = context <;> simp [same]

theorem leaves (within : lock.holds context = true) :
    Steps lock context .leave
      { lock with taken := false, phase := lock.enter context .outside } := by
  refine .leave within rfl rfl fun d => (enter_inside lock context .outside d).trans ?_
  by_cases same : d = context <;> simp [same]

end Steps

theorem steps (lock : SpinLock α) (context : Nat) (move : Move α) :
    Steps lock context move (lock.step context move) := by
  by_cases within : lock.holds context = true
  · have phase := holds_iff.1 within
    cases move with
    | write value =>
        have stepped : lock.step context (.write value) = { lock with value } := by
          simp only [step, phase]
        rw [stepped]
        exact .write within rfl rfl fun _ => rfl
    | leave => simpa only [step, phase] using Steps.leaves within
    | _ => simpa only [step, phase] using Steps.unmoved fun _ value same => by cases same
  · have without : lock.holds context = false := by simpa using within
    have unmoved : Steps lock context move lock := .unmoved fun inside => absurd inside within
    cases phase : lock.phase context with
    | outside =>
        cases move with
        | want => simpa only [step, phase] using Steps.waits .wanting without (by decide)
        | tryOnce =>
            cases flag : lock.taken with
            | true => simpa [step, phase, flag] using unmoved
            | false => simpa [step, phase, flag] using Steps.enters flag without
        | _ => simpa only [step, phase] using unmoved
    | wanting =>
        cases move with
        | attempt =>
            cases flag : lock.taken with
            | true =>
                simpa [step, phase, flag] using Steps.waits .spinning without (by decide)
            | false => simpa [step, phase, flag] using Steps.enters flag without
        | _ => simpa only [step, phase] using unmoved
    | spinning =>
        cases move with
        | look =>
            cases flag : lock.taken with
            | true => simpa [step, phase, flag] using unmoved
            | false => simpa [step, phase, flag] using Steps.waits .wanting without (by decide)
        | _ => simpa only [step, phase] using unmoved
    | inside => exact absurd (holds_iff.2 phase) within

theorem Exclusive.step {lock : SpinLock α} (exclusive : lock.Exclusive) (context : Nat)
    (move : Move α) : (lock.step context move).Exclusive := by
  obtain ⟨unique, taken_iff⟩ := exclusive
  cases steps lock context move with
  | idle flag kept same reads =>
      exact ⟨fun a b => by rw [same, same]; exact unique a b, by simp only [flag, same, taken_iff]⟩
  | enter free without flag kept inside =>
      have alone (d : Nat) : lock.holds d = false := by
        by_cases within : lock.holds d = true
        · rw [taken_iff.2 ⟨d, within⟩] at free
          cases free
        · simpa using within
      refine ⟨fun a b ha hb => ?_, ?_⟩
      · simp only [inside, alone, Bool.or_false, beq_iff_eq] at ha hb
        exact ha.trans hb.symm
      · simp [flag, inside, alone]
  | write within flag written same =>
      exact ⟨fun a b => by rw [same, same]; exact unique a b, by simp only [flag, same, taken_iff]⟩
  | leave within flag kept outside =>
      have nobody (d : Nat) : (lock.step context .leave).holds d = false := by
        by_cases same : lock.holds d = true
        · simp [outside, unique d context same within]
        · simp [outside, same]
      exact ⟨fun a b ha => by simp [nobody] at ha, by simp [flag, nobody]⟩

theorem exclusive_free (value : α) : (free value).Exclusive where
  unique a b ha := by simp [holds, free] at ha
  taken_iff := by simp [holds, free]

theorem Exclusive.vacant_iff {lock : SpinLock α} (exclusive : lock.Exclusive) :
    lock.Vacant ↔ lock.taken = false := by
  rw [← Bool.not_eq_true, exclusive.taken_iff]
  simp [Vacant]

/-! ## Attempts -/

section

variable {lock : SpinLock α} (exclusive : lock.Exclusive) (context : Nat)

include exclusive

theorem Exclusive.tryOnce (outside : lock.phase context = .outside) :
    ((lock.step context .tryOnce).holds context = true ↔ lock.Vacant) ∧
      (¬ lock.Vacant → lock.step context .tryOnce = lock) := by
  rw [exclusive.vacant_iff]
  cases flag : lock.taken <;> simp [SpinLock.step, outside, flag, holds, enter]

theorem Exclusive.attempt (wanting : lock.phase context = .wanting) :
    ((lock.step context .attempt).holds context = true ↔ lock.Vacant) ∧
      (¬ lock.Vacant → (lock.step context .attempt).phase context = .spinning) := by
  rw [exclusive.vacant_iff]
  cases flag : lock.taken <;> simp [SpinLock.step, wanting, flag, holds, enter]

/-- A context that wants the lock, waiting for it already or not, gets it with its next attempt
exactly if nobody is inside. -/
theorem Exclusive.pursue (without : lock.holds context = false) :
    (lock.pursue context).holds context = true ↔ lock.Vacant := by
  rw [exclusive.vacant_iff]
  unfold SpinLock.pursue
  cases phase : lock.phase context with
  | inside => simp [holds, phase] at without
  | _ => cases flag : lock.taken <;> simp [SpinLock.step, phase, flag, holds, enter]

end

/-! ## Stays -/

/-- One stay of a context inside the lock: the value that it found on entering and the values that
it wrote, the latest first. -/
structure Stay (α : Type) where
  context : Nat
  found : α
  written : List α

def Stay.left (stay : Stay α) : α := stay.written.headD stay.found

/-- The value after all stays, the latest of which is in front. -/
def leftBy (initial : α) : List (Stay α) → α
  | [] => initial
  | stay :: _ => stay.left

def noteWrite (context : Nat) (value : α) : List (Stay α) → List (Stay α)
  | [] => []
  | stay :: earlier =>
      if stay.context = context then { stay with written := value :: stay.written } :: earlier
      else stay :: noteWrite context value earlier

/-- What a step adds to the stays: a context that comes to be inside begins a stay, and what it
writes from inside belongs to its stay. -/
def record (context : Nat) (move : Move α) (lock : SpinLock α) (stays : List (Stay α)) :
    List (Stay α) :=
  if lock.holds context then
    match move with
    | .write value => noteWrite context value stays
    | _ => stays
  else if (lock.step context move).holds context then ⟨context, lock.value, []⟩ :: stays
  else stays

def stays (schedule : List (Nat × Move α)) (lock : SpinLock α) : List (Stay α) :=
  (schedule.foldl
    (fun (lock, stays) entry =>
      (lock.step entry.1 entry.2, record entry.1 entry.2 lock stays)) (lock, [])).2

/-- Every stay found what the one before it left, the first one the initial value. -/
def Chained (initial : α) : List (Stay α) → Prop
  | [] => True
  | stay :: earlier => stay.found = leftBy initial earlier ∧ Chained initial earlier

/-- The stays are chained, the value is what they have left, and the latest stay is that of the
context inside, if there is one. -/
structure Accounted (initial : α) (lock : SpinLock α) (stays : List (Stay α)) : Prop where
  exclusive : lock.Exclusive
  chained : Chained initial stays
  value : lock.value = leftBy initial stays
  current : ∀ context, lock.holds context = true → stays.head?.map (·.context) = some context

theorem Accounted.step {initial : α} {lock : SpinLock α} {stays : List (Stay α)}
    (accounted : Accounted initial lock stays) (context : Nat) (move : Move α) :
    Accounted initial (lock.step context move) (record context move lock stays) := by
  have exclusive := accounted.exclusive.step context move
  obtain ⟨_, chained, value, current⟩ := accounted
  cases steps lock context move with
  | idle flag kept same reads =>
      -- Nobody comes to be inside, and whoever is inside does not write.
      have unrecorded : record context move lock stays = stays := by
        unfold record
        by_cases within : lock.holds context = true
        · have noWrite := reads within
          cases move <;> simp_all
        · simp [within, same]
      rw [unrecorded]
      exact ⟨exclusive, chained, kept.trans value, fun d inside => current d (same d ▸ inside)⟩
  | enter free without flag kept inside =>
      have begun : record context move lock stays = ⟨context, lock.value, []⟩ :: stays := by
        simp [record, without, inside]
      rw [begun]
      refine ⟨exclusive, ⟨value, chained⟩, kept, fun d holds => ?_⟩
      have entered : (lock.step context move).holds context = true := by simp [inside]
      simp [exclusive.unique context d entered holds]
  | @write v _ within flag written same =>
      -- The latest stay is that of the context inside, so the value belongs to it.
      have latest := current context within
      cases stays with
      | nil => simp at latest
      | cons stay earlier =>
          have own : stay.context = context := by simpa using latest
          have noted : record context (.write v) lock (stay :: earlier) =
              { stay with written := v :: stay.written } :: earlier := by
            simp [record, within, noteWrite, own]
          rw [noted]
          exact ⟨exclusive, chained, written, fun d inside => current d (same d ▸ inside)⟩
  | leave within flag kept outside =>
      have unrecorded : record context .leave lock stays = stays := by simp [record, within]
      rw [unrecorded]
      refine ⟨exclusive, chained, kept.trans value, fun d inside => ?_⟩
      rw [outside, Bool.and_eq_true] at inside
      exact current d inside.2

theorem accounted_free (initial : α) : Accounted initial (free initial) [] where
  exclusive := exclusive_free initial
  chained := trivial
  value := rfl
  current context inside := by simp [holds, free] at inside

/-- The lock after a run with the stays of the run, if some were recorded before. -/
theorem accounted_foldl {initial : α} (schedule : List (Nat × Move α)) {lock : SpinLock α}
    {before : List (Stay α)} (accounted : Accounted initial lock before) :
    Accounted initial (run schedule lock)
      (schedule.foldl
        (fun (lock, stays) entry =>
          (lock.step entry.1 entry.2, record entry.1 entry.2 lock stays)) (lock, before)).2 := by
  induction schedule generalizing lock before with
  | nil => exact accounted
  | cons entry schedule ih => exact ih (accounted.step entry.1 entry.2)

theorem accounted_run (initial : α) (schedule : List (Nat × Move α)) :
    Accounted initial (run schedule (free initial)) (stays schedule (free initial)) :=
  accounted_foldl schedule (accounted_free initial)

/-- If what each stay leaves is an update of what it found, the value is that of all updates. -/
theorem leftBy_eq_foldr {initial : α} {stays : List (Stay α)} (chained : Chained initial stays)
    (update : Stay α → α → α) (updates : ∀ stay ∈ stays, stay.left = update stay stay.found) :
    leftBy initial stays = stays.foldr update initial := by
  induction stays with
  | nil => rfl
  | cons stay earlier ih =>
      have before := ih chained.2 fun stay member => updates stay (List.mem_cons_of_mem _ member)
      rw [List.foldr_cons, ← before, ← chained.1]
      exact updates stay List.mem_cons_self

/-- At any moment of any run, with any number of contexts: at most one context is inside, and the
flag is taken exactly while one is. A single try succeeds exactly if nobody is inside and changes
nothing otherwise; so does the next attempt of a context that wants the lock, spinning or not,
which else spins on. Each stay inside found what the one before it left; the value is what the
latest stay has left, which is that of the context inside, so a context reads what it wrote last
or else what it found. If each stay updates what it finds, the value is that of all updates. -/
theorem stays_exclude_and_follow (initial : α) (schedule : List (Nat × Move α)) :
    let lock := run schedule (free initial)
    let stays := stays schedule (free initial)
    (∀ a b, lock.holds a = true → lock.holds b = true → a = b) ∧
    (lock.taken = true ↔ ∃ context, lock.holds context = true) ∧
    (∀ context, lock.phase context = .outside →
      ((lock.step context .tryOnce).holds context = true ↔ lock.Vacant) ∧
        (¬ lock.Vacant → lock.step context .tryOnce = lock)) ∧
    (∀ context, lock.phase context = .wanting →
      ((lock.step context .attempt).holds context = true ↔ lock.Vacant) ∧
        (¬ lock.Vacant → (lock.step context .attempt).phase context = .spinning)) ∧
    (∀ context, lock.holds context = false →
      ((lock.pursue context).holds context = true ↔ lock.Vacant)) ∧
    Chained initial stays ∧ lock.value = leftBy initial stays ∧
    (∀ context, lock.holds context = true → stays.head?.map (·.context) = some context) ∧
    ∀ update : Stay α → α → α, (∀ stay ∈ stays, stay.left = update stay stay.found) →
      lock.value = stays.foldr update initial := by
  intro lock stays
  obtain ⟨exclusive, chained, value, current⟩ := accounted_run initial schedule
  refine ⟨exclusive.unique, exclusive.taken_iff, exclusive.tryOnce, exclusive.attempt,
    exclusive.pursue, chained, value, current, fun update updates => ?_⟩
  exact value.trans (leftBy_eq_foldr chained update updates)

/-- Context 2 spins while context 1 is inside and gets in after it, and context 3 tries once in
vain; both double what they find. When context 2 has left, the next attempt of context 3
succeeds. -/
theorem stays_exclude_and_follow_contended :
    let schedule : List (Nat × Move Nat) :=
      [(1, .want), (2, .want), (1, .attempt), (2, .attempt), (1, .write 5), (2, .look),
        (1, .write 6), (1, .leave), (2, .look), (2, .attempt), (2, .write 12)]
    let lock := run schedule (free 3)
    let opened := run (schedule ++ [(3, .want), (2, .leave)]) (free 3)
    (lock.holds 2 = true ∧ lock.phase 3 = .outside ∧ lock.step 3 .tryOnce = lock) ∧
      (opened.phase 3 = .wanting ∧ (opened.step 3 .attempt).holds 3 = true) ∧
      (∀ stay ∈ stays schedule (free 3), stay.left = 2 * stay.found) ∧ lock.value = 12 := by
  intro schedule lock opened
  have inside : lock.holds 2 = true := by decide
  have outside : lock.phase 3 = .outside := by decide
  have wanting : opened.phase 3 = .wanting := by decide
  obtain ⟨_, _, tryOnce, _, _, _, _, _, updated⟩ := stays_exclude_and_follow 3 schedule
  obtain ⟨_, taken_iff, _, attempt, _⟩ :=
    stays_exclude_and_follow 3 (schedule ++ [(3, .want), (2, .leave)])
  have vacant : opened.Vacant := fun context => by
    by_cases within : opened.holds context = true
    · have taken := taken_iff.2 ⟨context, within⟩
      exact absurd taken (by decide)
    · simpa using within
  have doubled : ∀ stay ∈ stays schedule (free 3), stay.left = 2 * stay.found := by decide
  refine ⟨⟨inside, outside, (tryOnce 3 outside).2 fun vacant => ?_⟩,
    ⟨wanting, (attempt 3 wanting).1.2 vacant⟩, doubled, ?_⟩
  · have nobody : lock.holds 2 = false := vacant 2
    rw [inside] at nobody
    cases nobody
  · exact updated (fun _ => (2 * ·)) doubled

end SpinLock

end Interrupts
