import Interrupts.Proofs.Max32660.Registers

/-! # The stages of programming an alarm

On the MAX32660 an alarm is programmed in stages: the clock is awaited, bits of its control
register are forced, a deadline is scheduled. Waiting can be given up, and then the stages that
are left are not begun; but they stand in a bracket that opens write access and closes it again
whatever becomes of them. Arming and disarming are two such brackets, so what is shown of one
stage and of going through a list of them holds of both.

Nothing is assumed here of what the registers answer.
-/

namespace Interrupts

namespace Bus

variable {σ : Type} (bus : Bus σ)

/-- The state after a register was read a number of times in a row. -/
def reread (address : Nat) : Nat → σ → σ
  | 0, state => state
  | n + 1, state => reread address n (bus (.read address) state).2

def poll (address n : Nat) (state : σ) : Word :=
  (bus (.read address) (bus.reread address n state)).1

/-- The transfers of the first `n` reads. -/
def polls (address n : Nat) (state : σ) : List Transfer :=
  (List.range n).map fun i => ⟨.read, address, (bus.poll address i state).toNat⟩

theorem polls_succ (address n : Nat) (state : σ) :
    bus.polls address (n + 1) state =
      ⟨.read, address, (bus (.read address) state).1.toNat⟩ ::
        bus.polls address n (bus (.read address) state).2 := by
  rw [polls, List.range_succ_eq_map, List.map_cons, List.map_map]
  rfl

end Bus

namespace Max32660.Clock

variable {σ : Type} (bus : Bus σ)

/-! ## Waiting -/

def BusyAt (n : Nat) (state : σ) : Prop :=
  (bus.poll control n state).covers ClockControl.busy = true

def ReadyInTime (state : σ) : Prop := ∃ n < patience, ¬ BusyAt bus n state

/-- How waiting ends after a number of polls: the last one has found the clock ready, or all
that may be made have found it busy. -/
inductive Waited (limit : Nat) (state : σ) : Except Fault Unit → Nat → Prop
  | ready {n : Nat} (inTime : n < limit) (before : ∀ i < n, BusyAt bus i state)
      (last : ¬ BusyAt bus n state) : Waited limit state (.ok ()) (n + 1)
  | gaveUp (always : ∀ i < limit, BusyAt bus i state) : Waited limit state (.error .busy) limit

theorem awaitReadyWithin_waited (limit : Nat) (state : σ) :
    ∃ n, Waited bus limit state (bus.run (awaitReadyWithin limit) state).1 n ∧
      bus.transfers (awaitReadyWithin limit) state = bus.polls control n state := by
  induction limit generalizing state with
  | zero => exact ⟨0, .gaveUp fun _ none => absurd none (Nat.not_lt_zero _), rfl⟩
  | succ limit ih =>
      let next := (bus (.read control) state).2
      have first : BusyAt bus 0 state ↔
        (bus (.read control) state).1.covers ClockControl.busy = true := Iff.rfl
      -- Behind the first poll, the polls are those of the state that it leaves.
      have shift (i : Nat) : BusyAt bus (i + 1) state ↔ BusyAt bus i next := Iff.rfl
      have asked : bus.transfers (awaitReadyWithin (limit + 1)) state =
          ⟨.read, control, (bus (.read control) state).1.toNat⟩ ::
            bus.transfers (if (bus (.read control) state).1.covers ClockControl.busy = true
              then awaitReadyWithin limit else pure (.ok ())) next := rfl
      have ended : bus.run (awaitReadyWithin (limit + 1)) state =
          bus.run (if (bus (.read control) state).1.covers ClockControl.busy = true
            then awaitReadyWithin limit else pure (.ok ())) next := rfl
      rw [asked, ended]
      by_cases busy : BusyAt bus 0 state
      · rw [if_pos (first.1 busy)]
        obtain ⟨n, waited, made⟩ := ih next
        refine ⟨n + 1, ?_, by rw [made, Bus.polls_succ]⟩
        have extend {m : Nat} (before : ∀ i < m, BusyAt bus i next) :
            ∀ i < m + 1, BusyAt bus i state
          | 0, _ => busy
          | i + 1, within => (shift i).2 (before i (Nat.lt_of_succ_lt_succ within))
        generalize (bus.run (awaitReadyWithin limit) next).1 = result at waited ⊢
        cases waited with
        | ready inTime before last =>
            exact .ready (Nat.succ_lt_succ inTime) (extend before) fun h => last ((shift _).1 h)
        | gaveUp always => exact .gaveUp (extend always)
      · rw [if_neg fun h => busy (first.2 h)]
        exact ⟨1, .ready (Nat.succ_pos _) (fun _ none => absurd none (Nat.not_lt_zero _)) busy,
          rfl⟩

/-! ## Stages -/

inductive Stage where
  | await
  /-- The control register is read and written back with the bits of `mask` set or cleared. -/
  | force (mask : Word) (on : Bool)
  | schedule (alarm : Alarm) (deadline : Word)
deriving DecidableEq

def Stage.driver : Stage → ExceptT Fault Driver Unit
  | await => awaitReady
  | force mask on => Driver.modify control mask on
  | schedule alarm deadline => Driver.write (deadlineRegister alarm) deadline

def follow : List Stage → ExceptT Fault Driver Unit
  | [] => pure ()
  | stage :: rest => do
      stage.driver
      follow rest

def opening : List Stage := [.await, .force ClockControl.writeEnable true]

def closing : Stage := .force ClockControl.writeEnable false

/-- Goes through the stages with write access open, and closes it whatever becomes of them. -/
def bracketed (stages : List Stage) : ExceptT Fault Driver Unit := do
  follow opening
  let result ← ExceptT.lift (follow stages).run
  closing.driver
  ExceptT.mk (pure result)

/-- A body that first clears bits in the control register and then goes through stages is a
list of stages. -/
theorem withWriteAccess_eq (mask : Word) (rest : List Stage) :
    (withWriteAccess fun value => do
      Driver.write control (value.without mask)
      follow rest) = bracketed (.await :: .force mask false :: rest) := by
  simp only [withWriteAccess, bracketed, follow, opening, closing, Stage.driver, Driver.modify,
    bind_assoc, bind_pure_unit, liftM_bind]
  rfl

inductive Change where
  | arm (deadline : Word)
  | disarm
deriving DecidableEq

namespace Change

def driver (alarm : Alarm) : Change → Driver (Except Fault Unit)
  | arm deadline => Clock.drive (.arm alarm deadline)
  | disarm => Clock.drive (.disarm alarm)

/-- What is done while write access is open. -/
def stages (alarm : Alarm) : Change → List Stage
  | arm deadline =>
      [.await, .force alarm.enableBit false, .await, .schedule alarm deadline, .await,
        .force alarm.enableBit true]
  | disarm => [.await, .force alarm.enableBit false]

theorem driver_eq (alarm : Alarm) (change : Change) :
    change.driver alarm = (bracketed (change.stages alarm)).run := by
  cases change with
  | arm deadline =>
      have body := withWriteAccess_eq alarm.enableBit
        [.await, .schedule alarm deadline, .await, .force alarm.enableBit true]
      simp only [follow, bind_pure_unit] at body
      exact congrArg ExceptT.run body
  | disarm =>
      have body := withWriteAccess_eq alarm.enableBit []
      simp only [follow, bind_pure_unit] at body
      exact congrArg ExceptT.run body

end Change

/-! ## The course of a call -/

/-- A stage that is begun, with the state in which it is. -/
structure Leg (σ : Type) where
  stage : Stage
  state : σ

namespace Leg

variable (leg : Leg σ)

def result : Except Fault Unit := (bus.run leg.stage.driver.run leg.state).1

def requests : List (Access × σ) := bus.requests leg.stage.driver.run leg.state

def transfers : List Transfer := bus.transfers leg.stage.driver.run leg.state

/-- A wait finds the clock ready in time, or it polls as often as it may and is given up. -/
theorem await_cases (state : σ) :
    let wait : Leg σ := ⟨.await, state⟩
    (wait.result bus = .ok () ∧ ReadyInTime bus state ∧
        ∃ n ≤ patience, wait.transfers bus = bus.polls control n state) ∨
      (wait.result bus = .error .busy ∧ (∀ n < patience, BusyAt bus n state) ∧
        wait.transfers bus = bus.polls control patience state) := by
  intro wait
  obtain ⟨n, waited, made⟩ := awaitReadyWithin_waited bus patience state
  change Waited bus patience state (wait.result bus) n at waited
  generalize wait.result bus = result at waited ⊢
  cases waited with
  | ready inTime before last => exact .inl ⟨rfl, ⟨_, inTime, last⟩, _, inTime, made⟩
  | gaveUp always => exact .inr ⟨rfl, always, made⟩

theorem result_cases :
    (leg.result bus = .ok () ∧ (leg.stage = .await → ReadyInTime bus leg.state)) ∨
      (leg.result bus = .error .busy ∧ leg.stage = .await ∧ ¬ ReadyInTime bus leg.state) := by
  obtain ⟨stage, state⟩ := leg
  cases stage with
  | await =>
      rcases await_cases bus state with ⟨ok, ready, -⟩ | ⟨busy, always, -⟩
      · exact .inl ⟨ok, fun _ => ready⟩
      · exact .inr ⟨busy, rfl, fun ⟨i, inTime, ready⟩ => ready (always i inTime)⟩
  | force mask on => exact .inl ⟨rfl, nofun⟩
  | schedule alarm deadline => exact .inl ⟨rfl, nofun⟩

theorem result_eq_ok_iff :
    leg.result bus = .ok () ↔ (leg.stage = .await → ReadyInTime bus leg.state) := by
  rcases leg.result_cases bus with ⟨ok, ready⟩ | ⟨error, waits, late⟩
  · exact ⟨fun _ => ready, fun _ => ok⟩
  · rw [error]
    exact ⟨nofun, fun ready => absurd (ready waits) late⟩

end Leg

def legs : List Stage → σ → List (Leg σ)
  | [], _ => []
  | stage :: rest, state =>
      ⟨stage, state⟩ ::
        match bus.run stage.driver.run state with
        | (.ok (), after) => legs rest after
        | (.error _, _) => []

/-- Going through a list begins all of its stages, or ends with a wait that is given up. -/
inductive Followed : List Stage → List (Leg σ) → Except Fault Unit → Prop
  | done : Followed [] [] (.ok ())
  | next {leg : Leg σ} {rest : List Stage} {later : List (Leg σ)} {result : Except Fault Unit}
      (ok : leg.result bus = .ok ()) (others : Followed rest later result) :
      Followed (leg.stage :: rest) (leg :: later) result
  | gaveUp {state : σ} {rest : List Stage} (late : ¬ ReadyInTime bus state) :
      Followed (.await :: rest) [⟨.await, state⟩] (.error .busy)

theorem followed (stages : List Stage) (state : σ) :
    Followed bus stages (legs bus stages state) (bus.run (follow stages).run state).1 := by
  induction stages generalizing state with
  | nil => exact .done
  | cons stage rest ih =>
      rw [legs, follow, Bus.run_andThen]
      have cases := Leg.result_cases bus ⟨stage, state⟩
      unfold Leg.result at cases
      rcases ran : bus.run stage.driver.run state with ⟨result, after⟩
      rw [ran] at cases
      rcases cases with ⟨ok, -⟩ | ⟨error, waits, late⟩
      · obtain rfl : result = .ok () := ok
        let leg : Leg σ := ⟨stage, state⟩
        have done : leg.result bus = .ok () := congrArg Prod.fst ran
        exact .next done (ih after)
      · obtain rfl : result = .error .busy := error
        obtain rfl : stage = .await := waits
        exact .gaveUp late

namespace Followed

variable {bus} {stages : List Stage} {begun : List (Leg σ)} {result : Except Fault Unit}

theorem ok_iff (followed : Followed bus stages begun result) :
    result = .ok () ↔ ∀ leg ∈ begun, leg.result bus = .ok () := by
  induction followed with
  | done => exact ⟨fun _ => nofun, fun _ => rfl⟩
  | next ok _ ih => rw [ih, List.forall_mem_cons, and_iff_right ok]
  | @gaveUp state rest late =>
      refine ⟨nofun, fun all => absurd ?_ late⟩
      exact (Leg.result_eq_ok_iff bus _).1 (all ⟨.await, state⟩ (List.mem_singleton_self _)) rfl

theorem stages_begun (followed : Followed bus stages begun result) :
    begun.map Leg.stage <+: stages ∧ (result = .ok () → begun.map Leg.stage = stages) := by
  induction followed with
  | done => exact ⟨List.prefix_rfl, fun _ => rfl⟩
  | next _ _ ih =>
      exact ⟨List.cons_prefix_cons.2 ⟨rfl, ih.1⟩, fun ok => congrArg (_ :: ·) (ih.2 ok)⟩
  | gaveUp _ => exact ⟨List.cons_prefix_cons.2 ⟨rfl, List.nil_prefix⟩, nofun⟩

theorem result_cases (followed : Followed bus stages begun result) :
    result = .ok () ∨ result = .error .busy := by
  induction followed with
  | done => exact .inl rfl
  | next _ _ ih => exact ih
  | gaveUp _ => exact .inr rfl

end Followed

theorem requests_follow (stages : List Stage) (state : σ) :
    bus.requests (follow stages).run state =
      (legs bus stages state).flatMap fun leg => leg.requests bus := by
  induction stages generalizing state with
  | nil => rfl
  | cons stage rest ih =>
      rw [legs, follow, Bus.requests_andThen, List.flatMap_cons]
      rcases bus.run stage.driver.run state with ⟨_ | _, after⟩
      · rfl
      · exact congrArg (bus.requests stage.driver.run state ++ ·) (ih after)

/-- All stages that are begun by a call: those that open write access, and if these are done,
those in between and the one that closes it. -/
def course (stages : List Stage) (state : σ) : List (Leg σ) :=
  legs bus opening state ++
    match bus.run (follow opening).run state with
    | (.ok (), opened) =>
        legs bus stages opened ++ [⟨closing, (bus.run (follow stages).run opened).2⟩]
    | (.error _, _) => []

theorem requests_bracketed (stages : List Stage) (state : σ) :
    bus.requests (bracketed stages).run state =
      (course bus stages state).flatMap fun leg => leg.requests bus := by
  rw [bracketed, Bus.requests_andThen, requests_follow, course, List.flatMap_append]
  rcases bus.run (follow opening).run state with ⟨_ | _, opened⟩
  · rfl
  · simp only [Bus.requests_andThen, Bus.run_lift, Bus.requests_lift, requests_follow,
      List.flatMap_append, List.flatMap_singleton]
    rfl

/-- A call that gets write access ends as the stages in between, in the state that closing it
leaves. -/
theorem run_bracketed (stages : List Stage) (state : σ) :
    bus.run (bracketed stages).run state =
      match bus.run (follow opening).run state with
      | (.ok (), opened) =>
          let (result, after) := bus.run (follow stages).run opened
          (result, (bus.run closing.driver.run after).2)
      | (.error fault, after) => (.error fault, after) := by
  rw [bracketed, Bus.run_andThen]
  rcases bus.run (follow opening).run state with ⟨_ | _, opened⟩
  · rfl
  · simp only [Bus.run_andThen, Bus.run_lift]
    rfl

theorem result_bracketed (stages : List Stage) (state : σ) :
    (bus.run (bracketed stages).run state).1 = .ok () ↔
      ∀ leg ∈ course bus stages state, leg.result bus = .ok () := by
  have opens := (followed bus opening state).ok_iff
  rw [run_bracketed, course, List.forall_mem_append, ← opens]
  rcases bus.run (follow opening).run state with ⟨_ | _, opened⟩
  · simp
  · have closes : Leg.result bus ⟨closing, (bus.run (follow stages).run opened).2⟩ = .ok () := rfl
    simp only [List.forall_mem_append, List.forall_mem_singleton, closes, and_true, true_and]
    exact (followed bus stages opened).ok_iff

end Max32660.Clock

end Interrupts
