import Interrupts.Proofs.Independence.Places

/-! # Operations on different sources

An operation on one source works at the places of that source. Only the vector of the lines
is shared: an operation on a line may unmask it and give it a priority. Unmasking is the
same whoever does it, and so is the priority if two callbacks have the same one; everything
else lies apart, so operations on different sources commute, whether they are accepted or
refused.
-/

namespace Interrupts

open Routine Guarded

namespace Operation

/-- The source that the operation is about, for the operations that are about one source
and may change how it is served. -/
def name? : Operation → Option SourceName
  | register name _ | unregister name | enable name | disable name => some name
  | release index | retrigger index _ => some (.gpio index)
  | _ => none

def priority? : Operation → Option Priority
  | register _ callback => some callback.priority
  | _ => none

end Operation

theorem SourceName.eq_toName {name : SourceName} {source : Source}
    (h : name.resolve = .ok source) : name = source.toName := by
  unfold resolve at h
  split at h
  next index =>
    split at h
    next line found =>
      cases h
      rw [Source.toName, ← Line.eq_val_of_ofNat? found, UInt8.ofNat_toNat]
    next => cases h
  next => cases h; rfl
  next index =>
    split at h
    next channel found =>
      cases h
      rw [Source.toName, ← Channel.eq_val_of_ofNat? found, UInt8.ofNat_toNat]
    next => cases h

def Effect.Passes : Effect → Prop
  | mask | restore _ | acquire | release | note _ => True
  | _ => False

namespace Simulated

/-- The places at which only operations on this source work. -/
inductive Owns (number : Peripheral → Nat) : Source → Place → Prop
  | entry (source : Source) : Owns number source (.entry source)
  | setting (line : Line) : Owns number (.gpio line) (.setting line)
  | bits (line : Line) : Owns number (.gpio line) (.bits line.val)
  | clock : Owns number .rtc .clock
  | clockVector : Owns number .rtc (.vector (number .rtc))
  | channelVector (channel : Channel) :
      Owns number (.uart channel) (.vector (number (.uart channel)))

/-- What sources that share the vector `n` may all do to it. The priority is `given` by
one of them. -/
inductive Shares (n : Nat) (given : Option Priority) : ControllerCall → Prop
  | enable : Shares n given (.enable n)
  | setPriority {priority : Priority} (h : given = some priority) :
      Shares n given (.setPriority n priority)

/-- What an operation on a source may ask for, if it gives at most the priority `given`. -/
inductive Belongs (number : Peripheral → Nat) (source : Source) (given : Option Priority) :
    Effect → Prop
  | passes {effect : Effect} (h : effect.Passes) : Belongs number source given effect
  | own {effect : Effect} {place : Place} (owns : Owns number source place)
      (works : WorksAt place effect) : Belongs number source given effect
  | shared {c : ControllerCall} (shares : Shares (number source.peripheral) given c) :
      Belongs number source given (.call (.controller c))

/-! ## Effects of different sources -/

section

variable {number : Peripheral → Nat} {one other : Source} {place : Place}

theorem Owns.apart (distinct : Function.Injective number) {place' : Place}
    (h : Owns number one place) (h' : Owns number other place') (apart : one ≠ other) :
    place ≠ place' := by
  rintro rfl
  cases h with
  | entry => cases h'; exact apart rfl
  | setting => cases h'; exact apart rfl
  | bits line =>
      generalize same : line.val = i at h'
      cases h' with
      | bits line' => exact apart (congrArg _ (Fin.ext same))
  | clock => cases h'; exact apart rfl
  | clockVector =>
      generalize same : number .rtc = n at h'
      cases h' with
      | clockVector => exact apart rfl
      | channelVector channel => exact Peripheral.noConfusion (distinct same)
  | channelVector channel =>
      generalize same : number (.uart channel) = n at h'
      cases h' with
      | clockVector => exact Peripheral.noConfusion (distinct same)
      | channelVector channel' =>
          exact apart (congrArg _ (Peripheral.uart.inj (distinct same)))

theorem Owns.apart_vector (distinct : Function.Injective number)
    (h : Owns number other place) (apart : one ≠ other) :
    place ≠ .vector (number one.peripheral) := by
  intro same
  cases h with
  | clockVector =>
      have shared : .rtc = one.peripheral := distinct (Place.vector.inj same)
      cases one <;> simp_all [Source.peripheral]
  | channelVector channel =>
      have shared : .uart channel = one.peripheral := distinct (Place.vector.inj same)
      cases one <;> simp_all [Source.peripheral]
  | _ => cases same

theorem Shares.works {n : Nat} {given : Option Priority} {c : ControllerCall}
    (h : Shares n given c) : WorksAt (.vector n) (.call (.controller c)) := by
  cases h with
  | enable => exact .controller (.enable n)
  | setPriority => exact .controller (.setPriority n _)

theorem commutes_enable_setPriority (number : Peripheral → Nat) (n : Nat)
    (priority : Priority) :
    Commutes (State.respond (hardware number) (.call (.controller (.enable n))))
      (State.respond (hardware number) (.call (.controller (.setPriority n priority)))) := by
  refine ⟨fun s => ?_, fun s => ?_, fun s => ?_⟩ <;>
    by_cases listed : n < 64 <;>
    by_cases low : priority ≤ s.board.controller.limit <;>
    simp [State.respond, hardware, Board.respond, Controller.respond, listed, low]

theorem Shares.commutes (number : Peripheral → Nat) {n : Nat} {given given' : Option Priority}
    (equal : ∀ p ∈ given, ∀ q ∈ given', p = q) {c c' : ControllerCall}
    (h : Shares n given c) (h' : Shares n given' c') :
    Commutes (State.respond (hardware number) (.call (.controller c)))
      (State.respond (hardware number) (.call (.controller c'))) := by
  cases h with
  | enable =>
      cases h' with
      | enable =>
          refine .self fun s => ?_
          by_cases listed : n < 64 <;>
            simp [State.respond, hardware, Board.respond, Controller.respond, listed]
      | setPriority => exact commutes_enable_setPriority number n _
  | @setPriority priority h =>
      cases h' with
      | enable => exact (commutes_enable_setPriority number n _).symm
      | setPriority h' =>
          rw [← equal _ h _ h']
          refine .self fun s => ?_
          by_cases listed : n < 64 <;>
            by_cases low : priority ≤ s.board.controller.limit <;>
            simp [State.respond, hardware, Board.respond, Controller.respond, listed, low]

theorem passes_idle (number : Peripheral → Nat) {effect : Effect} (h : effect.Passes) :
    ∃ reply, State.respond (hardware number) effect = fun s => (reply, s) := by
  cases effect with
  | mask => exact ⟨0, rfl⟩
  | restore _ | acquire | release | note _ => exact ⟨(), rfl⟩
  | _ => exact h.elim

/-- Different sources meet at most at a vector that both have. There the one may unmask it
or give it the priority that the other gives it too. -/
theorem Belongs.commutes (distinct : Function.Injective number) (apart : one ≠ other)
    {given given' : Option Priority}
    (equal : one.peripheral = other.peripheral → ∀ p ∈ given, ∀ q ∈ given', p = q)
    {effect later : Effect} (h : Belongs number one given effect)
    (h' : Belongs number other given' later) :
    Commutes (State.respond (hardware number) effect)
      (State.respond (hardware number) later) := by
  cases h with
  | passes h =>
      obtain ⟨reply, idle⟩ := passes_idle number h
      rw [idle]
      exact (Commutes.idle _ reply).symm
  | own owns works =>
      cases h' with
      | passes h' =>
          obtain ⟨reply, idle⟩ := passes_idle number h'
          rw [idle]
          exact .idle _ reply
      | own owns' works' => exact works.commutes number works' (owns.apart distinct owns' apart)
      | shared shares' =>
          exact works.commutes number shares'.works (owns.apart_vector distinct apart.symm)
  | shared shares =>
      cases h' with
      | passes h' =>
          obtain ⟨reply, idle⟩ := passes_idle number h'
          rw [idle]
          exact .idle _ reply
      | own owns' works' =>
          exact (works'.commutes number shares.works (owns'.apart_vector distinct apart)).symm
      | shared shares' =>
          by_cases same : one.peripheral = other.peripheral
          · rw [← same] at shares'
            exact shares.commutes number (equal same) shares'
          · refine shares.works.commutes number shares'.works fun meet => same ?_
            exact distinct (Place.vector.inj meet)

end

/-! ## What operations ask for -/

section

variable (number : Peripheral → Nat) (source : Source) (given : Option Priority)

def Keeping {α : Type} (routine : Routine α) : Prop := routine.Only (Belongs number source given)

variable {number source given}

theorem keeping_sequential : Sequential fun _ => Keeping number source given := only_sequential

theorem Belongs.keeping {effect : Effect} (h : Belongs number source given effect) :
    Keeping number source given (perform effect) :=
  ⟨h, fun _ => trivial⟩

theorem keeping_critical {α : Type} {body : Routine α} (h : Keeping number source given body) :
    Keeping number source given (critical body) :=
  keeping_sequential.critical h fun effect guards => (Belongs.passes (by
    cases effect with
    | mask | restore _ | acquire | release => trivial
    | _ => exact guards.elim)).keeping

theorem keeping_note (notice : Notice) : Keeping number source given (note notice) :=
  (show Belongs number source given (.note notice) from .passes trivial).keeping

theorem keeping_find : Keeping number source given (find source) :=
  (Belongs.own (.entry source) (.find source)).keeping

variable {line : Line}

theorem keeping_lines {c : LineCall} (own : c.IsOf line) :
    Keeping number (.gpio line) given (lines c) :=
  (Belongs.own (.bits line) (.lines own)).keeping

theorem keeping_writeLine (setting : LineSetting) :
    Keeping number (.gpio line) given (perform (.writeLine line setting)) :=
  (Belongs.own (.setting line) (.writeLine line setting)).keeping

theorem keeping_switch (on : Bool) :
    Keeping number (.gpio line) given (LineControl.switch line on).run :=
  keeping_sequential.switch (fun _ => keeping_lines)
    (Belongs.own (.setting line) (.readLine line)).keeping keeping_writeLine on

theorem keeping_retrigger (trigger : Trigger) :
    Keeping number (.gpio line) given (LineControl.retrigger line trigger).run :=
  keeping_sequential.retrigger (fun _ => keeping_lines) keeping_writeLine trigger

theorem keeping_clock (c : ClockCall) : Keeping number .rtc given (clock c) :=
  (Belongs.own .clock (.clock c)).keeping

theorem number_vectors (peripheral : Peripheral) :
    (hardware number).vectors.number peripheral = number peripheral :=
  VectorTable.number_ofNumbering number peripheral

theorem keeping_enable : Keeping number source given
    (controller (.enable ((hardware number).vectors.number source.peripheral))) := by
  rw [number_vectors]
  exact (Belongs.shared .enable).keeping

theorem keeping_setPriority (priority : Priority) : Keeping number source (some priority)
    (controller (.setPriority ((hardware number).vectors.number source.peripheral) priority)) := by
  rw [number_vectors]
  exact (Belongs.shared (.setPriority rfl)).keeping

theorem keeping_disable (owns : Owns number source (.vector (number source.peripheral))) :
    Keeping number source given
      (controller (.disable ((hardware number).vectors.number source.peripheral))) := by
  rw [number_vectors]
  exact (Belongs.own owns (.controller (.disable _))).keeping

theorem keeping_prepare (setting : Setting) :
    Keeping number source given (Registration.prepare source setting).run := by
  unfold Registration.prepare
  split
  · exact keeping_sequential.andThen (keeping_lines .setInput) fun _ => keeping_retrigger _
  · exact keeping_sequential.succeed ()

theorem keeping_disarmReplaced {setting : Setting} (fits : setting.fits source = true)
    (replaced : Option Callback) :
    Keeping number source given (Registration.disarmReplaced setting replaced).run := by
  unfold Registration.disarmReplaced
  split
  next new _ brings =>
    have clock : source = .rtc := by
      cases setting <;> cases source <;> simp_all [Setting.fits, Setting.alarm?]
    subst clock
    split
    · exact keeping_sequential.succeed ()
    · exact keeping_clock _
  · exact keeping_sequential.succeed ()

theorem keeping_switchOff (setting : Option Setting) : Keeping number source given
    (Registration.switchOff (hardware number).vectors source setting).run := by
  cases source with
  | gpio line => exact keeping_switch false
  | rtc =>
      cases known : setting.bind Setting.alarm? with
      | some alarm =>
          simp only [Registration.switchOff, known]
          exact keeping_sequential.andThen (keeping_clock _) fun _ =>
            keeping_disable .clockVector
      | none =>
          simp only [Registration.switchOff, known]
          exact keeping_sequential.andThen (keeping_sequential.lift (keeping_note _)) fun _ =>
            keeping_sequential.fail _
  | uart channel => exact keeping_disable (.channelVector channel)

theorem keeping_switchOn : Keeping number source given (Switching.switchOn source).run := by
  have seq := @keeping_sequential number source given
  cases source with
  | gpio line => exact keeping_switch true
  | rtc =>
      refine seq.andThen (seq.andThen (seq.lift keeping_find) fun entry => ?_)
        fun alarm => keeping_clock _
      split
      · exact seq.succeed _
      · exact seq.andThen (seq.lift (keeping_note _)) fun _ => seq.fail _
  | uart channel => exact seq.succeed ()

theorem keeping_takeOut (callback : Callback) (notice : Notice) :
    Keeping number source given (show Guarded Unit from do
      Registration.switchOff (hardware number).vectors source (some callback.setting)
      discard (attempt (perform (.erase source)))
      note notice).run :=
  keeping_sequential.andThen (keeping_switchOff _) fun _ =>
    keeping_sequential.andThen
      (keeping_sequential.discard (Belongs.own (.entry source) (.erase source)).keeping)
      fun _ => keeping_sequential.lift (keeping_note _)

end

def Concerns (number : Peripheral → Nat) (name : SourceName) (given : Option Priority)
    (effect : Effect) : Prop :=
  effect.Passes ∨ ∃ source, name.resolve = .ok source ∧ Belongs number source given effect

section

variable {number : Peripheral → Nat} {name : SourceName} {given : Option Priority}

theorem concerns_resolve {rest : Source → Guarded Unit}
    (later : ∀ source, name.resolve = .ok source →
      Keeping number source given (rest source).run) :
    (Outcome.ofResult <$> (do rest (← Guarded.resolve name) : Guarded Unit).run :
      Routine Outcome).Only (Concerns number name given) := by
  refine only_sequential.map ?_ Outcome.ofResult
  cases named : name.resolve with
  | ok source =>
      rw [resolve_of_ok named, pure_bind]
      exact (later source named).mono fun effect h => .inr ⟨source, named, h⟩
  | error fault =>
      rw [ExceptT.run_bind, run_resolve_of_error named, bind_map_left]
      exact only_sequential.bind ⟨.inl trivial, fun _ => trivial⟩ fun _ => trivial

theorem concerns_operation {operation : Operation} (about : operation.name? = some name) :
    (operation.routine (hardware number).vectors).Only
      (Concerns number name operation.priority?) := by
  have seq {source : Source} {given : Option Priority} :=
    @keeping_sequential number source given
  cases operation with
  | register name callback =>
      cases about
      refine concerns_resolve fun source _ => ?_
      split
      next fits =>
        refine keeping_critical (seq.andThen (keeping_setPriority _) fun _ =>
          seq.andThen (keeping_prepare _) fun _ => seq.andThen (seq.lift keeping_find)
            fun replaced => seq.andThen (keeping_disarmReplaced fits _) fun _ =>
              seq.andThen (seq.lift
                (Belongs.own (.entry source) (.install source callback)).keeping) fun _ => ?_)
        split <;> exact seq.lift (keeping_note _)
      next => exact seq.andThen (seq.lift (keeping_note _)) fun _ => seq.fail _
  | unregister name =>
      cases about
      refine concerns_resolve fun source _ => keeping_critical
        (seq.andThen (seq.lift keeping_find) fun entry => ?_)
      cases entry with
      | none => exact seq.andThen (seq.lift (keeping_note _)) fun _ => seq.fail _
      | some callback => exact keeping_takeOut callback _
  | release index =>
      cases about
      refine concerns_resolve fun source _ => keeping_critical
        (seq.andThen (seq.lift keeping_find) fun entry => ?_)
      cases entry with
      | none => exact seq.succeed ()
      | some callback => exact keeping_takeOut callback _
  | enable name =>
      cases about
      exact concerns_resolve fun source _ => keeping_critical
        (seq.andThen keeping_switchOn fun _ => seq.andThen keeping_enable fun _ =>
          seq.lift (keeping_note _))
  | disable name =>
      cases about
      exact concerns_resolve fun source _ => keeping_critical
        (seq.andThen (seq.lift keeping_find) fun _ => seq.andThen (keeping_switchOff _) fun _ =>
          seq.lift (keeping_note _))
  | retrigger index trigger =>
      cases about
      refine concerns_resolve fun source _ => ?_
      cases source with
      | gpio line =>
          exact seq.andThen (keeping_critical (keeping_retrigger _)) fun _ =>
            seq.lift (keeping_note _)
      | _ => exact seq.fail _
  | _ => cases about

theorem Concerns.commutes (distinct : Function.Injective number) {other : SourceName}
    (apart : name ≠ other) {given' : Option Priority}
    (equal : ∀ line line', name.resolve = .ok (.gpio line) →
      other.resolve = .ok (.gpio line') → ∀ p ∈ given, ∀ q ∈ given', p = q)
    {effect later : Effect} (h : Concerns number name given effect)
    (h' : Concerns number other given' later) :
    Commutes (State.respond (hardware number) effect)
      (State.respond (hardware number) later) := by
  rcases h with passes | ⟨source, named, h⟩
  · obtain ⟨reply, idle⟩ := passes_idle number passes
    rw [idle]
    exact (Commutes.idle _ reply).symm
  rcases h' with passes | ⟨source', named', h'⟩
  · obtain ⟨reply, idle⟩ := passes_idle number passes
    rw [idle]
    exact .idle _ reply
  have differ : source ≠ source' := fun same =>
    apart ((SourceName.eq_toName named).trans (same ▸ (SourceName.eq_toName named').symm))
  refine h.commutes distinct differ (fun shared => ?_) h'
  cases source with
  | gpio line =>
      cases source' with
      | gpio line' => exact equal line line' named named'
      | _ => cases shared
  | rtc =>
      cases source' with
      | rtc => exact absurd rfl differ
      | _ => cases shared
  | uart channel =>
      cases source' with
      | uart channel' => exact absurd (congrArg Source.uart (Peripheral.uart.inj shared)) differ
      | _ => cases shared

end

/-- Operations on two different sources can be done in either order, whether they are
accepted or refused: each ends with the same outcome, and the board, the registry and the
line table are the same afterwards. Two callbacks for lines must have the same priority,
because all lines share one vector. -/
theorem operations_commute {η : Type} {number : Peripheral → Nat}
    (distinct : Function.Injective number) (react : Reaction Board η) (world : World Board η)
    {name other : SourceName} (apart : name ≠ other) {first second : Operation}
    (about : first.name? = some name) (about' : second.name? = some other)
    (equal : ∀ line line', name.resolve = .ok (.gpio line) →
      other.resolve = .ok (.gpio line') → ∀ p ∈ first.priority?, ∀ q ∈ second.priority?, p = q) :
    let run (operation : Operation) (world : World Board η) :=
      world.run (hardware number) react (operation.routine (hardware number).vectors)
    (run first (run second world).2).1 = (run first world).1 ∧
      (run second (run first world).2).1 = (run second world).1 ∧
      (run second (run first world).2).2.state = (run first (run second world).2).2.state := by
  intro run
  have silent {operation : Operation} {name : SourceName} (about : operation.name? = some name) :
      ¬ operation.Delivers := by
    intro delivers
    cases operation with
    | handle n => cases about
    | dispatch peripheral => cases about
    | _ => exact delivers
  have quiet := Quiet.operation (hardware number).vectors (silent about)
  have quiet' := Quiet.operation (hardware number).vectors (silent about')
  have commute := (@concerns_operation number _ _ about).commutes
    (concerns_operation about') fun _ h _ h' => h.commutes distinct apart equal h'
  refine ⟨?_, ?_, ?_⟩
  · calc (run first (run second world).2).1
        = ((run second world).2.state.run (hardware number) _).1 := quiet.fst _
      _ = (world.state.run (hardware number) _).1 := by
          rw [quiet'.state]
          exact commute.first _
      _ = (run first world).1 := (quiet.fst _).symm
  · calc (run second (run first world).2).1
        = ((run first world).2.state.run (hardware number) _).1 := quiet'.fst _
      _ = (world.state.run (hardware number) _).1 := by
          rw [quiet.state]
          exact commute.second _
      _ = (run second world).1 := (quiet'.fst _).symm
  · rw [quiet'.state, quiet.state, quiet.state, quiet'.state]
    exact commute.state _

/-- Two callbacks of one priority, for a line that takes its trigger and for one that does
not. The second registration is refused after the shared vector has its priority. -/
theorem operations_commute_refused :
    let board := Board.initial.stimulate (.failConfigure (Word.bit 5))
    let world : World Board Unit := World.initial board
    let react : Reaction Board Unit := fun _ _ world => world
    let run (operation : Operation) (world : World Board Unit) :=
      world.run (hardware number) react (operation.routine (hardware number).vectors)
    let accepted := Operation.register (.gpio 3) ⟨.routine, 1, .gpio .risingEdge, 2⟩
    let refused := Operation.register (.gpio 5) ⟨.routine, 2, .gpio .levelLow, 2⟩
    (run accepted (run refused world).2).1 = .done ∧
      (run refused (run accepted world).2).1 = .refused .busy ∧
      (run refused (run accepted world).2).2.state =
        (run accepted (run refused world).2).2.state := by
  intro board world react run accepted refused
  have apart : SourceName.gpio 3 ≠ .gpio 5 := by decide
  have about : accepted.name? = some (.gpio 3) := rfl
  have about' : refused.name? = some (.gpio 5) := rfl
  have equal : ∀ p ∈ accepted.priority?, ∀ q ∈ refused.priority?, p = q := by
    intro p hp q hq
    cases hp
    cases hq
    rfl
  obtain ⟨first, second, same⟩ := operations_commute number_distinct react world apart
    about about' fun _ _ _ _ => equal
  have done : (run accepted world).1 = .done := by decide +kernel
  have busy : (run refused world).1 = .refused .busy := by decide +kernel
  exact ⟨first.trans done, second.trans busy, same⟩

end Simulated

end Interrupts
