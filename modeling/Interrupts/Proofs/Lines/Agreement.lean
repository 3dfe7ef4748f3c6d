import Interrupts.Proofs.Run.Reachable
import Interrupts.Proofs.Simulated.LineSetting

/-! # The line table and the registers agree

What is stored about a line is written apart from the registers that hold it, and
between the two writes they disagree. Every operation that touches a line is put together
from two routines, which begin and end in agreement whatever is refused on the way;
everything else leaves both sides alone.
-/

namespace Interrupts.Simulated

open Routine Guarded

/-- The stored setting of every line is the one that its registers hold. -/
def Agrees (world : World Board Adjustment) : Prop :=
  ∀ line, world.board.lines.setting line = world.lines.get line

/-- While `line` is being changed, `stored` is still stored and `held` is in its registers.
The other lines agree. -/
structure Changing (line : Line) (stored held : LineSetting) (world : World Board Adjustment) :
    Prop where
  get : world.lines.get line = stored
  setting (other : Line) : world.board.lines.setting other =
    if line = other then held else world.lines.get other

theorem Agrees.changing {world : World Board Adjustment} (h : Agrees world) (line : Line) :
    Changing line (world.lines.get line) (world.lines.get line) world where
  get := rfl
  setting other := by
    rw [h other]
    split
    next same => rw [same]
    next => rfl

theorem Changing.agrees {line : Line} {setting : LineSetting} {world : World Board Adjustment}
    (h : Changing line setting setting world) : Agrees world := fun other => by
  rw [h.setting other]
  split
  next same => rw [← same, h.get]
  next => rfl

section

variable {number : Peripheral → Nat} {react : Reaction Board Adjustment}
  {seen : World Board Adjustment → Prop} {line : Line} {stored held : LineSetting}

theorem call_changing (call : Call) (plain : (Effect.call call).Plain) :
    Leads (hardware number) react seen (Changing line stored held)
      (fun _ => Changing line stored held) (perform (.call call)) := by
  apply Leads.perform (.call call) id
  intro world h
  rw [World.respond_call]
  exact ⟨h.get, fun other => (setting_respond plain world.board other).trans (h.setting other)⟩

theorem isEnabled_changing :
    Leads (hardware number) react seen (Changing line stored held)
      (fun on world => on = held.enabled ∧ Changing line stored held world)
      (Routine.lines (.isEnabled line)) := by
  apply Leads.perform (.call (.lines (.isEnabled line))) id
  intro world h
  have on : world.board.lines.enabled.meets line.mask = held.enabled := by
    have := h.setting line
    rw [if_pos rfl] at this
    rw [Line.meets_mask, ← this]
    rfl
  rw [World.respond_call]
  exact ⟨on, h.get, h.setting⟩

theorem setEnabled_changing (on : Bool) :
    Leads (hardware number) react seen (Changing line stored held)
      (fun result world => result = .ok () ∧ Changing line stored { held with enabled := on } world)
      (Routine.lines (.setEnabled line on)) := by
  apply Leads.perform (.call (.lines (.setEnabled line on))) id
  intro world h
  rw [World.respond_call]
  refine ⟨rfl, h.get, ?_⟩
  intro other
  refine (LineBank.setting_setEnabled world.board.lines line other on).trans ?_
  rw [h.setting other]
  split <;> rfl

theorem attempt_setEnabled_changing (on : Bool) {failed : World Board Adjustment → Prop} :
    Leads (hardware number) react seen (Changing line stored held)
      (either (fun _ => Changing line stored { held with enabled := on }) failed)
      (attempt (Routine.lines (.setEnabled line on))).run :=
  (setEnabled_changing on).weaken (fun _ h => h) fun result world h => by
    obtain ⟨rfl, changing⟩ := h
    exact changing

theorem configureTrigger_changing (trigger : Trigger) :
    Leads (hardware number) react seen (Changing line stored held)
      (fun result => match result with
        | .ok _ => Changing line stored { held with trigger := some trigger }
        | .error _ => Changing line stored held)
      (Routine.lines (.configureTrigger line trigger)) := by
  apply Leads.perform (.call (.lines (.configureTrigger line trigger))) id
  intro world h
  rw [World.respond_call]
  simp only [hardware, Board.respond]
  rcases world.board.lines.configureTrigger_cases line trigger with refused | accepted
  · rw [refused]
    exact ⟨h.get, h.setting⟩
  · rw [accepted]
    refine ⟨h.get, ?_⟩
    intro other
    refine (LineBank.setting_program world.board.lines line other trigger).trans ?_
    rw [h.setting other]
    split <;> rfl

theorem readLine_changing :
    Leads (hardware number) react seen (Changing line stored held)
      (fun setting world => setting = stored ∧ Changing line stored held world)
      (perform (.readLine line)) :=
  Leads.perform (.readLine line) id fun _ h => ⟨h.get, h.get, h.setting⟩

theorem writeLine_changing :
    Leads (hardware number) react seen (Changing line stored held) (fun _ => Agrees)
      (perform (.writeLine line held)) := by
  apply Leads.perform (.writeLine line held) id
  intro world h other
  have stored := LineTable.get_set world.lines line other held
  exact (h.setting other).trans stored.symm

theorem switch_agrees (line : Line) (on : Bool) :
    Upholds (hardware number) react Agrees (LineControl.switch line on).run := by
  have switched (stored : LineSetting) :
      Leads (hardware number) react Agrees (Changing line stored stored)
        (either (fun _ => Agrees) Agrees) (LineControl.switch line on).run := by
    apply Leads.andThen (attempt_setEnabled_changing on)
    intro _
    apply Leads.andThen (Leads.observe readLine_changing)
    intro setting
    apply Leads.given
    rintro rfl
    exact Leads.observe writeLine_changing
  exact ⟨fun {world} h => of_either ((switched _).final (h.changing line)),
    fun {world} h => (switched _).entry (h.changing line)⟩

/-- Programs the trigger of a line that is off, puts its enable bit back, and stores what
has come of it. Nothing is stored if the programming was refused. -/
theorem program_agrees {trigger : Trigger} {was : Option Trigger} {on : Bool}
    {restore : Routine (Except Fault Unit)}
    (restores : ∀ held : Option Trigger,
      Leads (hardware number) react Agrees (Changing line ⟨was, on⟩ ⟨held, false⟩)
        (fun result world => result = .ok () ∧ Changing line ⟨was, on⟩ ⟨held, on⟩ world)
        restore) :
    Leads (hardware number) react Agrees (Changing line ⟨was, on⟩ ⟨was, false⟩)
      (either (fun _ => Agrees) Agrees) (show Guarded Unit from do
        Routine.lines (.clearStatus line.mask)
        let programmed ← observe (Routine.lines (.configureTrigger line trigger))
        let restored ← observe restore
        conclude programmed
        conclude restored
        perform (.writeLine line ⟨some trigger, on⟩)).run := by
  apply Leads.andThen (Leads.observe (call_changing (.lines (.clearStatus line.mask)) trivial))
  intro _
  apply Leads.andThen (Leads.observe (configureTrigger_changing trigger))
  intro programmed
  cases programmed with
  | ok _ =>
      apply Leads.andThen (Leads.observe (restores (some trigger)))
      intro restored
      apply Leads.given
      rintro rfl
      apply Leads.andThen Leads.conclude_ok
      intro _
      apply Leads.andThen Leads.conclude_ok
      intro _
      exact Leads.observe writeLine_changing
  | error fault =>
      apply Leads.andThen (Leads.observe (restores was))
      intro _
      exact Leads.conclude_error fun _ h => h.2.agrees

theorem retrigger_agrees (line : Line) (trigger : Trigger) :
    Upholds (hardware number) react Agrees (LineControl.retrigger line trigger).run := by
  have retriggered (stored : LineSetting) :
      Leads (hardware number) react Agrees (Changing line stored stored)
        (either (fun _ => Agrees) Agrees) (LineControl.retrigger line trigger).run := by
    obtain ⟨was, on⟩ := stored
    unfold LineControl.retrigger
    apply Leads.andThen (Leads.observe isEnabled_changing)
    intro wasEnabled
    apply Leads.given
    rintro rfl
    cases wasEnabled with
    | true =>
        apply Leads.andThen (attempt_setEnabled_changing false)
        intro _
        exact program_agrees fun _ => setEnabled_changing true
    | false => exact program_agrees fun _ => Leads.pure fun _ h => ⟨rfl, h⟩
  exact ⟨fun {world} h => of_either ((retriggered _).final (h.changing line)),
    fun {world} h => (retriggered _).entry (h.changing line)⟩

end

/-! ## Programmed lines -/

def programs (line : Line) : Event Adjustment → Bool
  | .performed (.call (.lines (.configureTrigger other _))) (.ok _) => other = line
  | _ => false

/-- The bank has marked exactly the lines whose trigger was ever programmed. -/
def Recorded (world : World Board Adjustment) : Prop :=
  ∀ line : Line, world.board.lines.configured.getLsbD line.val = world.trace.any (programs line)

theorem Recorded.log {world : World Board Adjustment} {event : Event Adjustment}
    (h : Recorded world) (other : ∀ line, programs line event = false) :
    Recorded (world.log event) := fun line => by
  simpa [other] using h line

variable {number : Peripheral → Nat} {react : Reaction Board Adjustment}

theorem Recorded.configureTrigger {world : World Board Adjustment} (line : Line)
    (trigger : Trigger) (h : Recorded world) :
    Recorded (world.respond (hardware number) react
      (.call (.lines (.configureTrigger line trigger)))).2 := by
  intro other
  rw [World.respond_call]
  simp only [hardware, Board.respond]
  rcases world.board.lines.configureTrigger_cases line trigger with refused | accepted
  · rw [refused]
    exact (h other).trans (by simp [programs])
  · have injected : (world.board.lines.deliverInjected line).configured =
        world.board.lines.configured := by
      unfold LineBank.deliverInjected
      split <;> rfl
    rw [accepted]
    simp only [LineBank.program, BitVec.getLsbD_or, injected, Line.getLsbD_mask, h other]
    simp [programs, Bool.or_comm, Fin.val_inj]

theorem Recorded.respond {world : World Board Adjustment} {effect : Effect}
    (quiet : ¬ effect.Invokes) (h : Recorded world) :
    Recorded (world.respond (hardware number) react effect).2 := by
  cases effect with
  | invoke _ _ _ => exact absurd trivial quiet
  | call c =>
      have unmarked (same : (world.board.respond c).2.lines.configured =
            world.board.lines.configured)
          (other : ∀ line answer, programs line (.performed (.call c) answer) = false) :
          Recorded (world.respond (hardware number) react (.call c)).2 := by
        intro line
        rw [World.respond_call]
        simpa [hardware, same, other] using h line
      cases c with
      | lines c =>
          cases c with
          | configureTrigger line trigger => exact h.configureTrigger line trigger
          | _ => exact unmarked rfl fun _ _ => rfl
      | _ => exact unmarked rfl fun _ _ => rfl
  | _ => exact h.log fun _ => rfl

/-! ## Reachable worlds -/

theorem Agrees.respond {world : World Board Adjustment} {effect : Effect} (plain : effect.Plain)
    (h : Agrees world) : Agrees (world.respond (hardware number) react effect).2 := by
  cases effect with
  | invoke _ _ _ => exact plain.elim
  | writeLine _ _ => exact plain.elim
  | call c =>
      rw [World.respond_call]
      exact fun line => (setting_respond plain world.board line).trans (h line)
  | _ => exact h

/-- The command is neither a restart nor a direct call that programs a trigger or writes an
enable bit. -/
def ThroughOperations : Command Adjustment → Prop
  | .restart => False
  | .step step =>
      match step.action with
      | .call c => (Effect.call c).Plain
      | _ => True

theorem agrees_assembled (number : Peripheral → Nat) (react : Reaction Board Adjustment) :
    Assembled fun α =>
      Upholds (α := α) (hardware number) react fun world => Agrees world ∧ Recorded world := by
  have recorded : Assembled fun α => Upholds (α := α) (hardware number) react Recorded :=
    Upholds.sequential.assembled fun effect quiet =>
      Upholds.perform effect quiet fun _ h => h.respond quiet
  exact {
    toSequential := Upholds.sequential
    perform := fun effect plain =>
      Upholds.perform effect plain.quiet fun _ h => ⟨h.1.respond plain, h.2.respond plain.quiet⟩
    retrigger := fun line trigger => (retrigger_agrees line trigger).and (recorded.retrigger _ _)
    switch := fun line on => (switch_agrees line on).and (recorded.switch _ _) }

theorem agrees_invariant (number : Peripheral → Nat) :
    (rig number).Invariant ThroughOperations
      fun (_ : Unit) world => Agrees world ∧ Recorded world where
  began _ _ _ h := ⟨h.1, h.2.log fun _ => rfl⟩
  ended _ _ _ h := ⟨h.1, h.2.log fun _ => rfl⟩
  operate _ operation react keeps _ _ := by
    have parts := agrees_assembled number react
    refine parts.operation _ (parts.dispatch ?_) operation
    intro source callback index
    refine Upholds.invoke source callback index ?_ (keeps ())
    intro v h
    constructor
    · intro line
      rw [Invocation.board_entry, Invocation.lines_entry]
      exact h.1 line
    · intro line
      simpa [programs] using h.2 line
  call _ c react _ world plain h := ⟨h.1.respond plain, h.2.respond id⟩
  adjust _ adjustment _ world _ h := by
    cases adjustment with
    | isEnabled n => exact ⟨h.1, h.2.log fun _ => rfl⟩
    | stimulate stimulus =>
        have unmarked : (world.board.stimulate stimulus).lines.configured =
            world.board.lines.configured := by cases stimulus <;> rfl
        constructor
        · intro line
          exact (setting_stimulate stimulus world.board line).trans (h.1 line)
        · intro line
          simpa [rig, adjust, unmarked, programs] using h.2 line
  -- A restart empties the table, but the registers keep what they hold.
  restart _ _ _ _ forbidden := forbidden.elim

/-- In every world that a session on a new board reaches, between its commands and inside
callbacks, the stored enabled flag of a line is the enable bit of its bank and the stored
trigger is the one that the registers hold; there is none exactly if none was ever
programmed. This holds whatever was refused, as long as nobody goes behind the back of the
operations. -/
theorem lines_agree (number : Peripheral → Nat) (behaviour : Behaviour Board Adjustment)
    (budget : Nat) (commands : List (Command Adjustment)) (world : World Board Adjustment)
    (bodies : ∀ callback index world,
      (behaviour callback index world).Only fun step => ThroughOperations (.step step))
    (throughout : ∀ command ∈ commands, ThroughOperations command)
    (reached : (rig number).Reachable behaviour budget Board.initial commands world)
    (line : Line) :
    (world.lines.get line).enabled = world.board.lines.enabled.getLsbD line.val ∧
    (world.lines.get line).trigger = world.board.lines.trigger? line ∧
    ((world.lines.get line).trigger = none ↔
      ∀ event ∈ world.trace, programs line event = false) := by
  have fresh : Agrees (World.initial Board.initial) ∧ Recorded (World.initial Board.initial) := by
    constructor
    · intro line
      simp [World.initial, Board.initial, LineBank.setting_initial]
    · intro line
      simp [World.initial, Board.initial, LineBank.initial]
  have parts := agrees_assembled number ((rig number).reentrant behaviour budget)
  have started := (parts.start (rig number).hardware.vectors).final fresh
  obtain ⟨agrees, recorded⟩ :=
    (agrees_invariant number).reaches (j := ()) bodies reached throughout started
  have same : world.board.lines.setting line = world.lines.get line := agrees line
  have trigger : (world.lines.get line).trigger = world.board.lines.trigger? line := by
    rw [← same]
    rfl
  have enabled : (world.lines.get line).enabled = world.board.lines.enabled.getLsbD line.val := by
    rw [← same]
    rfl
  refine ⟨enabled, trigger, ?_⟩
  rw [trigger, LineBank.trigger?, Line.meets_mask, recorded line]
  cases h : world.trace.any (programs line) with
  | true => simpa using List.any_eq_true.1 h
  | false => simpa using h

/-- A line that is enabled keeps its setting through a refused change; the callback that is
told of it meanwhile disables another. -/
theorem lines_agree_refused :
    let told : Callback := ⟨.routine, 1, .gpio .risingEdge, 1⟩
    let operate (operation : Operation) : Step Adjustment := ⟨"", .operate operation⟩
    let stimulate (stimulus : Stimulus) : Step Adjustment := ⟨"", .adjust (.stimulate stimulus)⟩
    let commands := [operate (.register (.gpio 3) told), operate (.enable (.gpio 3)),
      operate (.enable (.gpio 4)), stimulate (.failConfigure 0x8),
      operate (.retrigger 3 .levelLow), stimulate (.raiseLines 0x8), operate (.dispatch .gpio)]
    let behaviour : Behaviour Board Adjustment := fun _ _ _ =>
      Body.ofSteps [operate (.disable (.gpio 4))]
    ∃ world, (rig Simulated.number).Reachable behaviour 1 Board.initial
        (commands.map Command.step) world ∧
      world.lines.get 3 = ⟨some .risingEdge, true⟩ ∧ world.lines.get 4 = ⟨none, false⟩ ∧
      (world.lines.get 3).trigger = world.board.lines.trigger? 3 := by
  intro told operate stimulate commands behaviour
  have reached : (rig Simulated.number).Reachable behaviour 1 Board.initial
      (commands.map Command.step) _ :=
    .later rfl (.later rfl (.later rfl (.later rfl (.later rfl (.later rfl (.later rfl
      (.here _ _)))))))
  have bodies (callback : Callback) (index : Nat) (world : World Board Adjustment) :
      (behaviour callback index world).Only fun step => ThroughOperations (.step step) :=
    ⟨trivial, fun _ => trivial⟩
  have throughout : ∀ command ∈ commands.map Command.step, ThroughOperations command := by
    simp [commands, ThroughOperations, operate, stimulate]
  exact ⟨_, reached, by decide +kernel, by decide +kernel,
    (lines_agree _ _ _ _ _ bodies throughout reached 3).2.1⟩

end Interrupts.Simulated
