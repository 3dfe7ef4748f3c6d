import Interrupts.Proofs.Run.Calls
import Interrupts.Proofs.Run.Kept

/-! # Following a list of calls

A program that only makes calls which can be refused, and that ends with the first refusal,
has a list of calls in front of it. `Follows` is what may come of that on hardware that
refuses as it likes: a prefix of the list, up to the first refused call, and the flags that
the accepted calls on lines have stored. Its rules are the ways in which programs are put
together, so that the list of a program is read off its text.
-/

namespace Interrupts

open Routine Guarded

def Call.recorded (call : Call) (table : LineTable) : LineTable :=
  match call with
  | .lines (.setEnabled line on) => table.set line { table.get line with enabled := on }
  | _ => table

theorem Call.get_recorded (call : Call) (table : LineTable) (line : Line) :
    (∃ on, call = .lines (.setEnabled line on) ∧
      (call.recorded table).get line = { table.get line with enabled := on }) ∨
    (∀ on, call ≠ .lines (.setEnabled line on)) ∧
      (call.recorded table).get line = table.get line := by
  by_cases h : ∃ on, call = .lines (.setEnabled line on)
  · obtain ⟨on, rfl⟩ := h
    exact .inl ⟨on, rfl, by simp [recorded]⟩
  · refine .inr ⟨fun on same => h ⟨on, same⟩, ?_⟩
    unfold recorded
    split
    next other on =>
      have differs : other ≠ line := fun same => h ⟨on, by rw [same]⟩
      rw [LineTable.get_set, if_neg differs]
    next => rfl

variable {β : Type} {hardware : Hardware β}

/-- The bank has been told to turn the line on or off, and has done so. -/
def Asked.Switches (hardware : Hardware β) (asked : Asked β) (line : Line) (on : Bool) : Prop :=
  asked.call = .lines (.setEnabled line on) ∧ asked.fault? hardware = none

theorem State.run_switch (hardware : Hardware β) (line : Line) (on : Bool) (state : State β) :
    state.run hardware (LineControl.switch line on).run =
      let asked := hardware.askLines (.setEnabled line on) state.board
      match asked.1 with
      | .ok () => (.ok (), { state with
          board := asked.2
          lines := Call.recorded (.lines (.setEnabled line on)) state.lines })
      | .error fault => (.error fault, { state with board := asked.2 }) := by
  have first : state.run hardware (attempt (Routine.lines (.setEnabled line on))).run =
      ((hardware.askLines (.setEnabled line on) state.board).1,
        { state with board := (hardware.askLines (.setEnabled line on) state.board).2 }) := rfl
  dsimp only
  cases answer : (hardware.askLines (.setEnabled line on) state.board).1 with
  | ok value => exact State.run_andThen_ok hardware (answer ▸ first)
  | error fault => exact State.run_andThen_error hardware (answer ▸ first)

/-- With these calls in front and this line table, these calls are made; then comes this
result, and this line table is left. -/
inductive Follows (hardware : Hardware β) :
    LineTable → List Call → List (Asked β) → Except Fault Unit → LineTable → Prop
  | finished (table : LineTable) : Follows hardware table [] [] (.ok ()) table
  | refused (table : LineTable) {asked : Asked β} {fault : Fault} (rest : List Call) :
      asked.fault? hardware = some fault →
      Follows hardware table (asked.call :: rest) [asked] (.error fault) table
  | accepted {table last : LineTable} {asked : Asked β} {rest : List Call}
      {made : List (Asked β)} {result : Except Fault Unit} :
      asked.fault? hardware = none →
      Follows hardware (asked.call.recorded table) rest made result last →
      Follows hardware table (asked.call :: rest) (asked :: made) result last

namespace Follows

variable {table last final : LineTable} {calls more : List Call} {made later : List (Asked β)}
  {result : Except Fault Unit}

theorem append (first : Follows hardware table calls made (.ok ()) last)
    (second : Follows hardware last more later result final) :
    Follows hardware table (calls ++ more) (made ++ later) result final := by
  generalize ok : Except.ok () = done at first
  induction first with
  | finished table => exact second
  | refused => cases ok
  | accepted pass _ ih => exact .accepted pass (ih second ok)

/-- After a refusal it does not matter what else was in front. -/
theorem extend {fault : Fault} (first : Follows hardware table calls made (.error fault) last)
    (more : List Call) : Follows hardware table (calls ++ more) made (.error fault) last := by
  generalize refusal : Except.error fault = stopped at first ⊢
  induction first with
  | finished => cases refusal
  | refused table rest refuses => exact .refused table (rest ++ more) refuses
  | accepted pass _ ih => exact .accepted pass (ih refusal)

theorem isPrefix (follows : Follows hardware table calls made result last) :
    made.map Asked.call <+: calls := by
  induction follows with
  | finished => exact List.nil_prefix
  | refused _ rest => exact ⟨rest, rfl⟩
  | @accepted _ _ asked _ _ _ _ _ ih => exact List.prefix_cons_inj asked.call |>.2 ih

/-- Either all calls are made and none is refused, or the last one made is the first one
refused, and its fault is passed on. -/
theorem ending (follows : Follows hardware table calls made result last) :
    (result = .ok () ∧ made.map Asked.call = calls ∧
      ∀ asked ∈ made, asked.fault? hardware = none) ∨
    ∃ earlier asked fault, made = earlier ++ [asked] ∧
      (∀ before ∈ earlier, before.fault? hardware = none) ∧
      asked.fault? hardware = some fault ∧ result = .error fault := by
  induction follows with
  | finished => exact .inl ⟨rfl, rfl, by simp⟩
  | @refused _ asked fault rest refuses =>
      exact .inr ⟨[], asked, fault, rfl, by simp, refuses, rfl⟩
  | @accepted _ _ asked rest made result pass _ ih =>
      rcases ih with ⟨ok, all, none⟩ | ⟨earlier, final, fault, split, none, refuses, error⟩
      · exact .inl ⟨ok, congrArg (asked.call :: ·) all, List.forall_mem_cons.2 ⟨pass, none⟩⟩
      · exact .inr ⟨asked :: earlier, final, fault, congrArg (asked :: ·) split,
          List.forall_mem_cons.2 ⟨pass, none⟩, refuses, error⟩

theorem stored (follows : Follows hardware table calls made result last) (line : Line) :
    (∃ on, (∃ asked ∈ made, asked.Switches hardware line on) ∧
      last.get line = { table.get line with enabled := on }) ∨
    (∀ asked ∈ made, ∀ on, ¬ asked.Switches hardware line on) ∧
      last.get line = table.get line := by
  induction follows with
  | finished => exact .inr ⟨by simp, rfl⟩
  | refused table rest refuses =>
      refine .inr ⟨List.forall_mem_singleton.2 fun on switches => ?_, rfl⟩
      cases refuses.symm.trans switches.2
  | @accepted table last asked rest made result pass _ ih =>
      have now := asked.call.get_recorded table line
      rcases ih with ⟨on, ⟨later, made, switches⟩, written⟩ | ⟨none, kept⟩
      · -- A later call on the same line has the last word about the flag.
        refine .inl ⟨on, ⟨later, List.mem_cons_of_mem _ made, switches⟩, written.trans ?_⟩
        rcases now with ⟨_, -, stored⟩ | ⟨-, kept⟩
        · rw [stored]
        · rw [kept]
      · rcases now with ⟨on, isCall, stored⟩ | ⟨other, same⟩
        · exact .inl ⟨on, ⟨asked, List.mem_cons_self, isCall, pass⟩, kept.trans stored⟩
        · exact .inr ⟨List.forall_mem_cons.2 ⟨fun on switches => other on switches.1, none⟩,
            kept.trans same⟩

theorem trigger (follows : Follows hardware table calls made result last) (line : Line) :
    (last.get line).trigger = (table.get line).trigger := by
  rcases follows.stored line with ⟨on, -, stored⟩ | ⟨-, kept⟩
  · rw [stored]
  · rw [kept]

end Follows

/-! ## Programs -/

/-- Begun with lines that have these triggers, the program has these calls in front of it. -/
def Pursues (hardware : Hardware β) (triggers : Line → Option Trigger) (program : Guarded Unit)
    (calls : List Call) : Prop :=
  ∀ state : State β, (∀ line, (state.lines.get line).trigger = triggers line) →
    Follows hardware state.lines calls (state.calls hardware program.run)
      (state.run hardware program.run).1 (state.run hardware program.run).2.lines

namespace Pursues

variable {triggers : Line → Option Trigger} {calls more : List Call}

theorem succeed : Pursues hardware triggers (pure ()) [] := fun _ _ => .finished _

theorem andThen {program : Guarded Unit} {rest : Unit → Guarded Unit}
    (first : Pursues hardware triggers program calls)
    (later : Pursues hardware triggers (rest ()) more) :
    Pursues hardware triggers (program >>= rest) (calls ++ more) := by
  intro state given
  have follows := first state given
  rw [State.calls_andThen, State.run_andThen]
  generalize state.run hardware program.run = ran at follows ⊢
  obtain ⟨result, between⟩ := ran
  cases result with
  | ok value =>
      have kept (line : Line) : (between.lines.get line).trigger = triggers line :=
        (follows.trigger line).trans (given line)
      exact follows.append (later between kept)
  | error fault =>
      rw [List.append_nil]
      exact follows.extend more

theorem each {ι : Type} {act : ι → Guarded Unit} {callsOf : ι → List Call} {items : List ι}
    (pursues : ∀ item ∈ items, Pursues hardware triggers (act item) (callsOf item)) :
    Pursues hardware triggers (each act items) (items.flatMap callsOf) := by
  induction items with
  | nil => exact succeed
  | cons item rest ih =>
      rw [List.forall_mem_cons] at pursues
      rw [List.flatMap_cons]
      exact pursues.1.andThen (ih pursues.2)

theorem map {ι : Type} {act : ι → Guarded Unit} {callOf : ι → Call} {items : List ι}
    (pursues : ∀ item ∈ items, Pursues hardware triggers (act item) [callOf item]) :
    Pursues hardware triggers (Guarded.each act items) (items.map callOf) := by
  rw [List.map_eq_flatMap]
  exact each pursues

theorem once {call : Call} {program : Guarded Unit}
    (asks : ∀ state : State β, state.calls hardware program.run = [⟨call, state.board⟩])
    (ends : ∀ state : State β, Outcome.ofResult (state.run hardware program.run).1 =
      Outcome.ofAnswer call (hardware.respond call state.board).1)
    (stores : ∀ state : State β, (state.run hardware program.run).2.lines =
      match (state.run hardware program.run).1 with
      | .ok () => call.recorded state.lines
      | .error _ => state.lines) :
    Pursues hardware triggers program [call] := by
  intro state _
  have answer := ends state
  rw [asks, stores]
  cases ended : (state.run hardware program.run).1 with
  | ok value =>
      have pass : (Asked.mk call state.board).fault? hardware = none := by
        rw [Asked.fault?, ← answer, ended]
        rfl
      exact .accepted pass (.finished _)
  | error fault =>
      have refuses : (Asked.mk call state.board).fault? hardware = some fault := by
        rw [Asked.fault?, ← answer, ended]
        rfl
      exact .refused state.lines [] refuses

theorem plain {call : Call} {program : Guarded Unit}
    (asks : ∀ state : State β, state.calls hardware program.run = [⟨call, state.board⟩])
    (ends : ∀ state : State β, Outcome.ofResult (state.run hardware program.run).1 =
      Outcome.ofAnswer call (hardware.respond call state.board).1)
    (keeps : ∀ state : State β, (state.run hardware program.run).2.lines = state.lines)
    (other : ∀ table, call.recorded table = table) :
    Pursues hardware triggers program [call] :=
  once asks ends fun state => by rw [keeps, other]; split <;> rfl

theorem switch (line : Line) (on : Bool) :
    Pursues hardware triggers (LineControl.switch line on) [.lines (.setEnabled line on)] := by
  have asks (state : State β) : state.calls hardware (LineControl.switch line on).run =
      [⟨.lines (.setEnabled line on), state.board⟩] := by
    rw [LineControl.switch, State.calls_andThen]
    split <;> rfl
  have ran (state : State β) := State.run_switch hardware line on state
  refine once asks (fun state => ?_) fun state => ?_
  · rw [ran]
    change _ = Outcome.ofResult (hardware.askLines (.setEnabled line on) state.board).1
    dsimp only
    cases (hardware.askLines (.setEnabled line on) state.board).1 <;> rfl
  · rw [ran]
    dsimp only
    cases (hardware.askLines (.setEnabled line on) state.board).1 <;> rfl

theorem noted {program : Guarded Unit} (pursues : Pursues hardware triggers program calls)
    (notice : Notice) :
    Pursues hardware triggers (do program; note notice) calls := by
  have silent : Pursues hardware triggers (note notice) [] := fun _ _ => .finished _
  rw [← List.append_nil calls]
  exact pursues.andThen silent

end Pursues

end Interrupts
