import Interrupts.Proofs.Independence.Commutes
import Interrupts.Proofs.Simulated.Calls

/-! # The places of the state

The state of a simulated board and its tables consists of many small places: the entry of a
source, the stored setting of a line, the bits of a line in all registers of its bank, a
vector, the clock, a serial channel. What is at all places is the whole state. An effect that
works on a single source works at one of these places and depends on nothing else, so effects
at different places commute.
-/

namespace Interrupts

theorem Registry.eq_of_find? {a b : Registry} (h : ∀ source, a.find? source = b.find? source) :
    a = b := by
  have listed : a.slots.toList = b.slots.toList := by
    rw [toList_slots, toList_slots]
    exact List.map_congr_left fun source _ => h source
  obtain ⟨a⟩ := a
  obtain ⟨b⟩ := b
  exact congrArg Registry.mk (Vector.toList_inj.1 listed)

theorem LineTable.eq_of_get {a b : LineTable} (h : ∀ line, a.get line = b.get line) : a = b := by
  obtain ⟨a⟩ := a
  obtain ⟨b⟩ := b
  congr 1
  ext i hi : 1
  exact h ⟨i, hi⟩

def ControllerCall.vector : ControllerCall → Nat
  | enable n | disable n | isPending n | clearPending n | setPriority n _ | priority n => n

namespace Simulated

inductive Place where
  | entry (source : Source)
  | setting (line : Line)
  /-- The bits with one index in all registers of the line bank. -/
  | bits (index : Nat)
  | vector (n : Nat)
  | clock
  | channel (channel : Channel)
deriving DecidableEq

/-- What the controller has at a vector. The limit is the same for all of them, and no call
changes it. -/
structure VectorContent where
  enabled : Bool
  pending : Bool
  priority : Option Priority
  limit : Priority

@[reducible] def Place.Content : Place → Type
  | entry _ => Option Callback
  | setting _ => LineSetting
  | bits _ => List Bool
  | vector _ => VectorContent
  | clock => Clock
  | channel _ => SerialChannel

def LineBank.column (bank : LineBank) (index : Nat) : List Bool :=
  [bank.input, bank.enabled, bank.edge, bank.activeLow, bank.dualEdge, bank.configured,
    bank.status, bank.late, bank.injected, bank.fired, bank.failing].map (·.getLsbD index)

def Controller.content (controller : Controller) (n : Nat) : VectorContent :=
  ⟨controller.isEnabled n, controller.isPending n, controller.priorities[n]?, controller.limit⟩

def content (state : State Board) : (place : Place) → place.Content
  | .entry source => state.registry.find? source
  | .setting line => state.lines.get line
  | .bits index => state.board.lines.column index
  | .vector n => state.board.controller.content n
  | .clock => state.board.clock
  | .channel channel => state.board.serial.get channel

/-! ## What is at all places is everything -/

namespace LineBank

theorem column_eq_iff {a b : LineBank} {i : Nat} : a.column i = b.column i ↔
    a.input.getLsbD i = b.input.getLsbD i ∧ a.enabled.getLsbD i = b.enabled.getLsbD i ∧
    a.edge.getLsbD i = b.edge.getLsbD i ∧ a.activeLow.getLsbD i = b.activeLow.getLsbD i ∧
    a.dualEdge.getLsbD i = b.dualEdge.getLsbD i ∧
    a.configured.getLsbD i = b.configured.getLsbD i ∧
    a.status.getLsbD i = b.status.getLsbD i ∧ a.late.getLsbD i = b.late.getLsbD i ∧
    a.injected.getLsbD i = b.injected.getLsbD i ∧ a.fired.getLsbD i = b.fired.getLsbD i ∧
    a.failing.getLsbD i = b.failing.getLsbD i := by
  simp only [column, List.map_cons, List.map_nil, List.cons.injEq, and_true]

theorem eq_of_column {a b : LineBank} (h : ∀ index, a.column index = b.column index) :
    a = b := by
  simp only [column_eq_iff] at h
  obtain ⟨⟩ := a
  obtain ⟨⟩ := b
  simp only [LineBank.mk.injEq]
  refine ⟨?_, ?_, ?_, ?_, ?_, ?_, ?_, ?_, ?_, ?_, ?_⟩ <;>
    refine BitVec.eq_of_getLsbD_eq fun i _ => ?_ <;> simp only [h i]

end LineBank

namespace Controller

theorem content_eq_iff {a b : Controller} {n : Nat} : a.content n = b.content n ↔
    a.enabled.getLsbD n = b.enabled.getLsbD n ∧ a.pending.getLsbD n = b.pending.getLsbD n ∧
      a.priorities[n]? = b.priorities[n]? ∧ a.limit = b.limit := by
  simp only [content, VectorContent.mk.injEq, isEnabled, isPending]

theorem eq_of_content {a b : Controller} (h : ∀ n, a.content n = b.content n) : a = b := by
  simp only [content_eq_iff] at h
  obtain ⟨enabled, pending, priorities, limit⟩ := a
  obtain ⟨enabled', pending', priorities', limit'⟩ := b
  simp only [Controller.mk.injEq]
  refine ⟨BitVec.eq_of_getLsbD_eq fun i _ => (h i).1,
    BitVec.eq_of_getLsbD_eq fun i _ => (h i).2.1, ?_, (h 0).2.2.2⟩
  ext i hi : 1
  simpa [hi] using (h i).2.2.1

end Controller

theorem eq_of_content {s t : State Board} (h : content s = content t) : s = t := by
  have same (place : Place) : content s place = content t place := congrFun h place
  obtain ⟨⟨controller, lines, clock, serial⟩, registry, table⟩ := s
  obtain ⟨⟨controller', lines', clock', serial'⟩, registry', table'⟩ := t
  have entries : registry = registry' := Registry.eq_of_find? fun source => same (.entry source)
  have settings : table = table' := LineTable.eq_of_get fun line => same (.setting line)
  have banks : lines = lines' := LineBank.eq_of_column fun index => same (.bits index)
  have controllers : controller = controller' :=
    Controller.eq_of_content fun n => same (.vector n)
  have clocks : clock = clock' := same .clock
  have channels : serial = serial' := by
    ext i hi : 1
    exact same (.channel ⟨i, hi⟩)
  rw [entries, settings, banks, controllers, clocks, channels]

/-! ## Calls at one place -/

namespace LineBank

/-- The registers keep a bit for each line, and a call reads and writes the bits of its own. -/
theorem confined {line : Line} {c : LineCall} (h : c.IsOf line) :
    Confined column line.val (respond c) := by
  cases h with
  | setInput =>
      refine ⟨fun _ => rfl, fun same => ?_, fun s j apart => ?_⟩
      · rw [column_eq_iff] at same ⊢
        simp [respond, same]
      · simp [column, respond, apart]
  | configureTrigger trigger =>
      refine ⟨fun same => ?_, fun same => ?_, fun s j apart => ?_⟩
      · rw [column_eq_iff] at same
        simp only [respond, Line.meets_mask, same]
        split <;> rfl
      · rw [column_eq_iff] at same ⊢
        simp only [respond, Line.meets_mask, same, deliverInjected]
        split
        · exact same
        · split
          · simp only [program, Word.getLsbD_write, Word.getLsbD_without, BitVec.getLsbD_or, same]
            split <;> simp [same]
          · simp [program, Word.getLsbD_write, same]
      · simp only [respond, deliverInjected]
        split
        · rfl
        · split
          · simp only [column, program]
            split <;> simp [Word.getLsbD_write, Word.getLsbD_without, apart]
          · simp [column, program, Word.getLsbD_write, apart]
  | setEnabled on =>
      refine ⟨fun _ => rfl, fun same => ?_, fun s j apart => ?_⟩
      · rw [column_eq_iff] at same ⊢
        simp [respond, Word.getLsbD_write, same]
      · simp [column, respond, Word.getLsbD_write, apart]
  | isEnabled =>
      refine .look fun same => ?_
      rw [column_eq_iff] at same
      simp only [Line.meets_mask, same]
  | clearStatus =>
      refine ⟨fun _ => rfl, fun same => ?_, fun s j apart => ?_⟩
      · rw [column_eq_iff] at same ⊢
        simp [respond, Word.getLsbD_without, same]
      · simp [column, respond, Word.getLsbD_without, apart]

end LineBank

namespace Controller

theorem getLsbD_or_bit {n m : Nat} (apart : n ≠ m) (w : BitVec 64) :
    (w ||| bit n).getLsbD m = w.getLsbD m := by
  simp [getLsbD_bit, apart]

theorem getLsbD_without_bit {n m : Nat} (apart : n ≠ m) (w : BitVec 64) :
    (w &&& ~~~bit n).getLsbD m = w.getLsbD m := by
  rw [BitVec.getLsbD_and, BitVec.getLsbD_not, getLsbD_bit]
  by_cases inside : m < 64
  · simp [apart, inside]
  · rw [BitVec.getLsbD_of_ge w m (by omega), Bool.false_and]

theorem confined (c : ControllerCall) : Confined content c.vector (respond c) := by
  cases c with
  | isPending n => exact .look fun same => (content_eq_iff.1 same).2.1
  | priority n =>
      exact .look fun same => congrArg (·.getD 0) (content_eq_iff.1 same).2.2.1
  | enable n =>
      refine .ite ⟨fun _ => rfl, fun same => ?_, fun s m apart => ?_⟩ (.look fun _ => rfl)
      · rw [content_eq_iff] at same ⊢
        exact ⟨by simp only [BitVec.getLsbD_or, same.1], same.2⟩
      · exact content_eq_iff.2 ⟨getLsbD_or_bit apart _, rfl, rfl, rfl⟩
  | disable n =>
      refine .ite ⟨fun _ => rfl, fun same => ?_, fun s m apart => ?_⟩ (.look fun _ => rfl)
      · rw [content_eq_iff] at same ⊢
        exact ⟨by simp only [BitVec.getLsbD_and, same.1], same.2⟩
      · exact content_eq_iff.2 ⟨getLsbD_without_bit apart _, rfl, rfl, rfl⟩
  | clearPending n =>
      refine .ite ⟨fun _ => rfl, fun same => ?_, fun s m apart => ?_⟩ (.look fun _ => rfl)
      · rw [content_eq_iff] at same ⊢
        exact ⟨same.1, by simp only [BitVec.getLsbD_and, same.2.1], same.2.2⟩
      · exact content_eq_iff.2 ⟨rfl, getLsbD_without_bit apart _, rfl, rfl⟩
  | setPriority n priority =>
      -- Whether the priority is taken depends on the limit, which is at every vector.
      refine ⟨fun {s t} same => ?_, fun {s t} same => ?_, fun s m apart => ?_⟩
      · simp only [respond, (content_eq_iff.1 same).2.2.2]
        split
        · split <;> rfl
        · rfl
      · have before := same
        obtain ⟨enabled, pending, -, limit⟩ := content_eq_iff.1 same
        simp only [respond, limit]
        split
        next listed =>
          split
          · exact content_eq_iff.2
              ⟨enabled, pending, by simp [ControllerCall.vector, listed], rfl⟩
          · exact before
        · exact before
      · simp only [respond]
        split
        next listed =>
          split
          · exact content_eq_iff.2 ⟨rfl, rfl, Vector.getElem?_set_ne listed apart, rfl⟩
          · rfl
        · rfl

end Controller

/-! ## Effects at one place -/

inductive WorksAt : Place → Effect → Prop
  | find (source : Source) : WorksAt (.entry source) (.find source)
  | install (source : Source) (callback : Callback) :
      WorksAt (.entry source) (.install source callback)
  | erase (source : Source) : WorksAt (.entry source) (.erase source)
  | readLine (line : Line) : WorksAt (.setting line) (.readLine line)
  | writeLine (line : Line) (setting : LineSetting) :
      WorksAt (.setting line) (.writeLine line setting)
  | lines {line : Line} {c : LineCall} (own : c.IsOf line) :
      WorksAt (.bits line.val) (.call (.lines c))
  | controller (c : ControllerCall) : WorksAt (.vector c.vector) (.call (.controller c))
  | clock (c : ClockCall) : WorksAt .clock (.call (.clock c))
  | serial (channel : Channel) (c : SerialCall) :
      WorksAt (.channel channel) (.call (.serial channel c))

theorem WorksAt.confined (number : Peripheral → Nat) {place : Place} {effect : Effect}
    (works : WorksAt place effect) :
    Confined content place (State.respond (hardware number) effect) := by
  -- Places of another kind lie in another part of the state; `apart` is for those of the same.
  cases works with
  | find source => exact .look fun same => same
  | install source callback =>
      refine ⟨fun same => same, fun _ => ?_, fun s place apart => ?_⟩
      · simp [content, State.respond]
      · cases place with
        | entry other =>
            have apart : source ≠ other := fun same => apart (congrArg _ same)
            exact (Registry.find?_install ..).trans (if_neg apart)
        | _ => rfl
  | erase source =>
      refine ⟨fun {s t} same => ?_, fun _ => ?_, fun s place apart => ?_⟩
      · change s.registry.find? source = t.registry.find? source at same
        simp only [State.respond, Registry.erase, same]
        split <;> rfl
      · simp [content, State.respond]
      · cases place with
        | entry other =>
            have apart : source ≠ other := fun same => apart (congrArg _ same)
            exact (Registry.find?_erase ..).trans (if_neg apart)
        | _ => rfl
  | readLine line => exact .look fun same => same
  | writeLine line setting =>
      refine ⟨fun _ => rfl, fun _ => ?_, fun s place apart => ?_⟩
      · simp [content, State.respond]
      · cases place with
        | setting other =>
            have apart : line ≠ other := fun same => apart (congrArg _ same)
            exact (LineTable.get_set ..).trans (if_neg apart)
        | _ => rfl
  | lines own =>
      have bank := LineBank.confined own
      refine ⟨fun same => bank.answer same, fun same => bank.here same,
        fun s place apart => ?_⟩
      cases place with
      | bits index => exact bank.elsewhere _ fun same => apart (congrArg _ same)
      | _ => rfl
  | controller c =>
      have vector := Controller.confined c
      refine ⟨fun same => vector.answer same, fun same => vector.here same,
        fun s place apart => ?_⟩
      cases place with
      | vector n => exact vector.elsewhere _ fun same => apart (congrArg _ same)
      | _ => rfl
  | clock c =>
      refine ⟨fun same => congrArg (fun clock => (Clock.respond c clock).1) same,
        fun same => congrArg (fun clock => (Clock.respond c clock).2) same,
        fun s place apart => ?_⟩
      cases place with
      | clock => exact absurd rfl apart
      | _ => rfl
  | serial channel c =>
      refine ⟨fun same => congrArg (fun channel => (SerialChannel.respond c channel).1) same,
        fun {s t} same => ?_, fun s place apart => ?_⟩
      · have after (s : State Board) :
            content (State.respond (hardware number) (.call (.serial channel c)) s).2
              (.channel channel) = (SerialChannel.respond c s.board.serial[channel]).2 :=
          Vector.getElem_set_self _
        rw [after, after]
        exact congrArg (fun channel => (SerialChannel.respond c channel).2) same
      · cases place with
        | channel other =>
            have apart : channel.val ≠ other.val :=
              fun same => apart (congrArg _ (Fin.ext same))
            exact Vector.getElem_set_ne channel.isLt other.isLt apart
        | _ => rfl

theorem WorksAt.commutes (number : Peripheral → Nat) {place other : Place}
    {effect later : Effect} (works : WorksAt place effect) (works' : WorksAt other later)
    (apart : place ≠ other) :
    Commutes (State.respond (hardware number) effect) (State.respond (hardware number) later) :=
  (works.confined number).commutes (fun _ _ => eq_of_content) (works'.confined number) apart

end Simulated

end Interrupts
