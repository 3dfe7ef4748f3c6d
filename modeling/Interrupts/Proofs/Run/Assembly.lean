import Interrupts.Operation
import Interrupts.Proofs.Run.Requests

/-! # How operations are assembled

Every operation is put together from single effects by sequencing. A property of
routines that survives sequencing is therefore a property of all operations once it
holds of their parts, and the walk through the operations is made here once for all
such properties.

Most of an operation is a critical section, and what holds inside need not be what holds
outside: the walk is made for a pair of properties, `Layered`, of which the inner one is
asked of the body of a section and the outer one of the operation. The parts inside are
the plain effects and the two ways in which a line is changed. A line is changed by several
effects between which its entry in the table and its bank disagree, so these two routines
count as parts of their own. What switches something on is asked for apart, because many
properties are about what everything else leaves alone; so is what changes the registry,
because there a property may depend on what was done before.

A property that makes no difference between inside and outside is `Assembled`.
-/

namespace Interrupts

namespace Effect

/-- The effect neither hands control to a callback nor changes the trigger or the
enabled flag of a line. -/
def Plain : Effect → Prop
  | invoke _ _ _ | writeLine _ _ => False
  | call (.lines (.configureTrigger _ _)) | call (.lines (.setEnabled _ _)) => False
  | _ => True

def Guards : Effect → Prop
  | mask | restore _ | acquire | release => True
  | _ => False

def Enables : Effect → Prop
  | call (.controller (.enable _)) | call (.clock (.arm _ _)) => True
  | _ => False

def Enrols : Effect → Prop
  | install _ _ | erase _ => True
  | _ => False

theorem Plain.quiet {effect : Effect} (plain : effect.Plain) : ¬ effect.Invokes := by
  intro invokes
  cases effect with
  | invoke _ _ _ => exact plain
  | _ => exact invokes

theorem Enrols.plain {effect : Effect} (enrols : effect.Enrols) :
    effect.Plain ∧ ¬ effect.Guards ∧ ¬ effect.Enables := by
  cases effect with
  | install _ _ => exact ⟨trivial, id, id⟩
  | erase _ => exact ⟨trivial, id, id⟩
  | _ => exact enrols.elim

end Effect

inductive LineCall.IsOf (line : Line) : LineCall → Prop
  | setInput : IsOf line (.setInput line)
  | configureTrigger (trigger : Trigger) : IsOf line (.configureTrigger line trigger)
  | setEnabled (on : Bool) : IsOf line (.setEnabled line on)
  | isEnabled : IsOf line (.isEnabled line)
  | clearStatus : IsOf line (.clearStatus line.mask)

namespace Operation

def Enables : Operation → Prop
  | enable _ | enableAll => True
  | _ => False

def Enrols : Operation → Prop
  | register _ _ | unregister _ | release _ => True
  | _ => False

def Reprograms : Operation → Prop
  | register _ _ | retrigger _ _ => True
  | _ => False

/-- The operation delivers events, so callbacks run while it is under way. -/
def Delivers : Operation → Prop
  | handle _ | dispatch _ => True
  | _ => False

theorem Reprograms.silent {operation : Operation} (h : operation.Reprograms) :
    ¬ operation.Delivers := by
  cases operation with
  | register _ _ => exact id
  | retrigger _ _ => exact id
  | _ => exact h.elim

end Operation

/-- A property of routines that sequencing keeps. -/
structure Sequential (P : (α : Type) → Routine α → Prop) : Prop where
  pure {α : Type} (value : α) : P α (pure value)
  bind {α γ : Type} {routine : Routine α} {rest : α → Routine γ} :
    P α routine → (∀ value, P γ (rest value)) → P γ (routine >>= rest)

/-- A property that sequencing keeps and that holds of all parts of a critical section in
which nothing is switched on and the registry stays as it is. -/
structure Sectional (P : (α : Type) → Routine α → Prop) : Prop extends Sequential P where
  perform (effect : Effect) (plain : effect.Plain) (inside : ¬ effect.Guards)
    (tame : ¬ effect.Enables) (settled : ¬ effect.Enrols) : P _ (Routine.perform effect)
  retrigger (line : Line) (trigger : Trigger) : P _ (LineControl.retrigger line trigger).run
  lineOff (line : Line) : P _ (LineControl.switch line false).run

/-- A property that holds of all parts of any critical section in which the registry stays
as it is. -/
structure Enabling (P : (α : Type) → Routine α → Prop) : Prop extends Sectional P where
  enable (effect : Effect) (enables : effect.Enables) : P _ (Routine.perform effect)
  lineOn (line : Line) : P _ (LineControl.switch line true).run

/-- An inner property of critical sections and an outer one of what they are part of. -/
structure Layered (Inner Outer : (α : Type) → Routine α → Prop) : Prop where
  inside : Sectional Inner
  outside : Sequential Outer
  note (notice : Notice) : Outer _ (Routine.note notice)
  call (c : Call) (plain : (Effect.call c).Plain) (tame : ¬ (Effect.call c).Enables) :
    Outer _ (Routine.perform (.call c))
  critical {α : Type} {body : Routine α} : Inner _ body → Outer _ (Routine.critical body)

/-- A property that sequencing keeps and that holds of all parts of operations. -/
structure Assembled (P : (α : Type) → Routine α → Prop) : Prop extends Sequential P where
  perform (effect : Effect) (plain : effect.Plain) : P _ (Routine.perform effect)
  retrigger (line : Line) (trigger : Trigger) : P _ (LineControl.retrigger line trigger).run
  switch (line : Line) (on : Bool) : P _ (LineControl.switch line on).run

open Routine Guarded

theorem only_sequential {permitted : Effect → Prop} :
    Sequential fun α (routine : Routine α) => routine.Only permitted where
  pure _ := trivial
  bind first later := first.bind later

/-! ## Going through a list -/

def Guarded.each {ι : Type} (act : ι → Guarded Unit) : List ι → Guarded Unit
  | [] => pure ()
  | item :: rest => do
      act item
      each act rest

theorem Global.visit_eq_each (act : Nat × Peripheral → Guarded Unit)
    (entries : List (Nat × Peripheral)) : visit act entries = each act entries := by
  induction entries with
  | nil => rfl
  | cons entry rest ih => rw [visit, each, ih]

theorem LineControl.switchAll_eq_each (on : Bool) (lines : List Line) :
    switchAll on lines = each (fun line => switch line on) lines := by
  induction lines with
  | nil => rfl
  | cons line rest ih => rw [switchAll, each, ih]

theorem Global.armAll_eq_each (alarms : List Alarm) :
    armAll alarms =
      each (fun alarm => attempt (clock (.arm alarm Alarm.latestDeadline))) alarms := by
  induction alarms with
  | nil => rfl
  | cons alarm rest ih => rw [armAll, each, ih]

theorem Global.disarmAll_eq_each (alarms : List Alarm) :
    disarmAll alarms = each (fun alarm => attempt (clock (.disarm alarm))) alarms := by
  induction alarms with
  | nil => rfl
  | cons alarm rest ih => rw [disarmAll, each, ih]

variable {P Q Inner Outer : (α : Type) → Routine α → Prop} {α γ : Type}

namespace Sequential

theorem and (seq : Sequential P) (others : Sequential Q) :
    Sequential fun α routine => P α routine ∧ Q α routine where
  pure value := ⟨seq.pure value, others.pure value⟩
  bind first later :=
    ⟨seq.bind first.1 fun value => (later value).1,
      others.bind first.2 fun value => (later value).2⟩

theorem map (seq : Sequential P) {routine : Routine α} (h : P _ routine) (f : α → γ) :
    P _ (f <$> routine) := by
  rw [← bind_pure_comp]
  exact seq.bind h fun value => seq.pure (f value)

theorem andThen (seq : Sequential P) {program : Guarded α} {rest : α → Guarded γ}
    (first : P _ program.run) (later : ∀ value, P _ (rest value).run) :
    P _ (program >>= rest).run := by
  rw [ExceptT.run_bind]
  refine seq.bind first fun result => ?_
  cases result with
  | ok value => exact later value
  | error fault => exact seq.pure _

theorem succeed (seq : Sequential P) (value : α) : P _ (Pure.pure value : Guarded α).run :=
  seq.pure _

theorem fail (seq : Sequential P) (fault : Fault) : P _ (throw fault : Guarded α).run :=
  seq.pure _

theorem conclude (seq : Sequential P) (result : Except Fault α) : P _ (conclude result).run :=
  seq.pure _

theorem lift (seq : Sequential P) {routine : Routine α} (h : P _ routine) :
    P _ (liftM routine : Guarded α).run :=
  seq.map h Except.ok

theorem discard (seq : Sequential P) {program : Guarded α} (h : P _ program.run) :
    P _ (Functor.discard program).run := by
  change P _ ((fun _ => PUnit.unit) <$> program : Guarded PUnit).run
  rw [ExceptT.run_map]
  exact seq.map h _

theorem each (seq : Sequential P) {ι : Type} {act : ι → Guarded Unit} {items : List ι}
    (h : ∀ item ∈ items, P _ (act item).run) : P _ (each act items).run := by
  induction items with
  | nil => exact seq.succeed ()
  | cons item rest ih =>
      rw [List.forall_mem_cons] at h
      exact seq.andThen h.1 fun _ => ih h.2

theorem visit (seq : Sequential P) {act : Nat × Peripheral → Guarded Unit}
    (h : ∀ entry, P _ (act entry).run) (entries : List (Nat × Peripheral)) :
    P _ (Global.visit act entries).run := by
  rw [Global.visit_eq_each]
  exact seq.each fun entry _ => h entry

theorem triggered (seq : Sequential P) (read : ∀ line, P _ (Routine.perform (.readLine line)))
    (lines : List Line) : P _ (LineControl.triggered lines) := by
  induction lines with
  | nil => exact seq.pure []
  | cons line rest ih => exact seq.bind (read line) fun _ => seq.bind ih fun _ => seq.pure _

theorem enableEntry (seq : Sequential P) (unmask : ∀ n, P _ (Routine.controller (.enable n)))
    (read : ∀ line, P _ (Routine.perform (.readLine line)))
    (lineOn : ∀ line, P _ (LineControl.switch line true).run)
    (arm : ∀ alarm, P _ (Routine.clock (.arm alarm Alarm.latestDeadline)))
    (entry : Nat × Peripheral) : P _ (Global.enableEntry entry).run := by
  obtain ⟨n, peripheral⟩ := entry
  apply seq.andThen (unmask n)
  intro _
  cases peripheral with
  | gpio =>
      apply seq.andThen (seq.lift (seq.triggered read _))
      intro ready
      rw [LineControl.switchAll_eq_each]
      exact seq.each fun line _ => lineOn line
  | rtc =>
      rw [Global.armAll_eq_each]
      exact seq.each fun alarm _ => arm alarm
  | uart channel => exact seq.succeed ()

theorem disableEntry (seq : Sequential P)
    (clear : ∀ n, P _ (Routine.controller (.clearPending n)))
    (mask : ∀ n, P _ (Routine.controller (.disable n)))
    (lineOff : ∀ line, P _ (LineControl.switch line false).run)
    (disarm : ∀ alarm, P _ (Routine.clock (.disarm alarm))) (entry : Nat × Peripheral) :
    P _ (Global.disableEntry entry).run := by
  obtain ⟨n, peripheral⟩ := entry
  apply seq.andThen (clear n)
  intro _
  apply seq.andThen (mask n)
  intro _
  cases peripheral with
  | gpio =>
      rw [LineControl.switchAll_eq_each]
      exact seq.each fun line _ => lineOff line
  | rtc =>
      rw [Global.disarmAll_eq_each]
      exact seq.each fun alarm _ => disarm alarm
  | uart channel => exact seq.succeed ()

theorem critical (seq : Sequential P) {body : Routine α} (h : P _ body)
    (guard : ∀ effect, effect.Guards → P _ (Routine.perform effect)) :
    P _ (Routine.critical body) := by
  apply seq.bind (guard .mask trivial)
  intro depth
  apply seq.bind (guard .acquire trivial)
  intro _
  apply seq.bind h
  intro result
  apply seq.bind (guard .release trivial)
  intro _
  apply seq.bind (guard (.restore depth) trivial)
  intro _
  exact seq.pure result

theorem switch (seq : Sequential P) {line : Line}
    (call : ∀ c : LineCall, c.IsOf line → P _ (lines c))
    (read : P _ (Routine.perform (.readLine line)))
    (write : ∀ setting, P _ (Routine.perform (.writeLine line setting))) (on : Bool) :
    P _ (LineControl.switch line on).run :=
  seq.andThen (call _ (.setEnabled on)) fun _ =>
    seq.andThen (seq.lift read) fun _ => seq.lift (write _)

theorem retrigger (seq : Sequential P) {line : Line}
    (call : ∀ c : LineCall, c.IsOf line → P _ (lines c))
    (write : ∀ setting, P _ (Routine.perform (.writeLine line setting))) (trigger : Trigger) :
    P _ (LineControl.retrigger line trigger).run := by
  unfold LineControl.retrigger
  apply seq.andThen (seq.lift (call _ .isEnabled))
  intro wasEnabled
  have finish (programmed restored : Except Fault Unit) : P _ (show Guarded Unit from do
      Guarded.conclude programmed
      Guarded.conclude restored
      Routine.perform (.writeLine line ⟨some trigger, wasEnabled⟩)).run :=
    seq.andThen (seq.conclude _) fun _ => seq.andThen (seq.conclude _) fun _ =>
      seq.lift (write _)
  cases wasEnabled with
  | true =>
      exact seq.andThen (call _ (.setEnabled false)) fun _ =>
        seq.andThen (seq.lift (call _ .clearStatus)) fun _ =>
        seq.andThen (seq.lift (call _ (.configureTrigger trigger))) fun _ =>
          seq.andThen (seq.lift (call _ (.setEnabled true))) fun _ => finish _ _
  | false =>
      exact seq.andThen (seq.lift (call _ .clearStatus)) fun _ =>
        seq.andThen (seq.lift (call _ (.configureTrigger trigger))) fun _ =>
        seq.andThen (seq.lift (seq.pure _)) fun _ => finish _ _

/-- A property of every effect but those of the lock, of the registry and the invocation of
callbacks holds of all parts of a section in which the registry stays as it is. -/
theorem enabling (seq : Sequential P)
    (perform : ∀ effect, ¬ effect.Invokes → ¬ effect.Guards → ¬ effect.Enrols →
      P _ (Routine.perform effect)) :
    Enabling P := by
  have call (c : LineCall) : P _ (lines c) := perform (.call (.lines c)) id id id
  have write (line : Line) (setting : LineSetting) :
      P _ (Routine.perform (.writeLine line setting)) := perform (.writeLine _ _) id id id
  have switch (line : Line) (on : Bool) : P _ (LineControl.switch line on).run :=
    seq.switch (fun c _ => call c) (perform (.readLine line) id id id) (write line) on
  exact {
    toSequential := seq
    perform := fun effect plain inside _ settled => perform effect plain.quiet inside settled
    retrigger := fun line trigger => seq.retrigger (fun c _ => call c) (write line) trigger
    lineOff := fun line => switch line false
    enable := fun effect enables => by
      cases effect with
      | call c => exact perform (.call c) id id id
      | _ => exact enables.elim
    lineOn := fun line => switch line true }

/-- A property of every effect but the invocation of callbacks holds of all parts. -/
theorem assembled (seq : Sequential P)
    (perform : ∀ effect, ¬ effect.Invokes → P _ (Routine.perform effect)) : Assembled P := by
  have parts := seq.enabling fun effect quiet _ _ => perform effect quiet
  exact {
    toSequential := seq
    perform := fun effect plain => perform effect plain.quiet
    retrigger := parts.retrigger
    switch := fun line on => by
      cases on with
      | true => exact parts.lineOn line
      | false => exact parts.lineOff line }

end Sequential

/-! ## Inside a critical section -/

namespace Sectional

theorem mono (parts : Sectional P) (seq : Sequential Q)
    (entails : ∀ {α : Type} {routine : Routine α}, P _ routine → Q _ routine) : Sectional Q where
  toSequential := seq
  perform effect plain inside tame settled :=
    entails (parts.perform effect plain inside tame settled)
  retrigger line trigger := entails (parts.retrigger line trigger)
  lineOff line := entails (parts.lineOff line)

theorem and (parts : Sectional P) (others : Sectional Q) :
    Sectional fun α routine => P α routine ∧ Q α routine where
  toSequential := parts.toSequential.and others.toSequential
  perform effect plain inside tame settled :=
    ⟨parts.perform effect plain inside tame settled,
      others.perform effect plain inside tame settled⟩
  retrigger line trigger := ⟨parts.retrigger line trigger, others.retrigger line trigger⟩
  lineOff line := ⟨parts.lineOff line, others.lineOff line⟩

theorem note (parts : Sectional P) (notice : Notice) :
    P _ (liftM (Routine.note notice) : Guarded Unit).run :=
  parts.lift (parts.perform (.note notice) trivial id id id)

theorem find (parts : Sectional P) (source : Source) :
    P _ (liftM (Routine.find source) : Guarded (Option Callback)).run :=
  parts.lift (parts.perform (.find source) trivial id id id)

theorem call (parts : Sectional P) (c : Call) (plain : (Effect.call c).Plain)
    (tame : ¬ (Effect.call c).Enables) : P _ (Routine.perform (.call c)) :=
  parts.perform (.call c) plain id tame id

theorem prepare (parts : Sectional P) (source : Source) (setting : Setting) :
    P _ (Registration.prepare source setting).run := by
  unfold Registration.prepare
  split
  · exact parts.andThen (parts.call (.lines (.setInput _)) trivial id) fun _ =>
      parts.retrigger _ _
  · exact parts.succeed ()

theorem disarmReplaced (parts : Sectional P) (setting : Setting) (replaced : Option Callback) :
    P _ (Registration.disarmReplaced setting replaced).run := by
  unfold Registration.disarmReplaced
  split
  · split
    · exact parts.succeed ()
    · exact parts.call (.clock (.disarm _)) trivial id
  · exact parts.succeed ()

theorem switchOff (parts : Sectional P) (vectors : VectorTable) (source : Source)
    (setting : Option Setting) : P _ (Registration.switchOff vectors source setting).run := by
  cases source with
  | gpio line => exact parts.lineOff line
  | rtc =>
      cases h : setting.bind Setting.alarm? with
      | some alarm =>
          simp only [Registration.switchOff, h]
          exact parts.andThen (parts.call (.clock (.disarm _)) trivial id) fun _ =>
            parts.call (.controller (.disable _)) trivial id
      | none =>
          simp only [Registration.switchOff, h]
          exact parts.andThen (parts.note _) fun _ => parts.fail _
  | uart channel => exact parts.call (.controller (.disable _)) trivial id

theorem takeOut (parts : Sectional P) (vectors : VectorTable) {source : Source}
    (erase : P _ (Routine.perform (.erase source))) (callback : Callback) (notice : Notice) :
    P _ (show Guarded Unit from do
      Registration.switchOff vectors source (some callback.setting)
      Functor.discard (attempt (Routine.perform (Effect.erase source)))
      Routine.note notice).run :=
  parts.andThen (parts.switchOff _ _ _) fun _ =>
    parts.andThen (parts.discard erase) fun _ => parts.note _

theorem disableEntry (parts : Sectional P) (entry : Nat × Peripheral) :
    P _ (Global.disableEntry entry).run :=
  parts.toSequential.disableEntry (fun n => parts.call (.controller (.clearPending n)) trivial id)
    (fun n => parts.call (.controller (.disable n)) trivial id) parts.lineOff
    (fun alarm => parts.call (.clock (.disarm alarm)) trivial id) entry

theorem registeredAlarm (parts : Sectional P) : P _ Switching.registeredAlarm.run := by
  apply parts.andThen (parts.find .rtc)
  intro entry
  split
  · exact parts.succeed _
  · exact parts.andThen (parts.note _) fun _ => parts.fail _

end Sectional

namespace Enabling

theorem mono (parts : Enabling P) (seq : Sequential Q)
    (entails : ∀ {α : Type} {routine : Routine α}, P _ routine → Q _ routine) : Enabling Q where
  toSectional := parts.toSectional.mono seq entails
  enable effect enables := entails (parts.enable effect enables)
  lineOn line := entails (parts.lineOn line)

theorem and (parts : Enabling P) (others : Enabling Q) :
    Enabling fun α routine => P α routine ∧ Q α routine where
  toSectional := parts.toSectional.and others.toSectional
  enable effect enables := ⟨parts.enable effect enables, others.enable effect enables⟩
  lineOn line := ⟨parts.lineOn line, others.lineOn line⟩

theorem switchOn (parts : Enabling P) (source : Source) :
    P _ (Switching.switchOn source).run := by
  cases source with
  | gpio line => exact parts.lineOn line
  | rtc =>
      exact parts.andThen parts.registeredAlarm fun alarm =>
        parts.enable (.call (.clock (.arm alarm.alarm alarm.deadline))) trivial
  | uart channel => exact parts.succeed ()

theorem enableEntry (parts : Enabling P) (entry : Nat × Peripheral) :
    P _ (Global.enableEntry entry).run :=
  parts.toSequential.enableEntry (fun n => parts.enable (.call (.controller (.enable n))) trivial)
    (fun line => parts.perform (.readLine line) trivial id id id) parts.lineOn
    (fun alarm => parts.enable (.call (.clock (.arm alarm _))) trivial) entry

end Enabling

/-! ## Operations -/

namespace Layered

theorem locked (layers : Layered Inner Outer) {body : Guarded α} (h : Inner _ body.run) :
    Outer _ (locked body).run :=
  layers.critical h

theorem resolve (layers : Layered Inner Outer) (name : SourceName) {rest : Source → Guarded α}
    (later : ∀ source, name.resolve = .ok source → Outer _ (rest source).run) :
    Outer _ (resolve name >>= rest).run := by
  cases resolved : name.resolve with
  | ok source =>
      rw [resolve_of_ok resolved, pure_bind]
      exact later source resolved
  | error fault =>
      rw [ExceptT.run_bind, run_resolve_of_error resolved, bind_map_left]
      exact layers.outside.bind (layers.note _) fun _ => layers.outside.pure _

theorem register (layers : Layered Inner Outer) (vectors : VectorTable) (name : SourceName)
    {callback : Callback} (install : ∀ source, callback.setting.fits source = true →
      Inner _ (Routine.perform (.install source callback))) :
    Outer _ (Registration.register vectors name callback).run := by
  have parts := layers.inside
  apply layers.resolve name
  intro source _
  split
  next fits =>
    apply layers.locked
    apply parts.andThen (parts.call (.controller (.setPriority _ _)) trivial id)
    intro _
    apply parts.andThen (parts.prepare source callback.setting)
    intro _
    apply parts.andThen (parts.find source)
    intro registered
    apply parts.andThen (parts.disarmReplaced callback.setting registered)
    intro _
    apply parts.andThen (parts.lift (install source fits))
    intro replaced
    cases replaced with
    | some _ => exact parts.note _
    | none => exact parts.note _
  next =>
    apply layers.outside.andThen (layers.outside.lift (layers.note _))
    intro _
    exact layers.outside.fail _

theorem unregister (layers : Layered Inner Outer) (vectors : VectorTable) (name : SourceName)
    (erase : ∀ source, Inner _ (Routine.perform (.erase source))) :
    Outer _ (Registration.unregister vectors name).run := by
  have parts := layers.inside
  apply layers.resolve name
  intro source _
  apply layers.locked
  apply parts.andThen (parts.find source)
  intro entry
  cases entry with
  | none => exact parts.andThen (parts.note _) fun _ => parts.fail _
  | some callback => exact parts.takeOut vectors (erase source) callback _

theorem release (layers : Layered Inner Outer) (vectors : VectorTable) (index : UInt8)
    (erase : ∀ source, Inner _ (Routine.perform (.erase source))) :
    Outer _ (Registration.release vectors index).run := by
  have parts := layers.inside
  apply layers.resolve (.gpio index)
  intro source _
  apply layers.locked
  apply parts.andThen (parts.find source)
  intro entry
  cases entry with
  | none => exact parts.succeed ()
  | some callback => exact parts.takeOut vectors (erase source) callback _

theorem lookUp (layers : Layered Inner Outer) (source : Source) :
    Outer _ (Delivery.lookUp source) :=
  layers.critical (layers.inside.perform (.find source) trivial id id id)

theorem isRegistered (layers : Layered Inner Outer) (name : SourceName) :
    Outer _ (Registration.isRegistered name) := by
  unfold Registration.isRegistered
  cases name.resolve with
  | ok source =>
      exact layers.outside.bind (layers.lookUp source) fun _ => layers.outside.pure _
  | error fault => exact layers.outside.pure _

theorem enable (layers : Layered Inner Outer) (vectors : VectorTable) (name : SourceName)
    (switchOn : ∀ source, name.resolve = .ok source → Inner _ (Switching.switchOn source).run)
    (unmask : ∀ source, name.resolve = .ok source →
      Inner _ (Routine.controller (.enable (vectors.number source.peripheral)))) :
    Outer _ (Switching.enable vectors name).run := by
  have parts := layers.inside
  apply layers.resolve name
  intro source resolved
  apply layers.locked
  apply parts.andThen (switchOn source resolved)
  intro _
  apply parts.andThen (unmask source resolved)
  intro _
  exact parts.note _

theorem disable (layers : Layered Inner Outer) (vectors : VectorTable) (name : SourceName) :
    Outer _ (Switching.disable vectors name).run := by
  have parts := layers.inside
  apply layers.resolve name
  intro source _
  apply layers.locked
  apply parts.andThen (parts.find source)
  intro entry
  apply parts.andThen (parts.switchOff vectors source _)
  intro _
  exact parts.note _

theorem retrigger (layers : Layered Inner Outer) (index : UInt8) (trigger : Trigger) :
    Outer _ (Switching.retrigger index trigger).run := by
  apply layers.resolve (.gpio index)
  intro source _
  cases source with
  | gpio line =>
      exact layers.outside.andThen (layers.locked (layers.inside.retrigger line trigger))
        fun _ => layers.outside.lift (layers.note _)
  | rtc => exact layers.outside.fail _
  | uart channel => exact layers.outside.fail _

theorem prioritise (layers : Layered Inner Outer) (vectors : VectorTable) (name : SourceName)
    (priority : Priority) : Outer _ (Switching.prioritise vectors name priority).run :=
  layers.resolve name fun _ _ => layers.call (.controller (.setPriority _ _)) trivial id

theorem lineSetting (layers : Layered Inner Outer) (index : UInt8) :
    Outer _ (Switching.lineSetting index).run := by
  unfold Switching.lineSetting
  split
  · exact layers.outside.map
      (layers.critical (layers.inside.perform (.readLine _) trivial id id id)) _
  · exact layers.outside.fail _

theorem enableAll (layers : Layered Inner Outer) (vectors : VectorTable)
    (entry : ∀ entry, Inner _ (Global.enableEntry entry).run) :
    Outer _ (Global.enableAll vectors).run :=
  layers.locked (layers.inside.andThen (layers.inside.visit entry _) fun _ =>
    layers.inside.note _)

theorem disableAll (layers : Layered Inner Outer) (vectors : VectorTable) :
    Outer _ (Global.disableAll vectors).run :=
  layers.locked (layers.inside.andThen (layers.inside.visit layers.inside.disableEntry _)
    fun _ => layers.inside.note _)

theorem start (layers : Layered Inner Outer) (vectors : VectorTable) :
    Outer _ (Global.start vectors) :=
  layers.note (.started vectors)

theorem stop (layers : Layered Inner Outer) (vectors : VectorTable) :
    Outer _ (Global.stop vectors).run :=
  layers.outside.andThen
    (layers.outside.visit (fun _ => layers.call (.controller (.disable _)) trivial id) _)
    fun _ => layers.outside.lift (layers.note _)

/-! ### Deliveries -/

section

variable (invoke : ∀ source callback index,
  Outer _ (Routine.perform (.invoke source callback index)))

include invoke

theorem scanLines (layers : Layered Inner Outer) (snapshot : Word) (bits : List Nat) :
    Outer _ (Delivery.scanLines Delivery.lookUp snapshot bits) := by
  induction bits with
  | nil => exact layers.outside.pure ()
  | cons index rest ih =>
      unfold Delivery.scanLines
      split
      · exact layers.note _
      · apply layers.outside.bind (layers.lookUp _)
        intro entry
        cases entry with
        | none => exact layers.note _
        | some callback => exact layers.outside.bind (invoke _ _ _) fun _ => ih

theorem scanEvents (layers : Layered Inner Outer) (callback : Callback) (snapshot : Word)
    (events : List ClockEvent) : Outer _ (Delivery.scanEvents callback snapshot events) := by
  induction events with
  | nil => exact layers.outside.pure ()
  | cons event rest ih =>
      unfold Delivery.scanEvents
      split
      · apply layers.outside.bind (layers.call (.clock .readControl) trivial id)
        intro control
        split
        · exact layers.outside.bind (invoke _ _ _) fun _ => ih
        · exact ih
      · exact ih

theorem scanCauses (layers : Layered Inner Outer) (channel : Channel) (callback : Callback)
    (causes : List Nat) : Outer _ (Delivery.scanCauses channel callback causes) := by
  induction causes with
  | nil => exact layers.outside.pure ()
  | cons index rest ih =>
      unfold Delivery.scanCauses
      apply layers.outside.bind (layers.call (.serial channel .readEnabled) trivial id)
      intro enabled
      split
      · exact layers.outside.bind (invoke _ _ _) fun _ => ih
      · exact ih

theorem dispatch (layers : Layered Inner Outer) (peripheral : Peripheral) :
    Outer _ (Delivery.dispatch peripheral) := by
  cases peripheral with
  | gpio =>
      apply layers.outside.bind (layers.call (.lines .readStatus) trivial id)
      intro snapshot
      apply layers.outside.bind (layers.call (.lines (.clearStatus snapshot)) trivial id)
      intro _
      exact layers.scanLines invoke snapshot _
  | rtc =>
      apply layers.outside.bind (layers.lookUp .rtc)
      intro entry
      apply layers.outside.bind (layers.call (.clock .readControl) trivial id)
      intro snapshot
      apply layers.outside.bind (layers.call (.clock (.clearControl _)) trivial id)
      intro _
      cases entry with
      | none => exact layers.outside.pure ()
      | some callback => exact layers.scanEvents invoke _ _ _
  | uart channel =>
      apply layers.outside.bind (layers.lookUp (.uart channel))
      intro entry
      apply layers.outside.bind (layers.call (.serial channel .readFlags) trivial id)
      intro snapshot
      apply layers.outside.bind (layers.call (.serial channel (.clearFlags snapshot)) trivial id)
      intro _
      cases entry with
      | none => exact layers.outside.pure ()
      | some callback => exact layers.scanCauses invoke _ _ _

end

/-! ### All operations -/

/-- What holds of the parts holds of every operation, given what is asked for apart. -/
theorem operation (layers : Layered Inner Outer) (vectors : VectorTable) (operation : Operation)
    (enrols : operation.Enrols → Outer _ (operation.routine vectors))
    (enables : operation.Enables → Outer _ (operation.routine vectors))
    (delivers : operation.Delivers → Outer _ (operation.routine vectors)) :
    Outer _ (operation.routine vectors) := by
  have seq := layers.outside
  cases operation with
  | register source callback => exact enrols trivial
  | unregister source => exact enrols trivial
  | release line => exact enrols trivial
  | enable source => exact enables trivial
  | disable source => exact seq.map (layers.disable _ _) _
  | retrigger line trigger => exact seq.map (layers.retrigger _ _) _
  | prioritise source priority => exact seq.map (layers.prioritise _ _ _) _
  | enableAll => exact enables trivial
  | disableAll => exact seq.map (layers.disableAll _) _
  | isRegistered source => exact seq.map (layers.isRegistered _) _
  | lineSetting line => exact seq.map (layers.lineSetting _) _
  | handle vector => exact delivers trivial
  | dispatch peripheral => exact delivers trivial

theorem enrols (layers : Layered Inner Outer) (vectors : VectorTable)
    (enrol : ∀ effect : Effect, effect.Enrols → Inner _ (Routine.perform effect))
    (operation : Operation) (h : operation.Enrols) : Outer _ (operation.routine vectors) := by
  have erase (source : Source) := enrol (.erase source) trivial
  cases operation with
  | register name callback =>
      exact layers.outside.map (layers.register vectors name fun source _ =>
        enrol (.install source callback) trivial) _
  | unregister name => exact layers.outside.map (layers.unregister vectors name erase) _
  | release index => exact layers.outside.map (layers.release vectors index erase) _
  | _ => exact h.elim

theorem enables (layers : Layered Inner Outer) (parts : Enabling Inner) (vectors : VectorTable)
    (operation : Operation) (h : operation.Enables) : Outer _ (operation.routine vectors) := by
  cases operation with
  | enable name =>
      exact layers.outside.map (layers.enable vectors name (fun source _ => parts.switchOn source)
        fun _ _ => parts.enable (.call (.controller (.enable _))) trivial) _
  | enableAll => exact layers.outside.map (layers.enableAll vectors parts.enableEntry) _
  | _ => exact h.elim

theorem delivers (layers : Layered Inner Outer) (vectors : VectorTable)
    (dispatch : ∀ peripheral, Outer _ (Delivery.dispatch peripheral))
    (operation : Operation) (h : operation.Delivers) : Outer _ (operation.routine vectors) := by
  cases operation with
  | handle n =>
      refine layers.outside.map ?_ _
      unfold Delivery.handle
      split
      · exact dispatch _
      · exact layers.outside.pure ()
  | dispatch peripheral => exact layers.outside.map (dispatch peripheral) _
  | _ => exact h.elim

end Layered

namespace Assembled

theorem enabling (parts : Assembled P) : Enabling P where
  toSequential := parts.toSequential
  perform effect plain _ _ _ := parts.perform effect plain
  retrigger := parts.retrigger
  lineOff line := parts.switch line false
  enable effect enables := by
    cases effect with
    | call c =>
        refine parts.perform (.call c) ?_
        cases c with
        | lines c => exact enables.elim
        | _ => trivial
    | _ => exact enables.elim
  lineOn line := parts.switch line true

theorem layered (parts : Assembled P) : Layered P P where
  inside := parts.enabling.toSectional
  outside := parts.toSequential
  note notice := parts.perform (.note notice) trivial
  call c plain _ := parts.perform (.call c) plain
  critical h := parts.toSequential.critical h fun effect guards => parts.perform effect <| by
    cases effect with
    | mask => trivial
    | restore _ => trivial
    | acquire => trivial
    | release => trivial
    | _ => exact guards.elim

theorem start (parts : Assembled P) (vectors : VectorTable) : P _ (Global.start vectors) :=
  parts.layered.start vectors

theorem stop (parts : Assembled P) (vectors : VectorTable) : P _ (Global.stop vectors).run :=
  parts.layered.stop vectors

theorem dispatch (parts : Assembled P)
    (invoke : ∀ source callback index, P _ (Routine.perform (.invoke source callback index)))
    (peripheral : Peripheral) : P _ (Delivery.dispatch peripheral) :=
  parts.layered.dispatch invoke peripheral

theorem operation (parts : Assembled P) (vectors : VectorTable)
    (dispatch : ∀ peripheral, P _ (Delivery.dispatch peripheral)) (operation : Operation) :
    P _ (operation.routine vectors) :=
  parts.layered.operation vectors operation
    (parts.layered.enrols vectors
      (fun effect enrols => parts.perform effect enrols.plain.1) operation)
    (parts.layered.enables parts.enabling vectors operation)
    (parts.layered.delivers vectors dispatch operation)

end Assembled

end Interrupts
