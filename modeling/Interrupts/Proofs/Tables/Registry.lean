import Interrupts.Table.Registry
import Mathlib.Data.Set.Card

/-! # The registry as a partial map

Callbacks are installed and erased one after another, and each request is answered. The answers
tell what the registry holds: for a source it is the callback that was installed last, unless an
erasure that was accepted came after it. What is asked for other sources has no part in this,
because no two sources share a place.
-/

namespace Interrupts

namespace Registry

inductive Request where
  | install (source : Source) (callback : Callback)
  | erase (source : Source)
deriving DecidableEq

inductive Reply where
  | installed (source : Source) (callback : Callback) (replaced : Option Callback)
  | erased (source : Source) (result : Except Fault Callback)
deriving DecidableEq

def Request.source : Request → Source
  | install source _ | erase source => source

def Request.entry : Request → Option Callback
  | install _ callback => some callback
  | erase _ => none

def Reply.source : Reply → Source
  | installed source _ _ | erased source _ => source

/-- The request was for this source and was accepted. -/
def Reply.Changes (source : Source) : Reply → Prop
  | installed other _ _ => other = source
  | erased other (.ok _) => other = source
  | erased _ (.error _) => False

def serve (registry : Registry) : Request → Reply × Registry
  | .install source callback =>
      let (replaced, left) := registry.install source callback
      (.installed source callback replaced, left)
  | .erase source =>
      let (result, left) := registry.erase source
      (.erased source result, left)

/-- The registry once all requests are served. -/
def after (registry : Registry) (requests : List Request) : Registry :=
  requests.foldl (fun registry request => (registry.serve request).2) registry

def replies : Registry → List Request → List Reply
  | _, [] => []
  | registry, request :: rest =>
      (registry.serve request).1 :: (registry.serve request).2.replies rest

/-- The last accepted request for `source` has installed `callback`. -/
def LastInstalled (source : Source) (callback : Callback) (replies : List Reply) : Prop :=
  ∃ earlier replaced later,
    replies = earlier ++ .installed source callback replaced :: later ∧
      ∀ reply ∈ later, ¬ reply.Changes source

variable {registry : Registry} {source : Source} {callback : Callback}

/-! ## One request -/

@[simp] theorem source_serve (registry : Registry) (request : Request) :
    (registry.serve request).1.source = request.source := by
  cases request <;> rfl

/-- A source without a callback is as it would be if its callback were taken out. -/
theorem erase_snd (registry : Registry) (source : Source) :
    (registry.erase source).2 = registry.put source none := by
  cases found : registry.find? source with
  | some callback => rw [erase_of_find? found]
  | none => rw [erase_of_find?_none found, ← found, put_find?]

theorem erase_eq_ok_iff :
    (registry.erase source).1 = .ok callback ↔ registry.find? source = some callback := by
  cases found : registry.find? source with
  | some held => simp [erase_of_find? found]
  | none => simp [erase_of_find?_none found]

theorem erase_eq_error_iff {fault : Fault} :
    (registry.erase source).1 = .error fault ↔
      fault = .invalidArgument ∧ registry.find? source = none := by
  cases found : registry.find? source with
  | some held => simp [erase_of_find? found]
  | none => simp [erase_of_find?_none found, eq_comm]

theorem Reply.changes_erased_iff {other : Source} {result : Except Fault Callback} :
    (erased other result).Changes source ↔ other = source ∧ ∃ taken, result = .ok taken := by
  cases result with
  | ok taken => simp [Changes]
  | error fault => simp [Changes]

theorem serve_snd (registry : Registry) (request : Request) :
    (registry.serve request).2 = registry.put request.source request.entry := by
  cases request with
  | install source callback => rfl
  | erase source => exact registry.erase_snd source

theorem find?_serve_iff (registry : Registry) (request : Request) (source : Source)
    (callback : Callback) :
    (registry.serve request).2.find? source = some callback ↔
      (∃ replaced, (registry.serve request).1 = .installed source callback replaced) ∨
        ¬ (registry.serve request).1.Changes source ∧ registry.find? source = some callback := by
  rw [serve_snd, find?_put]
  cases request with
  | install other given =>
      change (if other = source then some given else registry.find? source) = some callback ↔ _
      by_cases same : other = source <;> simp [serve, install, Reply.Changes, same]
  | erase other =>
      change (if other = source then none else registry.find? source) = some callback ↔ _
      have reply : (registry.serve (.erase other)).1 = .erased other (registry.erase other).1 := rfl
      rw [reply, Reply.changes_erased_iff]
      by_cases same : other = source
      · -- Nothing is left there, and what was there before was a reason to accept the erasure.
        rw [if_pos same]
        subst same
        constructor
        · intro left
          cases left
        · rintro (⟨_, installed⟩ | ⟨refused, found⟩)
          · cases installed
          · exact absurd ⟨rfl, callback, erase_eq_ok_iff.2 found⟩ refused
      · simp [same]

/-! ## Histories -/

theorem lastInstalled_cons {reply : Reply} {rest : List Reply} :
    LastInstalled source callback (reply :: rest) ↔
      LastInstalled source callback rest ∨
        (∃ replaced, reply = .installed source callback replaced) ∧
          ∀ other ∈ rest, ¬ other.Changes source := by
  constructor
  · rintro ⟨earlier, replaced, later, split, untouched⟩
    cases earlier with
    | nil =>
        obtain ⟨rfl, rfl⟩ := List.cons.inj split
        exact .inr ⟨⟨replaced, rfl⟩, untouched⟩
    | cons first earlier =>
        obtain ⟨rfl, rfl⟩ := List.cons.inj split
        exact .inl ⟨earlier, replaced, later, rfl, untouched⟩
  · rintro (⟨earlier, replaced, later, rfl, untouched⟩ | ⟨⟨replaced, rfl⟩, untouched⟩)
    · exact ⟨reply :: earlier, replaced, later, rfl, untouched⟩
    · exact ⟨[], replaced, rest, rfl, untouched⟩

/-- What a source has after any requests is what was installed for it last, or what it had before
if nothing has changed its entry. -/
theorem find?_after_iff (registry : Registry) (requests : List Request) (source : Source)
    (callback : Callback) :
    (registry.after requests).find? source = some callback ↔
      LastInstalled source callback (registry.replies requests) ∨
        (∀ reply ∈ registry.replies requests, ¬ reply.Changes source) ∧
          registry.find? source = some callback := by
  induction requests generalizing registry with
  | nil => simp [after, replies, LastInstalled]
  | cons request rest ih =>
      rw [replies, lastInstalled_cons, List.forall_mem_cons]
      change ((registry.serve request).2.after rest).find? source = some callback ↔ _
      rw [ih, find?_serve_iff]
      tauto

theorem serve_fst_congr {a b : Registry} {request : Request}
    (same : a.find? request.source = b.find? request.source) :
    (a.serve request).1 = (b.serve request).1 := by
  cases request with
  | install source callback => exact congrArg (Reply.installed source callback) same
  | erase source =>
      have held : a.find? source = b.find? source := same
      have result : (a.erase source).1 = (b.erase source).1 := by
        unfold erase
        rw [held]
        cases b.find? source <;> rfl
      exact congrArg (Reply.erased source) result

theorem replies_filter (requests : List Request) {a b : Registry}
    (same : a.find? source = b.find? source) :
    (a.replies requests).filter (·.source = source) =
        b.replies (requests.filter (·.source = source)) ∧
      (a.after requests).find? source =
        (b.after (requests.filter (·.source = source))).find? source := by
  induction requests generalizing a b with
  | nil => exact ⟨rfl, same⟩
  | cons request rest ih =>
      by_cases own : request.source = source
      · have alike : (a.serve request).1 = (b.serve request).1 := serve_fst_congr (own ▸ same)
        have left : (a.serve request).2.find? source = (b.serve request).2.find? source := by
          rw [serve_snd, serve_snd, find?_put, find?_put, if_pos own, if_pos own]
        have chosen : (request :: rest).filter (·.source = source) =
            request :: rest.filter (·.source = source) := by simp [own]
        obtain ⟨replied, found⟩ := ih left
        rw [chosen, replies, replies, ← alike, ← replied]
        exact ⟨List.filter_cons_of_pos (by simp [own]), found⟩
      · have left : (a.serve request).2.find? source = b.find? source := by
          rw [serve_snd, find?_put, if_neg own, same]
        have passed : (request :: rest).filter (·.source = source) =
            rest.filter (·.source = source) := by simp [own]
        obtain ⟨replied, found⟩ := ih left
        rw [passed, replies, ← replied]
        exact ⟨List.filter_cons_of_neg (by simp [own]), found⟩

/-! ## Places -/

theorem size_eq_ncard (registry : Registry) :
    registry.size = {source | registry.contains source = true}.ncard := by
  have nodup : registry.sources.Nodup := Source.nodup_all.filter _
  have listed : {source | registry.contains source = true} = ↑registry.sources.toFinset := by
    ext source
    simp [mem_sources]
  rw [size_eq_length_sources, listed, Set.ncard_coe_finset, List.toFinset_card_of_nodup nodup]

theorem isEmpty_iff (registry : Registry) :
    registry.isEmpty = true ↔ ∀ source, registry.find? source = none := by
  rw [isEmpty, beq_iff_eq, size_eq_length_sources, List.length_eq_zero_iff,
    List.eq_nil_iff_forall_not_mem]
  simp [mem_sources, contains_eq_isSome]

theorem getElem?_slot (registry : Registry) (source : Source) :
    registry.slots.toArray[source.slot.val]? = some (registry.find? source) := by
  simp [find?]

/-- Whatever has been asked of an empty registry: the entry of a source is the callback that was
installed for it last, if no accepted erasure came after it, and otherwise there is none. Entry and
answers of a source are those of its own requests, as if no others had been made. A next
installation is answered with the entry that it replaces and a next erasure with the entry that it
takes out; an erasure is refused exactly if there is none, as an invalid argument, and then leaves
the registry as it is. The size is the number of sources with an entry, and the place of every
source exists and holds its entry. -/
theorem requests_map_sources (requests : List Request) :
    let registry := empty.after requests
    (∀ source callback, registry.find? source = some callback ↔
      LastInstalled source callback (empty.replies requests)) ∧
    (∀ source, let own := requests.filter (·.source = source)
      (empty.replies requests).filter (·.source = source) = empty.replies own ∧
        registry.find? source = (empty.after own).find? source) ∧
    (∀ source callback, (registry.install source callback).1 = registry.find? source) ∧
    (∀ source callback, (registry.erase source).1 = .ok callback ↔
      registry.find? source = some callback) ∧
    (∀ source fault, (registry.erase source).1 = .error fault ↔
      fault = .invalidArgument ∧ registry.find? source = none) ∧
    (∀ source, registry.find? source = none → (registry.erase source).2 = registry) ∧
    (∀ source, registry.contains source = true ↔
      ∃ callback, registry.find? source = some callback) ∧
    registry.size = {source | registry.contains source = true}.ncard ∧
    (registry.isEmpty = true ↔ ∀ source, registry.find? source = none) ∧
    ∀ source, registry.slots.toArray[source.slot.val]? = some (registry.find? source) := by
  intro registry
  have last (source : Source) (callback : Callback) : registry.find? source = some callback ↔
      LastInstalled source callback (empty.replies requests) := by
    simpa using find?_after_iff empty requests source callback
  have unchanged (source : Source) (none : registry.find? source = none) :
      (registry.erase source).2 = registry := congrArg Prod.snd (erase_of_find?_none none)
  refine ⟨last, fun source => replies_filter requests rfl, registry.install_fst,
    fun source callback => erase_eq_ok_iff, fun source fault => erase_eq_error_iff, unchanged,
    fun source => ?_, registry.size_eq_ncard, registry.isEmpty_iff, registry.getElem?_slot⟩
  rw [contains_eq_isSome, Option.isSome_iff_exists]

/-- The second installation counts, and neither the line nor the refused erasure matters. -/
example :
    let told (context : UInt64) : Callback := ⟨.routine, context, .uart, 1⟩
    let registry := empty.after [.install (.uart 0) (told 1), .install (.uart 0) (told 2),
      .erase (.gpio 3), .erase (.uart 1)]
    registry.find? (.uart 0) = some (told 2) ∧ registry.size = 1 ∧
      (registry.serve (.erase (.gpio 3))).1 = .erased (.gpio 3) (.error .invalidArgument) := by
  decide

end Registry

end Interrupts
