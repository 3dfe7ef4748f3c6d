import Interrupts.Proofs.Run.Requests

/-! # Steps that commute

Two steps on a state commute if it makes no difference which is taken first: neither changes
what the other answers, and the state at the end is the same. A step that works at one place
of a state and depends on nothing else commutes with steps at other places, and programs
commute if the requests of the one commute with the requests of the other.
-/

namespace Interrupts

variable {σ α γ : Type}

/-- Taken in either order the two steps answer the same and lead to the same state. -/
structure Commutes (f : σ → α × σ) (g : σ → γ × σ) : Prop where
  first (s : σ) : (f (g s).2).1 = (f s).1
  second (s : σ) : (g (f s).2).1 = (g s).1
  state (s : σ) : (g (f s).2).2 = (f (g s).2).2

namespace Commutes

variable {f : σ → α × σ} {g : σ → γ × σ}

theorem symm (h : Commutes f g) : Commutes g f where
  first := h.second
  second := h.first
  state s := (h.state s).symm

theorem idle (f : σ → α × σ) (answer : γ) : Commutes f fun s => (answer, s) where
  first _ := rfl
  second _ := rfl
  state _ := rfl

theorem self (again : ∀ s, (f (f s).2).1 = (f s).1) : Commutes f f where
  first := again
  second := again
  state _ := rfl

theorem bind {δ : Type} {next : γ → σ → δ × σ} (now : Commutes f g)
    (later : ∀ reply, Commutes f (next reply)) :
    Commutes f fun s => next (g s).1 (g s).2 where
  first s := ((later _).first _).trans (now.first s)
  second s := by
    rw [now.second, now.state]
    exact (later _).second _
  state s := by
    rw [now.second, now.state]
    exact (later _).state _

end Commutes

/-! ## Places -/

/-- The step works at the place `i` of a state: what it answers and what it leaves there
depend on what is there, and everything else stays. -/
structure Confined {ι : Type} {κ : ι → Type} (content : σ → (i : ι) → κ i) (i : ι)
    (f : σ → α × σ) : Prop where
  answer {s t : σ} : content s i = content t i → (f s).1 = (f t).1
  here {s t : σ} : content s i = content t i → content (f s).2 i = content (f t).2 i
  elsewhere (s : σ) {j : ι} : i ≠ j → content (f s).2 j = content s j

namespace Confined

variable {ι : Type} {κ : ι → Type} {content : σ → (i : ι) → κ i} {i j : ι}

theorem look {answer : σ → α}
    (found : ∀ {s t}, content s i = content t i → answer s = answer t) :
    Confined content i fun s => (answer s, s) where
  answer := found
  here same := same
  elsewhere _ _ _ := rfl

theorem ite {p : Prop} [Decidable p] {f g : σ → α × σ} (hf : Confined content i f)
    (hg : Confined content i g) : Confined content i fun s => if p then f s else g s := by
  by_cases h : p
  · simpa only [if_pos h] using hf
  · simpa only [if_neg h] using hg

/-- Steps at different places commute, if a state is determined by what is at its places. -/
theorem commutes {f : σ → α × σ} {g : σ → γ × σ}
    (determined : ∀ s t, content s = content t → s = t)
    (hf : Confined content i f) (hg : Confined content j g) (apart : i ≠ j) : Commutes f g where
  first s := hf.answer (hg.elsewhere s apart.symm)
  second s := hg.answer (hf.elsewhere s apart)
  state s := by
    refine determined _ _ (funext fun k => ?_)
    by_cases atFirst : i = k
    · subst atFirst
      exact (hg.elsewhere _ apart.symm).trans (hf.here (hg.elsewhere s apart.symm)).symm
    · by_cases atSecond : j = k
      · subst atSecond
        exact (hg.here (hf.elsewhere s apart)).trans (hf.elsewhere _ apart).symm
      · rw [hg.elsewhere _ atSecond, hf.elsewhere _ atFirst, hf.elsewhere _ atFirst,
          hg.elsewhere _ atSecond]

end Confined

/-! ## Programs -/

namespace Program

variable {ρ : Type} {answer : ρ → Type} {respond : (r : ρ) → σ → answer r × σ}
  {permitted allowed : ρ → Prop}

theorem Only.commutes_step {f : σ → γ × σ} {p : Program ρ answer α} (h : p.Only permitted)
    (each : ∀ r, permitted r → Commutes f (respond r)) : Commutes f (run respond p) := by
  induction p with
  | done value => exact .idle f value
  | ask r next ih => exact (each r h.1).bind fun reply => ih reply (h.2 reply)

theorem Only.commutes {p : Program ρ answer α} {q : Program ρ answer γ}
    (hp : p.Only permitted) (hq : q.Only allowed)
    (each : ∀ r, permitted r → ∀ s, allowed s → Commutes (respond r) (respond s)) :
    Commutes (run respond p) (run respond q) :=
  hq.commutes_step fun s hs =>
    (hp.commutes_step fun r hr => (each r hr s hs).symm).symm

end Program

end Interrupts
