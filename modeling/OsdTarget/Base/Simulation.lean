import Mathlib.Init

/-!
# Runs with requests and answers

A system takes requests and answers them.  One system simulates another when every step of it is matched
by a step of the other with the same request and the same answer; then so is every run.
-/

namespace OsdTarget.Base

variable {σ τ ι ω : Type*} {next : ι → ω → σ → σ → Prop} {next' : ι → ω → τ → τ → Prop} {R : σ → τ → Prop}

/-- A run, with what was asked and what was answered. -/
inductive Trace (next : ι → ω → σ → σ → Prop) : σ → List (ι × ω) → σ → Prop
  | nil (s : σ) : Trace next s [] s
  | cons {s t v : σ} {i : ι} {o : ω} {l : List (ι × ω)} (hstep : next i o s t) (hrest : Trace next t l v) :
    Trace next s ((i, o) :: l) v

/-- A run in two parts. -/
theorem Trace.split {s v : σ} {l l' : List (ι × ω)} (h : Trace next s (l ++ l') v) :
    ∃ t, Trace next s l t ∧ Trace next t l' v := by
  induction l generalizing s with
  | nil => exact ⟨s, .nil s, h⟩
  | cons x l ih =>
    cases h with
    | cons hstep hrest =>
      obtain ⟨t, hl, hl'⟩ := ih hrest
      exact ⟨t, .cons hstep hl, hl'⟩

/-- What every step of a run keeps the run keeps. -/
theorem Trace.keeps {P : σ → Prop} {s t : σ} {l : List (ι × ω)} (h : Trace next s l t)
    (hstep : ∀ x ∈ l, ∀ u v, P u → next x.1 x.2 u v → P v) (hs : P s) : P t := by
  induction h with
  | nil => exact hs
  | cons hnext _ ih =>
    exact ih (fun x hx => hstep x (List.mem_cons_of_mem _ hx)) (hstep _ List.mem_cons_self _ _ hs hnext)

/-- Where `R` relates the states, each step on the left has its counterpart on the right. -/
def Simulates (next : ι → ω → σ → σ → Prop) (next' : ι → ω → τ → τ → Prop) (R : σ → τ → Prop) : Prop :=
  ∀ i o s s' t, R s t → next i o s s' → ∃ t', next' i o t t' ∧ R s' t'

/-- **What is asked and answered in a run on the left can be asked and answered on the right.** -/
theorem Trace.simulated {s s' : σ} {l : List (ι × ω)} (h : Trace next s l s')
    (hsim : Simulates next next' R) {t : τ} (hR : R s t) : ∃ t', Trace next' t l t' ∧ R s' t' := by
  induction h generalizing t with
  | nil s => exact ⟨t, .nil t, hR⟩
  | cons hstep _ ih =>
    obtain ⟨u, hu, hRu⟩ := hsim _ _ _ _ _ hR hstep
    obtain ⟨t', hrest, hR'⟩ := ih hRu
    exact ⟨t', .cons hu hrest, hR'⟩

end OsdTarget.Base
