import Mathlib.Logic.Relation
import Mathlib.Tactic.Common

/-!
# Guarded runs of a transition system

`Reach next init G s`: some run leads from an initial state to `s`, each of its steps being a step
of the system that also meets the guard `G`.  A guard names the condition under which a property of
all runs is claimed; `Reach.invariant` is the one induction over runs.
-/

namespace OsdTarget.Base

variable {σ ι : Type}

/-- The states reached by runs all of whose steps meet the guard `G`. -/
inductive Reach (next : ι → σ → σ → Prop) (init : σ → Prop) (G : ι → σ → σ → Prop) : σ → Prop
  | start {s : σ} : init s → Reach next init G s
  | step {s s' : σ} (i : ι) : Reach next init G s → next i s s' → G i s s' → Reach next init G s'

variable {next : ι → σ → σ → Prop} {init : σ → Prop} {G : ι → σ → σ → Prop}

/-- **The invariant rule.** -/
theorem Reach.invariant {I : σ → Prop} (h0 : ∀ s, init s → I s)
    (hs : ∀ i s s', I s → next i s s' → G i s s' → I s') {s : σ} (h : Reach next init G s) : I s := by
  induction h with
  | start hi => exact h0 _ hi
  | step i _ hn hg ih => exact hs i _ _ ih hn hg

/-- A weaker guard admits more runs. -/
theorem Reach.weaken {G' : ι → σ → σ → Prop} (hg : ∀ i s s', G i s s' → G' i s s') {s : σ}
    (h : Reach next init G s) : Reach next init G' s := by
  induction h with
  | start hi => exact .start hi
  | step i _ hn hG ih => exact .step i ih hn (hg _ _ _ hG)

/-! ## Two levels -/

/-- **The refinement rule.**  Where each step of the upper system is a run of the lower one, what the
upper system reaches the lower one reaches too. -/
theorem Reach.refines {κ : Type} {next' : κ → σ → σ → Prop} {G' : κ → σ → σ → Prop}
    (hs : ∀ i s s', next i s s' → G i s s' →
      Relation.ReflTransGen (fun t t' => ∃ k, next' k t t' ∧ G' k t t') s s')
    {s : σ} (h : Reach next init G s) : Reach next' init G' s := by
  induction h with
  | start hi => exact .start hi
  | step i _ hn hg ih =>
    have hrun := hs i _ _ hn hg
    clear hn hg
    induction hrun with
    | refl => exact ih
    | tail _ hstep ih' =>
      obtain ⟨k, hn, hg⟩ := hstep
      exact .step k ih' hn hg

end OsdTarget.Base
