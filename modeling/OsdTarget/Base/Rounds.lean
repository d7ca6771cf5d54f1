import Mathlib.Logic.Relation

/-!
# While loops, counted by their rounds

One round of a loop leaves it through its test (`exit`), leaves it from inside its body (`fail`), or
goes on from a new state (`next`).  `rounds step n s` runs the loop from `s` with at most `n` rounds
of its body; it gives no result when those do not suffice.  A loop ends if a measure falls in every
round, and never ends if it stays among states that all go on.
-/

namespace OsdTarget.Base

variable {σ ρ : Type}

/-- What the test and the body of a loop do in one state. -/
inductive Round (σ ρ : Type)
  | exit (r : ρ)
  | fail (r : ρ)
  | next (s : σ)

/-- The loop, with at most `n` rounds of the body. -/
def rounds (step : σ → Round σ ρ) : Nat → σ → Option ρ
  | 0, s => match step s with
    | .exit r => some r
    | _ => none
  | n + 1, s => match step s with
    | .exit r => some r
    | .fail r => some r
    | .next s' => rounds step n s'

/-- The loop comes from `s` to `t`. -/
def Leads (step : σ → Round σ ρ) : σ → σ → Prop :=
  Relation.ReflTransGen fun s t => step s = .next t

variable {step : σ → Round σ ρ} {s t : σ} {r : ρ} {n : Nat}

theorem rounds_exit (h : step s = .exit r) : rounds step n s = some r := by
  cases n <;> simp only [rounds, h]

theorem rounds_fail (h : step s = .fail r) : rounds step (n + 1) s = some r := by
  simp only [rounds, h]

theorem rounds_next (h : step s = .next t) : rounds step (n + 1) s = rounds step n t := by
  simp only [rounds, h]

/-- **Termination.**  A measure that falls in every round bounds their number. -/
theorem rounds_total {I : σ → Prop} {μ : σ → Nat}
    (hnext : ∀ s t, I s → step s = .next t → I t ∧ μ t < μ s)
    (hfail : ∀ s r, I s → step s = .fail r → 0 < μ s) (hs : I s) (hn : μ s ≤ n) :
    ∃ r, rounds step n s = some r := by
  induction n generalizing s with
  | zero =>
    cases hstep : step s with
    | exit r => exact ⟨r, rounds_exit hstep⟩
    | fail r => exact absurd (hfail s r hs hstep) (by omega)
    | next t => exact absurd (hnext s t hs hstep).2 (by omega)
  | succ n ih =>
    cases hstep : step s with
    | exit r => exact ⟨r, rounds_exit hstep⟩
    | fail r => exact ⟨r, rounds_fail hstep⟩
    | next t =>
      obtain ⟨ht, hlt⟩ := hnext s t hs hstep
      rw [rounds_next hstep]
      exact ih ht (by omega)

/-- **Divergence.**  A loop that stays among states that all go on has no result. -/
theorem rounds_diverges {I : σ → Prop} (hnext : ∀ s, I s → ∃ t, step s = .next t ∧ I t) (hs : I s)
    (n : Nat) : rounds step n s = none := by
  induction n generalizing s with
  | zero =>
    obtain ⟨t, ht, -⟩ := hnext s hs
    simp only [rounds, ht]
  | succ n ih =>
    obtain ⟨t, ht, hi⟩ := hnext s hs
    rw [rounds_next ht]
    exact ih hi

/-- A loop that comes to a state without a result has none itself. -/
theorem rounds_none_of_leads (h : Leads step s t) (ht : ∀ n, rounds step n t = none) (n : Nat) :
    rounds step n s = none := by
  induction h using Relation.ReflTransGen.head_induction_on generalizing n with
  | refl => exact ht n
  | head hstep _ ih =>
    cases n with
    | zero => simp only [rounds, hstep]
    | succ n =>
      rw [rounds_next hstep]
      exact ih n

/-- **Where a result comes from.** -/
theorem rounds_some (h : rounds step n s = some r) :
    ∃ t, Leads step s t ∧ (step t = .exit r ∨ step t = .fail r) := by
  induction n generalizing s with
  | zero =>
    cases hs : step s with
    | exit r' =>
      rw [rounds_exit hs] at h
      cases h
      exact ⟨s, .refl, .inl hs⟩
    | fail r' => simp [rounds, hs] at h
    | next t => simp [rounds, hs] at h
  | succ n ih =>
    cases hs : step s with
    | exit r' =>
      rw [rounds_exit hs] at h
      cases h
      exact ⟨s, .refl, .inl hs⟩
    | fail r' =>
      rw [rounds_fail hs] at h
      cases h
      exact ⟨s, .refl, .inr hs⟩
    | next t =>
      rw [rounds_next hs] at h
      obtain ⟨v, hv, hr⟩ := ih h
      exact ⟨v, .head hs hv, hr⟩

/-- A property kept by every round holds of all states the loop comes to. -/
theorem Leads.invariant {I : σ → Prop} (h : Leads step s t)
    (hnext : ∀ s t, I s → step s = .next t → I t) (hs : I s) : I t := by
  induction h with
  | refl => exact hs
  | tail _ hstep ih => exact hnext _ _ ih hstep

end OsdTarget.Base
