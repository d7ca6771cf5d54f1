import OsdTarget.Base.StateLogic

/-!
# Two runs in lockstep

`Lockstep R m n s t` compares a run of `m` from `s` with a run of `n` from `t`: both end, with one value
and in states related by `R`, or neither does.  The rules follow the syntax of a `do` block.  A block that
reads the state has to be taken from two given states, since what it reads differs between the runs.
-/

namespace OsdTarget.Base

variable {σ α β : Type} {R R' : σ → σ → Prop} {s t : σ}

/-- Two outcomes with one value and related states, or none at all. -/
def SameOutcome (R : σ → σ → Prop) : Option (α × σ) → Option (α × σ) → Prop
  | some p, some q => p.1 = q.1 ∧ R p.2 q.2
  | none, none => True
  | _, _ => False

/-- The runs of `m` from `s` and of `n` from `t` have the same outcome. -/
def Lockstep (R : σ → σ → Prop) (m n : StateT σ Option α) (s t : σ) : Prop := SameOutcome R (m s) (n t)

theorem Lockstep.run {m n : StateT σ Option α} {a : α} {s' : σ} (h : Lockstep R m n s t)
    (hm : m s = some (a, s')) : ∃ t', n t = some (a, t') ∧ R s' t' := by
  unfold Lockstep at h
  rw [hm] at h
  cases hn : n t with
  | none =>
    rw [hn] at h
    exact h.elim
  | some q =>
    rw [hn] at h
    obtain ⟨b, t'⟩ := q
    obtain ⟨rfl, hr⟩ := h
    exact ⟨t', rfl, hr⟩

theorem Lockstep.back {m n : StateT σ Option α} {a : α} {t' : σ} (h : Lockstep R m n s t)
    (hn : n t = some (a, t')) : ∃ s', m s = some (a, s') ∧ R s' t' := by
  unfold Lockstep at h
  rw [hn] at h
  cases hm : m s with
  | none =>
    rw [hm] at h
    exact h.elim
  | some p =>
    rw [hm] at h
    obtain ⟨b, s'⟩ := p
    obtain ⟨rfl, hr⟩ := h
    exact ⟨s', rfl, hr⟩

/-- The values are the same. -/
theorem Lockstep.value {m n : StateT σ Option α} (h : Lockstep R m n s t) :
    (m s).map Prod.fst = (n t).map Prod.fst := by
  unfold Lockstep at h
  cases hm : m s <;> cases hn : n t <;> rw [hm, hn] at h
  · exact h.elim
  · exact h.elim
  · exact congrArg some h.1

theorem Lockstep.mono {m n : StateT σ Option α} (h : Lockstep R m n s t) (hR : ∀ s t, R s t → R' s t) :
    Lockstep R' m n s t := by
  unfold Lockstep at h ⊢
  cases hm : m s <;> cases hn : n t <;> rw [hm, hn] at h
  · trivial
  · exact h.elim
  · exact h.elim
  · exact ⟨h.1, hR _ _ h.2⟩

/-! ## Rules -/

theorem lockstep_pure (h : R s t) (a : α) : Lockstep R (pure a : StateT σ Option α) (pure a) s t := ⟨rfl, h⟩

/-- What either run is known to end with may be used behind it. -/
theorem lockstep_bind_of_ends {m n : StateT σ Option α} {f g : α → StateT σ Option β} {P Q : α → σ → Prop}
    (hm : Lockstep R' m n s t) (hs : Ends m s P) (ht : Ends n t Q)
    (hf : ∀ a s' t', R' s' t' → P a s' → Q a t' → Lockstep R (f a) (g a) s' t') :
    Lockstep R (m >>= f) (n >>= g) s t := by
  unfold Lockstep at hm ⊢
  simp only [bind, StateT.bind]
  cases hms : m s with
  | none =>
    cases hnt : n t with
    | none => trivial
    | some q =>
      rw [hms, hnt] at hm
      exact hm.elim
  | some p =>
    cases hnt : n t with
    | none =>
      rw [hms, hnt] at hm
      exact hm.elim
    | some q =>
      rw [hms, hnt] at hm
      obtain ⟨a, s'⟩ := p
      obtain ⟨b, t'⟩ := q
      obtain ⟨rfl, hr⟩ := hm
      exact hf a s' t' hr (hs a s' hms) (ht a t' hnt)

theorem lockstep_bind {m n : StateT σ Option α} {f g : α → StateT σ Option β} (hm : Lockstep R' m n s t)
    (hf : ∀ a s' t', R' s' t' → Lockstep R (f a) (g a) s' t') : Lockstep R (m >>= f) (n >>= g) s t :=
  lockstep_bind_of_ends (P := fun _ _ => True) (Q := fun _ _ => True) hm (fun _ _ _ => trivial)
    (fun _ _ _ => trivial) fun a s' t' h _ _ => hf a s' t' h

/-- What is read is one state here and the other there. -/
theorem lockstep_get {f g : σ → StateT σ Option β} (h : Lockstep R (f s) (g t) s t) :
    Lockstep R (get >>= f) (get >>= g) s t := h

theorem lockstep_set {s' t' : σ} (h : R s' t') :
    Lockstep R (set s' : StateT σ Option PUnit) (set t') s t := ⟨rfl, h⟩

theorem lockstep_modify {f g : σ → σ} (h : R (f s) (g t)) :
    Lockstep R (modify f : StateT σ Option PUnit) (modify g) s t := ⟨rfl, h⟩

theorem lockstep_never : Lockstep R (fun _ => none : StateT σ Option α) (fun _ => none) s t := trivial

/-- The runs take the same branch. -/
theorem lockstep_ite {c d : Prop} [Decidable c] [Decidable d] {m n m' n' : StateT σ Option α} (hcd : c ↔ d)
    (hm : c → Lockstep R m n s t) (hn : ¬ c → Lockstep R m' n' s t) :
    Lockstep R (if c then m else m') (if d then n else n') s t := by
  by_cases h : c
  · rw [if_pos h, if_pos (hcd.1 h)]
    exact hm h
  · rw [if_neg h, if_neg fun hd => h (hcd.2 hd)]
    exact hn h

/-! ## Programs that treat related states alike -/

/-- From any two related states `m` has the same outcome. -/
def Alike (R : σ → σ → Prop) (m : StateT σ Option α) : Prop := ∀ s t, R s t → Lockstep R m m s t

section Alike

theorem alike_pure (a : α) : Alike R (pure a : StateT σ Option α) := fun _ _ h => lockstep_pure h a

theorem alike_bind {m : StateT σ Option α} {f : α → StateT σ Option β} (hm : Alike R m)
    (hf : ∀ a, Alike R (f a)) :
    Alike R (m >>= f) :=
  fun s t h => lockstep_bind (hm s t h) fun a s' t' h' => hf a s' t' h'

/-- A block that reads the state is one program there and another here. -/
theorem alike_get {f : σ → StateT σ Option α} (h : ∀ s t, R s t → Lockstep R (f s) (f t) s t) :
    Alike R (get >>= f) :=
  fun s t hst => lockstep_get (h s t hst)

theorem alike_modify {f : σ → σ} (h : ∀ s t, R s t → R (f s) (f t)) :
    Alike R (modify f : StateT σ Option PUnit) :=
  fun s t hst => lockstep_modify (h s t hst)

theorem alike_never : Alike R (fun _ => none : StateT σ Option α) := fun _ _ _ => lockstep_never

theorem alike_ite {c : Prop} [Decidable c] {m n : StateT σ Option α} (hm : Alike R m) (hn : Alike R n) :
    Alike R (if c then m else n) :=
  fun s t h => lockstep_ite Iff.rfl (fun _ => hm s t h) fun _ => hn s t h

theorem alike_ite_of {c : Prop} [Decidable c] {m n : StateT σ Option α} (hm : c → Alike R m)
    (hn : ¬ c → Alike R n) : Alike R (if c then m else n) :=
  fun s t h => lockstep_ite Iff.rfl (fun hc => hm hc s t h) fun hc => hn hc s t h

/-- A test that leaves the block early. -/
theorem alike_guard {c : Prop} [Decidable c] {a : α} {m : StateT σ Option α} (hm : Alike R m) :
    Alike R (if c then pure a else m) :=
  alike_ite (alike_pure a) hm

end Alike

end OsdTarget.Base
