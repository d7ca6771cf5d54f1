import Mathlib.Tactic.Common

/-!
# A small program logic for stateful code that may not return

A program over a state `σ` is a `StateT σ Option α`: run from a state it gives a value and a new
state, or `none` when it never returns.  `Ends m s Q` says that whenever `m` returns from `s` it
does so with a value and a state satisfying `Q`.  The rules below follow the syntax of a `do` block,
so that `simp only` with them walks through a program, and a call is answered by the callee's own
specification through `Ends.mono`.  `Respects R m` is the relational form for programs all of whose
steps stay inside one reflexive and transitive relation.
-/

namespace OsdTarget.Base

variable {σ α β : Type}

/-- Whenever `m` returns from `s`, its value and its final state satisfy `Q`. -/
def Ends (m : StateT σ Option α) (s : σ) (Q : α → σ → Prop) : Prop :=
  ∀ a s', m s = some (a, s') → Q a s'

theorem Ends.mono {m : StateT σ Option α} {s : σ} {Q Q' : α → σ → Prop} (h : Ends m s Q)
    (hQ : ∀ a s', Q a s' → Q' a s') : Ends m s Q' :=
  fun a s' e => hQ a s' (h a s' e)

theorem Ends.and {m : StateT σ Option α} {s : σ} {Q Q' : α → σ → Prop} (h : Ends m s Q)
    (h' : Ends m s Q') : Ends m s (fun a s' => Q a s' ∧ Q' a s') :=
  fun a s' e => ⟨h a s' e, h' a s' e⟩

/-! ## Rules, one for each form a `do` block elaborates to -/

@[simp] theorem ends_pure {a : α} {s : σ} {Q : α → σ → Prop} :
    Ends (pure a : StateT σ Option α) s Q ↔ Q a s := by
  constructor
  · intro h
    exact h a s rfl
  · intro h b s' e
    cases e
    exact h

@[simp] theorem ends_bind {m : StateT σ Option α} {f : α → StateT σ Option β} {s : σ}
    {Q : β → σ → Prop} :
    Ends (m >>= f) s Q ↔ Ends m s (fun a s' => Ends (f a) s' Q) := by
  constructor
  · intro h a s' e b s'' e'
    exact h b s'' (by simp only [bind, StateT.bind, e, Option.bind_some]; exact e')
  · intro h b s'' e
    simp only [bind, StateT.bind] at e
    cases hm : m s with
    | none => simp [hm] at e
    | some p => exact h p.1 p.2 hm b s'' (by simpa [hm] using e)

@[simp] theorem ends_map {m : StateT σ Option α} {f : α → β} {s : σ} {Q : β → σ → Prop} :
    Ends (f <$> m) s Q ↔ Ends m s (fun a s' => Q (f a) s') := by
  rw [map_eq_pure_bind, ends_bind]
  simp only [ends_pure]

@[simp] theorem ends_get {s : σ} {Q : σ → σ → Prop} :
    Ends (get : StateT σ Option σ) s Q ↔ Q s s := ends_pure

@[simp] theorem ends_set {s t : σ} {Q : PUnit → σ → Prop} :
    Ends (set t : StateT σ Option PUnit) s Q ↔ Q ⟨⟩ t :=
  ⟨fun h => h ⟨⟩ t rfl, fun h a s' e => by cases e; exact h⟩

@[simp] theorem ends_modify {f : σ → σ} {s : σ} {Q : PUnit → σ → Prop} :
    Ends (modify f : StateT σ Option PUnit) s Q ↔ Q ⟨⟩ (f s) :=
  ⟨fun h => h ⟨⟩ (f s) rfl, fun h a s' e => by cases e; exact h⟩

@[simp] theorem ends_never {s : σ} {Q : α → σ → Prop} :
    Ends (fun _ => none : StateT σ Option α) s Q ↔ True :=
  ⟨fun _ => trivial, fun _ _ _ e => nomatch e⟩

theorem ends_ite {c : Prop} [Decidable c] {m n : StateT σ Option α} {s : σ} {Q : α → σ → Prop} :
    Ends (if c then m else n) s Q ↔ (c → Ends m s Q) ∧ (¬ c → Ends n s Q) := by
  by_cases h : c <;> simp [h]

theorem ends_ite_of {c : Prop} [Decidable c] {m n : StateT σ Option α} {s : σ} {Q : α → σ → Prop}
    (hm : c → Ends m s Q) (hn : ¬ c → Ends n s Q) : Ends (if c then m else n) s Q :=
  ends_ite.2 ⟨hm, hn⟩

/-- A call: the callee's specification, then the rest of the block from each of its outcomes. -/
theorem ends_call {m : StateT σ Option α} {f : α → StateT σ Option β} {s : σ}
    {P : α → σ → Prop} {Q : β → σ → Prop} (hm : Ends m s P)
    (hf : ∀ a s', P a s' → Ends (f a) s' Q) : Ends (m >>= f) s Q :=
  ends_bind.2 (hm.mono hf)

/-! ## Programs whose steps stay in one relation -/

/-- Every run of `m` relates its first and its last state by `R`. -/
def Respects (R : σ → σ → Prop) (m : StateT σ Option α) : Prop :=
  ∀ s, Ends m s (fun _ s' => R s s')

section Respects

variable {R : σ → σ → Prop}

theorem respects_pure (hr : ∀ s, R s s) (a : α) : Respects R (pure a : StateT σ Option α) :=
  fun s => ends_pure.2 (hr s)

theorem respects_bind (ht : ∀ s t v, R s t → R t v → R s v) {m : StateT σ Option α}
    {f : α → StateT σ Option β} (hm : Respects R m) (hf : ∀ a, Respects R (f a)) :
    Respects R (m >>= f) :=
  fun s => ends_call (hm s) (fun a t h => (hf a t).mono (fun _ v h' => ht s t v h h'))

theorem respects_get (hr : ∀ s, R s s) : Respects R (get : StateT σ Option σ) :=
  fun s => ends_get.2 (hr s)

theorem respects_modify {f : σ → σ} (h : ∀ s, R s (f s)) :
    Respects R (modify f : StateT σ Option PUnit) :=
  fun s => ends_modify.2 (h s)

theorem respects_ite {c : Prop} [Decidable c] {m n : StateT σ Option α}
    (hm : Respects R m) (hn : Respects R n) : Respects R (if c then m else n) :=
  fun s => ends_ite_of (fun _ => hm s) (fun _ => hn s)

theorem respects_ite_of {c : Prop} [Decidable c] {m n : StateT σ Option α}
    (hm : c → Respects R m) (hn : ¬ c → Respects R n) : Respects R (if c then m else n) :=
  fun s => ends_ite_of (fun h => hm h s) (fun h => hn h s)

end Respects

/-! ## What a program answers with -/

/-- From every state, whatever `m` returns satisfies `P`. -/
def Yields (P : α → Prop) (m : StateT σ Option α) : Prop := ∀ s, Ends m s fun a _ => P a

section Yields

variable {P P' : α → Prop} {P'' : β → Prop}

theorem Yields.mono {m : StateT σ Option α} (h : Yields P m) (hP : ∀ a, P a → P' a) : Yields P' m :=
  fun s => (h s).mono fun a _ => hP a

theorem yields_pure {a : α} (h : P a) : Yields P (pure a : StateT σ Option α) := fun _ => ends_pure.2 h

/-- Only the end of a block matters. -/
theorem yields_bind {m : StateT σ Option β} {f : β → StateT σ Option α} (hf : ∀ b, Yields P (f b)) :
    Yields P (m >>= f) :=
  fun _ => ends_bind.2 fun b t _ => hf b t

theorem yields_call {m : StateT σ Option β} {f : β → StateT σ Option α} (hm : Yields P'' m)
    (hf : ∀ b, P'' b → Yields P (f b)) : Yields P (m >>= f) :=
  fun s => ends_call (hm s) fun b t hb => hf b hb t

theorem yields_ite {c : Prop} [Decidable c] {m n : StateT σ Option α} (hm : Yields P m) (hn : Yields P n) :
    Yields P (if c then m else n) :=
  fun s => ends_ite_of (fun _ => hm s) fun _ => hn s

/-- A test that leaves the block early. -/
theorem yields_guard {c : Prop} [Decidable c] {a : α} {m : StateT σ Option α} (ha : P a) (hm : Yields P m) :
    Yields P (if c then pure a else m) :=
  yields_ite (yields_pure ha) hm

theorem yields_never : Yields P (fun _ => none : StateT σ Option α) := fun _ _ _ h => nomatch h

theorem yields_map {m : StateT σ Option β} {f : β → α} (hm : Yields (fun b => P (f b)) m) :
    Yields P (f <$> m) :=
  fun s => ends_map.2 (hm s)

end Yields

/-! ## Programs that return -/

/-- `m` returns from every state. -/
def Halts (m : StateT σ Option α) : Prop := ∀ s, ∃ a s', m s = some (a, s')

/-- The rest of a block after a call whose outcome is known. -/
theorem bind_of_some {m : StateT σ Option α} {f : α → StateT σ Option β} {s s' : σ} {a : α}
    (h : m s = some (a, s')) : (m >>= f) s = f a s' := by
  simp only [bind, StateT.bind, h, Option.bind_some]

theorem bind_of_none {m : StateT σ Option α} {f : α → StateT σ Option β} {s : σ} (h : m s = none) :
    (m >>= f) s = none := by
  simp only [bind, StateT.bind, h, Option.bind_none]

/-- What is made of an outcome. -/
theorem map_run {m : StateT σ Option α} {f : α → β} {s s' : σ} {b : β} :
    (f <$> m) s = some (b, s') ↔ ∃ a, m s = some (a, s') ∧ f a = b := by
  show (m s).bind (fun x => some (f x.1, x.2)) = _ ↔ _
  rw [Option.bind_eq_some_iff]
  constructor
  · rintro ⟨⟨a, t⟩, hm, heq⟩
    cases heq
    exact ⟨a, hm, rfl⟩
  · rintro ⟨a, hm, rfl⟩
    exact ⟨(a, s'), hm, rfl⟩

/-- The rest of a block that looks at the state first. -/
theorem bind_get {f : σ → StateT σ Option β} {s : σ} : ((get : StateT σ Option σ) >>= f) s = f s s := rfl

theorem ends_of_run {m : StateT σ Option α} {s s' : σ} {a : α} {Q : α → σ → Prop}
    (h : m s = some (a, s')) : Ends m s Q ↔ Q a s' := by
  constructor
  · intro hq
    exact hq a s' h
  · intro hq b t hr
    rw [h] at hr
    cases hr
    exact hq

/-- Postconditions that agree on the outcomes of `m`. -/
theorem Ends.congr {m : StateT σ Option α} {s : σ} {Q Q' : α → σ → Prop}
    (h : Ends m s fun a s' => (Q a s' ↔ Q' a s')) : Ends m s Q ↔ Ends m s Q' :=
  ⟨fun hq a s' hr => (h a s' hr).1 (hq a s' hr), fun hq a s' hr => (h a s' hr).2 (hq a s' hr)⟩

theorem Ends.of_halts {m : StateT σ Option α} {s : σ} {Q : α → σ → Prop} (h : Ends m s Q)
    (hm : Halts m) : ∃ a s', m s = some (a, s') ∧ Q a s' := by
  obtain ⟨a, s', hr⟩ := hm s
  exact ⟨a, s', hr, h a s' hr⟩

/-- A program that returns does so as specified under a condition that its outcome decides. -/
theorem Ends.exists_iff {m : StateT σ Option α} {s : σ} {Q : α → σ → Prop} {c : Prop}
    (h : Ends m s fun a s' => (Q a s' ↔ c)) (hm : Halts m) : (∃ a s', m s = some (a, s') ∧ Q a s') ↔ c := by
  obtain ⟨a, s', hr, hiff⟩ := h.of_halts hm
  constructor
  · rintro ⟨b, t, hr', hq⟩
    rw [hr] at hr'
    cases hr'
    exact hiff.1 hq
  · exact fun hc => ⟨a, s', hr, hiff.2 hc⟩

theorem Ends.iff_of_halts {m : StateT σ Option α} {s : σ} {Q : α → σ → Prop} {c : Prop}
    (h : Ends m s fun a s' => (Q a s' ↔ c)) (hm : Halts m) : Ends m s Q ↔ c := by
  obtain ⟨a, s', hr, hiff⟩ := h.of_halts hm
  rw [ends_of_run hr]
  exact hiff

section Halts

theorem halts_pure (a : α) : Halts (pure a : StateT σ Option α) := fun s => ⟨a, s, rfl⟩

theorem halts_bind {m : StateT σ Option α} {f : α → StateT σ Option β} (hm : Halts m)
    (hf : ∀ a, Halts (f a)) : Halts (m >>= f) := by
  intro s
  obtain ⟨a, s', hr⟩ := hm s
  rw [bind_of_some hr]
  exact hf a s'

theorem halts_get : Halts (get : StateT σ Option σ) := fun s => ⟨s, s, rfl⟩

theorem halts_set (t : σ) : Halts (set t : StateT σ Option PUnit) := fun _ => ⟨⟨⟩, t, rfl⟩

theorem halts_modify (f : σ → σ) : Halts (modify f : StateT σ Option PUnit) :=
  fun s => ⟨⟨⟩, f s, rfl⟩

theorem halts_ite_of {c : Prop} [Decidable c] {m n : StateT σ Option α} (hm : c → Halts m)
    (hn : ¬ c → Halts n) : Halts (if c then m else n) := by
  by_cases h : c
  · rw [if_pos h]
    exact hm h
  · rw [if_neg h]
    exact hn h

theorem halts_ite {c : Prop} [Decidable c] {m n : StateT σ Option α} (hm : Halts m) (hn : Halts n) :
    Halts (if c then m else n) := halts_ite_of (fun _ => hm) fun _ => hn

end Halts

end OsdTarget.Base
