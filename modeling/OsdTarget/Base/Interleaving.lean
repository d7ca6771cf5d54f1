import OsdTarget.Base.Lockstep

/-!
# Two parties that take turns

The commands of two parties run one at a time, in any order.  Relations say what either party may see:
states related by `A` differ at most in what belongs to the left party, states related by `B` at most in
what belongs to the right one.  A left command stays inside `A`, and does the same from any two states
related by `B`.  Then it makes no difference to either party when the other has its turns.
-/

namespace OsdTarget.Base

variable {σ ι ω α : Type}

/-- What belongs to the left party, in its order. -/
def lefts (l : List (α ⊕ α)) : List α := l.filterMap Sum.getLeft?

/-- What belongs to the right party. -/
def rights (l : List (α ⊕ α)) : List α := l.filterMap Sum.getRight?

section

variable (a : α) (l : List (α ⊕ α))

@[simp] theorem lefts_nil : lefts ([] : List (α ⊕ α)) = [] := rfl
@[simp] theorem rights_nil : rights ([] : List (α ⊕ α)) = [] := rfl
@[simp] theorem lefts_inl : lefts (.inl a :: l) = a :: lefts l := rfl
@[simp] theorem rights_inl : rights (.inl a :: l) = rights l := rfl
@[simp] theorem lefts_inr : lefts (.inr a :: l) = lefts l := rfl
@[simp] theorem rights_inr : rights (.inr a :: l) = a :: rights l := rfl

end

variable (exec : ι → StateT σ Option ω)

/-- Commands of both parties one after the other; an outcome goes to the party of its command. -/
def runTurns : List (ι ⊕ ι) → StateT σ Option (List (ω ⊕ ω))
  | [] => return []
  | .inl x :: zs => do
    let o ← exec x
    let os ← runTurns zs
    return .inl o :: os
  | .inr y :: zs => do
    let o ← exec y
    let os ← runTurns zs
    return .inr o :: os

/-- `P` holds of every state the run comes to. -/
def Throughout (P : σ → Prop) (zs : List (ι ⊕ ι)) (s : σ) : Prop :=
  ∀ l l', zs = l ++ l' → Ends (runTurns exec l) s fun _ t => P t

/-- The commands of one party, each met in a state with `P`, among steps of others that stay inside `E`. -/
inductive Solo (E : σ → σ → Prop) (P : σ → Prop) : List ι → σ → List ω → σ → Prop
  | done {s t : σ} : E s t → Solo E P [] s [] t
  | step {x : ι} {xs : List ι} {s t u v : σ} {o : ω} {os : List ω} : E s t → P t →
      exec x t = some (o, u) → P u →
      Solo E P xs u os v → Solo E P (x :: xs) s (o :: os) v

/-- A party with the commands `xs`: they stay inside its own relation, and do the same from states the other
relation does not tell apart. -/
structure Party (own other : σ → σ → Prop) (P : σ → Prop) (xs : List ι) : Prop where
  stays : ∀ x ∈ xs, Respects own (exec x)
  same : ∀ x ∈ xs, ∀ s t, P s → P t → other s t → Lockstep other (exec x) (exec x) s t

variable {exec} {A B E : σ → σ → Prop} {P : σ → Prop} {s s' t : σ}

/-! ## Runs -/

theorem runTurns_inl {x : ι} {zs : List (ι ⊕ ι)} {os : List (ω ⊕ ω)} :
    runTurns exec (.inl x :: zs) s = some (os, s') ↔ ∃ o t os', exec x s = some (o, t) ∧
      runTurns exec zs t = some (os', s') ∧ os = .inl o :: os' := by
  show (exec x s).bind (fun r => (runTurns exec zs r.2).bind fun rs => some (.inl r.1 :: rs.1, rs.2)) = _ ↔ _
  simp only [Option.bind_eq_some_iff, Prod.exists, Option.some.injEq, Prod.mk.injEq]
  constructor
  · rintro ⟨o, t, hx, os', u, hzs, rfl, rfl⟩
    exact ⟨o, t, os', hx, hzs, rfl⟩
  · rintro ⟨o, t, os', hx, hzs, rfl⟩
    exact ⟨o, t, hx, os', s', hzs, rfl, rfl⟩

theorem runTurns_inr {y : ι} {zs : List (ι ⊕ ι)} {os : List (ω ⊕ ω)} :
    runTurns exec (.inr y :: zs) s = some (os, s') ↔ ∃ o t os', exec y s = some (o, t) ∧
      runTurns exec zs t = some (os', s') ∧ os = .inr o :: os' := by
  show (exec y s).bind (fun r => (runTurns exec zs r.2).bind fun rs => some (.inr r.1 :: rs.1, rs.2)) = _ ↔ _
  simp only [Option.bind_eq_some_iff, Prod.exists, Option.some.injEq, Prod.mk.injEq]
  constructor
  · rintro ⟨o, t, hy, os', u, hzs, rfl, rfl⟩
    exact ⟨o, t, os', hy, hzs, rfl⟩
  · rintro ⟨o, t, os', hy, hzs, rfl⟩
    exact ⟨o, t, hy, os', s', hzs, rfl, rfl⟩

theorem Throughout.start {zs : List (ι ⊕ ι)} (h : Throughout exec P zs s) : P s :=
  h [] zs rfl [] s rfl

theorem Throughout.left {x : ι} {zs : List (ι ⊕ ι)} {o : ω} (h : Throughout exec P (.inl x :: zs) s)
    (hx : exec x s = some (o, t)) : Throughout exec P zs t := by
  intro l l' hl os u hrun
  exact h (.inl x :: l) l' (by rw [hl]; rfl) _ u (runTurns_inl.2 ⟨o, t, os, hx, hrun, rfl⟩)

theorem Throughout.right {y : ι} {zs : List (ι ⊕ ι)} {o : ω} (h : Throughout exec P (.inr y :: zs) s)
    (hy : exec y s = some (o, t)) : Throughout exec P zs t := by
  intro l l' hl os u hrun
  exact h (.inr y :: l) l' (by rw [hl]; rfl) _ u (runTurns_inr.2 ⟨o, t, os, hy, hrun, rfl⟩)

/-- What the commands of neither party undo holds throughout. -/
theorem throughout_of_stays (hEP : ∀ s t, E s t → P s → P t) {zs : List (ι ⊕ ι)}
    (hl : ∀ x ∈ lefts zs, Respects E (exec x)) (hr : ∀ y ∈ rights zs, Respects E (exec y)) (hP : P s) :
    Throughout exec P zs s := by
  induction zs generalizing s with
  | nil =>
    intro l l' hl os t hrun
    obtain ⟨rfl, -⟩ := List.append_eq_nil_iff.1 hl.symm
    cases hrun
    exact hP
  | cons z zs ih =>
    intro l l' hzs os t hrun
    cases l with
    | nil =>
      cases hrun
      exact hP
    | cons z' l =>
      obtain ⟨rfl, htail⟩ := List.cons_eq_cons.1 hzs
      cases z with
      | inl x =>
        obtain ⟨o, u, os', hx, hrest, rfl⟩ := runTurns_inl.1 hrun
        obtain ⟨hx', hl⟩ := List.forall_mem_cons.1 hl
        exact ih hl hr (hEP s u (hx' s o u hx) hP) l l' htail os' t hrest
      | inr y =>
        obtain ⟨o, u, os', hy, hrest, rfl⟩ := runTurns_inr.1 hrun
        obtain ⟨hy', hr⟩ := List.forall_mem_cons.1 hr
        exact ih hl hr (hEP s u (hy' s o u hy) hP) l l' htail os' t hrest

theorem Solo.wait {xs : List ι} {os : List ω} (hE : Equivalence E) (h : E s t)
    (hsolo : Solo exec E P xs t os s') : Solo exec E P xs s os s' := by
  cases hsolo with
  | done h' => exact .done (hE.trans h h')
  | step h' hP hx hP' hrest => exact .step (hE.trans h h') hP hx hP' hrest

/-! ## What either party sees of a run -/

section

variable {xs ys : List ι}

/-- **Projection.**  Of any run either party sees its own commands, among steps of the other. -/
theorem solo_of_run (hA : Equivalence A) (hB : Equivalence B) (hleft : ∀ x ∈ xs, Respects A (exec x))
    (hright : ∀ y ∈ ys, Respects B (exec y)) {zs : List (ι ⊕ ι)} (hxs : ∀ x ∈ lefts zs, x ∈ xs)
    (hys : ∀ y ∈ rights zs, y ∈ ys) (hP : Throughout exec P zs s) {os : List (ω ⊕ ω)}
    (hrun : runTurns exec zs s = some (os, s')) :
    Solo exec B P (lefts zs) s (lefts os) s' ∧ Solo exec A P (rights zs) s (rights os) s' := by
  induction zs generalizing s os with
  | nil =>
    cases hrun
    exact ⟨.done (hB.refl _), .done (hA.refl _)⟩
  | cons z zs ih =>
    cases z with
    | inl x =>
      obtain ⟨o, t, os', hx, hzs, rfl⟩ := runTurns_inl.1 hrun
      have hPt := hP.left hx
      obtain ⟨hl, hr⟩ := ih (fun x' hx' => hxs x' (List.mem_cons_of_mem _ hx')) hys hPt hzs
      refine ⟨.step (hB.refl s) hP.start hx hPt.start hl, hr.wait hA ?_⟩
      exact hleft x (hxs x List.mem_cons_self) s o t hx
    | inr y =>
      obtain ⟨o, t, os', hy, hzs, rfl⟩ := runTurns_inr.1 hrun
      have hPt := hP.right hy
      obtain ⟨hl, hr⟩ := ih hxs (fun y' hy' => hys y' (List.mem_cons_of_mem _ hy')) hPt hzs
      refine ⟨hl.wait hB ?_, .step (hA.refl s) hP.start hy hPt.start hr⟩
      exact hright y (hys y List.mem_cons_self) s o t hy

/-- **Merging.**  Commands that either party has seen run can be run in any order, with these outcomes. -/
theorem run_of_solo (hA : Equivalence A) (hB : Equivalence B) (hleft : Party exec A B P xs)
    (hright : Party exec B A P ys) (hP : ∀ s s' t, B s t → A s' t → P s → P s' → P t) {zs : List (ι ⊕ ι)}
    (hxs : ∀ x ∈ lefts zs, x ∈ xs) (hys : ∀ y ∈ rights zs, y ∈ ys) {s₁ s₁' s₂ s₂' : σ} {os ps : List ω}
    (h₁ : Solo exec B P (lefts zs) s₁ os s₁') (h₂ : Solo exec A P (rights zs) s₂ ps s₂') (ht₁ : B s₁ t)
    (ht₂ : A s₂ t) (hP₁ : P s₁) (hP₂ : P s₂) :
    ∃ qs t', runTurns exec zs t = some (qs, t') ∧ lefts qs = os ∧ rights qs = ps ∧ B s₁' t' ∧ A s₂' t' := by
  induction zs generalizing t s₁ s₂ os ps with
  | nil =>
    cases h₁ with
    | done h₁ =>
      cases h₂ with
      | done h₂ => exact ⟨[], t, rfl, rfl, rfl, hB.trans (hB.symm h₁) ht₁, hA.trans (hA.symm h₂) ht₂⟩
  | cons z zs ih =>
    cases z with
    | inl x =>
      cases h₁ with
      | @step _ _ _ p u _ o os hwait hPp hx hPu hrest =>
        have hpt : B p t := hB.trans (hB.symm hwait) ht₁
        have hmem : x ∈ xs := hxs x List.mem_cons_self
        obtain ⟨t₁, hxt, hut⟩ := (hleft.same x hmem p t hPp (hP p s₂ t hpt ht₂ hPp hP₂) hpt).run hx
        have hown : A t t₁ := hleft.stays x hmem t o t₁ hxt
        obtain ⟨qs, t', hrun, rfl, rfl, hend⟩ :=
            ih (fun x' hx' => hxs x' (List.mem_cons_of_mem _ hx')) hys hrest h₂
          hut (hA.trans ht₂ hown) hPu hP₂
        exact ⟨.inl o :: qs, t', runTurns_inl.2 ⟨o, t₁, qs, hxt, hrun, rfl⟩, rfl, rfl, hend⟩
    | inr y =>
      cases h₂ with
      | @step _ _ _ p u _ o ps hwait hPp hy hPu hrest =>
        have hpt : A p t := hA.trans (hA.symm hwait) ht₂
        have hmem : y ∈ ys := hys y List.mem_cons_self
        obtain ⟨t₁, hyt, hut⟩ := (hright.same y hmem p t hPp (hP s₁ p t ht₁ hpt hP₁ hPp) hpt).run hy
        have hown : B t t₁ := hright.stays y hmem t o t₁ hyt
        obtain ⟨qs, t', hrun, rfl, rfl, hend⟩ :=
            ih hxs (fun y' hy' => hys y' (List.mem_cons_of_mem _ hy')) h₁ hrest
          (hB.trans ht₁ hown) hut hP₁ hPu
        exact ⟨.inr o :: qs, t', runTurns_inr.2 ⟨o, t₁, qs, hyt, hrun, rfl⟩, rfl, rfl, hend⟩

/-- **The order of turns does not matter.**  If a run of the commands in one order ends, so does one in any
other, with the same outcomes for either party, in a state that neither party tells apart. -/
theorem turns_agree (hA : Equivalence A) (hB : Equivalence B) (hleft : Party exec A B P xs)
    (hright : Party exec B A P ys) (hP : ∀ s s' t, B s t → A s' t → P s → P s' → P t)
    {zs zs' : List (ι ⊕ ι)}
    (hl : lefts zs = xs) (hr : rights zs = ys) (hl' : lefts zs' = xs) (hr' : rights zs' = ys)
    (hthrough : Throughout exec P zs s) {os : List (ω ⊕ ω)} (hrun : runTurns exec zs s = some (os, s')) :
    ∃ os' t', runTurns exec zs' s = some (os', t') ∧ lefts os' = lefts os ∧ rights os' = rights os ∧
      B s' t' ∧ A s' t' := by
  obtain ⟨h₁, h₂⟩ := solo_of_run hA hB hleft.stays hright.stays (fun x hx => hl ▸ hx) (fun y hy => hr ▸ hy)
    hthrough hrun
  rw [hl] at h₁
  rw [hr] at h₂
  exact run_of_solo hA hB hleft hright hP (fun x hx => hl' ▸ hx) (fun y hy => hr' ▸ hy)
    (hl' ▸ h₁) (hr' ▸ h₂)
    (hB.refl s) (hA.refl s) hthrough.start hthrough.start

end

end OsdTarget.Base
