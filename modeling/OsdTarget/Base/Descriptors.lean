import Mathlib.Data.Finset.Card
import OsdTarget.Base.StateLogic

/-!
# Open descriptors

Programs of a process with a set of open descriptors.  `quietly` runs a program that opens and closes
nothing, `takeFd` and `closeFd` open and close, `noteCall` notes a call with what it met.  A program
`Erases` to another that does the same without descriptors; it `Accounts` for its calls when none of its
descriptors is lost exactly if no call has lost one.
-/

namespace OsdTarget.Base

variable {σ κ α β : Type}

/-! ## Processes -/

/-- The lowest number that is not taken. -/
def lowestFree (fds : Finset ℕ) : ℕ := ((List.range (fds.card + 1)).find? (· ∉ fds)).getD 0

theorem lowestFree_notMem (fds : Finset ℕ) : lowestFree fds ∉ fds := by
  unfold lowestFree
  cases h : (List.range (fds.card + 1)).find? (· ∉ fds) with
  | some n =>
    have hn := List.find?_some h
    exact of_decide_eq_true hn
  | none =>
    -- more numbers than descriptors
    have hsub : Finset.range (fds.card + 1) ⊆ fds := by
      intro n hn
      have hmem := List.find?_eq_none.1 h n (List.mem_range.2 (Finset.mem_range.1 hn))
      simpa using hmem
    have hcard := Finset.card_le_card hsub
    rw [Finset.card_range] at hcard
    exact absurd hcard (Nat.not_succ_le_self _)

theorem lowestFree_eq_zero (fds : Finset ℕ) : lowestFree fds = 0 ↔ 0 ∉ fds := by
  constructor
  · intro h
    rw [← h]
    exact lowestFree_notMem fds
  · intro h
    unfold lowestFree
    rw [List.range_succ_eq_map, List.find?_cons_of_pos (by simpa using h)]
    rfl

/-- A state, the open descriptors, and the calls made so far with the state and descriptors each has met. -/
structure Process (σ κ : Type) where
  state : σ
  fds : Finset ℕ
  calls : List (κ × σ × Finset ℕ)

abbrev ProcessM (σ κ α : Type) := StateT (Process σ κ) Option α

/-- A program that opens and closes nothing. -/
def quietly (m : StateT σ Option α) : ProcessM σ κ α := fun p =>
  (m p.state).map fun x => (x.1, { p with state := x.2 })

/-- An `open` that succeeds. -/
def takeFd : ProcessM σ κ ℕ := do
  let p ← get
  set { p with fds := insert (lowestFree p.fds) p.fds }
  return lowestFree p.fds

def closeFd (fd : ℕ) : ProcessM σ κ Unit := modify fun p => { p with fds := p.fds.erase fd }

def noteCall (c : κ) : ProcessM σ κ Unit := modify fun p =>
    { p with calls := p.calls ++ [(c, p.state, p.fds)] }

section Rules

variable {p : Process σ κ}

theorem ends_quietly {m : StateT σ Option α} {Q : α → Process σ κ → Prop}
    (h : Ends m p.state fun a t => Q a { p with state := t }) : Ends (quietly m) p Q := by
  intro a q hrun
  obtain ⟨⟨b, t⟩, hm, heq⟩ := Option.map_eq_some_iff.1 hrun
  cases heq
  exact h b t hm

theorem ends_takeFd {Q : ℕ → Process σ κ → Prop}
    (h : Q (lowestFree p.fds) { p with fds := insert (lowestFree p.fds) p.fds }) : Ends takeFd p Q :=
  ends_bind.2 (ends_get.2 (ends_bind.2 (ends_set.2 (ends_pure.2 h))))

theorem ends_closeFd {fd : ℕ} {Q : Unit → Process σ κ → Prop} (h : Q () { p with fds := p.fds.erase fd }) :
    Ends (closeFd fd) p Q :=
  ends_modify.2 h

theorem erase_lowestFree (fds : Finset ℕ) : (insert (lowestFree fds) fds).erase (lowestFree fds) = fds :=
  Finset.erase_insert (lowestFree_notMem fds)

end Rules

/-! ## Without descriptors -/

/-- `m'` does to the state what `m` does. -/
def Erases (m' : ProcessM σ κ α) (m : StateT σ Option α) : Prop :=
  ∀ p, (m' p).map (fun x => (x.1, x.2.state)) = m p.state

section Erases

theorem erases_quietly (m : StateT σ Option α) : Erases (quietly m : ProcessM σ κ α) m := by
  intro p
  unfold quietly
  cases m p.state <;> rfl

theorem erases_pure (a : α) : Erases (pure a : ProcessM σ κ α) (pure a) := fun _ => rfl

theorem erases_bind {m' : ProcessM σ κ α} {m : StateT σ Option α} {f' : α → ProcessM σ κ β}
    {f : α → StateT σ Option β} (hm : Erases m' m) (hf : ∀ a, Erases (f' a) (f a)) :
    Erases (m' >>= f') (m >>= f) := by
  intro p
  have h := hm p
  simp only [bind, StateT.bind]
  cases hrun : m' p with
  | none =>
    rw [hrun] at h
    rw [← h]
    rfl
  | some x =>
    rw [hrun] at h
    rw [← h]
    exact hf x.1 x.2

theorem erases_ite {c : Prop} [Decidable c] {m' n' : ProcessM σ κ α} {m n : StateT σ Option α}
    (hm : Erases m' m)
    (hn : Erases n' n) : Erases (if c then m' else n') (if c then m else n) := by
  by_cases h : c
  · rw [if_pos h, if_pos h]
    exact hm
  · rw [if_neg h, if_neg h]
    exact hn

theorem erases_takeFd {f' : ℕ → ProcessM σ κ α} {m : StateT σ Option α} (h : ∀ fd, Erases (f' fd) m) :
    Erases (takeFd >>= f') m :=
  fun p => h _ { p with fds := insert (lowestFree p.fds) p.fds }

theorem erases_closeFd {fd : ℕ} {m' : ProcessM σ κ α} {m : StateT σ Option α} (h : Erases m' m) :
    Erases (closeFd fd >>= fun _ => m') m :=
  fun p => h { p with fds := p.fds.erase fd }

/-- What the program did is known before the descriptor is closed. -/
theorem erases_closeAfter (m : StateT σ Option α) (fd : ℕ) :
    Erases (quietly m >>= fun a => closeFd fd >>= fun _ => (pure a : ProcessM σ κ α)) m := by
  have hclose : ∀ a : α, Erases (closeFd fd >>= fun _ => (pure a : ProcessM σ κ α)) (pure a) := fun a =>
    erases_closeFd (erases_pure a)
  have h := erases_bind (erases_quietly m) hclose
  rw [bind_pure] at h
  exact h

theorem erases_noteCall {c : κ} {m' : ProcessM σ κ α} {m : StateT σ Option α} (h : Erases m' m) :
    Erases (noteCall c >>= fun _ => m') m :=
  fun p => h { p with calls := p.calls ++ [(c, p.state, p.fds)] }

end Erases

/-! ## Accounts -/

/-- Nothing is closed that was open, and something left open exactly unless `c`. -/
def Balances (c : Prop) (p q : Process σ κ) : Prop :=
  q.calls = p.calls ∧ p.fds ⊆ q.fds ∧ (q.fds = p.fds ↔ c)

/-- The descriptors are the same afterwards exactly if each call made was such as closes what it opens. -/
def Accounts (closes : κ × σ × Finset ℕ → Prop) (m : ProcessM σ κ α) : Prop :=
  ∀ p, Ends m p fun _ q =>
    p.fds ⊆ q.fds ∧ ∃ new, q.calls = p.calls ++ new ∧ (q.fds = p.fds ↔ ∀ x ∈ new, closes x)

section Accounts

variable {closes : κ × σ × Finset ℕ → Prop} {p q : Process σ κ} {c : Prop}

theorem balances_kept (hcalls : q.calls = p.calls) (hfds : q.fds = p.fds) (hc : c) : Balances c p q :=
  ⟨hcalls, hfds ▸ Finset.Subset.refl _, fun _ => hc, fun _ => hfds⟩

theorem balances_lost (hcalls : q.calls = p.calls)
    (hfds : q.fds = insert (lowestFree p.fds) p.fds) (hc : ¬ c) :
    Balances c p q := by
  refine ⟨hcalls, hfds ▸ Finset.subset_insert _ _, fun heq => ?_, fun h => absurd h hc⟩
  have hmem : lowestFree p.fds ∈ q.fds := by
    rw [hfds]
    exact Finset.mem_insert_self _ _
  rw [heq] at hmem
  exact absurd hmem (lowestFree_notMem p.fds)

theorem Balances.congr {d : Prop} (h : Balances c p q) (hcd : c ↔ d) : Balances d p q :=
  ⟨h.1, h.2.1, h.2.2.trans hcd⟩

theorem accounts_of_kept {m : ProcessM σ κ α} (h : ∀ p, Ends m p fun _ q => q.calls = p.calls ∧
    q.fds = p.fds) :
    Accounts closes m := by
  intro p a q hrun
  obtain ⟨hcalls, hfds⟩ := h p a q hrun
  refine ⟨hfds ▸ Finset.Subset.refl _, [], ?_, fun _ x hx => (nomatch hx), fun _ => hfds⟩
  rw [List.append_nil, hcalls]

theorem accounts_quietly (m : StateT σ Option α) : Accounts closes (quietly m : ProcessM σ κ α) :=
  accounts_of_kept fun _ => ends_quietly fun _ _ _ => ⟨rfl, rfl⟩

theorem accounts_pure (a : α) : Accounts closes (pure a : ProcessM σ κ α) :=
  accounts_of_kept fun _ => ends_pure.2 ⟨rfl, rfl⟩

/-- What is left open stays so: the calls of both halves count. -/
theorem accounts_bind {m : ProcessM σ κ α} {f : α → ProcessM σ κ β} (hm : Accounts closes m)
    (hf : ∀ a, Accounts closes (f a)) : Accounts closes (m >>= f) := by
  intro p
  refine ends_call (hm p) fun a q ⟨hsub, new, hcalls, hiff⟩ => (hf a q).mono ?_
  rintro b r ⟨hsub', new', hcalls', hiff'⟩
  refine ⟨hsub.trans hsub', new ++ new', ?_, ?_⟩
  · rw [hcalls', hcalls, List.append_assoc]
  · rw [List.forall_mem_append, ← hiff, ← hiff']
    constructor
    · intro heq
      have hq : q.fds = p.fds := Finset.Subset.antisymm (heq ▸ hsub') hsub
      exact ⟨hq, heq.trans hq.symm⟩
    · exact fun ⟨hq, hr⟩ => hr.trans hq

theorem accounts_ite {d : Prop} [Decidable d] {m n : ProcessM σ κ α} (hm : Accounts closes m)
    (hn : Accounts closes n) : Accounts closes (if d then m else n) :=
  fun p => ends_ite_of (fun _ => hm p) fun _ => hn p

/-- A call that is noted and then balances. -/
theorem accounts_call {x : κ} {m : ProcessM σ κ α}
    (h : ∀ p, Ends m p fun _ q => Balances (closes (x, p.state, p.fds)) p q) :
    Accounts closes (noteCall x >>= fun _ => m) := by
  intro p
  refine ends_bind.2 (ends_modify.2 ((h _).mono ?_))
  rintro a q ⟨hcalls, hsub, hiff⟩
  refine ⟨hsub, [(x, p.state, p.fds)], hcalls, hiff.trans ?_⟩
  rw [List.forall_mem_singleton]

end Accounts

end OsdTarget.Base
