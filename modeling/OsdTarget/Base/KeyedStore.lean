import Mathlib.Data.Set.Function
import Mathlib.Logic.Function.Basic
import Mathlib.Tactic.Common

/-!
# Stores under a key

A store keeps values under keys that are computed from what its callers name.  Two stores whose keys
tell all names apart answer alike; one whose keys do not is told from the other by three calls.
-/

namespace OsdTarget.Base

variable {α κ κ' V : Type} [DecidableEq κ] [DecidableEq κ']

/-- A call on the store, under a name. -/
inductive StoreCall (α V : Type)
  | put (a : α) (v : V)
  | get (a : α)

/-- The calls name members of `A` and store members of `W` only. -/
def StoreCall.Within (A : Set α) (W : Set V) : StoreCall α V → Prop
  | .put a v => a ∈ A ∧ v ∈ W
  | .get a => a ∈ A

/-- The store after a call. -/
def StoreCall.after (key : α → κ) (m : κ → Option V) : StoreCall α V → κ → Option V
  | .put a v => Function.update m (key a) (some v)
  | .get _ => m

/-- What it is answered, together with the name asked for. -/
def StoreCall.answers (key : α → κ) (m : κ → Option V) : StoreCall α V → List (α × Option V)
  | .put _ _ => []
  | .get a => [(a, m (key a))]

/-- The answers to calls made one after the other. -/
def answersTo (key : α → κ) (m : κ → Option V) : List (StoreCall α V) → List (α × Option V)
  | [] => []
  | c :: l => c.answers key m ++ answersTo key (c.after key m) l

/-- Two stores hold the same under the names in `A`. -/
def HoldSame (A : Set α) (key : α → κ) (key' : α → κ') (m : κ → Option V) (m' : κ' → Option V) : Prop :=
  ∀ a ∈ A, m (key a) = m' (key' a)

section

variable {A : Set α} {W : Set V} {key : α → κ} {key' : α → κ'} {m : κ → Option V} {m' : κ' → Option V}

theorem HoldSame.after (h : HoldSame A key key' m m') (hkey : Set.InjOn key A) (hkey' : Set.InjOn key' A)
    {c : StoreCall α V} (hc : c.Within A W) : HoldSame A key key' (c.after key m) (c.after key' m') := by
  cases c with
  | get a => exact h
  | put a v =>
    intro b hb
    show Function.update m (key a) (some v) (key b) = Function.update m' (key' a) (some v) (key' b)
    by_cases hba : b = a
    · rw [hba, Function.update_self, Function.update_self]
    · rw [Function.update_of_ne fun he => hba (hkey hb hc.1 he),
        Function.update_of_ne fun he => hba (hkey' hb hc.1 he)]
      exact h b hb

/-- Keys that tell all names apart make no difference. -/
theorem answersTo_eq (hkey : Set.InjOn key A) (hkey' : Set.InjOn key' A) {l : List (StoreCall α V)}
    (hl : ∀ c ∈ l, c.Within A W) (h : HoldSame A key key' m m') :
    answersTo key m l = answersTo key' m' l := by
  induction l generalizing m m' with
  | nil => rfl
  | cons c l ih =>
    have hc := hl c List.mem_cons_self
    have hanswers : c.answers key m = c.answers key' m' := by
      cases c with
      | put a v => rfl
      | get a => exact congrArg (fun x => [(a, x)]) (h a hc)
    show c.answers key m ++ _ = c.answers key' m' ++ _
    rw [hanswers, ih (fun c hc => hl c (List.mem_cons_of_mem _ hc)) (h.after hkey hkey' hc)]

/-- The three calls that show two names under one key. -/
def probe (a b : α) (v w : V) : List (StoreCall α V) := [.put a v, .put b w, .get a]

theorem answersTo_probe (key : α → κ) (m : κ → Option V) (a b : α) (v w : V) :
    answersTo key m (probe a b v w) = [(a, some (if key a = key b then w else v))] := by
  show [(a, Function.update (Function.update m (key a) (some v)) (key b) (some w) (key a))] = _
  by_cases h : key a = key b
  · rw [h, Function.update_self, if_pos rfl]
  · rw [Function.update_of_ne h, Function.update_self, if_neg h]

/-- Names a probe does not show to share a key have keys of their own. -/
theorem injOn_of_probe (hkey : Set.InjOn key A) {v w : V} (hne : v ≠ w)
    (h : ∀ a ∈ A, ∀ b ∈ A, answersTo key m (probe a b v w) = answersTo key' m' (probe a b v w)) :
    Set.InjOn key' A := by
  intro a ha b hb he
  by_contra hab
  have hprobe := h a ha b hb
  rw [answersTo_probe, answersTo_probe, if_neg fun hk => hab (hkey ha hb hk), if_pos he] at hprobe
  have hvw : some v = some w := congrArg Prod.snd (List.cons.inj hprobe).1
  exact hne (Option.some.inj hvw)

end

end OsdTarget.Base
