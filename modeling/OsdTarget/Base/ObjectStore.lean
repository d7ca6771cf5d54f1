import Mathlib.Data.Set.Insert

/-!
# Object stores

A store has partitions, and in a partition ids name collections and objects with their contents.  What is
named lies in a partition there is, so a partition goes only when nothing is left in it.
-/

namespace OsdTarget.Base

/-- What an id of a partition names. -/
inductive StoreEntry (β : Type*)
  | collection
  | object (content : β)

/-- The object with another content. -/
def StoreEntry.refill {β : Type*} (content : β) : StoreEntry β → StoreEntry β
  | .collection => .collection
  | .object _ => .object content

@[ext]
structure ObjectStore (ι β : Type*) where
  partitions : Set ι
  entry : ι → ι → Option (StoreEntry β)
  inside : ∀ {p o e}, entry p o = some e → p ∈ partitions

namespace ObjectStore

variable {ι β : Type*}

/-- A store without partitions. -/
def empty : ObjectStore ι β where
  partitions := ∅
  entry _ _ := none
  inside := nofun

variable [DecidableEq ι] (S : ObjectStore ι β)

/-! ## What can be done to a store -/

def addPartition (p : ι) : ObjectStore ι β where
  partitions := insert p S.partitions
  entry := S.entry
  inside h := .inr (S.inside h)

def dropPartition (p : ι) (h : ∀ o, S.entry p o = none) : ObjectStore ι β where
  partitions := S.partitions \ {p}
  entry := S.entry
  inside {q o e} he := by
    refine ⟨S.inside he, ?_⟩
    rintro rfl
    rw [h o] at he
    cases he

/-- These ids of the partition name the like of `e`. -/
def add (p : ι) (ids : List ι) (e : StoreEntry β) (h : p ∈ S.partitions) : ObjectStore ι β where
  partitions := S.partitions
  entry q o := if q = p ∧ o ∈ ids then some e else S.entry q o
  inside {q o e} he := by
    split at he
    · rename_i hk
      exact hk.1 ▸ h
    · exact S.inside he

def drop (p o : ι) : ObjectStore ι β where
  partitions := S.partitions
  entry q o' := if q = p ∧ o' = o then none else S.entry q o'
  inside {q o' e} he := by
    split at he
    · cases he
    · exact S.inside he

/-- The object, if there is one, gets another content. -/
def rewrite (p o : ι) (content : β) : ObjectStore ι β where
  partitions := S.partitions
  entry q o' := if q = p ∧ o' = o then (S.entry q o').map (StoreEntry.refill content) else S.entry q o'
  inside {q o' e} he := by
    split at he
    · obtain ⟨old, hold, -⟩ := Option.map_eq_some_iff.1 he
      exact S.inside hold
    · exact S.inside he

/-! ## How that composes -/

variable {S} {p o : ι}

/-- A new object that is rewritten could have come with that content. -/
theorem rewrite_add (c c' : β) (h : p ∈ S.partitions) :
    (S.add p [o] (.object c) h).rewrite p o c' = S.add p [o] (.object c') h := by
  refine ObjectStore.ext rfl (funext fun q => funext fun o' => ?_)
  simp only [rewrite, add, List.mem_singleton]
  split
  · rfl
  · rfl

/-- What was new goes again without a trace. -/
theorem drop_add (e : StoreEntry β) (h : p ∈ S.partitions) (hfree : S.entry p o = none) :
    (S.add p [o] e h).drop p o = S := by
  refine ObjectStore.ext rfl (funext fun q => funext fun o' => ?_)
  simp only [drop, add, List.mem_singleton]
  split
  · rename_i hk
    rw [hk.1, hk.2, hfree]
  · rfl

/-- What is named already is not added. -/
theorem entry_add {e e' : StoreEntry β} {ids : List ι} {q : ι} (h : q ∈ S.partitions)
    (hfree : ∀ o' ∈ ids, S.entry q o' = none) (he : S.entry p o = some e) :
    (S.add q ids e' h).entry p o = some e := by
  refine (if_neg ?_).trans he
  rintro ⟨rfl, ho⟩
  rw [hfree o ho] at he
  cases he

theorem entry_rewrite {q o' : ι} (hne : ¬ (q = p ∧ o' = o)) (c : β) :
    (S.rewrite q o' c).entry p o = S.entry p o :=
  if_neg fun h => hne ⟨h.1.symm, h.2.symm⟩

theorem entry_rewrite_self {c c' : β} (he : S.entry p o = some (.object c)) :
    (S.rewrite p o c').entry p o = some (.object c') := by
  refine (if_pos ⟨rfl, rfl⟩).trans ?_
  rw [he]
  rfl

theorem entry_drop {q o' : ι} (hne : ¬ (q = p ∧ o' = o)) : (S.drop q o').entry p o = S.entry p o :=
  if_neg fun h => hne ⟨h.1.symm, h.2.symm⟩

/-- Where there is no object nothing is rewritten. -/
theorem rewrite_self (h : ∀ c, S.entry p o ≠ some (.object c)) (c : β) : S.rewrite p o c = S := by
  refine ObjectStore.ext rfl (funext fun q => funext fun o' => ?_)
  simp only [rewrite]
  split
  · rename_i hk
    rw [hk.1, hk.2]
    cases he : S.entry p o with
    | none => rfl
    | some e =>
      cases e with
      | collection => rfl
      | object c => exact absurd he (h c)
  · rfl

/-- An object with the content that it has already. -/
theorem rewrite_same {c : β} (h : S.entry p o = some (.object c)) : S.rewrite p o c = S := by
  refine ObjectStore.ext rfl (funext fun q => funext fun o' => ?_)
  simp only [rewrite]
  split
  · rename_i hk
    rw [hk.1, hk.2, h]
    rfl
  · rfl

/-- Rewritten or left as it is. -/
theorem exists_rewrite_self (S : ObjectStore ι β) [Inhabited β] (p o : ι) : ∃ c, S = S.rewrite p o c := by
  by_cases h : ∃ c, S.entry p o = some (.object c)
  · obtain ⟨c, hc⟩ := h
    exact ⟨c, (rewrite_same hc).symm⟩
  · exact ⟨default, (rewrite_self (fun c hc => h ⟨c, hc⟩) default).symm⟩

end ObjectStore

end OsdTarget.Base
