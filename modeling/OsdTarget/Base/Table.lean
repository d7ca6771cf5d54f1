import Mathlib.Tactic.Common
import Mathlib.Data.List.Nodup

/-!
# Keyed relations as lists of rows

What a database does with a table: a plain INSERT is refused when some row has the new row's key, an
INSERT OR REPLACE first drops the rows with that key, a DELETE drops the rows its condition selects.
A key is any function of the row, and one table may have several.
-/

namespace OsdTarget.Base

variable {ρ κ : Type} [DecidableEq κ]

/-- Some row of `t` has the key of `r`. -/
def Clashes (key : ρ → κ) (r : ρ) (t : List ρ) : Prop := ∃ x ∈ t, key x = key r

instance (key : ρ → κ) (r : ρ) (t : List ρ) : Decidable (Clashes key r t) :=
  inferInstanceAs (Decidable (∃ x ∈ t, key x = key r))

/-- INSERT: refused on a key conflict. -/
def insertNew (key : ρ → κ) (r : ρ) (t : List ρ) : Option (List ρ) :=
  if Clashes key r t then none else some (t ++ [r])

/-- The rows left by a DELETE of those that satisfy `p`. -/
def deleteWhere (p : ρ → Prop) [DecidablePred p] (t : List ρ) : List ρ := t.filter (fun x => ¬ p x)

/-- INSERT OR REPLACE: the rows with the new row's key go first. -/
def insertReplace (key : ρ → κ) (r : ρ) (t : List ρ) : List ρ :=
  deleteWhere (fun x => key x = key r) t ++ [r]

theorem insertNew_eq_some {key : ρ → κ} {r : ρ} {t t' : List ρ} :
    insertNew key r t = some t' ↔ ¬ Clashes key r t ∧ t' = t ++ [r] := by
  unfold insertNew
  split <;> simp_all [eq_comm]

theorem insertNew_eq_none {key : ρ → κ} {r : ρ} {t : List ρ} :
    insertNew key r t = none ↔ Clashes key r t := by
  unfold insertNew
  split <;> simp_all

@[simp] theorem mem_deleteWhere {p : ρ → Prop} [DecidablePred p] {t : List ρ} {x : ρ} :
    x ∈ deleteWhere p t ↔ x ∈ t ∧ ¬ p x := by
  simp [deleteWhere]

theorem mem_insertReplace {key : ρ → κ} {r x : ρ} {t : List ρ} :
    x ∈ insertReplace key r t ↔ (x ∈ t ∧ key x ≠ key r) ∨ x = r := by
  simp [insertReplace]

/-- A row that the filter skips may come. -/
theorem filter_append_of_not {p : ρ → Bool} {r : ρ} {t : List ρ} (h : p r = false) :
    (t ++ [r]).filter p = t.filter p := by
  rw [List.filter_append, List.filter_cons_of_neg (by simp [h]), List.filter_nil, List.append_nil]

/-- Rows that the filter skips may go. -/
theorem filter_deleteWhere {p : ρ → Bool} {q : ρ → Prop} [DecidablePred q] {t : List ρ}
    (h : ∀ x, q x → p x = false) : (deleteWhere q t).filter p = t.filter p := by
  rw [deleteWhere, List.filter_filter]
  refine List.filter_congr fun x _ => ?_
  by_cases hx : q x
  · simp [h x hx]
  · simp [hx]

theorem filter_insertReplace {key : ρ → κ} {p : ρ → Bool} {r : ρ} {t : List ρ}
    (h : ∀ x, key x = key r → p x = false) : (insertReplace key r t).filter p = t.filter p := by
  rw [insertReplace, filter_append_of_not (h r rfl), filter_deleteWhere h]

/-- The new row is the only one with its key. -/
theorem find?_insertReplace {key : ρ → κ} {r : ρ} {t : List ρ} :
    (insertReplace key r t).find? (fun x => key x = key r) = some r := by
  have hnone : (deleteWhere (fun x => key x = key r) t).find? (fun x => key x = key r) = none := by
    rw [List.find?_eq_none]
    intro x hx hk
    exact (mem_deleteWhere.1 hx).2 (of_decide_eq_true hk)
  rw [insertReplace, List.find?_append, hnone, Option.none_or, List.find?_cons_of_pos (by simp)]

/-- What a run of replacing inserts leaves: the old rows whose key no new row has, and of the new
rows the last for each key. -/
theorem mem_foldl_insertReplace_iff {key : ρ → κ} {l t : List ρ} {x : ρ} :
    x ∈ l.foldl (fun t r => insertReplace key r t) t ↔
      (x ∈ t ∧ ∀ y ∈ l, key y ≠ key x) ∨ ∃ l₁ l₂, l = l₁ ++ x :: l₂ ∧ ∀ y ∈ l₂, key y ≠ key x := by
  induction l generalizing t with
  | nil => simp
  | cons r l ih =>
    rw [List.foldl_cons, ih, mem_insertReplace]
    constructor
    · rintro (⟨⟨hx, hne⟩ | rfl, hl⟩ | ⟨l₁, l₂, rfl, hl⟩)
      · refine .inl ⟨hx, fun y hy => ?_⟩
        rcases List.mem_cons.1 hy with rfl | hy
        · exact fun he => hne he.symm
        · exact hl y hy
      · exact .inr ⟨[], l, rfl, hl⟩
      · exact .inr ⟨r :: l₁, l₂, rfl, hl⟩
    · rintro (⟨hx, hl⟩ | ⟨l₁, l₂, he, hl⟩)
      · refine .inl ⟨.inl ⟨hx, fun he => hl r List.mem_cons_self he.symm⟩, fun y hy => ?_⟩
        exact hl y (List.mem_cons_of_mem _ hy)
      · cases l₁ with
        | nil =>
          cases he
          exact .inl ⟨.inr rfl, hl⟩
        | cons a l₁ =>
          cases he
          exact .inr ⟨l₁, l₂, rfl, hl⟩

omit [DecidableEq κ] in
/-- Among the rows with one key there is a last. -/
theorem exists_last {key : ρ → κ} {l : List ρ} {k : κ} (h : ∃ x ∈ l, key x = k) :
    ∃ l₁ y l₂, l = l₁ ++ y :: l₂ ∧ key y = k ∧ ∀ z ∈ l₂, key z ≠ k := by
  induction l with
  | nil => obtain ⟨x, hx, -⟩ := h; cases hx
  | cons r l ih =>
    by_cases hlater : ∃ x ∈ l, key x = k
    · obtain ⟨l₁, y, l₂, rfl, hy⟩ := ih hlater
      exact ⟨r :: l₁, y, l₂, rfl, hy⟩
    · obtain ⟨x, hx, hk⟩ := h
      rcases List.mem_cons.1 hx with rfl | hx
      · exact ⟨[], x, l, rfl, hk, fun z hz hzk => hlater ⟨z, hz, hzk⟩⟩
      · exact absurd ⟨x, hx, hk⟩ hlater

/-- Where the new rows differ in their keys, all of them are left. -/
theorem mem_foldl_insertReplace_of_inj {key : ρ → κ} {l t : List ρ} {x : ρ}
    (hinj : ∀ y ∈ l, ∀ z ∈ l, key y = key z → y = z) :
    x ∈ l.foldl (fun t r => insertReplace key r t) t ↔ (x ∈ t ∧ ∀ y ∈ l, key y ≠ key x) ∨ x ∈ l := by
  rw [mem_foldl_insertReplace_iff]
  refine or_congr_right ⟨?_, fun hx => ?_⟩
  · rintro ⟨l₁, l₂, rfl, -⟩
    exact List.mem_append_right _ List.mem_cons_self
  · have hx' : ∃ y ∈ l, key y = key x := ⟨x, hx, rfl⟩
    obtain ⟨l₁, y, l₂, hl, hy, hlast⟩ := exists_last hx'
    obtain rfl := hinj y (hl ▸ List.mem_append_right _ List.mem_cons_self) x hx hy
    exact ⟨l₁, l₂, hl, hlast⟩

/-- Where keys are unique, at most one row has a key. -/
theorem filter_key {key : ρ → κ} {t : List ρ} (h : (t.map key).Nodup) (k : κ) :
    t.filter (fun r => key r = k) = (t.find? fun r => key r = k).toList := by
  induction t with
  | nil => rfl
  | cons r t ih =>
    rw [List.map_cons, List.nodup_cons] at h
    by_cases hk : key r = k
    · have hnil : t.filter (fun r => key r = k) = [] := by
        rw [List.filter_eq_nil_iff]
        intro x hx hxk
        exact h.1 (List.mem_map.2 ⟨x, hx, by simpa [hk] using hxk⟩)
      rw [List.filter_cons_of_pos (by simpa using hk), hnil, List.find?_cons_of_pos (by simpa using hk)]
      rfl
    · rw [List.filter_cons_of_neg (by simpa using hk), List.find?_cons_of_neg (by simpa using hk)]
      exact ih h.2

/-- A row is the only one with its key. -/
theorem filter_key_of_mem {key : ρ → κ} {t : List ρ} (h : (t.map key).Nodup) {r : ρ} (hr : r ∈ t) :
    t.filter (fun x => key x = key r) = [r] := by
  rw [filter_key h]
  cases hf : t.find? fun x => key x = key r with
  | none => exact absurd (decide_eq_true rfl) (List.find?_eq_none.1 hf r hr)
  | some x =>
    have hx : key x = key r := by simpa using List.find?_some hf
    rw [List.inj_on_of_nodup_map h (List.mem_of_find?_eq_some hf) hr hx]
    rfl

/-! ## Keys stay keys -/

omit [DecidableEq κ] in
theorem nodup_deleteWhere {key : ρ → κ} {p : ρ → Prop} [DecidablePred p] {t : List ρ}
    (h : (t.map key).Nodup) : ((deleteWhere p t).map key).Nodup :=
  h.sublist (List.filter_sublist.map key)

omit [DecidableEq κ] in
theorem nodup_append {key : ρ → κ} {r : ρ} {t : List ρ} (h : (t.map key).Nodup) (hr : ¬ Clashes key r t) :
    ((t ++ [r]).map key).Nodup := by
  rw [List.map_append, List.map_singleton, List.nodup_append]
  refine ⟨h, List.nodup_singleton _, fun a ha b hb hab => hr ?_⟩
  obtain ⟨x, hx, rfl⟩ := List.mem_map.1 ha
  exact ⟨x, hx, hab.trans (List.mem_singleton.1 hb)⟩

theorem nodup_insertNew {key : ρ → κ} {r : ρ} {t t' : List ρ} (h : (t.map key).Nodup)
    (hi : insertNew key r t = some t') : (t'.map key).Nodup := by
  obtain ⟨hr, rfl⟩ := insertNew_eq_some.1 hi
  exact nodup_append h hr

omit [DecidableEq κ] in
/-- Replacing by one key keeps any key that the new row does not clash with. -/
theorem nodup_insertReplace {κ' : Type} [DecidableEq κ'] {key : ρ → κ} {key' : ρ → κ'} {r : ρ} {t : List ρ}
    (h : (t.map key).Nodup) (hr : ∀ x ∈ t, key x = key r → key' x = key' r) :
    ((insertReplace key' r t).map key).Nodup := by
  refine nodup_append (nodup_deleteWhere h) ?_
  rintro ⟨x, hx, hk⟩
  obtain ⟨hx, hne⟩ := mem_deleteWhere.1 hx
  exact hne (hr x hx hk)

theorem nodup_foldl_insertReplace {key : ρ → κ} {l t : List ρ} (h : (t.map key).Nodup) :
    ((l.foldl (fun t r => insertReplace key r t) t).map key).Nodup := by
  induction l generalizing t with
  | nil => exact h
  | cons r l ih => exact ih (nodup_insertReplace h fun _ _ hk => hk)

omit [DecidableEq κ] in
/-- Rows that yield nothing may go. -/
theorem flatMap_filter_of_nil {α : Type} {f : ρ → List α} {p : ρ → Bool} {t : List ρ}
    (h : ∀ x ∈ t, p x = false → f x = []) : (t.filter p).flatMap f = t.flatMap f := by
  induction t with
  | nil => rfl
  | cons x t ih =>
    obtain ⟨hx, ht⟩ := List.forall_mem_cons.1 h
    cases hp : p x with
    | true => rw [List.filter_cons_of_pos hp, List.flatMap_cons, List.flatMap_cons, ih ht]
    | false =>
      rw [List.filter_cons_of_neg (by simp [hp]), List.flatMap_cons, hx hp, List.nil_append, ih ht]

omit [DecidableEq κ] in
/-- A column that determines the key of the rows selected has no value twice. -/
theorem nodup_column {α : Type} {key : ρ → κ} {t : List ρ} (h : (t.map key).Nodup) {p : ρ → Bool}
    {f : ρ → α} (hf : ∀ r r', p r = true → p r' = true → f r = f r' → key r = key r') :
    ((t.filter p).map f).Nodup := by
  refine List.Nodup.map_on (fun r hr r' hr' he => ?_) (h.of_map.filter _)
  obtain ⟨hmem, hp⟩ := List.mem_filter.1 hr
  obtain ⟨hmem', hp'⟩ := List.mem_filter.1 hr'
  exact List.inj_on_of_nodup_map h hmem hmem' (hf r r' hp hp' he)

/-- Every row after a run of replacing inserts was there before or is one of those inserted. -/
theorem mem_foldl_insertReplace {key : ρ → κ} {l t : List ρ} {x : ρ}
    (h : x ∈ l.foldl (fun t r => insertReplace key r t) t) : x ∈ t ∨ x ∈ l := by
  induction l generalizing t with
  | nil => exact .inl h
  | cons r l ih =>
    rcases ih h with h | h
    · rcases mem_insertReplace.1 h with h | h
      · exact .inl h.1
      · exact .inr (h ▸ List.mem_cons_self)
    · exact .inr (List.mem_cons_of_mem _ h)

/-! ## Tables that agree -/

section Agrees

variable {K : ρ → Prop} {t t' : List ρ}

/-- The same rows in the same order, apart from those in `K`. -/
def Agrees (K : ρ → Prop) (t t' : List ρ) : Prop :=
  ∀ p : ρ → Bool, (∀ x, K x → p x = false) → t'.filter p = t.filter p

theorem Agrees.filter (h : Agrees K t t') (q : ρ → Bool) : Agrees K (t.filter q) (t'.filter q) := by
  intro p hp
  rw [List.filter_filter, List.filter_filter]
  refine h _ fun x hx => ?_
  rw [hp x hx]
  rfl

theorem Agrees.append (h : Agrees K t t') (l : List ρ) : Agrees K (t ++ l) (t' ++ l) := by
  intro p hp
  rw [List.filter_append, List.filter_append, h p hp]

theorem Agrees.deleteWhere (h : Agrees K t t') (q : ρ → Prop) [DecidablePred q] :
    Agrees K (deleteWhere q t) (Base.deleteWhere q t') := h.filter _

theorem Agrees.insertReplace (h : Agrees K t t') (key : ρ → κ) (r : ρ) :
    Agrees K (insertReplace key r t) (Base.insertReplace key r t') := (h.deleteWhere _).append _

theorem Agrees.mem (h : Agrees K t t') {x : ρ} (hx : ¬ K x) : x ∈ t' ↔ x ∈ t := by
  classical
  have hf := h (fun y => decide (y = x)) fun y hy => decide_eq_false fun he => hx (he ▸ hy)
  have hmem := congrArg (x ∈ ·) hf
  simpa using hmem

theorem Agrees.exists_iff (h : Agrees K t t') {q : ρ → Prop} (hq : ∀ x, q x → ¬ K x) :
    (∃ x ∈ t', q x) ↔ ∃ x ∈ t, q x :=
  exists_congr fun _ => and_congr_left fun hx => h.mem (hq _ hx)

theorem Agrees.find? (h : Agrees K t t') {q : ρ → Bool} (hq : ∀ x, K x → q x = false) :
    t'.find? q = t.find? q := by
  rw [← List.head?_filter, ← List.head?_filter, h q hq]

/-- A row outside `K` is in both tables as often. -/
theorem Agrees.count_eq [DecidableEq ρ] (h : Agrees K t t') {x : ρ} (hx : ¬ K x) : t'.count x = t.count x := by
  have hcount : ∀ l : List ρ, (l.filter fun y => decide (y = x)).length = l.count x := fun l => by
    rw [← List.countP_eq_length_filter]
    rfl
  have hne : ∀ y, K y → decide (y = x) = false := fun y hy => decide_eq_false fun he => hx (he ▸ hy)
  rw [← hcount, ← hcount, h _ hne]

/-- Tables that agree on every row, outside one set or another, hold the same rows. -/
theorem perm_of_agrees (h : ∀ x, ∃ K, Agrees K t t' ∧ ¬ K x) : t'.Perm t := by
  classical
  refine List.perm_iff_count.2 fun x => ?_
  obtain ⟨K, hK, hx⟩ := h x
  exact hK.count_eq hx

end Agrees

end OsdTarget.Base
