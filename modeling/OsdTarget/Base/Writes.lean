import Mathlib.Data.List.GetD

/-!
# Contents written piece by piece

A content is a list; a write stores a list at an offset, and a gap it leaves in front of itself is
filled up.  Of a sequence of writes each position holds what the last one that covers it stored there.
-/

namespace OsdTarget.Base

variable {α : Type}

/-- One write: where it starts and what it stores. -/
structure Write (α : Type) where
  offset : Nat
  data : List α
  deriving DecidableEq, Repr

def Write.stop (w : Write α) : Nat := w.offset + w.data.length

/-- The write stores something at this position. -/
def Write.covers (w : Write α) (i : Nat) : Bool := w.offset ≤ i && i < w.stop

/-- A content after the write; writing nothing does not even fill the gap. -/
def Write.store (hole : α) (content : List α) (w : Write α) : List α :=
  match w.data with
  | [] => content
  | _ :: _ => content.take w.offset ++ List.replicate (w.offset - content.length) hole ++ w.data ++
      content.drop w.stop

/-- A content after writes, oldest first. -/
def stores (hole : α) (content : List α) (ws : List (Write α)) : List α :=
    ws.foldl (Write.store hole) content

/-- What the last write that covers a position stored there; `base` was there before. -/
def lastWritten (hole : α) (base : List α) (ws : List (Write α)) (i : Nat) : α :=
  match ws.reverse.find? (·.covers i) with
  | some w => w.data.getD (i - w.offset) hole
  | none => base.getD i hole

/-- The size after a write. -/
def Write.grown (n : Nat) (w : Write α) : Nat := if w.data.length = 0 then n else max n w.stop

/-- The size after writes. -/
def extent (n : Nat) (ws : List (Write α)) : Nat := ws.foldl Write.grown n

section

variable {hole : α} {content base : List α} {w : Write α} {ws : List (Write α)}

theorem Write.covers_iff {i : Nat} : w.covers i = true ↔ w.offset ≤ i ∧ i < w.stop := by
  simp [Write.covers]

theorem Write.length_store : (w.store hole content).length = w.grown content.length := by
  unfold Write.store Write.grown Write.stop
  split
  · next h => simp [h]
  · next h =>
    have hne : w.data.length ≠ 0 := by simp [h]
    rw [if_neg hne]
    simp only [List.length_append, List.length_take, List.length_replicate, List.length_drop]
    omega

/-- A write changes what it covers. -/
theorem Write.getD_store (i : Nat) : (w.store hole content).getD i hole =
    if w.covers i then w.data.getD (i - w.offset) hole else content.getD i hole := by
  unfold Write.store
  split
  · next h =>
    have hno : ¬ w.covers i = true := by
      rw [Write.covers_iff, Write.stop, h]
      exact fun hc => absurd hc.2 (Nat.not_lt.2 hc.1)
    rw [if_neg hno]
  · have hfront : (content.take w.offset ++ List.replicate (w.offset - content.length) hole).length
        = w.offset := by
      simp only [List.length_append, List.length_take, List.length_replicate]
      omega
    by_cases hlt : i < w.offset
    · -- in front of the write: the old content, or the gap
      have hno : ¬ w.covers i = true := fun hc => absurd (Write.covers_iff.1 hc).1 (Nat.not_le.2 hlt)
      rw [if_neg hno, List.append_assoc, List.getD_append _ _ _ _ (by omega)]
      by_cases hin : i < content.length
      · rw [List.getD_append _ _ _ _ (by rw [List.length_take]; omega)]
        simp [List.getD_eq_getElem?_getD, hlt]
      · rw [List.getD_append_right _ _ _ _ (by rw [List.length_take]; omega)]
        simp only [List.getD_eq_getElem?_getD, List.getElem?_replicate]
        rw [List.getElem?_eq_none (Nat.le_of_not_lt hin)]
        split <;> rfl
    · have hle := Nat.le_of_not_lt hlt
      rw [List.append_assoc, List.getD_append_right _ _ _ _ (by omega), hfront]
      by_cases hcov : i < w.stop
      · rw [if_pos (Write.covers_iff.2 ⟨hle, hcov⟩)]
        exact List.getD_append _ _ _ _ (by unfold Write.stop at hcov; omega)
      · rw [if_neg fun hc => hcov (Write.covers_iff.1 hc).2]
        unfold Write.stop at hcov ⊢
        rw [List.getD_append_right _ _ _ _ (by omega)]
        simp only [List.getD_eq_getElem?_getD, List.getElem?_drop]
        rw [show w.offset + w.data.length + (i - w.offset - w.data.length) = i by omega]

theorem lastWritten_nil (i : Nat) : lastWritten hole base [] i = base.getD i hole := rfl

/-- The first of the writes may as well have been there before. -/
theorem lastWritten_cons (i : Nat) :
    lastWritten hole base (w :: ws) i = lastWritten hole (w.store hole base) ws i := by
  unfold lastWritten
  rw [List.reverse_cons, List.find?_append]
  cases ws.reverse.find? (·.covers i) with
  | some v => rfl
  | none =>
    rw [Write.getD_store, Option.none_or, List.find?_singleton]
    by_cases hc : w.covers i = true
    · rw [if_pos hc, if_pos hc]
    · rw [if_neg hc, if_neg hc]

/-- **The last writer wins.** -/
theorem getD_stores (i : Nat) : (stores hole base ws).getD i hole = lastWritten hole base ws i := by
  induction ws generalizing base with
  | nil => exact (lastWritten_nil i).symm
  | cons w ws ih =>
    rw [lastWritten_cons]
    exact ih

theorem length_stores : (stores hole base ws).length = extent base.length ws := by
  induction ws generalizing base with
  | nil => rfl
  | cons w ws ih =>
    show (stores hole (w.store hole base) ws).length = extent (w.grown base.length) ws
    rw [ih, Write.length_store]

theorem stores_append (ws vs : List (Write α)) :
    stores hole base (ws ++ vs) = stores hole (stores hole base ws) vs := List.foldl_append

/-- A write is found where it was made. -/
theorem Write.take_drop_store : ((w.store hole content).drop w.offset).take w.data.length = w.data := by
  unfold Write.store
  split
  · next h => rw [h, List.length_nil, List.take_zero]
  · have hfront : (content.take w.offset ++ List.replicate (w.offset - content.length) hole).length
        = w.offset := by
      simp only [List.length_append, List.length_take, List.length_replicate]
      omega
    rw [List.append_assoc, List.drop_left' hfront, List.take_left' rfl]

/-- A write at the end appends. -/
theorem stores_end (data : List α) : stores hole content [⟨content.length, data⟩] = content ++ data := by
  cases data with
  | nil => exact (List.append_nil content).symm
  | cons a data =>
    have hdrop : content.drop (content.length + (a :: data).length) = [] :=
      List.drop_eq_nil_of_le (Nat.le_add_right _ _)
    show content.take content.length ++ List.replicate (content.length - content.length) hole ++
      a :: data ++ content.drop (content.length + (a :: data).length) = _
    rw [List.take_length, Nat.sub_self, hdrop, List.replicate_zero, List.append_nil, List.append_nil]

/-- Two writes with the same effect on any content. -/
def Write.Same (w v : Write α) : Prop := w = v ∨ w.data = [] ∧ v.data = []

theorem Write.Same.store {v : Write α} (h : w.Same v) (content : List α) :
    w.store hole content = v.store hole content := by
  rcases h with rfl | ⟨hw, hv⟩
  · rfl
  · unfold Write.store
    rw [hw, hv]

theorem stores_congr {vs : List (Write α)} (h : List.Forall₂ Write.Same ws vs) :
    stores hole base ws = stores hole base vs := by
  induction h generalizing base with
  | nil => rfl
  | @cons w v ws vs hwv _ ih =>
    show stores hole (w.store hole base) ws = stores hole (v.store hole base) vs
    rw [hwv.store, ih]

theorem le_extent (n : Nat) (ws : List (Write α)) : n ≤ extent n ws := by
  induction ws generalizing n with
  | nil => exact Nat.le_refl n
  | cons w ws ih =>
    refine Nat.le_trans ?_ (ih (w.grown n))
    unfold Write.grown
    split
    · exact Nat.le_refl n
    · exact Nat.le_max_left _ _

/-- A write that stores something is part of the size. -/
theorem stop_le_extent {n : Nat} (hw : w ∈ ws) (hne : w.data ≠ []) : w.stop ≤ extent n ws := by
  induction ws generalizing n with
  | nil => cases hw
  | cons v ws ih =>
    rcases List.mem_cons.1 hw with rfl | hw
    · have hgrown : w.grown n = max n w.stop := if_neg fun h => hne (List.length_eq_zero_iff.1 h)
      show w.stop ≤ extent (w.grown n) ws
      rw [hgrown]
      exact Nat.le_trans (Nat.le_max_right _ _) (le_extent _ ws)
    · exact ih hw

theorem extent_lt {n b : Nat} (hn : n < b) (h : ∀ w ∈ ws, w.stop < b) : extent n ws < b := by
  induction ws generalizing n with
  | nil => exact hn
  | cons w ws ih =>
    obtain ⟨hw, hws⟩ := List.forall_mem_cons.1 h
    refine ih (?_ : w.grown n < b) hws
    unfold Write.grown
    split
    · exact hn
    · exact Nat.max_lt.2 ⟨hn, hw⟩

/-- What is read of a content: as many positions as there are, then nothing. -/
theorem getD_take_drop {off n i : Nat} (hi : i < n) :
    ((base.drop off).take n).getD i hole = base.getD (off + i) hole := by
  simp [List.getD_eq_getElem?_getD, List.getElem?_take_of_lt hi, List.getElem?_drop]

end

end OsdTarget.Base
