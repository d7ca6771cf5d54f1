import Mathlib.Data.List.Sort

/-!
# Ascending lists

What a query over an index returns: distinct values in ascending order.  Such a list is determined by
its members, and what it holds from one of its members on is its tail there.
-/

namespace OsdTarget.Base

variable {α : Type} [LinearOrder α]

/-- The values in ascending order. -/
def ascending (l : List α) : List α := l.insertionSort (· ≤ ·)

@[simp] theorem mem_ascending {l : List α} {x : α} : x ∈ ascending l ↔ x ∈ l := List.mem_insertionSort _

@[simp] theorem length_ascending (l : List α) : (ascending l).length = l.length :=
  List.length_insertionSort _ _

theorem sortedLT_ascending {l : List α} (h : l.Nodup) : (ascending l).SortedLT := by
  have hle : (ascending l).Pairwise (· ≤ ·) := List.pairwise_insertionSort _ l
  exact hle.sortedLE.sortedLT_of_nodup ((List.perm_insertionSort _ l).nodup_iff.2 h)

/-- From a member on, an ascending list is its tail. -/
theorem mem_drop_iff {l rest : List α} {k : Nat} {c x : α} (h : l.SortedLT) (hd : l.drop k = c :: rest) :
    x ∈ l.drop k ↔ x ∈ l ∧ c ≤ x := by
  have hsplit := List.take_append_drop k l
  have hp := h.pairwise
  rw [← hsplit, List.pairwise_append] at hp
  obtain ⟨-, htail, hcross⟩ := hp
  constructor
  · intro hx
    refine ⟨List.mem_of_mem_drop hx, ?_⟩
    rw [hd] at hx htail
    rcases List.mem_cons.1 hx with rfl | hx
    · exact le_refl _
    · exact (List.rel_of_pairwise_cons htail hx).le
  · rintro ⟨hx, hle⟩
    rw [← hsplit, List.mem_append] at hx
    refine hx.resolve_left fun htake => ?_
    exact absurd (hcross x htake c (hd ▸ List.mem_cons_self)) (not_lt.2 hle)

/-- Up to a member, it is what is before it. -/
theorem mem_take_iff {l rest : List α} {k : Nat} {c x : α} (h : l.SortedLT) (hd : l.drop k = c :: rest) :
    x ∈ l.take k ↔ x ∈ l ∧ x < c := by
  have hp := h.pairwise
  rw [← List.take_append_drop k l, List.pairwise_append] at hp
  have hcross : ∀ y ∈ l.take k, y < c := fun y hy => hp.2.2 y hy c (hd ▸ List.mem_cons_self)
  constructor
  · exact fun hx => ⟨List.mem_of_mem_take hx, hcross x hx⟩
  · rintro ⟨hx, hlt⟩
    rw [← List.take_append_drop k l] at hx
    refine (List.mem_append.1 hx).resolve_right fun hdrop => ?_
    exact absurd ((mem_drop_iff h hd).1 hdrop).2 (not_le.2 hlt)

/-! ## Sorting by a key -/

section Key

variable {β : Type} {f : β → α} {l : List β}

/-- In a list in the order of a key the entries with the least key come first. -/
theorem filter_least (hl : l.Pairwise fun a b => f a ≤ f b) {k : α} (hk : ∀ x ∈ l, k ≤ f x) :
    l = l.filter (fun x => f x = k) ++ l.filter fun x => ¬ f x = k := by
  induction l with
  | nil => rfl
  | cons x l ih =>
    obtain ⟨hx, hl⟩ := List.pairwise_cons.1 hl
    by_cases he : f x = k
    · rw [List.filter_cons_of_pos (by simpa using he), List.filter_cons_of_neg (by simpa using he),
        List.cons_append, ← ih hl fun y hy => hk y (List.mem_cons_of_mem _ hy)]
    · have hlt : k < f x := lt_of_le_of_ne (hk x List.mem_cons_self) fun h => he h.symm
      have hne : ∀ y ∈ x :: l, ¬ f y = k := fun y hy => by
        rcases List.mem_cons.1 hy with rfl | hy
        · exact he
        · exact (lt_of_lt_of_le hlt (hx y hy)).ne'
      rw [List.filter_eq_nil_iff.2 fun y hy => by simpa using hne y hy, List.nil_append,
        List.filter_eq_self.2 fun y hy => by simpa using hne y hy]

/-- A list in the order of a key is its groups, one key after the other. -/
theorem eq_flatMap_filter {ks : List α} (hks : ks.Pairwise (· < ·)) (hl : l.Pairwise fun a b => f a ≤ f b)
    (hmem : ∀ x ∈ l, f x ∈ ks) : l = ks.flatMap fun k => l.filter fun x => f x = k := by
  induction ks generalizing l with
  | nil =>
    cases l with
    | nil => rfl
    | cons x l => exact absurd (hmem x List.mem_cons_self) List.not_mem_nil
  | cons k ks ih =>
    obtain ⟨hk, hks⟩ := List.pairwise_cons.1 hks
    have hleast : ∀ x ∈ l, k ≤ f x := fun x hx => by
      rcases List.mem_cons.1 (hmem x hx) with he | he
      · exact he.symm.le
      · exact (hk _ he).le
    have hrest := ih hks (hl.filter fun x => ¬ f x = k) fun x hx => by
      obtain ⟨hx, hne⟩ := List.mem_filter.1 hx
      exact (List.mem_cons.1 (hmem x hx)).resolve_left (by simpa using hne)
    have hgroup : ∀ k' ∈ ks, (l.filter fun x => ¬ f x = k).filter (fun x => f x = k')
        = l.filter fun x => f x = k' := fun k' hk' => by
      rw [List.filter_filter]
      refine List.filter_congr fun x _ => ?_
      by_cases he : f x = k'
      · simp [he, (hk k' hk').ne']
      · simp [he]
    rw [List.flatMap_cons, ← List.flatMap_congr hgroup, ← hrest]
    exact filter_least hl hleast

theorem keyLe_trans (a b c : β) (hab : decide (f a ≤ f b) = true) (hbc : decide (f b ≤ f c) = true) :
    decide (f a ≤ f c) = true :=
  decide_eq_true ((of_decide_eq_true hab).trans (of_decide_eq_true hbc))

theorem keyLe_total (a b : β) : (decide (f a ≤ f b) || decide (f b ≤ f a)) = true := by
  rcases le_total (f a) (f b) with h | h <;> simp [h]

/-- **Stability.**  Sorting by a key leaves the entries of each key as they were. -/
theorem filter_mergeSort (k : α) :
    (l.mergeSort fun a b => decide (f a ≤ f b)).filter (fun x => f x = k) = l.filter fun x => f x = k := by
  have hsame : (l.filter fun x => f x = k).Pairwise fun a b => decide (f a ≤ f b) = true :=
    List.pairwise_of_forall_mem_list fun a ha b hb => by
      have hka : f a = k := by simpa using (List.mem_filter.1 ha).2
      have hkb : f b = k := by simpa using (List.mem_filter.1 hb).2
      simp [hka, hkb]
  have hsub := (List.sublist_mergeSort keyLe_trans keyLe_total hsame List.filter_sublist).filter
      fun x => f x = k
  rw [List.filter_filter, List.filter_congr fun x _ => Bool.and_self _] at hsub
  exact (hsub.eq_of_length (((List.mergeSort_perm l _).filter _).length_eq).symm).symm

/-- Sorting by a key: for each key in turn the entries that have it, in their order. -/
theorem mergeSort_eq_flatMap {ks : List α} (hks : ks.Pairwise (· < ·)) (hmem : ∀ x ∈ l, f x ∈ ks) :
    l.mergeSort (fun a b => decide (f a ≤ f b)) = ks.flatMap fun k => l.filter fun x => f x = k := by
  have hsorted : (l.mergeSort fun a b => decide (f a ≤ f b)).Pairwise fun a b => f a ≤ f b := by
    have h : (l.mergeSort fun a b => decide (f a ≤ f b)).Pairwise fun a b => decide (f a ≤ f b) = true :=
      List.pairwise_mergeSort keyLe_trans keyLe_total l
    exact h.imp of_decide_eq_true
  rw [eq_flatMap_filter hks hsorted fun x hx => hmem x ((List.mergeSort_perm l _).mem_iff.1 hx)]
  exact List.flatMap_congr fun k _ => filter_mergeSort k

end Key

end OsdTarget.Base
