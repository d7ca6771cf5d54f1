import Mathlib.Data.List.Infix

/-!
# Trees of files

A directory lists named entries, in the order in which they are read.  A path is the list of names from
the tree down.  Of a list of calls the ones before the first that is refused are made.
-/

namespace OsdTarget.Base

universe u v

mutual

/-- A file with its content, or a directory. -/
inductive FileTree (ν : Type u) (α : Type v)
  | file (content : α)
  | dir (entries : Entries ν α)

/-- What a directory lists. -/
inductive Entries (ν : Type u) (α : Type v)
  | nil
  | cons (name : ν) (tree : FileTree ν α) (rest : Entries ν α)

end

variable {ν : Type u} {α : Type v} [DecidableEq ν]

/-! ## Looking up -/

def Entries.find : Entries ν α → ν → Option (FileTree ν α)
  | .nil, _ => none
  | .cons x t l, y => if x = y then some t else l.find y

def Entries.names : Entries ν α → List ν
  | .nil => []
  | .cons x _ l => x :: l.names

def FileTree.isDir : FileTree ν α → Bool
  | .file _ => false
  | .dir _ => true

/-- What a directory lists; a file lists nothing. -/
def FileTree.entries : FileTree ν α → Entries ν α
  | .file _ => .nil
  | .dir l => l

/-- What is at a path. -/
def FileTree.at : FileTree ν α → List ν → Option (FileTree ν α)
  | t, [] => some t
  | t, x :: p => (t.entries.find x).bind fun u => u.at p

mutual

/-- No directory lists a name twice. -/
def FileTree.Distinct : FileTree ν α → Prop
  | .file _ => True
  | .dir l => l.Distinct

def Entries.Distinct : Entries ν α → Prop
  | .nil => True
  | .cons x t l => x ∉ l.names ∧ t.Distinct ∧ l.Distinct

end

/-- The content of a file; a directory has none. -/
def FileTree.content : FileTree ν α → Option α
  | .file c => some c
  | .dir _ => none

/-- What there is at a path: nothing, a directory, or a file with its content. -/
def FileTree.holds (t : FileTree ν α) (p : List ν) : Option (Option α) := (t.at p).map FileTree.content

@[simp] theorem FileTree.at_nil (t : FileTree ν α) : t.at [] = some t := by
  cases t <;> rfl

theorem FileTree.at_cons (t : FileTree ν α) (x : ν) (p : List ν) :
    t.at (x :: p) = (t.entries.find x).bind fun u => u.at p := by
  cases t <;> rfl

theorem FileTree.at_append (t : FileTree ν α) (p q : List ν) :
    t.at (p ++ q) = (t.at p).bind fun u => u.at q := by
  induction p generalizing t with
  | nil => rw [List.nil_append, at_nil, Option.bind_some]
  | cons x p ih =>
    rw [List.cons_append, at_cons, at_cons, Option.bind_assoc]
    exact Option.bind_congr fun u _ => ih u

@[simp] theorem FileTree.holds_nil (t : FileTree ν α) : t.holds [] = some t.content := by
  rw [holds, at_nil, Option.map_some]

theorem FileTree.holds_cons (t : FileTree ν α) (x : ν) (p : List ν) :
    t.holds (x :: p) = (t.entries.find x).bind fun u => u.holds p := by
  rw [holds, at_cons, Option.map_bind]
  rfl

theorem FileTree.holds_append (t : FileTree ν α) (p q : List ν) :
    t.holds (p ++ q) = (t.at p).bind fun u => u.holds q := by
  rw [holds, at_append, Option.map_bind]
  rfl

/-- A path holds something only below directories. -/
theorem FileTree.holds_above {t : FileTree ν α} {p q : List ν} (hq : q ≠ []) (h : t.holds (p ++ q) ≠ none) :
    t.holds p = some none := by
  obtain ⟨x, q, rfl⟩ := List.exists_cons_of_ne_nil hq
  rw [holds_append] at h
  unfold holds
  cases hu : t.at p with
  | none => exact absurd (by rw [hu]; rfl) h
  | some u =>
    cases u with
    | dir l => rfl
    | file c => exact absurd (by rw [hu]; rfl) h

theorem Entries.Distinct.find {x : ν} {u : FileTree ν α} : ∀ {l : Entries ν α}, l.Distinct →
    l.find x = some u → u.Distinct
  | .cons y t l, h, hfind => by
    unfold Entries.find at hfind
    split at hfind
    · exact Option.some.inj hfind ▸ h.2.1
    · exact h.2.2.find hfind

theorem FileTree.Distinct.at {t u : FileTree ν α} {p : List ν} (h : t.Distinct) (hu : t.at p = some u) :
    u.Distinct := by
  induction p generalizing t with
  | nil =>
    rw [at_nil] at hu
    exact Option.some.inj hu ▸ h
  | cons x p ih =>
    obtain ⟨v, hv, hp⟩ := Option.bind_eq_some_iff.1 ((at_cons t x p).symm.trans hu)
    cases t with
    | file c => cases hv
    | dir l => exact ih (Entries.Distinct.find h hv) hp

/-! ## Changing an entry -/

/-- The entry of this name gives way to another tree, or to none. -/
def Entries.put : Entries ν α → ν → Option (FileTree ν α) → Entries ν α
  | .nil, _, none => .nil
  | .nil, x, some u => .cons x u .nil
  | .cons y t l, x, o =>
    if y = x then
      match o with
      | none => l.put x none
      | some u => .cons y u l
    else .cons y t (l.put x o)

/-- In the directory at a path, the entry of this name gives way to another tree, or to none. -/
def FileTree.put : FileTree ν α → List ν → ν → Option (FileTree ν α) → FileTree ν α
  | .file c, _, _, _ => .file c
  | .dir l, [], x, o => .dir (l.put x o)
  | .dir l, y :: p, x, o => .dir (l.put y ((l.find y).map fun t => t.put p x o))

theorem Entries.find_put (x y : ν) (o : Option (FileTree ν α)) :
    ∀ l : Entries ν α, (l.put x o).find y = if x = y then o else l.find y
  | .nil => by
    cases o with
    | none => exact (ite_self none).symm
    | some u => rfl
  | .cons z t l => by
    have ih := find_put x y o l
    unfold put
    by_cases hz : z = x
    · subst hz
      rw [if_pos rfl]
      cases o with
      | none =>
        refine ih.trans ?_
        by_cases hy : z = y
        · rw [if_pos hy, if_pos hy]
        · rw [if_neg hy, if_neg hy, find, if_neg hy]
      | some u =>
        by_cases hy : z = y
        · rw [if_pos hy, find, if_pos hy]
        · rw [if_neg hy, find, if_neg hy, find, if_neg hy]
    · rw [if_neg hz, find, find, ih]
      by_cases hy : z = y
      · rw [if_pos hy, if_pos hy, if_neg fun hx => hz (hy.trans hx.symm)]
      · rw [if_neg hy, if_neg hy]

/-- Where there is a directory, what is put there is there. -/
theorem FileTree.holds_put (x : ν) (o : Option (FileTree ν α)) (q : List ν) {t : FileTree ν α} {p : List ν}
    (h : t.holds p = some none) : (t.put p x o).holds (p ++ x :: q) = o.bind fun u => u.holds q := by
  induction p generalizing t with
  | nil =>
    cases t with
    | file c => cases h
    | dir l =>
      rw [List.nil_append, holds_cons]
      show ((l.put x o).find x).bind _ = _
      rw [Entries.find_put, if_pos rfl]
  | cons y p ih =>
    obtain ⟨u, hu, hp⟩ := Option.bind_eq_some_iff.1 ((holds_cons t y p).symm.trans h)
    cases t with
    | file c => cases hu
    | dir l =>
      have hfind : l.find y = some u := hu
      rw [List.cons_append, holds_cons]
      show ((l.put y ((l.find y).map fun t => t.put p x o)).find y).bind _ = _
      rw [Entries.find_put, if_pos rfl, hfind]
      exact ih hp

/-- At any path that does not begin with that of the entry, everything is as it was. -/
theorem FileTree.holds_put_of_not (x : ν) (o : Option (FileTree ν α)) {q : List ν} (t : FileTree ν α)
    {p : List ν} (hq : ¬ p ++ [x] <+: q) : (t.put p x o).holds q = t.holds q := by
  induction p generalizing t q with
  | nil =>
    cases t with
    | file c => rfl
    | dir l =>
      cases q with
      | nil => rfl
      | cons y q =>
        have hne : x ≠ y := by
          rintro rfl
          exact hq (List.prefix_append [x] q)
        rw [holds_cons, holds_cons]
        show ((l.put x o).find y).bind _ = (l.find y).bind _
        rw [Entries.find_put, if_neg hne]
  | cons z p ih =>
    cases t with
    | file c => rfl
    | dir l =>
      cases q with
      | nil => rfl
      | cons y q =>
        rw [holds_cons, holds_cons]
        show ((l.put z ((l.find z).map fun t => t.put p x o)).find y).bind _ = (l.find y).bind _
        rw [Entries.find_put]
        by_cases hz : z = y
        · subst hz
          have hq' : ¬ p ++ [x] <+: q := fun hp => hq ((List.prefix_cons_inj z).2 hp)
          rw [if_pos rfl]
          cases l.find z with
          | none => rfl
          | some u => exact ih u hq'
        · rw [if_neg hz]

/-! ## Taking paths out -/

mutual

/-- The tree without what is at the paths of `gone`, itself at the path `p`. -/
def FileTree.without (gone : List (List ν)) : List ν → FileTree ν α → FileTree ν α
  | _, .file c => .file c
  | p, .dir l => .dir (l.without gone p)

def Entries.without (gone : List (List ν)) : List ν → Entries ν α → Entries ν α
  | _, .nil => .nil
  | p, .cons x t l =>
    if p ++ [x] ∈ gone then l.without gone p
    else .cons x (t.without gone (p ++ [x])) (l.without gone p)

end

variable {gone gone' : List (List ν)}

mutual

theorem FileTree.without_congr {p : List ν} : ∀ {t : FileTree ν α},
    (∀ x ∈ t.entries.names, ∀ q, p ++ x :: q ∈ gone ↔ p ++ x :: q ∈ gone') →
    t.without gone p = t.without gone' p
  | .file _, _ => rfl
  | .dir _, h => congrArg FileTree.dir (Entries.without_congr h)

theorem Entries.without_congr {p : List ν} : ∀ {l : Entries ν α},
    (∀ x ∈ l.names, ∀ q, p ++ x :: q ∈ gone ↔ p ++ x :: q ∈ gone') → l.without gone p = l.without gone' p
  | .nil, _ => rfl
  | .cons x t l, h => by
    have hhere : p ++ [x] ∈ gone ↔ p ++ [x] ∈ gone' := h x List.mem_cons_self []
    have htree : t.without gone (p ++ [x]) = t.without gone' (p ++ [x]) :=
      FileTree.without_congr fun y _ q => by
        rw [List.append_assoc, List.singleton_append]
        exact h x List.mem_cons_self (y :: q)
    have hrest : l.without gone p = l.without gone' p :=
      Entries.without_congr fun y hy => h y (List.mem_cons_of_mem x hy)
    unfold Entries.without
    rw [htree, hrest]
    exact if_congr hhere rfl rfl

end

mutual

theorem FileTree.without_nil (p : List ν) : ∀ t : FileTree ν α, t.without [] p = t
  | .file _ => rfl
  | .dir l => congrArg FileTree.dir (Entries.without_nil p l)

theorem Entries.without_nil (p : List ν) : ∀ l : Entries ν α, l.without [] p = l
  | .nil => rfl
  | .cons x t l => by
    unfold Entries.without
    rw [if_neg List.not_mem_nil, FileTree.without_nil, Entries.without_nil]

end

/-- A directory all of whose entries are gone lists nothing. -/
theorem Entries.without_all {p : List ν} : ∀ {l : Entries ν α}, (∀ x ∈ l.names, p ++ [x] ∈ gone) →
    l.without gone p = .nil
  | .nil, _ => rfl
  | .cons x t l, h => by
    have hrest : l.without gone p = .nil := without_all fun y hy => h y (List.mem_cons_of_mem x hy)
    unfold Entries.without
    rw [if_pos (h x List.mem_cons_self), hrest]

theorem Entries.find_without (p : List ν) (x : ν) : ∀ l : Entries ν α, (l.without gone p).find x =
    if p ++ [x] ∈ gone then none else (l.find x).map fun t => t.without gone (p ++ [x])
  | .nil => (ite_self none).symm
  | .cons y t l => by
    have ih := find_without p x l
    unfold Entries.without
    by_cases hy : y = x
    · subst hy
      by_cases hgone : p ++ [y] ∈ gone
      · rw [if_pos hgone, ih, if_pos hgone, if_pos hgone]
      · rw [if_neg hgone, if_neg hgone, find, if_pos rfl, find, if_pos rfl, Option.map_some]
    · rw [find, if_neg hy]
      by_cases hgone : p ++ [y] ∈ gone
      · rw [if_pos hgone, ih]
      · rw [if_neg hgone, find, if_neg hy, ih]

/-- The path or one that leads to it is gone, seen from the directory `p`. -/
def Cut (gone : List (List ν)) (p q : List ν) : Prop := ∃ r ∈ q.inits, r ≠ [] ∧ p ++ r ∈ gone

instance (p q : List ν) : Decidable (Cut gone p q) :=
  inferInstanceAs (Decidable (∃ r ∈ q.inits, r ≠ [] ∧ p ++ r ∈ gone))

omit [DecidableEq ν] in
theorem not_cut_nil (p : List ν) : ¬ Cut gone p [] := by
  rintro ⟨r, hr, hne, -⟩
  exact hne (List.mem_singleton.1 hr)

omit [DecidableEq ν] in
theorem cut_cons {p q : List ν} {x : ν} : Cut gone p (x :: q) ↔
    p ++ [x] ∈ gone ∨ Cut gone (p ++ [x]) q := by
  constructor
  · rintro ⟨r, hr, hne, hgone⟩
    obtain _ | ⟨y, r⟩ := r
    · exact absurd rfl hne
    · obtain ⟨rfl, hrq⟩ := List.cons_prefix_cons.1 ((List.mem_inits _ _).1 hr)
      by_cases hnil : r = []
      · rw [hnil] at hgone
        exact .inl hgone
      · refine .inr ⟨r, (List.mem_inits _ _).2 hrq, hnil, ?_⟩
        rwa [List.append_assoc, List.singleton_append]
  · rintro (hgone | ⟨r, hr, -, hgone⟩)
    · exact ⟨[x], (List.mem_inits _ _).2 (List.cons_prefix_cons.2 ⟨rfl, List.nil_prefix⟩),
        List.cons_ne_nil _ _, hgone⟩
    · refine ⟨x :: r, (List.mem_inits _ _).2 (List.cons_prefix_cons.2 ⟨rfl, (List.mem_inits _ _).1 hr⟩),
        List.cons_ne_nil _ _, ?_⟩
      rwa [List.append_assoc, List.singleton_append] at hgone

/-- What is left at a path: nothing, if the path or what leads to it is gone. -/
theorem FileTree.holds_without (t : FileTree ν α) (p q : List ν) : (t.without gone p).holds q =
    if Cut gone p q then none else t.holds q := by
  induction q generalizing t p with
  | nil =>
    rw [if_neg (not_cut_nil p)]
    cases t <;> rfl
  | cons x q ih =>
    have hentries : (t.without gone p).entries = t.entries.without gone p := by
      cases t <;> rfl
    rw [holds_cons, holds_cons, hentries, Entries.find_without]
    by_cases hgone : p ++ [x] ∈ gone
    · rw [if_pos hgone, if_pos (cut_cons.2 (.inl hgone))]
      rfl
    · rw [if_neg hgone, if_congr (cut_cons.trans (or_iff_right hgone)) rfl rfl]
      cases t.entries.find x with
      | none => exact (ite_self none).symm
      | some u => exact ih u (p ++ [x])

/-! ## Calls up to the first that is refused -/

section

variable {β : Type v} {refused : β → Bool} {c : β} {cs ds done : List β}

/-- The calls before the first that is refused, and that one. -/
def untilFirst (refused : β → Bool) : List β → Option (List β × β)
  | [] => none
  | c :: cs => if refused c then some ([], c) else (untilFirst refused cs).map fun r => (c :: r.1, r.2)

theorem untilFirst_append : untilFirst refused (cs ++ ds) =
    match untilFirst refused cs with
    | some r => some r
    | none => (untilFirst refused ds).map fun r => (cs ++ r.1, r.2) := by
  induction cs with
  | nil => exact Option.map_id'.symm
  | cons c cs ih =>
    rw [List.cons_append, untilFirst, untilFirst]
    by_cases hc : refused c = true
    · rw [if_pos hc, if_pos hc]
    · rw [if_neg hc, if_neg hc, ih]
      cases untilFirst refused cs with
      | some r => rfl
      | none =>
        rw [Option.map_none, Option.map_map]
        rfl

theorem untilFirst_eq_none : untilFirst refused cs = none ↔ ∀ c ∈ cs, refused c = false := by
  induction cs with
  | nil => exact iff_of_true rfl fun _ h => absurd h List.not_mem_nil
  | cons c cs ih =>
    rw [untilFirst, List.forall_mem_cons]
    by_cases hc : refused c = true
    · rw [if_pos hc, hc]
      exact iff_of_false nofun fun h => nomatch h.1
    · rw [if_neg hc, Option.map_eq_none_iff, ih]
      exact (and_iff_right (Bool.eq_false_iff.2 hc)).symm

theorem untilFirst_eq_some : untilFirst refused cs = some (done, c) ↔
    (∃ rest, cs = done ++ c :: rest) ∧ (∀ d ∈ done, refused d = false) ∧ refused c = true := by
  constructor
  · intro h
    induction cs generalizing done with
    | nil => cases h
    | cons d cs ih =>
      rw [untilFirst] at h
      by_cases hd : refused d = true
      · rw [if_pos hd] at h
        cases h
        exact ⟨⟨cs, rfl⟩, fun _ h => absurd h List.not_mem_nil, hd⟩
      · rw [if_neg hd] at h
        obtain ⟨⟨done', c'⟩, hrec, heq⟩ := Option.map_eq_some_iff.1 h
        cases heq
        obtain ⟨⟨rest, rfl⟩, hpass, hc⟩ := ih hrec
        exact ⟨⟨rest, rfl⟩, List.forall_mem_cons.2 ⟨Bool.eq_false_iff.2 hd, hpass⟩, hc⟩
  · rintro ⟨⟨rest, rfl⟩, hpass, hc⟩
    rw [untilFirst_append, untilFirst_eq_none.2 hpass]
    show (untilFirst refused (c :: rest)).map _ = _
    rw [untilFirst, if_pos hc, Option.map_some, List.append_nil]

end

end OsdTarget.Base
