import OsdTarget.FileNames
import OsdTarget.Base.FileTree

/-!
# Emptying a directory

`empty_dir` of `osd.c`.  Paths are lists of names below the root directory, and a tree lists what a
directory holds in the order `readdir` returns it.
-/

namespace OsdTarget

open Base

abbrev Name := List Char
abbrev Path := List Name
abbrev Tree := FileTree Name (List UInt8)

/-- What the file system refuses. -/
structure FileSys where
  /-- `readdir` says of the entry that it is a directory, if it is one. -/
  typeKnown : Path → Bool
  opendirFails : Path → Bool
  unlinkFails : Path → Bool
  rmdirFails : Path → Bool
  /-- `stat` fails, and not because there is nothing. -/
  statFails : Path → Bool
  mkdirFails : Path → Bool
  statDbFails : Bool
  rootTooLong : Bool
  strdupFails : Bool
  /-- `osd_db_open` succeeds, or fails before or after there is a file. -/
  dbOpens : Bool
  dbCreated : Bool

variable (sys : FileSys)

/-! ## Emptying a directory -/

/-- What `empty_dir` returns, what it leaves of the directory, and how many directory streams it leaves
open. -/
structure Emptied where
  emptied : Bool
  left : Option Tree
  streams : Nat

/-- An entry, if there is something left of it. -/
def keepEntry (x : Name) : Option Tree → Entries Name (List UInt8) → Entries Name (List UInt8)
  | none, l => l
  | some t, l => .cons x t l

/-- `unlink`; it does not take directories. -/
def unlinkEntry (path : Path) (t : Tree) : Emptied :=
  if t.isDir || sys.unlinkFails path then ⟨false, some t, 0⟩ else ⟨true, none, 0⟩

/-- `rmdir`; it does not take a directory that lists something. -/
def removeDir (path : Path) (l : Entries Name (List UInt8)) : Bool × Option Tree :=
  if l.names ≠ [] || sys.rmdirFails path then (false, some (.dir l)) else (true, none)

mutual

/-- `empty_dir`. -/
def emptyDir (path : Path) : Tree → Emptied
  | .file c => ⟨false, some (.file c), 0⟩
  | .dir l =>
    if sys.opendirFails path then ⟨false, some (.dir l), 0⟩
    else
      let r := emptyEntries path l
      if !r.1 then ⟨false, some (.dir r.2.1), r.2.2 + 1⟩
      else ⟨(removeDir sys path r.2.1).1, (removeDir sys path r.2.1).2, r.2.2⟩

/-- The loop over what `readdir` returns. -/
def emptyEntries (path : Path) : Entries Name (List UInt8) → Bool × Entries Name (List UInt8) × Nat
  | .nil => (true, .nil, 0)
  | .cons x t l =>
    let r := if t.isDir && sys.typeKnown (path ++ [x]) then emptyDir (path ++ [x]) t
      else unlinkEntry sys (path ++ [x]) t
    if !r.emptied then (false, keepEntry x r.left l, r.streams)
    else ((emptyEntries path l).1, keepEntry x r.left (emptyEntries path l).2.1,
      r.streams + (emptyEntries path l).2.2)

end

/-! ## Its calls -/

/-- A system call of `empty_dir`, and whether it is about a directory. -/
inductive DirCall
  | opendir (path : Path) (isDir : Bool)
  | unlink (path : Path) (isDir : Bool)
  | rmdir (path : Path)

def DirCall.path : DirCall → Path
  | .opendir p _ => p
  | .unlink p _ => p
  | .rmdir p => p

/-- The path that is no longer there after the call. -/
def DirCall.removes : DirCall → Option Path
  | .opendir .. => none
  | .unlink p _ => some p
  | .rmdir p => some p

def FileSys.refuses : DirCall → Bool
  | .opendir p isDir => !isDir || sys.opendirFails p
  | .unlink p isDir => isDir || sys.unlinkFails p
  | .rmdir p => sys.rmdirFails p

mutual

/-- The calls that empty a directory, if all of them are obeyed. -/
def emptyCalls (path : Path) : Tree → List DirCall
  | .file _ => [.opendir path false]
  | .dir l => .opendir path true :: (entryCalls path l ++ [.rmdir path])

def entryCalls (path : Path) : Entries Name (List UInt8) → List DirCall
  | .nil => []
  | .cons x t l =>
    (if t.isDir && sys.typeKnown (path ++ [x]) then emptyCalls (path ++ [x]) t
      else [.unlink (path ++ [x]) t.isDir]) ++ entryCalls path l

end

/-- The paths that the calls take away. -/
def removedBy (cs : List DirCall) : List Path := cs.filterMap DirCall.removes

theorem removedBy_append (cs ds : List DirCall) : removedBy (cs ++ ds) = removedBy cs ++ removedBy ds :=
  List.filterMap_append

variable {sys}

mutual

theorem path_of_mem_emptyCalls {c : DirCall} {path : Path} : ∀ {t : Tree}, c ∈ emptyCalls sys path t →
    ∃ q, c.path = path ++ q
  | .file _, h => ⟨[], by rw [List.mem_singleton.1 h, List.append_nil]; rfl⟩
  | .dir l, h => by
    rcases List.mem_cons.1 h with rfl | h
    · exact ⟨[], (List.append_nil path).symm⟩
    · rcases List.mem_append.1 h with h | h
      · obtain ⟨x, -, q, hq⟩ := path_of_mem_entryCalls h
        exact ⟨x :: q, hq⟩
      · rw [List.mem_singleton.1 h]
        exact ⟨[], (List.append_nil path).symm⟩

theorem path_of_mem_entryCalls {c : DirCall} {path : Path} : ∀ {l : Entries Name (List UInt8)},
    c ∈ entryCalls sys path l → ∃ x ∈ l.names, ∃ q, c.path = path ++ x :: q
  | .cons x t l, h => by
    rcases List.mem_append.1 h with h | h
    · refine ⟨x, List.mem_cons_self, ?_⟩
      by_cases hdir : (t.isDir && sys.typeKnown (path ++ [x])) = true
      · rw [if_pos hdir] at h
        obtain ⟨q, hq⟩ := path_of_mem_emptyCalls h
        exact ⟨q, by rw [hq, List.append_assoc, List.singleton_append]⟩
      · rw [if_neg hdir] at h
        exact ⟨[], by rw [List.mem_singleton.1 h]; rfl⟩
    · obtain ⟨y, hy, q, hq⟩ := path_of_mem_entryCalls h
      exact ⟨y, List.mem_cons_of_mem x hy, q, hq⟩

end

/-- The calls made before one is refused take away nothing outside, and not the directory itself. -/
theorem path_of_mem_removedBy {cs : List DirCall} {p : Path} (h : p ∈ removedBy cs) :
    ∃ c ∈ cs, c.path = p := by
  obtain ⟨c, hc, hp⟩ := List.mem_filterMap.1 h
  cases c with
  | opendir => cases hp
  | unlink => exact ⟨_, hc, Option.some.inj hp⟩
  | rmdir => exact ⟨_, hc, Option.some.inj hp⟩

/-! ## It stops at the first call that is refused -/

/-- What comes of emptying a directory whose calls are refused at this point, or at none. -/
def Emptied.stopped (path : Path) (t : Tree) : Option (List DirCall × DirCall) → Emptied
  | none => ⟨true, none, 0⟩
  | some (done, c) => ⟨false, some (t.without (removedBy done) path), c.path.length - path.length⟩

theorem unlinkEntry_eq (path : Path) (t : Tree) : unlinkEntry sys path t =
    Emptied.stopped path t (untilFirst sys.refuses [.unlink path t.isDir]) := by
  unfold unlinkEntry untilFirst
  show (if t.isDir || sys.unlinkFails path then _ else _) =
    Emptied.stopped path t (if t.isDir || sys.unlinkFails path then _ else _)
  split
  · show _ = Emptied.mk false (some (t.without [] path)) (path.length - path.length)
    rw [FileTree.without_nil, Nat.sub_self]
  · rfl

/-- Paths below other entries do not matter to the entries of a directory. -/
theorem without_of_others {path : Path} {x : Name} {l : Entries Name (List UInt8)} (hx : x ∉ l.names)
    {gone : List Path} (gone' : List Path) (hgone : ∀ p ∈ gone, ∃ q, p = path ++ [x] ++ q) :
    l.without (gone ++ gone') path = l.without gone' path := by
  refine Entries.without_congr fun y hy q => ⟨fun h => (List.mem_append.1 h).resolve_left fun h => ?_,
    List.mem_append_right gone⟩
  obtain ⟨q', hq⟩ := hgone _ h
  rw [List.append_assoc, List.singleton_append] at hq
  exact hx ((List.cons.inj (List.append_cancel_left hq)).1 ▸ hy)

/-- The calls about one entry: the last of them takes it away, and all are about it or what it lists. -/
structure Clears (path : Path) (cs : List DirCall) : Prop where
  inside : ∀ p ∈ removedBy cs, ∃ q, p = path ++ q
  goes : path ∈ removedBy cs
  stays : ∀ done c rest, cs = done ++ c :: rest → path ∉ removedBy done

theorem clears_unlink (path : Path) (isDir : Bool) : Clears path [.unlink path isDir] where
  inside p hp := ⟨[], by rw [List.mem_singleton.1 hp, List.append_nil]⟩
  goes := List.mem_singleton_self path
  stays done c rest h := by
    obtain _ | ⟨d, done⟩ := done
    · exact List.not_mem_nil
    · cases done <;> cases (List.cons.inj h).2

theorem clears_emptyCalls (path : Path) (l : Entries Name (List UInt8)) :
    Clears path (emptyCalls sys path (.dir l)) where
  inside p hp := by
    obtain ⟨c, hc, rfl⟩ := path_of_mem_removedBy hp
    exact path_of_mem_emptyCalls hc
  goes := List.mem_filterMap.2 ⟨.rmdir path, List.mem_cons_of_mem _ (List.mem_append_right _
    (List.mem_singleton_self _)), rfl⟩
  stays done c rest h := by
    have hfront : done <+: .opendir path true :: entryCalls sys path l := by
      have hdone : done <+: (.opendir path true :: entryCalls sys path l) ++ [.rmdir path] :=
          ⟨c :: rest, h.symm⟩
      refine (List.prefix_concat_iff.1 hdone).resolve_left fun heq => ?_
      rw [heq] at h
      exact List.cons_ne_nil c rest (List.append_right_eq_self.1 h.symm)
    intro hmem
    obtain ⟨d, hd, hpath⟩ := List.mem_filterMap.1 hmem
    rcases List.mem_cons.1 (hfront.subset hd) with rfl | hd
    · cases hpath
    · obtain ⟨p, hp, heq⟩ := path_of_mem_removedBy (List.mem_filterMap.2 ⟨d, hd, hpath⟩)
      obtain ⟨x, -, q, hq⟩ := path_of_mem_entryCalls hp
      rw [heq] at hq
      exact List.cons_ne_nil x q (List.append_right_eq_self.1 hq.symm)

/-- The calls about one entry of a directory. -/
theorem clears_entry (path : Path) (t : Tree) : Clears path
    (if t.isDir && sys.typeKnown path then emptyCalls sys path t else [.unlink path t.isDir]) := by
  split
  · cases t with
    | file c => rename_i hdir; cases hdir
    | dir l => exact clears_emptyCalls path l
  · exact clears_unlink _ _

/-- All entries of a directory are taken away by the calls about them. -/
theorem mem_removedBy_entryCalls (path : Path) : ∀ {l : Entries Name (List UInt8)}, ∀ x ∈ l.names,
    path ++ [x] ∈ removedBy (entryCalls sys path l)
  | .cons y t l, x, hx => by
    rw [entryCalls, removedBy_append]
    rcases List.mem_cons.1 hx with rfl | hx
    · exact List.mem_append_left _ (clears_entry (path ++ [x]) t).goes
    · exact List.mem_append_right _ (mem_removedBy_entryCalls path x hx)

mutual

/-- **`empty_dir` makes its calls in the order of the tree, up to the first that is refused**: then it
leaves the tree without what the calls before took away, and one open directory stream for each level above
the call.  If none is refused nothing is left, and no stream is open. -/
theorem emptyDir_eq (path : Path) : ∀ {t : Tree}, t.Distinct →
    emptyDir sys path t = Emptied.stopped path t (untilFirst sys.refuses (emptyCalls sys path t))
  | .file c, _ => by
    show _ = Emptied.mk false (some (.file c)) (path.length - path.length)
    rw [Nat.sub_self]
    rfl
  | .dir l, h => by
    have hl := emptyEntries_eq path h
    unfold emptyDir emptyCalls untilFirst
    show (if sys.opendirFails path then _ else _) =
      Emptied.stopped path _ (if sys.opendirFails path then _ else _)
    by_cases hopen : sys.opendirFails path = true
    · rw [if_pos hopen, if_pos hopen]
      show _ = Emptied.mk false (some ((FileTree.dir l).without [] path)) (path.length - path.length)
      rw [FileTree.without_nil, Nat.sub_self]
    · rw [if_neg hopen, if_neg hopen, untilFirst_append]
      simp only [hl]
      cases hfirst : untilFirst sys.refuses (entryCalls sys path l) with
      | none =>
        show Emptied.mk (removeDir sys path .nil).1 (removeDir sys path .nil).2 0 =
          Emptied.stopped path _ (((if sys.rmdirFails path then some ([], DirCall.rmdir path) else none).map
            fun r => (entryCalls sys path l ++ r.1, r.2)).map fun r => (.opendir path true :: r.1, r.2))
        by_cases hrm : sys.rmdirFails path = true
        · rw [removeDir, if_pos (by rw [hrm, Bool.or_true]), if_pos hrm]
          have hnil : l.without (removedBy (.opendir path true :: (entryCalls sys path l ++ [])))
              path = .nil := by
            refine Entries.without_all fun x hx => ?_
            rw [List.append_nil]
            exact mem_removedBy_entryCalls path x hx
          show _ = Emptied.mk false (some (.dir (l.without (removedBy (.opendir path true ::
            (entryCalls sys path l ++ []))) path))) (path.length - path.length)
          rw [hnil, Nat.sub_self]
        · rw [removeDir, if_neg (by simpa [Entries.names] using hrm), if_neg hrm]
          rfl
      | some r =>
        obtain ⟨done, c⟩ := r
        obtain ⟨⟨rest, hcs⟩, -, -⟩ := untilFirst_eq_some.1 hfirst
        obtain ⟨x, -, q, hq⟩ := path_of_mem_entryCalls
          (hcs ▸ List.mem_append_right done List.mem_cons_self : c ∈ entryCalls sys path l)
        show Emptied.mk false (some (.dir (l.without (removedBy done) path)))
          (c.path.length - path.length - 1 + 1) =
          Emptied.mk false (some (.dir (l.without (removedBy done) path))) (c.path.length - path.length)
        rw [Nat.sub_add_cancel]
        rw [hq, List.length_append, List.length_cons]
        omega

theorem emptyEntries_eq (path : Path) : ∀ {l : Entries Name (List UInt8)}, l.Distinct →
    emptyEntries sys path l =
      match untilFirst sys.refuses (entryCalls sys path l) with
      | none => (true, .nil, 0)
      | some (done, c) => (false, l.without (removedBy done) path, c.path.length - path.length - 1)
  | .nil, _ => rfl
  | .cons x t l, h => by
    obtain ⟨hx, ht, hl⟩ := h
    have hrest := emptyEntries_eq path hl
    have hentry : (if t.isDir && sys.typeKnown (path ++ [x]) then emptyDir sys (path ++ [x]) t
          else unlinkEntry sys (path ++ [x]) t) = Emptied.stopped (path ++ [x]) t
        (untilFirst sys.refuses (if t.isDir && sys.typeKnown (path ++ [x]) then
          emptyCalls sys (path ++ [x]) t else [.unlink (path ++ [x]) t.isDir])) := by
      split
      · exact emptyDir_eq (path ++ [x]) ht
      · exact unlinkEntry_eq (path ++ [x]) t
    have hclears : Clears (path ++ [x]) (if t.isDir && sys.typeKnown (path ++ [x]) then
        emptyCalls sys (path ++ [x]) t else [.unlink (path ++ [x]) t.isDir]) := clears_entry (path ++ [x]) t
    unfold emptyEntries entryCalls
    rw [hentry, untilFirst_append]
    generalize (if t.isDir && sys.typeKnown (path ++ [x]) then
        emptyCalls sys (path ++ [x]) t else [.unlink (path ++ [x]) t.isDir]) = cs at hclears ⊢
    cases hfirst : untilFirst sys.refuses cs with
    | none =>
      show ((emptyEntries sys path l).1, (emptyEntries sys path l).2.1,
        0 + (emptyEntries sys path l).2.2) = _
      rw [hrest, Nat.zero_add]
      cases hnext : untilFirst sys.refuses (entryCalls sys path l) with
      | none => rfl
      | some r =>
        obtain ⟨done, c⟩ := r
        have hleft : (Entries.cons x t l).without (removedBy (cs ++ done)) path =
            l.without (removedBy done) path := by
          rw [removedBy_append, Entries.without, if_pos (List.mem_append_left _ hclears.goes)]
          exact without_of_others hx _ hclears.inside
        show _ = (false, (Entries.cons x t l).without (removedBy (cs ++ done)) path, _)
        rw [hleft]
    | some r =>
      obtain ⟨done, c⟩ := r
      obtain ⟨⟨rest, hcs⟩, -, -⟩ := untilFirst_eq_some.1 hfirst
      have hinside : ∀ p ∈ removedBy done, ∃ q, p = path ++ [x] ++ q := fun p hp =>
        hclears.inside p (by rw [hcs, removedBy_append]; exact List.mem_append_left _ hp)
      have hleft : (Entries.cons x t l).without (removedBy done) path =
          .cons x (t.without (removedBy done) (path ++ [x])) l := by
        have hothers := without_of_others hx [] hinside
        rw [List.append_nil, Entries.without_nil] at hothers
        rw [Entries.without, if_neg (hclears.stays done c rest hcs), hothers]
      show (false, Entries.cons x (t.without (removedBy done) (path ++ [x])) l,
        c.path.length - (path ++ [x]).length) = (false,
          (Entries.cons x t l).without (removedBy done) path, _)
      rw [hleft, List.length_append, List.length_singleton, Nat.sub_add_eq]

end

variable (sys) in
/-- Either no call is refused and the directory is gone, or one is: then the answer is -1, everything is as
the calls before it left it, and a stream is open for each level from the directory down to the call. -/
theorem emptyDir_stops (path : Path) {t : Tree} (h : t.Distinct) :
    (∀ c ∈ emptyCalls sys path t, sys.refuses c = false) ∧ emptyDir sys path t = ⟨true, none, 0⟩ ∨
    ∃ done c rest, emptyCalls sys path t = done ++ c :: rest ∧ (∀ d ∈ done, sys.refuses d = false) ∧
      sys.refuses c = true ∧ emptyDir sys path t =
        ⟨false, some (t.without (removedBy done) path), c.path.length - path.length⟩ := by
  rw [emptyDir_eq path h]
  cases hfirst : untilFirst sys.refuses (emptyCalls sys path t) with
  | none => exact .inl ⟨untilFirst_eq_none.1 hfirst, rfl⟩
  | some r =>
    obtain ⟨⟨rest, hcs⟩, hpass, hc⟩ := untilFirst_eq_some.1 hfirst
    exact .inr ⟨r.1, r.2, rest, hcs, hpass, hc, rfl⟩

/-- Nothing is refused. -/
def FileSys.calm : FileSys where
  typeKnown _ := true
  opendirFails _ := false
  unlinkFails _ := false
  rmdirFails _ := false
  statFails _ := false
  mkdirFails _ := false
  statDbFails := false
  rootTooLong := false
  strdupFails := false
  dbOpens := true
  dbCreated := true

/-- Two files, the second in a directory of its own. -/
def twoFiles : Tree := .dir (.cons ['a'] (.file [])
    (.cons ['b'] (.dir (.cons ['c'] (.file [1]) .nil)) .nil))

/-- The second cannot be removed. -/
def FileSys.keepsSecond : FileSys := { FileSys.calm with unlinkFails := fun p => p = [dfiles, ['b'], ['c']] }

theorem twoFiles_distinct : twoFiles.Distinct := by
  simp [twoFiles, FileTree.Distinct, Entries.Distinct, Entries.names]

theorem emptyDir_stops_second :
    emptyDir FileSys.keepsSecond [dfiles] twoFiles = ⟨false,
      some (.dir (.cons ['b'] (.dir (.cons ['c'] (.file [1]) .nil)) .nil)), 2⟩ ∧
    ∃ done c rest, emptyCalls FileSys.keepsSecond [dfiles] twoFiles = done ++ c :: rest ∧
      (∀ d ∈ done, FileSys.keepsSecond.refuses d = false) ∧ FileSys.keepsSecond.refuses c = true ∧
      emptyDir FileSys.keepsSecond [dfiles] twoFiles =
        ⟨false, some (twoFiles.without (removedBy done) [dfiles]), c.path.length - 1⟩ := by
  have hrun : emptyDir FileSys.keepsSecond [dfiles] twoFiles = ⟨false,
      some (.dir (.cons ['b'] (.dir (.cons ['c'] (.file [1]) .nil)) .nil)), 2⟩ := rfl
  refine ⟨hrun, (emptyDir_stops FileSys.keepsSecond [dfiles] twoFiles_distinct).resolve_left fun h => ?_⟩
  exact nomatch hrun.symm.trans h.2

end OsdTarget
