import OsdTarget.Directories
import OsdTarget.Commands

/-!
# The directories of a target

`create_dir` of `osd.c`, `setup_root_paths` and the walk of `format_osd` of `io.c` over the tree below the
root directory.  The model of FORMAT takes what the walk comes to from its surroundings; here every walk is
shown to come to what some surroundings say.
-/

namespace OsdTarget

open Base

/-! ## Names -/

/-- `stranded`, `md` and `dbname` of `osd.h`. -/
def stranded : Name := "stranded".toList
def md : Name := "md".toList
def dbname : Name := "osd.db".toList

/-- `%02x`. -/
def subdir (i : Nat) : Name := padded 2 (numeral 16 i)

/-- The path that `get_dfile_name` gives for an object. -/
def dataPath (pid oid : UInt64) : Path :=
  [dfiles, subdir (oid &&& 0xFF).toNat, numeral 16 pid.toNat ++ '.' :: numeral 16 oid.toNat]

theorem getDfileName_eq (root : List Char) {pid oid : UInt64} (h : oid ≠ 0) :
    getDfileName root pid oid = root ++ (dataPath pid oid).flatMap fun x => '/' :: x := by
  unfold getDfileName dataPath subdir
  rw [if_neg h]
  simp only [List.flatMap_cons, List.flatMap_nil, List.append_assoc, List.cons_append, List.nil_append,
    List.append_nil]

/-! ## The code -/

/-- What is on the disk, if there is a root directory, and the directory streams that are open. -/
structure Disk where
  tree : Option Tree
  streams : Nat

/-- `get_dbname`. -/
def getDbname : Path := [md, dbname]

def Disk.holds (d : Disk) (p : Path) : Option (Option (List UInt8)) := d.tree.bind fun t => t.holds p

def Disk.put (d : Disk) (dir : Path) (name : Name) (o : Option Tree) : Disk :=
  { d with tree := d.tree.map fun t => t.put dir name o }

abbrev DiskM := StateT Disk Option

variable (sys : FileSys)

/-- `empty_dir` of a directory in the root directory. -/
def emptyRootDir (name : Name) : DiskM Bool := do
  let d ← get
  match d.tree.bind fun t => t.at [name] with
  | none => return false
  | some t =>
    let r := emptyDir sys [name] t
    set { d.put [] name r.left with streams := d.streams + r.streams }
    return r.emptied

/-- `create_dir` of the root directory. -/
def createRoot : DiskM Bool := do
  let d ← get
  if sys.statFails [] then
    return false
  match d.holds [] with
  | some none => return true
  | some (some _) => return false
  | none =>
    if sys.mkdirFails [] then
      return false
    set { d with tree := some (.dir .nil) }
    return true

/-- `create_dir` of a directory in another. -/
def createDir (dir : Path) (name : Name) : DiskM Bool := do
  let d ← get
  if sys.statFails (dir ++ [name]) then
    return false
  match d.holds (dir ++ [name]) with
  | some none => return true
  | some (some _) => return false
  | none =>
    if d.holds dir ≠ some none ∨ sys.mkdirFails (dir ++ [name]) then
      return false
    set (d.put dir name (some (.dir .nil)))
    return true

/-- The loop that creates directories under `dfiles`. -/
def createSubdirs : List Nat → DiskM Bool
  | [] => return true
  | i :: is => do
    if !(← createDir sys [dfiles] (subdir i)) then
      return false
    createSubdirs is

/-- `osd_db_open`, as far as there is a file afterwards. -/
def openDb : DiskM Bool := do
  if sys.dbOpens || sys.dbCreated then
    match (← get).holds getDbname with
    | some (some _) => return sys.dbOpens
    -- a directory is answered like a new database, without a connection for what follows
    | some none => fun _ => none
    | none =>
      modify fun d => d.put [md] dbname (some (.file []))
      return sys.dbOpens
  return false

def setupRootPaths : DiskM Bool := do
  if sys.rootTooLong then
    return false
  if !(← createRoot sys) then
    return false
  if !(← createDir sys [] dfiles) then
    return false
  if !(← createSubdirs sys (List.range 256)) then
    return false
  if !(← createDir sys [] stranded) then
    return false
  if !(← createDir sys [] md) then
    return false
  if sys.strdupFails then
    return false
  openDb sys

/-- `format_osd` up to where the database is open again, and what it comes to. -/
def formatDirs : DiskM FormatOutcome := do
  let create : DiskM FormatOutcome := do
    if !(← setupRootPaths sys) then
      return .openFails
    return .opens
  if sys.statDbFails || (← get).holds getDbname = none then
    create
  else
    if !(← emptyRootDir sys md) then
      return .mdFails ((← get).holds getDbname = none)
    if !(← emptyRootDir sys stranded) then
      return .strandedFails
    if !(← emptyRootDir sys dfiles) then
      return .dfilesFails
    create

/-! ## Making directories -/

/-- The directories that `setup_root_paths` makes. -/
def LayoutDir (p : Path) : Prop :=
  p = [] ∨ p = [dfiles] ∨ (∃ i < 256, p = [dfiles, subdir i]) ∨ p = [stranded] ∨ p = [md]

/-- Nothing is taken away or changed, and only directories at these paths come to be, or the file of the
database. -/
structure Grows (P : Path → Prop) (d d' : Disk) : Prop where
  streams : d'.streams = d.streams
  keeps : ∀ p c, d.holds p = some c → d'.holds p = some c
  new : ∀ p c, d.holds p = none → d'.holds p = some c → P p ∧ c = none ∨ p = getDbname

variable {sys} {P : Path → Prop} {d d' d'' : Disk} {dir : Path} {name : Name}

theorem Grows.refl (d : Disk) : Grows P d d :=
  ⟨rfl, fun _ _ h => h, fun _ _ h h' => nomatch h.symm.trans h'⟩

theorem Grows.trans (h : Grows P d d') (h' : Grows P d' d'') : Grows P d d'' where
  streams := h'.streams.trans h.streams
  keeps p c hc := h'.keeps p c (h.keeps p c hc)
  new p c hnone hc := by
    cases hmid : d'.holds p with
    | none => exact h'.new p c hmid hc
    | some c' =>
      obtain rfl := Option.some.inj ((h'.keeps p c' hmid).symm.trans hc)
      exact h.new p c' hnone hmid

/-- Once a path holds something there is no difference to what grows. -/
theorem Grows.holds_of_not (h : Grows P d d') {p : Path} (hp : ¬ P p) (hdb : p ≠ getDbname) :
    d'.holds p = d.holds p := by
  cases hc : d.holds p with
  | some c => exact h.keeps p c hc
  | none =>
    refine Option.eq_none_iff_forall_ne_some.2 fun c hc' => ?_
    rcases h.new p c hc hc' with ⟨hP, -⟩ | hpath
    · exact hp hP
    · exact hdb hpath

theorem Disk.holds_put (h : d.holds dir = some none) (o : Option Tree) (q : Path) :
    (d.put dir name o).holds (dir ++ name :: q) = o.bind fun u => u.holds q := by
  obtain ⟨t, ht, hdir⟩ := Option.bind_eq_some_iff.1 h
  show (d.tree.map _).bind _ = _
  rw [ht]
  exact FileTree.holds_put name o q hdir

theorem Disk.holds_put_of_not (d : Disk) (o : Option Tree) {q : Path} (hq : ¬ dir ++ [name] <+: q) :
    (d.put dir name o).holds q = d.holds q := by
  show (d.tree.map _).bind _ = d.tree.bind _
  cases d.tree with
  | none => rfl
  | some t => exact FileTree.holds_put_of_not name o t hq

theorem Disk.holds_above {p q : Path} (hq : q ≠ []) (h : d.holds (p ++ q) ≠ none) :
    d.holds p = some none := by
  cases ht : d.tree with
  | none => exact absurd (by rw [holds, ht]; rfl) h
  | some t =>
    unfold holds at h ⊢
    rw [ht] at h ⊢
    exact FileTree.holds_above hq h

/-- A new directory or file, where nothing was. -/
theorem Grows.put (hdir : d.holds dir = some none) (hnone : d.holds (dir ++ [name]) = none) {t : Tree}
    (hnew : t = .dir .nil ∧ P (dir ++ [name]) ∨ t = .file [] ∧ dir ++ [name] = getDbname) :
    Grows P d (d.put dir name (some t)) where
  streams := rfl
  keeps p c hc := by
    rw [Disk.holds_put_of_not]
    · exact hc
    · rintro ⟨q, rfl⟩
      by_cases hq : q = []
      · rw [hq, List.append_nil, hnone] at hc
        cases hc
      · have habove := Disk.holds_above hq (hc ▸ Option.some_ne_none c)
        exact nomatch hnone.symm.trans habove
  new p c hc hc' := by
    by_cases hp : dir ++ [name] <+: p
    · obtain ⟨q, rfl⟩ := hp
      rw [List.append_assoc, List.singleton_append, Disk.holds_put hdir, Option.bind_some] at hc'
      obtain _ | ⟨x, q⟩ := q
      · rw [List.append_nil]
        rcases hnew with ⟨rfl, hP⟩ | ⟨rfl, hpath⟩
        · exact .inl ⟨hP, (Option.some.inj hc').symm⟩
        · exact .inr hpath
      · rcases hnew with ⟨rfl, -⟩ | ⟨rfl, -⟩ <;> cases hc'
    · rw [Disk.holds_put_of_not d _ hp, hc] at hc'
      cases hc'

theorem createRoot_ends (hP : P []) : Ends (createRoot sys) d fun ok d' =>
    Grows P d d' ∧ (ok = true → d'.holds [] = some none) := by
  refine ends_bind.2 (ends_get.2 (ends_ite_of (fun _ => ends_pure.2 ⟨.refl d, nofun⟩) fun _ => ?_))
  cases hroot : d.holds [] with
  | some c =>
    cases c with
    | none => exact ends_pure.2 ⟨.refl d, fun _ => hroot⟩
    | some c => exact ends_pure.2 ⟨.refl d, nofun⟩
  | none =>
    have htree : d.tree = none := by
      cases ht : d.tree with
      | none => rfl
      | some t =>
        unfold Disk.holds at hroot
        rw [ht] at hroot
        exact absurd hroot (by cases t <;> exact Option.some_ne_none _)
    refine ends_ite_of (fun _ => ends_pure.2 ⟨.refl d, nofun⟩) fun _ => ends_bind.2 (ends_set.2
      (ends_pure.2 ⟨⟨rfl, fun p c hc => ?_, fun p c _ hc => ?_⟩, fun _ => rfl⟩))
    · unfold Disk.holds at hc
      rw [htree] at hc
      cases hc
    · obtain _ | ⟨x, p⟩ := p
      · exact .inl ⟨hP, (Option.some.inj hc).symm⟩
      · cases hc

theorem createDir_ends (hP : P (dir ++ [name])) : Ends (createDir sys dir name) d fun ok d' =>
    Grows P d d' ∧ (ok = true → d'.holds (dir ++ [name]) = some none) := by
  refine ends_bind.2 (ends_get.2 (ends_ite_of (fun _ => ends_pure.2 ⟨.refl d, nofun⟩) fun _ => ?_))
  cases hthere : d.holds (dir ++ [name]) with
  | some c =>
    cases c with
    | none => exact ends_pure.2 ⟨.refl d, fun _ => hthere⟩
    | some c => exact ends_pure.2 ⟨.refl d, nofun⟩
  | none =>
    refine ends_ite_of (fun _ => ends_pure.2 ⟨.refl d, nofun⟩) fun hno => ?_
    have hdir : d.holds dir = some none := not_not.1 fun h => hno (.inl h)
    refine ends_bind.2 (ends_set.2 (ends_pure.2 ⟨.put hdir hthere (.inl ⟨rfl, hP⟩), fun _ => ?_⟩))
    exact Disk.holds_put hdir (some (.dir .nil)) []

theorem createSubdirs_ends {is : List Nat} (hP : ∀ i ∈ is, P [dfiles, subdir i]) :
    Ends (createSubdirs sys is) d fun ok d' =>
      Grows P d d' ∧ (ok = true → ∀ i ∈ is, d'.holds [dfiles, subdir i] = some none) := by
  induction is generalizing d with
  | nil => exact ends_pure.2 ⟨.refl d, fun _ _ h => absurd h List.not_mem_nil⟩
  | cons i is ih =>
    obtain ⟨hi, his⟩ := List.forall_mem_cons.1 hP
    refine ends_call (createDir_ends hi) fun ok d' ⟨hgrow, hok⟩ => ends_ite_of (fun _ => ends_pure.2
      ⟨hgrow, nofun⟩) fun hmade =>
        (ih his).mono fun ok' d'' ⟨hgrow', hok'⟩ => ⟨hgrow.trans hgrow', fun h => ?_⟩
    exact List.forall_mem_cons.2 ⟨hgrow'.keeps _ _ (hok (by simpa using hmade)), hok' h⟩

theorem openDb_ends (hmd : d.holds [md] = some none) : Ends (openDb sys) d fun ok d' =>
    Grows P d d' ∧ (ok = true → ∃ c, d'.holds getDbname = some (some c)) := by
  refine ends_ite_of (fun _ => ends_bind.2 (ends_get.2 ?_)) fun _ => ends_pure.2 ⟨.refl d, nofun⟩
  cases hthere : d.holds getDbname with
  | some c =>
    cases c with
    | none => exact ends_never.2 trivial
    | some c => exact ends_pure.2 ⟨.refl d, fun _ => ⟨c, hthere⟩⟩
  | none =>
    have hgrow : Grows P d (d.put [md] dbname (some (.file []))) := .put hmd hthere (.inr ⟨rfl, rfl⟩)
    refine ends_bind.2 (ends_modify.2 (ends_pure.2 ⟨hgrow, fun _ => ⟨[], ?_⟩⟩))
    show (d.put [md] dbname (some (.file []))).holds ([md] ++ dbname :: []) = some (some [])
    rw [Disk.holds_put hmd]
    rfl

/-- The directories of a target are there, and the file of the database. -/
structure Disk.SetUp (d : Disk) : Prop where
  dirs : ∀ p, LayoutDir p → d.holds p = some none
  db : ∃ c, d.holds getDbname = some (some c)

theorem setupRootPaths_ends : Ends (setupRootPaths sys) d fun ok d' =>
    Grows LayoutDir d d' ∧ (ok = true → d'.SetUp) := by
  have hlayout : ∀ i ∈ List.range 256, LayoutDir [dfiles, subdir i] := fun i hi =>
    .inr (.inr (.inl ⟨i, List.mem_range.1 hi, rfl⟩))
  refine ends_ite_of (fun _ => ends_pure.2 ⟨.refl d, nofun⟩) fun _ => ?_
  refine ends_call (createRoot_ends (.inl rfl)) fun ok₁ d₁ ⟨h₁, hroot⟩ =>
    ends_ite_of (fun _ => ends_pure.2 ⟨h₁, nofun⟩) fun hok₁ => ?_
  refine ends_call (createDir_ends (.inr (.inl rfl))) fun ok₂ d₂ ⟨h₂, hdfiles⟩ =>
    ends_ite_of (fun _ => ends_pure.2 ⟨h₁.trans h₂, nofun⟩) fun hok₂ => ?_
  refine ends_call (createSubdirs_ends hlayout) fun ok₃ d₃ ⟨h₃, hsub⟩ =>
    ends_ite_of (fun _ => ends_pure.2 ⟨(h₁.trans h₂).trans h₃, nofun⟩) fun hok₃ => ?_
  refine ends_call (createDir_ends (.inr (.inr (.inr (.inl rfl))))) fun ok₄ d₄ ⟨h₄, hstranded⟩ =>
    ends_ite_of (fun _ => ends_pure.2 ⟨((h₁.trans h₂).trans h₃).trans h₄, nofun⟩) fun hok₄ => ?_
  refine ends_call (createDir_ends (.inr (.inr (.inr (.inr rfl))))) fun ok₅ d₅ ⟨h₅, hmd⟩ =>
    ends_ite_of (fun _ => ends_pure.2 ⟨(((h₁.trans h₂).trans h₃).trans h₄).trans h₅, nofun⟩) fun hok₅ => ?_
  have hmade := (((h₁.trans h₂).trans h₃).trans h₄).trans h₅
  simp only [Bool.not_eq_true', Bool.not_eq_false] at hok₁ hok₂ hok₃ hok₄ hok₅
  refine ends_ite_of (fun _ => ends_pure.2 ⟨hmade, nofun⟩) fun _ =>
    (openDb_ends (hmd hok₅)).mono fun ok d' ⟨h₆, hdb⟩ => ⟨hmade.trans h₆, fun hok => ⟨?_, hdb hok⟩⟩
  rintro p (rfl | rfl | ⟨i, hi, rfl⟩ | rfl | rfl)
  · exact ((((h₂.trans h₃).trans h₄).trans h₅).trans h₆).keeps _ _ (hroot hok₁)
  · exact (((h₃.trans h₄).trans h₅).trans h₆).keeps _ _ (hdfiles hok₂)
  · exact ((h₄.trans h₅).trans h₆).keeps _ _ (hsub hok₃ i (List.mem_range.2 hi))
  · exact (h₅.trans h₆).keeps _ _ (hstranded hok₄)
  · exact h₆.keeps _ _ (hmd hok₅)

theorem setupRootPaths_again (h : d.SetUp) : Ends (setupRootPaths sys) d fun _ d' => d' = d := by
  have hdir : ∀ {dir name}, LayoutDir (dir ++ [name]) →
      Ends (createDir sys dir name) d fun _ d' => d' = d := fun hp => by
    refine ends_bind.2 (ends_get.2 (ends_ite_of (fun _ => ends_pure.2 rfl) fun _ => ?_))
    rw [h.dirs _ hp]
    exact ends_pure.2 rfl
  have hroot : Ends (createRoot sys) d fun _ d' => d' = d := by
    refine ends_bind.2 (ends_get.2 (ends_ite_of (fun _ => ends_pure.2 rfl) fun _ => ?_))
    rw [h.dirs [] (.inl rfl)]
    exact ends_pure.2 rfl
  have hsub : ∀ is : List Nat, (∀ i ∈ is, i < 256) →
      Ends (createSubdirs sys is) d fun _ d' => d' = d := fun is his => by
    induction is with
    | nil => exact ends_pure.2 rfl
    | cons i is ih =>
      obtain ⟨hi, his⟩ := List.forall_mem_cons.1 his
      refine ends_call (hdir (.inr (.inr (.inl ⟨i, hi, rfl⟩)))) ?_
      rintro _ _ rfl
      exact ends_ite_of (fun _ => ends_pure.2 rfl) fun _ => ih his
  have hdb : Ends (openDb sys) d fun _ d' => d' = d := by
    obtain ⟨c, hc⟩ := h.db
    refine ends_ite_of (fun _ => ends_bind.2 (ends_get.2 ?_)) fun _ => ends_pure.2 rfl
    rw [hc]
    exact ends_pure.2 rfl
  refine ends_ite_of (fun _ => ends_pure.2 rfl) fun _ => ends_call hroot ?_
  rintro _ _ rfl
  refine ends_ite_of (fun _ => ends_pure.2 rfl) fun _ => ends_call (hdir (.inr (.inl rfl))) ?_
  rintro _ _ rfl
  refine ends_ite_of (fun _ => ends_pure.2 rfl) fun _ => ends_call (hsub _ fun i => List.mem_range.1) ?_
  rintro _ _ rfl
  refine ends_ite_of (fun _ => ends_pure.2 rfl) fun _ =>
    ends_call (hdir (.inr (.inr (.inr (.inl rfl))))) ?_
  rintro _ _ rfl
  refine ends_ite_of (fun _ => ends_pure.2 rfl) fun _ =>
    ends_call (hdir (.inr (.inr (.inr (.inr rfl))))) ?_
  rintro _ _ rfl
  exact ends_ite_of (fun _ => ends_pure.2 rfl) fun _ => ends_ite_of (fun _ => ends_pure.2 rfl) fun _ => hdb

/-- **`setup_root_paths`** adds the directories of the layout and the database and nothing else, has
them all if it succeeds, and leaves a target alone that is set up. -/
theorem setupRootPaths_sets_up (sys : FileSys) (d : Disk) : Ends (setupRootPaths sys) d fun ok d' =>
    Grows LayoutDir d d' ∧ (ok = true → d'.SetUp) ∧ (d.SetUp → d' = d) := fun ok d' hrun =>
  have ⟨hgrow, hok⟩ := setupRootPaths_ends ok d' hrun
  ⟨hgrow, hok, fun h => setupRootPaths_again h ok d' hrun⟩

/-! ## Emptying a directory -/

/-- No directory of the tree lists a name twice. -/
def Disk.Distinct (d : Disk) : Prop := ∀ t, d.tree = some t → t.Distinct

/-- What there is, in the root directory, under a name. -/
def Disk.entry (d : Disk) (name : Name) : Option Tree := d.tree.bind fun t => t.at [name]

theorem Disk.Distinct.entry (h : d.Distinct) {t : Tree} (ht : d.entry name = some t) : t.Distinct := by
  obtain ⟨u, hu, hat⟩ := Option.bind_eq_some_iff.1 ht
  exact (h u hu).at hat

theorem Disk.holds_entry (d : Disk) (name : Name) (q : Path) :
    d.holds (name :: q) = (d.entry name).bind fun t => t.holds q := by
  unfold holds Disk.entry
  rw [Option.bind_assoc]
  exact Option.bind_congr fun t _ => FileTree.holds_append t [name] q

theorem Disk.root_of_entry {t : Tree} (ht : d.entry name = some t) : d.holds [] = some none := by
  have hthere : d.holds ([] ++ [name]) ≠ none := by
    show d.holds [name] ≠ none
    rw [Disk.holds_entry, ht, Option.bind_some, FileTree.holds_nil]
    exact Option.some_ne_none _
  exact Disk.holds_above (List.cons_ne_nil _ _) hthere

/-- What is in one directory of the root becomes less. -/
structure Thins (name : Name) (d d' : Disk) : Prop where
  others : ∀ p, ¬ [name] <+: p → d'.holds p = d.holds p
  entries : ∀ y, y ≠ name → d'.entry y = d.entry y
  less : ∀ p, d'.holds p = none ∨ d'.holds p = d.holds p

/-- Something that holds less takes the place of an entry. -/
theorem Thins.put {t : Tree} (ht : d.entry name = some t) {o : Option Tree}
    (ho : ∀ q, (o.bind fun u => u.holds q) = none ∨ (o.bind fun u => u.holds q) = t.holds q) (k : Nat) :
    Thins name d { d.put [] name o with streams := k } where
  others p hp := by
    show (d.put [] name o).holds p = d.holds p
    exact Disk.holds_put_of_not d o hp
  entries y hy := by
    obtain ⟨u, hu, -⟩ := Option.bind_eq_some_iff.1 ht
    show (d.tree.map _).bind _ = d.tree.bind _
    rw [hu]
    cases u with
    | file c => rfl
    | dir l =>
      show ((l.put name o).find y).bind _ = (l.find y).bind _
      rw [Entries.find_put, if_neg hy.symm]
  less p := by
    by_cases hp : [name] <+: p
    · obtain ⟨q, rfl⟩ := hp
      have hq : ({ d.put [] name o with streams := k } : Disk).holds ([name] ++ q)
          = o.bind fun u => u.holds q :=
        Disk.holds_put (Disk.root_of_entry ht) o q
      rw [hq]
      show _ ∨ _ = d.holds (name :: q)
      rw [Disk.holds_entry, ht]
      exact ho q
    · refine .inr ?_
      show (d.put [] name o).holds p = d.holds p
      exact Disk.holds_put_of_not d o hp

theorem emptyRootDir_ends (h : ∀ t, d.entry name = some t → t.Distinct) :
    Ends (emptyRootDir sys name) d fun ok d' => Thins name d d' ∧
      (ok = true → d'.streams = d.streams ∧ ∀ q, d'.holds (name :: q) = none) := by
  refine ends_bind.2 (ends_get.2 ?_)
  cases ht : d.entry name with
  | none =>
    rw [show (d.tree.bind fun t => t.at [name]) = none from ht]
    exact ends_pure.2 ⟨⟨fun _ _ => rfl, fun _ _ => rfl, fun _ => .inr rfl⟩, nofun⟩
  | some t =>
    rw [show (d.tree.bind fun t => t.at [name]) = some t from ht]
    refine ends_bind.2 (ends_set.2 (ends_pure.2 ?_))
    rcases emptyDir_stops sys [name] (h t ht) with ⟨-, hrun⟩ | ⟨done, c, rest, -, -, -, hrun⟩
    · rw [hrun]
      exact ⟨.put ht (fun q => .inl rfl) _, fun _ => ⟨rfl, Disk.holds_put (Disk.root_of_entry ht) none⟩⟩
    · rw [hrun]
      refine ⟨.put ht (fun q => ?_) _, nofun⟩
      rw [Option.bind_some, FileTree.holds_without]
      split
      · exact .inl rfl
      · exact .inr rfl

/-! ## The walk of FORMAT -/

/-- The directories that FORMAT empties, with everything in them. -/
def Swept (p : Path) : Prop := ∃ q, p = md :: q ∨ p = stranded :: q ∨ p = dfiles :: q

/-- The database is found. -/
def Disk.Found (sys : FileSys) (d : Disk) : Prop := sys.statDbFails = false ∧ d.holds getDbname ≠ none

/-- What the walk comes to, and where it leaves the disk. -/
inductive Walked (sys : FileSys) (d : Disk) : FormatOutcome → Disk → Prop
  /-- the directories are made without any being emptied -/
  | missing {o : FormatOutcome} {d' : Disk} (hdb : ¬ d.Found sys) (hgrow : Grows LayoutDir d d')
    (ho : o = .opens ∧ d'.SetUp ∨ o = .openFails) : Walked sys d o d'
  | md {d' : Disk} (hdb : d.Found sys) (hthin : Thins md d d') :
    Walked sys d (.mdFails (d'.holds getDbname = none)) d'
  | stranded {d' : Disk} (hdb : d.Found sys) (hno : d'.holds getDbname = none)
    (hfiles : ∀ q, d'.holds (dfiles :: q) = d.holds (dfiles :: q)) : Walked sys d .strandedFails d'
  | dfiles {d' : Disk} (hdb : d.Found sys) (hno : d'.holds getDbname = none)
    (hless : ∀ p, d'.holds p = none ∨ d'.holds p = d.holds p) : Walked sys d .dfilesFails d'
  | emptied {o : FormatOutcome} {v d' : Disk} (hdb : d.Found sys) (hstreams : v.streams = d.streams)
    (hgone : ∀ p, Swept p → v.holds p = none) (hkept : ∀ p, ¬ Swept p → v.holds p = d.holds p)
    (hgrow : Grows LayoutDir v d') (ho : o = .opens ∧ d'.SetUp ∨ o = .openFails) : Walked sys d o d'

theorem Thins.other (h : Thins name d d') {y : Name} (hy : y ≠ name) (q : Path) :
    d'.holds (y :: q) = d.holds (y :: q) := by
  rw [Disk.holds_entry, Disk.holds_entry, h.entries y hy]

theorem formatDirs_walks (h : d.Distinct) : Ends (formatDirs sys) d (Walked sys d) := by
  have hne : stranded ≠ md ∧ dfiles ≠ md ∧ dfiles ≠ stranded := by decide
  have hcreate : ∀ v : Disk, Ends (setupRootPaths sys >>= fun ok =>
      if (!ok) = true then pure FormatOutcome.openFails else pure FormatOutcome.opens) v fun o d' =>
        Grows LayoutDir v d' ∧ (o = .opens ∧ d'.SetUp ∨ o = .openFails) := fun v =>
    ends_call setupRootPaths_ends fun ok d' ⟨hgrow, hok⟩ =>
      ends_ite_of (fun _ => ends_pure.2 ⟨hgrow, .inr rfl⟩)
      fun hno => ends_pure.2 ⟨hgrow, .inl ⟨rfl, hok (by simpa using hno)⟩⟩
  have hfound : d.Found sys ↔ ¬ (sys.statDbFails || decide (d.holds getDbname = none)) = true := by
    simp [Disk.Found]
  refine ends_bind.2 (ends_get.2 (ends_ite_of (fun hno => ?_) fun hdb => ?_))
  · exact (hcreate d).mono fun o d' ⟨hgrow, ho⟩ => .missing (fun h => hfound.1 h hno) hgrow ho
  · have hdb : d.Found sys := hfound.2 hdb
    refine ends_call (emptyRootDir_ends fun t => h.entry) fun ok₁ d₁ ⟨hthin₁, hok₁⟩ => ends_ite_of
      (fun _ => ends_bind.2 (ends_get.2 (ends_pure.2 (.md hdb hthin₁)))) fun hno₁ => ?_
    obtain ⟨hstreams₁, hmd⟩ := hok₁ (by simpa using hno₁)
    refine ends_call (emptyRootDir_ends fun t ht => h.entry ((hthin₁.entries _ hne.1).symm.trans ht))
      fun ok₂ d₂ ⟨hthin₂, hok₂⟩ => ends_ite_of (fun _ => ends_pure.2 (.stranded hdb ?_ fun q => ?_)) fun hno₂ => ?_
    · exact (hthin₂.other hne.1.symm [dbname]).trans (hmd _)
    · exact (hthin₂.other hne.2.2 q).trans (hthin₁.other hne.2.1 q)
    obtain ⟨hstreams₂, hstranded⟩ := hok₂ (by simpa using hno₂)
    refine ends_call (emptyRootDir_ends fun t ht => h.entry ((hthin₁.entries _ hne.2.1).symm.trans
      ((hthin₂.entries _ hne.2.2).symm.trans ht))) fun ok₃ d₃ ⟨hthin₃, hok₃⟩ => ends_ite_of
      (fun _ => ends_pure.2 (.dfiles hdb ?_ fun p => ?_)) fun hno₃ => ?_
    · exact (hthin₃.other hne.2.1.symm [dbname]).trans ((hthin₂.other hne.1.symm [dbname]).trans (hmd _))
    · rcases hthin₃.less p with h₃ | h₃
      · exact .inl h₃
      rcases hthin₂.less p with h₂ | h₂
      · exact .inl (h₃.trans h₂)
      exact (hthin₁.less p).imp (fun h₁ => h₃.trans (h₂.trans h₁)) fun h₁ => h₃.trans (h₂.trans h₁)
    obtain ⟨hstreams₃, hdfiles⟩ := hok₃ (by simpa using hno₃)
    refine (hcreate d₃).mono fun o d' ⟨hgrow, ho⟩ => .emptied hdb
      (hstreams₃.trans (hstreams₂.trans hstreams₁)) ?_ (fun p hp => ?_) hgrow ho
    · rintro _ ⟨q, rfl | rfl | rfl⟩
      · exact (hthin₃.other hne.2.1.symm q).trans ((hthin₂.other hne.1.symm q).trans (hmd q))
      · exact (hthin₃.other hne.2.2.symm q).trans (hstranded q)
      · exact hdfiles q
    · have hno : ∀ x ∈ [md, stranded, dfiles], ¬ [x] <+: p := fun x hx hpre => by
        obtain ⟨q, rfl⟩ := hpre
        refine hp ⟨q, ?_⟩
        simpa using hx
      exact (hthin₃.others p (hno _ (by simp))).trans ((hthin₂.others p (hno _ (by simp))).trans
        (hthin₁.others p (hno _ (by simp))))

theorem swept_layoutDir {p : Path} (h : LayoutDir p) (hroot : p ≠ []) : Swept p := by
  rcases h with rfl | rfl | ⟨i, -, rfl⟩ | rfl | rfl
  · exact absurd rfl hroot
  · exact ⟨[], .inr (.inr rfl)⟩
  · exact ⟨[subdir i], .inr (.inr rfl)⟩
  · exact ⟨[], .inr (.inl rfl)⟩
  · exact ⟨[], .inl rfl⟩

/-- **What a FORMAT that found the database leaves on the disk**: the directories of the layout with nothing
in them but the database, the rest of the root directory as it was, and no directory stream open. -/
theorem formatDirs_layout (hd : d.Distinct) (hdb : d.Found sys)
    (hrun : formatDirs sys d = some (.opens, d')) :
    d'.streams = d.streams ∧ d'.SetUp ∧
      (∀ p, Swept p → ¬ LayoutDir p → p ≠ getDbname → d'.holds p = none) ∧
      ∀ p, ¬ Swept p → d'.holds p = d.holds p := by
  have hwalk := formatDirs_walks hd _ _ hrun
  cases hwalk with
  | missing hno => exact absurd hdb hno
  | emptied _ hstreams hgone hkept hgrow ho =>
    have hsetUp : d'.SetUp := (ho.resolve_right nofun).2
    refine ⟨hgrow.streams.trans hstreams, hsetUp, fun p hp hlayout hne => ?_, fun p hp => ?_⟩
    · exact (hgrow.holds_of_not hlayout hne).trans (hgone p hp)
    · by_cases hroot : p = []
      · obtain rfl := hroot
        have hthere : d.holds [] = some none := Disk.holds_above (List.cons_ne_nil md [dbname]) hdb.2
        exact (hsetUp.dirs [] (.inl rfl)).trans hthere.symm
      · refine (hgrow.holds_of_not (fun h => hp (swept_layoutDir h hroot)) ?_).trans (hkept p hp)
        rintro rfl
        exact hp ⟨[dbname], .inl rfl⟩

theorem dataPath_not_layout (pid oid : UInt64) : ¬ LayoutDir (dataPath pid oid) := by
  rintro (h | h | ⟨i, -, h⟩ | h | h) <;> exact absurd (congrArg List.length h) (by simp [dataPath])

theorem dataPath_ne_db (pid oid : UInt64) : dataPath pid oid ≠ getDbname := fun h =>
  absurd (congrArg List.length h) (by simp [dataPath, getDbname])

/-- A disk with the database, a data file and something else in the root directory. -/
def Disk.withFile : Disk where
  tree := some (.dir (.cons md (.dir (.cons dbname (.file []) .nil))
    (.cons ['x'] (.file [7]) (.cons stranded (.dir .nil)
    (.cons dfiles (.dir (.cons (subdir 0) (.dir (.cons (numeral 16 0x10000 ++ '.' :: numeral 16 0x10000)
      (.file [1, 2])
      .nil)) .nil)) .nil)))))
  streams := 0

theorem withFile_distinct : Disk.withFile.Distinct := by
  rintro t ht
  obtain rfl := Option.some.inj ht
  simp [FileTree.Distinct, Entries.Distinct, Entries.names]
  decide

theorem withFile_formats : ∃ d', formatDirs FileSys.calm Disk.withFile = some (.opens, d') := by
  have hok : (formatDirs FileSys.calm Disk.withFile).map Prod.fst = some .opens := by decide +kernel
  obtain ⟨⟨o, d'⟩, hrun, rfl⟩ := Option.map_eq_some_iff.1 hok
  exact ⟨d', hrun⟩

theorem formatDirs_layout_withFile : ∃ d', formatDirs FileSys.calm Disk.withFile = some (.opens, d') ∧
    d'.SetUp ∧
    d'.holds (dataPath 0x10000 0x10000) = none ∧ d'.holds [['x']] = some (some [7]) := by
  obtain ⟨d', hrun⟩ := withFile_formats
  obtain ⟨-, hsetUp, hgone, hkept⟩ := formatDirs_layout withFile_distinct ⟨rfl, by decide +kernel⟩ hrun
  refine ⟨d', hrun, hsetUp, hgone _ ⟨_, .inr (.inr rfl)⟩ (dataPath_not_layout _ _) (dataPath_ne_db _ _),
    hkept _ ?_⟩
  rintro ⟨q, h | h | h⟩ <;> exact absurd (List.cons.inj h).1 (by decide)

/-! ## FORMAT in the model -/

/-- The disk holds the data files of user objects, and the database if the open one has its name. -/
structure Disk.Holds (d : Disk) (s : Target) : Prop where
  files : ∀ pid oid, isUserobjectId pid oid = true → d.holds (dataPath pid oid) = (s.files pid oid).map some
  linked : s.opened = true → (d.holds getDbname = none ↔ s.dbLinked = false)

/-- The surroundings in which FORMAT finds what a walk comes to. -/
def Env.walking (env : Env) (sys : FileSys) (o : FormatOutcome) (d' : Disk) : Env :=
  { env with
    sysFails := fun c => if c = .statDb then sys.statDbFails else env.sysFails c
    formatOutcome := o
    formatKept := fun pid oid => (d'.holds (dataPath pid oid)).isSome }

variable {env : Env} {s t : Target} {o : FormatOutcome}

/-- The database is another one, where it lies is not. -/
def SamePlace (s t : Target) : Prop := t.files = s.files ∧ t.dbLinked = s.dbLinked ∧ t.opened = s.opened

theorem SamePlace.refl (s : Target) : SamePlace s s := ⟨rfl, rfl, rfl⟩

theorem SamePlace.trans {v : Target} (h : SamePlace s t) (h' : SamePlace t v) : SamePlace s v :=
  ⟨h'.1.trans h.1, h'.2.1.trans h.2.1, h'.2.2.trans h.2.2⟩

theorem place_dbExecDms (st : Dms) : Respects SamePlace (dbExecDms env st) := fun s =>
  dbExecDms_ends (fun _ _ _ => ⟨rfl, rfl, rfl⟩) fun _ => .refl s

theorem place_bind {m : OsdM Ret} {f : Ret → OsdM Ret} (hm : Respects SamePlace m)
    (hf : ∀ r, Respects SamePlace (f r)) : Respects SamePlace (m >>= fun r => if r ≠ .ok then pure r else f r) :=
  fun s => ends_call (hm s) fun r t ht => ends_ite_of (fun _ => ends_pure.2 ht) fun _ =>
    (hf r t).mono fun _ _ hv => ht.trans hv

theorem place_setInitAttrs (l : List (UInt32 × UInt32 × String)) :
    Respects SamePlace (setInitAttrs env l) := by
  induction l with
  | nil => exact respects_pure SamePlace.refl _
  | cons x l ih =>
    exact place_bind (place_dbExecDms _) fun _ => ih

theorem place_osdInitializeDb : Respects SamePlace (osdInitializeDb env) := by
  refine fun s => ends_bind.2 (ends_modify.2 ?_)
  have hrest : Respects SamePlace (dbExecDms env (.objInsert ⟨0, 0, .root⟩) >>= fun ret =>
      if ret ≠ .ok then pure ret else setInitAttrs env rootInfo >>= fun ret =>
        if ret ≠ .ok then pure ret else setInitAttrs env partitionInfo >>= fun ret =>
          if ret ≠ .ok then pure ret else attrSetAttr env ROOT_PID ROOT_OID (PARTITION_PG + 1) 1
            (some (hostVal env 0)) 8) :=
    place_bind (place_dbExecDms _) fun _ => place_bind (place_setInitAttrs _) fun _ =>
      place_bind (place_setInitAttrs _) fun _ => place_dbExecDms _
  exact hrest _

theorem Disk.Holds.of_place (h : d.Holds s) (hst : SamePlace s t) : d.Holds t where
  files pid oid hid := by rw [hst.1, h.files pid oid hid]
  linked hopen := by rw [hst.2.1, h.linked (hst.2.2.symm.trans hopen)]

/-- The directories are made, or making them fails, and a new database is opened in the former case. -/
theorem reopen_onDisk {u : Disk} (hgrow : Grows LayoutDir u d')
    (ho : o = .opens ∧ d'.SetUp ∨ o = .openFails)
    (hroot : t.rootFreed = false)
    (hfiles : ∀ pid oid, isUserobjectId pid oid = true →
      u.holds (dataPath pid oid) = (t.files pid oid).map some) :
    Ends (osdOpen (env.walking sys o d')) t fun ret s' => d'.Holds s' ∧ (ret = .ok → o = .opens) := by
  have hdata : ∀ pid oid, isUserobjectId pid oid = true →
      d'.holds (dataPath pid oid) = (t.files pid oid).map some := fun pid oid hid =>
    (hgrow.holds_of_not (dataPath_not_layout pid oid) (dataPath_ne_db pid oid)).trans (hfiles pid oid hid)
  have hsame : (if t.rootFreed && (env.walking sys o d').rootGarbled then fun _ _ => none else t.files)
      = t.files :=
    if_neg (by rw [hroot]; nofun)
  refine ends_bind.2 (ends_get.2 (ends_bind.2 (ends_set.2 (ends_ite_of (fun hfails => ?_) fun hopens => ?_))))
  · refine ends_bind.2 (ends_modify.2 (ends_pure.2 ⟨⟨fun pid oid hid => ?_, nofun⟩, nofun⟩))
    rw [hsame]
    exact hdata pid oid hid
  · obtain ⟨rfl, hsetUp⟩ := ho.resolve_right hopens
    refine (place_osdInitializeDb _).mono fun ret s' hplace => ⟨Disk.Holds.of_place ⟨fun pid oid hid => ?_, fun _ => ?_⟩
      hplace, fun _ => rfl⟩
    · rw [hsame]
      exact hdata pid oid hid
    · obtain ⟨c, hc⟩ := hsetUp.db
      exact iff_of_false (hc ▸ Option.some_ne_none _) nofun

/-- **FORMAT in the model does what the walk over the directories does**, in the surroundings that say
what the walk comes to: the disk holds the data files and the database as the model has them, and
FORMAT succeeds only if the walk comes to an open database. -/
theorem osdFormatOsd_onDisk (hd : d.Distinct) (hs : d.Holds s) (hopen : s.opened = true)
    (hroot : s.rootFreed = false) (hrun : formatDirs sys d = some (o, d')) :
    Ends (osdFormatOsd (env.walking sys o d')) s fun ret s' => d'.Holds s' ∧ (ret = .ok → o = .opens) := by
  have hstat : s.dbStatFails (env.walking sys o d') = true ↔ ¬ d.Found sys := by
    unfold Target.dbStatFails Disk.Found
    rw [hroot, ne_eq, hs.linked hopen, show (env.walking sys o d').sysFails .statDb = sys.statDbFails from rfl]
    cases sys.statDbFails <;> cases s.dbLinked <;> simp
  have hreopen : ∀ {u : Disk} {t : Target}, Grows LayoutDir u d' →
      (o = .opens ∧ d'.SetUp ∨ o = .openFails) →
      t.rootFreed = false →
      (∀ pid oid, isUserobjectId pid oid = true → u.holds (dataPath pid oid) = (t.files pid oid).map some) →
      Ends (osdOpen (env.walking sys o d') >>= fun ret =>
        if ret ≠ .ok then pure (senseBuildSdd OSD_SSK_HARDWARE_ERROR OSD_ASC_SYSTEM_RESOURCE_FAILURE 0 0)
        else setCcap Ccap.zero >>= fun _ => pure .ok) t fun ret s' => d'.Holds s' ∧
          (ret = .ok → o = .opens) :=
    fun hgrow ho hroot hfiles => ends_call (reopen_onDisk hgrow ho hroot hfiles) fun ret t' ⟨ht', hret⟩ =>
      ends_ite_of (fun _ => ends_pure.2 ⟨ht', nofun⟩) fun hok => ends_bind.2 (ends_modify.2 (ends_pure.2
        ⟨ht'.of_place ⟨rfl, rfl, rfl⟩, fun _ => hret (not_not.1 hok)⟩))
  suffices hformat : Ends (formatOsd (env.walking sys o d')) s fun ret s' =>
      d'.Holds s' ∧ (ret = .ok → o = .opens) from
    ends_call hformat fun ret t ⟨ht, hret⟩ => ends_bind.2 (ends_modify.2 (ends_pure.2
      ⟨ht.of_place ⟨rfl, rfl, rfl⟩, hret⟩))
  have hwalk := formatDirs_walks hd _ _ hrun
  refine ends_bind.2 (ends_get.2 ?_)
  cases hwalk with
  | missing hdb hgrow ho =>
    exact ends_ite_of (fun _ => hreopen hgrow ho hroot hs.files) fun hno => absurd (hstat.2 hdb) hno
  | md hdb hthin =>
    refine ends_ite_of (fun h => absurd hdb (hstat.1 h)) fun _ => ends_bind.2 (ends_set.2 (ends_pure.2
      ⟨⟨fun pid oid hid => ?_, fun _ => ?_⟩, nofun⟩))
    · exact (hthin.other (by decide) _).trans (hs.files pid oid hid)
    · show _ ↔ (!decide (d'.holds getDbname = none)) = false
      simp
  | stranded hdb hno hfiles =>
    exact ends_ite_of (fun h => absurd hdb (hstat.1 h)) fun _ => ends_bind.2 (ends_set.2 (ends_pure.2
      ⟨⟨fun pid oid hid => (hfiles _).trans (hs.files pid oid hid), fun _ => iff_of_true hno rfl⟩, nofun⟩))
  | dfiles hdb hno hless =>
    refine ends_ite_of (fun h => absurd hdb (hstat.1 h)) fun _ => ends_bind.2 (ends_set.2 (ends_pure.2
      ⟨⟨fun pid oid hid => ?_, fun _ => iff_of_true hno rfl⟩, nofun⟩))
    show _ = (if (d'.holds (dataPath pid oid)).isSome then s.files pid oid else none).map some
    rcases hless (dataPath pid oid) with hnone | hsame
    · rw [hnone]
      rfl
    · rw [hsame, hs.files pid oid hid]
      cases s.files pid oid <;> rfl
  | emptied hdb hstreams hgone hkept hgrow ho =>
    refine ends_ite_of (fun h => absurd hdb (hstat.1 h)) fun _ => ?_
    have hdata : ∀ pid oid, isUserobjectId pid oid = true →
        _ = (none : Option (List UInt8)).map some := fun pid oid _ =>
      hgone (dataPath pid oid) ⟨_, .inr (.inr rfl)⟩
    obtain ⟨rfl, hsetUp⟩ | rfl := ho
    · exact ends_bind.2 (ends_set.2 (hreopen hgrow (.inl ⟨rfl, hsetUp⟩) hroot hdata))
    · exact ends_bind.2 (ends_set.2 (hreopen hgrow (.inr rfl) hroot hdata))

/-- The target of that disk. -/
def Target.withFile : Target := Target.fresh.setFile 0x10000 0x10000 (some [1, 2])

theorem withFile_holds : Disk.withFile.Holds Target.withFile where
  files pid oid hid := by
    have hpath : ∀ x y : Name, Disk.withFile.holds [dfiles, x, y] =
        if subdir 0 = x ∧ numeral 16 0x10000 ++ '.' :: numeral 16 0x10000 = y then some (some [1, 2])
          else none := by
      intro x y
      have hne : md ≠ dfiles ∧ ['x'] ≠ dfiles ∧ stranded ≠ dfiles := by decide
      have hentry : Disk.withFile.entry dfiles = some (.dir (.cons (subdir 0) (.dir (.cons
          (numeral 16 0x10000 ++ '.' :: numeral 16 0x10000) (.file [1, 2]) .nil)) .nil)) := by
        simp [Disk.withFile, Disk.entry, FileTree.at_cons, FileTree.entries, Entries.find, hne]
      rw [Disk.holds_entry, hentry, Option.bind_some, FileTree.holds_cons]
      show (if subdir 0 = x then some _ else none).bind _ = _
      by_cases hx : subdir 0 = x
      · rw [if_pos hx, if_congr (and_iff_right hx) rfl rfl, Option.bind_some, FileTree.holds_cons]
        show (if numeral 16 0x10000 ++ '.' :: numeral 16 0x10000 = y then some _ else none).bind _ = _
        split
        · rfl
        · rfl
      · rw [if_neg hx, if_neg fun h => hx h.1]
        rfl
    have hnames : (subdir 0 = subdir (oid &&& 0xFF).toNat ∧
        numeral 16 0x10000 ++ '.' :: numeral 16 0x10000 = numeral 16 pid.toNat ++ '.' :: numeral 16 oid.toNat) ↔
        pid = 0x10000 ∧ oid = 0x10000 := by
      constructor
      · intro h
        have hpaths : dataPath pid oid = dataPath 0x10000 0x10000 := by
          unfold dataPath
          rw [← h.1, ← h.2]
          rfl
        have hfiles : getDfileName [] pid oid = getDfileName [] 0x10000 0x10000 := by
          rw [getDfileName_eq _ (ne_zero_of_isUserobjectId hid), getDfileName_eq _ (by decide), hpaths]
        exact getDfileName_inj (ne_zero_of_isUserobjectId hid) (by decide) hfiles
      · rintro ⟨rfl, rfl⟩
        exact ⟨rfl, rfl⟩
    have hfresh : Target.fresh.files = fun _ _ => none := funext fun p => funext fun o => (Fresh.initial fresh_fresh).files p o
    show Disk.withFile.holds [dfiles, _, _] = (if pid = 0x10000 ∧ oid = 0x10000 then some [1, 2]
      else Target.fresh.files pid oid).map some
    rw [hpath, if_congr hnames rfl rfl, hfresh]
    split <;> rfl
  linked _ := iff_of_false (by decide +kernel) (by decide +kernel)

theorem osdFormatOsd_onDisk_withFile : ∃ d', formatDirs FileSys.calm Disk.withFile = some (.opens, d') ∧
    Ends (osdFormatOsd (Env.calm.walking FileSys.calm .opens d')) Target.withFile fun ret s' =>
      d'.Holds s' ∧ (ret = .ok → FormatOutcome.opens = .opens) := by
  obtain ⟨d', hrun⟩ := withFile_formats
  exact ⟨d', hrun, osdFormatOsd_onDisk withFile_distinct withFile_holds (by decide +kernel)
    (by decide +kernel) hrun⟩

end OsdTarget
