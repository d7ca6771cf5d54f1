import OsdTarget.AttributeWrites
import OsdTarget.CreateAndWrite
import OsdTarget.DataFiles

/-!
# What CREATE and REMOVE are specified to do

The specifications of `osd_create` and `osd_remove` and when the code meets them.  REMOVE tests
neither the presence nor the type of what it is given: it answers with success for any id in range.
-/

namespace OsdTarget

open Base

variable {env : Env} {s s' : Target} {pid oid : UInt64}

/-! ## REMOVE -/

/-- What REMOVE is specified to do: it succeeds for the user objects that are present, taking away the
object row, the data file, the attributes and the memberships of that object; otherwise it leaves
tables and data files alone. -/
structure RemovesObject (s : Target) (pid oid : UInt64) (ret : Ret) (s' : Target) : Prop where
  answer : ret = .ok ↔ s.db.HasType (bindInt64 pid) (bindInt64 oid) .userobject
  removed : ret = .ok → s'.db = s.db.without (bindInt64 pid) (bindInt64 oid) ∧
    s'.files = (s.setFile pid oid none).files
  refused : ret ≠ .ok → s'.db = s.db ∧ s'.files = s.files

/-- There is no data file to unlink, or `unlink` succeeds on the path of the file. -/
def Target.Unlinks (env : Env) (s : Target) (pid oid : UInt64) : Prop :=
  s.files pid oid = none ∨
    (s.rootFreed && env.rootGarbled) = false ∧ env.sysFails (.unlink pid oid) = false

/-- **`unlink` takes the file away and nothing else** exactly where it can. -/
theorem Target.unlinkedFiles_eq_iff :
    s.unlinkedFiles env pid oid = (s.setFile pid oid none).files ↔ s.Unlinks env pid oid := by
  unfold Target.unlinkedFiles Target.Unlinks
  split
  · rename_i hfail
    have hstays : ¬ ((s.rootFreed && env.rootGarbled) = false ∧
        env.sysFails (.unlink pid oid) = false) := by
      rintro ⟨h1, h2⟩
      rw [h1, h2] at hfail
      exact absurd hfail (by decide)
    rw [or_iff_left hstays]
    constructor
    · intro h
      have hat := congrFun (congrFun h pid) oid
      rwa [Target.setFile_files, if_pos ⟨rfl, rfl⟩] at hat
    · intro hnone
      funext p o
      rw [Target.setFile_files]
      split
      · rename_i hk
        rw [hk.1, hk.2, hnone]
      · rfl
  · rename_i hok
    exact iff_of_true rfl (.inr (Bool.or_eq_false_iff.1 (Bool.eq_false_iff.2 hok)))

/-- What REMOVE of an id in range comes to when its statements are carried out. -/
theorem osdRemove_run (hid : isUserobjectId pid oid = true)
    (hsql : env.Deletes s.db (bindInt64 pid) (bindInt64 oid)) :
    ∃ s', osdRemove env pid oid s = some (.ok, s') ∧
      s'.db = s.db.without (bindInt64 pid) (bindInt64 oid) ∧ s'.files = s.unlinkedFiles env pid oid := by
  obtain ⟨ret, s', hrun, hdb, hspec⟩ :=
    ((osdRemove_db hid).and (osdRemove_spec pid oid)).of_halts (halts_osdRemove pid oid)
  obtain ⟨-, rfl, hrows⟩ := hdb.resolve_right fun h => h.1 hsql
  have hfiles : s'.files = s.unlinkedFiles env pid oid := by
    rcases hspec with ⟨hno, -⟩ | ⟨-, hfiles, -⟩
    · exact absurd (hid.symm.trans hno) nofun
    · exact hfiles
  exact ⟨s', hrun, hrows, hfiles⟩

theorem osdRemove_refused (hid : ¬ isUserobjectId pid oid = true) :
    osdRemove env pid oid s = some (cdbErr pid oid, s) := by
  unfold osdRemove
  rw [if_pos (by simpa using hid)]
  rfl

/-- The answer of `osd_remove` and the device after it are as specified. -/
def Env.RemovesAsSpecified (env : Env) (s : Target) (pid oid : UInt64) : Prop :=
  ∃ ret s', osdRemove env pid oid s = some (ret, s') ∧ RemovesObject s pid oid ret s'

/-- **When `osd_remove` meets its specification**: for the ids in range that are user objects whose data
file can be unlinked, and for the ids out of range that are none. -/
theorem osdRemove_specified_iff (hsql : env.Deletes s.db (bindInt64 pid) (bindInt64 oid)) :
    env.RemovesAsSpecified s pid oid ↔
      (isUserobjectId pid oid = true ↔ s.db.HasType (bindInt64 pid) (bindInt64 oid) .userobject) ∧
        (isUserobjectId pid oid = true → s.Unlinks env pid oid) := by
  by_cases hid : isUserobjectId pid oid = true
  · obtain ⟨t, hrun, hdb, hfiles⟩ := osdRemove_run hid hsql
    constructor
    · rintro ⟨ret, s', hr, h⟩
      rw [hrun] at hr
      cases hr
      refine ⟨iff_of_true hid (h.answer.1 rfl), fun _ => Target.unlinkedFiles_eq_iff.1 ?_⟩
      rw [← hfiles]
      exact (h.removed rfl).2
    · rintro ⟨htype, hunlink⟩
      refine ⟨.ok, t, hrun, iff_of_true rfl (htype.1 hid), fun _ => ⟨hdb, ?_⟩, fun h => absurd rfl h⟩
      rw [hfiles]
      exact Target.unlinkedFiles_eq_iff.2 (hunlink hid)
  · have hrun : osdRemove env pid oid s = some (cdbErr pid oid, s) := osdRemove_refused hid
    constructor
    · rintro ⟨ret, s', hr, h⟩
      rw [hrun] at hr
      cases hr
      exact ⟨iff_of_false hid fun ht => absurd (h.answer.2 ht) nofun, fun h => absurd h hid⟩
    · rintro ⟨htype, -⟩
      exact ⟨_, s, hrun, iff_of_false nofun fun ht => hid (htype.2 ht), nofun, fun _ => ⟨rfl, rfl⟩⟩

/-- A partition with one collection and one user object in it. -/
def collectionAndObject : Target :=
  calmRun [.createPartition 0, .createCollection 0x10000 0, .create 0x10000 0 1]

/-- The user object is removed as specified. -/
theorem osdRemove_specified_userobject :
    Env.calm.RemovesAsSpecified collectionAndObject 0x10000 0x10001 :=
  (osdRemove_specified_iff ⟨rfl, rfl, rfl⟩).2
    ⟨by decide +kernel, fun _ => .inr ⟨by decide +kernel, rfl⟩⟩

/-- REMOVE succeeds for an id that nothing has, and for the collection. -/
theorem osdRemove_unspecified :
    (¬ collectionAndObject.db.Has 0x10000 0x10002 ∧
      ¬ Env.calm.RemovesAsSpecified collectionAndObject 0x10000 0x10002) ∧
    (collectionAndObject.db.HasType 0x10000 0x10000 .collection ∧
      ¬ Env.calm.RemovesAsSpecified collectionAndObject 0x10000 0x10000) := by
  have hfails : ∀ oid, isUserobjectId 0x10000 oid = true →
      ¬ collectionAndObject.db.HasType (bindInt64 0x10000) (bindInt64 oid) .userobject →
      ¬ Env.calm.RemovesAsSpecified collectionAndObject 0x10000 oid := by
    rintro oid hid htype ⟨ret, s', hr, h⟩
    have hsql : Env.calm.Deletes collectionAndObject.db (bindInt64 0x10000) (bindInt64 oid) :=
        ⟨rfl, rfl, rfl⟩
    obtain ⟨t, hrun, -⟩ := osdRemove_run hid hsql
    rw [hrun] at hr
    cases hr
    exact htype (h.answer.1 rfl)
  exact ⟨⟨by decide +kernel, hfails _ (by decide) (by decide +kernel)⟩,
    by decide +kernel, hfails _ (by decide) (by decide +kernel)⟩

/-! ## CREATE: the loop with its data files -/

/-- The device with `n` more user objects, whose ids count on from `oid`. -/
def Target.withObjects (s : Target) (pid oid : UInt64) (n : Nat) : Target :=
  { s with
    db := { s.db with obj := s.db.obj ++ (List.range n).map fun k => userRow pid (oid + UInt64.ofNat k) }
    files := fun p o => if p = pid ∧ ∃ k < n, o = oid + UInt64.ofNat k then some [] else s.files p o }

/-- The ids have neither row nor file, and files can be created at all. -/
structure Target.FreeIds (env : Env) (s : Target) (pid oid : UInt64) (n : Nat) : Prop where
  row : ∀ k < n, ¬ s.db.Has (bindInt64 pid) (bindInt64 (oid + UInt64.ofNat k))
  file : ∀ k < n, s.files pid (oid + UInt64.ofNat k) = none
  root : 0 < n → (s.rootFreed && env.rootGarbled) = false

theorem Target.withObjects_zero (s : Target) (pid oid : UInt64) : s.withObjects pid oid 0 = s := by
  have hfiles : (s.withObjects pid oid 0).files = s.files := by
    funext p o
    exact if_neg fun ⟨_, _, hk, _⟩ => absurd hk (Nat.not_lt_zero _)
  have hdb : (s.withObjects pid oid 0).db = s.db := by simp [Target.withObjects]
  calc s.withObjects pid oid 0
      = { s with db := (s.withObjects pid oid 0).db, files := (s.withObjects pid oid 0).files } := rfl
    _ = s := by rw [hdb, hfiles]

theorem Target.files_of_withObjects (s : Target) {n : Nat} {p o : UInt64}
    (h : (s.withObjects pid oid n).files p o = none) : s.files p o = none := by
  simp only [Target.withObjects] at h
  split at h
  · exact absurd h nofun
  · exact h

/-- The next row and the next file. -/
theorem Target.withObjects_succ (s : Target) (pid oid : UInt64) (n : Nat) :
    ((s.withObjects pid oid n).setObj ((s.withObjects pid oid n).db.obj ++
      [userRow pid (oid + UInt64.ofNat n)])).setFile pid (oid + UInt64.ofNat n) (some []) =
        s.withObjects pid oid (n + 1) := by
  have hobj : (s.withObjects pid oid n).db.obj ++ [userRow pid (oid + UInt64.ofNat n)] =
      (s.withObjects pid oid (n + 1)).db.obj := by
    simp [Target.withObjects, List.range_succ]
  have hfiles : ((s.withObjects pid oid n).setFile pid (oid + UInt64.ofNat n) (some [])).files =
      (s.withObjects pid oid (n + 1)).files := by
    funext p o
    have hlast : (p = pid ∧ ∃ k < n + 1, o = oid + UInt64.ofNat k) ↔
        (p = pid ∧ o = oid + UInt64.ofNat n) ∨ (p = pid ∧ ∃ k < n, o = oid + UInt64.ofNat k) := by
      simp only [Nat.lt_succ_iff_lt_or_eq, or_and_right, exists_or, exists_eq_left, ← and_or_left, or_comm]
    simp only [Target.setFile, Target.withObjects, hlast]
    split <;> rename_i h <;> simp [h]
  calc _ = { s with
          db := { s.db with
            obj := (s.withObjects pid oid n).db.obj ++ [userRow pid (oid + UInt64.ofNat n)] }
          files := ((s.withObjects pid oid n).setFile pid (oid + UInt64.ofNat n) (some [])).files } := rfl
    _ = s.withObjects pid oid (n + 1) := by
      rw [hobj, hfiles]
      rfl

/-- The removals take the files of their range away. -/
theorem osdRemoveTmpObjects_files (henv : env.Reliable) (n : Nat) {t : Target}
    (hroot : 0 < n → (t.rootFreed && env.rootGarbled) = false)
    (hid : ∀ k < n, isUserobjectId pid (oid + UInt64.ofNat k) = true) :
    Ends (osdRemoveTmpObjects env pid n oid) t (fun _ v => v.files =
      fun p o => if p = pid ∧ ∃ k < n, o = oid + UInt64.ofNat k then none else t.files p o) := by
  induction n generalizing oid t with
  | zero =>
    refine ends_pure.2 (funext fun p => funext fun o => ?_)
    exact (if_neg fun ⟨_, _, hk, _⟩ => absurd hk (Nat.not_lt_zero _)).symm
  | succ n ih =>
    obtain ⟨h0, hrest⟩ := (forall_ids_succ (P := fun i => isUserobjectId pid i = true)).1 hid
    have hgood : (t.rootFreed && env.rootGarbled) = false := hroot (Nat.succ_pos n)
    refine ends_call (osdRemove_spec pid oid) fun _ u hu => ?_
    rcases hu with ⟨hno, -⟩ | ⟨-, hfiles, hrem⟩
    · exact absurd (h0.symm.trans hno) nofun
    · refine (ih (fun _ => hrem.rootFreed ▸ hgood) hrest).mono fun _ v hv => ?_
      have hfirst : u.files = (t.setFile pid oid none).files := by
        rw [hfiles]
        exact Target.unlinkedFiles_eq_iff.2 (.inr ⟨hgood, henv.unlink pid oid⟩)
      rw [hv, hfirst]
      funext p o
      have hsplit : (∃ k < n + 1, o = oid + UInt64.ofNat k) ↔
          o = oid ∨ ∃ k < n, o = oid + 1 + UInt64.ofNat k := exists_ids_succ
      simp only [Target.setFile_files, hsplit, and_or_left]
      split <;> rename_i h <;> simp [h]

/-- The removals that undo the creation of `m` objects. -/
theorem Target.withObjects_undone (henv : env.Reliable) {m : Nat} {t : Target}
    (hfree : s.FreeIds env pid oid m) (hid : ∀ k < m, isUserobjectId pid (oid + UInt64.ofNat k) = true)
    (hroot : t.rootFreed = s.rootFreed) (hfiles : t.files = (s.withObjects pid oid m).files) :
    Ends (osdRemoveTmpObjects env pid m oid) t (fun _ v => v.files = s.files) := by
  refine (osdRemoveTmpObjects_files henv m (fun hm => ?_) hid).mono fun _ v hv => ?_
  · rw [hroot]
    exact hfree.root hm
  · rw [hv, hfiles]
    funext p o
    show (if _ then _ else if _ then _ else _) = _
    split
    · rename_i hk
      obtain ⟨rfl, k, hk, rfl⟩ := hk
      exact (hfree.file k hk).symm
    · rfl

/-- **The loop makes all its objects or leaves no data file.**  The first `m` of them are made. -/
theorem createLoop_made (henv : env.Reliable) (n : Nat) {m : Nat} (hmn : m + n < 2 ^ 64)
    (hid : ∀ k < m + n, isUserobjectId pid (oid + UInt64.ofNat k) = true)
    (hfree : s.FreeIds env pid oid m) :
    Ends (createLoop env pid oid n (oid + UInt64.ofNat m)) (s.withObjects pid oid m) fun r t =>
      (r = none → t = s.withObjects pid oid (m + n) ∧ s.FreeIds env pid oid (m + n)) ∧
        (r ≠ none → t.files = s.files) := by
  induction n generalizing m with
  | zero => exact ends_pure.2 ⟨fun _ => ⟨rfl, hfree⟩, fun h => absurd rfl h⟩
  | succ n ih =>
    let i := oid + UInt64.ofNat m
    have hundo : ∀ t : Target, t.rootFreed = s.rootFreed → t.files = (s.withObjects pid oid m).files →
        Ends (osdRemoveTmpObjects env pid (i - oid).toNat oid >>= fun _ => pure (some i)) t fun r t =>
          (r = none → t = s.withObjects pid oid (m + (n + 1)) ∧ s.FreeIds env pid oid (m + (n + 1))) ∧
            (r ≠ none → t.files = s.files) := by
      intro t hroot hfiles
      rw [show (i - oid).toNat = m from sub_ofNat_toNat (by omega)]
      exact ends_call (Target.withObjects_undone henv hfree (fun k hk => hid k (by omega)) hroot hfiles)
        fun _ v hv => ends_pure.2 ⟨nofun, fun _ => hv⟩
    refine ends_bind.2 (objInsert_ends (fun hrow => ?_) fun _ => ?_)
    · refine ends_ite_of (fun h => absurd rfl h) fun _ =>
        ends_bind.2 (osdCreateDatafile_ends (fun hroot hnone => ?_) fun e => ?_)
      · -- the file is there: on to the next id
        have hfree' : s.FreeIds env pid oid (m + 1) := by
          refine ⟨fun k hk => ?_, fun k hk => ?_, fun _ => hroot⟩
          · rcases Nat.lt_succ_iff_lt_or_eq.1 hk with hk | rfl
            · exact hfree.row k hk
            · exact fun ⟨r, hr, hkey⟩ => hrow ⟨r, List.mem_append_left _ hr, hkey⟩
          · rcases Nat.lt_succ_iff_lt_or_eq.1 hk with hk | rfl
            · exact hfree.file k hk
            · exact s.files_of_withObjects hnone
        have hnext : i + 1 = oid + UInt64.ofNat (m + 1) := by
          rw [UInt64.ofNat_add, ← UInt64.add_assoc]
          rfl
        have hlen : m + 1 + n = m + (n + 1) := by omega
        refine ends_ite_of (fun h => absurd rfl h) fun _ => ?_
        rw [hnext, ← hlen]
        exact Target.withObjects_succ s pid oid m ▸ ih (by omega) (fun k hk => hid k (by omega)) hfree'
      · exact ends_ite_of (fun _ => ends_bind.2 (objDelete_ends (hundo _ rfl rfl) fun _ => hundo _ rfl rfl))
          fun h => absurd (by simp) h
    · exact ends_ite_of (fun _ => hundo _ rfl rfl) fun h => absurd (by simp) h

/-! ## Ids in range -/

/-- The id of a partition, which is 0, or an object id. -/
def IdInRange (oid : UInt64) : Prop := oid = 0 ∨ OBJECT_OID_LB ≤ oid

/-- All ids are in range, and the cache counts on from an object id unless CREATE COLLECTION has made
it count past 2^64. -/
structure IdsInRange (s : Target) : Prop where
  rows : ∀ r ∈ s.db.obj, ∃ o, r.oid = bindInt64 o ∧ IdInRange o
  cache : s.ic.curPid ≠ 0 → s.ic.nextId = 1 ∨ IdInRange s.ic.nextId

theorem IdsInRange.of_zero (h : IdsInRange s) (hrows : ∀ r ∈ s'.db.obj, r ∈ s.db.obj)
    (hic : s'.ic = s.ic ∨ s'.ic = IdCache.zero) : IdsInRange s' := by
  refine ⟨fun r hr => h.rows r (hrows r hr), fun hp => ?_⟩
  rcases hic with hic | hic
  · rw [hic] at hp ⊢
    exact h.cache hp
  · rw [hic] at hp
    exact absurd rfl hp

/-- An id that is chosen is an object id, or 0, which the partition itself has. -/
theorem IdsInRange.chosen (h : IdsInRange s) (hpid : OBJECT_PID_LB ≤ pid)
    (hpart : s.db.Has (bindInt64 pid) 0) : IdInRange (s.chosen pid OBJECT_OID_LB) := by
  by_cases hc : s.ic.curPid = pid
  · have hcache := h.cache (hc ▸ pid_ne_zero hpid)
    by_cases h1 : s.ic.nextId = 1
    · have hchosen : s.chosen pid OBJECT_OID_LB = OBJECT_OID_LB := by
        simp only [Target.chosen, if_pos hc, if_pos h1]
      exact .inr (UInt64.le_of_eq hchosen.symm)
    · have hchosen : s.chosen pid OBJECT_OID_LB = s.ic.nextId := by
        simp only [Target.chosen, if_pos hc, if_neg h1]
      exact hchosen ▸ hcache.resolve_left h1
  · -- the largest id of the partition, which is not negative because of the partition itself
    obtain ⟨r0, hr0, hp0, ho0⟩ := hpart
    obtain ⟨hle, r, hr, -, hro⟩ := s.db.maxOid_spec hr0
    rw [hp0, ho0] at hle
    rw [hp0] at hro
    obtain ⟨o, ho, hrange⟩ := h.rows r hr
    have hmax : s.db.maxOid (bindInt64 pid) = bindInt64 o := hro.symm.trans ho
    have ho63 : o.toNat < 2 ^ 63 := toNat_lt_of_bindInt64 (hmax ▸ hle)
    have hnext : (o + 1).toNat = o.toNat + 1 := add_ofNat_toNat (k := 1) (by omega)
    have hchosen : s.chosen pid OBJECT_OID_LB = if o + 1 = 1 then OBJECT_OID_LB else o + 1 := by
      simp only [Target.chosen, if_neg hc, hmax, columnInt64_bindInt64]
    rw [hchosen]
    split
    · exact .inr (UInt64.le_refl _)
    · rename_i hne
      have hlb := UInt64.le_iff_toNat_le.1 (hrange.resolve_left fun h0 => hne (by rw [h0]; rfl))
      exact .inr (UInt64.le_iff_toNat_le.2 (by omega))

theorem Target.Picks.unique {requested lb oid' : UInt64} {ic ic' : IdCache}
    (h : s.Picks pid requested lb oid ic) (h' : s.Picks pid requested lb oid' ic') :
    oid = oid' ∧ ic = ic' := by
  rcases h with ⟨h0, rfl, rfl⟩ | ⟨h0, rfl, -, -, rfl⟩
  · rcases h' with ⟨-, rfl, rfl⟩ | ⟨h1, -⟩
    · exact ⟨rfl, rfl⟩
    · exact absurd h0 h1
  · rcases h' with ⟨h1, -⟩ | ⟨-, rfl, -, -, rfl⟩
    · exact absurd h1 h0
    · exact ⟨rfl, rfl⟩

theorem IdsInRange.picked (h : IdsInRange s) {requested : UInt64} {ic : IdCache}
    (hpid : OBJECT_PID_LB ≤ pid) (hpart : s.db.Has (bindInt64 pid) 0)
    (hpick : s.Picks pid requested OBJECT_OID_LB oid ic) : IdInRange oid := by
  rcases hpick with ⟨-, rfl, -⟩ | ⟨-, -, hlb, -⟩
  · exact h.chosen hpid hpart
  · exact .inr hlb

/-- CREATE comes to its loop and starts it at this id. -/
def Target.StartsAt (s : Target) (pid requested : UInt64) (numoid : UInt16) (oid : UInt64) : Prop :=
  USEROBJECT_PID_LB ≤ pid ∧ s.db.Has (bindInt64 pid) 0 ∧ (requested ≠ 0 → atLeastOne numoid = 1) ∧
    ∃ ic, s.Picks pid requested USEROBJECT_OID_LB oid ic

/-- The ids it goes over do not count past 2^64. -/
def Target.Fits (s : Target) (pid requested : UInt64) (numoid : UInt16) : Prop :=
  ∀ oid, s.StartsAt pid requested numoid oid → oid.toNat + (atLeastOne numoid).toNat < 2 ^ 64

/-- Where the first id has a row CREATE stops at once. -/
theorem createFrom_taken {requested : UInt64} {numoid : UInt16}
    (hcount : 0 < createCount oid (atLeastOne numoid)) (hrow : s.db.Has (bindInt64 pid) (bindInt64 oid)) :
    Ends (createFrom env pid requested oid numoid) s fun ret t =>
      ret ≠ .ok ∧ t.db = s.db ∧ t.files = s.files ∧ t.ic = IdCache.zero := by
  obtain ⟨n, hn⟩ := Nat.exists_eq_succ_of_ne_zero (Nat.pos_iff_ne_zero.1 hcount)
  have hzero : (oid - oid).toNat = 0 := by rw [UInt64.sub_self]; rfl
  have hloop : Ends (createLoop env pid oid (createCount oid (atLeastOne numoid)) oid) s fun r t =>
      r ≠ none ∧ t = s := by
    rw [hn]
    refine ends_bind.2 (objInsert_ends (fun hfree => absurd hrow hfree) fun _ => ?_)
    refine ends_ite_of (fun _ => ?_) fun h => absurd (by simp) h
    rw [hzero]
    exact ends_bind.2 (ends_pure.2 (ends_pure.2 ⟨nofun, rfl⟩))
  refine ends_call hloop fun r t ⟨hr, ht⟩ => ?_
  cases r with
  | none => exact absurd rfl hr
  | some i => exact ends_bind.2 (ends_modify.2 (ends_pure.2 ⟨nofun, by rw [ht], by rw [ht], rfl⟩))

theorem createCount_of_fits {numoid : UInt16} (h : oid.toNat + (atLeastOne numoid).toNat < 2 ^ 64) :
    createCount oid (atLeastOne numoid) = (atLeastOne numoid).toNat :=
  createCount_eq (atLeastOne_pos numoid) h

theorem IdsInRange.create (h : IdsInRange s) {requested : UInt64} {numoid : UInt16}
    (hfits : s.Fits pid requested numoid) :
    Ends (osdCreate env pid requested numoid) s fun _ t => IdsInRange t := by
  refine osdCreate_ends (fun ret ic _ hic => h.of_zero (fun _ => id) hic) fun oid ic hpid hpart
    hone hpick => ?_
  have hfit := hfits oid ⟨hpid, hpart, hone, ic, hpick⟩
  rcases h.picked hpid hpart hpick with rfl | hlb
  · refine (createFrom_taken (s := { s with ic }) ?_ hpart).mono fun ret t ⟨_, hdb, _, hic⟩ => ?_
    · rw [createCount_of_fits hfit]
      exact atLeastOne_pos numoid
    · exact h.of_zero (fun r hr => by rwa [hdb] at hr) (.inr hic)
  · have hlow : 65536 ≤ oid.toNat := UInt64.le_iff_toNat_le.1 hlb
    refine (createFrom_spec hpid hpart hone hpick).mono fun ret t ⟨hstep, _⟩ => ?_
    cases hstep with
    | rejected hdb hic => exact h.of_zero (fun r hr => by rwa [hdb] at hr) hic
    | ran oid' ic' _ _ _ hpick' hgrowth hdone =>
      obtain ⟨rfl, rfl⟩ := hpick'.unique hpick
      rw [createCount_of_fits hfit] at hgrowth
      refine ⟨fun r hr => ?_, fun hp => ?_⟩
      · rcases hgrowth.only r hr with hold | ⟨k, hk, rfl, -⟩
        · exact h.rows r hold
        · refine ⟨_, rfl, .inr (UInt64.le_iff_toNat_le.2 ?_)⟩
          rw [add_ofNat_toNat (by omega)]
          exact Nat.le_trans hlow (Nat.le_add_right _ _)
      · rcases hdone with hic | ⟨-, hic⟩
        · rw [hic] at hp
          exact absurd rfl hp
        · rw [hic] at hp ⊢
          rcases hpick with ⟨-, -, rfl⟩ | ⟨-, -, -, -, rfl⟩
          · have hpos := atLeastOne_pos numoid
            refine .inr (.inr (UInt64.le_iff_toNat_le.2 ?_))
            show 65536 ≤ (oid' + 1 + _).toNat
            rw [nextId_toNat hfit]
            omega
          · exact absurd rfl hp

theorem IdsInRange.createAndWrite (h : IdsInRange s) {len offset : UInt64} {data : Mem} {sglist : SgList}
    {ddt : UInt8} (hfits : s.Fits pid oid 1) :
    Ends (osdCreateAndWrite env pid oid len offset data sglist ddt) s fun _ t => IdsInRange t := by
  refine ends_call (h.create hfits) fun ret t ht => ends_ite_of (fun _ => ends_pure.2 ht) fun _ => ?_
  refine ends_call (resp_osdWrite (AttrStep.admitsFile (fun _ _ => False) pid oid) len offset
    data sglist ddt t)
    fun ret v hv => ?_
  have hv' : IdsInRange v := ht.of_zero (fun r hr => by rwa [hv.obj] at hr) (.inl hv.ic)
  refine ends_ite_of (fun _ => ?_) fun _ => ends_pure.2 hv'
  refine ends_call (osdRemove_spec pid oid) fun _ w hw => ends_pure.2 ?_
  rcases hw with ⟨-, rfl⟩ | ⟨-, -, hrem⟩
  · exact hv'
  · exact hv'.of_zero (fun r hr => hrem.obj_subset r hr) (.inr hrem.ic)

theorem IdsInRange.createCollection (h : IdsInRange s) {requested : UInt64} {source : Option UInt64}
    (hs : CollectionStep env pid requested source s s') : IdsInRange s' := by
  cases hs with
  | rejected hdb hic => exact h.of_zero (fun r hr => by rwa [hdb] at hr) hic
  | ran cid hpid hpart hpick hattr hcoll hobj =>
    have hrange := h.picked hpid hpart hpick
    refine ⟨fun r hr => ?_, fun hp => ?_⟩
    · rcases hobj with ⟨-, ho⟩ | ⟨-, ho⟩ <;> rw [ho] at hr
      · rcases List.mem_append.1 hr with hr | hr
        · exact h.rows r hr
        · exact ⟨cid, by rw [List.mem_singleton.1 hr]; rfl, hrange⟩
      · exact h.rows r hr
    · rcases hpick with ⟨-, hcid, hic⟩ | ⟨-, -, -, -, hic⟩
      · rw [hic]
        rcases hrange with h0 | hlb
        · exact .inl (by rw [h0]; rfl)
        · -- the cache may count past 2^64 here
          have hlow : 65536 ≤ cid.toNat := UInt64.le_iff_toNat_le.1 hlb
          have hsum : (cid + 1).toNat = (cid.toNat + 1) % 2 ^ 64 := UInt64.toNat_add cid 1
          by_cases hwrap : cid.toNat + 1 = 2 ^ 64
          · refine .inr (.inl (UInt64.toNat_inj.1 ?_))
            rw [hsum, hwrap]
            rfl
          · refine .inr (.inr (UInt64.le_iff_toNat_le.2 ?_))
            have hlt := cid.toNat_lt
            rw [hsum, Nat.mod_eq_of_lt (by omega)]
            exact Nat.le_trans hlow (Nat.le_succ _)
      · rw [hic] at hp
        exact absurd rfl hp

/-- The commands that create user objects do not count past 2^64. -/
def Op.Fits (s : Target) : Op → Prop
  | .create pid requestedOid numoid => s.Fits pid requestedOid numoid
  | .createAndWrite pid oid .. => s.Fits pid oid 1
  | _ => True

/-- **One command keeps the ids in range.** -/
theorem IdsInRange.step (h : IdsInRange s) {op : Op} (hop : op.Fits s) :
    Ends (op.exec env) s fun _ t => IdsInRange t := by
  have hid : ∀ t, IdStep s t → IdsInRange t := fun t ht =>
    h.of_zero (fun r hr => by rwa [ht.obj] at hr) (.inl ht.ic)
  have hrem : ∀ {p o : Int} {cleared why} {t : Target}, Removes p o cleared why s t → IdsInRange t :=
    fun ht => h.of_zero (fun r hr => ht.obj_subset r hr) (.inr ht.ic)
  cases op with
  | create => exact h.create hop
  | createAndWrite => exact h.createAndWrite hop
  | createCollection => exact (osdCreateCollection_spec _ _).mono fun _ _ => h.createCollection
  | createPartition =>
    refine (osdCreatePartition_spec _).mono fun _ t ht => ?_
    refine ⟨fun r hr => ?_, fun hp => ht.ic ▸ h.cache (ht.ic ▸ hp)⟩
    rcases ht.obj with ho | ⟨-, -, ho⟩ <;> rw [ho] at hr
    · exact h.rows r hr
    · rcases List.mem_append.1 hr with hr | hr
      · exact h.rows r hr
      · exact ⟨0, by rw [List.mem_singleton.1 hr]; rfl, .inl rfl⟩
  | createUserTrackingCollection =>
    exact (osdCreateUserTrackingCollection_spec _ _ _ _).mono fun _ _ => h.createCollection
  | remove pid oid =>
    refine Op.exec_spec (.remove pid oid) |>.mono fun _ t ht => ?_
    rcases ht with rfl | ⟨-, ht⟩
    · exact h
    · exact hrem ht
  | removeCollection pid cid fcr =>
    refine Op.exec_spec (.removeCollection pid cid fcr) |>.mono fun _ t ht => ?_
    rcases ht with rfl | ⟨-, -, -, -, ht⟩
    · exact h
    · exact hrem ht
  | removePartition pid =>
    refine Op.exec_spec (.removePartition pid) |>.mono fun _ t ht => ?_
    rcases ht with rfl | ⟨-, -, -, ht⟩
    · exact h
    · exact hrem ht
  | formatOsd =>
    refine (osdFormatOsd_spec.and osdFormatOsd_tables).mono fun _ t ⟨hic, hdb⟩ => ?_
    rcases hdb with hdb | ⟨hrows, -⟩
    · exact h.of_zero (fun r hr => by rwa [hdb] at hr) (hic.elim .inr fun hic => .inl hic.2)
    · refine ⟨fun r hr => ⟨0, by rw [hrows r hr]; rfl, .inl rfl⟩, fun hp => ?_⟩
      rcases hic with hic | ⟨-, hic⟩
      · rw [hic] at hp
        exact absurd rfl hp
      · rw [hic] at hp ⊢
        exact h.cache hp
  | _ => exact (Op.exec_spec _).mono fun _ t ht => hid t ht.toIdStep

/-! ## CREATE -/

/-- No attributes or memberships are left of earlier objects with the ids CREATE goes over. -/
def Target.Unused (s : Target) (pid requested : UInt64) (numoid : UInt16) : Prop :=
  ∀ oid, s.StartsAt pid requested numoid oid →
    (∀ r ∈ s.db.attr, ¬ IdRange pid oid (atLeastOne numoid).toNat r.pid r.oid) ∧
      ∀ r ∈ s.db.coll, ¬ IdRange pid oid (atLeastOne numoid).toNat r.pid r.oid

/-- What CREATE is specified to do.  Either `n` user objects are new: their ids count on from `oid`, which
is the requested id if there is one, up to the id of the current-command attributes, nothing belonged
to these ids before, and each has an empty data file now.  Or all objects are as they were, and there
are no others and no other data files. -/
structure CreatesObjects (s : Target) (pid requested : UInt64) (numoid : UInt16) (ret : Ret) (s' : Target) :
    Prop where
  created : ret = .ok → ∃ oid n, n = (atLeastOne numoid).toNat ∧
    getCreatedOid s'.ccap (atLeastOne numoid).toUInt32 = oid ∧ s'.ccap.oid.toNat + 1 = oid.toNat + n ∧
    (requested ≠ 0 → oid = requested ∧ s'.ccap.oid = requested) ∧
    s.db.Lacks (IdRange pid oid n) ∧
    s'.db = (s.withObjects pid oid n).db ∧ s'.files = (s.withObjects pid oid n).files
  refused : ret ≠ .ok → s'.db.obj = s.db.obj ∧ s'.files = s.files ∧ Beside (fun p o => ¬ s.db.Has p o) s s'

/-- The object table is as it was if its old rows are and there are no others. -/
theorem Beside.obj_eq (h : Beside (fun p o => ¬ s.db.Has p o) s s') (hold : ∀ r ∈ s'.db.obj, r ∈ s.db.obj) :
    s'.db.obj = s.db.obj := by
  have hfilter := h.obj (fun r => decide (s.db.Has r.pid r.oid)) fun r hr => decide_eq_false hr
  have hall : ∀ l : List ObjRow, (∀ r ∈ l, r ∈ s.db.obj) →
      l.filter (fun r => decide (s.db.Has r.pid r.oid)) = l :=
    fun l hl => List.filter_eq_self.2 fun r hr => decide_eq_true ⟨r, hl r hr, rfl, rfl⟩
  rwa [hall _ hold, hall _ fun _ => id] at hfilter

theorem createFrom_specified (henv : env.Reliable) {requested : UInt64} {numoid : UInt16} (ic : IdCache)
    (hpid : USEROBJECT_PID_LB ≤ pid) (hoid : USEROBJECT_OID_LB ≤ oid)
    (hfit : oid.toNat + (atLeastOne numoid).toNat < 2 ^ 64)
    (hreq : requested ≠ 0 → oid = requested ∧ atLeastOne numoid = 1)
    (hattr : ∀ r ∈ s.db.attr, ¬ IdRange pid oid (atLeastOne numoid).toNat r.pid r.oid)
    (hcoll : ∀ r ∈ s.db.coll, ¬ IdRange pid oid (atLeastOne numoid).toNat r.pid r.oid) :
    Ends (createFrom env pid requested oid numoid) { s with ic }
      (CreatesObjects s pid requested numoid) := by
  have hpos := atLeastOne_pos numoid
  have hcount := createCount_of_fits hfit
  have hsmall : 0 + createCount oid (atLeastOne numoid) < 2 ^ 64 := by omega
  have hid : ∀ k < 0 + createCount oid (atLeastOne numoid),
      isUserobjectId pid (oid + UInt64.ofNat k) = true :=
    fun k hk => isUserobjectId_range hpid hoid (by rwa [Nat.zero_add] at hk)
  let t : Target := { s with ic }
  have hz := created_zero pid oid t
  have hfree : t.FreeIds env pid oid 0 :=
    ⟨fun _ hk => absurd hk (Nat.not_lt_zero _), fun _ hk => absurd hk (Nat.not_lt_zero _), fun h =>
      absurd h (by decide)⟩
  have hmade := createLoop_made henv _ hsmall hid hfree
  rw [t.withObjects_zero] at hmade
  have hbeside : Ends (createLoop env pid oid (createCount oid (atLeastOne numoid))
      (oid + UInt64.ofNat 0)) t
      (fun _ v => Beside (fun p o => ¬ s.db.Has p o) t v) :=
    createLoop_stays (fun _ hi => Beside.admitsObject hi) _ hz hsmall
  have hloop := hmade.and ((createLoop_undone henv.deletes _ hz hsmall hid).and hbeside)
  rw [show UInt64.ofNat 0 = 0 from rfl, UInt64.add_zero, Nat.zero_add] at hloop
  refine ends_call hloop fun r v ⟨⟨hdone, hfiles⟩, hundone, hbes⟩ => ?_
  have hbes' : Beside (fun p o => ¬ s.db.Has p o) s v := Beside.trans s t v (Beside.of_eq rfl rfl) hbes
  cases r with
  | some i =>
    refine ends_bind.2 (ends_modify.2 (ends_pure.2 ⟨nofun, fun _ => ⟨?_, hfiles nofun, { hbes' with }⟩⟩))
    exact hbes'.obj_eq (hundone nofun)
  | none =>
    obtain ⟨hv, hids⟩ := hdone rfl
    rw [hcount] at hv hids
    subst hv
    refine ends_bind.2 (ends_modify.2 (ends_bind.2 (ends_modify.2 (ends_pure.2
      ⟨fun _ => ⟨oid, _, rfl, getCreatedOid_fillCcap hpos, ?_, fun h0 => ?_, ⟨fun r hr => ?_, hattr, hcoll⟩,
        rfl, rfl⟩, fun h => absurd rfl h⟩))))
    · have hsum : (oid + (atLeastOne numoid).toUInt64).toNat = oid.toNat + (atLeastOne numoid).toNat := by
        rw [UInt64.toNat_add, UInt16.toNat_toUInt64, Nat.mod_eq_of_lt hfit]
      have hge : 1 ≤ oid + (atLeastOne numoid).toUInt64 :=
        UInt64.le_iff_toNat_le.2 (by rw [hsum]; exact Nat.le_trans hpos (Nat.le_add_left _ _))
      show (oid + (atLeastOne numoid).toUInt64 - 1).toNat + 1 = _
      rw [UInt64.toNat_sub_of_le _ _ hge, hsum]
      exact Nat.sub_add_cancel (Nat.le_trans hpos (Nat.le_add_left _ _))
    · obtain ⟨rfl, hone⟩ := hreq h0
      refine ⟨rfl, ?_⟩
      show oid + (atLeastOne numoid).toUInt64 - 1 = oid
      rw [hone]
      exact UInt64.add_sub_cancel oid 1
    · rintro ⟨k, hk, hp, ho⟩
      exact hids.row k hk ⟨r, hr, hp, ho⟩

/-- The runs in which ids do not count past 2^64. -/
def FittingRun (i : Step) (s _ : Target) : Prop := i.op.Fits s

theorem Reachable.idsInRange (h : Reachable FittingRun s) : IdsInRange s := by
  refine h.invariant (fun s hs => ⟨fun r hr => ?_, fun hp => ?_⟩) fun env op s hi ret t hrun hop =>
    hi.step hop ret t hrun
  · rw [hs.initial.obj] at hr
    exact ⟨0, by rw [List.mem_singleton.1 hr]; rfl, .inl rfl⟩
  · rw [hs.initial.ic] at hp
    exact absurd rfl hp

/-- **`osd_create` meets its specification** in every state of a run in which ids do not count past
2^64. -/
theorem osdCreate_specified (h : Reachable FittingRun s) (henv : env.Reliable) {requested : UInt64}
    {numoid : UInt16} (hfits : s.Fits pid requested numoid) (hunused : s.Unused pid requested numoid) :
    ∃ ret s', osdCreate env pid requested numoid s = some (ret, s') ∧
      CreatesObjects s pid requested numoid ret s' := by
  refine Ends.of_halts (osdCreate_ends (fun ret ic hno _ => ?_) fun oid ic hpid hpart hone hpick => ?_)
    (halts_osdCreate numoid)
  · exact ⟨fun h => absurd h hno, fun _ => ⟨rfl, rfl, Beside.of_eq rfl rfl⟩⟩
  have hstart : s.StartsAt pid requested numoid oid := ⟨hpid, hpart, hone, ic, hpick⟩
  have hfit := hfits oid hstart
  rcases h.idsInRange.picked hpid hpart hpick with rfl | hoid
  · refine (createFrom_taken (s := { s with ic }) ?_ hpart).mono fun ret t ⟨hno, hdb, hfiles, _⟩ => ?_
    · rw [createCount_of_fits hfit]
      exact atLeastOne_pos numoid
    · exact ⟨fun h => absurd h hno, fun _ => ⟨by rw [hdb], hfiles, Beside.of_eq hdb hfiles⟩⟩
  · obtain ⟨hattr, hcoll⟩ := hunused oid hstart
    refine createFrom_specified henv ic hpid hoid hfit (fun h0 => ⟨?_, hone h0⟩) hattr hcoll
    rcases hpick with ⟨h1, -⟩ | ⟨-, rfl, -⟩
    · exact absurd h1 h0
    · rfl

/-- A device with an empty partition. -/
def emptyPartition : Target := calmRun [.createPartition 0]

theorem emptyPartition_reachable : Reachable FittingRun emptyPartition :=
  .calmRun ⟨by decide +kernel, trivial, trivial⟩

/-- Three objects in an empty partition. -/
theorem osdCreate_specified_three : ∃ ret s', osdCreate Env.calm 0x10000 0 3 emptyPartition =
    some (ret, s') ∧
    CreatesObjects emptyPartition 0x10000 0 3 ret s' := by
  have hchosen : emptyPartition.chosen 0x10000 USEROBJECT_OID_LB = 0x10000 := by decide +kernel
  have hfirst : ∀ oid, emptyPartition.StartsAt 0x10000 0 3 oid → oid = 0x10000 := by
    intro oid h
    obtain ⟨ic, hpick⟩ := h.2.2.2
    rcases hpick with hpick | hpick
    · exact hpick.2.1.trans hchosen
    · exact absurd rfl hpick.1
  refine osdCreate_specified emptyPartition_reachable Env.calm_reliable (fun oid hoid => ?_)
    fun oid _ => ⟨?_, ?_⟩
  · rw [hfirst oid hoid]
    decide
  · have hpid : ∀ r ∈ emptyPartition.db.attr, r.pid ≠ bindInt64 0x10000 := by decide +kernel
    exact fun r hr ⟨_, _, hp, _⟩ => hpid r hr hp
  · have hpid : ∀ r ∈ emptyPartition.db.coll, r.pid ≠ bindInt64 0x10000 := by decide +kernel
    exact fun r hr ⟨_, _, hp, _⟩ => hpid r hr hp

/-- CREATE accepts the largest id and creates nothing. -/
theorem osdCreate_unspecified : Reachable (fun _ _ _ => True) emptyPartition ∧
    emptyPartition.db.HasType 0x10000 0 .partition ∧
    ¬ ∃ ret s', osdCreate Env.calm 0x10000 0xffffffffffffffff 1 emptyPartition = some (ret, s') ∧
      CreatesObjects emptyPartition 0x10000 0xffffffffffffffff 1 ret s' := by
  refine ⟨emptyPartition_reachable.weaken fun _ _ _ _ => trivial, by decide +kernel, ?_⟩
  rintro ⟨ret, s', hrun, h⟩
  have hnone : (osdCreate Env.calm 0x10000 0xffffffffffffffff 1 emptyPartition).map
      (fun x => (x.1, x.2.db.obj.length)) = some (.ok, emptyPartition.db.obj.length) := by decide +kernel
  rw [hrun] at hnone
  obtain ⟨hret, hlen⟩ := Prod.mk.inj (Option.some.inj hnone)
  obtain ⟨oid, n, hn, -, -, -, -, hdb, -⟩ := h.created hret
  have hmore : s'.db.obj.length = emptyPartition.db.obj.length + n := by
    rw [hdb]
    simp [Target.withObjects]
  have hone : n = 1 := hn
  have hsame : s'.db.obj.length = emptyPartition.db.obj.length := hlen
  omega

end OsdTarget
