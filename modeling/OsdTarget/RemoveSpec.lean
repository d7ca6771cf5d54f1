import OsdTarget.AttributeSpec

/-!
# Specifications of the remove commands

What each command that takes from the object table can do to the tables, the data files and the id
cache, on every path.  The three of them share one shape, `Removes`.
-/

namespace OsdTarget

open Base

variable {env : Env} {s s' : Target}

@[simp] theorem bindInt64_PARTITION_OID : bindInt64 PARTITION_OID = 0 := rfl

/-! ## Removing -/

/-- A remove command ran: the cache is invalid, attributes and memberships only went, and either the
object row stayed for the reason `why`, or it went with all its attributes and all memberships in
`cleared`. -/
structure Removes (pid oid : Int) (cleared : CollRow → Prop) (why : Prop) (s s' : Target) : Prop where
  ic : s'.ic = IdCache.zero
  attr : ∀ r ∈ s'.db.attr, r ∈ s.db.attr
  coll : ∀ r ∈ s'.db.coll, r ∈ s.db.coll
  rootFreed : s'.rootFreed = s.rootFreed
  obj : why ∧ s'.db.obj = s.db.obj ∨
    s'.db.obj = deleteWhere (fun r => r.pid = pid ∧ r.oid = oid) s.db.obj ∧
      (∀ r ∈ s'.db.attr, ¬ (r.pid = pid ∧ r.oid = oid)) ∧ ∀ r ∈ s'.db.coll, ¬ cleared r

theorem Removes.obj_subset {p o : Int} {cleared : CollRow → Prop} {why : Prop}
    (h : Removes p o cleared why s s') :
    ∀ r ∈ s'.db.obj, r ∈ s.db.obj := by
  intro r hr
  rcases h.obj with ⟨-, ho⟩ | ⟨ho, -⟩ <;> rw [ho] at hr
  · exact hr
  · exact (mem_deleteWhere.1 hr).1

/-- A DELETE statement fails somewhere. -/
def Env.SomeDeleteFails (env : Env) : Prop := ∃ d pid oid,
  env.dmsFails (.attrDeleteAll pid oid) d = true ∨ env.dmsFails (.collDeleteOid pid oid) d = true ∨
    env.dmsFails (.objDelete pid oid) d = true

/-- The data files after `unlink` of one. -/
def Target.unlinkedFiles (env : Env) (s : Target) (pid oid : UInt64) :
    UInt64 → UInt64 → Option (List UInt8) :=
  if (s.rootFreed && env.rootGarbled) || env.sysFails (.unlink pid oid) then s.files
  else (s.setFile pid oid none).files

theorem unlinkFile_ends {pid oid : UInt64} {Q : Bool → Target → Prop}
    (h : ∀ b t, t.db = s.db → t.ic = s.ic → t.rootFreed = s.rootFreed →
      t.files = s.unlinkedFiles env pid oid → Q b t) : Ends (unlinkFile env pid oid) s Q := by
  refine ends_bind.2 (ends_get.2 (ends_ite_of (fun hc => ends_pure.2 (h _ _ rfl rfl rfl ?_))
    fun hc => ends_bind.2 (ends_set.2 (ends_pure.2 (h _ _ rfl rfl rfl ?_)))))
  · unfold Target.unlinkedFiles
    split
    · rfl
    · -- nothing to unlink: the file was not there
      rename_i hg
      have hnone : s.files pid oid = none := by
        simp only [Target.lookup] at hc
        simp only [Bool.or_eq_true, not_or] at hg
        simpa [hg.1, hg.2] using hc
      funext p o
      by_cases hp : p = pid ∧ o = oid
      · simp [Target.setFile, hp, hnone]
      · simp [Target.setFile, hp]
  · have hg : ¬ ((s.rootFreed && env.rootGarbled) || env.sysFails (.unlink pid oid)) = true := by
      simp only [Target.lookup] at hc
      intro hg
      rcases Bool.or_eq_true _ _ ▸ hg with h1 | h1 <;> simp [h1] at hc
    rw [Target.unlinkedFiles, if_neg hg]

/-- **`osd_remove`.** -/
theorem osdRemove_spec (pid oid : UInt64) :
    Ends (osdRemove env pid oid) s (fun _ s' => isUserobjectId pid oid = false ∧ s' = s ∨
      isUserobjectId pid oid = true ∧ s'.files = s.unlinkedFiles env pid oid ∧
      Removes (bindInt64 pid) (bindInt64 oid) (fun r => r.pid = bindInt64 pid ∧ r.oid = bindInt64 oid)
        env.SomeDeleteFails s s') := by
  refine ends_ite_of (fun h => ends_pure.2 (.inl ⟨by simpa using h, rfl⟩)) fun h => ?_
  have hid : isUserobjectId pid oid = true := by simpa using h
  refine ends_bind.2 (ends_modify.2 (ends_bind.2 (unlinkFile_ends fun _ t hdb hic hr hf => ?_)))
  have hf' : t.files = s.unlinkedFiles env pid oid := hf
  have hstop : ∀ t', t'.ic = t.ic → t'.files = t.files → t'.rootFreed = t.rootFreed →
      t'.db.obj = t.db.obj → (∀ r ∈ t'.db.attr, r ∈ t.db.attr) → (∀ r ∈ t'.db.coll, r ∈ t.db.coll) →
      env.SomeDeleteFails → isUserobjectId pid oid = true ∧ t'.files = s.unlinkedFiles env pid oid ∧
      Removes (bindInt64 pid) (bindInt64 oid) (fun r => r.pid = bindInt64 pid ∧ r.oid = bindInt64 oid)
        env.SomeDeleteFails s t' := by
    intro t' h1 h2 h3 h4 h5 h6 hfail
    rw [hdb] at h4 h5 h6
    exact ⟨hid, h2.trans hf', h1.trans hic, h5, h6, h3.trans hr, .inl ⟨hfail, h4⟩⟩
  refine ends_bind.2 (attrDeleteAll_ends ?_ fun hfail => ?_)
  · refine ends_ite_of (fun h => absurd rfl h) fun _ => ends_bind.2 (collDeleteOid_ends ?_ fun hfail => ?_)
    · refine ends_ite_of (fun h => absurd rfl h) fun _ => ends_bind.2 (objDelete_ends ?_ fun hfail => ?_)
      · refine ends_ite_of (fun h => absurd rfl h) fun _ => ends_bind.2 (ends_modify.2 (ends_pure.2 ?_))
        refine .inr ⟨hid, hf', hic, ?_, ?_, hr, .inr ⟨?_, ?_, ?_⟩⟩
        · intro r hr
          exact hdb ▸ (mem_deleteWhere.1 hr).1
        · intro r hr
          exact hdb ▸ (mem_deleteWhere.1 hr).1
        · exact hdb ▸ rfl
        · intro r hr
          exact (mem_deleteWhere.1 hr).2
        · intro r hr
          exact (mem_deleteWhere.1 hr).2
      · exact ends_ite_of (fun _ => ends_pure.2 (.inr (hstop _ rfl rfl rfl rfl
          (fun r hr => (mem_deleteWhere.1 hr).1) (fun r hr => (mem_deleteWhere.1 hr).1)
          ⟨_, _, _, .inr (.inr hfail)⟩))) (fun h => absurd (by simp) h)
    · exact ends_ite_of (fun _ => ends_pure.2 (.inr (hstop _ rfl rfl rfl rfl
        (fun r hr => (mem_deleteWhere.1 hr).1) (fun r hr => hr)
        ⟨_, _, _, .inr (.inl hfail)⟩))) (fun h => absurd (by simp) h)
  · exact ends_ite_of (fun _ => ends_pure.2 (.inr (hstop _ rfl rfl rfl rfl
      (fun r hr => hr) (fun r hr => hr) ⟨_, _, _, .inl hfail⟩))) (fun h => absurd (by simp) h)

/-- The deletions that end both other remove commands. -/
theorem deleteObject_spec {pid oid : UInt64} {fail : Ret} {c : Ccap} {cleared : CollRow → Prop}
    (hcleared : ∀ r ∈ s.db.coll, ¬ cleared r) :
    Ends (attrDeleteAll env pid oid >>= fun ret => if ret ≠ .ok then pure fail else
        objDelete env pid oid >>= fun ret => if ret ≠ .ok then pure fail else
          setCcap c >>= fun _ => pure Ret.ok) s
      (fun _ s' => s'.files = s.files ∧ (s.ic = IdCache.zero →
        Removes (bindInt64 pid) (bindInt64 oid) cleared True s s')) := by
  refine ends_bind.2 (attrDeleteAll_ends ?_ fun _ => ?_)
  · refine ends_ite_of (fun h => absurd rfl h) fun _ => ends_bind.2 (objDelete_ends ?_ fun _ => ?_)
    · refine ends_ite_of (fun h => absurd rfl h) fun _ => ends_bind.2 (ends_modify.2 (ends_pure.2 ?_))
      refine ⟨rfl, fun hic => ⟨hic, ?_, fun _ => id, rfl, .inr ⟨rfl, ?_, hcleared⟩⟩⟩
      · intro r hr
        exact (mem_deleteWhere.1 hr).1
      · intro r hr
        exact (mem_deleteWhere.1 hr).2
    · refine ends_ite_of (fun _ => ends_pure.2 ⟨rfl, fun hic => ⟨hic, ?_, fun _ => id, rfl,
        .inl ⟨trivial, rfl⟩⟩⟩) (fun h => absurd (by simp) h)
      intro r hr
      exact (mem_deleteWhere.1 hr).1
  · exact ends_ite_of (fun _ => ends_pure.2 ⟨rfl, fun hic => ⟨hic, fun _ => id, fun _ => id, rfl,
      .inl ⟨trivial, rfl⟩⟩⟩) (fun h => absurd (by simp) h)

/-- The row of a collection goes unless the collection has members and `fcr` is 0. -/
def RemovableCollection (d : Db) (pid cid : UInt64) (fcr : UInt8) : Prop :=
  fcr = 0 → ¬ d.HasMembers (bindInt64 pid) (bindInt64 cid)

/-- What REMOVE COLLECTION can do. -/
def RemovesCollection (pid cid : UInt64) (fcr : UInt8) (s s' : Target) : Prop :=
  s' = s ∨ COLLECTION_PID_LB ≤ pid ∧ COLLECTION_OID_LB ≤ cid ∧
    (s'.db.obj = s.db.obj ∨ RemovableCollection s.db pid cid fcr) ∧ s'.files = s.files ∧
    Removes (bindInt64 pid) (bindInt64 cid) (fun r => r.pid = bindInt64 pid ∧ r.cid = bindInt64 cid)
      True s s'

/-- **`osd_remove_collection`.** -/
theorem osdRemoveCollection_spec (pid cid : UInt64) (fcr : UInt8) :
    Ends (osdRemoveCollection env pid cid fcr) s (fun _ s' => RemovesCollection pid cid fcr s s') := by
  refine ends_ite_of (fun _ => ends_pure.2 (.inl rfl)) fun hpid =>
    ends_ite_of (fun _ => ends_pure.2 (.inl rfl)) fun hcid => ?_
  refine ends_bind.2 (objIspresent_ends ?_ (ends_ite_of (fun _ => ends_pure.2 (.inl rfl))
    fun h => absurd (.inl (by simp)) h))
  refine ends_ite_of (fun _ => ends_pure.2 (.inl rfl)) fun _ => ?_
  have hlb : COLLECTION_PID_LB ≤ pid := UInt64.not_lt.1 fun h => hpid (.inr h)
  have hlc : COLLECTION_OID_LB ≤ cid := UInt64.not_lt.1 hcid
  refine ends_bind.2 (ends_modify.2 ?_)
  let t : Target := { s with ic := IdCache.zero }
  have hkeep : ∀ e : Ret, Ends (pure e : OsdM Ret) t (fun _ s' => RemovesCollection pid cid fcr s s') :=
    fun _ => ends_pure.2 (.inr ⟨hlb, hlc, .inl rfl, rfl, rfl, fun _ => id, fun _ => id, rfl,
      .inl ⟨trivial, rfl⟩⟩)
  refine ends_bind.2 (dbExecQuery_ends (fun _ => ?_) fun _ =>
    ends_ite_of (fun _ => hkeep _) (fun h => absurd (by simp) h))
  refine ends_ite_of (fun h => absurd rfl h) fun _ => ends_ite_of (fun _ =>
    ends_ite_of (fun _ => hkeep _) fun hfcr => ?_) fun hempty => ?_
  · refine ends_bind.2 (collDeleteCid_ends ?_ fun _ =>
      ends_ite_of (fun _ => hkeep _) (fun h => absurd (by simp) h))
    refine ends_ite_of (fun h => absurd rfl h) fun _ => ?_
    let t' := t.setColl
      (deleteWhere (fun r => r.pid = bindInt64 pid ∧ r.cid = bindInt64 cid) t.db.coll)
    have hcl : ∀ r ∈ t'.db.coll, ¬ (r.pid = bindInt64 pid ∧ r.cid = bindInt64 cid) := by
      intro r hr
      exact (mem_deleteWhere.1 hr).2
    refine (deleteObject_spec (s := t') hcl).mono ?_
    rintro _ s' ⟨hf, h⟩
    obtain ⟨hic, ha, hc, hr, ho⟩ := h rfl
    exact .inr ⟨hlb, hlc, .inr fun h0 => absurd h0 hfcr, hf, hic, ha,
      fun r h => (mem_deleteWhere.1 (hc r h)).1, hr, ho⟩
  · have hcl : ∀ r ∈ t.db.coll, ¬ (r.pid = bindInt64 pid ∧ r.cid = bindInt64 cid) := by
      intro r hr hk
      simp only [Bool.not_eq_true', decide_eq_false_iff_not, not_not] at hempty
      exact hempty ⟨r, hr, hk⟩
    refine (deleteObject_spec hcl).mono ?_
    rintro _ s' ⟨hf, h⟩
    obtain ⟨hic, ha, hc, hr, ho⟩ := h rfl
    have hnone : ¬ s.db.HasMembers (bindInt64 pid) (bindInt64 cid) := fun ⟨r, hr, hk⟩ => hcl r hr hk
    exact .inr ⟨hlb, hlc, .inr fun _ => hnone, hf, hic, ha, hc, hr, ho⟩

/-- What REMOVE PARTITION can do. -/
def RemovesPartition (pid : UInt64) (s s' : Target) : Prop :=
  s' = s ∨ pid ≠ 0 ∧ ¬ s.db.Holds (bindInt64 pid) ∧ s'.files = s.files ∧
    Removes (bindInt64 pid) 0 (fun _ => False) True s s'

/-- **`osd_remove_partition`.** -/
theorem osdRemovePartition_spec (pid : UInt64) :
    Ends (osdRemovePartition env pid) s (fun _ s' => RemovesPartition pid s s') := by
  refine ends_ite_of (fun _ => ends_pure.2 (.inl rfl)) fun hpid => ?_
  refine ends_bind.2 (dbExecQuery_ends (fun _ => ?_) fun _ =>
    ends_ite_of (fun _ => ends_pure.2 (.inl rfl)) fun h => absurd (.inl (by simp)) h)
  refine ends_ite_of (fun _ => ends_pure.2 (.inl rfl)) fun hempty => ends_bind.2 (ends_modify.2 ?_)
  let t : Target := { s with ic := IdCache.zero }
  have hcl : ∀ r ∈ t.db.coll, ¬ False := fun _ _ h => h
  refine (deleteObject_spec (s := t) hcl).mono ?_
  rintro _ s' ⟨hf, h⟩
  obtain ⟨hic, ha, hc, hr, ho⟩ := h rfl
  refine .inr ⟨hpid, by simpa using hempty, hf, hic, ha, hc, hr, ho⟩

/-! ## Data files -/

/-- The root path is the device's own, and a user object has a data file and nothing else has. -/
structure Target.FilesAgree (s : Target) : Prop where
  rootFreed : s.rootFreed = false
  agree : ∀ p o, (s.files p o).isSome ↔ s.db.HasType (bindInt64 p) (bindInt64 o) .userobject

/-- DELETE statements are carried out and existing files are unlinked. -/
structure Env.Reliable (env : Env) : Prop where
  deletes : ¬ env.SomeDeleteFails
  unlink : ∀ pid oid, env.sysFails (.unlink pid oid) = false

theorem Target.setFile_files (s : Target) (pid oid : UInt64) (c : Option (List UInt8)) (p o : UInt64) :
    (s.setFile pid oid c).files p o = if p = pid ∧ o = oid then c else s.files p o := rfl

/-- REMOVE keeps the agreement whatever the type of what it removes: a file goes with any row. -/
theorem osdRemove_agrees (henv : env.Reliable) (hs : s.FilesAgree) (pid oid : UInt64) :
    Ends (osdRemove env pid oid) s (fun _ s' => s'.FilesAgree) := by
  refine (osdRemove_spec pid oid).mono fun _ s' h => ?_
  rcases h with ⟨-, rfl⟩ | ⟨-, hf, h⟩
  · exact hs
  obtain ⟨hwhy, -⟩ | ⟨ho, -, -⟩ := h.obj
  · exact absurd hwhy henv.deletes
  refine ⟨h.rootFreed.trans hs.rootFreed, fun p o => ?_⟩
  have hfiles : s'.files p o = if p = pid ∧ o = oid then none else s.files p o := by
    rw [hf, Target.unlinkedFiles, hs.rootFreed, henv.unlink, Bool.false_and, Bool.false_or,
      if_neg (by simp),
      Target.setFile_files]
  have htype : s'.db.HasType (bindInt64 p) (bindInt64 o) .userobject ↔
      s.db.HasType (bindInt64 p) (bindInt64 o) .userobject ∧ ¬ (p = pid ∧ o = oid) := by
    rw [Db.HasType, ho, mem_deleteWhere, bindInt64_inj, bindInt64_inj]
    exact Iff.rfl
  rw [hfiles, htype, ← hs.agree]
  split
  · rename_i h
    simp [h]
  · rename_i h
    simp [h]

/-! ## Rolling back -/

/-- Whatever each of its removals keeps, `osd_remove_tmp_objects` keeps. -/
theorem osdRemoveTmpObjects_invariant {P : Target → Prop} {pid : UInt64} (n : Nat) (j : UInt64)
    (hstep : ∀ k < n, ∀ t, P t → Ends (osdRemove env pid (j + UInt64.ofNat k)) t (fun _ t' => P t'))
    (hs : P s) : Ends (osdRemoveTmpObjects env pid n j) s (fun _ s' => P s') := by
  induction n generalizing j s with
  | zero => exact ends_pure.2 hs
  | succ n ih =>
    obtain ⟨h0, hrest⟩ := (forall_ids_succ
      (P := fun i => ∀ t, P t → Ends (osdRemove env pid i) t (fun _ t' => P t'))).1 hstep
    exact ends_call (h0 s hs) fun _ t ht => ih (j + 1) hrest ht

end OsdTarget
