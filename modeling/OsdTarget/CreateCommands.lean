import OsdTarget.Rollback

/-!
# Creating with attributes

The three commands that create something and then set and get attributes of it.  When one of these
fails `cdb_create` takes all its objects away again.  The undo of the other two is the same REMOVE of
user objects: it always refuses a partition, and it leaves no trace of a collection under conditions.
-/

namespace OsdTarget

open Base

variable {env : Env} {s s' : Target} {pid oid : UInt64}

/-! ## Attributes of some ids -/

theorem Beside.admitsAttributes {K : Int → Int → Prop} (hK : K (bindInt64 pid) (bindInt64 oid)) :
    AdmitsAttributes (Beside K) pid oid where
  row _ _ _ := Beside.admits hK
  delete _ _ := Beside.admitsDelete hK
  file := Beside.admitsFile hK
  point s cid number t h := by
    simp only [insertColl, Option.ite_none_left_eq_some, Option.some.injEq] at h
    obtain ⟨-, rfl⟩ := h
    refine { Beside.of_eq (s := s) rfl rfl with coll := fun p hp => ?_ }
    refine filter_insertReplace fun x hx => hp x ?_
    simp only [CollRow.pointer, Prod.mk.injEq] at hx
    rw [hx.1, hx.2.1]
    exact hK
  unpoint s cid := by
    refine { Beside.of_eq (s := s) rfl rfl with coll := fun p hp => ?_ }
    exact filter_deleteWhere fun x hx => hp x (hx.1 ▸ hx.2.2 ▸ hK)

/-- Rows outside `K` neither come nor go. -/
theorem Beside.mem_obj {K : Int → Int → Prop} (h : Beside K s s') {r : ObjRow} (hk : ¬ K r.pid r.oid) :
    r ∈ s'.db.obj ↔ r ∈ s.db.obj := by
  have hf := h.obj (fun x => decide (x = r)) fun x hx => decide_eq_false fun he => hk (he ▸ hx)
  have hmem := congrArg (r ∈ ·) hf
  simpa using hmem

theorem Beside.mem_attr {K : Int → Int → Prop} (h : Beside K s s') {r : AttrRow} (hk : ¬ K r.pid r.oid) :
    r ∈ s'.db.attr ↔ r ∈ s.db.attr := by
  have hf := h.attr (fun x => decide (x = r)) fun x hx => decide_eq_false fun he => hk (he ▸ hx)
  have hmem := congrArg (r ∈ ·) hf
  simpa using hmem

theorem Beside.mem_coll {K : Int → Int → Prop} (h : Beside K s s') {r : CollRow} (hk : ¬ K r.pid r.oid) :
    r ∈ s'.db.coll ↔ r ∈ s.db.coll := by
  have hf := h.coll (fun x => decide (x = r)) fun x hx => decide_eq_false fun he => hk (he ▸ hx)
  have hmem := congrArg (r ∈ ·) hf
  simpa using hmem

/-! ## CREATE -/

/-- Every object is as it was, and there is nothing new. -/
structure Restored (s s' : Target) : Prop where
  obj : s'.db.obj = s.db.obj
  attrs : ∀ p o, s.db.Has p o → s'.db.attrsAt p o = s.db.attrsAt p o
  colls : ∀ p o, s.db.Has p o → s'.db.collsAt p o = s.db.collsAt p o
  files : ∀ p o, s.db.Has (bindInt64 p) (bindInt64 o) → s'.files p o = s.files p o
  attrs_old : ∀ r ∈ s'.db.attr, r ∈ s.db.attr
  colls_old : ∀ r ∈ s'.db.coll, r ∈ s.db.coll

/-- Only ids that were free may have been worked on, and nothing of them is left. -/
theorem Restored.of_beside (h : Beside (fun p o => ¬ s.db.Has p o) s s')
    (hobj : ∀ r ∈ s'.db.obj, r ∈ s.db.obj)
    (hattr : ∀ r ∈ s'.db.attr, r ∈ s.db.attr) (hcoll : ∀ r ∈ s'.db.coll, r ∈ s.db.coll) :
    Restored s s' where
  obj := by
    let p (r : ObjRow) : Bool := decide (s.db.Has r.pid r.oid)
    have hself : ∀ l : List ObjRow, (∀ r ∈ l, r ∈ s.db.obj) → l.filter p = l := fun l hl =>
      List.filter_eq_self.2 fun r hr => decide_eq_true ⟨r, hl r hr, rfl, rfl⟩
    calc s'.db.obj = s'.db.obj.filter p := (hself _ hobj).symm
      _ = s.db.obj.filter p := h.obj p fun r hr => decide_eq_false hr
      _ = s.db.obj := hself _ fun _ => id
  attrs p o hp := h.attrsAt fun hn => hn hp
  colls p o hp := h.collsAt fun hn => hn hp
  files p o hp := h.files p o fun hn => hn hp
  attrs_old := hattr
  colls_old := hcoll

theorem Restored.refl (s : Target) : Restored s s :=
  .of_beside (Beside.of_eq rfl rfl) (fun _ => id) (fun _ => id) fun _ => id

/-- All objects were created, then their ids were cleared. -/
theorem Restored.of_cleared {numoid : UInt16} {n : Nat} {t : Target} (ht : CreateOutcome pid numoid s .ok t)
    (hc : Created s.db pid oid n t) (hv : Beside (IdRange pid oid n) t s')
    (hl : s'.db.Lacks (IdRange pid oid n)) : Restored s s' := by
  have hfresh : ∀ p o, IdRange pid oid n p o → ¬ s.db.Has p o := by
    rintro p o ⟨k, hk, rfl, rfl⟩
    exact hc.fresh k hk
  refine .of_beside (Beside.trans s t s' ht.beside (hv.mono hfresh)) (fun r hr => ?_) (fun r hr => ?_)
    fun r hr => ?_
  · have hno := hl.obj r hr
    rcases hc.only r ((hv.mem_obj hno).1 hr) with hold | ⟨k, hk, rfl, -⟩
    · exact hold
    · exact absurd ⟨k, hk, rfl, rfl⟩ hno
  · exact ht.attr r ((hv.mem_attr (hl.attr r hr)).1 hr)
  · exact ht.coll r ((hv.mem_coll (hl.coll r hr)).1 hr)

/-- Retrievals only touch an object of the range: with none created there is nothing to answer from. -/
theorem idRange_of_typeAnswer {d : Db} {n : Nat} {t : Target} {type : ObjType}
    (hc : Created d pid oid n t) (hoid : USEROBJECT_OID_LB ≤ oid)
    (hfree : ¬ d.Has (bindInt64 pid) (bindInt64 oid)) (h : TypeAnswer t.db pid oid type) :
    IdRange pid oid n (bindInt64 pid) (bindInt64 oid) := by
  have hne : oid ≠ 0 := by
    rintro rfl
    exact absurd hoid (by decide)
  rcases h with ⟨-, -, h0⟩ | ⟨-, -, h0⟩ | h
  · exact absurd h0 hne
  · exact absurd h0 hne
  · rcases hc.only _ h with hold | ⟨k, hk, he, -⟩
    · exact absurd ⟨_, hold, rfl, rfl⟩ hfree
    · exact ⟨k, hk, rfl, congrArg ObjRow.oid he⟩

/-- The attributes of the new objects, and the undo. -/
theorem attributesOrUndo_restored (henv : ¬ env.SomeDeleteFails) {cmd : Command} {numoid : UInt16}
    {fuel : Nat} {used : UInt32} {t : Target} (ht : CreateOutcome pid numoid s .ok t)
    (hpid : USEROBJECT_PID_LB ≤ pid)
    (hoid : USEROBJECT_OID_LB ≤ oid) (hfree : ¬ s.db.Has (bindInt64 pid) (bindInt64 oid)) {n : UInt16}
    (hc : Created s.db pid oid (createCount oid n) t) :
    Ends (attributesOrUndo env cmd pid oid n fuel used
      (osdRemoveTmpObjects env pid (createCount oid n) oid)) t
      (fun r s' => r.1 ≠ .ok → Restored s s') := by
  let K := IdRange pid oid (createCount oid n)
  have hK : ∀ k < createCount oid n, K (bindInt64 pid) (bindInt64 (oid + UInt64.ofNat k)) :=
    fun k hk => ⟨k, hk, rfl, rfl⟩
  have happly : Ends (applyAttributes env cmd pid oid n fuel used) t (fun _ u => Beside K t u) :=
    applyAttributes_respects (fun ⟨_, h⟩ => Beside.admitsAttributes (idRange_of_typeAnswer hc hoid hfree h))
      fun k hk => Beside.admitsAttributes (hK k hk)
  refine ends_call happly fun r u hu => ends_ite_of (fun _ => ?_) fun hok =>
    ends_pure.2 fun h => absurd h hok
  have hback : Respects (Beside K) (osdRemoveTmpObjects env pid (createCount oid n) oid) :=
    osdRemoveTmpObjects_stays _ fun k hk => Beside.admitsObject (hK k hk)
  have hlacks : Ends (osdRemoveTmpObjects env pid (createCount oid n) oid) u (fun _ v => v.db.Lacks K) :=
    osdRemoveTmpObjects_lacks henv _ fun k hk => isUserobjectId_range hpid hoid hk
  exact ends_call ((hback u).and hlacks) fun _ v ⟨hv, hl⟩ =>
    ends_pure.2 fun _ => .of_cleared ht hc (Beside.trans t u v hu hv) hl

/-- **CREATE with attributes is all or nothing.**  When the command fails, wherever it does, every object
is as it was before and none is new. -/
theorem cdbCreate_all_or_nothing (henv : ¬ env.SomeDeleteFails) (hcache : s.CacheAhead)
    (htree : Hierarchy s.db) (cmd : Command) (fuel : Nat) (used : UInt32) :
    Ends (cdbCreate env cmd fuel used) s (fun r s' => r.1 ≠ .ok → Restored s s') := by
  refine ends_ite_of (fun _ => ends_pure.2 fun _ => .refl s) fun _ =>
    ends_bind.2 (withinTxn_ends fun b l => ?_)
  let s₁ : Target := { s with inTxn := b, txnCalls := l }
  have hcreate : Ends (osdCreate env (getNtohll cmd.cdb 16) (getNtohll cmd.cdb 24) (getNtohs cmd.cdb 32)) s₁
      (CreateOutcome (getNtohll cmd.cdb 16) (getNtohs cmd.cdb 32) s₁) :=
    osdCreate_outcome (s := s₁) henv ⟨hcache.lb, hcache.above⟩ htree _ _
  refine hcreate.mono fun ret t ht b' l' => ?_
  have ht : CreateOutcome (getNtohll cmd.cdb 16) (getNtohs cmd.cdb 32) s ret
      { t with inTxn := b', txnCalls := l' } := by
    refine { ht with beside := { ht.beside with }, created := fun hok => ?_ }
    obtain ⟨hpid, oid, hoid, hget, hfree, hc⟩ := ht.created hok
    exact ⟨hpid, oid, hoid, hget, hfree, { hc with }⟩
  refine ends_ite_of (fun hno => ends_pure.2 fun _ => ?_) fun hok => ends_bind.2 (ends_get.2 ?_)
  · exact .of_beside ht.beside (ht.failed hno) ht.attr ht.coll
  · obtain rfl : ret = .ok := Decidable.not_not.1 hok
    obtain ⟨hpid, oid, hoid, rfl, hfree, hc⟩ := ht.created rfl
    exact attributesOrUndo_restored henv ht hpid hoid hfree hc

/-- CREATE of two objects in the first partition, with an attribute to set and a list to get that is
not one. -/
def createCommand : Command where
  cdb := blobMem (List.replicate 17 0 ++ [0, 0, 0, 0, 1, 0, 0] ++ List.replicate 8 0 ++ [0, 2] ++
    List.replicate 18 0 ++ htonl 16 ++ List.replicate 12 0 ++ htonl 32)
  getsetCdbfmt := GETLIST_SETLIST
  retrievedAttrOff := 0
  indata := blobMem ([9, 0, 0, 0, 0, 0, 0, 24] ++ [0, 1, 0, 0] ++ [0, 0, 0, 7] ++ List.replicate 6 0 ++
    [0, 1] ++ [0x2A] ++ List.replicate 7 0)
  inlen := 32
  hasOutdata := true

/-- The objects are created and their attributes set when the retrieval fails. -/
theorem cdbCreate_all_or_nothing_list :
    let s := calmRun [.createPartition 0, .create 0x10000 0 2]
    ∃ r s', cdbCreate Env.calm createCommand 2 0 s = some (r, s') ∧ r.1 ≠ .ok ∧ Restored s s' := by
  let s := calmRun [.createPartition 0, .create 0x10000 0 2]
  have hrun : (cdbCreate Env.calm createCommand 2 0 s).map Prod.fst =
      some (senseBuildSdd OSD_SSK_ILLEGAL_REQUEST OSD_ASC_INVALID_FIELD_IN_PARAM_LIST 0x10000
        0x10002, 0) := by
    decide +kernel
  obtain ⟨⟨r, s'⟩, hs', hr⟩ := Option.map_eq_some_iff.1 hrun
  have hr : r.1 ≠ .ok := by
    rw [show r = _ from hr]
    nofun
  have hcap : Reachable WithinCapacity s := .calmRun
      ⟨by decide +kernel, ⟨nofun, by decide +kernel⟩,
    by decide +kernel, ⟨nofun, by decide +kernel⟩, trivial⟩
  have hsmall : Reachable SmallIds s := .calmRun ⟨by decide +kernel, ⟨by decide +kernel, by decide +kernel⟩,
    by decide +kernel, ⟨by decide +kernel, by decide +kernel⟩, trivial⟩
  have hcalm : ¬ Env.calm.SomeDeleteFails := by simp [Env.SomeDeleteFails, Env.calm]
  have hn := hcap.namespace.1
  exact ⟨r, s', hs', hr, cdbCreate_all_or_nothing hcalm (hn.cacheAhead hsmall.coherent) hn.hierarchy
    createCommand 2 0 r s' hs' hr⟩

/-! ## CREATE PARTITION and CREATE COLLECTION -/

theorem halts_osdRemove (pid oid : UInt64) : Halts (osdRemove env pid oid) := by
  have hunlink : Halts (unlinkFile env pid oid) :=
    halts_bind halts_get fun _ => halts_ite (halts_pure _) (halts_bind (halts_set _) fun _ => halts_pure _)
  exact halts_ite (halts_pure _) (halts_bind halts_invalidateCache fun _ => halts_bind hunlink fun _ =>
    halts_bind (halts_dbExecDms _) fun _ => halts_ite (halts_pure _)
      (halts_bind (halts_dbExecDms _) fun _ =>
    halts_ite (halts_pure _) (halts_bind (halts_dbExecDms _) fun _ => halts_ite (halts_pure _)
      (halts_bind (halts_modify _) fun _ => halts_pure _))))

theorem halts_osdCreatePartition (requested : UInt64) : Halts (osdCreatePartition env requested) := by
  have hinsert : ∀ pid, Halts (insertPartition env pid requested) := fun _ =>
    halts_bind (halts_dbExecDms _) fun _ => halts_ite (halts_pure _)
      (halts_bind (halts_modify _) fun _ => halts_pure _)
  refine halts_ite (halts_pure _) (halts_ite (halts_bind (halts_dbExecQuery _ _ _) fun r => ?_) (hinsert _))
  split
  · exact hinsert _
  · exact halts_pure _

/-- A failure of the command leaves the tables as they were. -/
def LeavesNoTrace (m : OsdM (Ret × UInt32)) (s : Target) : Prop :=
  Ends m s fun r s' => r.1 ≠ .ok → s'.db = s.db

/-- The id CREATE COLLECTION takes for a requested one. -/
def Target.collectionId (s : Target) (pid requested : UInt64) : UInt64 :=
  if requested = 0 then s.chosen pid COLLECTION_OID_LB else requested

/-- The device with the collection. -/
def Target.withCollection (s : Target) (pid requested : UInt64) : Target :=
  let cid := s.collectionId pid requested
  { s.setObj (s.db.obj ++ [collectionRow pid cid]) with
    ic := if requested = 0 then ⟨pid, cid + 1⟩ else IdCache.zero
    ccap := fillCcap .collection pid cid 0 }

/-- CREATE COLLECTION creates the collection. -/
def Env.CreatesCollection (env : Env) (s : Target) (pid requested : UInt64) : Prop :=
  env.AdmitsCollection s pid requested ∧
    env.Inserts s.db (collectionRow pid (s.collectionId pid requested))

/-- **`osd_create_collection`.** -/
theorem osdCreateCollection_creates {requested : UInt64} {Q : Ret → Target → Prop}
    (hno : ∀ ret ic, ret ≠ .ok → ¬ env.CreatesCollection s pid requested → Q ret { s with ic })
    (hok : env.CreatesCollection s pid requested → Q .ok (s.withCollection pid requested)) :
    Ends (osdCreateCollection env pid requested) s Q := by
  refine osdCreateCollection_ends (fun ret ic hret _ ha => hno ret ic hret fun h => ha h.1)
    fun cid ic ha hpick => ?_
  have hcid : cid = s.collectionId pid requested ∧
      ic = if requested = 0 then ⟨pid, cid + 1⟩ else IdCache.zero := by
    rcases hpick with ⟨h0, rfl, rfl⟩ | ⟨h0, rfl, -, -, rfl⟩
    · exact ⟨by rw [Target.collectionId, if_pos h0], by rw [if_pos h0]⟩
    · exact ⟨by rw [Target.collectionId, if_neg h0], by rw [if_neg h0]⟩
  obtain ⟨rfl, rfl⟩ := hcid
  exact insertCollection_ends (fun hins => hok ⟨ha, hins⟩) fun ret hret hins =>
    hno ret _ hret fun h => hins h.2

theorem Db.without_eq_self {d : Db} {p o : Int} :
    d.without p o = d ↔ d.Lacks fun p' o' => p' = p ∧ o' = o := by
  constructor
  · intro h
    rw [← h]
    exact d.without_lacks p o
  · rintro ⟨hobj, hattr, hcoll⟩
    have hself : ∀ {ρ : Type} {q : ρ → Prop} [DecidablePred q] {t : List ρ}, (∀ r ∈ t, ¬ q r) →
        deleteWhere q t = t := fun h => List.filter_eq_self.2 fun r hr => decide_eq_true (h r hr)
    unfold Db.without Db.withoutColls Db.withoutAttrs
    rw [hself hobj, hself hattr, hself hcoll]

/-- What has been done to one object only shows in its rows. -/
theorem Beside.without {p o : Int} (h : Beside (fun p' o' => p' = p ∧ o' = o) s s') :
    s'.db.without p o = s.db.without p o := by
  have hK : ∀ {c : Prop} [Decidable c], c → decide (¬ c) = false := fun h => decide_eq_false fun hn => hn h
  have hobj := h.obj _ fun r hr => hK hr
  have hattr := h.attr _ fun r hr => hK hr
  have hcoll := h.coll _ fun r hr => hK hr
  unfold Db.without Db.withoutColls Db.withoutAttrs deleteWhere
  rw [hobj, hattr, hcoll]

/-- REMOVE refuses what is no user object id. -/
theorem removeCreated_refused (hid : ¬ isUserobjectId pid oid = true) :
    removeCreated env pid oid s = some ((), s) := by
  have hrun : osdRemove env pid oid s = some (cdbErr pid oid, s) := by
    unfold osdRemove
    rw [if_pos (by simpa using hid)]
    rfl
  exact bind_of_some hrun

/-- **When the undo leaves the tables `d`**, which differ from those it starts with in rows of its object
only. -/
theorem removeCreated_iff {d : Db} (hrows : s.db.without (bindInt64 pid) (bindInt64 oid) =
      d.without (bindInt64 pid) (bindInt64 oid)) (hnew : s.db.obj ≠ d.obj) :
    Ends (removeCreated env pid oid) s (fun _ s' => s'.db = d) ↔ isUserobjectId pid oid = true ∧
      d.Lacks (fun p o => p = bindInt64 pid ∧ o = bindInt64 oid) ∧
      env.Deletes s.db (bindInt64 pid) (bindInt64 oid) := by
  by_cases hid : isUserobjectId pid oid = true
  · obtain ⟨ret, v, hrun, hv⟩ := (osdRemove_db hid).of_halts (halts_osdRemove pid oid)
    have hundo : removeCreated env pid oid s = some ((), v) := bind_of_some hrun
    rw [ends_of_run hundo]
    rcases hv with ⟨hdel, -, hdb⟩ | ⟨hdel, -, hobj⟩
    · rw [hdb, hrows, Db.without_eq_self]
      exact ⟨fun h => ⟨hid, h, hdel⟩, fun h => h.2.1⟩
    · exact ⟨fun h => absurd (hobj.symm.trans (congrArg Db.obj h)) hnew, fun h => absurd h.2.2 hdel⟩
  · rw [ends_of_run (removeCreated_refused hid)]
    exact ⟨fun h => absurd (congrArg Db.obj h) hnew, fun h => absurd h.1 hid⟩

/-- The two commands after their creation. -/
theorem attributesOrUndo_iff {cmd : Command} {n : UInt16} {fuel : Nat} {used : UInt32} {undo : OsdM Unit}
    {t : Target} {P : Target → Prop} :
    Ends (attributesOrUndo env cmd pid oid n fuel used undo) t (fun r s' => r.1 ≠ .ok → P s') ↔
      Ends (applyAttributes env cmd pid oid n fuel used) t
        (fun r u => r.1 = .ok ∨ Ends undo u (fun _ s' => P s')) := by
  unfold attributesOrUndo
  rw [ends_bind]
  refine Ends.congr fun r u _ => ?_
  by_cases hr : r.1 = .ok
  · simp [hr]
  · simp [hr]

theorem append_ne_self {α : Type} (l : List α) (x : α) : l ++ [x] ≠ l := fun h =>
  absurd (congrArg List.length h) (by simp)

/-- A partition that is created is given its attributes. -/
def PartitionAccepted (env : Env) (cmd : Command) (fuel : Nat) (used : UInt32) (s : Target) : Prop :=
  let requested := getNtohll cmd.cdb 16
  let pid := s.partitionId requested
  env.CreatesPartition s requested →
    Ends (applyAttributes env cmd pid PARTITION_OID 1 fuel used) (s.withPartition pid) fun r _ => r.1 = .ok

/-- A collection that is created is given its attributes, or it can be removed without a trace: its id is
one of a user object, no row was left over under it, and the DELETE statements are carried out. -/
def CollectionAccepted (env : Env) (cmd : Command) (fuel : Nat) (used : UInt32) (s : Target) : Prop :=
  let pid := getNtohll cmd.cdb 16
  let requested := getNtohll cmd.cdb 24
  let cid := s.collectionId pid requested
  env.CreatesCollection s pid requested →
    Ends (applyAttributes env cmd pid cid 1 fuel used) (s.withCollection pid requested) fun r u =>
      r.1 = .ok ∨ USEROBJECT_OID_LB ≤ cid ∧ s.db.Lacks (fun p o => p = bindInt64 pid ∧ o = bindInt64 cid) ∧
        env.Deletes u.db (bindInt64 pid) (bindInt64 cid)

/-- The undo of CREATE PARTITION does nothing. -/
theorem cdbCreatePartition_leavesNoTrace {cmd : Command} {fuel : Nat} {used : UInt32} :
    LeavesNoTrace (cdbCreatePartition env cmd fuel used) s ↔ PartitionAccepted env cmd fuel used s := by
  by_cases hc : env.CreatesPartition s (getNtohll cmd.cdb 16)
  · let t := s.withPartition (s.partitionId (getNtohll cmd.cdb 16))
    have hends : Ends (osdCreatePartition env (getNtohll cmd.cdb 16)) s fun ret t' => ret = .ok ∧ t' = t :=
      osdCreatePartition_ends (fun _ _ hn => absurd hc hn) fun _ => ⟨rfl, rfl⟩
    obtain ⟨_, _, hrun, rfl, rfl⟩ := hends.of_halts (halts_osdCreatePartition _)
    unfold LeavesNoTrace cdbCreatePartition
    rw [ends_bind, ends_of_run hrun, if_neg (by simp), ends_bind, ends_get, attributesOrUndo_iff]
    refine Iff.trans (Ends.congr ?_) ⟨fun h _ => h, fun h => h hc⟩
    refine (resp_applyAttributes_idStep t).mono fun r u hu => ?_
    have hno : ¬ isUserobjectId t.ccap.pid PARTITION_OID = true := fun h =>
        absurd (isUserobjectId_le h) (by decide)
    rw [ends_of_run (removeCreated_refused hno)]
    refine or_iff_left fun h => ?_
    exact append_ne_self s.db.obj _ (hu.obj.symm.trans (congrArg Db.obj h))
  · refine ⟨fun _ h => absurd h hc, fun _ => ?_⟩
    have hends : Ends (osdCreatePartition env (getNtohll cmd.cdb 16)) s fun ret t =>
        ret ≠ .ok ∧ t.db = s.db :=
      osdCreatePartition_ends (fun _ hret _ => ⟨hret, rfl⟩) fun h => absurd h hc
    exact ends_call hends fun ret t ⟨hret, ht⟩ =>
      ends_ite_of (fun _ => ends_pure.2 fun _ => ht) fun h => absurd hret h

theorem cdbCreateCollection_leavesNoTrace {cmd : Command} {fuel : Nat} {used : UInt32} :
    LeavesNoTrace (cdbCreateCollection env cmd fuel used) s ↔ CollectionAccepted env cmd fuel used s := by
  let pid := getNtohll cmd.cdb 16
  let cid := s.collectionId pid (getNtohll cmd.cdb 24)
  by_cases hc : env.CreatesCollection s pid (getNtohll cmd.cdb 24)
  · let t := s.withCollection pid (getNtohll cmd.cdb 24)
    have hends : Ends (osdCreateCollection env pid (getNtohll cmd.cdb 24)) s fun ret t' =>
        ret = .ok ∧ t' = t :=
      osdCreateCollection_creates (fun _ _ _ hn => absurd hc hn) fun _ => ⟨rfl, rfl⟩
    obtain ⟨_, _, hrun, rfl, rfl⟩ := hends.of_halts (halts_osdCreateCollection _ _)
    unfold LeavesNoTrace cdbCreateCollection
    rw [ends_bind, ends_of_run hrun, if_neg (by simp), ends_bind, ends_get, attributesOrUndo_iff]
    refine Iff.trans (Ends.congr ?_) ⟨fun h _ => h, fun h => h hc⟩
    let K : Int → Int → Prop := fun p o => p = bindInt64 pid ∧ o = bindInt64 cid
    have hadm : AdmitsAttributes (Beside K) pid cid := Beside.admitsAttributes ⟨rfl, rfl⟩
    have hbeside : Ends (applyAttributes env cmd pid cid 1 fuel used) t fun _ u => Beside K t u := by
      refine applyAttributes_respects (fun _ => hadm) fun k hk => ?_
      obtain rfl : k = 0 := by
        have hone := (createCount_fits hk).1
        have h1 : (1 : UInt16).toNat = 1 := rfl
        omega
      rwa [show cid + UInt64.ofNat 0 = cid from UInt64.add_zero cid]
    refine ((resp_applyAttributes_idStep t).and hbeside).mono fun r u ⟨hu, hb⟩ => or_congr_right ?_
    have hcreated : t.db.without (bindInt64 pid) (bindInt64 cid) = s.db.without (bindInt64 pid)
        (bindInt64 cid) :=
      congrArg (fun l => (⟨l, _, _⟩ : Db)) (filter_append_of_not (decide_eq_false fun h => h ⟨rfl, rfl⟩))
    have hnew : u.db.obj ≠ s.db.obj := fun h => append_ne_self s.db.obj _ (hu.obj.symm.trans h)
    refine (removeCreated_iff (hb.without.trans hcreated) hnew).trans (and_congr_left' ?_)
    have hpid : USEROBJECT_PID_LB ≤ pid := hc.1.pid_lb
    exact ⟨isUserobjectId_le, fun h => (Bool.and_eq_true _ _).mpr ⟨decide_eq_true hpid, decide_eq_true h⟩⟩
  · refine ⟨fun _ h => absurd h hc, fun _ => ?_⟩
    have hends : Ends (osdCreateCollection env pid (getNtohll cmd.cdb 24)) s
        fun ret t => ret ≠ .ok ∧ t.db = s.db :=
      osdCreateCollection_creates (fun _ _ hret _ => ⟨hret, rfl⟩) fun h => absurd h hc
    exact ends_call hends fun ret t ⟨hret, ht⟩ =>
      ends_ite_of (fun _ => ends_pure.2 fun _ => ht) fun h => absurd hret h

/-- CREATE PARTITION with a page to get that no partition has. -/
def partitionCommand : Command where
  cdb := blobMem (List.replicate 52 0 ++ htonl 5 ++ htonl 64)
  getsetCdbfmt := GETPAGE_SETVALUE
  retrievedAttrOff := 0
  indata := blobMem []
  inlen := 0
  hasOutdata := true

end OsdTarget
