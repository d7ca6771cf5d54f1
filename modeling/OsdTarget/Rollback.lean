import OsdTarget.AttributeParams
import OsdTarget.Footprint
import OsdTarget.Hierarchy

/-!
# Taking creations back

REMOVE as an undo.  Where its DELETE statements are carried out the tables are left without the rows
of the object, and the loop of removals clears its whole range of ids.  With that, CREATE either
creates all its objects or leaves the object table as it was.
-/

namespace OsdTarget

open Base

variable {env : Env} {s s' : Target} {pid oid : UInt64}

/-! ## One removal -/

/-- The tables without the rows of one object, as the DELETE statements of REMOVE take them away. -/
def Db.withoutAttrs (d : Db) (p o : Int) : Db :=
  { d with attr := deleteWhere (fun r => r.pid = p ∧ r.oid = o) d.attr }
def Db.withoutColls (d : Db) (p o : Int) : Db :=
  { d with coll := deleteWhere (fun r => r.pid = p ∧ r.oid = o) d.coll }
def Db.without (d : Db) (p o : Int) : Db :=
  { (d.withoutAttrs p o).withoutColls p o with
    obj := deleteWhere (fun r => r.pid = p ∧ r.oid = o) d.obj }

/-- The three statements are carried out. -/
structure Env.Deletes (env : Env) (d : Db) (p o : Int) : Prop where
  attrs : env.dmsFails (.attrDeleteAll p o) d = false
  colls : env.dmsFails (.collDeleteOid p o) (d.withoutAttrs p o) = false
  obj : env.dmsFails (.objDelete p o) ((d.withoutAttrs p o).withoutColls p o) = false

theorem Env.deletes_of_not (henv : ¬ env.SomeDeleteFails) (d : Db) (p o : Int) : env.Deletes d p o where
  attrs := Bool.eq_false_iff.2 fun h => henv ⟨_, _, _, .inl h⟩
  colls := Bool.eq_false_iff.2 fun h => henv ⟨_, _, _, .inr (.inl h)⟩
  obj := Bool.eq_false_iff.2 fun h => henv ⟨_, _, _, .inr (.inr h)⟩

/-- **REMOVE takes away all rows of its object or leaves the object table alone.** -/
theorem osdRemove_db (hid : isUserobjectId pid oid = true) : Ends (osdRemove env pid oid) s (fun ret s' =>
    env.Deletes s.db (bindInt64 pid) (bindInt64 oid) ∧ ret = .ok ∧
        s'.db = s.db.without (bindInt64 pid) (bindInt64 oid) ∨
      ¬ env.Deletes s.db (bindInt64 pid) (bindInt64 oid) ∧ ret ≠ .ok ∧ s'.db.obj = s.db.obj) := by
  refine ends_ite_of (fun h => absurd hid (by simpa using h)) fun _ =>
    ends_bind.2 (ends_modify.2 (ends_bind.2 (unlinkFile_ends fun _ t hdb _ _ _ => ?_)))
  have hdb : t.db = s.db := hdb
  rw [← hdb]
  refine ends_bind.2 (dbExecDms_ends (fun d h1 hd => ?_) fun h => ?_)
  · cases hd
    refine ends_ite_of (fun h => absurd rfl h) fun _ =>
      ends_bind.2 (dbExecDms_ends (fun d h2 hd => ?_) fun h => ?_)
    · cases hd
      refine ends_ite_of (fun h => absurd rfl h) fun _ =>
        ends_bind.2 (dbExecDms_ends (fun d h3 hd => ?_) fun h => ?_)
      · cases hd
        refine ends_ite_of (fun h => absurd rfl h) fun _ => ends_bind.2 (ends_modify.2 (ends_pure.2 ?_))
        exact .inl ⟨⟨h1, h2, h3⟩, rfl, rfl⟩
      · have hfail := h.resolve_right nofun
        refine ends_ite_of (fun _ => ends_pure.2 (.inr ⟨fun hd => ?_, nofun, rfl⟩)) fun h =>
          absurd (by simp) h
        exact absurd (hd.obj.symm.trans hfail) nofun
    · have hfail := h.resolve_right nofun
      refine ends_ite_of (fun _ => ends_pure.2 (.inr ⟨fun hd => ?_, nofun, rfl⟩)) fun h =>
        absurd (by simp) h
      exact absurd (hd.colls.symm.trans hfail) nofun
  · have hfail := h.resolve_right nofun
    refine ends_ite_of (fun _ => ends_pure.2 (.inr ⟨fun hd => ?_, nofun, rfl⟩)) fun h => absurd (by simp) h
    exact absurd (hd.attrs.symm.trans hfail) nofun

/-! ## A range of ids -/

/-- The `n` objects with the ids from `oid` on. -/
def IdRange (pid oid : UInt64) (n : Nat) (p o : Int) : Prop :=
  ∃ k < n, p = bindInt64 pid ∧ o = bindInt64 (oid + UInt64.ofNat k)

/-- No row of the three tables belongs to an object of `K`. -/
structure Db.Lacks (d : Db) (K : Int → Int → Prop) : Prop where
  obj : ∀ r ∈ d.obj, ¬ K r.pid r.oid
  attr : ∀ r ∈ d.attr, ¬ K r.pid r.oid
  coll : ∀ r ∈ d.coll, ¬ K r.pid r.oid

theorem Db.without_lacks (d : Db) (p o : Int) : (d.without p o).Lacks fun p' o' => p' = p ∧ o' = o where
  obj _ hr := (mem_deleteWhere.1 hr).2
  attr _ hr := (mem_deleteWhere.1 hr).2
  coll _ hr := (mem_deleteWhere.1 hr).2

theorem Db.Lacks.without {d : Db} {K : Int → Int → Prop} (h : d.Lacks K) (p o : Int) :
    (d.without p o).Lacks K where
  obj r hr := h.obj r (mem_deleteWhere.1 hr).1
  attr r hr := h.attr r (mem_deleteWhere.1 hr).1
  coll r hr := h.coll r (mem_deleteWhere.1 hr).1

theorem osdRemove_without (henv : ¬ env.SomeDeleteFails) (hid : isUserobjectId pid oid = true) :
    Ends (osdRemove env pid oid) s (fun _ s' => s'.db = s.db.without (bindInt64 pid) (bindInt64 oid)) :=
  (osdRemove_db hid).mono fun _ _ h => h.elim (·.2.2) fun h => absurd (env.deletes_of_not henv _ _ _) h.1

/-- **The loop of removals clears its range.** -/
theorem osdRemoveTmpObjects_lacks (henv : ¬ env.SomeDeleteFails) (n : Nat)
    (hid : ∀ k < n, isUserobjectId pid (oid + UInt64.ofNat k) = true) :
    Ends (osdRemoveTmpObjects env pid n oid) s (fun _ s' => s'.db.Lacks (IdRange pid oid n)) := by
  induction n generalizing oid s with
  | zero => exact ends_pure.2 ⟨fun _ _ ⟨_, hk, _⟩ => by omega, fun _ _ ⟨_, hk, _⟩ => by omega,
      fun _ _ ⟨_, hk, _⟩ => by omega⟩
  | succ n ih =>
    obtain ⟨h0, hrest⟩ := (forall_ids_succ (P := fun i => isUserobjectId pid i = true)).1 hid
    refine ends_call (osdRemove_without henv h0) fun _ t ht => ?_
    -- the first object stays away while the others go
    let K : Int → Int → Prop := fun p o => p = bindInt64 pid ∧ o = bindInt64 oid
    have hkeep : Ends (osdRemoveTmpObjects env pid n (oid + 1)) t (fun _ v => v.db.Lacks K) := by
      refine osdRemoveTmpObjects_invariant n (oid + 1) (fun k hk v hv => ?_) (ht ▸ s.db.without_lacks _ _)
      exact (osdRemove_without henv (hrest k hk)).mono fun _ w hw => hw ▸ hv.without _ _
    refine (hkeep.and (ih hrest)).mono fun _ v ⟨hv0, hv⟩ => ?_
    have hsplit : ∀ p o, IdRange pid oid (n + 1) p o → K p o ∨ IdRange pid (oid + 1) n p o := by
      rintro p o ⟨k, hk, hp, ho⟩
      cases k with
      | zero => exact .inl ⟨hp, by rwa [show oid + UInt64.ofNat 0 = oid from UInt64.add_zero oid] at ho⟩
      | succ k =>
        refine .inr ⟨k, Nat.lt_of_succ_lt_succ hk, hp, ?_⟩
        rwa [UInt64.ofNat_add, UInt64.add_comm (UInt64.ofNat k), ← UInt64.add_assoc] at ho
    exact ⟨fun r hr h => (hsplit _ _ h).elim (hv0.obj r hr) (hv.obj r hr),
      fun r hr h => (hsplit _ _ h).elim (hv0.attr r hr) (hv.attr r hr),
      fun r hr h => (hsplit _ _ h).elim (hv0.coll r hr) (hv.coll r hr)⟩

/-! ## CREATE under reliable deletions -/

theorem createCount_fits {n : UInt16} {k : Nat} (hk : k < createCount oid n) :
    k < n.toNat ∧ oid.toNat + n.toNat < 2 ^ 64 := by
  have hn := n.toNat_lt
  have ho := oid.toNat_lt
  unfold createCount at hk
  split at hk
  · rename_i hlt
    rw [UInt64.lt_iff_toNat_lt, UInt64.toNat_add, UInt16.toNat_toUInt64] at hlt
    exact ⟨hk, by omega⟩
  · omega

/-- The ids CREATE goes over are user object ids if the first is. -/
theorem isUserobjectId_range {n : UInt16} (hpid : USEROBJECT_PID_LB ≤ pid) (hoid : USEROBJECT_OID_LB ≤ oid)
    {k : Nat} (hk : k < createCount oid n) : isUserobjectId pid (oid + UInt64.ofNat k) = true := by
  obtain ⟨hkn, hfit⟩ := createCount_fits hk
  have hsum : (oid + UInt64.ofNat k).toNat = oid.toNat + k := add_ofNat_toNat (by omega)
  unfold isUserobjectId
  rw [Bool.and_eq_true, decide_eq_true_eq, decide_eq_true_eq]
  refine ⟨hpid, UInt64.le_iff_toNat_le.2 ?_⟩
  rw [hsum]
  exact Nat.le_trans (UInt64.le_iff_toNat_le.1 hoid) (Nat.le_add_right _ _)

/-- Where the new rows are gone, the old ones are left. -/
theorem Growth.only_old {d : Db} {n : Nat} (h : Growth d pid oid n s)
    (hl : s.db.Lacks (IdRange pid oid n)) :
    ∀ r ∈ s.db.obj, r ∈ d.obj := by
  intro r hr
  rcases h.only r hr with hold | ⟨k, hk, rfl, -⟩
  · exact hold
  · exact absurd ⟨k, hk, rfl, rfl⟩ (hl.obj _ hr)

/-- **A failing step of the loop takes back all steps before it.** -/
theorem createLoop_undone (henv : ¬ env.SomeDeleteFails) {d : Db} (n : Nat) {m : Nat}
    (h : Created d pid oid m s) (hmn : m + n < 2 ^ 64)
    (hid : ∀ k < m + n, isUserobjectId pid (oid + UInt64.ofNat k) = true) :
    Ends (createLoop env pid oid n (oid + UInt64.ofNat m)) s
      (fun r s' => r ≠ none → ∀ x ∈ s'.db.obj, x ∈ d.obj) := by
  induction n generalizing s m with
  | zero => exact ends_pure.2 fun h => absurd rfl h
  | succ n ih =>
    let i := oid + UInt64.ofNat m
    have hundo : ∀ t, Growth d pid oid m t → Ends (osdRemoveTmpObjects env pid (i - oid).toNat oid >>=
        fun _ => pure (some i)) t (fun r s' => r ≠ none → ∀ x ∈ s'.db.obj, x ∈ d.obj) := by
      intro t ht
      rw [show (i - oid).toNat = m from sub_ofNat_toNat (by omega)]
      have hlacks : Ends (osdRemoveTmpObjects env pid m oid) t
          (fun _ v => v.db.Lacks (IdRange pid oid m)) :=
        osdRemoveTmpObjects_lacks henv m fun k hk => hid k (by omega)
      exact ends_call ((ht.rollback h.fresh).and hlacks) fun _ v ⟨hg, hl⟩ =>
        ends_pure.2 fun _ => hg.only_old hl
    refine ends_bind.2 (objInsert_ends (fun hfree => ?_) fun _ => ?_)
    · refine ends_ite_of (fun h => absurd rfl h) fun _ => ?_
      have hnew := h.insert hfree
      refine ends_bind.2 (osdCreateDatafile_ends (fun _ _ => ?_) fun e => ?_)
      · refine ends_ite_of (fun h => absurd rfl h) fun _ => ?_
        have hc : Created d pid oid (m + 1) ((s.setObj (s.db.obj ++ [userRow pid i])).setFile
            pid i (some [])) :=
          { hnew with }
        rw [show i + 1 = oid + UInt64.ofNat (m + 1) by rw [UInt64.ofNat_add, ← UInt64.add_assoc]; rfl]
        exact ih hc (by omega) fun k hk => hid k (by omega)
      · -- no data file: its row goes first
        refine ends_ite_of (fun _ => ?_) fun h => absurd (by simp) h
        refine ends_bind.2 (objDelete_ends ?_ fun hfail => ?_)
        · let t := s.setObj (s.db.obj ++ [userRow pid i])
          have hg : Growth d pid oid (m + 1)
              (t.setObj (deleteWhere (fun r => r.pid = bindInt64 pid ∧ r.oid = bindInt64 i) t.db.obj)) :=
            hnew.toGrowth.delete (hnew.fresh m (Nat.lt_succ_self m)) (.inr rfl) (fun _ => id) fun _ => id
          refine hundo _ { hg with only := fun r hr => ?_ }
          obtain ⟨hmem, hne⟩ := mem_deleteWhere.1 hr
          rcases List.mem_append.1 hmem with hr | hr
          · exact h.only r hr
          · rw [List.mem_singleton.1 hr] at hne
            exact absurd ⟨rfl, rfl⟩ hne
        · exact absurd ⟨_, _, _, .inr (.inr hfail)⟩ henv
    · exact ends_ite_of (fun _ => hundo s h.toGrowth) fun h => absurd (by simp) h

/-! ## All or nothing -/

/-- `osd_get_created_oid` finds the first id from what `osd_create` left for the current command. -/
theorem getCreatedOid_fillCcap {n : UInt16} (hn : 0 < n.toNat) :
    getCreatedOid (fillCcap .userobject pid (oid + n.toUInt64 - 1) 0) n.toUInt32 = oid := by
  have hpos : 0 < n.toUInt32 := by
    rw [UInt32.lt_iff_toNat_lt, UInt16.toNat_toUInt32]
    exact hn
  have hsub : (n.toUInt32 - 1).toUInt64 = n.toUInt64 - 1 := by
    apply UInt64.toNat_inj.1
    have h1 : (n.toUInt32 - 1).toNat = n.toNat - 1 := by
      rw [UInt32.toNat_sub_of_le _ _ (by rw [UInt32.le_iff_toNat_le]; exact hpos)]
      rfl
    have h2 : (n.toUInt64 - 1).toNat = n.toNat - 1 := by
      rw [UInt64.toNat_sub_of_le _ _ (by rw [UInt64.le_iff_toNat_le, UInt16.toNat_toUInt64]; exact hn)]
      rfl
    rw [UInt32.toNat_toUInt64, h1, h2]
  have hassoc : oid + n.toUInt64 - 1 = oid + (n.toUInt64 - 1) := by
    rw [UInt64.sub_eq_add_neg, UInt64.sub_eq_add_neg, UInt64.add_assoc]
  show (if 0 < n.toUInt32 then oid + n.toUInt64 - 1 - (n.toUInt32 - 1).toUInt64 else _) = oid
  rw [if_pos hpos, hsub, hassoc, UInt64.add_sub_cancel]

/-- The invariant of the id cache: the next id is an object id above all those of its partition. -/
structure Target.CacheAhead (s : Target) : Prop where
  lb : s.ic.curPid ≠ 0 → OBJECT_OID_LB ≤ s.ic.nextId
  above : s.ic.curPid ≠ 0 → ∀ r ∈ s.db.obj, r.pid = bindInt64 s.ic.curPid → columnInt64 r.oid < s.ic.nextId

/-- It holds in every state both earlier invariants hold in. -/
theorem Namespace.cacheAhead (h : Namespace s) (hc : Coherent s) : s.CacheAhead where
  lb hp := UInt64.le_iff_toNat_le.2 (h.cached hp)
  above hp _ := hc.lt_nextId hp

/-- A chosen id is an object id, and it is free unless ids can be counted on from it. -/
theorem Target.CacheAhead.chosen (hcache : s.CacheAhead) (htree : Hierarchy s.db)
    (hpid : OBJECT_PID_LB ≤ pid) (hpart : s.db.Has (bindInt64 pid) 0) :
    OBJECT_OID_LB ≤ s.chosen pid OBJECT_OID_LB ∧
      ((s.chosen pid OBJECT_OID_LB).toNat ≤ 2 ^ 63 ∨
        ¬ s.db.Has (bindInt64 pid) (bindInt64 (s.chosen pid OBJECT_OID_LB))) := by
  by_cases hc : s.ic.curPid = pid
  · have hp : s.ic.curPid ≠ 0 := hc ▸ pid_ne_zero hpid
    have hlb := hcache.lb hp
    have hne : s.ic.nextId ≠ 1 := by
      intro h1
      rw [h1] at hlb
      exact absurd hlb (by decide)
    have hchosen : s.chosen pid OBJECT_OID_LB = s.ic.nextId := by
      simp only [Target.chosen, if_pos hc, if_neg hne]
    rw [hchosen]
    refine ⟨hlb, .inr ?_⟩
    rintro ⟨r, hr, hrp, hro⟩
    have habove := hcache.above hp r hr (hc ▸ hrp)
    rw [hro, columnInt64_bindInt64] at habove
    exact absurd habove (UInt64.lt_irrefl _)
  · obtain ⟨hlow, hhigh⟩ := htree.chosen_uncached hc hpart
    exact ⟨UInt64.le_iff_toNat_le.2 hlow, .inl hhigh⟩

/-- What CREATE comes to: all its objects are there, or none is. -/
structure CreateOutcome (pid : UInt64) (numoid : UInt16) (s : Target) (ret : Ret) (t : Target) : Prop where
  beside : Beside (fun p o => ¬ s.db.Has p o) s t
  attr : ∀ r ∈ t.db.attr, r ∈ s.db.attr
  coll : ∀ r ∈ t.db.coll, r ∈ s.db.coll
  failed : ret ≠ .ok → ∀ r ∈ t.db.obj, r ∈ s.db.obj
  created : ret = .ok → USEROBJECT_PID_LB ≤ pid ∧ ∃ oid, USEROBJECT_OID_LB ≤ oid ∧
    getCreatedOid t.ccap (atLeastOne numoid).toUInt32 = oid ∧
    ¬ s.db.Has (bindInt64 pid) (bindInt64 oid) ∧
    Created s.db pid oid (createCount oid (atLeastOne numoid)) t

theorem createFrom_outcome (henv : ¬ env.SomeDeleteFails) {requested : UInt64} {numoid : UInt16}
    (hpid : USEROBJECT_PID_LB ≤ pid) (hoid : USEROBJECT_OID_LB ≤ oid)
    (hfree : oid.toNat ≤ 2 ^ 63 ∨ ¬ s.db.Has (bindInt64 pid) (bindInt64 oid)) :
    Ends (createFrom env pid requested oid numoid) s (CreateOutcome pid numoid s) := by
  let n := atLeastOne numoid
  have hn : createCount oid n < 2 ^ 64 := by
    have h1 := createCount_le oid n
    have h2 := n.toNat_lt
    omega
  have hz := created_zero pid oid s
  have hid : ∀ k < 0 + createCount oid n, isUserobjectId pid (oid + UInt64.ofNat k) = true :=
    fun k hk => isUserobjectId_range hpid hoid (by rwa [Nat.zero_add] at hk)
  have hbeside : Ends (createLoop env pid oid (createCount oid n) (oid + UInt64.ofNat 0)) s
      (fun _ t => Beside (fun p o => ¬ s.db.Has p o) s t) :=
    createLoop_stays (fun _ hi => Beside.admitsObject hi) _ hz (by omega)
  have hloop := (createLoop_spec _ hz (by omega)).and
    ((createLoop_undone henv _ hz (by omega) hid).and hbeside)
  rw [show UInt64.ofNat 0 = 0 from rfl, UInt64.add_zero, Nat.zero_add] at hloop
  refine ends_call hloop fun r t ⟨⟨hg, hall⟩, hundone, hbes⟩ => ?_
  cases r with
  | some i =>
    refine ends_bind.2 (ends_modify.2 (ends_pure.2 ⟨?_, hg.attr, hg.coll, fun _ => hundone nofun, nofun⟩))
    exact { hbes with }
  | none =>
    obtain ⟨hc, -⟩ := hall rfl
    refine ends_bind.2 (ends_modify.2 (ends_bind.2 (ends_modify.2 (ends_pure.2
      ⟨{ hbes with }, hg.attr, hg.coll, fun h => absurd rfl h, fun _ =>
        ⟨hpid, oid, hoid, ?_, ?_, { hc with }⟩⟩))))
    · exact getCreatedOid_fillCcap (atLeastOne_pos numoid)
    · rcases hfree with hle | hfree
      · -- counting on from here does not wrap, so the first id was free
        have h1 := n.toNat_lt
        have hcount : createCount oid n = n.toNat := createCount_eq (atLeastOne_pos numoid) (by omega)
        have h0 := hc.fresh 0 (by rw [hcount]; exact atLeastOne_pos numoid)
        rwa [show UInt64.ofNat 0 = 0 from rfl, UInt64.add_zero] at h0
      · exact hfree

/-- **`osd_create` is all or nothing.** -/
theorem osdCreate_outcome (henv : ¬ env.SomeDeleteFails) (hcache : s.CacheAhead) (htree : Hierarchy s.db)
    (requested : UInt64) (numoid : UInt16) :
    Ends (osdCreate env pid requested numoid) s (CreateOutcome pid numoid s) := by
  refine osdCreate_ends (fun ret ic hno _ => ?_) fun oid ic hpid hpart _ hpick => ?_
  · exact ⟨Beside.of_eq rfl rfl, fun _ => id, fun _ => id, fun _ _ => id, fun h => absurd h hno⟩
  · have hid : USEROBJECT_OID_LB ≤ oid ∧
        (oid.toNat ≤ 2 ^ 63 ∨ ¬ s.db.Has (bindInt64 pid) (bindInt64 oid)) := by
      rcases hpick with ⟨-, rfl, -⟩ | ⟨-, -, hlb, hfree, -⟩
      · exact hcache.chosen htree hpid hpart
      · exact ⟨hlb, .inr hfree⟩
    refine (createFrom_outcome (s := { s with ic }) henv hpid hid.1 hid.2).mono fun ret t h => ?_
    exact { h with beside := Beside.trans s { s with ic } t (Beside.of_eq rfl rfl) h.beside }

end OsdTarget
