import OsdTarget.RemoveSpec

/-!
# Specifications of the create commands

What each command that adds to the object table can do to the tables, the data files and the id
cache, on every path.  The two commands that create a collection share one description.
-/

namespace OsdTarget

open Base

variable {env : Env} {s : Target}

/-- The presence test of a partition or a source collection passed. -/
theorem has_of_present {pid oid : Int} (h : ¬ (Ret.ok ≠ .ok ∨ ¬ decide (s.db.Has pid oid) = true)) :
    s.db.Has pid oid := by
  by_contra hn
  exact h (.inr (by simpa using hn))

/-! ## Choosing an id -/

/-- The id `chooseId` picks, when its query does not fail. -/
def Target.chosen (s : Target) (pid lb : UInt64) : UInt64 :=
  let next := if s.ic.curPid = pid then s.ic.nextId else columnInt64 (s.db.maxOid (bindInt64 pid)) + 1
  if next = 1 then lb else next

/-- The cache answers, or the query does. -/
def Env.Chooses (env : Env) (s : Target) (pid : UInt64) : Prop :=
  s.ic.curPid ≠ pid → env.queryFails (.objNextoid (bindInt64 pid)) s.db = false

theorem chooseId_ends {pid lb : UInt64} {Q : Option UInt64 → Target → Prop}
    (hok : env.Chooses s pid → Q (some (s.chosen pid lb)) { s with ic := ⟨pid, s.chosen pid lb + 1⟩ })
    (herr : ¬ env.Chooses s pid → Q none s) : Ends (chooseId env pid lb) s Q := by
  have hpick : ∀ next : UInt64, env.Chooses s pid → s.chosen pid lb = (if next = 1 then lb else next) →
      Ends (if next = 1 then
          modify (fun s : Target => { s with ic := { s.ic with nextId := lb + 1 } }) >>= fun _ =>
            pure (some lb)
        else pure (some next) : OsdM (Option UInt64)) { s with ic := ⟨pid, next + 1⟩ } Q := by
    intro next hcan hnext
    have hok := hok hcan
    rw [hnext] at hok
    refine ends_ite_of (fun h1 => ?_) (fun h1 => ?_)
    · rw [if_pos h1] at hok
      exact ends_bind.2 (ends_modify.2 (ends_pure.2 hok))
    · rw [if_neg h1] at hok
      exact ends_pure.2 hok
  unfold chooseId
  refine ends_bind.2 (ends_get.2 ?_)
  by_cases hc : s.ic.curPid = pid
  · rw [if_pos hc]
    have h := hpick s.ic.nextId (fun h => absurd hc h) (by simp [Target.chosen, hc])
    rw [← hc] at h
    exact ends_bind.2 (ends_set.2 (ends_bind.2 (ends_pure.2 h)))
  · rw [if_neg hc]
    refine ends_bind.2 (dbExecQuery_ends (fun hq => ?_) fun hq => ?_)
    · exact ends_bind.2 (ends_modify.2 (ends_bind.2 (ends_pure.2
        (hpick _ (fun _ => hq) (by simp [Target.chosen, hc])))))
    · refine ends_bind.2 (ends_pure.2 (ends_pure.2 (herr fun h => ?_)))
      exact absurd (hq.symm.trans (h hc)) nofun

/-- An id is taken: chosen, and the cache is one ahead of it, or the requested one, which was free. -/
def Target.Picks (s : Target) (pid requested lb oid : UInt64) (ic : IdCache) : Prop :=
  requested = 0 ∧ oid = s.chosen pid lb ∧ ic = ⟨pid, oid + 1⟩ ∨
    requested ≠ 0 ∧ oid = requested ∧ lb ≤ oid ∧ ¬ s.db.Has (bindInt64 pid) (bindInt64 oid) ∧
      ic = IdCache.zero

/-- The test of presence answers that there is no such object. -/
def Env.FindsFree (env : Env) (d : Db) (pid oid : Int) : Prop :=
  env.queryFails (.objIspresent pid oid) d = false ∧ ¬ d.Has pid oid

theorem takeRequestedId_ends {pid requested : UInt64} {Q : Bool → Target → Prop}
    (hno : ¬ env.FindsFree s.db (bindInt64 pid) (bindInt64 requested) → Q false s)
    (hok : env.FindsFree s.db (bindInt64 pid) (bindInt64 requested) →
      Q true { s with ic := IdCache.zero }) :
    Ends (takeRequestedId env pid requested) s Q := by
  refine ends_bind.2 (dbExecQuery_ends (fun hq => ?_) fun hq => ?_)
  · refine ends_ite_of (fun h => ends_pure.2 (hno fun hf => hf.2 (by simpa using h))) fun h => ?_
    exact ends_bind.2 (ends_modify.2 (ends_pure.2 (hok ⟨hq, by simpa using h⟩)))
  · refine ends_ite_of (fun _ => ends_pure.2 (hno fun hf => ?_)) fun h => absurd (.inl (by simp)) h
    exact absurd (hq.symm.trans hf.1) nofun

/-! ## CREATE: the loop -/

def userRow (pid oid : UInt64) : ObjRow := ⟨bindInt64 pid, bindInt64 oid, .userobject⟩

/-- The tables while CREATE adds user objects with the `n` ids from `oid` on, and while it takes them
back: the rows of `d` stay, and only objects that `d` did not have are new. -/
structure Growth (d : Db) (pid oid : UInt64) (n : Nat) (s : Target) : Prop where
  keeps : ∀ r ∈ d.obj, r ∈ s.db.obj
  only : ∀ r ∈ s.db.obj, r ∈ d.obj ∨ ∃ k < n, r = userRow pid (oid + UInt64.ofNat k) ∧
    ¬ d.Has (bindInt64 pid) (bindInt64 (oid + UInt64.ofNat k))
  attr : ∀ r ∈ s.db.attr, r ∈ d.attr
  coll : ∀ r ∈ s.db.coll, r ∈ d.coll

/-- All of them are there. -/
structure Created (d : Db) (pid oid : UInt64) (n : Nat) (s : Target) : Prop
    extends Growth d pid oid n s where
  rows : ∀ k < n, userRow pid (oid + UInt64.ofNat k) ∈ s.db.obj
  fresh : ∀ k < n, ¬ d.Has (bindInt64 pid) (bindInt64 (oid + UInt64.ofNat k))

theorem Growth.mono {d : Db} {pid oid : UInt64} {m n : Nat} (h : Growth d pid oid m s) (hmn : m ≤ n) :
    Growth d pid oid n s where
  keeps := h.keeps
  only r hr := (h.only r hr).imp_right fun ⟨k, hk, he⟩ => ⟨k, by omega, he⟩
  attr := h.attr
  coll := h.coll

theorem Growth.refl (pid oid : UInt64) (n : Nat) (s : Target) : Growth s.db pid oid n s :=
  ⟨fun _ => id, fun _ => .inl, fun _ => id, fun _ => id⟩

theorem created_zero (pid oid : UInt64) (s : Target) : Created s.db pid oid 0 s :=
  { Growth.refl pid oid 0 s with
    rows := fun _ hk => absurd hk (Nat.not_lt_zero _)
    fresh := fun _ hk => absurd hk (Nat.not_lt_zero _) }

/-- The next row goes in. -/
theorem Created.insert {d : Db} {pid oid : UInt64} {m : Nat} (h : Created d pid oid m s)
    (hfree : ¬ s.db.Has (bindInt64 pid) (bindInt64 (oid + UInt64.ofNat m))) :
    Created d pid oid (m + 1) (s.setObj (s.db.obj ++ [userRow pid (oid + UInt64.ofNat m)])) := by
  have hd : ¬ d.Has (bindInt64 pid) (bindInt64 (oid + UInt64.ofNat m)) := by
    rintro ⟨r, hr, hk⟩
    exact hfree ⟨r, h.keeps r hr, hk⟩
  refine ⟨⟨fun r hr => ?_, fun r hr => ?_, h.attr, h.coll⟩, fun k hk => ?_, fun k hk => ?_⟩
  · exact List.mem_append_left _ (h.keeps r hr)
  · rcases List.mem_append.1 hr with hr | hr
    · exact (h.mono (Nat.le_succ m)).only r hr
    · exact .inr ⟨m, Nat.lt_succ_self m, List.mem_singleton.1 hr, hd⟩
  · rcases Nat.lt_succ_iff_lt_or_eq.1 hk with hk | rfl
    · exact List.mem_append_left _ (h.rows k hk)
    · exact List.mem_append_right _ (List.mem_singleton.2 rfl)
  · rcases Nat.lt_succ_iff_lt_or_eq.1 hk with hk | rfl
    · exact h.fresh k hk
    · exact hd

/-- Rows of an object that `d` did not have may go. -/
theorem Growth.delete {d : Db} {pid oid i : UInt64} {n : Nat} {s s' : Target}
    (h : Growth d pid oid n s) (hi : ¬ d.Has (bindInt64 pid) (bindInt64 i))
    (hobj : s'.db.obj = s.db.obj ∨
      s'.db.obj = deleteWhere (fun r => r.pid = bindInt64 pid ∧ r.oid = bindInt64 i) s.db.obj)
    (hattr : ∀ r ∈ s'.db.attr, r ∈ s.db.attr) (hcoll : ∀ r ∈ s'.db.coll, r ∈ s.db.coll) :
    Growth d pid oid n s' := by
  refine ⟨fun r hr => ?_, fun r hr => h.only r ?_, fun r hr => h.attr r (hattr r hr),
    fun r hr => h.coll r (hcoll r hr)⟩
  · rcases hobj with ho | ho <;> rw [ho]
    · exact h.keeps r hr
    · exact mem_deleteWhere.2 ⟨h.keeps r hr, fun hk => hi ⟨r, hr, hk⟩⟩
  · rcases hobj with ho | ho <;> rw [ho] at hr
    · exact hr
    · exact (mem_deleteWhere.1 hr).1

/-- The removals that undo the first `m` creations. -/
theorem Growth.rollback {d : Db} {pid oid : UInt64} {m n : Nat} (h : Growth d pid oid n s)
    (hfresh : ∀ k < m, ¬ d.Has (bindInt64 pid) (bindInt64 (oid + UInt64.ofNat k))) :
    Ends (osdRemoveTmpObjects env pid m oid) s (fun _ s' => Growth d pid oid n s') := by
  refine osdRemoveTmpObjects_invariant m oid (fun k hk t ht => ?_) h
  refine (osdRemove_spec pid _).mono fun _ t' h => ?_
  rcases h with ⟨-, rfl⟩ | ⟨-, -, hrem⟩
  · exact ht
  · exact ht.delete (hfresh k hk) (hrem.obj.imp And.right And.left) hrem.attr hrem.coll

/-- A data file is created where there is none, under a root path that can be read. -/
theorem osdCreateDatafile_ends {pid oid : UInt64} {Q : Ret → Target → Prop}
    (hok : (s.rootFreed && env.rootGarbled) = false → s.files pid oid = none →
      Q .ok (s.setFile pid oid (some [])))
    (herr : ∀ e, Q (.err e) s) : Ends (osdCreateDatafile env pid oid) s Q := by
  refine ends_bind.2 (ends_get.2 (ends_ite_of (fun _ => ends_pure.2 (herr _)) fun _ =>
    ends_ite_of (fun _ => ends_pure.2 (herr _)) fun hlookup =>
    ends_ite_of (fun _ => ends_pure.2 (herr _)) fun hcreat => ?_))
  have hroot : (s.rootFreed && env.rootGarbled) = false :=
    (Bool.or_eq_false_iff.1 (Bool.eq_false_iff.2 hcreat)).2
  have hnone : s.files pid oid = none := by
    unfold Target.lookup at hlookup
    rw [hroot, if_neg nofun] at hlookup
    exact Option.not_isSome_iff_eq_none.1 hlookup
  exact ends_bind.2 (ends_set.2 (ends_pure.2 (hok hroot hnone)))

theorem sub_ofNat_toNat {oid : UInt64} {m : Nat} (hm : m < 2 ^ 64) :
    (oid + UInt64.ofNat m - oid).toNat = m := by
  rw [UInt64.add_comm, UInt64.add_sub_cancel, UInt64.toNat_ofNat_of_lt' hm]

/-- **The loop.**  With the first `m` ids created, `n` more either all follow or none stays. -/
theorem createLoop_spec {d : Db} {pid oid : UInt64} (n : Nat) {m : Nat} (h : Created d pid oid m s)
    (hmn : m + n < 2 ^ 64) : Ends (createLoop env pid oid n (oid + UInt64.ofNat m)) s (fun r s' =>
      Growth d pid oid (m + n) s' ∧ (r = none → Created d pid oid (m + n) s' ∧ s'.ic = s.ic)) := by
  induction n generalizing s m with
  | zero => exact ends_pure.2 ⟨h.toGrowth, fun _ => ⟨h, rfl⟩⟩
  | succ n ih =>
    let i := oid + UInt64.ofNat m
    have hundo : ∀ t, Growth d pid oid (m + (n + 1)) t →
        Ends (osdRemoveTmpObjects env pid (i - oid).toNat oid >>= fun _ => pure (some i)) t (fun r s' =>
          Growth d pid oid (m + (n + 1)) s' ∧
            (r = none → Created d pid oid (m + (n + 1)) s' ∧ s'.ic = s.ic)) := by
      intro t ht
      have hm : (i - oid).toNat = m := sub_ofNat_toNat (by omega)
      rw [hm]
      exact ends_call (ht.rollback h.fresh) fun _ t' ht' => ends_pure.2 ⟨ht', nofun⟩
    refine ends_bind.2 (objInsert_ends (fun hfree => ?_) fun _ => ?_)
    · refine ends_ite_of (fun h => absurd rfl h) fun _ => ?_
      have hnew := h.insert hfree
      refine ends_bind.2 (osdCreateDatafile_ends (fun _ _ => ?_) fun e => ?_)
      · -- the file is there: on to the next id
        refine ends_ite_of (fun h => absurd rfl h) fun _ => ?_
        have hc : Created d pid oid (m + 1) ((s.setObj (s.db.obj ++ [userRow pid i])).setFile
            pid i (some [])) :=
          { hnew with }
        have hnext : i + 1 = oid + UInt64.ofNat (m + 1) := by
          rw [UInt64.ofNat_add, ← UInt64.add_assoc]
          rfl
        have hlen : m + 1 + n = m + (n + 1) := by omega
        rw [hnext, ← hlen]
        exact ih hc (by omega)
      · -- the file is not: the row goes again
        refine ends_ite_of (fun _ => ?_) fun h => absurd (by simp) h
        have hg := hnew.toGrowth.mono (show m + 1 ≤ m + (n + 1) by omega)
        have hi := hnew.fresh m (Nat.lt_succ_self m)
        refine ends_bind.2 (objDelete_ends ?_ fun _ => hundo _ hg)
        exact hundo _ (hg.delete hi (.inr rfl) (fun _ => id) fun _ => id)
    · refine ends_ite_of (fun _ => ?_) fun h => absurd (by simp) h
      exact hundo s (h.toGrowth.mono (Nat.le_add_right m _))

/-! ## CREATE and CREATE AND WRITE -/

theorem isUserobjectId_le {pid oid : UInt64} (h : isUserobjectId pid oid = true) :
    USEROBJECT_OID_LB ≤ oid := by
  have hand := Bool.and_eq_true _ _ ▸ h
  exact of_decide_eq_true hand.2


/-- `if (numoid == 0) numoid = 1`. -/
def atLeastOne (numoid : UInt16) : UInt16 := if numoid = 0 then 1 else numoid

/-- Not several is one. -/
theorem atLeastOne_eq_one {numoid : UInt16} (h : ¬ 1 < numoid) : atLeastOne numoid = 1 := by
  unfold atLeastOne
  split
  · rfl
  · next h0 =>
    have hle : ¬ 1 < numoid.toNat := fun hlt => h (UInt16.lt_iff_toNat_lt.2 hlt)
    have h0 : numoid.toNat ≠ 0 := fun hz => h0 (UInt16.toNat_inj.1 hz)
    exact UInt16.toNat_inj.1 (show numoid.toNat = 1 by omega)

theorem createCount_le (oid : UInt64) (numoid : UInt16) : createCount oid numoid ≤ numoid.toNat := by
  unfold createCount
  split
  · exact Nat.le_refl _
  · exact Nat.zero_le _

/-- What CREATE can do. -/
inductive CreateStep (pid requested : UInt64) (numoid : UInt16) (s : Target) : Target → Prop
  | rejected {s' : Target} (db : s'.db = s.db) (ic : s'.ic = s.ic ∨ s'.ic = IdCache.zero) :
    CreateStep pid requested numoid s s'
  | ran {s' : Target} (oid : UInt64) (ic : IdCache) (hpid : USEROBJECT_PID_LB ≤ pid)
    (partition : s.db.Has (bindInt64 pid) 0) (single : requested ≠ 0 → atLeastOne numoid = 1)
    (pick : s.Picks pid requested USEROBJECT_OID_LB oid ic)
    (growth : Growth s.db pid oid (createCount oid (atLeastOne numoid)) s')
    (done : s'.ic = IdCache.zero ∨
      Created s.db pid oid (createCount oid (atLeastOne numoid)) s' ∧
        s'.ic = ⟨ic.curPid, ic.nextId + ((atLeastOne numoid).toUInt64 - 1)⟩) :
    CreateStep pid requested numoid s s'

theorem createFrom_spec {pid requested oid : UInt64} {numoid : UInt16} {ic : IdCache}
    (hpid : USEROBJECT_PID_LB ≤ pid) (hpart : s.db.Has (bindInt64 pid) 0)
    (hone : requested ≠ 0 → atLeastOne numoid = 1)
    (hpick : s.Picks pid requested USEROBJECT_OID_LB oid ic) :
    Ends (createFrom env pid requested oid numoid) { s with ic }
      (fun ret s' => CreateStep pid requested numoid s s' ∧ (ret = .ok → requested ≠ 0 →
        ¬ s.db.Has (bindInt64 pid) (bindInt64 requested))) := by
  let n := createCount oid (atLeastOne numoid)
  have hn : n < 2 ^ 64 := by
    have h1 := createCount_le oid (atLeastOne numoid)
    have h2 := (atLeastOne numoid).toNat_lt
    omega
  have hloop : Ends (createLoop env pid oid n (oid + UInt64.ofNat 0)) { s with ic } _ :=
    createLoop_spec n (created_zero pid oid { s with ic }) (by omega)
  rw [show UInt64.ofNat 0 = 0 from rfl, UInt64.add_zero, Nat.zero_add] at hloop
  refine ends_call hloop fun r t ⟨hg, hall⟩ => ?_
  cases r with
  | some i =>
    refine ends_bind.2 (ends_modify.2 (ends_pure.2 ⟨?_, nofun⟩))
    exact .ran oid ic hpid hpart hone hpick { hg with } (.inl rfl)
  | none =>
    obtain ⟨hc, hic⟩ := hall rfl
    refine ends_bind.2 (ends_modify.2 (ends_bind.2 (ends_modify.2 (ends_pure.2 ⟨?_, fun _ h0 => ?_⟩))))
    · refine .ran oid ic hpid hpart hone hpick { hg with } (.inr ⟨{ hc with }, ?_⟩)
      show IdCache.mk t.ic.curPid _ = _
      rw [hic]
      rfl
    · rcases hpick with ⟨h, -⟩ | ⟨-, rfl, -, hfree, -⟩
      · exact absurd h h0
      · exact hfree

/-- CREATE refuses its arguments, or it takes an id and goes on. -/
theorem osdCreate_ends {pid requested : UInt64} {numoid : UInt16} {Q : Ret → Target → Prop}
    (hrej : ∀ ret ic, ret ≠ .ok → ic = s.ic ∨ ic = IdCache.zero → Q ret { s with ic })
    (hfrom : ∀ oid ic, USEROBJECT_PID_LB ≤ pid → s.db.Has (bindInt64 pid) 0 →
      (requested ≠ 0 → atLeastOne numoid = 1) → s.Picks pid requested USEROBJECT_OID_LB oid ic →
      Ends (createFrom env pid requested oid numoid) { s with ic } Q) :
    Ends (osdCreate env pid requested numoid) s Q := by
  have hcdb : Ends (pure (cdbErr pid requested) : OsdM Ret) s Q :=
    ends_pure.2 (hrej _ s.ic nofun (.inl rfl))
  refine ends_ite_of (fun _ => hcdb) fun hpid => ends_ite_of (fun _ => hcdb) fun hlow => ?_
  refine ends_bind.2 (objIspresent_ends ?_ (ends_ite_of (fun _ => hcdb)
    fun h => absurd (.inl (by simp)) h))
  refine ends_ite_of (fun _ => hcdb) fun hp => ends_ite_of (fun _ => hcdb) fun hnum => ?_
  have hlb : USEROBJECT_PID_LB ≤ pid := UInt64.not_lt.1 fun h => hpid (.inr h)
  have hpart : s.db.Has (bindInt64 pid) 0 := has_of_present hp
  have hone : requested ≠ 0 → atLeastOne numoid = 1 := fun hr =>
    atLeastOne_eq_one fun hlt => hnum ⟨hlt, hr⟩
  refine ends_ite_of (fun h0 => ends_bind.2 (chooseId_ends ?_ ?_)) fun h0 => ?_
  · exact fun _ => hfrom _ _ hlb hpart hone (.inl ⟨h0, rfl, rfl⟩)
  · exact fun _ => ends_bind.2 (ends_modify.2 (ends_pure.2 (hrej _ _ nofun (.inr rfl))))
  · refine ends_bind.2 (takeRequestedId_ends (fun _ => hcdb) fun hfree => ?_)
    have hge : USEROBJECT_OID_LB ≤ requested := UInt64.not_lt.1 fun h => hlow ⟨h0, h⟩
    exact hfrom _ _ hlb hpart hone (.inr ⟨h0, rfl, hge, hfree.2, rfl⟩)

/-- **`osd_create`.** -/
theorem osdCreate_spec (pid requested : UInt64) (numoid : UInt16) :
    Ends (osdCreate env pid requested numoid) s
      (fun ret s' => CreateStep pid requested numoid s s' ∧ (ret = .ok → requested ≠ 0 →
        ¬ s.db.Has (bindInt64 pid) (bindInt64 requested))) :=
  osdCreate_ends (fun _ _ hno hic => ⟨.rejected rfl hic, fun h => absurd h hno⟩)
    fun _ _ => createFrom_spec

section Write

variable {R : Target → Target → Prop} [Stays R] {pid oid : UInt64}

/-- Writing a file leaves the tables alone. -/
theorem resp_pwriteFile (hf : AdmitsFile R pid oid) (off len : UInt64) (src : Mem) :
    Respects R (pwriteFile env pid oid off len src) := by
  intro s
  refine ends_bind.2 (ends_get.2 ?_)
  cases hc : s.lookup env pid oid with
  | none => exact ends_pure.2 (Stays.refl R s)
  | some c =>
    cases env.pwrite pid oid off len with
    | none => exact ends_pure.2 (Stays.refl R s)
    | some limit =>
      refine ends_ite_of (fun _ => ends_pure.2 (Stays.refl R s)) fun _ => ?_
      exact ends_bind.2 (ends_set.2 (ends_pure.2 (hf s c _ (Target.files_of_lookup hc))))

theorem resp_finishWrite (appendOff : UInt64) : Respects R (finishWrite env pid oid appendOff) :=
  respects_ite (resp_pure _) (resp_bind (resp_setCcap _) fun _ => resp_pure _)

theorem resp_sglWriteLoop (hf : AdmitsFile R pid oid) (offset : UInt64) (dinbuf : Mem)
    (sglist : SgList) (n i : Nat) (dataOffset : UInt64) :
    Respects R (sglWriteLoop env pid oid offset dinbuf sglist n i dataOffset) := by
  induction n generalizing i dataOffset with
  | zero => exact resp_pure _
  | succ n ih =>
    exact resp_bind (resp_pwriteFile hf _ _ _) fun _ => respects_ite (resp_pure _) (ih _ _)

theorem resp_vecWriteLoop (hf : AdmitsFile R pid oid) (offset stride : UInt64) (dinbuf : Mem)
    (fuel : Nat) (bytes length dataOffset offsetVal : UInt64) :
    Respects R (vecWriteLoop env pid oid offset stride dinbuf fuel bytes length dataOffset offsetVal) := by
  induction fuel generalizing bytes length dataOffset offsetVal with
  | zero => exact resp_never
  | succ fuel ih =>
    exact respects_ite (resp_pure _)
      (resp_bind (resp_pwriteFile hf _ _ _) fun _ => respects_ite (resp_pure _) (ih _ _ _ _))

theorem resp_openFile : Respects R (openFile env pid oid) := resp_bind resp_get fun _ => resp_pure _

theorem resp_contigWrite (hf : AdmitsFile R pid oid) (len offset : UInt64) (dinbuf : Mem) :
    Respects R (contigWrite env pid oid len offset dinbuf) :=
  respects_ite (resp_pure _) (resp_bind resp_openFile fun _ => respects_ite (resp_pure _)
    (resp_bind (resp_pwriteFile hf _ _ _) fun _ => respects_ite (resp_pure _) (resp_finishWrite _)))

theorem resp_sglWrite (hf : AdmitsFile R pid oid) (offset : UInt64) (dinbuf : Mem) (sglist : SgList) :
    Respects R (sglWrite env pid oid offset dinbuf sglist) := by
  refine respects_ite (resp_pure _) (resp_bind resp_openFile fun _ => respects_ite (resp_pure _)
    (resp_bind (resp_sglWriteLoop hf _ _ _ _ _ _) fun r => ?_))
  cases r with
  | none => exact resp_pure _
  | some _ => exact respects_ite resp_never (resp_finishWrite _)

theorem resp_vecWrite (hf : AdmitsFile R pid oid) (len offset : UInt64) (dinbuf : Mem) :
    Respects R (vecWrite env pid oid len offset dinbuf) := by
  refine respects_ite (resp_pure _) (resp_bind resp_openFile fun _ => respects_ite (resp_pure _)
    (resp_bind (resp_vecWriteLoop hf _ _ _ _ _ _ _ _) fun r => ?_))
  cases r with
  | none => exact resp_pure _
  | some _ => exact resp_finishWrite _

theorem resp_osdWrite (hf : AdmitsFile R pid oid) (len offset : UInt64) (dinbuf : Mem)
    (sglist : SgList) (ddt : UInt8) :
    Respects R (osdWrite env pid oid len offset dinbuf sglist ddt) :=
  respects_ite (resp_contigWrite hf _ _ _) (respects_ite (resp_sglWrite hf _ _ _)
    (respects_ite (resp_vecWrite hf _ _ _) (resp_pure _)))

end Write

/-- What CREATE AND WRITE can do: the write changes no table, and REMOVE of a requested id, which was
free, may follow. -/
def CreateAndWriteStep (env : Env) (pid oid : UInt64) (s s' : Target) : Prop :=
  CreateStep pid oid 1 s s' ∨ ∃ t v, CreateStep pid oid 1 s t ∧ AttrStep (fun _ _ => False) t v ∧
    (s' = v ∨ Removes (bindInt64 pid) (bindInt64 oid)
      (fun r => r.pid = bindInt64 pid ∧ r.oid = bindInt64 oid) env.SomeDeleteFails v s' ∧
      USEROBJECT_OID_LB ≤ oid ∧ ¬ s.db.Has (bindInt64 pid) (bindInt64 oid))

theorem osdCreateAndWrite_spec (pid oid len offset : UInt64) (data : Mem) (sglist : SgList)
    (ddt : UInt8) : Ends (osdCreateAndWrite env pid oid len offset data sglist ddt) s
      (fun _ s' => CreateAndWriteStep env pid oid s s') := by
  refine ends_call (osdCreate_spec pid oid 1) fun ret t ⟨ht, hfree⟩ =>
    ends_ite_of (fun _ => ends_pure.2 (.inl ht)) fun hok => ?_
  have hfree := hfree (Decidable.not_not.1 hok)
  refine ends_call (resp_osdWrite (AttrStep.admitsFile (fun _ _ => False) pid oid) len offset
    data sglist ddt t)
    fun ret v hv => ?_
  dsimp only
  refine ends_ite_of (fun _ => ?_) fun _ => ends_pure.2 (.inr ⟨t, v, ht, hv, .inl rfl⟩)
  refine ends_call (osdRemove_spec pid oid) fun _ s' h => ends_pure.2 (.inr ⟨t, v, ht, hv, ?_⟩)
  rcases h with ⟨-, rfl⟩ | ⟨hid, -, h⟩
  · exact .inl rfl
  · have hlb := isUserobjectId_le hid
    refine .inr ⟨h, hlb, hfree ?_⟩
    rintro rfl
    exact absurd hlb (by decide)

/-! ## Creating collections -/

def collectionRow (pid cid : UInt64) : ObjRow := ⟨bindInt64 pid, bindInt64 cid, .collection⟩

/-- SQLite refuses the row of a collection on a key conflict only. -/
def Env.InsertsCollections (env : Env) : Prop :=
  ∀ r d, r.type = .collection → env.dmsFails (.objInsert r) d = false

/-- Memberships a new collection takes over from `source`. -/
def CopiedRow (d : Db) (pid cid source : UInt64) (r : CollRow) : Prop :=
  source ≠ 0 ∧ r.pid = bindInt64 pid ∧ r.cid = bindInt64 cid ∧
    ∃ m ∈ d.coll, m.pid = bindInt64 pid ∧ m.cid = bindInt64 source ∧ m.oid = r.oid

/-- What the two commands that create a collection can do; CREATE COLLECTION has no source. -/
inductive CollectionStep (env : Env) (pid requested : UInt64) (source : Option UInt64) (s : Target) :
    Target → Prop
  | rejected {s' : Target} (db : s'.db = s.db) (ic : s'.ic = s.ic ∨ s'.ic = IdCache.zero) :
    CollectionStep env pid requested source s s'
  | ran {s' : Target} (cid : UInt64) (hpid : COLLECTION_PID_LB ≤ pid)
    (partition : s.db.Has (bindInt64 pid) 0)
    (pick : s.Picks pid requested COLLECTION_OID_LB cid s'.ic)
    (attr : s'.db.attr = s.db.attr)
    (coll : ∀ r ∈ s'.db.coll, r ∈ s.db.coll ∨ ∃ src, source = some src ∧ CopiedRow s.db pid cid src r)
    (obj : ¬ s.db.Has (bindInt64 pid) (bindInt64 cid) ∧
        s'.db.obj = s.db.obj ++ [collectionRow pid cid] ∨
      ((∃ d, env.dmsFails (.objInsert (collectionRow pid cid)) d = true) ∨
        s.db.Has (bindInt64 pid) (bindInt64 cid)) ∧ s'.db.obj = s.db.obj) :
    CollectionStep env pid requested source s s'

theorem insertCollection_ends {pid cid requested : UInt64} {Q : Ret → Target → Prop}
    (hok : env.Inserts s.db (collectionRow pid cid) → Q .ok
      { s.setObj (s.db.obj ++ [collectionRow pid cid]) with ccap := fillCcap .collection pid cid 0 })
    (hno : ∀ ret, ret ≠ .ok → ¬ env.Inserts s.db (collectionRow pid cid) → Q ret s) :
    Ends (insertCollection env pid cid requested) s Q := by
  refine ends_bind.2 (objInsert_inserts (fun h => ?_) fun h => ?_)
  · exact ends_ite_of (fun h => absurd rfl h) fun _ => ends_bind.2 (ends_modify.2 (ends_pure.2 (hok h)))
  · exact ends_ite_of (fun _ => ends_pure.2 (hno _ nofun h)) fun h => absurd (by simp) h

/-- The tests of CREATE COLLECTION pass, and there is an id to take. -/
structure Env.AdmitsCollection (env : Env) (s : Target) (pid requested : UInt64) : Prop where
  pid_lb : COLLECTION_PID_LB ≤ pid
  requested_lb : requested ≠ 0 → COLLECTION_OID_LB ≤ requested
  asked : env.queryFails (.objIspresent (bindInt64 pid) 0) s.db = false
  partition : s.db.Has (bindInt64 pid) 0
  chooses : requested = 0 → env.Chooses s pid
  free : requested ≠ 0 → env.FindsFree s.db (bindInt64 pid) (bindInt64 requested)

/-- CREATE COLLECTION refuses its arguments, or it takes an id and inserts the row. -/
theorem osdCreateCollection_ends {pid requested : UInt64} {Q : Ret → Target → Prop}
    (hrej : ∀ ret ic, ret ≠ .ok → ic = s.ic ∨ ic = IdCache.zero →
      ¬ env.AdmitsCollection s pid requested → Q ret { s with ic })
    (hinsert : ∀ cid ic, env.AdmitsCollection s pid requested →
      s.Picks pid requested COLLECTION_OID_LB cid ic →
      Ends (insertCollection env pid cid requested) { s with ic } Q) :
    Ends (osdCreateCollection env pid requested) s Q := by
  have hcdb : ¬ env.AdmitsCollection s pid requested → Ends (pure (cdbErr requested 0) : OsdM Ret) s Q :=
    fun h => ends_pure.2 (hrej _ s.ic nofun (.inl rfl) h)
  refine ends_ite_of (fun h => hcdb fun ha => ?_) fun hpid =>
    ends_ite_of (fun h => hcdb fun ha => absurd h.2 (UInt64.not_lt.2 (ha.requested_lb h.1))) fun hlow => ?_
  · rcases h with rfl | h
    · exact absurd ha.pid_lb (by decide)
    · exact absurd h (UInt64.not_lt.2 ha.pid_lb)
  refine ends_bind.2 (dbExecQuery_ends (fun hq => ?_) fun hq => ends_ite_of
    (fun _ => hcdb fun ha => absurd (hq.symm.trans ha.asked) nofun) fun h => absurd (.inl (by simp)) h)
  refine ends_ite_of (fun h => hcdb fun ha => ?_) fun hp => ?_
  · rcases h with h | h
    · exact absurd rfl h
    · exact h (decide_eq_true ha.partition)
  have hlb : COLLECTION_PID_LB ≤ pid := UInt64.not_lt.1 fun h => hpid (.inr h)
  have hpart : s.db.Has (bindInt64 pid) 0 := has_of_present hp
  have hge : requested ≠ 0 → COLLECTION_OID_LB ≤ requested :=
    fun h0 => UInt64.not_lt.1 fun h => hlow ⟨h0, h⟩
  refine ends_ite_of (fun h0 => ends_bind.2 (chooseId_ends (fun hc => ?_) fun hc => ?_)) fun h0 => ?_
  · exact hinsert _ _ ⟨hlb, hge, hq, hpart, fun _ => hc, fun h => absurd h0 h⟩ (.inl ⟨h0, rfl, rfl⟩)
  · exact ends_bind.2 (ends_modify.2 (ends_pure.2 (hrej _ _ nofun (.inr rfl) fun ha => hc (ha.chooses h0))))
  · refine ends_bind.2 (takeRequestedId_ends (fun hf => hcdb fun ha => hf (ha.free h0)) fun hf => ?_)
    exact hinsert _ _ ⟨hlb, hge, hq, hpart, fun h => absurd h h0, fun _ => hf⟩
      (.inr ⟨h0, rfl, hge h0, hf.2, rfl⟩)

/-- Why the row of a collection is missing. -/
theorem collectionRow_missing {d : Db} {pid cid : UInt64} (h : ¬ env.Inserts d (collectionRow pid cid)) :
    (∃ d, env.dmsFails (.objInsert (collectionRow pid cid)) d = true) ∨
      d.Has (bindInt64 pid) (bindInt64 cid) :=
  (env.fails_of_not_inserts h).imp_left fun h => ⟨_, h⟩

theorem osdCreateCollection_spec (pid requested : UInt64) :
    Ends (osdCreateCollection env pid requested) s
      (fun _ s' => CollectionStep env pid requested none s s') := by
  refine osdCreateCollection_ends (fun _ _ _ hic _ => .rejected rfl hic) fun cid ic ha hpick => ?_
  refine insertCollection_ends (fun hins => ?_) fun _ _ h => ?_
  · exact .ran cid ha.pid_lb ha.partition hpick rfl (fun _ => .inl) (.inl ⟨hins.2, rfl⟩)
  · exact .ran cid ha.pid_lb ha.partition hpick rfl (fun _ => .inl) (.inr ⟨collectionRow_missing h, rfl⟩)

theorem mem_foldlM_insertColl {l t t' : List CollRow} {x : CollRow}
    (h : l.foldlM (fun t r => insertColl r t) t = some t') (hx : x ∈ t') : x ∈ t ∨ x ∈ l := by
  induction l generalizing t with
  | nil =>
    cases h
    exact .inl hx
  | cons r l ih =>
    simp only [List.foldlM_cons, Option.bind_eq_bind, Option.bind_eq_some_iff] at h
    obtain ⟨t1, h1, h⟩ := h
    rcases ih h with h2 | h2
    · simp only [insertColl, Option.ite_none_left_eq_some, Option.some.injEq] at h1
      obtain ⟨-, rfl⟩ := h1
      rcases mem_insertReplace.1 h2 with h2 | rfl
      · exact .inl h2.1
      · exact .inr List.mem_cons_self
    · exact .inr (List.mem_cons_of_mem _ h2)

theorem collCopyoids_ends {pid cid source : UInt64} {Q : Ret → Target → Prop}
    (hsrc : source ≠ 0) (hok : ∀ t, (∀ r ∈ t, r ∈ s.db.coll ∨ CopiedRow s.db pid cid source r) →
      Q .ok (s.setColl t)) (herr : Q (.err .osdError) s) :
    Ends (collCopyoids env pid cid source) s Q := by
  refine dbExecDms_ends (fun d _ hd => ?_) fun _ => herr
  simp only [Dms.run, Option.map_eq_some_iff] at hd
  obtain ⟨t, ht, rfl⟩ := hd
  refine hok t fun r hr => (mem_foldlM_insertColl ht hr).imp_right fun h => ?_
  simp only [copiedRows, List.mem_map, List.mem_filter, decide_eq_true_eq] at h
  obtain ⟨m, ⟨hm, hp, hc⟩, rfl⟩ := h
  exact ⟨hsrc, rfl, rfl, m, hm, hp, hc, rfl⟩

theorem osdCreateUserTrackingCollection_spec (pid requested source : UInt64) (cdbContLen : UInt32) :
    Ends (osdCreateUserTrackingCollection env pid requested source cdbContLen) s
      (fun _ s' => CollectionStep env pid requested (some source) s s') := by
  have hrej : ∀ e : Ret, Ends (pure e : OsdM Ret) s
      (fun _ s' => CollectionStep env pid requested (some source) s s') :=
    fun _ => ends_pure.2 (.rejected rfl (.inl rfl))
  refine ends_ite_of (fun _ => hrej _) fun hpid => ends_ite_of (fun _ => hrej _) fun hlow => ?_
  refine ends_bind.2 (objIspresent_ends ?_ (ends_ite_of (fun _ => hrej _)
    fun h => absurd (.inl (by simp)) h))
  refine ends_ite_of (fun _ => hrej _) fun hp => ?_
  have hlb : COLLECTION_PID_LB ≤ pid := UInt64.not_lt.1 fun h => hpid (.inr h)
  have hpart : s.db.Has (bindInt64 pid) 0 := has_of_present hp
  refine ends_bind.2 (objIspresent_ends ?_ (ends_ite_of (fun _ => hrej _)
    fun h => absurd (.inl (by simp)) h))
  refine ends_ite_of (fun _ => hrej _) fun _ => ends_ite_of (fun _ => hrej _) fun _ =>
    ends_ite_of (fun _ => hrej _) fun _ => ?_
  have hinsert : ∀ cid ic t, s.Picks pid requested COLLECTION_OID_LB cid ic →
      (∀ r ∈ t, r ∈ s.db.coll ∨ ∃ src, some source = some src ∧ CopiedRow s.db pid cid src r) →
      Ends (insertCollection env pid cid requested) (({ s with ic } : Target).setColl t)
        (fun _ s' => CollectionStep env pid requested (some source) s s') := by
    intro cid ic t hpick ht
    refine insertCollection_ends (fun hins => ?_) fun _ _ h => ?_
    · exact .ran cid hlb hpart hpick rfl ht (.inl ⟨hins.2, rfl⟩)
    · have hmiss := collectionRow_missing h
      exact .ran cid hlb hpart hpick rfl ht (.inr ⟨hmiss, rfl⟩)
  have hend : ∀ cid ic, s.Picks pid requested COLLECTION_OID_LB cid ic →
      Ends (fillTrackingCollection env pid cid requested source) { s with ic }
        (fun _ s' => CollectionStep env pid requested (some source) s s') := by
    intro cid ic hpick
    refine ends_ite_of (fun hsrc => ?_) fun _ => hinsert cid ic s.db.coll hpick fun _ => .inl
    refine ends_bind.2 (collCopyoids_ends hsrc (fun t ht => ?_) ?_)
    · exact ends_ite_of (fun h => absurd rfl h) fun _ =>
        hinsert cid ic t hpick fun r hr => (ht r hr).imp_right fun h => ⟨source, rfl, h⟩
    · exact ends_ite_of (fun _ => ends_bind.2 (ends_modify.2 (ends_pure.2 (.rejected rfl (.inr rfl)))))
        fun h => absurd (by simp) h
  refine ends_ite_of (fun h0 => ends_bind.2 (chooseId_ends ?_ ?_)) fun h0 => ?_
  · exact fun _ => hend _ _ (.inl ⟨h0, rfl, rfl⟩)
  · exact fun _ => ends_bind.2 (ends_modify.2 (ends_pure.2 (.rejected rfl (.inr rfl))))
  · refine ends_bind.2 (takeRequestedId_ends (fun _ => hrej _) fun hfree => ?_)
    have hge : COLLECTION_OID_LB ≤ requested := UInt64.not_lt.1 fun h => hlow ⟨h0, h⟩
    exact hend _ _ (.inr ⟨h0, rfl, hge, hfree.2, rfl⟩)

/-! ## Creating partitions -/

def partitionRow (pid : UInt64) : ObjRow := ⟨bindInt64 pid, 0, .partition⟩

/-- The id CREATE PARTITION takes for a requested one. -/
def Target.partitionId (s : Target) (requested : UInt64) : UInt64 :=
  if requested = 0 then
    if columnInt64 s.db.maxPid + 1 = 1 then PARTITION_PID_LB else columnInt64 s.db.maxPid + 1
  else requested

/-- What CREATE PARTITION can do. -/
structure PartitionStep (requested : UInt64) (s s' : Target) : Prop where
  ic : s'.ic = s.ic
  attr : s'.db.attr = s.db.attr
  coll : s'.db.coll = s.db.coll
  obj : s'.db.obj = s.db.obj ∨ (requested ≠ 0 → PARTITION_PID_LB ≤ requested) ∧
    ¬ s.db.Has (bindInt64 (s.partitionId requested)) 0 ∧
    s'.db.obj = s.db.obj ++ [partitionRow (s.partitionId requested)]

/-- CREATE PARTITION creates the partition: its id is in range or can be chosen, and free. -/
structure Env.CreatesPartition (env : Env) (s : Target) (requested : UInt64) : Prop where
  requested_lb : requested ≠ 0 → PARTITION_PID_LB ≤ requested
  chooses : requested = 0 → env.queryFails .objNextpid s.db = false
  inserts : env.Inserts s.db (partitionRow (s.partitionId requested))

/-- The device with the partition. -/
def Target.withPartition (s : Target) (pid : UInt64) : Target :=
  { s.setObj (s.db.obj ++ [partitionRow pid]) with ccap := fillCcap .partition pid PARTITION_OID 0 }

/-- **`osd_create_partition`.** -/
theorem osdCreatePartition_ends {requested : UInt64} {Q : Ret → Target → Prop}
    (hno : ∀ ret, ret ≠ .ok → ¬ env.CreatesPartition s requested → Q ret s)
    (hok : env.CreatesPartition s requested → Q .ok (s.withPartition (s.partitionId requested))) :
    Ends (osdCreatePartition env requested) s Q := by
  refine ends_ite_of (fun h => ends_pure.2 (hno _ nofun fun hc => ?_)) fun hlow => ?_
  · exact absurd h.2 (UInt64.not_lt.2 (hc.requested_lb h.1))
  have hlb : requested ≠ 0 → PARTITION_PID_LB ≤ requested :=
    fun h0 => UInt64.not_lt.1 fun h => hlow ⟨h0, h⟩
  have hins : (requested = 0 → env.queryFails .objNextpid s.db = false) →
      Ends (insertPartition env (s.partitionId requested) requested) s Q := by
    refine fun hq => ends_bind.2 (objInsert_inserts (fun h => ?_) fun h => ?_)
    · exact ends_ite_of (fun h => absurd rfl h) fun _ =>
        ends_bind.2 (ends_modify.2 (ends_pure.2 (hok ⟨hlb, hq, h⟩)))
    · exact ends_ite_of (fun _ => ends_pure.2 (hno _ nofun fun hc => h hc.inserts)) fun h =>
        absurd (by simp) h
  refine ends_ite_of (fun h0 => ?_) fun h0 => ?_
  · rw [Target.partitionId, if_pos h0] at hins
    refine ends_bind.2 (dbExecQuery_ends (fun hq => hins fun _ => hq) fun hq =>
      ends_pure.2 (hno _ nofun ?_))
    exact fun hc => absurd (hq.symm.trans (hc.chooses h0)) nofun
  · rw [Target.partitionId, if_neg h0] at hins
    exact hins fun h => absurd h h0

theorem osdCreatePartition_spec (requested : UInt64) :
    Ends (osdCreatePartition env requested) s (fun _ s' => PartitionStep requested s s') :=
  osdCreatePartition_ends (fun _ _ _ => ⟨rfl, rfl, rfl, .inl rfl⟩) fun hc =>
    ⟨rfl, rfl, rfl, .inr ⟨hc.requested_lb, hc.inserts.2, rfl⟩⟩

/-! ## Termination -/

theorem halts_invalidateCache : Halts invalidateCache := halts_modify _

theorem halts_chooseId (pid lb : UInt64) : Halts (chooseId env pid lb) := by
  have hfirst : ∀ oid : UInt64, Halts (if oid = 1 then
      modify (fun s : Target => { s with ic := { s.ic with nextId := lb + 1 } }) >>= fun _ => pure (some lb)
      else pure (some oid) : OsdM (Option UInt64)) :=
    fun _ => halts_ite (halts_bind (halts_modify _) fun _ => halts_pure _) (halts_pure _)
  refine halts_bind halts_get fun s => halts_ite
    (halts_bind (halts_set _) fun _ => hfirst s.ic.nextId)
    (halts_bind (halts_dbExecQuery _ _ _) fun r => ?_)
  split
  · exact halts_bind (halts_modify _) fun _ => hfirst _
  · exact halts_pure none

theorem halts_takeRequestedId (pid requested : UInt64) : Halts (takeRequestedId env pid requested) :=
  halts_bind (halts_dbExecQuery _ _ _) fun _ => halts_ite (halts_pure _)
    (halts_bind halts_invalidateCache fun _ => halts_pure _)

theorem halts_insertCollection (pid cid requested : UInt64) :
    Halts (insertCollection env pid cid requested) :=
  halts_bind (halts_dbExecDms _) fun _ => halts_ite (halts_pure _)
    (halts_bind (halts_modify _) fun _ => halts_pure _)

theorem halts_osdCreateCollection (pid requested : UInt64) :
    Halts (osdCreateCollection env pid requested) := by
  refine halts_ite (halts_pure _) (halts_ite (halts_pure _) (halts_bind (halts_dbExecQuery _ _ _) fun _ =>
    halts_ite (halts_pure _) (halts_ite (halts_bind (halts_chooseId _ _) fun r => ?_)
      (halts_bind (halts_takeRequestedId _ _) fun _ =>
        halts_ite (halts_pure _) (halts_insertCollection _ _ _)))))
  cases r with
  | none => exact halts_bind halts_invalidateCache fun _ => halts_pure _
  | some cid => exact halts_insertCollection _ cid _

end OsdTarget
