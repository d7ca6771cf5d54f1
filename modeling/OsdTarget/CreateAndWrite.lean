import OsdTarget.CreateCommands
import OsdTarget.Layouts

/-!
# CREATE AND WRITE

Whether `osd_create_and_write` is all or nothing.  Where it creates an object for a requested id, a write
that fails is followed by REMOVE of that object.  Where it chooses the id itself, both the write and the
REMOVE are given the id 0 of the request, so the write fails and the object stays.
-/

namespace OsdTarget

open Base

variable {env : Env} {s t : Target} {pid requested : UInt64}

/-! ## Creating one object -/

/-- The tests of CREATE pass. -/
structure Env.AdmitsIds (env : Env) (s : Target) (pid requested : UInt64) : Prop where
  pid_lb : USEROBJECT_PID_LB ≤ pid
  requested_lb : requested ≠ 0 → USEROBJECT_OID_LB ≤ requested
  asked : env.queryFails (.objIspresent (bindInt64 pid) 0) s.db = false
  partition : s.db.Has (bindInt64 pid) 0
  free : requested ≠ 0 → env.FindsFree s.db (bindInt64 pid) (bindInt64 requested)

/-- They do, and there is an id to take. -/
structure Env.AdmitsUserobject (env : Env) (s : Target) (pid requested : UInt64) : Prop extends
    Env.AdmitsIds env s pid requested where
  chooses : requested = 0 → env.Chooses s pid

/-- The id CREATE takes for a requested one. -/
def Target.userobjectId (s : Target) (pid requested : UInt64) : UInt64 :=
  if requested = 0 then s.chosen pid USEROBJECT_OID_LB else requested

/-- The tables with the row of the object. -/
def Db.withUserobject (d : Db) (pid oid : UInt64) : Db := { d with obj := d.obj ++ [userRow pid oid] }

/-- The data file can be made. -/
structure Env.MakesFile (env : Env) (s : Target) (pid oid : UInt64) : Prop where
  stat : env.sysFails (.stat pid oid) = false
  absent : s.lookup env pid oid = none
  creat : env.sysFails (.creat pid oid) = false
  root : (s.rootFreed && env.rootGarbled) = false

/-- What becomes of CREATE for one object.  For the last of all ids the loop runs not at all. -/
inductive CreateResult (env : Env) (s : Target) (pid requested : UInt64) : Ret → Target → Prop
  | refused {t : Target} (ha : ¬ env.AdmitsIds s pid requested) (hdb : t.db = s.db)
      (hfiles : t.files = s.files) :
    CreateResult env s pid requested (cdbErr pid requested) t
  | notChosen {t : Target} (ha : env.AdmitsIds s pid requested) (h0 : requested = 0)
      (hc : ¬ env.Chooses s pid)
    (hdb : t.db = s.db) (hfiles : t.files = s.files) :
    CreateResult env s pid requested (hwErr pid requested) t
  | last {t : Target} (ha : env.AdmitsUserobject s pid requested)
    (hlast : s.userobjectId pid requested + 1 = 0) (hdb : t.db = s.db) (hfiles : t.files = s.files)
    (hroot : t.rootFreed = s.rootFreed) : CreateResult env s pid requested .ok t
  | notInserted {t : Target} (ha : env.AdmitsUserobject s pid requested)
    (hno : ¬ env.Inserts s.db (userRow pid (s.userobjectId pid requested)))
    (hlast : s.userobjectId pid requested + 1 ≠ 0) (hdb : t.db = s.db) (hfiles : t.files = s.files) :
    CreateResult env s pid requested (hwErr pid requested) t
  | notMade {ret : Ret} {t : Target} (ha : env.AdmitsUserobject s pid requested)
    (hlast : s.userobjectId pid requested + 1 ≠ 0)
    (hins : env.Inserts s.db (userRow pid (s.userobjectId pid requested)))
    (hno : ¬ env.MakesFile s pid (s.userobjectId pid requested)) (hret : ret ≠ .ok)
    (hdb : t.db = if env.dmsFails (.objDelete (bindInt64 pid) (bindInt64 (s.userobjectId pid requested)))
      (s.db.withUserobject pid (s.userobjectId pid requested)) then
        s.db.withUserobject pid (s.userobjectId pid requested) else s.db)
    (hfiles : t.files = s.files) : CreateResult env s pid requested ret t
  | made {t : Target} (ha : env.AdmitsUserobject s pid requested)
    (hlast : s.userobjectId pid requested + 1 ≠ 0)
    (hins : env.Inserts s.db (userRow pid (s.userobjectId pid requested)))
    (hmade : env.MakesFile s pid (s.userobjectId pid requested))
    (hdb : t.db = s.db.withUserobject pid (s.userobjectId pid requested))
    (hfiles : t.files = (s.setFile pid (s.userobjectId pid requested) (some [])).files)
    (hroot : t.rootFreed = s.rootFreed) : CreateResult env s pid requested .ok t

theorem createCount_one (oid : UInt64) : createCount oid 1 = if oid + 1 = 0 then 0 else 1 := by
  by_cases h : oid + 1 = 0
  · rw [if_pos h]
    refine createCount_wraps ?_
    have hlt := oid.toNat_lt
    have hsum := congrArg UInt64.toNat h
    rw [UInt64.toNat_add] at hsum
    have hsum : (oid.toNat + 1) % 2 ^ 64 = 0 := hsum
    show oid.toNat + 1 = 2 ^ 64
    omega
  · rw [if_neg h]
    refine createCount_eq (by decide) ?_
    have hlt := oid.toNat_lt
    by_contra hge
    refine h (UInt64.toNat_inj.1 ?_)
    rw [UInt64.toNat_add]
    have hge : ¬ oid.toNat + 1 < 2 ^ 64 := hge
    show (oid.toNat + 1) % 2 ^ 64 = 0
    omega

/-- The row that was inserted is the one that is deleted. -/
theorem deleteWhere_withUserobject {d : Db} {oid : UInt64}
    (hfree : ¬ d.Has (bindInt64 pid) (bindInt64 oid)) :
    deleteWhere (fun r => r.pid = bindInt64 pid ∧ r.oid = bindInt64 oid)
      (d.withUserobject pid oid).obj = d.obj := by
  let q : ObjRow → Prop := fun r => r.pid = bindInt64 pid ∧ r.oid = bindInt64 oid
  have hold : deleteWhere q d.obj = d.obj :=
    List.filter_eq_self.2 fun r hr => decide_eq_true fun h => hfree ⟨r, hr, h.1, h.2⟩
  have hnew : deleteWhere q [userRow pid oid] = [] :=
    List.filter_eq_nil_iff.2 fun r hr => by simp [List.mem_singleton.1 hr, q, userRow]
  have hsplit : deleteWhere q (d.obj ++ [userRow pid oid]) = deleteWhere q d.obj ++
      deleteWhere q [userRow pid oid] :=
    List.filter_append _ _
  show deleteWhere q (d.obj ++ [userRow pid oid]) = d.obj
  rw [hsplit, hold, hnew, List.append_nil]

theorem osdCreateDatafile_makes {oid : UInt64} {Q : Ret → Target → Prop}
    (hok : env.MakesFile s pid oid → Q .ok (s.setFile pid oid (some [])))
    (herr : ¬ env.MakesFile s pid oid → ∀ e, Q (.err e) s) : Ends (osdCreateDatafile env pid oid) s Q := by
  refine ends_bind.2 (ends_get.2 (ends_ite_of (fun h => ends_pure.2 (herr (fun hm => ?_) _)) fun hstat =>
    ends_ite_of (fun h => ends_pure.2 (herr (fun hm => ?_) _)) fun habsent =>
    ends_ite_of (fun h => ends_pure.2 (herr (fun hm => ?_) _)) fun hcreat =>
    ends_bind.2 (ends_set.2 (ends_pure.2 (hok ?_)))))
  · exact absurd (h.symm.trans hm.stat) nofun
  · rw [hm.absent] at h
    exact absurd h nofun
  · rcases Bool.or_eq_true _ _ ▸ h with h | h
    · exact absurd (h.symm.trans hm.creat) nofun
    · exact absurd (h.symm.trans hm.root) nofun
  · simp only [Bool.or_eq_true, not_or, Bool.not_eq_true] at hcreat
    exact ⟨by simpa using hstat, by simpa using habsent, hcreat.1, hcreat.2⟩

/-- **`osd_create` of one object.** -/
theorem createFrom_result (ha : env.AdmitsUserobject s pid requested) (ic : IdCache) :
    Ends (createFrom env pid requested (s.userobjectId pid requested) 1) { s with ic }
      (CreateResult env s pid requested) := by
  let oid := s.userobjectId pid requested
  have hnum : ¬ (1 : UInt16) = 0 := by decide
  have hzero : (oid - oid).toNat = 0 := by rw [UInt64.sub_self]; rfl
  unfold createFrom
  dsimp only
  rw [if_neg hnum, createCount_one]
  by_cases hlast : oid + 1 = 0
  · rw [if_pos hlast]
    exact ends_bind.2 (ends_pure.2 (ends_bind.2 (ends_modify.2 (ends_bind.2 (ends_modify.2 (ends_pure.2
      (.last ha hlast rfl rfl rfl)))))))
  · rw [if_neg hlast]
    refine ends_bind.2 (ends_bind.2 (objInsert_inserts (fun hins => ?_) fun hno => ?_))
    · refine ends_ite_of (fun h => absurd rfl h) fun _ =>
        ends_bind.2 (osdCreateDatafile_makes (fun hmade => ?_) fun hno e => ?_)
      · refine ends_ite_of (fun h => absurd rfl h) fun _ => ends_pure.2 ?_
        exact ends_bind.2 (ends_modify.2 (ends_bind.2 (ends_modify.2 (ends_pure.2
          (.made ha hlast hins ⟨hmade.stat, hmade.absent, hmade.creat, hmade.root⟩ rfl rfl rfl)))))
      · have hno : ¬ env.MakesFile s pid oid := fun h => hno ⟨h.stat, h.absent, h.creat, h.root⟩
        refine ends_ite_of (fun _ => ?_) fun h => absurd (by simp) h
        rw [hzero]
        refine ends_bind.2 (dbExecDms_ends (fun d hf hd => ?_) fun h => ?_)
        · cases hd
          refine ends_bind.2 (ends_pure.2 (ends_pure.2 (ends_bind.2 (ends_modify.2 (ends_pure.2 ?_)))))
          refine .notMade ha hlast hins hno nofun ?_ rfl
          rw [if_neg (fun h => absurd (h.symm.trans hf) nofun)]
          exact congrArg (fun o => ({ s.db with obj := o } : Db)) (deleteWhere_withUserobject hins.2)
        · have hf := h.resolve_right nofun
          refine ends_bind.2 (ends_pure.2 (ends_pure.2 (ends_bind.2 (ends_modify.2 (ends_pure.2 ?_)))))
          exact .notMade ha hlast hins hno nofun (if_pos hf).symm rfl
    · refine ends_ite_of (fun _ => ?_) fun h => absurd (by simp) h
      rw [hzero]
      refine ends_bind.2 (ends_pure.2 (ends_pure.2 ?_))
      exact ends_bind.2 (ends_modify.2 (ends_pure.2 (.notInserted ha hno hlast rfl rfl)))

theorem osdCreate_result (env : Env) (pid requested : UInt64) :
    Ends (osdCreate env pid requested 1) s (CreateResult env s pid requested) := by
  have hrefuse : ¬ env.AdmitsIds s pid requested →
      Ends (pure (cdbErr pid requested) : OsdM Ret) s (CreateResult env s pid requested) := fun h =>
    ends_pure.2 (.refused h rfl rfl)
  refine ends_ite_of (fun h => hrefuse fun ha => ?_) fun hpid =>
    ends_ite_of (fun h => hrefuse fun ha => absurd h.2 (UInt64.not_lt.2 (ha.requested_lb h.1)))
      fun hlow => ?_
  · rcases h with rfl | h
    · exact absurd ha.pid_lb (by decide)
    · exact absurd h (UInt64.not_lt.2 ha.pid_lb)
  refine ends_bind.2 (dbExecQuery_ends (fun hq => ?_) fun hq => ends_ite_of
    (fun _ => hrefuse fun ha => absurd (hq.symm.trans ha.asked) nofun) fun h => absurd (.inl (by simp)) h)
  refine ends_ite_of (fun h => hrefuse fun ha => ?_) fun hp =>
    ends_ite_of (fun h => absurd h.1 (by decide)) fun _ => ?_
  · rcases h with h | h
    · exact absurd rfl h
    · exact h (decide_eq_true ha.partition)
  have hlb : USEROBJECT_PID_LB ≤ pid := UInt64.not_lt.1 fun h => hpid (.inr h)
  have hge : requested ≠ 0 → USEROBJECT_OID_LB ≤ requested := fun h0 =>
      UInt64.not_lt.1 fun h => hlow ⟨h0, h⟩
  have hpart : s.db.Has (bindInt64 pid) 0 := has_of_present hp
  refine ends_ite_of (fun h0 => ends_bind.2 (chooseId_ends (fun hc => ?_) fun hc => ?_)) fun h0 => ?_
  · have ha : env.AdmitsUserobject s pid requested :=
        ⟨⟨hlb, hge, hq, hpart, fun h => absurd h0 h⟩, fun _ => hc⟩
    have hid : s.userobjectId pid requested = s.chosen pid USEROBJECT_OID_LB := if_pos h0
    rw [← hid]
    exact createFrom_result ha _
  · exact ends_bind.2 (ends_modify.2 (ends_pure.2
      (.notChosen ⟨hlb, hge, hq, hpart, fun h => absurd h0 h⟩ h0 hc rfl rfl)))
  · refine ends_bind.2 (takeRequestedId_ends (fun hf => hrefuse fun ha => hf (ha.free h0)) fun hf => ?_)
    have ha : env.AdmitsUserobject s pid requested :=
        ⟨⟨hlb, hge, hq, hpart, fun _ => hf⟩, fun h => absurd h h0⟩
    have hid : s.userobjectId pid requested = requested := if_neg h0
    have hfrom := createFrom_result ha IdCache.zero
    rw [hid] at hfrom
    exact hfrom

theorem halts_osdRemoveTmpObjects (n : Nat) (oid : UInt64) : Halts (osdRemoveTmpObjects env pid n oid) := by
  induction n generalizing oid with
  | zero => exact halts_pure _
  | succ n ih => exact halts_bind (halts_osdRemove _ _) fun _ => ih _

theorem halts_createLoop (oid : UInt64) (n : Nat) (i : UInt64) : Halts (createLoop env pid oid n i) := by
  induction n generalizing i with
  | zero => exact halts_pure _
  | succ n ih =>
    have hmake : Halts (osdCreateDatafile env pid i) := halts_bind halts_get fun _ =>
        halts_ite (halts_pure _)
      (halts_ite (halts_pure _) (halts_ite (halts_pure _) (halts_bind (halts_set _) fun _ => halts_pure _)))
    have hundo : ∀ i, Halts (do osdRemoveTmpObjects env pid (i - oid).toNat oid; return some i :
        OsdM (Option UInt64)) := fun _ => halts_bind (halts_osdRemoveTmpObjects _ _) fun _ => halts_pure _
    exact halts_bind (halts_dbExecDms _) fun _ => halts_ite (hundo i) (halts_bind hmake fun _ =>
      halts_ite (halts_bind (halts_dbExecDms _) fun _ => hundo i) (ih _))

theorem halts_osdCreate (numoid : UInt16) : Halts (osdCreate env pid requested numoid) := by
  have hfrom : ∀ oid, Halts (createFrom env pid requested oid numoid) := by
    intro oid
    refine halts_bind (halts_createLoop _ _ _) fun r => ?_
    cases r with
    | some i => exact halts_bind halts_invalidateCache fun _ => halts_pure _
    | none => exact halts_bind (halts_modify _) fun _ => halts_bind (halts_modify _) fun _ => halts_pure _
  refine halts_ite (halts_pure _) (halts_ite (halts_pure _) (halts_bind (halts_dbExecQuery _ _ _) fun _ =>
    halts_ite (halts_pure _) (halts_ite (halts_pure _)
      (halts_ite (halts_bind (halts_chooseId _ _) fun r => ?_)
      (halts_bind (halts_takeRequestedId _ _) fun _ => halts_ite (halts_pure _) (hfrom _))))))
  cases r with
  | none => exact halts_bind halts_invalidateCache fun _ => halts_pure _
  | some oid => exact hfrom oid

/-! ## What is asked of the command -/

/-- Just one user object is new, with these bytes in its data file, and all else is as it was. -/
def CreatedWith (pid requested : UInt64) (bytes : List UInt8) (s s' : Target) : Prop :=
  ∃ oid, (requested ≠ 0 → oid = requested) ∧ ¬ s.db.Has (bindInt64 pid) (bindInt64 oid) ∧
    s'.db = s.db.withUserobject pid oid ∧ s'.files = (s.setFile pid oid (some bytes)).files

/-- No object and no data file is new, and all objects there are as they were. -/
structure NothingCreated (s s' : Target) : Prop where
  obj : s'.db.obj = s.db.obj
  attrs : ∀ p o, s.db.Has p o → s'.db.attrsAt p o = s.db.attrsAt p o
  colls : ∀ p o, s.db.Has p o → s'.db.collsAt p o = s.db.collsAt p o
  files : ∀ p o, s.db.Has (bindInt64 p) (bindInt64 o) → s'.files p o = s.files p o
  noFile : ∀ p o, s.files p o = none → s'.files p o = none

/-- The command comes to an end, with one object more that holds the payload or with none. -/
def AllOrNothing (env : Env) (s : Target) (pid oid : UInt64) (l : Layout) : Prop :=
  ∃ ret s', osdCreateAndWrite env pid oid l.len l.offset l.data l.sglist l.ddt s = some (ret, s') ∧
    (ret = .ok ∧ CreatedWith pid oid (stores 0 [] l.writes) s s' ∨ ret ≠ .ok ∧ NothingCreated s s')

/-- CREATE makes an object. -/
structure Env.CreatesUserobject (env : Env) (s : Target) (pid requested : UInt64) : Prop where
  admits : env.AdmitsUserobject s pid requested
  notLast : s.userobjectId pid requested + 1 ≠ 0
  inserts : env.Inserts s.db (userRow pid (s.userobjectId pid requested))
  makes : env.MakesFile s pid (s.userobjectId pid requested)

/-- `osd_write` has a writer for the layout, and storage takes all of it. -/
def Env.TakesAll (env : Env) (pid oid : UInt64) (l : Layout) : Prop :=
  l.Known ∧ env.sysFails (.openFile pid oid) = false ∧ ∀ c ∈ l.plan.1, env.Takes pid oid c

/-- The file closes, too. -/
def Env.Stores (env : Env) (pid oid : UInt64) (l : Layout) : Prop :=
  env.TakesAll pid oid l ∧ env.sysFails (.close pid oid) = false

/-- The last of all ids is requested, which CREATE makes no object for, but a file is there. -/
def Env.LastIdOpen (env : Env) (s : Target) (pid oid : UInt64) : Prop :=
  env.AdmitsUserobject s pid oid ∧ oid + 1 = 0 ∧ (s.lookup env pid oid).isSome = true

/-- **When the command is all or nothing.** -/
structure Env.SettlesWrite (env : Env) (s : Target) (pid oid : UInt64) (l : Layout) : Prop where
  /-- an object that is made has the id of the request -/
  requested : env.CreatesUserobject s pid oid → oid ≠ 0
  /-- a row without a file goes again -/
  leftover : env.AdmitsUserobject s pid oid → s.userobjectId pid oid + 1 ≠ 0 →
    env.Inserts s.db (userRow pid (s.userobjectId pid oid)) →
      ¬ env.MakesFile s pid (s.userobjectId pid oid) →
    env.dmsFails (.objDelete (bindInt64 pid) (bindInt64 (s.userobjectId pid oid)))
      (s.db.withUserobject pid (s.userobjectId pid oid)) = false
  /-- the loop of the writer ends -/
  finite : env.CreatesUserobject s pid oid ∨ env.LastIdOpen s pid oid → env.TakesAll pid oid l → l.Finite
  /-- what goes through is what was meant -/
  sound : env.CreatesUserobject s pid oid → env.Stores pid oid l → l.Sound
  /-- what does not go through is taken back -/
  undone : env.CreatesUserobject s pid oid → ¬ env.Stores pid oid l →
    env.sysFails (.unlink pid oid) = false ∧
    env.Deletes (s.db.withUserobject pid oid) (bindInt64 pid) (bindInt64 oid)
  /-- nothing goes through without an object -/
  lastId : env.LastIdOpen s pid oid → ¬ env.Stores pid oid l

/-! ## The write, and taking it back -/

section

variable {oid : UInt64} {content : List UInt8} {l : Layout}

/-- `osd_write` to a file that is there. -/
theorem osdWrite_outcomes (hid : isUserobjectId pid oid = true) (h : t.lookup env pid oid = some content) :
    (env.TakesAll pid oid l → ¬ l.Finite → osdWrite env pid oid l.len l.offset l.data l.sglist
      l.ddt t = none) ∧
    (env.Stores pid oid l → l.Finite → osdWrite env pid oid l.len l.offset l.data l.sglist l.ddt t
      = some (.ok, t.written pid oid (stores 0 content (l.plan.1.map Chunk.write)) 0)) ∧
    (¬ env.Stores pid oid l → (env.TakesAll pid oid l → l.Finite) → ∃ ret content', ret ≠ .ok ∧
      osdWrite env pid oid l.len l.offset l.data l.sglist l.ddt t
        = some (ret, t.setFile pid oid (some content'))) := by
  rw [osdWrite_eq]
  have hsame := Target.setFile_self (Target.files_of_lookup h)
  by_cases hk : l.Known
  · rw [if_pos hk]
    by_cases hopen : env.sysFails (.openFile pid oid) = false
    · obtain ⟨hendless, hok, hfail⟩ := writePlan_opened (p := l.plan) hid h hopen
      refine ⟨fun ht hfin => hendless ht.2.2 ?_, fun hs hfin =>
        hok ⟨hs.1.2.2, hs.2⟩ ((Layout.plan_ended hk).2 hfin),
        fun hs hfin => ?_⟩
      · exact Bool.eq_false_iff.2 fun h => hfin ((Layout.plan_ended hk).1 h)
      · obtain ⟨content', hrun⟩ := hfail (fun hw => hs ⟨⟨hk, hopen, hw.1⟩, hw.2⟩)
          fun ht => (Layout.plan_ended hk).2 (hfin ⟨hk, hopen, ht⟩)
        exact ⟨hwErr pid oid, content', nofun, hrun⟩
    · refine ⟨fun ht => absurd ht.2.1 hopen, fun hs => absurd hs.1.2.1 hopen, fun _ _ => ?_⟩
      refine ⟨cdbErr pid oid, content, nofun, ?_⟩
      rw [hsame]
      exact onDatafile_refused (.inr (.inr (by simpa using hopen))) _
  · rw [if_neg hk]
    refine ⟨fun ht => absurd ht.1 hk, fun hs => absurd hs.1.1 hk, fun _ _ =>
      ⟨cdbErr pid oid, content, nofun, ?_⟩⟩
    rw [hsame]
    rfl

/-- Without the ids of a user object, or its file, `osd_write` does nothing. -/
theorem osdWrite_refused (h : isUserobjectId pid oid = false ∨ t.lookup env pid oid = none) :
    osdWrite env pid oid l.len l.offset l.data l.sglist l.ddt t = some (cdbErr pid oid, t) := by
  rw [osdWrite_eq]
  split
  · exact onDatafile_refused (h.imp_right .inl) _
  · rfl

/-- REMOVE as an undo. -/
theorem osdRemove_settles (env : Env) (hid : isUserobjectId pid oid = true) (t : Target) : ∃ ret v,
    osdRemove env pid oid t = some (ret, v) ∧
      (env.Deletes t.db (bindInt64 pid) (bindInt64 oid) →
        v.db = t.db.without (bindInt64 pid) (bindInt64 oid)) ∧
      (¬ env.Deletes t.db (bindInt64 pid) (bindInt64 oid) → v.db.obj = t.db.obj) ∧
      v.files = t.unlinkedFiles env pid oid ∧
      Beside (fun p o => p = bindInt64 pid ∧ o = bindInt64 oid) t v := by
  have hbeside : Ends (osdRemove env pid oid) t fun _ v =>
      Beside (fun p o => p = bindInt64 pid ∧ o = bindInt64 oid) t v :=
    resp_osdRemove (Beside.admitsObject ⟨rfl, rfl⟩) t
  obtain ⟨ret, v, hrun, ⟨hdb, hfiles⟩, hb⟩ :=
    (((osdRemove_db hid).and (osdRemove_spec pid oid)).and hbeside).of_halts (halts_osdRemove pid oid)
  refine ⟨ret, v, hrun, fun hd => ?_, fun hd => ?_, ?_, hb⟩
  · exact (hdb.resolve_right fun h => h.1 hd).2.2
  · exact (hdb.resolve_left fun h => hd h.1).2.2
  · rcases hfiles with ⟨hno, -⟩ | ⟨-, hfiles, -⟩
    · rw [hid] at hno
      cases hno
    · exact hfiles

theorem NothingCreated.of_beside {s' : Target} (hfree : ¬ s.db.Has (bindInt64 pid) (bindInt64 oid))
    (hb : Beside (fun p o => p = bindInt64 pid ∧ o = bindInt64 oid) s s') (hobj : s'.db.obj = s.db.obj)
    (hfile : s.files pid oid = none → s'.files pid oid = none) : NothingCreated s s' := by
  have hother : ∀ p o, s.db.Has p o → ¬ (p = bindInt64 pid ∧ o = bindInt64 oid) := by
    rintro p o hhas ⟨rfl, rfl⟩
    exact hfree hhas
  refine ⟨hobj, fun p o hp => hb.attrsAt (hother p o hp), fun p o hp => hb.collsAt (hother p o hp),
    fun p o hp => hb.files p o (hother _ _ hp), fun p o hnone => ?_⟩
  by_cases heq : p = pid ∧ o = oid
  · obtain ⟨rfl, rfl⟩ := heq
    exact hfile hnone
  · rw [hb.files p o fun h => heq ⟨bindInt64_inj.1 h.1, bindInt64_inj.1 h.2⟩, hnone]

theorem NothingCreated.of_eq {s' : Target} (hdb : s'.db = s.db) (hfiles : s'.files = s.files) :
    NothingCreated s s' := by
  refine ⟨by rw [hdb], fun p o _ => by rw [hdb], fun p o _ => by rw [hdb], fun p o _ => by rw [hfiles],
    fun p o h => by rw [hfiles, h]⟩

end

/-! ## After CREATE -/

/-- The rest of `osd_create_and_write`. -/
def writeOrRemove (env : Env) (pid oid : UInt64) (l : Layout) : OsdM Ret := do
  let ret ← osdWrite env pid oid l.len l.offset l.data l.sglist l.ddt
  if ret ≠ .ok then
    let _ ← osdRemove env pid oid
  return ret

/-- What is asked of the rest, where CREATE leaves `t`. -/
def Settled (env : Env) (s t : Target) (pid oid : UInt64) (l : Layout) : Prop :=
  ∃ ret s', writeOrRemove env pid oid l t = some (ret, s') ∧
    (ret = .ok ∧ CreatedWith pid oid (stores 0 [] l.writes) s s' ∨ ret ≠ .ok ∧ NothingCreated s s')

section

variable {oid : UInt64} {content : List UInt8} {l : Layout} {ret : Ret} {v : Target}

theorem allOrNothing_iff_settled (h : osdCreate env pid oid 1 s = some (.ok, t)) :
    AllOrNothing env s pid oid l ↔ Settled env s t pid oid l := by
  have hrun : osdCreateAndWrite env pid oid l.len l.offset l.data l.sglist l.ddt s =
      writeOrRemove env pid oid l t := by
    refine (bind_of_some h).trans ?_
    rfl
  unfold AllOrNothing Settled
  rw [hrun]

theorem writeOrRemove_ok (h : osdWrite env pid oid l.len l.offset l.data l.sglist l.ddt t = some (.ok, v)) :
    writeOrRemove env pid oid l t = some (.ok, v) :=
  bind_of_some h

theorem writeOrRemove_failed {u : Target} {r : Ret}
    (h : osdWrite env pid oid l.len l.offset l.data l.sglist l.ddt t = some (ret, u)) (hret : ret ≠ .ok)
    (hundo : osdRemove env pid oid u = some (r, v)) : writeOrRemove env pid oid l t = some (ret, v) := by
  refine (bind_of_some h).trans ?_
  rw [if_pos hret]
  exact bind_of_some hundo

theorem writeOrRemove_endless (h : osdWrite env pid oid l.len l.offset l.data l.sglist l.ddt t = none) :
    ¬ Settled env s t pid oid l := by
  rintro ⟨ret, s', hrun, -⟩
  have hnone : writeOrRemove env pid oid l t = none := by
    show (osdWrite env pid oid l.len l.offset l.data l.sglist l.ddt t).bind _ = none
    rw [h]
    rfl
  rw [hnone] at hrun
  cases hrun

/-- A run that is known settles the matter. -/
theorem settled_iff {a : Ret} (h : writeOrRemove env pid oid l t = some (a, v)) :
    Settled env s t pid oid l ↔
    a = .ok ∧ CreatedWith pid oid (stores 0 [] l.writes) s v ∨ a ≠ .ok ∧ NothingCreated s v := by
  constructor
  · rintro ⟨ret, s', hrun, hend⟩
    obtain ⟨rfl, rfl⟩ := Prod.mk.inj (Option.some.inj (h.symm.trans hrun))
    exact hend
  · exact fun hend => ⟨a, v, h, hend⟩

theorem isUserobjectId_zero : isUserobjectId pid 0 = false := by
  have hlow : decide (USEROBJECT_OID_LB ≤ 0) = false := by decide
  unfold isUserobjectId
  rw [hlow, Bool.and_false]

/-- The id 0 of the request names no user object, so nothing is written and nothing taken back. -/
theorem writeOrRemove_zero : writeOrRemove env pid 0 l t = some (cdbErr pid 0, t) := by
  have hundo : osdRemove env pid 0 t = some (cdbErr pid 0, t) := by
    unfold osdRemove
    rw [isUserobjectId_zero]
    rfl
  exact writeOrRemove_failed (osdWrite_refused (.inl isUserobjectId_zero)) nofun hundo

/-- An object was made under the id of the request. -/
theorem settled_made (hid : isUserobjectId pid oid = true) (hins : env.Inserts s.db (userRow pid oid))
    (hmade : env.MakesFile s pid oid) (hdb : t.db = s.db.withUserobject pid oid)
    (hfiles : t.files = (s.setFile pid oid (some [])).files) (hroot : t.rootFreed = s.rootFreed) :
    Settled env s t pid oid l ↔ (env.TakesAll pid oid l → l.Finite) ∧ (env.Stores pid oid l → l.Sound) ∧
      (¬ env.Stores pid oid l → env.sysFails (.unlink pid oid) = false ∧
        env.Deletes (s.db.withUserobject pid oid) (bindInt64 pid) (bindInt64 oid)) := by
  have hgarbled : ¬ (s.rootFreed && env.rootGarbled) = true := by rw [hmade.root]; exact Bool.false_ne_true
  have hnone : s.files pid oid = none := (if_neg hgarbled).symm.trans hmade.absent
  have hlookup : t.lookup env pid oid = some [] := by
    unfold Target.lookup
    rw [hroot, if_neg hgarbled, hfiles]
    exact if_pos ⟨rfl, rfl⟩
  obtain ⟨hendless, hok, hfail⟩ := osdWrite_outcomes (l := l) hid hlookup
  by_cases hfin : env.TakesAll pid oid l → l.Finite
  · by_cases hs : env.Stores pid oid l
    · have hwrite := hok hs (hfin hs.1)
      rw [settled_iff (writeOrRemove_ok hwrite), ← Layout.stores_plan_iff hs.1.1 (hfin hs.1) hs.1.2.2]
      constructor
      · rintro (⟨-, o, hreq, -, -, hf⟩ | ⟨hne, -⟩)
        · refine ⟨hfin, fun _ => ?_, fun hn => absurd hs hn⟩
          have hne : oid ≠ 0 := by
            rintro rfl
            rw [isUserobjectId_zero] at hid
            cases hid
          rw [hreq hne] at hf
          have hfile := congrFun (congrFun hf pid) oid
          have hl : (t.written pid oid (stores 0 [] (l.plan.1.map Chunk.write)) 0).files pid oid
            = some (stores 0 [] (l.plan.1.map Chunk.write)) := if_pos ⟨rfl, rfl⟩
          have hr : (s.setFile pid oid (some (stores 0 [] l.writes))).files pid oid =
              some (stores 0 [] l.writes) :=
            if_pos ⟨rfl, rfl⟩
          exact Option.some.inj (hl.symm.trans (hfile.trans hr))
        · exact absurd rfl hne
      · rintro ⟨-, hsound, -⟩
        refine .inl ⟨rfl, oid, fun _ => rfl, hins.2, hdb, ?_⟩
        rw [← hsound hs]
        funext p o
        show (if p = pid ∧ o = oid then _ else t.files p o) = if p = pid ∧ o = oid then _ else s.files p o
        rw [hfiles]
        by_cases h : p = pid ∧ o = oid
        · rw [if_pos h, if_pos h]
        · rw [if_neg h, if_neg h]
          exact if_neg h
    · obtain ⟨ret, content', hret, hwrite⟩ := hfail hs hfin
      have hu : (t.setFile pid oid (some content')).db = s.db.withUserobject pid oid := hdb
      obtain ⟨r, v, hundo, hdel, hkept, hunlinked, hb⟩ :=
        osdRemove_settles env hid (t.setFile pid oid (some content'))
      rw [hu] at hdel hkept
      rw [settled_iff (writeOrRemove_failed hwrite hret hundo)]
      constructor
      · rintro (⟨h, -⟩ | ⟨-, hn⟩)
        · exact absurd h hret
        · refine ⟨hfin, fun h => absurd h hs, fun _ => ⟨?_, ?_⟩⟩
          · by_contra hfails
            have hfile := hn.noFile pid oid hnone
            rw [hunlinked, Target.unlinkedFiles, if_pos (by simp [Bool.eq_true_of_not_eq_false hfails])]
              at hfile
            exact absurd ((if_pos ⟨rfl, rfl⟩).symm.trans hfile) (Option.some_ne_none _)
          · by_contra hno
            exact append_ne_self s.db.obj (userRow pid oid) ((hkept hno).symm.trans hn.obj)
      · rintro ⟨-, -, hundone⟩
        obtain ⟨hunlink, hd⟩ := hundone hs
        refine .inr ⟨hret, .of_beside hins.2 (.trans s _ v ?_ hb) ?_ fun _ => ?_⟩
        · refine ⟨fun p hp => ?_, fun p _ => by rw [hu]; rfl, fun p _ => by rw [hu]; rfl, fun p o hp => ?_⟩
          · rw [hu]
            show (s.db.obj ++ [userRow pid oid]).filter p = s.db.obj.filter p
            rw [List.filter_append, List.filter_cons_of_neg (by simp [hp (userRow pid oid) ⟨rfl, rfl⟩]),
              List.filter_nil, List.append_nil]
          · have hne : ¬ (p = pid ∧ o = oid) := by
              rintro ⟨rfl, rfl⟩
              exact hp ⟨rfl, rfl⟩
            show (if p = pid ∧ o = oid then _ else t.files p o) = s.files p o
            rw [if_neg hne, hfiles]
            exact if_neg hne
        · rw [hdel hd]
          exact deleteWhere_withUserobject hins.2
        · rw [hunlinked, Target.unlinkedFiles, if_neg]
          · exact if_pos ⟨rfl, rfl⟩
          · show ¬ ((t.rootFreed && env.rootGarbled) || env.sysFails (.unlink pid oid)) = true
            rw [hroot, hmade.root, hunlink]
            exact Bool.false_ne_true
  · obtain ⟨ht, hfin⟩ := Classical.not_imp.1 hfin
    exact iff_of_false (writeOrRemove_endless (hendless ht hfin)) fun h => hfin (h.1 ht)

/-- The id of the request is the last of all, for which CREATE makes no object. -/
theorem settled_last (hid : isUserobjectId pid oid = true)
    (hfree : ¬ s.db.Has (bindInt64 pid) (bindInt64 oid))
    (hdb : t.db = s.db) (hfiles : t.files = s.files) (hroot : t.rootFreed = s.rootFreed) :
    Settled env s t pid oid l ↔ ((s.lookup env pid oid).isSome = true →
      (env.TakesAll pid oid l → l.Finite) ∧ ¬ env.Stores pid oid l) := by
  have hobj : deleteWhere (fun r => r.pid = bindInt64 pid ∧ r.oid = bindInt64 oid) s.db.obj = s.db.obj :=
    List.filter_eq_self.2 fun r hr => decide_eq_true fun h => hfree ⟨r, hr, h.1, h.2⟩
  have hlookup : t.lookup env pid oid = s.lookup env pid oid := by
    unfold Target.lookup
    rw [hroot, hfiles]
  -- REMOVE finds no row to delete
  have hundone : ∀ u r v, Beside (fun p o => p = bindInt64 pid ∧ o = bindInt64 oid) s u → u.db = s.db →
      osdRemove env pid oid u = some (r, v) → (s.files pid oid = none → v.files pid oid = none) →
      NothingCreated s v := by
    intro u r v hu hudb hrun hfile
    obtain ⟨r', v', hrun', hdel, hkept, -, hb⟩ := osdRemove_settles env hid u
    obtain ⟨-, rfl⟩ := Prod.mk.inj (Option.some.inj (hrun.symm.trans hrun'))
    refine .of_beside hfree (.trans s u v hu hb) ?_ hfile
    rw [hudb] at hdel hkept
    by_cases hd : env.Deletes s.db (bindInt64 pid) (bindInt64 oid)
    · rw [hdel hd]
      exact hobj
    · exact hkept hd
  cases hfound : s.lookup env pid oid with
  | none =>
    refine iff_of_true ?_ fun hsome => absurd hsome Bool.false_ne_true
    have hwrite : osdWrite env pid oid l.len l.offset l.data l.sglist l.ddt t = some (cdbErr pid oid, t) :=
      osdWrite_refused (.inr (hlookup.trans hfound))
    have hcdb : cdbErr pid oid ≠ .ok := cdbErr_ne_ok pid oid
    obtain ⟨r, v, hundo, -, -, hunlinked, -⟩ := osdRemove_settles env hid t
    refine (settled_iff (writeOrRemove_failed hwrite hcdb hundo)).2
      (.inr ⟨hcdb, hundone t r v (.of_eq hdb hfiles) hdb hundo fun hnone => ?_⟩)
    rw [hunlinked, Target.unlinkedFiles]
    split
    · rw [hfiles, hnone]
    · exact if_pos ⟨rfl, rfl⟩
  | some content =>
    have hfile : s.files pid oid = some content := Target.files_of_lookup hfound
    obtain ⟨hendless, hok, hfail⟩ := osdWrite_outcomes (l := l) hid (hlookup.trans hfound)
    by_cases hfin : env.TakesAll pid oid l → l.Finite
    · by_cases hs : env.Stores pid oid l
      · refine iff_of_false ?_ fun h => (h rfl).2 hs
        rw [settled_iff (writeOrRemove_ok (hok hs (hfin hs.1)))]
        rintro (⟨-, o, -, -, hrow, -⟩ | ⟨hne, -⟩)
        · have hrow : t.db = s.db.withUserobject pid o := hrow
          exact append_ne_self s.db.obj (userRow pid o) (congrArg Db.obj (hrow.symm.trans hdb))
        · exact hne rfl
      · refine iff_of_true ?_ fun _ => ⟨hfin, hs⟩
        obtain ⟨ret, content', hret, hwrite⟩ := hfail hs hfin
        obtain ⟨r, v, hundo, -⟩ := osdRemove_settles env hid (t.setFile pid oid (some content'))
        refine (settled_iff (writeOrRemove_failed hwrite hret hundo)).2
          (.inr ⟨hret, hundone (t.setFile pid oid (some content')) r v ?_ hdb hundo fun hnone =>
            absurd (hfile.symm.trans hnone) (Option.some_ne_none _)⟩)
        refine ⟨fun p _ => by rw [← hdb]; rfl, fun p _ => by rw [← hdb]; rfl, fun p _ => by rw [← hdb]; rfl,
          fun p o hp => ?_⟩
        have hne : ¬ (p = pid ∧ o = oid) := by
          rintro ⟨rfl, rfl⟩
          exact hp ⟨rfl, rfl⟩
        rw [← hfiles]
        exact if_neg hne
    · obtain ⟨ht, hfin⟩ := Classical.not_imp.1 hfin
      exact iff_of_false (writeOrRemove_endless (hendless ht hfin)) fun h => hfin ((h rfl).1 ht)

end

/-! ## The command -/

section

variable {oid : UInt64} {l : Layout}

/-- **When `osd_create_and_write` is all or nothing.** -/
theorem osdCreateAndWrite_allOrNothing (env : Env) (s : Target) (pid oid : UInt64) (l : Layout) :
    AllOrNothing env s pid oid l ↔ env.SettlesWrite s pid oid l := by
  obtain ⟨ret, t, hrun, hres⟩ := (osdCreate_result env pid oid).of_halts (halts_osdCreate 1)
  have hfailed : ret ≠ .ok → (AllOrNothing env s pid oid l ↔ NothingCreated s t) := by
    intro hret
    have hcmd : osdCreateAndWrite env pid oid l.len l.offset l.data l.sglist l.ddt s = some (ret, t) := by
      refine (bind_of_some hrun).trans ?_
      exact congrFun (if_pos hret) t
    constructor
    · rintro ⟨ret', s', hrun', h⟩
      obtain ⟨rfl, rfl⟩ := Prod.mk.inj (Option.some.inj (hcmd.symm.trans hrun'))
      exact (h.resolve_left fun h => hret h.1).2
    · exact fun h => ⟨ret, t, hcmd, .inr ⟨hret, h⟩⟩
  have hne : oid ≠ 0 → s.userobjectId pid oid = oid := fun h => if_neg h
  have hid : oid ≠ 0 → env.AdmitsUserobject s pid oid → isUserobjectId pid oid = true := fun h0 ha =>
    Bool.and_eq_true _ _ ▸ ⟨decide_eq_true ha.pid_lb, decide_eq_true (ha.requested_lb h0)⟩
  have hrefused : ret ≠ .ok → ¬ env.AdmitsUserobject s pid oid → t.db = s.db → t.files = s.files →
      (AllOrNothing env s pid oid l ↔ env.SettlesWrite s pid oid l) := by
    intro hret ha hdb hfiles
    have hc : ¬ env.CreatesUserobject s pid oid := fun h => ha h.admits
    refine iff_of_true ((hfailed hret).2 (.of_eq hdb hfiles)) ⟨fun h => absurd h hc, fun h =>
      absurd h ha, ?_,
      fun h => absurd h hc, fun h => absurd h hc, fun h => absurd h.1 ha⟩
    exact fun h => absurd h fun h => h.elim hc fun h => ha h.1
  rcases hres with ⟨ha, hdb, hfiles⟩ | ⟨-, h0, hc, hdb, hfiles⟩ | ⟨ha, hlast, hdb, hfiles, hroot⟩ |
      ⟨-, hno, hlast, hdb, hfiles⟩ |
    ⟨ha, hlast, hins, hno, hret, hdb, hfiles⟩ | ⟨ha, hlast, hins, hmade, hdb, hfiles, hroot⟩
  · exact hrefused nofun (fun h => ha h.toAdmitsIds) hdb hfiles
  · exact hrefused nofun (fun h => hc (h.chooses h0)) hdb hfiles
  · have hc : ¬ env.CreatesUserobject s pid oid := fun h => h.notLast hlast
    rw [allOrNothing_iff_settled hrun]
    by_cases h0 : oid = 0
    · subst h0
      have hopen : ¬ env.LastIdOpen s pid 0 := fun h => absurd h.2.1 (by decide)
      refine iff_of_true ((settled_iff writeOrRemove_zero).2 (.inr ⟨nofun, .of_eq hdb hfiles⟩))
        ⟨fun h => absurd h hc, fun _ h => absurd hlast h, ?_, fun h => absurd h hc, fun h => absurd h hc,
          fun h => absurd h hopen⟩
      exact fun h => absurd h fun h => h.elim hc hopen
    · rw [settled_last (hid h0 ha) (ha.free h0).2 hdb hfiles hroot]
      rw [hne h0] at hlast
      constructor
      · intro h
        refine ⟨fun h => absurd h hc, fun _ h => absurd ((hne h0).symm ▸ hlast) h, ?_, fun h => absurd h hc,
          fun h => absurd h hc, fun hopen => (h hopen.2.2).2⟩
        exact fun hopen => (h (hopen.resolve_left hc).2.2).1
      · exact fun h hfound => ⟨h.finite (.inr ⟨ha, hlast, hfound⟩), h.lastId ⟨ha, hlast, hfound⟩⟩
  · have hc : ¬ env.CreatesUserobject s pid oid := fun h => hno h.inserts
    have hopen : ¬ env.LastIdOpen s pid oid := by
      intro h
      have h0 : oid ≠ 0 := fun h0 => absurd (h0 ▸ h.2.1) (by decide)
      exact hlast ((hne h0).symm ▸ h.2.1)
    refine iff_of_true ((hfailed nofun).2 (.of_eq hdb hfiles)) ⟨fun h => absurd h hc, fun _ _ h =>
      absurd h hno, ?_,
      fun h => absurd h hc, fun h => absurd h hc, fun h => absurd h hopen⟩
    exact fun h => absurd h fun h => h.elim hc hopen
  · have hc : ¬ env.CreatesUserobject s pid oid := fun h => hno h.makes
    have hopen : ¬ env.LastIdOpen s pid oid := by
      intro h
      have h0 : oid ≠ 0 := fun h0 => absurd (h0 ▸ h.2.1) (by decide)
      exact hlast ((hne h0).symm ▸ h.2.1)
    rw [hfailed hret]
    constructor
    · intro h
      refine ⟨fun h => absurd h hc, fun _ _ _ _ => ?_, ?_, fun h => absurd h hc, fun h => absurd h hc,
        fun h => absurd h hopen⟩
      · by_contra hfails
        rw [if_pos (by simpa using hfails)] at hdb
        exact append_ne_self s.db.obj _ ((congrArg Db.obj hdb).symm.trans h.obj)
      · exact fun h => absurd h fun h => h.elim hc hopen
    · intro h
      refine .of_eq (hdb.trans (if_neg ?_)) hfiles
      rw [h.leftover ha hlast hins hno]
      exact Bool.false_ne_true
  · have hc : env.CreatesUserobject s pid oid := ⟨ha, hlast, hins, hmade⟩
    have hopen : ¬ env.LastIdOpen s pid oid := by
      intro h
      have h0 : oid ≠ 0 := fun h0 => absurd (h0 ▸ h.2.1) (by decide)
      exact hlast ((hne h0).symm ▸ h.2.1)
    rw [allOrNothing_iff_settled hrun]
    by_cases h0 : oid = 0
    · subst h0
      refine iff_of_false ?_ fun h => h.requested hc rfl
      rw [settled_iff writeOrRemove_zero]
      rintro (⟨h, -⟩ | ⟨-, h⟩)
      · cases h
      · exact append_ne_self s.db.obj _ ((congrArg Db.obj hdb).symm.trans h.obj)
    · rw [hne h0] at hins hmade hdb hfiles
      rw [settled_made (hid h0 ha) hins hmade hdb hfiles hroot]
      constructor
      · intro h
        exact ⟨fun _ => h0, fun _ _ _ h => absurd ((hne h0).symm ▸ hmade) h, fun _ => h.1, fun _ => h.2.1,
          fun _ => h.2.2, fun h => absurd h hopen⟩
      · exact fun h => ⟨h.finite (.inl hc), h.sound hc, h.undone hc⟩

/-- A target that chooses the id leaves the object it made, with nothing written to it. -/
theorem not_osdCreateAndWrite_allOrNothing : ¬ ∀ env s pid oid l, AllOrNothing env s pid oid l := by
  intro h
  let s := calmRun [.createPartition 0]
  let l : Layout := ⟨DDT_CONTIG, 2, 0, fun _ => 7, ⟨0, fun _ => 0⟩⟩
  obtain ⟨ret, s', hrun, hend⟩ := h Env.calm s 0x10000 0 l
  have hleft : (osdCreateAndWrite Env.calm 0x10000 0 l.len l.offset l.data l.sglist l.ddt s).map
      (fun r => (decide (r.1 = .ok), r.2.db.obj.length)) = some (false, s.db.obj.length + 1) := by
    decide +kernel
  rw [hrun] at hleft
  obtain ⟨hret, hlen⟩ := Prod.mk.inj (Option.some.inj hleft)
  rcases hend with ⟨hok, -⟩ | ⟨-, hno⟩
  · exact absurd hok (of_decide_eq_false hret)
  · have hsame : s'.db.obj.length = s.db.obj.length := congrArg List.length hno.obj
    exact absurd (hlen.symm.trans hsame) (Nat.succ_ne_self _)

end

end OsdTarget
