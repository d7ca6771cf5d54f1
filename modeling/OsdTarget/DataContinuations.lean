import OsdTarget.CreateAndWrite
import OsdTarget.ServiceAction

/-!
# Continuations of the data commands

READ, WRITE and CREATE AND WRITE take no descriptor or one scatter/gather list.  READ returns on any other
sequence of descriptors.  The other two build the sense data and go on, so it is up to the rest of the
command whether anything is stored.
-/

namespace OsdTarget

open Base

variable {env : Env} {cmd : Command} {fuel : Nat} {ds : List ContDescriptor} {s t : Target}

/-! ## What is asked of the commands -/

/-- What `exec_service_action` has of the continuation when it comes to the service action. -/
def Command.continuation (cmd : Command) (fuel : Nat) : Option (Ret × List ContDescriptor) :=
  if cmd.cdbContLen = 0 then some (.ok, [])
  else parseCdbContinuationSegment cmd.indata cmd.cdbContLen cmd.action cmd.pid cmd.oid fuel

/-- The length, at the same place in the three commands. -/
def Command.dataLen (cmd : Command) : UInt64 := getNtohll cmd.cdb 32

/-- The check condition is an ILLEGAL REQUEST. -/
def Outcome.IllegalRequest (o : Outcome) : Prop :=
  ∃ x, o.ret = .sense x ∧ o.sense = some x ∧ x.key = OSD_SSK_ILLEGAL_REQUEST

/-- The command ends with an ILLEGAL REQUEST, and all objects are as they were. -/
def Rejects (env : Env) (cmd : Command) (fuel : Nat) (s : Target) : Prop :=
  ∃ o s', execServiceAction env cmd fuel s = some (o, s') ∧ o.IllegalRequest ∧ s'.db = s.db ∧
    s'.files = s.files

/-- Descriptors other than one list are rejected; otherwise the payload is behind the segment. -/
structure HandlesDescriptors (env : Env) (cmd : Command) (ds : List ContDescriptor) (fuel : Nat)
    (s : Target) : Prop where
  rejects : otherDescriptors ds = true → Rejects env cmd fuel s
  payload : otherDescriptors ds = false → (writeArguments env cmd ds).2.1 =
    cmd.indata.shift cmd.cdbContLen.toNat

/-- What else stops the command, whatever becomes of the statements and system calls. -/
def Command.StoppedAnyway (cmd : Command) (s : Target) : Prop :=
  cmd.serviceAction = .read ∨ cmd.inlen < cmd.dataLen ∨
  cmd.serviceAction = .write ∧ (isUserobjectId cmd.pid cmd.oid = false ∨ s.files cmd.pid cmd.oid = none) ∨
  cmd.serviceAction = .createAndWrite ∧ (cmd.pid < USEROBJECT_PID_LB ∨
    ¬ s.db.Has (bindInt64 cmd.pid) 0 ∨
    cmd.oid ≠ 0 ∧ (cmd.oid < USEROBJECT_OID_LB ∨ s.db.Has (bindInt64 cmd.pid) (bindInt64 cmd.oid)) ∨
    cmd.oid = 0 ∧ s.ic.curPid = cmd.pid ∧ s.ic.nextId + 1 = 0)

/-! ## The payload -/

/-- A segment that parses has a descriptor: its header ends before the segment does. -/
theorem parseCdbContinuationSegment_ne_nil {indata : Mem} {len : UInt32} {action : UInt16}
    {pid oid : UInt64}
    (h : parseCdbContinuationSegment indata len action pid oid fuel = some (.ok, ds)) : ds ≠ [] := by
  unfold parseCdbContinuationSegment at h
  dsimp only at h
  split at h
  · next hchecks =>
    have hlong : 48 ≤ len := by
      unfold contChecks at hchecks
      split at hchecks
      · cases hchecks
      · next hlen => exact UInt32.not_lt.1 fun h => hlen (.inr h)
    have hlt : 40 < len.toNat := Nat.lt_of_lt_of_le (by decide) (UInt32.le_iff_toNat_le.1 hlong)
    have herr : senseBuildSdd OSD_SSK_ILLEGAL_REQUEST OSD_ASC_INVALID_FIELD_IN_CDB pid oid ≠ .ok := nofun
    cases fuel with
    | zero =>
      cases hacc : (descHdr indata 40).accepted 40 len with
      | true => simp [rounds, contRound_next hlt hacc] at h
      | false => simp [rounds, contRound_fail hlt hacc] at h
    | succ n =>
      cases hacc : (descHdr indata 40).accepted 40 len with
      | true =>
        rw [rounds_next (contRound_next hlt hacc)] at h
        obtain ⟨rest, hrest, -⟩ := rounds_ok h herr
        rw [hrest]
        exact List.cons_ne_nil _ _
      | false =>
        rw [rounds_fail (contRound_fail hlt hacc)] at h
        exact absurd (congrArg Prod.fst (Option.some.inj h)) herr
  · cases h

theorem writeArguments_payload (h : cmd.continuation fuel = some (.ok, ds))
    (hds : otherDescriptors ds = false) :
    (writeArguments env cmd ds).2.1 = cmd.indata.shift cmd.cdbContLen.toNat := by
  unfold Command.continuation at h
  split at h
  · next hlen =>
    cases h
    rw [hlen]
    funext a
    exact congrArg cmd.indata (Nat.zero_add a).symm
  · have hne := parseCdbContinuationSegment_ne_nil h
    match ds, hds, hne with
    | [d], _, _ => rfl

/-! ## Commands that end in another way -/

/-- An environment in which no statement that changes a table and no `pwrite` works. -/
def Env.broken : Env :=
  { Env.calm with dmsFails := fun _ _ => true, pwrite := fun _ _ _ _ => none, stack := fun _ => 1 }

theorem Env.broken_takes {pid oid : UInt64} (c : Chunk) : ¬ Env.broken.Takes pid oid c := by
  rintro ⟨-, limit, h, -⟩
  cases h

theorem sgListOf_broken (hds : otherDescriptors ds = true) :
    sgListOf Env.broken cmd ds = none ∨ ∃ l, sgListOf Env.broken cmd ds = some l ∧ 0 < l.rounds := by
  match ds, hds with
  | [d], hd =>
    have hne : d.type ≠ SCATTER_GATHER_LIST := of_decide_eq_true hd
    refine .inr ⟨_, rfl, ?_⟩
    rw [if_neg hne]
    decide +kernel
  | _ :: _ :: _, _ => exact .inl rfl

/-- What falls through the test does not get past storage. -/
theorem osdWrite_broken {pid oid len offset : UInt64} {content : List UInt8}
    (hid : isUserobjectId pid oid = true)
    (h : s.lookup Env.broken pid oid = some content) (hds : otherDescriptors ds = true) : ∃ content',
      osdWrite Env.broken pid oid len offset (writeArguments Env.broken cmd ds).2.1
        (writeArguments Env.broken cmd ds).1 (writeArguments Env.broken cmd ds).2.2 s
        = some (hwErr pid oid, s.setFile pid oid (some content')) := by
  let l : Layout := ⟨(writeArguments Env.broken cmd ds).2.2, len, offset,
      (writeArguments Env.broken cmd ds).2.1,
    (writeArguments Env.broken cmd ds).1⟩
  have hplan : l.Known ∧ l.plan.1 ≠ [] := by
    have hlist : sgListOf Env.broken cmd ds = none ∨ ∃ l, sgListOf Env.broken cmd ds =
        some l ∧ 0 < l.rounds :=
      sgListOf_broken hds
    rcases hlist with hnone | ⟨sgl, hsome, hpos⟩
    · have hl : l = ⟨DDT_CONTIG, len, offset, cmd.indata, ⟨0, fun _ => 0⟩⟩ := by
        simp only [l, writeArguments, hnone]
      rw [hl]
      exact ⟨.inl rfl, by simp [Layout.plan]⟩
    · have hl : l = ⟨DDT_SGL, len, offset, cmd.indata.shift cmd.cdbContLen.toNat, sgl⟩ := by
        simp only [l, writeArguments, hsome]
      rw [hl]
      refine ⟨.inr (.inl rfl), ?_⟩
      obtain ⟨n, hn⟩ := Nat.exists_eq_succ_of_ne_zero (Nat.ne_of_gt hpos)
      have hne : ¬ DDT_SGL = DDT_CONTIG := by decide
      unfold Layout.plan
      rw [if_neg hne, if_pos rfl, hn]
      exact List.cons_ne_nil _ _
  obtain ⟨c, hc⟩ := List.exists_mem_of_ne_nil _ hplan.2
  obtain ⟨content', hrun⟩ := (writePlan_opened (p := l.plan) hid h rfl).2.2
    (fun hw => Env.broken_takes c (hw.1 c hc)) fun ht => absurd (ht c hc) (Env.broken_takes c)
  refine ⟨content', ?_⟩
  have heq : osdWrite Env.broken pid oid l.len l.offset l.data l.sglist l.ddt =
      writePlan Env.broken pid oid l.plan :=
    (osdWrite_eq l).trans (if_pos hplan.1)
  exact (congrFun heq s).trans hrun

/-! ## Runs -/

theorem execServiceAction_continuation (h : cmd.continuation fuel = some (.ok, ds)) :
    execServiceAction env cmd fuel = dispatch env cmd ds fuel := by
  unfold Command.continuation at h
  unfold execServiceAction
  split
  · next hlen =>
    rw [if_pos hlen] at h
    cases h
    rfl
  · next hlen =>
    rw [if_neg hlen] at h
    rw [h]

/-- Sense data of a hardware error are no ILLEGAL REQUEST. -/
theorem not_rejects {o : Outcome} (hrun : execServiceAction env cmd fuel s = some (o, t)) {pid oid : UInt64}
    (h : o.sense = (hwErr pid oid).built) : ¬ Rejects env cmd fuel s := by
  rintro ⟨o', s', hrun', ⟨x, -, hsense, hkey⟩, -, -⟩
  obtain ⟨rfl, -⟩ := Prod.mk.inj (Option.some.inj (hrun.symm.trans hrun'))
  rw [h] at hsense
  cases hsense
  have hne : OSD_SSK_HARDWARE_ERROR ≠ OSD_SSK_ILLEGAL_REQUEST := by decide
  exact hne hkey

theorem enoughInput_short {len : UInt64} {m : OsdM Outcome} (h : cmd.inlen < len) :
    enoughInput cmd len m s = some (.of osdErrorUnimplemented 0 0, s) :=
  congrFun (if_pos h) s

section

variable {ret undo : Ret} {u v : Target} {sense : Option Sense}

/-- The `osd_write` of the two commands. -/
def Command.dataWrite (cmd : Command) (env : Env) (ds : List ContDescriptor) : OsdM Ret :=
  let (sglist, indata, ddt) := writeArguments env cmd ds
  osdWrite env cmd.pid cmd.oid cmd.dataLen (getNtohll cmd.cdb 40) indata sglist ddt

/-- The `osd_create_and_write`. -/
def Command.dataCreate (cmd : Command) (env : Env) (ds : List ContDescriptor) : OsdM (Ret × Option Sense) :=
  let (sglist, indata, ddt) := writeArguments env cmd ds
  osdCreateAndWriteSense env cmd.pid cmd.oid cmd.dataLen (getNtohll cmd.cdb 40) indata sglist ddt

/-- A write that fails ends WRITE. -/
theorem execWrite_failed (hlen : ¬ cmd.inlen < cmd.dataLen) (hret : ret ≠ .ok)
    (h : cmd.dataWrite env ds s = some (ret, t)) :
    execWrite env cmd ds fuel s = some ((Outcome.of ret 0 0).afterTest cmd ds, t) := by
  have hwrite : noOutput (cmd.dataWrite env ds) s = some ((ret, none), t) := bind_of_some h
  have hattr : withAttributes env cmd cmd.pid cmd.oid fuel (noOutput (cmd.dataWrite env ds)) s
      = some (.of ret 0 0, t) := (bind_of_some hwrite).trans (congrFun (if_pos hret) t)
  exact (congrFun (if_neg hlen) s).trans (bind_of_some hattr)

theorem execCreateAndWrite_run (hlen : ¬ cmd.inlen < cmd.dataLen)
    (h : cmd.dataCreate env ds s = some ((ret, sense), t)) :
    execCreateAndWrite env cmd ds s = some ((⟨ret, 0, 0, sense⟩ : Outcome).afterTest cmd ds, t) :=
  (congrFun (if_neg hlen) s).trans ((bind_of_some h).trans rfl)

/-- A CREATE that fails. -/
theorem dataCreate_refused (hret : ret ≠ .ok) (h : osdCreate env cmd.pid cmd.oid 1 s = some (ret, t)) :
    cmd.dataCreate env ds s = some ((ret, ret.built), t) :=
  (bind_of_some h).trans (congrFun (if_pos hret) t)

/-- A write that fails after it leaves the sense data of the undo, if there are any. -/
theorem dataCreate_failed (h : osdCreate env cmd.pid cmd.oid 1 s = some (.ok, t)) (hret : ret ≠ .ok)
    (hwrite : cmd.dataWrite env ds t = some (ret, u))
    (hundo : osdRemove env cmd.pid cmd.oid u = some (undo, v)) :
    cmd.dataCreate env ds s = some ((ret, undo.built <|> ret.built), v) := by
  refine (bind_of_some h).trans ((bind_of_some hwrite).trans ((congrFun (if_pos hret) u).trans ?_))
  exact (bind_of_some hundo).trans rfl

end

/-! ## Commands that are stopped anyway -/

theorem Rejects.of_run {o : Outcome} {ret : Ret} (hrun : execServiceAction env cmd fuel s = some (o, t))
    (hret : o.ret = ret) (hsense : o.sense = ret.built)
    (hill : ∃ x, ret = .sense x ∧ x.key = OSD_SSK_ILLEGAL_REQUEST) (hdb : t.db = s.db)
    (hfiles : t.files = s.files) :
    Rejects env cmd fuel s := by
  obtain ⟨x, rfl, hkey⟩ := hill
  exact ⟨o, t, hrun, ⟨x, hret, hsense, hkey⟩, hdb, hfiles⟩

theorem afterTest_ret (o : Outcome) : (o.afterTest cmd ds).ret = o.ret := by
  unfold Outcome.afterTest
  split <;> rfl

/-- The sense data of an error are not replaced by those of the test. -/
theorem afterTest_sense {o : Outcome} {x : Sense} (h : o.sense = some x) :
    (o.afterTest cmd ds).sense = some x := by
  unfold Outcome.afterTest
  split
  · show (o.sense <|> _) = some x
    rw [h]
    rfl
  · exact h

theorem cdbErr_illegal (pid oid : UInt64) : ∃ x, cdbErr pid oid = .sense x ∧
    x.key = OSD_SSK_ILLEGAL_REQUEST :=
  ⟨_, rfl, rfl⟩

theorem dispatch_write (h : cmd.serviceAction = .write) : dispatch env cmd ds fuel =
    execWrite env cmd ds fuel := by
  unfold dispatch
  rw [h]

theorem dispatch_createAndWrite (h : cmd.serviceAction = .createAndWrite) :
    dispatch env cmd ds fuel = execCreateAndWrite env cmd ds := by
  unfold dispatch
  rw [h]

/-- Where CREATE comes to the ids, they are one past the last of all. -/
theorem stopped_admits {pid oid : UInt64} (ha : env.AdmitsIds s pid oid)
    (h : pid < USEROBJECT_PID_LB ∨ ¬ s.db.Has (bindInt64 pid) 0 ∨
      oid ≠ 0 ∧ (oid < USEROBJECT_OID_LB ∨ s.db.Has (bindInt64 pid) (bindInt64 oid)) ∨
      oid = 0 ∧ s.ic.curPid = pid ∧ s.ic.nextId + 1 = 0) :
    oid = 0 ∧ s.ic.curPid = pid ∧ s.userobjectId pid oid + 1 = 0 := by
  rcases h with h | h | ⟨h0, h | h⟩ | ⟨rfl, hcur, hnext⟩
  · exact absurd h (UInt64.not_lt.2 ha.pid_lb)
  · exact absurd ha.partition h
  · exact absurd h (UInt64.not_lt.2 (ha.requested_lb h0))
  · exact absurd h (ha.free h0).2
  · refine ⟨rfl, hcur, ?_⟩
    have hone : ¬ s.ic.nextId = 1 := fun h => absurd (h ▸ hnext) (by decide)
    unfold Target.userobjectId Target.chosen
    rw [if_pos rfl, if_pos hcur, if_neg hone]
    exact hnext

theorem dataCreate_stopped (h : cmd.pid < USEROBJECT_PID_LB ∨ ¬ s.db.Has (bindInt64 cmd.pid) 0 ∨
      cmd.oid ≠ 0 ∧ (cmd.oid < USEROBJECT_OID_LB ∨ s.db.Has (bindInt64 cmd.pid) (bindInt64 cmd.oid)) ∨
      cmd.oid = 0 ∧ s.ic.curPid = cmd.pid ∧ s.ic.nextId + 1 = 0) : ∃ t,
    cmd.dataCreate env ds s = some ((cdbErr cmd.pid cmd.oid, (cdbErr cmd.pid cmd.oid).built), t) ∧
      t.db = s.db ∧ t.files = s.files := by
  obtain ⟨ret, t, hrun, hres⟩ := (osdCreate_result env cmd.pid cmd.oid).of_halts (halts_osdCreate 1)
  cases hres with
  | refused ha hdb hfiles => exact ⟨t, dataCreate_refused nofun hrun, hdb, hfiles⟩
  | notChosen ha h0 hc hdb hfiles =>
    exact absurd (fun hne => absurd (stopped_admits ha h).2.1 hne) hc
  | last ha hlast hdb hfiles hroot =>
    obtain ⟨h0, -⟩ := stopped_admits ha.toAdmitsIds h
    have hid : isUserobjectId cmd.pid cmd.oid = false := by rw [h0]; exact isUserobjectId_zero
    have hwrite : cmd.dataWrite env ds t = some (cdbErr cmd.pid cmd.oid, t) :=
      osdWrite_refused (l := ⟨(writeArguments env cmd ds).2.2, cmd.dataLen, getNtohll cmd.cdb 40,
        (writeArguments env cmd ds).2.1, (writeArguments env cmd ds).1⟩) (.inl hid)
    have hundo : osdRemove env cmd.pid cmd.oid t = some (cdbErr cmd.pid cmd.oid, t) := by
      unfold osdRemove
      rw [hid]
      rfl
    have hne : cdbErr cmd.pid cmd.oid ≠ .ok := nofun
    exact ⟨t, dataCreate_failed hrun hne hwrite hundo, hdb, hfiles⟩
  | notInserted ha hno hlast hdb hfiles => exact absurd (stopped_admits ha.toAdmitsIds h).2.2 hlast
  | notMade ha hlast hins hno hret hdb hfiles => exact absurd (stopped_admits ha.toAdmitsIds h).2.2 hlast
  | made ha hlast hins hmade hdb hfiles hroot => exact absurd (stopped_admits ha.toAdmitsIds h).2.2 hlast

/-- **Whatever the environment, a command that is stopped anyway rejects the descriptors.** -/
theorem rejects_of_stopped (haction : cmd.serviceAction ∈ [ServiceAction.read, .write, .createAndWrite])
    (hcont : cmd.continuation fuel = some (.ok, ds)) (hds : otherDescriptors ds = true)
    (h : cmd.StoppedAnyway s) :
    Rejects env cmd fuel s := by
  have hexec : execServiceAction env cmd fuel = dispatch env cmd ds fuel :=
      execServiceAction_continuation hcont
  have hshort : ∀ m : OsdM Outcome, dispatch env cmd ds fuel = enoughInput cmd cmd.dataLen m →
      cmd.inlen < cmd.dataLen → Rejects env cmd fuel s := by
    intro m hm hlen
    have hrun : execServiceAction env cmd fuel s = some (.of osdErrorUnimplemented 0 0, s) := by
      rw [hexec, hm]
      exact enoughInput_short hlen
    exact .of_run hrun rfl rfl ⟨_, rfl, rfl⟩ rfl rfl
  by_cases hread : cmd.serviceAction = .read
  · have hrun : execServiceAction env cmd fuel s = some (.of (cdbErr cmd.pid cmd.oid) 0 0, s) := by
      rw [hexec]
      unfold dispatch
      rw [hread]
      exact congrFun (if_pos hds) s
    exact .of_run hrun rfl rfl (cdbErr_illegal _ _) rfl rfl
  by_cases hwrite : cmd.serviceAction = .write
  · by_cases hlen : cmd.inlen < cmd.dataLen
    · exact hshort _ (dispatch_write hwrite) hlen
    · have hno : isUserobjectId cmd.pid cmd.oid = false ∨ s.lookup env cmd.pid cmd.oid = none := by
        rcases h with h | h | ⟨-, h⟩ | ⟨h, -⟩
        · exact absurd h hread
        · exact absurd h hlen
        · refine h.imp_right fun hnone => ?_
          unfold Target.lookup
          rw [hnone, ite_self]
        · exact absurd (hwrite.symm.trans h) nofun
      have hrefused : cmd.dataWrite env ds s = some (cdbErr cmd.pid cmd.oid, s) :=
        osdWrite_refused (l := ⟨(writeArguments env cmd ds).2.2, cmd.dataLen, getNtohll cmd.cdb 40,
          (writeArguments env cmd ds).2.1, (writeArguments env cmd ds).1⟩) hno
      have hrun : execServiceAction env cmd fuel s
          = some ((Outcome.of (cdbErr cmd.pid cmd.oid) 0 0).afterTest cmd ds, s) := by
        rw [hexec, dispatch_write hwrite]
        exact execWrite_failed hlen nofun hrefused
      exact .of_run hrun (afterTest_ret _) (afterTest_sense rfl) (cdbErr_illegal _ _) rfl rfl
  · have hcreate : cmd.serviceAction = .createAndWrite := by
      simpa [hread, hwrite] using haction
    by_cases hlen : cmd.inlen < cmd.dataLen
    · exact hshort _ (dispatch_createAndWrite hcreate) hlen
    · have hstop := ((h.resolve_left hread).resolve_left hlen).resolve_left fun h => hwrite h.1
      obtain ⟨t, hdata, hdb, hfiles⟩ : ∃ t, cmd.dataCreate env ds s
          = some ((cdbErr cmd.pid cmd.oid, (cdbErr cmd.pid cmd.oid).built), t) ∧ t.db = s.db ∧
            t.files = s.files :=
        dataCreate_stopped hstop.2
      have hrun : execServiceAction env cmd fuel s = some
          ((⟨cdbErr cmd.pid cmd.oid, 0, 0, (cdbErr cmd.pid cmd.oid).built⟩ : Outcome).afterTest
            cmd ds, t) := by
        rw [hexec, dispatch_createAndWrite hcreate]
        exact execCreateAndWrite_run hlen hdata
      exact .of_run hrun (afterTest_ret _) (afterTest_sense rfl) (cdbErr_illegal _ _) hdb hfiles

/-! ## Commands that nothing stops -/

/-- An environment whose tables do not say which id is free. -/
def Env.unasked : Env :=
  { Env.calm with queryFails := fun q _ => match q with
      | .objNextoid _ => true
      | _ => false }

theorem osdRemove_broken {pid oid : UInt64} (hid : isUserobjectId pid oid = true) (t : Target) : ∃ v,
    osdRemove Env.broken pid oid t = some (hwErr pid oid, v) := by
  have hends : Ends (osdRemove Env.broken pid oid) t fun ret _ => ret = hwErr pid oid := by
    refine ends_ite_of (fun h => absurd h (by simp [hid])) fun _ => ends_bind.2 (ends_modify.2 ?_)
    refine ends_bind.2 (unlinkFile_ends fun _ t _ _ _ _ =>
      ends_bind.2 (dbExecDms_ends (fun d h _ => ?_) fun _ => ?_))
    · cases h
    · exact ends_ite_of (fun _ => ends_pure.2 rfl) fun h => absurd (by simp) h
  obtain ⟨ret, v, hrun, rfl⟩ := hends.of_halts (halts_osdRemove pid oid)
  exact ⟨v, hrun⟩

/-- Broken storage makes an error of the write. -/
theorem dataWrite_broken (hid : isUserobjectId cmd.pid cmd.oid = true) (hds : otherDescriptors ds = true) :
    ∃ ret u, ret ≠ .ok ∧ cmd.dataWrite Env.broken ds t = some (ret, u) := by
  cases h : t.lookup Env.broken cmd.pid cmd.oid with
  | none =>
    exact ⟨cdbErr cmd.pid cmd.oid, t, nofun, osdWrite_refused (l := ⟨(writeArguments Env.broken cmd ds).2.2,
      cmd.dataLen, getNtohll cmd.cdb 40, (writeArguments Env.broken cmd ds).2.1,
      (writeArguments Env.broken cmd ds).1⟩) (.inr h)⟩
  | some content =>
    obtain ⟨content', hrun⟩ := osdWrite_broken hid h hds
    exact ⟨hwErr cmd.pid cmd.oid, _, nofun, hrun⟩

/-- Where CREATE has a free id to take, some environment makes a hardware error of the command. -/
theorem dataCreate_hwErr (hds : otherDescriptors ds = true) (hpid : USEROBJECT_PID_LB ≤ cmd.pid)
    (hpart : s.db.Has (bindInt64 cmd.pid) 0)
    (hfree : cmd.oid ≠ 0 → USEROBJECT_OID_LB ≤ cmd.oid ∧ ¬ s.db.Has (bindInt64 cmd.pid) (bindInt64 cmd.oid))
    (hnext : cmd.oid = 0 → s.ic.curPid = cmd.pid → s.ic.nextId + 1 ≠ 0) : ∃ env ret t,
      cmd.dataCreate env ds s = some ((ret, (hwErr cmd.pid cmd.oid).built), t) := by
  have hadmits : ∀ env : Env, (∀ p o d, env.queryFails (.objIspresent p o) d = false) →
      env.AdmitsIds s cmd.pid cmd.oid := fun env hasked =>
    ⟨hpid, fun h0 => (hfree h0).1, hasked _ _ _, hpart, fun h0 => ⟨hasked _ _ _, (hfree h0).2⟩⟩
  by_cases hask : cmd.oid = 0 ∧ s.ic.curPid ≠ cmd.pid
  · obtain ⟨h0, hcur⟩ := hask
    have hno : ¬ Env.unasked.Chooses s cmd.pid := fun h => absurd (h hcur) nofun
    obtain ⟨ret, t, hrun, hres⟩ := (osdCreate_result Env.unasked cmd.pid cmd.oid).of_halts
        (halts_osdCreate 1)
    cases hres with
    | refused ha hdb hfiles => exact absurd (hadmits Env.unasked fun _ _ _ => rfl) ha
    | notChosen ha h0 hc hdb hfiles => exact ⟨Env.unasked, _, t, dataCreate_refused nofun hrun⟩
    | last ha hlast hdb hfiles hroot => exact absurd (ha.chooses h0) hno
    | notInserted ha hins hlast hdb hfiles => exact absurd (ha.chooses h0) hno
    | notMade ha hlast hins hmade hret hdb hfiles => exact absurd (ha.chooses h0) hno
    | made ha hlast hins hmade hdb hfiles hroot => exact absurd (ha.chooses h0) hno
  · have hchooses : Env.broken.Chooses s cmd.pid := fun _ => rfl
    obtain ⟨ret, t, hrun, hres⟩ := (osdCreate_result Env.broken cmd.pid cmd.oid).of_halts
        (halts_osdCreate 1)
    cases hres with
    | refused ha hdb hfiles => exact absurd (hadmits Env.broken fun _ _ _ => rfl) ha
    | notChosen ha h0 hc hdb hfiles => exact absurd hchooses hc
    | last ha hlast hdb hfiles hroot =>
      have h0 : cmd.oid ≠ 0 := by
        intro h0
        have hcur : s.ic.curPid = cmd.pid := not_not.1 fun h => hask ⟨h0, h⟩
        refine hnext h0 hcur ?_
        unfold Target.userobjectId Target.chosen at hlast
        rw [if_pos h0, if_pos hcur] at hlast
        dsimp only at hlast
        split at hlast
        · exact absurd hlast (by decide)
        · exact hlast
      have hid : isUserobjectId cmd.pid cmd.oid = true :=
        Bool.and_eq_true _ _ ▸ ⟨decide_eq_true hpid, decide_eq_true (hfree h0).1⟩
      obtain ⟨ret, u, hret, hwrite⟩ := dataWrite_broken (t := t) hid hds
      obtain ⟨v, hundo⟩ := osdRemove_broken hid u
      exact ⟨Env.broken, ret, v, dataCreate_failed hrun hret hwrite hundo⟩
    | notInserted ha hins hlast hdb hfiles => exact ⟨Env.broken, _, t, dataCreate_refused nofun hrun⟩
    | notMade ha hlast hins hmade hret hdb hfiles => exact absurd hins.1 nofun
    | made ha hlast hins hmade hdb hfiles hroot => exact absurd hins.1 nofun

/-- **A command that nothing else stops fails otherwise in some environment.** -/
theorem not_rejects_of_not_stopped (haction : cmd.serviceAction ∈
    [ServiceAction.read, .write, .createAndWrite])
    (hcont : cmd.continuation fuel = some (.ok, ds)) (hds : otherDescriptors ds = true)
    (h : ¬ cmd.StoppedAnyway s) : ∃ env, ¬ Rejects env cmd fuel s := by
  unfold Command.StoppedAnyway at h
  simp only [not_or, not_and, not_not] at h
  obtain ⟨hread, hlen, hwrite, hcreate⟩ := h
  have hexec : ∀ env, execServiceAction env cmd fuel = dispatch env cmd ds fuel := fun env =>
    execServiceAction_continuation hcont
  by_cases hw : cmd.serviceAction = .write
  · obtain ⟨hid, hfile⟩ := hwrite hw
    have hid : isUserobjectId cmd.pid cmd.oid = true := by simpa using hid
    obtain ⟨content, hcontent⟩ := Option.ne_none_iff_exists'.1 hfile
    have hlookup : s.lookup Env.broken cmd.pid cmd.oid = some content := by
      have hroot : ¬ (s.rootFreed && Env.broken.rootGarbled) = true := by simp [Env.broken, Env.calm]
      exact (if_neg hroot).trans hcontent
    obtain ⟨content', hrun⟩ : ∃ content', cmd.dataWrite Env.broken ds s
        = some (hwErr cmd.pid cmd.oid, s.setFile cmd.pid cmd.oid (some content')) :=
          osdWrite_broken hid hlookup hds
    have hexecRun : execServiceAction Env.broken cmd fuel s =
        some ((Outcome.of (hwErr cmd.pid cmd.oid) 0 0).afterTest cmd ds,
        s.setFile cmd.pid cmd.oid (some content')) := by
      rw [hexec, dispatch_write hw]
      exact execWrite_failed hlen (by intro h; cases h) hrun
    exact ⟨Env.broken, not_rejects hexecRun (afterTest_sense rfl)⟩
  · have hc : cmd.serviceAction = .createAndWrite := by simpa [hread, hw] using haction
    obtain ⟨hpid, hpart, hfree, hnext⟩ := hcreate hc
    obtain ⟨env, ret, t, hdata⟩ := dataCreate_hwErr hds (UInt64.not_lt.1 hpid) hpart
      (fun h0 => ⟨UInt64.not_lt.1 (hfree h0).1, (hfree h0).2⟩) hnext
    have hrun : execServiceAction env cmd fuel s
        = some ((⟨ret, 0, 0, (hwErr cmd.pid cmd.oid).built⟩ : Outcome).afterTest cmd ds, t) := by
      rw [hexec, dispatch_createAndWrite hc]
      exact execCreateAndWrite_run hlen hdata
    exact ⟨env, not_rejects hrun (afterTest_sense rfl)⟩

/-! ## The commands -/

/-- **When the data commands take nothing but one scatter/gather list**, whatever becomes of the statements
and system calls. -/
theorem dataCommands_handleDescriptors {cmd : Command} {fuel : Nat} {ds : List ContDescriptor} (s : Target)
    (haction : cmd.serviceAction ∈ [ServiceAction.read, .write, .createAndWrite])
    (hcont : cmd.continuation fuel = some (.ok, ds)) :
    (∀ env, HandlesDescriptors env cmd ds fuel s) ↔ (otherDescriptors ds = true → cmd.StoppedAnyway s) := by
  constructor
  · intro h hds
    by_contra hstop
    obtain ⟨env, hno⟩ := not_rejects_of_not_stopped haction hcont hds hstop
    exact hno ((h env).rejects hds)
  · intro h env
    exact ⟨fun hds => rejects_of_stopped haction hcont hds (h hds), writeArguments_payload hcont⟩

/-- WRITE of 4 bytes to (0x10000, 0x10000) with two empty scatter/gather lists. -/
def twoLists : Command where
  cdb := blobMem (List.replicate 8 0 ++ htons 0x8886 ++ List.replicate 6 0 ++ htonll 0x10000 ++
    htonll 0x10000 ++
    htonll 4 ++ htonll 0 ++ htonl 56)
  getsetCdbfmt := GETPAGE_SETVALUE
  retrievedAttrOff := 0
  indata := blobMem ([1, 0, 0x88, 0x86] ++ List.replicate 36 0 ++
    [0, 1, 0, 0, 0, 0, 0, 0, 0, 1, 0, 0, 0, 0, 0, 0])
  inlen := 60
  hasOutdata := true

theorem twoLists_continuation : twoLists.continuation 2 = some (.ok, [⟨SCATTER_GATHER_LIST, 0, 40⟩,
    ⟨SCATTER_GATHER_LIST, 0, 48⟩]) := by
  decide +kernel

/-- The object is there, so nothing else stops the command. -/
theorem dataCommands_handleDescriptors_twoLists :
    ¬ ∀ env, HandlesDescriptors env twoLists [⟨SCATTER_GATHER_LIST, 0, 40⟩, ⟨SCATTER_GATHER_LIST, 0, 48⟩] 2
      (calmRun [.createPartition 0, .create 0x10000 0 1]) := by
  rw [dataCommands_handleDescriptors _ (by decide +kernel) twoLists_continuation]
  intro h
  rcases h rfl with h | h | ⟨-, h | h⟩ | ⟨h, -⟩
  · exact absurd h (by decide +kernel)
  · exact absurd h (by decide +kernel)
  · exact absurd h (by decide +kernel)
  · exact absurd h (by decide +kernel)
  · exact absurd h (by decide +kernel)

/-- The start of the segment is stored as data, with status GOOD. -/
theorem twoLists_stored : ¬ ∀ (env : Env) (cmd : Command) (fuel : Nat)
    (ds : List ContDescriptor) (s : Target),
    cmd.serviceAction ∈ [ServiceAction.read, .write, .createAndWrite] →
      cmd.continuation fuel = some (.ok, ds) →
      HandlesDescriptors env cmd ds fuel s := by
  intro h
  let s := calmRun [.createPartition 0, .create 0x10000 0 1]
  have hstored : (execServiceAction Env.calm twoLists 2 s).map
      (fun r => (r.1.ret, r.2.files 0x10000 0x10000)) = some (.ok, some [1, 0, 0x88, 0x86]) := by
    decide +kernel
  obtain ⟨o, s', hrun, ⟨x, hret, -⟩, -⟩ := (h Env.calm twoLists 2 _ s (by decide +kernel)
    twoLists_continuation).rejects rfl
  rw [hrun] at hstored
  have hok : o.ret = .ok := congrArg Prod.fst (Option.some.inj hstored)
  rw [hret] at hok
  cases hok

end OsdTarget
