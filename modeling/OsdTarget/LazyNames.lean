import OsdTarget.GetList
import OsdTarget.PureRetrieval

/-!
# A GET that stores, and who sees it

A GET ATTRIBUTES that comes to the stores of `lazy_init_attr` leaves the name of the atomics page behind.
Whoever asks for that name afterwards gets it, where an object without it answers with an entry of length 0.
-/

namespace OsdTarget

open Base

variable {env : Env} {s t : Target} {cmd : Command} {fuel : Nat} {pid oid : UInt64} {page number : UInt32}

/-! ## The name stays -/

/-- The row of the name of the atomics page. -/
def atomicsName (pid oid : UInt64) : AttrRow :=
  attrRow pid oid USER_ATOMICS_PG 0 (userAtomicPageName.read 0 40)

/-- The object has this name, stored once. -/
def Target.Named (s : Target) (pid oid : UInt64) : Prop :=
  (Rtrvl.attr USER_ATOMICS_PG 0).rows s.db (bindInt64 pid) (bindInt64 oid) = [atomicsName pid oid]

/-- The name stays. -/
def StaysNamed (pid oid : UInt64) (s s' : Target) : Prop := s.Named pid oid → s'.Named pid oid

instance : Untransacted (StaysNamed pid oid) where
  same s s' hdb _ _ _ _ _ h := by
    unfold Target.Named at h ⊢
    rwa [hdb]
  trans _ _ _ h h' hs := h' (h hs)
  txn _ _ _ h := h

theorem named_withAttr (s : Target) : (s.withAttr (atomicsName pid oid)).Named pid oid := by
  have hnone : (deleteWhere (fun r => r.key = (atomicsName pid oid).key) s.db.attr).filter
      (fun r => r.key = (atomicsName pid oid).key) = [] := by
    rw [List.filter_eq_nil_iff]
    intro r hr hk
    exact (mem_deleteWhere.1 hr).2 (of_decide_eq_true hk)
  show (insertReplace AttrRow.key (atomicsName pid oid) s.db.attr).filter
    (fun r => r.key = (atomicsName pid oid).key)
    = [atomicsName pid oid]
  rw [insertReplace, List.filter_append, hnone, List.nil_append, List.filter_cons_of_pos (by simp),
    List.filter_nil]

theorem staysNamed_admits {r : AttrRow} (hr : r ∈ lazyAttrs pid oid) : Admits (StaysNamed pid oid) r := by
  intro s h
  simp only [lazyAttrs, List.mem_cons, List.not_mem_nil, or_false] at hr
  rcases hr with rfl | rfl
  · unfold Target.Named Rtrvl.rows at h ⊢
    rw [← h]
    refine filter_insertReplace fun x hx => ?_
    have hne : x.key ≠ (bindInt64 pid, bindInt64 oid, bindInt USER_ATOMICS_PG, bindInt 0) := by
      rw [hx]
      simp only [AttrRow.key, attrRow, ne_eq, Prod.mk.injEq, not_and]
      exact fun _ _ h => absurd h (by decide)
    exact decide_eq_false hne
  · exact named_withAttr s

/-! ## A retrieval that stores -/

/-- The second of the two stores is taken, too. -/
def Env.TakesAtomicsName (env : Env) (pid oid : UInt64) : Prop :=
  ∀ d, env.dmsFails (.attrSet (atomicsName pid oid)) d = false

theorem lazyInitAttr_stores (hst : ButReply s t) (h : s.Initialises env pid oid)
    (htakes : env.TakesAtomicsName pid oid) (number : UInt32) :
    Ends (lazyInitAttr env pid oid GETALLATTR_PG number) t fun ret u => ret = .ok ∧ u.Named pid oid := by
  have hval : Ends (attrGetVal env pid oid USER_TMSTMP_PG 0 40) t fun r u => r.1 = .err .enoent ∧
      u.db = s.db := by
    obtain ⟨⟨⟨ret, v⟩, s₁⟩, hrun, rfl⟩ := Option.map_eq_some_iff.1 h.unnamed
    obtain ⟨u, hu, -, o, b, l, rfl⟩ := ((around_reveals s env pid oid).attrGetVal USER_TMSTMP_PG 0 40 s t
      ⟨.refl s, hst⟩).run hrun
    exact (ends_of_run hu).2 ⟨rfl, rfl⟩
  refine ends_ite_of (fun hidle => ?_) fun _ => ends_call hval fun r u ⟨hr, hu⟩ => ?_
  · rcases hidle with h | h | h
    · exact absurd rfl h.1
    · exact absurd h.1 (by decide)
    · exact absurd rfl h.2
  · obtain ⟨ret, found⟩ := r
    obtain rfl : ret = .err .enoent := hr
    refine ends_ite_of nofun fun _ => ends_ite_of (fun h => absurd rfl h) fun _ => ?_
    have hfirst : Ends (attrSetAttr env pid oid USER_TMSTMP_PG 0 (some userTmstmpPageName) 40) u
        fun ret _ => ret = .ok := by
      refine dbExecDms_ends_of rfl rfl fun hf => ?_
      have htaken : env.dmsFails (.attrSet (attrRow pid oid USER_TMSTMP_PG 0
          (userTmstmpPageName.read 0 40))) u.db
          = false := hu ▸ h.taken
      exact absurd (htaken.symm.trans hf) nofun
    refine ends_call hfirst fun ret v hret => ?_
    rw [hret]
    refine ends_ite_of (fun h => absurd rfl h) fun _ => ?_
    refine dbExecDms_ends_of rfl ⟨rfl, named_withAttr v⟩ fun hf => ?_
    exact absurd ((htakes v.db).symm.trans hf) nofun

theorem initialises_type (hst : ButReply s t) (h : s.Initialises env pid oid) :
    Ends (getObjType env pid oid) t fun type u => type ≠ .illegal ∧ ButReply s u := by
  intro type u hu
  obtain ⟨s₁, hs, hu₁, -⟩ := ((around_reveals s env pid oid).getObjType t s ⟨hst, .refl s⟩).run hu
  refine ⟨fun hill => h.typed ?_, hu₁⟩
  rw [hs, hill]
  rfl

theorem isgettablePage_wildcard {type : ObjType} (h : type ≠ .illegal) :
    isgettablePage type GETALLATTR_PG = true := by
  cases type
  case illegal => exact absurd rfl h
  all_goals rfl

/-- The retrieval of the page wildcard. -/
theorem osdGetattrList_stores (hst : ButReply s t) (h : s.Initialises env pid oid)
    (htakes : env.TakesAtomicsName pid oid) (number : UInt32) (pos : Nat) (outlen : UInt32)
    (listfmt : UInt8) :
    Ends (osdGetattrList env pid oid GETALLATTR_PG number pos outlen true listfmt) t fun _ u =>
      u.Named pid oid := by
  refine ends_call (initialises_type hst h) fun type u ⟨hne, hu⟩ =>
    ends_ite_of (fun hill => absurd hill hne) fun _ => ?_
  refine ends_ite_of (fun hno => absurd (isgettablePage_wildcard hne) (by simpa using hno)) fun _ =>
    ends_call (lazyInitAttr_stores hu h htakes number) fun ret v ⟨hret, hv⟩ => ?_
  rw [hret]
  refine ends_ite_of (fun h => absurd rfl h) fun _ => ?_
  have hrest : Respects (StaysNamed pid oid)
      (getattrListByPage env pid oid GETALLATTR_PG number listfmt pos outlen.toUInt64) :=
    resp_getattrListByPage _ _ _ _ _ _ _
  refine ends_call (hrest v) fun r w hw => ends_ite_of (fun _ => ends_pure.2 (hw hv)) fun _ => ?_
  refine ends_ite_of (fun _ => ?_) fun _ => ends_pure.2 (hw hv)
  have hnull : Respects (StaysNamed pid oid) (fillNullAttr env oid GETALLATTR_PG number
      listfmt pos outlen) :=
    resp_fillNullAttr _ _ _ _ _ _
  refine ends_call (hnull w) fun filled x hx => ?_
  cases filled with
  | ok n => exact ends_pure.2 (hx (hw hv))
  | error e => cases e <;> exact ends_pure.2 (hx (hw hv))

theorem osdGetattrPage_stores (hst : ButReply s t) (h : s.Initialises env pid oid)
    (htakes : env.TakesAtomicsName pid oid) (pos : Nat) (outlen : UInt64) :
    Ends (osdGetattrPage env pid oid GETALLATTR_PG pos outlen true) t fun _ u => u.Named pid oid := by
  refine ends_call (initialises_type hst h) fun type u ⟨hne, hu⟩ =>
    ends_ite_of (fun hill => absurd hill hne) fun _ => ?_
  refine ends_ite_of (fun hno => absurd (isgettablePage_wildcard hne) (by simpa using hno)) fun _ =>
    ends_ite_of nofun fun _ => ?_
  refine ends_ite_of (fun h => absurd h (by decide)) fun _ =>
    ends_ite_of (fun h => absurd h (by decide)) fun _ =>
    ends_ite_of (fun _ => ?_) fun h => absurd rfl h
  refine ends_call (lazyInitAttr_stores hu h htakes 0) fun ret v ⟨hret, hv⟩ => ?_
  obtain rfl := hret
  have hall : Respects (StaysNamed pid oid) (attrGetAllAttrs env pid oid RTRVD_SET_ATTR_LIST pos outlen) :=
    resp_execAttrRtrvlStmt _ _ _ _ _ _
  exact ends_ite_of (fun h => absurd rfl h) fun _ => ends_call (hall v) fun _ w hw => ends_pure.2 (hw hv)

/-! ## A command that stores -/

theorem stays_osdGetattrList (number : UInt32) (pos : Nat) (outlen : UInt32) (listfmt : UInt8) :
    Respects (StaysNamed pid oid) (osdGetattrList env pid oid page number pos outlen true listfmt) :=
  fun _ => osdGetattrList_stays fun _ _ _ hr => staysNamed_admits hr

theorem stays_getAttrListLoop (hone : createCount oid 1 = 1) {listfmt : UInt8} (l : List (UInt32 × UInt32))
    (c : GetCursor) : Respects (StaysNamed pid oid) (getAttrListLoop env pid oid true listfmt 1 l c) := by
  induction l generalizing c with
  | nil => exact resp_pure _
  | cons e l ih =>
    obtain ⟨page, number⟩ := e
    unfold getAttrListLoop
    rw [hone]
    have hget : Respects (StaysNamed pid oid) (getFromObjects env pid page number true listfmt 1 oid c) :=
      resp_bind (stays_osdGetattrList _ _ _ _) fun _ => respects_ite (resp_pure _) (resp_pure _)
    exact resp_bind hget fun _ => respects_ite (resp_pure _) (ih _)

/-- The entry that asks for the page wildcard, and what follows it. -/
theorem getAttrListLoop_stores (hone : createCount oid 1 = 1) (hst : ButReply s t)
    (h : s.Initialises env pid oid)
    (htakes : env.TakesAtomicsName pid oid) {listfmt : UInt8} (after : List (UInt32 × UInt32))
    (c : GetCursor) :
    Ends (getAttrListLoop env pid oid true listfmt 1 ((GETALLATTR_PG, number) :: after) c) t
      fun _ u => u.Named pid oid := by
  unfold getAttrListLoop
  rw [hone]
  have hget : Ends (getFromObjects env pid GETALLATTR_PG number true listfmt 1 oid c) t fun _ u =>
      u.Named pid oid :=
    ends_call (osdGetattrList_stores hst h htakes number _ _ _) fun r u hu =>
      ends_ite_of (fun _ => ends_pure.2 hu) fun _ => ends_pure.2 hu
  refine ends_call hget fun r u hu => ends_ite_of (fun _ => ends_pure.2 hu) fun _ => ?_
  exact (stays_getAttrListLoop hone after _ u).mono fun _ v hv => hv hu

theorem getAttributes_stores (hst : ButReply s t) (hcomes : cmd.ComesToWildcard env s)
    (h : s.Initialises env cmd.pid cmd.oid) (htakes : env.TakesAtomicsName cmd.pid cmd.oid)
    (used : UInt32) :
    Ends (getAttributes env cmd cmd.pid cmd.oid 1 used) t fun _ u => u.Named cmd.pid cmd.oid := by
  refine ends_ite_of (fun h => absurd h (by decide)) fun _ => ?_
  rcases hcomes with ⟨hf, hpage, halloc, hout⟩ | ⟨hf, hone, off, len, before, number, after, c, s₁, hc,
      hentries, hbefore, hrun⟩
  · rw [hf, if_pos rfl]
    unfold getAttrPage
    dsimp only
    rw [hpage]
    refine ends_ite_of (fun h => ?_) fun _ => ends_ite_of (fun h => absurd h.1 (by decide)) fun _ =>
      ends_ite_of (fun h => absurd hout h) fun _ => ends_call (osdGetattrPage_stores hst h htakes _ _)
        fun _ _ hu => ends_pure.2 hu
    rcases h with h | h
    · exact absurd h (by decide)
    · exact absurd h halloc
  · rw [hf, if_neg (by decide), if_pos rfl]
    unfold getAttrList
    rw [hc]
    obtain ⟨o, b, l, rfl⟩ := hst
    refine ends_bind.2 (ends_modify.2 (ends_bind.2 (ends_modify.2 (ends_bind.2 (withinTxn_ends fun b l =>
      ends_call (P := fun _ u => u.Named cmd.pid cmd.oid) ?_ fun r u hu => ?_)))))
    · show Ends (getAttrListLoop env cmd.pid cmd.oid true RTRVD_SET_ATTR_LIST 1
        (getEntries cmd off len) _) _ _
      rw [hentries, getAttrListLoop_append]
      have halike : Alike (Around s) (getAttrListLoop env cmd.pid cmd.oid true RTRVD_SET_ATTR_LIST 1 before
          ⟨cmd.outbuf + 8, cmd.allocLen - 8, 8⟩) :=
        around_getAttrListLoop (fun e he _ _ hpage => absurd hpage (hbefore e he)) _
      obtain ⟨u, hu, -, hsu⟩ := (halike s _ ⟨.refl s, ⟨_, b, l, rfl⟩⟩).run hrun
      refine ends_bind.2 ((ends_of_run hu).2 (ends_ite_of (fun h => absurd rfl h) fun _ => ?_))
      exact getAttrListLoop_stores hone hsu h htakes after c
    · have hend : Ends (if r.1 = .ok then outWrite (cmd.outbuf + 4) (htonl (r.2.used - 8)) >>= fun _ =>
          pure r
          else pure r) u fun _ v => v.Named cmd.pid cmd.oid :=
        ends_ite_of (fun _ => ends_bind.2 (ends_modify.2 (ends_pure.2 hu))) fun _ => ends_pure.2 hu
      exact hend.mono fun r v hv b l => ends_pure.2 hv

/-! ### It returns -/

section Halts

theorem halts_outTimes (l : List (Nat × UInt64)) : Halts (outTimes l) := by
  induction l with
  | nil => exact halts_pure _
  | cons x l ih =>
    obtain ⟨pos, ms⟩ := x
    unfold outTimes
    cases htonTime ms with
    | none => exact halts_pure _
    | some bytes => exact halts_bind (halts_outWrite _ _) fun _ => ih

theorem halts_getCcap (pos : Nat) (outlen : UInt64) : Halts (getCcap pos outlen) :=
  have hw := fun p b => halts_outWrite p b
  halts_ite (halts_pure _) (halts_bind halts_get fun _ => halts_bind (hw _ _) fun _ =>
    halts_bind (hw _ _) fun _ =>
    halts_bind (hw _ _) fun _ => halts_bind (hw _ _) fun _ => halts_bind (hw _ _) fun _ =>
      halts_bind (hw _ _)
      fun _ => halts_bind (hw _ _) fun _ => halts_bind (hw _ _) fun _ => halts_pure _)

theorem halts_getUtsap (pid oid : UInt64) (pos : Nat) (outlen : UInt64) :
    Halts (getUtsap env pid oid pos outlen) :=
  have hw := fun p b => halts_outWrite p b
  halts_ite (halts_pure _) (halts_bind (hw _ _) fun _ => halts_bind (hw _ _) fun _ =>
    halts_bind (hw _ _) fun _ =>
    halts_bind halts_get fun _ => halts_ite (halts_pure _) (halts_bind (halts_outTimes _) fun _ =>
      halts_ite (halts_pure _) (halts_pure _)))

theorem halts_osdGetattrPage (pid oid : UInt64) (page : UInt32) (pos : Nat) (outlen : UInt64) :
    Halts (osdGetattrPage env pid oid page pos outlen true) := by
  refine halts_bind (halts_getObjType _ _) fun _ => halts_ite (halts_pure _) (halts_ite (halts_pure _)
    (halts_ite (halts_bind (halts_modify _) fun _ => ?_) ?_))
  all_goals
    dsimp only
    exact halts_ite (halts_bind (halts_getCcap _ _) fun _ => halts_pure _)
      (halts_ite (halts_bind (halts_getUtsap _ _ _ _) fun _ => halts_pure _)
        (halts_ite (halts_bind (halts_lazyInitAttr _ _ _ _) fun _ => halts_ite (halts_pure _)
          (halts_bind (halts_execAttrRtrvlStmt _ _ _ _ _ _) fun _ => halts_pure _)) (halts_pure _)))

theorem halts_getAttributes (cmd : Command) (pid oid : UInt64) (numoid : UInt16) (used : UInt32) :
    Halts (getAttributes env cmd pid oid numoid used) :=
  halts_ite (halts_pure _) (halts_ite (halts_ite (halts_pure _)
    (halts_ite (halts_pure _) (halts_ite (halts_pure _)
    (halts_bind (halts_osdGetattrPage _ _ _ _ _) fun _ => halts_pure _))))
    (halts_ite (halts_getAttrList _ _ _ _ _) (halts_ite (halts_pure _) (halts_pure _))))

end Halts

theorem execServiceAction_get (haction : cmd.serviceAction = .getAttributes) (hset : cmd.SetsNothing)
    (hlen : cmd.cdbContLen = 0) : execServiceAction env cmd fuel =
      getAttributes env cmd cmd.pid cmd.oid 1 0 >>= fun r =>
        if r.1 ≠ .ok then pure (.of r.1 0 r.2) else pure (.of .ok 0 r.2) := by
  unfold execServiceAction dispatch
  rw [if_pos hlen, haction]
  dsimp only
  rw [noContinuations, if_neg (fun hne => hne hlen)]
  unfold execGetAttributes
  rw [setAttributes_nothing hset (by decide)]
  rfl

theorem osdemuCmdSubmit_get {sub : Submission} (haction : sub.command.serviceAction = .getAttributes)
    (hset : sub.command.SetsNothing) (hlen : sub.command.cdbContLen = 0)
    (haccepted : sub.refusal env = none) :
    osdemuCmdSubmit env sub fuel = (do
      modify Target.received
      let o : Outcome ← getAttributes env sub.command sub.command.pid sub.command.oid 1 0 >>= fun r =>
        if r.1 ≠ .ok then pure (Outcome.of r.1 0 r.2) else pure (Outcome.of .ok 0 r.2)
      let used ← countRetrieved sub.command.retrievedAttrOff o.used o.getUsed
      return Report.of o.ret.senselen o.senseBuf (if 0 < sub.outlen then used else sub.dataOutLen)) := by
  unfold osdemuCmdSubmit
  rw [haccepted, execServiceAction_get haction hset hlen]

theorem halts_get {sub : Submission} (haction : sub.command.serviceAction = .getAttributes)
    (hset : sub.command.SetsNothing) (hlen : sub.command.cdbContLen = 0) :
    Halts (osdemuCmdSubmit env sub fuel) := by
  cases haccepted : sub.refusal env with
  | some r =>
    unfold osdemuCmdSubmit
    rw [haccepted]
    exact halts_pure _
  | none =>
    rw [osdemuCmdSubmit_get haction hset hlen haccepted]
    exact halts_bind (halts_modify _) fun _ =>
      halts_bind (halts_bind (halts_getAttributes _ _ _ _ _) fun _ =>
      halts_ite (halts_pure _) (halts_pure _)) fun _ =>
        halts_bind (halts_countRetrieved _ _ _) fun _ => halts_pure _

/-- **A GET that comes to the stores leaves the name of the atomics page behind.** -/
theorem osdemuCmdSubmit_stores {sub : Submission} (haction : sub.command.serviceAction = .getAttributes)
    (hset : sub.command.SetsNothing) (h : sub.StoresNames env s)
    (htakes : env.TakesAtomicsName sub.command.pid sub.command.oid) :
    ∃ report s', osdemuCmdSubmit env sub fuel s = some (report, s') ∧
      s'.Named sub.command.pid sub.command.oid ∧ s'.db.obj = s.db.obj := by
  obtain ⟨report, s', hrun⟩ : ∃ report s', osdemuCmdSubmit env sub fuel s = some (report, s') :=
    halts_get haction hset h.noContinuations s
  refine ⟨report, s', hrun, ?_⟩
  rw [osdemuCmdSubmit_get haction hset h.noContinuations h.accepted] at hrun
  revert report s'
  show Ends _ s fun _ s' => s'.Named sub.command.pid sub.command.oid ∧ s'.db.obj = s.db.obj
  refine ends_bind.2 (ends_modify.2 (ends_call (P := fun _ u => u.Named sub.command.pid sub.command.oid ∧
    u.db.obj = s.db.obj) ?_ fun o u ⟨hu, hobj⟩ => ?_))
  · have hstep : Respects IdStep (getAttributes env sub.command sub.command.pid sub.command.oid 1 0) :=
        fun _ =>
      getAttributes_respects brackets_self (fun _ => IdStep.admitsAttributes _ _) fun _ _ =>
        IdStep.admitsAttributes _ _
    have hnamed := getAttributes_stores ⟨[], s.inTxn, [], rfl⟩ h.comes h.initialises htakes 0
    refine ends_call (hnamed.and (hstep s.received)) fun r u ⟨hu, hid⟩ => ?_
    exact ends_ite_of (fun _ => ends_pure.2 ⟨hu, hid.obj⟩) fun _ => ends_pure.2 ⟨hu, hid.obj⟩
  · have hcount : Ends (countRetrieved sub.command.retrievedAttrOff o.used o.getUsed) u fun _ v =>
        v.db = u.db :=
      ends_ite_of (fun _ => ends_ite_of (fun _ => ends_bind.2 (ends_modify.2 (ends_pure.2 rfl)))
        fun _ => ends_pure.2 rfl)
        fun _ => ends_pure.2 rfl
    refine ends_call hcount fun _ v hv => ends_pure.2 ⟨?_, ?_⟩
    · unfold Target.Named at hu ⊢
      rwa [hv]
    · rw [hv, hobj]

/-! ## Asking for the name -/

/-- A submission with this CDB and these data, and memory for its answer. -/
def submissionOf (cdb dataIn : List UInt8) : Submission where
  cdb := blobMem cdb
  dataIn := blobMem dataIn
  dataInLen := UInt64.ofNat dataIn.length
  hasDataIn := dataIn ≠ []
  hasDataOut := false
  dataOutLen := 0

/-- The service action and the two bytes behind it, and room for (pid, oid). -/
def cdbHeader (action : UInt16) (options : List UInt8) : List UInt8 :=
  [VARLEN_CDB, 0, 0, 0, 0, 0, 0, OSD_CDB_SIZE - 8] ++ htons action ++ options ++ List.replicate 20 0

/-- The same about (pid, oid). -/
def Submission.about (sub : Submission) (pid oid : UInt64) : Submission :=
  { sub with cdb := (sub.cdb.write 16 (htonll pid)).write 24 (htonll oid) }

/-- GET ATTRIBUTES of the name of the atomics page, as a list. -/
def getAtomicsName : Submission :=
  submissionOf (cdbHeader 0x888e [0, 0x30] ++ List.replicate 20 0 ++ htonl 16 ++ htonl 0 ++ htonl 0x400)
    ([1, 0, 0, 0] ++ htonl 8 ++ htonl USER_ATOMICS_PG ++ htonl 0)

section About

variable {sub : Submission}

theorem about_read {off n : Nat} (h : off + n ≤ 16 ∨ 32 ≤ off) :
    (sub.about pid oid).cdb.read off n = sub.cdb.read off n := by
  show ((sub.cdb.write 16 (htonll pid)).write 24 (htonll oid)).read off n = _
  have hlen : ∀ x, (htonll x).length = 8 := fun x => natBe_length 8 _
  rw [Mem.read_write_of_disjoint (by rw [hlen]; omega), Mem.read_write_of_disjoint (by rw [hlen]; omega)]

theorem about_byte {a : Nat} (h : a + 1 ≤ 16 ∨ 32 ≤ a) : (sub.about pid oid).cdb a = sub.cdb a := by
  have hread : (sub.about pid oid).cdb.read a 1 = sub.cdb.read a 1 := about_read h
  exact (List.cons.inj hread).1

theorem about_ntohs {off : Nat} (h : off + 2 ≤ 16 ∨ 32 ≤ off) :
    getNtohs (sub.about pid oid).cdb off = getNtohs sub.cdb off := by
  unfold getNtohs
  rw [about_read h]

theorem about_ntohl {off : Nat} (h : off + 4 ≤ 16 ∨ 32 ≤ off) :
    getNtohl (sub.about pid oid).cdb off = getNtohl sub.cdb off := by
  unfold getNtohl
  rw [about_read h]

theorem about_ntohoffset {off : Nat} (h : off + 4 ≤ 16 ∨ 32 ≤ off) :
    getNtohoffset (sub.about pid oid).cdb off = getNtohoffset sub.cdb off := by
  unfold getNtohoffset
  rw [about_ntohl h]

theorem about_pid : (sub.about pid oid).command.pid = pid := by
  refine getNtohll_of_read ?_
  show ((sub.cdb.write 16 (htonll pid)).write 24 (htonll oid)).read 16 8 = _
  have hlen : (htonll pid).length = 8 := natBe_length 8 _
  rw [Mem.read_write_of_disjoint (by omega)]
  exact (congrArg _ hlen.symm).trans (Mem.read_write_self _ _ _)

theorem about_oid : (sub.about pid oid).command.oid = oid := by
  refine getNtohll_of_read ?_
  have hlen : (htonll oid).length = 8 := natBe_length 8 _
  exact (congrArg _ hlen.symm).trans (Mem.read_write_self (sub.cdb.write 16 (htonll pid)) 24 (htonll oid))

theorem about_calcMaxOutLen : (sub.about pid oid).calcMaxOutLen = sub.calcMaxOutLen := by
  have hll : getNtohll (sub.about pid oid).cdb 32 = getNtohll sub.cdb 32 := by
    unfold getNtohll
    rw [about_read (by omega)]
  have hdata : (sub.about pid oid).dataLen = sub.dataLen := by
    unfold Submission.dataLen Submission.action
    rw [about_ntohs (by omega), about_ntohl (by omega), hll]
  have hfmt : (sub.about pid oid).getsetCdbfmt = sub.getsetCdbfmt := by
    unfold Submission.getsetCdbfmt
    rw [about_byte (by omega)]
  unfold Submission.calcMaxOutLen
  rw [hdata, hfmt, about_ntohoffset (by omega), about_ntohoffset (by omega), about_ntohl (by omega),
    about_ntohl (by omega)]

theorem about_refusal : (sub.about pid oid).refusal env = sub.refusal env := by
  unfold Submission.refusal
  rw [about_calcMaxOutLen, about_byte (by omega), about_byte (by omega)]
  rfl

/-- The command, up to the ids. -/
theorem about_command : (sub.about pid oid).command =
    { sub.command with cdb := (sub.about pid oid).cdb } := by
  have hfmt : (sub.about pid oid).getsetCdbfmt = sub.getsetCdbfmt := by
    unfold Submission.getsetCdbfmt
    rw [about_byte (by omega)]
  unfold Submission.command Submission.outlen
  rw [hfmt, about_calcMaxOutLen]
  rfl

theorem about_getAttrListCheck : getAttrListCheck (sub.about pid oid).command =
    getAttrListCheck sub.command := by
  rw [about_command]
  unfold getAttrListCheck getListCheck
  dsimp only
  rw [about_ntohl (by omega), about_ntohoffset (by omega), about_ntohl (by omega)]
  rfl

end About

/-- The rows of the name that the object has. -/
def Target.names (s : Target) (pid oid : UInt64) : List AttrRow :=
  (Rtrvl.attr USER_ATOMICS_PG 0).rows s.db (bindInt64 pid) (bindInt64 oid)

/-- The length of the entry: that of the name, or 0. -/
def entryLength (rows : List AttrRow) : UInt32 := if rows = [] then 16 else 56

theorem lePackAttr_fits {pos : Nat} {buflen page number : UInt32} {valen : UInt16} {val : Option Mem}
    (hpos : (env.outAddr + pos) % 8 = 0) (hlen : buflen.toNat % 8 = 0)
    (hroom : LE_MIN_ITEM_LEN ≤ buflen.toNat) :
    Ends (lePackAttr env pos buflen page number valen val) s fun r t =>
      r = .ok (leBytes buflen.toNat page number valen val).length ∧ t.db = s.db := by
  have hat : lePackAttrAt (env.outAddr + pos) buflen page number valen val
      = .ok (leBytes buflen.toNat page number valen val) := by
    unfold lePackAttrAt
    rw [if_neg (by omega), if_neg (by omega)]
  unfold lePackAttr
  rw [hat]
  exact ends_bind.2 (ends_modify.2 (ends_pure.2 ⟨rfl, rfl⟩))

/-- An object that has the name once, or not at all, answers with an entry of that length. -/
theorem osdGetattrList_name (htype : s.db.objType pid oid = .userobject)
    (hnames : s.names pid oid = [] ∨ s.names pid oid = [atomicsName pid oid]) :
    Ends (osdGetattrList .calm pid oid USER_ATOMICS_PG 0 8 0x3f8 true RTRVD_SET_ATTR_LIST) s fun r _ =>
      r = (.ok, some (entryLength (s.names pid oid))) := by
  have hobj : getObjType .calm pid oid s = some (.userobject, s) :=
      htype ▸ getObjType_answers (fun _ => rfl) pid oid
  refine ends_bind.2 ((ends_of_run hobj).2 (ends_ite_of nofun fun _ =>
    ends_ite_of (fun h => absurd h (by decide))
    fun _ => ?_))
  rw [lazyInitAttr_idle (by decide)]
  refine ends_bind.2 (ends_pure.2 (ends_ite_of (fun h => absurd rfl h) fun _ => ?_))
  have hget : Ends (getattrListByPage .calm pid oid USER_ATOMICS_PG 0 RTRVD_SET_ATTR_LIST 8
      (0x3f8 : UInt32).toUInt64) s
      fun r t => t.db = s.db ∧ r = if s.names pid oid = [] then (.err .enoent, some 0) else
        (.ok, some 56) := by
    have hstmt : getattrListByPage .calm pid oid USER_ATOMICS_PG 0 RTRVD_SET_ATTR_LIST 8
        (0x3f8 : UInt32).toUInt64 =
        execAttrRtrvlStmt .calm (.attr USER_ATOMICS_PG 0) pid oid RTRVD_SET_ATTR_LIST 8
          (0x3f8 : UInt32).toUInt64 := rfl
    rw [hstmt]
    refine ends_bind.2 (ends_get.2 (ends_ite_of nofun fun _ => ?_))
    show Ends (gatherAttrs .calm oid RTRVD_SET_ATTR_LIST (s.names pid oid) 8 _ ⟨0, false, false⟩ >>= _) s _
    rcases hnames with h | h
    · rw [h]
      exact ends_pure.2 ⟨rfl, rfl⟩
    · rw [h]
      have hpack : Ends (packAttr .calm RTRVD_SET_ATTR_LIST 8 0x3f8 oid USER_ATOMICS_PG 0 40
          (some (blobMem (userAtomicPageName.read 0 40)))) s fun r t => r = .ok 56 ∧ t.db = s.db := by
        have hfits : Ends (lePackAttr .calm 8 0x3f8 USER_ATOMICS_PG 0 40
            (some (blobMem (userAtomicPageName.read 0 40)))) s fun r t =>
              r = .ok (leBytes (0x3f8 : UInt32).toNat
              USER_ATOMICS_PG 0 40 (some (blobMem (userAtomicPageName.read 0 40)))).length ∧ t.db = s.db :=
          lePackAttr_fits (by decide) (by decide) (by decide)
        refine hfits.mono fun r t ⟨hr, ht⟩ => ⟨?_, ht⟩
        rw [hr, leBytes_length]
        rfl
      have hgather : Ends (gatherAttrs .calm oid RTRVD_SET_ATTR_LIST [atomicsName pid oid] 8
          (0x3f8 : UInt32).toUInt64.toUInt32.toUInt64 ⟨0, false, false⟩) s fun g t =>
            g = ⟨56, true, false⟩ ∧ t.db = s.db := by
        refine ends_call hpack fun r t ⟨hr, ht⟩ => ?_
        subst hr
        exact ends_pure.2 ⟨rfl, ht⟩
      refine ends_call hgather fun g t ⟨hg, ht⟩ => ?_
      subst hg
      exact ends_ite_of nofun fun _ => ends_ite_of (fun _ => ends_pure.2 ⟨ht, rfl⟩) fun h => absurd rfl h
  refine ends_call hget fun r t ⟨ht, hr⟩ => ?_
  rcases hnames with h | h
  · rw [if_pos h] at hr
    subst hr
    refine ends_ite_of (fun h => absurd rfl h.2) fun _ => ends_ite_of (fun _ => ?_) fun h => absurd rfl h
    have hnull : Ends (fillNullAttr .calm oid USER_ATOMICS_PG 0 RTRVD_SET_ATTR_LIST 8 0x3f8) t fun r
        _ => r = .ok 16 := by
      refine ends_ite_of (fun _ => ends_ite_of (fun h => absurd h (by decide)) fun _ => ?_) fun h =>
        absurd (by decide) h
      exact (lePackAttr_fits (by decide) (by decide) (by decide)).mono fun r u hr => hr.1
    refine ends_call hnull fun filled u hfilled => ?_
    subst hfilled
    refine ends_pure.2 ?_
    rw [entryLength, if_pos h]
    rfl
  · rw [if_neg (by rw [h]; nofun)] at hr
    subst hr
    refine ends_ite_of (fun h => absurd rfl h.1) fun _ => ends_ite_of nofun fun _ => ends_pure.2 ?_
    rw [entryLength, if_neg (by rw [h]; nofun)]

theorem getAtomicsName_gets (pid oid : UInt64) : (getAtomicsName.about pid oid).command.serviceAction =
    .getAttributes ∧
    (getAtomicsName.about pid oid).command.SetsNothing := by
  have haction : (getAtomicsName.about pid oid).command.action = 0x888e := by
    show getNtohs (getAtomicsName.about pid oid).cdb 8 = _
    rw [about_ntohs (by omega)]
    decide +kernel
  have hset : getNtohl (getAtomicsName.about pid oid).cdb 68 = 0 := by
    rw [about_ntohl (by omega)]
    decide +kernel
  have hfmt : (getAtomicsName.about pid oid).command.getsetCdbfmt = GETLIST_SETLIST := by
    rw [about_command]
    show getAtomicsName.command.getsetCdbfmt = GETLIST_SETLIST
    decide +kernel
  refine ⟨?_, .inr ⟨hfmt, hset⟩⟩
  unfold Command.serviceAction
  rw [haction]
  rfl

theorem getAtomicsName_noContinuations (pid oid : UInt64) :
    (getAtomicsName.about pid oid).command.cdbContLen = 0 := by
  show getNtohl (getAtomicsName.about pid oid).cdb 48 = 0
  rw [about_ntohl (by omega)]
  decide +kernel

/-- The length that is reported for it. -/
theorem getAtomicsName_reports (hone : createCount oid 1 = 1) (htype : s.db.objType pid oid = .userobject)
    (hnames : s.names pid oid = [] ∨ s.names pid oid = [atomicsName pid oid]) :
    Ends (osdemuCmdSubmit .calm (getAtomicsName.about pid oid) 0) s fun report _ =>
      report.dataOutLen = (8 + entryLength (s.names pid oid)).toUInt64 := by
  obtain ⟨haction, hset⟩ := getAtomicsName_gets pid oid
  have hlen := getAtomicsName_noContinuations pid oid
  have hfmt : (getAtomicsName.about pid oid).command.getsetCdbfmt = GETLIST_SETLIST := by
    rw [about_command]
    show getAtomicsName.command.getsetCdbfmt = GETLIST_SETLIST
    decide +kernel
  have hcheck : getAttrListCheck (getAtomicsName.about pid oid).command = .use 0 16 := by
    rw [about_getAttrListCheck]
    decide +kernel
  have halloc : getNtohl (getAtomicsName.about pid oid).command.cdb 60 = 0x400 := by
    show getNtohl (getAtomicsName.about pid oid).cdb 60 = _
    rw [about_ntohl (by omega)]
    decide +kernel
  have hoff : (getAtomicsName.about pid oid).command.retrievedAttrOff = 0 := by
    rw [about_command]
    show getAtomicsName.command.retrievedAttrOff = 0
    decide +kernel
  have houtlen : (getAtomicsName.about pid oid).outlen = 0x400 := by
    unfold Submission.outlen
    rw [about_calcMaxOutLen]
    decide +kernel
  have hentries : ((List.range ((16 - 8) / 8)).map fun i =>
      getEntryAt (getAtomicsName.about pid oid).command.indata (0 + 8 + 8 * i)) =
        [(USER_ATOMICS_PG, 0)] := by
    show ((List.range ((16 - 8) / 8)).map fun i => getEntryAt getAtomicsName.dataIn (0 + 8 + 8 * i)) = _
    decide +kernel
  have hget : Ends (getAttributes .calm (getAtomicsName.about pid oid).command pid oid 1 0)
      s.received fun r _ =>
      r = (.ok, 8 + entryLength (s.names pid oid)) := by
    refine ends_ite_of (fun h => absurd h (by decide)) fun _ => ?_
    rw [hfmt, if_neg (by decide), if_pos rfl]
    unfold getAttrList
    rw [hcheck]
    dsimp only
    rw [hentries, halloc, hoff]
    refine ends_bind.2 (ends_modify.2 (ends_bind.2 (ends_modify.2 (ends_bind.2 (withinTxn_ends fun b l =>
      ends_call (P := fun r _ => r = (.ok, ⟨8 + (entryLength (s.names pid oid)).toNat,
        0x3f8 - entryLength (s.names pid oid),
        8 + entryLength (s.names pid oid)⟩)) ?_ fun r u hr => ?_)))))
    · unfold getAttrListLoop
      rw [hone]
      have hfrom : ∀ u : Target, u.db = s.db → Ends (getFromObjects .calm pid USER_ATOMICS_PG 0 true
          RTRVD_SET_ATTR_LIST 1 oid ⟨8, 0x3f8, 8⟩) u fun r _ =>
            r = (.ok, GetCursor.advance ⟨8, 0x3f8, 8⟩ (entryLength (s.names pid oid))) := by
        intro u hu
        have hsame : u.names pid oid = s.names pid oid := by
          unfold Target.names
          rw [hu]
        refine ends_call (osdGetattrList_name (hu ▸ htype) (by rwa [hsame])) fun r v hr => ?_
        subst hr
        rw [hsame]
        exact ends_ite_of (fun h => absurd rfl h) fun _ => ends_pure.2 rfl
      refine ends_call (hfrom _ rfl) fun r u hr => ?_
      subst hr
      exact ends_ite_of (fun h => absurd rfl h) fun _ => ends_pure.2 rfl
    · subst hr
      refine ends_ite_of (fun _ => ends_bind.2 (ends_modify.2 (ends_pure.2 fun b l => ends_pure.2 rfl)))
        fun h => absurd rfl h
  unfold osdemuCmdSubmit
  rw [about_refusal, show getAtomicsName.refusal .calm = none by decide +kernel]
  dsimp only
  rw [execServiceAction_get haction hset hlen, about_pid, about_oid, hoff, houtlen]
  refine ends_bind.2 (ends_modify.2 (ends_call
    (P := fun o _ => o.used = 0 ∧ o.getUsed = 8 + entryLength (s.names pid oid))
    ?_ fun o u ⟨hused, hgetUsed⟩ => ?_))
  · refine ends_call hget fun r u hr => ?_
    subst hr
    exact ends_ite_of (fun h => absurd rfl h) fun _ => ends_pure.2 ⟨rfl, rfl⟩
  · rw [hused, hgetUsed]
    have hpos : 0 < 8 + entryLength (s.names pid oid) := by
      unfold entryLength
      split <;> decide
    have hcount : Ends (countRetrieved 0 0 (8 + entryLength (s.names pid oid))) u fun used _ =>
        used = (8 + entryLength (s.names pid oid)).toUInt64 := by
      refine ends_ite_of (fun _ => ends_ite_of (fun h => absurd h (by decide)) fun _ =>
        ends_pure.2 ?_) fun h =>
        absurd ⟨hpos, by decide⟩ h
      exact UInt64.zero_add _
    refine ends_call hcount fun used v hused => ends_pure.2 ?_
    rw [if_pos (by decide), hused]
    unfold Report.of
    split <;> rfl

/-! ## Who sees it -/

/-- A user object that does not have the name, which SQLite would take. -/
structure Submission.NamesObject (sub : Submission) (env : Env) (s : Target) : Prop where
  userobject : s.db.objType sub.command.pid sub.command.oid = .userobject
  inRange : createCount sub.command.oid 1 = 1
  unnamed : s.names sub.command.pid sub.command.oid = []
  taken : env.TakesAtomicsName sub.command.pid sub.command.oid

/-- What comes back of the length of the answer. -/
theorem answers_name (hone : createCount oid 1 = 1) (htype : s.db.objType pid oid = .userobject)
    (hnames : s.names pid oid = [] ∨ s.names pid oid = [atomicsName pid oid]) :
    (answers [⟨.calm, getAtomicsName.about pid oid, 0⟩] s).map (fun r => r.1.map fun a => a.1.dataOutLen) =
      some [(8 + entryLength (s.names pid oid)).toUInt64] := by
  obtain ⟨haction, hset⟩ := getAtomicsName_gets pid oid
  have hlen : (getAtomicsName.about pid oid).command.cdbContLen = 0 :=
      getAtomicsName_noContinuations pid oid
  obtain ⟨report, s', hrun⟩ : ∃ report s', osdemuCmdSubmit .calm
      (getAtomicsName.about pid oid) 0 s.received =
      some (report, s') := halts_get haction hset hlen s.received
  have hreport := getAtomicsName_reports (s := s.received) hone htype hnames report s' hrun
  have hanswer : answers [⟨.calm, getAtomicsName.about pid oid, 0⟩] s = some ([(report, s'.out)], s') := by
    show (Arrival.answer ⟨.calm, getAtomicsName.about pid oid, 0⟩ >>= _) s = _
    have hone : Arrival.answer ⟨.calm, getAtomicsName.about pid oid, 0⟩ s = some ((report, s'.out), s') :=
      (bind_of_some (m := modify Target.received) rfl).trans (bind_of_some hrun)
    exact bind_of_some hone
  rw [hanswer]
  exact congrArg some (congrArg (fun n => [n]) hreport)

/-- Asking for the name tells whether the GET was there. -/
theorem answers_seen {sub : Submission} (haction : sub.command.serviceAction = .getAttributes)
    (hset : sub.command.SetsNothing) (h : sub.StoresNames env s) (hobject : sub.NamesObject env s) :
    ¬ Ends (osdemuCmdSubmit env sub fuel) s fun _ s' =>
      (answers [⟨.calm, getAtomicsName.about sub.command.pid sub.command.oid, 0⟩] s').map Prod.fst =
        (answers [⟨.calm, getAtomicsName.about sub.command.pid sub.command.oid, 0⟩] s).map Prod.fst := by
  intro hsame
  obtain ⟨report, s', hrun, hnamed, hobj⟩ : ∃ report s', osdemuCmdSubmit env sub fuel s =
      some (report, s') ∧
      s'.Named sub.command.pid sub.command.oid ∧ s'.db.obj = s.db.obj :=
    osdemuCmdSubmit_stores haction hset h hobject.taken
  have htype : s'.db.objType sub.command.pid sub.command.oid = .userobject :=
    (Db.objType_congr hobj).trans hobject.userobject
  have hafter := answers_name hobject.inRange htype (.inr hnamed)
  have hbefore := answers_name hobject.inRange hobject.userobject (.inl hobject.unnamed)
  have hlens := congrArg (Option.map (List.map fun a => a.1.dataOutLen)) (hsame report s' hrun)
  rw [Option.map_map, Option.map_map] at hlens
  have heq : some [(8 + entryLength (s'.names sub.command.pid sub.command.oid)).toUInt64] =
      some [(8 + entryLength (s.names sub.command.pid sub.command.oid)).toUInt64] :=
    hafter.symm.trans (hlens.trans hbefore)
  have hlen : ∀ r : AttrRow, entryLength [r] = 56 := fun _ => rfl
  rw [hobject.unnamed, show s'.names sub.command.pid sub.command.oid = [_] from hnamed, hlen] at heq
  exact absurd heq (by decide)

/-- **Later commands answer as without the GET ATTRIBUTES when it does not come to the stores of
`lazy_init_attr`**, and not when it does, for a user object without the name of its atomics page. -/
theorem getAttributes_unseen (env : Env) (sub : Submission) (fuel : Nat) (s : Target)
    (haction : sub.command.serviceAction = .getAttributes) (hset : sub.command.SetsNothing) :
    (¬ sub.StoresNames env s → ∀ later : List Arrival, (∀ r ∈ later, r.sub.command.serviceAction.Observes) →
      Ends (osdemuCmdSubmit env sub fuel) s fun _ s' =>
        (answers later s').map Prod.fst = (answers later s).map Prod.fst) ∧
    (sub.StoresNames env s → sub.NamesObject env s → ∃ later : List Arrival,
      (∀ r ∈ later, r.sub.command.serviceAction.Observes) ∧
        ¬ Ends (osdemuCmdSubmit env sub fuel) s fun _ s' =>
        (answers later s').map Prod.fst = (answers later s).map Prod.fst) := by
  refine ⟨fun h later hlater => answers_unseen haction hset h hlater, fun h hobject => ?_⟩
  refine ⟨[⟨.calm, getAtomicsName.about sub.command.pid sub.command.oid, 0⟩], fun r hr => ?_,
    answers_seen haction hset h hobject⟩
  obtain rfl := List.mem_singleton.1 hr
  show ServiceAction.Observes (Command.serviceAction _)
  rw [(getAtomicsName_gets _ _).1]
  decide

/-- GET ATTRIBUTES of one page, as a page. -/
def getPage (page : UInt32) : Submission :=
  submissionOf (cdbHeader 0x888e [0, 0x20] ++ List.replicate 20 0 ++ htonl page ++ htonl 0x400) []

/-- LIST of the user objects of a partition, with the first attribute of the atomics page. -/
def listAttributes : Submission :=
  submissionOf (cdbHeader 0x8883 [0, 0x70] ++ htonll 0x200 ++ List.replicate 12 0 ++ htonl 16)
    ([1, 0, 0, 0] ++ htonl 8 ++ htonl USER_ATOMICS_PG ++ htonl 1)

/-- One user object, never retrieved. -/
def neverRetrieved : Target := calmRun [.createPartition 0, .create 0x10000 0 1]

/-- A GET that asks for one name. -/
theorem getAttributes_unseen_single :
    ¬ (getAtomicsName.about 0x10000 0x10000).StoresNames .calm neverRetrieved ∧
      Ends (osdemuCmdSubmit .calm (getAtomicsName.about 0x10000 0x10000) 0) neverRetrieved fun _ s' =>
        (answers [⟨.calm, listAttributes.about 0x10000 0, 0⟩] s').map Prod.fst =
          (answers [⟨.calm, listAttributes.about 0x10000 0, 0⟩] neverRetrieved).map Prod.fst := by
  have hno : ¬ (getAtomicsName.about 0x10000 0x10000).StoresNames .calm neverRetrieved := by
    rintro ⟨-, -, ⟨hf, -⟩ | ⟨-, -, off, len, before, number, after, _, _, hc, hentries, -⟩, -⟩
    · exact absurd hf (by decide +kernel)
    · have hcheck : getAttrListCheck (getAtomicsName.about 0x10000 0x10000).command = .use 0 16 := by
        decide +kernel
      rw [hcheck] at hc
      obtain ⟨rfl, rfl⟩ := ParamCheck.use.inj hc
      have hlist : getEntries (getAtomicsName.about 0x10000 0x10000).command 0 16 =
          [(USER_ATOMICS_PG, 0)] := by
        decide +kernel
      have hmem : (GETALLATTR_PG, number) ∈ [(USER_ATOMICS_PG, (0 : UInt32))] := by
        rw [← hlist, hentries]
        exact List.mem_append_right _ List.mem_cons_self
      exact absurd (Prod.mk.inj (List.mem_singleton.1 hmem)).1 (by decide)
  exact ⟨hno, (getAttributes_unseen .calm _ 0 neverRetrieved (by decide +kernel) (by decide +kernel)).1
    hno _
    (by decide +kernel)⟩

/-- After everything was asked for, the object is listed, and the name of its atomics page is there. -/
theorem getAttributes_seen :
    (¬ ∀ (env : Env) (sub : Submission) (fuel : Nat) (s : Target) (later : List Arrival),
      sub.command.serviceAction = .getAttributes → sub.command.SetsNothing →
      (∀ r ∈ later, r.sub.command.serviceAction.Observes) →
        Ends (osdemuCmdSubmit env sub fuel) s fun _ s' =>
        (answers later s').map Prod.fst = (answers later s).map Prod.fst) ∧
    ((osdemuCmdSubmit .calm ((getPage GETALLATTR_PG).about 0x10000 0x10000) 0 neverRetrieved).bind fun r =>
      answers [⟨.calm, listAttributes.about 0x10000 0, 0⟩, ⟨.calm, getAtomicsName.about 0x10000 0x10000, 0⟩]
        r.2).map (fun r => r.1.map fun a => a.1.dataOutLen) = some [40, 64] ∧
    (answers [⟨.calm, listAttributes.about 0x10000 0, 0⟩, ⟨.calm, getAtomicsName.about 0x10000 0x10000, 0⟩]
      neverRetrieved).map (fun r => r.1.map fun a => a.1.dataOutLen) = some [24, 24] := by
  have hwith : ((osdemuCmdSubmit .calm ((getPage GETALLATTR_PG).about 0x10000 0x10000) 0
      neverRetrieved).bind fun r =>
      answers [⟨.calm, listAttributes.about 0x10000 0, 0⟩, ⟨.calm, getAtomicsName.about 0x10000 0x10000, 0⟩]
        r.2).map (fun r => r.1.map fun a => a.1.dataOutLen) = some [40, 64] := by decide +kernel
  have hwithout : (answers [⟨.calm, listAttributes.about 0x10000 0, 0⟩,
      ⟨.calm, getAtomicsName.about 0x10000 0x10000, 0⟩] neverRetrieved).map
        (fun r => r.1.map fun a => a.1.dataOutLen) = some [24, 24] := by decide +kernel
  refine ⟨fun h => ?_, hwith, hwithout⟩
  cases hrun : osdemuCmdSubmit .calm ((getPage GETALLATTR_PG).about 0x10000 0x10000) 0 neverRetrieved with
  | none =>
    rw [hrun] at hwith
    cases hwith
  | some r =>
    obtain ⟨report, s'⟩ := r
    rw [hrun] at hwith
    have hsame := h .calm _ 0 neverRetrieved [⟨.calm, listAttributes.about 0x10000 0, 0⟩,
      ⟨.calm, getAtomicsName.about 0x10000 0x10000, 0⟩] (by decide +kernel) (by decide +kernel)
        (by decide +kernel)
        report s' hrun
    have hlens := congrArg (Option.map (List.map fun a => a.1.dataOutLen)) hsame
    rw [Option.map_map, Option.map_map] at hlens
    exact absurd ((hwith.symm.trans hlens).trans hwithout) (by decide)

end OsdTarget
