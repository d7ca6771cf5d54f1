import OsdTarget.IdCache
import OsdTarget.ObjectCommands
import OsdTarget.StoreRuns

/-!
# Losing the id cache

The cache saves the commands that choose an id a query.  In states that runs reach it holds what the query
would answer, so it may be emptied between any two commands: no answer is another then, and nothing else in
the device.  COPY USER OBJECTS, which takes an id and stores no row, is not among these commands: after it
the cache may be ahead of the query.
-/

namespace OsdTarget

open Base

variable {env : Env} {s t : Target} {pid oid requested lb : UInt64}

/-! ## What the cache holds -/

/-- The id in front of the next one is in use. -/
structure Exact (s : Target) : Prop extends Coherent s where
  last : s.ic.curPid ≠ 0 → s.db.Has (bindInt64 s.ic.curPid) (bindInt64 (s.ic.nextId - 1))

theorem Exact.of_zero (hids : s.db.IdsBelow) (hic : s.ic.curPid = 0) : Exact s :=
  ⟨.of_zero hids hic, fun h => absurd hic h⟩

theorem Exact.of_eq (h : Exact s) (hobj : t.db.obj = s.db.obj) (hic : t.ic = s.ic) : Exact t := by
  refine ⟨h.toCoherent.of_eq hobj hic, fun hp => ?_⟩
  rw [hic] at hp ⊢
  rw [Db.Has, hobj]
  exact h.last hp

/-- **The next id is what the query answers.** -/
theorem Exact.nextId (h : Exact s) (hp : s.ic.curPid ≠ 0) :
    s.ic.nextId = columnInt64 (s.db.maxOid (bindInt64 s.ic.curPid)) + 1 := by
  obtain ⟨hpos, hbound, hrows⟩ := h.cached hp
  obtain ⟨r, hr, hrp, hro⟩ := h.last hp
  have hone : 1 ≤ s.ic.nextId := UInt64.le_iff_toNat_le.2 hpos
  have hprev : (s.ic.nextId - 1).toNat = s.ic.nextId.toNat - 1 := UInt64.toNat_sub_of_le _ _ hone
  have hlast : r.oid = s.ic.nextId.toNat - 1 := by
    rw [hro, bindInt64_of_lt (by omega), hprev]
    omega
  have hle : r.oid ≤ s.db.maxOid (bindInt64 s.ic.curPid) := by
    rw [← hrp]
    exact (s.db.maxOid_spec hr).1
  have hlt : s.db.maxOid (bindInt64 s.ic.curPid) < s.ic.nextId.toNat := by
    rcases s.db.maxOid_eq (bindInt64 s.ic.curPid) with h0 | ⟨q, hq, hqp, hqo⟩
    · omega
    · rw [← hqo]
      exact hrows q hq hqp
  have hmax : s.db.maxOid (bindInt64 s.ic.curPid) = s.ic.nextId.toNat - 1 := by omega
  have hcol : (columnInt64 (s.db.maxOid (bindInt64 s.ic.curPid))).toNat = s.ic.nextId.toNat - 1 := by
    rw [columnInt64_toNat (by omega) (by omega), hmax]
    omega
  have hsum := add_ofNat_toNat (x := columnInt64 (s.db.maxOid (bindInt64 s.ic.curPid))) (k := 1) (by omega)
  refine UInt64.toNat_inj.1 ?_
  rw [show (1 : UInt64) = UInt64.ofNat 1 from rfl, hsum, hcol]
  omega

/-- The id that is chosen does not depend on the cache. -/
theorem Exact.chosen (h : Exact s) (hpid : pid ≠ 0) : s.chosen pid lb =
    if columnInt64 (s.db.maxOid (bindInt64 pid)) + 1 = 1 then lb
      else columnInt64 (s.db.maxOid (bindInt64 pid)) + 1 := by
  unfold Target.chosen
  by_cases hc : s.ic.curPid = pid
  · have hnext := h.nextId (hc ▸ hpid)
    rw [hc] at hnext
    simp only [if_pos hc, hnext]
  · simp only [if_neg hc]

/-! ## The commands keep that -/

/-- The last of `n` ids. -/
theorem nextId_pred {n : UInt16} (hn : 0 < n.toNat) (h : oid.toNat + n.toNat < 2 ^ 64) :
    oid + 1 + (n.toUInt64 - 1) - 1 = oid + UInt64.ofNat (n.toNat - 1) := by
  have hnext := nextId_toNat h
  have hge : 1 ≤ oid + 1 + (n.toUInt64 - 1) := by
    refine UInt64.le_iff_toNat_le.2 ?_
    rw [hnext]
    exact Nat.le_trans hn (Nat.le_add_left _ _)
  refine UInt64.toNat_inj.1 ?_
  rw [UInt64.toNat_sub_of_le _ _ hge, hnext, add_ofNat_toNat (by omega)]
  exact Nat.add_sub_assoc hn _

theorem Exact.create (h : Exact s) {numoid : UInt16} (hs : CreateStep pid requested numoid s t)
    (hids : t.db.IdsBelow) : Exact t := by
  cases hs with
  | rejected hdb hic =>
    rcases hic with hic | hic
    · exact h.of_eq (by rw [hdb]) hic
    · exact .of_zero hids (by rw [hic]; rfl)
  | ran oid ic hpid hpart hone hpick hg hdone =>
    rcases hdone with hic | ⟨hc, hic⟩
    · exact .of_zero hids (by rw [hic]; rfl)
    · rcases hpick with ⟨h0, hoid, rfl⟩ | ⟨-, -, -, -, rfl⟩
      · -- the last of the new ids is there
        refine ⟨h.toCoherent.create (.ran oid ⟨pid, oid + 1⟩ hpid hpart hone (.inl ⟨h0, hoid, rfl⟩) hg
          (.inr ⟨hc, hic⟩)) hids, fun _ => ?_⟩
        have hab : s.Above pid oid := hoid ▸ h.above_chosen (pid_ne_zero hpid)
        have hpos := atLeastOne_pos numoid
        have hlt := (atLeastOne numoid).toNat_lt
        have hb := hab.bound
        have hcount : createCount oid (atLeastOne numoid) = (atLeastOne numoid).toNat :=
          createCount_eq hpos (by omega)
        rw [hcount] at hc
        have hrow := hc.rows ((atLeastOne numoid).toNat - 1) (by omega)
        rw [hic]
        show t.db.Has (bindInt64 pid) (bindInt64 (oid + 1 + ((atLeastOne numoid).toUInt64 - 1) - 1))
        rw [nextId_pred hpos (by omega)]
        exact ⟨_, hrow, rfl, rfl⟩
      · exact .of_zero hids (by rw [hic]; rfl)

theorem Exact.createCollection (h : Exact s) (henv : env.InsertsCollections) {source : Option UInt64}
    (hs : CollectionStep env pid requested source s t) (hids : t.db.IdsBelow) : Exact t := by
  refine ⟨h.toCoherent.createCollection (.inl henv) hs hids, fun hp => ?_⟩
  cases hs with
  | rejected hdb hic =>
    rcases hic with hic | hic
    · rw [hic] at hp ⊢
      rw [hdb]
      exact h.last hp
    · rw [hic] at hp
      exact absurd rfl hp
  | ran cid hpid hpart hpick hattr hcoll hobj =>
    rcases hpick with ⟨-, hcid, hic⟩ | ⟨-, -, -, -, hic⟩
    · have hab : s.Above pid cid := hcid ▸ h.above_chosen (pid_ne_zero hpid)
      have hfree := (hab.fresh (k := 0) (by omega)).2
      rw [show UInt64.ofNat 0 = 0 from rfl, UInt64.add_zero] at hfree
      have hnew : t.db.obj = s.db.obj ++ [collectionRow pid cid] := by
        rcases hobj with ⟨-, ho⟩ | ⟨⟨d, hd⟩ | hhas, -⟩
        · exact ho
        · rw [henv _ d rfl] at hd
          cases hd
        · exact absurd hhas hfree
      rw [hic]
      show t.db.Has (bindInt64 pid) (bindInt64 (cid + 1 - 1))
      rw [UInt64.add_sub_cancel, Db.Has, hnew]
      exact ⟨collectionRow pid cid, List.mem_append_right _ List.mem_cons_self, rfl, rfl⟩
    · rw [hic] at hp
      exact absurd rfl hp

/-- **One command keeps the cache exact.** -/
theorem Exact.step (h : Exact s) (henv : env.InsertsCollections) {op : Op} (hs : op.effect env s t)
    (hids : t.db.IdsBelow) : Exact t := by
  have hid : IdStep s t → Exact t := fun hst => h.of_eq hst.obj hst.ic
  have hremoved : ∀ {p o : Int} {cleared why}, Removes p o cleared why s t → Exact t :=
    fun hst => .of_zero hids (by rw [hst.ic]; rfl)
  cases op with
  | create => exact h.create hs hids
  | createAndWrite =>
    rcases hs with hs | ⟨u, v, hu, hv, rfl | ⟨hs, -, -⟩⟩
    · exact h.create hs hids
    · exact (h.create hu fun r hr => hids r (by rw [hv.obj]; exact hr)).of_eq hv.obj hv.ic
    · exact .of_zero hids (by rw [hs.ic]; rfl)
  | createCollection => exact h.createCollection henv hs hids
  | createPartition =>
    refine ⟨h.toCoherent.createPartition hs hids, fun hp => ?_⟩
    rw [hs.ic] at hp ⊢
    obtain ⟨r, hr, hk⟩ := h.last hp
    rcases hs.obj with ho | ⟨-, -, ho⟩
    · exact ⟨r, ho ▸ hr, hk⟩
    · exact ⟨r, ho ▸ List.mem_append_left _ hr, hk⟩
  | createUserTrackingCollection => exact h.createCollection henv hs hids
  | remove =>
    rcases hs with rfl | ⟨-, hs⟩
    · exact h
    · exact hremoved hs
  | removeCollection =>
    rcases hs with rfl | ⟨-, -, -, -, hs⟩
    · exact h
    · exact hremoved hs
  | removePartition =>
    rcases hs with rfl | ⟨-, -, -, hs⟩
    · exact h
    · exact hremoved hs
  | write => exact hid hs.toIdStep
  | setAttributes => exact hid hs.toIdStep
  | getattrList => exact hid hs.toIdStep
  | getattrPage => exact hid hs.toIdStep
  | setMemberAttributes => exact hid hs.toIdStep
  | cas => exact hid hs.toIdStep
  | fa => exact hid hs.toIdStep
  | genCas => exact hid hs.toIdStep
  | formatOsd =>
    rcases hs with hs | ⟨hdb, hic⟩
    · exact .of_zero hids (by rw [hs]; rfl)
    · exact h.of_eq (by rw [hdb]) hic

/-! ## What does not look at the cache -/

/-- The same device but for the cache and what is kept of transactions. -/
def ButIc (s t : Target) : Prop := ∃ ic b l, t = { s with ic, inTxn := b, txnCalls := l }

/-- And the caches lead to the same ids. -/
structure SameIds (s t : Target) : Prop where
  butIc : ButIc s t
  chosen : ∀ pid, pid ≠ 0 → t.chosen pid OBJECT_OID_LB = s.chosen pid OBJECT_OID_LB

theorem ButTxn.butIc (h : ButTxn s t) : ButIc s t := by
  obtain ⟨b, l, rfl⟩ := h
  exact ⟨s.ic, b, l, rfl⟩

theorem ButIc.butTxn (h : ButIc s t) (hic : t.ic = s.ic) : ButTxn s t := by
  obtain ⟨ic, b, l, rfl⟩ := h
  exact ⟨b, l, by rw [← hic]⟩

theorem Exact.sameIds (hs : Exact s) (ht : Exact t) (h : ButIc s t) : SameIds s t := by
  refine ⟨h, fun pid hpid => ?_⟩
  obtain ⟨ic, b, l, rfl⟩ := h
  rw [hs.chosen hpid, ht.chosen hpid]

section Alike

theorem butIc_modify {f : Target → Target}
    (hf : ∀ s ic b l, ButIc (f s) (f { s with ic, inTxn := b, txnCalls := l })) :
    Alike ButIc (modify f : OsdM PUnit) := by
  refine alike_modify fun s t h => ?_
  obtain ⟨ic, b, l, rfl⟩ := h
  exact hf s ic b l

theorem butIc_query {α : Type} (q : Query) (init : α) (answer : Db → α) :
    Alike ButIc (dbExecQuery env q init answer) := by
  rintro s _ ⟨ic, b, l, rfl⟩
  exact lockstep_get (lockstep_ite Iff.rfl (fun _ => lockstep_pure ⟨ic, b, l, rfl⟩ _)
    fun _ => lockstep_pure ⟨ic, b, l, rfl⟩ _)

theorem butIc_dms (st : Dms) : Alike ButIc (dbExecDms env st) := by
  rintro s _ ⟨ic, b, l, rfl⟩
  refine lockstep_get (lockstep_ite Iff.rfl (fun _ => lockstep_pure ⟨ic, b, l, rfl⟩ _) fun _ => ?_)
  dsimp only
  cases st.run s.db with
  | none => exact lockstep_pure ⟨ic, b, l, rfl⟩ _
  | some d => exact lockstep_bind (lockstep_set ⟨ic, b, l, rfl⟩) fun _ _ _ h => lockstep_pure h _

theorem butIc_setCcap (c : Ccap) : Alike ButIc (setCcap c) := butIc_modify fun _ ic b l => ⟨ic, b, l, rfl⟩

instance : Detached ButIc where
  reply _ _ := butIc_modify fun _ ic b l => ⟨ic, b, l, rfl⟩
  txn _ _ _ b' _ l' := by
    rintro ⟨ic, b, l, rfl⟩
    exact ⟨ic, b', l', rfl⟩

theorem butIc_sees (env : Env) (pid oid : UInt64) : Sees ButIc env pid oid where
  toReveals := by
    refine .of_same ?_ ?_ <;> rintro s _ ⟨ic, b, l, rfl⟩
    · rfl
    · exact ⟨rfl, rfl⟩
  present := butIc_query _ _ _
  store _ _ _ _ := butIc_dms _
  delete _ _ := butIc_dms _
  setFile := by
    rintro s _ c ⟨ic, b, l, rfl⟩
    exact ⟨ic, b, l, rfl⟩
  pointer number cid := by
    unfold collGetCid
    exact butIc_query _ _ _
  join _ _ := butIc_dms _
  leave _ := butIc_dms _

theorem butIc_seesPage (page : UInt32) : SeesPage ButIc page where
  ccap _ := by
    rintro s _ ⟨ic, b, l, rfl⟩
    rfl
  times _ := by
    rintro s _ ⟨ic, b, l, rfl⟩
    exact ⟨rfl, rfl⟩

theorem butIc_osdSetAttributes {page number : UInt32} {val : Option Mem} {len : UInt16} (isembedded :
    Bool) :
    Alike ButIc (osdSetAttributes env pid oid page number val len isembedded) := by
  have hsees := butIc_sees env pid oid
  exact alike_bind hsees.present fun _ => alike_guard (alike_bind hsees.toReveals.getObjType fun _ =>
    alike_guard (alike_guard (alike_guard (alike_guard (alike_guard (alike_guard
      (alike_bind (hsees.storeAttribute (butIc_seesPage _) _ fun _ _ _ _ => butIc_query _ _ _) fun _ =>
        alike_guard (alike_ite (alike_bind (butIc_setCcap _) fun _ => alike_pure _) (alike_pure _)))))))))

theorem butIc_osdGetattrList {page number : UInt32} {pos : Nat} {outlen : UInt32} (isembedded : Bool)
    {listfmt : UInt8} :
    Alike ButIc (osdGetattrList env pid oid page number pos outlen isembedded listfmt) := by
  have hsees := butIc_sees env pid oid
  have hend : ∀ (type : ObjType) (used : Option UInt32), Alike ButIc (if (!isembedded) = true then
      setCcap (fillCcap type pid oid 0) >>= fun _ => pure (Ret.ok, used) else pure (Ret.ok, used)) :=
    fun _ _ => alike_ite (alike_bind (butIc_setCcap _) fun _ => alike_pure _) (alike_pure _)
  refine alike_bind hsees.toReveals.getObjType fun type => alike_guard (alike_guard
    (alike_bind (hsees.lazyInitAttr _ _) fun _ => alike_guard
      (alike_bind (hsees.toReveals.getattrListByPage (butIc_seesPage _) _ _ _ _) fun r => ?_)))
  obtain ⟨ret, used⟩ := r
  refine alike_guard (alike_ite (alike_bind (alike_fillNullAttr _ _ _ _ _) fun filled => ?_) (hend _ _))
  cases filled with
  | ok n => exact hend _ _
  | error e => cases e <;> first | exact hend _ _ | exact alike_pure _

theorem butIc_osdGetattrPage {page : UInt32} {pos : Nat} {outlen : UInt64} (isembedded : Bool) :
    Alike ButIc (osdGetattrPage env pid oid page pos outlen isembedded) := by
  have hsees := butIc_sees env pid oid
  refine alike_bind hsees.toReveals.getObjType fun type => alike_guard (alike_guard ?_)
  refine alike_ite (alike_bind (butIc_setCcap _) fun _ => ?_) ?_ <;>
  exact alike_ite_of (fun hp => alike_bind (SeesPage.getCcap (butIc_seesPage _)
    _ _) fun _ => alike_pure _) fun _ =>
    alike_ite_of (fun hp => alike_bind (hsees.toReveals.getUtsap (butIc_seesPage _) _ _) fun _ =>
      alike_pure _) fun _ =>
    alike_ite (alike_bind (hsees.lazyInitAttr _ _) fun _ => alike_guard
      (alike_bind (hsees.toReveals.execAttrRtrvlStmt _ _ _ _) fun _ => alike_pure _)) (alike_pure _)

theorem butIc_endTxn {α : Type} (a : α) : Alike ButIc (osdEndTxn env >>= fun _ => pure a) :=
  alike_endTxn (alike_pure a)

theorem butIc_osdSetMemberAttributes (pid cid : UInt64) (setAttr : List SetEntry) :
    Alike ButIc (osdSetMemberAttributes env pid cid setAttr) := by
  refine alike_beginTxn (alike_bind (butIc_query _ _ _) fun r => alike_ite (butIc_endTxn _)
    (alike_bind (butIc_sees env pid cid).toReveals.getObjType fun type => alike_ite (butIc_endTxn _)
      (alike_ite (butIc_endTxn _) (alike_bind (alike_guard (butIc_dms _)) fun ret =>
        alike_ite (butIc_endTxn _) (alike_endTxn (alike_bind (butIc_setCcap _) fun _ => alike_pure _))))))

/-- Setting one attribute, whatever its page. -/
theorem butIc_attrSetAttr {page number : UInt32} {val : Option Mem} {len : UInt16} :
    Alike ButIc (attrSetAttr env pid oid page number val len) := by
  have hsees := butIc_sees env pid oid
  refine alike_ite (alike_ite (hsees.store _ _ _ _) (alike_ite ?_ (alike_pure _)))
    (alike_ite (alike_ite (alike_get fun s t h => ?_) (alike_ite (hsees.store _ _ _ _) (alike_pure _)))
      (hsees.store _ _ _ _))
  · cases val with
    | none => exact alike_never
    | some m => exact hsees.setLogicalLen _
  · obtain ⟨ic, b, l, rfl⟩ := h
    exact alike_ite (alike_guard (hsees.store _ _ _ _)) (alike_pure _) _ _ ⟨ic, b, l, rfl⟩

theorem butIc_osdGenCas {page number : UInt32} {cmp : Option Mem} {cmpLen : UInt16} {swap : Option Mem}
    {swapLen : UInt16} : Alike ButIc (osdGenCas env pid oid page number cmp cmpLen swap swapLen) := by
  have hsees := butIc_sees env pid oid
  refine alike_bind hsees.isPresentUserobject fun _ => alike_guard
    (alike_bind (hsees.toReveals.attrGetVal _ _ _) fun r => alike_guard ?_)
  exact alike_ite (alike_bind butIc_attrSetAttr fun _ => alike_guard (alike_pure _))
    (alike_ite (alike_bind (hsees.delete _ _) fun _ => alike_guard (alike_pure _)) (alike_pure _))

theorem butIc_invalidateCache : Alike ButIc invalidateCache :=
  butIc_modify fun _ _ b l => ⟨IdCache.zero, b, l, rfl⟩

theorem butIc_osdRemove (pid oid : UInt64) : Alike ButIc (osdRemove env pid oid) := by
  refine alike_guard (alike_bind butIc_invalidateCache fun _ => alike_bind ?_ fun _ =>
    alike_bind (butIc_dms _) fun _ => alike_guard (alike_bind (butIc_dms _) fun _ =>
    alike_guard (alike_bind (butIc_dms _) fun _ => alike_guard (alike_bind (butIc_setCcap _) fun _ =>
    alike_pure _))))
  rintro s _ ⟨ic, b, l, rfl⟩
  exact lockstep_get (lockstep_ite Iff.rfl (fun _ => lockstep_pure ⟨ic, b, l, rfl⟩ _) fun _ =>
    lockstep_bind (lockstep_set ⟨ic, b, l, rfl⟩) fun _ _ _ h => lockstep_pure h _)

/-- The deletions that end the other remove commands. -/
theorem butIc_deleteObject {fail : Ret} {c : Ccap} :
    Alike ButIc (attrDeleteAll env pid oid >>= fun ret => if ret ≠ .ok then pure fail else
      objDelete env pid oid >>= fun ret => if ret ≠ .ok then pure fail else
        setCcap c >>= fun _ => pure Ret.ok) :=
  alike_bind (butIc_dms _) fun _ => alike_guard (alike_bind (butIc_dms _) fun _ => alike_guard
    (alike_bind (butIc_setCcap _) fun _ => alike_pure _))

theorem butIc_osdRemoveCollection (pid cid : UInt64) (fcr : UInt8) :
    Alike ButIc (osdRemoveCollection env pid cid fcr) :=
  alike_guard (alike_guard (alike_bind (butIc_query _ _ _) fun _ => alike_guard
    (alike_bind butIc_invalidateCache fun _ => alike_bind (butIc_query _ _ _) fun _ => alike_guard
      (alike_ite (alike_guard (alike_bind (butIc_dms _) fun _ => alike_guard butIc_deleteObject))
        butIc_deleteObject))))

theorem butIc_osdRemovePartition (pid : UInt64) : Alike ButIc (osdRemovePartition env pid) :=
  alike_guard (alike_bind (butIc_query _ _ _) fun _ => alike_guard
    (alike_bind butIc_invalidateCache fun _ => butIc_deleteObject))

theorem butIc_osdCreatePartition : Alike ButIc (osdCreatePartition env requested) := by
  have hinsert : ∀ p, Alike ButIc (insertPartition env p requested) := fun _ =>
    alike_bind (butIc_dms _) fun _ => alike_guard (alike_bind (butIc_setCcap _) fun _ => alike_pure _)
  refine alike_guard (alike_ite (alike_bind (butIc_query _ _ _) fun r => ?_) (hinsert _))
  obtain ⟨ret, p⟩ := r
  cases ret with
  | ok => exact hinsert _
  | err _ => exact alike_pure _
  | sense _ => exact alike_pure _

/-! ## FORMAT starts anew -/

theorem butIc_osdInitializeDb : Alike ButIc (osdInitializeDb env) := by
  have hinit : ∀ l, Alike ButIc (setInitAttrs env l) := by
    intro l
    induction l with
    | nil => exact alike_pure _
    | cons e l ih => exact alike_bind (butIc_dms _) fun _ => alike_guard ih
  exact alike_bind (butIc_modify fun s ic b l => ⟨IdCache.zero, b, l, rfl⟩) fun _ =>
    alike_bind (butIc_dms _) fun _ => alike_guard (alike_bind (hinit _) fun _ => alike_guard
      (alike_bind (hinit _) fun _ => alike_guard butIc_attrSetAttr))

theorem butIc_osdOpen : Alike ButIc (osdOpen env) := by
  refine alike_get fun s t h => ?_
  obtain ⟨ic, b, l, rfl⟩ := h
  refine lockstep_bind (lockstep_set (show ButIc _ _ from ⟨IdCache.zero, false, l, rfl⟩)) fun _ s' t' h => ?_
  exact alike_ite (alike_bind (butIc_modify fun _ ic b l => ⟨ic, b, l, rfl⟩) fun _ => alike_pure _)
    butIc_osdInitializeDb s' t' h

theorem butIc_osdFormatOsd : Alike ButIc (osdFormatOsd env) := by
  refine alike_bind (alike_get fun s t h => ?_) fun _ =>
    alike_bind (butIc_modify fun _ ic b l => ⟨ic, b, l, rfl⟩) fun _ => alike_pure _
  have hreopen : Alike ButIc (osdOpen env >>= fun ret => if ret ≠ .ok then
      pure (senseBuildSdd OSD_SSK_HARDWARE_ERROR OSD_ASC_SYSTEM_RESOURCE_FAILURE 0 0)
      else setCcap Ccap.zero >>= fun _ => pure Ret.ok) :=
    alike_bind butIc_osdOpen fun _ => alike_guard (alike_bind (butIc_setCcap _) fun _ => alike_pure _)
  have hset : ∀ {a : Ret} {u v : Target}, ButIc u v →
      Lockstep ButIc (set u >>= fun _ => pure a : OsdM Ret) (set v >>= fun _ => pure a) s t :=
    fun huv => lockstep_bind (lockstep_set huv) fun _ _ _ h => lockstep_pure h _
  obtain ⟨ic, b, l, rfl⟩ := h
  refine lockstep_ite Iff.rfl (fun _ => hreopen _ _ ⟨ic, b, l, rfl⟩) fun _ => ?_
  cases env.formatOutcome with
  | mdFails unlinked => exact hset ⟨ic, b, l, rfl⟩
  | strandedFails => exact hset ⟨ic, b, l, rfl⟩
  | dfilesFails => exact hset ⟨ic, b, l, rfl⟩
  | _ => exact lockstep_bind (lockstep_set ⟨ic, b, l, rfl⟩) fun _ s' t' h => hreopen s' t' h

end Alike

/-! ## Choosing an id -/

/-- The query for the next id is answered. -/
def Env.FindsNextoid (env : Env) : Prop := ∀ p d, env.queryFails (.objNextoid p) d = false

theorem chooseId_run (henv : env.FindsNextoid) (s : Target) : chooseId env pid lb s =
    some (some (s.chosen pid lb), { s with ic := ⟨pid, s.chosen pid lb + 1⟩ }) := by
  obtain ⟨r, v, hrun, rfl, rfl⟩ : ∃ r v, chooseId env pid lb s = some (r, v) ∧
      r = some (s.chosen pid lb) ∧ v = { s with ic := ⟨pid, s.chosen pid lb + 1⟩ } :=
    Ends.of_halts (chooseId_ends (fun _ => ⟨rfl, rfl⟩) fun hno => absurd (fun _ => henv _ _) hno)
      (halts_chooseId pid lb)
  exact hrun

/-- The cache is filled anew when an id is chosen, and emptied when one is requested. -/
theorem lockstep_picks (henv : env.FindsNextoid) (hpid : pid ≠ 0) (h : SameIds s t) {f : UInt64 → OsdM Ret}
    (hf : ∀ oid, Alike ButTxn (f oid)) {noId taken : Ret} :
    Lockstep ButIc
      (if requested = 0 then chooseId env pid OBJECT_OID_LB >>= fun
          | none => invalidateCache >>= fun _ => pure noId
          | some oid => f oid
        else takeRequestedId env pid requested >>= fun b => if (!b) = true then pure taken else f requested)
      (if requested = 0 then chooseId env pid OBJECT_OID_LB >>= fun
          | none => invalidateCache >>= fun _ => pure noId
          | some oid => f oid
        else takeRequestedId env pid requested >>= fun b => if (!b) = true then pure taken else f requested)
      s t := by
  refine lockstep_ite Iff.rfl (fun _ => ?_) fun _ => ?_
  · have hsame : ButTxn { s with ic := ⟨pid, s.chosen pid OBJECT_OID_LB + 1⟩ }
        { t with ic := ⟨pid, s.chosen pid OBJECT_OID_LB + 1⟩ } := by
      obtain ⟨ic, b, l, rfl⟩ := h.butIc
      exact ⟨b, l, rfl⟩
    have hrest := (hf (s.chosen pid OBJECT_OID_LB) _ _ hsame).mono fun _ _ => ButTxn.butIc
    unfold Lockstep
    rw [bind_of_some (chooseId_run henv s), bind_of_some (chooseId_run henv t), h.chosen pid hpid]
    exact hrest
  · have hzero : ∀ u : Target, Ends (takeRequestedId env pid requested) u fun b v =>
        b = true → v.ic = IdCache.zero :=
      fun u => takeRequestedId_ends (fun _ hb => absurd hb nofun) fun _ _ => rfl
    have htake : Alike ButIc (takeRequestedId env pid requested) :=
      alike_bind (butIc_query _ _ _) fun _ => alike_guard
        (alike_bind (butIc_modify fun _ _ b l => ⟨IdCache.zero, b, l, rfl⟩) fun _ => alike_pure _)
    refine lockstep_bind_of_ends (htake s t h.butIc) (hzero s) (hzero t) fun b s' t' h' hs ht => ?_
    cases b with
    | false => exact lockstep_pure h' _
    | true => exact (hf requested s' t' (h'.butTxn (by rw [hs rfl, ht rfl]))).mono fun _ _ => ButTxn.butIc

/-- Queries change nothing. -/
theorem sameIds_query {α : Type} (q : Query) (init : α) (answer : Db → α) :
    Alike SameIds (dbExecQuery env q init answer) := by
  intro s t h
  have hsame := h
  obtain ⟨⟨ic, b, l, rfl⟩, -⟩ := h
  exact lockstep_get (lockstep_ite Iff.rfl (fun _ => lockstep_pure hsame _) fun _ => lockstep_pure hsame _)

theorem butTxn_insertCollection (cid : UInt64) : Alike ButTxn (insertCollection env pid cid requested) :=
  alike_bind (butTxn_dms _) fun _ => alike_guard (alike_bind (butTxn_setCcap _) fun _ => alike_pure _)

theorem butTxn_fillTrackingCollection (cid source : UInt64) :
    Alike ButTxn (fillTrackingCollection env pid cid requested source) :=
  alike_ite (alike_bind (butTxn_dms _) fun _ => alike_ite
    (alike_bind butTxn_invalidateCache fun _ => alike_pure _) (butTxn_insertCollection _))
    (butTxn_insertCollection _)

section

variable (henv : env.FindsNextoid) (h : SameIds s t)

include henv h

theorem lockstep_osdCreate (numoid : UInt16) : Lockstep ButIc (osdCreate env pid requested numoid)
    (osdCreate env pid requested numoid) s t := by
  refine lockstep_ite Iff.rfl (fun _ => lockstep_pure h.butIc _) fun hpid => lockstep_ite Iff.rfl
    (fun _ => lockstep_pure h.butIc _) fun _ => lockstep_bind (sameIds_query _ _ _ s t h) fun r s' t' h' => ?_
  refine lockstep_ite Iff.rfl (fun _ => lockstep_pure h'.butIc _) fun _ => lockstep_ite Iff.rfl
    (fun _ => lockstep_pure h'.butIc _) fun _ => ?_
  exact lockstep_picks henv (fun h0 => hpid (.inl h0)) h' fun oid => butTxn_createFrom _ _ _

theorem lockstep_osdCreateCollection : Lockstep ButIc (osdCreateCollection env pid requested)
    (osdCreateCollection env pid requested) s t := by
  refine lockstep_ite Iff.rfl (fun _ => lockstep_pure h.butIc _) fun hpid => lockstep_ite Iff.rfl
    (fun _ => lockstep_pure h.butIc _) fun _ => lockstep_bind (sameIds_query _ _ _ s t h) fun r s' t' h' => ?_
  refine lockstep_ite Iff.rfl (fun _ => lockstep_pure h'.butIc _) fun _ => ?_
  exact lockstep_picks henv (fun h0 => hpid (.inl h0)) h' fun oid => butTxn_insertCollection _

theorem lockstep_osdCreateUserTrackingCollection (source : UInt64) (cdbContLen : UInt32) :
    Lockstep ButIc (osdCreateUserTrackingCollection env pid requested source cdbContLen)
      (osdCreateUserTrackingCollection env pid requested source cdbContLen) s t := by
  refine lockstep_ite Iff.rfl (fun _ => lockstep_pure h.butIc _) fun hpid => lockstep_ite Iff.rfl
    (fun _ => lockstep_pure h.butIc _) fun _ => lockstep_bind (sameIds_query _ _ _ s t h) fun r s' t' h' => ?_
  refine lockstep_ite Iff.rfl (fun _ => lockstep_pure h'.butIc _) fun _ =>
    lockstep_bind (sameIds_query _ _ _ s' t' h') fun r s' t' h' => ?_
  refine lockstep_ite Iff.rfl (fun _ => lockstep_pure h'.butIc _) fun _ => lockstep_ite Iff.rfl
    (fun _ => lockstep_pure h'.butIc _) fun _ => lockstep_ite Iff.rfl
    (fun _ => lockstep_pure h'.butIc _) fun _ => ?_
  exact lockstep_picks henv (fun h0 => hpid (.inl h0)) h' fun oid => butTxn_fillTrackingCollection _ _

end

/-! ## One command -/

/-- **A command answers alike**, and leaves alike, whatever is in the cache. -/
theorem StoreRequest.lockstep (henv : env.FindsNextoid) (h : SameIds s t) (r : StoreRequest) :
    Lockstep ButIc (r.run env) (r.run env) s t := by
  have hsees := butIc_sees env
  have hstep : ∀ {α β : Type} {m : OsdM α} {f : α → β}, Lockstep ButIc m m s t →
      Lockstep ButIc (f <$> m) (f <$> m) s t := by
    intro α β m f hm
    rw [map_eq_pure_bind]
    exact lockstep_bind hm fun _ _ _ h => lockstep_pure h _
  have halike : ∀ {α β : Type} {m : OsdM α} {f : α → β}, Alike ButIc m →
      Lockstep ButIc (f <$> m) (f <$> m) s t := fun hm => hstep (hm s t h.butIc)
  cases r with
  | append pid oid len data => exact halike ((hsees pid oid).contigAppend butIc_setCcap len data)
  | clear pid oid len offset => exact halike ((hsees pid oid).osdClear butIc_setCcap len offset)
  | punch pid oid len offset => exact halike ((hsees pid oid).osdPunch len offset)
  | read pid oid len offset => exact halike ((hsees pid oid).toReveals.contigRead butIc_setCcap len offset)
  | op o =>
    cases o with
    | create => exact hstep (lockstep_osdCreate henv h _)
    | createAndWrite pid oid len offset data sglist ddt =>
      refine hstep (lockstep_bind (lockstep_osdCreate henv h 1) fun ret s' t' h' => alike_guard ?_ s' t' h')
      exact alike_bind ((hsees pid oid).osdWrite butIc_setCcap _ _ _ _ _) fun _ => alike_ite
        (alike_bind (butIc_osdRemove _ _) fun _ => alike_pure _) (alike_pure _)
    | createCollection => exact hstep (lockstep_osdCreateCollection henv h)
    | createPartition => exact halike butIc_osdCreatePartition
    | createUserTrackingCollection => exact hstep (lockstep_osdCreateUserTrackingCollection henv h _ _)
    | remove pid oid => exact halike (butIc_osdRemove pid oid)
    | removeCollection pid cid fcr => exact halike (butIc_osdRemoveCollection pid cid fcr)
    | removePartition pid => exact halike (butIc_osdRemovePartition pid)
    | write pid oid => exact halike ((hsees pid oid).osdWrite butIc_setCcap _ _ _ _ _)
    | setAttributes => exact halike (butIc_osdSetAttributes _)
    | getattrList => exact halike (butIc_osdGetattrList _)
    | getattrPage => exact halike (butIc_osdGetattrPage _)
    | setMemberAttributes pid cid l => exact halike (butIc_osdSetMemberAttributes pid cid l)
    | cas pid oid => exact halike ((hsees pid oid).osdCas _ _ _)
    | fa pid oid => exact halike ((hsees pid oid).osdFa _ _)
    | genCas => exact halike butIc_osdGenCas
    | formatOsd => exact halike butIc_osdFormatOsd

/-- The data commands keep the cache exact, too. -/
theorem StoreRequest.exact (hs : Exact s) (henv : env.InsertsCollections) (r : StoreRequest) :
    Ends (r.exec env) s fun _ t => t.db.IdsBelow → Exact t := by
  have hfile : ∀ p o, AdmitsFile (AttrStep fun _ _ => False) p o := AttrStep.admitsFile fun _ _ => False
  have hstays : ∀ t, AttrStep (fun _ _ => False) s t → t.db.IdsBelow → Exact t :=
    fun _ h _ => hs.of_eq h.obj h.ic
  cases r with
  | append pid oid len data =>
    exact (resp_contigAppend (hfile pid oid) len data s).mono fun _ => hstays
  | clear pid oid len offset => exact (resp_osdClear (hfile pid oid) len offset s).mono fun _ => hstays
  | punch pid oid len offset => exact (resp_osdPunch (hfile pid oid) len offset s).mono fun _ => hstays
  | read pid oid len offset => exact ends_map.2 ((resp_contigRead len offset s).mono fun _ => hstays)
  | op o => exact o.exec_spec.mono fun _ _ he hids => hs.step henv he hids

/-! ## Runs -/

/-- One command and its answer.  The ids stay small, INSERT refuses a collection on a conflict only, and the
query for the next id is answered. -/
def CachedStep (r : StoreRequest) (a : StoreAnswer) (s t : Target) : Prop :=
  t.db.IdsBelow ∧ ∃ env : Env, env.InsertsCollections ∧ env.FindsNextoid ∧
    ∃ x, r.run env s = some (x, t) ∧ a = ⟨x.1, x.2, t.ccap, t.reply⟩

/-- One command that may find the cache empty. -/
def ForgetfulStep (r : StoreRequest) (a : StoreAnswer) (s t : Target) : Prop :=
  CachedStep r a s t ∨ CachedStep r a { s with ic := IdCache.zero } t

theorem CachedStep.simulated {r : StoreRequest} {a : StoreAnswer} {s' : Target} (h : CachedStep r a s s')
    (hs : Exact s) (ht : Exact t) (hst : ButIc s t) :
    ∃ t', CachedStep r a t t' ∧ Exact s' ∧ Exact t' ∧ ButIc s' t' := by
  obtain ⟨hids, env, hinserts, hfinds, x, hrun, rfl⟩ := h
  obtain ⟨t', hrun', hst'⟩ := (r.lockstep hfinds (hs.sameIds ht hst)).run hrun
  have hdb : t'.db = s'.db ∧ t'.ccap = s'.ccap ∧ t'.reply = s'.reply := by
    obtain ⟨ic, b, l, rfl⟩ := hst'
    exact ⟨rfl, rfl, rfl⟩
  have hids' : t'.db.IdsBelow := hdb.1 ▸ hids
  refine ⟨t', ⟨hids', env, hinserts, hfinds, x, hrun', by rw [hdb.2.1, hdb.2.2]⟩, ?_, ?_, hst'⟩
  · exact r.exact hs hinserts x.1 s' (StoreRequest.exec_of_run hrun) hids
  · exact r.exact ht hinserts x.1 t' (StoreRequest.exec_of_run hrun') hids'

theorem forgetful_simulated : Simulates ForgetfulStep CachedStep fun s t => Exact s ∧
    Exact t ∧ ButIc s t := by
  rintro r a s s' t ⟨hs, ht, hst⟩ (h | h)
  · exact h.simulated hs ht hst
  · have hids : s.db.IdsBelow := hs.ids
    obtain ⟨ic, b, l, rfl⟩ := hst
    exact h.simulated (.of_zero hids rfl) ht ⟨ic, b, l, rfl⟩

theorem Fresh.exact (hs : Fresh s) : Exact s :=
  ⟨hs.initial.coherent, fun hp => absurd (by rw [hs.initial.ic]; rfl) hp⟩

/-- A run in which nothing fails, and the cache is lost before each command. -/
def lossyTrace : List StoreRequest → Target → List (StoreRequest × StoreAnswer)
  | [], _ => []
  | r :: rs, s => (r, r.answer { s with ic := IdCache.zero }) ::
      lossyTrace rs (r.after { s with ic := IdCache.zero })

/-- Each command of the list returns, and the ids stay small. -/
def RunsLossy : List StoreRequest → Target → Prop
  | [], _ => True
  | r :: rs, s => (r.run Env.calm { s with ic := IdCache.zero }).isSome = true ∧
      (r.after { s with ic := IdCache.zero }).db.IdsBelow ∧
        RunsLossy rs (r.after { s with ic := IdCache.zero })

theorem RunsLossy.trace {rs : List StoreRequest} (h : RunsLossy rs s) :
    ∃ t, Trace ForgetfulStep s (lossyTrace rs s) t := by
  induction rs generalizing s with
  | nil => exact ⟨s, .nil s⟩
  | cons r rs ih =>
    obtain ⟨hsome, hids, hrest⟩ := h
    obtain ⟨⟨x, u⟩, hrun⟩ := Option.isSome_iff_exists.1 hsome
    have hafter : r.after { s with ic := IdCache.zero } = u := by
      rw [StoreRequest.after, hrun]
      rfl
    obtain ⟨t, ht⟩ := ih hrest
    refine ⟨t, .cons (.inr ⟨hids, Env.calm, fun _ _ _ => rfl, fun _ _ => rfl, x, ?_, ?_⟩) ht⟩
    · rw [hafter, hrun]
    · rw [StoreRequest.answer, hrun]
      rfl

/-- Ids are chosen four times. -/
def chosenIds : List StoreRequest :=
  [.op (.createPartition 0), .op (.create 0x10000 0 2), .op (.createCollection 0x10000 0),
    .op (.create 0x10000 0 1)]

end OsdTarget
