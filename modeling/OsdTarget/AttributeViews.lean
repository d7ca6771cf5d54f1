import OsdTarget.Base.Lockstep
import OsdTarget.Cdb

/-!
# Attribute functions in lockstep

Two states a relation `R` holds between, and what the attribute functions do from either.  `Sees` collects
what they ask of one object; where it answers the same in both states, so do they.  The pages that show the
current command or the database file are named apart.
-/

namespace OsdTarget

open Base

/-! ## What is asked of the two states -/

/-- What was stored in the reply and what is kept of transactions does not count. -/
class Detached (R : Target → Target → Prop) : Prop where
  reply : ∀ pos bytes, Alike R (outWrite pos bytes)
  txn : ∀ (s t : Target) (b b' : Bool) (l l' : List TxnCall), R s t →
    R { s with inTxn := b, txnCalls := l } { t with inTxn := b', txnCalls := l' }

/-- The states have the same attributes of (pid, oid) to show. -/
structure Reveals (R : Target → Target → Prop) (env : Env) (pid oid : UInt64) : Prop where
  type : Alike R (objGetType env pid oid)
  refused : ∀ s t, R s t → env.queryFails (.attrRtrvl (bindInt64 pid) (bindInt64 oid)) t.db =
    env.queryFails (.attrRtrvl (bindInt64 pid) (bindInt64 oid)) s.db
  rows : ∀ s t, R s t → ∀ q : Rtrvl, q.rows t.db (bindInt64 pid) (bindInt64 oid) =
    q.rows s.db (bindInt64 pid) (bindInt64 oid)
  value : ∀ page number : UInt32, Alike R (dbExecQuery env
    (.attrGetVal (bindInt64 pid) (bindInt64 oid) (bindInt page) (bindInt number)) none fun d =>
      d.attr.find? fun r => r.key = (bindInt64 pid, bindInt64 oid, bindInt page, bindInt number))
  lookup : ∀ s t, R s t → t.lookup env pid oid = s.lookup env pid oid

/-- And what is stored for (pid, oid) keeps them related. -/
structure Sees (R : Target → Target → Prop) (env : Env) (pid oid : UInt64) :
    Prop extends Reveals R env pid oid where
  present : Alike R (objIspresent env pid oid)
  store : ∀ page number val len, Alike R (attrSetAttrRow env pid oid page number val len)
  delete : ∀ page number, Alike R (attrDeleteAttr env pid oid page number)
  setFile : ∀ s t c, R s t → R (s.setFile pid oid c) (t.setFile pid oid c)
  pointer : ∀ number cid, Alike R (collGetCid env pid oid number cid)
  join : ∀ cid number, Alike R (collInsert env pid cid oid number)
  leave : ∀ cid, Alike R (collDelete env pid cid oid)

/-- Where the page shows more than the object, the states agree on that. -/
structure SeesPage (R : Target → Target → Prop) (page : UInt32) : Prop where
  ccap : page = CUR_CMD_ATTR_PG ∨ page = ROOT_INFO_PG → ∀ s t, R s t → t.ccap = s.ccap
  times : page = PARTITION_DIR_PG + USER_TMSTMP_PG ∨ page = USER_TMSTMP_PG → ∀ s t, R s t →
    t.dbLinked = s.dbLinked ∧ t.rootFreed = s.rootFreed

/-- A collection pointer names a collection that the states agree on. -/
def SeesPointer (R : Target → Target → Prop) (env : Env) (pid : UInt64) (page : UInt32)
    (val : Option Mem) (len : UInt16) : Prop :=
  page = USER_COLL_PG → len = 8 → ∀ m, val = some m → Alike R (objIspresent env pid (getNtohll m 0))

variable {R : Target → Target → Prop} {env : Env} {pid oid : UInt64} {page : UInt32}

/-! ## The same tables and data files -/

theorem alike_query_of_db {α : Type} (h : ∀ s t, R s t → t.db = s.db) (q : Query) (init : α)
    (answer : Db → α) :
    Alike R (dbExecQuery env q init answer) := by
  refine alike_get fun s t hst => ?_
  rw [h s t hst]
  exact alike_guard (alike_pure _) s t hst

/-- States with the same tables and data files. -/
theorem Reveals.of_same (hdb : ∀ s t, R s t → t.db = s.db)
    (hfiles : ∀ s t, R s t → t.files = s.files ∧ t.rootFreed = s.rootFreed) : Reveals R env pid oid where
  type := alike_query_of_db hdb _ _ _
  refused s t hst := by rw [hdb s t hst]
  rows s t hst q := by rw [hdb s t hst]
  value _ _ := alike_query_of_db hdb _ _ _
  lookup s t hst := by
    obtain ⟨hf, hroot⟩ := hfiles s t hst
    unfold Target.lookup
    rw [hf, hroot]

/-! ## Transactions -/

section Txn

variable [Detached R]

theorem alike_beginTxn {α : Type} {m : OsdM α} (hm : Alike R m) :
    Alike R (osdBeginTxn env >>= fun _ => m) := by
  intro s t h
  obtain ⟨r, s', hs, b, l, rfl⟩ : ∃ r s', osdBeginTxn env s = some (r, s') ∧
      ∃ b l, s' = { s with inTxn := b, txnCalls := l } :=
    Ends.of_halts (osdBeginTxn_ends fun _ b l => ⟨b, l, rfl⟩) halts_osdBeginTxn
  obtain ⟨r', t', ht, b', l', rfl⟩ : ∃ r t', osdBeginTxn env t = some (r, t') ∧
      ∃ b l, t' = { t with inTxn := b, txnCalls := l } :=
    Ends.of_halts (osdBeginTxn_ends fun _ b l => ⟨b, l, rfl⟩) halts_osdBeginTxn
  unfold Lockstep
  rw [bind_of_some hs, bind_of_some ht]
  exact hm _ _ (Detached.txn s t b b' l l' h)

theorem alike_endTxn {α : Type} {m : OsdM α} (hm : Alike R m) : Alike R (osdEndTxn env >>= fun _ => m) := by
  intro s t h
  obtain ⟨r, s', hs, b, l, rfl⟩ : ∃ r s', osdEndTxn env s = some (r, s') ∧
      ∃ b l, s' = { s with inTxn := b, txnCalls := l } :=
    Ends.of_halts (osdEndTxn_ends fun _ b l => ⟨b, l, rfl⟩) halts_osdEndTxn
  obtain ⟨r', t', ht, b', l', rfl⟩ : ∃ r t', osdEndTxn env t = some (r, t') ∧
      ∃ b l, t' = { t with inTxn := b, txnCalls := l } :=
    Ends.of_halts (osdEndTxn_ends fun _ b l => ⟨b, l, rfl⟩) halts_osdEndTxn
  unfold Lockstep
  rw [bind_of_some hs, bind_of_some ht]
  exact hm _ _ (Detached.txn s t b b' l l' h)

/-- Whether the transactions were begun and ended does not show. -/
theorem alike_withinTxn {α : Type} {m : OsdM α} (hm : Alike R m) : Alike R (withinTxn env m) :=
  alike_beginTxn (alike_bind hm fun _ => alike_endTxn (alike_pure _))

end Txn

/-! ## Packing -/

section Packing

variable [Detached R]

theorem alike_lePackAttr (pos : Nat) (buflen page number : UInt32) (valen : UInt16) (val : Option Mem) :
    Alike R (lePackAttr env pos buflen page number valen val) := by
  unfold lePackAttr
  cases lePackAttrAt (env.outAddr + pos) buflen page number valen val with
  | error e => exact alike_pure _
  | ok bytes => exact alike_bind (Detached.reply _ _) fun _ => alike_pure _

theorem alike_leMultiobjPackAttr (pos : Nat) (buflen : UInt32) (id : UInt64) (page number : UInt32)
    (valen : UInt16) (val : Option Mem) : Alike R
      (leMultiobjPackAttr env pos buflen id page number valen val) := by
  refine alike_guard (alike_bind (Detached.reply _ _) fun _ =>
    alike_bind (alike_lePackAttr _ _ _ _ _ _) fun r => ?_)
  cases r <;> exact alike_pure _

theorem alike_packAttr (listfmt : UInt8) (pos : Nat) (buflen : UInt32) (id : UInt64) (page number : UInt32)
    (valen : UInt16) (val : Option Mem) : Alike R
      (packAttr env listfmt pos buflen id page number valen val) :=
  alike_ite (alike_lePackAttr _ _ _ _ _ _) (alike_ite
    (alike_leMultiobjPackAttr _ _ _ _ _ _ _) (alike_pure _))

theorem alike_gatherAttrs (id : UInt64) (listfmt : UInt8) (rows : List AttrRow) (pos : Nat)
    (outlen : UInt64)
    (g : Gathered) : Alike R (gatherAttrs env id listfmt rows pos outlen g) := by
  induction rows generalizing pos outlen g with
  | nil => exact alike_pure _
  | cons r rows ih =>
    refine alike_bind (alike_packAttr _ _ _ _ _ _ _ _) fun packed => ?_
    cases packed with
    | ok ret => exact ih _ _ _
    | error e => cases e <;> exact alike_pure _

theorem alike_packValue (listfmt : UInt8) (pos : Nat) (outlen id : UInt64)
    (page number : UInt32) (len : UInt16)
    (val : Option Mem) : Alike R (packValue env listfmt pos outlen id page number len val) := by
  refine alike_guard (alike_bind (alike_packAttr _ _ _ _ _ _ _ _) fun packed => ?_)
  cases packed with
  | ok ret => exact alike_pure _
  | error e => cases e <;> exact alike_pure _

end Packing

/-! ## The command and the times -/

theorem SeesPage.dbStatFails (hpage : SeesPage R USER_TMSTMP_PG) {s t : Target} (hst : R s t) :
    t.dbStatFails env = s.dbStatFails env := by
  obtain ⟨hlinked, hfreed⟩ := hpage.times (.inr rfl) s t hst
  unfold Target.dbStatFails
  rw [hlinked, hfreed]

section Pages

variable [Detached R]

theorem alike_fillNullAttr (page number : UInt32) (listfmt : UInt8) (pos : Nat) (outlen : UInt32) :
    Alike R (fillNullAttr env oid page number listfmt pos outlen) :=
  alike_ite (alike_ite (alike_leMultiobjPackAttr _ _ _ _ _ _ _) (alike_lePackAttr _ _ _ _ _ _))
    (alike_pure _)

theorem alike_outTimes (l : List (Nat × UInt64)) : Alike R (outTimes l) := by
  induction l with
  | nil => exact alike_pure _
  | cons x l ih =>
    obtain ⟨pos, ms⟩ := x
    unfold outTimes
    cases htonTime ms with
    | none => exact alike_pure _
    | some bytes => exact alike_bind (Detached.reply _ _) fun _ => ih

theorem SeesPage.getCcapAslist (hpage : SeesPage R CUR_CMD_ATTR_PG) (number : UInt32) (pos : Nat)
    (outlen : UInt64) : Alike R (getCcapAslist env number pos outlen) := by
  refine alike_get fun s t hst => ?_
  rw [hpage.ccap (.inl rfl) s t hst]
  cases ccapVal s.ccap number with
  | none => exact lockstep_pure hst _
  | some p => exact alike_bind (alike_lePackAttr _ _ _ _ _ _) (fun _ => alike_pure _) s t hst

theorem SeesPage.getCcap (hpage : SeesPage R CUR_CMD_ATTR_PG) (pos : Nat) (outlen : UInt64) :
    Alike R (getCcap pos outlen) := by
  refine alike_guard (alike_get fun s t hst => ?_)
  dsimp only
  rw [hpage.ccap (.inl rfl) s t hst]
  have hw := fun p b => Detached.reply (R := R) p b
  exact alike_bind (hw _ _) (fun _ => alike_bind (hw _ _) fun _ => alike_bind (hw _ _) fun _ =>
    alike_bind (hw _ _) fun _ => alike_bind (hw _ _) fun _ => alike_bind (hw _ _) fun _ =>
    alike_bind (hw _ _) fun _ => alike_bind (hw _ _) fun _ => alike_pure _) s t hst

end Pages

namespace Reveals

variable (h : Reveals R env pid oid)

include h

/-! ## Retrieving -/

theorem getObjType : Alike R (getObjType env pid oid) := by
  refine alike_ite (alike_pure _) (alike_ite (alike_pure _)
    (alike_ite (alike_bind h.type fun r => ?_) (alike_pure _)))
  obtain ⟨ret, type⟩ := r
  cases ret <;> exact alike_pure _

theorem attrGetVal (page number : UInt32) (outlen : UInt64) :
    Alike R (attrGetVal env pid oid page number outlen) := by
  refine alike_bind (h.value _ _) fun r => ?_
  obtain ⟨ret, row⟩ := r
  cases ret with
  | ok =>
    cases row with
    | none => exact alike_pure _
    | some r => exact alike_guard (alike_guard (alike_pure _))
  | err e => exact alike_pure _
  | sense x => exact alike_pure _

theorem userInfoVal {s t : Target} (hst : R s t) (number : UInt32) :
    userInfoVal env t pid oid number = userInfoVal env s pid oid number := by
  unfold OsdTarget.userInfoVal
  rw [h.lookup s t hst]

variable [Detached R]

theorem execAttrRtrvlStmt (q : Rtrvl) (listfmt : UInt8) (pos : Nat) (outlen : UInt64) :
    Alike R (execAttrRtrvlStmt env q pid oid listfmt pos outlen) := by
  refine alike_get fun s t hst => ?_
  rw [h.refused s t hst, h.rows s t hst q]
  exact alike_guard (alike_bind (alike_gatherAttrs _ _ _ _ _ _) fun _ =>
    alike_guard (alike_guard (alike_pure _))) s t hst

theorem attrGetAttr (page number : UInt32) (listfmt : UInt8) (pos : Nat) (outlen : UInt64) :
    Alike R (attrGetAttr env pid oid page number listfmt pos outlen) := by
  refine alike_ite (alike_ite (h.execAttrRtrvlStmt _ _ _ _) (alike_get fun s t hst => ?_))
    (alike_ite (alike_ite (h.execAttrRtrvlStmt _ _ _ _) (alike_ite (alike_bind (h.execAttrRtrvlStmt _ _ _ _)
      fun r => ?_) ?_)) (alike_packValue _ _ _ _ _ _ _ _))
  · rw [h.userInfoVal hst]
    cases OsdTarget.userInfoVal env s pid oid number with
    | none => exact lockstep_pure hst _
    | some v => exact alike_packValue _ _ _ _ _ _ _ _ s t hst
  · obtain ⟨ret, used⟩ := r
    cases ret with
    | ok => exact alike_pure _
    | sense x => exact alike_pure _
    | err e => cases e <;> first | exact alike_packValue _ _ _ _ _ _ _ _ | exact alike_pure _
  · cases OsdTarget.rootInfoVal env number with
    | none => exact alike_pure _
    | some v => exact alike_packValue _ _ _ _ _ _ _ _

theorem getUiap (page number : UInt32) (listfmt : UInt8) (pos : Nat) (outlen : UInt64) :
    Alike R (getUiap env pid oid page number listfmt pos outlen) := by
  refine alike_bind (h.attrGetAttr _ _ _ _ _) fun r => ?_
  obtain ⟨ret, used⟩ := r
  cases ret <;> exact alike_pure _

theorem mutiplexGetattrList (page number : UInt32) (listfmt : UInt8) (pos : Nat) (outlen : UInt64) :
    Alike R (mutiplexGetattrList env pid oid page number listfmt pos outlen) :=
  alike_ite (alike_ite (h.execAttrRtrvlStmt _ _ _ _) (h.execAttrRtrvlStmt _ _ _ _))
    (alike_ite (h.execAttrRtrvlStmt _ _ _ _) (h.execAttrRtrvlStmt _ _ _ _))

theorem getUtsapAslist (hpage : SeesPage R USER_TMSTMP_PG) (number : UInt32) (listfmt : UInt8) (pos : Nat)
    (outlen : UInt64) : Alike R (getUtsapAslist env pid oid number listfmt pos outlen) := by
  refine alike_get fun s t hst => ?_
  have hval : utsapVal env t pid oid number = utsapVal env s pid oid number := by
    unfold utsapVal
    rw [h.lookup s t hst, hpage.dbStatFails hst]
  rw [hval]
  cases utsapVal env s pid oid number with
  | none => exact lockstep_pure hst _
  | some p =>
    exact alike_ite (alike_bind (alike_leMultiobjPackAttr _ _ _ _ _ _ _) fun _ => alike_pure _)
      (alike_bind (alike_lePackAttr _ _ _ _ _ _) fun _ => alike_pure _) s t hst

theorem getattrListByPage (hpage : SeesPage R page) (number : UInt32) (listfmt : UInt8) (pos : Nat)
    (outlen : UInt64) : Alike R (getattrListByPage env pid oid page number listfmt pos outlen) := by
  refine alike_ite_of (fun hp => ?_) fun _ => alike_ite_of (fun hp => ?_) fun _ =>
    alike_ite (h.getUiap _ _ _ _ _) (alike_ite (h.attrGetAttr _ _ _ _ _) (h.mutiplexGetattrList _ _ _ _ _))
  · exact SeesPage.getCcapAslist (hp ▸ hpage) _ _ _
  · refine h.getUtsapAslist ⟨fun hc => absurd hc (by decide), fun _ => hpage.times hp⟩ _ _ _ _

/-- An embedded GET ATTRIBUTES of one attribute, in terms of the lazy initialisation. -/
theorem osdGetattrList (hpage : SeesPage R page) {number : UInt32}
    (hlazy : Alike R (lazyInitAttr env pid oid page number)) (pos : Nat) (outlen : UInt32)
    (listfmt : UInt8) :
    Alike R (osdGetattrList env pid oid page number pos outlen true listfmt) := by
  refine alike_bind h.getObjType fun type => alike_guard (alike_guard (alike_bind hlazy fun _ =>
    alike_guard (alike_bind (h.getattrListByPage hpage _ _ _ _) fun r => ?_)))
  obtain ⟨ret, used⟩ := r
  refine alike_guard (alike_ite (alike_bind (alike_fillNullAttr _ _ _ _ _) fun filled => ?_) (alike_pure _))
  cases filled with
  | ok n => exact alike_pure _
  | error e => cases e <;> exact alike_pure _

theorem getUtsap (hpage : SeesPage R USER_TMSTMP_PG) (pos : Nat) (outlen : UInt64) :
    Alike R (getUtsap env pid oid pos outlen) := by
  refine alike_guard (alike_bind (Detached.reply _ _) fun _ => alike_bind (Detached.reply _ _) fun _ =>
    alike_bind (Detached.reply _ _) fun _ => alike_get fun s t hst => ?_)
  rw [h.lookup s t hst, hpage.dbStatFails hst]
  exact alike_guard (alike_bind (alike_outTimes _) fun _ => alike_guard (alike_pure _)) s t hst

theorem osdGetattrPage (hpage : SeesPage R page)
    (hlazy : Alike R (lazyInitAttr env pid oid page 0)) (pos : Nat)
    (outlen : UInt64) : Alike R (osdGetattrPage env pid oid page pos outlen true) := by
  refine alike_bind h.getObjType fun type => alike_guard (alike_guard (alike_ite_of
    (fun hembedded => absurd hembedded (by decide)) fun _ => alike_ite_of (fun hp => ?_) fun _ =>
    alike_ite_of (fun hp => ?_) fun _ => alike_ite_of (fun hp => ?_) fun _ => alike_pure _))
  · exact alike_bind (SeesPage.getCcap (hp ▸ hpage) _ _) fun _ => alike_pure _
  · exact alike_bind (h.getUtsap (hp ▸ hpage) _ _) fun _ => alike_pure _
  · exact alike_bind hlazy fun _ => alike_guard
      (alike_bind (h.execAttrRtrvlStmt _ _ _ _) fun _ => alike_pure _)

end Reveals

namespace Sees

variable (h : Sees R env pid oid)

include h

theorem lazyInitAttr (page number : UInt32) : Alike R (lazyInitAttr env pid oid page number) := by
  -- neither of the two pages is one of the special ones
  have hset : ∀ p, p = USER_TMSTMP_PG ∨ p = USER_ATOMICS_PG →
      ∀ val, Alike R (attrSetAttr env pid oid p 0 val 40) := by
    rintro p (rfl | rfl) val <;> exact h.store _ _ _ _
  exact alike_guard (alike_bind (h.attrGetVal _ _ _) fun _ => alike_guard (alike_guard
    (alike_bind (hset _ (.inl rfl) _) fun _ => alike_guard (hset _ (.inr rfl) _))))

/-! ## Storing -/

theorem truncateFile (len : UInt64) : Alike R (truncateFile env pid oid len) := by
  refine alike_get fun s t hst => ?_
  rw [h.lookup s t hst]
  cases s.lookup env pid oid with
  | none => exact lockstep_pure hst _
  | some content =>
    exact lockstep_ite Iff.rfl (fun _ => lockstep_pure hst _) fun _ =>
      lockstep_bind (lockstep_set (h.setFile s t _ hst)) fun _ _ _ h' => lockstep_pure h' _

theorem setLogicalLen (len : UInt64) : Alike R (setLogicalLen env pid oid len) :=
  alike_bind (h.truncateFile _) fun _ => alike_ite (alike_pure _) (alike_pure _)

theorem setUiap (number : UInt32) (val : Option Mem) (len : UInt16) :
    Alike R (setUiap env pid oid number val len) := by
  refine alike_ite (h.store _ _ _ _) (alike_ite ?_ (alike_pure _))
  cases val with
  | none => exact alike_never
  | some m => exact h.setLogicalLen _

theorem setRiap (hpage : SeesPage R ROOT_INFO_PG) (number : UInt32) (val : Option Mem) (len : UInt16) :
    Alike R (setRiap env pid oid number val len) := by
  have hccap := hpage.ccap (.inr rfl)
  have hset : Alike R (attrSetAttr env pid oid ROOT_INFO_PG number val len) := by
    refine alike_ite (alike_ite (h.store _ _ _ _) (alike_ite ?_ (alike_pure _)))
      (alike_ite (alike_ite (alike_get fun s t hst => ?_) (alike_ite (h.store _ _ _ _) (alike_pure _)))
        (h.store _ _ _ _))
    · cases val with
      | none => exact alike_never
      | some m => exact h.setLogicalLen _
    · rw [hccap s t hst]
      exact alike_ite (alike_guard (h.store _ _ _ _)) (alike_pure _) s t hst
  refine alike_get fun s t hst => ?_
  rw [hccap s t hst]
  exact alike_ite (alike_guard (alike_guard hset)) hset s t hst

theorem setCap (number : UInt32) {val : Option Mem} {len : UInt16}
    (hval : SeesPointer R env pid USER_COLL_PG val len) : Alike R (setCap env pid oid number val len) := by
  refine alike_guard (alike_ite (alike_bind (h.pointer _ _) fun _ =>
    alike_guard (alike_bind (h.leave _) fun _ =>
    alike_guard (alike_pure _))) (alike_ite_of (fun _ => alike_pure _) fun hlen => ?_))
  cases val with
  | none => exact alike_never
  | some m =>
    exact alike_bind (hval rfl (not_not.1 hlen) m rfl) fun _ => alike_guard
      (alike_bind (h.join _ _) fun _ => alike_guard (alike_pure _))

theorem storeAttribute (hpage : SeesPage R page) (number : UInt32) {val : Option Mem} {len : UInt16}
    (hval : SeesPointer R env pid page val len) : Alike R (storeAttribute env pid oid page number val len) := by
  have hspecial : ∀ {m : OsdM Ret}, Alike R m → Alike R (m >>= fun ret =>
      if ret = .ok then pure .ok else pure (cdbErr pid oid)) :=
    fun hm => alike_bind hm fun _ => alike_ite (alike_pure _) (alike_pure _)
  exact alike_ite (hspecial (h.setUiap _ _ _))
    (alike_ite_of (fun hp => hspecial (h.setRiap (hp ▸ hpage) _ _ _))
    fun _ => alike_ite_of (fun hp => hspecial (h.setCap _ (hp ▸ hval))) fun _ =>
    alike_ite (hspecial (h.delete _ _)) (alike_bind (h.store _ _ _ _) fun _ =>
      alike_ite (alike_pure _) (alike_pure _)))

theorem osdSetAttributes (hpage : SeesPage R page) (number : UInt32) {val : Option Mem} {len : UInt16}
    (hval : SeesPointer R env pid page val len) : Alike R
      (osdSetAttributes env pid oid page number val len true) :=
  alike_bind h.present fun _ => alike_guard (alike_bind h.toReveals.getObjType fun _ =>
    alike_guard (alike_guard
    (alike_guard (alike_guard (alike_guard (alike_guard
      (alike_bind (h.storeAttribute hpage _ hval) fun _ =>
      alike_guard (alike_pure _))))))))

variable [Detached R]

theorem osdGetattrList (hpage : SeesPage R page) (number : UInt32) (pos : Nat) (outlen : UInt32)
    (listfmt : UInt8) :
    Alike R (osdGetattrList env pid oid page number pos outlen true listfmt) :=
  h.toReveals.osdGetattrList hpage (h.lazyInitAttr _ _) _ _ _

theorem osdGetattrPage (hpage : SeesPage R page) (pos : Nat) (outlen : UInt64) :
    Alike R (osdGetattrPage env pid oid page pos outlen true) :=
  h.toReveals.osdGetattrPage hpage (h.lazyInitAttr _ _) _ _

end Sees

/-! ## Parameters -/

/-- The loop over a set list comes to attributes the states agree on only. -/
def SeesEntries (R : Target → Target → Prop) (env : Env) (pid : UInt64) (indata : Mem) : Nat →
    Nat → UInt32 → Prop
  | 0, _, _ => True
  | fuel + 1, listHdr, listLen => listLen ≠ 0 →
    SeesPage R (listEntryAt indata listHdr).page ∧
    SeesPointer R env pid (listEntryAt indata listHdr).page
      (some (indata.shift (listEntryAt indata listHdr).cval)) (listEntryAt indata listHdr).len ∧
    SeesEntries R env pid indata fuel (listHdr + (listEntryAt indata listHdr).size)
      (listLen - UInt32.ofNat (listEntryAt indata listHdr).size)

/-- The parameters of the command are about attributes the states agree on. -/
structure SeesParameters (R : Target → Target → Prop) (env : Env) (cmd : Command)
    (pid : UInt64) (fuel : Nat) :
    Prop where
  setPage : cmd.getsetCdbfmt = GETPAGE_SETVALUE → ∀ off len, setAttrValueCheck cmd = .use off len →
    SeesPage R (getNtohl cmd.cdb 64) ∧ SeesPointer R env pid (getNtohl cmd.cdb 64)
      (cmd.indataAt off) (UInt16.ofNat len)
  setList : cmd.getsetCdbfmt = GETLIST_SETLIST → ∀ off len, setListCheck cmd = .use off len →
    SeesEntries R env pid cmd.indata fuel (off + 8) (UInt32.ofNat len - 8)
  setField : cmd.getsetCdbfmt = GETFIELD_SETVALUE → ∀ off len, setOneAttrValueCheck cmd = .use off len →
    SeesPage R (getNtohl cmd.cdb 52) ∧ SeesPointer R env pid (getNtohl cmd.cdb 52)
      (some (cmd.cdb.shift off)) (UInt16.ofNat len)
  getPage : cmd.getsetCdbfmt = GETPAGE_SETVALUE → SeesPage R (getNtohl cmd.cdb 52)
  getList : cmd.getsetCdbfmt = GETLIST_SETLIST → ∀ off len, getAttrListCheck cmd = .use off len →
    ∀ i < (len - 8) / 8, SeesPage R (getEntryAt cmd.indata (off + 8 + 8 * i)).1

section Parameters

theorem alike_run {c : ParamCheck} {body : Nat → Nat → OsdM Ret}
    (hbody : ∀ off len, c = .use off len → Alike R (body off len)) : Alike R (c.run pid oid body) := by
  cases c with
  | nothing => exact alike_pure _
  | reject asc => exact alike_pure _
  | use off len => exact hbody off len rfl

theorem alike_setOnObjects {val : Option Mem} {len : UInt16} (hpage : SeesPage R page)
    (hval : SeesPointer R env pid page val len) (number : UInt32) {n : Nat} {i : UInt64}
    (h : ∀ k < n, Sees R env pid (i + UInt64.ofNat k)) :
    Alike R (setOnObjects env pid page number val len true n i) := by
  induction n generalizing i with
  | zero => exact alike_pure _
  | succ n ih =>
    obtain ⟨hi, hrest⟩ := forall_ids_succ.1 h
    exact alike_bind (hi.osdSetAttributes hpage _ hval) fun _ => alike_guard (ih hrest)

theorem alike_setAttrListLoop {indata : Mem} {numoid : UInt16}
    (h : ∀ k < createCount oid numoid, Sees R env pid (oid + UInt64.ofNat k)) {fuel listHdr : Nat}
    {listLen : UInt32}
    (hseen : SeesEntries R env pid indata fuel listHdr listLen) :
    Alike R (setAttrListLoop env indata pid oid true numoid fuel listHdr listLen) := by
  induction fuel generalizing listHdr listLen with
  | zero => exact alike_ite (alike_pure _) alike_never
  | succ fuel ih =>
    refine alike_ite_of (fun _ => alike_pure _) fun hlen => ?_
    obtain ⟨hpage, hval, hrest⟩ := hseen hlen
    exact alike_bind (alike_setOnObjects hpage hval _ h) fun _ => alike_guard (ih hrest)

theorem alike_getFromObjects (number : UInt32) (listfmt : UInt8) {n : Nat} {i : UInt64}
    (h : ∀ k < n, ∀ pos outlen,
      Alike R (osdGetattrList env pid (i + UInt64.ofNat k) page number pos outlen true listfmt))
        (c : GetCursor) :
    Alike R (getFromObjects env pid page number true listfmt n i c) := by
  induction n generalizing i c with
  | zero => exact alike_pure _
  | succ n ih =>
    obtain ⟨hi, hrest⟩ := (forall_ids_succ (P := fun i => ∀ pos outlen,
      Alike R (osdGetattrList env pid i page number pos outlen true listfmt))).1 h
    exact alike_bind (hi _ _) fun _ => alike_guard (ih hrest _)

theorem alike_getAttrListLoop (listfmt : UInt8) {numoid : UInt16} {l : List (UInt32 × UInt32)}
    (h : ∀ e ∈ l, ∀ k < createCount oid numoid, ∀ pos outlen,
      Alike R (osdGetattrList env pid (oid + UInt64.ofNat k) e.1 e.2 pos outlen true listfmt))
        (c : GetCursor) :
    Alike R (getAttrListLoop env pid oid true listfmt numoid l c) := by
  induction l generalizing c with
  | nil => exact alike_pure _
  | cons e l ih =>
    obtain ⟨page, number⟩ := e
    obtain ⟨he, hrest⟩ := List.forall_mem_cons.1 h
    exact alike_bind (alike_getFromObjects _ _ he _) fun r => alike_guard (ih hrest _)

variable [Detached R] {cmd : Command} {fuel : Nat} {numoid : UInt16}

theorem alike_setAttributes (hseen : SeesParameters R env cmd pid fuel) (num : UInt32)
    (h : ∀ k < createCount oid num.toUInt16, Sees R env pid (oid + UInt64.ofNat k)) :
    Alike R (setAttributes env cmd pid oid num fuel) := by
  refine alike_guard (alike_ite_of (fun hf => alike_run fun off len hc => ?_) fun _ =>
    alike_ite_of (fun hf => alike_run fun off len hc => ?_) fun _ =>
    alike_ite_of (fun hf => alike_run fun off len hc => ?_) fun _ => alike_pure _)
  · obtain ⟨hpage, hval⟩ := hseen.setPage hf off len hc
    exact alike_withinTxn (alike_setOnObjects hpage hval _ h)
  · exact alike_withinTxn (alike_setAttrListLoop h (hseen.setList hf off len hc))
  · obtain ⟨hpage, hval⟩ := hseen.setField hf off len hc
    exact alike_withinTxn (alike_setOnObjects hpage hval _ h)

theorem alike_getAttrList (hloop : ∀ off len, getAttrListCheck cmd = .use off len →
      Alike R (getAttrListLoop env pid oid true
        (if 1 < numoid then RTRVD_CREATE_MULTIOBJ_LIST else RTRVD_SET_ATTR_LIST) numoid
        ((List.range ((len - 8) / 8)).map fun i => getEntryAt cmd.indata (off + 8 + 8 * i))
        ⟨cmd.retrievedAttrOff.toNat + 8, getNtohl cmd.cdb 60 - 8, 8⟩)) (used : UInt32) :
    Alike R (getAttrList env cmd pid oid true numoid used) := by
  unfold getAttrList
  cases hc : getAttrListCheck cmd with
  | nothing => exact alike_pure _
  | reject asc => exact alike_pure _
  | use off len =>
    exact alike_bind (Detached.reply _ _) fun _ => alike_bind (Detached.reply _ _) fun _ =>
      alike_bind (alike_withinTxn (alike_bind (hloop off len hc) fun r =>
        alike_ite (alike_bind (Detached.reply _ _) fun _ => alike_pure _) (alike_pure _))) fun _ =>
          alike_pure _

theorem alike_getAttributes (hseen : SeesParameters R env cmd pid fuel)
    (h : ∀ k < createCount oid numoid, Sees R env pid (oid + UInt64.ofNat k)) (hoid : Sees R env pid oid)
    (used : UInt32) : Alike R (getAttributes env cmd pid oid numoid used) := by
  refine alike_guard (alike_ite_of (fun hf => ?_) fun _ => alike_ite_of (fun hf => ?_) fun _ =>
    alike_ite (alike_pure _) (alike_pure _))
  · exact alike_guard (alike_guard (alike_guard
      (alike_bind (hoid.osdGetattrPage (hseen.getPage hf) _ _) fun _ =>
      alike_pure _)))
  · refine alike_getAttrList (fun off len hc =>
      alike_getAttrListLoop _ (fun e he k hk pos outlen => ?_) _) _
    obtain ⟨i, hi, rfl⟩ := List.mem_map.1 he
    exact (h k hk).osdGetattrList (hseen.getList hf off len hc i (List.mem_range.1 hi)) _ _ _ _

/-- **The parameters of a command see the object they are about**, as far as they ask for it. -/
theorem alike_applyAttributes (hseen : SeesParameters R env cmd pid fuel)
    (h : ∀ k < createCount oid numoid, Sees R env pid (oid + UInt64.ofNat k)) (hoid : Sees R env pid oid)
    (used : UInt32) : Alike R (applyAttributes env cmd pid oid numoid fuel used) :=
  alike_bind (alike_setAttributes hseen numoid.toUInt32 (by simpa using h)) fun _ =>
    alike_guard (alike_getAttributes hseen h hoid _)

end Parameters

end OsdTarget
