import OsdTarget.AttributeViews
import OsdTarget.EmptyParameters
import OsdTarget.SetPairs
import OsdTarget.Submit

/-!
# What a GET ATTRIBUTES shows to later commands

A retrieval of the page wildcard stores the names of two pages for an object that has none, and later
commands meet these rows.  Any other GET leaves the device as it was, but for what is kept of transactions,
and of these nothing is seen.
-/

namespace OsdTarget

open Base

variable {env : Env} {s t : Target} {cmd : Command} {ds : List ContDescriptor} {fuel : Nat}
      {pid oid : UInt64}

/-! ## What is kept of transactions is not seen -/

section Alike

instance : Detached ButTxn where
  reply _ _ := alike_modify fun _ _ ⟨b, l, h⟩ => ⟨b, l, by rw [h]⟩
  txn _ _ _ b' _ l' := by
    rintro ⟨b, l, rfl⟩
    exact ⟨b', l', rfl⟩

theorem butTxn_sees (env : Env) (pid oid : UInt64) : Sees ButTxn env pid oid where
  toReveals := by
    refine .of_same ?_ ?_ <;> rintro s _ ⟨b, l, rfl⟩
    · rfl
    · exact ⟨rfl, rfl⟩
  present := butTxn_query _ _ _
  store _ _ _ _ := butTxn_dms _
  delete _ _ := butTxn_dms _
  setFile := by
    rintro s _ c ⟨b, l, rfl⟩
    exact ⟨b, l, rfl⟩
  pointer number cid := by
    unfold collGetCid
    exact butTxn_query _ _ _
  join _ _ := butTxn_dms _
  leave _ := butTxn_dms _

theorem butTxn_seesPage (page : UInt32) : SeesPage ButTxn page where
  ccap _ := by
    rintro s _ ⟨b, l, rfl⟩
    rfl
  times _ := by
    rintro s _ ⟨b, l, rfl⟩
    exact ⟨rfl, rfl⟩

theorem butTxn_seesPointer (page : UInt32) (val : Option Mem) (len : UInt16) :
    SeesPointer ButTxn env pid page val len :=
  fun _ _ _ _ => butTxn_query _ _ _

theorem butTxn_seesParameters (cmd : Command) : SeesParameters ButTxn env cmd pid fuel where
  setPage _ _ _ _ := ⟨butTxn_seesPage _, butTxn_seesPointer _ _ _⟩
  setList _ off len _ := by
    have hall : ∀ n p l, SeesEntries ButTxn env pid cmd.indata n p l := by
      intro n
      induction n with
      | zero => exact fun _ _ => trivial
      | succ n ih => exact fun _ _ _ => ⟨butTxn_seesPage _, butTxn_seesPointer _ _ _, ih _ _⟩
    exact hall _ _ _
  setField _ _ _ _ := ⟨butTxn_seesPage _, butTxn_seesPointer _ _ _⟩
  getPage _ := butTxn_seesPage _
  getList _ _ _ _ _ _ := butTxn_seesPage _

theorem butTxn_applyAttributes (numoid : UInt16) (used : UInt32) :
    Alike ButTxn (applyAttributes env cmd pid oid numoid fuel used) :=
  alike_applyAttributes (butTxn_seesParameters cmd) (fun _ _ => butTxn_sees _ _ _) (butTxn_sees _ _ _) used

/-! ## Reading and listing -/

theorem Reveals.openFile {R : Target → Target → Prop} (h : Reveals R env pid oid) :
    Alike R (openFile env pid oid) := by
  refine alike_get fun s t hst => ?_
  rw [h.lookup s t hst]
  exact lockstep_pure hst _

theorem Reveals.preadFile {R : Target → Target → Prop} (h : Reveals R env pid oid) (hst : R s t)
    (off len : UInt64) :
    preadFile env t pid oid off len = preadFile env s pid oid off len := by
  unfold OsdTarget.preadFile
  rw [h.lookup s t hst]

section

variable {R : Target → Target → Prop} [Detached R] (h : Reveals R env pid oid)
  (hccap : ∀ c, Alike R (setCcap c))

include h hccap

theorem Reveals.contigRead (len offset : UInt64) : Alike R (contigRead env pid oid len offset) := by
  refine alike_guard (alike_bind h.openFile fun _ => alike_guard (alike_get fun s t hst => ?_))
  rw [h.preadFile hst]
  cases OsdTarget.preadFile env s pid oid offset len with
  | none => exact lockstep_pure hst _
  | some bytes =>
    have hend : Alike R (setCcap (fillCcap .userobject pid oid 0) >>= fun _ =>
        if bytes.length < len.toNat then pure (readPastEnd pid oid (UInt64.ofNat bytes.length), some len)
        else pure (.ok, some len) : OsdM (Ret × Option UInt64)) :=
      alike_bind (hccap _) fun _ => alike_guard (alike_pure _)
    exact alike_bind (Detached.reply _ _) (fun _ => alike_guard
      (alike_ite (alike_bind (Detached.reply _ _) fun _ => hend) hend)) s t hst

omit hccap in
theorem Reveals.sglReadLoop (offset : UInt64) (sglist : SgList) (n i : Nat) (dataOffset : UInt64) :
    Alike R (sglReadLoop env pid oid offset sglist n i dataOffset) := by
  induction n generalizing i dataOffset with
  | zero => exact alike_pure _
  | succ n ih =>
    refine alike_get fun s t hst => ?_
    rw [h.preadFile hst]
    cases OsdTarget.preadFile env s pid oid (sglist.offset i + offset) (sglist.bytesToTransfer i) with
    | none => exact lockstep_pure hst _
    | some bytes => exact alike_bind (Detached.reply _ _) (fun _ =>
        alike_ite (alike_bind (Detached.reply _ _) fun _ => ih _ _) (ih _ _)) s t hst

theorem Reveals.osdReadDevice (len offset : UInt64) (sglist : Option SgList) :
    Alike R (osdReadDevice env pid oid len offset sglist) := by
  cases sglist with
  | none => exact h.contigRead hccap _ _
  | some l =>
    refine alike_guard (alike_bind h.openFile fun _ =>
      alike_guard (alike_bind (h.sglReadLoop _ _ _ _ _) fun r => ?_))
    cases r with
    | none => exact alike_pure _
    | some readlen => exact alike_ite alike_never (alike_guard (alike_bind (hccap _) fun _ =>
        alike_guard (alike_pure _)))

end

theorem butTxn_outWrite (pos : Nat) (bytes : List UInt8) : Alike ButTxn (outWrite pos bytes) :=
    Detached.reply _ _

theorem butTxn_idRtrvlLoop (pos : Nat) (allocLen : UInt64) (ids : List UInt64) (c : IdCursor) :
    Alike ButTxn (idRtrvlLoop pos allocLen ids c) := by
  induction ids generalizing c with
  | nil => exact alike_pure _
  | cons id ids ih =>
    have hrest : ∀ c' : IdCursor, Alike ButTxn (if c'.addLen < c'.addLen + 8 then
        idRtrvlLoop pos allocLen ids { c' with addLen := c'.addLen + 8 }
      else pure { c' with addLen := 0 - 1 }) := fun c' => alike_ite (ih _) (alike_pure _)
    exact alike_ite (alike_bind (butTxn_outWrite _ _) fun _ => hrest _) (alike_ite (hrest _) (hrest _))

theorem butTxn_dbExecIdRtrvlStmt (q : Query) (rows : Db → List Int) (allocLen : UInt64) (pos : Nat) :
    Alike ButTxn (dbExecIdRtrvlStmt env q rows allocLen pos) :=
  alike_bind (butTxn_query _ _ _) fun _ => alike_guard
    (alike_bind (butTxn_idRtrvlLoop _ _ _ _) fun _ => alike_pure _)

theorem butTxn_close (c : OdeCursor) : Alike ButTxn c.close :=
  alike_bind (butTxn_outWrite _ _) fun _ => alike_pure _

theorem butTxn_closeOpen (c : OdeCursor) : Alike ButTxn c.closeOpen :=
  alike_ite (butTxn_close c) (alike_pure _)

theorem butTxn_startOde (id : UInt64) (c : OdeCursor) : Alike ButTxn (startOde id c) :=
  alike_ite (alike_bind (butTxn_outWrite _ _) fun _ => alike_bind (butTxn_outWrite _ _) fun _ =>
      alike_bind (butTxn_closeOpen _) fun _ => alike_pure _)
    (alike_bind (butTxn_closeOpen _) fun _ => alike_pure _)

theorem butTxn_addAttr (r : AttrRow) (c : OdeCursor) : Alike ButTxn (addAttr env r c) := by
  have hclose : ∀ c : OdeCursor, Alike ButTxn (c.close >>= fun c =>
      pure (some (c.continueAt (columnInt64 r.oid))) : OsdM (Option OdeCursor)) :=
    fun _ => alike_bind (butTxn_close _) fun _ => alike_pure _
  refine alike_ite (alike_bind (alike_lePackAttr _ _ _ _ _ _) fun packed => ?_)
    (alike_ite (hclose c) (alike_pure _))
  cases packed with
  | error e => exact alike_pure _
  | ok ret => exact alike_ite (hclose _) (alike_pure _)

theorem butTxn_listOidsAttrLoop (rows : List AttrRow) (c : OdeCursor) :
    Alike ButTxn (listOidsAttrLoop env rows c) := by
  induction rows generalizing c with
  | nil => exact alike_pure _
  | cons r rows ih =>
    have hstart : Alike ButTxn (some <$> startOde (columnInt64 r.oid) c) :=
      map_eq_pure_bind some (startOde (columnInt64 r.oid) c) ▸
        alike_bind (butTxn_startOde _ _) fun _ => alike_pure _
    refine alike_ite (alike_bind hstart fun next => ?_) (alike_bind (butTxn_addAttr _ _) fun next => ?_) <;>
    cases next with
    | none => exact alike_pure _
    | some c => exact alike_ite (ih _) (alike_pure _)

theorem butTxn_mtqListOidsAttr (pid initial : UInt64) (getAttr : List (UInt32 × UInt32)) (allocLen : UInt64)
    (pos : Nat) : Alike ButTxn (mtqListOidsAttr env pid initial getAttr allocLen pos) :=
  alike_bind (butTxn_query _ _ _) fun _ => alike_guard (alike_bind (butTxn_listOidsAttrLoop _ _) fun _ =>
    alike_guard (alike_ite (alike_bind (butTxn_outWrite _ _) fun _ => alike_pure _) (alike_pure _)))

theorem butTxn_osdList (listAttr : UInt8) (pid allocLen initialOid : UInt64)
    (getAttr : List (UInt32 × UInt32)) (listId : UInt32) :
    Alike ButTxn (osdList env listAttr pid allocLen initialOid getAttr listId) := by
  have hlast : ∀ r : Ret × Option UInt64, Alike ButTxn
      (setCcap (fillCcap .partition pid PARTITION_OID 0) >>= fun _ => pure r) :=
    fun _ => alike_bind (butTxn_setCcap _) fun _ => alike_pure _
  have hend : ∀ (c : Prop) [Decidable c] (r r' : Ret × Option UInt64) (a b : List UInt8), Alike ButTxn
      (if c then pure r else outWrite 0 a >>= fun _ => outWrite 8 b >>= fun _ =>
        setCcap (fillCcap .partition pid PARTITION_OID 0) >>= fun _ => pure r') :=
    fun _ _ _ _ _ _ => alike_guard (alike_bind (butTxn_outWrite _ _) fun _ =>
      alike_bind (butTxn_outWrite _ _) fun _ => hlast _)
  refine alike_guard (alike_guard (alike_bind (butTxn_outWrite _ _) fun _ => alike_guard (alike_guard
    (alike_ite (alike_bind (butTxn_outWrite _ _) fun _ =>
      alike_ite (alike_bind (butTxn_dbExecIdRtrvlStmt _ _ _ _)
      fun _ => hend _ _ _ _ _) (alike_bind (butTxn_dbExecIdRtrvlStmt _ _ _ _) fun _ => hend _ _ _ _ _))
      (alike_ite (alike_bind (butTxn_outWrite _ _) fun _ => alike_bind (butTxn_mtqListOidsAttr _ _ _ _ _)
        fun _ => hend _ _ _ _ _) (hlast _))))))

theorem butTxn_osdListCollection (listAttr : UInt8) (pid cid allocLen initialOid : UInt64)
    (listId : UInt32) :
    Alike ButTxn (osdListCollection env listAttr pid cid allocLen initialOid listId) := by
  refine alike_guard (alike_guard (alike_bind (butTxn_outWrite _ _) fun _ => alike_guard (alike_bind
    (butTxn_outWrite _ _) fun _ => alike_ite (alike_bind (butTxn_dbExecIdRtrvlStmt _ _ _ _) fun _ => ?_)
      (alike_bind (butTxn_dbExecIdRtrvlStmt _ _ _ _) fun _ => ?_))))
  all_goals exact alike_guard (alike_bind (butTxn_outWrite _ _) fun _ =>
    alike_bind (butTxn_outWrite _ _) fun _ => alike_bind (butTxn_setCcap _) fun _ => alike_pure _)

theorem butTxn_queryLoop (allocLen : UInt32) (ids : List UInt64) (p : Nat) (len used : UInt64) :
    Alike ButTxn (queryLoop allocLen ids p len used) := by
  induction ids generalizing p len used with
  | nil => exact alike_pure _
  | cons id ids ih => exact alike_ite (alike_bind (butTxn_outWrite _ _) fun _ => ih _ _ _) (ih _ _ _)

theorem butTxn_mtqRunQuery (pid cid : UInt64) (qc : QueryCriteria) (allocLen : UInt32) :
    Alike ButTxn (mtqRunQuery env pid cid qc allocLen) :=
  alike_guard (alike_bind (butTxn_query _ _ _) fun _ => alike_guard (alike_bind
    (alike_bind (butTxn_queryLoop _ _ _ _ _) fun _ =>
      alike_bind (butTxn_outWrite _ _) fun _ => alike_pure _)
      fun _ => alike_pure _))

theorem butTxn_osdQuery (pid cid : UInt64) (queryListLen : UInt32) (allocLen : UInt64) (indata : Mem)
    (fuel : Nat) : Alike ButTxn (osdQuery env pid cid queryListLen allocLen indata fuel) := by
  refine alike_guard (alike_bind (butTxn_query _ _ _) fun _ => alike_guard
    (alike_guard (alike_guard (alike_guard ?_))))
  cases queryCriteria indata fuel 4 (queryListLen - 4) [] with
  | none => exact alike_never
  | some found =>
    cases found with
    | none => exact alike_pure _
    | some entries =>
      exact alike_bind (butTxn_outWrite _ _) fun _ => alike_bind (butTxn_outWrite _ _) fun _ =>
        alike_bind (butTxn_mtqRunQuery _ _ _ _) fun _ => alike_guard
          (alike_bind (butTxn_setCcap _) fun _ => alike_pure _)

/-! ## Commands -/

theorem butTxn_withAttributes {m : OsdM (Ret × Option UInt64)} (hm : Alike ButTxn m) :
    Alike ButTxn (withAttributes env cmd pid oid fuel m) :=
  alike_bind hm fun _ => alike_guard (alike_bind (butTxn_applyAttributes _ _) fun _ => alike_pure _)

theorem butTxn_cdbRead (cmd : Command) : Alike ButTxn (cdbRead env cmd ds fuel) :=
  alike_guard (alike_bind ((butTxn_sees _ _ _).toReveals.osdReadDevice butTxn_setCcap _ _ _) fun _ =>
    alike_guard
    (alike_bind (butTxn_applyAttributes _ _) fun _ => alike_guard (alike_pure _)))

theorem butTxn_cdbList (cmd : Command) : Alike ButTxn (cdbList env cmd) := by
  refine alike_guard ?_
  obtain ⟨ret, getAttr⟩ := parseGetattrList cmd cmd.pid (getNtohll cmd.cdb 40)
  cases ret with
  | ok => exact alike_bind (butTxn_osdList _ _ _ _ _ _) fun _ => alike_pure _
  | err e => exact alike_pure _
  | sense x => exact alike_pure _

theorem butTxn_execQuery (cmd : Command) : Alike ButTxn (execQuery env cmd ds fuel) := by
  unfold execQuery
  cases queryDescriptor (getNtohll cmd.cdb 40) ds with
  | none => exact alike_pure _
  | some d => exact butTxn_withAttributes (butTxn_osdQuery _ _ _ _ _ _)

theorem butTxn_execGetAttributes (cmd : Command) : Alike ButTxn (execGetAttributes env cmd fuel) :=
  have hseen : SeesParameters ButTxn env cmd cmd.pid fuel := butTxn_seesParameters cmd
  alike_bind (alike_getAttributes hseen (fun _ _ => butTxn_sees _ _ _)
    (butTxn_sees _ _ _) _) fun _ => alike_guard
      (alike_bind (alike_setAttributes (butTxn_seesParameters cmd) _
      fun _ _ => butTxn_sees _ _ _) fun _ => alike_pure _)

/-- LIST, LIST COLLECTION, QUERY, READ, SET ATTRIBUTES or GET ATTRIBUTES. -/
def ServiceAction.Observes (a : ServiceAction) : Prop :=
  a ∈ [.list, .listCollection, .query, .read, .setAttributes, .getAttributes]

instance : DecidablePred ServiceAction.Observes := fun a => inferInstanceAs (Decidable (a ∈ _))

theorem butTxn_dispatch (h : cmd.serviceAction.Observes) : Alike ButTxn (dispatch env cmd ds fuel) := by
  unfold dispatch
  cases hact : cmd.serviceAction <;> rw [hact] at h
  case list => exact butTxn_cdbList cmd
  case listCollection => exact butTxn_withAttributes (butTxn_osdListCollection _ _ _ _ _ _)
  case query => exact butTxn_execQuery cmd
  case read => exact butTxn_cdbRead cmd
  case setAttributes =>
    exact alike_guard (alike_bind (butTxn_applyAttributes _ _) fun _ => alike_pure _)
  case getAttributes => exact alike_guard (butTxn_execGetAttributes cmd)
  all_goals exact absurd h (by decide)

theorem butTxn_execServiceAction (h : cmd.serviceAction.Observes) :
    Alike ButTxn (execServiceAction env cmd fuel) := by
  unfold execServiceAction
  refine alike_ite (butTxn_dispatch h) ?_
  cases parseCdbContinuationSegment cmd.indata cmd.cdbContLen cmd.action cmd.pid cmd.oid fuel with
  | none => exact alike_never
  | some r =>
    obtain ⟨ret, ds⟩ := r
    cases ret with
    | ok => exact butTxn_dispatch h
    | err e => exact alike_pure _
    | sense x => exact alike_pure _

end Alike

/-! ## Submissions -/

/-- The same device, but for the reply and what is kept of transactions. -/
def ButReply (s t : Target) : Prop := ∃ o b l, t = { s with out := o, inTxn := b, txnCalls := l }

theorem ButReply.received (h : ButReply s t) : ButTxn s.received t.received := by
  obtain ⟨o, b, l, rfl⟩ := h
  exact ⟨b, [], rfl⟩

theorem ButTxn.butReply (h : ButTxn s t) : ButReply s t := by
  obtain ⟨b, l, rfl⟩ := h
  exact ⟨s.out, b, l, rfl⟩

/-- A submission in the surroundings it meets. -/
structure Arrival where
  env : Env
  sub : Submission
  fuel : Nat

/-- What comes back: the report, and everything stored in the reply buffer.  A submission that is refused
stores nothing, whatever was stored before. -/
def Arrival.answer (r : Arrival) : OsdM (Report × List (Nat × List UInt8)) := do
  modify Target.received
  let report ← osdemuCmdSubmit r.env r.sub r.fuel
  return (report, (← get).out)

/-- Submissions one after the other. -/
def answers : List Arrival → OsdM (List (Report × List (Nat × List UInt8)))
  | [] => return []
  | r :: rs => do
    let a ← r.answer
    let as ← answers rs
    return a :: as

theorem butTxn_osdemuCmdSubmit {sub : Submission} (h : sub.command.serviceAction.Observes) :
    Alike ButTxn (osdemuCmdSubmit env sub fuel) := by
  unfold osdemuCmdSubmit
  cases sub.refusal env with
  | some r => exact alike_pure _
  | none =>
    refine alike_bind (alike_modify fun _ _ h => h.butReply.received) fun _ =>
      alike_bind (butTxn_execServiceAction h) fun o => alike_bind ?_ fun _ => alike_pure _
    exact alike_ite (alike_ite (alike_bind (butTxn_outWrite _ _) fun _ => alike_pure _) (alike_pure _))
      (alike_pure _)

theorem answer_alike {r : Arrival} (h : r.sub.command.serviceAction.Observes) :
    Alike ButReply r.answer := by
  refine fun s t hst => lockstep_bind (lockstep_modify hst.received) fun _ s' t' h' =>
    lockstep_bind (butTxn_osdemuCmdSubmit h s' t' h') fun report s₁ t₁ h₁ => lockstep_get ?_
  obtain ⟨b, l, rfl⟩ := h₁
  exact lockstep_pure ⟨_, b, l, rfl⟩ _

/-- From states that differ in nothing else the answers are the same. -/
theorem answers_alike {rs : List Arrival} (h : ∀ r ∈ rs, r.sub.command.serviceAction.Observes) :
    Alike ButReply (answers rs) := by
  induction rs with
  | nil => exact alike_pure _
  | cons r rs ih =>
    obtain ⟨hr, hrs⟩ := List.forall_mem_cons.1 h
    exact alike_bind (answer_alike hr) fun _ => alike_bind (ih hrs) fun _ => alike_pure _

/-! ## When a GET stores -/

/-- `lazy_init_attr` comes to its stores: the object has a type, the name of its timestamps page is not
found, and SQLite takes the one it stores. -/
structure Target.Initialises (s : Target) (env : Env) (pid oid : UInt64) : Prop where
  typed : (getObjType env pid oid s).map Prod.fst ≠ some .illegal
  unnamed : (attrGetVal env pid oid USER_TMSTMP_PG 0 40 s).map (fun r => r.1.1) = some (.err .enoent)
  taken : env.dmsFails (.attrSet (attrRow pid oid USER_TMSTMP_PG 0 (userTmstmpPageName.read 0 40)))
    s.db = false

/-- The page wildcard is asked for, and what a list asks for before it is answered. -/
def Command.ComesToWildcard (cmd : Command) (env : Env) (s : Target) : Prop :=
  cmd.getsetCdbfmt = GETPAGE_SETVALUE ∧ getNtohl cmd.cdb 52 = GETALLATTR_PG ∧ getNtohl cmd.cdb 56 ≠ 0 ∧
    cmd.hasOutdata ∨
  cmd.getsetCdbfmt = GETLIST_SETLIST ∧ createCount cmd.oid 1 = 1 ∧ ∃ off len before number after c s',
    getAttrListCheck cmd = .use off len ∧
    getEntries cmd off len = before ++ (GETALLATTR_PG, number) :: after ∧
    (∀ e ∈ before, e.1 ≠ GETALLATTR_PG) ∧
    getAttrListLoop env cmd.pid cmd.oid true RTRVD_SET_ATTR_LIST 1 before
      ⟨cmd.outbuf + 8, cmd.allocLen - 8, 8⟩ s = some ((.ok, c), s')

/-- The GET ATTRIBUTES is carried out and comes to the stores of `lazy_init_attr`. -/
structure Submission.StoresNames (sub : Submission) (env : Env) (s : Target) : Prop where
  accepted : sub.refusal env = none
  noContinuations : sub.command.cdbContLen = 0
  comes : sub.command.ComesToWildcard env s
  initialises : s.Initialises env sub.command.pid sub.command.oid

/-- Both states are this one, but for the reply and what is kept of transactions. -/
def Around (s₀ s t : Target) : Prop := ButReply s₀ s ∧ ButReply s₀ t

variable {s₀ : Target}

theorem ButReply.refl (s : Target) : ButReply s s := ⟨s.out, s.inTxn, s.txnCalls, rfl⟩

theorem around_self (s : Target) : Around s s s := ⟨.refl s, .refl s⟩

section Around

instance : Detached (Around s₀) where
  reply _ _ := by
    refine alike_modify ?_
    rintro _ _ ⟨⟨o, b, l, rfl⟩, ⟨o', b', l', rfl⟩⟩
    exact ⟨⟨_, b, l, rfl⟩, ⟨_, b', l', rfl⟩⟩
  txn _ _ b b' l l' := by
    rintro ⟨⟨o, _, _, rfl⟩, ⟨o', _, _, rfl⟩⟩
    exact ⟨⟨o, b, l, rfl⟩, ⟨o', b', l', rfl⟩⟩

theorem around_reveals (s₀ : Target) (env : Env) (pid oid : UInt64) : Reveals (Around s₀) env pid oid := by
  refine .of_same ?_ ?_ <;> rintro _ _ ⟨⟨o, b, l, rfl⟩, ⟨o', b', l', rfl⟩⟩
  · rfl
  · exact ⟨rfl, rfl⟩

theorem around_seesPage (s₀ : Target) (page : UInt32) : SeesPage (Around s₀) page where
  ccap _ := by
    rintro _ _ ⟨⟨o, b, l, rfl⟩, ⟨o', b', l', rfl⟩⟩
    rfl
  times _ := by
    rintro _ _ ⟨⟨o, b, l, rfl⟩, ⟨o', b', l', rfl⟩⟩
    exact ⟨rfl, rfl⟩

/-- What a program answers is what it would answer in `s₀`. -/
theorem around_bind {α β : Type} {m : OsdM α} {f : α → OsdM β} (hm : Alike (Around s₀) m)
    (hf : ∀ a, (m s₀).map Prod.fst = some a → Alike (Around s₀) (f a)) : Alike (Around s₀) (m >>= f) := by
  intro s t hst
  have hbase : Lockstep (Around s₀) m m s₀ s := hm s₀ s ⟨.refl s₀, hst.1⟩
  cases hrun : m s₀ with
  | none =>
    unfold Lockstep at hbase
    rw [hrun] at hbase
    have hs : m s = none := by
      cases hms : m s with
      | none => rfl
      | some p =>
        rw [hms] at hbase
        exact hbase.elim
    have ht : Lockstep (Around s₀) m m s t := hm s t hst
    unfold Lockstep at ht ⊢
    rw [hs] at ht
    simp only [bind, StateT.bind, hs]
    cases hmt : m t with
    | none => trivial
    | some p =>
      rw [hmt] at ht
      exact ht.elim
  | some p =>
    obtain ⟨a, s₁⟩ := p
    obtain ⟨s', hs, -⟩ := hbase.run hrun
    obtain ⟨t', ht, hst'⟩ := (hm s t hst).run hs
    unfold Lockstep
    rw [bind_of_some hs, bind_of_some ht]
    exact hf a (by rw [hrun]; rfl) s' t' hst'

theorem around_refused {st : Dms} (h : env.dmsFails st s₀.db = true) :
    Alike (Around s₀) (dbExecDms env st) := by
  rintro _ _ ⟨⟨o, b, l, rfl⟩, ⟨o', b', l', rfl⟩⟩
  refine lockstep_get (lockstep_ite Iff.rfl (fun _ => lockstep_pure ?_ _) fun hno => absurd h hno)
  exact ⟨⟨o, b, l, rfl⟩, ⟨o', b', l', rfl⟩⟩

/-- The lazy initialisation that does not come to its stores. -/
theorem around_lazyInitAttr {page : UInt32} (htype :
    (getObjType env pid oid s₀).map Prod.fst ≠ some .illegal)
    (h : page = GETALLATTR_PG → ¬ s₀.Initialises env pid oid) (number : UInt32) :
    Alike (Around s₀) (lazyInitAttr env pid oid page number) := by
  by_cases hpage : page = GETALLATTR_PG
  · refine alike_guard (around_bind ((around_reveals s₀ env pid oid).attrGetVal _ _ _) fun r hr =>
      alike_guard
      (alike_ite_of (fun _ => alike_pure _) fun henoent => ?_))
    have hunnamed : (attrGetVal env pid oid USER_TMSTMP_PG 0 40 s₀).map (fun r => r.1.1) =
        some (.err .enoent) := by
      obtain ⟨q, hq, rfl⟩ := Option.map_eq_some_iff.1 hr
      rw [hq]
      exact congrArg some (Decidable.not_not.1 henoent)
    have hfails : env.dmsFails (.attrSet (attrRow pid oid USER_TMSTMP_PG 0
        (userTmstmpPageName.read 0 40))) s₀.db
        = true := by
      by_contra hno
      exact h hpage ⟨htype, hunnamed, by simpa using hno⟩
    refine around_bind (around_refused hfails) fun ret hret => ?_
    have hret : ret = .err .osdError := by
      obtain ⟨q, hq, rfl⟩ := Option.map_eq_some_iff.1 hret
      have hrun : dbExecDms env (.attrSet (attrRow pid oid USER_TMSTMP_PG 0
          (userTmstmpPageName.read 0 40))) s₀
          = some (.err .osdError, s₀) := by
        show (if _ then _ else _ : OsdM Ret) s₀ = _
        rw [if_pos hfails]
        rfl
      exact congrArg Prod.fst (Option.some.inj (hq.symm.trans hrun))
    rw [hret]
    exact alike_pure _
  · rw [lazyInitAttr_idle hpage]
    exact alike_pure _

theorem around_osdGetattrList {page : UInt32} (h : page = GETALLATTR_PG → ¬ s₀.Initialises env pid oid)
    (number : UInt32) (pos : Nat) (outlen : UInt32) (listfmt : UInt8) :
    Alike (Around s₀) (osdGetattrList env pid oid page number pos outlen true listfmt) := by
  have hreveals := around_reveals s₀ env pid oid
  by_cases htype : (getObjType env pid oid s₀).map Prod.fst = some .illegal
  · refine around_bind hreveals.getObjType fun type hrun =>
      alike_ite_of (fun _ => alike_pure _) fun hne => ?_
    exact absurd (Option.some.inj (hrun.symm.trans htype)) hne
  · exact hreveals.osdGetattrList (around_seesPage s₀ page) (around_lazyInitAttr htype h number)
      pos outlen listfmt

theorem around_osdGetattrPage {page : UInt32} (h : page = GETALLATTR_PG → ¬ s₀.Initialises env pid oid)
    (pos : Nat) (outlen : UInt64) : Alike (Around s₀)
    (osdGetattrPage env pid oid page pos outlen true) := by
  have hreveals := around_reveals s₀ env pid oid
  by_cases htype : (getObjType env pid oid s₀).map Prod.fst = some .illegal
  · refine around_bind hreveals.getObjType fun type hrun =>
      alike_ite_of (fun _ => alike_pure _) fun hne => ?_
    exact absurd (Option.some.inj (hrun.symm.trans htype)) hne
  · exact hreveals.osdGetattrPage (around_seesPage s₀ page) (around_lazyInitAttr htype h 0) pos outlen

/-- A list is gone over part by part. -/
theorem getAttrListLoop_append {isembedded : Bool} {listfmt : UInt8} {numoid : UInt16}
    (l l' : List (UInt32 × UInt32)) (c : GetCursor) :
    getAttrListLoop env pid oid isembedded listfmt numoid (l ++ l') c =
      getAttrListLoop env pid oid isembedded listfmt numoid l c >>= fun r =>
        if r.1 ≠ .ok then pure r else getAttrListLoop env pid oid isembedded listfmt numoid l' r.2 := by
  induction l generalizing c with
  | nil => rfl
  | cons e l ih =>
    obtain ⟨page, number⟩ := e
    simp only [List.cons_append, getAttrListLoop, bind_assoc]
    refine congrArg (_ >>= ·) (funext fun r => ?_)
    by_cases hr : r.1 = .ok
    · simp only [hr, ne_eq, not_true_eq_false, if_false]
      exact ih _
    · simp only [ne_eq, hr, not_false_eq_true, if_true, pure_bind]

theorem around_getAttrListLoop {l : List (UInt32 × UInt32)} {listfmt : UInt8} {numoid : UInt16}
    (h : ∀ e ∈ l, ∀ k < createCount oid numoid, e.1 = GETALLATTR_PG →
      ¬ s₀.Initialises env pid (oid + UInt64.ofNat k)) (c : GetCursor) :
    Alike (Around s₀) (getAttrListLoop env pid oid true listfmt numoid l c) :=
  alike_getAttrListLoop _ (fun e he k hk _ _ => around_osdGetattrList (h e he k hk) _ _ _ _) c

/-- The list is not answered up to the first page wildcard. -/
theorem around_stopped {before after : List (UInt32 × UInt32)} {listfmt : UInt8}
    {numoid : UInt16} {c : GetCursor}
    (hbefore : ∀ e ∈ before, e.1 ≠ GETALLATTR_PG)
    (hstop : ∀ c' s', getAttrListLoop env pid oid true listfmt numoid before c s₀ ≠ some ((.ok, c'), s')) :
    Alike (Around s₀) (getAttrListLoop env pid oid true listfmt numoid (before ++ after) c) := by
  rw [getAttrListLoop_append]
  refine around_bind (around_getAttrListLoop (fun e he _ _ hpage => absurd hpage (hbefore e he)) c)
    fun r hr => ?_
  obtain ⟨⟨⟨ret, c'⟩, s'⟩, hrun, rfl⟩ := Option.map_eq_some_iff.1 hr
  refine alike_ite_of (fun _ => alike_pure _) fun hok => absurd ?_ (hstop c' s')
  obtain rfl : ret = .ok := Decidable.not_not.1 hok
  exact hrun

theorem split_first {l : List (UInt32 × UInt32)} (h : ∃ e ∈ l, e.1 = GETALLATTR_PG) :
    ∃ before number after, l = before ++ (GETALLATTR_PG, number) :: after ∧ ∀ e ∈ before,
      e.1 ≠ GETALLATTR_PG := by
  induction l with
  | nil =>
    obtain ⟨e, he, -⟩ := h
    cases he
  | cons e l ih =>
    by_cases he : e.1 = GETALLATTR_PG
    · exact ⟨[], e.2, l, by rw [← he]; rfl, by simp⟩
    · obtain ⟨e', he', hpage⟩ := h
      have hmem : e' ∈ l := (List.mem_cons.1 he').resolve_left fun heq => he (heq ▸ hpage)
      obtain ⟨before, number, after, rfl, hbefore⟩ := ih ⟨e', hmem, hpage⟩
      refine ⟨e :: before, number, after, rfl, fun x hx => ?_⟩
      rcases List.mem_cons.1 hx with rfl | hx
      · exact he
      · exact hbefore x hx

/-- `get_attributes` that does not come to the stores. -/
theorem around_getAttributes (h : ¬ (cmd.ComesToWildcard env s₀ ∧ s₀.Initialises env cmd.pid cmd.oid))
    (used : UInt32) :
    Alike (Around s₀) (getAttributes env cmd cmd.pid cmd.oid 1 used) := by
  refine alike_guard (alike_ite_of (fun hf => ?_) fun _ => alike_ite_of (fun hf => ?_) fun _ =>
    alike_ite (alike_pure _) (alike_pure _))
  · refine alike_ite_of (fun _ => alike_pure _) fun hasked =>
      alike_guard (alike_ite_of (fun _ => alike_pure _)
      fun hout => alike_bind (around_osdGetattrPage
        (fun hpage hinit => h ⟨.inl ⟨hf, hpage, ?_, ?_⟩, hinit⟩) _ _)
        fun _ => alike_pure _)
    · exact fun hzero => hasked (.inr hzero)
    · exact Decidable.not_not.1 hout
  · refine alike_getAttrList (fun off len hc => ?_) used
    show Alike _ (getAttrListLoop env cmd.pid cmd.oid true RTRVD_SET_ATTR_LIST 1 (getEntries cmd off len) _)
    have hid : ∀ k < createCount cmd.oid 1, createCount cmd.oid 1 = 1 ∧
        cmd.oid + UInt64.ofNat k = cmd.oid := by
      intro k hk
      rw [createCount_one] at hk ⊢
      split at hk
      · exact absurd hk (Nat.not_lt_zero k)
      · next hne =>
        obtain rfl : k = 0 := by omega
        exact ⟨if_neg hne, UInt64.add_zero _⟩
    by_cases hinit : s₀.Initialises env cmd.pid cmd.oid ∧ createCount cmd.oid 1 = 1 ∧
        ∃ e ∈ getEntries cmd off len, e.1 = GETALLATTR_PG
    · obtain ⟨hinit, hone, hwild⟩ := hinit
      obtain ⟨before, number, after, heq, hbefore⟩ := split_first hwild
      rw [heq]
      refine around_stopped hbefore fun c' s' hrun => h ⟨.inr ⟨hf, hone, ?_⟩, hinit⟩
      exact ⟨off, len, before, number, after, c', s', hc, heq, hbefore, hrun⟩
    · refine around_getAttrListLoop (fun e he k hk hpage hi => hinit ?_) _
      obtain ⟨hone, hoid⟩ := hid k hk
      exact ⟨hoid ▸ hi, hone, e, he, hpage⟩

theorem around_execGetAttributes (h : ¬ (cmd.ComesToWildcard env s₀ ∧ s₀.Initialises env cmd.pid cmd.oid))
    (hset : cmd.SetsNothing) : Alike (Around s₀) (execGetAttributes env cmd fuel) := by
  refine alike_bind (around_getAttributes h 0) fun _ => alike_guard ?_
  rw [setAttributes_nothing hset (by decide)]
  exact alike_pure _

theorem around_execServiceAction (haction : cmd.serviceAction = .getAttributes) (hset : cmd.SetsNothing)
    (h : cmd.cdbContLen = 0 → ¬ (cmd.ComesToWildcard env s₀ ∧ s₀.Initialises env cmd.pid cmd.oid)) :
    Alike (Around s₀) (execServiceAction env cmd fuel) := by
  have hdispatch : ∀ ds, dispatch env cmd ds fuel =
      noContinuations cmd cmd.pid cmd.oid (execGetAttributes env cmd fuel) := fun ds => by
    unfold dispatch
    rw [haction]
  unfold execServiceAction
  refine alike_ite_of (fun hlen => ?_) fun hlen => ?_
  · rw [hdispatch]
    exact alike_guard (around_execGetAttributes (h hlen) hset)
  · cases parseCdbContinuationSegment cmd.indata cmd.cdbContLen cmd.action cmd.pid cmd.oid fuel with
    | none => exact alike_never
    | some r =>
      obtain ⟨ret, ds⟩ := r
      cases ret with
      | ok =>
        dsimp only
        rw [hdispatch, noContinuations, if_pos hlen]
        exact alike_pure _
      | err e => exact alike_pure _
      | sense x => exact alike_pure _

/-- **A GET that does not come to the stores leaves the device as it was**, but for the reply and what
is kept of transactions. -/
theorem osdemuCmdSubmit_stores_nothing {sub : Submission}
    (haction : sub.command.serviceAction = .getAttributes)
    (hset : sub.command.SetsNothing) (h : ¬ sub.StoresNames env s) :
    Ends (osdemuCmdSubmit env sub fuel) s fun _ s' => ButReply s s' := by
  have halike : Alike (Around s) (osdemuCmdSubmit env sub fuel) := by
    unfold osdemuCmdSubmit
    cases hrefusal : sub.refusal env with
    | some r => exact alike_pure _
    | none =>
      have hreceived : Alike (Around s) (modify Target.received : OsdM PUnit) := by
        refine alike_modify ?_
        rintro _ _ ⟨⟨o, b, l, rfl⟩, ⟨o', b', l', rfl⟩⟩
        exact ⟨⟨[], b, [], rfl⟩, ⟨[], b', [], rfl⟩⟩
      refine alike_bind hreceived fun _ => alike_bind
        (around_execServiceAction haction hset fun hlen hcomes =>
        h ⟨hrefusal, hlen, hcomes.1, hcomes.2⟩) fun o => alike_bind ?_ fun _ => alike_pure _
      exact alike_ite (alike_ite (alike_bind (Detached.reply _ _) fun _ => alike_pure _) (alike_pure _))
        (alike_pure _)
  intro report s' hrun
  obtain ⟨_, -, hs'⟩ := (halike s s (around_self s)).run hrun
  exact hs'.1

end Around

/-! ## The later answers -/

/-- Later commands answer as without a GET that does not come to the stores. -/
theorem answers_unseen {sub : Submission} (haction : sub.command.serviceAction = .getAttributes)
    (hset : sub.command.SetsNothing) (h : ¬ sub.StoresNames env s) {later : List Arrival}
    (hlater : ∀ r ∈ later, r.sub.command.serviceAction.Observes) :
    Ends (osdemuCmdSubmit env sub fuel) s fun _ s' =>
      (answers later s').map Prod.fst = (answers later s).map Prod.fst := by
  intro report s' hrun
  have hsame : Lockstep ButReply (answers later) (answers later) s s' :=
    answers_alike hlater s s' (osdemuCmdSubmit_stores_nothing haction hset h report s' hrun)
  exact hsame.value.symm

end OsdTarget
