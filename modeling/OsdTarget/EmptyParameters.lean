import OsdTarget.Base.Lockstep
import OsdTarget.DataContinuations
import OsdTarget.Lifecycle
import OsdTarget.Statuses

/-!
# Commands without attributes

A command whose attribute parameters ask for nothing does what its operation of `osd.c` does.  There are
two exceptions.  `cdb_create` has a test of its own: several objects with the page format are refused unless
the page is that of the current command, also where there is no page at all.  And `cdb_create_collection`
hands a buffer of its own to its operation, so that a refusal announces sense data that are not there.
-/

namespace OsdTarget

open Base

variable {env : Env} {s t : Target} {cmd : Command} {ds : List ContDescriptor} {fuel : Nat} {pid oid : UInt64}

/-! ## Parameters that ask for nothing -/

/-- No page to get and none to set, or two empty lists. -/
def Command.NoParameters (cmd : Command) : Prop :=
  (cmd.getsetCdbfmt = GETPAGE_SETVALUE ∧ getNtohl cmd.cdb 52 = 0 ∧ getNtohl cmd.cdb 64 = 0) ∨
  (cmd.getsetCdbfmt = GETLIST_SETLIST ∧ getNtohl cmd.cdb 52 = 0 ∧ getNtohl cmd.cdb 68 = 0)

instance (cmd : Command) : Decidable cmd.NoParameters := by
  unfold Command.NoParameters
  infer_instance

/-- No page to set, or an empty list. -/
def Command.SetsNothing (cmd : Command) : Prop :=
  (cmd.getsetCdbfmt = GETPAGE_SETVALUE ∧ getNtohl cmd.cdb 64 = 0) ∨
  (cmd.getsetCdbfmt = GETLIST_SETLIST ∧ getNtohl cmd.cdb 68 = 0)

instance (cmd : Command) : Decidable cmd.SetsNothing := by
  unfold Command.SetsNothing
  infer_instance

theorem Command.NoParameters.setsNothing (h : cmd.NoParameters) : cmd.SetsNothing :=
  h.imp (fun h => ⟨h.1, h.2.2⟩) fun h => ⟨h.1, h.2.2⟩

theorem setAttributes_nothing (h : cmd.SetsNothing) {numoid : UInt32} (hn : ¬ numoid < 1) :
    setAttributes env cmd pid oid numoid fuel = pure .ok := by
  unfold setAttributes
  rw [if_neg hn]
  rcases h with ⟨hf, hset⟩ | ⟨hf, hset⟩
  · rw [hf, if_pos rfl]
    unfold setAttrValue setAttrValueCheck
    rw [if_pos hset]
    rfl
  · rw [hf, if_neg (by decide), if_pos rfl]
    unfold setAttrList setListCheck
    dsimp only
    rw [if_pos hset]
    rfl

theorem getAttributes_nothing (h : cmd.NoParameters) {numoid : UInt16} (hn : ¬ numoid < 1) (used : UInt32) :
    getAttributes env cmd pid oid numoid used = pure (.ok, used) := by
  unfold getAttributes
  rw [if_neg hn]
  rcases h with ⟨hf, hget, -⟩ | ⟨hf, hget, -⟩
  · rw [hf, if_pos rfl]
    unfold getAttrPage
    dsimp only
    rw [if_pos (.inl hget)]
  · rw [hf, if_neg (by decide), if_pos rfl]
    unfold getAttrList getAttrListCheck getListCheck
    dsimp only
    rw [if_neg fun h => h.1 hget, if_pos hget]

theorem applyAttributes_nothing (h : cmd.NoParameters) {numoid : UInt16} (hn : ¬ numoid < 1) (used : UInt32) :
    applyAttributes env cmd pid oid numoid fuel used = pure (.ok, used) := by
  have hn' : ¬ numoid.toUInt32 < 1 := by
    rw [UInt32.lt_iff_toNat_lt, UInt16.toNat_toUInt32]
    rwa [UInt16.lt_iff_toNat_lt] at hn
  unfold applyAttributes
  rw [setAttributes_nothing h.setsNothing hn']
  exact getAttributes_nothing h hn used

/-! ## The operations -/

/-- The operation of `osd.c` behind a command that takes attribute parameters, with the ids, lengths and
data of the CDB. -/
def Command.operation (env : Env) (cmd : Command) (ds : List ContDescriptor) :
    Option (OsdM (Ret × Option UInt64)) :=
  let pid := cmd.pid
  let oid := cmd.oid
  let len := getNtohll cmd.cdb 32
  let offset := getNtohll cmd.cdb 40
  match cmd.serviceAction with
  | .create => some (noOutput (osdCreate env pid oid (getNtohs cmd.cdb 32)))
  | .createCollection => some (noOutput (osdCreateCollection env pid oid))
  | .createPartition => some (noOutput (osdCreatePartition env pid))
  | .append => some (noOutput (contigAppend env pid oid len (if cmd.hasIndata then some cmd.indata else none)))
  | .clear => some (noOutput (osdClear env pid oid len offset))
  | .write =>
    let (sglist, indata, ddt) := writeArguments env cmd ds
    some (noOutput (osdWrite env pid oid len offset indata sglist ddt))
  | .read => some (osdReadDevice env pid oid len offset (sgListOf env cmd ds))
  | .punch => some (noOutput (osdPunch env pid oid len offset))
  | .cas => some (osdCas env pid oid (getNtohll cmd.indata 0) (getNtohll cmd.indata 8) offset.toNat)
  | .fa => some (osdFa env pid oid (getNtohll cmd.indata 0) offset.toNat)
  | .remove => some (noOutput (osdRemove env pid oid))
  | _ => none

/-- What the operation takes is there: the handler's own tests of the CDB and the buffers pass. -/
def Command.Complete (cmd : Command) (ds : List ContDescriptor) : Prop :=
  match cmd.serviceAction with
  | .write => ¬ cmd.inlen < getNtohll cmd.cdb 32
  | .append => ¬ cmd.inlen < getNtohll cmd.cdb 32 ∧ cmd.cdbContLen = 0
  | .read => otherDescriptors ds = false
  | .cas | .fa => atomicArguments cmd = true
  | _ => cmd.cdbContLen = 0

instance (cmd : Command) (ds : List ContDescriptor) : Decidable (cmd.Complete ds) := by
  unfold Command.Complete
  split <;> infer_instance

/-- The status: the length of the sense data, and as much of `cmd->sense`. -/
def Outcome.status (o : Outcome) : Int × List UInt8 := (o.ret.senselen, o.senseBuf.take o.ret.senselen.toNat)

/-- The handler and the operation end with the same status, tables and data files, or neither returns.  The
operation builds its sense data in `cmd->sense`. -/
def SameResult (m : OsdM Outcome) (op : OsdM (Ret × Option UInt64)) (s : Target) : Prop :=
  (m s).map (fun x => (x.1.status, x.2.db, x.2.files)) =
    (op s).map fun x => ((Outcome.of x.1.1 0 0).status, x.2.db, x.2.files)

theorem status_sense (x : Sense) (used : UInt64) (getUsed : UInt32) :
    (Outcome.of (.sense x) used getUsed).status = ((x.bytes.length : Int), x.bytes) :=
  Prod.ext rfl List.take_left

/-- What the test of the descriptors has built is announced by no status. -/
theorem status_afterTest (ret : Ret) (used : UInt64) (getUsed : UInt32) :
    ((Outcome.of ret used getUsed).afterTest cmd ds).status = (Outcome.of ret 0 0).status := by
  unfold Outcome.afterTest
  split
  · cases ret with
    | ok => rfl
    | err e =>
      have hlen : (Ret.err e).senselen.toNat = 0 := by cases e <;> rfl
      refine Prod.ext rfl ?_
      show List.take (Ret.err e).senselen.toNat _ = List.take (Ret.err e).senselen.toNat _
      rw [hlen, List.take_zero, List.take_zero]
    | sense x => rfl
  · rfl

theorem Sense.key_inj {x y : Sense} (h : x.bytes = y.bytes) : x.key = y.key := by
  have hkey : ∀ z : Sense, z.bytes[1]? = some z.key := fun z => by
    unfold Sense.bytes
    split <;> rfl
  exact Option.some.inj ((hkey x).symm.trans ((congrArg (·[1]?) h).trans (hkey y)))

/-- Whether the sense data are there is seen in the status. -/
theorem Outcome.Agrees.of_status {o o' : Outcome} (h : o.Agrees) (hstatus : o'.status = o.status) :
    o'.Agrees := by
  obtain ⟨hlen, hbytes⟩ := Prod.ext_iff.1 hstatus
  have hlen : o'.ret.senselen = o.ret.senselen := hlen
  have hbytes : o'.senseBuf.take o'.ret.senselen.toNat = o.senseBuf.take o.ret.senselen.toNat := hbytes
  exact ⟨hlen ▸ h.nonneg, fun hpos => hbytes ▸ h.complete (hlen ▸ hpos)⟩

theorem sameResult_of_eq {m : OsdM Outcome} {op : OsdM (Ret × Option UInt64)} {f : Ret × Option UInt64 → Outcome}
    (hm : m = op >>= fun r => pure (f r)) (hf : ∀ r, (f r).status = (Outcome.of r.1 0 0).status) :
    SameResult m op s := by
  unfold SameResult
  rw [hm]
  show ((op s).bind fun x => some (f x.1, x.2)).map _ = _
  cases op s with
  | none => rfl
  | some x => exact congrArg (fun r => some (r, x.2.db, x.2.files)) (hf x.1)

theorem sameResult_noOutput {m : OsdM Outcome} {op : OsdM Ret} {f : Ret → Outcome}
    (hm : m = op >>= fun r => pure (f r)) (hf : ∀ r, (f r).status = (Outcome.of r 0 0).status) :
    SameResult m (noOutput op) s := by
  unfold SameResult
  rw [hm]
  show ((op s).bind fun x => some (f x.1, x.2)).map _ = ((op s).bind fun x => some ((x.1, none), x.2)).map _
  cases op s with
  | none => rfl
  | some x => exact congrArg (fun r => some (r, x.2.db, x.2.files)) (hf x.1)

theorem withAttributes_nothing (h : cmd.NoParameters) (m : OsdM (Ret × Option UInt64)) :
    withAttributes env cmd pid oid fuel m = m >>= fun r => pure (Outcome.of r.1 (r.2.getD 0) 0) := by
  unfold withAttributes
  rw [applyAttributes_nothing h (by decide)]
  refine congrArg (m >>= ·) (funext fun r => ?_)
  obtain ⟨ret, used⟩ := r
  by_cases hok : ret = .ok
  · subst hok
    rfl
  · exact if_pos hok

theorem afterAttributes_nothing (h : cmd.NoParameters) (m : OsdM (Ret × Option UInt64)) :
    afterAttributes env cmd pid oid fuel m = m >>= fun r => pure (Outcome.of r.1 (r.2.getD 0) 0) := by
  unfold afterAttributes
  rw [applyAttributes_nothing h (by decide)]
  rfl

theorem attributesOrUndo_nothing (h : cmd.NoParameters) {numoid : UInt16} (hn : ¬ numoid < 1) (used : UInt32)
    (undo : OsdM Unit) : attributesOrUndo env cmd pid oid numoid fuel used undo = pure (.ok, used) := by
  unfold attributesOrUndo
  rw [applyAttributes_nothing h hn]
  rfl

theorem cdbRead_nothing (h : cmd.NoParameters) (hds : otherDescriptors ds = false) :
    cdbRead env cmd ds fuel = osdReadDevice env cmd.pid cmd.oid (getNtohll cmd.cdb 32) (getNtohll cmd.cdb 40)
      (sgListOf env cmd ds) >>= fun r => pure (Outcome.of r.1 (r.2.getD 0) 0) := by
  unfold cdbRead
  dsimp only
  rw [hds, if_neg (by decide), applyAttributes_nothing h (by decide)]
  refine congrArg (osdReadDevice env cmd.pid cmd.oid _ _ _ >>= ·) (funext fun r => ?_)
  obtain ⟨ret, used⟩ := r
  exact ite_self _

/-! ## CREATE runs in a transaction -/

/-- The same device but for what is kept of transactions. -/
def ButTxn (s t : Target) : Prop := ∃ b l, t = { s with inTxn := b, txnCalls := l }

theorem ButTxn.symm (h : ButTxn s t) : ButTxn t s := by
  obtain ⟨b, l, rfl⟩ := h
  exact ⟨s.inTxn, s.txnCalls, rfl⟩

theorem ButTxn.trans {v : Target} (h : ButTxn s t) (h' : ButTxn t v) : ButTxn s v := by
  obtain ⟨b, l, rfl⟩ := h
  obtain ⟨b', l', rfl⟩ := h'
  exact ⟨b', l', rfl⟩

theorem ButTxn.lookup (h : ButTxn s t) : t.lookup env pid oid = s.lookup env pid oid := by
  obtain ⟨b, l, rfl⟩ := h
  rfl

section Alike

theorem butTxn_setCcap (c : Ccap) : Alike ButTxn (setCcap c) :=
  alike_modify fun _ _ ⟨b, l, h⟩ => ⟨b, l, by rw [h]⟩

theorem butTxn_invalidateCache : Alike ButTxn invalidateCache :=
  alike_modify fun _ _ ⟨b, l, h⟩ => ⟨b, l, by rw [h]⟩

theorem butTxn_query {α : Type} (q : Query) (init : α) (answer : Db → α) :
    Alike ButTxn (dbExecQuery env q init answer) := by
  rintro s _ ⟨b, l, rfl⟩
  exact lockstep_get (lockstep_ite Iff.rfl (fun _ => lockstep_pure ⟨b, l, rfl⟩ _)
    fun _ => lockstep_pure ⟨b, l, rfl⟩ _)

theorem butTxn_dms (st : Dms) : Alike ButTxn (dbExecDms env st) := by
  rintro s _ ⟨b, l, rfl⟩
  refine lockstep_get (lockstep_ite Iff.rfl (fun _ => lockstep_pure ⟨b, l, rfl⟩ _) fun _ => ?_)
  dsimp only
  cases st.run s.db with
  | none => exact lockstep_pure ⟨b, l, rfl⟩ _
  | some d => exact lockstep_bind (lockstep_set ⟨b, l, rfl⟩) fun _ _ _ h => lockstep_pure h _

theorem butTxn_unlinkFile (pid oid : UInt64) : Alike ButTxn (unlinkFile env pid oid) := by
  rintro s _ ⟨b, l, rfl⟩
  exact lockstep_get (lockstep_ite Iff.rfl (fun _ => lockstep_pure ⟨b, l, rfl⟩ _) fun _ =>
    lockstep_bind (lockstep_set ⟨b, l, rfl⟩) fun _ _ _ h => lockstep_pure h _)

theorem butTxn_osdCreateDatafile (pid oid : UInt64) : Alike ButTxn (osdCreateDatafile env pid oid) := by
  rintro s _ ⟨b, l, rfl⟩
  exact lockstep_get (lockstep_ite Iff.rfl (fun _ => lockstep_pure ⟨b, l, rfl⟩ _) fun _ =>
    lockstep_ite Iff.rfl (fun _ => lockstep_pure ⟨b, l, rfl⟩ _) fun _ =>
    lockstep_ite Iff.rfl (fun _ => lockstep_pure ⟨b, l, rfl⟩ _) fun _ =>
    lockstep_bind (lockstep_set ⟨b, l, rfl⟩) fun _ _ _ h => lockstep_pure h _)

theorem butTxn_osdRemove (pid oid : UInt64) : Alike ButTxn (osdRemove env pid oid) :=
  alike_guard (alike_bind butTxn_invalidateCache fun _ => alike_bind (butTxn_unlinkFile _ _) fun _ =>
    alike_bind (butTxn_dms _) fun _ => alike_guard (alike_bind (butTxn_dms _) fun _ =>
    alike_guard (alike_bind (butTxn_dms _) fun _ => alike_guard (alike_bind (butTxn_setCcap _) fun _ =>
    alike_pure _))))

theorem butTxn_osdRemoveTmpObjects (n : Nat) (oid : UInt64) : Alike ButTxn (osdRemoveTmpObjects env pid n oid) := by
  induction n generalizing oid with
  | zero => exact alike_pure _
  | succ n ih => exact alike_bind (butTxn_osdRemove _ _) fun _ => ih _

theorem butTxn_createLoop (oid : UInt64) (n : Nat) (i : UInt64) : Alike ButTxn (createLoop env pid oid n i) := by
  induction n generalizing i with
  | zero => exact alike_pure _
  | succ n ih =>
    have hback : ∀ k, Alike ButTxn (osdRemoveTmpObjects env pid k oid >>= fun _ => pure (some i)) :=
      fun k => alike_bind (butTxn_osdRemoveTmpObjects _ _) fun _ => alike_pure _
    exact alike_bind (butTxn_dms _) fun _ => alike_ite (hback _)
      (alike_bind (butTxn_osdCreateDatafile _ _) fun _ =>
        alike_ite (alike_bind (butTxn_dms _) fun _ => hback _) (ih _))

theorem butTxn_createFrom (requested oid : UInt64) (numoid : UInt16) :
    Alike ButTxn (createFrom env pid requested oid numoid) := by
  refine alike_bind (butTxn_createLoop _ _ _) fun failed => ?_
  cases failed with
  | some _ => exact alike_bind butTxn_invalidateCache fun _ => alike_pure _
  | none => exact alike_bind (alike_modify fun _ _ ⟨b, l, h⟩ => ⟨b, l, by rw [h]⟩) fun _ =>
      alike_bind (butTxn_setCcap _) fun _ => alike_pure _

theorem butTxn_chooseId (lb : UInt64) : Alike ButTxn (chooseId env pid lb) := by
  have hfirst : ∀ oid : UInt64, Alike ButTxn (if oid = 1 then
      modify (fun s => { s with ic := { s.ic with nextId := lb + 1 } }) >>= fun _ => pure (some lb)
      else pure (some oid) : OsdM (Option UInt64)) :=
    fun _ => alike_ite (alike_bind (alike_modify fun _ _ h => by obtain ⟨b, l, rfl⟩ := h; exact ⟨b, l, rfl⟩)
      fun _ => alike_pure _) (alike_pure _)
  rintro s _ ⟨b, l, rfl⟩
  refine lockstep_get (lockstep_ite Iff.rfl (fun _ => ?_) fun _ => ?_)
  · exact lockstep_bind (lockstep_set ⟨b, l, rfl⟩) fun _ s' t' h => hfirst s.ic.nextId s' t' h
  · refine lockstep_bind (butTxn_query _ _ _ _ _ ⟨b, l, rfl⟩) fun r s' t' h => ?_
    obtain ⟨ret, oid⟩ := r
    cases ret with
    | ok => exact lockstep_bind (lockstep_modify (by obtain ⟨b, l, rfl⟩ := h; exact ⟨b, l, rfl⟩)) fun _ s' t' h =>
        hfirst oid s' t' h
    | err _ => exact lockstep_pure h none
    | sense _ => exact lockstep_pure h none

theorem butTxn_takeRequestedId (requested : UInt64) : Alike ButTxn (takeRequestedId env pid requested) :=
  alike_bind (butTxn_query _ _ _) fun _ => alike_guard (alike_bind butTxn_invalidateCache fun _ => alike_pure _)

/-- `osd_create` does not see the transaction. -/
theorem butTxn_osdCreate (requested : UInt64) (numoid : UInt16) :
    Alike ButTxn (osdCreate env pid requested numoid) := by
  refine alike_guard (alike_guard (alike_bind (butTxn_query _ _ _) fun r => alike_guard (alike_guard
    (alike_ite (alike_bind (butTxn_chooseId _) fun picked => ?_) (alike_bind (butTxn_takeRequestedId _) fun taken =>
      alike_guard (butTxn_createFrom _ _ _))))))
  cases picked with
  | none => exact alike_bind butTxn_invalidateCache fun _ => alike_pure _
  | some oid => exact butTxn_createFrom _ _ _

end Alike

theorem withinTxn_sameOutcome {α : Type} {m : OsdM α} (hm : Alike ButTxn m) :
    Lockstep ButTxn m (withinTxn env m) s s := by
  obtain ⟨r, s₁, hbegin, hs₁⟩ : ∃ r s₁, osdBeginTxn env s = some (r, s₁) ∧ ButTxn s s₁ :=
    Ends.of_halts (osdBeginTxn_ends fun _ b l => ⟨b, l, rfl⟩) halts_osdBeginTxn
  have hrun : withinTxn env m s = (m >>= fun a => osdEndTxn env >>= fun _ => pure a) s₁ := bind_of_some hbegin
  have hend : Lockstep ButTxn (m >>= pure) (m >>= fun a => osdEndTxn env >>= fun _ => pure a) s s₁ := by
    refine lockstep_bind (hm s s₁ hs₁) fun a s' t' ⟨b, l, ht⟩ => ?_
    subst ht
    obtain ⟨r, u, hfinish, hu⟩ : ∃ r u, osdEndTxn env { s' with inTxn := b, txnCalls := l } = some (r, u) ∧
        ButTxn s' u := Ends.of_halts (osdEndTxn_ends fun _ b l => ⟨b, l, rfl⟩) halts_osdEndTxn
    show SameOutcome _ (some (a, s')) ((osdEndTxn env >>= fun _ => pure a) _)
    rw [bind_of_some hfinish]
    exact ⟨rfl, hu⟩
  unfold Lockstep at hend ⊢
  rw [hrun]
  rwa [bind_pure] at hend

/-- The early test of `cdb_create` aside. -/
theorem cdbCreate_nothing (h : cmd.NoParameters)
    (hearly : ¬ (1 < getNtohs cmd.cdb 32 ∧ cmd.getsetCdbfmt = GETPAGE_SETVALUE ∧
      getNtohl cmd.cdb 52 ≠ CUR_CMD_ATTR_PG)) (used : UInt32) :
    cdbCreate env cmd fuel used = withinTxn env (osdCreate env cmd.pid cmd.oid (getNtohs cmd.cdb 32)) >>=
      fun ret => pure (ret, used) := by
  have hnum : ∀ n : UInt16, ¬ (if n = 0 then 1 else n) < 1 := by
    intro n
    split
    · decide
    · next hn =>
      rw [UInt16.lt_iff_toNat_lt]
      have hpos : n.toNat ≠ 0 := fun h => hn (UInt16.toNat_inj.1 h)
      show ¬ n.toNat < 1
      omega
  unfold cdbCreate
  dsimp only
  rw [if_neg hearly]
  refine congrArg (withinTxn env _ >>= ·) (funext fun ret => ?_)
  by_cases hok : ret = .ok
  · subst hok
    funext s
    show attributesOrUndo env cmd _ _ _ fuel used _ s = _
    rw [attributesOrUndo_nothing h (hnum _)]
  · exact if_pos hok

theorem sameResult_of_sameOutcome {op m : OsdM Ret} {f : Ret → Outcome} (hm : Lockstep ButTxn op m s s)
    (hf : ∀ r, (f r).status = (Outcome.of r 0 0).status) :
    SameResult (m >>= fun r => pure (f r)) (noOutput op) s := by
  unfold SameResult
  show ((m s).bind fun x => some (f x.1, x.2)).map _ = ((op s).bind fun x => some ((x.1, none), x.2)).map _
  unfold Lockstep at hm
  cases hop : op s with
  | none =>
    cases hms : m s with
    | none => rfl
    | some y =>
      rw [hop, hms] at hm
      exact hm.elim
  | some x =>
    cases hms : m s with
    | none =>
      rw [hop, hms] at hm
      exact hm.elim
    | some y =>
      rw [hop, hms] at hm
      obtain ⟨ret, u⟩ := x
      obtain ⟨ret', v⟩ := y
      obtain ⟨hret, b, l, hv⟩ := hm
      obtain rfl : ret = ret' := hret
      obtain rfl : v = { u with inTxn := b, txnCalls := l } := hv
      exact congrArg (fun r => some (r, u.db, u.files)) (hf ret)

theorem sameResult_create (h : cmd.NoParameters)
    (hearly : ¬ (1 < getNtohs cmd.cdb 32 ∧ cmd.getsetCdbfmt = GETPAGE_SETVALUE ∧
      getNtohl cmd.cdb 52 ≠ CUR_CMD_ATTR_PG)) :
    SameResult (withGetUsed (cdbCreate env cmd fuel 0))
      (noOutput (osdCreate env cmd.pid cmd.oid (getNtohs cmd.cdb 32))) s := by
  have heq : withGetUsed (cdbCreate env cmd fuel 0)
      = withinTxn env (osdCreate env cmd.pid cmd.oid (getNtohs cmd.cdb 32)) >>= fun ret => pure (Outcome.of ret 0 0) := by
    rw [cdbCreate_nothing h hearly]
    unfold withGetUsed
    rw [bind_assoc]
    rfl
  rw [heq]
  exact sameResult_of_sameOutcome (withinTxn_sameOutcome (butTxn_osdCreate _ _)) fun _ => rfl

/-- CREATE COLLECTION does not show the sense data of a refusal. -/
theorem sameResult_createCollection (h : cmd.NoParameters) : SameResult (cdbCreateCollectionSense env cmd fuel)
    (noOutput (osdCreateCollection env cmd.pid cmd.oid)) s ↔ env.CreatesCollection s cmd.pid cmd.oid := by
  have hends : Ends (osdCreateCollection env cmd.pid cmd.oid) s fun ret _ =>
      ret.Plain ∧ (ret = .ok ↔ env.CreatesCollection s cmd.pid cmd.oid) :=
    Ends.and (plain_osdCreateCollection cmd.oid s) (osdCreateCollection_creates
      (fun _ _ hret hno => iff_of_false hret hno) fun hc => iff_of_true rfl hc)
  obtain ⟨ret, t, hrun, hplain, hret⟩ := hends.of_halts (halts_osdCreateCollection _ _)
  have hbare : noOutput (osdCreateCollection env cmd.pid cmd.oid) s = some ((ret, none), t) := bind_of_some hrun
  unfold SameResult
  rw [hbare]
  unfold cdbCreateCollectionSense
  dsimp only
  rw [bind_of_some hrun]
  cases ret with
  | ok =>
    refine iff_of_true ?_ (hret.1 rfl)
    show ((withGetUsed (attributesOrUndo env cmd _ _ _ fuel 0 _)) t).map _ = _
    rw [attributesOrUndo_nothing h (by decide)]
    rfl
  | err e => exact hplain.elim
  | sense x =>
    refine iff_of_false (fun hsame => ?_) fun hc => nomatch hret.2 hc
    have hstatus : (⟨.sense x, 0, 0, none⟩ : Outcome).status = (Outcome.of (.sense x) 0 0).status :=
      congrArg Prod.fst (Option.some.inj hsame)
    have hbuilt : (Outcome.of (.sense x) 0 0).Agrees := Outcome.agrees_sense rfl rfl hplain.1 rfl
    exact Outcome.not_agrees_unbuilt rfl rfl (hbuilt.of_status hstatus)

theorem cdbCreatePartition_nothing (h : cmd.NoParameters) : cdbCreatePartition env cmd fuel 0
    = osdCreatePartition env cmd.pid >>= fun ret => pure (ret, 0) := by
  unfold cdbCreatePartition
  refine congrArg (osdCreatePartition env cmd.pid >>= ·) (funext fun ret => ?_)
  by_cases hok : ret = .ok
  · subst hok
    funext s
    show attributesOrUndo env cmd _ _ _ fuel 0 _ s = _
    rw [attributesOrUndo_nothing h (by decide)]
  · exact if_pos hok

theorem sameResult_createPartition (h : cmd.NoParameters) : SameResult (withGetUsed (cdbCreatePartition env cmd fuel 0))
    (noOutput (osdCreatePartition env cmd.pid)) s := by
  refine sameResult_noOutput (f := fun ret => Outcome.of ret 0 0) ?_ fun _ => rfl
  rw [cdbCreatePartition_nothing h]
  unfold withGetUsed
  rw [bind_assoc]
  rfl

/-- Handlers that end with `std_get_set_attr`, or begin with it. -/
theorem sameResult_withAttributes (h : cmd.NoParameters) (m : OsdM (Ret × Option UInt64)) :
    SameResult (withAttributes env cmd pid oid fuel m) m s :=
  sameResult_of_eq (withAttributes_nothing h m) fun _ => rfl

theorem sameResult_afterAttributes (h : cmd.NoParameters) (m : OsdM (Ret × Option UInt64)) :
    SameResult (afterAttributes env cmd pid oid fuel m) m s :=
  sameResult_of_eq (afterAttributes_nothing h m) fun _ => rfl

/-! ## The commands -/

/-- CREATE of several objects with the page format, under ids that `osd_create` takes. -/
def Command.SeveralPaged (cmd : Command) : Prop :=
  cmd.serviceAction = .create ∧ cmd.getsetCdbfmt = GETPAGE_SETVALUE ∧ 1 < getNtohs cmd.cdb 32 ∧
    USEROBJECT_PID_LB ≤ cmd.pid ∧ cmd.oid = 0

/-- The partition is there, and the query for it is answered. -/
def Env.FindsPartition (env : Env) (d : Db) (pid : UInt64) : Prop :=
  env.queryFails (.objIspresent (bindInt64 pid) (bindInt64 PARTITION_OID)) d = false ∧
    d.Has (bindInt64 pid) (bindInt64 PARTITION_OID)

theorem objIspresent_partition : objIspresent env pid PARTITION_OID s = some ((.ok, true), s) ↔
    env.FindsPartition s.db pid := by
  unfold Env.FindsPartition objIspresent
  by_cases hq : env.queryFails (.objIspresent (bindInt64 pid) (bindInt64 PARTITION_OID)) s.db = true
  · have hrun : dbExecQuery env (.objIspresent (bindInt64 pid) (bindInt64 PARTITION_OID)) false
        (fun d => decide (d.Has (bindInt64 pid) (bindInt64 PARTITION_OID))) s = some ((.err .osdError, false), s) :=
      congrFun (if_pos hq : (ite _ _ _ : OsdM _) = _) s
    rw [hrun]
    exact iff_of_false nofun fun h => absurd (hq.symm.trans h.1) nofun
  · have hrun : dbExecQuery env (.objIspresent (bindInt64 pid) (bindInt64 PARTITION_OID)) false
        (fun d => decide (d.Has (bindInt64 pid) (bindInt64 PARTITION_OID))) s
          = some ((.ok, decide (s.db.Has (bindInt64 pid) (bindInt64 PARTITION_OID))), s) :=
      congrFun (if_neg hq : (ite _ _ _ : OsdM _) = _) s
    rw [hrun, and_iff_right (Bool.eq_false_iff.2 hq)]
    exact ⟨fun h => of_decide_eq_true (congrArg (fun x => x.1.2) (Option.some.inj h)), fun h => by
      rw [decide_eq_true h]⟩

/-- `osd_create` refuses several objects itself without the partition, and when it is not to choose their
ids. -/
theorem osdCreate_refuses {requested : UInt64} {numoid : UInt16} (hn : 1 < numoid)
    (hids : ¬ ((USEROBJECT_PID_LB ≤ pid ∧ requested = 0) ∧ env.FindsPartition s.db pid)) :
    osdCreate env pid requested numoid s = some (cdbErr pid requested, s) := by
  unfold osdCreate
  dsimp only
  by_cases hpid : pid = 0 ∨ pid < USEROBJECT_PID_LB
  · rw [if_pos hpid]
    rfl
  rw [if_neg hpid]
  by_cases hlb : requested ≠ 0 ∧ requested < USEROBJECT_OID_LB
  · rw [if_pos hlb]
    rfl
  rw [if_neg hlb]
  obtain ⟨⟨ret, present⟩, t, hrun, rfl⟩ : ∃ r t, objIspresent env pid PARTITION_OID s = some (r, t) ∧ t = s :=
    Ends.of_halts (dbExecQuery_ends (fun _ => rfl) fun _ => rfl) (halts_dbExecQuery _ _ _)
  rw [bind_of_some hrun]
  dsimp only
  by_cases hno : ret ≠ .ok ∨ ¬ present
  · rw [if_pos hno]
    rfl
  obtain ⟨hret, hpresent⟩ := not_or.1 hno
  obtain rfl : ret = .ok := not_not.1 hret
  obtain rfl : present = true := not_not.1 hpresent
  have hreq : requested ≠ 0 := fun h0 => hids ⟨⟨UInt64.not_lt.1 fun hlt => hpid (.inr hlt), h0⟩,
    objIspresent_partition.1 hrun⟩
  rw [if_neg hno, if_pos ⟨hn, hreq⟩]
  rfl

/-- Otherwise it creates them, or something fails. -/
theorem osdCreate_goesOn {numoid : UInt16} (hpid : USEROBJECT_PID_LB ≤ pid)
    (hfinds : env.FindsPartition s.db pid) :
    Ends (osdCreate env pid 0 numoid) s fun ret _ => ret = .ok ∨ ret = hwErr pid 0 := by
  have hlb : ¬ (pid = 0 ∨ pid < USEROBJECT_PID_LB) := by
    rintro (rfl | h)
    · exact absurd hpid (by decide)
    · exact UInt64.not_lt.2 hpid h
  have hfrom : ∀ oid t, Ends (createFrom env pid 0 oid numoid) t fun ret _ => ret = .ok ∨ ret = hwErr pid 0 := by
    refine fun oid t => ends_call (fun _ _ _ => trivial : Ends _ t fun _ _ => True) fun failed u _ => ?_
    cases failed with
    | some _ => exact ends_bind.2 (ends_modify.2 (ends_pure.2 (.inr rfl)))
    | none => exact ends_bind.2 (ends_modify.2 (ends_bind.2 (ends_modify.2 (ends_pure.2 (.inl rfl)))))
  have hpresent := objIspresent_partition.2 hfinds
  unfold osdCreate
  dsimp only
  rw [if_neg hlb, if_neg (by simp), ends_bind, ends_of_run hpresent]
  dsimp only
  rw [if_neg (by simp), if_neg (by simp), if_pos rfl]
  refine ends_call (fun _ _ _ => trivial : Ends _ s fun _ _ => True) fun picked u _ => ?_
  cases picked with
  | none => exact ends_bind.2 (ends_modify.2 (ends_pure.2 (.inr rfl)))
  | some oid => exact hfrom oid u

theorem dispatch_create (h : cmd.NoParameters) (hlen : cmd.cdbContLen = 0) (haction : cmd.serviceAction = .create) :
    SameResult (noContinuations cmd cmd.pid cmd.oid (withGetUsed (cdbCreate env cmd fuel 0)))
      (noOutput (osdCreate env cmd.pid cmd.oid (getNtohs cmd.cdb 32))) s ↔
        ¬ (cmd.SeveralPaged ∧ env.FindsPartition s.db cmd.pid) := by
  unfold noContinuations
  rw [if_neg (not_not.2 hlen)]
  by_cases hearly : 1 < getNtohs cmd.cdb 32 ∧ cmd.getsetCdbfmt = GETPAGE_SETVALUE ∧
      getNtohl cmd.cdb 52 ≠ CUR_CMD_ATTR_PG
  · have hrun : withGetUsed (cdbCreate env cmd fuel 0) s = some (Outcome.of (cdbErr cmd.pid cmd.oid) 0 0, s) := by
      have hrefused : cdbCreate env cmd fuel 0 s = some ((cdbErr cmd.pid cmd.oid, 0), s) :=
        congrFun (if_pos hearly : (ite _ _ _ : OsdM _) = _) s
      exact bind_of_some hrefused
    unfold SameResult
    rw [hrun]
    by_cases hgoes : (USEROBJECT_PID_LB ≤ cmd.pid ∧ cmd.oid = 0) ∧ env.FindsPartition s.db cmd.pid
    · obtain ⟨⟨hpid, hoid⟩, hfinds⟩ := hgoes
      refine iff_of_false (fun hsame => ?_) (not_not.2 ⟨⟨haction, hearly.2.1, hearly.1, hpid, hoid⟩, hfinds⟩)
      rw [hoid] at hsame
      obtain ⟨ret, t, hbare⟩ : ∃ ret t, osdCreate env cmd.pid 0 (getNtohs cmd.cdb 32) s = some (ret, t) :=
        halts_osdCreate _ s
      have hout : noOutput (osdCreate env cmd.pid 0 (getNtohs cmd.cdb 32)) s = some ((ret, none), t) :=
        bind_of_some hbare
      rw [hout] at hsame
      have hstatus : (Outcome.of (cdbErr cmd.pid 0) 0 0).status = (Outcome.of ret 0 0).status :=
        congrArg Prod.fst (Option.some.inj hsame)
      rcases osdCreate_goesOn hpid hfinds _ _ hbare with rfl | rfl
      · have hlen : (40 : Int) = 0 := congrArg Prod.fst hstatus
        exact absurd hlen (by decide)
      · rw [cdbErr, hwErr, senseBuildSdd, senseBuildSdd, status_sense, status_sense, Prod.mk.injEq] at hstatus
        have hkey : (5 : UInt8) = 4 := Sense.key_inj hstatus.2
        exact absurd hkey (by decide)
    · refine iff_of_true ?_ fun hp => hgoes ⟨hp.1.2.2.2, hp.2⟩
      have hout : noOutput (osdCreate env cmd.pid cmd.oid (getNtohs cmd.cdb 32)) s
          = some ((cdbErr cmd.pid cmd.oid, none), s) := bind_of_some (osdCreate_refuses hearly.1 hgoes)
      rw [hout]
      rfl
  · refine iff_of_true (sameResult_create h hearly) fun hp => hearly ⟨hp.1.2.2.1, hp.1.2.1, ?_⟩
    have hpage : getNtohl cmd.cdb 52 = 0 := h.elim (fun h => h.2.1) fun h => h.2.1
    rw [hpage]
    decide

theorem dispatch_same (h : cmd.NoParameters) (hcomplete : cmd.Complete ds) {op : OsdM (Ret × Option UInt64)}
    (hop : cmd.operation env ds = some op) : SameResult (dispatch env cmd ds fuel) op s ↔
      ¬ (cmd.SeveralPaged ∧ env.FindsPartition s.db cmd.pid) ∧
        (cmd.serviceAction = .createCollection → env.CreatesCollection s cmd.pid cmd.oid) := by
  unfold Command.Complete at hcomplete
  unfold Command.operation at hop
  unfold dispatch
  dsimp only at hop ⊢
  have hnone : ∀ {pid oid : UInt64} {m : OsdM Outcome}, cmd.cdbContLen = 0 → noContinuations cmd pid oid m = m :=
    fun hlen => if_neg (not_not.2 hlen)
  -- a command that is neither of the two exceptions
  have hother : ∀ {P : Prop} {a : ServiceAction}, cmd.serviceAction = a → a ≠ .create → a ≠ .createCollection → P →
      (P ↔ ¬ (cmd.SeveralPaged ∧ env.FindsPartition s.db cmd.pid) ∧
        (a = .createCollection → env.CreatesCollection s cmd.pid cmd.oid)) :=
    fun ha hcreate hcoll hP => iff_of_true hP ⟨fun hp => hcreate (ha.symm.trans hp.1.1), fun h => absurd h hcoll⟩
  cases haction : cmd.serviceAction <;> rw [haction] at hop hcomplete <;> dsimp only at hop hcomplete ⊢ <;>
    simp only [Option.some.injEq, reduceCtorEq] at hop <;> subst hop
  case create =>
    rw [and_iff_left (fun hno => nomatch hno)]
    exact dispatch_create h hcomplete haction
  case createCollection =>
    rw [hnone hcomplete, sameResult_createCollection h]
    exact ⟨fun hc => ⟨fun hp => (nomatch haction.symm.trans hp.1.1), fun _ => hc⟩, fun hc => hc.2 rfl⟩
  case createPartition =>
    rw [hnone hcomplete]
    exact hother haction nofun nofun (sameResult_createPartition h)
  case append =>
    unfold execAppend enoughInput
    rw [if_neg hcomplete.1, hnone hcomplete.2]
    exact hother haction nofun nofun (sameResult_withAttributes h _)
  case clear =>
    rw [hnone hcomplete]
    exact hother haction nofun nofun (sameResult_withAttributes h _)
  case punch =>
    rw [hnone hcomplete]
    exact hother haction nofun nofun (sameResult_withAttributes h _)
  case write =>
    unfold execWrite enoughInput
    dsimp only
    rw [if_neg hcomplete, withAttributes_nothing h, bind_assoc]
    exact hother haction nofun nofun (sameResult_of_eq (f := fun r => (Outcome.of r.1 (r.2.getD 0) 0).afterTest cmd ds) rfl
      fun r => status_afterTest _ _ _)
  case read =>
    rw [cdbRead_nothing h hcomplete]
    exact hother haction nofun nofun (sameResult_of_eq rfl fun _ => rfl)
  case cas =>
    unfold cdbCas
    rw [if_neg (not_not.2 hcomplete)]
    exact hother haction nofun nofun (sameResult_withAttributes h _)
  case fa =>
    unfold cdbFa
    rw [if_neg (not_not.2 hcomplete)]
    exact hother haction nofun nofun (sameResult_withAttributes h _)
  case remove =>
    rw [hnone hcomplete]
    exact hother haction nofun nofun (sameResult_afterAttributes h _)

/-- **Commands without attributes are their operations**, except CREATE of several objects with the page
format, which is refused for having no page, and a CREATE COLLECTION that is refused. -/
theorem noParameters_same_iff (h : cmd.NoParameters) (hds : cmd.continuation fuel = some (.ok, ds))
    (hcomplete : cmd.Complete ds) {op : OsdM (Ret × Option UInt64)} (hop : cmd.operation env ds = some op) :
    SameResult (execServiceAction env cmd fuel) op s ↔
      ¬ (cmd.SeveralPaged ∧ env.FindsPartition s.db cmd.pid) ∧
        (cmd.serviceAction = .createCollection → env.CreatesCollection s cmd.pid cmd.oid) := by
  rw [execServiceAction_continuation hds]
  exact dispatch_same h hcomplete hop

/-- CREATE of `numoid` objects in the first partition, with the page format and no page. -/
def bareCreate (numoid : UInt16) : Command where
  cdb := blobMem (List.replicate 8 0 ++ htons 0x8882 ++ List.replicate 6 0 ++ htonll 0x10000 ++ htonll 0 ++ htons numoid ++
    List.replicate 46 0)
  getsetCdbfmt := GETPAGE_SETVALUE
  retrievedAttrOff := 0
  indata := fun _ => 0
  inlen := 0
  hasOutdata := true

theorem noParameters_same_one : SameResult (execServiceAction Env.calm (bareCreate 1) 0)
    (noOutput (osdCreate Env.calm 0x10000 0 1)) emptyPartition := by
  have haction : (bareCreate 1).serviceAction = .create := by decide +kernel
  have hargs : (bareCreate 1).pid = 0x10000 ∧ (bareCreate 1).oid = 0 ∧ getNtohs (bareCreate 1).cdb 32 = 1 := by
    decide +kernel
  have hds : (bareCreate 1).continuation 0 = some (.ok, []) := by decide +kernel
  refine (noParameters_same_iff (by decide +kernel) hds (by decide +kernel) ?_).2
    ⟨fun h => absurd h.1.2.2.1 (by decide +kernel), fun hno => ?_⟩
  · unfold Command.operation
    rw [haction, hargs.1, hargs.2.1, hargs.2.2]
  · rw [haction] at hno
    cases hno

/-- `osd_create` would have created both. -/
theorem noParameters_refused : (bareCreate 2).NoParameters ∧ (bareCreate 2).Complete [] ∧
    (bareCreate 2).operation Env.calm [] = some (noOutput (osdCreate Env.calm 0x10000 0 2)) ∧
    ¬ SameResult (execServiceAction Env.calm (bareCreate 2) 0) (noOutput (osdCreate Env.calm 0x10000 0 2))
      emptyPartition := by
  have haction : (bareCreate 2).serviceAction = .create := by decide +kernel
  have hargs : (bareCreate 2).pid = 0x10000 ∧ (bareCreate 2).oid = 0 ∧ getNtohs (bareCreate 2).cdb 32 = 2 := by
    decide +kernel
  refine ⟨by decide +kernel, by decide +kernel, ?_, fun hsame => ?_⟩
  · unfold Command.operation
    rw [haction, hargs.1, hargs.2.1, hargs.2.2]
  · have hstatus := congrArg (Option.map fun x => x.1.1) hsame
    rw [Option.map_map, Option.map_map] at hstatus
    have hrefused : (execServiceAction Env.calm (bareCreate 2) 0 emptyPartition).map (fun x => x.1.status.1)
        = some 40 := by decide +kernel
    have hcreated : (noOutput (osdCreate Env.calm 0x10000 0 2) emptyPartition).map
        (fun x => (Outcome.of x.1.1 0 0).status.1) = some 0 := by decide +kernel
    have hlen : some (40 : Int) = some 0 := hrefused.symm.trans (hstatus.trans hcreated)
    exact absurd (Option.some.inj hlen) (by decide)

end OsdTarget
