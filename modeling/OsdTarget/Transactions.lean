import OsdTarget.AttributeParams
import OsdTarget.CommandFrame

/-!
# Transactions

The calls of `osd_begin_txn` and `osd_end_txn` come in pairs.  `Silent` says that a program makes none,
`TxnStep` that it makes pairs only.  Everything but the brackets themselves is silent, FORMAT excepted,
which closes the database and whatever is open on it.
-/

namespace OsdTarget

open Base

variable {env : Env} {s s' : Target}

/-! ## Pairs -/

/-- A begin, an end, and so on. -/
inductive Balanced : List TxnCall → Prop
  | nil : Balanced []
  | pair (b e : Bool) {l : List TxnCall} (h : Balanced l) : Balanced (.beginTxn b :: .endTxn e :: l)

theorem Balanced.append {l l' : List TxnCall} (h : Balanced l) (h' : Balanced l') : Balanced (l ++ l') := by
  induction h with
  | nil => exact h'
  | pair b e _ ih => exact .pair b e ih

/-- An `osd_begin_txn` that finds a transaction open, which SQLite refuses. -/
def beginsInside (calls : List TxnCall) : Prop := .beginTxn true ∈ calls

/-- Pairs of calls.  Where SQLite carries out END TRANSACTION and no transaction is open before, no BEGIN
finds one open and none is open after. -/
structure TxnStep (env : Env) (s s' : Target) : Prop where
  balanced : ∃ calls, s'.txnCalls = s.txnCalls ++ calls ∧ Balanced calls ∧
    (env.sysFails .endTxn = false → s.inTxn = false → ¬ beginsInside calls)
  closed : env.sysFails .endTxn = false → s.inTxn = false → s'.inTxn = false

/-- No transaction call is made. -/
structure Silent (s s' : Target) : Prop where
  inTxn : s'.inTxn = s.inTxn
  txnCalls : s'.txnCalls = s.txnCalls

instance : Uncached Silent where
  same _ _ _ _ _ _ h h' := ⟨h, h'⟩
  trans _ _ _ h h' := ⟨h'.inTxn.trans h.inTxn, h'.txnCalls.trans h.txnCalls⟩
  ic _ _ := ⟨rfl, rfl⟩

theorem Silent.step (h : Silent s s') : TxnStep env s s' where
  balanced := ⟨[], by rw [h.txnCalls, List.append_nil], .nil, fun _ _ => List.not_mem_nil⟩
  closed _ hs := h.inTxn.trans hs

instance : Uncached (TxnStep env) where
  same _ _ _ _ _ _ h h' := Silent.step ⟨h, h'⟩
  trans s t v h h' := by
    obtain ⟨l, hl, hb, hn⟩ := h.balanced
    obtain ⟨l', hl', hb', hn'⟩ := h'.balanced
    refine ⟨⟨l ++ l', by rw [hl', hl, List.append_assoc], hb.append hb', fun he hs hm => ?_⟩,
      fun he hs => h'.closed he (h.closed he hs)⟩
    rcases List.mem_append.1 hm with hm | hm
    · exact hn he hs hm
    · exact hn' he (h.closed he hs) hm
  ic _ _ := Silent.step ⟨rfl, rfl⟩

theorem txnStep_of_silent {α : Type} {m : OsdM α} (h : Respects Silent m) : Respects (TxnStep env) m :=
  fun s => (h s).mono fun _ _ => Silent.step

/-! ## Inside a pair -/

/-- Since `s`, only a begin. -/
def OpenSince (s t : Target) : Prop := t.txnCalls = s.txnCalls ++ [.beginTxn s.inTxn]

/-- Whatever began, `m` ends it. -/
def Closes {α : Type} (env : Env) (m : OsdM α) : Prop :=
  ∀ s t, OpenSince s t → Ends m t fun _ v => TxnStep env s v

theorem txnStep_begin {α : Type} {f : Ret → OsdM α} (hf : ∀ ret, Closes env (f ret)) :
    Respects (TxnStep env) (osdBeginTxn env >>= f) := by
  intro s
  have hbegin : Ends (osdBeginTxn env) s fun _ t => OpenSince s t :=
    ends_bind.2 (ends_modify.2 (ends_bind.2 (ends_get.2 (ends_ite_of (fun _ => ends_pure.2 rfl)
      fun _ => ends_bind.2 (ends_set.2 (ends_pure.2 rfl))))))
  exact ends_call hbegin fun ret t ht => hf ret s t ht

theorem closes_osdEndTxn : Closes env (osdEndTxn env) := by
  intro s t ht
  have hstep : ∀ v : Target, v.txnCalls = t.txnCalls ++ [.endTxn t.inTxn] →
      (env.sysFails .endTxn = false → v.inTxn = false) → TxnStep env s v := by
    intro v hv hin
    rw [ht, List.append_assoc, List.singleton_append] at hv
    refine ⟨⟨_, hv, .pair _ _ .nil, fun _ hs hm => ?_⟩, fun he _ => hin he⟩
    rw [hs] at hm
    simp [beginsInside] at hm
  refine ends_bind.2 (ends_modify.2 (ends_bind.2 (ends_get.2 (ends_ite_of (fun hf => ?_) fun _ => ?_))))
  · -- only an END that SQLite refuses leaves the transaction open
    refine ends_pure.2 (hstep _ rfl fun he => ?_)
    simpa [he] using hf
  · exact ends_bind.2 (ends_set.2 (ends_pure.2 (hstep _ rfl fun _ => rfl)))

theorem closes_bind {α β : Type} {m : OsdM α} {f : α → OsdM β} (hm : Respects Silent m)
    (hf : ∀ a, Closes env (f a)) : Closes env (m >>= f) :=
  fun s t ht => ends_call (hm t) fun a u hu => hf a s u (by rw [OpenSince, hu.txnCalls, ht])

theorem closes_then {α β : Type} {m : OsdM α} {f : α → OsdM β} (hm : Closes env m)
    (hf : ∀ a, Respects (TxnStep env) (f a)) : Closes env (m >>= f) :=
  fun s t ht => ends_call (hm s t ht) fun a u hu =>
    (hf a u).mono fun _ v hv => Stays.trans s u v hu hv

theorem closes_ite {α : Type} {c : Prop} [Decidable c] {m n : OsdM α} (hm : Closes env m)
    (hn : Closes env n) : Closes env (if c then m else n) :=
  fun s t ht => ends_ite_of (fun _ => hm s t ht) fun _ => hn s t ht

/-- **Between the two calls, silence.** -/
theorem brackets_silent : Brackets env Silent (TxnStep env) :=
  fun _ _ hm => txnStep_begin fun _ => closes_bind hm fun _ => closes_then closes_osdEndTxn fun _ => resp_pure _

theorem txnStep_osdSetMemberAttributes (pid cid : UInt64) (setAttr : List SetEntry) :
    Respects (TxnStep env) (osdSetMemberAttributes env pid cid setAttr) := by
  have hfinish : ∀ ret : Ret, Closes env (osdEndTxn env >>= fun _ => pure ret) :=
    fun _ => closes_then closes_osdEndTxn fun _ => resp_pure _
  refine txnStep_begin fun _ => closes_bind resp_query fun _ => closes_ite (hfinish _)
    (closes_bind (resp_getObjType _ _) fun _ => closes_ite (hfinish _) (closes_ite (hfinish _)
      (closes_bind (respects_ite (resp_pure _) (resp_dbExecDms (fun _ _ => ⟨rfl, rfl⟩) _)) fun _ =>
        closes_ite (hfinish _) (closes_then closes_osdEndTxn fun _ => resp_bind (resp_setCcap _) fun _ =>
          resp_pure _))))

/-! ## The parameters of a command -/

theorem Silent.admitsAttributes (pid oid : UInt64) : AdmitsAttributes Silent pid oid where
  row _ _ _ _ := ⟨rfl, rfl⟩
  delete _ _ _ := ⟨rfl, rfl⟩
  file _ _ _ _ := ⟨rfl, rfl⟩
  point _ _ _ _ _ := ⟨rfl, rfl⟩
  unpoint _ _ := ⟨rfl, rfl⟩

theorem Silent.admitsObject (pid oid : UInt64) : AdmitsObject Silent pid oid where
  insert _ _ := ⟨rfl, rfl⟩
  delete _ := ⟨rfl, rfl⟩
  attrs _ := ⟨rfl, rfl⟩
  colls _ := ⟨rfl, rfl⟩
  file _ _ := ⟨rfl, rfl⟩

theorem Silent.admitsDb : AdmitsDb Silent := fun _ _ => ⟨rfl, rfl⟩

theorem Silent.admitsFile (pid oid : UInt64) : AdmitsFile Silent pid oid := (admitsAttributes pid oid).file

section Parameters

variable {cmd : Command} {pid oid : UInt64} {numoid : UInt16} {fuel : Nat} {used : UInt32}

theorem TxnStep.admitsAttributes : AdmitsAttributes (TxnStep env) pid oid where
  row _ _ _ _ := Silent.step ⟨rfl, rfl⟩
  delete _ _ _ := Silent.step ⟨rfl, rfl⟩
  file _ _ _ _ := Silent.step ⟨rfl, rfl⟩
  point _ _ _ _ _ := Silent.step ⟨rfl, rfl⟩
  unpoint _ _ := Silent.step ⟨rfl, rfl⟩

theorem txnStep_setAttributes {numoid : UInt32} :
    Respects (TxnStep env) (setAttributes env cmd pid oid numoid fuel) :=
  resp_setAttributes brackets_silent fun _ _ => Silent.admitsAttributes _ _

theorem txnStep_getAttributes : Respects (TxnStep env) (getAttributes env cmd pid oid numoid used) :=
  fun _ => getAttributes_respects brackets_silent (fun _ => TxnStep.admitsAttributes)
    fun _ _ => Silent.admitsAttributes _ _

theorem txnStep_applyAttributes : Respects (TxnStep env) (applyAttributes env cmd pid oid numoid fuel used) :=
  resp_bind txnStep_setAttributes fun _ => respects_ite (resp_pure _) txnStep_getAttributes

theorem txnStep_attributesOrUndo {undo : OsdM Unit} (h : Respects Silent undo) :
    Respects (TxnStep env) (attributesOrUndo env cmd pid oid numoid fuel used undo) :=
  resp_bind txnStep_applyAttributes fun _ => respects_ite
    (resp_bind (txnStep_of_silent h) fun _ => resp_pure _) (resp_pure _)

theorem txnStep_withAttributes {m : OsdM (Ret × Option UInt64)} (h : Respects (TxnStep env) m) :
    Respects (TxnStep env) (withAttributes env cmd pid oid fuel m) :=
  resp_bind h fun _ => respects_ite (resp_pure _) (resp_bind txnStep_applyAttributes fun _ => resp_pure _)

theorem txnStep_afterAttributes {m : OsdM (Ret × Option UInt64)} (h : Respects Silent m) :
    Respects (TxnStep env) (afterAttributes env cmd pid oid fuel m) :=
  resp_bind txnStep_applyAttributes fun _ => respects_ite (resp_pure _)
    (resp_bind (txnStep_of_silent h) fun _ => resp_pure _)

theorem txnStep_plain {m : OsdM Ret} (h : Respects (TxnStep env) m) : Respects (TxnStep env) (plain m) :=
  resp_bind h fun _ => resp_pure _

theorem txnStep_noOutput {m : OsdM Ret} (h : Respects Silent m) : Respects (TxnStep env) (noOutput m) :=
  resp_bind (txnStep_of_silent h) fun _ => resp_pure _

theorem txnStep_withGetUsed {m : OsdM (Ret × UInt32)} (h : Respects (TxnStep env) m) :
    Respects (TxnStep env) (withGetUsed m) :=
  resp_bind h fun _ => resp_pure _

theorem txnStep_noContinuations {m : OsdM Outcome} (h : Respects (TxnStep env) m) :
    Respects (TxnStep env) (noContinuations cmd pid oid m) :=
  respects_ite (resp_pure _) h

end Parameters

/-! ## The handlers -/

section Handlers

variable {cmd : Command} {fuel : Nat}

theorem silent_osdCreate (pid requestedOid : UInt64) (numoid : UInt16) :
    Respects Silent (osdCreate env pid requestedOid numoid) :=
  fun _ => osdCreate_stays fun _ _ => Silent.admitsObject _ _

theorem silent_osdRemove (pid oid : UInt64) : Respects Silent (osdRemove env pid oid) :=
  resp_osdRemove (Silent.admitsObject _ _)

theorem silent_removeCreated (pid oid : UInt64) : Respects Silent (removeCreated env pid oid) :=
  resp_bind (silent_osdRemove _ _) fun _ => resp_pure _

theorem txnStep_cdbCreate (used : UInt32) : Respects (TxnStep env) (cdbCreate env cmd fuel used) :=
  respects_ite (resp_pure _) (resp_bind (brackets_silent _ (silent_osdCreate _ _ _)) fun _ =>
    respects_ite (resp_pure _) (resp_bind resp_get fun _ => txnStep_attributesOrUndo
      (osdRemoveTmpObjects_stays _ fun _ _ => Silent.admitsObject _ _)))

theorem txnStep_cdbCreatePartition (used : UInt32) :
    Respects (TxnStep env) (cdbCreatePartition env cmd fuel used) :=
  resp_bind (txnStep_of_silent (resp_osdCreatePartition (resp_dbExecDms Silent.admitsDb) _)) fun _ =>
    respects_ite (resp_pure _) (resp_bind resp_get fun _ => txnStep_attributesOrUndo (silent_removeCreated _ _))

theorem txnStep_cdbCreateCollectionSense : Respects (TxnStep env) (cdbCreateCollectionSense env cmd fuel) :=
  resp_bind (txnStep_of_silent (resp_osdCreateCollection (resp_dbExecDms Silent.admitsDb) _ _)) fun _ =>
    respects_ite (resp_pure _) (resp_bind resp_get fun _ => txnStep_withGetUsed
      (txnStep_attributesOrUndo (silent_removeCreated _ _)))

theorem silent_osdWrite (pid oid len offset : UInt64) (data : Mem) (sglist : SgList) (ddt : UInt8) :
    Respects Silent (osdWrite env pid oid len offset data sglist ddt) :=
  resp_osdWrite (Silent.admitsFile _ _) _ _ _ _ _

theorem txnStep_execWrite (ds : List ContDescriptor) : Respects (TxnStep env) (execWrite env cmd ds fuel) :=
  respects_ite (resp_pure _) (resp_bind (txnStep_withAttributes (txnStep_noOutput
    (silent_osdWrite _ _ _ _ _ _ _))) fun _ => resp_pure _)

theorem txnStep_execCreateAndWrite (ds : List ContDescriptor) :
    Respects (TxnStep env) (execCreateAndWrite env cmd ds) := by
  refine respects_ite (resp_pure _) (resp_bind (txnStep_of_silent ?_) fun _ => resp_pure _)
  exact resp_bind (silent_osdCreate _ _ _) fun _ => respects_ite (resp_pure _)
    (resp_bind (silent_osdWrite _ _ _ _ _ _ _) fun _ => respects_ite
      (resp_bind (silent_osdRemove _ _) fun _ => resp_pure _) (resp_pure _))

theorem txnStep_cdbRead (ds : List ContDescriptor) : Respects (TxnStep env) (cdbRead env cmd ds fuel) :=
  respects_ite (resp_pure _) (resp_bind (resp_osdReadDevice _ _ _) fun _ => respects_ite (resp_pure _)
    (resp_bind txnStep_applyAttributes fun _ => respects_ite (resp_pure _) (resp_pure _)))

theorem txnStep_atomic {m : OsdM (Ret × Option UInt64)} (h : Respects Silent m) :
    Respects (TxnStep env) (if ¬ atomicArguments cmd then pure (.of (cdbErr cmd.pid cmd.oid) 0 0)
      else withAttributes env cmd cmd.pid cmd.oid fuel m) :=
  respects_ite (resp_pure _) (txnStep_withAttributes (txnStep_of_silent h))

theorem silent_freeUnset : Respects Silent (freeUnset env) := respects_ite (resp_pure _) resp_never

theorem silent_execGenCas : Respects Silent (execGenCas env cmd) := by
  unfold execGenCas
  split
  · exact resp_bind silent_freeUnset fun _ => resp_pure _
  · refine resp_bind (fun t => osdGenCas_stays (fun _ _ _ _ _ => ⟨rfl, rfl⟩) (fun _ _ => ⟨rfl, rfl⟩)
      fun _ => Silent.admitsFile _ _) fun _ => respects_ite (resp_pure _) (resp_pure _)

theorem silent_casSetattrLoop (n list : Nat) (listLen : UInt32) :
    Respects Silent (casSetattrLoop env cmd n list listLen) := by
  induction n generalizing list listLen with
  | zero => exact respects_ite (resp_pure _) resp_never
  | succ n ih =>
    exact respects_ite (resp_pure _) (resp_bind (resp_osdSetAttributes (Silent.admitsAttributes _ _) _ _ _ _ _)
      fun _ => respects_ite (resp_pure _) (ih _ _))

theorem txnStep_execGetattr (r : GenCasResult) : Respects (TxnStep env) (execGetattr env cmd r) := by
  refine respects_ite (resp_pure _) (resp_bind (resp_outWrite _ _) fun _ =>
    resp_bind txnStep_getAttributes fun _ => respects_ite (resp_pure _)
      (resp_bind (resp_outWrite _ _) fun _ => resp_bind resp_get fun _ => resp_bind (resp_outWrite _ _) fun _ =>
        resp_bind (resp_lePackAttr _ _ _ _ _ _) fun packed => ?_))
  split
  · exact respects_ite (resp_pure _) resp_never
  · exact resp_bind resp_get fun _ => resp_bind (resp_outWrite _ _) fun _ => resp_pure _

theorem txnStep_cdbGenCas (cond : Bool) : Respects (TxnStep env) (cdbGenCas env cmd cond fuel) := by
  have hget : ∀ r : GenCasResult, Respects (TxnStep env) (execGetattr env cmd r >>= fun x =>
      if x.1 = .ok then pure (Outcome.of .ok 0 x.2) else pure (Outcome.of (cdbErr cmd.pid cmd.oid) 0 x.2)) :=
    fun r => resp_bind (txnStep_execGetattr r) fun _ => respects_ite (resp_pure _) (resp_pure _)
  refine respects_ite (resp_bind (txnStep_of_silent silent_freeUnset) fun _ => resp_pure _)
    (resp_bind (txnStep_of_silent silent_execGenCas) fun r => ?_)
  cases r with
  | error ret => exact resp_pure _
  | ok r =>
    refine respects_ite (resp_bind (txnStep_of_silent ?_) fun _ => respects_ite (resp_pure _) (hget r)) (hget r)
    exact respects_ite (resp_pure _) (silent_casSetattrLoop _ _ _)

theorem txnStep_cdbList : Respects (TxnStep env) (cdbList env cmd) := by
  refine respects_ite (resp_pure _) ?_
  split
  · exact resp_bind (resp_osdList _ _ _ _ _ _) fun _ => resp_pure _
  · exact resp_pure _

theorem txnStep_execQuery (ds : List ContDescriptor) : Respects (TxnStep env) (execQuery env cmd ds fuel) := by
  unfold execQuery
  split
  · exact resp_pure _
  · exact txnStep_withAttributes (resp_osdQuery _ _ _ _ _ _)

theorem txnStep_cdbSetMemberAttributes : Respects (TxnStep env) (cdbSetMemberAttributes env cmd fuel) := by
  unfold cdbSetMemberAttributes
  split
  · exact resp_never
  · exact txnStep_plain (txnStep_osdSetMemberAttributes _ _ _)
  · exact resp_pure _

theorem txnStep_cdbCopyUserObjects (ds : List ContDescriptor) :
    Respects (TxnStep env) (cdbCopyUserObjects env cmd ds) := by
  unfold cdbCopyUserObjects
  split
  · exact resp_bind (resp_pure _) fun _ => resp_pure _
  · exact respects_ite (resp_bind (resp_osdCopyUserObjects _ _ _) fun _ => resp_pure _) (resp_pure _)

/-! FORMAT closes the database, with whatever is open on it. -/

theorem txnStep_of_calls (h : s'.txnCalls = s.txnCalls) (hin : s.inTxn = false → s'.inTxn = false) :
    TxnStep env s s' :=
  ⟨⟨[], by rw [h, List.append_nil], .nil, fun _ _ => List.not_mem_nil⟩, fun _ => hin⟩

theorem txnStep_setInitAttrs (l : List (UInt32 × UInt32 × String)) :
    Respects (TxnStep env) (setInitAttrs env l) := by
  induction l with
  | nil => exact resp_pure _
  | cons x l ih =>
    exact resp_bind (resp_attrSetAttrRow (TxnStep.admitsAttributes.row _ _ _)) fun _ => respects_ite (resp_pure _) ih

theorem txnStep_osdInitializeDb : Respects (TxnStep env) (osdInitializeDb env) :=
  resp_bind (respects_modify fun _ => txnStep_of_calls rfl id) fun _ =>
    resp_bind (txnStep_of_silent (resp_dbExecDms Silent.admitsDb _)) fun _ => respects_ite (resp_pure _)
    (resp_bind (txnStep_setInitAttrs _) fun _ => respects_ite (resp_pure _)
      (resp_bind (txnStep_setInitAttrs _) fun _ => respects_ite (resp_pure _)
        (resp_attrSetAttr (TxnStep.admitsAttributes.row _ _ _) fun _ => TxnStep.admitsAttributes.file)))

theorem txnStep_osdOpen : Respects (TxnStep env) (osdOpen env) := by
  intro s
  have hrest : Respects (TxnStep env) (if env.formatOutcome = .openFails then
      modify (fun s : Target => { s with opened := false }) >>= fun _ => pure (.err .osdError)
      else osdInitializeDb env) :=
    respects_ite (resp_bind (respects_modify fun _ => txnStep_of_calls rfl id) fun _ => resp_pure _)
      txnStep_osdInitializeDb
  refine ends_bind.2 (ends_get.2 (ends_bind.2 (ends_set.2 ?_)))
  refine (hrest _).mono fun _ v hv => Stays.trans s _ v ?_ hv
  exact txnStep_of_calls rfl fun _ => rfl

theorem txnStep_formatOsd : Respects (TxnStep env) (formatOsd env) := by
  have hreopen : ∀ failed : Ret, Respects (TxnStep env) (osdOpen env >>= fun ret =>
      if ret ≠ .ok then pure failed else setCcap Ccap.zero >>= fun _ => pure .ok) :=
    fun _ => resp_bind txnStep_osdOpen fun _ => respects_ite (resp_pure _)
      (resp_bind (resp_setCcap _) fun _ => resp_pure _)
  refine fun s => ends_bind.2 (ends_get.2 (ends_ite_of (fun _ => hreopen _ s) fun _ => ?_))
  split
  · exact ends_bind.2 (ends_set.2 (ends_pure.2 (txnStep_of_calls rfl id)))
  · exact ends_bind.2 (ends_set.2 (ends_pure.2 (txnStep_of_calls rfl id)))
  · exact ends_bind.2 (ends_set.2 (ends_pure.2 (txnStep_of_calls rfl id)))
  · refine ends_bind.2 (ends_set.2 ((hreopen _ _).mono fun _ v hv => Stays.trans s _ v ?_ hv))
    exact txnStep_of_calls rfl id

theorem txnStep_osdFormatOsd : Respects (TxnStep env) (osdFormatOsd env) :=
  resp_bind txnStep_formatOsd fun _ =>
    resp_bind (respects_modify fun _ => txnStep_of_calls rfl id) fun _ => resp_pure _

/-- **Every handler makes pairs of calls only.** -/
theorem txnStep_dispatch (ds : List ContDescriptor) : Respects (TxnStep env) (dispatch env cmd ds fuel) := by
  have hpure : ∀ ret : Ret, Respects (TxnStep env) (plain (pure ret)) := fun _ => txnStep_plain (resp_pure _)
  unfold dispatch
  cases cmd.serviceAction with
  | append => exact respects_ite (resp_pure _) (txnStep_noContinuations (txnStep_withAttributes (txnStep_noOutput
      (resp_contigAppend (Silent.admitsFile _ _) _ _))))
  | clear => exact txnStep_noContinuations (txnStep_withAttributes (txnStep_noOutput
      (resp_osdClear (Silent.admitsFile _ _) _ _)))
  | copyUserObjects => exact txnStep_cdbCopyUserObjects ds
  | create => exact txnStep_noContinuations (txnStep_withGetUsed (txnStep_cdbCreate _))
  | createAndWrite => exact txnStep_execCreateAndWrite ds
  | createCollection => exact txnStep_noContinuations txnStep_cdbCreateCollectionSense
  | createPartition => exact txnStep_noContinuations (txnStep_withGetUsed (txnStep_cdbCreatePartition _))
  | createUserTrackingCollection =>
    exact txnStep_plain (txnStep_of_silent (resp_osdCreateUserTrackingCollection (resp_dbExecDms Silent.admitsDb) _ _ _ _))
  | flush => exact txnStep_noContinuations (txnStep_plain (resp_osdFlush _ _ _))
  | flushCollection => exact txnStep_noContinuations (hpure _)
  | flushOsd => exact txnStep_noContinuations (hpure _)
  | flushPartition => exact txnStep_noContinuations (hpure _)
  | formatOsd => exact txnStep_noContinuations (txnStep_withAttributes (resp_bind txnStep_osdFormatOsd fun _ => resp_pure _))
  | getAttributes => exact txnStep_noContinuations (resp_bind txnStep_getAttributes fun _ =>
      respects_ite (resp_pure _) (resp_bind txnStep_setAttributes fun _ => resp_pure _))
  | getMemberAttributes => exact hpure _
  | list => exact txnStep_cdbList
  | listCollection => exact txnStep_withAttributes (resp_osdListCollection _ _ _ _ _ _)
  | performScsi => exact txnStep_noContinuations (resp_pure _)
  | punch => exact txnStep_noContinuations (txnStep_withAttributes (txnStep_noOutput
      (resp_osdPunch (Silent.admitsFile _ _) _ _)))
  | query => exact txnStep_execQuery ds
  | read => exact txnStep_cdbRead ds
  | readMap => exact txnStep_noContinuations (txnStep_afterAttributes (resp_osdReadMap _ _ _))
  | remove => exact txnStep_noContinuations (txnStep_afterAttributes
      (resp_bind (silent_osdRemove _ _) fun _ => resp_pure _))
  | removeCollection => exact txnStep_noContinuations (txnStep_plain (txnStep_of_silent
      (resp_osdRemoveCollection (resp_dbExecDms Silent.admitsDb) _ _ _)))
  | removeMemberObjects => exact txnStep_noContinuations (hpure _)
  | removePartition => exact txnStep_noContinuations (txnStep_afterAttributes
      (resp_bind (resp_osdRemovePartition (resp_dbExecDms Silent.admitsDb) _) fun _ => resp_pure _))
  | setAttributes => exact txnStep_noContinuations (txnStep_withGetUsed txnStep_applyAttributes)
  | setKey => exact hpure _
  | setMasterKey => exact txnStep_noContinuations (hpure _)
  | setMemberAttributes => exact txnStep_noContinuations txnStep_cdbSetMemberAttributes
  | write => exact txnStep_execWrite ds
  | cas => exact txnStep_atomic fun _ => osdCas_stays fun _ _ _ _ => ⟨rfl, rfl⟩
  | fa => exact txnStep_atomic fun _ => osdFa_stays fun _ _ _ _ => ⟨rfl, rfl⟩
  | genCas => exact txnStep_cdbGenCas false
  | condSetattr => exact txnStep_cdbGenCas true
  | other => exact resp_pure _

theorem txnStep_execServiceAction : Respects (TxnStep env) (execServiceAction env cmd fuel) := by
  refine respects_ite (txnStep_dispatch []) ?_
  split
  · exact resp_never
  · exact txnStep_dispatch _
  · exact resp_pure _

end Handlers

/-! ## Runs of commands -/

/-- **Transactions are balanced.**  Every command makes its transaction calls in pairs, one after the
other.  As long as SQLite carries out END TRANSACTION, no BEGIN of any run of commands finds a transaction
open, and none is open between two of them. -/
theorem transactions_balanced (rs : List Invocation) (r : Invocation) (s : Target) :
    Ends (execAll rs) s fun _ t => Ends r.exec t fun _ u =>
      (∃ calls, u.txnCalls = t.txnCalls ++ calls ∧ Balanced calls ∧
        (s.inTxn = false → (∀ q ∈ r :: rs, q.env.sysFails .endTxn = false) → .beginTxn true ∉ calls)) ∧
      (s.inTxn = false → (∀ q ∈ r :: rs, q.env.sysFails .endTxn = false) → u.inTxn = false) := by
  have hrun : Ends (execAll rs) s fun _ t =>
      s.inTxn = false → (∀ q ∈ rs, q.env.sysFails .endTxn = false) → t.inTxn = false := by
    induction rs generalizing s with
    | nil => exact ends_pure.2 fun hs _ => hs
    | cons q rs ih =>
      refine ends_call (txnStep_execServiceAction s) fun _ t ht => ends_call (ih t) fun _ u hu => ?_
      refine ends_pure.2 fun hs hq => hu (ht.closed (hq q List.mem_cons_self) hs) fun p hp => ?_
      exact hq p (List.mem_cons_of_mem _ hp)
  refine hrun.mono fun _ t ht => (txnStep_execServiceAction t).mono fun _ u hu => ?_
  have hclosed : s.inTxn = false → (∀ q ∈ r :: rs, q.env.sysFails .endTxn = false) → t.inTxn = false :=
    fun hs hq => ht hs fun p hp => hq p (List.mem_cons_of_mem _ hp)
  obtain ⟨calls, hl, hb, hn⟩ := hu.balanced
  refine ⟨⟨calls, hl, hb, fun hs hq => ?_⟩, fun hs hq => ?_⟩
  · exact hn (hq r List.mem_cons_self) (hclosed hs hq)
  · exact hu.closed (hq r List.mem_cons_self) (hclosed hs hq)

end OsdTarget
