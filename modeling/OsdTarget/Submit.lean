import OsdTarget.Statuses

/-!
# `osdemu_cmd_submit`

How a command comes in and what is reported for it: a status, and sense data exactly when the status is
CHECK CONDITION.  The sense buffer of the command and the length its handler returned have to agree for
that.  They do not in two cases: CREATE COLLECTION builds the sense data of a refusal in a buffer of its
own, and three handlers return a negative number.
-/

namespace OsdTarget

open Base

variable (env : Env)

/-! ## Submitting -/

def SAM_STAT_GOOD : UInt8 := 0x00
def SAM_STAT_CHECK_CONDITION : UInt8 := 0x02

/-- What `osdemu_cmd_submit` is called with. -/
structure Submission where
  cdb : Mem
  dataIn : Mem
  dataInLen : UInt64
  /-- `data_in` is not NULL. -/
  hasDataIn : Bool
  /-- `*data_out` is not NULL. -/
  hasDataOut : Bool
  /-- `*data_out_len`. -/
  dataOutLen : UInt64

namespace Submission

variable (sub : Submission)

def getsetCdbfmt : UInt8 := (sub.cdb 11 &&& 0x30) >>> 4

def action : UInt16 := getNtohs sub.cdb 8

/-- The length of the data a command returns beside attributes. -/
def dataLen : UInt64 :=
  match (serviceActions.lookup sub.action).getD .other with
  | .list | .listCollection | .read | .query | .cas | .fa | .genCas => getNtohll sub.cdb 32
  | .setMasterKey => (getNtohl sub.cdb 36).toUInt64
  | _ => 0

/-- `calc_max_out_len`: `outlen` and `retrieved_attr_off`, `none` for a negative return. -/
def calcMaxOutLen : Option (UInt64 × UInt64) :=
  let widened (off : UInt64) (len : UInt32) : UInt64 :=
    let stop := if off ≠ 0 - 1 then off + len.toUInt64 else 0
    if sub.dataLen < stop then stop else sub.dataLen
  if sub.getsetCdbfmt = GETPAGE_SETVALUE then
    let off := getNtohoffset sub.cdb 60
    some (widened off (getNtohl sub.cdb 56), off)
  else if sub.getsetCdbfmt = GETLIST_SETLIST then
    let off := getNtohoffset sub.cdb 64
    some (widened off (getNtohl sub.cdb 60), off)
  else if sub.getsetCdbfmt = GETFIELD_SETVALUE then some (sub.dataLen, 0)
  else none

def outlen : UInt64 := (sub.calcMaxOutLen.map Prod.fst).getD 0

/-- The command as `exec_service_action` gets it. -/
def command : Command where
  cdb := sub.cdb
  getsetCdbfmt := sub.getsetCdbfmt
  retrievedAttrOff := (sub.calcMaxOutLen.map Prod.snd).getD 0
  indata := sub.dataIn
  inlen := sub.dataInLen
  hasOutdata := sub.hasDataOut || sub.outlen ≠ 0
  hasIndata := sub.hasDataIn

/-- The tests before the command runs: the sense key and code of the label one of them jumps to. -/
def refusal : Option (UInt8 × UInt16) :=
  if sub.cdb 0 ≠ VARLEN_CDB ∨ sub.cdb 7 ≠ OSD_CDB_SIZE - 8 then
    some (OSD_SSK_ILLEGAL_REQUEST, OSD_ASC_INVALID_COMMAND_OPCODE)
  else match sub.calcMaxOutLen with
    | none => some (OSD_SSK_ILLEGAL_REQUEST, OSD_ASC_INVALID_FIELD_IN_CDB)
    | some (outlen, _) =>
      if sub.hasDataOut then
        if outlen ≠ sub.dataOutLen then some (OSD_SSK_ILLEGAL_REQUEST, OSD_ASC_INVALID_FIELD_IN_CDB) else none
      else if outlen ≠ 0 ∧ env.noMemory outlen then some (OSD_SSK_HARDWARE_ERROR, OSD_ASC_SYSTEM_RESOURCE_FAILURE)
      else none

end Submission

/-- What is left at the end. -/
structure Report where
  status : UInt8
  /-- `*senselen_out` and what is copied to `sense_out`, if they are touched; `memcpy` cannot copy a
  negative number of bytes. -/
  sense : Option (Int × Option (List UInt8))
  dataOutLen : UInt64
  deriving DecidableEq, Repr

/-- The end of `osdemu_cmd_submit`, from `cmd.senselen` and `cmd.sense`. -/
def Report.of (senselen : Int) (senseBuf : List UInt8) (dataOutLen : UInt64) : Report :=
  if senselen = 0 then ⟨SAM_STAT_GOOD, none, dataOutLen⟩
  else ⟨SAM_STAT_CHECK_CONDITION,
    some (senselen, if 0 ≤ senselen then some (senseBuf.take senselen.toNat) else none), dataOutLen⟩

/-- The device as a new command finds it. -/
def Target.received (s : Target) : Target := { s with out := [], txnCalls := [] }

/-- `cmd.used_outlen` with the retrieved attributes counted; the gap before them is zeroed. -/
def countRetrieved (retrievedAttrOff used : UInt64) (getUsed : UInt32) : OsdM UInt64 :=
  if 0 < getUsed ∧ retrievedAttrOff ≠ 0 - 1 then do
    if used < retrievedAttrOff then
      outWrite used.toNat (List.replicate (retrievedAttrOff - used).toNat 0)
    return retrievedAttrOff + getUsed.toUInt64
  else return used

def osdemuCmdSubmit (sub : Submission) (fuel : Nat) : OsdM Report := do
  match sub.refusal env with
  | some (key, code) =>
    let header := senseHeaderBuild OSD_MAX_SENSE key code 0
    return .of header.length (header ++ List.replicate (OSD_MAX_SENSE - header.length) 0) 0
  | none =>
    modify Target.received
    let o ← execServiceAction env sub.command fuel
    let used ← countRetrieved sub.command.retrievedAttrOff o.used o.getUsed
    -- with nothing used the length is stored as 0, with no buffer it is left alone
    return .of o.ret.senselen o.senseBuf (if 0 < sub.outlen then used else sub.dataOutLen)

/-! ## What is asked of it -/

/-- Sense data are reported that are one block. -/
def Report.HasSense (r : Report) : Prop :=
  ∃ n b, r.sense = some (n, some b) ∧ b.length = n ∧ IsSenseBlock b

/-- CHECK CONDITION with valid sense data, GOOD without any. -/
structure Report.Agrees (r : Report) : Prop where
  check : r.status = SAM_STAT_CHECK_CONDITION ↔ r.HasSense
  good : r.status = SAM_STAT_GOOD ↔ r.sense = none

variable {env} {s : Target} {cmd : Command} {pid oid : UInt64} {fuel : Nat}

/-- A handler of the command comes to a `stat` that fails; READ MAP applies its attributes before. -/
def Command.StatFails (cmd : Command) (env : Env) (fuel : Nat) (s : Target) : Prop :=
  match cmd.serviceAction with
  | .flush => cmd.cdb 10 &&& 0x3 = 2 ∧ env.StatFailsOpen s cmd.pid cmd.oid
  | .punch => env.StatFailsOpen s cmd.pid cmd.oid
  | .readMap => 24 ≤ getNtohll cmd.cdb 32 ∧ env.StatFailsOpen s cmd.pid cmd.oid ∧
      ∃ used s', applyAttributes env cmd cmd.pid cmd.oid 1 fuel 0 s = some ((.ok, used), s')
  | _ => False

/-- CREATE COLLECTION is refused. -/
def Command.RefusesCollection (cmd : Command) (env : Env) (s : Target) : Prop :=
  cmd.serviceAction = .createCollection ∧ ¬ env.CreatesCollection s cmd.pid cmd.oid

/-- The length of the sense data is returned without the data, or a negative number. -/
def Command.Misreports (cmd : Command) (env : Env) (fuel : Nat) (s : Target) : Prop :=
  cmd.cdbContLen = 0 ∧ (cmd.RefusesCollection env s ∨ cmd.StatFails env fuel s)

/-! ## Service actions -/

theorem agrees_of {ret : Ret} (h : ret.Proper) (used : UInt64) (getUsed : UInt32) :
    (Outcome.of ret used getUsed).Agrees := by
  cases ret with
  | ok => exact Outcome.agrees_ok rfl
  | err e => exact h.elim
  | sense x => exact Outcome.agrees_sense rfl rfl h rfl

/-- An outcome whose sense data were built over others, or over none. -/
theorem agrees_over {ret : Ret} (h : ret.Plain) {first : Option Sense} (hfirst : ∀ x, first = some x → Ret.Plain (.sense x))
    (used : UInt64) (getUsed : UInt32) : Outcome.Agrees ⟨ret, used, getUsed, first <|> ret.built⟩ := by
  cases ret with
  | ok => exact Outcome.agrees_ok rfl
  | err e => exact h.elim
  | sense x =>
    cases first with
    | none => exact Outcome.agrees_sense rfl rfl h.1 rfl
    | some y =>
      obtain ⟨hkey, hcsi⟩ := hfirst y rfl
      exact Outcome.agrees_sense rfl rfl hkey (by rw [h.2, hcsi])

theorem plain_built {ret : Ret} (h : ret.Plain) : ∀ x, ret.built = some x → Ret.Plain (.sense x) := by
  intro x hx
  cases ret with
  | ok => exact nomatch hx
  | err e => exact nomatch hx
  | sense y =>
    cases hx
    exact h

theorem agrees_plain {m : OsdM Ret} (h : Yields Ret.Plain m) : Yields Outcome.Agrees (plain m) :=
  yields_call h fun _ hret => yields_pure (agrees_of hret.proper _ _)

theorem plain_noOutput {m : OsdM Ret} (h : Yields Ret.Plain m) : Yields PlainFst (noOutput m) :=
  yields_call h fun _ hret => yields_pure hret

theorem agrees_withGetUsed {m : OsdM (Ret × UInt32)} (h : Yields PlainFst m) : Yields Outcome.Agrees (withGetUsed m) :=
  yields_call h fun _ hret => yields_pure (agrees_of hret.proper _ _)

theorem agrees_noContinuations {m : OsdM Outcome} (h : Yields Outcome.Agrees m) :
    Yields Outcome.Agrees (noContinuations cmd pid oid m) :=
  yields_guard (agrees_of (plain_cdbErr _ _).proper _ _) h

theorem agrees_enoughInput {len : UInt64} {m : OsdM Outcome} (h : Yields Outcome.Agrees m) :
    Yields Outcome.Agrees (enoughInput cmd len m) :=
  yields_guard (agrees_of plain_unimplemented.proper _ _) h

/-! ### Attribute parameters -/

theorem plain_setOnObjects {page number : UInt32} {val : Option Mem} {len : UInt16} {isembedded : Bool} (n : Nat)
    (i : UInt64) : Yields Ret.Plain (setOnObjects env pid page number val len isembedded n i) := by
  induction n generalizing i with
  | zero => exact yields_pure plain_ok
  | succ n ih => exact yields_call plain_osdSetAttributes fun _ hret => yields_guard hret (ih _)

theorem yields_withinTxn {α : Type} {P : α → Prop} {m : OsdM α} (h : Yields P m) : Yields P (withinTxn env m) :=
  yields_bind fun _ => yields_call h fun _ ha => yields_bind fun _ => yields_pure ha

theorem plain_run {c : ParamCheck} {body : Nat → Nat → OsdM Ret} (h : ∀ off len, Yields Ret.Plain (body off len)) :
    Yields Ret.Plain (c.run pid oid body) := by
  cases c with
  | nothing => exact yields_pure plain_ok
  | reject asc => exact yields_pure (plain_sdd (by decide) _ _ _)
  | use off len => exact h off len

theorem plain_setAttrListLoop {indata : Mem} {isembedded : Bool} {numoid : UInt16} (fuel listHdr : Nat)
    (listLen : UInt32) :
    Yields Ret.Plain (setAttrListLoop env indata pid oid isembedded numoid fuel listHdr listLen) := by
  induction fuel generalizing listHdr listLen with
  | zero => exact yields_ite (yields_pure plain_ok) yields_never
  | succ fuel ih =>
    exact yields_guard plain_ok (yields_call (plain_setOnObjects _ _) fun _ hret => yields_guard hret (ih _ _))

theorem plain_setAttributes (numoid : UInt32) : Yields Ret.Plain (setAttributes env cmd pid oid numoid fuel) :=
  yields_guard (plain_cdbErr _ _)
    (yields_ite (plain_run fun _ _ => yields_withinTxn (plain_setOnObjects _ _))
    (yields_ite (plain_run fun _ _ => yields_withinTxn (plain_setAttrListLoop _ _ _))
    (yields_ite (plain_run fun _ _ => yields_withinTxn (plain_setOnObjects _ _)) (yields_pure (plain_cdbErr _ _)))))

theorem plain_getFromObjects {page number : UInt32} {isembedded : Bool} {listfmt : UInt8} (n : Nat) (i : UInt64)
    (c : GetCursor) : Yields PlainFst (getFromObjects env pid page number isembedded listfmt n i c) := by
  induction n generalizing i c with
  | zero => exact yields_pure plain_ok
  | succ n ih => exact yields_call (plain_osdGetattrList _ _ _) fun _ hret => yields_guard hret (ih _ _)

theorem plain_getAttrListLoop {isembedded : Bool} {listfmt : UInt8} {numoid : UInt16} (l : List (UInt32 × UInt32))
    (c : GetCursor) : Yields PlainFst (getAttrListLoop env pid oid isembedded listfmt numoid l c) := by
  induction l generalizing c with
  | nil => exact yields_pure plain_ok
  | cons e l ih => exact yields_call (plain_getFromObjects _ _ _) fun _ hret => yields_guard hret (ih _)

theorem plain_getAttrList (isembedded : Bool) (numoid : UInt16) (used : UInt32) :
    Yields PlainFst (getAttrList env cmd pid oid isembedded numoid used) := by
  unfold getAttrList
  cases getAttrListCheck cmd with
  | nothing => exact yields_pure plain_ok
  | reject asc => exact yields_pure (plain_sdd (by decide) _ _ _)
  | use off len =>
    refine yields_bind fun _ => yields_bind fun _ => yields_call (yields_withinTxn (P := PlainFst)
      (yields_call (plain_getAttrListLoop _ _) fun _ hret => ?_)) fun _ hret => yields_pure hret
    exact yields_ite (yields_bind fun _ => yields_pure hret) (yields_pure hret)

theorem plain_getAttributes (numoid : UInt16) (used : UInt32) :
    Yields PlainFst (getAttributes env cmd pid oid numoid used) := by
  have hpage : Yields PlainFst (getAttrPage env cmd pid oid true numoid used) :=
    yields_guard plain_ok (yields_guard (plain_paramListLengthErr _ _) (yields_guard (plain_paramListLengthErr _ _)
      (yields_call (plain_osdGetattrPage _ _) fun _ hret => yields_pure hret)))
  exact yields_guard (plain_cdbErr _ _) (yields_ite hpage (yields_ite (plain_getAttrList _ _ _)
    (yields_guard plain_ok (yields_pure (plain_cdbErr _ _)))))

theorem plain_applyAttributes (numoid : UInt16) (used : UInt32) :
    Yields PlainFst (applyAttributes env cmd pid oid numoid fuel used) :=
  yields_call (plain_setAttributes _) fun _ hret => yields_guard hret (plain_getAttributes _ _)

theorem plain_attributesOrUndo (numoid : UInt16) (used : UInt32) (undo : OsdM Unit) :
    Yields PlainFst (attributesOrUndo env cmd pid oid numoid fuel used undo) :=
  yields_call (plain_applyAttributes _ _) fun _ hret =>
    yields_ite (yields_bind fun _ => yields_pure hret) (yields_pure hret)

theorem agrees_withAttributes {m : OsdM (Ret × Option UInt64)} (h : Yields PlainFst m) :
    Yields Outcome.Agrees (withAttributes env cmd pid oid fuel m) :=
  yields_call h fun _ hret => yields_guard (agrees_of hret.proper _ _)
    (yields_call (plain_applyAttributes _ _) fun _ hret => yields_pure (agrees_of hret.proper _ _))

theorem agrees_afterAttributes {m : OsdM (Ret × Option UInt64)} (h : Yields PlainFst m) :
    Yields Outcome.Agrees (afterAttributes env cmd pid oid fuel m) :=
  yields_call (plain_applyAttributes _ _) fun _ hret => yields_guard (agrees_of hret.proper _ _)
    (yields_call h fun _ hret => yields_pure (agrees_of hret.proper _ _))

/-! ### Creating -/

theorem plain_cdbCreate : Yields PlainFst (cdbCreate env cmd fuel 0) :=
  yields_guard (plain_cdbErr _ _) (yields_call (yields_withinTxn (plain_osdCreate _ _)) fun _ hret =>
    yields_guard hret (yields_bind fun _ => plain_attributesOrUndo _ _ _))

theorem plain_cdbCreatePartition : Yields PlainFst (cdbCreatePartition env cmd fuel 0) :=
  yields_call (plain_osdCreatePartition _) fun _ hret =>
    yields_guard hret (yields_bind fun _ => plain_attributesOrUndo _ _ _)

/-- The sense data built for the descriptors only count where there are none, and then the status is 0. -/
theorem agrees_afterTest {o : Outcome} (h : o.Agrees) (ds : List ContDescriptor) : (o.afterTest cmd ds).Agrees := by
  obtain ⟨ret, used, getUsed, sense⟩ := o
  unfold Outcome.afterTest
  split
  · cases sense with
    | some x => exact h
    | none =>
      cases ret with
      | ok => exact Outcome.agrees_ok rfl
      | err e => exact absurd rfl (Ret.senselen_nonneg.1 h.nonneg e)
      | sense x => exact absurd h (Outcome.not_agrees_unbuilt rfl rfl)
  · exact h

theorem agrees_execWrite (ds : List ContDescriptor) : Yields Outcome.Agrees (execWrite env cmd ds fuel) :=
  agrees_enoughInput (yields_call (agrees_withAttributes (plain_noOutput (plain_osdWrite _ _ _ _ _)))
    fun _ ho => yields_pure (agrees_afterTest ho ds))

theorem agrees_execCreateAndWrite (ds : List ContDescriptor) :
    Yields Outcome.Agrees (execCreateAndWrite env cmd ds) := by
  have hsense : ∀ len offset data sglist ddt, Yields (fun r : Ret × Option Sense => Outcome.Agrees ⟨r.1, 0, 0, r.2⟩)
      (osdCreateAndWriteSense env cmd.pid cmd.oid len offset data sglist ddt) := fun _ _ _ _ _ =>
    yields_call (plain_osdCreate _ _) fun _ hret => yields_guard (agrees_of hret.proper 0 0)
      (yields_call (plain_osdWrite _ _ _ _ _) fun _ hret => yields_ite
        (yields_call plain_osdRemove fun _ hundo => yields_pure (agrees_over hret (plain_built hundo) 0 0))
        (yields_pure (agrees_of hret.proper 0 0)))
  exact agrees_enoughInput (yields_call (hsense _ _ _ _ _) fun _ ho => yields_pure (agrees_afterTest ho ds))

/-! ### Data and atomics -/

theorem agrees_cdbRead (ds : List ContDescriptor) : Yields Outcome.Agrees (cdbRead env cmd ds fuel) :=
  yields_guard (agrees_of (plain_cdbErr _ _).proper _ _) (yields_call (proper_osdReadDevice _ _ _) fun _ hret =>
    yields_guard (agrees_of hret _ _) (yields_call (plain_applyAttributes _ _) fun _ hret' =>
      yields_guard (agrees_of hret'.proper _ _) (yields_pure (agrees_of hret _ _))))

/-- The two atomics of the 64-bit value. -/
theorem agrees_atomic {m : OsdM (Ret × Option UInt64)} (h : Yields PlainFst m) :
    Yields Outcome.Agrees (if ¬ atomicArguments cmd then return .of (cdbErr cmd.pid cmd.oid) 0 0
      else withAttributes env cmd cmd.pid cmd.oid fuel m) :=
  yields_guard (agrees_of (plain_cdbErr _ _).proper _ _) (agrees_withAttributes h)

theorem plain_casSetattrLoop (fuel list : Nat) (listLen : UInt32) :
    Yields Ret.Plain (casSetattrLoop env cmd fuel list listLen) := by
  induction fuel generalizing list listLen with
  | zero => exact yields_ite (yields_pure plain_ok) yields_never
  | succ fuel ih =>
    exact yields_guard plain_ok (yields_call plain_osdSetAttributes fun _ hret => yields_guard hret (ih _ _))

theorem yields_freeUnset {α : Type} {P : α → Prop} {a : α} (h : P a) :
    Yields P (freeUnset env >>= fun _ => (pure a : OsdM α)) :=
  yields_bind fun _ => yields_pure h

theorem plain_execGenCas :
    Yields (fun r : Except Ret GenCasResult => ∀ ret, r = .error ret → ret.Plain) (execGenCas env cmd) := by
  unfold execGenCas
  split
  · refine yields_freeUnset ?_
    rintro _ ⟨⟩
    exact plain_sdd (by decide) _ _ _
  · refine yields_call (plain_osdGenCas _ _ _ _ _ _) fun r hret => yields_guard ?_ (yields_pure nofun)
    rintro _ ⟨⟩
    exact hret

/-- Whatever went wrong in `exec_getattr`, `cdb_gen_cas` reports the same. -/
theorem agrees_cdbGenCas (cond : Bool) : Yields Outcome.Agrees (cdbGenCas env cmd cond fuel) := by
  have herr : ∀ getUsed, (Outcome.of (cdbErr cmd.pid cmd.oid) 0 getUsed).Agrees := fun _ =>
    agrees_of (plain_cdbErr _ _).proper _ _
  have hget : ∀ r, Yields Outcome.Agrees (execGetattr env cmd r >>= fun p =>
      if p.1 = .ok then pure (.of .ok 0 p.2) else pure (.of (cdbErr cmd.pid cmd.oid) 0 p.2)) := fun _ =>
    yields_bind fun _ => yields_guard (agrees_of plain_ok.proper _ _) (yields_pure (herr _))
  refine yields_ite (yields_freeUnset (herr 0)) (yields_call plain_execGenCas fun r hr => ?_)
  cases r with
  | error ret => exact yields_pure (agrees_of (hr _ rfl).proper _ _)
  | ok r =>
    have hset : Yields Ret.Plain (execCasSetattr env cmd fuel r.list r.listLen) :=
      yields_guard (plain_cdbErr _ _) (plain_casSetattrLoop _ _ _)
    exact yields_ite (yields_call hset fun _ hret => yields_guard (agrees_of hret.proper _ _) (hget r)) (hget r)

/-! ### Lists, queries, collections -/

theorem agrees_cdbList : Yields Outcome.Agrees (cdbList env cmd) := by
  have herr : ∀ oid, (Outcome.of (cdbErr cmd.pid oid) 0 0).Agrees := fun _ => agrees_of (plain_cdbErr _ _).proper _ _
  refine yields_guard (herr _) ?_
  split
  · exact yields_call (plain_osdList _ _ _ _ _) fun _ hret => yields_pure (agrees_of hret.proper _ _)
  · exact yields_pure (herr _)

theorem agrees_execQuery (ds : List ContDescriptor) : Yields Outcome.Agrees (execQuery env cmd ds fuel) := by
  unfold execQuery
  split
  · exact yields_pure (agrees_of (plain_cdbErr _ _).proper _ _)
  · exact agrees_withAttributes (plain_osdQuery _ _ _ _)

theorem agrees_cdbSetMemberAttributes : Yields Outcome.Agrees (cdbSetMemberAttributes env cmd fuel) := by
  unfold cdbSetMemberAttributes
  split
  · exact yields_never
  · exact agrees_plain (plain_osdSetMemberAttributes _)
  · exact yields_pure (agrees_of (plain_cdbErr _ _).proper _ _)

theorem agrees_cdbCopyUserObjects (ds : List ContDescriptor) :
    Yields Outcome.Agrees (cdbCopyUserObjects env cmd ds) := by
  have herr : Yields Outcome.Agrees (pure (.of (cdbErr cmd.pid cmd.oid) 0 0) : OsdM Outcome) :=
    yields_pure (agrees_of (plain_cdbErr _ _).proper _ _)
  unfold cdbCopyUserObjects
  cases copyDescriptor ds with
  | none => exact herr
  | some d => exact yields_ite (yields_bind fun _ => herr) herr

theorem agrees_execGetAttributes : Yields Outcome.Agrees (execGetAttributes env cmd fuel) :=
  yields_call (plain_getAttributes _ _) fun _ hret => yields_guard (agrees_of hret.proper _ _)
    (yields_call (plain_setAttributes _) fun _ hret => yields_pure (agrees_of hret.proper _ _))

/-! ### The two kinds that do not agree -/

theorem Env.StatFailsOpen.congr {s' : Target} (h : IdStep s s') :
    env.StatFailsOpen s' pid oid ↔ env.StatFailsOpen s pid oid := by
  have hfile : (s'.lookup env pid oid).isSome = (s.lookup env pid oid).isSome := by
    unfold Target.lookup
    rw [h.rootFreed]
    split
    · rfl
    · exact h.files pid oid
  constructor
  · rintro ⟨hid, hf, hopen, hstat⟩
    exact ⟨hid, hfile ▸ hf, hopen, hstat⟩
  · rintro ⟨hid, hf, hopen, hstat⟩
    exact ⟨hid, hfile ▸ hf, hopen, hstat⟩

theorem not_agrees_err {e : Errno} {used : UInt64} {getUsed : UInt32} : ¬ (Outcome.of (.err e) used getUsed).Agrees :=
  fun h => Ret.senselen_nonneg.1 h.nonneg e rfl

/-- A continuation segment is refused in front of the handler. -/
theorem noContinuations_agrees_iff {m : OsdM Outcome} {c : Prop} (h : (Ends m s fun o _ => o.Agrees) ↔ ¬ c) :
    (Ends (noContinuations cmd pid oid m) s fun o _ => o.Agrees) ↔ ¬ (cmd.cdbContLen = 0 ∧ c) := by
  unfold noContinuations
  by_cases h0 : cmd.cdbContLen = 0
  · rw [if_neg fun hne => hne h0, h, and_iff_right h0]
  · rw [if_pos h0]
    exact iff_of_true (ends_pure.2 (agrees_of (plain_cdbErr _ _).proper _ _)) fun hc => h0 hc.1

theorem flush_agrees_iff {flushScope : UInt8} {len offset : UInt64} :
    (Ends (plain (osdFlush env pid oid len offset flushScope)) s fun o _ => o.Agrees) ↔
      ¬ (flushScope = 2 ∧ env.StatFailsOpen s pid oid) := by
  unfold plain
  constructor
  · rintro h ⟨rfl, hstat⟩
    rw [ends_bind, ends_of_run (osdFlush_stat hstat len offset)] at h
    exact not_agrees_err (ends_pure.1 h)
  · exact fun h => ends_call (osdFlush_plain (fun hscope hstat => h ⟨hscope, hstat⟩) len offset)
      fun _ _ hret => ends_pure.2 (agrees_of hret.proper _ _)

theorem punch_agrees_iff {len offset : UInt64} :
    (Ends (withAttributes env cmd pid oid fuel (noOutput (osdPunch env pid oid len offset))) s
      fun o _ => o.Agrees) ↔ ¬ env.StatFailsOpen s pid oid := by
  unfold withAttributes noOutput
  constructor
  · intro h hstat
    rw [ends_bind, ends_bind, ends_of_run (osdPunch_stat hstat len offset)] at h
    exact not_agrees_err (h _ _ rfl _ _ rfl)
  · exact fun h => ends_bind.2 (ends_call (osdPunch_plain h len offset) fun _ _ hret => ends_pure.2
      (ends_ite_of (fun _ => ends_pure.2 (agrees_of hret.proper _ _)) fun _ => yields_call (plain_applyAttributes _ _)
        (fun _ hret => yields_pure (agrees_of hret.proper _ _)) _))

theorem readMap_agrees_iff : (Ends (cdbReadMap env cmd fuel) s fun o _ => o.Agrees) ↔
    ¬ (24 ≤ getNtohll cmd.cdb 32 ∧ env.StatFailsOpen s cmd.pid cmd.oid ∧
      ∃ used s', applyAttributes env cmd cmd.pid cmd.oid 1 fuel 0 s = some ((.ok, used), s')) := by
  unfold cdbReadMap afterAttributes
  constructor
  · rintro h ⟨hlen, hstat, used, t, happly⟩
    have hstep : IdStep s t := resp_applyAttributes_idStep s _ _ happly
    obtain ⟨t', hmap⟩ := osdReadMap_stat ((Env.StatFailsOpen.congr hstep).2 hstat) hlen (getNtohll cmd.cdb 40)
      (getNtohs cmd.cdb 48)
    rw [ends_bind, ends_of_run happly] at h
    have h := (ends_of_run hmap).1 (ends_bind.1 h)
    exact not_agrees_err (ends_pure.1 h)
  · intro h
    refine ends_bind.2 fun ⟨ret, used⟩ t happly => ends_ite_of (fun _ => ?_) fun hok => ?_
    · exact ends_pure.2 (agrees_of ((plain_applyAttributes _ _) s _ _ happly).proper _ _)
    · obtain rfl : ret = .ok := Decidable.not_not.1 hok
      have hstep : IdStep s t := resp_applyAttributes_idStep s _ _ happly
      exact ends_call (osdReadMap_plain (fun hlen hstat => h ⟨hlen, (Env.StatFailsOpen.congr hstep).1 hstat, used, t,
        happly⟩) _ _) fun _ _ hret => ends_pure.2 (agrees_of hret.proper _ _)

/-- What goes wrong after the creation is reported as everywhere. -/
theorem createCollection_agrees_iff : (Ends (cdbCreateCollectionSense env cmd fuel) s fun o _ => o.Agrees) ↔
    env.CreatesCollection s cmd.pid cmd.oid := by
  unfold cdbCreateCollectionSense
  constructor
  · intro h
    by_contra hno
    have hends : Ends (osdCreateCollection env cmd.pid cmd.oid) s fun ret _ => ret ≠ .ok :=
      osdCreateCollection_creates (fun _ _ hret _ => hret) fun hc => absurd hc hno
    obtain ⟨ret, t, hrun, hret⟩ := hends.of_halts (halts_osdCreateCollection _ _)
    have hplain : ret.Plain := plain_osdCreateCollection _ s _ _ hrun
    rw [ends_bind, ends_of_run hrun, if_pos hret] at h
    have h := ends_pure.1 h
    cases ret with
    | ok => exact hret rfl
    | err e => exact hplain
    | sense x => exact Outcome.not_agrees_unbuilt rfl rfl h
  · intro hc
    have hends : Ends (osdCreateCollection env cmd.pid cmd.oid) s fun ret _ => ret = .ok :=
      osdCreateCollection_creates (fun _ _ _ hno => absurd hc hno) fun _ => rfl
    refine ends_call hends ?_
    rintro _ t rfl
    exact ends_ite_of (fun h => absurd rfl h) fun _ => ends_bind.2 (ends_get.2
      (agrees_withGetUsed (plain_attributesOrUndo _ _ _) t))

/-! ## Dispatch -/

theorem dispatch_agrees_iff {ds : List ContDescriptor} :
    (Ends (dispatch env cmd ds fuel) s fun o _ => o.Agrees) ↔ ¬ cmd.Misreports env fuel s := by
  have hother : ∀ {a : ServiceAction} {x c : Prop}, a ≠ .createCollection →
      ¬ (x ∧ ((a = .createCollection ∧ c) ∨ False)) := fun ha h => h.2.elim (fun hc => ha hc.1) id
  have hnone : ∀ {p : Prop} {a : ServiceAction} {c : Prop}, a ≠ .createCollection →
      ((a = .createCollection ∧ c) ∨ p ↔ p) := fun ha => or_iff_right fun hc => ha hc.1
  have hunimplemented : Yields Outcome.Agrees (pure (.of osdErrorUnimplemented 0 0) : OsdM Outcome) :=
    yields_pure (agrees_of plain_unimplemented.proper _ _)
  have hpure : ∀ {ret : Ret}, ret = osdErrorUnimplemented → Yields Outcome.Agrees (plain (pure ret)) := by
    rintro _ rfl
    exact agrees_plain (yields_pure plain_unimplemented)
  unfold dispatch Command.Misreports Command.RefusesCollection Command.StatFails
  cases cmd.serviceAction with
  | append =>
    exact iff_of_true (agrees_enoughInput (agrees_noContinuations (agrees_withAttributes
      (plain_noOutput (plain_contigAppend _ _)))) s) (hother (by decide))
  | clear =>
    exact iff_of_true (agrees_noContinuations (agrees_withAttributes (plain_noOutput (plain_osdClear _ _))) s)
      (hother (by decide))
  | copyUserObjects => exact iff_of_true (agrees_cdbCopyUserObjects ds s) (hother (by decide))
  | create => exact iff_of_true (agrees_noContinuations (agrees_withGetUsed plain_cdbCreate) s) (hother (by decide))
  | createAndWrite => exact iff_of_true (agrees_execCreateAndWrite ds s) (hother (by decide))
  | createCollection =>
    refine noContinuations_agrees_iff (createCollection_agrees_iff.trans ?_)
    rw [or_iff_left id, and_iff_right rfl, not_not]
  | createPartition =>
    exact iff_of_true (agrees_noContinuations (agrees_withGetUsed plain_cdbCreatePartition) s) (hother (by decide))
  | createUserTrackingCollection =>
    exact iff_of_true (agrees_plain (plain_osdCreateUserTrackingCollection _ _ _) s) (hother (by decide))
  | flush =>
    refine noContinuations_agrees_iff (flush_agrees_iff.trans ?_)
    rw [hnone (by decide)]
  | flushCollection => exact iff_of_true (agrees_noContinuations (hpure rfl) s) (hother (by decide))
  | flushOsd => exact iff_of_true (agrees_noContinuations (hpure rfl) s) (hother (by decide))
  | flushPartition => exact iff_of_true (agrees_noContinuations (hpure rfl) s) (hother (by decide))
  | formatOsd =>
    exact iff_of_true (agrees_noContinuations (agrees_withAttributes (plain_noOutput plain_osdFormatOsd)) s)
      (hother (by decide))
  | getAttributes => exact iff_of_true (agrees_noContinuations agrees_execGetAttributes s) (hother (by decide))
  | getMemberAttributes => exact iff_of_true (hpure rfl s) (hother (by decide))
  | list => exact iff_of_true (agrees_cdbList s) (hother (by decide))
  | listCollection =>
    exact iff_of_true (agrees_withAttributes (plain_osdListCollection _ _ _ _) s) (hother (by decide))
  | performScsi => exact iff_of_true (agrees_noContinuations hunimplemented s) (hother (by decide))
  | punch =>
    refine noContinuations_agrees_iff (punch_agrees_iff.trans ?_)
    rw [hnone (by decide)]
  | query => exact iff_of_true (agrees_execQuery ds s) (hother (by decide))
  | read => exact iff_of_true (agrees_cdbRead ds s) (hother (by decide))
  | readMap =>
    refine noContinuations_agrees_iff (readMap_agrees_iff.trans ?_)
    rw [hnone (by decide)]
  | remove =>
    exact iff_of_true (agrees_noContinuations (agrees_afterAttributes (plain_noOutput plain_osdRemove)) s)
      (hother (by decide))
  | removeCollection =>
    exact iff_of_true (agrees_noContinuations (agrees_plain (plain_osdRemoveCollection _)) s) (hother (by decide))
  | removeMemberObjects => exact iff_of_true (agrees_noContinuations (hpure rfl) s) (hother (by decide))
  | removePartition =>
    exact iff_of_true (agrees_noContinuations (agrees_afterAttributes (plain_noOutput plain_osdRemovePartition)) s)
      (hother (by decide))
  | setAttributes =>
    exact iff_of_true (agrees_noContinuations (agrees_withGetUsed (plain_applyAttributes _ _)) s)
      (hother (by decide))
  | setKey => exact iff_of_true (hpure rfl s) (hother (by decide))
  | setMasterKey => exact iff_of_true (agrees_noContinuations (hpure rfl) s) (hother (by decide))
  | setMemberAttributes =>
    exact iff_of_true (agrees_noContinuations agrees_cdbSetMemberAttributes s) (hother (by decide))
  | write => exact iff_of_true (agrees_execWrite ds s) (hother (by decide))
  | cas => exact iff_of_true (agrees_atomic (plain_osdCas _ _ _) s) (hother (by decide))
  | fa => exact iff_of_true (agrees_atomic (plain_osdFa _ _) s) (hother (by decide))
  | genCas => exact iff_of_true (agrees_cdbGenCas false s) (hother (by decide))
  | condSetattr => exact iff_of_true (agrees_cdbGenCas true s) (hother (by decide))
  | other => exact iff_of_true (hunimplemented s) (hother (by decide))

/-- What the parser of the continuation segment answers with is its one error, unless it accepts. -/
theorem parseCdbContinuationSegment_plain {indata : Mem} {cdbContLen : UInt32} {action : UInt16} {n : Nat}
    {r : Ret × List ContDescriptor}
    (h : parseCdbContinuationSegment indata cdbContLen action pid oid n = some r) : r.1.Plain := by
  unfold parseCdbContinuationSegment at h
  dsimp only at h
  split at h
  · obtain ⟨⟨off, ds⟩, -, hexit | hfail⟩ := rounds_some h
    · rw [contRound] at hexit
      split at hexit
      · cases hexit
        exact plain_ok
      · dsimp only at hexit
        split at hexit <;> cases hexit
    · rw [contRound] at hfail
      split at hfail
      · cases hfail
      · dsimp only at hfail
        split at hfail <;> cases hfail
        exact plain_cdbErr _ _
  · cases h
    exact plain_cdbErr _ _

/-- **What `exec_service_action` leaves agrees exactly when the command is none of those.** -/
theorem execServiceAction_agrees_iff :
    (Ends (execServiceAction env cmd fuel) s fun o _ => o.Agrees) ↔ ¬ cmd.Misreports env fuel s := by
  unfold execServiceAction
  split
  · exact dispatch_agrees_iff
  · next hne =>
    have hno : ¬ cmd.Misreports env fuel s := fun h => hne h.1
    split
    · exact iff_of_true (ends_never.2 trivial) hno
    · exact dispatch_agrees_iff
    · next hparse =>
      exact iff_of_true (ends_pure.2 (agrees_of (parseCdbContinuationSegment_plain hparse).proper _ _)) hno

/-! ## Reports -/

theorem Outcome.senseBuf_length (o : Outcome) : OSD_MAX_SENSE ≤ o.senseBuf.length := by
  unfold Outcome.senseBuf
  rw [List.length_append, List.length_replicate]
  omega

theorem Ret.senselen_le (ret : Ret) : ret.senselen ≤ OSD_MAX_SENSE := by
  cases ret with
  | ok => decide
  | err e =>
    have hneg : (Ret.err e).senselen = -(e.code : Int) := rfl
    omega
  | sense x =>
    have hlen : (Ret.sense x).senselen = (x.bytes.length : Int) := rfl
    have hmax : (OSD_MAX_SENSE : Int) = 252 := rfl
    rw [hlen, x.bytes_length]
    split <;> omega

/-- What is copied out is one block if the length is that of one. -/
theorem Report.of_agrees {n : Int} {buf : List UInt8} {len : UInt64} (hn : n ≤ buf.length) :
    (Report.of n buf len).Agrees ↔ 0 ≤ n ∧ (0 < n → IsSenseBlock (buf.take n.toNat)) := by
  unfold Report.of
  by_cases h0 : n = 0
  · rw [if_pos h0]
    have hno : ¬ (⟨SAM_STAT_GOOD, none, len⟩ : Report).HasSense := by
      rintro ⟨_, _, h, -⟩
      cases h
    have hstatus : SAM_STAT_GOOD ≠ SAM_STAT_CHECK_CONDITION := by decide
    exact iff_of_true ⟨iff_of_false hstatus hno, iff_of_true rfl rfl⟩
      ⟨by omega, fun hpos => absurd h0 (by omega)⟩
  · rw [if_neg h0]
    have hstatus : SAM_STAT_CHECK_CONDITION ≠ SAM_STAT_GOOD := by decide
    constructor
    · rintro ⟨hcheck, -⟩
      obtain ⟨m, b, hsense, -, hblock⟩ := hcheck.1 rfl
      obtain ⟨rfl, hcopy⟩ := Prod.mk.inj (Option.some.inj hsense)
      split at hcopy
      · next hpos =>
        cases hcopy
        exact ⟨hpos, fun _ => hblock⟩
      · cases hcopy
    · rintro ⟨hpos, hblock⟩
      rw [if_pos hpos]
      have hlen : (buf.take n.toNat).length = n.toNat := by
        rw [List.length_take]
        omega
      refine ⟨iff_of_true rfl ⟨n, _, rfl, ?_, hblock (by omega)⟩, iff_of_false hstatus nofun⟩
      rw [hlen]
      omega

/-- A header alone is a block that announces nothing behind it. -/
theorem Report.refused_agrees {key : UInt8} (hkey : key ≠ 0) (code : UInt16) (len : UInt64) :
    let header := senseHeaderBuild OSD_MAX_SENSE key code 0
    (Report.of header.length (header ++ List.replicate (OSD_MAX_SENSE - header.length) 0) len).Agrees := by
  intro header
  have htake : (header ++ List.replicate (OSD_MAX_SENSE - header.length) 0).take (header.length : Int).toNat
      = header := List.take_left
  refine (Report.of_agrees ?_).2 ⟨Int.natCast_nonneg _, fun _ => ?_⟩
  · rw [List.length_append]
    omega
  · rw [htake]
    exact ⟨rfl, ⟨key, rfl, hkey⟩, 0, rfl, rfl⟩

/-- All tests before the command have a sense key. -/
theorem Submission.refusal_key {sub : Submission} {key : UInt8} {code : UInt16}
    (h : sub.refusal env = some (key, code)) : key ≠ 0 := by
  have hill : OSD_SSK_ILLEGAL_REQUEST ≠ 0 := by decide
  have hhw : OSD_SSK_HARDWARE_ERROR ≠ 0 := by decide
  unfold Submission.refusal at h
  split at h
  · cases h
    exact hill
  · split at h
    · cases h
      exact hill
    · split at h
      · split at h <;> cases h
        exact hill
      · split at h <;> cases h
        exact hhw

theorem halts_countRetrieved (off used : UInt64) (getUsed : UInt32) : Halts (countRetrieved off used getUsed) :=
  halts_ite (halts_ite (halts_bind (halts_modify _) fun _ => halts_pure _) (halts_pure _)) (halts_pure _)

/-- **The report agrees exactly when what the command leaves does.** -/
theorem osdemuCmdSubmit_agrees_iff {sub : Submission} :
    (Ends (osdemuCmdSubmit env sub fuel) s fun r _ => r.Agrees) ↔
      (sub.refusal env = none → ¬ sub.command.Misreports env fuel s.received) := by
  unfold osdemuCmdSubmit
  split
  · next key code hrefused =>
    rw [hrefused]
    exact iff_of_true (ends_pure.2 (Report.refused_agrees (Submission.refusal_key hrefused) _ _)) nofun
  · next hnone =>
    rw [forall_prop_of_true hnone, ← execServiceAction_agrees_iff, ends_bind, ends_modify, ends_bind]
    refine Ends.congr fun o t _ => ?_
    have hreport : ∀ len, (Report.of o.ret.senselen o.senseBuf len).Agrees ↔ o.Agrees := fun len =>
      (Report.of_agrees (o.ret.senselen_le.trans (Int.ofNat_le.2 o.senseBuf_length))).trans
        ⟨fun h => ⟨h.1, h.2⟩, fun h => ⟨h.1, h.2⟩⟩
    obtain ⟨used, t', hcount⟩ := halts_countRetrieved sub.command.retrievedAttrOff o.used o.getUsed t
    show (Ends (countRetrieved _ _ _ >>= _) t _) ↔ o.Agrees
    rw [ends_bind, ends_of_run hcount, ends_pure, hreport]

/-- **Status and sense data agree** except where `stat` fails on an object that could be opened, and
where CREATE COLLECTION is refused: of every handler, of every service action and of every command that is
submitted. -/
theorem status_agrees_with_sense :
    (∀ (h : Handler) (s : Target), (Ends (h.run env) s fun ret _ => 0 ≤ ret.senselen) ↔ ¬ h.StatFails env s) ∧
    (∀ (cmd : Command) (fuel : Nat) (s : Target),
      (Ends (execServiceAction env cmd fuel) s fun o _ => o.Agrees) ↔ ¬ cmd.Misreports env fuel s) ∧
    ∀ (sub : Submission) (fuel : Nat) (s : Target),
      (Ends (osdemuCmdSubmit env sub fuel) s fun r _ => r.Agrees) ↔
        (sub.refusal env = none → ¬ sub.command.Misreports env fuel s.received) :=
  ⟨fun _ _ => Handler.nonneg_iff, fun _ _ _ => execServiceAction_agrees_iff, fun _ _ _ => osdemuCmdSubmit_agrees_iff⟩

/-- CREATE COLLECTION of a collection in a partition that is not there. -/
def missingPartition : Submission where
  cdb := blobMem ([VARLEN_CDB, 0, 0, 0, 0, 0, 0, OSD_CDB_SIZE - 8] ++ htons 0x8895 ++ [0, 0x20, 0, 0, 0, 0] ++
    htonll 0x10000 ++ htonll 0x10000)
  dataIn := fun _ => 0
  dataInLen := 0
  hasDataIn := false
  hasDataOut := false
  dataOutLen := 0

/-- Of the 40 bytes of sense data that are reported, all are 0; and FLUSH of a part of an object returns
`OSD_ERROR` where `stat` fails. -/
theorem missingPartition_reported :
    (¬ ∀ (env : Env) (sub : Submission) (fuel : Nat) (s : Target),
      Ends (osdemuCmdSubmit env sub fuel) s fun r _ => r.Agrees) ∧
    ¬ ∀ (env : Env) (h : Handler) (s : Target), Ends (h.run env) s fun ret _ => 0 ≤ ret.senselen := by
  constructor <;> intro h
  · have hreport : (osdemuCmdSubmit .calm missingPartition 0 Target.fresh).map (fun r => (r.1.status, r.1.sense))
        = some (SAM_STAT_CHECK_CONDITION, some (40, some (List.replicate 40 0))) := by
      decide +kernel
    obtain ⟨⟨r, s'⟩, hrun, heq⟩ := Option.map_eq_some_iff.1 hreport
    obtain ⟨hstatus, hzeros⟩ := Prod.mk.inj heq
    obtain ⟨n, b, hsense, -, hblock⟩ := (h .calm missingPartition 0 Target.fresh r s' hrun).check.1 hstatus
    obtain ⟨-, hb⟩ := Prod.mk.inj (Option.some.inj (hzeros.symm.trans hsense))
    obtain rfl := Option.some.inj hb
    exact absurd hblock.format (by decide)
  · let env : Env := { Env.calm with sysFails := fun c => c = .stat 0x10000 0x10000 }
    have hret : (osdFlush env 0x10000 0x10000 0 0 2 (calmRun [.createPartition 0, .create 0x10000 0 1])).map Prod.fst
        = some (.err .osdError) := by
      decide +kernel
    obtain ⟨⟨ret, s'⟩, hrun, rfl⟩ := Option.map_eq_some_iff.1 hret
    have hneg : ¬ 0 ≤ (Ret.err .osdError).senselen := by decide
    exact hneg (h env (.flush 0x10000 0x10000 0 0 2) _ _ _ hrun)

end OsdTarget
