import OsdTarget.Cdb
import OsdTarget.Continuation
import OsdTarget.DataCommands
import OsdTarget.Listing
import OsdTarget.Query
import OsdTarget.Reply
import OsdTarget.System

/-!
# `cdb.c`: service actions

The handlers of the service actions and their dispatch in `exec_service_action`.  A handler answers
with what it leaves in `struct command`; the sense data it builds for a nonzero status goes to
`cmd->sense` unless it is given another buffer.
-/

namespace OsdTarget

open Base

/-! ## Actions -/

def VARLEN_CDB : UInt8 := 0x7f
def OSD_CDB_SIZE : UInt8 := 236
def OSD_ASC_INVALID_COMMAND_OPCODE : UInt16 := 0x2000

/-- The service actions `exec_service_action` has a handler for; `other` is answered as not
implemented. -/
inductive ServiceAction
  | append | clear | copyUserObjects | create | createAndWrite | createCollection | createPartition
  | createUserTrackingCollection | flush | flushCollection | flushOsd | flushPartition | formatOsd
  | getAttributes | getMemberAttributes | list | listCollection | performScsi | punch | query | read
  | readMap | remove | removeCollection | removeMemberObjects | removePartition | setAttributes | setKey
  | setMasterKey | setMemberAttributes | write | cas | fa | genCas | condSetattr | other
  deriving DecidableEq, Repr

/-- The codes of `osd-defs.h`. -/
def serviceActions : List (UInt16 × ServiceAction) := [
  (0x8887, .append), (0x8889, .clear), (0x8893, .copyUserObjects), (0x8882, .create),
  (0x8892, .createAndWrite), (0x8895, .createCollection), (0x888b, .createPartition),
  (0x8894, .createUserTrackingCollection), (0x8888, .flush), (0x889a, .flushCollection),
  (0x889c, .flushOsd), (0x889b, .flushPartition), (0x8881, .formatOsd), (0x888e, .getAttributes),
  (0x88a2, .getMemberAttributes), (0x8883, .list), (0x8897, .listCollection), (0x8f7c, .performScsi),
  (0x8f7d, .performScsi), (0x8884, .punch), (0x88a0, .query), (0x8885, .read), (0x88b1, .readMap),
  (0x888a, .remove), (0x8896, .removeCollection), (0x88a1, .removeMemberObjects),
  (0x888c, .removePartition), (0x888f, .setAttributes), (0x8898, .setKey), (0x8899, .setMasterKey),
  (0x88a3, .setMemberAttributes), (0x8886, .write), (0x888d, .cas), (0x8890, .fa), (0x88a5, .genCas),
  (0x8891, .condSetattr)]

/-- `cmd->action`. -/
def Command.action (cmd : Command) : UInt16 := getNtohs cmd.cdb 8

def Command.serviceAction (cmd : Command) : ServiceAction :=
  (serviceActions.lookup cmd.action).getD .other

/-- The ids most commands are about, and the length of the continuation segment. -/
def Command.pid (cmd : Command) : UInt64 := getNtohll cmd.cdb 16
def Command.oid (cmd : Command) : UInt64 := getNtohll cmd.cdb 24
def Command.cdbContLen (cmd : Command) : UInt32 := getNtohl cmd.cdb 48

/-! ## What a handler leaves -/

/-- The sense data that a status is the length of. -/
def Ret.built : Ret → Option Sense
  | .sense x => some x
  | _ => none

/-- `ret`, `used_outlen`, `get_used_outlen`, and the sense data built last in `cmd->sense`. -/
structure Outcome where
  ret : Ret
  used : UInt64
  getUsed : UInt32
  sense : Option Sense
  deriving DecidableEq, Repr

/-- A handler that builds its sense data in `cmd->sense`. -/
def Outcome.of (ret : Ret) (used : UInt64) (getUsed : UInt32) : Outcome := ⟨ret, used, getUsed, ret.built⟩

variable (env : Env)

/-- A command on (pid, oid), then `std_get_set_attr`. -/
def withAttributes (cmd : Command) (pid oid : UInt64) (fuel : Nat) (m : OsdM (Ret × Option UInt64)) :
    OsdM Outcome := do
  let (ret, used) ← m
  if ret ≠ .ok then
    return .of ret (used.getD 0) 0
  let (ret, getUsed) ← applyAttributes env cmd pid oid 1 fuel 0
  return .of ret (used.getD 0) getUsed

/-- The attributes of (pid, oid) first, then the command. -/
def afterAttributes (cmd : Command) (pid oid : UInt64) (fuel : Nat) (m : OsdM (Ret × Option UInt64)) :
    OsdM Outcome := do
  let (ret, getUsed) ← applyAttributes env cmd pid oid 1 fuel 0
  if ret ≠ .ok then
    return .of ret 0 getUsed
  let (ret, used) ← m
  return .of ret (used.getD 0) getUsed

/-- A handler that leaves both lengths alone. -/
def plain (m : OsdM Ret) : OsdM Outcome := do
  return .of (← m) 0 0

/-- A handler of `osd.c` without output. -/
def noOutput (m : OsdM Ret) : OsdM (Ret × Option UInt64) := do
  return (← m, none)

/-- A handler behind `check_no_continuations`. -/
def noContinuations (cmd : Command) (pid oid : UInt64) (m : OsdM Outcome) : OsdM Outcome :=
  if cmd.cdbContLen ≠ 0 then return .of (cdbErr pid oid) 0 0 else m

/-- A handler behind `verify_enough_input_data`. -/
def enoughInput (cmd : Command) (len : UInt64) (m : OsdM Outcome) : OsdM Outcome :=
  if cmd.inlen < len then return .of osdErrorUnimplemented 0 0 else m

/-! ## Data -/

/-- Not at most one scatter/gather list, the test of the three data commands. -/
def otherDescriptors : List ContDescriptor → Bool
  | [] => false
  | [d] => d.type ≠ SCATTER_GATHER_LIST
  | _ => true

/-- `&cmd->cont.descriptors[0].sglist`, where there is exactly one descriptor.  In one of another type
the entries were never set, and their number neither or to a pointer. -/
def sgListOf (cmd : Command) : List ContDescriptor → Option SgList
  | [d] => some (if d.type = SCATTER_GATHER_LIST
      then ⟨UInt64.ofNat d.numEntries, cmd.indata.shift d.entries⟩
      else ⟨getNtohll env.stack 0, env.stack.shift 8⟩)
  | _ => none

/-- `sglist`, `indata` and `ddt` as OSD_WRITE and OSD_CREATE_AND_WRITE pass them on. -/
def writeArguments (cmd : Command) (ds : List ContDescriptor) : SgList × Mem × UInt8 :=
  match sgListOf env cmd ds with
  | some l => (l, cmd.indata.shift cmd.cdbContLen.toNat, DDT_SGL)
  | none => (⟨0, fun _ => 0⟩, cmd.indata, DDT_CONTIG)

/-- What `cmd->sense` holds at the end of the two: the test of the descriptors builds sense data
without leaving the handler. -/
def Outcome.afterTest (o : Outcome) (cmd : Command) (ds : List ContDescriptor) : Outcome :=
  if otherDescriptors ds then { o with sense := o.sense <|> (cdbErr cmd.pid cmd.oid).built } else o

/-- `sense_test_type` for a read past the end. -/
def Ret.isReadPastEnd : Ret → Bool
  | .sense x => x.key = OSD_SSK_RECOVERED_ERROR && x.code = OSD_ASC_READ_PAST_END_OF_USER_OBJECT
  | _ => false

def cdbRead (cmd : Command) (ds : List ContDescriptor) (fuel : Nat) : OsdM Outcome := do
  let pid := cmd.pid
  let oid := cmd.oid
  if otherDescriptors ds then
    return .of (cdbErr pid oid) 0 0
  let (ret, used) ← osdReadDevice env pid oid (getNtohll cmd.cdb 32) (getNtohll cmd.cdb 40)
      (sgListOf env cmd ds)
  if ret ≠ .ok ∧ ¬ ret.isReadPastEnd then
    return .of ret (used.getD 0) 0
  let (ret', getUsed) ← applyAttributes env cmd pid oid 1 fuel 0
  if ret' ≠ .ok then
    return .of ret' (used.getD 0) getUsed
  return .of ret (used.getD 0) getUsed

/-- OSD_WRITE. -/
def execWrite (cmd : Command) (ds : List ContDescriptor) (fuel : Nat) : OsdM Outcome :=
  let len := getNtohll cmd.cdb 32
  let (sglist, indata, ddt) := writeArguments env cmd ds
  enoughInput cmd len do
    let o ← withAttributes env cmd cmd.pid cmd.oid fuel
      (noOutput (osdWrite env cmd.pid cmd.oid len (getNtohll cmd.cdb 40) indata sglist ddt))
    return o.afterTest cmd ds

/-- `osd_create_and_write` with the sense data it leaves: a failing undo builds its own over those of
the failed write. -/
def osdCreateAndWriteSense (pid oid len offset : UInt64) (data : Mem) (sglist : SgList) (ddt : UInt8) :
    OsdM (Ret × Option Sense) := do
  let ret ← osdCreate env pid oid 1
  if ret ≠ .ok then
    return (ret, ret.built)
  let ret ← osdWrite env pid oid len offset data sglist ddt
  if ret ≠ .ok then
    let undo ← osdRemove env pid oid
    return (ret, undo.built <|> ret.built)
  return (ret, ret.built)

/-- OSD_CREATE_AND_WRITE. -/
def execCreateAndWrite (cmd : Command) (ds : List ContDescriptor) : OsdM Outcome :=
  let len := getNtohll cmd.cdb 32
  let (sglist, indata, ddt) := writeArguments env cmd ds
  enoughInput cmd len do
    let (ret, sense) ← osdCreateAndWriteSense env cmd.pid cmd.oid len (getNtohll cmd.cdb 40)
        indata sglist ddt
    return (⟨ret, 0, 0, sense⟩ : Outcome).afterTest cmd ds

/-- OSD_APPEND. -/
def execAppend (cmd : Command) (fuel : Nat) : OsdM Outcome :=
  enoughInput cmd (getNtohll cmd.cdb 32) (noContinuations cmd cmd.pid cmd.oid
    (withAttributes env cmd cmd.pid cmd.oid fuel (noOutput (contigAppend env cmd.pid cmd.oid
      (getNtohll cmd.cdb 32) (if cmd.hasIndata then some cmd.indata else none)))))

def cdbReadMap (cmd : Command) (fuel : Nat) : OsdM Outcome :=
  afterAttributes env cmd cmd.pid cmd.oid fuel
    (osdReadMap env cmd.pid cmd.oid (getNtohll cmd.cdb 32) (getNtohll cmd.cdb 40) (getNtohs cmd.cdb 48))

/-! ## Atomics -/

/-- The tests of `cdb_cas` and `cdb_fa`. -/
def atomicArguments (cmd : Command) : Bool := cmd.hasOutdata && cmd.hasIndata && 8 ≤ getNtohll cmd.cdb 32

def cdbCas (cmd : Command) (fuel : Nat) : OsdM Outcome :=
  if ¬ atomicArguments cmd then return .of (cdbErr cmd.pid cmd.oid) 0 0
  else withAttributes env cmd cmd.pid cmd.oid fuel (osdCas env cmd.pid cmd.oid (getNtohll cmd.indata 0)
    (getNtohll cmd.indata 8) (getNtohll cmd.cdb 40).toNat)

def cdbFa (cmd : Command) (fuel : Nat) : OsdM Outcome :=
  if ¬ atomicArguments cmd then return .of (cdbErr cmd.pid cmd.oid) 0 0
  else withAttributes env cmd cmd.pid cmd.oid fuel (osdFa env cmd.pid cmd.oid (getNtohll cmd.indata 0)
    (getNtohll cmd.cdb 40).toNat)

/-- An entry as `exec_gen_cas` and `exec_cas_setattr` read it: they take the length and the value from
positions 8 and 10, but step on as over a `struct list_entry`. -/
def casEntryAt (indata : Mem) (list : Nat) : ListEntry where
  page := getNtohl indata list
  number := getNtohl indata (list + 4)
  len := getNtohs indata (list + 8)
  cval := list + 10

/-- The value of such an entry, NULL where it is empty. -/
def ListEntry.casValue (e : ListEntry) (indata : Mem) : Option Mem :=
  if e.len = 0 then none else some (indata.shift e.cval)

/-- What `exec_gen_cas` gives back: the rest of the list, the attribute and its original value, and
whether that is `cmp`. -/
structure GenCasResult where
  list : Nat
  listLen : UInt32
  entry : ListEntry
  orig : Option (List UInt8)
  casRes : Bool

/-- The list checks of `exec_gen_cas`: `cmp` and `swap` with the rest behind them. -/
def genCasEntries (cmd : Command) : Except UInt16 (ListEntry × ListEntry × Nat × UInt32) :=
  let list := (getNtohoffset cmd.cdb 72).toUInt32.toNat
  let setattrListLen := getNtohl cmd.cdb 68
  let listLen := getNtohl cmd.indata (list + 4)
  if setattrListLen < LIST_HDR_LEN then .error OSD_ASC_PARAMETER_LIST_LENGTH_ERROR
  else if cmd.indata list &&& 0xF ≠ RTRVD_SET_ATTR_LIST then .error OSD_ASC_PARAMETER_LIST_LENGTH_ERROR
  else if listLen + 8 ≠ setattrListLen then .error OSD_ASC_PARAMETER_LIST_LENGTH_ERROR
  else if listLen &&& 7 ≠ 0 then .error OSD_ASC_PARAMETER_LIST_LENGTH_ERROR
  else
    let cmp := casEntryAt cmd.indata (list + 8)
    let swapAt := list + 8 + cmp.size
    let left := listLen - UInt32.ofNat cmp.size
    if left < 16 then .error OSD_ASC_INVALID_FIELD_IN_CDB
    else
      let swap := casEntryAt cmd.indata swapAt
      .ok (cmp, swap, swapAt + swap.size, left - UInt32.ofNat swap.size)

/-- `free(orig)` where `orig` was never set. -/
def freeUnset : OsdM Unit :=
  if env.stack.read 0 8 = List.replicate 8 0 then pure () else never

/-- `exec_gen_cas`, the status in case of an error. -/
def execGenCas (cmd : Command) : OsdM (Except Ret GenCasResult) :=
  match genCasEntries cmd with
  | .error asc => do
    freeUnset env
    return .error (senseBuildSdd OSD_SSK_ILLEGAL_REQUEST asc cmd.pid cmd.oid)
  | .ok (cmp, swap, list, listLen) => do
    let (ret, orig) ← osdGenCas env cmd.pid cmd.oid cmp.page cmp.number (cmp.casValue cmd.indata) cmp.len
      (swap.casValue cmd.indata) swap.len
    if ret ≠ .ok then
      return .error ret
    let origBytes := orig.getD []
    let casRes := origBytes.length = cmp.len.toNat ∧ cmd.indata.read cmp.cval cmp.len.toNat = origBytes
    return .ok ⟨list, listLen, cmp, orig, casRes⟩

/-- The loop of `exec_cas_setattr`, with at most `fuel` entries. -/
def casSetattrLoop (cmd : Command) : Nat → Nat → UInt32 → OsdM Ret
  | 0, _, listLen => if listLen = 0 then return .ok else never
  | fuel + 1, list, listLen =>
    if listLen = 0 then return .ok
    else do
      let e := casEntryAt cmd.indata list
      let ret ← osdSetAttributes env cmd.pid cmd.oid e.page e.number
          (some (cmd.indata.shift e.cval)) e.len true
      if ret ≠ .ok then
        return ret
      casSetattrLoop cmd fuel (list + e.size) (listLen - UInt32.ofNat e.size)

def execCasSetattr (cmd : Command) (fuel list : Nat) (listLen : UInt32) : OsdM Ret :=
  if listLen < 16 then return cdbErr cmd.pid cmd.oid else casSetattrLoop env cmd fuel list listLen

/-- `exec_getattr`: the retrieved list with the original value as its first entry.  The status, and
`get_used_outlen`. -/
def execGetattr (cmd : Command) (r : GenCasResult) : OsdM (Ret × UInt32) := do
  let allocLen := getNtohl cmd.cdb 60
  let orig := r.orig.getD []
  let origLeLen := UInt32.ofNat (roundup8 (LE_VAL_OFF + orig.length))
  if allocLen - 8 < origLeLen then
    return (cdbErr cmd.pid cmd.oid, 0)
  let off := cmd.retrievedAttrOff + origLeLen.toUInt64
  let start := cmd.retrievedAttrOff.toNat
  outWrite off.toNat (List.replicate 8 0)
  let cmd' := { cmd with cdb := cmd.cdb.write 60 (htonl (allocLen - origLeLen)), retrievedAttrOff := off }
  let (ret, getUsed) ← getAttributes env cmd' cmd.pid cmd.oid 1 0
  if ret ≠ .ok then
    return (ret, getUsed)
  -- whatever the list format was, the header says this one
  outWrite off.toNat [RTRVD_SET_ATTR_LIST]
  outWrite start ((← get).reply.read off.toNat 8)
  let value := if orig = [] then none else some (blobMem orig)
  match ← lePackAttr env (start + 8) (allocLen - 8) r.entry.page r.entry.number
      (UInt16.ofNat orig.length) value with
  | .error _ =>
    -- `orig` has been freed, and is freed again by the caller
    if orig = [] then return (cdbErr cmd.pid cmd.oid, getUsed) else never
  | .ok _ =>
    let listLen := getNtohl (← get).reply (start + 4) + origLeLen
    outWrite (start + 4) (htonl listLen)
    return (.ok, getUsed + (listLen + 8))

/-- `cdb_gen_cas`; `cond` for OSD_COND_SETATTR. -/
def cdbGenCas (cmd : Command) (cond : Bool) (fuel : Nat) : OsdM Outcome :=
  if cmd.getsetCdbfmt ≠ GETLIST_SETLIST then do
    freeUnset env
    return .of (cdbErr cmd.pid cmd.oid) 0 0
  else do
    match ← execGenCas env cmd with
    | .error ret => return .of ret 0 0
    | .ok r =>
      if r.listLen ≠ 0 ∧ ¬ (cond ∧ ¬ r.casRes) then
        let ret ← execCasSetattr env cmd fuel r.list r.listLen
        if ret ≠ .ok then
          return .of ret 0 0
      let (ret, getUsed) ← execGetattr env cmd r
      if ret = .ok then
        return .of .ok 0 getUsed
      return .of (cdbErr cmd.pid cmd.oid) 0 getUsed

/-! ## Lists, queries, collections -/

def cdbList (cmd : Command) : OsdM Outcome :=
  let initialOid := getNtohll cmd.cdb 40
  let refused := Outcome.of (cdbErr cmd.pid initialOid) 0 0
  if cmd.getsetCdbfmt = GETPAGE_SETVALUE ∨ cmd.cdb 11 &&& 0x0F ≠ 0 then return refused
  else match parseGetattrList cmd cmd.pid initialOid with
    | (.ok, getAttr) => do
      let (ret, used) ← osdList env ((cmd.cdb 11 &&& 0x40) >>> 6) cmd.pid (getNtohll cmd.cdb 32)
          initialOid getAttr
        (getNtohl cmd.cdb 48)
      return .of ret (used.getD 0) 0
    | _ => return refused

/-- OSD_LIST_COLLECTION. -/
def execListCollection (cmd : Command) (fuel : Nat) : OsdM Outcome :=
  withAttributes env cmd cmd.pid cmd.oid fuel (osdListCollection env
    ((cmd.cdb 11 &&& 0x40) >>> 6) cmd.pid cmd.oid
    (getNtohll cmd.cdb 32) (getNtohll cmd.cdb 40) (getNtohl cmd.cdb 48))

/-- The loop of `parse_query_criteria` at `cp`, `qll` bytes to go, with at most `fuel` entries; `none`
in the answer for `OSD_ERROR`. -/
def queryCriteria (m : Mem) : Nat → Nat → UInt32 → List Criterion → Option (Option (List Criterion))
  | fuel, cp, qll, es =>
    if qll = 0 ∨ getNtohs m (cp + 2) = 0 then some (some es)
    else if PARTITION_PG ≤ getNtohl m (cp + 4) then some none
    else match fuel with
      | 0 => none
      | fuel + 1 =>
        let minLen := (getNtohs m (cp + 12)).toNat
        let maxLen := (getNtohs m (cp + 14 + minLen)).toNat
        let e : Criterion := ⟨getNtohl m (cp + 4), getNtohl m (cp + 8), m.read (cp + 14) minLen,
          m.read (cp + 14 + minLen + 2) maxLen⟩
        queryCriteria m fuel (cp + 14 + minLen + 2 + maxLen)
          (qll - UInt32.ofNat (14 + minLen + (2 + maxLen)))
          (es ++ [e])

/-- `osd_query`, its criteria at `indata`. -/
def osdQuery (pid cid : UInt64) (queryListLen : UInt32) (allocLen : UInt64) (indata : Mem) (fuel : Nat) :
    OsdM (Ret × Option UInt64) := do
  if pid < USEROBJECT_PID_LB then
    return (cdbErr pid cid, none)
  let (ret, present) ← objIspresent env pid cid
  if ret ≠ .ok ∨ ¬ present then
    return (cdbErr pid cid, none)
  if queryListLen < 8 then
    return (cdbErr pid cid, none)
  if allocLen = 0 then
    return (.ok, none)
  if allocLen < 13 then
    return (cdbErr pid cid, none)
  match queryCriteria indata fuel 4 (queryListLen - 4) [] with
  | none => never
  | some none => return (cdbErr pid cid, none)
  | some (some entries) =>
    outWrite 8 (List.replicate 4 0)
    outWrite 12 [0x84]
    let (ret, used) ← mtqRunQuery env pid cid ⟨indata 0 &&& 0xF, entries⟩ allocLen.toUInt32
    if ret ≠ .ok then
      return (hwErr pid cid, used)
    setCcap (fillCcap .collection pid cid 0)
    return (.ok, used)

/-- The descriptor `cdb_query` takes, depending on `matches_cid`. -/
def queryDescriptor (matchesCid : UInt64) (ds : List ContDescriptor) : Option ContDescriptor :=
  if matchesCid = 0 then
    match ds with
    | [d] => if d.type = QUERY_LIST then some d else none
    | _ => none
  else
    match ds with
    | [d, d'] =>
      if d.type = QUERY_LIST ∧ d'.type = EXTENSION_CAPABILITIES then some d
      else if d'.type = QUERY_LIST ∧ d.type = EXTENSION_CAPABILITIES then some d'
      else none
    | _ => none

/-- OSD_QUERY. -/
def execQuery (cmd : Command) (ds : List ContDescriptor) (fuel : Nat) : OsdM Outcome :=
  match queryDescriptor (getNtohll cmd.cdb 40) ds with
  | none => return .of (cdbErr cmd.pid cmd.oid) 0 0
  | some d => withAttributes env cmd cmd.pid cmd.oid fuel (osdQuery env cmd.pid cmd.oid d.length
      (getNtohll cmd.cdb 32) (cmd.indata.shift (d.hdr + 8)) fuel)

def cdbSetMemberAttributes (cmd : Command) (fuel : Nat) : OsdM Outcome :=
  match parseSetattrList cmd cmd.pid cmd.oid fuel with
  | none => never
  | some (.ok, le) => plain (osdSetMemberAttributes env cmd.pid cmd.oid (le.map (·.setEntry cmd.indata)))
  | some _ => return .of (cdbErr cmd.pid cmd.oid) 0 0

/-- The descriptor `cdb_copy_user_objects` takes: the test of a single one is the wrong way round. -/
def copyDescriptor : List ContDescriptor → Option ContDescriptor
  | [d] => if d.type ≠ COPY_USER_OBJECT_SOURCE then some d else none
  | [d, d'] =>
    if d.type = COPY_USER_OBJECT_SOURCE ∧ d'.type = EXTENSION_CAPABILITIES then some d
    else if d'.type = COPY_USER_OBJECT_SOURCE ∧ d.type = EXTENSION_CAPABILITIES then some d'
    else none
  | _ => none

/-- `desc_specific_hdr`, which is only set for two types. -/
def sourceOf (cmd : Command) (d : ContDescriptor) : Mem :=
  if d.type = QUERY_LIST ∨ d.type = COPY_USER_OBJECT_SOURCE then cmd.indata.shift (d.hdr + 8) else env.stack

/-- `cdb_copy_user_objects`, which ends in its error exit whatever happened. -/
def cdbCopyUserObjects (cmd : Command) (ds : List ContDescriptor) : OsdM Outcome := do
  match copyDescriptor ds with
  | none => pure ()
  | some d =>
    if d.length = 18 then
      let _ ← osdCopyUserObjects env cmd.pid cmd.oid (sourceOf env cmd d)
  return .of (cdbErr cmd.pid cmd.oid) 0 0

/-! ## Creating and removing -/

/-- A handler of the model that comes with `get_used_outlen`. -/
def withGetUsed (m : OsdM (Ret × UInt32)) : OsdM Outcome := do
  let (ret, getUsed) ← m
  return .of ret 0 getUsed

/-- `cdb_create_collection`: `osd_create_collection` gets a local sense buffer. -/
def cdbCreateCollectionSense (cmd : Command) (fuel : Nat) : OsdM Outcome := do
  let pid := cmd.pid
  let ret ← osdCreateCollection env pid cmd.oid
  if ret ≠ .ok then
    return ⟨ret, 0, 0, none⟩
  let cid := (← get).ccap.oid
  withGetUsed (attributesOrUndo env cmd pid cid 1 fuel 0 (removeCreated env pid cid))

def cdbRemove (cmd : Command) (fuel : Nat) : OsdM Outcome :=
  afterAttributes env cmd cmd.pid cmd.oid fuel (noOutput (osdRemove env cmd.pid cmd.oid))

def cdbRemovePartition (cmd : Command) (fuel : Nat) : OsdM Outcome :=
  afterAttributes env cmd cmd.pid PARTITION_OID fuel (noOutput (osdRemovePartition env cmd.pid))

/-! ## Dispatch -/

/-- What `osd_create_user_tracking_collection` gets as `source_cid` and `cdb_cont_len`: the call passes
the length of the continuation segment first and the source id of the CDB after it. -/
def trackingArguments (cmd : Command) : UInt64 × UInt32 :=
  (cmd.cdbContLen.toUInt64, (getNtohll cmd.cdb 40).toUInt32)

/-- OSD_GET_ATTRIBUTES: get, then set. -/
def execGetAttributes (cmd : Command) (fuel : Nat) : OsdM Outcome := do
  let (ret, getUsed) ← getAttributes env cmd cmd.pid cmd.oid 1 0
  if ret ≠ .ok then
    return .of ret 0 getUsed
  return .of (← setAttributes env cmd cmd.pid cmd.oid 1 fuel) 0 getUsed

/-- The `switch` of `exec_service_action`, with the descriptors of the continuation segment. -/
def dispatch (cmd : Command) (ds : List ContDescriptor) (fuel : Nat) : OsdM Outcome :=
  let pid := cmd.pid
  let oid := cmd.oid
  let len := getNtohll cmd.cdb 32
  let offset := getNtohll cmd.cdb 40
  let unimplemented : OsdM Outcome := return .of osdErrorUnimplemented 0 0
  match cmd.serviceAction with
  | .append => execAppend env cmd fuel
  | .clear => noContinuations cmd pid oid
      (withAttributes env cmd pid oid fuel (noOutput (osdClear env pid oid len offset)))
  | .copyUserObjects => cdbCopyUserObjects env cmd ds
  | .create => noContinuations cmd pid oid (withGetUsed (cdbCreate env cmd fuel 0))
  | .createAndWrite => execCreateAndWrite env cmd ds
  | .createCollection => noContinuations cmd pid oid (cdbCreateCollectionSense env cmd fuel)
  | .createPartition => noContinuations cmd pid PARTITION_OID
    (withGetUsed (cdbCreatePartition env cmd fuel 0))
  | .createUserTrackingCollection =>
    let (sourceCid, contLen) := trackingArguments cmd
    plain (osdCreateUserTrackingCollection env pid oid sourceCid contLen)
  | .flush => noContinuations cmd pid oid (plain (osdFlush env pid oid len offset (cmd.cdb 10 &&& 0x3)))
  | .flushCollection => noContinuations cmd pid oid (plain (pure osdFlushCollection))
  | .flushOsd => noContinuations cmd 0 0 (plain (pure osdFlushOsd))
  | .flushPartition => noContinuations cmd pid PARTITION_OID (plain (pure osdFlushPartition))
  | .formatOsd => noContinuations cmd 0 0 (withAttributes env cmd 0 0 fuel (noOutput (osdFormatOsd env)))
  | .getAttributes => noContinuations cmd pid oid (execGetAttributes env cmd fuel)
  | .getMemberAttributes => plain (pure osdGetMemberAttributes)
  | .list => cdbList env cmd
  | .listCollection => execListCollection env cmd fuel
  | .performScsi => noContinuations cmd pid oid unimplemented
  | .punch => noContinuations cmd pid oid
      (withAttributes env cmd pid oid fuel (noOutput (osdPunch env pid oid len offset)))
  | .query => execQuery env cmd ds fuel
  | .read => cdbRead env cmd ds fuel
  | .readMap => noContinuations cmd pid oid (cdbReadMap env cmd fuel)
  | .remove => noContinuations cmd pid oid (cdbRemove env cmd fuel)
  | .removeCollection => noContinuations cmd pid oid
    (plain (osdRemoveCollection env pid oid (cmd.cdb 11 &&& 0x1)))
  | .removeMemberObjects => noContinuations cmd pid oid (plain (pure osdRemoveMemberObjects))
  | .removePartition => noContinuations cmd pid PARTITION_OID (cdbRemovePartition env cmd fuel)
  | .setAttributes => noContinuations cmd pid oid (withGetUsed (applyAttributes env cmd pid oid 1 fuel 0))
  | .setKey => plain (pure osdSetKey)
  | .setMasterKey => noContinuations cmd 0 0 (plain (pure osdSetMasterKey))
  | .setMemberAttributes => noContinuations cmd pid oid (cdbSetMemberAttributes env cmd fuel)
  | .write => execWrite env cmd ds fuel
  | .cas => cdbCas env cmd fuel
  | .fa => cdbFa env cmd fuel
  | .genCas => cdbGenCas env cmd false fuel
  | .condSetattr => cdbGenCas env cmd true fuel
  | .other => unimplemented

/-- `exec_service_action`; loops over a list or a segment take at most `fuel` rounds. -/
def execServiceAction (cmd : Command) (fuel : Nat) : OsdM Outcome :=
  if cmd.cdbContLen = 0 then dispatch env cmd [] fuel
  else match parseCdbContinuationSegment cmd.indata cmd.cdbContLen cmd.action cmd.pid cmd.oid fuel with
    | none => never
    | some (.ok, ds) => dispatch env cmd ds fuel
    | some (ret, _) => return .of ret 0 0

/-- A command in the surroundings it meets. -/
structure Invocation where
  env : Env
  cmd : Command
  fuel : Nat

def Invocation.exec (r : Invocation) : OsdM Outcome := execServiceAction r.env r.cmd r.fuel

/-- Commands one after the other. -/
def execAll : List Invocation → OsdM (List Outcome)
  | [] => return []
  | r :: rs => do
    let o ← r.exec
    let os ← execAll rs
    return o :: os

end OsdTarget
