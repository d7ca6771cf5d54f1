import OsdTarget.Base.Descriptors
import OsdTarget.Layouts
import OsdTarget.Submit

/-!
# The commands with their descriptors

The functions that open the data file of an object, and the handlers down to them, with every `open` and
`close` of the source in its place.  What opens nothing is taken over `quietly`.  A second `close` of one
number, on the way out after the first has failed, is left out.
-/

namespace OsdTarget

open Base

/-- A call of a function that opens the data file. -/
inductive DataCall
  | read (pid oid len offset : UInt64) (sglist : Option SgList)
  | write (pid oid : UInt64) (l : Layout)
  | append (pid oid len : UInt64) (appenddata : Option Mem)
  | clear (pid oid len offset : UInt64)
  | punch (pid oid len offset : UInt64)
  | flush (pid oid len offset : UInt64) (flushScope : UInt8)
  | readMap (pid oid allocLen offset : UInt64) (mapType : UInt16)
  | createDatafile (pid oid : UInt64)

abbrev FdM := ProcessM Target DataCall

namespace Fd

variable (env : Env)

/-! ## Reading -/

/-- `contig_read`. -/
def contigRead (pid oid len offset : UInt64) : FdM (Ret × Option UInt64) := do
  if !isUserobjectId pid oid then
    return (cdbErr pid oid, none)
  if !(← quietly (openFile env pid oid)) then
    return (cdbErr pid oid, none)
  let fd ← takeFd
  match preadFile env (← quietly get) pid oid offset len with
  | none => do
    closeFd fd
    return (hwErr pid oid, none)
  | some bytes => do
    quietly (outWrite 0 bytes)
    closeFd fd
    quietly do
      if env.sysFails (.close pid oid) then
        return (hwErr pid oid, none)
      if bytes.length < len.toNat then
        outWrite bytes.length (List.replicate (len.toNat - bytes.length) 0)
      setCcap (fillCcap .userobject pid oid 0)
      if bytes.length < len.toNat then
        return (readPastEnd pid oid (UInt64.ofNat bytes.length), some len)
      return (.ok, some len)

/-- `sgl_read`; a jump to `out_hw_err` from its loop leaves the file open. -/
def sglRead (pid oid len offset : UInt64) (sglist : SgList) : FdM (Ret × Option UInt64) := do
  if !isUserobjectId pid oid then
    return (cdbErr pid oid, none)
  if !(← quietly (openFile env pid oid)) then
    return (cdbErr pid oid, none)
  let fd ← takeFd
  match ← quietly (sglReadLoop env pid oid offset sglist sglist.rounds 0 0) with
  | none => return (hwErr pid oid, none)
  | some readlen =>
    if sglist.endless then quietly never else do
      closeFd fd
      quietly do
        if env.sysFails (.close pid oid) then
          return (hwErr pid oid, none)
        setCcap (fillCcap .userobject pid oid 0)
        if readlen < len then
          return (readPastEnd pid oid readlen, some readlen)
        return (.ok, some readlen)

/-- `osd_read_device`. -/
def osdReadDevice (pid oid len offset : UInt64) (sglist : Option SgList) : FdM (Ret × Option UInt64) := do
  noteCall (.read pid oid len offset sglist)
  match sglist with
  | none => contigRead env pid oid len offset
  | some l => sglRead env pid oid len offset l

/-- `osd_read_map`; past the first tests only its last exit closes the file, and that of a failing
`stat`. -/
def osdReadMap (pid oid allocLen offset : UInt64) (mapType : UInt16) : FdM (Ret × Option UInt64) := do
  noteCall (.readMap pid oid allocLen offset mapType)
  if allocLen = 0 then
    return (.ok, none)
  if allocLen < 24 then
    return (cdbErr pid oid, none)
  quietly (outWrite 0 (List.replicate allocLen.toNat 0))
  if !isUserobjectId pid oid then
    return (cdbErr pid oid, none)
  let s ← quietly get
  match s.lookup env pid oid with
  | none => return (cdbErr pid oid, none)
  | some content =>
    if env.sysFails (.openFile pid oid) then
      return (cdbErr pid oid, none)
    let fd ← takeFd
    if env.sysFails (.stat pid oid) then
      closeFd fd
      return (.err .osdError, none)
    if content.length < offset.toNat then
      return (cdbErr pid oid, none)
    if mapType ≠ WRITTEN_DATA then
      return (osdErrorUnimplemented, none)
    let addLen := mapDescriptors (content.length - offset.toNat)
    quietly (readMapLoop mapType addLen (UInt64.ofNat (content.length - offset.toNat)) 8)
    quietly (outWrite 0 (htonll (if 16 * addLen > 0xffffffff then 0xffffffff else UInt64.ofNat
      (16 * addLen))))
    let used := some (8 + 16 * UInt64.ofNat addLen)
    closeFd fd
    if env.sysFails (.close pid oid) then
      return (hwErr pid oid, used)
    return (.ok, used)

/-! ## Writing -/

/-- `close(fd)` and the rest of a write that went through. -/
def finishWrite (fd : ℕ) (pid oid appendOff : UInt64) : FdM Ret := do
  closeFd fd
  quietly (OsdTarget.finishWrite env pid oid appendOff)

/-- `contig_write`. -/
def contigWrite (pid oid len offset : UInt64) (dinbuf : Mem) : FdM Ret := do
  if !isUserobjectId pid oid then
    return cdbErr pid oid
  if !(← quietly (openFile env pid oid)) then
    return cdbErr pid oid
  let fd ← takeFd
  let ret ← quietly (pwriteFile env pid oid offset len dinbuf)
  if ret ≠ some len.toNat then
    return hwErr pid oid
  finishWrite env fd pid oid 0

/-- `sgl_write`. -/
def sglWrite (pid oid offset : UInt64) (dinbuf : Mem) (sglist : SgList) : FdM Ret := do
  if !isUserobjectId pid oid then
    return cdbErr pid oid
  if !(← quietly (openFile env pid oid)) then
    return cdbErr pid oid
  let fd ← takeFd
  match ← quietly (sglWriteLoop env pid oid offset dinbuf sglist sglist.rounds 0 0) with
  | none => return hwErr pid oid
  | some _ => if sglist.endless then quietly never else finishWrite env fd pid oid 0

/-- `vec_write`. -/
def vecWrite (pid oid len offset : UInt64) (dinbuf : Mem) : FdM Ret := do
  let stride := getNtohll dinbuf 0
  let length := getNtohll dinbuf 8
  if !isUserobjectId pid oid then
    return cdbErr pid oid
  if !(← quietly (openFile env pid oid)) then
    return cdbErr pid oid
  let fd ← takeFd
  match ← quietly (vecWriteLoop env pid oid offset stride dinbuf (2 ^ 64 + 1) (len - 16) length 16 0) with
  | none => return hwErr pid oid
  | some _ => finishWrite env fd pid oid 0

/-- `osd_write`. -/
def osdWrite (pid oid len offset : UInt64) (dinbuf : Mem) (sglist : SgList) (ddt : UInt8) : FdM Ret := do
  noteCall (.write pid oid ⟨ddt, len, offset, dinbuf, sglist⟩)
  if ddt = DDT_CONTIG then contigWrite env pid oid len offset dinbuf
  else if ddt = DDT_SGL then sglWrite env pid oid offset dinbuf sglist
  else if ddt = DDT_VEC then vecWrite env pid oid len offset dinbuf
  else return cdbErr pid oid

/-- `contig_append`. -/
def contigAppend (pid oid len : UInt64) (appenddata : Option Mem) : FdM Ret := do
  noteCall (.append pid oid len appenddata)
  match appenddata with
  | none => return cdbErr pid oid
  | some data =>
    if !isUserobjectId pid oid then
      return cdbErr pid oid
    match (← quietly get).lookup env pid oid with
    | none => return cdbErr pid oid
    | some content =>
      if env.sysFails (.openFile pid oid) then
        return cdbErr pid oid
      let fd ← takeFd
      if env.sysFails (.lseek pid oid) then
        return hwErr pid oid
      let off := UInt64.ofNat content.length
      let ret ← quietly (pwriteFile env pid oid off len data)
      if ret ≠ some len.toNat then
        return hwErr pid oid
      finishWrite env fd pid oid off

/-! ## Clearing, punching, flushing: the exits for errors close -/

/-- `osd_clear`. -/
def osdClear (pid oid len offset : UInt64) : FdM Ret := do
  noteCall (.clear pid oid len offset)
  if env.noMemory len then
    return hwErr pid oid
  if !isUserobjectId pid oid then
    return cdbErr pid oid
  if !(← quietly (openFile env pid oid)) then
    return cdbErr pid oid
  let fd ← takeFd
  let ret ← quietly (pwriteFile env pid oid offset len fun _ => 0)
  if ret ≠ some len.toNat then
    closeFd fd
    return hwErr pid oid
  finishWrite env fd pid oid 0

/-- `osd_punch`; the tail of the object is moved with the file open, which each exit then closes. -/
def osdPunch (pid oid len offset : UInt64) : FdM Ret := do
  noteCall (.punch pid oid len offset)
  if !isUserobjectId pid oid then
    return cdbErr pid oid
  match (← quietly get).lookup env pid oid with
  | none => return cdbErr pid oid
  | some content =>
    if env.sysFails (.openFile pid oid) then
      return cdbErr pid oid
    let fd ← takeFd
    if env.sysFails (.stat pid oid) then
      closeFd fd
      return .err .osdError
    let newOffset := len + offset
    if content.length < offset.toNat then
      closeFd fd
      return cdbErr pid oid
    if content.length < newOffset.toNat then
      if !(← quietly (truncateFile env pid oid offset)) then
        closeFd fd
        return hwErr pid oid
      closeFd fd
      if env.sysFails (.close pid oid) then
        return hwErr pid oid
      return .ok
    let ret ← quietly (punchTail env pid oid offset newOffset (UInt64.ofNat content.length - newOffset))
    closeFd fd
    return ret

/-- `osd_flush`; the exit for a scope that is not implemented does not close. -/
def osdFlush (pid oid len offset : UInt64) (flushScope : UInt8) : FdM Ret := do
  noteCall (.flush pid oid len offset flushScope)
  if !isUserobjectId pid oid then
    return cdbErr pid oid
  match (← quietly get).lookup env pid oid with
  | none => return cdbErr pid oid
  | some content =>
    if env.sysFails (.openFile pid oid) then
      return cdbErr pid oid
    let fd ← takeFd
    if flushScope = 0 then
      if env.sysFails (.fdatasync pid oid) then
        closeFd fd
        return hwErr pid oid
      finishWrite env fd pid oid 0
    else if flushScope = 2 then
      if env.sysFails (.stat pid oid) then
        closeFd fd
        return .err .osdError
      if content.length < offset.toNat then
        closeFd fd
        return cdbErr pid oid
      if env.sysFails (.syncFileRange pid oid) then
        closeFd fd
        return hwErr pid oid
      if content.length - offset.toNat < len.toNat then
        closeFd fd
        return .ok
      finishWrite env fd pid oid 0
    else
      return osdErrorUnimplemented

/-! ## Creating -/

/-- `osd_create_datafile`: 0 is no descriptor to it. -/
def osdCreateDatafile (pid oid : UInt64) : FdM Ret := do
  noteCall (.createDatafile pid oid)
  let s ← quietly get
  if env.sysFails (.stat pid oid) then
    return .err .osdError
  if (s.lookup env pid oid).isSome then
    return .err .eexist
  if env.sysFails (.creat pid oid) || (s.rootFreed && env.rootGarbled) then
    return .err .osdError
  quietly (set (s.setFile pid oid (some [])))
  let fd ← takeFd
  if fd = 0 then
    return .ok
  closeFd fd
  return .ok

/-- The loop of `osd_create`. -/
def createLoop (pid oid : UInt64) : Nat → UInt64 → FdM (Option UInt64)
  | 0, _ => return none
  | n + 1, i => do
    let ret ← quietly (objInsert env pid i .userobject)
    if ret ≠ .ok then
      quietly (osdRemoveTmpObjects env pid (i - oid).toNat oid)
      return some i
    let ret ← osdCreateDatafile env pid i
    if ret ≠ .ok then
      let _ ← quietly (objDelete env pid i)
      quietly (osdRemoveTmpObjects env pid (i - oid).toNat oid)
      return some i
    createLoop pid oid n (i + 1)

/-- The part of `osd_create` after the choice of its first id. -/
def createFrom (pid requestedOid oid : UInt64) (numoid : UInt16) : FdM Ret := do
  let numoid := if numoid = 0 then 1 else numoid
  match ← createLoop env pid oid (createCount oid numoid) oid with
  | some _ => do
    quietly invalidateCache
    return hwErr pid requestedOid
  | none => do
    quietly (modify fun s => { s with ic := { s.ic with nextId := s.ic.nextId + (numoid.toUInt64 - 1) } })
    quietly (setCcap (fillCcap .userobject pid (oid + numoid.toUInt64 - 1) 0))
    return .ok

/-- `osd_create`. -/
def osdCreate (pid requestedOid : UInt64) (numoid : UInt16) : FdM Ret := do
  let illegalReq := cdbErr pid requestedOid
  if pid = 0 ∨ pid < USEROBJECT_PID_LB then
    return illegalReq
  if requestedOid ≠ 0 ∧ requestedOid < USEROBJECT_OID_LB then
    return illegalReq
  let (ret, present) ← quietly (objIspresent env pid PARTITION_OID)
  if ret ≠ .ok ∨ ¬ present then
    return illegalReq
  if numoid > 1 ∧ requestedOid ≠ 0 then
    return illegalReq
  if requestedOid = 0 then
    match ← quietly (chooseId env pid USEROBJECT_OID_LB) with
    | none => do
      quietly invalidateCache
      return hwErr pid requestedOid
    | some oid => createFrom env pid requestedOid oid numoid
  else
    if !(← quietly (takeRequestedId env pid requestedOid)) then
      return illegalReq
    createFrom env pid requestedOid requestedOid numoid

/-- `cdb_create`. -/
def cdbCreate (cmd : Command) (fuel : Nat) (used : UInt32) : FdM (Ret × UInt32) := do
  let pid := getNtohll cmd.cdb 16
  let requestedOid := getNtohll cmd.cdb 24
  let numoid := getNtohs cmd.cdb 32
  if 1 < numoid ∧ cmd.getsetCdbfmt = GETPAGE_SETVALUE ∧ getNtohl cmd.cdb 52 ≠ CUR_CMD_ATTR_PG then
    return (cdbErr pid requestedOid, used)
  let _ ← quietly (osdBeginTxn env)
  let ret ← osdCreate env pid requestedOid numoid
  let _ ← quietly (osdEndTxn env)
  if ret ≠ .ok then
    return (ret, used)
  let numoid := if numoid = 0 then 1 else numoid
  let oid := getCreatedOid (← quietly get).ccap numoid.toUInt32
  quietly (attributesOrUndo env cmd pid oid numoid fuel used
    (osdRemoveTmpObjects env pid (createCount oid numoid) oid))

/-- `osd_create_and_write`. -/
def osdCreateAndWriteSense (pid oid len offset : UInt64) (data : Mem) (sglist : SgList) (ddt : UInt8) :
    FdM (Ret × Option Sense) := do
  let ret ← osdCreate env pid oid 1
  if ret ≠ .ok then
    return (ret, ret.built)
  let ret ← osdWrite env pid oid len offset data sglist ddt
  if ret ≠ .ok then
    let undo ← quietly (osdRemove env pid oid)
    return (ret, undo.built <|> ret.built)
  return (ret, ret.built)

/-! ## Handlers -/

/-- A command on (pid, oid), then `std_get_set_attr`. -/
def withAttributes (cmd : Command) (pid oid : UInt64) (fuel : Nat) (m : FdM (Ret × Option UInt64)) :
    FdM Outcome := do
  let (ret, used) ← m
  if ret ≠ .ok then
    return .of ret (used.getD 0) 0
  let (ret, getUsed) ← quietly (applyAttributes env cmd pid oid 1 fuel 0)
  return .of ret (used.getD 0) getUsed

def plain (m : FdM Ret) : FdM Outcome := do
  return .of (← m) 0 0

def noOutput (m : FdM Ret) : FdM (Ret × Option UInt64) := do
  return (← m, none)

def noContinuations (cmd : Command) (pid oid : UInt64) (m : FdM Outcome) : FdM Outcome :=
  if cmd.cdbContLen ≠ 0 then return .of (cdbErr pid oid) 0 0 else m

def enoughInput (cmd : Command) (len : UInt64) (m : FdM Outcome) : FdM Outcome :=
  if cmd.inlen < len then return .of osdErrorUnimplemented 0 0 else m

def cdbRead (cmd : Command) (ds : List ContDescriptor) (fuel : Nat) : FdM Outcome := do
  let pid := cmd.pid
  let oid := cmd.oid
  if otherDescriptors ds then
    return .of (cdbErr pid oid) 0 0
  let (ret, used) ← osdReadDevice env pid oid (getNtohll cmd.cdb 32) (getNtohll cmd.cdb 40)
      (sgListOf env cmd ds)
  if ret ≠ .ok ∧ ¬ ret.isReadPastEnd then
    return .of ret (used.getD 0) 0
  let (ret', getUsed) ← quietly (applyAttributes env cmd pid oid 1 fuel 0)
  if ret' ≠ .ok then
    return .of ret' (used.getD 0) getUsed
  return .of ret (used.getD 0) getUsed

/-- OSD_WRITE. -/
def execWrite (cmd : Command) (ds : List ContDescriptor) (fuel : Nat) : FdM Outcome :=
  let len := getNtohll cmd.cdb 32
  let (sglist, indata, ddt) := writeArguments env cmd ds
  enoughInput cmd len do
    let o ← withAttributes env cmd cmd.pid cmd.oid fuel
      (noOutput (osdWrite env cmd.pid cmd.oid len (getNtohll cmd.cdb 40) indata sglist ddt))
    return o.afterTest cmd ds

/-- OSD_CREATE_AND_WRITE. -/
def execCreateAndWrite (cmd : Command) (ds : List ContDescriptor) : FdM Outcome :=
  let len := getNtohll cmd.cdb 32
  let (sglist, indata, ddt) := writeArguments env cmd ds
  enoughInput cmd len do
    let (ret, sense) ← osdCreateAndWriteSense env cmd.pid cmd.oid len (getNtohll cmd.cdb 40)
        indata sglist ddt
    return (⟨ret, 0, 0, sense⟩ : Outcome).afterTest cmd ds

/-- OSD_APPEND. -/
def execAppend (cmd : Command) (fuel : Nat) : FdM Outcome :=
  enoughInput cmd (getNtohll cmd.cdb 32) (noContinuations cmd cmd.pid cmd.oid
    (withAttributes env cmd cmd.pid cmd.oid fuel (noOutput (contigAppend env cmd.pid cmd.oid
      (getNtohll cmd.cdb 32) (if cmd.hasIndata then some cmd.indata else none)))))

/-- `cdb_read_map`: the attributes first. -/
def cdbReadMap (cmd : Command) (fuel : Nat) : FdM Outcome := do
  let (ret, getUsed) ← quietly (applyAttributes env cmd cmd.pid cmd.oid 1 fuel 0)
  if ret ≠ .ok then
    return .of ret 0 getUsed
  let (ret, used) ← osdReadMap env cmd.pid cmd.oid (getNtohll cmd.cdb 32) (getNtohll cmd.cdb 40)
    (getNtohs cmd.cdb 48)
  return .of ret (used.getD 0) getUsed

/-- OSD_CREATE. -/
def execCreate (cmd : Command) (fuel : Nat) : FdM Outcome := do
  let (ret, getUsed) ← cdbCreate env cmd fuel 0
  return .of ret 0 getUsed

/-- The `switch` of `exec_service_action`; the other handlers open no data file. -/
def dispatch (cmd : Command) (ds : List ContDescriptor) (fuel : Nat) : FdM Outcome :=
  let pid := cmd.pid
  let oid := cmd.oid
  let len := getNtohll cmd.cdb 32
  let offset := getNtohll cmd.cdb 40
  match cmd.serviceAction with
  | .append => execAppend env cmd fuel
  | .clear => noContinuations cmd pid oid
      (withAttributes env cmd pid oid fuel (noOutput (osdClear env pid oid len offset)))
  | .create => noContinuations cmd pid oid (execCreate env cmd fuel)
  | .createAndWrite => execCreateAndWrite env cmd ds
  | .flush => noContinuations cmd pid oid (plain (osdFlush env pid oid len offset (cmd.cdb 10 &&& 0x3)))
  | .punch => noContinuations cmd pid oid
      (withAttributes env cmd pid oid fuel (noOutput (osdPunch env pid oid len offset)))
  | .read => cdbRead env cmd ds fuel
  | .readMap => noContinuations cmd pid oid (cdbReadMap env cmd fuel)
  | .write => execWrite env cmd ds fuel
  | _ => quietly (OsdTarget.dispatch env cmd ds fuel)

/-- `exec_service_action`. -/
def execServiceAction (cmd : Command) (fuel : Nat) : FdM Outcome :=
  if cmd.cdbContLen = 0 then dispatch env cmd [] fuel
  else match parseCdbContinuationSegment cmd.indata cmd.cdbContLen cmd.action cmd.pid cmd.oid fuel with
    | none => quietly never
    | some (.ok, ds) => dispatch env cmd ds fuel
    | some (ret, _) => return .of ret 0 0

/-- `osdemu_cmd_submit`. -/
def osdemuCmdSubmit (sub : Submission) (fuel : Nat) : FdM Report := do
  match sub.refusal env with
  | some (key, code) =>
    let header := senseHeaderBuild OSD_MAX_SENSE key code 0
    return .of header.length (header ++ List.replicate (OSD_MAX_SENSE - header.length) 0) 0
  | none => do
    quietly (modify Target.received)
    let o ← execServiceAction env sub.command fuel
    let used ← quietly (countRetrieved sub.command.retrievedAttrOff o.used o.getUsed)
    return .of o.ret.senselen o.senseBuf (if 0 < sub.outlen then used else sub.dataOutLen)

end Fd

end OsdTarget
