import OsdTarget.Create

/-!
# Reading, appending, clearing, punching, flushing

The commands on the data of a user object that `io.c` and `osd.c` hold beside `osd_write`.  What a
command reads goes to the reply buffer.
-/

namespace OsdTarget

open Base

variable (env : Env)

/-! ## Reading -/

/-- `pread` of `len` bytes: what it reads, at most what Linux transfers at once, or `none` on error.  A
range that does not end below 2^63 is `EINVAL`. -/
def preadFile (s : Target) (pid oid off len : UInt64) : Option (List UInt8) :=
  match s.lookup env pid oid, env.pread pid oid off len with
  | some content, some limit =>
    if 2 ^ 63 ≤ off.toNat + len.toNat then none
    else some ((content.drop off.toNat).take (min limit (min len.toNat 0x7ffff000)))
  | _, _ => none

/-- The sense data of a read that meets the end of the object. -/
def readPastEnd (pid oid readlen : UInt64) : Ret :=
  senseBuildSddCsi OSD_SSK_RECOVERED_ERROR OSD_ASC_READ_PAST_END_OF_USER_OBJECT pid oid readlen

/-- `contig_read`: the status and `*used_outlen`, `none` when it is left alone. -/
def contigRead (pid oid len offset : UInt64) : OsdM (Ret × Option UInt64) := do
  if !isUserobjectId pid oid then
    return (cdbErr pid oid, none)
  if !(← openFile env pid oid) then
    return (cdbErr pid oid, none)
  match preadFile env (← get) pid oid offset len with
  | none => return (hwErr pid oid, none)
  | some bytes =>
    outWrite 0 bytes
    if env.sysFails (.close pid oid) then
      return (hwErr pid oid, none)
    if bytes.length < len.toNat then
      outWrite bytes.length (List.replicate (len.toNat - bytes.length) 0)
    setCcap (fillCcap .userobject pid oid 0)
    if bytes.length < len.toNat then
      return (readPastEnd pid oid (UInt64.ofNat bytes.length), some len)
    return (.ok, some len)

/-- `entries[i].offset` and `entries[i].bytes_to_transfer`. -/
def SgList.offset (l : SgList) (i : Nat) : UInt64 := getNtohll l.entries (16 * i)
def SgList.bytesToTransfer (l : SgList) (i : Nat) : UInt64 := getNtohll l.entries (16 * i + 8)

/-- The loop of `sgl_read` from entry `i` on, `n` entries to go: `data_offset` at its end, which is
also `readlen`; `none` stands for the jump to `out_hw_err`. -/
def sglReadLoop (pid oid offset : UInt64) (sglist : SgList) :
    Nat → Nat → UInt64 → OsdM (Option UInt64)
  | 0, _, dataOffset => return some dataOffset
  | n + 1, i, dataOffset => do
    let length := sglist.bytesToTransfer i
    match preadFile env (← get) pid oid (sglist.offset i + offset) length with
    | none => return none
    | some bytes =>
      outWrite dataOffset.toNat bytes
      if bytes.length < length.toNat then
        outWrite (dataOffset.toNat + bytes.length) (List.replicate (length.toNat - bytes.length) 0)
      sglReadLoop pid oid offset sglist n (i + 1) (dataOffset + UInt64.ofNat bytes.length)

def sglRead (pid oid len offset : UInt64) (sglist : SgList) : OsdM (Ret × Option UInt64) := do
  if !isUserobjectId pid oid then
    return (cdbErr pid oid, none)
  if !(← openFile env pid oid) then
    return (cdbErr pid oid, none)
  match ← sglReadLoop env pid oid offset sglist sglist.rounds 0 0 with
  | none => return (hwErr pid oid, none)
  | some readlen =>
    if sglist.endless then never else do
      if env.sysFails (.close pid oid) then
        return (hwErr pid oid, none)
      setCcap (fillCcap .userobject pid oid 0)
      if readlen < len then
        return (readPastEnd pid oid readlen, some readlen)
      return (.ok, some readlen)

/-- `osd_read_device`, for the two distribution types `cdb_read` passes: with a list or without. -/
def osdReadDevice (pid oid len offset : UInt64) (sglist : Option SgList) :
    OsdM (Ret × Option UInt64) :=
  match sglist with
  | none => contigRead env pid oid len offset
  | some l => sglRead env pid oid len offset l

/-! ## Read map -/

def WRITTEN_DATA : UInt16 := 0x0001

/-- `set_dscptr`: the first two bytes of a descriptor are not stored. -/
def setDscptr (type : UInt16) (dataLen : UInt32) (byteOffset : UInt64) (pos : Nat) : OsdM Unit := do
  outWrite (pos + 2) (htons type)
  outWrite (pos + 4) (htonl dataLen)
  outWrite (pos + 8) (htonll byteOffset)

/-- The loop of `osd_read_map`: one descriptor for each 4 bytes, `n` of them to go. -/
def readMapLoop (mapType : UInt16) : Nat → UInt64 → UInt64 → OsdM Unit
  | 0, _, _ => return ()
  | n + 1, fileSize, byteOffset => do
    let dataLen := if fileSize ≤ 4 then fileSize else 4
    setDscptr mapType dataLen.toUInt32 byteOffset byteOffset.toNat
    readMapLoop mapType n (fileSize - dataLen) (byteOffset + 16)

/-- How many descriptors a range of this size gets. -/
def mapDescriptors (fileSize : Nat) : Nat := (fileSize + 3) / 4

/-- `osd_read_map`. -/
def osdReadMap (pid oid allocLen offset : UInt64) (mapType : UInt16) : OsdM (Ret × Option UInt64) := do
  if allocLen = 0 then
    return (.ok, none)
  if allocLen < 24 then
    return (cdbErr pid oid, none)
  outWrite 0 (List.replicate allocLen.toNat 0)
  if !isUserobjectId pid oid then
    return (cdbErr pid oid, none)
  let s ← get
  match s.lookup env pid oid with
  | none => return (cdbErr pid oid, none)
  | some content =>
    if env.sysFails (.openFile pid oid) then
      return (cdbErr pid oid, none)
    if env.sysFails (.stat pid oid) then
      return (.err .osdError, none)
    if content.length < offset.toNat then
      return (cdbErr pid oid, none)
    if mapType ≠ WRITTEN_DATA then
      return (osdErrorUnimplemented, none)
    let addLen := mapDescriptors (content.length - offset.toNat)
    readMapLoop mapType addLen (UInt64.ofNat (content.length - offset.toNat)) 8
    outWrite 0 (htonll (if 16 * addLen > 0xffffffff then 0xffffffff else UInt64.ofNat (16 * addLen)))
    let used := some (8 + 16 * UInt64.ofNat addLen)
    if env.sysFails (.close pid oid) then
      return (hwErr pid oid, used)
    return (.ok, used)

/-! ## Appending, clearing, punching -/

/-- `contig_append`; `none` for a NULL pointer to the data. -/
def contigAppend (pid oid len : UInt64) (appenddata : Option Mem) : OsdM Ret := do
  match appenddata with
  | none => return cdbErr pid oid
  | some data =>
    if !isUserobjectId pid oid then
      return cdbErr pid oid
    match (← get).lookup env pid oid with
    | none => return cdbErr pid oid
    | some content =>
      if env.sysFails (.openFile pid oid) then
        return cdbErr pid oid
      if env.sysFails (.lseek pid oid) then
        return hwErr pid oid
      let off := UInt64.ofNat content.length
      let ret ← pwriteFile env pid oid off len data
      if ret ≠ some len.toNat then
        return hwErr pid oid
      finishWrite env pid oid off

/-- `osd_clear`: zeros from a buffer of the length asked for. -/
def osdClear (pid oid len offset : UInt64) : OsdM Ret := do
  if env.noMemory len then
    return hwErr pid oid
  if !isUserobjectId pid oid then
    return cdbErr pid oid
  if !(← openFile env pid oid) then
    return cdbErr pid oid
  let ret ← pwriteFile env pid oid offset len fun _ => 0
  if ret ≠ some len.toNat then
    return hwErr pid oid
  finishWrite env pid oid 0

/-- The tail of a punched object is moved forward, then the object is cut. -/
def punchTail (pid oid offset newOffset newLen : UInt64) : OsdM Ret := do
  if env.noMemory newLen then
    return hwErr pid oid
  match preadFile env (← get) pid oid newOffset newLen with
  | none => return hwErr pid oid
  | some bytes =>
    let ret ← pwriteFile env pid oid offset newLen (env.stack.write 0 bytes)
    if ret ≠ some newLen.toNat then
      return hwErr pid oid
    if !(← truncateFile env pid oid (offset + newLen)) then
      return hwErr pid oid
    if env.sysFails (.close pid oid) then
      return hwErr pid oid
    return .ok

def osdPunch (pid oid len offset : UInt64) : OsdM Ret := do
  if !isUserobjectId pid oid then
    return cdbErr pid oid
  match (← get).lookup env pid oid with
  | none => return cdbErr pid oid
  | some content =>
    if env.sysFails (.openFile pid oid) then
      return cdbErr pid oid
    if env.sysFails (.stat pid oid) then
      return .err .osdError
    let newOffset := len + offset
    if content.length < offset.toNat then
      return cdbErr pid oid
    if content.length < newOffset.toNat then
      if !(← truncateFile env pid oid offset) then
        return hwErr pid oid
      if env.sysFails (.close pid oid) then
        return hwErr pid oid
      return .ok
    punchTail env pid oid offset newOffset (UInt64.ofNat content.length - newOffset)

/-! ## Flushing, and what is not implemented -/

/-- `osd_flush`; scope 2 is a range of the data, 0 the whole object. -/
def osdFlush (pid oid len offset : UInt64) (flushScope : UInt8) : OsdM Ret := do
  if !isUserobjectId pid oid then
    return cdbErr pid oid
  match (← get).lookup env pid oid with
  | none => return cdbErr pid oid
  | some content =>
    if env.sysFails (.openFile pid oid) then
      return cdbErr pid oid
    if flushScope = 0 then
      if env.sysFails (.fdatasync pid oid) then
        return hwErr pid oid
      finishWrite env pid oid 0
    else if flushScope = 2 then
      if env.sysFails (.stat pid oid) then
        return .err .osdError
      if content.length < offset.toNat then
        return cdbErr pid oid
      if env.sysFails (.syncFileRange pid oid) then
        return hwErr pid oid
      if content.length - offset.toNat < len.toNat then
        return .ok
      finishWrite env pid oid 0
    else
      return osdErrorUnimplemented

/-- `struct copy_user_object_source`, which the descriptor points to. -/
def osdCopyUserObjects (pid requestedOid : UInt64) (cuos : Mem) : OsdM Ret := do
  if pid = 0 ∨ pid < COLLECTION_PID_LB then
    return cdbErr pid requestedOid
  if requestedOid ≠ 0 ∧ requestedOid < USEROBJECT_OID_LB then
    return cdbErr pid requestedOid
  let sourcePid := getNtohll cuos 0
  let sourceOid := getNtohll cuos 8
  let (ret, present) ← objIspresent env sourcePid PARTITION_OID
  if ret ≠ .ok ∨ ¬ present then
    return cdbErr pid requestedOid
  let (ret, present) ← objIspresent env sourcePid sourceOid
  if ret ≠ .ok ∨ ¬ present then
    return cdbErr pid requestedOid
  let (ret, present) ← objIspresent env pid PARTITION_OID
  if ret ≠ .ok ∨ ¬ present then
    return cdbErr pid requestedOid
  -- neither data nor attributes are copied
  if requestedOid = 0 then
    match ← chooseId env pid USEROBJECT_OID_LB with
    | none =>
      invalidateCache
      return hwErr pid requestedOid
    | some oid =>
      setCcap (fillCcap .userobject pid oid 0)
      return .ok
  else
    if !(← takeRequestedId env pid requestedOid) then
      return cdbErr pid requestedOid
    setCcap (fillCcap .userobject pid requestedOid 0)
    return .ok

/-- `osd_flush_collection`, `osd_flush_osd`, `osd_flush_partition`, `osd_get_member_attributes`,
`osd_remove_member_objects`, `osd_set_key` and `osd_set_master_key`. -/
def osdFlushCollection : Ret := osdErrorUnimplemented
def osdFlushOsd : Ret := osdErrorUnimplemented
def osdFlushPartition : Ret := osdErrorUnimplemented
def osdGetMemberAttributes : Ret := osdErrorUnimplemented
def osdRemoveMemberObjects : Ret := osdErrorUnimplemented
def osdSetKey : Ret := osdErrorUnimplemented
def osdSetMasterKey : Ret := osdErrorUnimplemented

end OsdTarget
