import OsdTarget.Attr
import OsdTarget.Obj

/-!
# `io.c`: data files

One file for each user object.  A system call that the code tests for failure may fail for reasons
of its own (`Env.sysFails`); apart from that, `open`, `stat` and `unlink` succeed on a file that
exists and fail on one that does not.
-/

namespace OsdTarget

open Base

variable (env : Env)

/-- The two range checks in front of every command on a user object. -/
def isUserobjectId (pid oid : UInt64) : Bool := USEROBJECT_PID_LB ≤ pid && USEROBJECT_OID_LB ≤ oid

def cdbErr (pid oid : UInt64) : Ret :=
  senseBuildSdd OSD_SSK_ILLEGAL_REQUEST OSD_ASC_INVALID_FIELD_IN_CDB pid oid

def hwErr (pid oid : UInt64) : Ret :=
  senseBuildSdd OSD_SSK_HARDWARE_ERROR OSD_ASC_INVALID_FIELD_IN_CDB pid oid

def paramListErr (pid oid : UInt64) : Ret :=
  senseBuildSdd OSD_SSK_ILLEGAL_REQUEST OSD_ASC_INVALID_FIELD_IN_PARAM_LIST pid oid

def notEmptyErr (pid oid : UInt64) : Ret :=
  senseBuildSdd OSD_SSK_ILLEGAL_REQUEST OSD_ASC_PART_OR_COLL_CONTAINS_USER_OBJECTS pid oid

def setCcap (c : Ccap) : OsdM Unit := modify fun s => { s with ccap := c }

/-! ## Creating and removing -/

/-- `osd_create_datafile`. -/
def osdCreateDatafile (pid oid : UInt64) : OsdM Ret := do
  let s ← get
  if env.sysFails (.stat pid oid) then
    return .err .osdError
  if (s.lookup env pid oid).isSome then
    return .err .eexist
  if env.sysFails (.creat pid oid) || (s.rootFreed && env.rootGarbled) then
    return .err .osdError
  set (s.setFile pid oid (some []))
  return .ok

/-- `unlink` of a data file. -/
def unlinkFile (pid oid : UInt64) : OsdM Bool := do
  let s ← get
  if (s.lookup env pid oid).isNone || env.sysFails (.unlink pid oid) then
    return false
  set (s.setFile pid oid none)
  return true

/-! ## Writing -/

/-- The content of a file after `bytes` were stored at `off`; a gap reads as zeros. -/
def fileWrite (content : List UInt8) (off : Nat) (bytes : List UInt8) : List UInt8 :=
  if bytes = [] then content
  else content.take off ++ List.replicate (off - content.length) 0 ++ bytes ++
    content.drop (off + bytes.length)

/-- `open` for writing. -/
def openFile (pid oid : UInt64) : OsdM Bool := do
  return (((← get).lookup env pid oid).isSome && !env.sysFails (.openFile pid oid))

/-- `pwrite` of `len` bytes at `src`: the count stored, at most what Linux transfers at once, or
`none` on error.  A range that does not end below 2^63 is `EINVAL`. -/
def pwriteFile (pid oid off len : UInt64) (src : Mem) : OsdM (Option Nat) := do
  let s ← get
  match s.lookup env pid oid, env.pwrite pid oid off len with
  | some content, some limit =>
    if 2 ^ 63 ≤ off.toNat + len.toNat then
      return none
    let count := min limit (min len.toNat 0x7ffff000)
    set (s.setFile pid oid (some (fileWrite content off.toNat (src.read 0 count))))
    return some count
  | _, _ => return none

/-- `close(fd)` and the rest of a write that went through. -/
def finishWrite (pid oid appendOff : UInt64) : OsdM Ret := do
  if env.sysFails (.close pid oid) then
    return hwErr pid oid
  setCcap (fillCcap .userobject pid oid appendOff)
  return .ok

def contigWrite (pid oid len offset : UInt64) (dinbuf : Mem) : OsdM Ret := do
  if !isUserobjectId pid oid then
    return cdbErr pid oid
  if !(← openFile env pid oid) then
    return cdbErr pid oid
  let ret ← pwriteFile env pid oid offset len dinbuf
  if ret ≠ some len.toNat then
    return hwErr pid oid
  finishWrite env pid oid 0

/-- `struct sg_list`: the number of entries and where they are. -/
structure SgList where
  numEntries : UInt64
  entries : Mem

/-- `i < pairs` with a counter of 32 bits: a longer list is gone through again and again, each round
with the same outcome. -/
def SgList.rounds (l : SgList) : Nat := min l.numEntries.toNat (2 ^ 32)
def SgList.endless (l : SgList) : Bool := 2 ^ 32 ≤ l.numEntries.toNat

/-- The loop of `sgl_write` from entry `i` on, `n` entries to go; `none` stands for the jump to
`out_hw_err`. -/
def sglWriteLoop (pid oid offset : UInt64) (dinbuf : Mem) (sglist : SgList) :
    Nat → Nat → UInt64 → OsdM (Option Unit)
  | 0, _, _ => return some ()
  | n + 1, i, dataOffset => do
    let offsetVal := getNtohll sglist.entries (16 * i)
    let length := getNtohll sglist.entries (16 * i + 8)
    let ret ← pwriteFile env pid oid (offsetVal + offset) length (dinbuf.shift dataOffset.toNat)
    if ret ≠ some length.toNat then
      return none
    sglWriteLoop pid oid offset dinbuf sglist n (i + 1) (dataOffset + length)

def sglWrite (pid oid offset : UInt64) (dinbuf : Mem) (sglist : SgList) : OsdM Ret := do
  if !isUserobjectId pid oid then
    return cdbErr pid oid
  if !(← openFile env pid oid) then
    return cdbErr pid oid
  match ← sglWriteLoop env pid oid offset dinbuf sglist sglist.rounds 0 0 with
  | none => return hwErr pid oid
  | some _ => if sglist.endless then never else finishWrite env pid oid 0

/-- The loop of `vec_write`.  Each round takes `length` from `bytes` modulo 2^64, so a round of
length 0 repeats forever and any other sequence of rounds ends within 2^64 of them. -/
def vecWriteLoop (pid oid offset stride : UInt64) (dinbuf : Mem) :
    Nat → UInt64 → UInt64 → UInt64 → UInt64 → OsdM (Option Unit)
  | 0, _, _, _, _ => never
  | fuel + 1, bytes, length, dataOffset, offsetVal => do
    if bytes = 0 then
      return some ()
    let ret ← pwriteFile env pid oid (offsetVal + offset) length (dinbuf.shift dataOffset.toNat)
    if ret ≠ some length.toNat then
      return none
    let left := bytes - length
    vecWriteLoop pid oid offset stride dinbuf fuel left (if left < length then left else length)
      (dataOffset + length) (offsetVal + stride)

def vecWrite (pid oid len offset : UInt64) (dinbuf : Mem) : OsdM Ret := do
  let stride := getNtohll dinbuf 0
  let length := getNtohll dinbuf 8
  if !isUserobjectId pid oid then
    return cdbErr pid oid
  if !(← openFile env pid oid) then
    return cdbErr pid oid
  match ← vecWriteLoop env pid oid offset stride dinbuf (2 ^ 64 + 1) (len - 16) length 16 0 with
  | none => return hwErr pid oid
  | some _ => finishWrite env pid oid 0

/-- `osd_write`: the data distribution type picks the writer. -/
def osdWrite (pid oid len offset : UInt64) (dinbuf : Mem) (sglist : SgList) (ddt : UInt8) :
    OsdM Ret :=
  if ddt = DDT_CONTIG then contigWrite env pid oid len offset dinbuf
  else if ddt = DDT_SGL then sglWrite env pid oid offset dinbuf sglist
  else if ddt = DDT_VEC then vecWrite env pid oid len offset dinbuf
  else return cdbErr pid oid

end OsdTarget
