import OsdTarget.ListEntry

/-!
# `attr.c`

Storing, deleting and retrieving attributes.  A retrieval function gets the position and the length
of its output area and returns, beside its status, what it stored in `*used_outlen`, `none` when it
left that variable alone.
-/

namespace OsdTarget

open Base

variable (env : Env)

/-! ## Storing and deleting -/

/-- `_attr_set_attr`: store the `len` bytes at `val`, a NULL `val` counting as no bytes. -/
def attrSetAttrRow (pid oid : UInt64) (page number : UInt32) (val : Option Mem) (len : UInt16) :
    OsdM Ret :=
  let value := val.map fun m => m.read 0 len.toNat
  dbExecDms env (.attrSet ⟨bindInt64 pid, bindInt64 oid, bindInt page, bindInt number, value⟩)

def attrSetConversion (pid oid : UInt64) (page number : UInt32) (val : Option Mem) (len : UInt16) :
    OsdM Ret :=
  attrSetAttrRow env pid oid page number val len

/-- The data file of (pid, oid), as a path built from `osd->root` finds it. -/
def Target.lookup (s : Target) (pid oid : UInt64) : Option (List UInt8) :=
  if s.rootFreed && env.rootGarbled then none else s.files pid oid

/-- The data file of (pid, oid) now has this content, or is gone. -/
def Target.setFile (s : Target) (pid oid : UInt64) (content : Option (List UInt8)) : Target :=
  { s with files := fun p o => if p = pid ∧ o = oid then content else s.files p o }

/-- `truncate` on a data file: cut off, or extend by zeros.  A length of 2^63 or more, which is negative as
an `off_t`, is refused. -/
def truncateFile (pid oid len : UInt64) : OsdM Bool := do
  let s ← get
  match s.lookup env pid oid with
  | none => return false
  | some content =>
    if 2 ^ 63 ≤ len.toNat ∨ env.sysFails (.truncate pid oid len) then
      return false
    set (s.setFile pid oid
      (some (content.take len.toNat ++ List.replicate (len.toNat - content.length) 0)))
    return true

/-- `set_uiap`'s and `attr_set_attr`'s way to set the logical length. -/
def setLogicalLen (pid oid len : UInt64) : OsdM Ret := do
  if ← truncateFile env pid oid len then
    return .ok
  return .err .osdError

/-- `attr_set_attr`: the information pages are special, everything else is stored as it is. -/
def attrSetAttr (pid oid : UInt64) (page number : UInt32) (val : Option Mem) (len : UInt16) :
    OsdM Ret := do
  if page = USER_INFO_PG then
    if number = UIAP_USERNAME then
      attrSetAttrRow env pid oid USER_INFO_PG UIAP_USERNAME val len
    else if number = UIAP_LOGICAL_LEN then
      match val with
      | none => never
      | some m => setLogicalLen env pid oid (getNtohll m 0)
    else
      return .ok
  else if page = ROOT_INFO_PG then
    if number = RIAP_OSD_SYSTEM_ID then
      if (← get).ccap.cdbSrvcAct = OSD_FORMAT_OSD then
        if len.toNat > RIAP_OSD_SYSTEM_ID_LEN then
          return .err .einval
        -- a shorter id is padded in a local copy, of which `len` bytes are stored
        attrSetAttrRow env pid oid ROOT_INFO_PG RIAP_OSD_SYSTEM_ID val len
      else
        return .err .osdError
    else if number = RIAP_OSD_NAME then
      attrSetAttrRow env pid oid ROOT_INFO_PG RIAP_OSD_NAME val len
    else
      return .ok
  else
    attrSetAttrRow env pid oid page number val len

def attrDeleteAttr (pid oid : UInt64) (page number : UInt32) : OsdM Ret :=
  dbExecDms env (.attrDelete (bindInt64 pid) (bindInt64 oid) (bindInt page) (bindInt number))

def attrDeleteAll (pid oid : UInt64) : OsdM Ret :=
  dbExecDms env (.attrDeleteAll (bindInt64 pid) (bindInt64 oid))

/-! ## Retrieving -/

/-- `attr_get_val`: the value of one attribute, if it fits into `outlen` bytes.  A zero-length value
ends the loop of `exec_attr_rtrvl_stmt` before anything was found. -/
def attrGetVal (pid oid : UInt64) (page number : UInt32) (outlen : UInt64) :
    OsdM (Ret × List UInt8) := do
  let p := bindInt64 pid
  let o := bindInt64 oid
  let (ret, row) ← dbExecQuery env (.attrGetVal p o (bindInt page) (bindInt number)) none
    fun d => d.attr.find? fun r => r.key = (p, o, bindInt page, bindInt number)
  match ret, row with
  | .ok, none => return (.err .enoent, [])
  | .ok, some r =>
    let len := (UInt16.ofNat r.value.length).toNat
    if outlen.toUInt32.toNat < len then
      return (.err .einval, [])
    if len = 0 then
      return (.err .enoent, [])
    return (.ok, r.value.take len)
  | e, _ => return (e, [])

/-- The statements behind list retrieval: rows of (page, number, value). -/
inductive Rtrvl
  | attr (page number : UInt32)
  | pageAsList (page : UInt32)
  | forAllPages (number : UInt32)
  | allAttrs
  deriving DecidableEq, Repr

/-- The rows a retrieval selects for the object. -/
def Rtrvl.rows (d : Db) (pid oid : Int) : Rtrvl → List AttrRow
  | .attr page number =>
    d.attr.filter fun r => r.key = (pid, oid, bindInt page, bindInt number)
  | .pageAsList page => d.attr.filter fun r => r.pid = pid ∧ r.oid = oid ∧ r.page = bindInt page
  | .forAllPages number =>
    d.attr.filter fun r => r.pid = pid ∧ r.oid = oid ∧ r.number = bindInt number
  | .allAttrs => d.attr.filter fun r => r.pid = pid ∧ r.oid = oid

/-- What the loop of `exec_attr_rtrvl_stmt` has gathered. -/
structure Gathered where
  len : UInt32
  found : Bool
  inval : Bool
  deriving DecidableEq, Repr

/-- `attr_gather_attr` on row after row, until one does not fit. -/
def gatherAttrs (oid : UInt64) (listfmt : UInt8) :
    List AttrRow → Nat → UInt64 → Gathered → OsdM Gathered
  | [], _, _, g => return g
  | r :: rows, pos, outlen, g => do
    match ← packAttr env listfmt pos outlen.toUInt32 oid (columnInt r.page) (columnInt r.number)
        (UInt16.ofNat r.value.length) (some (blobMem r.value)) with
    | .ok ret =>
      gatherAttrs oid listfmt rows (pos + ret) (outlen - UInt64.ofNat ret)
        { g with len := g.len + UInt32.ofNat ret, found := true }
    | .error .einval => return { g with inval := true }
    | .error _ => return g

/-- `exec_attr_rtrvl_stmt` for attributes, with the statement and its bindings. -/
def execAttrRtrvlStmt (q : Rtrvl) (pid oid : UInt64) (listfmt : UInt8) (pos : Nat)
    (outlen : UInt64) : OsdM (Ret × Option UInt32) := do
  let s ← get
  -- an error of the step leaves `*used_outlen` at the zero stored first
  if env.queryFails (.attrRtrvl (bindInt64 pid) (bindInt64 oid)) s.db then
    return (.err .osdError, some 0)
  let g ← gatherAttrs env oid listfmt (q.rows s.db (bindInt64 pid) (bindInt64 oid)) pos outlen
    ⟨0, false, false⟩
  if g.inval then
    return (.err .einval, some 0)
  if g.found then
    return (.ok, some g.len)
  return (.err .enoent, some g.len)

/-- `_attr_get_attr` and `attr_get_conversion`. -/
def attrGetConversion (pid oid : UInt64) (page number : UInt32) (listfmt : UInt8) (pos : Nat)
    (outlen : UInt64) : OsdM (Ret × Option UInt32) :=
  execAttrRtrvlStmt env (.attr page number) pid oid listfmt pos outlen

def attrGetPageAsList (pid oid : UInt64) (page : UInt32) (listfmt : UInt8) (pos : Nat)
    (outlen : UInt64) : OsdM (Ret × Option UInt32) :=
  execAttrRtrvlStmt env (.pageAsList page) pid oid listfmt pos outlen

def attrGetForAllPages (pid oid : UInt64) (number : UInt32) (listfmt : UInt8) (pos : Nat)
    (outlen : UInt64) : OsdM (Ret × Option UInt32) :=
  execAttrRtrvlStmt env (.forAllPages number) pid oid listfmt pos outlen

def attrGetAllAttrs (pid oid : UInt64) (listfmt : UInt8) (pos : Nat) (outlen : UInt64) :
    OsdM (Ret × Option UInt32) :=
  execAttrRtrvlStmt env .allAttrs pid oid listfmt pos outlen

/-- The end of every single-attribute getter: pack the value and report the length, an entry that
does not fit counting as length 0. -/
def packValue (listfmt : UInt8) (pos : Nat) (outlen : UInt64) (oid : UInt64) (page number : UInt32)
    (len : UInt16) (val : Option Mem) : OsdM (Ret × Option UInt32) := do
  if listfmt ≠ RTRVD_SET_ATTR_LIST ∧ listfmt ≠ RTRVD_CREATE_MULTIOBJ_LIST then
    return (.err .osdError, none)
  match ← packAttr env listfmt pos outlen.toUInt32 oid page number len val with
  | .ok ret => return (.ok, some (UInt32.ofNat ret))
  | .error .eoverflow => return (.ok, some 0)
  | .error e => return (.err e, none)

/-- A local buffer holding `bytes` at its start and whatever the stack held behind. -/
def localBuf (bytes : List UInt8) : Mem := env.stack.write 0 bytes

/-- The user information attributes that are computed: length and value, or an error of `stat`. -/
def userInfoVal (s : Target) (pid oid : UInt64) (number : UInt32) : Option (UInt16 × Mem) :=
  let file := s.lookup env pid oid
  if number = 0 then
    -- the name is printed without clearing the rest of the 40 bytes
    some (40, localBuf env ((cString "INCITS  T10 User Object Information").read 0 36))
  else if number = UIAP_PID then some (8, blobMem (htonll pid))
  else if number = UIAP_OID then some (8, blobMem (htonll pid))
  else if number = UIAP_USED_CAPACITY then
    if oid = 0 then
      if file.isNone || env.sysFails (.statfs pid oid) then none
      else some (8, blobMem (htonll ((env.statfsBlocks.1 - env.statfsBlocks.2) * 512)))
    else
      if file.isNone || env.sysFails (.stat pid oid) then none
      else some (8, blobMem (htonll (env.statBlocks pid oid * 512)))
  else if number = UIAP_LOGICAL_LEN then
    match file with
    | none => none
    | some content =>
      if env.sysFails (.stat pid oid) then none
      else some (8, blobMem (htonll (UInt64.ofNat content.length)))
  else if number = PARTITION_CAPACITY_QUOTA then
    if file.isNone || env.sysFails (.statfs pid oid) then none
    else some (8, blobMem (htonll (env.statfsBlocks.1 * 512)))
  else none

/-- The root information attributes that are constants of the program. -/
def rootInfoVal (number : UInt32) : Option (UInt16 × Mem) :=
  if number = 0 then
    some (40, localBuf env ((cString "INCITS  T10 Root Information").read 0 29))
  else if number = RIAP_VENDOR_IDENTIFICATION then some (4, cString "OSC")
  else if number = RIAP_PRODUCT_IDENTIFICATION then some (7, cString "OSDEMU")
  else if number = RIAP_PRODUCT_MODEL then some (8, cString "OSD2r05")
  else if number = RIAP_PRODUCT_REVISION_LEVEL then some (4, localBuf env (htonl 117))
  else if number = RIAP_PRODUCT_SERIAL_NUMBER then some (2, cString "2")
  else if number = RIAP_TOTAL_CAPACITY then some (8, blobMem (htonll (0 - 1)))
  else if number = RIAP_USED_CAPACITY then some (8, blobMem (htonll (0 - 1)))
  else if number = RIAP_NUMBER_OF_PARTITIONS then some (8, blobMem (htonll 17))
  else if number = RIAP_CLOCK then some (6, localBuf env (htonl 0))
  else none

/-- The system id reported when none was stored. -/
def defaultSystemId : List UInt8 :=
  [0xf1, 0x81, 0x00, 0x0e] ++ (cString "OSC     OSDEMU").read 0 14 ++ [0x00, 0x00]

/-- `attr_get_attr`. -/
def attrGetAttr (pid oid : UInt64) (page number : UInt32) (listfmt : UInt8) (pos : Nat)
    (outlen : UInt64) : OsdM (Ret × Option UInt32) := do
  if page = USER_INFO_PG then
    if number = UIAP_USERNAME then
      attrGetConversion env pid oid USER_INFO_PG UIAP_USERNAME listfmt pos outlen
    else
      match userInfoVal env (← get) pid oid number with
      | none => return (.err .osdError, none)
      | some (len, val) => packValue env listfmt pos outlen oid page number len (some val)
  else if page = ROOT_INFO_PG then
    if number = RIAP_OSD_NAME then
      attrGetConversion env pid oid ROOT_INFO_PG RIAP_OSD_NAME listfmt pos outlen
    else if number = RIAP_OSD_SYSTEM_ID then
      -- looked up under the number `RIAP_OSD_SYSTEM_ID_LEN`
      match ← attrGetConversion env pid oid ROOT_INFO_PG 20 listfmt pos outlen with
      | (.err .enoent, _) =>
        packValue env listfmt pos outlen oid page number 20 (some (blobMem defaultSystemId))
      | r => return r
    else
      match rootInfoVal env number with
      | none => return (.err .osdError, none)
      | some (len, val) => packValue env listfmt pos outlen oid page number len (some val)
  else
    packValue env listfmt pos outlen oid page number 0 none

end OsdTarget
