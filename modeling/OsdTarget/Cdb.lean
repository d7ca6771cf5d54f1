import OsdTarget.Attributes
import OsdTarget.Create
import OsdTarget.Base.Rounds

/-!
# `cdb.c`: attribute parameters

The get and set attribute parameters of a command, which its CDB gives as positions and lengths in
the data-in buffer, and the commands that create something and then apply them.  Pointers into
data-in and data-out are positions in these buffers; `malloc` gives memory whenever it is asked for
some.
-/

namespace OsdTarget

open Base

/-! ## Commands -/

def GETFIELD_SETVALUE : UInt8 := 0x1
def GETPAGE_SETVALUE : UInt8 := 0x2
def GETLIST_SETLIST : UInt8 := 0x3

def RTRV_ATTR_LIST : UInt8 := 0x1
def LIST_HDR_LEN : UInt32 := 8

/-- What `struct command` holds before the service action runs. -/
structure Command where
  cdb : Mem
  getsetCdbfmt : UInt8
  /-- All ones when there is none. -/
  retrievedAttrOff : UInt64
  indata : Mem
  inlen : UInt64
  /-- `outdata` is not NULL. -/
  hasOutdata : Bool
  /-- `indata` is not NULL. -/
  hasIndata : Bool := true

/-- `get_ntohoffset`: a mantissa of 28 bits and, above it, a signed exponent of 4, biased by 8. -/
def getNtohoffset (m : Mem) (off : Nat) : UInt64 :=
  let base := getNtohl m off
  if base = 0xFFFFFFFF then 0 - 1
  else
    let exponent := (base.toNat / 2 ^ 28 + 8) % 16
    UInt64.ofNat (base.toNat % 2 ^ 28 * 2 ^ exponent)

def paramListLengthErr (pid oid : UInt64) : Ret :=
  senseBuildSdd OSD_SSK_ILLEGAL_REQUEST OSD_ASC_PARAMETER_LIST_LENGTH_ERROR pid oid

/-! ## Argument checks -/

/-- What the tests at the start of an attribute function come to. -/
inductive ParamCheck
  /-- Nothing is asked for. -/
  | nothing
  | reject (asc : UInt16)
  /-- The parameter, `len` bytes at `off` of data-in, is used. -/
  | use (off len : Nat)
  deriving DecidableEq, Repr

/-- A function that starts with such tests. -/
def ParamCheck.run (c : ParamCheck) (pid oid : UInt64) (body : Nat → Nat → OsdM Ret) : OsdM Ret :=
  match c with
  | .nothing => return .ok
  | .reject asc => return senseBuildSdd OSD_SSK_ILLEGAL_REQUEST asc pid oid
  | .use off len => body off len

/-- The tests of `set_attr_value`. -/
def setAttrValueCheck (cmd : Command) : ParamCheck :=
  if getNtohl cmd.cdb 64 = 0 then .nothing
  else .use (getNtohoffset cmd.cdb 76).toNat (getNtohl cmd.cdb 72).toNat

/-- The tests `set_attr_list` and `parse_setattr_list` share.  Both keep the offset in 32 bits. -/
def setListCheck (cmd : Command) : ParamCheck :=
  let setattrListLen := getNtohl cmd.cdb 68
  let listOff := (getNtohoffset cmd.cdb 72).toUInt32.toNat
  if setattrListLen = 0 then .nothing
  else if setattrListLen < LIST_HDR_LEN then .reject OSD_ASC_PARAMETER_LIST_LENGTH_ERROR
  else if cmd.indata listOff &&& 0xF ≠ RTRVD_SET_ATTR_LIST then
    .reject OSD_ASC_PARAMETER_LIST_LENGTH_ERROR
  else if (setattrListLen - 8) &&& 7 ≠ 0 then .reject OSD_ASC_PARAMETER_LIST_LENGTH_ERROR
  else .use listOff setattrListLen.toNat

/-- The tests of `parse_getattr_list`, and of `get_attr_list` beside that of `outdata`. -/
def getListCheck (cmd : Command) : ParamCheck :=
  let getattrListLen := getNtohl cmd.cdb 52
  let listOff := getNtohoffset cmd.cdb 56
  let listAllocLen := getNtohl cmd.cdb 60
  -- what data-in holds from the offset on, cut to 32 bits
  let listInLen := (cmd.inlen - listOff).toUInt32
  if getattrListLen = 0 then .nothing
  else if getattrListLen < LIST_HDR_LEN then .reject OSD_ASC_PARAMETER_LIST_LENGTH_ERROR
  else if listInLen < 8 then .reject OSD_ASC_PARAMETER_LIST_LENGTH_ERROR
  else if listOff &&& 7 ≠ 0 ∨ listAllocLen &&& 7 ≠ 0 then .reject OSD_ASC_PARAMETER_LIST_LENGTH_ERROR
  else if cmd.indata listOff.toNat &&& 0xF ≠ RTRV_ATTR_LIST then
    .reject OSD_ASC_INVALID_FIELD_IN_PARAM_LIST
  else if (getattrListLen - 8) &&& 7 ≠ 0 then .reject OSD_ASC_PARAMETER_LIST_LENGTH_ERROR
  else if getattrListLen - 8 + 8 < listInLen then .reject OSD_ASC_PARAMETER_LIST_LENGTH_ERROR
  else .use listOff.toNat getattrListLen.toNat

/-- The tests of `get_attr_list`. -/
def getAttrListCheck (cmd : Command) : ParamCheck :=
  if getNtohl cmd.cdb 52 ≠ 0 ∧ ¬ cmd.hasOutdata then .reject OSD_ASC_PARAMETER_LIST_LENGTH_ERROR
  else getListCheck cmd

/-- The tests of `set_one_attr_value`, whose value is at most 18 bytes of the CDB itself. -/
def setOneAttrValueCheck (cmd : Command) : ParamCheck :=
  let len := getNtohs cmd.cdb 60
  if getNtohl cmd.cdb 52 = 0 then .nothing
  else if 18 < len then .reject OSD_ASC_INVALID_FIELD_IN_CDB
  else if getNtohl cmd.cdb 52 = 0xFFFFFFFF ∨ getNtohl cmd.cdb 56 = 0xFFFFFFFF then
    .reject OSD_ASC_INVALID_FIELD_IN_CDB
  else .use 62 len.toNat

/-! ## Entries of a set list -/

/-- `struct list_entry`, its value a position in data-in. -/
structure ListEntry where
  page : UInt32
  number : UInt32
  len : UInt16
  cval : Nat
  deriving DecidableEq, Repr

/-- The entry at `list_hdr`. -/
def listEntryAt (indata : Mem) (listHdr : Nat) : ListEntry where
  page := getNtohl indata (listHdr + LE_PAGE_OFF)
  number := getNtohl indata (listHdr + LE_NUMBER_OFF)
  len := getNtohs indata (listHdr + LE_LEN_OFF)
  cval := listHdr + LE_VAL_OFF

def ListEntry.pad (e : ListEntry) : Nat := (8 - (LE_VAL_OFF + e.len.toNat) % 8) % 8

/-- How far the walk goes on. -/
def ListEntry.size (e : ListEntry) : Nat := LE_VAL_OFF + e.len.toNat + e.pad

/-- The entry with the value its position holds. -/
def ListEntry.setEntry (indata : Mem) (e : ListEntry) : SetEntry :=
  ⟨e.page, e.number, indata.read e.cval e.len.toNat⟩

/-! ## Setting -/

variable (env : Env)

/-- `osd_set_attributes` on object after object, until one is refused. -/
def setOnObjects (pid : UInt64) (page number : UInt32) (val : Option Mem) (len : UInt16)
    (isembedded : Bool) : Nat → UInt64 → OsdM Ret
  | 0, _ => return .ok
  | n + 1, i => do
    let ret ← osdSetAttributes env pid i page number val len isembedded
    if ret ≠ .ok then
      return ret
    setOnObjects pid page number val len isembedded n (i + 1)

/-- `body` between `osd_begin_txn` and `osd_end_txn`, whose results only meet assertions. -/
def withinTxn {α : Type} (body : OsdM α) : OsdM α := do
  let _ ← osdBeginTxn env
  let ret ← body
  let _ ← osdEndTxn env
  return ret

/-- `&cmd->indata[offset]`: NULL at offset 0 when there is no data-in. -/
def Command.indataAt (cmd : Command) (off : Nat) : Option Mem :=
  if cmd.hasIndata = false ∧ off = 0 then none else some (cmd.indata.shift off)

/-- `set_attr_value`; `osd_set_attributes` gets the low half of the length. -/
def setAttrValue (cmd : Command) (pid oid : UInt64) (isembedded : Bool) (numoid : UInt16) : OsdM Ret :=
  (setAttrValueCheck cmd).run pid oid fun off len =>
    withinTxn env (setOnObjects env pid (getNtohl cmd.cdb 64) (getNtohl cmd.cdb 68)
      (cmd.indataAt off) (UInt16.ofNat len) isembedded (createCount oid numoid) oid)

/-- `set_one_attr_value`. -/
def setOneAttrValue (cmd : Command) (pid oid : UInt64) (isembedded : Bool) (numoid : UInt16) : OsdM Ret :=
  (setOneAttrValueCheck cmd).run pid oid fun off len =>
    withinTxn env (setOnObjects env pid (getNtohl cmd.cdb 52) (getNtohl cmd.cdb 56)
      (some (cmd.cdb.shift off)) (UInt16.ofNat len) isembedded (createCount oid numoid) oid)

/-- The loop of `set_attr_list`, with at most `fuel` entries. -/
def setAttrListLoop (indata : Mem) (pid oid : UInt64) (isembedded : Bool) (numoid : UInt16) :
    Nat → Nat → UInt32 → OsdM Ret
  | 0, _, listLen => if listLen = 0 then return .ok else never
  | fuel + 1, listHdr, listLen =>
    if listLen = 0 then return .ok
    else do
      let e := listEntryAt indata listHdr
      let ret ← setOnObjects env pid e.page e.number (some (indata.shift e.cval)) e.len isembedded
        (createCount oid numoid) oid
      if ret ≠ .ok then
        return ret
      setAttrListLoop indata pid oid isembedded numoid fuel (listHdr + e.size)
        (listLen - UInt32.ofNat e.size)

/-- `set_attr_list`. -/
def setAttrList (cmd : Command) (pid oid : UInt64) (isembedded : Bool) (numoid : UInt16) (fuel : Nat) :
    OsdM Ret :=
  (setListCheck cmd).run pid oid fun off len =>
    withinTxn env (setAttrListLoop env cmd.indata pid oid isembedded numoid fuel (off + 8)
      (UInt32.ofNat len - 8))

/-- One round of the loop of `parse_setattr_list`: position, remaining length, entries filled. -/
def parseRound (indata : Mem) :
    Nat × UInt32 × List ListEntry → Round (Nat × UInt32 × List ListEntry) (List ListEntry)
  | (listHdr, listLen, le) =>
    if listLen = 0 then .exit le
    else
      let e := listEntryAt indata listHdr
      .next (listHdr + e.size, listLen - UInt32.ofNat e.size, le ++ [e])

/-- The entries `parse_setattr_list` allocates for a list of `len` bytes. -/
def setattrAlloc (len : Nat) : Nat := (len - 8) / 16

/-- `parse_setattr_list`, with at most `fuel` entries.  `Malloc` refuses to allocate nothing. -/
def parseSetattrList (cmd : Command) (pid oid : UInt64) (fuel : Nat) :
    Option (Ret × List ListEntry) :=
  match setListCheck cmd with
  | .nothing => some (.ok, [])
  | .reject asc => some (senseBuildSdd OSD_SSK_ILLEGAL_REQUEST asc pid oid, [])
  | .use off len =>
    if 0 < len - 8 ∧ setattrAlloc len = 0 then some (hwErr pid oid, [])
    else (rounds (parseRound cmd.indata) fuel (off + 8, UInt32.ofNat len - 8, [])).map fun le => (.ok, le)

/-! ## Getting -/

/-- `struct getattr_list_entry`: page and number. -/
def getEntryAt (indata : Mem) (listHdr : Nat) : UInt32 × UInt32 :=
  (getNtohl indata listHdr, getNtohl indata (listHdr + 4))

/-- `parse_getattr_list`. -/
def parseGetattrList (cmd : Command) (pid oid : UInt64) : Ret × List (UInt32 × UInt32) :=
  match getListCheck cmd with
  | .nothing => (.ok, [])
  | .reject asc => (senseBuildSdd OSD_SSK_ILLEGAL_REQUEST asc pid oid, [])
  | .use off len =>
    (.ok, (List.range ((len - 8) / 8)).map fun i => getEntryAt cmd.indata (off + 8 + 8 * i))

/-- Where `get_attr_list` has come to in the reply: `cp`, `list_alloc_len` and `get_used_outlen`. -/
structure GetCursor where
  pos : Nat
  allocLen : UInt32
  used : UInt32

/-- The cursor after an entry of `u` bytes. -/
def GetCursor.advance (c : GetCursor) (u : UInt32) : GetCursor :=
  ⟨c.pos + u.toNat, c.allocLen - u, c.used + u⟩

/-- One attribute of object after object. -/
def getFromObjects (pid : UInt64) (page number : UInt32) (isembedded : Bool) (listfmt : UInt8) :
    Nat → UInt64 → GetCursor → OsdM (Ret × GetCursor)
  | 0, _, c => return (.ok, c)
  | n + 1, i, c => do
    let (ret, used) ← osdGetattrList env pid i page number c.pos c.allocLen isembedded listfmt
    if ret ≠ .ok then
      return (ret, c)
    getFromObjects pid page number isembedded listfmt n (i + 1) (c.advance (used.getD 0))

/-- The loop of `get_attr_list`. -/
def getAttrListLoop (pid oid : UInt64) (isembedded : Bool) (listfmt : UInt8) (numoid : UInt16) :
    List (UInt32 × UInt32) → GetCursor → OsdM (Ret × GetCursor)
  | [], c => return (.ok, c)
  | (page, number) :: rest, c => do
    let (ret, c) ← getFromObjects env pid page number isembedded listfmt (createCount oid numoid) oid c
    if ret ≠ .ok then
      return (ret, c)
    getAttrListLoop pid oid isembedded listfmt numoid rest c

/-- `get_attr_list`: the status and `get_used_outlen`, which starts as `used`. -/
def getAttrList (cmd : Command) (pid oid : UInt64) (isembedded : Bool) (numoid : UInt16)
    (used : UInt32) : OsdM (Ret × UInt32) :=
  match getAttrListCheck cmd with
  | .nothing => return (.ok, used)
  | .reject asc => return (senseBuildSdd OSD_SSK_ILLEGAL_REQUEST asc pid oid, used)
  | .use off len => do
    let outbuf := cmd.retrievedAttrOff.toNat
    let listfmt := if 1 < numoid then RTRVD_CREATE_MULTIOBJ_LIST else RTRVD_SET_ATTR_LIST
    outWrite outbuf [listfmt]
    outWrite (outbuf + 1) [0, 0, 0]
    let entries := (List.range ((len - 8) / 8)).map fun i => getEntryAt cmd.indata (off + 8 + 8 * i)
    let (ret, c) ← withinTxn env do
      let (ret, c) ← getAttrListLoop env pid oid isembedded listfmt numoid entries
        ⟨outbuf + 8, getNtohl cmd.cdb 60 - 8, 8⟩
      -- the length is stored before the transaction ends
      if ret = .ok then
        outWrite (outbuf + 4) (htonl (c.used - 8))
      return (ret, c)
    return (ret, c.used)

/-- `get_attr_page`. -/
def getAttrPage (cmd : Command) (pid oid : UInt64) (isembedded : Bool) (numoid : UInt16)
    (used : UInt32) : OsdM (Ret × UInt32) :=
  let page := getNtohl cmd.cdb 52
  let allocLen := getNtohl cmd.cdb 56
  if page = 0 ∨ allocLen = 0 then return (.ok, used)
  else if 1 < numoid ∧ page ≠ CUR_CMD_ATTR_PG then return (paramListLengthErr pid oid, used)
  else if ¬ cmd.hasOutdata then return (paramListLengthErr pid oid, used)
  else do
    let (ret, n) ← osdGetattrPage env pid oid page cmd.retrievedAttrOff.toNat allocLen.toUInt64 isembedded
    return (ret, n.getD used)

/-! ## Both parameters -/

/-- `set_attributes`; its callees take the number of objects as 16 bits. -/
def setAttributes (cmd : Command) (pid oid : UInt64) (numoid : UInt32) (fuel : Nat) : OsdM Ret :=
  if numoid < 1 then return cdbErr pid oid
  else if cmd.getsetCdbfmt = GETPAGE_SETVALUE then setAttrValue env cmd pid oid true numoid.toUInt16
  else if cmd.getsetCdbfmt = GETLIST_SETLIST then setAttrList env cmd pid oid true numoid.toUInt16 fuel
  else if cmd.getsetCdbfmt = GETFIELD_SETVALUE then setOneAttrValue env cmd pid oid true numoid.toUInt16
  else return cdbErr pid oid

/-- `get_attributes`. -/
def getAttributes (cmd : Command) (pid oid : UInt64) (numoid : UInt16) (used : UInt32) :
    OsdM (Ret × UInt32) :=
  if numoid < 1 then return (cdbErr pid oid, used)
  else if cmd.getsetCdbfmt = GETPAGE_SETVALUE then getAttrPage env cmd pid oid true numoid used
  else if cmd.getsetCdbfmt = GETLIST_SETLIST then getAttrList env cmd pid oid true numoid used
  else if cmd.getsetCdbfmt = GETFIELD_SETVALUE then return (.ok, used)
  else return (cdbErr pid oid, used)

/-- The parameters as the commands below apply them: set, then get. -/
def applyAttributes (cmd : Command) (pid oid : UInt64) (numoid : UInt16) (fuel : Nat) (used : UInt32) :
    OsdM (Ret × UInt32) := do
  let ret ← setAttributes env cmd pid oid numoid.toUInt32 fuel
  if ret ≠ .ok then
    return (ret, used)
  getAttributes env cmd pid oid numoid used

/-- The common end of these commands; `undo` is the code at `out_remove_obj`. -/
def attributesOrUndo (cmd : Command) (pid oid : UInt64) (numoid : UInt16) (fuel : Nat) (used : UInt32)
    (undo : OsdM Unit) : OsdM (Ret × UInt32) := do
  let (ret, used) ← applyAttributes env cmd pid oid numoid fuel used
  if ret ≠ .ok then
    undo
  return (ret, used)

/-! ## Creating with attributes -/

/-- `osd_get_created_oid`. -/
def getCreatedOid (ccap : Ccap) (numoid : UInt32) : UInt64 :=
  if 0 < numoid then ccap.oid - (numoid - 1).toUInt64 else ccap.oid

def cdbCreate (cmd : Command) (fuel : Nat) (used : UInt32) : OsdM (Ret × UInt32) := do
  let pid := getNtohll cmd.cdb 16
  let requestedOid := getNtohll cmd.cdb 24
  let numoid := getNtohs cmd.cdb 32
  if 1 < numoid ∧ cmd.getsetCdbfmt = GETPAGE_SETVALUE ∧ getNtohl cmd.cdb 52 ≠ CUR_CMD_ATTR_PG then
    return (cdbErr pid requestedOid, used)
  let ret ← withinTxn env (osdCreate env pid requestedOid numoid)
  if ret ≠ .ok then
    return (ret, used)
  let numoid := if numoid = 0 then 1 else numoid
  let oid := getCreatedOid (← get).ccap numoid.toUInt32
  -- the loop at `out_remove_obj` is that of `osd_remove_tmp_objects`
  attributesOrUndo env cmd pid oid numoid fuel used
    (osdRemoveTmpObjects env pid (createCount oid numoid) oid)

/-- The undo of the two commands below, whose result is ignored. -/
def removeCreated (pid oid : UInt64) : OsdM Unit := do
  let _ ← osdRemove env pid oid

def cdbCreateCollection (cmd : Command) (fuel : Nat) (used : UInt32) : OsdM (Ret × UInt32) := do
  let pid := getNtohll cmd.cdb 16
  let ret ← osdCreateCollection env pid (getNtohll cmd.cdb 24)
  if ret ≠ .ok then
    return (ret, used)
  let cid := (← get).ccap.oid
  attributesOrUndo env cmd pid cid 1 fuel used (removeCreated env pid cid)

def cdbCreatePartition (cmd : Command) (fuel : Nat) (used : UInt32) : OsdM (Ret × UInt32) := do
  let ret ← osdCreatePartition env (getNtohll cmd.cdb 16)
  if ret ≠ .ok then
    return (ret, used)
  let pid := (← get).ccap.pid
  attributesOrUndo env cmd pid PARTITION_OID 1 fuel used (removeCreated env pid PARTITION_OID)

end OsdTarget
