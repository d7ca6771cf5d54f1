import OsdTarget.Create

/-!
# `osd.c`: attribute commands

Setting, retrieving and comparing attributes, and the lazy initialisation that makes a retrieval
write.
-/

namespace OsdTarget

open Base

variable (env : Env)

/-! ## Object types and page ranges -/

/-- `get_obj_type`.  Only user objects and collections are looked up in the table. -/
def getObjType (pid oid : UInt64) : OsdM ObjType := do
  if pid = ROOT_PID ∧ oid = ROOT_OID then
    return .root
  else if PARTITION_PID_LB ≤ pid ∧ oid = PARTITION_OID then
    return .partition
  else if OBJECT_PID_LB ≤ pid ∧ OBJECT_OID_LB ≤ oid then
    match ← objGetType env pid oid with
    | (.ok, type) => return type
    | _ => return .illegal
  else
    return .illegal

/-- `get_rel_page`, an unsigned difference. -/
def getRelPage : ObjType → UInt32 → UInt32
  | .root, page => page - ROOT_PG
  | .partition, page => page - PARTITION_PG
  | .collection, page => page - COLLECTION_PG
  | .userobject, page => page - USEROBJECT_PG
  | .illegal, _ => 0 - 1

def checkValidPg : ObjType → UInt32 → Bool
  | .userobject, page => page < PARTITION_PG
  | .collection, page => COLLECTION_PG ≤ page && page < ROOT_PG
  | .partition, page => PARTITION_PG ≤ page && page < COLLECTION_PG
  | .root, page => ROOT_PG ≤ page && page < RESERVED_PG
  | .illegal, _ => false

def issettablePage (type : ObjType) (page : UInt32) : Bool :=
  if !checkValidPg type page then ANY_PG ≤ page
  else
    let rel := getRelPage type page
    (STD_PG_LB ≤ rel && rel ≤ STD_PG_UB) || (LUN_PG_LB ≤ rel && rel ≤ LUN_PG_UB)

def isgettablePage (type : ObjType) (page : UInt32) : Bool :=
  if !checkValidPg type page then ANY_PG ≤ page
  else
    let rel := getRelPage type page
    !((RSRV_PG_LB ≤ rel && rel ≤ RSRV_PG_UB) || VEND_PG_UB < rel)

/-! ## Setting -/

/-- `set_uiap`.  The logical length passes through the 16-bit parameter `len`. -/
def setUiap (pid oid : UInt64) (number : UInt32) (val : Option Mem) (len : UInt16) : OsdM Ret :=
  if number = UIAP_USERNAME then attrSetConversion env pid oid USER_INFO_PG number val len
  else if number = UIAP_LOGICAL_LEN then
    match val with
    | none => never
    | some m => setLogicalLen env pid oid (getNtohll m 0).toUInt16.toUInt64
  else return .err .osdError

def setRiap (pid oid : UInt64) (number : UInt32) (val : Option Mem) (len : UInt16) : OsdM Ret := do
  let s ← get
  if number = RIAP_OSD_SYSTEM_ID ∧ s.ccap.cdbSrvcAct = OSD_FORMAT_OSD then
    if len.toNat > RIAP_OSD_SYSTEM_ID_LEN then
      return .err .einval
    if ¬ len.toNat < RIAP_OSD_SYSTEM_ID_LEN then
      return .err .osdError
  attrSetAttr env pid oid ROOT_INFO_PG number val len

/-- `set_cap`: a collection pointer of a user object. -/
def setCap (pid oid : UInt64) (number : UInt32) (val : Option Mem) (len : UInt16) : OsdM Ret := do
  if number < UCAP_COLL_PTR_LB ∨ number > UCAP_COLL_PTR_UB then
    return .err .osdError
  if len = 0 then
    let (ret, cid) ← collGetCid env pid oid number 0
    if ret ≠ .ok then
      return .err .osdError
    let ret ← collDelete env pid cid oid
    if ret ≠ .ok then
      return .err .osdError
    return .ok
  if len ≠ 8 then
    return .err .osdError
  match val with
  | none => never
  | some m =>
    let cid := getNtohll m 0
    let (ret, present) ← objIspresent env pid cid
    if ret ≠ .ok ∨ ¬ present then
      return .err .osdError
    let ret ← collInsert env pid cid oid number
    if ret ≠ .ok then
      return .err .osdError
    return .ok

/-- The value of an information attribute has a NUL among its bytes. -/
def hasNul (val : Option Mem) (len : UInt16) : Bool :=
  match val with
  | some m => (m.read 0 len.toNat).any (· = 0)
  | none => false

/-- What follows the argument checks of `osd_set_attributes`. -/
def storeAttribute (pid oid : UInt64) (page number : UInt32) (val : Option Mem) (len : UInt16) :
    OsdM Ret := do
  let special (m : OsdM Ret) : OsdM Ret := do
    if (← m) = .ok then
      return .ok
    return cdbErr pid oid
  if page = USER_INFO_PG then special (setUiap env pid oid number val len)
  else if page = ROOT_INFO_PG then special (setRiap env pid oid number val len)
  else if page = USER_COLL_PG then special (setCap env pid oid number val len)
  else if len = 0 then special (attrDeleteAttr env pid oid page number)
  else
    if (← attrSetConversion env pid oid page number val len) = .ok then
      return .ok
    return hwErr pid oid

def osdSetAttributes (pid oid : UInt64) (page number : UInt32) (val : Option Mem) (len : UInt16)
    (isembedded : Bool) : OsdM Ret := do
  let (ret, present) ← objIspresent env pid oid
  if ret ≠ .ok ∨ ¬ present then
    return cdbErr pid oid
  let objType ← getObjType env pid oid
  if objType = .illegal then
    return cdbErr pid oid
  if !issettablePage objType page then
    return paramListErr pid oid
  if number = ATTRNUM_UNMODIFIABLE then
    return paramListErr pid oid
  if (val.isNone ∧ len ≠ 0) ∨ (val.isSome ∧ len = 0) then
    return cdbErr pid oid
  if number = ATTRNUM_INFO ∧ (len.toNat > ATTR_PAGE_ID_LEN ∨ ¬ hasNul val len) then
    return cdbErr pid oid
  if len.toNat > ATTR_LEN_UB then
    return paramListErr pid oid
  let ret ← storeAttribute env pid oid page number val len
  if ret ≠ .ok then
    return ret
  if !isembedded then
    setCcap (fillCcap objType pid oid 0)
  return .ok

/-- An entry of a set list: page, number and value. -/
structure SetEntry where
  page : UInt32
  number : UInt32
  value : List UInt8
  deriving DecidableEq, Repr

/-- `mtq_set_member_attrs`: the partition and the collection are printed into the statement. -/
def mtqSetMemberAttrs (pid cid : UInt64) (setAttr : List SetEntry) : OsdM Ret := do
  if setAttr = [] then
    return .ok
  dbExecDms env (.attrSetMembers (sqlLiteral pid.toNat) (sqlLiteral cid.toNat)
    (setAttr.map fun e => (sqlLiteral e.page.toNat, sqlLiteral e.number.toNat, e.value)))

def osdSetMemberAttributes (pid cid : UInt64) (setAttr : List SetEntry) : OsdM Ret := do
  -- the results of both transaction calls only meet compiled-out assertions
  let finish (ret : Ret) : OsdM Ret := do
    let _ ← osdEndTxn env
    return ret
  let _ ← osdBeginTxn env
  let (ret, present) ← objIspresent env pid cid
  if ret ≠ .ok ∨ ¬ present then
    finish (cdbErr pid cid)
  else
    let objType ← getObjType env pid cid
    if objType ≠ .collection then
      finish (cdbErr pid cid)
    else if setAttr.any (fun e => !issettablePage .userobject e.page) then
      finish (paramListErr pid cid)
    else
      let ret ← mtqSetMemberAttrs env pid cid setAttr
      if ret ≠ .ok then
        finish (hwErr pid cid)
      else
        let _ ← osdEndTxn env
        setCcap (fillCcap .collection pid cid 0)
        return .ok

/-! ## Retrieving -/

def userTmstmpPageName : Mem := cString "INCITS  T10 User Object Timestamps     "
def userAtomicPageName : Mem := cString "INCITS  T10 User Atomics               "

/-- `lazy_init_attr`. -/
def lazyInitAttr (pid oid : UInt64) (page number : UInt32) : OsdM Ret := do
  if (page ≠ GETALLATTR_PG ∧ number ≠ ATTRNUM_GETALL) ∨ (page ≤ USER_ATOMICS_PG ∧ number > 0) ∨
      (page > USER_ATOMICS_PG ∧ page ≠ GETALLATTR_PG) then
    return .ok
  let (ret, _) ← attrGetVal env pid oid USER_TMSTMP_PG 0 40
  if ret = .ok then
    return .ok
  if ret ≠ .err .enoent then
    return ret
  let ret ← attrSetAttr env pid oid USER_TMSTMP_PG 0 (some userTmstmpPageName) 40
  if ret ≠ .ok then
    return ret
  attrSetAttr env pid oid USER_ATOMICS_PG 0 (some userAtomicPageName) 40

/-- `get_ccap_aslist`: the attributes of the current command page, by number. -/
def ccapVal (c : Ccap) (number : UInt32) : Option (UInt16 × Mem) :=
  if number = 0 then some (40, cString "INCITS  T10 Current Command")
  else if number = CCAP_RICV then some (32, blobMem c.ricv)
  else if number = CCAP_OBJT then some (1, blobMem [c.objType.code])
  else if number = CCAP_PID then some (8, blobMem (htonll c.pid))
  else if number = CCAP_OID then some (8, blobMem (htonll c.oid))
  else if number = CCAP_APPADDR then some (8, blobMem (htonll c.appendOff))
  else none

/-- How a packed entry ends a getter that always uses one list format. -/
def packResult : Except Errno Nat → Ret × Option UInt32
  | .ok ret => (.ok, some (UInt32.ofNat ret))
  | .error .eoverflow => (.ok, some 0)
  | .error e => (.err e, none)

def getCcapAslist (number : UInt32) (pos : Nat) (outlen : UInt64) : OsdM (Ret × Option UInt32) := do
  match ccapVal (← get).ccap number with
  | none => return (.err .osdError, none)
  | some (len, val) =>
    return packResult (← lePackAttr env pos outlen.toUInt32 CUR_CMD_ATTR_PG number len (some val))

/-- `set_hton_time`: 48 bits of milliseconds, or `none` when they do not suffice. -/
def htonTime (ms : UInt64) : Option (List UInt8) :=
  if ms.toNat < 2 ^ 48 then some (natBe 6 ms.toNat) else none

/-- `stat` on the path of the database fails. -/
def Target.dbStatFails (s : Target) : Bool :=
  env.sysFails .statDb || !s.dbLinked || (s.rootFreed && env.rootGarbled)

/-- The time attributes of a user object, by number; a time of more than 48 bits reads as 0. -/
def utsapVal (s : Target) (pid oid : UInt64) (number : UInt32) : Option (UInt16 × Mem) :=
  let statFails := (s.lookup env pid oid).isNone || env.sysFails (.stat pid oid)
  let time (ms : UInt64) : UInt16 × Mem := (6, blobMem ((htonTime ms).getD (List.replicate 6 0)))
  let (fileC, fileA, fileM) := env.fileTime pid oid
  let (_, dbA, dbM) := env.dbTime
  if number = 0 then some (40, cString "INCITS  T10 User Object Timestamps")
  else if number = UTSAP_CTIME then if statFails then none else some (time fileC)
  else if number = UTSAP_DATA_ATIME then if statFails then none else some (time fileA)
  else if number = UTSAP_DATA_MTIME then if statFails then none else some (time fileM)
  else if number = UTSAP_ATTR_ATIME then if s.dbStatFails env then none else some (time dbA)
  else if number = UTSAP_ATTR_MTIME then if s.dbStatFails env then none else some (time dbM)
  else none

def getUtsapAslist (pid oid : UInt64) (number : UInt32) (listfmt : UInt8) (pos : Nat)
    (outlen : UInt64) : OsdM (Ret × Option UInt32) := do
  match utsapVal env (← get) pid oid number with
  | none => return (.err .osdError, none)
  | some (len, val) =>
    if listfmt = RTRVD_CREATE_MULTIOBJ_LIST then
      return packResult
        (← leMultiobjPackAttr env pos outlen.toUInt32 oid USER_TMSTMP_PG number len (some val))
    return packResult (← lePackAttr env pos outlen.toUInt32 USER_TMSTMP_PG number len (some val))

/-- `get_uiap`: any failure becomes `OSD_ERROR`. -/
def getUiap (pid oid : UInt64) (page number : UInt32) (listfmt : UInt8) (pos : Nat)
    (outlen : UInt64) : OsdM (Ret × Option UInt32) := do
  match ← attrGetAttr env pid oid page number listfmt pos outlen with
  | (.ok, used) => return (.ok, used)
  | (_, used) => return (.err .osdError, used)

/-- `mutiplex_getattr_list`. -/
def mutiplexGetattrList (pid oid : UInt64) (page number : UInt32) (listfmt : UInt8) (pos : Nat)
    (outlen : UInt64) : OsdM (Ret × Option UInt32) :=
  if page = GETALLATTR_PG then
    if number = ATTRNUM_GETALL then attrGetAllAttrs env pid oid listfmt pos outlen
    else attrGetForAllPages env pid oid number listfmt pos outlen
  else
    if number = ATTRNUM_GETALL then attrGetPageAsList env pid oid page listfmt pos outlen
    else attrGetConversion env pid oid page number listfmt pos outlen

/-- `fill_null_attr`: an entry of length 0 for a single attribute that is not defined. -/
def fillNullAttr (oid : UInt64) (page number : UInt32) (listfmt : UInt8) (pos : Nat)
    (outlen : UInt32) : OsdM (Except Errno Nat) :=
  if page ≠ GETALLATTR_PG ∧ number ≠ ATTRNUM_GETALL then
    if listfmt = RTRVD_CREATE_MULTIOBJ_LIST then
      leMultiobjPackAttr env pos outlen oid page number 0 none
    else lePackAttr env pos outlen page number 0 none
  else return .ok 0

/-- The `switch` of `osd_getattr_list`. -/
def getattrListByPage (pid oid : UInt64) (page number : UInt32) (listfmt : UInt8) (pos : Nat)
    (outlen : UInt64) : OsdM (Ret × Option UInt32) :=
  if page = CUR_CMD_ATTR_PG then getCcapAslist env number pos outlen
  else if page = PARTITION_DIR_PG + USER_TMSTMP_PG ∨ page = USER_TMSTMP_PG then
    getUtsapAslist env pid oid number listfmt pos outlen
  else if page = PARTITION_DIR_PG + USER_QUOTA_PG ∨ page = PARTITION_DIR_PG + USER_INFO_PG ∨
      page = USER_INFO_PG then
    getUiap env pid oid page number listfmt pos outlen
  else if page = ROOT_INFO_PG then attrGetAttr env pid oid page number listfmt pos outlen
  else mutiplexGetattrList env pid oid page number listfmt pos outlen

/-- `osd_getattr_list`, with the reply position and length in place of `outbuf` and `outlen`. -/
def osdGetattrList (pid oid : UInt64) (page number : UInt32) (pos : Nat) (outlen : UInt32)
    (isembedded : Bool) (listfmt : UInt8) : OsdM (Ret × Option UInt32) := do
  let objType ← getObjType env pid oid
  if objType = .illegal then
    return (cdbErr pid oid, none)
  if !isgettablePage objType page then
    return (paramListErr pid oid, none)
  if (← lazyInitAttr env pid oid page number) ≠ .ok then
    return (hwErr pid oid, none)
  let (ret, used) ← getattrListByPage env pid oid page number listfmt pos outlen.toUInt64
  if ret ≠ .ok ∧ ret ≠ .err .enoent then
    return (paramListErr pid oid, used)
  let mut used := used
  if ret = .err .enoent then
    match ← fillNullAttr env oid page number listfmt pos outlen with
    | .ok n => used := some (UInt32.ofNat n)
    | .error .eoverflow => used := some 0
    | .error _ => return (paramListErr pid oid, used)
  if !isembedded then
    setCcap (fillCcap objType pid oid 0)
  return (.ok, used)

/-- `get_ccap`: the current command page as a page. -/
def getCcap (pos : Nat) (outlen : UInt64) : OsdM (Ret × Option UInt32) := do
  if outlen.toNat < CCAP_TOTAL_LEN then
    return (.ok, some 0)
  let c := (← get).ccap
  outWrite pos (List.replicate CCAP_TOTAL_LEN 0)
  outWrite pos (htonl CUR_CMD_ATTR_PG)
  outWrite (pos + 4) (htonl (UInt32.ofNat (CCAP_TOTAL_LEN - 8)))
  outWrite (pos + 8) c.ricv
  outWrite (pos + 40) [c.objType.code]
  outWrite (pos + 44) (htonll c.pid)
  outWrite (pos + 52) (htonll c.oid)
  outWrite (pos + 60) (htonll c.appendOff)
  return (.ok, some (UInt32.ofNat CCAP_TOTAL_LEN))

/-- Store times one after the other until one does not fit into 48 bits. -/
def outTimes : List (Nat × UInt64) → OsdM Bool
  | [] => return true
  | (pos, ms) :: rest => do
    match htonTime ms with
    | none => return false
    | some bytes =>
      outWrite pos bytes
      outTimes rest

/-- `get_utsap`: the timestamps page as a page. -/
def getUtsap (pid oid : UInt64) (pos : Nat) (outlen : UInt64) : OsdM (Ret × Option UInt32) := do
  if outlen.toNat < UTSAP_TOTAL_LEN then
    return (.ok, some 0)
  outWrite pos (List.replicate UTSAP_TOTAL_LEN 0)
  outWrite pos (htonl USER_TMSTMP_PG)
  outWrite (pos + 4) (htonl (UInt32.ofNat (UTSAP_TOTAL_LEN - 8)))
  let s ← get
  if (s.lookup env pid oid).isNone || env.sysFails (.stat pid oid) || s.dbStatFails env then
    return (.err .osdError, none)
  let (fileC, fileA, fileM) := env.fileTime pid oid
  let (_, dbA, dbM) := env.dbTime
  if ← outTimes [(pos + 8, fileC), (pos + 14, dbA), (pos + 20, dbM), (pos + 26, fileA),
      (pos + 32, fileM)] then
    return (.ok, some (UInt32.ofNat UTSAP_TOTAL_LEN))
  return (.err .osdError, none)

/-- `osd_getattr_page`. -/
def osdGetattrPage (pid oid : UInt64) (page : UInt32) (pos : Nat) (outlen : UInt64)
    (isembedded : Bool) : OsdM (Ret × Option UInt32) := do
  let objType ← getObjType env pid oid
  if objType = .illegal then
    return (cdbErr pid oid, none)
  if !isgettablePage objType page then
    return (paramListErr pid oid, none)
  if !isembedded then
    setCcap (fillCcap objType pid oid 0)
  let answer (r : Ret × Option UInt32) : Ret × Option UInt32 :=
    -- `-ENOENT` is no error here
    if r.1 = .ok ∨ r.1 = .err .enoent then (.ok, r.2) else (paramListErr pid oid, r.2)
  if page = CUR_CMD_ATTR_PG then
    return answer (← getCcap pos outlen)
  else if page = USER_TMSTMP_PG then
    return answer (← getUtsap env pid oid pos outlen)
  else if page = GETALLATTR_PG then
    if (← lazyInitAttr env pid oid page 0) ≠ .ok then
      return (hwErr pid oid, none)
    return answer (← attrGetAllAttrs env pid oid RTRVD_SET_ATTR_LIST pos outlen)
  else
    return (cdbErr pid oid, none)

/-! ## Atomics -/

/-- The checks the three atomic commands share: a present user object. -/
def isPresentUserobject (pid oid : UInt64) : OsdM Bool := do
  let (ret, present) ← objIspresent env pid oid
  if ret ≠ .ok ∨ ¬ present then
    return false
  return (← getObjType env pid oid) = .userobject

/-- A 64-bit variable of the host, as its address is passed. -/
def hostVal (x : UInt64) : Mem := blobMem (hostBytes env.bigEndian x)

/-- The variable `val` after the attribute was copied over its first bytes. -/
def hostRead (bytes : List UInt8) : UInt64 :=
  let whole := bytes ++ env.stack.read bytes.length (8 - bytes.length)
  UInt64.ofNat (beNat (if env.bigEndian then whole else whole.reverse))

/-- The attribute read at the start of CAS and FA, defined as 0 when it is not there. -/
def readAtomic (pid oid : UInt64) (number : UInt32) : OsdM (Option UInt64) := do
  let (ret, bytes) ← attrGetVal env pid oid USER_ATOMICS_PG number 8
  if ret = .ok then
    return some (hostRead env bytes)
  if ret ≠ .err .enoent then
    return none
  if (← attrSetAttr env pid oid USER_ATOMICS_PG number (some (hostVal env 0)) 8) ≠ .ok then
    return none
  return some 0

/-- `osd_cas`; the original value goes to the reply at `pos`. -/
def osdCas (pid oid cmp swap : UInt64) (pos : Nat) : OsdM (Ret × Option UInt64) := do
  if !(← isPresentUserobject env pid oid) then
    return (cdbErr pid oid, none)
  match ← readAtomic env pid oid UAP_CAS with
  | none => return (hwErr pid oid, none)
  | some val =>
    if val = cmp then
      if (← attrSetAttr env pid oid USER_ATOMICS_PG UAP_CAS (some (hostVal env swap)) 8) ≠ .ok then
        return (hwErr pid oid, none)
    outWrite pos (htonll val)
    return (.ok, some 8)

/-- `osd_fa`. -/
def osdFa (pid oid add : UInt64) (pos : Nat) : OsdM (Ret × Option UInt64) := do
  if !(← isPresentUserobject env pid oid) then
    return (cdbErr pid oid, none)
  match ← readAtomic env pid oid UAP_FA with
  | none => return (hwErr pid oid, none)
  | some val =>
    if (← attrSetAttr env pid oid USER_ATOMICS_PG UAP_FA (some (hostVal env (add + val))) 8) ≠ .ok then
      return (hwErr pid oid, none)
    outWrite pos (htonll val)
    return (.ok, some 8)

/-- `osd_gen_cas`: the original value, `none` when the attribute was not there.  `cmp` and `swap` are
`none` for a NULL pointer; `swap` is then deleting. -/
def osdGenCas (pid oid : UInt64) (page number : UInt32) (cmp : Option Mem) (cmpLen : UInt16)
    (swap : Option Mem) (swapLen : UInt16) : OsdM (Ret × Option (List UInt8)) := do
  if !(← isPresentUserobject env pid oid) then
    return (cdbErr pid oid, none)
  let (ret, val) ← attrGetVal env pid oid page number (UInt64.ofNat ATTR_LEN_UB)
  if ret ≠ .ok ∧ ret ≠ .err .enoent then
    return (hwErr pid oid, none)
  let valen := val.length
  let same : Bool :=
    valen = cmpLen.toNat && (match cmp with | some m => m.read 0 valen = val | none => valen = 0)
  let found := ret = .ok
  if 0 < swapLen ∧ swap.isSome ∧ (¬ found ∨ same) then
    -- the status of the store replaces `-ENOENT`, so the original counts as found
    if (← attrSetAttr env pid oid page number swap swapLen) ≠ .ok then
      return (hwErr pid oid, none)
    return (.ok, some val)
  if swapLen = 0 ∧ swap.isNone ∧ same then
    if (← attrDeleteAttr env pid oid page number) ≠ .ok then
      return (hwErr pid oid, none)
    return (.ok, some val)
  return (.ok, if found then some val else none)

end OsdTarget
