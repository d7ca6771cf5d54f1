import OsdTarget.Attributes
import OsdTarget.Base.Ascending

/-!
# LIST and LIST COLLECTION

`db_exec_id_rtrvl_stmt` of `db.c`, `mtq_list_oids_attr` of `mtq.c` and the two commands of `osd.c`.
The queries for ids range over the primary key of their table, so SQLite returns the ids in ascending
order.  The table names that `mtq.c` prints are those of the schema.
-/

namespace OsdTarget

open Base

variable (env : Env)

/-! ## Lists of ids -/

/-- What the loop of `db_exec_id_rtrvl_stmt` keeps: `len`, `*add_len` and `*cont_id`. -/
structure IdCursor where
  len : UInt64
  addLen : UInt64
  contId : UInt64
  deriving DecidableEq, Repr

/-- One id after the other into the reply from `pos` on, while there is room; the others count. -/
def idRtrvlLoop (pos : Nat) (allocLen : UInt64) : List UInt64 → IdCursor → OsdM IdCursor
  | [], c => return c
  | id :: ids, c => do
    let c' ←
      if 8 ≤ allocLen - c.len then do
        outWrite (pos + c.len.toNat) (htonll id)
        pure { c with len := c.len + 8 }
      else if c.contId = 0 then pure { c with contId := id }
      else pure c
    if c'.addLen < c'.addLen + 8 then
      idRtrvlLoop pos allocLen ids { c' with addLen := c'.addLen + 8 }
    else return { c' with addLen := 0 - 1 }

/-- `db_exec_id_rtrvl_stmt` on a query for ids. -/
def dbExecIdRtrvlStmt (q : Query) (rows : Db → List Int) (allocLen : UInt64) (pos : Nat) :
    OsdM (Ret × IdCursor) := do
  let (ret, ids) ← dbExecQuery env q [] fun d => (ascending (rows d)).map columnInt64
  if ret ≠ .ok then
    return (ret, ⟨0, 0, 0⟩)
  let c ← idRtrvlLoop pos allocLen ids ⟨0, 0, 0⟩
  return (.ok, c)

/-- `obj_get_oids_in_pid` and `obj_get_cids_in_pid`. -/
def objGetIds (pid : UInt64) (type : ObjType) (initial allocLen : UInt64) (pos : Nat) :
    OsdM (Ret × IdCursor) :=
  dbExecIdRtrvlStmt env (.objGetOids (bindInt64 pid) type (bindInt64 initial))
    (fun d => (d.obj.filter fun r =>
      r.pid = bindInt64 pid ∧ r.type = type ∧ bindInt64 initial ≤ r.oid).map ObjRow.oid) allocLen pos

def objGetOidsInPid (pid initial allocLen : UInt64) (pos : Nat) : OsdM (Ret × IdCursor) :=
  objGetIds env pid .userobject initial allocLen pos

def objGetCidsInPid (pid initial allocLen : UInt64) (pos : Nat) : OsdM (Ret × IdCursor) :=
  objGetIds env pid .collection initial allocLen pos

def objGetAllPids (initial allocLen : UInt64) (pos : Nat) : OsdM (Ret × IdCursor) :=
  dbExecIdRtrvlStmt env (.objGetPids (bindInt64 initial))
    (fun d => (d.obj.filter fun r =>
      r.oid = 0 ∧ r.type = .partition ∧ bindInt64 initial ≤ r.pid).map ObjRow.pid) allocLen pos

def collGetOidsInCid (pid cid initial allocLen : UInt64) (pos : Nat) : OsdM (Ret × IdCursor) :=
  dbExecIdRtrvlStmt env (.collGetOids (bindInt64 pid) (bindInt64 cid) (bindInt64 initial))
    (fun d => (d.coll.filter fun r =>
      r.pid = bindInt64 pid ∧ r.cid = bindInt64 cid ∧ bindInt64 initial ≤ r.oid).map CollRow.oid)
    allocLen pos

/-! ## Ids with attributes -/

/-- The rows one SELECT of `mtq_list_oids_attr` yields. -/
def listedAttrRows (d : Db) (pid initial : Int) (page number : Int) : List AttrRow :=
  (d.obj.filter fun o => o.pid = pid ∧ o.type = .userobject ∧ initial ≤ o.oid).flatMap fun o =>
    d.attr.filter fun r => r.pid = o.pid ∧ r.oid = o.oid ∧ r.page = page ∧ r.number = number

/-- The whole statement: the timestamps page name, then each attribute asked for, by object. -/
def listOidsAttrRows (d : Db) (pid initial : UInt64) (getAttr : List (UInt32 × UInt32)) : List AttrRow :=
  ((USER_TMSTMP_PG, 0) :: getAttr).flatMap (fun a => listedAttrRows d (sqlLiteral pid.toNat)
    (sqlLiteral initial.toNat) (sqlLiteral a.1.toNat) (sqlLiteral a.2.toNat))
    |>.mergeSort fun a b => decide (a.oid ≤ b.oid)

/-- What the loop of `mtq_list_oids_attr` keeps.  `head` is where the length of the attribute list of
the current object goes, and equals `tail` when there is none. -/
structure OdeCursor where
  head : Nat
  tail : Nat
  allocLen : UInt64
  attrListLen : UInt32
  used : UInt64
  addLen : UInt64
  contId : UInt64

/-- `set_htonl(head, attr_list_len)` and the two assignments that follow it. -/
def OdeCursor.close (c : OdeCursor) : OsdM OdeCursor := do
  outWrite c.head (htonl c.attrListLen)
  return { c with head := c.tail, attrListLen := 0 }

/-- The same, if an attribute list is open. -/
def OdeCursor.closeOpen (c : OdeCursor) : OsdM OdeCursor :=
  if c.head ≠ c.tail then c.close else return c

def OdeCursor.continueAt (c : OdeCursor) (oid : UInt64) : OdeCursor :=
  if c.contId = 0 then { c with contId := oid } else c

/-- A row of the timestamps page name: a new object descriptor entry. -/
def startOde (oid : UInt64) (c : OdeCursor) : OsdM OdeCursor :=
  if 16 ≤ c.allocLen then do
    outWrite c.tail (htonll oid)
    outWrite (c.tail + 8) (List.replicate 4 0)
    let c ← c.closeOpen
    return { c with allocLen := c.allocLen - 16, tail := c.tail + 16, head := c.head + 12,
                    used := c.used + 16 }
  else do
    let c ← c.closeOpen
    return c.continueAt oid

/-- Any other row: an attribute of the current object; `none` when it cannot be packed. -/
def addAttr (r : AttrRow) (c : OdeCursor) : OsdM (Option OdeCursor) :=
  if 16 ≤ c.allocLen then do
    let val := if r.value = [] then none else some (blobMem r.value)
    match ← lePackAttr env c.tail c.allocLen.toUInt32 (columnInt r.page) (columnInt r.number)
        (UInt16.ofNat r.value.length) val with
    | .error _ => return none
    | .ok ret =>
      let c := { c with allocLen := c.allocLen - UInt64.ofNat ret, tail := c.tail + ret,
                        attrListLen := c.attrListLen + UInt32.ofNat ret,
                        used := c.used + UInt64.ofNat ret }
      if c.allocLen < 16 then
        let c ← c.close
        return some (c.continueAt (columnInt64 r.oid))
      return some c
  else if c.head ≠ c.tail then do
    let c ← c.close
    return some (c.continueAt (columnInt64 r.oid))
  else return some c

/-- The loop of `mtq_list_oids_attr`; `none` beside the cursor when an attribute cannot be packed. -/
def listOidsAttrLoop : List AttrRow → OdeCursor → OsdM (Bool × OdeCursor)
  | [], c => return (true, c)
  | r :: rows, c => do
    let starts := columnInt r.page = USER_TMSTMP_PG ∧ columnInt r.number = 0
    let next ← if starts then some <$> startOde (columnInt64 r.oid) c else addAttr env r c
    match next with
    | none => return (false, c)
    | some c =>
      let step := if starts then 16 else UInt64.ofNat (roundup8 (10 + (UInt16.ofNat r.value.length).toNat))
      if c.addLen < c.addLen + step then
        listOidsAttrLoop rows { c with addLen := c.addLen + step }
      else return (true, { c with addLen := 0 - 1 })

/-- `mtq_list_oids_attr`, into the reply from `pos` on. -/
def mtqListOidsAttr (pid initial : UInt64) (getAttr : List (UInt32 × UInt32)) (allocLen : UInt64)
    (pos : Nat) : OsdM (Ret × OdeCursor) := do
  let c : OdeCursor := ⟨pos, pos, allocLen, 0, 0, 0, 0⟩
  let (ret, rows) ← dbExecQuery env (.listOidsAttr (bindInt64 pid) (bindInt64 initial)) []
    fun d => listOidsAttrRows d pid initial getAttr
  if ret ≠ .ok then
    return (ret, c)
  let (packed, c) ← listOidsAttrLoop env rows c
  if !packed then
    return (.err .einval, c)
  if c.head ≠ c.tail then
    outWrite c.head (htonl c.attrListLen)
  return (.ok, c)

/-! ## The commands -/

/-- `add_len` with the header behind it counted, or all ones. -/
def addHeaderLen (addLen : UInt64) : UInt64 := if addLen < addLen + 16 then addLen + 16 else 0 - 1

/-- `osd_list`: the status and `*used_outlen`, `none` when it is left alone. -/
def osdList (listAttr : UInt8) (pid allocLen initialOid : UInt64) (getAttr : List (UInt32 × UInt32))
    (listId : UInt32) : OsdM (Ret × Option UInt64) := do
  if allocLen = 0 then
    return (.ok, none)
  if allocLen < 24 then
    return (cdbErr pid initialOid, none)
  outWrite 0 (List.replicate 24 0)
  if listAttr = 0 ∧ getAttr ≠ [] then
    return (cdbErr pid initialOid, none)
  if listAttr = 1 ∧ getAttr = [] then
    return (cdbErr pid initialOid, none)
  -- a list that is continued starts over: `cont_id` is still 0
  let initial := if listId ≠ 0 then 0 else initialOid
  if listAttr = 0 then
    outWrite 23 [0x84]
    let (ret, c) ← if pid = 0 then objGetAllPids env initial (allocLen - 24) 24
      else objGetOidsInPid env pid initial (allocLen - 24) 24
    if ret ≠ .ok then
      return (hwErr pid initial, none)
    outWrite 0 (htonll (addHeaderLen c.addLen))
    outWrite 8 (htonll c.contId)
    setCcap (fillCcap .partition pid PARTITION_OID 0)
    return (.ok, some (c.len + 24))
  else if pid ≠ 0 then
    outWrite 23 [0x88]
    let (ret, c) ← mtqListOidsAttr env pid initial getAttr (allocLen - 24) 24
    if ret ≠ .ok then
      return (hwErr pid initial, some c.used)
    outWrite 0 (htonll (addHeaderLen c.addLen))
    outWrite 8 (htonll c.contId)
    setCcap (fillCcap .partition pid PARTITION_OID 0)
    return (.ok, some (c.used + 24))
  else
    setCcap (fillCcap .partition pid PARTITION_OID 0)
    return (.ok, none)

/-- `osd_list_collection`, whose attribute list `exec_service_action` leaves empty. -/
def osdListCollection (listAttr : UInt8) (pid cid allocLen initialOid : UInt64) (listId : UInt32) :
    OsdM (Ret × Option UInt64) := do
  if allocLen = 0 then
    return (.ok, none)
  if allocLen < 24 then
    return (cdbErr pid initialOid, none)
  outWrite 0 (List.replicate 24 0)
  if listAttr = 1 then
    return (cdbErr pid initialOid, none)
  let initial := if listId ≠ 0 then 0 else initialOid
  outWrite 23 [0x84]
  let (ret, c) ← if cid = 0 then objGetCidsInPid env pid initial (allocLen - 24) 24
    else collGetOidsInCid env pid cid initial (allocLen - 24) 24
  if ret ≠ .ok then
    return (hwErr pid initial, none)
  outWrite 0 (htonll (c.addLen + 16))
  outWrite 8 (htonll c.contId)
  setCcap (fillCcap .collection pid COLLECTION_OID_LB 0)
  return (.ok, some (c.len + 24))

end OsdTarget
