import OsdTarget.Io

/-!
# `osd.c`: creating and removing objects

The commands that change the object table.  Every function is its source counterpart statement by
statement; a `goto` to an error label is the return of what the label returns.
-/

namespace OsdTarget

open Base

variable (env : Env)

/-- `osd->ic.cur_pid = osd->ic.next_id = 0`. -/
def invalidateCache : OsdM Unit := modify fun s => { s with ic := IdCache.zero }

/-! ## Removing -/

def osdRemove (pid oid : UInt64) : OsdM Ret := do
  if !isUserobjectId pid oid then
    return cdbErr pid oid
  invalidateCache
  let _ ← unlinkFile env pid oid
  let ret ← attrDeleteAll env pid oid
  if ret ≠ .ok then
    return hwErr pid oid
  let ret ← collDeleteOid env pid oid
  if ret ≠ .ok then
    return hwErr pid oid
  let ret ← objDelete env pid oid
  if ret ≠ .ok then
    return hwErr pid oid
  setCcap (fillCcap .userobject pid oid 0)
  return .ok

def osdRemoveCollection (pid cid : UInt64) (fcr : UInt8) : OsdM Ret := do
  if pid = 0 ∨ pid < COLLECTION_PID_LB then
    return cdbErr pid cid
  if cid < COLLECTION_OID_LB then
    return cdbErr pid cid
  let (ret, present) ← objIspresent env pid cid
  if ret ≠ .ok ∨ ¬ present then
    return cdbErr pid cid
  invalidateCache
  let (ret, isempty) ← collIsemptyCid env pid cid
  if ret ≠ .ok then
    return hwErr pid cid
  if !isempty then
    if fcr = 0 then
      return notEmptyErr pid cid
    let ret ← collDeleteCid env pid cid
    if ret ≠ .ok then
      return hwErr pid cid
  let ret ← attrDeleteAll env pid cid
  if ret ≠ .ok then
    return hwErr pid cid
  let ret ← objDelete env pid cid
  if ret ≠ .ok then
    return hwErr pid cid
  setCcap (fillCcap .collection pid cid 0)
  return .ok

def osdRemovePartition (pid : UInt64) : OsdM Ret := do
  if pid = 0 then
    return cdbErr pid PARTITION_OID
  let (ret, isempty) ← objIsemptyPid env pid
  if ret ≠ .ok ∨ ¬ isempty then
    return notEmptyErr pid PARTITION_OID
  invalidateCache
  let ret ← attrDeleteAll env pid PARTITION_OID
  if ret ≠ .ok then
    return hwErr pid PARTITION_OID
  let ret ← objDelete env pid PARTITION_OID
  if ret ≠ .ok then
    return hwErr pid PARTITION_OID
  setCcap (fillCcap .partition pid PARTITION_OID 0)
  return .ok

/-- `osd_remove_tmp_objects`: `osd_remove` on `n` ids from `j` on, results ignored. -/
def osdRemoveTmpObjects (pid : UInt64) : Nat → UInt64 → OsdM Unit
  | 0, _ => return ()
  | n + 1, j => do
    let _ ← osdRemove env pid j
    osdRemoveTmpObjects pid n (j + 1)

/-! ## Creating -/

/-- The block that picks an id when none is requested, the same in `osd_create`,
`osd_create_collection` and `osd_create_user_tracking_collection` up to the bound `lb`, which is the
first id of a partition.  `none` stands for the jump to `out_hw_err`. -/
def chooseId (pid lb : UInt64) : OsdM (Option UInt64) := do
  let s ← get
  let picked ←
    if s.ic.curPid = pid then do
      set { s with ic := { s.ic with nextId := s.ic.nextId + 1 } }
      pure (some s.ic.nextId)
    else do
      match ← objGetNextoid env pid 0 with
      | (.ok, oid) =>
        modify fun s => { s with ic := ⟨pid, oid + 1⟩ }
        pure (some oid)
      | _ => pure none
  match picked with
  | none => return none
  | some oid =>
    if oid = 1 then
      modify fun s => { s with ic := { s.ic with nextId := lb + 1 } }
      return some lb
    return some oid

/-- The other branch of that choice: the requested id must be free. -/
def takeRequestedId (pid requested : UInt64) : OsdM Bool := do
  let (ret, present) ← objIspresent env pid requested
  if ret ≠ .ok ∨ present then
    return false
  invalidateCache
  return true

/-- The loop of `osd_create` with `n` ids to go, the next one being `i`; `none` when all are created,
otherwise the id at which a step failed, after the clean-up of that iteration. -/
def createLoop (pid oid : UInt64) : Nat → UInt64 → OsdM (Option UInt64)
  | 0, _ => return none
  | n + 1, i => do
    let ret ← objInsert env pid i .userobject
    if ret ≠ .ok then
      osdRemoveTmpObjects env pid (i - oid).toNat oid
      return some i
    let ret ← osdCreateDatafile env pid i
    if ret ≠ .ok then
      let _ ← objDelete env pid i
      osdRemoveTmpObjects env pid (i - oid).toNat oid
      return some i
    createLoop pid oid n (i + 1)

/-- How often `for (i = oid; i < oid + numoid; i++)` runs its body: not at all when the bound wraps. -/
def createCount (oid : UInt64) (numoid : UInt16) : Nat :=
  if oid < oid + numoid.toUInt64 then numoid.toNat else 0

theorem createCount_eq {oid : UInt64} {n : UInt16} (hn : 0 < n.toNat)
    (h : oid.toNat + n.toNat < 2 ^ 64) : createCount oid n = n.toNat := by
  have hsum : (oid + n.toUInt64).toNat = oid.toNat + n.toNat := by
    rw [UInt64.toNat_add, UInt16.toNat_toUInt64, Nat.mod_eq_of_lt h]
  unfold createCount
  rw [if_pos]
  rw [UInt64.lt_iff_toNat_lt, hsum]
  omega

/-- A range that ends at 2^64 is empty. -/
theorem createCount_wraps {oid : UInt64} {n : UInt16} (h : oid.toNat + n.toNat = 2 ^ 64) :
    createCount oid n = 0 := by
  have hsum : (oid + n.toUInt64).toNat = 0 := by
    rw [UInt64.toNat_add, UInt16.toNat_toUInt64, h, Nat.mod_self]
  unfold createCount
  rw [if_neg]
  rw [UInt64.lt_iff_toNat_lt, hsum]
  exact Nat.not_lt_zero _

/-- The part of `osd_create` after the choice of its first id. -/
def createFrom (pid requestedOid oid : UInt64) (numoid : UInt16) : OsdM Ret := do
  let numoid := if numoid = 0 then 1 else numoid
  match ← createLoop env pid oid (createCount oid numoid) oid with
  | some _ =>
    invalidateCache
    return hwErr pid requestedOid
  | none =>
    modify fun s => { s with ic := { s.ic with nextId := s.ic.nextId + (numoid.toUInt64 - 1) } }
    setCcap (fillCcap .userobject pid (oid + numoid.toUInt64 - 1) 0)
    return .ok

def osdCreate (pid requestedOid : UInt64) (numoid : UInt16) : OsdM Ret := do
  let illegalReq := cdbErr pid requestedOid
  if pid = 0 ∨ pid < USEROBJECT_PID_LB then
    return illegalReq
  if requestedOid ≠ 0 ∧ requestedOid < USEROBJECT_OID_LB then
    return illegalReq
  let (ret, present) ← objIspresent env pid PARTITION_OID
  if ret ≠ .ok ∨ ¬ present then
    return illegalReq
  if numoid > 1 ∧ requestedOid ≠ 0 then
    return illegalReq
  if requestedOid = 0 then
    match ← chooseId env pid USEROBJECT_OID_LB with
    | none =>
      invalidateCache
      return hwErr pid requestedOid
    | some oid => createFrom env pid requestedOid oid numoid
  else
    if !(← takeRequestedId env pid requestedOid) then
      return illegalReq
    createFrom env pid requestedOid requestedOid numoid

def osdCreateAndWrite (pid oid len offset : UInt64) (data : Mem) (sglist : SgList) (ddt : UInt8) :
    OsdM Ret := do
  let ret ← osdCreate env pid oid 1
  if ret ≠ .ok then
    return ret
  let ret ← osdWrite env pid oid len offset data sglist ddt
  if ret ≠ .ok then
    let _ ← osdRemove env pid oid
  return ret

/-- The end of the two commands that create a collection. -/
def insertCollection (pid cid requestedCid : UInt64) : OsdM Ret := do
  let ret ← objInsert env pid cid .collection
  if ret ≠ .ok then
    return cdbErr requestedCid 0
  setCcap (fillCcap .collection pid cid 0)
  return .ok

def osdCreateCollection (pid requestedCid : UInt64) : OsdM Ret := do
  if pid = 0 ∨ pid < COLLECTION_PID_LB then
    return cdbErr requestedCid 0
  if requestedCid ≠ 0 ∧ requestedCid < COLLECTION_OID_LB then
    return cdbErr requestedCid 0
  let (ret, present) ← objIspresent env pid PARTITION_OID
  if ret ≠ .ok ∨ ¬ present then
    return cdbErr requestedCid 0
  if requestedCid = 0 then
    match ← chooseId env pid COLLECTION_OID_LB with
    | none =>
      invalidateCache
      return hwErr requestedCid 0
    | some cid => insertCollection env pid cid requestedCid
  else
    if !(← takeRequestedId env pid requestedCid) then
      return cdbErr requestedCid 0
    insertCollection env pid requestedCid requestedCid

/-- The end of `osd_create_partition`. -/
def insertPartition (pid requestedPid : UInt64) : OsdM Ret := do
  let ret ← objInsert env pid PARTITION_OID .partition
  if ret ≠ .ok then
    return cdbErr requestedPid 0
  setCcap (fillCcap .partition pid PARTITION_OID 0)
  return .ok

def osdCreatePartition (requestedPid : UInt64) : OsdM Ret := do
  if requestedPid ≠ 0 ∧ requestedPid < PARTITION_PID_LB then
    return cdbErr requestedPid 0
  if requestedPid = 0 then
    match ← objGetNextpid env 0 with
    | (.ok, pid) => insertPartition env (if pid = 1 then PARTITION_PID_LB else pid) requestedPid
    | _ => return hwErr requestedPid 0
  else insertPartition env requestedPid requestedPid

def isLinkedColl (sourceCid : UInt64) : Bool := LINKED_COLLECTION_OID_LB < sourceCid

/-- `return source_cid = 0x1082`, an assignment: the answer is always yes. -/
def isTrackingColl (_sourceCid : UInt64) : Bool := true

def isSpontaneousColl (sourceCid : UInt64) : Bool := sourceCid < TRACKING_COLLECTION_OID_LB

/-- Copy the members of the source, then insert the collection. -/
def fillTrackingCollection (pid cid requestedCid sourceCid : UInt64) : OsdM Ret := do
  if sourceCid ≠ 0 then
    let ret ← collCopyoids env pid cid sourceCid
    if ret ≠ .ok then
      invalidateCache
      return hwErr requestedCid 0
  insertCollection env pid cid requestedCid

def osdCreateUserTrackingCollection (pid requestedCid sourceCid : UInt64) (cdbContLen : UInt32) :
    OsdM Ret := do
  if pid = 0 ∨ pid < COLLECTION_PID_LB then
    return cdbErr requestedCid 0
  if requestedCid ≠ 0 ∧ requestedCid < COLLECTION_OID_LB then
    return cdbErr requestedCid 0
  let (ret, present) ← objIspresent env pid PARTITION_OID
  if ret ≠ .ok ∨ ¬ present then
    return cdbErr requestedCid 0
  let (ret, present) ← objIspresent env pid sourceCid
  if ret ≠ .ok ∨ ¬ present then
    return cdbErr requestedCid 0
  if (sourceCid ≠ 0 ∧ cdbContLen = 0) ∨ (sourceCid = 0 ∧ cdbContLen ≠ 0) then
    return cdbErr requestedCid 0
  if sourceCid ≠ 0 ∧ !isLinkedColl sourceCid ∧ !isTrackingColl sourceCid
      ∧ !isSpontaneousColl sourceCid then
    return cdbErr requestedCid 0
  if requestedCid = 0 then
    match ← chooseId env pid COLLECTION_OID_LB with
    | none =>
      invalidateCache
      return hwErr requestedCid 0
    | some cid => fillTrackingCollection env pid cid requestedCid sourceCid
  else
    if !(← takeRequestedId env pid requestedCid) then
      return cdbErr requestedCid 0
    fillTrackingCollection env pid requestedCid requestedCid sourceCid

end OsdTarget
