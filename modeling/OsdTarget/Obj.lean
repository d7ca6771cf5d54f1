import OsdTarget.Target

/-!
# `obj.c` and `coll.c`

The functions over the object table and the membership table, one prepared statement each.
-/

namespace OsdTarget

open Base

variable (env : Env)

/-! ## `obj.c` -/

def objInsert (pid oid : UInt64) (type : ObjType) : OsdM Ret :=
  dbExecDms env (.objInsert ⟨bindInt64 pid, bindInt64 oid, type⟩)

def objDelete (pid oid : UInt64) : OsdM Ret :=
  dbExecDms env (.objDelete (bindInt64 pid) (bindInt64 oid))

/-- No command calls it. -/
def objDeletePid (pid : UInt64) : OsdM Ret := dbExecDms env (.objDeletePid (bindInt64 pid))

/-- `*oid` is the largest id of the partition plus one, 1 when the partition has no rows. -/
def objGetNextoid (pid oid : UInt64) : OsdM (Ret × UInt64) :=
  dbExecQuery env (.objNextoid (bindInt64 pid)) oid
    fun d => columnInt64 (d.maxOid (bindInt64 pid)) + 1

def objGetNextpid (pid : UInt64) : OsdM (Ret × UInt64) :=
  dbExecQuery env .objNextpid pid fun d => columnInt64 d.maxPid + 1

def objIspresent (pid oid : UInt64) : OsdM (Ret × Bool) :=
  dbExecQuery env (.objIspresent (bindInt64 pid) (bindInt64 oid)) false
    fun d => decide (d.Has (bindInt64 pid) (bindInt64 oid))

/-- The partition holds an object or a collection. -/
def Db.Holds (d : Db) (pid : Int) : Prop := ∃ r ∈ d.obj, r.pid = pid ∧ r.oid ≠ 0

instance (d : Db) (pid : Int) : Decidable (d.Holds pid) :=
  inferInstanceAs (Decidable (∃ r ∈ d.obj, r.pid = pid ∧ r.oid ≠ 0))

def objIsemptyPid (pid : UInt64) : OsdM (Ret × Bool) :=
  dbExecQuery env (.objIsemptyPid (bindInt64 pid)) false
    fun d => decide (¬ d.Holds (bindInt64 pid))

/-- The type in the first row of (pid, oid). -/
def Db.typeOf (d : Db) (pid oid : Int) : ObjType :=
  ((d.obj.find? fun r => r.pid = pid ∧ r.oid = oid).map ObjRow.type).getD .illegal

def objGetType (pid oid : UInt64) : OsdM (Ret × ObjType) :=
  dbExecQuery env (.objGetType (bindInt64 pid) (bindInt64 oid)) .illegal
    fun d => d.typeOf (bindInt64 pid) (bindInt64 oid)

theorem Db.hasType_of_typeOf {d : Db} {pid oid : Int} {type : ObjType}
    (h : d.typeOf pid oid = type) (hne : type ≠ .illegal) : d.HasType pid oid type := by
  unfold Db.typeOf at h
  cases hf : d.obj.find? fun r => r.pid = pid ∧ r.oid = oid with
  | none => rw [hf] at h; exact absurd h.symm hne
  | some r =>
    have hr := List.mem_of_find?_eq_some hf
    have hp := List.find?_some hf
    simp only [decide_eq_true_eq] at hp
    simp only [hf, Option.map_some, Option.getD_some] at h
    obtain rfl := h
    obtain ⟨rfl, rfl⟩ := hp
    exact hr

/-! ## `coll.c` -/

def collInsert (pid cid oid : UInt64) (number : UInt32) : OsdM Ret :=
  dbExecDms env (.collInsert ⟨bindInt64 pid, bindInt64 cid, bindInt64 oid, bindInt number⟩)

def collCopyoids (pid destCid sourceCid : UInt64) : OsdM Ret :=
  dbExecDms env (.collCopyoids (bindInt64 pid) (bindInt64 destCid) (bindInt64 sourceCid))

def collDelete (pid cid oid : UInt64) : OsdM Ret :=
  dbExecDms env (.collDelete (bindInt64 pid) (bindInt64 cid) (bindInt64 oid))

def collDeleteCid (pid cid : UInt64) : OsdM Ret :=
  dbExecDms env (.collDeleteCid (bindInt64 pid) (bindInt64 cid))

def collDeleteOid (pid oid : UInt64) : OsdM Ret :=
  dbExecDms env (.collDeleteOid (bindInt64 pid) (bindInt64 oid))

/-- Some row of `coll` is a member of this collection. -/
def Db.HasMembers (d : Db) (pid cid : Int) : Prop := ∃ r ∈ d.coll, r.pid = pid ∧ r.cid = cid

instance (d : Db) (pid cid : Int) : Decidable (d.HasMembers pid cid) :=
  inferInstanceAs (Decidable (∃ r ∈ d.coll, r.pid = pid ∧ r.cid = cid))

def collIsemptyCid (pid cid : UInt64) : OsdM (Ret × Bool) :=
  dbExecQuery env (.collIsemptyCid (bindInt64 pid) (bindInt64 cid)) false
    fun d => decide (¬ d.HasMembers (bindInt64 pid) (bindInt64 cid))

/-- The collection a pointer of the object names; `*cid` keeps its value when there is none.  The
number is bound as 64-bit here, as 32-bit in `coll_insert`. -/
def collGetCid (pid oid : UInt64) (number : UInt32) (cid : UInt64) : OsdM (Ret × UInt64) :=
  let hit (r : CollRow) : Bool :=
    r.pid = bindInt64 pid ∧ r.oid = bindInt64 oid ∧ r.number = number.toNat
  dbExecQuery env (.collGetCid (bindInt64 pid) (bindInt64 oid) number.toNat) cid
    fun d => ((d.coll.find? hit).map fun r => columnInt64 r.cid).getD cid

end OsdTarget
