import OsdTarget.Defs
import OsdTarget.Base.Table

/-!
# The database of the OSD target

The three tables of `osd.schema` and the SQL statements that `obj.c`, `coll.c`, `attr.c` and
`mtq.c` prepare.  A column is an SQLite INTEGER, a signed 64-bit number: the source stores a
`uint64_t` through `sqlite3_bind_int64`, which reinterprets it as signed, and a `uint32_t` mostly
through `sqlite3_bind_int`, which does the same on 32 bits.  Numbers printed into SQL text with
`%llu` or `%u` keep their unsigned value; SQLite reads one of 2^63 or more as a REAL, which equals
no INTEGER.
-/

namespace OsdTarget

open Base

/-! ## Columns -/

/-- `sqlite3_bind_int64` of a `uint64_t`. -/
def bindInt64 (x : UInt64) : Int := if x.toNat < 2 ^ 63 then x.toNat else (x.toNat : Int) - 2 ^ 64

/-- `sqlite3_bind_int` of a `uint32_t`. -/
def bindInt (x : UInt32) : Int := if x.toNat < 2 ^ 31 then x.toNat else (x.toNat : Int) - 2 ^ 32

/-- `sqlite3_column_int64`, assigned to a `uint64_t`. -/
def columnInt64 (z : Int) : UInt64 := UInt64.ofInt z

/-- `sqlite3_column_int`, assigned to a `uint32_t`. -/
def columnInt (z : Int) : UInt32 := UInt32.ofInt z

/-- A number printed into the text of a statement. -/
def sqlLiteral (n : Nat) : Int := n

theorem columnInt64_bindInt64 (x : UInt64) : columnInt64 (bindInt64 x) = x := by
  have hx := x.toNat_lt
  apply UInt64.toNat_inj.1
  unfold columnInt64 bindInt64 UInt64.ofInt
  split <;> simp <;> omega

theorem columnInt_bindInt (x : UInt32) : columnInt (bindInt x) = x := by
  have hx := x.toNat_lt
  apply UInt32.toNat_inj.1
  unfold columnInt bindInt UInt32.ofInt
  split <;> simp <;> omega

theorem bindInt64_inj {x y : UInt64} : bindInt64 x = bindInt64 y ↔ x = y := by
  constructor
  · intro h
    rw [← columnInt64_bindInt64 x, h, columnInt64_bindInt64]
  · rintro rfl
    rfl

theorem bindInt64_of_lt {x : UInt64} (h : x.toNat < 2 ^ 63) : bindInt64 x = x.toNat := if_pos h

theorem toNat_lt_of_bindInt64 {x : UInt64} (h : 0 ≤ bindInt64 x) : x.toNat < 2 ^ 63 := by
  have hx := x.toNat_lt
  unfold bindInt64 at h
  split at h <;> omega

theorem columnInt64_toNat {z : Int} (h0 : 0 ≤ z) (h : z < 2 ^ 64) : (columnInt64 z).toNat = z.toNat := by
  have hmod : z % 2 ^ 64 = z := Int.emod_eq_of_lt h0 h
  simp only [columnInt64, UInt64.ofInt]
  rw [hmod, UInt64.toNat_ofNat_of_lt']
  show z.toNat < 2 ^ 64
  omega

theorem bindInt64_columnInt64 {z : Int} (h0 : -2 ^ 63 ≤ z) (h : z < 2 ^ 63) :
    bindInt64 (columnInt64 z) = z := by
  have hto : (columnInt64 z).toNat = (z % 2 ^ 64).toNat := by
    simp only [columnInt64, UInt64.ofInt]
    rw [UInt64.toNat_ofNat_of_lt']
    show _ < 2 ^ 64
    omega
  unfold bindInt64
  split <;> omega

/-- The `k`-th of consecutive ids that do not wrap. -/
theorem add_ofNat_toNat {x : UInt64} {k : Nat} (h : x.toNat + k < 2 ^ 64) :
    (x + UInt64.ofNat k).toNat = x.toNat + k := by
  have hk : k < UInt64.size := Nat.lt_of_le_of_lt (Nat.le_add_left k _) h
  rw [UInt64.toNat_add, UInt64.toNat_ofNat_of_lt' hk, Nat.mod_eq_of_lt h]

/-- What holds of `n + 1` ids holds of the first and of the `n` that follow it. -/
theorem forall_ids_succ {P : UInt64 → Prop} {n : Nat} {i : UInt64} :
    (∀ k < n + 1, P (i + UInt64.ofNat k)) ↔ P i ∧ ∀ k < n, P (i + 1 + UInt64.ofNat k) := by
  have hnext : ∀ k, i + UInt64.ofNat (k + 1) = i + 1 + UInt64.ofNat k := fun k => by
    rw [UInt64.ofNat_add, UInt64.add_comm (UInt64.ofNat k), ← UInt64.add_assoc]
    rfl
  have hzero : i + UInt64.ofNat 0 = i := UInt64.add_zero i
  constructor
  · intro h
    refine ⟨hzero ▸ h 0 (Nat.succ_pos n), fun k hk => ?_⟩
    rw [← hnext]
    exact h (k + 1) (Nat.succ_lt_succ hk)
  · rintro ⟨h0, h⟩ k hk
    cases k with
    | zero => rwa [hzero]
    | succ k =>
      rw [hnext]
      exact h k (Nat.lt_of_succ_lt_succ hk)

theorem exists_ids_succ {P : UInt64 → Prop} {n : Nat} {i : UInt64} :
    (∃ k < n + 1, P (i + UInt64.ofNat k)) ↔ P i ∨ ∃ k < n, P (i + 1 + UInt64.ofNat k) := by
  have h := not_congr (forall_ids_succ (P := fun i => ¬ P i) (n := n) (i := i))
  simpa only [not_forall, not_and_or, not_not, exists_prop] using h

/-! ## Rows and keys -/

/-- A row of table `obj`, PRIMARY KEY (pid, oid). -/
structure ObjRow where
  pid : Int
  oid : Int
  type : ObjType
  deriving DecidableEq, Repr

/-- A row of table `attr`, PRIMARY KEY (pid, oid, page, number).  The last column, `value`, is a BLOB or
SQL NULL. -/
structure AttrRow where
  pid : Int
  oid : Int
  page : Int
  number : Int
  blob : Option (List UInt8)
  deriving DecidableEq, Repr

/-- What `sqlite3_column_blob` and `sqlite3_column_bytes` give of the last column: no bytes for NULL. -/
def AttrRow.value (r : AttrRow) : List UInt8 := r.blob.getD []

/-- A row of table `coll`, PRIMARY KEY (pid, cid, oid), UNIQUE (pid, oid, number) ON CONFLICT
REPLACE. -/
structure CollRow where
  pid : Int
  cid : Int
  oid : Int
  number : Int
  deriving DecidableEq, Repr

def ObjRow.key (r : ObjRow) : Int × Int := (r.pid, r.oid)
def AttrRow.key (r : AttrRow) : Int × Int × Int × Int := (r.pid, r.oid, r.page, r.number)
def CollRow.key (r : CollRow) : Int × Int × Int := (r.pid, r.cid, r.oid)
def CollRow.pointer (r : CollRow) : Int × Int × Int := (r.pid, r.oid, r.number)

structure Db where
  obj : List ObjRow
  attr : List AttrRow
  coll : List CollRow
  deriving DecidableEq, Repr

/-- Some row of `obj` has this partition and object id. -/
def Db.Has (d : Db) (pid oid : Int) : Prop := ∃ r ∈ d.obj, r.pid = pid ∧ r.oid = oid

/-- Some row of `obj` has this partition, object id and type. -/
def Db.HasType (d : Db) (pid oid : Int) (type : ObjType) : Prop := ⟨pid, oid, type⟩ ∈ d.obj

instance (d : Db) (pid oid : Int) : Decidable (d.Has pid oid) :=
  inferInstanceAs (Decidable (∃ r ∈ d.obj, r.pid = pid ∧ r.oid = oid))

instance (d : Db) (pid oid : Int) (type : ObjType) : Decidable (d.HasType pid oid type) :=
  inferInstanceAs (Decidable (_ ∈ d.obj))

theorem Db.HasType.has {d : Db} {pid oid : Int} {type : ObjType} (h : d.HasType pid oid type) :
    d.Has pid oid :=
  ⟨_, h, rfl, rfl⟩

theorem Db.Has.exists_type {d : Db} {pid oid : Int} (h : d.Has pid oid) :
    ∃ type, d.HasType pid oid type := by
  obtain ⟨⟨p, o, type⟩, hr, rfl, rfl⟩ := h
  exact ⟨type, hr⟩

/-- The object is in the collection. -/
def Db.IsMember (d : Db) (pid cid oid : UInt64) : Prop :=
  ∃ r ∈ d.coll, r.key = (bindInt64 pid, bindInt64 cid, bindInt64 oid)

/-! ## Data manipulation statements -/

/-- One row into `coll`: the primary key is checked first and aborts the statement, a row with the
same (pid, oid, number) is then replaced. -/
def insertColl (r : CollRow) (t : List CollRow) : Option (List CollRow) :=
  if Clashes CollRow.key r t then none else some (insertReplace CollRow.pointer r t)

/-- The prepared statements that change a table, with their bound parameters. -/
inductive Dms
  /-- `INSERT INTO obj VALUES (?, ?, ?)` -/
  | objInsert (r : ObjRow)
  /-- `DELETE FROM obj WHERE pid = ? AND oid = ?` -/
  | objDelete (pid oid : Int)
  /-- `DELETE FROM obj WHERE pid = ?` -/
  | objDeletePid (pid : Int)
  /-- `INSERT INTO coll VALUES (?, ?, ?, ?)` -/
  | collInsert (r : CollRow)
  /-- `INSERT INTO coll SELECT ?, ?, oid, 0 FROM coll WHERE pid = ? AND cid = ?` -/
  | collCopyoids (pid destCid sourceCid : Int)
  /-- `DELETE FROM coll WHERE pid = ? AND cid = ? AND oid = ?` -/
  | collDelete (pid cid oid : Int)
  /-- `DELETE FROM coll WHERE pid = ? AND cid = ?` -/
  | collDeleteCid (pid cid : Int)
  /-- `DELETE FROM coll WHERE pid = ? AND oid = ?` -/
  | collDeleteOid (pid oid : Int)
  /-- `INSERT OR REPLACE INTO attr VALUES (?, ?, ?, ?, ?)` -/
  | attrSet (r : AttrRow)
  /-- `INSERT OR REPLACE INTO attr SELECT pid, oid, page, number, ? FROM coll WHERE cid = …`, one
  SELECT for each attribute, joined by UNION ALL -/
  | attrSetMembers (pid cid : Int) (attrs : List (Int × Int × List UInt8))
  /-- `DELETE FROM attr WHERE pid = ? AND oid = ? AND page = ? AND number = ?` -/
  | attrDelete (pid oid page number : Int)
  /-- `DELETE FROM attr WHERE pid = ? AND oid = ?` -/
  | attrDeleteAll (pid oid : Int)
  deriving DecidableEq, Repr

/-- The rows `mtq_set_member_attrs` inserts.  The SELECTs name the collection but no partition; a value
of no bytes is bound as an empty BLOB. -/
def memberRows (d : Db) (pid cid : Int) (attrs : List (Int × Int × List UInt8)) : List AttrRow :=
  attrs.flatMap fun a =>
    (d.coll.filter fun r => r.cid = cid).map fun r => ⟨pid, r.oid, a.1, a.2.1, some a.2.2⟩

/-- The rows `coll_copyoids` inserts. -/
def copiedRows (d : Db) (pid destCid sourceCid : Int) : List CollRow :=
  (d.coll.filter fun r => r.pid = pid ∧ r.cid = sourceCid).map fun r => ⟨pid, destCid, r.oid, 0⟩

/-- What a statement does to the tables; `none` when a constraint aborts it. -/
def Dms.run (d : Db) : Dms → Option Db
  | .objInsert r => (insertNew ObjRow.key r d.obj).map fun t => { d with obj := t }
  | .objDelete pid oid =>
    some { d with obj := deleteWhere (fun r => r.pid = pid ∧ r.oid = oid) d.obj }
  | .objDeletePid pid => some { d with obj := deleteWhere (fun r => r.pid = pid) d.obj }
  | .collInsert r => (insertColl r d.coll).map fun t => { d with coll := t }
  | .collCopyoids pid destCid sourceCid =>
    ((copiedRows d pid destCid sourceCid).foldlM (fun t r => insertColl r t) d.coll).map
      fun t => { d with coll := t }
  | .collDelete pid cid oid =>
    some { d with coll := deleteWhere (fun r => r.pid = pid ∧ r.cid = cid ∧ r.oid = oid) d.coll }
  | .collDeleteCid pid cid =>
    some { d with coll := deleteWhere (fun r => r.pid = pid ∧ r.cid = cid) d.coll }
  | .collDeleteOid pid oid =>
    some { d with coll := deleteWhere (fun r => r.pid = pid ∧ r.oid = oid) d.coll }
  | .attrSet r => some { d with attr := insertReplace AttrRow.key r d.attr }
  | .attrSetMembers pid cid attrs =>
    let rows := memberRows d pid cid attrs
    some { d with attr := rows.foldl (fun t r => insertReplace AttrRow.key r t) d.attr }
  | .attrDelete pid oid page number =>
    let named (r : AttrRow) := r.pid = pid ∧ r.oid = oid ∧ r.page = page ∧ r.number = number
    some { d with attr := deleteWhere (fun r => named r) d.attr }
  | .attrDeleteAll pid oid =>
    some { d with attr := deleteWhere (fun r => r.pid = pid ∧ r.oid = oid) d.attr }

/-! ## Queries -/

/-- The prepared statements that only read, with their bound parameters. -/
inductive Query
  /-- `SELECT COUNT(oid) FROM obj WHERE pid = ? AND oid = ?` -/
  | objIspresent (pid oid : Int)
  /-- `SELECT MAX(oid) FROM obj WHERE pid = ?` -/
  | objNextoid (pid : Int)
  /-- `SELECT MAX(pid) FROM obj` -/
  | objNextpid
  /-- `SELECT COUNT(oid) FROM obj WHERE pid = ? AND oid != 0` -/
  | objIsemptyPid (pid : Int)
  /-- `SELECT type FROM obj WHERE pid = ? AND oid = ?` -/
  | objGetType (pid oid : Int)
  /-- `SELECT COUNT(*) FROM coll WHERE pid = ? AND cid = ?` -/
  | collIsemptyCid (pid cid : Int)
  /-- `SELECT cid FROM coll WHERE pid = ? AND oid = ? AND number = ?` -/
  | collGetCid (pid oid number : Int)
  /-- the retrievals of (page, number, value) for one object -/
  | attrRtrvl (pid oid : Int)
  /-- `SELECT value FROM attr WHERE pid = ? AND oid = ? AND page = ? AND number = ?` -/
  | attrGetVal (pid oid page number : Int)
  /-- `SELECT oid FROM obj WHERE pid = ? AND type = … AND oid >= ?` for one type -/
  | objGetOids (pid : Int) (type : ObjType) (initial : Int)
  /-- `SELECT pid FROM obj WHERE oid = 0 AND type = … AND pid >= ?` -/
  | objGetPids (initial : Int)
  /-- `SELECT oid FROM coll WHERE pid = ? AND cid = ? AND oid >= ?` -/
  | collGetOids (pid cid initial : Int)
  /-- the statement `mtq_list_oids_attr` builds -/
  | listOidsAttr (pid initial : Int)
  /-- the statement `mtq_run_query` builds -/
  | runQuery (pid cid : Int)
  deriving DecidableEq, Repr

/-- `MAX(oid)` over a partition and `MAX(pid)` over the table; a NULL reads as 0. -/
def Db.maxOid (d : Db) (pid : Int) : Int :=
  ((d.obj.filter fun r => r.pid = pid).map ObjRow.oid).max?.getD 0

def Db.maxPid (d : Db) : Int := (d.obj.map ObjRow.pid).max?.getD 0

theorem Db.maxOid_spec {d : Db} {r : ObjRow} (h : r ∈ d.obj) :
    r.oid ≤ d.maxOid r.pid ∧ d.Has r.pid (d.maxOid r.pid) := by
  have hr : r.oid ∈ (d.obj.filter fun x => x.pid = r.pid).map ObjRow.oid :=
    List.mem_map.2 ⟨r, by simp [h], rfl⟩
  unfold Db.maxOid
  cases hm : ((d.obj.filter fun x => x.pid = r.pid).map ObjRow.oid).max? with
  | none => rw [List.max?_eq_none_iff.1 hm] at hr; cases hr
  | some m =>
    obtain ⟨hmem, hle⟩ := List.max?_eq_some_iff.1 hm
    obtain ⟨x, hx, rfl⟩ := List.mem_map.1 hmem
    simp only [List.mem_filter, decide_eq_true_eq] at hx
    exact ⟨hle _ hr, x, hx.1, hx.2, rfl⟩

/-- The answer is 0 or the id of a row. -/
theorem Db.maxOid_eq (d : Db) (pid : Int) : d.maxOid pid = 0 ∨ d.Has pid (d.maxOid pid) := by
  by_cases h : ∃ r ∈ d.obj, r.pid = pid
  · obtain ⟨r, hr, rfl⟩ := h
    exact .inr (d.maxOid_spec hr).2
  · have hnil : (d.obj.filter fun r => r.pid = pid) = [] := by
      rw [List.filter_eq_nil_iff]
      intro r hr hp
      exact h ⟨r, hr, by simpa using hp⟩
    left
    rw [Db.maxOid, hnil]
    rfl

theorem Db.maxPid_spec {d : Db} {r : ObjRow} (h : r ∈ d.obj) :
    r.pid ≤ d.maxPid ∧ ∃ x ∈ d.obj, x.pid = d.maxPid := by
  have hr : r.pid ∈ d.obj.map ObjRow.pid := List.mem_map.2 ⟨r, h, rfl⟩
  unfold Db.maxPid
  cases hm : (d.obj.map ObjRow.pid).max? with
  | none => rw [List.max?_eq_none_iff.1 hm] at hr; cases hr
  | some m =>
    obtain ⟨hmem, hle⟩ := List.max?_eq_some_iff.1 hm
    obtain ⟨x, hx, rfl⟩ := List.mem_map.1 hmem
    exact ⟨hle _ hr, x, hx, rfl⟩

end OsdTarget
