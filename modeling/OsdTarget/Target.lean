import OsdTarget.Db
import OsdTarget.Base.StateLogic

/-!
# The device and its surroundings

`Target` is what `struct osd_device` and the storage behind it hold: the tables, the data files, the
id cache and the current-command attributes.  `Env` answers for everything outside the source: which
SQL statements SQLite refuses beside constraint violations, which system calls fail, the clock, the
byte order of the host.  A statement that is refused leaves the tables as they were.  A statement
that SQLite asks to be prepared again (`OSD_REPEAT`) is one whose answer is the final one.  The
source is the plain SQLite build, with `assert` compiled out.
-/

namespace OsdTarget

open Base

/-! ## State -/

/-- `struct cur_cmd_attr_pg`. -/
structure Ccap where
  cdbSrvcAct : UInt16
  ricv : List UInt8
  objType : ObjType
  pid : UInt64
  oid : UInt64
  appendOff : UInt64
  deriving DecidableEq, Repr

/-- `memset(&osd->ccap, 0, …)`. -/
def Ccap.zero : Ccap := ⟨0, List.replicate 32 0, .illegal, 0, 0, 0⟩

/-- `fill_ccap` with a NULL `ricv`, as every caller passes it.  The `memset` also clears the service
action. -/
def fillCcap (objType : ObjType) (pid oid appendOff : UInt64) : Ccap :=
  { Ccap.zero with objType, pid, oid, appendOff }

/-- `struct id_cache`: the partition last created in and its next free id. -/
structure IdCache where
  curPid : UInt64
  nextId : UInt64
  deriving DecidableEq, Repr

def IdCache.zero : IdCache := ⟨0, 0⟩

/-- A call of `osd_begin_txn` or `osd_end_txn`, and whether a transaction was open. -/
inductive TxnCall
  | beginTxn (wasOpen : Bool)
  | endTxn (wasOpen : Bool)
  deriving DecidableEq, Repr

structure Target where
  db : Db
  /-- A transaction is open on the connection. -/
  inTxn : Bool
  /-- The data file of (pid, oid), by content. -/
  files : UInt64 → UInt64 → Option (List UInt8)
  ic : IdCache
  ccap : Ccap
  /-- The handle is live; FORMAT may leave it closed. -/
  opened : Bool
  /-- `osd->root` has been freed. -/
  rootFreed : Bool
  /-- The database file the handle has open still has its name. -/
  dbLinked : Bool
  /-- Everything written to the reply buffer by the current command, oldest first. -/
  out : List (Nat × List UInt8)
  /-- The transaction calls of the current command, oldest first. -/
  txnCalls : List TxnCall

/-- The state with one table replaced. -/
def Target.setObj (s : Target) (t : List ObjRow) : Target := { s with db := { s.db with obj := t } }
def Target.setAttr (s : Target) (t : List AttrRow) : Target := { s with db := { s.db with attr := t } }
def Target.setColl (s : Target) (t : List CollRow) : Target := { s with db := { s.db with coll := t } }

section

variable (s : Target)

@[simp] theorem Target.setObj_db (t : List ObjRow) : (s.setObj t).db = { s.db with obj := t } := rfl
@[simp] theorem Target.setAttr_db (t : List AttrRow) : (s.setAttr t).db = { s.db with attr := t } := rfl
@[simp] theorem Target.setColl_db (t : List CollRow) : (s.setColl t).db = { s.db with coll := t } := rfl
@[simp] theorem Target.setObj_ic (t : List ObjRow) : (s.setObj t).ic = s.ic := rfl
@[simp] theorem Target.setAttr_ic (t : List AttrRow) : (s.setAttr t).ic = s.ic := rfl
@[simp] theorem Target.setColl_ic (t : List CollRow) : (s.setColl t).ic = s.ic := rfl
@[simp] theorem Target.setObj_files (t : List ObjRow) : (s.setObj t).files = s.files := rfl
@[simp] theorem Target.setAttr_files (t : List AttrRow) : (s.setAttr t).files = s.files := rfl
@[simp] theorem Target.setColl_files (t : List CollRow) : (s.setColl t).files = s.files := rfl

end

/-- Programs of the target; `none` is one that never returns. -/
abbrev OsdM := StateT Target Option

/-- A loop that does not end, or a crash. -/
def never {α : Type} : OsdM α := fun _ => none

/-! ## Surroundings -/

/-- The system calls whose failure the code tests, with the object they are about. -/
inductive Syscall
  | stat (pid oid : UInt64)
  | creat (pid oid : UInt64)
  | unlink (pid oid : UInt64)
  | openFile (pid oid : UInt64)
  | lseek (pid oid : UInt64)
  | close (pid oid : UInt64)
  | truncate (pid oid len : UInt64)
  | fdatasync (pid oid : UInt64)
  | syncFileRange (pid oid : UInt64)
  | statfs (pid oid : UInt64)
  | statDb
  | beginTxn
  | endTxn
  deriving DecidableEq, Repr

/-- How far FORMAT OSD gets. -/
inductive FormatOutcome
  /-- `empty_dir` fails on the `md` directory, having unlinked the database file or not. -/
  | mdFails (unlinked : Bool)
  | strandedFails
  /-- `empty_dir` fails on the data files, after removing those not `kept`. -/
  | dfilesFails
  /-- `osd_open` fails before a new database handle exists. -/
  | openFails
  /-- the device is open again. -/
  | opens
  deriving DecidableEq, Repr

structure Env where
  dmsFails : Dms → Db → Bool
  queryFails : Query → Db → Bool
  sysFails : Syscall → Bool
  /-- Bytes a `pwrite` of this length at this offset stores at most, `none` on error. -/
  pwrite : UInt64 → UInt64 → UInt64 → UInt64 → Option Nat
  /-- Bytes a `pread` of this length at this offset reads at most, `none` on error. -/
  pread : UInt64 → UInt64 → UInt64 → UInt64 → Option Nat
  /-- An allocation of this size fails. -/
  noMemory : UInt64 → Bool
  /-- Freed memory at `osd->root` no longer spells the root path. -/
  rootGarbled : Bool
  /-- Host byte order. -/
  bigEndian : Bool
  /-- Address of the reply buffer. -/
  outAddr : Nat
  /-- What uninitialised memory holds. -/
  stack : Mem
  /-- Milliseconds reported by `stat` for (ctime, atime, mtime) of a data file and of the database. -/
  fileTime : UInt64 → UInt64 → UInt64 × UInt64 × UInt64
  dbTime : UInt64 × UInt64 × UInt64
  /-- Blocks used, by `stat`, and blocks and free blocks, by `statfs`. -/
  statBlocks : UInt64 → UInt64 → UInt64
  statfsBlocks : UInt64 × UInt64
  formatOutcome : FormatOutcome
  formatKept : UInt64 → UInt64 → Bool

/-- Surroundings in which nothing fails. -/
def Env.calm : Env where
  dmsFails _ _ := false
  queryFails _ _ := false
  sysFails _ := false
  pwrite _ _ _ len := some len.toNat
  pread _ _ _ len := some len.toNat
  noMemory _ := false
  rootGarbled := false
  bigEndian := false
  outAddr := 0
  stack _ := 0
  fileTime _ _ := (0, 0, 0)
  dbTime := (0, 0, 0)
  statBlocks _ _ := 0
  statfsBlocks := (0, 0)
  formatOutcome := .opens
  formatKept _ _ := false

variable (env : Env)

/-! ## Statements -/

/-- `db_exec_dms`: run a data manipulation statement. -/
def dbExecDms (st : Dms) : OsdM Ret := do
  let s ← get
  if env.dmsFails st s.db then
    return .err .osdError
  match st.run s.db with
  | none => return .err .osdError
  | some d =>
    set { s with db := d }
    return .ok

/-- Run a query that yields at most one row; a refused one leaves the result at `init`. -/
def dbExecQuery {α : Type} (q : Query) (init : α) (answer : Db → α) : OsdM (Ret × α) := do
  let s ← get
  if env.queryFails q s.db then
    return (.err .osdError, init)
  return (.ok, answer s.db)

def recordTxn (call : Bool → TxnCall) : OsdM Unit :=
  modify fun s => { s with txnCalls := s.txnCalls ++ [call s.inTxn] }

def osdBeginTxn : OsdM Ret := do
  recordTxn .beginTxn
  let s ← get
  if s.inTxn || env.sysFails .beginTxn then
    return .err .osdError
  set { s with inTxn := true }
  return .ok

def osdEndTxn : OsdM Ret := do
  recordTxn .endTxn
  let s ← get
  if !s.inTxn || env.sysFails .endTxn then
    return .err .osdError
  set { s with inTxn := false }
  return .ok

variable {env}

theorem dbExecDms_ends {st : Dms} {s : Target} {Q : Ret → Target → Prop}
    (hok : ∀ d, env.dmsFails st s.db = false → st.run s.db = some d → Q .ok { s with db := d })
    (herr : env.dmsFails st s.db = true ∨ st.run s.db = none → Q (.err .osdError) s) :
    Ends (dbExecDms env st) s Q := by
  unfold dbExecDms
  simp only [ends_bind, ends_get, ends_ite]
  refine ⟨fun hf => ends_pure.2 (herr (.inl hf)), fun hf => ?_⟩
  cases hr : st.run s.db with
  | none => exact ends_pure.2 (herr (.inr hr))
  | some d => simpa only [ends_bind, ends_set, ends_pure] using hok d (by simpa using hf) hr

theorem dbExecDms_accepted {st : Dms} {s : Target} {d : Db} (hdms : env.dmsFails st s.db = false)
    (h : st.run s.db = some d) : dbExecDms env st s = some (.ok, { s with db := d }) := by
  unfold dbExecDms
  rw [bind_get, if_neg (by simp [hdms]), h]
  rfl

/-- A statement that breaks a constraint is refused. -/
theorem dbExecDms_conflict {st : Dms} {s : Target} (h : st.run s.db = none) :
    dbExecDms env st s = some (.err .osdError, s) := by
  unfold dbExecDms
  rw [bind_get, h]
  split <;> rfl

theorem dbExecQuery_ends {α : Type} {q : Query} {init : α} {answer : Db → α} {s : Target}
    {Q : Ret × α → Target → Prop} (hok : env.queryFails q s.db = false → Q (.ok, answer s.db) s)
    (herr : env.queryFails q s.db = true → Q (.err .osdError, init) s) :
    Ends (dbExecQuery env q init answer) s Q := by
  unfold dbExecQuery
  simp only [ends_bind, ends_get, ends_ite, ends_pure]
  exact ⟨herr, fun h => hok (by simpa using h)⟩

/-- Beginning or ending a transaction, successful or not, shows in what is kept about them only. -/
theorem osdBeginTxn_ends {s : Target} {Q : Ret → Target → Prop}
    (h : ∀ ret b l, Q ret { s with inTxn := b, txnCalls := l }) : Ends (osdBeginTxn env) s Q := by
  refine ends_bind.2 (ends_modify.2 (ends_bind.2 (ends_get.2
    (ends_ite_of (fun _ => ends_pure.2 (h _ s.inTxn _)) fun _ => ?_))))
  exact ends_bind.2 (ends_set.2 (ends_pure.2 (h _ true _)))

theorem osdEndTxn_ends {s : Target} {Q : Ret → Target → Prop}
    (h : ∀ ret b l, Q ret { s with inTxn := b, txnCalls := l }) : Ends (osdEndTxn env) s Q := by
  refine ends_bind.2 (ends_modify.2 (ends_bind.2 (ends_get.2
    (ends_ite_of (fun _ => ends_pure.2 (h _ s.inTxn _)) fun _ => ?_))))
  exact ends_bind.2 (ends_set.2 (ends_pure.2 (h _ false _)))

/-! ## They return -/

theorem halts_dbExecQuery {α : Type} (q : Query) (init : α) (answer : Db → α) :
    Halts (dbExecQuery env q init answer) :=
  halts_bind halts_get fun _ => halts_ite (halts_pure _) (halts_pure _)

theorem halts_dbExecDms (st : Dms) : Halts (dbExecDms env st) := by
  refine halts_bind halts_get fun s => halts_ite (halts_pure _) ?_
  split
  · exact halts_pure _
  · exact halts_bind (halts_set _) fun _ => halts_pure _

theorem halts_osdBeginTxn : Halts (osdBeginTxn env) :=
  halts_bind (halts_modify _) fun _ => halts_bind halts_get fun _ =>
    halts_ite (halts_pure _) (halts_bind (halts_set _) fun _ => halts_pure _)

theorem halts_osdEndTxn : Halts (osdEndTxn env) :=
  halts_bind (halts_modify _) fun _ => halts_bind halts_get fun _ =>
    halts_ite (halts_pure _) (halts_bind (halts_set _) fun _ => halts_pure _)

end OsdTarget
