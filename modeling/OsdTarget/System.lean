import OsdTarget.Attributes
import OsdTarget.Base.Reach

/-!
# The device as a transition system

A run starts from a freshly initialised device and takes one command after another, each with
arbitrary arguments and in arbitrary surroundings.  The commands are the `osd_*` functions: what the
CDB layer does to a device is a sequence of them.
-/

namespace OsdTarget

open Base

/-! ## Initialising and formatting -/

/-- `root_info` and `partition_info`. -/
def rootInfo : List (UInt32 × UInt32 × String) := [
  (ROOT_PG + 0, 0, "INCITS  T10 Root Directory             "),
  (ROOT_PG + 0, ROOT_PG + 1, "INCITS  T10 Root Information           "),
  (ROOT_PG + 0, ROOT_PG + 2, "INCITS  T10 Root Quotas                "),
  (ROOT_PG + 2, 0, "INCITS  T10 Root Quotas                "),
  (ROOT_PG + 0, ROOT_PG + 3, "INCITS  T10 Root Timestamps            "),
  (ROOT_PG + 3, 0, "INCITS  T10 Root Timestamps            "),
  (ROOT_PG + 0, ROOT_PG + 5, "INCITS  T10 Root Policy/Security       "),
  (ROOT_PG + 5, 0, "INCITS  T10 Root Policy/Security       ")]

def partitionInfo : List (UInt32 × UInt32 × String) := [
  (PARTITION_PG + 0, 0, "INCITS  T10 Partition Directory"),
  (PARTITION_PG + 0, PARTITION_PG + 1, "INCITS  T10 Partition Information"),
  (PARTITION_PG + 1, 0, "INCITS  T10 Partition Information")]

variable (env : Env)

/-- The two loops over those tables: each value is stored with its terminating NUL. -/
def setInitAttrs : List (UInt32 × UInt32 × String) → OsdM Ret
  | [] => return .ok
  | (page, number, name) :: rest => do
    let len := UInt16.ofNat (name.toList.length + 1)
    let ret ← attrSetAttrRow env ROOT_PID ROOT_OID page number (some (cString name)) len
    if ret ≠ .ok then
      return ret
    setInitAttrs rest

def osdInitializeDb : OsdM Ret := do
  modify fun s => { s with ccap := Ccap.zero, ic := IdCache.zero }
  let ret ← objInsert env ROOT_PID ROOT_OID .root
  if ret ≠ .ok then
    return ret
  let ret ← setInitAttrs env rootInfo
  if ret ≠ .ok then
    return ret
  let ret ← setInitAttrs env partitionInfo
  if ret ≠ .ok then
    return ret
  attrSetAttr env ROOT_PID ROOT_OID (PARTITION_PG + 1) 1 (some (hostVal env 0)) 8

/-- A device whose tables `osd_db_open` has just created. -/
def Target.blank : Target where
  db := ⟨[], [], []⟩
  inTxn := false
  files _ _ := none
  ic := IdCache.zero
  ccap := Ccap.zero
  opened := true
  rootFreed := false
  dbLinked := true
  out := []
  txnCalls := []

/-- A device as `osd_open` leaves it on an empty directory. -/
def Fresh (s : Target) : Prop := ∃ env, osdInitializeDb env Target.blank = some (.ok, s)

/-- `osd_open` as FORMAT calls it: the database file does not exist.  Without the old root path the
new device lies elsewhere, in an empty directory. -/
def osdOpen : OsdM Ret := do
  let s ← get
  let files := if s.rootFreed && env.rootGarbled then fun _ _ => none else s.files
  set { Target.blank with files, out := s.out, txnCalls := s.txnCalls }
  if env.formatOutcome = .openFails then
    modify fun s => { s with opened := false }
    return .err .osdError
  osdInitializeDb env

def formatOsd : OsdM Ret := do
  let outSense := senseBuildSdd OSD_SSK_HARDWARE_ERROR OSD_ASC_SYSTEM_RESOURCE_FAILURE 0 0
  let reopen : OsdM Ret := do
    if (← osdOpen env) ≠ .ok then
      return outSense
    setCcap Ccap.zero
    return .ok
  let s ← get
  if s.dbStatFails env then
    reopen
  else
    match env.formatOutcome with
    | .mdFails unlinked =>
      set { s with dbLinked := !unlinked }
      return outSense
    | .strandedFails =>
      set { s with dbLinked := false }
      return outSense
    | .dfilesFails =>
      let files := fun p o => if env.formatKept p o then s.files p o else none
      set { s with dbLinked := false, files }
      return outSense
    | _ =>
      set { s with files := fun _ _ => none }
      reopen

/-- `osd_format_osd`: the root path is freed whatever happened, the new one included. -/
def osdFormatOsd : OsdM Ret := do
  let ret ← formatOsd env
  modify fun s => { s with rootFreed := true }
  return ret

/-! ## Commands and runs -/

/-- The commands, with their arguments.  Replies go to position `pos` of the reply buffer. -/
inductive Op
  | create (pid requestedOid : UInt64) (numoid : UInt16)
  | createAndWrite (pid oid len offset : UInt64) (data : Mem) (sglist : SgList) (ddt : UInt8)
  | createCollection (pid requestedCid : UInt64)
  | createPartition (requestedPid : UInt64)
  | createUserTrackingCollection (pid requestedCid sourceCid : UInt64) (cdbContLen : UInt32)
  | remove (pid oid : UInt64)
  | removeCollection (pid cid : UInt64) (fcr : UInt8)
  | removePartition (pid : UInt64)
  | write (pid oid len offset : UInt64) (data : Mem) (sglist : SgList) (ddt : UInt8)
  | setAttributes (pid oid : UInt64) (page number : UInt32) (val : Option Mem) (len : UInt16)
      (isembedded : Bool)
  | getattrList (pid oid : UInt64) (page number : UInt32) (pos : Nat) (outlen : UInt32)
      (isembedded : Bool) (listfmt : UInt8)
  | getattrPage (pid oid : UInt64) (page : UInt32) (pos : Nat) (outlen : UInt64) (isembedded : Bool)
  | setMemberAttributes (pid cid : UInt64) (setAttr : List SetEntry)
  | cas (pid oid cmp swap : UInt64) (pos : Nat)
  | fa (pid oid add : UInt64) (pos : Nat)
  | genCas (pid oid : UInt64) (page number : UInt32) (cmp : Option Mem) (cmpLen : UInt16)
      (swap : Option Mem) (swapLen : UInt16)
  | formatOsd

/-- Run one command. -/
def Op.exec : Op → OsdM Ret
  | .create pid requestedOid numoid => osdCreate env pid requestedOid numoid
  | .createAndWrite pid oid len offset data sglist ddt =>
    osdCreateAndWrite env pid oid len offset data sglist ddt
  | .createCollection pid requestedCid => osdCreateCollection env pid requestedCid
  | .createPartition requestedPid => osdCreatePartition env requestedPid
  | .createUserTrackingCollection pid requestedCid sourceCid cdbContLen =>
    osdCreateUserTrackingCollection env pid requestedCid sourceCid cdbContLen
  | .remove pid oid => osdRemove env pid oid
  | .removeCollection pid cid fcr => osdRemoveCollection env pid cid fcr
  | .removePartition pid => osdRemovePartition env pid
  | .write pid oid len offset data sglist ddt => osdWrite env pid oid len offset data sglist ddt
  | .setAttributes pid oid page number val len isembedded =>
    osdSetAttributes env pid oid page number val len isembedded
  | .getattrList pid oid page number pos outlen isembedded listfmt =>
    Prod.fst <$> osdGetattrList env pid oid page number pos outlen isembedded listfmt
  | .getattrPage pid oid page pos outlen isembedded =>
    Prod.fst <$> osdGetattrPage env pid oid page pos outlen isembedded
  | .setMemberAttributes pid cid setAttr => osdSetMemberAttributes env pid cid setAttr
  | .cas pid oid cmp swap pos => Prod.fst <$> osdCas env pid oid cmp swap pos
  | .fa pid oid add pos => Prod.fst <$> osdFa env pid oid add pos
  | .genCas pid oid page number cmp cmpLen swap swapLen =>
    Prod.fst <$> osdGenCas env pid oid page number cmp cmpLen swap swapLen
  | .formatOsd => osdFormatOsd env

/-- The commands that create something. -/
def Op.creates : Op → Bool
  | .create .. | .createAndWrite .. | .createCollection .. | .createPartition ..
  | .createUserTrackingCollection .. => true
  | _ => false

/-- A command with the surroundings it runs in. -/
structure Step where
  env : Env
  op : Op

/-- One command on an open device. -/
def Step.next (i : Step) (s s' : Target) : Prop :=
  s.opened = true ∧ ∃ ret, i.op.exec i.env s = some (ret, s')

/-- The states that runs meeting the guard `G` reach from a fresh device. -/
abbrev Reachable (G : Step → Target → Target → Prop) : Target → Prop := Reach Step.next Fresh G

/-- A property every command keeps under the guard holds in every reachable state. -/
theorem Reachable.invariant {G : Step → Target → Target → Prop} {I : Target → Prop}
    (h0 : ∀ s, Fresh s → I s)
    (hs : ∀ (env : Env) (op : Op) s, I s →
      Ends (op.exec env) s (fun _ s' => G ⟨env, op⟩ s s' → I s')) {s : Target}
    (h : Reachable G s) : I s :=
  Reach.invariant h0 (fun i s s' hi hn hg => by
    obtain ⟨-, ret, hr⟩ := hn
    exact hs i.env i.op s hi ret s' hr hg) h

/-! ## Runs in which nothing fails -/

/-- The state a command leads to; one that does not return leaves the state alone. -/
def Op.after (op : Op) (s : Target) : Target := ((op.exec Env.calm s).map Prod.snd).getD s

/-- The device that initialising gives when nothing fails. -/
def Target.fresh : Target := ((osdInitializeDb Env.calm Target.blank).map Prod.snd).getD Target.blank

/-- The state after a list of commands on that device. -/
def calmRun (ops : List Op) : Target := ops.foldl (fun s op => op.after s) Target.fresh

/-- A partition with one object, the file of which is empty. -/
def oneObject : Target := calmRun [.createPartition 0, .create 0x10000 0 1]

theorem fresh_fresh : Fresh Target.fresh := by
  have hok : (osdInitializeDb Env.calm Target.blank).map Prod.fst = some .ok := by decide +kernel
  obtain ⟨⟨ret, s⟩, hs, rfl⟩ := Option.map_eq_some_iff.1 hok
  refine ⟨Env.calm, ?_⟩
  rw [Target.fresh, hs]
  rfl

/-- Each command of the list returns on an open device and meets the guard. -/
def Meets (G : Step → Target → Target → Prop) : List Op → Target → Prop
  | [], _ => True
  | op :: ops, s => (s.opened = true ∧ (op.exec Env.calm s).isSome = true) ∧
      G ⟨Env.calm, op⟩ s (op.after s) ∧ Meets G ops (op.after s)

/-- One of them after another run. -/
theorem Reachable.after {G : Step → Target → Target → Prop} {s : Target} (h : Reachable G s) {op : Op}
    (hop : s.opened = true ∧ (op.exec Env.calm s).isSome = true) (hg : G ⟨Env.calm, op⟩ s (op.after s)) :
    Reachable G (op.after s) := by
  obtain ⟨⟨ret, s'⟩, hx⟩ := Option.isSome_iff_exists.1 hop.2
  have hafter : op.after s = s' := by
    rw [Op.after, hx]
    rfl
  rw [hafter] at hg ⊢
  exact .step ⟨Env.calm, op⟩ h ⟨hop.1, ret, hx⟩ hg

theorem Reachable.calmRun {G : Step → Target → Target → Prop} {ops : List Op}
    (h : Meets G ops Target.fresh) : Reachable G (calmRun ops) := by
  have hrun : ∀ s, Reachable G s → Meets G ops s → Reachable G (ops.foldl (fun s op => op.after s) s) := by
    clear h
    induction ops with
    | nil => exact fun _ hs _ => hs
    | cons op ops ih => exact fun s hs ⟨hop, hg, hrest⟩ => ih (op.after s) (hs.after hop hg) hrest
  exact hrun _ (.start fresh_fresh) h

end OsdTarget
