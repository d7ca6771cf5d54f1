import OsdTarget.DirectoryPage
import OsdTarget.Listing
import OsdTarget.StatementRuns

/-!
# The functions over the tables

`obj.c`, `coll.c` and `attr.c` on a session, one statement each, against the functions of the same names
that have their statement executed at once.  Over a run of calls the tables are what the changes that
answered `OSD_OK` make of them, each of them made once.
-/

namespace OsdTarget

open Base

variable {s s' : Session} {α : Type}

/-! ## `obj.c`, `coll.c` and `attr.c` -/

namespace Sql

/-- A statement that changes a table. -/
def change (p : Prepared) (st : Dms) : SessionM Ret := do
  return (← statement p () (dmsSteps st)).1

/-- A query for one row. -/
def query {α : Type} (p : Prepared) (init : α) (answer : Db → α) : SessionM (Ret × α) :=
  statement p init (querySteps init answer)

def objInsert (pid oid : UInt64) (type : ObjType) : SessionM Ret :=
  change .objInsert (.objInsert ⟨bindInt64 pid, bindInt64 oid, type⟩)

def objDelete (pid oid : UInt64) : SessionM Ret :=
  change .objDelete (.objDelete (bindInt64 pid) (bindInt64 oid))

def objDeletePid (pid : UInt64) : SessionM Ret := change .objDelpid (.objDeletePid (bindInt64 pid))

def objGetNextoid (pid oid : UInt64) : SessionM (Ret × UInt64) :=
  query .objNextoid oid fun d => columnInt64 (d.maxOid (bindInt64 pid)) + 1

def objGetNextpid (pid : UInt64) : SessionM (Ret × UInt64) :=
  query .objNextpid pid fun d => columnInt64 d.maxPid + 1

def objIspresent (pid oid : UInt64) : SessionM (Ret × Bool) :=
  query .objIsprsnt false fun d => decide (d.Has (bindInt64 pid) (bindInt64 oid))

def objIsemptyPid (pid : UInt64) : SessionM (Ret × Bool) :=
  query .objEmptypid false fun d => decide (¬ d.Holds (bindInt64 pid))

def objGetType (pid oid : UInt64) : SessionM (Ret × ObjType) :=
  query .objGettype .illegal fun d => d.typeOf (bindInt64 pid) (bindInt64 oid)

def collInsert (pid cid oid : UInt64) (number : UInt32) : SessionM Ret :=
  change .collInsert (.collInsert ⟨bindInt64 pid, bindInt64 cid, bindInt64 oid, bindInt number⟩)

def collCopyoids (pid destCid sourceCid : UInt64) : SessionM Ret :=
  change .collCopyoids (.collCopyoids (bindInt64 pid) (bindInt64 destCid) (bindInt64 sourceCid))

def collDelete (pid cid oid : UInt64) : SessionM Ret :=
  change .collDelete (.collDelete (bindInt64 pid) (bindInt64 cid) (bindInt64 oid))

def collDeleteCid (pid cid : UInt64) : SessionM Ret :=
  change .collDelcid (.collDeleteCid (bindInt64 pid) (bindInt64 cid))

def collDeleteOid (pid oid : UInt64) : SessionM Ret :=
  change .collDeloid (.collDeleteOid (bindInt64 pid) (bindInt64 oid))

def collIsemptyCid (pid cid : UInt64) : SessionM (Ret × Bool) :=
  query .collEmptycid false fun d => decide (¬ d.HasMembers (bindInt64 pid) (bindInt64 cid))

def collGetCid (pid oid : UInt64) (number : UInt32) (cid : UInt64) : SessionM (Ret × UInt64) :=
  let hit (r : CollRow) : Bool :=
    r.pid = bindInt64 pid ∧ r.oid = bindInt64 oid ∧ r.number = number.toNat
  query .collGetcid cid fun d => ((d.coll.find? hit).map fun r => columnInt64 r.cid).getD cid

/-- `_attr_set_attr` with a value. -/
def attrSetAttr (r : AttrRow) : SessionM Ret := change .attrSetattr (.attrSet r)

def attrDeleteAttr (pid oid : UInt64) (page number : UInt32) : SessionM Ret :=
  change .attrDelattr (.attrDelete (bindInt64 pid) (bindInt64 oid) (bindInt page) (bindInt number))

def attrDeleteAll (pid oid : UInt64) : SessionM Ret :=
  change .attrDelall (.attrDeleteAll (bindInt64 pid) (bindInt64 oid))

/-- The loop of `db_exec_id_rtrvl_stmt` on one id. -/
def idRow (pos : Nat) (allocLen : UInt64) (id : UInt64) (c : IdCursor) : OsdM (IdCursor × Bool) := do
  let c' ←
    if 8 ≤ allocLen - c.len then do
      outWrite (pos + c.len.toNat) (htonll id)
      pure { c with len := c.len + 8 }
    else if c.contId = 0 then pure { c with contId := id }
    else pure c
  if c'.addLen < c'.addLen + 8 then
    return ({ c' with addLen := c'.addLen + 8 }, true)
  return ({ c' with addLen := 0 - 1 }, false)

/-- `db_exec_id_rtrvl_stmt`, repeated as its callers do. -/
def dbExecIdRtrvlStmt (p : Prepared) (rows : Db → List Int) (allocLen : UInt64) (pos : Nat) :
    SessionM (Ret × IdCursor) :=
  statement p ⟨0, 0, 0⟩
    (scanSteps (idRow pos allocLen) (fun d => (ascending (rows d)).map columnInt64) ⟨0, 0, 0⟩)

def objGetOidsInPid (pid initial allocLen : UInt64) (pos : Nat) : SessionM (Ret × IdCursor) :=
  dbExecIdRtrvlStmt .objGetoids (fun d => (d.obj.filter fun r =>
    r.pid = bindInt64 pid ∧ r.type = .userobject ∧ bindInt64 initial ≤ r.oid).map ObjRow.oid) allocLen pos

def objGetCidsInPid (pid initial allocLen : UInt64) (pos : Nat) : SessionM (Ret × IdCursor) :=
  dbExecIdRtrvlStmt .objGetcids (fun d => (d.obj.filter fun r =>
    r.pid = bindInt64 pid ∧ r.type = .collection ∧ bindInt64 initial ≤ r.oid).map ObjRow.oid) allocLen pos

def objGetAllPids (initial allocLen : UInt64) (pos : Nat) : SessionM (Ret × IdCursor) :=
  dbExecIdRtrvlStmt .objGetpids (fun d => (d.obj.filter fun r =>
    r.oid = 0 ∧ r.type = .partition ∧ bindInt64 initial ≤ r.pid).map ObjRow.pid) allocLen pos

def collGetOidsInCid (pid cid initial allocLen : UInt64) (pos : Nat) : SessionM (Ret × IdCursor) :=
  dbExecIdRtrvlStmt .collGetoids (fun d => (d.coll.filter fun r =>
    r.pid = bindInt64 pid ∧ r.cid = bindInt64 cid ∧ bindInt64 initial ≤ r.oid).map CollRow.oid) allocLen pos

/-- Where the next entry goes, how much room there is, and what was gathered. -/
abbrev Gathering := Nat × UInt64 × Gathered

/-- The end of a row: the entry was packed, or the loop stops. -/
def gathered (x : Gathering) : Except Errno Nat → Gathering × Bool
  | .ok ret => ((x.1 + ret, x.2.1 - UInt64.ofNat ret,
      { x.2.2 with len := x.2.2.len + UInt32.ofNat ret, found := true }), true)
  | .error .einval => ((x.1, x.2.1, { x.2.2 with inval := true }), false)
  | .error _ => (x, false)

/-- `attr_gather_attr` in the loop of `exec_attr_rtrvl_stmt`. -/
def gatherRow (env : Env) (oid : UInt64) (listfmt : UInt8) (r : AttrRow) (x : Gathering) :
    OsdM (Gathering × Bool) := do
  return gathered x (← packAttr env listfmt x.1 x.2.1.toUInt32 oid (columnInt r.page) (columnInt r.number)
    (UInt16.ofNat r.value.length) (some (blobMem r.value)))

/-- `attr_gather_dir_page` in the same loop. -/
def gatherDirRow (env : Env) (oid : UInt64) (page : UInt32) (listfmt : UInt8) (r : Int × List UInt8)
    (x : Gathering) : OsdM (Gathering × Bool) := do
  if (UInt16.ofNat r.2.length).toNat ≠ ATTR_PAGE_ID_LEN then
    return gathered x (.error .einval)
  return gathered x (← packAttr env listfmt x.1 x.2.1.toUInt32 oid page (columnInt r.1)
    (UInt16.ofNat r.2.length) (some (blobMem r.2)))

/-- What `exec_attr_rtrvl_stmt` makes of a statement that was executed. -/
def rtrvlResult (g : Gathered) : Ret × Option UInt32 :=
  if g.inval then (.err .einval, some 0)
  else if g.found then (.ok, some g.len)
  else (.err .enoent, some g.len)

/-- `exec_attr_rtrvl_stmt`, repeated as its callers do; only when the statement is bound the length used is
stored. -/
def execAttrRtrvlStmt {ρ : Type} (p : Prepared) (rows : Db → List ρ) (body : ρ → Gathering → OsdM (Gathering × Bool))
    (pos : Nat) (outlen : UInt64) : SessionM (Ret × Option UInt32) := do
  let r ← statement p none ((fun x => (x.1, some x.2)) <$> scanSteps body rows (pos, outlen, ⟨0, false, false⟩))
  return match r with
    | (.ok, some x) => rtrvlResult x.2.2
    | (ret, x) => (ret, x.map fun _ => 0)

/-- `attr_gather_val` in the same loop; a value of no bytes ends it.  Behind what is gathered stands the value
copied. -/
def gatherValRow (r : AttrRow) (x : Gathering × List UInt8) : OsdM ((Gathering × List UInt8) × Bool) :=
  let len := (UInt16.ofNat r.value.length).toNat
  if x.1.2.1.toUInt32.toNat < len then return (((gathered x.1 (.error .einval)).1, x.2), false)
  else if len = 0 then return (x, false)
  else return (((gathered x.1 (.ok len)).1, r.value.take len), true)

/-- The status with the value copied. -/
def valResult (x : Gathering × List UInt8) : Ret × List UInt8 :=
  match rtrvlResult x.1.2.2 with
  | (.ok, _) => (.ok, x.2)
  | (ret, _) => (ret, [])

/-- The key of the table leaves one row to look at. -/
def attrGetVal (pid oid : UInt64) (page number : UInt32) (outlen : UInt64) : SessionM (Ret × List UInt8) := do
  let key : Int × Int × Int × Int := (bindInt64 pid, bindInt64 oid, bindInt page, bindInt number)
  let (ret, x) ← statement .attrGetval ((0, outlen, ⟨0, false, false⟩), [])
    (scanSteps gatherValRow (fun d => (d.attr.find? fun r => r.key = key).toList)
      ((0, outlen, ⟨0, false, false⟩), []))
  return if ret = .ok then valResult x else (ret, [])

/-- The statement of a retrieval. -/
def rtrvlStatement : Rtrvl → Prepared
  | .attr _ _ => .attrGetattr
  | .pageAsList _ => .attrPgaslst
  | .forAllPages _ => .attrForallpg
  | .allAttrs => .attrGetall

/-- `_attr_get_attr`, `attr_get_page_as_list`, `attr_get_for_all_pages` and `attr_get_all_attrs`. -/
def attrRtrvl (env : Env) (q : Rtrvl) (pid oid : UInt64) (listfmt : UInt8) (pos : Nat) (outlen : UInt64) :
    SessionM (Ret × Option UInt32) :=
  execAttrRtrvlStmt (rtrvlStatement q) (fun d => q.rows d (bindInt64 pid) (bindInt64 oid))
    (gatherRow env oid listfmt) pos outlen

def attrGetDirPage (env : Env) (pid oid : UInt64) (page : UInt32) (listfmt : UInt8) (pos : Nat)
    (outlen : UInt64) : SessionM (Ret × Option UInt32) := do
  useStatement .attrDirpage
  if page ≠ USEROBJECT_DIR_PG ∧ page ≠ COLLECTION_DIR_PG ∧ page ≠ PARTITION_DIR_PG ∧ page ≠ ROOT_DIR_PG then
    return (.err .einval, none)
  execAttrRtrvlStmt .attrDirpage (fun d => d.dirpage (bindInt64 pid) (bindInt64 oid))
    (gatherDirRow env oid page listfmt) pos outlen

end Sql

/-! ## Against the statements that are executed at once -/

/-- Surroundings in which no statement is refused. -/
def Env.answering (env : Env) : Env := { env with dmsFails := fun _ _ => false, queryFails := fun _ _ => false }

/-- `f` does what `a` does, or answers `OSD_ERROR` and has changed nothing but for `Q`. -/
def Refines {β : Type} (Q : Target → Target → Prop) (status : β → Ret) (f : SessionM β) (a : OsdM β)
    (s : Session) : Prop :=
  Ends f s fun r s' => s'.Sound ∧ s'.connected = true ∧
    ((∃ t, a s.target = some (r, t) ∧ Q t s'.target ∧ s'.target.reply = t.reply) ∨
      (status r = .err .osdError ∧ Q s.target s'.target))

section Refines

variable {env : Env}

theorem change_refines (env : Env) (p : Prepared) (st : Dms) (h : s.Sound) (hconn : s.connected = true) :
    Refines Eq id (Sql.change p st) (dbExecDms env.answering st) s := by
  refine ends_bind.2 ((statement_ends (dmsSteps_performs st) h hconn).mono fun r v hv => ends_pure.2 ?_)
  refine ⟨hv.sound, hv.connected, ?_⟩
  rcases hv.result with ⟨hok, t, hrun, rfl, -⟩ | herr
  · refine .inl ⟨_, ?_, rfl, rfl⟩
    obtain ⟨d, hd, heq⟩ := Option.map_eq_some_iff.1 hrun
    rw [hok, ← (Prod.mk.inj heq).2]
    exact dbExecDms_accepted rfl hd
  · exact .inr herr

theorem query_refines {q : Query} {p : Prepared} {init : α} {answer : Db → α} (env : Env) (h : s.Sound)
    (hconn : s.connected = true) :
    Refines Eq Prod.fst (Sql.query p init answer) (dbExecQuery env.answering q init answer) s := by
  refine (statement_ends (querySteps_performs init answer) h hconn).mono fun r v hv => ?_
  refine ⟨hv.sound, hv.connected, ?_⟩
  rcases hv.result with ⟨hok, t, hrun, rfl, -⟩ | herr
  · refine .inl ⟨_, ?_, rfl, rfl⟩
    obtain ⟨ret, a⟩ := r
    obtain rfl := hok
    obtain ⟨ha, ht⟩ := Prod.mk.inj (Option.some.inj hrun)
    rw [← ht, show a = answer s.target.db from ha.symm]
    rfl
  · exact .inr herr

/-! ### Ids -/

theorem adds_idRow (pos : Nat) (allocLen id : UInt64) (c : IdCursor) : Adds (Sql.idRow pos allocLen id c) := by
  have hrest : ∀ c' : IdCursor, Adds
      (if c'.addLen < c'.addLen + 8 then pure ({ c' with addLen := c'.addLen + 8 }, true)
        else pure ({ c' with addLen := 0 - 1 }, false) : OsdM (IdCursor × Bool)) :=
    fun c' => adds_ite (adds_pure _) (adds_pure _)
  unfold Sql.idRow
  exact adds_ite (adds_bind (adds_outWrite _ _) fun _ => adds_bind (adds_pure _) hrest)
    (adds_ite (adds_bind (adds_pure _) hrest) (adds_bind (adds_pure _) hrest))

theorem idRtrvlLoop_eq (pos : Nat) (allocLen : UInt64) (ids : List UInt64) (c : IdCursor) :
    idRtrvlLoop pos allocLen ids c = eachRow (Sql.idRow pos allocLen) ids c := by
  induction ids generalizing c with
  | nil => rfl
  | cons id ids ih =>
    have hrest : ∀ c' : IdCursor,
        (if c'.addLen < c'.addLen + 8 then
          idRtrvlLoop pos allocLen ids { c' with addLen := c'.addLen + 8 }
        else pure { c' with addLen := 0 - 1 } : OsdM IdCursor) =
        (if c'.addLen < c'.addLen + 8 then pure ({ c' with addLen := c'.addLen + 8 }, true)
          else pure ({ c' with addLen := 0 - 1 }, false) : OsdM (IdCursor × Bool)) >>= fun x =>
          if x.2 = true then eachRow (Sql.idRow pos allocLen) ids x.1 else pure x.1 := by
      intro c'
      split
      · exact ih _
      · rfl
    show idRtrvlLoop pos allocLen (id :: ids) c = Sql.idRow pos allocLen id c >>= fun x =>
      if x.2 = true then eachRow (Sql.idRow pos allocLen) ids x.1 else pure x.1
    unfold idRtrvlLoop Sql.idRow
    by_cases hroom : 8 ≤ allocLen - c.len
    · rw [if_pos hroom, if_pos hroom, bind_assoc]
      exact bind_congr fun _ => hrest _
    · rw [if_neg hroom, if_neg hroom]
      by_cases hfirst : c.contId = 0
      · rw [if_pos hfirst, if_pos hfirst]
        exact hrest _
      · rw [if_neg hfirst, if_neg hfirst]
        exact hrest _

theorem dbExecIdRtrvlStmt_refines {q : Query} {p : Prepared} {rows : Db → List Int} {allocLen : UInt64} {pos : Nat}
    (env : Env) (h : s.Sound) (hconn : s.connected = true) :
    Refines ButOut Prod.fst (Sql.dbExecIdRtrvlStmt p rows allocLen pos)
      (dbExecIdRtrvlStmt env.answering q rows allocLen pos) s := by
  refine (statement_ends (scanSteps_performs (adds_idRow pos allocLen) _ _) h hconn).mono fun r v hv => ?_
  refine ⟨hv.sound, hv.connected, ?_⟩
  rcases hv.result with ⟨hok, t, hrun, hsame⟩ | herr
  · obtain ⟨ret, c⟩ := r
    obtain rfl := hok
    refine .inl ⟨t, ?_, hsame⟩
    unfold scanned at hrun
    rw [← idRtrvlLoop_eq] at hrun
    have hids : dbExecQuery env.answering q [] (fun d => (ascending (rows d)).map columnInt64) s.target =
        some ((.ok, (ascending (rows s.target.db)).map columnInt64), s.target) := rfl
    unfold dbExecIdRtrvlStmt
    rw [bind_of_some hids]
    show (if Ret.ok ≠ .ok then _ else _ : OsdM (Ret × IdCursor)) s.target = _
    rw [if_neg fun hne => hne rfl, bind_of_some hrun]
    rfl
  · exact .inr herr

/-! ### Attributes -/

theorem adds_lePackAttr (pos : Nat) (buflen page number : UInt32) (valen : UInt16) (val : Option Mem) :
    Adds (lePackAttr env pos buflen page number valen val) := by
  unfold lePackAttr
  split
  · exact adds_pure _
  · exact adds_bind (adds_outWrite _ _) fun _ => adds_pure _

theorem adds_packAttr (listfmt : UInt8) (pos : Nat) (buflen : UInt32) (oid : UInt64) (page number : UInt32)
    (valen : UInt16) (val : Option Mem) : Adds (packAttr env listfmt pos buflen oid page number valen val) := by
  refine adds_ite (adds_lePackAttr _ _ _ _ _ _) (adds_ite (adds_ite (adds_pure _) ?_) (adds_pure _))
  refine adds_bind (adds_outWrite _ _) fun _ => adds_bind (adds_lePackAttr _ _ _ _ _ _) fun r => ?_
  cases r <;> exact adds_pure _

theorem adds_gatherRow (oid : UInt64) (listfmt : UInt8) (r : AttrRow) (x : Sql.Gathering) :
    Adds (Sql.gatherRow env oid listfmt r x) :=
  adds_bind (adds_packAttr _ _ _ _ _ _ _ _) fun _ => adds_pure _

theorem adds_gatherDirRow (oid : UInt64) (page : UInt32) (listfmt : UInt8) (r : Int × List UInt8)
    (x : Sql.Gathering) : Adds (Sql.gatherDirRow env oid page listfmt r x) :=
  adds_ite (adds_pure _) (adds_bind (adds_packAttr _ _ _ _ _ _ _ _) fun _ => adds_pure _)

theorem gatherAttrs_eq (oid : UInt64) (listfmt : UInt8) (rows : List AttrRow) (x : Sql.Gathering) :
    gatherAttrs env oid listfmt rows x.1 x.2.1 x.2.2 =
      (fun y : Sql.Gathering => y.2.2) <$> eachRow (Sql.gatherRow env oid listfmt) rows x := by
  induction rows generalizing x with
  | nil => rfl
  | cons r rows ih =>
    have hrow : eachRow (Sql.gatherRow env oid listfmt) (r :: rows) x =
        packAttr env listfmt x.1 x.2.1.toUInt32 oid (columnInt r.page) (columnInt r.number)
          (UInt16.ofNat r.value.length) (some (blobMem r.value)) >>= fun e =>
            if (Sql.gathered x e).2 = true then
              eachRow (Sql.gatherRow env oid listfmt) rows (Sql.gathered x e).1
            else pure (Sql.gathered x e).1 := by
      show (Sql.gatherRow env oid listfmt r x >>= _) = _
      unfold Sql.gatherRow
      rw [bind_assoc]
      rfl
    rw [hrow, map_bind]
    unfold gatherAttrs
    refine bind_congr fun e => ?_
    cases e with
    | ok ret =>
      rw [if_pos (show (Sql.gathered x (.ok ret)).2 = true from rfl)]
      exact ih (Sql.gathered x (.ok ret)).1
    | error e => cases e <;> rfl

theorem gatherDirPage_eq (oid : UInt64) (page : UInt32) (listfmt : UInt8) (rows : List (Int × List UInt8))
    (x : Sql.Gathering) : gatherDirPage env oid page listfmt rows x.1 x.2.1 x.2.2 =
      (fun y : Sql.Gathering => y.2.2) <$> eachRow (Sql.gatherDirRow env oid page listfmt) rows x := by
  induction rows generalizing x with
  | nil => rfl
  | cons r rows ih =>
    show _ = (fun y : Sql.Gathering => y.2.2) <$> (Sql.gatherDirRow env oid page listfmt r x >>= fun y =>
      if y.2 = true then eachRow (Sql.gatherDirRow env oid page listfmt) rows y.1 else pure y.1)
    obtain ⟨number, value⟩ := r
    unfold gatherDirPage Sql.gatherDirRow
    by_cases hlen : (UInt16.ofNat value.length).toNat ≠ ATTR_PAGE_ID_LEN
    · rw [if_pos hlen, if_pos hlen]
      rfl
    · rw [if_neg hlen, if_neg hlen, bind_assoc, map_bind]
      refine bind_congr fun e => ?_
      cases e with
      | ok ret => exact ih (Sql.gathered x (.ok ret)).1
      | error e => cases e <;> rfl

/-- The loop of `exec_attr_rtrvl_stmt` went over all rows at once, or the answer is `OSD_ERROR`. -/
theorem execAttrRtrvlStmt_ends {ρ : Type} {p : Prepared} {rows : Db → List ρ}
    {body : ρ → Sql.Gathering → OsdM (Sql.Gathering × Bool)} (hbody : ∀ r x, Adds (body r x)) (pos : Nat)
    (outlen : UInt64) (h : s.Sound) (hconn : s.connected = true) :
    Ends (Sql.execAttrRtrvlStmt p rows body pos outlen) s fun r s' => s'.Sound ∧ s'.connected = true ∧
      ((∃ x t, eachRow body (rows s.target.db) (pos, outlen, ⟨0, false, false⟩) s.target = some (x, t) ∧
        r = Sql.rtrvlResult x.2.2 ∧ ButOut t s'.target ∧ s'.target.reply = t.reply) ∨
        (r.1 = .err .osdError ∧ ButOut s.target s'.target)) := by
  refine ends_bind.2 ((statement_ends ((scanSteps_performs hbody rows _).map some) h hconn).mono ?_)
  rintro ⟨ret, o⟩ v hv
  refine ends_pure.2 ⟨hv.sound, hv.connected, ?_⟩
  rcases hv.result with ⟨rfl, t, hrun, hsame⟩ | ⟨rfl, hsame⟩
  · obtain ⟨x, hx, rfl⟩ := map_run.1 hrun
    exact .inl ⟨x, t, hx, rfl, hsame⟩
  · exact .inr ⟨rfl, hsame⟩

theorem attrRtrvl_refines (env : Env) (q : Rtrvl) (pid oid : UInt64) (listfmt : UInt8) (pos : Nat)
    (outlen : UInt64) (h : s.Sound) (hconn : s.connected = true) :
    Refines ButOut Prod.fst (Sql.attrRtrvl env q pid oid listfmt pos outlen)
      (execAttrRtrvlStmt env.answering q pid oid listfmt pos outlen) s := by
  refine (execAttrRtrvlStmt_ends (adds_gatherRow oid listfmt) pos outlen h hconn).mono ?_
  rintro r v ⟨hs, hc, ⟨x, t, hrun, rfl, hsame⟩ | herr⟩
  · refine ⟨hs, hc, .inl ⟨t, ?_, hsame⟩⟩
    have hall : gatherAttrs env.answering oid listfmt (q.rows s.target.db (bindInt64 pid) (bindInt64 oid)) pos
        outlen ⟨0, false, false⟩ s.target = some (x.2.2, t) :=
      (congrFun (gatherAttrs_eq oid listfmt _ (pos, outlen, ⟨0, false, false⟩)) s.target).trans
        (map_run.2 ⟨x, hrun, rfl⟩)
    unfold execAttrRtrvlStmt
    rw [bind_get, if_neg nofun, bind_of_some hall]
    unfold Sql.rtrvlResult
    split
    · rfl
    · split <;> rfl
  · exact ⟨hs, hc, .inr herr⟩

theorem attrGetDirPage_refines (env : Env) (pid oid : UInt64) (page : UInt32) (listfmt : UInt8) (pos : Nat)
    (outlen : UInt64) (h : s.Sound) (hconn : s.connected = true) :
    Refines ButOut Prod.fst (Sql.attrGetDirPage env pid oid page listfmt pos outlen)
      (attrGetDirPage env.answering pid oid page listfmt pos outlen) s := by
  unfold Refines Sql.attrGetDirPage
  refine ends_bind.2 (ends_useStatement h ?_)
  refine ends_ite_of (fun hpage => ends_pure.2 ?_) fun hpage => ?_
  · refine ⟨h, hconn, .inl ⟨s.target, ?_, rfl, rfl⟩⟩
    unfold attrGetDirPage
    rw [if_pos hpage]
    rfl
  · refine (execAttrRtrvlStmt_ends (adds_gatherDirRow oid page listfmt) pos outlen h hconn).mono ?_
    rintro r v ⟨hs, hc, ⟨x, t, hrun, rfl, hsame⟩ | herr⟩
    · refine ⟨hs, hc, .inl ⟨t, ?_, hsame⟩⟩
      have hall : gatherDirPage env.answering oid page listfmt
          (s.target.db.dirpage (bindInt64 pid) (bindInt64 oid)) pos outlen ⟨0, false, false⟩ s.target =
          some (x.2.2, t) :=
        (congrFun (gatherDirPage_eq oid page listfmt _ (pos, outlen, ⟨0, false, false⟩)) s.target).trans
          (map_run.2 ⟨x, hrun, rfl⟩)
      unfold attrGetDirPage
      rw [if_neg hpage, bind_get, if_neg nofun, bind_of_some hall]
      unfold Sql.rtrvlResult
      split
      · rfl
      · split <;> rfl
    · exact ⟨hs, hc, .inr herr⟩

theorem adds_gatherValRow (r : AttrRow) (x : Sql.Gathering × List UInt8) : Adds (Sql.gatherValRow r x) :=
  adds_ite (adds_pure _) (adds_ite (adds_pure _) (adds_pure _))

/-- What is copied of a row that is there. -/
theorem gatherValRow_result (r : AttrRow) (outlen : UInt64) (t : Target) :
    ∃ x, eachRow Sql.gatherValRow [r] ((0, outlen, ⟨0, false, false⟩), []) t = some (x, t) ∧
      Sql.valResult x =
        if outlen.toUInt32.toNat < (UInt16.ofNat r.value.length).toNat then (.err .einval, [])
        else if (UInt16.ofNat r.value.length).toNat = 0 then (.err .enoent, [])
        else (.ok, r.value.take (UInt16.ofNat r.value.length).toNat) := by
  unfold eachRow Sql.gatherValRow
  dsimp only
  split
  · exact ⟨_, rfl, rfl⟩
  · split
    · exact ⟨_, rfl, rfl⟩
    · exact ⟨_, rfl, rfl⟩

theorem attrGetVal_refines (env : Env) (pid oid : UInt64) (page number : UInt32) (outlen : UInt64) (h : s.Sound)
    (hconn : s.connected = true) :
    Refines ButOut Prod.fst (Sql.attrGetVal pid oid page number outlen)
      (attrGetVal env.answering pid oid page number outlen) s := by
  refine ends_bind.2 ((statement_ends (scanSteps_performs adds_gatherValRow _ _) h hconn).mono ?_)
  rintro ⟨ret, x⟩ v hv
  refine ends_pure.2 ⟨hv.sound, hv.connected, ?_⟩
  rcases hv.result with ⟨rfl, t, hrun, hsame⟩ | ⟨rfl, hsame⟩
  · refine .inl ⟨t, ?_, hsame⟩
    rw [if_pos rfl]
    have hrun : eachRow Sql.gatherValRow (s.target.db.attr.find? fun r =>
        r.key = (bindInt64 pid, bindInt64 oid, bindInt page, bindInt number)).toList
        ((0, outlen, ⟨0, false, false⟩), []) s.target = some (x, t) := hrun
    unfold attrGetVal
    have hquery : dbExecQuery env.answering (.attrGetVal (bindInt64 pid) (bindInt64 oid) (bindInt page)
        (bindInt number)) none (fun d => d.attr.find? fun r =>
          r.key = (bindInt64 pid, bindInt64 oid, bindInt page, bindInt number)) s.target =
        some ((.ok, s.target.db.attr.find? fun r =>
          r.key = (bindInt64 pid, bindInt64 oid, bindInt page, bindInt number)), s.target) := rfl
    dsimp only
    rw [bind_of_some hquery]
    cases hfind : s.target.db.attr.find? fun r =>
        r.key = (bindInt64 pid, bindInt64 oid, bindInt page, bindInt number) with
    | none =>
      rw [hfind] at hrun
      cases hrun
      rfl
    | some r =>
      rw [hfind] at hrun
      obtain ⟨y, hy, hresult⟩ := gatherValRow_result r outlen s.target
      obtain ⟨rfl, rfl⟩ := Prod.mk.inj (Option.some.inj (hrun.symm.trans hy))
      rw [hresult]
      dsimp only
      split
      · rfl
      · split <;> rfl
  · exact .inr ⟨rfl, hsame⟩

end Refines

/-- Every function of `obj.c`, `coll.c` and `attr.c` that runs a prepared statement refines the function of
its name. -/
structure SqlRefines (env : Env) (s : Session) : Prop where
  objInsert : ∀ pid oid type,
    Refines Eq id (Sql.objInsert pid oid type) (objInsert env.answering pid oid type) s
  objDelete : ∀ pid oid, Refines Eq id (Sql.objDelete pid oid) (objDelete env.answering pid oid) s
  objDeletePid : ∀ pid, Refines Eq id (Sql.objDeletePid pid) (objDeletePid env.answering pid) s
  objGetNextoid : ∀ pid oid,
    Refines Eq Prod.fst (Sql.objGetNextoid pid oid) (objGetNextoid env.answering pid oid) s
  objGetNextpid : ∀ pid, Refines Eq Prod.fst (Sql.objGetNextpid pid) (objGetNextpid env.answering pid) s
  objIspresent : ∀ pid oid, Refines Eq Prod.fst (Sql.objIspresent pid oid) (objIspresent env.answering pid oid) s
  objIsemptyPid : ∀ pid, Refines Eq Prod.fst (Sql.objIsemptyPid pid) (objIsemptyPid env.answering pid) s
  objGetType : ∀ pid oid, Refines Eq Prod.fst (Sql.objGetType pid oid) (objGetType env.answering pid oid) s
  objGetOidsInPid : ∀ pid initial allocLen pos, Refines ButOut Prod.fst
    (Sql.objGetOidsInPid pid initial allocLen pos) (objGetOidsInPid env.answering pid initial allocLen pos) s
  objGetCidsInPid : ∀ pid initial allocLen pos, Refines ButOut Prod.fst
    (Sql.objGetCidsInPid pid initial allocLen pos) (objGetCidsInPid env.answering pid initial allocLen pos) s
  objGetAllPids : ∀ initial allocLen pos, Refines ButOut Prod.fst
    (Sql.objGetAllPids initial allocLen pos) (objGetAllPids env.answering initial allocLen pos) s
  collInsert : ∀ pid cid oid number,
    Refines Eq id (Sql.collInsert pid cid oid number) (collInsert env.answering pid cid oid number) s
  collCopyoids : ∀ pid dest source,
    Refines Eq id (Sql.collCopyoids pid dest source) (collCopyoids env.answering pid dest source) s
  collDelete : ∀ pid cid oid, Refines Eq id (Sql.collDelete pid cid oid) (collDelete env.answering pid cid oid) s
  collDeleteCid : ∀ pid cid, Refines Eq id (Sql.collDeleteCid pid cid) (collDeleteCid env.answering pid cid) s
  collDeleteOid : ∀ pid oid, Refines Eq id (Sql.collDeleteOid pid oid) (collDeleteOid env.answering pid oid) s
  collIsemptyCid : ∀ pid cid,
    Refines Eq Prod.fst (Sql.collIsemptyCid pid cid) (collIsemptyCid env.answering pid cid) s
  collGetCid : ∀ pid oid number cid, Refines Eq Prod.fst
    (Sql.collGetCid pid oid number cid) (collGetCid env.answering pid oid number cid) s
  collGetOidsInCid : ∀ pid cid initial allocLen pos, Refines ButOut Prod.fst
    (Sql.collGetOidsInCid pid cid initial allocLen pos)
    (collGetOidsInCid env.answering pid cid initial allocLen pos) s
  attrSetAttr : ∀ r, Refines Eq id (Sql.attrSetAttr r) (dbExecDms env.answering (.attrSet r)) s
  attrDeleteAttr : ∀ pid oid page number, Refines Eq id (Sql.attrDeleteAttr pid oid page number)
    (attrDeleteAttr env.answering pid oid page number) s
  attrDeleteAll : ∀ pid oid, Refines Eq id (Sql.attrDeleteAll pid oid) (attrDeleteAll env.answering pid oid) s
  attrRtrvl : ∀ q pid oid listfmt pos outlen, Refines ButOut Prod.fst
    (Sql.attrRtrvl env q pid oid listfmt pos outlen)
    (execAttrRtrvlStmt env.answering q pid oid listfmt pos outlen) s
  attrGetVal : ∀ pid oid page number outlen, Refines ButOut Prod.fst
    (Sql.attrGetVal pid oid page number outlen) (attrGetVal env.answering pid oid page number outlen) s
  attrGetDirPage : ∀ pid oid page listfmt pos outlen, Refines ButOut Prod.fst
    (Sql.attrGetDirPage env pid oid page listfmt pos outlen)
    (attrGetDirPage env.answering pid oid page listfmt pos outlen) s

/-- One call, with the change it was to make and its answer. -/
inductive Called : Session → Option (Dms × Ret) → Session → Prop
  | change {p : Prepared} {st : Dms} {ret : Ret} {s s' : Session} :
    Sql.change p st s = some (ret, s') → Called s (some (st, ret)) s'
  | query {α : Type} {p : Prepared} {init : α} {answer : Db → α} {r : Ret × α} {s s' : Session} :
    Sql.query p init answer s = some (r, s') → Called s none s'
  | ids {p : Prepared} {rows : Db → List Int} {allocLen : UInt64} {pos : Nat} {r : Ret × IdCursor}
    {s s' : Session} : Sql.dbExecIdRtrvlStmt p rows allocLen pos s = some (r, s') → Called s none s'
  | rtrvl {env : Env} {q : Rtrvl} {pid oid : UInt64} {listfmt : UInt8} {pos : Nat} {outlen : UInt64}
    {r : Ret × Option UInt32} {s s' : Session} :
    Sql.attrRtrvl env q pid oid listfmt pos outlen s = some (r, s') → Called s none s'
  | val {pid oid : UInt64} {page number : UInt32} {outlen : UInt64} {r : Ret × List UInt8} {s s' : Session} :
    Sql.attrGetVal pid oid page number outlen s = some (r, s') → Called s none s'
  | dirPage {env : Env} {pid oid : UInt64} {page : UInt32} {listfmt : UInt8} {pos : Nat} {outlen : UInt64}
    {r : Ret × Option UInt32} {s s' : Session} :
    Sql.attrGetDirPage env pid oid page listfmt pos outlen s = some (r, s') → Called s none s'

/-- Calls one after the other, with the changes and their answers. -/
inductive Calls : Session → List (Dms × Ret) → Session → Prop
  | nil {s : Session} : Calls s [] s
  | call {s s' s'' : Session} {l : List (Dms × Ret)} {c : Option (Dms × Ret)} :
    Calls s l s' → Called s' c s'' → Calls s (l ++ c.toList) s''

/-- The changes of these calls that were made, one after the other. -/
def madeOf (l : List (Dms × Ret)) (d : Db) : Option Db :=
  (l.filter fun c => c.2 = .ok).foldlM (fun d c => c.1.run d) d

/-- What a call leaves: its change, if it answers `OSD_OK`. -/
structure Advances (s : Session) (l : List (Dms × Ret)) (s' : Session) : Prop where
  sound : s'.Sound
  connected : s'.connected = true
  tables : madeOf l s.target.db = some s'.target.db
  rest : s'.target = { s.target with db := s'.target.db, out := s'.target.out }
  answers : ∀ c ∈ l, c.2 = .ok ∨ c.2 = .err .osdError

theorem Advances.of_butOut (hs : s'.Sound) (hc : s'.connected = true) (h : ButOut s.target s'.target) :
    Advances s [] s' where
  sound := hs
  connected := hc
  tables := by
    rw [h]
    rfl
  rest := by
    rw [h]
    rfl
  answers := fun _ hc => absurd hc List.not_mem_nil

theorem Settles.butOut {m : OsdM α} {r : Ret × α} (h : Settles ButOut m s r s') (hm : Adds m) :
    ButOut s.target s'.target := by
  rcases h.result with ⟨-, t, hrun, hq, -⟩ | ⟨-, hq⟩
  · obtain ⟨w, ht, -⟩ := hm.run hrun
    rw [ht] at hq
    exact hq
  · exact hq

theorem adds_map {β : Type} {m : OsdM α} {f : α → β} (hm : Adds m) : Adds (f <$> m) := by
  rw [map_eq_pure_bind]
  exact adds_bind hm fun a => adds_pure _

theorem adds_scanned {ρ γ : Type} {body : ρ → γ → OsdM (γ × Bool)} (h : ∀ r c, Adds (body r c))
    (rows : Db → List ρ) (c : γ) : Adds (scanned body rows c) := fun t => adds_eachRow h (rows t.db) c t

/-- A retrieval leaves the device as it was. -/
theorem execAttrRtrvlStmt_advances {ρ : Type} {p : Prepared} {rows : Db → List ρ}
    {body : ρ → Sql.Gathering → OsdM (Sql.Gathering × Bool)} (hbody : ∀ r x, Adds (body r x)) (pos : Nat)
    (outlen : UInt64) (h : s.Sound) (hconn : s.connected = true) :
    Ends (Sql.execAttrRtrvlStmt p rows body pos outlen) s fun _ s' => Advances s [] s' :=
  ends_bind.2 ((statement_ends ((scanSteps_performs hbody rows _).map some) h hconn).mono fun _ _ hv =>
    ends_pure.2 (.of_butOut hv.sound hv.connected (hv.butOut (adds_map (adds_scanned hbody _ _)))))

/-- The value is copied into memory of the caller. -/
theorem attrGetVal_advances (pid oid : UInt64) (page number : UInt32) (outlen : UInt64) (h : s.Sound)
    (hconn : s.connected = true) :
    Ends (Sql.attrGetVal pid oid page number outlen) s fun _ s' => Advances s [] s' :=
  ends_bind.2 ((statement_ends (scanSteps_performs adds_gatherValRow _ _) h hconn).mono fun _ _ hv =>
    ends_pure.2 (.of_butOut hv.sound hv.connected (hv.butOut (adds_scanned adds_gatherValRow _ _))))

theorem change_advances (p : Prepared) (st : Dms) (h : s.Sound) (hconn : s.connected = true) :
    Ends (Sql.change p st) s fun ret s' => Advances s [(st, ret)] s' := by
  refine ends_bind.2 ((statement_ends (dmsSteps_performs st) h hconn).mono fun r v hv => ends_pure.2 ?_)
  rcases hv.result with ⟨hok, t, hrun, rfl, -⟩ | ⟨herr, heq⟩
  · obtain ⟨d, hd, ht⟩ := Option.map_eq_some_iff.1 hrun
    have hdev : v.target = { s.target with db := d } := (Prod.mk.inj ht).2.symm
    refine ⟨hv.sound, hv.connected, ?_, ?_, ?_⟩
    · rw [hdev, hok]
      show (st.run s.target.db).bind (fun d => some d) = some d
      rw [hd]
      rfl
    · rw [hdev]
    · exact fun c hc => .inl (List.mem_singleton.1 hc ▸ hok)
  · refine ⟨hv.sound, hv.connected, ?_, ?_, ?_⟩
    · rw [← heq, herr]
      rfl
    · rw [← heq]
    · exact fun c hc => .inr (List.mem_singleton.1 hc ▸ herr)

theorem query_advances {p : Prepared} {init : α} {answer : Db → α} (h : s.Sound) (hconn : s.connected = true) :
    Ends (Sql.query p init answer) s fun _ s' => Advances s [] s' := by
  refine (statement_ends (querySteps_performs init answer) h hconn).mono fun r v hv => ?_
  refine .of_butOut hv.sound hv.connected ?_
  have heq : s.target = v.target := by
    rcases hv.result with ⟨-, t, hrun, rfl, -⟩ | ⟨-, heq⟩
    · exact (Prod.mk.inj (Option.some.inj hrun)).2
    · exact heq
  rw [heq]
  rfl

theorem dirPage_advances (env : Env) (pid oid : UInt64) (page : UInt32) (listfmt : UInt8) (pos : Nat)
    (outlen : UInt64) (h : s.Sound) (hconn : s.connected = true) :
    Ends (Sql.attrGetDirPage env pid oid page listfmt pos outlen) s fun _ s' => Advances s [] s' := by
  unfold Sql.attrGetDirPage
  refine ends_bind.2 (ends_useStatement h ?_)
  refine ends_ite_of (fun _ => ends_pure.2 (.of_butOut h hconn rfl)) fun _ => ?_
  exact execAttrRtrvlStmt_advances (adds_gatherDirRow _ _ _) _ _ h hconn

/-- **A change is made when it answers `OSD_OK`**, and no call makes another one. -/
theorem Called.advances {c : Option (Dms × Ret)} (hcall : Called s c s') (h : s.Sound) (hconn : s.connected = true) :
    Advances s c.toList s' := by
  cases hcall with
  | change hrun => exact change_advances _ _ h hconn _ _ hrun
  | query hrun => exact query_advances h hconn _ _ hrun
  | ids hrun =>
    have hv := statement_ends (scanSteps_performs (adds_idRow _ _) _ _) h hconn _ _ hrun
    exact .of_butOut hv.sound hv.connected (hv.butOut (adds_scanned (adds_idRow _ _) _ _))
  | rtrvl hrun => exact execAttrRtrvlStmt_advances (adds_gatherRow _ _) _ _ h hconn _ _ hrun
  | val hrun => exact attrGetVal_advances _ _ _ _ _ h hconn _ _ hrun
  | dirPage hrun => exact dirPage_advances _ _ _ _ _ _ _ h hconn _ _ hrun

theorem Advances.then {l l' : List (Dms × Ret)} {v : Session} (h : Advances s l s') (h' : Advances s' l' v) :
    Advances s (l ++ l') v where
  sound := h'.sound
  connected := h'.connected
  tables := by
    have hl : (l.filter fun c => c.2 = .ok).foldlM (fun d c => c.1.run d) s.target.db = some s'.target.db :=
      h.tables
    unfold madeOf
    rw [List.filter_append, List.foldlM_append, hl]
    exact h'.tables
  rest := by
    rw [h'.rest, h.rest]
  answers c hc := (List.mem_append.1 hc).elim (h.answers c) (h'.answers c)

/-- **Every change that answers `OSD_OK` is made exactly once**: after any calls of these functions, however
often SQLite was busy, met another schema or failed, the tables are what the changes answered with `OSD_OK`
make of them in their order, and the rest of the device is as it was but for the reply. -/
theorem calls_advance {l : List (Dms × Ret)} (hrun : Calls s l s') (h : s.Sound) (hconn : s.connected = true) :
    Advances s l s' := by
  induction hrun with
  | nil => exact .of_butOut h hconn rfl
  | call _ hcall ih =>
    exact ih.then (hcall.advances ih.sound ih.connected)

/-- The table is busy and its schema another one before the root is stored. -/
theorem calls_advance_root :
    let s := Session.begun [none, some .schema, none, some .runs] []
    Advances s [(.objInsert ⟨0, 0, .root⟩, .ok)] (s.after (Sql.objInsert 0 0 .root)) := by
  intro s
  have hok : (Sql.objInsert 0 0 .root s).map Prod.fst = some .ok := by decide +kernel
  obtain ⟨⟨ret, s'⟩, hrun, rfl⟩ := Option.map_eq_some_iff.1 hok
  have hafter : s.after (Sql.objInsert 0 0 .root) = s' := by
    rw [Session.after, hrun]
    rfl
  rw [hafter]
  exact calls_advance (.call .nil (.change hrun)) (Session.begun_sound (by decide +kernel)) (by decide +kernel)

/-! ## Whole sessions -/

/-- Without a connection, or without the statement, the assertion of every function fails. -/
theorem statement_never {p : Prepared} {init : α} {work : SessionM (Last × α)}
    (h : s.connected = false ∨ s.tabs p.tab = none) : statement p init work s = none := by
  have huse : useStatement p s = none := by
    unfold useStatement
    split
    · rename_i hconn hslot
      rcases h with h | h
      · rw [h] at hconn
        cases hconn
      · rw [Session.handles, h] at hslot
        cases hslot
    · rfl
  have hexec : execution p init work s = none := bind_of_none huse
  show untilAnswered (execution p init work) (s.steps.length + 1) s = none
  exact bind_of_none hexec

/-- A call that answers has found the connection. -/
theorem Called.connected {c : Option (Dms × Ret)} (h : Called s c s') : s.connected = true := by
  by_contra hno
  have hconn : s.connected = false := Bool.eq_false_iff.2 hno
  have hnever : ∀ {β : Type} {x : β × Session} {f : SessionM β}, f s = none → f s ≠ some x :=
    fun hf hx => Option.some_ne_none _ (hx.symm.trans hf)
  cases h with
  | change hrun => exact hnever (bind_of_none (statement_never (.inl hconn))) hrun
  | query hrun => exact hnever (statement_never (.inl hconn)) hrun
  | ids hrun => exact hnever (statement_never (.inl hconn)) hrun
  | rtrvl hrun => exact hnever (bind_of_none (statement_never (.inl hconn))) hrun
  | val hrun => exact hnever (bind_of_none (statement_never (.inl hconn))) hrun
  | dirPage hrun =>
    have huse : useStatement .attrDirpage s = none := by
      unfold useStatement
      rw [hconn]
    exact hnever (bind_of_none huse) hrun

/-- What happens to a session: a connection is closed or used, or opened where there is none.  `format_osd`
opens another one over a connection when its `stat` finds no database file; that jump is left out. -/
inductive Session.Next : Session → Session → Prop
  | open {file : DbFile} {r : Except Errno ℕ} {s s' : Session} :
    s.connected = false → osdDbOpen file s = some (r, s') → Next s s'
  | close {ret : Ret} {s s' : Session} : osdDbClose s = some (ret, s') → Next s s'
  | call {c : Option (Dms × Ret)} {s s' : Session} : Called s c s' → Next s s'

/-- The sessions that are reached. -/
abbrev Session.Reached : Session → Prop :=
  Reach (fun (_ : Unit) => Session.Next) Session.Unused fun _ _ _ => True

theorem Session.Reached.sound (h : s.Reached) : s.Sound := by
  refine h.invariant (fun t ht => ht.sound) fun _ t t' ht hn _ => ?_
  cases hn with
  | «open» hconn hrun => exact ht.open hconn _ _ _ hrun
  | close hrun => exact (ht.close _ _ hrun).1
  | call hcall => exact (hcall.advances ht hcall.connected).sound

/-- **Prepared statements are neither lost nor kept.**  Whatever was opened where nothing was open, closed
and called, and whatever SQLite refused: what it holds are the statements in the tables, each once, all of
them or none, and none without a connection.  A handle that is gone was used if and only if a statement was
refused that was not the first one of its table. -/
theorem session_statements (h : s.Reached) :
    (∀ n, n ∈ s.pool.live ↔ ∃ T, n ∈ s.handles T) ∧
    (∀ T, (s.handles T).Nodup ∧ ∀ T', T ≠ T' → ∀ n ∈ s.handles T, n ∉ s.handles T') ∧
    ((∀ T, (s.handles T).length = T.prepared.length) ∨ s.pool.live = ∅) ∧
    (s.connected = false → s.pool.live = ∅) ∧
    (s.pool.misused = true ↔ ∃ p ∈ s.refused, p.slot ≠ 0) := by
  have hs := h.sound
  have hempty : s.Bare → s.pool.live = ∅ := fun hb =>
    Finset.eq_empty_of_forall_notMem fun n => hb.live hs.tidy n
  refine ⟨hs.tidy.live, fun T => ⟨hs.tidy.nodup T, hs.tidy.apart T⟩, ?_, fun hc => hempty (hs.closed hc), hs.blamed⟩
  exact hs.tabs.imp (fun hf T => (hf T).2) hempty

theorem Session.begun_reached {steps : List (Option Verdict)} {calls : List Bool}
    (h : (osdDbOpen .absent (Session.unused steps calls)).isSome = true) : (Session.begun steps calls).Reached := by
  obtain ⟨r, hrun⟩ := Session.after_run h
  exact .step () (.start (Session.unused_unused _ _)) (.open rfl hrun) trivial

/-- The schema has changed, and the second statement of the first table is refused. -/
theorem session_statements_refused :
    let s := (Session.begun [some .schema] (List.replicate 41 true ++ [false])).after (Sql.objInsert 0 0 .root)
    s.refused = [.collDelete] ∧ s.pool.misused = true := by
  intro s
  have hbegun : (Session.begun [some .schema] (List.replicate 41 true ++ [false])).Reached :=
    Session.begun_reached (by decide +kernel)
  obtain ⟨ret, hrun⟩ := Session.after_run (m := Sql.objInsert 0 0 .root)
    (s := Session.begun [some .schema] (List.replicate 41 true ++ [false])) (by decide +kernel)
  have hs : s.Reached := .step () hbegun (.call (.change hrun)) trivial
  have hrefused : s.refused = [.collDelete] := by decide +kernel
  refine ⟨hrefused, (session_statements hs).2.2.2.2.2 ⟨.collDelete, ?_, by decide⟩⟩
  rw [hrefused]
  exact List.mem_singleton.2 rfl

end OsdTarget
