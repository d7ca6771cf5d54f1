import OsdTarget.System
import OsdTarget.Base.Pool

/-!
# Prepared statements

`osd_db_open`, `osd_db_close`, `db_initialize` and `db_finalize` of `db.c`, with `*_initialize` and
`*_finalize` of `coll.c`, `obj.c` and `attr.c`: which statements SQLite holds for the connection.  A prepare
that fails leaves NULL behind, and finalizing NULL does nothing, so a table keeps the handles of the
statements prepared so far.  The name of a table is its own, so `*_initialize` always finalizes what is there.
-/

namespace OsdTarget

open Base

/-! ## Statements -/

/-- The tables of `struct db_context`. -/
inductive TabName
  | coll | obj | attr
  deriving DecidableEq, Repr

/-- The statements, under the names of their fields. -/
inductive Prepared
  | collInsert | collDelete | collDelcid | collDeloid | collEmptycid | collGetcid | collGetoids | collCopyoids
  | objInsert | objDelete | objDelpid | objNextoid | objNextpid | objIsprsnt | objEmptypid | objGettype
  | objGetoids | objGetcids | objGetpids
  | attrSetattr | attrDelattr | attrDelall | attrGetattr | attrGetval | attrPgaslst | attrForallpg | attrGetall
  | attrDirpage
  deriving DecidableEq, Repr

/-- The statements of a table, in the order of their preparation. -/
def TabName.prepared : TabName → List Prepared
  | .coll => [.collInsert, .collDelete, .collDelcid, .collDeloid, .collEmptycid, .collGetcid, .collGetoids,
    .collCopyoids]
  | .obj => [.objInsert, .objDelete, .objDelpid, .objNextoid, .objNextpid, .objIsprsnt, .objEmptypid,
    .objGettype, .objGetoids, .objGetcids, .objGetpids]
  | .attr => [.attrSetattr, .attrDelattr, .attrDelall, .attrGetattr, .attrGetval, .attrPgaslst, .attrForallpg,
    .attrGetall, .attrDirpage]

def Prepared.tab : Prepared → TabName
  | .collInsert | .collDelete | .collDelcid | .collDeloid | .collEmptycid | .collGetcid | .collGetoids
  | .collCopyoids => .coll
  | .objInsert | .objDelete | .objDelpid | .objNextoid | .objNextpid | .objIsprsnt | .objEmptypid
  | .objGettype | .objGetoids | .objGetcids | .objGetpids => .obj
  | .attrSetattr | .attrDelattr | .attrDelall | .attrGetattr | .attrGetval | .attrPgaslst | .attrForallpg
  | .attrGetall | .attrDirpage => .attr

/-- The place of the statement in its table. -/
def Prepared.slot (p : Prepared) : ℕ := p.tab.prepared.idxOf p

/-! ## Sessions -/

/-- How a step of a statement goes that is not told to come back later. -/
inductive Verdict
  | runs | schema | fails
  deriving DecidableEq, Repr

/-- A device and its connection to SQLite. -/
structure Session where
  target : Target
  /-- `osd->handle->dbc` is there. -/
  connected : Bool
  /-- The handles in a table of `dbc`; without them the pointer is NULL. -/
  tabs : TabName → Option (List ℕ)
  /-- What SQLite holds. -/
  pool : Pool
  /-- The statements that were refused so far. -/
  refused : List Prepared
  /-- How the coming steps go; `none` is `SQLITE_BUSY`. -/
  steps : List (Option Verdict)
  /-- Whether the coming allocations, prepares and bindings succeed; behind the list all do. -/
  calls : List Bool

abbrev SessionM := StateT Session Option

namespace Session

variable (s : Session)

def setTab (T : TabName) (hs : Option (List ℕ)) : Session :=
  { s with tabs := fun T' => if T' = T then hs else s.tabs T' }

def release (hs : List ℕ) : Session := { s with pool := s.pool.releaseAll hs }

/-- The handles in the table. -/
def handles (T : TabName) : List ℕ := (s.tabs T).getD []

end Session

/-- Whether the next call succeeds. -/
def succeeds : SessionM Bool := do
  let s ← get
  set { s with calls := s.calls.tail }
  return s.calls.headD true

/-- `sqlite3_prepare`: a new handle, or NULL. -/
def sqlite3Prepare (p : Prepared) : SessionM (Option ℕ) := do
  if !(← succeeds) then
    modify fun s => { s with refused := s.refused ++ [p] }
    return none
  let s ← get
  set { s with pool := s.pool.acquire }
  return some s.pool.next

/-! ## Tables -/

/-- `coll_finalize`, `obj_finalize` and `attr_finalize`. -/
def tabFinalize (T : TabName) : SessionM Ret := do
  let s ← get
  match s.tabs T with
  | none => return .err .osdError
  | some hs =>
    set ((s.release hs).setTab T none)
    return .ok

/-- One statement after the other.  When one is refused, those before it are finalized, the last one first,
and the pointers to them stay. -/
def prepareAll (T : TabName) : List Prepared → SessionM Ret
  | [] => return .ok
  | p :: ps => do
    match ← sqlite3Prepare p with
    | some h =>
      modify fun s => s.setTab T (some (s.handles T ++ [h]))
      prepareAll T ps
    | none =>
      modify fun s => s.release (s.handles T).reverse
      return .err .eio

/-- `coll_initialize`, `obj_initialize` and `attr_initialize`. -/
def tabInitialize (T : TabName) : SessionM Ret := do
  if ((← get).tabs T).isSome then
    let _ ← tabFinalize T
  if !(← succeeds) then
    return .err .enomem
  modify fun s => s.setTab T (some [])
  -- the name of the table
  if !(← succeeds) then
    return .err .enomem
  prepareAll T T.prepared

/-! ## The connection -/

def dbInitialize : SessionM Ret := do
  let ret ← tabInitialize .coll
  if ret ≠ .ok then
    let _ ← tabFinalize .coll
    return ret
  let ret ← tabInitialize .obj
  if ret ≠ .ok then
    let _ ← tabFinalize .obj
    let _ ← tabFinalize .coll
    return ret
  let ret ← tabInitialize .attr
  if ret ≠ .ok then
    let _ ← tabFinalize .attr
    let _ ← tabFinalize .obj
    let _ ← tabFinalize .coll
    return ret
  return .ok

def dbFinalize : SessionM Ret := do
  let a ← tabFinalize .coll
  let b ← tabFinalize .obj
  let c ← tabFinalize .attr
  if a = .ok ∧ b = .ok ∧ c = .ok then
    return .ok
  return .err .osdError

/-- What `stat` says about the file of the database. -/
inductive DbFile
  | regular | other | absent | unreadable
  deriving DecidableEq, Repr

/-- `osd_db_open`, with 1 for a new database; no file at all and one that is not regular give the same
number, but there is no connection to the latter. -/
def osdDbOpen (file : DbFile) : SessionM (Except Errno ℕ) := do
  match file with
  | .other => return .ok 1
  | .unreadable => return .error .osdError
  | _ =>
  if !(← succeeds) then
    return .error .enomem
  -- `sqlite3_open`
  if !(← succeeds) then
    return .error .osdError
  -- the schema is run, or its tables are looked for
  if !(← succeeds) then
    return .error .osdError
  if file = .absent then
    modify fun s => { s with target := { s.target with db := ⟨[], [], []⟩ } }
  modify fun s => { s with connected := true, tabs := fun _ => none }
  if (← dbInitialize) ≠ .ok then
    modify fun s => { s with connected := false }
    return .error .osdError
  return .ok (if file = .absent then 1 else 0)

/-- `osd_db_close`; without a connection its assertion fails. -/
def osdDbClose : SessionM Ret := do
  if !(← get).connected then
    fun _ => none
  let _ ← dbFinalize
  modify fun s => { s with connected := false }
  return .ok

/-! ## Order -/

variable {s s' : Session} {T : TabName}

theorem nodup_prepared (T : TabName) : T.prepared.Nodup := by
  cases T <;> decide

theorem tab_of_mem {p : Prepared} (h : p ∈ T.prepared) : p.tab = T := by
  cases T <;> revert h <;> cases p <;> decide

theorem slot_eq {done rest : List Prepared} {p : Prepared} (h : T.prepared = done ++ p :: rest) :
    p.slot = done.length := by
  have hmem : p ∈ T.prepared := h ▸ List.mem_append_right _ List.mem_cons_self
  have hnodup : (done ++ p :: rest).Nodup := h ▸ nodup_prepared T
  have hno : p ∉ done := fun hp => (List.nodup_append.1 hnodup).2.2 p hp p List.mem_cons_self rfl
  rw [Prepared.slot, tab_of_mem hmem, h, List.idxOf_append_of_notMem hno, List.idxOf_cons_self,
    Nat.add_zero]

namespace Session

@[simp] theorem handles_setTab (hs : Option (List ℕ)) (T' : TabName) :
    (s.setTab T hs).handles T' = if T' = T then hs.getD [] else s.handles T' := by
  show (if T' = T then hs else s.tabs T').getD [] = _
  split <;> rfl

/-- Every handle that SQLite holds is in one table, once. -/
structure Tidy (s : Session) : Prop where
  fresh : s.pool.Fresh
  nodup : ∀ T, (s.handles T).Nodup
  apart : ∀ T T', T ≠ T' → ∀ h ∈ s.handles T, h ∉ s.handles T'
  live : ∀ h, h ∈ s.pool.live ↔ ∃ T, h ∈ s.handles T

/-- The device and the answers of SQLite are as they were. -/
structure SameDevice (s s' : Session) : Prop where
  target : s'.target = s.target
  connected : s'.connected = s.connected
  steps : s'.steps = s.steps

theorem SameDevice.refl (s : Session) : SameDevice s s := ⟨rfl, rfl, rfl⟩

theorem SameDevice.trans {v : Session} (h : SameDevice s s') (h' : SameDevice s' v) : SameDevice s v :=
  ⟨h'.target.trans h.target, h'.connected.trans h.connected, h'.steps.trans h.steps⟩

theorem Tidy.of_eq (h : Tidy s) (hh : s'.handles = s.handles) (hpool : s'.pool = s.pool) : Tidy s' :=
  ⟨hpool ▸ h.fresh, hh ▸ h.nodup, hh ▸ h.apart, by rw [hpool, hh]; exact h.live⟩

/-- A table with nothing in it is like none. -/
theorem handles_setTab_empty (h : s.handles T = []) {hs : Option (List ℕ)} (hhs : hs.getD [] = []) :
    (s.setTab T hs).handles = s.handles := by
  funext T'
  rw [handles_setTab]
  split
  · subst_vars
    rw [hhs, h]
  · rfl

/-- A statement is added to a table. -/
theorem Tidy.add (h : Tidy s) (T : TabName) :
    Tidy ({ s with pool := s.pool.acquire }.setTab T (some (s.handles T ++ [s.pool.next]))) := by
  have hnew : ∀ T', s.pool.next ∉ s.handles T' :=
    fun T' hmem => h.fresh.next_notMem ((h.live _).2 ⟨T', hmem⟩)
  have hother : ∀ {T'} n, T' ≠ T → n ∈ s.handles T' → n ∉ s.handles T ++ [s.pool.next] := by
    intro T' n hT hn hmem
    rcases List.mem_append.1 hmem with hmem | hmem
    · exact h.apart T' T hT n hn hmem
    · rw [List.mem_singleton.1 hmem] at hn
      exact hnew T' hn
  constructor
  · exact h.fresh.acquire
  · intro T'
    rw [handles_setTab]
    split
    · exact List.nodup_append.2 ⟨h.nodup T, List.nodup_singleton _, fun a ha b hb hab =>
        hnew T (by rw [← List.mem_singleton.1 hb, ← hab]; exact ha)⟩
    · exact h.nodup T'
  · intro T₁ T₂ hT n hn
    rw [handles_setTab] at hn ⊢
    split at hn <;> split
    · exact absurd (by simp only [*]) hT
    · rename_i heq hne
      exact fun hmem => hother n hne hmem hn
    · rename_i hne _
      exact hother n hne hn
    · exact h.apart T₁ T₂ hT n hn
  · intro n
    show n ∈ insert s.pool.next s.pool.live ↔ _
    rw [Finset.mem_insert, h.live]
    constructor
    · rintro (rfl | ⟨T', hn⟩)
      · exact ⟨T, by rw [handles_setTab, if_pos rfl]; exact List.mem_append_right _ (List.mem_singleton.2 rfl)⟩
      · refine ⟨T', ?_⟩
        rw [handles_setTab]
        split
        · subst_vars
          exact List.mem_append_left _ hn
        · exact hn
    · rintro ⟨T', hn⟩
      rw [handles_setTab] at hn
      split at hn
      · rcases List.mem_append.1 hn with hn | hn
        · exact .inr ⟨T, hn⟩
        · exact .inl (List.mem_singleton.1 hn)
      · exact .inr ⟨T', hn⟩

/-- The handles of a table are given back, and forgotten. -/
theorem Tidy.drop (h : Tidy s) (T : TabName) {l : List ℕ} (hl : ∀ n, n ∈ l ↔ n ∈ s.handles T) :
    Tidy ((s.release l).setTab T none) := by
  constructor
  · exact h.fresh.releaseAll _
  · intro T'
    rw [handles_setTab]
    split
    · exact List.nodup_nil
    · exact h.nodup T'
  · intro T₁ T₂ hT n hn
    rw [handles_setTab] at hn ⊢
    split at hn
    · exact absurd hn List.not_mem_nil
    · split
      · exact List.not_mem_nil
      · exact h.apart T₁ T₂ hT n hn
  · intro n
    show n ∈ (s.pool.releaseAll l).live ↔ _
    rw [Pool.mem_live_releaseAll, h.live, hl]
    constructor
    · rintro ⟨⟨T', hn⟩, hno⟩
      refine ⟨T', ?_⟩
      rw [handles_setTab, if_neg]
      · exact hn
      · rintro rfl
        exact hno hn
    · rintro ⟨T', hn⟩
      rw [handles_setTab] at hn
      split at hn
      · exact absurd hn List.not_mem_nil
      · rename_i hne
        exact ⟨⟨T', hn⟩, h.apart T' T hne n hn⟩

end Session

/-! ## Preparing -/

theorem tabFinalize_run (T : TabName) (s : Session) : tabFinalize T s =
    some (if (s.tabs T).isSome then .ok else .err .osdError, (s.release (s.handles T)).setTab T none) := by
  unfold tabFinalize
  rw [bind_get]
  cases h : s.tabs T with
  | some hs =>
    rw [Session.handles, h]
    rfl
  | none =>
    have hself : (s.release (s.handles T)).setTab T none = s := by
      have htabs : (fun T' => if T' = T then none else s.tabs T') = s.tabs := by
        funext T'
        split
        · subst_vars
          exact h.symm
        · rfl
      rw [Session.handles, h]
      show { s with tabs := fun T' => if T' = T then none else s.tabs T' } = s
      rw [htabs]
    rw [hself]
    rfl

/-- What `*_initialize` of a table that is not there leads to.  After a failure the pointers to finalized
statements are still in the table, if another than the first one was refused. -/
structure Prepares (T : TabName) (s : Session) (ret : Ret) (s' : Session) : Prop where
  device : s.SameDevice s'
  others : ∀ T', T' ≠ T → s'.tabs T' = s.tabs T'
  misused : s'.pool.misused = s.pool.misused
  result :
    (ret = .ok ∧ s'.Tidy ∧ (s'.tabs T).isSome = true ∧ (s'.handles T).length = T.prepared.length ∧
      s'.refused = s.refused) ∨
    (ret ≠ .ok ∧ (s'.setTab T none).Tidy ∧ (∀ h ∈ s'.handles T, h ∉ s'.pool.live) ∧
      ∃ l, s'.refused = s.refused ++ l ∧ (s'.handles T ≠ [] ↔ ∃ p ∈ l, p.slot ≠ 0))

theorem Prepares.of_answered {v : Session} {ret : Ret} (h : Prepares T v ret s') (hv : s.SameDevice v)
    (hothers : ∀ T', T' ≠ T → v.tabs T' = s.tabs T') (hmisused : v.pool.misused = s.pool.misused)
    (hrefused : v.refused = s.refused) : Prepares T s ret s' where
  device := hv.trans h.device
  others T' hT := (h.others T' hT).trans (hothers T' hT)
  misused := h.misused.trans hmisused
  result := hrefused ▸ h.result

theorem ends_succeeds {Q : Bool → Session → Prop}
    (h : Q (s.calls.headD true) { s with calls := s.calls.tail }) : Ends succeeds s Q :=
  ends_bind.2 (ends_get.2 (ends_bind.2 (ends_set.2 (ends_pure.2 h))))

theorem prepareAll_ends (done : List Prepared) {rest : List Prepared} (hT : T.prepared = done ++ rest) (h : s.Tidy)
    (hsome : (s.tabs T).isSome = true) (hlen : (s.handles T).length = done.length) :
    Ends (prepareAll T rest) s (Prepares T s) := by
  induction rest generalizing s done with
  | nil =>
    refine ends_pure.2 ⟨.refl s, fun _ _ => rfl, rfl, .inl ⟨rfl, h, hsome, ?_, rfl⟩⟩
    rw [hlen, hT, List.append_nil]
  | cons p rest ih =>
    have hskip : Session.Tidy { s with calls := s.calls.tail } := h.of_eq rfl rfl
    refine ends_bind.2 (ends_bind.2 (ends_succeeds (ends_ite_of (fun _ => ?_) fun _ => ?_)))
    · -- the statement is refused
      refine ends_bind.2 (ends_modify.2 (ends_pure.2 (ends_bind.2 (ends_modify.2 (ends_pure.2 ?_)))))
      have hlive : ∀ n ∈ s.handles T, n ∈ s.pool.live := fun n hn => (h.live n).2 ⟨T, hn⟩
      refine ⟨⟨rfl, rfl, rfl⟩, fun _ _ => rfl, ?_, .inr ⟨nofun, ?_, ?_, [p], rfl, ?_⟩⟩
      · have hno : ¬ ((s.handles T).reverse.Nodup ∧ ∀ n ∈ (s.handles T).reverse, n ∈ s.pool.live) → False :=
          fun hc => hc ⟨List.nodup_reverse.2 (h.nodup T), fun n hn => hlive n (List.mem_reverse.1 hn)⟩
        exact Bool.eq_iff_iff.2 (Pool.misused_releaseAll.trans (or_iff_left hno))
      · have hrefused : Session.Tidy { s with calls := s.calls.tail, refused := s.refused ++ [p] } :=
          h.of_eq rfl rfl
        exact hrefused.drop T fun n => List.mem_reverse
      · intro n hn hmem
        exact (Pool.mem_live_releaseAll.1 hmem).2 (List.mem_reverse.2 hn)
      · have hiff : s.handles T ≠ [] ↔ p.slot ≠ 0 := by
          rw [slot_eq hT, ← hlen]
          exact not_congr List.length_eq_zero_iff.symm
        exact hiff.trans (by simp)
    · refine ends_bind.2 (ends_get.2 (ends_bind.2 (ends_set.2 (ends_pure.2 (ends_bind.2 (ends_modify.2 ?_))))))
      refine (ih (done ++ [p]) (by rw [hT, List.append_assoc]; rfl) (hskip.add T) ?_ ?_).mono
        fun ret v hv => hv.of_answered ⟨rfl, rfl, rfl⟩ (fun T' hne => ?_) rfl rfl
      · show (if T = T then some (s.handles T ++ [s.pool.next]) else s.tabs T).isSome = true
        rw [if_pos rfl]
        rfl
      · rw [Session.handles_setTab, if_pos rfl]
        show (s.handles T ++ [s.pool.next]).length = _
        rw [List.length_append, List.length_append, hlen]
        rfl
      · exact if_neg hne

/-- Nothing is in the table. -/
theorem tabInitialize_ends (h : s.Tidy) (hnone : s.tabs T = none) :
    Ends (tabInitialize T) s (Prepares T s) := by
  have hh : s.handles T = [] := by
    rw [Session.handles, hnone]
    rfl
  refine ends_bind.2 (ends_get.2 (ends_ite_of (fun hsome => ?_) fun _ => ?_))
  · rw [hnone] at hsome
    exact absurd hsome nofun
  · have hempty : ∀ {hs : Option (List ℕ)} (l : List Bool), hs.getD [] = [] →
        Session.Tidy (Session.setTab { s with calls := l } T hs) := fun l hhs =>
      h.of_eq (Session.handles_setTab_empty (s := { s with calls := l }) hh hhs) rfl
    have hstop : ∀ {v : Session} {e : Errno} (l : List Bool), v = { s with calls := l } ∨
        v = Session.setTab { s with calls := l } T (some []) → Prepares T s (.err e) v := by
      rintro v e l hv
      have hv' : v.handles T = [] := by
        rcases hv with rfl | rfl
        · exact hh
        · rw [Session.handles_setTab, if_pos rfl]
          rfl
      have hgone : v.setTab T none = Session.setTab { s with calls := l } T none := by
        rcases hv with rfl | rfl
        · rfl
        · unfold Session.setTab
          congr 1
          funext T'
          dsimp only
          split <;> rfl
      have hsame : v.pool = s.pool ∧ v.refused = s.refused ∧ s.SameDevice v ∧
          ∀ T', T' ≠ T → v.tabs T' = s.tabs T' := by
        rcases hv with rfl | rfl
        · exact ⟨rfl, rfl, ⟨rfl, rfl, rfl⟩, fun _ _ => rfl⟩
        · exact ⟨rfl, rfl, ⟨rfl, rfl, rfl⟩, fun T' hne => if_neg hne⟩
      refine ⟨hsame.2.2.1, hsame.2.2.2, congrArg Pool.misused hsame.1, .inr ⟨nofun, ?_, ?_, [], ?_, ?_⟩⟩
      · rw [hgone]
        exact hempty l rfl
      · rw [hv']
        exact fun _ hn => absurd hn List.not_mem_nil
      · rw [hsame.2.1, List.append_nil]
      · rw [hv']
        exact iff_of_false (fun hc => hc rfl) fun ⟨_, hp, _⟩ => List.not_mem_nil hp
    refine ends_bind.2 (ends_succeeds (ends_ite_of (fun _ => ends_pure.2 (hstop _ (.inl rfl))) fun _ => ?_))
    refine ends_bind.2 (ends_modify.2 (ends_bind.2 (ends_succeeds
      (ends_ite_of (fun _ => ends_pure.2 (hstop (e := .enomem) s.calls.tail.tail (.inr rfl))) fun _ => ?_))))
    refine (prepareAll_ends [] rfl (hempty s.calls.tail.tail rfl) ?_ ?_).mono fun ret v hv =>
      hv.of_answered ⟨rfl, rfl, rfl⟩ (fun T' hne => if_neg hne) rfl rfl
    · show (if T = T then some [] else s.tabs T).isSome = true
      rw [if_pos rfl]
      rfl
    · rw [Session.handles_setTab, if_pos rfl]
      rfl

/-! ## Connecting -/

namespace Session

/-- What is done to the statements: a handle is misused for each refused one that was not the first of its
table. -/
structure Blames (s s' : Session) : Prop where
  device : s.SameDevice s'
  misused : ∃ l, s'.refused = s.refused ++ l ∧
    (s'.pool.misused = true ↔ s.pool.misused = true ∨ ∃ p ∈ l, p.slot ≠ 0)

theorem Blames.of_same (h : s.SameDevice s') (hr : s'.refused = s.refused)
    (hm : s'.pool.misused = s.pool.misused) : Blames s s' where
  device := h
  misused := ⟨[], by rw [hr, List.append_nil], by rw [hm]; simp⟩

theorem Blames.trans {v : Session} (h : Blames s s') (h' : Blames s' v) : Blames s v where
  device := h.device.trans h'.device
  misused := by
    obtain ⟨l, hl, hm⟩ := h.misused
    obtain ⟨l', hl', hm'⟩ := h'.misused
    refine ⟨l ++ l', by rw [hl', hl, List.append_assoc], ?_⟩
    rw [hm', hm, or_assoc]
    simp only [List.mem_append, or_and_right, exists_or]

/-- Every table has its statements. -/
def Full (s : Session) : Prop :=
  ∀ T, (s.tabs T).isSome = true ∧ (s.handles T).length = T.prepared.length

/-- No table is there. -/
def Bare (s : Session) : Prop := ∀ T, s.tabs T = none

theorem Bare.live (h : s.Bare) (ht : s.Tidy) (n : ℕ) : n ∉ s.pool.live := by
  rw [ht.live]
  rintro ⟨T, hn⟩
  rw [handles, h T] at hn
  exact List.not_mem_nil hn

/-- The state after `*_finalize`. -/
def finalized (s : Session) (T : TabName) : Session := (s.release (s.handles T)).setTab T none

theorem tabs_finalized (T T' : TabName) : (s.finalized T).tabs T' = if T' = T then none else s.tabs T' := rfl

theorem Tidy.finalized (h : s.Tidy) (T : TabName) : (s.finalized T).Tidy := h.drop T fun _ => Iff.rfl

theorem Tidy.blames (h : s.Tidy) (T : TabName) : Blames s (s.finalized T) := by
  refine .of_same ⟨rfl, rfl, rfl⟩ rfl (Bool.eq_iff_iff.2 (Pool.misused_releaseAll.trans (or_iff_left ?_)))
  exact fun hc => hc ⟨h.nodup T, fun n hn => (h.live n).2 ⟨T, hn⟩⟩

end Session

theorem Prepares.done {ret : Ret} (h : Prepares T s ret s') (hret : ret = .ok) :
    s'.Tidy ∧ s.Blames s' ∧ (s'.tabs T).isSome = true ∧ (s'.handles T).length = T.prepared.length := by
  rcases h.result with ⟨-, ht, hsome, hlen, hr⟩ | ⟨hne, -⟩
  · exact ⟨ht, .of_same h.device hr h.misused, hsome, hlen⟩
  · exact absurd hret hne

/-- A table whose preparation failed is finalized: a handle it still has is misused. -/
theorem Prepares.finalized {ret : Ret} (h : Prepares T s ret s') (hret : ret ≠ .ok) :
    (s'.finalized T).Tidy ∧ s.Blames (s'.finalized T) := by
  rcases h.result with ⟨heq, -⟩ | ⟨-, ht, hdead, l, hl, hiff⟩
  · exact absurd heq hret
  refine ⟨⟨ht.fresh.releaseAll _, ht.nodup, ht.apart, fun n => ?_⟩, h.device.trans ⟨rfl, rfl, rfl⟩, l, hl, ?_⟩
  · refine Iff.trans ?_ (ht.live n)
    exact Pool.mem_live_releaseAll.trans (and_iff_left_of_imp fun hn hmem => hdead n hmem hn)
  · refine Pool.misused_releaseAll.trans ?_
    rw [h.misused]
    refine or_congr_right (Iff.trans ?_ hiff)
    constructor
    · rintro hc hnil
      rw [hnil] at hc
      exact hc ⟨List.nodup_nil, fun _ hn => absurd hn List.not_mem_nil⟩
    · intro hne hc
      obtain ⟨n, hn⟩ := List.exists_mem_of_ne_nil _ hne
      exact hdead n hn (hc.2 n hn)

/-- What `db_initialize` leads to. -/
structure Initializes (s : Session) (ret : Ret) (s' : Session) : Prop where
  blames : s.Blames s'
  tidy : s'.Tidy
  full : ret = .ok → s'.Full
  bare : ret ≠ .ok → s'.Bare

theorem ends_tabFinalize {Q : Ret → Session → Prop} (h : ∀ ret, Q ret (s.finalized T)) :
    Ends (tabFinalize T) s Q := by
  intro ret v hrun
  rw [tabFinalize_run] at hrun
  cases hrun
  exact h _

/-- **All statements are prepared, or none is left.** -/
theorem dbInitialize_ends (h : s.Tidy) (hbare : s.Bare) : Ends dbInitialize s (Initializes s) := by
  have hnone : ∀ {v : Session} {ret : Ret} {T'}, (∀ T, v.tabs T = none) → v.Tidy → s.Blames v → ret ≠ .ok →
      T' = ret → Initializes s T' v := by
    rintro v ret _ hv ht hb hret rfl
    exact ⟨hb, ht, fun heq => absurd heq hret, fun _ => hv⟩
  refine ends_call (tabInitialize_ends h (hbare .coll)) fun ret v hv => ends_ite_of (fun hret => ?_) fun hret => ?_
  · obtain ⟨ht, hb⟩ := hv.finalized hret
    refine ends_bind.2 (ends_tabFinalize fun _ => ends_pure.2 (hnone (fun T => ?_) ht hb hret rfl))
    rw [Session.tabs_finalized]
    split
    · rfl
    · rename_i hne
      exact (hv.others T hne).trans (hbare T)
  obtain ⟨htv, hbv, hvsome, hvlen⟩ := hv.done (Decidable.not_not.1 hret)
  have hvobj : v.tabs .obj = none := (hv.others .obj nofun).trans (hbare _)
  refine ends_call (tabInitialize_ends htv hvobj) fun ret w hw => ends_ite_of (fun hret => ?_) fun hret => ?_
  · obtain ⟨ht, hb⟩ := hw.finalized hret
    refine ends_bind.2 (ends_tabFinalize fun _ => ends_bind.2 (ends_tabFinalize fun _ => ends_pure.2
      (hnone (fun T => ?_) (ht.finalized _) (hbv.trans (hb.trans (ht.blames _))) hret rfl)))
    cases T with
    | coll | obj => rfl
    | attr => exact (hw.others .attr nofun).trans ((hv.others .attr nofun).trans (hbare _))
  obtain ⟨htw, hbw, hwsome, hwlen⟩ := hw.done (Decidable.not_not.1 hret)
  have hwattr : w.tabs .attr = none :=
    (hw.others .attr nofun).trans ((hv.others .attr nofun).trans (hbare _))
  refine ends_call (tabInitialize_ends htw hwattr) fun ret u hu => ends_ite_of (fun hret => ?_) fun hret => ?_
  · obtain ⟨ht, hb⟩ := hu.finalized hret
    refine ends_bind.2 (ends_tabFinalize fun _ => ends_bind.2 (ends_tabFinalize fun _ =>
      ends_bind.2 (ends_tabFinalize fun _ => ends_pure.2 (hnone (fun T => ?_) ((ht.finalized _).finalized _)
        (hbv.trans (hbw.trans (hb.trans ((ht.blames _).trans ((ht.finalized _).blames _))))) hret rfl))))
    cases T <;> rfl
  obtain ⟨htu, hbu, husome, hulen⟩ := hu.done (Decidable.not_not.1 hret)
  refine ends_pure.2 ⟨hbv.trans (hbw.trans hbu), htu, fun _ T => ?_, fun hne => absurd rfl hne⟩
  have hcoll : u.tabs .coll = v.tabs .coll := (hu.others .coll nofun).trans (hw.others .coll nofun)
  have hobj : u.tabs .obj = w.tabs .obj := hu.others .obj nofun
  cases T with
  | coll => rw [Session.handles, hcoll]; exact ⟨hvsome, hvlen⟩
  | obj => rw [Session.handles, hobj]; exact ⟨hwsome, hwlen⟩
  | attr => exact ⟨husome, hulen⟩

/-- What `db_finalize` leads to. -/
def Session.closed (s : Session) : Session := ((s.finalized .coll).finalized .obj).finalized .attr

theorem ends_dbFinalize {Q : Ret → Session → Prop} (h : ∀ ret, Q ret s.closed) : Ends dbFinalize s Q :=
  ends_bind.2 (ends_tabFinalize fun _ => ends_bind.2 (ends_tabFinalize fun _ => ends_bind.2
    (ends_tabFinalize fun _ => ends_ite_of (fun _ => ends_pure.2 (h _)) fun _ => ends_pure.2 (h _))))

namespace Session

theorem bare_closed (s : Session) : s.closed.Bare := fun T => by cases T <;> rfl

theorem Tidy.closed (h : s.Tidy) : s.closed.Tidy := ((h.finalized _).finalized _).finalized _

theorem Tidy.blames_closed (h : s.Tidy) : s.Blames s.closed :=
  (h.blames _).trans (((h.finalized _).blames _).trans (((h.finalized _).finalized _).blames _))

/-! ## Between calls -/

/-- The statements of a session between the calls of its functions. -/
structure Sound (s : Session) : Prop where
  tidy : s.Tidy
  tabs : s.Full ∨ s.Bare
  closed : s.connected = false → s.Bare
  blamed : s.pool.misused = true ↔ ∃ p ∈ s.refused, p.slot ≠ 0

/-- Only handles and what SQLite was asked matter. -/
theorem Sound.of_eq (h : s.Sound) (htabs : s'.tabs = s.tabs) (hpool : s'.pool = s.pool)
    (hrefused : s'.refused = s.refused) (hconn : s'.connected = s.connected) : s'.Sound := by
  have hh : s'.handles = s.handles := by
    unfold handles
    rw [htabs]
  refine ⟨h.tidy.of_eq hh hpool, ?_, ?_, by rw [hpool, hrefused]; exact h.blamed⟩
  · unfold Full Bare
    rw [htabs, hh]
    exact h.tabs
  · rw [hconn]
    unfold Bare
    rw [htabs]
    exact h.closed

theorem Blames.blamed (h : Blames s s') (hs : s.pool.misused = true ↔ ∃ p ∈ s.refused, p.slot ≠ 0) :
    s'.pool.misused = true ↔ ∃ p ∈ s'.refused, p.slot ≠ 0 := by
  obtain ⟨l, hl, hm⟩ := h.misused
  rw [hm, hs, hl]
  simp only [List.mem_append, or_and_right, exists_or]

end Session

/-- **Prepared anew, the statements are all there, or the connection has none.** -/
theorem Session.Sound.initialized (h : s.Sound) (hbare : s.Bare) (hconn : s.connected = true) :
    Ends dbInitialize s fun ret s' => s'.Sound ∧ Initializes s ret s' :=
  (dbInitialize_ends h.tidy hbare).mono fun ret v hv => by
    refine ⟨⟨hv.tidy, ?_, fun hc => ?_, hv.blames.blamed h.blamed⟩, hv⟩
    · by_cases hret : ret = .ok
      · exact .inl (hv.full hret)
      · exact .inr (hv.bare hret)
    · rw [hv.blames.device.connected, hconn] at hc
      cases hc

theorem Session.Sound.finalize (h : s.Sound) : s.closed.Sound :=
  ⟨h.tidy.closed, .inr s.bare_closed, fun _ => s.bare_closed, h.tidy.blames_closed.blamed h.blamed⟩

/-- A connection is opened where there is none. -/
theorem Session.Sound.open (h : s.Sound) (hconn : s.connected = false) (file : DbFile) :
    Ends (osdDbOpen file) s fun _ s' => s'.Sound := by
  have hbare := h.closed hconn
  unfold osdDbOpen
  split
  · exact ends_pure.2 h
  · exact ends_pure.2 h
  · have hskip : ∀ l, Session.Sound { s with calls := l } := fun l => h.of_eq rfl rfl rfl rfl
    have hrest : ∀ l d, Ends (modify (fun s : Session => { s with connected := true, tabs := fun _ => none }) >>=
        fun _ => dbInitialize >>= fun ret =>
          if ret ≠ .ok then
            modify (fun s : Session => { s with connected := false }) >>= fun _ =>
              (pure (.error .osdError) : SessionM (Except Errno ℕ))
          else pure (.ok (if file = .absent then 1 else 0)))
        { s with calls := l, target := d } fun _ s' => s'.Sound := by
      intro l d
      have hnone : s.tabs = fun _ => none := funext hbare
      have hconnected : Session.Sound
          { s with calls := l, target := d, connected := true, tabs := fun _ => none } :=
        ⟨h.tidy.of_eq (by unfold Session.handles; rw [hnone]) rfl, .inr fun _ => rfl, nofun, h.blamed⟩
      refine ends_bind.2 (ends_modify.2 ?_)
      refine ends_call (hconnected.initialized (fun _ => rfl) rfl) fun ret v hv =>
        ends_ite_of (fun hret => ?_) fun _ => ends_pure.2 hv.1
      exact ends_bind.2 (ends_modify.2 (ends_pure.2
        ⟨hv.2.tidy.of_eq rfl rfl, .inr (hv.2.bare hret), fun _ => hv.2.bare hret, hv.2.blames.blamed h.blamed⟩))
    refine ends_bind.2 (ends_succeeds (ends_ite_of (fun _ => ends_pure.2 (hskip _)) fun _ => ?_))
    refine ends_bind.2 (ends_succeeds (ends_ite_of (fun _ => ends_pure.2 (hskip _)) fun _ => ?_))
    refine ends_bind.2 (ends_succeeds (ends_ite_of (fun _ => ends_pure.2 (hskip _)) fun _ => ?_))
    refine ends_ite_of (fun _ => ends_bind.2 (ends_modify.2 (hrest _ _))) fun _ => hrest _ _

theorem Session.Sound.close (h : s.Sound) : Ends osdDbClose s fun _ s' => s'.Sound ∧ s'.connected = false := by
  refine ends_bind.2 (ends_get.2 (ends_ite_of (fun _ => ends_bind.2 (ends_never.2 trivial)) fun _ => ?_))
  refine ends_bind.2 (ends_dbFinalize fun _ => ends_bind.2 (ends_modify.2 (ends_pure.2 ⟨?_, rfl⟩)))
  have hc := h.finalize
  exact ⟨hc.tidy.of_eq rfl rfl, .inr s.bare_closed, fun _ => s.bare_closed, hc.blamed⟩

/-! ## The first session -/

/-- Nothing was asked of SQLite so far. -/
structure Session.Unused (s : Session) : Prop where
  connected : s.connected = false
  tabs : ∀ T, s.tabs T = none
  pool : s.pool.live = ∅
  misused : s.pool.misused = false
  refused : s.refused = []

theorem Session.Unused.sound (h : s.Unused) : s.Sound := by
  have hh : ∀ T, s.handles T = [] := fun T => by
    rw [Session.handles, h.tabs T]
    rfl
  refine ⟨⟨?_, ?_, ?_, ?_⟩, .inr h.tabs, fun _ => h.tabs, ?_⟩
  · intro n hn
    rw [h.pool] at hn
    exact absurd hn (Finset.notMem_empty _)
  · exact fun T => hh T ▸ List.nodup_nil
  · exact fun T _ _ n hn => absurd (hh T ▸ hn) List.not_mem_nil
  · intro n
    rw [h.pool]
    exact iff_of_false (Finset.notMem_empty _) fun ⟨T, hn⟩ => List.not_mem_nil (hh T ▸ hn)
  · rw [h.misused, h.refused]
    exact iff_of_false nofun fun ⟨_, hp, _⟩ => List.not_mem_nil hp

/-- A session that has not begun, before these answers. -/
def Session.unused (steps : List (Option Verdict)) (calls : List Bool) : Session where
  target := Target.blank
  connected := false
  tabs _ := none
  pool := ⟨∅, 0, false⟩
  refused := []
  steps := steps
  calls := calls

theorem Session.unused_unused (steps : List (Option Verdict)) (calls : List Bool) :
    (Session.unused steps calls).Unused := ⟨rfl, fun _ => rfl, rfl, rfl, rfl⟩

/-- The state a program leads to; one that does not return leaves the state alone. -/
def Session.after {α : Type} (s : Session) (m : SessionM α) : Session := ((m s).map Prod.snd).getD s

theorem Session.after_run {α : Type} {m : SessionM α} (h : (m s).isSome = true) :
    ∃ a, m s = some (a, s.after m) := by
  obtain ⟨⟨a, s'⟩, hrun⟩ := Option.isSome_iff_exists.1 h
  refine ⟨a, ?_⟩
  rw [Session.after, hrun]
  rfl

/-- A new database is opened. -/
def Session.begun (steps : List (Option Verdict)) (calls : List Bool) : Session :=
  (Session.unused steps calls).after (osdDbOpen .absent)

theorem Session.begun_sound {steps : List (Option Verdict)} {calls : List Bool}
    (h : (osdDbOpen .absent (Session.unused steps calls)).isSome = true) : (Session.begun steps calls).Sound := by
  obtain ⟨r, hrun⟩ := Session.after_run h
  exact (Session.unused_unused steps calls).sound.open rfl _ _ _ hrun

end OsdTarget
