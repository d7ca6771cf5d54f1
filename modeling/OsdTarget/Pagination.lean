import OsdTarget.Listing
import OsdTarget.Reply
import OsdTarget.System

/-!
# Listing page by page

A client lists ids by asking again and again, each time from the continuation id it got.  The ids of
all pages, one page behind the other, are those that match.
-/

namespace OsdTarget

open Base

/-! ## The loop over the ids -/

/-- What `idRtrvlLoop` comes to from the cursor `c` on. -/
structure IdsStored (pos : Nat) (alloc : UInt64) (ids : List UInt64) (c c' : IdCursor) (s s' : Target)
    (k : Nat) : Prop where
  count : k = min ids.length ((alloc.toNat - c.len.toNat) / 8)
  len : c'.len.toNat = c.len.toNat + 8 * k
  addLen : c'.addLen.toNat = c.addLen.toNat + 8 * ids.length
  contId : c'.contId = if c.contId = 0 then ((ids.drop k).find? (· ≠ 0)).getD 0 else c.contId
  stored : Emits (pos + c.len.toNat) ((ids.take k).flatMap htonll) s s'
  db : s'.db = s.db

section Loop

variable {s : Target} {pos : Nat} {alloc : UInt64}

theorem add8_toNat {x : UInt64} (h : x.toNat + 8 < 2 ^ 64) : (x + 8).toNat = x.toNat + 8 := by
  rw [UInt64.toNat_add]
  exact Nat.mod_eq_of_lt h

/-- **The loop stores the ids that fit, counts all of them, and keeps the first id it leaves out.** -/
theorem idRtrvlLoop_run (pos : Nat) (alloc : UInt64) (ids : List UInt64) {c : IdCursor}
    (hlen : c.len ≤ alloc)
    (hadd : c.addLen.toNat + 8 * ids.length < 2 ^ 64) :
    ∃ c' s' k, idRtrvlLoop pos alloc ids c s = some (c', s') ∧ IdsStored pos alloc ids c c' s s' k := by
  induction ids generalizing c s with
  | nil =>
    refine ⟨c, s, 0, rfl, (Nat.zero_min _).symm, rfl, rfl, ?_, .refl _ _, rfl⟩
    by_cases h : c.contId = 0
    · rw [if_pos h]
      exact h
    · rw [if_neg h]
  | cons id ids ih =>
    rw [List.length_cons] at hadd
    have hadd8 := add8_toNat (show c.addLen.toNat + 8 < 2 ^ 64 by omega)
    have hgrow : c.addLen < c.addLen + 8 := UInt64.lt_iff_toNat_lt.2 (by omega)
    rw [UInt64.le_iff_toNat_le] at hlen
    have hsub : (alloc - c.len).toNat = alloc.toNat - c.len.toNat :=
      UInt64.toNat_sub_of_le _ _ (UInt64.le_iff_toNat_le.2 hlen)
    have hroom : 8 ≤ alloc - c.len ↔ 8 ≤ alloc.toNat - c.len.toNat := by
      rw [UInt64.le_iff_toNat_le, hsub]
      rfl
    rw [idRtrvlLoop]
    by_cases hfit : 8 ≤ alloc - c.len
    · -- the id is stored
      have hlt := alloc.toNat_lt
      have hr := hroom.1 hfit
      have hlen8 := add8_toNat (show c.len.toNat + 8 < 2 ^ 64 by omega)
      let c₁ : IdCursor := { c with len := c.len + 8 }
      let s₁ : Target := { s with out := s.out ++ [(pos + c.len.toNat, htonll id)] }
      obtain ⟨c', s', k, hrun, h⟩ := ih (c := { c₁ with addLen := c.addLen + 8 }) (s := s₁)
        (UInt64.le_iff_toNat_le.2 (by show (c.len + 8).toNat ≤ _; omega))
        (by show (c.addLen + 8).toNat + _ < _; omega)
      have hcount := h.count
      have hl := h.len
      have ha := h.addLen
      dsimp only [c₁] at hcount hl ha
      have hw : outWrite (pos + c.len.toNat) (htonll id) s = some ((), s₁) := rfl
      have hp : (pure c₁ : OsdM IdCursor) s₁ = some (c₁, s₁) := rfl
      rw [if_pos hfit, bind_of_some hw, bind_of_some hp]
      dsimp only [c₁]
      rw [if_pos hgrow]
      refine ⟨c', s', k + 1, hrun, ?_, by omega, ?_, ?_, ?_, h.db⟩
      · rw [List.length_cons]
        omega
      · rw [List.length_cons]
        omega
      · rw [List.drop_succ_cons]
        exact h.contId
      · rw [List.take_succ_cons, List.flatMap_cons]
        have hpos : pos + c₁.len.toNat = pos + c.len.toNat + (htonll id).length := by
          rw [htonll_length]
          show pos + (c.len + 8).toNat = _
          omega
        exact (Emits.write _ _ s).append (hpos ▸ h.stored)
    · -- no room, for this id or any after it
      have hr := mt hroom.2 hfit
      let c₁ : IdCursor := { c with contId := if c.contId = 0 then id else c.contId }
      obtain ⟨c', s', k, hrun, h⟩ := ih (c := { c₁ with addLen := c.addLen + 8 }) (s := s)
        (UInt64.le_iff_toNat_le.2 hlen) (by show (c.addLen + 8).toNat + _ < _; omega)
      have hk : k = 0 := by
        have hcount := h.count
        dsimp only [c₁] at hcount
        omega
      subst hk
      have hp : (if c.contId = 0 then pure { c with contId := id } else pure c : OsdM IdCursor) s
          = some (c₁, s) := by
        by_cases h0 : c.contId = 0
        · rw [if_pos h0]
          exact congrArg (fun x => some (x, s)) (by simp only [c₁, if_pos h0])
        · rw [if_neg h0]
          exact congrArg (fun x => some (x, s)) (by simp only [c₁, if_neg h0])
      rw [if_neg hfit, ← apply_ite (fun m : OsdM IdCursor => m >>= _), bind_of_some hp]
      dsimp only [c₁]
      rw [if_pos hgrow]
      refine ⟨c', s', 0, hrun, by omega, h.len, ?_, ?_, h.stored, h.db⟩
      · have ha := h.addLen
        dsimp only [c₁] at ha
        rw [List.length_cons]
        omega
      · rw [h.contId, List.drop_zero, List.drop_zero]
        dsimp only [c₁]
        by_cases h0 : c.contId = 0 <;> by_cases hid : id = 0 <;> simp [h0, hid]

end Loop

/-! ## One page -/

/-- The two commands as they are called for ids: without attributes and without a list to go on. -/
inductive ListCommand
  | list (pid : UInt64)
  | listCollection (pid cid : UInt64)
  deriving DecidableEq, Repr

def ListCommand.call (env : Env) (alloc initial : UInt64) : ListCommand → OsdM (Ret × Option UInt64)
  | .list pid => osdList env 0 pid alloc initial [] 0
  | .listCollection pid cid => osdListCollection env 0 pid cid alloc initial 0

/-- A reply as the client reads it. -/
structure ListPage where
  initial : UInt64
  used : UInt64
  addLen : UInt64
  contId : UInt64
  ids : List UInt64
  deriving DecidableEq, Repr

def readPage (initial used : UInt64) (reply : Mem) : ListPage where
  initial := initial
  used := used
  addLen := getNtohll reply 0
  contId := getNtohll reply 8
  ids := (List.range ((used.toNat - 24) / 8)).map fun i => getNtohll reply (24 + 8 * i)

/-- One call, with a reply buffer of its own. -/
def ListCommand.page (c : ListCommand) (env : Env) (alloc initial : UInt64) (s : Target) :
    Option (ListPage × Target) :=
  match c.call env alloc initial (s.withOut []) with
  | some ((.ok, some used), s') => some (readPage initial used s'.reply, s')
  | _ => none

/-- Call after call, each from the continuation id of the one before, at most `n` of them. -/
def ListCommand.pages (c : ListCommand) (env : Env) (alloc : UInt64) :
    Nat → UInt64 → Target → Option (List ListPage)
  | 0, _, _ => none
  | n + 1, initial, s => do
    let (p, s') ← c.page env alloc initial s
    if p.contId = 0 then some [p]
    else
      let rest ← pages c env alloc n p.contId s'
      some (p :: rest)

/-! ## What matches -/

/-- The ids a command is asked for: partitions, user objects, collections or members. -/
def ListCommand.Lists (d : Db) (z : Int) : ListCommand → Prop
  | .list pid =>
    if pid = 0 then d.HasType z 0 .partition else d.HasType (bindInt64 pid) z .userobject
  | .listCollection pid cid =>
    if cid = 0 then d.HasType (bindInt64 pid) z .collection
    else ∃ r ∈ d.coll, r.pid = bindInt64 pid ∧ r.cid = bindInt64 cid ∧ r.oid = z

/-- What a device state has that can be listed: the primary keys, ids below 2^63, and no more rows than
an SQLite file holds. -/
structure Listable (d : Db) : Prop where
  objKeys : (d.obj.map ObjRow.key).Nodup
  collKeys : (d.coll.map CollRow.key).Nodup
  objIds : ∀ r ∈ d.obj, 0 ≤ r.pid ∧ r.pid < 2 ^ 63 ∧ 0 ≤ r.oid ∧ r.oid < 2 ^ 63
  collIds : ∀ r ∈ d.coll, 0 ≤ r.oid ∧ r.oid < 2 ^ 63
  rows : d.obj.length < 2 ^ 60 ∧ d.coll.length < 2 ^ 60

/-- The query of a command, and its rows. -/
def ListCommand.query (initial : UInt64) : ListCommand → Query
  | .list pid => if pid = 0 then .objGetPids (bindInt64 initial)
    else .objGetOids (bindInt64 pid) .userobject (bindInt64 initial)
  | .listCollection pid cid => if cid = 0 then .objGetOids (bindInt64 pid) .collection (bindInt64 initial)
    else .collGetOids (bindInt64 pid) (bindInt64 cid) (bindInt64 initial)

def ListCommand.rows (initial : UInt64) (d : Db) : ListCommand → List Int
  | .list pid =>
    if pid = 0 then (d.obj.filter fun r =>
      r.oid = 0 ∧ r.type = .partition ∧ bindInt64 initial ≤ r.pid).map ObjRow.pid
    else (d.obj.filter fun r =>
      r.pid = bindInt64 pid ∧ r.type = .userobject ∧ bindInt64 initial ≤ r.oid).map ObjRow.oid
  | .listCollection pid cid =>
    if cid = 0 then (d.obj.filter fun r =>
      r.pid = bindInt64 pid ∧ r.type = .collection ∧ bindInt64 initial ≤ r.oid).map ObjRow.oid
    else (d.coll.filter fun r =>
      r.pid = bindInt64 pid ∧ r.cid = bindInt64 cid ∧ bindInt64 initial ≤ r.oid).map CollRow.oid

/-- What both commands do once their arguments are checked. -/
def listIds (env : Env) (q : Query) (rows : Db → List Int) (alloc : UInt64) (headerLen : UInt64 → UInt64)
    (ccap : Ccap) (err : Ret) : OsdM (Ret × Option UInt64) := do
  outWrite 0 (List.replicate 24 0)
  outWrite 23 [0x84]
  let (ret, c) ← dbExecIdRtrvlStmt env q rows (alloc - 24) 24
  if ret ≠ .ok then
    return (err, none)
  outWrite 0 (htonll (headerLen c.addLen))
  outWrite 8 (htonll c.contId)
  setCcap ccap
  return (.ok, some (c.len + 24))

section Page

variable {env : Env} {s : Target} {c : ListCommand} {alloc initial : UInt64}

theorem ListCommand.call_eq (c : ListCommand) (env : Env) (initial : UInt64) (h0 : alloc ≠ 0)
    (h24 : ¬ alloc < 24) :
    ∃ headerLen ccap err, (∀ x : UInt64, x.toNat + 16 < 2 ^ 64 → headerLen x = x + 16) ∧
      c.call env alloc initial
        = listIds env (c.query initial) (fun d => c.rows initial d) alloc headerLen ccap err := by
  cases c with
  | list pid =>
    refine ⟨addHeaderLen, fillCcap .partition pid PARTITION_OID 0, hwErr pid initial, fun x hx => ?_, ?_⟩
    · have hlt : x < x + 16 := by
        rw [UInt64.lt_iff_toNat_lt, UInt64.toNat_add]
        show x.toNat < (x.toNat + 16) % 2 ^ 64
        omega
      rw [addHeaderLen, if_pos hlt]
    · show osdList env 0 pid alloc initial [] 0 = _
      unfold osdList
      rw [if_neg h0, if_neg h24]
      by_cases hp : pid = 0
      · simp only [ListCommand.query, ListCommand.rows, hp, if_true]
        rfl
      · simp only [ListCommand.query, ListCommand.rows, hp, if_false]
        rfl
  | listCollection pid cid =>
    refine ⟨(· + 16), fillCcap .collection pid COLLECTION_OID_LB 0, hwErr pid initial, fun _ _ => rfl, ?_⟩
    show osdListCollection env 0 pid cid alloc initial 0 = _
    unfold osdListCollection
    rw [if_neg h0, if_neg h24]
    by_cases hc : cid = 0
    · simp only [ListCommand.query, ListCommand.rows, hc, if_true]
      rfl
    · simp only [ListCommand.query, ListCommand.rows, hc, if_false]
      rfl

/-- Ids stored one behind the other are read back. -/
theorem read_ids {m : Mem} {pos : Nat} {ids : List UInt64}
    (h : m.read pos (ids.flatMap htonll).length = ids.flatMap htonll) :
    (List.range ids.length).map (fun i => getNtohll m (pos + 8 * i)) = ids := by
  induction ids generalizing pos with
  | nil => rfl
  | cons id ids ih =>
    obtain ⟨hid, hrest⟩ := Mem.read_append.1 h
    rw [htonll_length] at hid hrest
    rw [List.length_cons, List.range_succ_eq_map, List.map_cons, List.map_map, Nat.mul_zero, Nat.add_zero,
      getNtohll_of_read hid]
    refine congrArg _ (.trans (List.map_congr_left fun i _ => ?_) (ih hrest))
    show getNtohll m (pos + 8 * (i + 1)) = getNtohll m (pos + 8 + 8 * i)
    congr 1
    omega

/-- What a page of the ids `ids` is: as many as fit, and the first that does not. -/
structure IsPage (alloc initial : UInt64) (l : List UInt64) (p : ListPage) : Prop where
  initial : p.initial = initial
  ids : p.ids = l.take ((alloc.toNat - 24) / 8)
  contId : p.contId = ((l.drop ((alloc.toNat - 24) / 8)).find? (· ≠ 0)).getD 0
  addLen : p.addLen.toNat = 16 + 8 * l.length
  used : p.used ≤ alloc

/-- **One call reports a page.** -/
theorem ListCommand.page_run (h24 : 24 ≤ alloc.toNat) (hq : env.queryFails (c.query initial) s.db = false)
    (hrows : 16 + 8 * (c.rows initial s.db).length < 2 ^ 64) :
    ∃ p s', c.page env alloc initial s = some (p, s') ∧ s'.db = s.db ∧
      IsPage alloc initial ((ascending (c.rows initial s.db)).map columnInt64) p := by
  have h24' : (24 : UInt64) ≤ alloc := UInt64.le_iff_toNat_le.2 h24
  have h0 : alloc ≠ 0 := by
    rintro rfl
    exact absurd h24' (by decide)
  have hsub : (alloc - 24).toNat = alloc.toNat - 24 := UInt64.toNat_sub_of_le _ _ h24'
  have halloc := alloc.toNat_lt
  obtain ⟨headerLen, ccap, err, hheader, hcall⟩ :=
    c.call_eq env initial h0 (UInt64.not_lt.2 h24')
  generalize hl : (ascending (c.rows initial s.db)).map columnInt64 = l
  have hlen : l.length = (c.rows initial s.db).length := by
    rw [← hl, List.length_map, length_ascending]
  let s₁ : Target := { s with out := [(0, List.replicate 24 0), (23, [0x84])] }
  obtain ⟨cur, s₂, k, hloop, h⟩ := idRtrvlLoop_run 24 (alloc - 24) l (s := s₁)
    (c := ⟨0, 0, 0⟩) (UInt64.le_iff_toNat_le.2 (Nat.zero_le _)) (by show 0 + _ < _; omega)
  have hexec : dbExecIdRtrvlStmt env (c.query initial) (fun d => c.rows initial d) (alloc - 24) 24 s₁
      = some ((.ok, cur), s₂) := by
    have hquery : dbExecQuery env (c.query initial) []
        (fun d => (ascending (c.rows initial d)).map columnInt64) s₁ = some ((.ok, l), s₁) := by
      show (if env.queryFails _ s.db = true then _ else _ : OsdM _) s₁ = _
      rw [if_neg (by simp [hq]), ← hl]
      rfl
    unfold dbExecIdRtrvlStmt
    rw [bind_of_some hquery]
    dsimp only
    rw [if_neg (by simp), bind_of_some hloop]
    rfl
  let s' : Target := { s₂ with out := s₂.out ++ [(0, htonll (headerLen cur.addLen))] ++ [(8, htonll cur.contId)],
                               ccap := ccap }
  have hrun : c.call env alloc initial (s.withOut []) = some ((.ok, some (cur.len + 24)), s') := by
    rw [hcall]
    unfold listIds
    have h1 : outWrite 0 (List.replicate 24 0) (s.withOut []) = some ((), _) := rfl
    have h2 : outWrite 23 [0x84] { s with out := [(0, List.replicate 24 0)] } = some ((), s₁) := rfl
    rw [bind_of_some h1]
    refine (bind_of_some h2).trans ?_
    rw [bind_of_some hexec]
    rfl
  have hcur : cur.addLen.toNat = 8 * l.length := h.addLen.trans (Nat.zero_add _)
  have hcount : k = min l.length ((alloc.toNat - 24) / 8) := hsub ▸ h.count
  have hused : (cur.len + 24).toNat = 24 + 8 * k := by
    have hk : cur.len.toNat = 0 + 8 * k := h.len
    rw [UInt64.toNat_add, hk]
    show (0 + 8 * k + 24) % 2 ^ 64 = _
    omega
  have hreply : s'.reply = (s₂.reply.write 0 (htonll (headerLen cur.addLen))).write 8
      (htonll cur.contId) := by
    show List.foldl _ _ (s₂.out ++ [(0, _)] ++ [(8, _)]) = _
    rw [List.foldl_append, List.foldl_append]
    rfl
  have hpage : c.page env alloc initial s = some (readPage initial (cur.len + 24) s'.reply, s') := by
    unfold ListCommand.page
    rw [hrun]
  have hlen8 : ∀ x, (htonll x).length = 8 := htonll_length
  refine ⟨_, s', hpage, h.db, rfl, ?_, ?_, ?_, ?_⟩
  · -- the ids lie behind the header, which is stored after them
    have hcut : l.take k = l.take ((alloc.toNat - 24) / 8) := by
      rw [hcount, Nat.min_comm]
      exact List.take_eq_take_min.symm
    have hk : (l.take k).length = k := by
      rw [List.length_take]
      omega
    have hread : s'.reply.read 24 ((l.take k).flatMap htonll).length = (l.take k).flatMap htonll := by
      rw [hreply, Mem.read_write_of_disjoint (.inr (by rw [hlen8]; omega)),
        Mem.read_write_of_disjoint (.inr (by rw [hlen8]; omega))]
      exact h.stored.content
    have hn : ((cur.len + 24).toNat - 24) / 8 = (l.take k).length := by
      rw [hused, hk]
      omega
    show (List.range (((cur.len + 24).toNat - 24) / 8)).map (fun i => getNtohll s'.reply (24 + 8 * i)) = _
    rw [hn, read_ids hread, hcut]
  · have hread : s'.reply.read 8 8 = htonll cur.contId := by
      rw [hreply]
      conv_lhs => rw [← hlen8 cur.contId]
      exact Mem.read_write_self _ _ _
    have hcut : l.drop k = l.drop ((alloc.toNat - 24) / 8) := by
      rw [hcount, Nat.min_comm]
      exact List.drop_eq_drop_min.symm
    show getNtohll s'.reply 8 = _
    rw [getNtohll_of_read hread, h.contId, hcut]
    rfl
  · have hread : s'.reply.read 0 8 = htonll (headerLen cur.addLen) := by
      rw [hreply, Mem.read_write_of_disjoint (.inl (by omega))]
      conv_lhs => rw [← hlen8 (headerLen cur.addLen)]
      exact Mem.read_write_self _ _ _
    show (getNtohll s'.reply 0).toNat = _
    rw [getNtohll_of_read hread, hheader _ (by omega), UInt64.toNat_add, hcur]
    show (8 * l.length + 16) % 2 ^ 64 = _
    omega
  · rw [UInt64.le_iff_toNat_le]
    show (cur.len + 24).toNat ≤ _
    omega

end Page

/-! ## All pages -/

section Pages

variable {env : Env} {d : Db} {c : ListCommand} {alloc initial : UInt64}

theorem mem_objIds {pid m z : Int} {type : ObjType} :
    z ∈ (d.obj.filter fun r => r.pid = pid ∧ r.type = type ∧ m ≤ r.oid).map ObjRow.oid ↔
      d.HasType pid z type ∧ m ≤ z := by
  constructor
  · intro h
    obtain ⟨⟨p, o, t⟩, hr, rfl⟩ := List.mem_map.1 h
    obtain ⟨hmem, hcond⟩ := List.mem_filter.1 hr
    obtain ⟨rfl, rfl, hle⟩ := of_decide_eq_true hcond
    exact ⟨hmem, hle⟩
  · rintro ⟨hmem, hle⟩
    exact List.mem_map.2 ⟨_, List.mem_filter.2 ⟨hmem, decide_eq_true ⟨rfl, rfl, hle⟩⟩, rfl⟩

/-- The rows of the query are the ids that match, from the initial id on. -/
theorem ListCommand.mem_rows {z : Int} : z ∈ c.rows initial d ↔ c.Lists d z ∧ bindInt64 initial ≤ z := by
  cases c with
  | list pid =>
    show (z ∈ if pid = 0 then _ else _) ↔ (if pid = 0 then _ else _) ∧ _
    by_cases hp : pid = 0
    · rw [if_pos hp, if_pos hp]
      constructor
      · intro h
        obtain ⟨⟨p, o, t⟩, hr, rfl⟩ := List.mem_map.1 h
        obtain ⟨hmem, hcond⟩ := List.mem_filter.1 hr
        obtain ⟨rfl, rfl, hle⟩ := of_decide_eq_true hcond
        exact ⟨hmem, hle⟩
      · rintro ⟨hmem, hle⟩
        exact List.mem_map.2 ⟨_, List.mem_filter.2 ⟨hmem, decide_eq_true ⟨rfl, rfl, hle⟩⟩, rfl⟩
    · rw [if_neg hp, if_neg hp]
      exact mem_objIds
  | listCollection pid cid =>
    show (z ∈ if cid = 0 then _ else _) ↔ (if cid = 0 then _ else _) ∧ _
    by_cases hc : cid = 0
    · rw [if_pos hc, if_pos hc]
      exact mem_objIds
    · rw [if_neg hc, if_neg hc]
      constructor
      · intro h
        obtain ⟨r, hr, rfl⟩ := List.mem_map.1 h
        obtain ⟨hmem, hcond⟩ := List.mem_filter.1 hr
        obtain ⟨hpid, hcid, hle⟩ := of_decide_eq_true hcond
        exact ⟨⟨r, hmem, hpid, hcid, rfl⟩, hle⟩
      · rintro ⟨⟨r, hmem, hpid, hcid, rfl⟩, hle⟩
        exact List.mem_map.2 ⟨r, List.mem_filter.2 ⟨hmem, decide_eq_true ⟨hpid, hcid, hle⟩⟩, rfl⟩

theorem nodup_objIds (h : Listable d) {pid m : Int} {type : ObjType} :
    ((d.obj.filter fun r => r.pid = pid ∧ r.type = type ∧ m ≤ r.oid).map ObjRow.oid).Nodup := by
  refine nodup_column h.objKeys fun r r' hr hr' he => ?_
  exact Prod.ext ((of_decide_eq_true hr).1.trans (of_decide_eq_true hr').1.symm) he

theorem ListCommand.nodup_rows (h : Listable d) : (c.rows initial d).Nodup := by
  cases c with
  | list pid =>
    show (if pid = 0 then _ else _ : List Int).Nodup
    by_cases hp : pid = 0
    · rw [if_pos hp]
      refine nodup_column h.objKeys fun r r' hr hr' he => ?_
      exact Prod.ext he ((of_decide_eq_true hr).1.trans (of_decide_eq_true hr').1.symm)
    · rw [if_neg hp]
      exact nodup_objIds h
  | listCollection pid cid =>
    show (if cid = 0 then _ else _ : List Int).Nodup
    by_cases hc : cid = 0
    · rw [if_pos hc]
      exact nodup_objIds h
    · rw [if_neg hc]
      refine nodup_column h.collKeys fun r r' hr hr' he => ?_
      obtain ⟨hp, hc, -⟩ := of_decide_eq_true hr
      obtain ⟨hp', hc', -⟩ := of_decide_eq_true hr'
      exact Prod.ext (hp.trans hp'.symm) (Prod.ext (hc.trans hc'.symm) he)

theorem ListCommand.length_rows (h : Listable d) : (c.rows initial d).length < 2 ^ 60 := by
  have hobj : ∀ p : ObjRow → Bool, (d.obj.filter p).length < 2 ^ 60 :=
    fun p => (List.length_filter_le _ _).trans_lt h.rows.1
  cases c with
  | list pid =>
    show (if pid = 0 then _ else _ : List Int).length < _
    split
    · rw [List.length_map]
      exact hobj _
    · rw [List.length_map]
      exact hobj _
  | listCollection pid cid =>
    show (if cid = 0 then _ else _ : List Int).length < _
    split
    · rw [List.length_map]
      exact hobj _
    · rw [List.length_map]
      exact (List.length_filter_le _ _).trans_lt h.rows.2

theorem ListCommand.Lists.bounds (h : Listable d) {z : Int} (hz : c.Lists d z) : 0 ≤ z ∧ z < 2 ^ 63 := by
  cases c with
  | list pid =>
    replace hz : if pid = 0 then _ else _ := hz
    split at hz
    · exact ⟨(h.objIds _ hz).1, (h.objIds _ hz).2.1⟩
    · exact (h.objIds _ hz).2.2
  | listCollection pid cid =>
    replace hz : if cid = 0 then _ else _ := hz
    split at hz
    · exact (h.objIds _ hz).2.2
    · obtain ⟨r, hr, -, -, rfl⟩ := hz
      exact h.collIds r hr

/-- The ids in the columns and as the client sees them. -/
theorem listedId {z : Int} (h : 0 ≤ z ∧ z < 2 ^ 63) :
    bindInt64 (columnInt64 z) = z ∧ (columnInt64 z).toNat = z.toNat :=
  ⟨bindInt64_columnInt64 (by omega) h.2, columnInt64_toNat h.1 (by omega)⟩

/-- All ids from the initial id on, ascending. -/
def ListCommand.ids (c : ListCommand) (d : Db) (initial : UInt64) : List Int := ascending (c.rows initial d)

theorem ListCommand.mem_ids {z : Int} : z ∈ c.ids d initial ↔ c.Lists d z ∧ bindInt64 initial ≤ z :=
  mem_ascending.trans c.mem_rows

theorem ListCommand.pairwise_ids (h : Listable d) : (c.ids d initial).Pairwise (· < ·) :=
  (sortedLT_ascending (c.nodup_rows h)).pairwise

/-- What is left behind a page are the ids from the first of them on. -/
theorem ListCommand.ids_drop (h : Listable d) {k : Nat} {z : Int} {rest : List Int}
    (hd : (c.ids d initial).drop k = z :: rest) :
    c.ids d (columnInt64 z) = (c.ids d initial).drop k := by
  have hz : z ∈ c.ids d initial := List.mem_of_mem_drop (hd ▸ List.mem_cons_self)
  obtain ⟨hlists, hle⟩ := ListCommand.mem_ids.1 hz
  refine (c.pairwise_ids h).sortedLT.eq_of_mem_iff (c.pairwise_ids h).drop.sortedLT fun x => ?_
  rw [mem_drop_iff (c.pairwise_ids h).sortedLT hd, ListCommand.mem_ids, ListCommand.mem_ids,
    (listedId (hlists.bounds h)).1]
  exact ⟨fun ⟨hx, hzx⟩ => ⟨⟨hx, hle.trans hzx⟩, hzx⟩, fun ⟨⟨hx, _⟩, hzx⟩ => ⟨hx, hzx⟩⟩

/-- An id that does not fit is not 0: there is room for the first. -/
theorem ListCommand.cont_ne_zero (h : Listable d) {k : Nat} {z : Int} {rest : List Int} (hk : 1 ≤ k)
    (hd : (c.ids d initial).drop k = z :: rest) : columnInt64 z ≠ 0 := by
  have hz : z ∈ c.ids d initial := List.mem_of_mem_drop (hd ▸ List.mem_cons_self)
  have hb := (ListCommand.mem_ids.1 hz).1.bounds h
  obtain ⟨y, hy, hlt⟩ : ∃ y ∈ c.ids d initial, y < z := by
    have hp : (c.ids d initial).Pairwise (· < ·) := c.pairwise_ids h
    rw [← List.take_append_drop k (c.ids d initial), List.pairwise_append] at hp
    cases hl : c.ids d initial with
    | nil =>
      rw [hl] at hz
      cases hz
    | cons y l =>
      refine ⟨y, List.mem_cons_self, hp.2.2 y ?_ z (hd ▸ List.mem_cons_self)⟩
      obtain ⟨k, rfl⟩ := Nat.exists_eq_add_of_le' hk
      rw [hl, List.take_succ_cons]
      exact List.mem_cons_self
  have hy0 := ((ListCommand.mem_ids.1 hy).1.bounds h).1
  intro h0
  have hto := (listedId hb).2
  rw [h0] at hto
  have hz0 : (0 : UInt64).toNat = 0 := rfl
  omega

/-- **The pages hold the ids from the initial id on**, and every call counts those from its own. -/
theorem ListCommand.pages_run (h : Listable d) (hq : ∀ q, env.queryFails q d = false)
    (halloc : 32 ≤ alloc.toNat) (n : Nat) {s : Target} (hs : s.db = d) (hi : initial.toNat < 2 ^ 63)
    (hn : (c.ids d initial).length < n) :
    ∃ ps, c.pages env alloc n initial s = some ps ∧
      (ps.map ListPage.ids).flatten = (c.ids d initial).map columnInt64 ∧
      ∀ p ∈ ps, p.used ≤ alloc ∧ p.initial.toNat < 2 ^ 63 ∧
        p.addLen.toNat = 16 + 8 * (c.ids d p.initial).length := by
  induction n generalizing initial s with
  | zero => exact absurd hn (Nat.not_lt_zero _)
  | succ n ih =>
    subst hs
    have hrows : (c.rows initial s.db).length < 2 ^ 60 := c.length_rows h
    obtain ⟨p, s', hpage, hdb, hp⟩ : ∃ p s', c.page env alloc initial s = some (p, s') ∧ s'.db = s.db ∧
        IsPage alloc initial ((c.ids s.db initial).map columnInt64) p :=
      c.page_run (by omega) (hq _) (by omega)
    obtain ⟨hinit, hpids, hcont, hadd, hused⟩ := hp
    rw [List.length_map] at hadd
    rw [← List.map_take] at hpids
    rw [← List.map_drop] at hcont
    have hfirst : p.used ≤ alloc ∧ p.initial.toNat < 2 ^ 63 ∧
        p.addLen.toNat = 16 + 8 * (c.ids s.db p.initial).length := ⟨hused, hinit ▸ hi, hinit ▸ hadd⟩
    unfold ListCommand.pages
    rw [hpage]
    cases hd : (c.ids s.db initial).drop ((alloc.toNat - 24) / 8) with
    | nil =>
      have h0 : p.contId = 0 := by rw [hcont, hd]; rfl
      refine ⟨[p], by simp [h0], ?_, fun q hq => ?_⟩
      · rw [List.map_singleton, List.flatten_singleton, hpids,
          List.take_of_length_le (List.drop_eq_nil_iff.1 hd)]
      · obtain rfl := List.mem_singleton.1 hq
        exact hfirst
    | cons z rest =>
      have hne : columnInt64 z ≠ 0 := c.cont_ne_zero h (by omega) hd
      have hc : p.contId = columnInt64 z := by
        rw [hcont, hd, List.map_cons, List.find?_cons_of_pos (by simpa using hne)]
        rfl
      have hz : z ∈ c.ids s.db initial := List.mem_of_mem_drop (hd ▸ List.mem_cons_self)
      have hb := (ListCommand.mem_ids.1 hz).1.bounds h
      have hnext := c.ids_drop h hd
      have hto := (listedId hb).2
      have hshort : (c.ids s.db (columnInt64 z)).length < n := by
        rw [hnext, List.length_drop]
        have hpos := congrArg List.length hd
        rw [List.length_drop, List.length_cons] at hpos
        omega
      obtain ⟨ps, hps, hflat, hall⟩ := ih hdb (show (columnInt64 z).toNat < _ by omega) hshort
      refine ⟨p :: ps, by simp [hc, hne, hps], ?_, fun q hq => ?_⟩
      · rw [List.map_cons, List.flatten_cons, hflat, hpids, hnext, ← List.map_append,
          List.take_append_drop]
      · rcases List.mem_cons.1 hq with rfl | hq
        · exact hfirst
        · exact hall q hq

/-- The ids from an id on, among all of them. -/
theorem ListCommand.ids_eq_filter (h : Listable d) :
    c.ids d initial = (c.ids d 0).filter (fun z => bindInt64 initial ≤ z) := by
  refine (c.pairwise_ids h).sortedLT.eq_of_mem_iff ((c.pairwise_ids h).filter _).sortedLT fun z => ?_
  rw [List.mem_filter, ListCommand.mem_ids, ListCommand.mem_ids, decide_eq_true_iff]
  exact ⟨fun ⟨hl, hle⟩ => ⟨⟨hl, (hl.bounds h).1⟩, hle⟩, fun ⟨⟨hl, _⟩, hle⟩ => ⟨hl, hle⟩⟩

theorem ListCommand.length_ids (h : Listable d) (hi : initial.toNat < 2 ^ 63) :
    (c.ids d initial).length = ((c.ids d 0).map columnInt64).countP (initial ≤ ·) := by
  rw [c.ids_eq_filter h, ← List.countP_eq_length_filter, List.countP_map]
  refine List.countP_congr fun z hz => ?_
  have hb := (ListCommand.mem_ids.1 hz).1.bounds h
  have hto := (listedId hb).2
  show decide (bindInt64 initial ≤ z) = true ↔ decide (initial ≤ columnInt64 z) = true
  rw [decide_eq_true_iff, decide_eq_true_iff, UInt64.le_iff_toNat_le, hto, bindInt64_of_lt hi]
  omega

end Pages

/-- **LIST pagination loses and repeats nothing.** -/
theorem list_pagination (env : Env) (s : Target) (c : ListCommand) (alloc : UInt64) (halloc : 32 ≤ alloc)
    (h : Listable s.db) (hq : ∀ q, env.queryFails q s.db = false) :
    ∃ n ps, c.pages env alloc n 0 s = some ps ∧
      ((ps.map ListPage.ids).flatten).Pairwise (· < ·) ∧
      (∀ id, id ∈ (ps.map ListPage.ids).flatten ↔ c.Lists s.db (bindInt64 id)) ∧
      ∀ p ∈ ps, p.used ≤ alloc ∧
        p.addLen.toNat = 16 + 8 * ((ps.map ListPage.ids).flatten).countP (p.initial ≤ ·) := by
  rw [UInt64.le_iff_toNat_le] at halloc
  obtain ⟨ps, hps, hflat, hall⟩ := c.pages_run h hq halloc ((c.ids s.db 0).length + 1) rfl
    (show (0 : UInt64).toNat < _ by decide) (Nat.lt_succ_self _)
  refine ⟨_, ps, hps, ?_, fun id => ?_, fun p hp => ?_⟩
  · rw [hflat, List.pairwise_map]
    refine (c.pairwise_ids h).imp_of_mem fun {x y} hx hy hlt => ?_
    have hx' := (ListCommand.mem_ids.1 hx).1.bounds h
    have hy' := (ListCommand.mem_ids.1 hy).1.bounds h
    rw [UInt64.lt_iff_toNat_lt, (listedId hx').2, (listedId hy').2]
    omega
  · rw [hflat, List.mem_map]
    constructor
    · rintro ⟨z, hz, rfl⟩
      have hl := (ListCommand.mem_ids.1 hz).1
      rw [(listedId (hl.bounds h)).1]
      exact hl
    · intro hl
      exact ⟨_, ListCommand.mem_ids.2 ⟨hl, (hl.bounds h).1⟩, columnInt64_bindInt64 id⟩
  · obtain ⟨hused, hi, hadd⟩ := hall p hp
    rw [hflat, hadd, c.length_ids h hi]
    exact ⟨hused, rfl⟩

/-- Three user objects, two to a page. -/
def threeObjects : Target := calmRun [.createPartition 0, .create 0x10000 0 3]

example : ((ListCommand.list 0x10000).pages Env.calm 40 3 0 threeObjects).map (·.map ListPage.ids)
    = some [[0x10000, 0x10001], [0x10002]] := by decide +kernel

theorem list_pagination_threeObjects : ∃ n ps,
    (ListCommand.list 0x10000).pages Env.calm 40 n 0 threeObjects = some ps ∧
    ((ps.map ListPage.ids).flatten).Pairwise (· < ·) ∧
    (∀ id, id ∈ (ps.map ListPage.ids).flatten ↔
      (ListCommand.list 0x10000).Lists threeObjects.db (bindInt64 id)) ∧
    ∀ p ∈ ps, p.used ≤ 40 ∧
      p.addLen.toNat = 16 + 8 * ((ps.map ListPage.ids).flatten).countP (p.initial ≤ ·) :=
  list_pagination Env.calm threeObjects (.list 0x10000) 40 (by decide)
    ⟨by decide +kernel, by decide +kernel, by decide +kernel, by decide +kernel, by decide +kernel⟩
    fun _ => rfl

end OsdTarget
