import OsdTarget.SetGet
import OsdTarget.AttributeRules

/-!
# SET MEMBER ATTRIBUTES against setting each member

One statement over the membership table stands for a call of `osd_set_attributes` for every entry and
every member.  It names the collection but no partition, prints ids and numbers unsigned, tests
nothing of an entry but its page, and stores whatever the page and the value are.
-/

namespace OsdTarget

open Base

variable {env : Env} {s s' t : Target} {pid cid oid : UInt64}

/-! ## Setting each member -/

/-- The arguments `osd_set_attributes` takes for the value of an entry. -/
def SetEntry.val (e : SetEntry) : Option Mem := if e.value = [] then none else some (blobMem e.value)

def SetEntry.len (e : SetEntry) : UInt16 := UInt16.ofNat e.value.length

/-- Set one attribute after the other, until one is refused. -/
def setEach (env : Env) (pid : UInt64) (isembedded : Bool) : List (SetEntry × UInt64) → OsdM Bool
  | [] => return true
  | (e, oid) :: calls => do
    if (← osdSetAttributes env pid oid e.page e.number e.val e.len isembedded) ≠ .ok then
      return false
    setEach env pid isembedded calls

/-- Every entry for every object. -/
def memberCalls (setAttr : List SetEntry) (oids : List UInt64) : List (SetEntry × UInt64) :=
  setAttr.flatMap fun e => oids.map fun oid => (e, oid)

/-- The statement of SET MEMBER ATTRIBUTES selects this object. -/
def Db.Selects (d : Db) (cid : UInt64) (o : Int) : Prop :=
  ∃ r ∈ d.coll, r.cid = sqlLiteral cid.toNat ∧ r.oid = o

/-- The same attributes, memberships and data files. -/
structure SameTables (t s' : Target) : Prop where
  attr : ∀ r, r ∈ t.db.attr ↔ r ∈ s'.db.attr
  coll : ∀ r, r ∈ t.db.coll ↔ r ∈ s'.db.coll
  files : t.files = s'.files

/-- **SET MEMBER ATTRIBUTES, which led from `s` to `s'`, did what setting every entry on every member
does**, and nothing to other objects. -/
structure SetsLikeEach (env : Env) (pid cid : UInt64) (setAttr : List SetEntry) (s s' : Target) : Prop where
  each : ∀ (oids : List UInt64) (isembedded : Bool), (∀ oid, oid ∈ oids ↔ s.db.IsMember pid cid oid) →
    ∃ t, setEach env pid isembedded (memberCalls setAttr oids) s = some (true, t) ∧ SameTables t s'
  frame : ∀ r : AttrRow, ¬ (∃ oid, s.db.IsMember pid cid oid ∧ r.pid = bindInt64 pid ∧
    r.oid = bindInt64 oid) → (r ∈ s'.db.attr ↔ r ∈ s.db.attr)
  obj : s'.db.obj = s.db.obj

/-! ## When they agree -/

/-- An entry that passes the checks of `osd_set_attributes` for a user object, whose page and number
print as they are bound, and that goes into a row. -/
structure SetEntry.Plain (e : SetEntry) : Prop where
  page : e.page.toNat < 2 ^ 31
  number : e.number.toNat < 2 ^ 31
  pointer : e.page ≠ USER_COLL_PG
  name : e.page = USER_INFO_PG → e.number = UIAP_USERNAME
  short : e.value.length ≤ ATTR_LEN_UB
  info : e.number = ATTRNUM_INFO → e.value.length ≤ ATTR_PAGE_ID_LEN ∧ 0 ∈ e.value

/-- Setting the entry on an object stores a row, for an empty user name one without a value; otherwise it
deletes one. -/
def SetEntry.Kept (e : SetEntry) : Prop := e.value ≠ [] ∨ e.page = USER_INFO_PG

/-- A later entry is about the same attribute. -/
def SetEntry.Overridden (e : SetEntry) (later : List SetEntry) : Prop :=
  ∃ e' ∈ later, e'.page = e.page ∧ e'.number = e.number

/-- There is nothing to set, or the statement selects the members, these are user objects and every
entry is one it stores as `osd_set_attributes` would. -/
def MembersSettable (d : Db) (pid cid : UInt64) (setAttr : List SetEntry) : Prop :=
  setAttr = [] ∨ (∀ o, ¬ d.Selects cid o) ∧ (∀ oid, ¬ d.IsMember pid cid oid) ∨
  pid.toNat < 2 ^ 63 ∧ (∀ o, d.Selects cid o ↔ ∃ oid, o = bindInt64 oid ∧ d.IsMember pid cid oid) ∧
    (∀ oid, d.IsMember pid cid oid → d.Has (bindInt64 pid) (bindInt64 oid) ∧
      d.objType pid oid = .userobject) ∧
    ∀ l₁ e l₂, setAttr = l₁ ++ e :: l₂ → e.Plain ∧ (e.value ≠ [] ∨ e.Overridden l₂)

instance (e : SetEntry) : Decidable e.Kept := inferInstanceAs (Decidable (_ ∨ _))

/-- Statements and queries are carried out. -/
structure Env.RunsSql (env : Env) : Prop where
  query : ∀ q d, env.queryFails q d = false
  dms : ∀ st d, env.dmsFails st d = false

/-! ## The statement -/

/-- The statement has been carried out when the command succeeds. -/
theorem osdSetMemberAttributes_ok {setAttr : List SetEntry} :
    Ends (osdSetMemberAttributes env pid cid setAttr) s (fun ret s' => ret = .ok →
      (∀ e ∈ setAttr, issettablePage .userobject e.page = true) ∧ s'.files = s.files ∧
      s'.db = (s.withAttrs (bulkRows s.db pid cid setAttr)).db) := by
  let Q (ret : Ret) (s' : Target) : Prop := ret = .ok →
    (∀ e ∈ setAttr, issettablePage .userobject e.page = true) ∧ s'.files = s.files ∧
    s'.db = (s.withAttrs (bulkRows s.db pid cid setAttr)).db
  have hbegin : Ends (osdBeginTxn env) s (fun _ t => t.db = s.db ∧ t.files = s.files) :=
    osdBeginTxn_ends fun _ _ _ => ⟨rfl, rfl⟩
  refine ends_call hbegin fun _ t ⟨hdb, hf⟩ => ?_
  have hfail : ∀ {ret : Ret} {v : Target}, ret ≠ .ok →
      Ends (osdEndTxn env >>= fun _ => pure ret) v Q :=
    fun h => ends_bind.2 (osdEndTxn_ends fun _ _ _ => ends_pure.2 fun hok => absurd hok h)
  refine ends_bind.2 (objIspresent_ends ?_ (ends_ite_of (fun _ => hfail (cdbErr_ne_ok _ _))
    fun h => absurd (.inl (by simp)) h))
  refine ends_ite_of (fun _ => hfail (cdbErr_ne_ok _ _)) fun _ => ?_
  refine ends_call getObjType_objType fun type t' ht' => ?_
  obtain ⟨rfl, -⟩ := ht'
  refine ends_ite_of (fun _ => hfail (cdbErr_ne_ok _ _)) fun _ =>
    ends_ite_of (fun _ => hfail nofun) fun hpages => ?_
  have hstmt : Ends (mtqSetMemberAttrs env pid cid setAttr) t' (fun ret v => ret = .ok →
      v.files = t'.files ∧ v.db = (t'.withAttrs (bulkRows t'.db pid cid setAttr)).db) := by
    refine ends_ite_of (fun hnil => ends_pure.2 fun _ => ?_) fun _ =>
      dbExecDms_ends_of rfl (fun _ => ⟨rfl, rfl⟩) fun _ h => absurd h (by simp)
    subst hnil
    exact ⟨rfl, rfl⟩
  refine ends_call hstmt fun ret v hv => ends_ite_of (fun _ => hfail nofun) fun hok => ?_
  obtain ⟨hvf, hvdb⟩ := hv (Decidable.not_not.1 hok)
  refine ends_bind.2 (osdEndTxn_ends fun _ _ _ => ends_bind.2 (ends_modify.2 (ends_pure.2 fun _ => ?_)))
  refine ⟨by simpa using hpages, hvf.trans hf, hvdb.trans ?_⟩
  unfold Target.withAttrs
  rw [Target.setAttr_db, Target.setAttr_db, hdb]

/-- The row of an entry for one object. -/
def SetEntry.row (pid oid : UInt64) (e : SetEntry) : AttrRow := attrRow pid oid e.page e.number e.value

/-- The row that setting the entry on one object stores. -/
def SetEntry.stored (pid oid : UInt64) (e : SetEntry) : AttrRow :=
  storedRow pid oid e.page e.number e.val e.len

theorem SetEntry.row_key {e e' : SetEntry} {oid' : UInt64} :
    (e.row pid oid).key = (e'.row pid oid').key ↔
      oid = oid' ∧ e.page = e'.page ∧ e.number = e'.number := by
  have hinj : ∀ {x y : UInt32}, bindInt x = bindInt y ↔ x = y := fun {x y} =>
    ⟨fun h => by rw [← columnInt_bindInt x, h, columnInt_bindInt], fun h => by rw [h]⟩
  simp [SetEntry.row, attrRow, AttrRow.key, bindInt64_inj, hinj]

theorem bulkRows_cons (d : Db) (e : SetEntry) (setAttr : List SetEntry) :
    bulkRows d pid cid (e :: setAttr) = bulkRows d pid cid [e] ++ bulkRows d pid cid setAttr := by
  simp [bulkRows, memberRows]

theorem mem_bulkRows {d : Db} {setAttr : List SetEntry} {r : AttrRow} :
    r ∈ bulkRows d pid cid setAttr ↔ ∃ e ∈ setAttr, ∃ o, d.Selects cid o ∧
      r = ⟨sqlLiteral pid.toNat, o, sqlLiteral e.page.toNat, sqlLiteral e.number.toNat, some e.value⟩ := by
  simp only [bulkRows, memberRows, List.mem_flatMap, List.mem_map, List.mem_filter, decide_eq_true_eq,
    Db.Selects]
  constructor
  · rintro ⟨_, ⟨e, he, rfl⟩, m, ⟨hm, hc⟩, rfl⟩
    exact ⟨e, he, m.oid, ⟨m, hm, hc, rfl⟩, rfl⟩
  · rintro ⟨e, he, o, ⟨m, hm, hc, rfl⟩, rfl⟩
    exact ⟨_, ⟨e, he, rfl⟩, m, ⟨hm, hc⟩, rfl⟩

/-- What the statement inserts for an entry that prints as it is bound. -/
theorem mem_bulkRows_plain {d : Db} {e : SetEntry} {r : AttrRow} (hpid : pid.toNat < 2 ^ 63)
    (hsel : ∀ o, d.Selects cid o ↔ ∃ oid, o = bindInt64 oid ∧ d.IsMember pid cid oid) (he : e.Plain) :
    r ∈ bulkRows d pid cid [e] ↔ ∃ oid, d.IsMember pid cid oid ∧ r = e.row pid oid := by
  have hp : bindInt64 pid = sqlLiteral pid.toNat := bindInt64_of_lt hpid
  have hpage : bindInt e.page = sqlLiteral e.page.toNat := if_pos he.page
  have hnumber : bindInt e.number = sqlLiteral e.number.toNat := if_pos he.number
  simp only [mem_bulkRows, List.mem_singleton, SetEntry.row, attrRow, hp, hpage, hnumber]
  constructor
  · rintro ⟨_, rfl, o, ho, rfl⟩
    obtain ⟨oid, rfl, hm⟩ := (hsel o).1 ho
    exact ⟨oid, hm, rfl⟩
  · rintro ⟨oid, hm, rfl⟩
    exact ⟨e, rfl, _, (hsel _).2 ⟨oid, rfl, hm⟩, rfl⟩

section Arguments

variable {e : SetEntry}

theorem SetEntry.len_toNat (h : e.value.length < 2 ^ 16) : e.len.toNat = e.value.length :=
  UInt16.toNat_ofNat_of_lt' h

theorem SetEntry.Plain.lt (h : e.Plain) : e.value.length < 2 ^ 16 :=
  Nat.lt_of_le_of_lt h.short (by decide)

theorem SetEntry.len_eq_zero (h : e.value.length < 2 ^ 16) : e.len = 0 ↔ e.value = [] := by
  rw [← UInt16.toNat_inj, SetEntry.len_toNat h, ← List.length_eq_zero_iff]
  rfl

theorem SetEntry.givenBytes_eq (h : e.value.length < 2 ^ 16) : givenBytes e.val e.len = e.value := by
  unfold SetEntry.val
  by_cases hnil : e.value = []
  · rw [if_pos hnil, hnil]
    rfl
  · rw [if_neg hnil]
    show (blobMem e.value).read 0 e.len.toNat = e.value
    rw [SetEntry.len_toNat h]
    exact read_blobMem e.value

theorem SetEntry.given (h : e.value.length < 2 ^ 16) :
    ¬ ((e.val.isNone = true ∧ e.len ≠ 0) ∨ (e.val.isSome = true ∧ e.len = 0)) := by
  rw [Ne, SetEntry.len_eq_zero h]
  unfold SetEntry.val
  by_cases hnil : e.value = [] <;> simp [hnil]

theorem SetEntry.hasNul_iff (h : e.value.length < 2 ^ 16) : hasNul e.val e.len = true ↔ 0 ∈ e.value := by
  have hgiven := SetEntry.givenBytes_eq h
  unfold hasNul
  unfold givenBytes at hgiven
  cases hval : e.val with
  | none =>
    rw [hval] at hgiven
    simp [← hgiven]
  | some m =>
    rw [hval] at hgiven
    dsimp only at hgiven ⊢
    rw [hgiven, List.any_eq_true]
    simp

/-- A value of some bytes is stored alike on either way. -/
theorem SetEntry.stored_eq (h : e.value.length < 2 ^ 16) (hne : e.value ≠ []) :
    e.stored pid oid = e.row pid oid := by
  have hval : e.val = some (blobMem e.value) := if_neg hne
  have hbytes := SetEntry.givenBytes_eq h
  rw [hval] at hbytes
  unfold SetEntry.stored SetEntry.row
  rw [hval, storedRow_some]
  exact congrArg (attrRow pid oid e.page e.number) hbytes

/-- Only a value of some bytes comes into a row as these bytes. -/
theorem SetEntry.ne_nil_of_stored {value : List UInt8} (h : (e.stored pid oid).blob = some value) :
    e.value ≠ [] := by
  intro hnil
  have hval : e.val = none := if_pos hnil
  unfold SetEntry.stored storedRow at h
  rw [hval] at h
  cases h

end Arguments

/-! ## One statement against many calls -/

/-- What setting the entry on one object does to the table. -/
def SetEntry.put (pid : UInt64) (e : SetEntry) (t : List AttrRow) (oid : UInt64) : List AttrRow :=
  if e.Kept then insertReplace AttrRow.key (e.stored pid oid) t
  else deleteWhere (fun r => r.key = (e.row pid oid).key) t

@[simp] theorem SetEntry.stored_key {e : SetEntry} : (e.stored pid oid).key = (e.row pid oid).key := rfl

theorem SetEntry.mem_put {e : SetEntry} {t : List AttrRow} {x : AttrRow} : x ∈ e.put pid t oid ↔
    x ∈ t ∧ x.key ≠ (e.row pid oid).key ∨ e.Kept ∧ x = e.stored pid oid := by
  unfold SetEntry.put
  by_cases h : e.Kept
  · rw [if_pos h, mem_insertReplace, SetEntry.stored_key]
    simp [h]
  · rw [if_neg h, mem_deleteWhere]
    simp [h]

theorem SetEntry.mem_foldl_put {e : SetEntry} {oids : List UInt64} {t : List AttrRow} {x : AttrRow} :
    x ∈ oids.foldl (e.put pid) t ↔
      x ∈ t ∧ (∀ oid ∈ oids, x.key ≠ (e.row pid oid).key) ∨ e.Kept ∧ ∃ oid ∈ oids, x = e.stored pid oid := by
  induction oids generalizing t with
  | nil => simp
  | cons i oids ih =>
    rw [List.foldl_cons, ih, SetEntry.mem_put, List.forall_mem_cons]
    constructor
    · rintro (⟨⟨hx, hi⟩ | ⟨hk, rfl⟩, hall⟩ | ⟨hk, oid, hmem, rfl⟩)
      · exact .inl ⟨hx, hi, hall⟩
      · exact .inr ⟨hk, i, List.mem_cons_self, rfl⟩
      · exact .inr ⟨hk, oid, List.mem_cons_of_mem _ hmem, rfl⟩
    · rintro (⟨hx, hi, hall⟩ | ⟨hk, oid, hmem, rfl⟩)
      · exact .inl ⟨.inl ⟨hx, hi⟩, hall⟩
      · by_cases hlater : oid ∈ oids
        · exact .inr ⟨hk, oid, hlater, rfl⟩
        · obtain rfl := (List.mem_cons.1 hmem).resolve_right hlater
          refine .inl ⟨.inr ⟨hk, rfl⟩, fun j hj hkey => hlater ?_⟩
          rwa [(SetEntry.row_key.1 (SetEntry.stored_key.symm.trans hkey)).1]

/-- What the statement does to the table for one entry. -/
theorem SetEntry.mem_foldl_bulkRows {d : Db} {oids : List UInt64} {e : SetEntry} {t : List AttrRow}
    {x : AttrRow} (hpid : pid.toNat < 2 ^ 63)
    (hsel : ∀ o, d.Selects cid o ↔ ∃ oid, o = bindInt64 oid ∧ d.IsMember pid cid oid)
    (hoids : ∀ oid, oid ∈ oids ↔ d.IsMember pid cid oid) (hplain : e.Plain) :
    x ∈ (bulkRows d pid cid [e]).foldl (fun t r => insertReplace AttrRow.key r t) t ↔
      x ∈ t ∧ (∀ oid ∈ oids, x.key ≠ (e.row pid oid).key) ∨ ∃ oid ∈ oids, x = e.row pid oid := by
  have hmem := fun r => mem_bulkRows_plain (r := r) hpid hsel hplain
  rw [mem_foldl_insertReplace_of_inj, hmem]
  · simp only [hmem, hoids, forall_exists_index, and_imp]
    exact or_congr_left (and_congr_right fun _ =>
      ⟨fun hne oid hm hk => hne _ oid hm rfl hk.symm, fun hne r oid hm hr hk => hne oid hm (hr ▸ hk.symm)⟩)
  · rintro a ha b hb hk
    obtain ⟨i, -, rfl⟩ := (hmem a).1 ha
    obtain ⟨j, -, rfl⟩ := (hmem b).1 hb
    rw [(SetEntry.row_key.1 hk).1]

/-- **The rows come out the same**: tables that agree but for the attributes still to be set agree once
they are set, an entry that deletes being overridden by one that stores. -/
theorem foldl_put_agrees {d : Db} {oids : List UInt64} (hpid : pid.toNat < 2 ^ 63)
    (hsel : ∀ o, d.Selects cid o ↔ ∃ oid, o = bindInt64 oid ∧ d.IsMember pid cid oid)
    (hoids : ∀ oid, oid ∈ oids ↔ d.IsMember pid cid oid) {setAttr : List SetEntry}
    (hall : ∀ l₁ e l₂, setAttr = l₁ ++ e :: l₂ → e.Plain ∧ (e.value ≠ [] ∨ e.Overridden l₂))
    {t t' : List AttrRow}
    (h : ∀ x : AttrRow, (∀ e ∈ setAttr, ∀ oid ∈ oids, x.key ≠ (e.row pid oid).key) → (x ∈ t ↔ x ∈ t'))
    (x : AttrRow) : x ∈ (memberCalls setAttr oids).foldl (fun t c => c.1.put pid t c.2) t ↔
      x ∈ (bulkRows d pid cid setAttr).foldl (fun t r => insertReplace AttrRow.key r t) t' := by
  induction setAttr generalizing t t' with
  | nil => exact h x fun _ he => nomatch he
  | cons e setAttr ih =>
    obtain ⟨hplain, hkept⟩ := hall [] e setAttr rfl
    have hcalls : memberCalls (e :: setAttr) oids
        = oids.map (fun oid => (e, oid)) ++ memberCalls setAttr oids := rfl
    rw [hcalls, bulkRows_cons, List.foldl_append, List.foldl_append, List.foldl_map]
    refine ih (fun l₁ e' l₂ hl => hall (e :: l₁) e' l₂ (by rw [hl]; rfl)) fun y hy => ?_
    rw [SetEntry.mem_foldl_bulkRows hpid hsel hoids hplain, SetEntry.mem_foldl_put]
    by_cases hkey : ∃ oid ∈ oids, y.key = (e.row pid oid).key
    · -- no later entry is about this attribute, so the entry stores it
      obtain ⟨oid, hoid, hkey⟩ := hkey
      have hne : e.value ≠ [] := by
        refine hkept.resolve_right ?_
        rintro ⟨e', he', hpage, hnumber⟩
        refine hy e' he' oid hoid (hkey.trans (SetEntry.row_key.2 ⟨rfl, hpage.symm, hnumber.symm⟩))
      have hk : e.Kept := .inl hne
      refine or_congr ⟨fun hno => ?_, fun hno => ?_⟩ (by simp [hk, SetEntry.stored_eq hplain.lt hne])
      · exact absurd hkey (hno.2 oid hoid)
      · exact absurd hkey (hno.2 oid hoid)
    · have hrow : ¬ ∃ oid ∈ oids, y = e.row pid oid :=
        fun ⟨oid, hoid, hr⟩ => hkey ⟨oid, hoid, by rw [hr]⟩
      have hstored : ¬ ∃ oid ∈ oids, y = e.stored pid oid :=
        fun ⟨oid, hoid, hr⟩ => hkey ⟨oid, hoid, by rw [hr, SetEntry.stored_key]⟩
      have hagree := h y fun e' he' oid hoid => by
        rcases List.mem_cons.1 he' with rfl | he'
        · exact fun hk => hkey ⟨oid, hoid, hk⟩
        · exact hy e' he' oid hoid
      simp [hrow, hstored, hagree]

/-! ## The calls -/

theorem objIspresent_run (henv : env.RunsSql) (hhas : s.db.Has (bindInt64 pid) (bindInt64 oid)) :
    objIspresent env pid oid s = some ((.ok, true), s) := by
  show (if env.queryFails _ s.db = true then _ else _ : OsdM _) s = _
  rw [if_neg (by simp [henv.query])]
  show some ((Ret.ok, decide (s.db.Has (bindInt64 pid) (bindInt64 oid))), s) = _
  rw [decide_eq_true hhas]

/-- What follows the checks for a plain entry. -/
theorem storeAttribute_plain (henv : env.RunsSql) {e : SetEntry} (he : e.Plain) :
    storeAttribute env pid oid e.page e.number e.val e.len s
      = some (.ok, s.setAttr (e.put pid s.db.attr oid)) := by
  have hset : ∀ page number, page = e.page → number = e.number → e.Kept →
      attrSetConversion env pid oid page number e.val e.len s
        = some (.ok, s.setAttr (e.put pid s.db.attr oid)) := by
    rintro page number rfl rfl hk
    rw [SetEntry.put, if_pos hk]
    exact dbExecDms_accepted (henv.dms _ _) rfl
  have hroot : e.page ≠ ROOT_INFO_PG := by
    intro h
    have hpage := he.page
    rw [h] at hpage
    exact absurd hpage (by decide)
  unfold storeAttribute
  dsimp only
  by_cases hui : e.page = USER_INFO_PG
  · have huiap : setUiap env pid oid e.number e.val e.len s
        = some (.ok, s.setAttr (e.put pid s.db.attr oid)) := by
      unfold setUiap
      rw [if_pos (he.name hui)]
      exact hset _ _ hui.symm rfl (.inr hui)
    rw [if_pos hui, bind_of_some huiap, if_pos rfl]
    rfl
  rw [if_neg hui, if_neg hroot, if_neg he.pointer]
  by_cases hnil : e.value = []
  · have hdel : attrDeleteAttr env pid oid e.page e.number s
        = some (.ok, s.setAttr (e.put pid s.db.attr oid)) := by
      have hput : e.put pid s.db.attr oid
          = deleteWhere (fun r => r.key = (e.row pid oid).key) s.db.attr := by
        have hk : ¬ e.Kept := not_or.2 ⟨not_not.2 hnil, hui⟩
        rw [SetEntry.put, if_neg hk]
      rw [hput]
      refine dbExecDms_accepted (henv.dms _ _) ?_
      simp [Dms.run, AttrRow.key, SetEntry.row, attrRow]
    rw [if_pos ((SetEntry.len_eq_zero he.lt).2 hnil), bind_of_some hdel, if_pos rfl]
    rfl
  · rw [if_neg fun h => hnil ((SetEntry.len_eq_zero he.lt).1 h),
      bind_of_some (hset _ _ rfl rfl (.inl hnil)), if_pos rfl]
    rfl

theorem osdSetAttributes_plain (henv : env.RunsSql) {e : SetEntry} (isembedded : Bool) (he : e.Plain)
    (hpage : issettablePage .userobject e.page = true) (hhas : s.db.Has (bindInt64 pid) (bindInt64 oid))
    (htype : s.db.objType pid oid = .userobject) :
    ∃ c, osdSetAttributes env pid oid e.page e.number e.val e.len isembedded s
      = some (.ok, { s.setAttr (e.put pid s.db.attr oid) with ccap := c }) := by
  have hnum : e.number ≠ ATTRNUM_UNMODIFIABLE := by
    intro h
    have hlt := he.number
    rw [h] at hlt
    exact absurd hlt (by decide)
  have hinfo : ¬ (e.number = ATTRNUM_INFO ∧ (e.len.toNat > ATTR_PAGE_ID_LEN ∨
      ¬ hasNul e.val e.len = true)) := by
    rintro ⟨h0, hbad⟩
    obtain ⟨hle, hnul⟩ := he.info h0
    rw [SetEntry.len_toNat he.lt, SetEntry.hasNul_iff he.lt] at hbad
    exact hbad.elim (fun h => absurd hle (Nat.not_le.2 h)) fun h => h hnul
  have hshort : ¬ e.len.toNat > ATTR_LEN_UB := by
    rw [SetEntry.len_toNat he.lt]
    exact Nat.not_lt.2 he.short
  have hobj := getObjType_answers (henv.query · s.db) pid oid
  rw [htype] at hobj
  unfold osdSetAttributes
  rw [bind_of_some (objIspresent_run henv hhas)]
  dsimp only
  rw [if_neg (by simp), bind_of_some hobj, if_neg (by simp),
    if_neg (by simp [hpage]), if_neg hnum, if_neg (SetEntry.given he.lt), if_neg hinfo, if_neg hshort,
    bind_of_some (storeAttribute_plain henv he), if_neg (by simp)]
  cases isembedded
  · exact ⟨_, rfl⟩
  · exact ⟨s.ccap, rfl⟩

/-- **Plain entries are set one after the other** on user objects. -/
theorem setEach_plain (henv : env.RunsSql) (isembedded : Bool) {calls : List (SetEntry × UInt64)}
    (h : ∀ c ∈ calls, c.1.Plain ∧ issettablePage .userobject c.1.page = true ∧
      s.db.Has (bindInt64 pid) (bindInt64 c.2) ∧ s.db.objType pid c.2 = .userobject) :
    ∃ t, setEach env pid isembedded calls s = some (true, t) ∧ t.files = s.files ∧
      t.db = (s.setAttr (calls.foldl (fun t c => c.1.put pid t c.2) s.db.attr)).db := by
  induction calls generalizing s with
  | nil => exact ⟨s, rfl, rfl, rfl⟩
  | cons c calls ih =>
    obtain ⟨hplain, hpage, hhas, htype⟩ := h c List.mem_cons_self
    obtain ⟨cc, hrun⟩ := osdSetAttributes_plain henv isembedded hplain hpage hhas htype
    obtain ⟨t, ht, hf, hdb⟩ := @ih { s.setAttr (c.1.put pid s.db.attr c.2) with ccap := cc }
      fun c' hc' => h c' (List.mem_cons_of_mem _ hc')
    refine ⟨t, ?_, hf, hdb⟩
    unfold setEach
    rw [bind_of_some hrun, if_neg (by simp)]
    exact ht

/-- **Where the condition holds, SET MEMBER ATTRIBUTES does what setting each member does.** -/
theorem setsLikeEach_of_settable (henv : env.RunsSql) {setAttr : List SetEntry}
    (hok : osdSetMemberAttributes env pid cid setAttr s = some (.ok, s'))
    (h : MembersSettable s.db pid cid setAttr) : SetsLikeEach env pid cid setAttr s s' := by
  obtain ⟨hpages, hfiles, hdb⟩ := osdSetMemberAttributes_ok _ _ hok rfl
  have hcoll : s'.db.coll = s.db.coll := by rw [hdb]; rfl
  have hobj : s'.db.obj = s.db.obj := by rw [hdb]; rfl
  have hattr : s'.db.attr
      = (bulkRows s.db pid cid setAttr).foldl (fun t r => insertReplace AttrRow.key r t) s.db.attr := by
    rw [hdb]
    rfl
  by_cases hnone : bulkRows s.db pid cid setAttr = [] ∧
      ∀ oids, (∀ oid, oid ∈ oids ↔ s.db.IsMember pid cid oid) → memberCalls setAttr oids = []
  · obtain ⟨hrows, hcalls⟩ := hnone
    rw [hrows, List.foldl_nil] at hattr
    refine ⟨fun oids isembedded hoids => ⟨s, by rw [hcalls oids hoids]; rfl, ?_⟩,
      fun r _ => by rw [hattr], hobj⟩
    exact ⟨fun r => by rw [hattr], fun r => by rw [hcoll], hfiles.symm⟩
  rcases h with rfl | ⟨hsel, hmem⟩ | ⟨hpid, hsel, hmem, hall⟩
  · exact absurd ⟨rfl, fun _ _ => rfl⟩ hnone
  · refine absurd ⟨List.eq_nil_iff_forall_not_mem.2 fun r hr => ?_, fun oids hoids => ?_⟩ hnone
    · obtain ⟨-, -, o, ho, -⟩ := mem_bulkRows.1 hr
      exact hsel o ho
    · have hnil : oids = [] := List.eq_nil_iff_forall_not_mem.2 fun oid ho => hmem oid ((hoids oid).1 ho)
      subst hnil
      simp [memberCalls]
  · have hplain : ∀ e ∈ setAttr, e.Plain := by
      intro e he
      obtain ⟨l₁, l₂, hl⟩ := List.append_of_mem he
      exact (hall l₁ e l₂ hl).1
    refine ⟨fun oids isembedded hoids => ?_, fun r hr => ?_, hobj⟩
    · have hcalls : ∀ c ∈ memberCalls setAttr oids, c.1.Plain ∧ issettablePage .userobject c.1.page = true ∧
          s.db.Has (bindInt64 pid) (bindInt64 c.2) ∧ s.db.objType pid c.2 = .userobject := by
        intro c hc
        obtain ⟨e, he, hc⟩ := List.mem_flatMap.1 hc
        obtain ⟨oid, ho, rfl⟩ := List.mem_map.1 hc
        exact ⟨hplain e he, hpages e he, hmem oid ((hoids oid).1 ho)⟩
      obtain ⟨t, ht, htf, htdb⟩ := setEach_plain henv isembedded hcalls
      refine ⟨t, ht, fun r => ?_, fun r => by rw [htdb, hcoll]; rfl, htf.trans hfiles.symm⟩
      rw [hattr, htdb]
      exact foldl_put_agrees hpid hsel hoids hall (fun _ _ => Iff.rfl) r
    · rw [hattr, mem_foldl_insertReplace_iff]
      have hno : ∀ y ∈ bulkRows s.db pid cid setAttr, ¬ (y.pid = r.pid ∧ y.oid = r.oid) := by
        rintro y hy ⟨hp, ho⟩
        obtain ⟨e, -, o, hso, rfl⟩ := mem_bulkRows.1 hy
        obtain ⟨oid, rfl, hm⟩ := (hsel o).1 hso
        refine hr ⟨oid, hm, ?_, ho.symm⟩
        rw [← hp]
        exact (bindInt64_of_lt hpid).symm
      constructor
      · rintro (⟨hmem, -⟩ | ⟨l₁, l₂, hl, -⟩)
        · exact hmem
        · exact absurd ⟨rfl, rfl⟩ (hno r (hl ▸ List.mem_append_right _ List.mem_cons_self))
      · refine fun hmem => .inl ⟨hmem, fun y hy hk => hno y hy ?_⟩
        simp only [AttrRow.key, Prod.mk.injEq] at hk
        exact ⟨hk.1, hk.2.1⟩

/-! ## Nothing less suffices -/

/-- The call was accepted. -/
structure CallAccepted (d : Db) (pid : UInt64) (c : SetEntry × UInt64) : Prop where
  present : d.Has (bindInt64 pid) (bindInt64 c.2)
  settable : issettablePage (d.objType pid c.2) c.1.page = true
  short : c.1.len.toNat ≤ ATTR_LEN_UB
  info : c.1.number = ATTRNUM_INFO → c.1.len.toNat ≤ ATTR_PAGE_ID_LEN ∧ hasNul c.1.val c.1.len = true

/-- The row comes from this call. -/
structure StoredByCall (pid : UInt64) (c : SetEntry × UInt64) (r : AttrRow) : Prop where
  row : r = storedRow pid c.2 c.1.page c.1.number c.1.val c.1.len
  pointer : c.1.page ≠ USER_COLL_PG
  name : c.1.page = USER_INFO_PG → c.1.number = UIAP_USERNAME

theorem Stored.attr_of_call {c : SetEntry × UInt64}
    (h : Stored pid c.2 c.1.page c.1.number c.1.val c.1.len s t) :
    t.db.obj = s.db.obj ∧ ∀ r ∈ t.db.attr, r ∈ s.db.attr ∨ StoredByCall pid c r := by
  cases h with
  | row hpage hrow =>
    refine ⟨rfl, fun r hr => (mem_insertReplace.1 hr).imp And.left fun h => ⟨h, hpage, fun hui => ?_⟩⟩
    unfold Target.StoresRow at hrow
    rwa [if_pos hui] at hrow
  | deleted => exact ⟨rfl, fun r hr => .inl (mem_deleteWhere.1 hr).1⟩
  | resized => exact ⟨rfl, fun _ => .inl⟩
  | ignored => exact ⟨rfl, fun _ => .inl⟩
  | pointed => exact ⟨rfl, fun _ => .inl⟩
  | unpointed => exact ⟨rfl, fun _ => .inl⟩

/-- **Every row that is new after the calls comes from one of them.** -/
theorem setEach_stored {isembedded : Bool} {calls : List (SetEntry × UInt64)} :
    Ends (setEach env pid isembedded calls) s (fun ok t => ok = true →
      (∀ c ∈ calls, CallAccepted s.db pid c) ∧
      ∀ r ∈ t.db.attr, r ∈ s.db.attr ∨ ∃ c ∈ calls, StoredByCall pid c r) := by
  induction calls generalizing s with
  | nil => exact ends_pure.2 fun _ => ⟨(fun _ h => nomatch h), fun _ => .inl⟩
  | cons c calls ih =>
    refine ends_call (osdSetAttributes_stores.and osdSetAttributes_settable) fun ret t ⟨h, hset⟩ => ?_
    refine ends_ite_of (fun _ => ends_pure.2 fun h => nomatch h) fun hok => ?_
    obtain rfl := Decidable.not_not.1 hok
    obtain ⟨hno, -⟩ | ⟨-, type, v, cc, hchecks, hst, rfl⟩ := h
    · exact absurd rfl hno
    obtain ⟨hobj, hattr⟩ := hst.attr_of_call
    refine ih.mono fun ok w hw hokw => ?_
    obtain ⟨hacc, hrows⟩ := hw hokw
    refine ⟨fun c' hc' => ?_, fun r hr => ?_⟩
    · rcases List.mem_cons.1 hc' with rfl | hc'
      · exact ⟨hchecks.present, (hset rfl).2, hchecks.short, hchecks.info⟩
      · obtain ⟨hpresent, hsettable, hshort, hinfo⟩ := hacc c' hc'
        refine ⟨?_, ?_, hshort, hinfo⟩
        · unfold Db.Has at hpresent ⊢
          rwa [show Target.db { v with ccap := cc } = v.db from rfl, hobj] at hpresent
        · rwa [Db.objType_congr (show (Target.db { v with ccap := cc }).obj = s.db.obj from hobj)]
            at hsettable
    · rcases hrows r hr with hr | ⟨c', hc', hst'⟩
      · exact (hattr r hr).imp_right fun h => ⟨c, List.mem_cons_self, h⟩
      · exact .inr ⟨c', List.mem_cons_of_mem _ hc', hst'⟩

theorem exists_members (d : Db) (pid cid : UInt64) :
    ∃ oids : List UInt64, ∀ oid, oid ∈ oids ↔ d.IsMember pid cid oid := by
  refine ⟨(d.coll.filter fun r => r.key = (bindInt64 pid, bindInt64 cid,
    bindInt64 (columnInt64 r.oid))).map fun r => columnInt64 r.oid, fun oid => ?_⟩
  simp only [List.mem_map, List.mem_filter, decide_eq_true_eq]
  constructor
  · rintro ⟨r, ⟨hr, hkey⟩, rfl⟩
    exact ⟨r, hr, hkey⟩
  · rintro ⟨r, hr, hkey⟩
    have ho : r.oid = bindInt64 oid := by
      simp only [CollRow.key, Prod.mk.injEq] at hkey
      exact hkey.2.2
    exact ⟨r, ⟨hr, by rw [hkey, ho, columnInt64_bindInt64]⟩, by rw [ho, columnInt64_bindInt64]⟩

theorem eq_of_sqlLiteral_eq_bindInt {x y : UInt32} (h : sqlLiteral x.toNat = bindInt y) :
    x = y ∧ x.toNat < 2 ^ 31 := by
  have hx := x.toNat_lt
  have hy := y.toNat_lt
  unfold sqlLiteral bindInt at h
  split at h
  · exact ⟨UInt32.toNat_inj.1 (by omega), by omega⟩
  · omega

theorem lt_of_sqlLiteral_eq_bindInt64 {x : UInt64} (h : sqlLiteral x.toNat = bindInt64 x) :
    x.toNat < 2 ^ 63 := by
  have hx := x.toNat_lt
  unfold sqlLiteral at h
  exact toNat_lt_of_bindInt64 (by omega)

/-- A page for user objects that prints as it is bound is settable for nothing else. -/
theorem eq_userobject_of_settable {type : ObjType} {page : UInt32} (hlt : page.toNat < 2 ^ 31)
    (huser : issettablePage .userobject page = true) (h : issettablePage type page = true) :
    type = .userobject := by
  have hany : ¬ ANY_PG ≤ page := by
    rw [UInt32.le_iff_toNat_le]
    have hv : ANY_PG.toNat = 0xF0000000 := rfl
    omega
  have hvalid : ∀ {type : ObjType}, issettablePage type page = true → checkValidPg type page = true := by
    intro type h
    by_contra hno
    unfold issettablePage at h
    rw [if_pos (by simpa using hno)] at h
    exact hany (of_decide_eq_true h)
  have hpg : page < PARTITION_PG := of_decide_eq_true (hvalid huser)
  have hvalid := hvalid h
  rw [UInt32.lt_iff_toNat_lt] at hpg
  have h1 : PARTITION_PG.toNat = 0x30000000 := rfl
  have h2 : COLLECTION_PG.toNat = 0x60000000 := rfl
  have h3 : ROOT_PG.toNat = 0x90000000 := rfl
  cases type with
  | userobject => rfl
  | illegal => cases hvalid
  | collection | partition | root =>
    simp only [checkValidPg, Bool.and_eq_true, decide_eq_true_eq, UInt32.le_iff_toNat_le,
      UInt32.lt_iff_toNat_lt] at hvalid
    omega

section Necessary

variable {setAttr : List SetEntry} {isembedded : Bool} {oids : List UInt64}

/-- An entry that no later one overrides leaves its row. -/
theorem mem_foldl_of_not_overridden {l₁ l₂ : List SetEntry} {e : SetEntry} (hlast : ¬ e.Overridden l₂)
    {o : Int} (ho : s.db.Selects cid o) (t : List AttrRow) :
    (⟨sqlLiteral pid.toNat, o, sqlLiteral e.page.toNat, sqlLiteral e.number.toNat, some e.value⟩ : AttrRow) ∈
      (bulkRows s.db pid cid (l₁ ++ e :: l₂)).foldl (fun t r => insertReplace AttrRow.key r t) t := by
  let y : AttrRow :=
    ⟨sqlLiteral pid.toNat, o, sqlLiteral e.page.toNat, sqlLiteral e.number.toNat, some e.value⟩
  have hsplit : bulkRows s.db pid cid (l₁ ++ e :: l₂)
      = bulkRows s.db pid cid l₁ ++ (bulkRows s.db pid cid [e] ++ bulkRows s.db pid cid l₂) := by
    simp [bulkRows, memberRows]
  have hlater : ∀ z ∈ bulkRows s.db pid cid l₂, z.key ≠ y.key := by
    intro z hz hk
    obtain ⟨e', he', o', -, rfl⟩ := mem_bulkRows.1 hz
    simp only [AttrRow.key, y, sqlLiteral, Prod.mk.injEq, Int.natCast_inj, UInt32.toNat_inj] at hk
    exact hlast ⟨e', he', hk.2.2.1, hk.2.2.2⟩
  -- among the rows of the entry itself it is the last with its key
  have hk : ∃ z ∈ bulkRows s.db pid cid [e], z.key = y.key :=
    ⟨y, mem_bulkRows.2 ⟨e, List.mem_cons_self, o, ho, rfl⟩, rfl⟩
  obtain ⟨m₁, z, m₂, hm, hzk, hm₂⟩ := exists_last hk
  have hz : z = y := by
    have hzm : z ∈ bulkRows s.db pid cid [e] := hm ▸ List.mem_append_right _ List.mem_cons_self
    obtain ⟨e', he', o', -, rfl⟩ := mem_bulkRows.1 hzm
    obtain rfl := List.mem_singleton.1 he'
    simp only [AttrRow.key, y, Prod.mk.injEq] at hzk
    rw [hzk.2.1]
  subst hz
  show y ∈ _
  refine mem_foldl_insertReplace_iff.2 (.inr ⟨bulkRows s.db pid cid l₁ ++ m₁, m₂ ++
    bulkRows s.db pid cid l₂, by rw [hsplit, hm]; simp, fun w hw => ?_⟩)
  exact (List.mem_append.1 hw).elim (hm₂ w) (hlater w)

/-- An entry that no later one overrides leaves its row, so one of the calls stored it. -/
theorem stored_of_not_overridden (hlen : ∀ e ∈ setAttr, e.value.length < 2 ^ 16)
    (hfresh : ∀ y ∈ bulkRows s.db pid cid setAttr, ∀ x ∈ s.db.attr, x.key ≠ y.key)
    (hrows : ∀ r ∈ (bulkRows s.db pid cid setAttr).foldl
      (fun t r => insertReplace AttrRow.key r t) s.db.attr,
      r ∈ s.db.attr ∨ ∃ c ∈ memberCalls setAttr oids, StoredByCall pid c r)
    {l₁ l₂ : List SetEntry} {e : SetEntry} (hl : setAttr = l₁ ++ e :: l₂) (hlast : ¬ e.Overridden l₂)
    {o : Int} (ho : s.db.Selects cid o) :
    pid.toNat < 2 ^ 63 ∧ (∃ oid ∈ oids, o = bindInt64 oid) ∧ e.page.toNat < 2 ^ 31 ∧
      e.number.toNat < 2 ^ 31 ∧ e.page ≠ USER_COLL_PG ∧ (e.page = USER_INFO_PG → e.number = UIAP_USERNAME) ∧
      e.value ≠ [] := by
  rcases hrows _ (hl ▸ mem_foldl_of_not_overridden hlast ho _) with hold | ⟨c, hc, hst⟩
  · have he : e ∈ setAttr := hl ▸ List.mem_append_right _ List.mem_cons_self
    exact absurd rfl (hfresh _ (mem_bulkRows.2 ⟨e, he, o, ho, rfl⟩) _ hold)
  obtain ⟨e', he', hc⟩ := List.mem_flatMap.1 hc
  obtain ⟨oid, hoid, rfl⟩ := List.mem_map.1 hc
  have hblob : (e'.stored pid oid).blob = some e.value := (congrArg AttrRow.blob hst.row).symm
  have hvalue : e.value = e'.value := by
    have hrow : e'.stored pid oid = _ := SetEntry.stored_eq (hlen e' he') (SetEntry.ne_nil_of_stored hblob)
    rw [hrow] at hblob
    exact (Option.some.inj hblob).symm
  have hrow := hst.row
  simp only [storedRow, AttrRow.mk.injEq] at hrow
  obtain ⟨hp, hoo, hpage, hnumber, -⟩ := hrow
  obtain ⟨hpage, hplt⟩ := eq_of_sqlLiteral_eq_bindInt hpage
  obtain ⟨hnumber, hnlt⟩ := eq_of_sqlLiteral_eq_bindInt hnumber
  refine ⟨lt_of_sqlLiteral_eq_bindInt64 hp, ⟨oid, hoid, hoo⟩, hplt, hnlt, hpage ▸ hst.pointer,
    fun hui => hnumber ▸ hst.name (hpage ▸ hui), hvalue ▸ SetEntry.ne_nil_of_stored hblob⟩

/-- **Where the attributes to be set are not there yet, nothing less suffices.** -/
theorem settable_of_setsLikeEach (hlen : ∀ e ∈ setAttr, e.value.length < 2 ^ 16)
    (hok : osdSetMemberAttributes env pid cid setAttr s = some (.ok, s')) (hcid : cid.toNat < 2 ^ 63)
    (hfresh : ∀ y ∈ bulkRows s.db pid cid setAttr, ∀ x ∈ s.db.attr, x.key ≠ y.key)
    (h : SetsLikeEach env pid cid setAttr s s') : MembersSettable s.db pid cid setAttr := by
  obtain ⟨hpages, -, hdb⟩ := osdSetMemberAttributes_ok _ _ hok rfl
  have hselects : ∀ {oid}, s.db.IsMember pid cid oid → s.db.Selects cid (bindInt64 oid) := by
    rintro oid ⟨r, hr, hkey⟩
    simp only [CollRow.key, Prod.mk.injEq] at hkey
    exact ⟨r, hr, by rw [hkey.2.1, bindInt64_of_lt hcid]; rfl, hkey.2.2⟩
  by_cases hnil : setAttr = []
  · exact .inl hnil
  by_cases hsel : ∃ o, s.db.Selects cid o
  · obtain ⟨oids, hoids⟩ := exists_members s.db pid cid
    obtain ⟨t, hrun, hsame⟩ := h.each oids true hoids
    obtain ⟨hacc, hstored⟩ := setEach_stored _ _ hrun rfl
    have hrows : ∀ r ∈ (bulkRows s.db pid cid setAttr).foldl (fun t r => insertReplace AttrRow.key r t)
        s.db.attr, r ∈ s.db.attr ∨ ∃ c ∈ memberCalls setAttr oids, StoredByCall pid c r := by
      intro r hr
      refine hstored r ((hsame.attr r).2 ?_)
      rw [hdb]
      exact hr
    have hlast : ∀ l₁ e l₂, setAttr = l₁ ++ e :: l₂ → ¬ e.Overridden l₂ → ∀ o, s.db.Selects cid o → _ :=
      fun l₁ e l₂ hl hno o ho => stored_of_not_overridden hlen hfresh hrows hl hno ho
    -- the last entry for the attribute of a given one
    have hsome : ∀ e ∈ setAttr, ∃ l₁ e' l₂, setAttr = l₁ ++ e' :: l₂ ∧
        (e'.page = e.page ∧ e'.number = e.number) ∧
        ¬ e'.Overridden l₂ := by
      intro e he
      have hk : ∃ x ∈ setAttr, (fun x : SetEntry => (x.page, x.number)) x =
          (e.page, e.number) := ⟨e, he, rfl⟩
      obtain ⟨l₁, e', l₂, hl, hkey, hno⟩ := exists_last hk
      rw [Prod.mk.injEq] at hkey
      refine ⟨l₁, e', l₂, hl, hkey, ?_⟩
      rintro ⟨x, hx, hp, hn⟩
      exact hno x hx (by rw [hp, hn, hkey.1, hkey.2])
    obtain ⟨o₀, ho₀⟩ := hsel
    obtain ⟨e₀, he₀⟩ := List.exists_mem_of_ne_nil _ hnil
    obtain ⟨l₁, e₁, l₂, hl, -, hno⟩ := hsome e₀ he₀
    obtain ⟨hpid, ⟨oid₀, hoid₀, -⟩, -⟩ := hlast l₁ e₁ l₂ hl hno o₀ ho₀
    have hcall : ∀ e ∈ setAttr, ∀ oid, s.db.IsMember pid cid oid → CallAccepted s.db pid (e, oid) := by
      intro e he oid hm
      exact hacc _ (List.mem_flatMap.2 ⟨e, he, List.mem_map.2 ⟨oid, (hoids oid).2 hm, rfl⟩⟩)
    refine .inr (.inr ⟨hpid, fun o => ⟨fun ho => ?_, ?_⟩, fun oid hm => ?_, fun m₁ e m₂ hm => ?_⟩)
    · obtain ⟨-, ⟨oid, hoid, heq⟩, -⟩ := hlast l₁ e₁ l₂ hl hno o ho
      exact ⟨oid, heq, (hoids oid).1 hoid⟩
    · rintro ⟨oid, rfl, hm⟩
      exact hselects hm
    · have he₁ : e₁ ∈ setAttr := hl ▸ List.mem_append_right _ List.mem_cons_self
      obtain ⟨-, -, hplt, -⟩ := hlast l₁ e₁ l₂ hl hno o₀ ho₀
      have hc := hcall e₁ he₁ oid hm
      exact ⟨hc.present, eq_userobject_of_settable hplt (hpages e₁ he₁) hc.settable⟩
    · have he : e ∈ setAttr := hm ▸ List.mem_append_right _ List.mem_cons_self
      obtain ⟨k₁, e', k₂, hk, ⟨hp, hn⟩, hno'⟩ := hsome e he
      obtain ⟨-, -, hplt, hnlt, hptr, hname, -⟩ := hlast k₁ e' k₂ hk hno' o₀ ho₀
      have hc := hcall e he oid₀ ((hoids oid₀).1 hoid₀)
      have hl16 := hlen e he
      refine ⟨⟨hp ▸ hplt, hn ▸ hnlt, hp ▸ hptr, fun hui => hn ▸ hname (hp.trans hui), ?_, fun h0 => ?_⟩, ?_⟩
      · rw [← SetEntry.len_toNat hl16]
        exact hc.short
      · have hinfo := hc.info h0
        rw [SetEntry.hasNul_iff hl16, SetEntry.len_toNat hl16] at hinfo
        exact hinfo
      · by_cases hover : e.Overridden m₂
        · exact .inr hover
        · exact .inl (hlast m₁ e m₂ hm hover o₀ ho₀).2.2.2.2.2.2
  · exact .inr (.inl ⟨fun o ho => hsel ⟨o, ho⟩, fun oid hm => hsel ⟨_, hselects hm⟩⟩)

end Necessary

/-! ## The command -/

/-- **SET MEMBER ATTRIBUTES does what setting each member does** where the statement selects the members
and stores every entry as `osd_set_attributes` would, and only there as long as the table holds none
of the attributes to be set. -/
theorem setMembers_agree (henv : env.RunsSql) {setAttr : List SetEntry}
    (hlen : ∀ e ∈ setAttr, e.value.length < 2 ^ 16)
    (hok : osdSetMemberAttributes env pid cid setAttr s = some (.ok, s')) :
    (MembersSettable s.db pid cid setAttr → SetsLikeEach env pid cid setAttr s s') ∧
    (cid.toNat < 2 ^ 63 → (∀ y ∈ bulkRows s.db pid cid setAttr, ∀ x ∈ s.db.attr, x.key ≠ y.key) →
      (SetsLikeEach env pid cid setAttr s s' ↔ MembersSettable s.db pid cid setAttr)) :=
  ⟨setsLikeEach_of_settable henv hok, fun hcid hfresh =>
    ⟨settable_of_setsLikeEach hlen hok hcid hfresh, setsLikeEach_of_settable henv hok⟩⟩

theorem Env.calm_runsSql : Env.calm.RunsSql := ⟨fun _ _ => rfl, fun _ _ => rfl⟩

/-- Two partitions with a collection 0x10000 each, the second one with a member. -/
def twoCollections : Target := calmRun [.createPartition 0x10000, .createPartition 0x20000,
  .createCollection 0x10000 0x10000, .createCollection 0x20000 0x10000, .create 0x20000 0x20000 1,
  .setAttributes 0x20000 0x20000 USER_COLL_PG 1 (some (blobMem (htonll 0x10000))) 8 false]

def setOne (pid : UInt64) : Option (Ret × Target) :=
  osdSetMemberAttributes Env.calm pid 0x10000 [⟨0x10000, 5, [7]⟩] twoCollections

theorem twoCollections_coll : twoCollections.db.coll = [⟨0x20000, 0x10000, 0x20000, 1⟩] := by decide +kernel

theorem setMembers_agree_member : ∃ s', setOne 0x20000 = some (.ok, s') ∧
    SetsLikeEach Env.calm 0x20000 0x10000 [⟨0x10000, 5, [7]⟩] twoCollections s' := by
  have hok : (setOne 0x20000).map Prod.fst = some .ok := by decide +kernel
  obtain ⟨⟨ret, s'⟩, hs, rfl⟩ := Option.map_eq_some_iff.1 hok
  refine ⟨s', hs, (setMembers_agree Env.calm_runsSql (by decide) hs).1 (.inr (.inr ?_))⟩
  have hmem : ∀ oid, twoCollections.db.IsMember 0x20000 0x10000 oid ↔ oid = 0x20000 := by
    intro oid
    rw [Db.IsMember, twoCollections_coll]
    simp only [List.mem_singleton, exists_eq_left, CollRow.key, Prod.mk.injEq]
    exact ⟨fun h => bindInt64_inj.1 h.2.2.symm, by rintro rfl; exact ⟨rfl, rfl, rfl⟩⟩
  refine ⟨by decide, fun o => ?_, fun oid hm => ?_, fun l₁ e l₂ hl => ?_⟩
  · rw [Db.Selects, twoCollections_coll]
    simp only [List.mem_singleton, exists_eq_left, hmem, exists_eq_right]
    exact ⟨fun h => h.2.symm, fun h => ⟨rfl, h.symm⟩⟩
  · obtain rfl := (hmem oid).1 hm
    decide +kernel
  · have he : e ∈ [(⟨0x10000, 5, [7]⟩ : SetEntry)] := hl ▸ List.mem_append_right _ List.mem_cons_self
    obtain rfl := List.mem_singleton.1 he
    exact ⟨⟨by decide, by decide, by decide, nofun, by decide, nofun⟩, .inl (List.cons_ne_nil _ _)⟩

/-- Setting attributes on the members of an empty collection stores them under its partition for the
members of another partition's collection. -/
theorem setMembers_other_partition : ¬ ∀ (env : Env) (s s' : Target) (pid cid : UInt64)
    (setAttr : List SetEntry),
    env.RunsSql → (∀ e ∈ setAttr, e.value.length < 2 ^ 16) →
    osdSetMemberAttributes env pid cid setAttr s = some (.ok, s') →
    SetsLikeEach env pid cid setAttr s s' := by
  intro h
  have hok : (setOne 0x10000).map Prod.fst = some .ok := by decide +kernel
  obtain ⟨⟨ret, s'⟩, hs, rfl⟩ := Option.map_eq_some_iff.1 hok
  have hlike := h _ _ _ _ _ _ Env.calm_runsSql (by decide) hs
  have hrow : (setOne 0x10000).map (fun p => decide (⟨0x10000, 0x20000, 0x10000, 5, some [7]⟩ ∈ p.2.db.attr))
      = some true := by decide +kernel
  have hnot : (⟨0x10000, 0x20000, 0x10000, 5, some [7]⟩ : AttrRow) ∉ twoCollections.db.attr := by decide +kernel
  rw [hs] at hrow
  refine hnot ((hlike.frame _ ?_).1 (of_decide_eq_true (Option.some.inj hrow)))
  rintro ⟨oid, ⟨r, hr, hkey⟩, -⟩
  rw [twoCollections_coll, List.mem_singleton] at hr
  rw [hr] at hkey
  have hpid : (0x20000 : Int) = bindInt64 0x10000 := (Prod.ext_iff.1 hkey).1
  exact absurd hpid (by decide)

end OsdTarget
