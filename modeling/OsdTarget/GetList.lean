import OsdTarget.Decoding
import OsdTarget.System
import Mathlib.Data.List.Forall2

/-!
# GET lists are answered request by request

A list of single attributes of user objects.  Every request is answered by one of several page
handlers: the current command, the timestamps, the user information page, and the table of stored
attributes for everything else.
-/

namespace OsdTarget

open Base

/-! ## What is asked for -/

/-- One attribute of one object. -/
structure Request where
  page : UInt32
  number : UInt32
  oid : UInt64
  deriving DecidableEq, Repr

/-- For each pair, the objects in ascending order. -/
def requests (entries : List (UInt32 × UInt32)) (oid : UInt64) (numoid : UInt16) : List Request :=
  entries.flatMap fun e => (List.range numoid.toNat).map fun k => ⟨e.1, e.2, oid + UInt64.ofNat k⟩

/-- The value stored for an attribute. -/
def Db.attribute (d : Db) (pid oid : UInt64) (page number : UInt32) : Option (List UInt8) :=
  (d.attr.find? fun r => r.key = (bindInt64 pid, bindInt64 oid, bindInt page, bindInt number)).map
    AttrRow.value

/-- The collection a pointer of the object names. -/
def Db.pointer (d : Db) (pid oid : UInt64) (number : UInt32) : Option (List UInt8) :=
  if UCAP_COLL_PTR_LB ≤ number ∧ number ≤ UCAP_COLL_PTR_UB then
    (d.coll.find? fun r => r.pointer = (bindInt64 pid, bindInt64 oid, bindInt number)).map
      fun r => htonll (columnInt64 r.cid)
  else none

def valueBytes (v : UInt16 × Mem) : List UInt8 := v.2.read 0 v.1.toNat

variable (env : Env)

/-- The value of an attribute of a user object, `none` when it is not defined. -/
def attributeValue (s : Target) (pid oid : UInt64) (page number : UInt32) : Option (List UInt8) :=
  if page = CUR_CMD_ATTR_PG then (ccapVal s.ccap number).map valueBytes
  else if page = USER_TMSTMP_PG then (utsapVal env s pid oid number).map valueBytes
  else if page = USER_INFO_PG then
    if number = UIAP_USERNAME then s.db.attribute pid oid page number
    else if number = UIAP_OID then some (htonll oid)
    else (userInfoVal env s pid oid number).map valueBytes
  else if page = USER_COLL_PG then s.db.pointer pid oid number
  else s.db.attribute pid oid page number

/-- The entry a request asks for: page and number as they are, the value or length 0. -/
def expected (s : Target) (pid : UInt64) (numoid : UInt16) (r : Request) : Entry :=
  ⟨tagOf (replyFormat numoid) r.oid, r.page, r.number,
    (attributeValue env s pid r.oid r.page r.number).getD []⟩

/-- The room an entry takes. -/
def Entry.size (e : Entry) : Nat := tagLen e.oid.isSome + roundup8 (LE_VAL_OFF + e.value.length)

/-- The reply decodes as `es` under the type in its header. -/
def ReplyDecodes (cmd : Command) (s' : Target) (es : List Entry) : Prop :=
  let bytes := s'.reply.read (cmd.outbuf + 8) (getNtohl s'.reply (cmd.outbuf + 4)).toNat
  s'.reply cmd.outbuf = RTRVD_SET_ATTR_LIST ∧ Decodes false bytes es ∨
    s'.reply cmd.outbuf = RTRVD_CREATE_MULTIOBJ_LIST ∧ Decodes true bytes es

/-- The pages and numbers of the list to get. -/
def Command.getList (cmd : Command) : List (UInt32 × UInt32) :=
  getEntries cmd (getattrListOff cmd).toNat (getattrListLen cmd).toNat

/-- `get_attr_list` succeeds, and its reply holds the entry each request asks for, in order. -/
def AnswersInOrder (cmd : Command) (pid oid : UInt64) (numoid : UInt16) (used : UInt32) (s : Target) :
    Prop :=
  ∃ u s', getAttrList env cmd pid oid true numoid used s = some ((.ok, u), s') ∧
    ReplyDecodes cmd s' ((requests cmd.getList oid numoid).map (expected env s pid numoid))

/-! ## When a request can be answered -/

/-- `stat` on the data file fails. -/
def Target.statFails (s : Target) (pid oid : UInt64) : Bool :=
  (s.lookup env pid oid).isNone || env.sysFails (.stat pid oid)

def Target.statfsFails (s : Target) (pid oid : UInt64) : Bool :=
  (s.lookup env pid oid).isNone || env.sysFails (.statfs pid oid)

/-- The timestamps that can be had. -/
def TmstmpKnown (s : Target) (pid oid : UInt64) (number : UInt32) : Prop :=
  number = 0 ∨
  (number = UTSAP_CTIME ∨ number = UTSAP_DATA_ATIME ∨ number = UTSAP_DATA_MTIME) ∧
    s.statFails env pid oid = false ∨
  (number = UTSAP_ATTR_ATIME ∨ number = UTSAP_ATTR_MTIME) ∧ s.dbStatFails env = false

/-- The computed user information attributes that can be had; the object id is the partition's. -/
def InfoKnown (s : Target) (pid oid : UInt64) (number : UInt32) : Prop :=
  number = 0 ∨ number = UIAP_PID ∨ number = UIAP_OID ∧ pid = oid ∨
  (number = UIAP_USED_CAPACITY ∨ number = UIAP_LOGICAL_LEN) ∧ s.statFails env pid oid = false ∨
  number = PARTITION_CAPACITY_QUOTA ∧ s.statfsFails env pid oid = false

/-- The statement that retrieves attributes of the object is not refused. -/
def RtrvlOk (s : Target) (pid oid : UInt64) : Prop :=
  env.queryFails (.attrRtrvl (bindInt64 pid) (bindInt64 oid)) s.db = false

/-- What is left of a value when its length is cut to 16 bits. -/
def reported (v : List UInt8) : List UInt8 := v.take (v.length % 2 ^ 16)

/-- The request gets the entry it asks for. -/
def Answerable (s : Target) (pid : UInt64) (numoid : UInt16) (r : Request) : Prop :=
  env.queryFails (.objGetType (bindInt64 pid) (bindInt64 r.oid)) s.db = false ∧
  if r.page = CUR_CMD_ATTR_PG then numoid = 1 ∧ r.number ≤ CCAP_APPADDR
  else if r.page = USER_TMSTMP_PG then TmstmpKnown env s pid r.oid r.number
  else if r.page = USER_INFO_PG then
    if r.number = UIAP_USERNAME then RtrvlOk env s pid r.oid ∧
      ∃ v, s.db.attribute pid r.oid r.page r.number = some v ∧ v.length < 2 ^ 16
    else InfoKnown env s pid r.oid r.number
  else RtrvlOk env s pid r.oid ∧
    if r.page = USER_COLL_PG then
      reported ((s.db.attribute pid r.oid r.page r.number).getD [])
        = (s.db.pointer pid r.oid r.number).getD []
    else ∀ v, s.db.attribute pid r.oid r.page r.number = some v → v.length < 2 ^ 16

section Decide

variable {α : Type} {p : α → Prop} [DecidablePred p]

instance decidableExistsSome : (o : Option α) → Decidable (∃ v, o = some v ∧ p v)
  | none => isFalse fun ⟨_, h, _⟩ => nomatch h
  | some v => decidable_of_iff (p v) ⟨fun h => ⟨v, rfl, h⟩, fun ⟨_, hw, h⟩ => Option.some.inj hw ▸ h⟩

instance decidableForallSome : (o : Option α) → Decidable (∀ v, o = some v → p v)
  | none => isTrue fun _ h => nomatch h
  | some v => decidable_of_iff (p v) ⟨fun h _ hw => Option.some.inj hw ▸ h, fun h => h v rfl⟩

instance (s : Target) (pid oid : UInt64) (number : UInt32) : Decidable (TmstmpKnown env s pid oid number) :=
  inferInstanceAs (Decidable (_ ∨ _))

instance (s : Target) (pid oid : UInt64) (number : UInt32) : Decidable (InfoKnown env s pid oid number) :=
  inferInstanceAs (Decidable (_ ∨ _))

instance (s : Target) (pid oid : UInt64) : Decidable (RtrvlOk env s pid oid) :=
  inferInstanceAs (Decidable (_ = _))

instance (s : Target) (pid : UInt64) (numoid : UInt16) (r : Request) :
    Decidable (Answerable env s pid numoid r) :=
  inferInstanceAs (Decidable (_ ∧ ite _ _ _))

end Decide

/-! ## What the handlers answer -/

/-- The item a request is answered with, `none` when its handler fails. -/
def answerItem (s : Target) (pid : UInt64) (listfmt : UInt8) (r : Request) : Option Item :=
  let tag := tagOf listfmt r.oid
  let computed (v : UInt16 × Mem) : Item := ⟨tag, r.page, r.number, v.1, some v.2⟩
  let stored (v : List UInt8) : Item := ⟨tag, r.page, r.number, UInt16.ofNat v.length, some (blobMem v)⟩
  let refused := env.queryFails (.attrRtrvl (bindInt64 pid) (bindInt64 r.oid)) s.db
  let value := s.db.attribute pid r.oid r.page r.number
  if env.queryFails (.objGetType (bindInt64 pid) (bindInt64 r.oid)) s.db then none
  else if r.page = CUR_CMD_ATTR_PG then
    (ccapVal s.ccap r.number).map fun v => ⟨none, r.page, r.number, v.1, some v.2⟩
  else if r.page = USER_TMSTMP_PG then (utsapVal env s pid r.oid r.number).map computed
  else if r.page = USER_INFO_PG then
    if r.number = UIAP_USERNAME then if refused then none else value.map stored
    else (userInfoVal env s pid r.oid r.number).map computed
  else if refused then none
  else match value with
    | some v => some (stored v)
    | none => some ⟨tag, r.page, r.number, 0, none⟩

section Answers

variable {env} {s : Target} {pid : UInt64} {numoid : UInt16} {listfmt : UInt8} {r : Request}

/-- What an answered request does to the item. -/
theorem answerItem_spec {x : Item} (h : answerItem env s pid listfmt r = some x) :
    x.Wf ∧ x.page = r.page ∧ (x.oid = tagOf listfmt r.oid ∨ r.page = CUR_CMD_ATTR_PG ∧ x.oid = none) := by
  have hsome : ∀ {tag : Option UInt64} {l : UInt16} {m : Mem},
      (⟨tag, r.page, r.number, l, some m⟩ : Item).Wf := fun h => nomatch h
  have hmap : ∀ {tag : Option UInt64} {v : Option (UInt16 × Mem)},
      v.map (fun v => (⟨tag, r.page, r.number, v.1, some v.2⟩ : Item)) = some x →
      x.Wf ∧ x.page = r.page ∧ x.oid = tag := by
    intro tag v hv
    obtain ⟨w, -, rfl⟩ := Option.map_eq_some_iff.1 hv
    exact ⟨hsome, rfl, rfl⟩
  unfold answerItem at h
  dsimp only at h
  by_cases htype : env.queryFails (.objGetType (bindInt64 pid) (bindInt64 r.oid)) s.db = true
  · rw [if_pos htype] at h
    cases h
  rw [if_neg htype] at h
  by_cases hcur : r.page = CUR_CMD_ATTR_PG
  · rw [if_pos hcur] at h
    obtain ⟨h1, h2, h3⟩ := hmap h
    exact ⟨h1, h2, .inr ⟨hcur, h3⟩⟩
  rw [if_neg hcur] at h
  by_cases hts : r.page = USER_TMSTMP_PG
  · rw [if_pos hts] at h
    obtain ⟨h1, h2, h3⟩ := hmap h
    exact ⟨h1, h2, .inl h3⟩
  rw [if_neg hts] at h
  by_cases hui : r.page = USER_INFO_PG
  · rw [if_pos hui] at h
    by_cases hname : r.number = UIAP_USERNAME
    · rw [if_pos hname] at h
      split at h
      · cases h
      · obtain ⟨w, -, rfl⟩ := Option.map_eq_some_iff.1 h
        exact ⟨hsome, rfl, .inl rfl⟩
    · rw [if_neg hname] at h
      obtain ⟨h1, h2, h3⟩ := hmap h
      exact ⟨h1, h2, .inl h3⟩
  rw [if_neg hui] at h
  split at h
  · cases h
  · split at h
    · cases h
      exact ⟨hsome, rfl, .inl rfl⟩
    · cases h
      exact ⟨fun _ => rfl, rfl, .inl rfl⟩

/-- A computed value is the value asked for, whenever there is one. -/
theorem computed_iff {tag : Option UInt64} {v : Option (UInt16 × Mem)} :
    (∃ x : Item, v.map (fun v => ⟨tag, r.page, r.number, v.1, some v.2⟩) = some x ∧
      x.entry = ⟨tag, r.page, r.number, (v.map valueBytes).getD []⟩) ↔ v.isSome = true := by
  cases v with
  | none => exact ⟨fun ⟨_, h, _⟩ => (nomatch h), fun h => (nomatch h)⟩
  | some v => exact ⟨fun _ => rfl, fun _ => ⟨_, rfl, rfl⟩⟩

theorem reported_eq {v : List UInt8} : reported v = v ↔ v.length < 2 ^ 16 := by
  have hlt := Nat.mod_lt v.length (show 0 < 2 ^ 16 by decide)
  unfold reported
  constructor
  · intro h
    have hl := congrArg List.length h
    rw [List.length_take] at hl
    omega
  · intro h
    rw [Nat.mod_eq_of_lt h, List.take_length]

theorem stored_entry {tag : Option UInt64} {v : List UInt8} :
    Item.entry ⟨tag, r.page, r.number, UInt16.ofNat v.length, some (blobMem v)⟩
      = ⟨tag, r.page, r.number, reported v⟩ := by
  have hlen : (UInt16.ofNat v.length).toNat = v.length % 2 ^ 16 := UInt16.toNat_ofNat'
  have hle : v.length % 2 ^ 16 ≤ v.length := Nat.mod_le _ _
  have hval : (blobMem v).read 0 (UInt16.ofNat v.length).toNat = reported v := by
    have hall := read_blobMem v
    rw [show v.length = v.length % 2 ^ 16 + (v.length - v.length % 2 ^ 16) by omega, Mem.read_add] at hall
    have htake := congrArg (List.take (v.length % 2 ^ 16)) hall
    rw [List.take_left' (Mem.read_length _ _ _)] at htake
    rw [hlen]
    exact htake
  show Entry.mk tag r.page r.number ((blobMem v).read 0 _) = _
  rw [hval]

theorem ccapVal_isSome (c : Ccap) (number : UInt32) :
    (ccapVal c number).isSome = true ↔ number ≤ CCAP_APPADDR := by
  have hle : number ≤ CCAP_APPADDR ↔ number = 0 ∨ number = CCAP_RICV ∨ number = CCAP_OBJT ∨
      number = CCAP_PID ∨ number = CCAP_OID ∨ number = CCAP_APPADDR := by
    simp only [UInt32.le_iff_toNat_le, ← UInt32.toNat_inj]
    have h : CCAP_RICV.toNat = 1 ∧ CCAP_OBJT.toNat = 2 ∧ CCAP_PID.toNat = 3 ∧ CCAP_OID.toNat = 4 ∧
        CCAP_APPADDR.toNat = 5 ∧ (0 : UInt32).toNat = 0 := by decide
    omega
  rw [hle]
  unfold ccapVal
  split_ifs <;> simp_all

theorem utsapVal_isSome (oid : UInt64) (number : UInt32) :
    (utsapVal env s pid oid number).isSome = true ↔ TmstmpKnown env s pid oid number := by
  unfold utsapVal TmstmpKnown Target.statFails
  dsimp only
  cases (s.lookup env pid oid).isNone || env.sysFails (.stat pid oid) <;>
  cases s.dbStatFails env <;>
  simp only [UTSAP_CTIME, UTSAP_DATA_ATIME, UTSAP_DATA_MTIME, UTSAP_ATTR_ATIME, UTSAP_ATTR_MTIME] <;>
  split_ifs <;> simp_all

/-- The computed user information, which is the value asked for unless the object id is. -/
theorem userInfoVal_iff {oid : UInt64} {number : UInt32} (hoid : oid ≠ 0) :
    ((userInfoVal env s pid oid number).isSome = true ∧ (number = UIAP_OID → pid = oid)) ↔
      InfoKnown env s pid oid number := by
  unfold userInfoVal InfoKnown Target.statFails Target.statfsFails
  dsimp only
  rw [if_neg hoid]
  cases s.lookup env pid oid <;> cases env.sysFails (.stat pid oid) <;>
  cases env.sysFails (.statfs pid oid) <;>
  simp only [UIAP_PID, UIAP_OID, UIAP_USED_CAPACITY, UIAP_LOGICAL_LEN, PARTITION_CAPACITY_QUOTA] <;>
  split_ifs <;> simp_all

/-- A stored value is retrieved when the query is not refused. -/
theorem stored_iff {tag : Option UInt64} {refused : Bool} {v : Option (List UInt8)} :
    (∃ x : Item, (if refused = true then none else v.map fun v =>
        ⟨tag, r.page, r.number, UInt16.ofNat v.length, some (blobMem v)⟩) = some x ∧
      x.entry = ⟨tag, r.page, r.number, v.getD []⟩) ↔
      refused = false ∧ ∃ w, v = some w ∧ w.length < 2 ^ 16 := by
  cases refused with
  | true => exact ⟨fun ⟨_, h, _⟩ => (nomatch h), fun h => (nomatch h.1)⟩
  | false =>
    cases v with
    | none => exact ⟨fun ⟨_, h, _⟩ => (nomatch h), fun ⟨_, _, h, _⟩ => (nomatch h)⟩
    | some v =>
      constructor
      · rintro ⟨x, hx, he⟩
        cases hx
        rw [stored_entry] at he
        exact ⟨rfl, v, rfl, reported_eq.1 (congrArg Entry.value he)⟩
      · rintro ⟨-, w, hw, hlt⟩
        cases hw
        exact ⟨_, rfl, by rw [stored_entry, reported_eq.2 hlt]; rfl⟩

/-- A stored value or the entry of length 0, against the value asked for. -/
theorem storedOrNull_iff {tag : Option UInt64} {refused : Bool} {v : Option (List UInt8)}
    {w : List UInt8} :
    (∃ x : Item, (if refused = true then none else match v with
        | some v => some ⟨tag, r.page, r.number, UInt16.ofNat v.length, some (blobMem v)⟩
        | none => some ⟨tag, r.page, r.number, 0, none⟩) = some x ∧
      x.entry = ⟨tag, r.page, r.number, w⟩) ↔ refused = false ∧ reported (v.getD []) = w := by
  cases refused with
  | true => exact ⟨fun ⟨_, h, _⟩ => (nomatch h), fun h => (nomatch h.1)⟩
  | false =>
    have hone : ∀ x : Item, (∃ y : Item, some x = some y ∧ y.entry = ⟨tag, r.page, r.number, w⟩) ↔
        x.entry = ⟨tag, r.page, r.number, w⟩ :=
      fun x => ⟨fun ⟨y, hy, he⟩ => Option.some.inj hy ▸ he, fun h => ⟨x, rfl, h⟩⟩
    have heq : ∀ a : List UInt8, Entry.mk tag r.page r.number a = ⟨tag, r.page, r.number, w⟩ ↔ a = w :=
      fun a => ⟨congrArg Entry.value, fun h => h ▸ rfl⟩
    cases v with
    | none => exact (hone _).trans ((heq []).trans (and_iff_right rfl).symm)
    | some v =>
      refine (hone _).trans ?_
      rw [stored_entry]
      exact (heq (reported v)).trans (and_iff_right rfl).symm

/-- **A request gets the entry it asks for exactly when it is answerable.** -/
theorem answerItem_iff (hnum : 1 ≤ numoid) (hoid : r.oid ≠ 0) :
    (∃ x, answerItem env s pid (replyFormat numoid) r = some x ∧
      x.entry = expected env s pid numoid r) ↔ Answerable env s pid numoid r := by
  unfold answerItem Answerable expected attributeValue
  dsimp only
  by_cases htype : env.queryFails (.objGetType (bindInt64 pid) (bindInt64 r.oid)) s.db = true
  · rw [if_pos htype, htype]
    exact ⟨fun ⟨_, h, _⟩ => (nomatch h), fun h => (nomatch h.1)⟩
  rw [if_neg htype, and_iff_right (by simpa using htype)]
  by_cases hcur : r.page = CUR_CMD_ATTR_PG
  · rw [if_pos hcur, if_pos hcur, if_pos hcur, ← ccapVal_isSome s.ccap]
    have hone : numoid = 1 ↔ tagOf (replyFormat numoid) r.oid = none := by
      rw [UInt16.le_iff_toNat_le] at hnum
      have h1 : (1 : UInt16).toNat = 1 := rfl
      unfold replyFormat
      by_cases hlt : 1 < numoid
      · rw [if_pos hlt]
        refine ⟨fun h => ?_, fun h => nomatch h⟩
        rw [h] at hlt
        exact absurd hlt (by decide)
      · rw [if_neg hlt]
        refine ⟨fun _ => rfl, fun _ => UInt16.toNat_inj.1 ?_⟩
        rw [UInt16.lt_iff_toNat_lt] at hlt
        omega
    cases hv : ccapVal s.ccap r.number with
    | none => exact ⟨fun ⟨_, h, _⟩ => (nomatch h), fun h => (nomatch h.2)⟩
    | some v =>
      rw [hone]
      constructor
      · rintro ⟨x, hx, he⟩
        cases hx
        exact ⟨(congrArg Entry.oid he).symm, rfl⟩
      · rintro ⟨htag, -⟩
        rw [htag]
        exact ⟨_, rfl, rfl⟩
  rw [if_neg hcur, if_neg hcur, if_neg hcur]
  by_cases hts : r.page = USER_TMSTMP_PG
  · rw [if_pos hts, if_pos hts, if_pos hts]
    exact computed_iff.trans (utsapVal_isSome _ _)
  rw [if_neg hts, if_neg hts, if_neg hts]
  by_cases hui : r.page = USER_INFO_PG
  · rw [if_pos hui, if_pos hui, if_pos hui]
    by_cases hname : r.number = UIAP_USERNAME
    · rw [if_pos hname, if_pos hname, if_pos hname]
      exact stored_iff
    · rw [if_neg hname, if_neg hname, if_neg hname, ← userInfoVal_iff hoid]
      by_cases hid : r.number = UIAP_OID
      · -- the value is the partition's id
        have hval : userInfoVal env s pid r.oid r.number = some (8, blobMem (htonll pid)) := by
          rw [hid]
          rfl
        rw [if_pos hid, hval]
        constructor
        · rintro ⟨x, hx, he⟩
          cases hx
          have hv : (blobMem (htonll pid)).read 0 8 = htonll r.oid := congrArg Entry.value he
          rw [read_htonll] at hv
          exact ⟨rfl, fun _ => htonll_inj hv⟩
        · rintro ⟨-, hp⟩
          refine ⟨_, rfl, ?_⟩
          show Entry.mk _ _ _ ((blobMem (htonll pid)).read 0 8) = _
          rw [read_htonll, hp hid]
          rfl
      · rw [if_neg hid, computed_iff, and_iff_left fun h => absurd h hid]
  rw [if_neg hui, if_neg hui, if_neg hui, storedOrNull_iff]
  refine and_congr_right fun _ => ?_
  by_cases hcoll : r.page = USER_COLL_PG
  · rw [if_pos hcoll, if_pos hcoll]
  · rw [if_neg hcoll, if_neg hcoll, reported_eq]
    cases s.db.attribute pid r.oid r.page r.number with
    | none => exact ⟨fun _ _ h => (nomatch h), fun _ => by decide⟩
    | some v =>
      constructor
      · rintro h _ ⟨⟩
        exact h
      · exact fun h => h v rfl

end Answers

/-! ## Handlers and answers -/

section Handlers

variable {env} {s : Target} {pid : UInt64} {listfmt : UInt8} {r : Request}

/-- The request is for a single attribute, on a page of user objects, of a user object. -/
structure Proper (s : Target) (pid : UInt64) (r : Request) : Prop where
  id : isUserobjectId pid r.oid = true
  type : s.db.typeOf (bindInt64 pid) (bindInt64 r.oid) = .userobject
  page : isgettablePage .userobject r.page = true
  single : IsSingle r.page r.number

instance : Decidable (Proper s pid r) :=
  decidable_of_iff (isUserobjectId pid r.oid = true ∧
    s.db.typeOf (bindInt64 pid) (bindInt64 r.oid) = .userobject ∧
    isgettablePage .userobject r.page = true ∧ r.page ≠ GETALLATTR_PG ∧ r.number ≠ ATTRNUM_GETALL)
    ⟨fun ⟨h1, h2, h3, h4⟩ => ⟨h1, h2, h3, h4⟩, fun h => ⟨h.id, h.type, h.page, h.single⟩⟩

theorem Proper.oid_ne_zero (h : Proper s pid r) : r.oid ≠ 0 := by
  have hid := h.id
  simp only [isUserobjectId, Bool.and_eq_true, decide_eq_true_eq] at hid
  intro h0
  rw [h0] at hid
  exact absurd hid.2 (by decide)

theorem getObjType_of_id {oid : UInt64} (h : isUserobjectId pid oid = true) (s : Target) :
    getObjType env pid oid s
      = some (if env.queryFails (.objGetType (bindInt64 pid) (bindInt64 oid)) s.db then .illegal
        else s.db.typeOf (bindInt64 pid) (bindInt64 oid), s) := by
  simp only [isUserobjectId, Bool.and_eq_true, decide_eq_true_eq] at h
  obtain ⟨hp, ho⟩ := h
  have ho0 : oid ≠ 0 := by
    rintro rfl
    exact absurd ho (by decide)
  unfold getObjType
  rw [if_neg fun h => ho0 h.2, if_neg fun h => ho0 h.2, if_pos ⟨hp, ho⟩]
  unfold objGetType dbExecQuery
  simp only [bind, StateT.bind, get, getThe, MonadStateOf.get, StateT.get, pure, Option.bind_some]
  by_cases hf : env.queryFails (.objGetType (bindInt64 pid) (bindInt64 oid)) s.db = true
  · rw [if_pos hf, if_pos hf]
    rfl
  · rw [if_neg hf, if_neg hf]
    rfl

/-- The pages of user objects end where those of partitions begin; the current command is far above. -/
theorem gettable_userobject {page : UInt32} (h : isgettablePage .userobject page = true) :
    page.toNat < 0x30000000 ∨ 0xF0000000 ≤ page.toNat := by
  unfold isgettablePage checkValidPg at h
  dsimp only at h
  split at h
  · right
    exact UInt32.le_iff_toNat_le.1 (of_decide_eq_true h)
  · rename_i hv
    left
    exact UInt32.lt_iff_toNat_lt.1 (by simpa using hv)

theorem rowItems_attribute (hkeys : (s.db.attr.map AttrRow.key).Nodup) (tag : Option UInt64) :
    rowItems env s pid r.oid tag (.attr r.page r.number)
      = if env.queryFails (.attrRtrvl (bindInt64 pid) (bindInt64 r.oid)) s.db then none
        else some ((s.db.attribute pid r.oid r.page r.number).map fun v =>
          (⟨tag, r.page, r.number, UInt16.ofNat v.length, some (blobMem v)⟩ : Item)).toList := by
  unfold rowItems Rtrvl.rows Db.attribute
  dsimp only
  rw [filter_key hkeys]
  split
  · rfl
  · cases hf : s.db.attr.find? fun x =>
      x.key = (bindInt64 pid, bindInt64 r.oid, bindInt r.page, bindInt r.number) with
    | none => rfl
    | some row =>
      have hkey : row.key = (bindInt64 pid, bindInt64 r.oid, bindInt r.page, bindInt r.number) := by
        simpa using List.find?_some hf
      obtain ⟨-, hrest⟩ := Prod.ext_iff.1 hkey
      obtain ⟨-, hrest⟩ := Prod.ext_iff.1 hrest
      obtain ⟨hpage, hnumber⟩ := Prod.ext_iff.1 hrest
      have hp : columnInt row.page = r.page := by
        rw [show row.page = bindInt r.page from hpage, columnInt_bindInt]
      have hn : columnInt row.number = r.number := by
        rw [show row.number = bindInt r.number from hnumber, columnInt_bindInt]
      show some [rowItem tag row] = some [_]
      rw [rowItem, hp, hn]

/-- **The handlers answer a proper request with one item, or fail**, and change nothing. -/
theorem retrieve_request (hr : Proper s pid r) (hkeys : (s.db.attr.map AttrRow.key).Nodup) :
    retrieve env pid r.oid r.page r.number true listfmt s
      = some ((answerItem env s pid listfmt r).map fun x => [x], s) := by
  have hpg := gettable_userobject hr.page
  have hne : ∀ {p : UInt32}, 0x30000000 ≤ p.toNat → p.toNat < 0xF0000000 → r.page ≠ p := by
    rintro p h1 h2 rfl
    omega
  unfold retrieve
  rw [bind_of_some (getObjType_of_id hr.id s)]
  unfold answerItem
  dsimp only
  by_cases htype : env.queryFails (.objGetType (bindInt64 pid) (bindInt64 r.oid)) s.db = true
  · rw [if_pos htype, if_pos htype, if_pos rfl]
    rfl
  rw [if_neg htype, if_neg htype, hr.type, if_neg (by simp), if_neg (by rw [hr.page]; simp)]
  have hlazy : lazyInitAttr env pid r.oid r.page r.number s = some (.ok, s) := by
    unfold lazyInitAttr
    rw [if_pos (.inl hr.single)]
    rfl
  rw [bind_of_some hlazy, if_neg (by simp), bind_get]
  -- what the page handler gives, and the entry of length 0 in place of nothing
  refine Eq.trans (b := some ((pageItems env s pid r.oid r.page r.number listfmt).map
    (fillNull (tagOf listfmt r.oid) r.page r.number), s)) ?_ (congrArg (fun ans => some (ans, s)) ?_)
  · cases pageItems env s pid r.oid r.page r.number listfmt <;> rfl
  have hfill : ∀ {tag : Option UInt64} {v : Option (UInt16 × Mem)},
      (valItems tag r.page r.number v).map (fillNull (tagOf listfmt r.oid) r.page r.number)
        = (v.map fun v => (⟨tag, r.page, r.number, v.1, some v.2⟩ : Item)).map fun x => [x] := by
    intro tag v
    cases v <;> rfl
  unfold pageItems
  dsimp only
  by_cases hcur : r.page = CUR_CMD_ATTR_PG
  · rw [if_pos hcur, if_pos hcur, ← hcur]
    exact hfill
  rw [if_neg hcur, if_neg hcur]
  have hpts : r.page ≠ PARTITION_DIR_PG + USER_TMSTMP_PG := hne (by decide) (by decide)
  by_cases hts : r.page = USER_TMSTMP_PG
  · rw [if_pos (.inr hts), if_pos hts, ← hts]
    exact hfill
  rw [if_neg (fun h => h.elim hpts hts), if_neg hts]
  have hpq : r.page ≠ PARTITION_DIR_PG + USER_QUOTA_PG := hne (by decide) (by decide)
  have hpi : r.page ≠ PARTITION_DIR_PG + USER_INFO_PG := hne (by decide) (by decide)
  by_cases hui : r.page = USER_INFO_PG
  · rw [if_pos (.inr (.inr hui)), if_pos hui]
    unfold attrItems
    rw [if_pos hui]
    by_cases hname : r.number = UIAP_USERNAME
    · rw [if_pos hname, if_pos hname, ← hui, ← hname, rowItems_attribute hkeys]
      cases env.queryFails (.attrRtrvl (bindInt64 pid) (bindInt64 r.oid)) s.db <;>
      cases s.db.attribute pid r.oid r.page r.number <;> rfl
    · rw [if_neg hname, if_neg hname]
      cases userInfoVal env s pid r.oid r.number <;> rfl
  have hri : r.page ≠ ROOT_INFO_PG := hne (by decide) (by decide)
  rw [if_neg (fun h => h.elim hpq (Or.rec hpi hui)), if_neg hui, if_neg hri]
  have hq : rtrvlOf r.page r.number = .attr r.page r.number := by
    unfold rtrvlOf
    rw [if_neg hr.single.1, if_neg hr.single.2]
  rw [hq, rowItems_attribute hkeys]
  split
  · rfl
  · cases s.db.attribute pid r.oid r.page r.number with
    | none =>
      show some (fillNull _ _ _ []) = _
      rw [fillNull, if_pos ⟨rfl, hr.single⟩]
      rfl
    | some v => rfl

end Handlers

/-! ## The list -/

section List

variable {env} {s : Target} {pid : UInt64} {listfmt : UInt8}

/-- The answers to a list of requests, one item each. -/
def AnsweredBy (env : Env) (s : Target) (pid : UInt64) (listfmt : UInt8) (rs : List Request) :
    Option (List (List Item)) → Prop
  | some lists => ∃ xs, lists = singles xs ∧
      List.Forall₂ (fun r x => answerItem env s pid listfmt r = some x) rs xs
  | none => ∃ r ∈ rs, answerItem env s pid listfmt r = none

theorem AnsweredBy.append {rs rs' : List Request} {lists : List (List Item)}
    {ans : Option (List (List Item))} (h : AnsweredBy env s pid listfmt rs (some lists))
    (h' : AnsweredBy env s pid listfmt rs' ans) :
    AnsweredBy env s pid listfmt (rs ++ rs') (ans.map (lists ++ ·)) := by
  obtain ⟨xs, rfl, hxs⟩ := h
  cases ans with
  | none =>
    obtain ⟨r, hr, hnone⟩ := h'
    exact ⟨r, List.mem_append_right _ hr, hnone⟩
  | some lists' =>
    obtain ⟨xs', rfl, hxs'⟩ := h'
    exact ⟨xs ++ xs', List.map_append.symm, List.rel_append hxs hxs'⟩

theorem retrieveFrom_requests (hkeys : (s.db.attr.map AttrRow.key).Nodup) (page number : UInt32)
    (n : Nat) (i : UInt64)
    (hr : ∀ k < n, Proper s pid ⟨page, number, i + UInt64.ofNat k⟩) :
    ∃ ans, retrieveFrom env pid page number true listfmt n i s = some (ans, s) ∧
      AnsweredBy env s pid listfmt ((List.range n).map fun k =>
        ⟨page, number, i + UInt64.ofNat k⟩) ans := by
  induction n generalizing i with
  | zero => exact ⟨_, rfl, [], rfl, .nil⟩
  | succ n ih =>
    have h0 : i + UInt64.ofNat 0 = i := UInt64.add_zero i
    have hshift : ∀ k, i + UInt64.ofNat (k + 1) = i + 1 + UInt64.ofNat k := fun k => by
      rw [Nat.add_comm, UInt64.ofNat_add, UInt64.add_assoc]
      rfl
    have hrange : ((List.range (n + 1)).map fun k => (⟨page, number, i + UInt64.ofNat k⟩ : Request))
        = [⟨page, number, i⟩] ++ (List.range n).map fun k => ⟨page, number, i + 1 + UInt64.ofNat k⟩ := by
      rw [List.range_succ_eq_map, List.map_cons, List.map_map, h0]
      exact congrArg _ (List.map_congr_left fun k _ => congrArg _ (hshift k))
    have hfirst : retrieve env pid i page number true listfmt s = _ :=
      retrieve_request (h0 ▸ hr 0 (by omega)) hkeys
    obtain ⟨ans, hrun, hans⟩ := ih (i + 1) fun k hk => hshift k ▸ hr (k + 1) (by omega)
    rw [hrange, retrieveFrom, bind_of_some hfirst]
    cases hx : answerItem env s pid listfmt ⟨page, number, i⟩ with
    | none => exact ⟨none, rfl, _, List.mem_cons_self, hx⟩
    | some x =>
      have hone : AnsweredBy env s pid listfmt [⟨page, number, i⟩] (some (singles [x])) :=
        ⟨[x], rfl, .cons hx .nil⟩
      refine ⟨ans.map (singles [x] ++ ·), ?_, hone.append hans⟩
      dsimp only [Option.map_some]
      rw [bind_of_some hrun]
      cases ans <;> rfl

theorem retrieveList_requests (hkeys : (s.db.attr.map AttrRow.key).Nodup) {oid : UInt64}
    {numoid : UInt16} {entries : List (UInt32 × UInt32)}
    (hcount : entries = [] ∨ createCount oid numoid = numoid.toNat)
    (hr : ∀ r ∈ requests entries oid numoid, Proper s pid r) :
    ∃ ans, retrieveList env pid oid true listfmt numoid entries s = some (ans, s) ∧
      AnsweredBy env s pid listfmt (requests entries oid numoid) ans := by
  induction entries with
  | nil => exact ⟨_, rfl, [], rfl, .nil⟩
  | cons e entries ih =>
    replace hcount := hcount.resolve_left (List.cons_ne_nil _ _)
    have hcons : requests (e :: entries) oid numoid
        = (List.range numoid.toNat).map (fun k => ⟨e.1, e.2, oid + UInt64.ofNat k⟩) ++
          requests entries oid numoid := rfl
    rw [hcons] at hr ⊢
    obtain ⟨ans, hrun, hans⟩ : ∃ ans, retrieveFrom env pid e.1 e.2 true listfmt numoid.toNat oid s
        = some (ans, s) ∧ AnsweredBy env s pid listfmt _ ans :=
      retrieveFrom_requests hkeys e.1 e.2 numoid.toNat oid fun k hk =>
        hr _ (List.mem_append_left _ (List.mem_map.2 ⟨k, List.mem_range.2 hk, rfl⟩))
    obtain ⟨ans', hrun', hans'⟩ := ih (.inr hcount) fun r hr' => hr r (List.mem_append_right _ hr')
    rw [retrieveList, hcount, bind_of_some hrun]
    cases ans with
    | none =>
      obtain ⟨r, hmem, hnone⟩ := hans
      exact ⟨none, rfl, r, List.mem_append_left _ hmem, hnone⟩
    | some lists =>
      refine ⟨ans'.map (lists ++ ·), ?_, hans.append hans'⟩
      dsimp only
      rw [bind_of_some hrun']
      cases ans' <;> rfl

/-- A range that wraps is not gone over at all. -/
theorem retrieveList_none {oid : UInt64} {numoid : UInt16} (hcount : createCount oid numoid = 0)
    (entries : List (UInt32 × UInt32)) :
    retrieveList env pid oid true listfmt numoid entries s = some (some [], s) := by
  induction entries with
  | nil => rfl
  | cons e entries ih =>
    have hnone : retrieveFrom env pid e.1 e.2 true listfmt 0 oid s = some (some [], s) := rfl
    rw [retrieveList, hcount, bind_of_some hnone]
    dsimp only
    rw [bind_of_some ih]
    rfl

/-- The transaction that is begun does not matter to the answers. -/
theorem retrieveAnswers_eq (env : Env) (cmd : Command) (pid oid : UInt64) (numoid : UInt16)
    (off len : Nat) (s : Target) :
    ∃ b l, ∃ t : Target, t = { s.core with inTxn := b, txnCalls := l } ∧
      retrieveAnswers env cmd pid oid true numoid off len s.core
        = retrieveList env pid oid true (replyFormat numoid) numoid (getEntries cmd off len) t := by
  have hbegin : Ends (osdBeginTxn env) s.core fun _ t =>
      ∃ b l, t = { s.core with inTxn := b, txnCalls := l } := osdBeginTxn_ends fun _ b l => ⟨b, l, rfl⟩
  obtain ⟨_, t, ht, b, l, hsame⟩ := hbegin.of_halts halts_osdBeginTxn
  exact ⟨b, l, t, hsame, bind_of_some ht⟩

theorem retrieveAnswers_requests (hkeys : (s.db.attr.map AttrRow.key).Nodup) {cmd : Command}
    {oid : UInt64} {numoid : UInt16} {off len : Nat}
    (hcount : getEntries cmd off len = [] ∨ createCount oid numoid = numoid.toNat)
    (hr : ∀ r ∈ requests (getEntries cmd off len) oid numoid, Proper s pid r) :
    ∃ ans t', retrieveAnswers env cmd pid oid true numoid off len s.core = some (ans, t') ∧
      AnsweredBy env s pid (replyFormat numoid) (requests (getEntries cmd off len) oid numoid) ans := by
  obtain ⟨b, l, t, rfl, ht⟩ := retrieveAnswers_eq env cmd pid oid numoid off len s
  let t : Target := { s.core with inTxn := b, txnCalls := l }
  have hdb : t.db = s.db := rfl
  have hitem : answerItem env t = answerItem env s := rfl
  obtain ⟨ans, hrun, hans⟩ := retrieveList_requests (hdb ▸ hkeys) hcount
    (fun r hmem => (⟨(hr r hmem).id, hdb ▸ (hr r hmem).type, (hr r hmem).page, (hr r hmem).single⟩ :
      Proper t pid r))
  refine ⟨ans, t, ht.trans hrun, ?_⟩
  unfold AnsweredBy at hans ⊢
  rw [hitem] at hans
  exact hans

theorem halts_getFromObjects {isembedded : Bool} (page number : UInt32) (n : Nat) (i : UInt64)
    (c : GetCursor) : Halts (getFromObjects env pid page number isembedded listfmt n i c) := by
  induction n generalizing i c with
  | zero => exact halts_pure _
  | succ n ih =>
    exact halts_bind (halts_osdGetattrList _ _ _ _ _ _ _ _) fun _ => halts_ite (halts_pure _) (ih _ _)

theorem halts_getAttrListLoop {isembedded : Bool} (oid : UInt64) (numoid : UInt16)
    (entries : List (UInt32 × UInt32)) (c : GetCursor) :
    Halts (getAttrListLoop env pid oid isembedded listfmt numoid entries c) := by
  induction entries generalizing c with
  | nil => exact halts_pure _
  | cons e entries ih =>
    exact halts_bind (halts_getFromObjects _ _ _ _ _) fun _ => halts_ite (halts_pure _) (ih _)

theorem halts_withinTxn {α : Type} {body : OsdM α} (h : Halts body) : Halts (withinTxn env body) :=
  halts_bind halts_osdBeginTxn fun _ => halts_bind h fun _ =>
    halts_bind halts_osdEndTxn fun _ => halts_pure _

theorem halts_getAttrList (cmd : Command) (oid : UInt64) (isembedded : Bool) (numoid : UInt16)
    (used : UInt32) : Halts (getAttrList env cmd pid oid isembedded numoid used) := by
  unfold getAttrList
  split
  · exact halts_pure _
  · exact halts_pure _
  · refine halts_bind (halts_outWrite _ _) fun _ => halts_bind (halts_outWrite _ _) fun _ =>
      halts_bind (halts_withinTxn (halts_bind (halts_getAttrListLoop _ _ _ _) fun _ =>
        halts_ite (halts_bind (halts_outWrite _ _) fun _ => halts_pure _) (halts_pure _))) fun _ =>
      halts_pure _

end List

/-! ## Every request, in order -/

/-- A list to get lies in data-in as the format says, and the area for the reply is aligned. -/
structure GetListFormed (env : Env) (cmd : Command) : Prop where
  size : 8 ≤ (getattrListLen cmd).toNat
  aligned : (getattrListLen cmd - 8) &&& 7 = 0
  type : cmd.indata (getattrListOff cmd).toNat &&& 0xF = RTRV_ATTR_LIST
  offAligned : getattrListOff cmd &&& 7 = 0
  inside : (getattrListOff cmd).toNat + (getattrListLen cmd).toNat ≤ cmd.inlen.toNat
  outdata : cmd.hasOutdata = true
  allocAligned : cmd.allocLen &&& 7 = 0
  replyAligned : (env.outAddr + cmd.outbuf) % 8 = 0

/-- Data-in ends with the list: what it holds from the list on, counted in 32 bits, is no more. -/
def EndsWithList (cmd : Command) : Prop :=
  8 ≤ (listInLen cmd).toNat ∧ (listInLen cmd).toNat ≤ (getattrListLen cmd).toNat

section Main

variable {env : Env} {s s' : Target} {cmd : Command} {pid oid : UInt64} {numoid : UInt16}
  {used : UInt32}

/-- A list that is formed is taken exactly when data-in ends with it. -/
theorem GetListFormed.check (h : GetListFormed env cmd) :
    getAttrListCheck cmd = .use (getattrListOff cmd).toNat (getattrListLen cmd).toNat ↔
      EndsWithList cmd := by
  have hdef : getAttrListCheck cmd = getListCheck cmd := if_neg fun hno => hno.2 h.outdata
  rw [hdef, getListCheck_use]
  constructor
  · rintro ⟨htaken, -, -⟩
    exact ⟨htaken.header, htaken.notShort⟩
  · rintro ⟨hheader, hshort⟩
    exact ⟨⟨h.size, hheader, h.offAligned, h.allocAligned, h.type, h.aligned, hshort⟩, rfl, rfl⟩

/-- A list that succeeds was taken. -/
theorem GetListFormed.taken (h : GetListFormed env cmd) {u : UInt32}
    (hrun : getAttrList env cmd pid oid true numoid used s = some ((.ok, u), s')) :
    getAttrListCheck cmd = .use (getattrListOff cmd).toNat (getattrListLen cmd).toNat := by
  have hdef : getAttrListCheck cmd = getListCheck cmd := if_neg fun hno => hno.2 h.outdata
  cases hc : getAttrListCheck cmd with
  | nothing =>
    have h0 := getListCheck_nothing (hdef ▸ hc)
    have h8 := h.size
    rw [h0] at h8
    exact absurd h8 (by decide)
  | reject asc =>
    rw [getAttrList_reject hc] at hrun
    cases hrun
  | use off len =>
    obtain ⟨-, rfl, rfl⟩ := getListCheck_use.1 (hdef ▸ hc)
    rfl

theorem and7_mod {n : UInt32} (h : n &&& 7 = 0) : n.toNat % 8 = 0 := by
  have hn := congrArg UInt32.toNat h
  rw [UInt32.toNat_and] at hn
  exact (Nat.and_two_pow_sub_one_eq_mod n.toNat 3).symm.trans hn

/-- The object ids of a reply are those of its format. -/
theorem tagOf_isSome (numoid : UInt16) (oid : UInt64) :
    (tagOf (replyFormat numoid) oid).isSome = decide (1 < numoid) := by
  unfold replyFormat
  by_cases h : 1 < numoid
  · rw [if_pos h, decide_eq_true h]
    rfl
  · rw [if_neg h, decide_eq_false h]
    rfl

theorem Replied.decodes_iff {bytes : List UInt8} {u : UInt32} (h : Replied cmd numoid bytes u s')
    (es : List Entry) : ReplyDecodes cmd s' es ↔ Decodes (decide (1 < numoid)) bytes es := by
  unfold ReplyDecodes
  dsimp only
  rw [h.length, h.content, h.format]
  unfold replyFormat
  by_cases hlt : 1 < numoid
  · rw [if_pos hlt, decide_eq_true hlt]
    exact ⟨fun hd => hd.elim (fun hd => absurd hd.1 (by decide)) And.right, fun hd => .inr ⟨rfl, hd⟩⟩
  · rw [if_neg hlt, decide_eq_false hlt]
    exact ⟨fun hd => hd.elim And.right fun hd => absurd hd.1 (by decide), fun hd => .inl ⟨rfl, hd⟩⟩

/-- The items that answer a list are the entries asked for when all of its requests are answerable. -/
theorem entries_iff {rs : List Request} {xs : List Item} (hnum : 1 ≤ numoid)
    (hproper : ∀ r ∈ rs, Proper s pid r)
    (hxs : List.Forall₂ (fun r x => answerItem env s pid (replyFormat numoid) r = some x) rs xs) :
    xs.map Item.entry = rs.map (expected env s pid numoid) ↔ ∀ r ∈ rs, Answerable env s pid numoid r := by
  induction hxs with
  | nil => exact ⟨fun _ _ h => (nomatch h), fun _ => rfl⟩
  | @cons r x rs xs hx _ ih =>
    have hone : _ ↔ Answerable env s pid numoid r :=
      answerItem_iff hnum (hproper r List.mem_cons_self).oid_ne_zero
    have hentry : x.entry = expected env s pid numoid r ↔ Answerable env s pid numoid r := by
      rw [← hone, hx]
      exact ⟨fun h => ⟨x, rfl, h⟩, fun ⟨y, hy, h⟩ => Option.some.inj hy ▸ h⟩
    rw [List.map_cons, List.map_cons, List.cons.injEq, hentry, ih fun r' h =>
      hproper r' (List.mem_cons_of_mem _ h),
      List.forall_mem_cons]

/-- Answerable requests are answered. -/
theorem AnsweredBy.isSome {rs : List Request} (hnum : 1 ≤ numoid) (hproper : ∀ r ∈ rs, Proper s pid r)
    (hans : ∀ r ∈ rs, Answerable env s pid numoid r) {ans : Option (List (List Item))}
    (h : AnsweredBy env s pid (replyFormat numoid) rs ans) :
    ∃ xs, ans = some (singles xs) ∧
      List.Forall₂ (fun r x => answerItem env s pid (replyFormat numoid) r = some x) rs xs := by
  cases ans with
  | none =>
    obtain ⟨r, hr, hnone⟩ := h
    obtain ⟨x, hx, -⟩ := (answerItem_iff hnum (hproper r hr).oid_ne_zero).2 (hans r hr)
    rw [hnone] at hx
    cases hx
  | some lists =>
    obtain ⟨xs, rfl, hxs⟩ := h
    exact ⟨xs, rfl, hxs⟩

theorem answered_mem {rs : List Request} {xs : List Item} {listfmt : UInt8}
    (hxs : List.Forall₂ (fun r x => answerItem env s pid listfmt r = some x) rs xs) {x : Item}
    (hx : x ∈ xs) : ∃ r, answerItem env s pid listfmt r = some x := by
  obtain ⟨i, hi, rfl⟩ := List.getElem_of_mem hx
  exact ⟨_, hxs.get (by rw [hxs.length_eq]; exact hi) hi⟩

theorem requests_length (entries : List (UInt32 × UInt32)) (oid : UInt64) (numoid : UInt16) :
    (requests entries oid numoid).length = entries.length * numoid.toNat := by
  induction entries with
  | nil => exact (Nat.zero_mul _).symm
  | cons e entries ih =>
    have hcons : requests (e :: entries) oid numoid
        = (List.range numoid.toNat).map (fun k => ⟨e.1, e.2, oid + UInt64.ofNat k⟩) ++
          requests entries oid numoid := rfl
    rw [hcons, List.length_append, List.length_map, List.length_range, ih, List.length_cons,
      Nat.succ_mul, Nat.add_comm]

/-- Only the current command answers without the object id. -/
theorem answered_tags {rs : List Request} {xs : List Item}
    (hxs : List.Forall₂ (fun r x => answerItem env s pid (replyFormat numoid) r = some x) rs xs) :
    List.Forall₂ (fun x e => x.oid.isSome = decide (1 < numoid) ∨
      decide (1 < numoid) = true ∧ x.oid = none ∧ e.page ≠ 0) xs
      (rs.map (expected env s pid numoid)) := by
  rw [List.forall₂_map_right_iff]
  refine List.Forall₂.flip (hxs.imp fun r x h => ?_)
  rcases (answerItem_spec h).2.2 with htag | ⟨hcur, hnone⟩
  · exact .inl (htag ▸ tagOf_isSome numoid r.oid)
  · by_cases hlt : 1 < numoid
    · refine .inr ⟨decide_eq_true hlt, hnone, ?_⟩
      show r.page ≠ 0
      rw [hcur]
      decide
    · refine .inl ?_
      rw [hnone, decide_eq_false hlt]
      rfl

theorem expected_oid (r : Request) :
    (expected env s pid numoid r).oid.isSome = decide (1 < numoid) := tagOf_isSome numoid r.oid

theorem Item.size_eq {x : Item} (h : x.Wf) : x.size = x.entry.size := by
  unfold Item.size Entry.size Item.entry
  dsimp only
  rw [x.tag_length_eq, Item.value_length h]

theorem totalSize_eq {xs : List Item} (h : ∀ x ∈ xs, x.Wf) :
    totalSize xs = ((xs.map Item.entry).map Entry.size).sum := by
  rw [totalSize, List.map_map, List.map_congr_left fun x hx => Item.size_eq (h x hx)]
  rfl

/-- **GET list answers every request, in order**, exactly when data-in ends with the list, the range of
ids does not wrap, and each request is one that its page handler answers as asked. -/
theorem answersInOrder_iff (env : Env) (cmd : Command) (pid oid : UInt64) (numoid : UInt16)
    (used : UInt32) (s : Target) (hformed : GetListFormed env cmd) (hnum : 1 ≤ numoid)
    (hrange : oid.toNat + numoid.toNat ≤ 2 ^ 64) (hkeys : (s.db.attr.map AttrRow.key).Nodup)
    (hproper : ∀ r ∈ requests cmd.getList oid numoid, Proper s pid r)
    (hroom : 8 + (((requests cmd.getList oid numoid).map (expected env s pid numoid)).map Entry.size).sum
      ≤ cmd.allocLen.toNat) :
    AnswersInOrder env cmd pid oid numoid used s ↔
      EndsWithList cmd ∧ (cmd.getList = [] ∨ oid.toNat + numoid.toNat < 2 ^ 64) ∧
        ∀ r ∈ requests cmd.getList oid numoid, Answerable env s pid numoid r := by
  have hmod := and7_mod hformed.allocAligned
  have h8 : (cmd.allocLen.toNat - 8) % 8 = 0 := by omega
  have hpos : 0 < numoid.toNat := UInt16.le_iff_toNat_le.1 hnum
  have hreplies : getAttrListCheck cmd = .use (getattrListOff cmd).toNat (getattrListLen cmd).toNat →
      Ends (getAttrList env cmd pid oid true numoid used) s _ := fun hcheck =>
    getAttrList_replies used hcheck hformed.replyAligned (by omega) hmod
  have hanswers : cmd.getList = [] ∨ oid.toNat + numoid.toNat < 2 ^ 64 →
      ∃ ans t', retrieveAnswers env cmd pid oid true numoid (getattrListOff cmd).toNat
        (getattrListLen cmd).toNat s.core = some (ans, t') ∧
        AnsweredBy env s pid (replyFormat numoid) (requests cmd.getList oid numoid) ans := fun h =>
    retrieveAnswers_requests hkeys (h.imp_right (createCount_eq hpos)) hproper
  constructor
  · rintro ⟨u, s', hrun, hdec⟩
    have hcheck := hformed.taken hrun
    refine ⟨hformed.check.1 hcheck, ?_⟩
    obtain ⟨ans, t', hans, hrep⟩ := hreplies hcheck _ _ hrun
    obtain ⟨lists, rfl, -, hrep⟩ := hrep.resolve_right fun h => h.1 rfl
    rw [hrep.decodes_iff] at hdec
    have hwrap : cmd.getList = [] ∨ oid.toNat + numoid.toNat < 2 ^ 64 := by
      by_contra hno
      obtain ⟨hne, hge⟩ := not_or.1 hno
      -- the loop does nothing, and the reply is empty
      obtain ⟨_, _, t, -, ht⟩ := retrieveAnswers_eq env cmd pid oid numoid (getattrListOff cmd).toNat
        (getattrListLen cmd).toNat s
      rw [retrieveList_none (createCount_wraps (by omega)), hans] at ht
      cases ht
      have hlen := congrArg List.length (decodes_nil hdec)
      rw [List.length_map, requests_length, List.length_nil] at hlen
      have hpos' := Nat.mul_pos (List.length_pos_iff.2 hne) hpos
      omega
    refine ⟨hwrap, ?_⟩
    obtain ⟨ans', t'', hans', hby⟩ := hanswers hwrap
    rw [hans] at hans'
    cases hans'
    obtain ⟨xs, rfl, hxs⟩ := hby
    refine (entries_iff hnum hproper hxs).1 (entries_of_decodes h8 (fun x hx => ?_) ?_ ?_ hdec).1
    · obtain ⟨r, hr⟩ := answered_mem hxs hx
      exact (answerItem_spec hr).1
    · rw [List.length_map]
      exact hxs.length_eq
    · exact fun p hp => (List.forall₂_iff_zip.1 (answered_tags hxs)).2 hp
  · rintro ⟨hends, hwrap, hall⟩
    have hcheck := hformed.check.2 hends
    obtain ⟨⟨ret, u⟩, s', hrun, ans', t', hans', hrep⟩ :=
      (hreplies hcheck).of_halts (halts_getAttrList cmd oid true numoid used)
    obtain ⟨ans, t'', hans, hby⟩ := hanswers hwrap
    rw [hans] at hans'
    cases hans'
    obtain ⟨xs, rfl, hxs⟩ := hby.isSome hnum hproper hall
    have hwf : ∀ x ∈ xs, x.Wf := fun x hx => by
      obtain ⟨r, hr⟩ := answered_mem hxs hx
      exact (answerItem_spec hr).1
    have hmap := (entries_iff hnum hproper hxs).2 hall
    have hfit : totalSize xs ≤ cmd.allocLen.toNat - 8 := by
      rw [totalSize_eq hwf, hmap]
      omega
    rcases hrep with ⟨lists, hlists, hok, hrep⟩ | ⟨-, hnone | ⟨lists, hlists, hshort⟩⟩
    · cases hlists
      cases hok
      refine ⟨u, s', hrun, (hrep.decodes_iff _).2 ?_⟩
      rw [← hmap]
      refine decodes_of_fits h8 hwf (fun x hx => ?_) hfit
      have hentry : x.entry ∈ (requests cmd.getList oid numoid).map (expected env s pid numoid) :=
        hmap ▸ List.mem_map_of_mem hx
      obtain ⟨r, -, hr⟩ := List.mem_map.1 hentry
      exact (congrArg (fun e => e.oid.isSome) hr.symm).trans (expected_oid r)
    · cases hnone
    · cases hlists
      exact absurd hshort (not_short_of_fits h8 hwf hfit)

end Main

/-- A list of pages and numbers, with room for `alloc` bytes. -/
def listRequest (entries : List UInt8) (alloc : UInt32) : Command where
  cdb := blobMem (List.replicate 52 0 ++ htonl (8 + UInt32.ofNat entries.length) ++
    [0, 0, 0, 0] ++ htonl alloc)
  getsetCdbfmt := GETLIST_SETLIST
  retrievedAttrOff := 0
  indata := blobMem ([1, 0, 0, 0] ++ htonl (UInt32.ofNat entries.length) ++ entries)
  inlen := 8 + UInt64.ofNat entries.length
  hasOutdata := true

/-- Two user objects. -/
def twoObjects : Target := calmRun [.createPartition 0, .create 0x10000 0 2]

/-- The time of creation and an undefined attribute, of both objects. -/
def timesRequest : Command := listRequest [0, 0, 0, 3, 0, 0, 0, 1, 0, 0, 0, 5, 0, 0, 0, 7] 120

theorem answersInOrder_iff_timesRequest :
    AnswersInOrder Env.calm timesRequest 0x10000 0x10000 2 0 twoObjects := by
  exact (answersInOrder_iff Env.calm timesRequest 0x10000 0x10000 2 0 twoObjects
    ⟨by decide +kernel, by decide +kernel, by decide +kernel, by decide +kernel, by decide +kernel,
      by decide +kernel, by decide +kernel, by decide +kernel⟩ (by decide) (by decide)
    (by decide +kernel) (by decide +kernel) (by decide +kernel)).2
    ⟨⟨by decide +kernel, by decide +kernel⟩, .inr (by decide), by decide +kernel⟩

/-- An attribute that the user information page does not have. -/
def unknownRequest : Command := listRequest [0, 0, 0, 1, 0, 0, 0, 5] 64

theorem getList_refused : GetListFormed Env.calm unknownRequest ∧
    (∀ r ∈ requests unknownRequest.getList 0x10000 1, Proper twoObjects 0x10000 r) ∧
    8 + (((requests unknownRequest.getList 0x10000 1).map (expected Env.calm twoObjects 0x10000 1)).map
      Entry.size).sum ≤ unknownRequest.allocLen.toNat ∧
    ¬ AnswersInOrder Env.calm unknownRequest 0x10000 0x10000 1 0 twoObjects := by
  refine ⟨⟨by decide +kernel, by decide +kernel, by decide +kernel, by decide +kernel, by decide +kernel,
    by decide +kernel, by decide +kernel, by decide +kernel⟩, by decide +kernel, by decide +kernel, ?_⟩
  rintro ⟨u, s', hrun, -⟩
  have hret : (getAttrList Env.calm unknownRequest 0x10000 0x10000 true 1 0 twoObjects).map (·.1.1)
      ≠ some .ok := by decide +kernel
  exact hret (by rw [hrun]; rfl)

end OsdTarget
