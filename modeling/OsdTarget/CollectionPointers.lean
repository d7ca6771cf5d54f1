import OsdTarget.FailedSets
import OsdTarget.Lifecycle
import OsdTarget.SetMembers

/-!
# Collection pointers

Setting a collection pointer of a user object is meant to be an assignment.  The key of `coll` allows an
object one row in each collection, so that a pointer to a collection of which the object is a member already
is refused, also when it is this pointer that holds the membership.
-/

namespace OsdTarget

open Base

variable {env : Env} {s t : Target} {pid oid cid : UInt64} {number : UInt32} {val : Mem} {isembedded : Bool}

/-! ## Assignments -/

/-- The row of the membership. -/
def pointerRow (pid cid oid : UInt64) (number : UInt32) : CollRow :=
  ⟨bindInt64 pid, bindInt64 cid, bindInt64 oid, bindInt number⟩

/-- The pointer holds the collection instead of what it held before, and nothing else has changed. -/
structure PointerAssigned (pid cid oid : UInt64) (number : UInt32) (s t : Target) : Prop where
  rows : ∀ r, r ∈ t.db.coll ↔
    r ∈ s.db.coll ∧ r.pointer ≠ (pointerRow pid cid oid number).pointer ∨ r = pointerRow pid cid oid number
  objects : t.db.obj = s.db.obj
  attributes : t.db.attr = s.db.attr
  files : t.files = s.files

/-- `osd_set_attributes` on a collection pointer. -/
def setPointer (env : Env) (pid oid : UInt64) (number : UInt32) (val : Mem) (isembedded : Bool) :
    OsdM Ret :=
  osdSetAttributes env pid oid USER_COLL_PG number (some val) 8 isembedded

/-- The same as a pair of a list. -/
def pointerPair (oid : UInt64) (number : UInt32) : SetPair := (oid, ⟨USER_COLL_PG, number, 8, 0⟩)

/-- A user object, a legal pointer number and a collection to point to. -/
structure CanPoint (pid oid cid : UInt64) (number : UInt32) (val : Mem) (s : Target) : Prop where
  userobject : s.db.objType pid oid = .userobject
  lower : UCAP_COLL_PTR_LB ≤ number
  upper : number ≤ UCAP_COLL_PTR_UB
  names : getNtohll val 0 = cid
  present : s.db.HasType (bindInt64 pid) (bindInt64 cid) .collection

theorem pointerPair_val : (pointerPair oid number).val val = val := funext fun a =>
    congrArg val (Nat.zero_add a)

instance (d : Db) (pid cid oid : UInt64) : Decidable (d.IsMember pid cid oid) :=
  inferInstanceAs (Decidable (∃ r ∈ d.coll, r.key = _))

theorem isMember_iff : s.db.IsMember pid cid oid ↔
    Clashes CollRow.key (pointerRow pid cid oid number) s.db.coll :=
  Iff.rfl

theorem CanPoint.allows (h : CanPoint pid oid cid number val s) :
    s.db.Allows pid val (pointerPair oid number) where
  present := has_of_objType h.userobject
  typed := by
    rw [pointerPair, h.userobject]
    decide
  settable := by
    rw [pointerPair, h.userobject]
    show issettablePage .userobject USER_COLL_PG = true
    decide
  modifiable := by
    rintro rfl
    exact absurd h.upper (by decide)
  given := show (8 : UInt16) ≠ 0 by decide
  info := by
    rintro rfl
    exact absurd h.lower (by decide)
  short := show (8 : UInt16).toNat ≤ ATTR_LEN_UB by decide

/-! ## One assignment -/

/-- The new table, where the key allows the row. -/
theorem insertColl_assigns {t' : List CollRow}
    (h : insertColl (pointerRow pid cid oid number) s.db.coll = some t') :
    PointerAssigned pid cid oid number s (s.setColl t') := by
  unfold insertColl at h
  split_ifs at h
  cases h
  exact ⟨fun r => mem_insertReplace, rfl, rfl, rfl⟩

/-- Where the object is no member, the pointer is set. -/
theorem setPointer_accepted (henv : env.RunsSql) (h : CanPoint pid oid cid number val s)
    (hno : ¬ s.db.IsMember pid cid oid) : ∃ t, setPointer env pid oid number val isembedded
      s = some (.ok, t) ∧
      PointerAssigned pid cid oid number s t ∧ t.db.IsMember pid cid oid := by
  obtain ⟨t', ht'⟩ : ∃ t', insertColl (pointerRow pid cid oid number) s.db.coll = some t' :=
    ⟨_, if_neg (isMember_iff.not.1 hno)⟩
  have hassigned := insertColl_assigns ht'
  have hmember : (s.setColl t').db.IsMember pid cid oid :=
    ⟨_, (hassigned.rows (pointerRow pid cid oid number)).2 (.inr rfl), rfl⟩
  have hrow : (pointerPair oid number).pointer pid val = pointerRow pid cid oid number := by
    unfold SetPair.pointer pointerRow
    rw [pointerPair_val, h.names]
    rfl
  have hpoints : (pointerPair oid number).Points s.db pid val := by
    refine ⟨rfl, ?_, rfl, ?_⟩
    · rintro (hlt | hlt)
      · exact UInt32.not_lt.2 h.lower hlt
      · exact UInt32.not_lt.2 h.upper hlt
    · rw [pointerPair_val, h.names]
      exact h.present.has
  have hstored : PairStored env pid val (pointerPair oid number) s (s.setColl t') :=
    .pointed hpoints (henv.query _ _) (henv.dms _ _) t' (hrow ▸ ht')
  have haccepted : PairAccepted env pid val isembedded (pointerPair oid number) s
      (s.shown (s.setColl t') pid isembedded (pointerPair oid number)) :=
    ⟨⟨henv.query _ _, fun _ => henv.query _ _⟩, h.allows, _, hstored, rfl⟩
  have hsame : setPair env pid val isembedded (pointerPair oid number) = setPointer env pid oid number
      val isembedded :=
    congrArg (fun m => osdSetAttributes env pid oid USER_COLL_PG number (some m) 8 isembedded)
      pointerPair_val
  refine ⟨_, hsame ▸ setPair_accepted haccepted, ?_, ?_⟩
  · unfold Target.shown
    split
    · exact hassigned
    · exact ⟨hassigned.rows, rfl, rfl, rfl⟩
  · unfold Target.shown
    split
    · exact hmember
    · exact hmember

/-- Where it is a member, whichever pointer holds the membership, the command is refused. -/
theorem setPointer_refused (henv : env.RunsSql) (h : CanPoint pid oid cid number val s)
    (hmember : s.db.IsMember pid cid oid) :
    setPointer env pid oid number val isembedded s = some (cdbErr pid oid, s) := by
  have hallows := h.allows
  have hconflict : (Dms.collInsert (pointerRow pid cid oid number)).run s.db = none := by
    simp only [Dms.run, insertColl, if_pos (isMember_iff.1 hmember)]
    rfl
  have hinsert : collInsert env pid cid oid number s = some (.err .osdError, s) :=
    dbExecDms_conflict hconflict
  have hrange : ¬ (number < UCAP_COLL_PTR_LB ∨ number > UCAP_COLL_PTR_UB) := by
    rintro (hlt | hlt)
    · exact UInt32.not_lt.2 h.lower hlt
    · exact UInt32.not_lt.2 h.upper hlt
  have hcap : setCap env pid oid number (some val) 8 s = some (.err .osdError, s) := by
    unfold setCap
    rw [if_neg hrange, if_neg (by decide), if_neg (by decide)]
    dsimp only
    rw [h.names]
    refine (bind_of_some (objIspresent_accepted (henv.query _ _) h.present.has)).trans ?_
    rw [if_neg (by simp)]
    exact (bind_of_some hinsert).trans rfl
  have htype : getObjType env pid oid s = some (.userobject, s) := by
    rw [getObjType_run, if_neg fun hf => absurd hf.2 (by simp [henv.query]), h.userobject]
  unfold setPointer osdSetAttributes
  refine (bind_of_some (objIspresent_accepted (henv.query _ _) hallows.present)).trans ?_
  dsimp only
  rw [if_neg (by simp)]
  refine (bind_of_some htype).trans ?_
  have hinfo : ¬ (number = ATTRNUM_INFO ∧ ((8 : UInt16).toNat > ATTR_PAGE_ID_LEN ∨
      ¬ hasNul (some val) 8 = true)) := by
    rintro ⟨rfl, -⟩
    exact absurd h.lower (by decide)
  have hmodifiable : ¬ number = ATTRNUM_UNMODIFIABLE := hallows.modifiable
  rw [if_neg (by decide), if_neg (by decide), if_neg hmodifiable, if_neg (by simp), if_neg hinfo,
    if_neg (by decide)]
  have hstore : storeAttribute env pid oid USER_COLL_PG number (some val) 8 s =
      some (cdbErr pid oid, s) := by
    unfold storeAttribute
    rw [if_neg (by decide), if_neg (by decide), if_pos rfl]
    exact (bind_of_some hcap).trans rfl
  exact (bind_of_some hstore).trans rfl

/-- What a pointer needs is about other tables. -/
theorem CanPoint.of_obj (h : CanPoint pid oid cid number val s) (hobj : t.db.obj = s.db.obj) :
    CanPoint pid oid cid number val t where
  userobject := (Db.objType_congr hobj).trans h.userobject
  lower := h.lower
  upper := h.upper
  names := h.names
  present := by
    unfold Db.HasType
    rw [hobj]
    exact h.present

/-- **A pointer is assigned exactly when the object is no member of the collection yet.**  To set the same
pointer to the same collection again is refused. -/
theorem setPointer_assigns_iff (henv : env.RunsSql) (h : CanPoint pid oid cid number val s) :
    ((∃ t, setPointer env pid oid number val isembedded s = some (.ok, t) ∧
      PointerAssigned pid cid oid number s t) ↔
      ¬ s.db.IsMember pid cid oid) ∧
    ∀ t, setPointer env pid oid number val isembedded s = some (.ok, t) →
      setPointer env pid oid number val isembedded t = some (cdbErr pid oid, t) := by
  by_cases hmember : s.db.IsMember pid cid oid
  · have hrefused : setPointer env pid oid number val isembedded s = some (cdbErr pid oid, s) :=
      setPointer_refused henv h hmember
    refine ⟨⟨fun ⟨t, hok, _⟩ => ?_, fun hno => absurd hmember hno⟩, fun t hok => ?_⟩
    · rw [hrefused] at hok
      cases hok
    · rw [hrefused] at hok
      cases hok
  · obtain ⟨t, hok, hassigned, hnow⟩ := setPointer_accepted henv h hmember
    refine ⟨⟨fun _ => hmember, fun _ => ⟨t, hok, hassigned⟩⟩, fun u hu => ?_⟩
    obtain ⟨-, rfl⟩ := Prod.mk.inj (Option.some.inj (hok.symm.trans hu))
    exact setPointer_refused henv (h.of_obj hassigned.objects) hnow

theorem collectionAndObject_canPoint (number : UInt32) (hlb : UCAP_COLL_PTR_LB ≤ number)
    (hub : number ≤ UCAP_COLL_PTR_UB) :
    CanPoint 0x10000 0x10001 0x10000 number (blobMem (htonll 0x10000)) collectionAndObject where
  userobject := by decide +kernel
  lower := hlb
  upper := hub
  names := by decide +kernel
  present := by decide +kernel

theorem setPointer_assigns_first :
    ∃ t, setPointer .calm 0x10000 0x10001 1 (blobMem (htonll 0x10000)) false
      collectionAndObject = some (.ok, t) ∧
      PointerAssigned 0x10000 0x10000 0x10001 1 collectionAndObject t :=
  (setPointer_assigns_iff Env.calm_runsSql (collectionAndObject_canPoint 1 (by decide) (by decide))).1.2
    (by decide +kernel)

/-- Pointer 1 is set, and then refused; so is pointer 2 to the same collection. -/
theorem setPointer_twice :
    let set := fun number => setPointer .calm 0x10000 0x10001 number (blobMem (htonll 0x10000)) false
    ((set 1) collectionAndObject).map (fun r => r.1) = some .ok ∧
    ((set 1 >>= fun _ => set 1) collectionAndObject).map (fun r => r.1) = some (cdbErr 0x10000 0x10001) ∧
    ((set 1 >>= fun _ => set 2) collectionAndObject).map (fun r => r.1) =
      some (cdbErr 0x10000 0x10001) := by
  decide +kernel

end OsdTarget
