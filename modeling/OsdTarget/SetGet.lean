import OsdTarget.AttributeWrites
import OsdTarget.GetList

/-!
# Reading back what was set

SET ATTRIBUTES stores a value under a page and a number, and GET ATTRIBUTES looks it up again through
a `switch` of its own.  The two agree except on two pages of the partitions, which are stored like
any other page but answered by an empty value.
-/

namespace OsdTarget

open Base

variable {env : Env} {s s' t : Target} {pid oid : UInt64} {page number : UInt32}

/-! ## Object types -/

/-- The type of an object when no query fails. -/
def Db.objType (d : Db) (pid oid : UInt64) : ObjType :=
  if pid = ROOT_PID ∧ oid = ROOT_OID then .root
  else if PARTITION_PID_LB ≤ pid ∧ oid = PARTITION_OID then .partition
  else if OBJECT_PID_LB ≤ pid ∧ OBJECT_OID_LB ≤ oid then d.typeOf (bindInt64 pid) (bindInt64 oid)
  else .illegal

theorem Db.objType_congr {d d' : Db} (h : d'.obj = d.obj) : d'.objType pid oid = d.objType pid oid := by
  unfold Db.objType Db.typeOf
  rw [h]

theorem getObjType_objType : Ends (getObjType env pid oid) s
    (fun type s' => s' = s ∧ (type ≠ .illegal → type = s.db.objType pid oid)) := by
  unfold getObjType Db.objType
  refine ends_ite_of (fun h => ends_pure.2 ⟨rfl, fun _ => by rw [if_pos h]⟩) fun hroot => ?_
  rw [if_neg hroot]
  refine ends_ite_of (fun h => ends_pure.2 ⟨rfl, fun _ => by rw [if_pos h]⟩) fun hpart => ?_
  rw [if_neg hpart]
  refine ends_ite_of (fun h => ?_) fun _ => ends_pure.2 ⟨rfl, fun h => absurd rfl h⟩
  rw [if_pos h]
  exact ends_bind.2 (dbExecQuery_ends (fun _ => ends_pure.2 ⟨rfl, fun _ => rfl⟩)
    fun _ => ends_pure.2 ⟨rfl, fun h => absurd rfl h⟩)

theorem hasType_of_objType (h : s.db.objType pid oid = .userobject) :
    s.db.HasType (bindInt64 pid) (bindInt64 oid) .userobject := by
  unfold Db.objType at h
  split_ifs at h
  exact Db.hasType_of_typeOf h nofun

theorem has_of_objType (h : s.db.objType pid oid = .userobject) :
    s.db.Has (bindInt64 pid) (bindInt64 oid) :=
  (hasType_of_objType h).has

theorem getObjType_answers (hq : ∀ q, env.queryFails q s.db = false) (pid oid : UInt64) :
    getObjType env pid oid s = some (s.db.objType pid oid, s) := by
  have hget : objGetType env pid oid s = some ((.ok, s.db.typeOf (bindInt64 pid) (bindInt64 oid)), s) := by
    show (if env.queryFails _ s.db = true then _ else _ : OsdM _) s = _
    rw [if_neg (by simp [hq])]
    rfl
  unfold getObjType Db.objType
  by_cases hroot : pid = ROOT_PID ∧ oid = ROOT_OID
  · rw [if_pos hroot, if_pos hroot]
    rfl
  rw [if_neg hroot, if_neg hroot]
  by_cases hpart : PARTITION_PID_LB ≤ pid ∧ oid = PARTITION_OID
  · rw [if_pos hpart, if_pos hpart]
    rfl
  rw [if_neg hpart, if_neg hpart]
  by_cases hobj : OBJECT_PID_LB ≤ pid ∧ OBJECT_OID_LB ≤ oid
  · rw [if_pos hobj, if_pos hobj, bind_of_some hget]
    rfl
  · rw [if_neg hobj, if_neg hobj]
    rfl

/-- What can be set can be retrieved. -/
theorem isgettablePage_of_issettablePage {type : ObjType} (h : issettablePage type page = true) :
    isgettablePage type page = true := by
  unfold issettablePage at h
  unfold isgettablePage
  by_cases hpg : (!checkValidPg type page) = true
  · rw [if_pos hpg] at h ⊢
    exact h
  · rw [if_neg hpg] at h ⊢
    have hstd : STD_PG_UB < RSRV_PG_LB := by decide
    have hlun : RSRV_PG_UB < LUN_PG_LB := by decide
    have hvend : LUN_PG_UB ≤ VEND_PG_UB := by decide
    have hstd' : STD_PG_UB ≤ VEND_PG_UB := by decide
    simp only [Bool.or_eq_true, Bool.and_eq_true, decide_eq_true_eq, Bool.not_eq_true',
      Bool.or_eq_false_iff, Bool.and_eq_false_iff, decide_eq_false_iff_not, UInt32.le_iff_toNat_le,
      UInt32.lt_iff_toNat_lt] at h hstd hlun hvend hstd' ⊢
    omega

/-- An attribute is only accepted for a page of the object's type. -/
theorem osdSetAttributes_settable {val : Option Mem} {len : UInt16} {isembedded : Bool} :
    Ends (osdSetAttributes env pid oid page number val len isembedded) s (fun ret _ => ret = .ok →
      s.db.objType pid oid ≠ .illegal ∧ issettablePage (s.db.objType pid oid) page = true) := by
  have hcdb : ∀ t : Target, Ends (pure (cdbErr pid oid) : OsdM Ret) t (fun ret _ => ret = .ok →
      s.db.objType pid oid ≠ .illegal ∧ issettablePage (s.db.objType pid oid) page = true) :=
    fun _ => ends_pure.2 fun h => absurd h (cdbErr_ne_ok _ _)
  refine ends_bind.2 (objIspresent_ends ?_ (ends_ite_of (fun _ => hcdb s)
    fun h => absurd (.inl (by simp)) h))
  refine ends_ite_of (fun _ => hcdb s) fun _ => ends_call getObjType_objType fun type t ht => ?_
  refine ends_ite_of (fun _ => hcdb t) fun hne => ends_ite_of (fun _ => ?_) fun hset => ?_
  · exact ends_pure.2 fun h => nomatch h
  · obtain rfl := ht.2 hne
    exact fun _ _ _ _ => ⟨hne, by simpa using hset⟩

/-! ## Commands leave other objects alone -/

/-- The rows of one object are as they were. -/
def SameObj (p o : Int) (s s' : Target) : Prop := s'.db.objAt p o = s.db.objAt p o

namespace SameObj

variable {p o : Int}

theorem of_eq (h : s'.db.obj = s.db.obj) : SameObj p o s s' := by
  unfold SameObj Db.objAt
  rw [h]

instance : Uncached (SameObj p o) where
  same _ _ hdb _ _ _ _ _ := of_eq (by rw [hdb])
  trans _ _ _ h h' := Eq.trans h' h
  ic _ _ := of_eq rfl

instance : Untransacted (SameObj p o) where
  txn _ _ _ := of_eq rfl

theorem append {r : ObjRow} (hr : ¬ (r.pid = p ∧ r.oid = o)) (s : Target) :
    SameObj p o s (s.setObj (s.db.obj ++ [r])) :=
  filter_append_of_not (decide_eq_false hr)

theorem delete {p' o' : Int} (hne : ¬ (p' = p ∧ o' = o)) (s : Target) :
    SameObj p o s (s.setObj (deleteWhere (fun r => r.pid = p' ∧ r.oid = o') s.db.obj)) := by
  refine filter_deleteWhere fun r hr => decide_eq_false fun h => hne ?_
  rwa [hr.1, hr.2] at h

theorem admitsObject {i : UInt64} (hne : ¬ (bindInt64 pid = p ∧ bindInt64 i = o)) :
    AdmitsObject (SameObj p o) pid i where
  insert s _ := append hne s
  delete s := delete hne s
  attrs _ := of_eq rfl
  colls _ := of_eq rfl
  file _ _ := of_eq rfl

theorem removes {p' o' : Int} {cleared : CollRow → Prop} {why : Prop} (hne : ¬ (p' = p ∧ o' = o))
    (h : Removes p' o' cleared why s s') : SameObj p o s s' := by
  obtain ⟨-, ho⟩ | ⟨ho, -, -⟩ := h.obj
  · exact of_eq ho
  · have hd := delete hne s
    unfold SameObj Db.objAt at hd ⊢
    rw [ho]
    exact hd

end SameObj

/-- **A command that does not remove an object leaves its row alone.** -/
theorem Op.exec_sameObj (op : Op) {k : Int × Int × Int × Int} (hhas : s.db.Has k.1 k.2.1)
    (hk : ¬ op.Overwrites s k) : Ends (op.exec env) s (fun _ s' => SameObj k.1 k.2.1 s s') := by
  have hfree : ∀ {p o : Int}, ¬ s.db.Has p o → ¬ (p = k.1 ∧ o = k.2.1) := by
    rintro p o hno ⟨rfl, rfl⟩
    exact hno hhas
  have hadm : ∀ pid i, ¬ s.db.Has (bindInt64 pid) (bindInt64 i) →
      AdmitsObject (SameObj k.1 k.2.1) pid i := fun _ _ hi => SameObj.admitsObject (hfree hi)
  have hcoll : ∀ {s' pid requested source}, CollectionStep env pid requested source s s' →
      SameObj k.1 k.2.1 s s' := by
    intro s' pid requested source h
    cases h with
    | rejected hdb => exact .of_eq (by rw [hdb])
    | ran cid hpid hpart hpick hattr hcoll hobj =>
      rcases hobj with ⟨hno, ho⟩ | ⟨-, ho⟩
      · have happ := SameObj.append (r := collectionRow pid cid) (hfree hno) s
        unfold SameObj Db.objAt at happ ⊢
        rwa [ho]
      · exact .of_eq ho
  have hsame : ∀ {s' : Target}, s'.db.obj = s.db.obj → SameObj k.1 k.2.1 s s' := .of_eq
  cases op with
  | create pid requestedOid numoid => exact osdCreate_stays (hadm pid)
  | createAndWrite pid oid len offset data sglist ddt =>
    exact osdCreateAndWrite_stays (hadm pid) (fun _ _ _ _ => .of_eq rfl) len offset data sglist ddt
  | createCollection pid requestedCid => exact (osdCreateCollection_spec _ _).mono fun _ _ => hcoll
  | createPartition requestedPid =>
    refine (osdCreatePartition_spec _).mono fun _ s' h => ?_
    rcases h.obj with ho | ⟨-, hno, ho⟩
    · exact hsame ho
    · have happ := SameObj.append (r := partitionRow (s.partitionId requestedPid)) (hfree hno) s
      unfold SameObj Db.objAt at happ ⊢
      rwa [ho]
  | createUserTrackingCollection pid requestedCid sourceCid cdbContLen =>
    exact (osdCreateUserTrackingCollection_spec _ _ _ _).mono fun _ _ => hcoll
  | remove pid oid =>
    refine (Op.exec_spec (.remove pid oid)).mono fun _ s' h => ?_
    rcases h with rfl | ⟨-, h⟩
    · exact .of_eq rfl
    · exact .removes (fun h => hk ⟨h.1.symm, h.2.symm⟩) h
  | removeCollection pid cid fcr =>
    refine (osdRemoveCollection_spec _ _ _).mono fun _ s' h => ?_
    rcases h with rfl | ⟨-, -, -, -, h⟩
    · exact .of_eq rfl
    · exact .removes (fun h => hk ⟨h.1.symm, h.2.symm⟩) h
  | removePartition pid =>
    refine (osdRemovePartition_spec _).mono fun _ s' h => ?_
    rcases h with rfl | ⟨-, -, -, h⟩
    · exact .of_eq rfl
    · exact .removes (fun h => hk ⟨h.1.symm, h.2.symm⟩) h
  | formatOsd => exact absurd trivial hk
  | setAttributes pid oid page number val len isembedded =>
    exact (osdSetAttributes_spec _ _ _ _ _ _ _).mono fun _ _ h => hsame h.obj
  | write => exact (Op.exec_spec (.write ..)).mono fun _ _ h => hsame (AttrStep.toIdStep h).obj
  | getattrList => exact (Op.exec_spec (.getattrList ..)).mono fun _ _ h => hsame (AttrStep.toIdStep h).obj
  | getattrPage => exact (Op.exec_spec (.getattrPage ..)).mono fun _ _ h => hsame (AttrStep.toIdStep h).obj
  | setMemberAttributes =>
    exact (Op.exec_spec (.setMemberAttributes ..)).mono fun _ _ h => hsame (AttrStep.toIdStep h).obj
  | cas => exact (Op.exec_spec (.cas ..)).mono fun _ _ h => hsame (AttrStep.toIdStep h).obj
  | fa => exact (Op.exec_spec (.fa ..)).mono fun _ _ h => hsame (AttrStep.toIdStep h).obj
  | genCas => exact (Op.exec_spec (.genCas ..)).mono fun _ _ h => hsame (AttrStep.toIdStep h).obj

/-! ## What a retrieval answers -/

/-- The attributes that the device computes, and the page that stands for all pages. -/
def Computed (page number : UInt32) : Prop :=
  page = USER_TMSTMP_PG ∨ page = PARTITION_DIR_PG + USER_TMSTMP_PG ∨ page = CUR_CMD_ATTR_PG ∨
  page = GETALLATTR_PG ∨ page = USER_COLL_PG ∨ page = USER_INFO_PG ∧ number ≠ UIAP_USERNAME ∨
  page = ROOT_INFO_PG ∧ number ≠ RIAP_OSD_NAME

/-- The pages of partitions that `get_uiap` answers without looking into the table. -/
def AnsweredEmpty (page : UInt32) : Prop :=
  page = PARTITION_DIR_PG + USER_INFO_PG ∨ page = PARTITION_DIR_PG + USER_QUOTA_PG

instance (page number : UInt32) : Decidable (Computed page number) :=
  inferInstanceAs (Decidable (_ ∨ _))

instance (page : UInt32) : Decidable (AnsweredEmpty page) := inferInstanceAs (Decidable (_ ∨ _))

/-- **An attribute in the table is found** under every page that is neither computed nor answered
empty. -/
theorem pageItems_stored {listfmt : UInt8} {r : AttrRow} (hc : ¬ Computed page number)
    (he : ¬ AnsweredEmpty page) (hs : IsSingle page number) (hq : ∀ q, env.queryFails q s.db = false)
    (hrow : s.db.attrAt (attrRow pid oid page number []).key = [r]) :
    pageItems env s pid oid page number listfmt = some [rowItem (tagOf listfmt oid) r] := by
  have hrows : rowItems env s pid oid (tagOf listfmt oid) (.attr page number)
      = some [rowItem (tagOf listfmt oid) r] := by
    have hkey : (Rtrvl.attr page number).rows s.db (bindInt64 pid) (bindInt64 oid) = [r] := hrow
    unfold rowItems
    rw [if_neg (by simp [hq]), hkey]
    rfl
  simp only [Computed, not_or, not_and, not_not] at hc
  obtain ⟨hts, hpts, hcur, hall, -, hname, hosd⟩ := hc
  unfold pageItems
  dsimp only
  rw [if_neg hcur, if_neg (fun h => h.elim hpts hts)]
  by_cases hui : page = USER_INFO_PG
  · have hn := hname hui
    subst hui hn
    rw [if_pos (.inr (.inr rfl)), attrItems, if_pos rfl, if_pos rfl, hrows]
  rw [if_neg fun h => h.elim (fun h => he (.inr h)) fun h => h.elim (fun h => he (.inl h)) hui]
  by_cases hri : page = ROOT_INFO_PG
  · have hn := hosd hri
    subst hri hn
    rw [if_pos rfl, attrItems, if_neg hui, if_pos rfl, if_pos rfl, hrows]
  · rw [if_neg hri, rtrvlOf, if_neg hs.1, if_neg hs.2, hrows]

theorem pageItems_empty {listfmt : UInt8} (h : AnsweredEmpty page) :
    pageItems env s pid oid page number listfmt = some [⟨tagOf listfmt oid, page, number, 0, none⟩] := by
  rcases h with rfl | rfl <;> rfl

/-- A retrieval of a single attribute answers with the items of its page. -/
theorem retrieve_pageItems {listfmt : UInt8} {isembedded : Bool}
    (hq : ∀ q, env.queryFails q s.db = false) (hs : IsSingle page number)
    (htype : s.db.objType pid oid ≠ .illegal) (hget : isgettablePage (s.db.objType pid oid) page = true) :
    ∃ t', retrieve env pid oid page number isembedded listfmt s
      = some ((pageItems env s pid oid page number listfmt).map
          (fillNull (tagOf listfmt oid) page number), t') := by
  have hlazy : lazyInitAttr env pid oid page number s = some (.ok, s) := by
    unfold lazyInitAttr
    rw [if_pos (.inl hs)]
    rfl
  unfold retrieve
  rw [bind_of_some (getObjType_answers hq pid oid), if_neg htype, if_neg (by rw [hget]; simp),
    bind_of_some hlazy, if_neg (by simp), bind_get]
  cases pageItems env s pid oid page number listfmt with
  | none => exact ⟨s, rfl⟩
  | some items =>
    cases isembedded
    · exact ⟨_, rfl⟩
    · exact ⟨s, rfl⟩

/-- A retrieval of one attribute that is found answers with it. -/
theorem retrieve_single {listfmt : UInt8} {isembedded : Bool} {x : Item}
    (hq : ∀ q, env.queryFails q s.db = false) (hs : IsSingle page number)
    (htype : s.db.objType pid oid ≠ .illegal) (hget : isgettablePage (s.db.objType pid oid) page = true)
    (hitems : pageItems env s pid oid page number listfmt = some [x]) :
    ∃ t', retrieve env pid oid page number isembedded listfmt s = some (some [x], t') := by
  have h : ∃ t', retrieve env pid oid page number isembedded listfmt s = some (_, t') :=
    retrieve_pageItems hq hs htype hget
  rwa [hitems] at h

/-- **What a retrieval answers with is packed** when there is room for it. -/
theorem osdGetattrList_single {pos : Nat} {outlen : UInt32} {listfmt : UInt8} {isembedded : Bool} {x : Item}
    (hf : IsFormat listfmt) (hal : Aligned env pos outlen.toNat)
    (hret : ∃ t', retrieve env pid oid page number isembedded listfmt s = some (some [x], t'))
    (hwf : x.Wf) (hfit : x.size ≤ outlen.toNat) : ∃ used t',
      osdGetattrList env pid oid page number pos outlen isembedded listfmt s = some ((.ok, some used), t') ∧
      t'.reply.read pos used.toNat = x.bytes outlen.toNat := by
  have hemit : emit outlen.toNat [x] = x.bytes outlen.toNat := by
    have hneed := x.need_le_size
    rw [emit_singleton, if_neg (by omega)]
  have hlen : (x.bytes outlen.toNat).length ≤ outlen.toNat := by
    rw [Item.bytes_length_of_fits hwf hfit]
    exact hfit
  obtain ⟨t₀, hret⟩ := hret
  obtain ⟨r, t', hrun, ans, t₁, hans, hpacks⟩ :=
    (osdGetattrList_retrieves hf hal rfl pid oid page number isembedded).of_halts
      (halts_osdGetattrList pid oid page number pos outlen isembedded listfmt)
  rw [hret] at hans
  cases hans
  rcases hpacks with ⟨items, hitems, hr, hout, -⟩ | ⟨-, h | ⟨items, hitems, hne, hnil⟩⟩
  · cases hitems
    rw [hemit] at hr hout
    subst hr
    refine ⟨_, t', hrun, ?_⟩
    rw [UInt32.toNat_ofNat_of_lt' (Nat.lt_of_le_of_lt hlen outlen.toNat_lt)]
    exact hout.content
  · cases h
  · cases hitems
    have hb := Item.bytes_length hal.2 (Nat.le_trans x.need_le_size hfit)
    rw [hemit] at hnil
    rw [hnil] at hb
    exact absurd hb.1 (by decide)

/-- An item that fits decodes as its entry, with nothing behind it. -/
theorem decodeEntry_whole {x : Item} {room : Nat} (hwf : x.Wf) (hfit : x.size ≤ room) :
    decodeEntry x.oid.isSome (x.bytes room) = some (x.entry, []) := by
  have hlen : (x.bytes room ++ []).length ≤ room := by
    rw [List.append_nil, Item.bytes_length_of_fits hwf hfit]
    exact hfit
  have hdec := decodeEntry_bytes hwf hlen
  rwa [List.append_nil, if_pos hfit] at hdec

/-- A reply of one entry decodes in one way. -/
theorem Decodes.singleton_inj {tagged : Bool} {l : List UInt8} {e e' : Entry} (h : Decodes tagged l [e])
    (h' : Decodes tagged l [e']) : e = e' := by
  cases h with
  | cons hhead _ =>
    cases h' with
    | cons hhead' _ => exact congrArg Prod.fst (Option.some.inj (hhead.symm.trans hhead'))

/-! ## Set, then get -/

/-- A retrieval of the attribute, given room for its entry, answers with exactly this value. -/
def ReadsAs (pid oid : UInt64) (page number : UInt32) (value : List UInt8) (t : Target) : Prop :=
  ∀ (env : Env) (pos : Nat) (outlen : UInt32) (isembedded : Bool) (listfmt : UInt8),
    (∀ q, env.queryFails q t.db = false) → IsFormat listfmt → Aligned env pos outlen.toNat →
    let e : Entry := ⟨tagOf listfmt oid, page, number, value⟩
    e.size ≤ outlen.toNat → ∃ used t',
      osdGetattrList env pid oid page number pos outlen isembedded listfmt t = some ((.ok, some used), t') ∧
      Decodes e.oid.isSome (t'.reply.read pos used.toNat) [e]

/-- The attribute is in the table, and its object is of this type. -/
structure Keeps (pid oid : UInt64) (page number : UInt32) (value : List UInt8) (type : ObjType)
    (t : Target) : Prop where
  row : t.db.attrAt (attrRow pid oid page number []).key = [attrRow pid oid page number value]
  has : t.db.Has (bindInt64 pid) (bindInt64 oid)
  type : t.db.objType pid oid = type

theorem rowItem_attrRow (tag : Option UInt64) (pid oid : UInt64) (page number : UInt32)
    (value : List UInt8) : rowItem tag (attrRow pid oid page number value)
      = ⟨tag, page, number, UInt16.ofNat value.length, some (blobMem value)⟩ := by
  show Item.mk tag (columnInt (bindInt page)) (columnInt (bindInt number)) _ _ = _
  rw [columnInt_bindInt, columnInt_bindInt]
  rfl

theorem Keeps.readsAs {value : List UInt8} {type : ObjType} (h : Keeps pid oid page number value type t)
    (hc : ¬ Computed page number) (he : ¬ AnsweredEmpty page) (hs : IsSingle page number)
    (hlen : value.length < 2 ^ 16) (htype : type ≠ .illegal) (hget : isgettablePage type page = true) :
    ReadsAs pid oid page number value t := by
  intro env pos outlen isembedded listfmt hq hf hal e hfit
  let x : Item := ⟨tagOf listfmt oid, page, number, UInt16.ofNat value.length, some (blobMem value)⟩
  have hxlen : x.len.toNat = value.length := UInt16.toNat_ofNat_of_lt' hlen
  have hwf : x.Wf := nofun
  have hvalue : x.value = value := by
    show (blobMem value).read 0 x.len.toNat = value
    rw [hxlen]
    exact read_blobMem value
  have hentry : x.entry = e := by
    show (⟨x.oid, x.page, x.number, x.value⟩ : Entry) = e
    rw [hvalue]
  have hsize : x.size ≤ outlen.toNat := by
    rw [Item.size_eq hwf, hentry]
    exact hfit
  have hitems : pageItems env t pid oid page number listfmt = some [x] := by
    rw [pageItems_stored hc he hs hq h.row, rowItem_attrRow]
  rw [← h.type] at htype hget
  obtain ⟨used, t', hrun, hbytes⟩ :=
    osdGetattrList_single hf hal (retrieve_single hq hs htype hget hitems) hwf hsize
  refine ⟨used, t', hrun, ?_⟩
  rw [hbytes, ← hentry]
  exact .cons (decodeEntry_whole hwf hsize) .nil

/-- A page that is answered empty does not show the value. -/
theorem not_readsAs_of_answeredEmpty {value : List UInt8} (he : AnsweredEmpty page)
    (hs : IsSingle page number) (hlen : value.length < 2 ^ 16) (hne : value ≠ [])
    (htype : t.db.objType pid oid ≠ .illegal) (hget : isgettablePage (t.db.objType pid oid) page = true) :
    ¬ ReadsAs pid oid page number value t := by
  intro h
  let e : Entry := ⟨none, page, number, value⟩
  let x : Item := ⟨tagOf RTRVD_SET_ATTR_LIST oid, page, number, 0, none⟩
  have hround := roundup8_spec (LE_VAL_OFF + value.length)
  have hround' := roundup8_spec (LE_VAL_OFF + 0)
  have hval : LE_VAL_OFF = 16 := rfl
  have he8 : e.size = roundup8 (LE_VAL_OFF + value.length) := Nat.zero_add _
  have hx8 : x.size = roundup8 (LE_VAL_OFF + 0) := Nat.zero_add _
  have hout : (UInt32.ofNat e.size).toNat = e.size := UInt32.toNat_ofNat_of_lt' (by
    show e.size < 2 ^ 32
    omega)
  have hal : Aligned Env.calm 0 (UInt32.ofNat e.size).toNat := ⟨rfl, by rw [hout]; omega⟩
  have hwf : x.Wf := fun _ => rfl
  have hfit : x.size ≤ (UInt32.ofNat e.size).toNat := by
    rw [hout]
    omega
  obtain ⟨used, t', hrun, hdec⟩ := h Env.calm 0 (UInt32.ofNat e.size) false RTRVD_SET_ATTR_LIST
    (fun _ => rfl) (.inl rfl) hal (Nat.le_of_eq hout.symm)
  obtain ⟨used', v, hrun', hbytes⟩ := osdGetattrList_single (.inl rfl) hal
    (retrieve_single (fun _ => rfl) hs htype hget (pageItems_empty he)) hwf hfit
  rw [hrun] at hrun'
  cases hrun'
  -- the reply is the empty entry, which does not decode as the value
  have hempty := decodeEntry_whole hwf hfit
  rw [← hbytes] at hempty
  exact hne (congrArg Entry.value (hdec.singleton_inj (.cons hempty .nil)))

/-! ## Runs -/

theorem Db.typeOf_eq (d : Db) (p o : Int) :
    d.typeOf p o = ((d.objAt p o).head?.map ObjRow.type).getD .illegal := by
  rw [Db.typeOf, Db.objAt, List.head?_filter]

theorem Db.has_iff (d : Db) (p o : Int) : d.Has p o ↔ d.objAt p o ≠ [] := by
  unfold Db.Has Db.objAt
  rw [Ne, List.filter_eq_nil_iff]
  simp

/-- What writes the attribute or removes its object has left the tables alone. -/
def Undisturbed (k : Int × Int × Int × Int) (i : Step) (t t' : Target) : Prop :=
  i.op.Overwrites t k → t'.db = t.db

/-- **An attribute stays until it is written again or its object is removed.** -/
theorem Keeps.step {value : List UInt8} {type : ObjType} {i : Step} {t' : Target}
    (h : Keeps pid oid page number value type t) (hnext : i.next t t')
    (hu : Undisturbed (attrRow pid oid page number []).key i t t') :
    Keeps pid oid page number value type t' := by
  obtain ⟨-, ret, hrun⟩ := hnext
  by_cases hk : i.op.Overwrites t (attrRow pid oid page number []).key
  · have hdb := hu hk
    exact ⟨hdb ▸ h.row, hdb ▸ h.has, hdb ▸ h.type⟩
  · have hobj : t'.db.objAt (bindInt64 pid) (bindInt64 oid) = t.db.objAt (bindInt64 pid) (bindInt64 oid) :=
      i.op.exec_sameObj h.has hk ret t' hrun
    refine ⟨(i.op.exec_rewrites ret t' hrun).kept _ hk |>.trans h.row, ?_, ?_⟩
    · rw [Db.has_iff, hobj, ← Db.has_iff]
      exact h.has
    · rw [← h.type]
      unfold Db.objType
      rw [Db.typeOf_eq, Db.typeOf_eq, hobj]

/-- Between two states no object row, membership or data file changed, and no attribute but this. -/
structure OnlyAttr (k : Int × Int × Int × Int) (s s' : Target) : Prop where
  obj : s'.db.obj = s.db.obj
  coll : s'.db.coll = s.db.coll
  files : s'.files = s.files
  attr : ∀ k', k' ≠ k → s'.db.attrAt k' = s.db.attrAt k'

/-- Accepting an attribute that is not computed stores its row, and does nothing else. -/
theorem Stored.row_of_not_computed {val : Option Mem} {len : UInt16}
    (h : Stored pid oid page number val len s t) (hc : ¬ Computed page number) (hlen : len ≠ 0) :
    t = s.withAttr (storedRow pid oid page number val len) := by
  simp only [Computed, not_or, not_and, not_not] at hc
  obtain ⟨-, -, -, -, hcoll, hname, hosd⟩ := hc
  cases h with
  | row => rfl
  | deleted _ h0 => exact absurd h0 hlen
  | resized hui hnumber =>
    rw [hname hui] at hnumber
    exact absurd hnumber (by decide)
  | ignored hri hrow =>
    refine absurd ?_ hrow
    unfold Target.StoresRow
    rw [if_neg (by rw [hri]; decide), if_pos hri]
    exact .inl (hosd hri)
  | pointed h => exact absurd h hcoll
  | unpointed h => exact absurd h hcoll

theorem Keeps.run {value : List UInt8} {type : ObjType} (h : Keeps pid oid page number value type s')
    (ht : Reach Step.next (· = s') (Undisturbed (attrRow pid oid page number []).key) t) :
    Keeps pid oid page number value type t :=
  ht.invariant (fun _ hs => hs ▸ h) fun _ _ _ hi hnext hu => hi.step hnext hu

theorem Target.withAttr_onlyAttr (s : Target) (r : AttrRow) (c : Ccap) :
    OnlyAttr r.key s { s.withAttr r with ccap := c } := by
  refine ⟨rfl, rfl, rfl, fun k hk => filter_insertReplace fun x hx => decide_eq_false fun h => hk ?_⟩
  rw [← h, hx]

theorem Target.withAttr_attrAt (s : Target) (r : AttrRow) : (s.withAttr r).db.attrAt r.key = [r] := by
  show (insertReplace AttrRow.key r s.db.attr).filter _ = [r]
  unfold insertReplace deleteWhere
  rw [List.filter_append, List.filter_filter, List.filter_eq_nil_iff.2, List.nil_append]
  · simp
  · intro x _
    simp

/-- An accepted attribute that is not computed is in the table, and nothing else changed. -/
theorem osdSetAttributes_keeps {m : Mem} {len : UInt16} {isembedded : Bool}
    (hset : osdSetAttributes env pid oid page number (some m) len isembedded s = some (.ok, s'))
    (hc : ¬ Computed page number) :
    Keeps pid oid page number (m.read 0 len.toNat) (s.db.objType pid oid) s' ∧
      OnlyAttr (attrRow pid oid page number []).key s s' ∧ IsSingle page number ∧
      (m.read 0 len.toNat).length < 2 ^ 16 ∧ m.read 0 len.toNat ≠ [] ∧
      s.db.objType pid oid ≠ .illegal ∧ isgettablePage (s.db.objType pid oid) page = true := by
  obtain ⟨htype, hpage⟩ := osdSetAttributes_settable _ _ hset rfl
  obtain ⟨h, -⟩ | ⟨-, type, t, c, hchecks, hst, rfl⟩ := osdSetAttributes_stores _ _ hset
  · exact absurd rfl h
  have hlen : len ≠ 0 := hchecks.given.1 rfl
  have hval : (m.read 0 len.toNat).length = len.toNat := Mem.read_length ..
  obtain rfl := hst.row_of_not_computed hc hlen
  have honly := s.withAttr_onlyAttr (attrRow pid oid page number (m.read 0 len.toNat)) c
  refine ⟨⟨?_, hchecks.present, rfl⟩, honly, ⟨?_, hchecks.modifiable⟩, ?_, ?_, htype,
    isgettablePage_of_issettablePage hpage⟩
  · exact s.withAttr_attrAt (attrRow pid oid page number (m.read 0 len.toNat))
  · rintro rfl
    exact hc (.inr (.inr (.inr (.inl rfl))))
  · rw [hval]
    exact len.toNat_lt
  · intro hnil
    rw [hnil] at hval
    exact hlen (UInt16.toNat_inj.1 hval.symm)

/-- **What was set is read back, and nothing else changed**, on every page but two: there the value is
stored and a retrieval answers with length 0. -/
theorem set_get_coherent {m : Mem} {len : UInt16} {isembedded : Bool}
    (hset : osdSetAttributes env pid oid page number (some m) len isembedded s = some (.ok, s'))
    (hc : ¬ Computed page number) :
    ((∀ t, Reach Step.next (· = s') (Undisturbed (attrRow pid oid page number []).key) t →
        ReadsAs pid oid page number (m.read 0 len.toNat) t) ∧
      OnlyAttr (attrRow pid oid page number []).key s s') ↔
    page ≠ PARTITION_DIR_PG + USER_INFO_PG ∧ page ≠ PARTITION_DIR_PG + USER_QUOTA_PG := by
  obtain ⟨hkeeps, honly, hs, hlen, hne, htype, hget⟩ := osdSetAttributes_keeps hset hc
  constructor
  · rintro ⟨h, -⟩
    refine not_or.1 fun he => not_readsAs_of_answeredEmpty he hs hlen hne ?_ ?_ (h s' (.start rfl))
    · rwa [hkeeps.type]
    · rwa [hkeeps.type]
  · refine fun he => ⟨fun t ht => ?_, honly⟩
    exact (hkeeps.run ht).readsAs hc (not_or.2 he) hs hlen htype hget

/-- A partition whose information page was given an attribute, and one given an attribute elsewhere. -/
def setPartitionInfo (page : UInt32) : Option (Ret × Target) :=
  osdSetAttributes Env.calm 0x10000 0 page 5 (some (blobMem [7])) 1 false
    (calmRun [.createPartition 0])

theorem setPartitionInfo_ok (page : UInt32) (h : page = 0x30000001 ∨ page = 0x30010000) :
    ∃ s', setPartitionInfo page = some (.ok, s') := by
  have hok : (setPartitionInfo page).map Prod.fst = some .ok := by
    rcases h with rfl | rfl <;> decide +kernel
  obtain ⟨⟨ret, s'⟩, hs, rfl⟩ := Option.map_eq_some_iff.1 hok
  exact ⟨s', hs⟩

theorem set_get_coherent_partition : ∃ s', setPartitionInfo 0x30010000 = some (.ok, s') ∧
    ((∀ t, Reach Step.next (· = s') (Undisturbed (attrRow 0x10000 0 0x30010000 5 []).key) t →
        ReadsAs 0x10000 0 0x30010000 5 ((blobMem [7]).read 0 1) t) ∧
      OnlyAttr (attrRow 0x10000 0 0x30010000 5 []).key (calmRun [.createPartition 0]) s') := by
  obtain ⟨s', hs⟩ := setPartitionInfo_ok 0x30010000 (.inr rfl)
  exact ⟨s', hs, (set_get_coherent hs (by decide)).2 (by decide)⟩

/-- An attribute of the information page of a partition is stored and read back with length 0. -/
theorem partitionInfo_read_empty : ¬ ∀ (env : Env) (s s' : Target) (pid oid : UInt64) (page number : UInt32)
    (m : Mem) (len : UInt16) (isembedded : Bool),
    osdSetAttributes env pid oid page number (some m) len isembedded s = some (.ok, s') →
    ¬ Computed page number →
    (∀ t, Reach Step.next (· = s') (Undisturbed (attrRow pid oid page number []).key) t →
        ReadsAs pid oid page number (m.read 0 len.toNat) t) ∧
      OnlyAttr (attrRow pid oid page number []).key s s' := by
  intro h
  obtain ⟨s', hs⟩ := setPartitionInfo_ok 0x30000001 (.inl rfl)
  obtain ⟨hkeeps, -, hsingle, hlen, hne, htype, hget⟩ := osdSetAttributes_keeps hs (by decide)
  rw [← hkeeps.type] at htype hget
  exact not_readsAs_of_answeredEmpty (by decide) hsingle hlen hne htype hget
    ((h _ _ _ _ _ _ _ _ _ _ hs (by decide)).1 s' (.start rfl))

end OsdTarget
