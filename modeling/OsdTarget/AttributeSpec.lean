import OsdTarget.Frame

/-!
# Specifications of the attribute commands

For each attribute command, everything it can do to the tables: the attribute rows it may add and
the objects they belong to, and for SET ATTRIBUTES the membership it may add.
-/

namespace OsdTarget

open Base

variable {env : Env} {s : Target}

/-! ## Object types -/

/-- What an answer of `get_obj_type` other than `illegal` says about the table.  For the root object
and for partitions it says nothing. -/
def TypeAnswer (d : Db) (pid oid : UInt64) (type : ObjType) : Prop :=
  (type = .root ∧ pid = ROOT_PID ∧ oid = ROOT_OID) ∨
  (type = .partition ∧ PARTITION_PID_LB ≤ pid ∧ oid = PARTITION_OID) ∨
  d.HasType (bindInt64 pid) (bindInt64 oid) type

theorem getObjType_ends {pid oid : UInt64} {Q : ObjType → Target → Prop} (hill : Q .illegal s)
    (hok : ∀ type, type ≠ .illegal → TypeAnswer s.db pid oid type → Q type s) :
    Ends (getObjType env pid oid) s Q := by
  refine ends_ite_of (fun h => ends_pure.2 (hok _ (by simp) (.inl ⟨rfl, h⟩))) fun _ =>
    ends_ite_of (fun h => ends_pure.2 (hok _ (by simp) (.inr (.inl ⟨rfl, h⟩)))) fun _ =>
    ends_ite_of (fun _ => ?_) fun _ => ends_pure.2 hill
  refine ends_bind.2 (dbExecQuery_ends (fun _ => ?_) (fun _ => ends_pure.2 hill))
  refine ends_pure.2 ?_
  by_cases ht : s.db.typeOf (bindInt64 pid) (bindInt64 oid) = .illegal
  · rw [ht]
    exact hill
  · exact hok _ ht (.inr (.inr (Db.hasType_of_typeOf rfl ht)))

/-- The type of a collection or a user object was read from the table. -/
theorem TypeAnswer.hasType {d : Db} {pid oid : UInt64} {type : ObjType} (h : TypeAnswer d pid oid type)
    (hr : type ≠ .root) (hp : type ≠ .partition) : d.HasType (bindInt64 pid) (bindInt64 oid) type := by
  rcases h with h | h | h
  · exact absurd h.1 hr
  · exact absurd h.1 hp
  · exact h

/-! ## GET ATTRIBUTES -/

section Stays

variable {R : Target → Target → Prop} [Stays R]

theorem osdGetattrList_stays {pid oid : UInt64} {page number : UInt32} {pos : Nat} {outlen : UInt32}
    {isembedded : Bool} {listfmt : UInt8}
    (h : page = GETALLATTR_PG → (∃ type, TypeAnswer s.db pid oid type) →
      ∀ r ∈ lazyAttrs pid oid, Admits R r) :
    Ends (osdGetattrList env pid oid page number pos outlen isembedded listfmt) s
      (fun _ s' => R s s') := by
  refine ends_bind.2 (getObjType_ends ?_ fun type hne ht => ?_)
  · exact ends_ite_of (fun _ => ends_pure.2 (Stays.refl R s)) (fun h => absurd rfl h)
  · have hend : ∀ used, Respects R
        (if (!isembedded) = true then setCcap (fillCcap type pid oid 0) >>= fun _ => pure (.ok, used)
          else pure (.ok, used) : OsdM (Ret × Option UInt32)) :=
      fun used => respects_ite (resp_bind (resp_setCcap _) fun _ => resp_pure _) (resp_pure _)
    refine respects_ite (resp_pure _) (respects_ite (resp_pure _)
      (resp_bind (resp_lazyInitAttr fun hpage => h hpage ⟨type, ht⟩) fun _ =>
        respects_ite (resp_pure _) (resp_bind (resp_getattrListByPage _ _ _ _ _ _ _)
          fun r => respects_ite (resp_pure _) ?_))) s
    dsimp only
    refine respects_ite (resp_bind (resp_fillNullAttr _ _ _ _ _ _) fun n => ?_) (hend _)
    split
    · exact hend _
    · exact hend _
    · exact resp_pure _

theorem osdGetattrPage_stays {pid oid : UInt64} {page : UInt32} {pos : Nat} {outlen : UInt64}
    {isembedded : Bool}
    (h : page = GETALLATTR_PG → (∃ type, TypeAnswer s.db pid oid type) →
      ∀ r ∈ lazyAttrs pid oid, Admits R r) :
    Ends (osdGetattrPage env pid oid page pos outlen isembedded) s (fun _ s' => R s s') := by
  refine ends_bind.2 (getObjType_ends ?_ fun type hne ht => ?_)
  · exact ends_ite_of (fun _ => ends_pure.2 (Stays.refl R s)) (fun h => absurd rfl h)
  · refine respects_ite (resp_pure _) (respects_ite (resp_pure _) ?_) s
    dsimp only
    have hget : Respects R (attrGetAllAttrs env pid oid RTRVD_SET_ATTR_LIST pos outlen) :=
      resp_execAttrRtrvlStmt _ _ _ _ _ _
    refine respects_ite (resp_bind (resp_setCcap _) fun _ => ?_) ?_ <;>
    exact respects_ite (resp_bind (resp_getCcap _ _) fun _ => resp_pure _)
      (respects_ite (resp_bind (resp_getUtsap _ _ _ _) fun _ => resp_pure _)
        (respects_ite_of (fun hpage => resp_bind
          (resp_lazyInitAttr fun _ => h hpage ⟨type, ht⟩) fun _ =>
          respects_ite (resp_pure _) (resp_bind hget fun _ => resp_pure _))
          fun _ => resp_pure _))

end Stays

/-- The rows a retrieval may add: those of the object, and only when everything is asked for. -/
def LazyRows (d : Db) (pid oid : UInt64) (page : UInt32) (p o : Int) : Prop :=
  p = bindInt64 pid ∧ o = bindInt64 oid ∧ page = GETALLATTR_PG ∧
    ∃ type, TypeAnswer d pid oid type

theorem mem_lazyAttrs {pid oid : UInt64} {r : AttrRow} (h : r ∈ lazyAttrs pid oid) :
    r.pid = bindInt64 pid ∧ r.oid = bindInt64 oid := by
  simp only [lazyAttrs, List.mem_cons, List.not_mem_nil, or_false] at h
  rcases h with rfl | rfl <;> exact ⟨rfl, rfl⟩

theorem lazyRows_admits {d : Db} {pid oid : UInt64} {page : UInt32} (hpage : page = GETALLATTR_PG)
    (ht : ∃ type, TypeAnswer d pid oid type) (r : AttrRow) (hr : r ∈ lazyAttrs pid oid) :
    Admits (AttrStep (LazyRows d pid oid page)) r := by
  obtain ⟨hp, ho⟩ := mem_lazyAttrs hr
  exact AttrStep.admits ⟨hp, ho, hpage, ht⟩

/-! ## CAS, FA and GEN CAS -/

/-- The rows a command may add that tests the presence of its object. -/
def OwnRows (d : Db) (pid oid : UInt64) (p o : Int) : Prop :=
  p = bindInt64 pid ∧ o = bindInt64 oid ∧ d.Has p o

theorem isPresentUserobject_ends {pid oid : UInt64} {Q : Bool → Target → Prop} (hno : Q false s)
    (hok : s.db.HasType (bindInt64 pid) (bindInt64 oid) .userobject → Q true s) :
    Ends (isPresentUserobject env pid oid) s Q := by
  have htype : Ends (getObjType env pid oid >>= fun t => pure (decide (t = .userobject))) s Q := by
    refine ends_bind.2 (getObjType_ends (ends_pure.2 (by simpa using hno)) fun type _ ht => ?_)
    by_cases h : type = .userobject
    · subst h
      exact ends_pure.2 (by simpa using hok (ht.hasType (by simp) (by simp)))
    · exact ends_pure.2 (by simpa [h] using hno)
  refine ends_bind.2 (objIspresent_ends ?_ ?_)
  · exact ends_ite_of (fun _ => ends_pure.2 hno) (fun _ => htype)
  · exact ends_ite_of (fun _ => ends_pure.2 hno) (fun _ => htype)

/-- The bytes `attr_get_val` finds: none when the attribute is missing or empty. -/
def Db.attrVal (d : Db) (k : Int × Int × Int × Int) : List UInt8 :=
  match d.attr.find? (fun r => r.key = k) with
  | none => []
  | some r => r.value.take (UInt16.ofNat r.value.length).toNat

/-- A status of `attr_get_val` that the callers go on with tells whether there is a value. -/
theorem attrGetVal_ends {pid oid : UInt64} {page number : UInt32} {outlen : UInt64}
    {Q : Ret × List UInt8 → Target → Prop}
    (hok : s.db.attrVal (attrRow pid oid page number []).key ≠ [] →
      Q (.ok, s.db.attrVal (attrRow pid oid page number []).key) s)
    (hnone : s.db.attrVal (attrRow pid oid page number []).key = [] → Q (.err .enoent, []) s)
    (herr : ∀ e, e ≠ .enoent → Q (.err e, []) s) :
    Ends (attrGetVal env pid oid page number outlen) s Q := by
  refine ends_bind.2 (dbExecQuery_ends (fun _ => ?_) fun _ => ends_pure.2 (herr _ (by simp)))
  have hkey : (attrRow pid oid page number []).key
      = (bindInt64 pid, bindInt64 oid, bindInt page, bindInt number) := rfl
  unfold Db.attrVal at hok hnone
  rw [hkey] at hok hnone
  cases hf : s.db.attr.find? (fun r => r.key =
    (bindInt64 pid, bindInt64 oid, bindInt page, bindInt number)) with
  | none =>
    rw [hf] at hnone
    exact ends_pure.2 (hnone rfl)
  | some r =>
    rw [hf] at hok hnone
    refine ends_ite_of (fun _ => ends_pure.2 (herr _ (by simp))) fun _ =>
      ends_ite_of (fun h0 => ?_) fun h0 => ?_
    · exact ends_pure.2 (hnone (by dsimp only; rw [h0, List.take_zero]))
    · refine ends_pure.2 (hok fun hnil => h0 ?_)
      have hlen := congrArg List.length hnil
      rw [List.length_take, List.length_nil, UInt16.toNat_ofNat'] at hlen
      rw [UInt16.toNat_ofNat']
      have := Nat.mod_le r.value.length (2 ^ 16)
      omega

/-- What GEN CAS compares: the attribute is missing, or has the given value. -/
def GenCasSwaps (d : Db) (k : Int × Int × Int × Int) (cmp : Option Mem) (cmpLen : UInt16) : Prop :=
  d.attrVal k = [] ∨ givenBytes cmp cmpLen = d.attrVal k

section Stays

variable {R : Target → Target → Prop} [Stays R]

theorem resp_readAtomic {pid oid : UInt64} {number : UInt32}
    (h : ∀ value : List UInt8, value.length = 8 → Admits R (attrRow pid oid USER_ATOMICS_PG number value)) :
    Respects R (readAtomic env pid oid number) :=
  resp_bind (resp_attrGetVal _ _ _ _ _) fun _ => respects_ite (resp_pure _)
    (respects_ite (resp_pure _) (resp_bind (resp_attrSetAttr (h _ (by simp))
      fun h => absurd h (by decide)) fun _ => respects_ite (resp_pure _) (resp_pure _)))

/-- The shape of the three commands: nothing happens unless the user object is present. -/
theorem atomic_stays {α : Type} {pid oid : UInt64} {rejected : α} {m : OsdM α}
    (hm : s.db.HasType (bindInt64 pid) (bindInt64 oid) .userobject → Ends m s (fun _ s' => R s s')) :
    Ends (isPresentUserobject env pid oid >>= fun b => if (!b) = true then pure rejected else m) s
      (fun _ s' => R s s') :=
  ends_bind.2 (isPresentUserobject_ends (ends_pure.2 (Stays.refl R s)) hm)

theorem osdCas_stays {pid oid cmp swap : UInt64} {pos : Nat}
    (h : s.db.HasType (bindInt64 pid) (bindInt64 oid) .userobject → ∀ value : List UInt8,
      value.length = 8 → Admits R (attrRow pid oid USER_ATOMICS_PG UAP_CAS value)) :
    Ends (osdCas env pid oid cmp swap pos) s (fun _ s' => R s s') := by
  refine atomic_stays fun hu => resp_bind (resp_readAtomic (h hu)) (fun val => ?_) s
  have hend : ∀ val, Respects R
      (outWrite pos (htonll val) >>= fun _ => pure (.ok, some 8) : OsdM (Ret × Option UInt64)) :=
    fun val => resp_bind (resp_outWrite _ _) fun _ => resp_pure _
  cases val with
  | none => exact resp_pure _
  | some val =>
    refine respects_ite (resp_bind (resp_attrSetAttr (h hu _ ?_) fun h => absurd h (by decide)) fun _ =>
      respects_ite (resp_pure _) (hend val)) (hend val)
    simp

theorem osdFa_stays {pid oid add : UInt64} {pos : Nat}
    (h : s.db.HasType (bindInt64 pid) (bindInt64 oid) .userobject → ∀ value : List UInt8,
      value.length = 8 → Admits R (attrRow pid oid USER_ATOMICS_PG UAP_FA value)) :
    Ends (osdFa env pid oid add pos) s (fun _ s' => R s s') := by
  refine atomic_stays fun hu => resp_bind (resp_readAtomic (h hu)) (fun val => ?_) s
  cases val with
  | none => exact resp_pure _
  | some val =>
    refine resp_bind (resp_attrSetAttr (h hu _ ?_) fun h => absurd h (by decide)) fun _ =>
      respects_ite (resp_pure _) (resp_bind (resp_outWrite _ _) fun _ => resp_pure _)
    simp

omit [Stays R] in
theorem genCasSwaps_of_same {d : Db} {k : Int × Int × Int × Int} {cmp : Option Mem} {cmpLen : UInt16}
    {val : List UInt8} (hval : val = d.attrVal k)
    (h : (decide (val.length = cmpLen.toNat) && (match cmp with
      | some m => decide (m.read 0 val.length = val)
      | none => decide (val.length = 0))) = true) : GenCasSwaps d k cmp cmpLen := by
  rw [Bool.and_eq_true, decide_eq_true_eq] at h
  obtain ⟨hlen, hsame⟩ := h
  cases cmp with
  | none => exact .inl (hval ▸ List.length_eq_zero_iff.1 (of_decide_eq_true hsame))
  | some m =>
    refine .inr ?_
    show m.read 0 cmpLen.toNat = _
    rw [← hlen, ← hval]
    exact of_decide_eq_true hsame

/-- The swap and the delete of GEN CAS, after its comparison. -/
theorem swapOrDelete_stays {α : Type} {pid oid : UInt64} {page number : UInt32} {swap : Option Mem}
    {swapLen : UInt16} {swaps deletes : Prop} [Decidable swaps] [Decidable deletes]
    {failed done kept : α}
    (hput : swaps → s.StoresRow page number swapLen →
      R s (s.withAttr (storedRow pid oid page number swap swapLen)))
    (hdel : AdmitsDelete R (attrRow pid oid page number []).key) (hf : AdmitsFile R pid oid) :
    Ends (if swaps then
        attrSetAttr env pid oid page number swap swapLen >>= fun ret =>
          if ret ≠ .ok then pure failed else pure done
      else if deletes then
        attrDeleteAttr env pid oid page number >>= fun ret =>
          if ret ≠ .ok then pure failed else pure done
      else pure kept : OsdM α) s (fun _ s' => R s s') := by
  have hend : ∀ (ret : Ret) t, R s t →
      Ends (if ret ≠ .ok then pure failed else pure done : OsdM α) t (fun _ s' => R s s') :=
    fun _ _ h => ends_ite_of (fun _ => ends_pure.2 h) fun _ => ends_pure.2 h
  refine ends_ite_of (fun hs => ?_) fun _ => ends_ite_of (fun _ => ?_) fun _ =>
    ends_pure.2 (Stays.refl R s)
  · exact ends_call (P := fun _ s' => R s s') (attrSetAttr_ends (fun hst => hput hs hst)
      (fun _ _ => hf s) fun _ _ => Stays.refl R s) hend
  · exact ends_call (P := fun _ s' => R s s') (attrDeleteAttr_ends (hdel s) (Stays.refl R s)) hend

theorem osdGenCas_stays {pid oid : UInt64} {page number : UInt32} {cmp : Option Mem} {cmpLen : UInt16}
    {swap : Option Mem} {swapLen : UInt16}
    (hput : s.db.HasType (bindInt64 pid) (bindInt64 oid) .userobject → swapLen ≠ 0 → swap.isSome = true →
      GenCasSwaps s.db (attrRow pid oid page number []).key cmp cmpLen → s.StoresRow page number swapLen →
      R s (s.withAttr (storedRow pid oid page number swap swapLen)))
    (hdel : s.db.HasType (bindInt64 pid) (bindInt64 oid) .userobject →
      AdmitsDelete R (attrRow pid oid page number []).key)
    (hf : s.db.HasType (bindInt64 pid) (bindInt64 oid) .userobject → AdmitsFile R pid oid) :
    Ends (osdGenCas env pid oid page number cmp cmpLen swap swapLen) s (fun _ s' => R s s') := by
  have hne : 0 < swapLen → swapLen ≠ 0 := by
    rintro h rfl
    exact absurd h (by decide)
  refine atomic_stays fun hu => ends_bind.2 (attrGetVal_ends (fun _ => ?_) (fun hnil => ?_) fun e he => ?_)
  · refine ends_ite_of (fun h => absurd rfl h.1) fun _ =>
      swapOrDelete_stays (fun hs hst => ?_) (hdel hu) (hf hu)
    obtain ⟨hlen, hsome, hno | hsame⟩ := hs
    · exact absurd rfl hno
    · exact hput hu (hne hlen) hsome (genCasSwaps_of_same rfl hsame) hst
  · refine ends_ite_of (fun h => absurd rfl h.2) fun _ =>
      swapOrDelete_stays (fun hs hst => ?_) (hdel hu) (hf hu)
    exact hput hu (hne hs.1) hs.2.1 (.inl hnil) hst
  · exact ends_ite_of (fun _ => ends_pure.2 (Stays.refl R s)) fun h => absurd ⟨by simp, by simpa using he⟩ h

end Stays

/-! ## SET ATTRIBUTES -/

theorem collGetCid_ends {pid oid : UInt64} {number : UInt32} {cid : UInt64}
    {Q : Ret × UInt64 → Target → Prop} (h : ∀ r, Q r s) : Ends (collGetCid env pid oid number cid) s Q := by
  unfold collGetCid
  exact dbExecQuery_ends (fun _ => h _) (fun _ => h _)

/-- The page has no function of its own in `osd_set_attributes`. -/
def IsPlainPage (page : UInt32) : Prop :=
  page ≠ USER_INFO_PG ∧ page ≠ ROOT_INFO_PG ∧ page ≠ USER_COLL_PG

instance (page : UInt32) : Decidable (IsPlainPage page) := inferInstanceAs (Decidable (_ ∧ _ ∧ _))

/-- The outcomes of an attribute that was accepted. -/
inductive Stored (pid oid : UInt64) (page number : UInt32) (val : Option Mem) (len : UInt16) (s : Target) :
    Target → Prop
  | row (hpage : page ≠ USER_COLL_PG) (hrow : s.StoresRow page number len)
    (hlen : IsPlainPage page → len ≠ 0) :
    Stored pid oid page number val len s (s.withAttr (storedRow pid oid page number val len))
  | deleted (hpage : IsPlainPage page) (hlen : len = 0) :
    Stored pid oid page number val len s (s.withoutAttr (attrRow pid oid page number []).key)
  | resized (hpage : page = USER_INFO_PG) (hnumber : number = UIAP_LOGICAL_LEN) (c c' : List UInt8)
    (hfile : s.files pid oid = some c) :
    Stored pid oid page number val len s (s.setFile pid oid (some c'))
  | ignored (hpage : page = ROOT_INFO_PG) (hrow : ¬ s.StoresRow page number len) :
    Stored pid oid page number val len s s
  | pointed (hpage : page = USER_COLL_PG) (m : Mem) (hval : val = some m) (hlen : len = 8)
    (hhas : s.db.Has (bindInt64 pid) (bindInt64 (getNtohll m 0))) (t : List CollRow)
    (hrow : insertColl ⟨bindInt64 pid, bindInt64 (getNtohll m 0), bindInt64 oid, bindInt number⟩
      s.db.coll = some t) : Stored pid oid page number val len s (s.setColl t)
  | unpointed (hpage : page = USER_COLL_PG) (hlen : len = 0) (cid : UInt64) :
    Stored pid oid page number val len s (s.setColl (deleteWhere
      (fun r => r.pid = bindInt64 pid ∧ r.cid = bindInt64 cid ∧ r.oid = bindInt64 oid) s.db.coll))

section Outcomes

variable {pid oid : UInt64} {page number : UInt32} {val : Option Mem} {len : UInt16}

/-- The attribute is stored, or it is refused and nothing happens. -/
def StoresOrNot (pid oid : UInt64) (page number : UInt32) (val : Option Mem) (len : UInt16) (s : Target)
    (ret : Ret) (s' : Target) : Prop :=
  ret ≠ .ok ∧ s' = s ∨ ret = .ok ∧ Stored pid oid page number val len s s'

theorem storesOrNot_error {ret : Ret} (h : ret ≠ .ok) : StoresOrNot pid oid page number val len s ret s :=
  .inl ⟨h, rfl⟩

theorem setCap_stores (hpage : page = USER_COLL_PG) :
    Ends (setCap env pid oid number val len) s (StoresOrNot pid oid page number val len s) := by
  have hfail : Ends (pure (.err .osdError) : OsdM Ret) s (StoresOrNot pid oid page number val len s) :=
    ends_pure.2 (storesOrNot_error (by simp))
  refine ends_ite_of (fun _ => hfail) fun _ => ends_ite_of (fun hlen => ?_) fun _ =>
    ends_ite_of (fun _ => hfail) fun hlen => ?_
  · -- a zero length deletes the membership the pointer held
    refine ends_bind.2 (collGetCid_ends fun r => ends_ite_of (fun _ => hfail) fun _ => ?_)
    refine ends_bind.2 (dbExecDms_ends_of rfl ?_ fun _ => ends_ite_of (fun _ => hfail) fun h =>
      absurd (by simp) h)
    refine ends_ite_of (fun h => absurd rfl h) fun _ => ends_pure.2 (.inr ⟨rfl, ?_⟩)
    exact .unpointed hpage hlen r.2
  · cases val with
    | none => exact ends_never.2 trivial
    | some m =>
      refine ends_bind.2 (objIspresent_ends ?_ (ends_ite_of (fun _ => hfail) fun h =>
        absurd (.inl (by simp)) h))
      refine ends_ite_of (fun _ => hfail) fun hp => ?_
      have hhas : s.db.Has (bindInt64 pid) (bindInt64 (getNtohll m 0)) := by simpa using hp
      refine ends_bind.2 (dbExecDms_ends (fun d _ hd => ?_) fun _ =>
        ends_ite_of (fun _ => hfail) fun h => absurd (by simp) h)
      simp only [Dms.run, Option.map_eq_some_iff] at hd
      obtain ⟨t, ht, rfl⟩ := hd
      refine ends_ite_of (fun h => absurd rfl h) fun _ => ends_pure.2 (.inr ⟨rfl, ?_⟩)
      exact .pointed hpage m rfl (by simpa using hlen) hhas t ht

theorem setUiap_stores (hpage : page = USER_INFO_PG) :
    Ends (setUiap env pid oid number val len) s (StoresOrNot pid oid page number val len s) := by
  subst hpage
  refine ends_ite_of (fun hn => ?_) fun _ => ends_ite_of (fun hn => ?_) fun _ =>
    ends_pure.2 (storesOrNot_error (by simp))
  · refine attrSetAttrRow_ends (.inr ⟨rfl, .row (by decide) hn fun h => absurd rfl h.1⟩) ?_
    exact storesOrNot_error (by simp)
  · cases val with
    | none => exact ends_never.2 trivial
    | some m =>
      exact setLogicalLen_ends (fun c c' hf => .inr ⟨rfl, .resized rfl hn c c' hf⟩)
        (storesOrNot_error (by simp))

theorem setRiap_stores (hpage : page = ROOT_INFO_PG) :
    Ends (setRiap env pid oid number val len) s (StoresOrNot pid oid page number val len s) := by
  subst hpage
  have hset : Ends (attrSetAttr env pid oid ROOT_INFO_PG number val len) s
      (StoresOrNot pid oid ROOT_INFO_PG number val len s) := by
    refine attrSetAttr_ends (fun hrow => .inr ⟨rfl, .row (by decide) hrow fun h => absurd rfl h.2.1⟩)
      (fun h => absurd h (by decide)) fun ret h => ?_
    by_cases hok : ret = .ok
    · rcases h hok with ⟨hrow, -⟩ | ⟨hui, -⟩
      · exact .inr ⟨hok, .ignored rfl hrow⟩
      · exact absurd hui (by decide)
    · exact storesOrNot_error hok
  exact ends_bind.2 (ends_get.2 (ends_ite_of (fun _ => ends_ite_of
    (fun _ => ends_pure.2 (storesOrNot_error (by simp))) fun _ => ends_ite_of
      (fun _ => ends_pure.2 (storesOrNot_error (by simp))) fun _ => hset) fun _ => hset))

theorem cdbErr_ne_ok (pid oid : UInt64) : cdbErr pid oid ≠ .ok := nofun

theorem storeAttribute_stores : Ends (storeAttribute env pid oid page number val len) s
    (StoresOrNot pid oid page number val len s) := by
  have hspecial : ∀ m : OsdM Ret, Ends m s (StoresOrNot pid oid page number val len s) →
      Ends (m >>= fun r => if r = .ok then pure .ok else pure (cdbErr pid oid)) s
        (StoresOrNot pid oid page number val len s) := by
    refine fun m hm => ends_call hm fun ret t h => ends_ite_of (fun hok => ends_pure.2 ?_)
      fun hno => ends_pure.2 ?_
    · rwa [hok] at h
    · rcases h with ⟨-, rfl⟩ | ⟨hok, -⟩
      · exact storesOrNot_error (cdbErr_ne_ok _ _)
      · exact absurd hok hno
  refine ends_ite_of (fun hui => hspecial _ (setUiap_stores hui)) fun hui =>
    ends_ite_of (fun hri => hspecial _ (setRiap_stores hri)) fun hri =>
    ends_ite_of (fun hcap => hspecial _ (setCap_stores hcap)) fun hcap =>
    ends_ite_of (fun hlen => hspecial _ ?_) fun hlen => ?_
  · exact attrDeleteAttr_ends (.inr ⟨rfl, .deleted ⟨hui, hri, hcap⟩ hlen⟩) (storesOrNot_error (by simp))
  · refine ends_bind.2 (attrSetAttrRow_ends ?_ ?_)
    · refine ends_ite_of (fun _ => ends_pure.2 (.inr ⟨rfl, ?_⟩)) fun h => absurd rfl h
      refine .row hcap ?_ fun _ => hlen
      unfold Target.StoresRow
      rw [if_neg hui, if_neg hri]
      trivial
    · exact ends_ite_of (fun h => nomatch h) fun _ => ends_pure.2 (storesOrNot_error nofun)

/-- The argument checks of `osd_set_attributes`. -/
structure SetChecks (d : Db) (pid oid : UInt64) (page number : UInt32) (val : Option Mem) (len : UInt16)
    (type : ObjType) : Prop where
  present : d.Has (bindInt64 pid) (bindInt64 oid)
  answer : TypeAnswer d pid oid type
  settable : issettablePage type page = true
  modifiable : number ≠ ATTRNUM_UNMODIFIABLE
  given : val.isSome = true ↔ len ≠ 0
  info : number = ATTRNUM_INFO → len.toNat ≤ ATTR_PAGE_ID_LEN ∧ hasNul val len = true
  short : len.toNat ≤ ATTR_LEN_UB

/-- **`osd_set_attributes`**: a refused command changes nothing, an accepted one stores the attribute
and may fill the page of the current command. -/
theorem osdSetAttributes_stores {isembedded : Bool} :
    Ends (osdSetAttributes env pid oid page number val len isembedded) s (fun ret s' =>
      ret ≠ .ok ∧ s' = s ∨ ret = .ok ∧ ∃ type t c, SetChecks s.db pid oid page number val len type ∧
        Stored pid oid page number val len s t ∧ s' = { t with ccap := c }) := by
  have hfail : ∀ ret : Ret, ret ≠ .ok → Ends (pure ret : OsdM Ret) s (fun ret s' =>
      ret ≠ .ok ∧ s' = s ∨ ret = .ok ∧ ∃ type t c, SetChecks s.db pid oid page number val len type ∧
        Stored pid oid page number val len s t ∧ s' = { t with ccap := c }) :=
    fun ret h => ends_pure.2 (.inl ⟨h, rfl⟩)
  refine ends_bind.2 (objIspresent_ends ?_ (ends_ite_of (fun _ => hfail _ nofun)
    fun h => absurd (.inl (by simp)) h))
  refine ends_ite_of (fun _ => hfail _ nofun) fun hp => ?_
  have hhas : s.db.Has (bindInt64 pid) (bindInt64 oid) := by simpa using hp
  refine ends_bind.2 (getObjType_ends (ends_ite_of (fun _ => hfail _ nofun) fun h => absurd rfl h)
    fun type hne htype => ?_)
  refine ends_ite_of (fun _ => hfail _ nofun) fun _ => ends_ite_of (fun _ => hfail _ nofun) fun hset => ?_
  refine ends_ite_of (fun _ => hfail _ nofun) fun hnum => ends_ite_of (fun _ => hfail _ nofun) fun hgiven =>
    ends_ite_of (fun _ => hfail _ nofun) fun hinfo => ends_ite_of (fun _ => hfail _ nofun) fun hlen => ?_
  have hchecks : SetChecks s.db pid oid page number val len type := by
    refine ⟨hhas, htype, by simpa using hset, hnum, ?_, fun h => ?_, by omega⟩
    · rw [not_or, not_and, not_and, Decidable.not_not] at hgiven
      refine ⟨hgiven.2, fun hl => ?_⟩
      by_contra hval
      exact hl (hgiven.1 (by simpa using hval))
    · rw [not_and, not_or] at hinfo
      have hinfo := hinfo h
      exact ⟨by omega, by simpa using hinfo.2⟩
  refine ends_call storeAttribute_stores fun ret t h => ?_
  rcases h with ⟨hno, rfl⟩ | ⟨rfl, hst⟩
  · exact ends_ite_of (fun _ => ends_pure.2 (.inl ⟨hno, rfl⟩)) fun h => absurd hno h
  · refine ends_ite_of (fun h => absurd rfl h) fun _ => ends_ite_of (fun _ => ?_) fun _ => ?_
    · exact ends_bind.2 (ends_modify.2 (ends_pure.2 (.inr ⟨rfl, type, t, _, hchecks, hst, rfl⟩)))
    · exact ends_pure.2 (.inr ⟨rfl, type, t, t.ccap, hchecks, hst, rfl⟩)

end Outcomes

/-- A membership `set_cap` adds: the value names a present object of the partition. -/
def PointerRow (d : Db) (pid oid : UInt64) (val : Option Mem) (len : UInt16) (r : CollRow) : Prop :=
  ∃ m, val = some m ∧ len = 8 ∧ d.Has (bindInt64 pid) (bindInt64 (getNtohll m 0)) ∧
    r.pid = bindInt64 pid ∧ r.cid = bindInt64 (getNtohll m 0) ∧ r.oid = bindInt64 oid

/-- Everything SET ATTRIBUTES can do: attributes of its own present object, and on the collections
page of a user object one membership. -/
structure SetStep (pid oid : UInt64) (page : UInt32) (val : Option Mem) (len : UInt16)
    (s s' : Target) : Prop extends IdStep s s' where
  attr : ∀ r ∈ s'.db.attr, r ∈ s.db.attr ∨ OwnRows s.db pid oid r.pid r.oid
  coll : ∀ r ∈ s'.db.coll, r ∈ s.db.coll ∨
    page = USER_COLL_PG ∧ s.db.HasType (bindInt64 pid) (bindInt64 oid) .userobject ∧
      PointerRow s.db pid oid val len r

theorem AttrStep.setStep {pid oid : UInt64} {page : UInt32} {val : Option Mem} {len : UInt16}
    {s s' : Target} (h : AttrStep (OwnRows s.db pid oid) s s') : SetStep pid oid page val len s s' :=
  { h with coll := fun _ hr => .inl (h.coll ▸ hr) }

theorem SetStep.refl (pid oid : UInt64) (page : UInt32) (val : Option Mem) (len : UInt16)
    (s : Target) : SetStep pid oid page val len s s :=
  (AttrStep.refl (K := OwnRows s.db pid oid) s).setStep

/-- The collections page can be set on user objects only. -/
theorem issettablePage_collPg {type : ObjType} (h : issettablePage type USER_COLL_PG = true) :
    type = .userobject := by
  revert h
  cases type <;> decide

theorem Stored.setStep {pid oid : UInt64} {page number : UInt32} {val : Option Mem} {len : UInt16}
    {type : ObjType} {s' : Target} (hc : SetChecks s.db pid oid page number val len type)
    (h : Stored pid oid page number val len s s') : SetStep pid oid page val len s s' := by
  have hK : OwnRows s.db pid oid (bindInt64 pid) (bindInt64 oid) := ⟨rfl, rfl, hc.present⟩
  cases h with
  | row => exact (AttrStep.admits hK s).setStep
  | deleted => exact (AttrStep.admitsDelete _ _ s).setStep
  | resized hpage hnumber c c' hfile => exact (AttrStep.admitsFile _ _ _ s c c' hfile).setStep
  | ignored => exact .refl ..
  | pointed hpage m hval hlen hhas t hrow =>
    subst hpage
    obtain rfl := issettablePage_collPg hc.settable
    have huser := hc.answer.hasType (by simp) (by simp)
    simp only [insertColl, Option.ite_none_left_eq_some, Option.some.injEq] at hrow
    obtain ⟨-, rfl⟩ := hrow
    refine { SetStep.refl pid oid USER_COLL_PG val len s with coll := fun r hr => ?_ }
    rcases mem_insertReplace.1 hr with h | rfl
    · exact .inl h.1
    · exact .inr ⟨rfl, huser, m, hval, hlen, hhas, rfl, rfl, rfl⟩
  | unpointed =>
    exact { SetStep.refl pid oid page val len s with coll := fun _ hr => .inl (mem_deleteWhere.1 hr).1 }

theorem osdSetAttributes_spec (pid oid : UInt64) (page number : UInt32) (val : Option Mem)
    (len : UInt16) (isembedded : Bool) :
    Ends (osdSetAttributes env pid oid page number val len isembedded) s
      (fun _ s' => SetStep pid oid page val len s s') := by
  refine osdSetAttributes_stores.mono fun ret s' h => ?_
  rcases h with ⟨-, rfl⟩ | ⟨-, type, t, c, hc, hst, rfl⟩
  · exact .refl ..
  · have h := hst.setStep hc
    exact { h with }

/-! ## SET MEMBER ATTRIBUTES -/

/-- The rows an accepted SET MEMBER ATTRIBUTES may add: the partition and the collection are taken
as they are printed into the statement, and the members of any partition's collection of that number
are selected. -/
def MemberAttrRows (d : Db) (pid cid : UInt64) (setAttr : List SetEntry) (p o : Int) : Prop :=
  d.HasType (bindInt64 pid) (bindInt64 cid) .collection ∧ setAttr ≠ [] ∧
    (∀ e ∈ setAttr, issettablePage .userobject e.page = true) ∧
    p = sqlLiteral pid.toNat ∧ ∃ m ∈ d.coll, m.cid = sqlLiteral cid.toNat ∧ m.oid = o

theorem mem_memberRows {d : Db} {pid cid : Int} {attrs : List (Int × Int × List UInt8)} {r : AttrRow}
    (h : r ∈ memberRows d pid cid attrs) : r.pid = pid ∧ ∃ m ∈ d.coll, m.cid = cid ∧ m.oid = r.oid := by
  simp only [memberRows, List.mem_flatMap, List.mem_map, List.mem_filter, decide_eq_true_eq] at h
  obtain ⟨a, -, m, ⟨hm, hc⟩, rfl⟩ := h
  exact ⟨rfl, m, hm, hc, rfl⟩

section Stays

variable {R : Target → Target → Prop} [Untransacted R]

theorem resp_osdBeginTxn : Respects R (osdBeginTxn env) :=
  fun s => osdBeginTxn_ends fun _ => Untransacted.txn s

theorem resp_osdEndTxn : Respects R (osdEndTxn env) :=
  fun s => osdEndTxn_ends fun _ => Untransacted.txn s

end Stays

/-- The rows of an accepted SET MEMBER ATTRIBUTES, in the order of their insertion. -/
def bulkRows (d : Db) (pid cid : UInt64) (setAttr : List SetEntry) : List AttrRow :=
  memberRows d (sqlLiteral pid.toNat) (sqlLiteral cid.toNat)
    (setAttr.map fun e => (sqlLiteral e.page.toNat, sqlLiteral e.number.toNat, e.value))

/-- The device with all these rows stored, one after the other. -/
def Target.withAttrs (s : Target) (rows : List AttrRow) : Target :=
  s.setAttr (rows.foldl (fun t r => insertReplace AttrRow.key r t) s.db.attr)

theorem osdSetMemberAttributes_stays {R : Target → Target → Prop} [Untransacted R] {pid cid : UInt64}
    {setAttr : List SetEntry}
    (h : s.db.HasType (bindInt64 pid) (bindInt64 cid) .collection → setAttr ≠ [] →
      (∀ e ∈ setAttr, issettablePage .userobject e.page = true) →
      ∀ t, t.db = s.db → R t (t.withAttrs (bulkRows s.db pid cid setAttr))) :
    Ends (osdSetMemberAttributes env pid cid setAttr) s (fun _ s' => R s s') := by
  have hbegin : Ends (osdBeginTxn env) s (fun _ s' => R s s' ∧ s'.db = s.db) :=
    osdBeginTxn_ends fun _ b l => ⟨Untransacted.txn s b l, rfl⟩
  refine ends_call hbegin fun _ t ⟨hst, hdb⟩ => ?_
  refine Ends.mono (Q := fun _ s' => R t s') ?_ (fun _ v h => Stays.trans s t v hst h)
  have hfinish : ∀ ret : Ret, Respects R (osdEndTxn env >>= fun _ => pure ret) :=
    fun _ => resp_bind resp_osdEndTxn fun _ => resp_pure _
  refine ends_bind.2 (objIspresent_ends ?_ (ends_ite_of (fun _ => hfinish _ t)
    (fun h => absurd (.inl (by simp)) h)))
  refine ends_ite_of (fun _ => hfinish _ t) fun _ => ends_bind.2 (getObjType_ends
    (ends_ite_of (fun _ => hfinish _ t) fun h => absurd (by simp) h) fun type hne htype => ?_)
  refine ends_ite_of (fun _ => hfinish _ t) fun hcoll => ends_ite_of (fun _ => hfinish _ t)
    fun hpages => ends_call (P := fun _ s' => R t s') ?_ fun ret v hv =>
      Ends.mono (Q := fun _ s' => R v s')
        (respects_ite (hfinish _) (resp_bind resp_osdEndTxn fun _ =>
          resp_bind (resp_setCcap _) fun _ => resp_pure _) v)
        (fun _ w h => Stays.trans t v w hv h)
  -- the statement itself
  refine ends_ite_of (fun _ => ends_pure.2 (Stays.refl R t)) fun hnil =>
    dbExecDms_ends_of rfl ?_ fun _ => Stays.refl R t
  obtain rfl : type = .collection := by simpa using hcoll
  have htype := htype.hasType (by simp) (by simp)
  rw [hdb] at htype
  have hput := h htype hnil (by simpa using hpages) t hdb
  unfold bulkRows at hput
  rwa [← hdb] at hput

theorem osdSetMemberAttributes_spec (pid cid : UInt64) (setAttr : List SetEntry) :
    Ends (osdSetMemberAttributes env pid cid setAttr) s
      (fun _ s' => AttrStep (MemberAttrRows s.db pid cid setAttr) s s') := by
  refine osdSetMemberAttributes_stays fun hcoll hnil hpages t ht => ?_
  refine { AttrStep.refl (K := MemberAttrRows s.db pid cid setAttr) t with attr := fun r hr => ?_ }
  refine (mem_foldl_insertReplace hr).imp_right fun h => ?_
  obtain ⟨hp, m, hm, hc, ho⟩ := mem_memberRows h
  exact ⟨hcoll, hnil, hpages, hp, m, hm, hc, ho⟩

end OsdTarget
