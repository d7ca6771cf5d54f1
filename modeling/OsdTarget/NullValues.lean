import OsdTarget.FailedSets

/-!
# Values without data-in

A command in the value format passes `osd_set_attributes` the address of its value in data-in.  Without
data-in and with offset 0 that is NULL, which is the only value that has a length of 0.  Then the row of the
attribute is deleted, or on the collections page the membership that the query finds for the pointer.
-/

namespace OsdTarget

open Base

variable {env : Env} {s t : Target} {pid oid : UInt64} {page number : UInt32} {len : UInt16}
  {isembedded : Bool}

/-- The collection that `coll_get_cid` finds, 0 when there is none. -/
def Db.pointedTo (d : Db) (pid oid : UInt64) (number : UInt32) : UInt64 :=
  ((d.coll.find? fun r => r.pid = bindInt64 pid ∧ r.oid = bindInt64 oid ∧ r.number = (number.toNat : Int)).map
    fun r => columnInt64 r.cid).getD 0

/-- The row of the attribute is deleted, on the collections page the membership in the collection that is
found. -/
def Target.erased (s : Target) (pid oid : UInt64) (page number : UInt32) : Target :=
  if page = USER_COLL_PG then s.setColl (deleteWhere (fun r => r.pid = bindInt64 pid ∧
    r.cid = bindInt64 (s.db.pointedTo pid oid number) ∧ r.oid = bindInt64 oid) s.db.coll)
  else s.withoutAttr (attrRow pid oid page number []).key

/-- The statement is carried out, and on the collections page the query before it. -/
def Env.Erases (env : Env) (pid oid : UInt64) (page number : UInt32) (d : Db) : Prop :=
  if page = USER_COLL_PG then
    ¬ (number < UCAP_COLL_PTR_LB ∨ number > UCAP_COLL_PTR_UB) ∧
      env.queryFails (.collGetCid (bindInt64 pid) (bindInt64 oid) number.toNat) d = false ∧
      env.dmsFails (.collDelete (bindInt64 pid) (bindInt64 (d.pointedTo pid oid number)) (bindInt64 oid)) d
        = false
  else env.dmsFails (.attrDelete (bindInt64 pid) (bindInt64 oid) (bindInt page) (bindInt number)) d = false

/-- The tests of `osd_set_attributes` admit a NULL pointer. -/
structure Db.TakesNull (d : Db) (env : Env) (pid oid : UInt64) (page number : UInt32) (len : UInt16) :
    Prop where
  answers : env.Answers pid oid d
  present : d.Has (bindInt64 pid) (bindInt64 oid)
  typed : d.objType pid oid ≠ .illegal
  settable : issettablePage (d.objType pid oid) page = true
  modifiable : number ≠ ATTRNUM_UNMODIFIABLE
  unnamed : number ≠ ATTRNUM_INFO
  empty : len = 0
  erases : env.Erases pid oid page number d

/-- An accepted call deletes, a refused one does nothing. -/
def NullOutcome (accepted : Prop) (s : Target) (pid oid : UInt64) (page number : UInt32) (ret : Ret)
    (t : Target) : Prop :=
  ret = .ok ∧ accepted ∧ t = s.erased pid oid page number ∨ ret ≠ .ok ∧ ¬ accepted ∧ t = s

theorem collGetCid_pointedTo {Q : Ret × UInt64 → Target → Prop}
    (hok : env.queryFails (.collGetCid (bindInt64 pid) (bindInt64 oid) number.toNat) s.db = false →
      Q (.ok, s.db.pointedTo pid oid number) s)
    (herr : env.queryFails (.collGetCid (bindInt64 pid) (bindInt64 oid) number.toNat) s.db = true →
      Q (.err .osdError, 0) s) : Ends (collGetCid env pid oid number 0) s Q := by
  unfold collGetCid
  exact dbExecQuery_ends hok herr

theorem setCap_null : Ends (setCap env pid oid number none 0) s
    (NullOutcome (env.Erases pid oid USER_COLL_PG number s.db) s pid oid USER_COLL_PG number) := by
  have herases : env.Erases pid oid USER_COLL_PG number s.db ↔ _ := iff_of_eq (if_pos rfl)
  have hfail : ∀ {e}, ¬ env.Erases pid oid USER_COLL_PG number s.db → Ends (pure (.err e) : OsdM Ret) s
      (NullOutcome (env.Erases pid oid USER_COLL_PG number s.db) s pid oid USER_COLL_PG number) :=
    fun h => ends_pure.2 (.inr ⟨nofun, h, rfl⟩)
  refine ends_ite_of (fun h => hfail fun he => (herases.1 he).1 h) fun hrange =>
    ends_ite_of (fun _ => ends_bind.2 (collGetCid_pointedTo (fun hquery => ?_) fun hquery => ?_))
      fun h => absurd rfl h
  · refine ends_ite_of (fun h => absurd rfl h) fun _ => ends_bind.2 ?_
    refine dbExecDms_ends (fun d hdms hd => ?_) fun hdms => ?_
    · refine ends_ite_of (fun h => absurd rfl h) fun _ => ends_pure.2 (.inl ⟨rfl, ?_, ?_⟩)
      · exact herases.2 ⟨hrange, hquery, hdms⟩
      · cases hd
        exact (if_pos rfl).symm
    · refine ends_ite_of (fun _ => hfail fun he => ?_) fun h => absurd nofun h
      have hfails := hdms.resolve_right (Option.some_ne_none _)
      rw [(herases.1 he).2.2] at hfails
      cases hfails
  · refine ends_ite_of (fun _ => hfail fun he => ?_) fun h => absurd nofun h
    rw [(herases.1 he).2.1] at hquery
    cases hquery

theorem attrDeleteAttr_null (hcap : page ≠ USER_COLL_PG) : Ends (attrDeleteAttr env pid oid page number) s
    (NullOutcome (env.Erases pid oid page number s.db) s pid oid page number) := by
  have herases : env.Erases pid oid page number s.db ↔ _ := iff_of_eq (if_neg hcap)
  refine dbExecDms_ends (fun d hdms hd => .inl ⟨rfl, herases.2 hdms, ?_⟩) fun hdms =>
    .inr ⟨Ret.noConfusion, fun he => ?_, rfl⟩
  · cases hd
    rw [Target.erased, if_neg hcap]
    simp [Target.withoutAttr, Target.setAttr, AttrRow.key, attrRow]
  · have hfails := hdms.resolve_right (Option.some_ne_none _)
    rw [herases.1 he] at hfails
    cases hfails

/-- The branches of `osd_set_attributes` that are left once its tests are passed. -/
theorem storeAttribute_null (hui : page ≠ USER_INFO_PG) (hri : page ≠ ROOT_INFO_PG) :
    Ends (storeAttribute env pid oid page number none 0) s
      (NullOutcome (env.Erases pid oid page number s.db) s pid oid page number) := by
  have hspecial : ∀ m : OsdM Ret,
      Ends m s (NullOutcome (env.Erases pid oid page number s.db) s pid oid page number) →
      Ends (m >>= fun r => if r = .ok then pure .ok else pure (cdbErr pid oid)) s
        (NullOutcome (env.Erases pid oid page number s.db) s pid oid page number) := by
    refine fun m hm => ends_call hm fun ret t h => ends_ite_of (fun hok => ends_pure.2 ?_)
      fun hno => ends_pure.2 ?_
    · rwa [hok] at h
    · exact h.elim (fun h => absurd h.1 hno) fun h => .inr ⟨nofun, h.2⟩
  refine ends_ite_of (fun h => absurd h hui) fun _ => ends_ite_of (fun h => absurd h hri) fun _ =>
    ends_ite_of (fun hcap => hspecial _ ?_) fun hcap =>
    ends_ite_of (fun _ => hspecial _ (attrDeleteAttr_null hcap)) fun h => absurd rfl h
  subst hcap
  exact setCap_null

/-- **What becomes of a NULL pointer** on a page that is no information page. -/
theorem osdSetAttributes_null (hui : page ≠ USER_INFO_PG) (hri : page ≠ ROOT_INFO_PG) :
    Ends (osdSetAttributes env pid oid page number none len true) s
      (NullOutcome (s.db.TakesNull env pid oid page number len) s pid oid page number) := by
  have hfail : ∀ {ret : Ret}, ret ≠ .ok → ¬ s.db.TakesNull env pid oid page number len →
      Ends (pure ret : OsdM Ret) s
        (NullOutcome (s.db.TakesNull env pid oid page number len) s pid oid page number) :=
    fun hret h => ends_pure.2 (.inr ⟨hret, h, rfl⟩)
  refine ends_bind.2 (dbExecQuery_ends (fun hpresent => ?_) fun hf => ends_ite_of
    (fun _ => hfail nofun fun ht => ?_) fun h => absurd (.inl (by simp)) h)
  swap
  · rw [ht.answers.present] at hf
    cases hf
  refine ends_ite_of (fun hp => hfail nofun fun ht => ?_) fun hp =>
    ends_bind.2 ((ends_of_run getObjType_run).2 ?_)
  · exact hp.elim (fun h => h rfl) fun h => h (decide_eq_true ht.present)
  refine ends_ite_of (fun hi => hfail nofun fun ht => ?_) fun hne => ?_
  · split_ifs at hi with hq
    · exact absurd hq.2 (by simp [ht.answers.typed hq.1])
    · exact ht.typed hi
  split_ifs at hne with hq
  · exact absurd rfl hne
  rw [if_neg hq]
  refine ends_ite_of (fun h => hfail nofun fun ht => ?_) fun hset => ?_
  · rw [ht.settable] at h
    cases h
  refine ends_ite_of (fun h => hfail nofun fun ht => ht.modifiable h) fun hnum =>
    ends_ite_of (fun h => hfail nofun fun ht => ?_) fun hgiven => ?_
  · exact h.elim (fun h => h.2 ht.empty) fun h => nomatch h.1
  have hempty : len = 0 := not_not.1 fun h => hgiven (.inl ⟨rfl, h⟩)
  refine ends_ite_of (fun h => hfail nofun fun ht => ht.unnamed h.1) fun hinfo => ?_
  have hunnamed : number ≠ ATTRNUM_INFO := fun h => hinfo ⟨h, .inr nofun⟩
  subst hempty
  refine ends_ite_of (fun h => absurd h (by decide)) fun _ => ?_
  have hiff : s.db.TakesNull env pid oid page number 0 ↔ env.Erases pid oid page number s.db := by
    refine ⟨fun h => h.erases, fun h => ⟨⟨hpresent, fun hobj => ?_⟩, by simpa using hp, hne,
      by simpa using hset, hnum, hunnamed, rfl, h⟩⟩
    simpa using fun hf => hq ⟨hobj, hf⟩
  rw [propext hiff]
  refine ends_call (storeAttribute_null hui hri) fun ret t h => ?_
  rcases h with ⟨rfl, h⟩ | ⟨hno, h⟩
  · exact ends_ite_of (fun h => absurd rfl h) fun _ => ends_ite_of (fun h => nomatch h) fun _ =>
      ends_pure.2 (.inl ⟨rfl, h⟩)
  · exact ends_ite_of (fun _ => ends_pure.2 (.inr ⟨hno, h⟩)) fun h => absurd hno h

theorem halts_osdSetAttributes_null (hui : page ≠ USER_INFO_PG) (hri : page ≠ ROOT_INFO_PG) :
    Halts (osdSetAttributes env pid oid page number none len isembedded) := by
  have hspecial : ∀ m : OsdM Ret, Halts m →
      Halts (m >>= fun r => if r = .ok then pure .ok else pure (cdbErr pid oid)) :=
    fun m hm => halts_bind hm fun _ => halts_ite (halts_pure _) (halts_pure _)
  have hcid : Halts (collGetCid env pid oid number 0) := by
    unfold collGetCid
    exact halts_dbExecQuery _ _ _
  have hcap : Halts (setCap env pid oid number none 0) :=
    halts_ite (halts_pure _) (halts_ite_of (fun _ => halts_bind hcid fun _ => halts_ite (halts_pure _)
      (halts_bind (halts_dbExecDms _) fun _ => halts_ite (halts_pure _) (halts_pure _)))
      fun h => absurd rfl h)
  refine halts_bind (halts_dbExecQuery _ _ _) fun _ => halts_ite (halts_pure _) ?_
  refine halts_bind (halts_getObjType _ _) fun _ => halts_ite (halts_pure _) (halts_ite (halts_pure _)
    (halts_ite (halts_pure _) (halts_ite_of (fun _ => halts_pure _) fun hgiven => ?_)))
  obtain rfl : len = 0 := not_not.1 fun h => hgiven (.inl ⟨rfl, h⟩)
  have hstore : Halts (storeAttribute env pid oid page number none 0) :=
    halts_ite_of (fun h => absurd h hui) fun _ => halts_ite_of (fun h => absurd h hri) fun _ =>
      halts_ite (hspecial _ hcap) (halts_ite_of (fun _ => hspecial _ (halts_dbExecDms _))
        fun h => absurd rfl h)
  refine halts_ite (halts_pure _) (halts_ite (halts_pure _) (halts_bind hstore fun _ =>
    halts_ite (halts_pure _) (halts_ite ?_ (halts_pure _))))
  exact halts_bind (halts_modify _) fun _ => halts_pure _

end OsdTarget
