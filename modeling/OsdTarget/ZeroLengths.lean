import OsdTarget.AttributeLengths
import OsdTarget.LogicalLength

/-!
# Entries of length 0

`osd_set_attributes` has branches that delete an attribute when the length is 0, and in front of them a
test that refuses a length of 0 with a value.  Its callers pass a pointer into their buffer, which is NULL
only in the value format, without data-in and with offset 0.
-/

namespace OsdTarget

open Base

variable {env : Env} {s t : Target} {pid oid : UInt64} {page number : UInt32}

/-! ## What is asked for -/

/-- The information pages, one for each type of object. -/
def InformationPage (page : UInt32) : Prop :=
  page = USER_INFO_PG ∨ page = PARTITION_DIR_PG + USER_INFO_PG ∨ page = COLLECTION_PG + USER_INFO_PG ∨
    page = ROOT_INFO_PG

/-- The pages that are filled in from the clock, or from the command before. -/
def ComputedPage (page : UInt32) : Prop :=
  page = CUR_CMD_ATTR_PG ∨ page = PARTITION_DIR_PG + USER_TMSTMP_PG ∨ page = USER_TMSTMP_PG

/-- The attribute is not defined, and as a collection pointer it holds no membership. -/
def Db.Unset (d : Db) (pid oid : UInt64) (page number : UInt32) : Prop :=
  d.attribute pid oid page number = none ∧ (page = USER_COLL_PG → d.pointer pid oid number = none)

/-- Nothing has changed but what the entries are about. -/
structure OnlyAsked (es : List SetEntry) (pid oid : UInt64) (s t : Target) : Prop where
  objects : t.db.obj = s.db.obj
  attributes : ∀ r : AttrRow, (∀ e ∈ es, r.key ≠ (e.row pid oid).key) →
    (r ∈ t.db.attr ↔ r ∈ s.db.attr)
  memberships : ∀ r : CollRow, (∀ e ∈ es, e.page = USER_COLL_PG →
    r.pointer ≠ (bindInt64 pid, bindInt64 oid, bindInt e.number)) → (r ∈ t.db.coll ↔ r ∈ s.db.coll)
  files : (∀ e ∈ es, ¬ (e.page = USER_INFO_PG ∧ e.number = UIAP_LOGICAL_LEN)) → t.files = s.files

/-- The attribute is gone, and a retrieval of it alone answers with an entry of length 0. -/
structure Deleted (es : List SetEntry) (pid oid : UInt64) (page number : UInt32) (s t : Target) : Prop where
  unset : t.db.Unset pid oid page number
  others : OnlyAsked es pid oid s t
  reads : IsSingle page number → ∀ env : Env, (∀ q, env.queryFails q t.db = false) →
    GetsAs env pid oid page number [] t

/-- `set_attributes` succeeds and deletes the attribute. -/
def Deletes (env : Env) (cmd : Command) (pid oid : UInt64) (fuel : Nat) (page number : UInt32)
    (s : Target) : Prop :=
  ∃ t, setAttributes env cmd pid oid 1 fuel s = some (.ok, t) ∧
    Deleted (cmd.requested fuel) pid oid page number s t

/-- There is no call of `osd_set_attributes`: page 0 stands for nothing to set outside of lists, and the
loops over the objects stop in front of the last id. -/
def Command.Uncalled (cmd : Command) (oid : UInt64) (fuel : Nat) (page : UInt32) : Prop :=
  page = 0 ∧ cmd.getsetCdbfmt ≠ GETLIST_SETLIST ∨ oid + 1 = 0 ∧ ∃ es, cmd.setCalls fuel = some (es, true)

/-- The memberships of the object in the collection that is found for the pointer are those it holds. -/
def Db.FindsPointer (d : Db) (pid oid : UInt64) (number : UInt32) : Prop :=
  ∀ r ∈ d.coll, (r.pid = bindInt64 pid ∧ r.cid = bindInt64 (d.pointedTo pid oid number) ∧
    r.oid = bindInt64 oid) ↔ r.pointer = (bindInt64 pid, bindInt64 oid, bindInt number)

/-- The attribute is deleted and nothing else: the collections page has no other values than pointers. -/
def Db.ErasesAlone (d : Db) (pid oid : UInt64) (page number : UInt32) : Prop :=
  page = USER_COLL_PG → d.attribute pid oid page number = none ∧ d.FindsPointer pid oid number

/-! ## Retrieving what is not defined -/

/-- An attribute that is not in the table has no row. -/
theorem Db.attrAt_of_attribute {d : Db} (h : d.attribute pid oid page number = none) :
    d.attrAt (bindInt64 pid, bindInt64 oid, bindInt page, bindInt number) = [] := by
  have hnone := List.find?_eq_none.1 (Option.map_eq_none_iff.1 h)
  exact List.filter_eq_nil_iff.2 hnone

/-- **What is not defined reads as an entry of length 0**, but on the pages that are computed. -/
theorem getsAs_nil (hq : ∀ q, env.queryFails q t.db = false) (hs : IsSingle page number)
    (htype : t.db.objType pid oid ≠ .illegal) (hget : isgettablePage (t.db.objType pid oid) page = true)
    (hinfo : ¬ InformationPage page) (hcomputed : ¬ ComputedPage page)
    (hnone : t.db.attribute pid oid page number = none) : GetsAs env pid oid page number [] t := by
  refine getsAs_of_retrieve fun isembedded listfmt => ?_
  refine ⟨⟨tagOf listfmt oid, page, number, 0, none⟩, fun _ => rfl, rfl, ?_⟩
  simp only [ComputedPage, not_or] at hcomputed
  obtain ⟨hcur, hts⟩ := hcomputed
  simp only [InformationPage, not_or] at hinfo
  by_cases hquota : AnsweredEmpty page
  · exact retrieve_single hq hs htype hget (pageItems_empty hquota)
  · have hrows : pageItems env t pid oid page number listfmt = some [] := by
      have hkey : (Rtrvl.attr page number).rows t.db (bindInt64 pid) (bindInt64 oid) = [] :=
        Db.attrAt_of_attribute hnone
      unfold pageItems
      dsimp only
      rw [if_neg hcur, if_neg (not_or.2 hts), if_neg fun h => h.elim (fun h => hquota (.inr h)) fun h =>
        h.elim hinfo.2.1 hinfo.1, if_neg hinfo.2.2.2, rtrvlOf, if_neg hs.1, if_neg hs.2, rowItems,
        if_neg (by rw [hq]; decide), hkey]
      rfl
    have hret : ∃ t', retrieve env pid oid page number isembedded listfmt t = some (_, t') :=
      retrieve_pageItems hq hs htype hget
    rwa [hrows, Option.map_some, fillNull, if_pos ⟨rfl, hs⟩] at hret

/-- The values of these pages are of some length. -/
theorem pageItems_computed {listfmt : UInt8} (h : ComputedPage page) :
    pageItems env s pid oid page number listfmt = none ∨
      ∃ x : Item, pageItems env s pid oid page number listfmt = some [x] ∧ x.Wf ∧
        (x.oid = none ∨ x.oid = tagOf listfmt oid) ∧ x.len ≠ 0 ∧ x.len ≤ 40 := by
  have hval : ∀ {tag : Option UInt64} {p : UInt32} {v : Option (UInt16 × Mem)},
      (tag = none ∨ tag = tagOf listfmt oid) → (∀ w, v = some w → w.1 ≠ 0 ∧ w.1 ≤ 40) →
      valItems tag p number v = none ∨ ∃ x : Item, valItems tag p number v = some [x] ∧ x.Wf ∧
        (x.oid = none ∨ x.oid = tagOf listfmt oid) ∧ x.len ≠ 0 ∧ x.len ≤ 40 := by
    intro tag p v htag hw
    cases v with
    | none => exact .inl rfl
    | some w => exact .inr ⟨⟨tag, p, number, w.1, some w.2⟩, rfl, nofun, htag, hw w rfl⟩
  unfold pageItems
  dsimp only
  by_cases hcur : page = CUR_CMD_ATTR_PG
  · rw [if_pos hcur]
    refine hval (.inl rfl) fun w hw => ?_
    unfold ccapVal at hw
    split_ifs at hw <;> cases hw <;> exact ⟨by simp, by simp⟩
  · rw [if_neg hcur, if_pos (h.resolve_left hcur)]
    refine hval (.inr rfl) fun w hw => ?_
    unfold utsapVal at hw
    dsimp only at hw
    split_ifs at hw <;> cases hw <;> exact ⟨by simp, by simp⟩

/-- They do not read as entries of length 0. -/
theorem not_getsAs_nil (hs : IsSingle page number) (htype : t.db.objType pid oid ≠ .illegal)
    (hget : isgettablePage (t.db.objType pid oid) page = true) (hcomputed : ComputedPage page) :
    ¬ GetsAs Env.calm pid oid page number [] t := by
  intro h
  have hal : Aligned Env.calm 0 (UInt32.toNat 1024) := ⟨rfl, rfl⟩
  have hroom : Entry.size ⟨none, page, number, []⟩ ≤ (1024 : UInt32).toNat := by
    have hround := (roundup8_spec (LE_VAL_OFF + 0)).2.2
    show 0 + roundup8 (LE_VAL_OFF + 0) ≤ 1024
    unfold LE_VAL_OFF at *
    omega
  obtain ⟨used, t', hrun, hdec⟩ := h 0 1024 false RTRVD_SET_ATTR_LIST (.inl rfl) hal hroom
  have hq : ∀ q, Env.calm.queryFails q t.db = false := fun _ => rfl
  have hitems : _ ∨ ∃ x : Item, pageItems Env.calm t pid oid page number RTRVD_SET_ATTR_LIST = some [x] ∧ _ :=
    pageItems_computed hcomputed
  rcases hitems with hnone | ⟨x, hitems, hwf, htag, hlen, hle⟩
  · have hret : ∃ t', retrieve Env.calm pid oid page number false RTRVD_SET_ATTR_LIST t = some (_, t') :=
      retrieve_pageItems hq hs htype hget
    obtain ⟨t₀, hret⟩ := hret
    obtain ⟨ans, t₁, hans, hpacks⟩ := osdGetattrList_retrieves (.inl rfl) hal rfl pid oid page number false
      _ _ hrun
    rw [hret, hnone] at hans
    cases hans
    rcases hpacks with ⟨items, hitems, -⟩ | ⟨hno, -⟩
    · cases hitems
    · exact hno rfl
  · have hfit : x.size ≤ (1024 : UInt32).toNat := by
      have hround := (roundup8_spec (LE_VAL_OFF + x.len.toNat)).2.2
      have htaglen : x.tag.length ≤ 8 := by
        rw [x.tag_length_eq, tagLen]
        split <;> decide
      have hshort : x.len.toNat ≤ 40 := hle
      show x.size ≤ 1024
      unfold Item.size LE_VAL_OFF at *
      omega
    obtain ⟨used', v, hrun', hbytes⟩ := osdGetattrList_single (.inl rfl) hal
      (retrieve_single hq hs htype hget hitems) hwf hfit
    rw [hrun] at hrun'
    cases hrun'
    have hentry := decodeEntry_whole hwf hfit
    rw [← hbytes] at hentry
    have hoid : x.oid.isSome = false := by rw [htag.elim id id]; rfl
    rw [hoid] at hentry
    have hvalue : [] = x.value := congrArg Entry.value (hdec.singleton_inj (.cons hentry .nil))
    have hzero := Item.value_length hwf
    rw [← hvalue] at hzero
    exact hlen (UInt16.toNat_inj.1 hzero.symm)

/-! ## What becomes of the entry -/

/-- Outside of lists the calls are for pages other than 0. -/
theorem setCalls_page {cmd : Command} {fuel : Nat} {calls : List ListEntry × Bool} {e : SetEntry}
    (h : cmd.setCalls fuel = some calls) (hformat : cmd.getsetCdbfmt ≠ GETLIST_SETLIST)
    (he : e ∈ cmd.requested fuel) : e.page ≠ 0 := by
  unfold Command.setCalls setAttrValueCheck setOneAttrValueCheck at h
  unfold Command.requested at he
  dsimp only at h
  rw [if_neg hformat] at h he
  by_cases hvalue : cmd.getsetCdbfmt = GETPAGE_SETVALUE
  · rw [if_pos hvalue] at h he
    rw [List.mem_singleton.1 he]
    intro h0
    rw [if_pos h0] at h
    cases h
  rw [if_neg hvalue] at h he
  by_cases hfield : cmd.getsetCdbfmt = GETFIELD_SETVALUE
  · rw [if_pos hfield] at h he
    rw [List.mem_singleton.1 he]
    intro h0
    rw [if_pos h0] at h
    cases h
  · rw [if_neg hfield] at he
    exact absurd he List.not_mem_nil

/-- What the value format calls for. -/
theorem valueEntry_of_requested {cmd : Command} {fuel : Nat} {e : SetEntry} (hgives : cmd.GivesNull)
    (he : e ∈ cmd.requested fuel) (hvalue : e.value = []) : e = ⟨e.page, e.number, []⟩ ∧
      cmd.requested fuel = [e] ∧ cmd.valueEntry.page = e.page ∧ cmd.valueEntry.number = e.number ∧
      cmd.valueEntry.len = 0 := by
  have hreq : cmd.requested fuel = _ := requested_value hgives.1
  rw [hreq] at he ⊢
  obtain rfl := List.mem_singleton.1 he
  have hzero : (getNtohl cmd.cdb 72).toNat = 0 := by
    rw [← Mem.read_length cmd.indata (getNtohoffset cmd.cdb 76).toNat (getNtohl cmd.cdb 72).toNat]
    exact congrArg List.length hvalue
  refine ⟨congrArg (SetEntry.mk _ _) hvalue, rfl, rfl, rfl, ?_⟩
  show UInt16.ofNat (getNtohl cmd.cdb 72).toNat = 0
  rw [hzero]
  rfl

/-- **A NULL pointer with length 0** deletes the attribute, unless it is refused. -/
theorem setAttributes_erases {cmd : Command} {fuel : Nat} {e : SetEntry} (hgives : cmd.GivesNull)
    (he : e ∈ cmd.requested fuel) (hvalue : e.value = []) (hcalled : ¬ cmd.Uncalled oid fuel e.page)
    (hinfo : ¬ InformationPage e.page) : ∃ ret t, setAttributes env cmd pid oid 1 fuel s = some (ret, t) ∧
      (ret = .ok ↔ s.db.TakesNull env pid oid e.page e.number 0) ∧
      (ret = .ok → t.db = (s.erased pid oid e.page e.number).db ∧ t.files = s.files) := by
  obtain ⟨-, -, hpage, hnumber, hlen⟩ := valueEntry_of_requested hgives he hvalue
  simp only [InformationPage, not_or] at hinfo
  have h0 : getNtohl cmd.cdb 64 ≠ 0 := fun h0 => hcalled (.inl ⟨hpage.symm.trans h0, by rw [hgives.1]; decide⟩)
  rcases setAttributes_calls env cmd pid oid fuel with ⟨_, -, hnone, -⟩ | ⟨-, hcalls, hrun⟩ |
    ⟨es, ended, hno, -, -⟩
  · rw [setCalls_of_value hgives.1 h0] at hnone
    cases hnone
  · have hlast : oid + 1 ≠ 0 := fun hlast => hcalled (.inr ⟨hlast, _, hcalls⟩)
    rw [hpage, hnumber, hlen, createCount_one, if_neg hlast, setOnObjects_one] at hrun
    have hends : Ends (setAttributes env cmd pid oid 1 fuel) s fun ret t =>
        (ret = .ok ↔ s.db.TakesNull env pid oid e.page e.number 0) ∧
          (ret = .ok → t.db = (s.erased pid oid e.page e.number).db ∧ t.files = s.files) := by
      rw [hrun]
      refine withinTxn_ends fun b l => (osdSetAttributes_null hinfo.1 hinfo.2.2.2).mono fun ret t h b' l' => ?_
      rcases h with ⟨rfl, htakes, rfl⟩ | ⟨hno, hrefused, rfl⟩
      · refine ⟨iff_of_true rfl htakes, fun _ => ?_⟩
        unfold Target.erased
        split_ifs <;> exact ⟨rfl, rfl⟩
      · exact ⟨iff_of_false hno hrefused, fun hok => absurd hok hno⟩
    have hhalts : Halts (setAttributes env cmd pid oid 1 fuel) := by
      rw [hrun]
      exact halts_withinTxn (halts_osdSetAttributes_null hinfo.1 hinfo.2.2.2)
    exact hends.of_halts hhalts
  · exact absurd hgives hno

/-- **A call with length 0 is refused** but with a NULL pointer, and with it the command. -/
theorem setAttributes_refuses {cmd : Command} {fuel : Nat} {e : SetEntry} (he : e ∈ cmd.requested fuel)
    (hvalue : e.value = []) (hcalled : ¬ cmd.Uncalled oid fuel e.page) (hgiven : ¬ cmd.GivesNull) :
    Ends (setAttributes env cmd pid oid 1 fuel) s fun ret _ => ret ≠ .ok := by
  rcases setAttributes_calls env cmd pid oid fuel with ⟨ret, hret, -, hnone⟩ | ⟨hgives, -, -⟩ |
    ⟨es, ended, -, hcalls, hrun⟩
  · rw [hret]
    exact ends_pure.2 fun hok => hcalled (.inl ((hnone e he).1 hok))
  · exact absurd hgives hgiven
  by_cases hlast : oid + 1 = 0
  · refine (setAttributes_last hlast hcalls).mono fun ret t h _ => ?_
    obtain ⟨rfl, -⟩ := h
    exact hcalled (.inr ⟨hlast, es, hcalls⟩)
  have hcount : createCount oid 1 = 1 := by
    rw [createCount_one, if_neg hlast]
  have hnarrow : ¬ cmd.Narrows := by
    rintro ⟨hformat, hwide⟩
    rw [requested_value hformat] at he
    rw [List.mem_singleton.1 he] at hvalue
    have hlen := congrArg List.length hvalue
    rw [Mem.read_length] at hlen
    exact absurd hwide (by rw [hlen]; decide)
  rw [requested_eq hcalls hnarrow] at he
  obtain ⟨x, hx, rfl⟩ := List.mem_map.1 he
  have hzero : x.len.toNat = 0 := by
    rw [← setEntry_length cmd.valueBuf x, hvalue]
    rfl
  refine ends_setAttributes hrun fun b l => ?_
  rw [hcount, setPairs_one]
  refine (runPairs_stores es).mono fun ret t h _ b' l' hok => ?_
  obtain ⟨done, rest, rfl, hret, -, hlen⟩ := h
  rw [hret.1 hok, List.append_nil] at hx
  exact (hlen x hx).1 (UInt16.toNat_inj.1 hzero)

/-- Without calls the command succeeds, and changes nothing. -/
theorem setAttributes_uncalled {cmd : Command} {fuel : Nat} {e : SetEntry} (he : e ∈ cmd.requested fuel)
    (huncalled : cmd.Uncalled oid fuel e.page) : ∃ t,
      setAttributes env cmd pid oid 1 fuel s = some (.ok, t) ∧ t.db = s.db ∧ t.files = s.files := by
  cases hcalls : cmd.setCalls fuel with
  | none =>
    rcases setAttributes_calls env cmd pid oid fuel with ⟨ret, hret, -, hnone⟩ | ⟨-, hcalls', -⟩ |
      ⟨es, ended, -, hcalls', -⟩
    · rcases huncalled with h0 | ⟨-, es, hes⟩
      · obtain rfl : ret = .ok := (hnone e he).2 h0
        exact ⟨s, by rw [hret]; rfl, rfl, rfl⟩
      · rw [hcalls] at hes
        cases hes
    · rw [hcalls] at hcalls'
      cases hcalls'
    · rw [hcalls] at hcalls'
      cases hcalls'
  | some calls =>
    rcases huncalled with ⟨h0, hformat⟩ | ⟨hlast, es, hes⟩
    · exact absurd h0 (setCalls_page hcalls hformat he)
    · have hends : cmd.SetListEnds fuel := fun calls' h => by
        rw [hes] at h
        rw [← Option.some.inj h]
      have hhalts : Halts (setAttributes env cmd pid oid 1 fuel) :=
        halts_setAttributes hends fun h => absurd hlast h
      obtain ⟨ret, t, hret, -, rfl, hsame⟩ := (setAttributes_last hlast hes).of_halts hhalts
      exact ⟨t, hret, hsame⟩

/-! ## What is deleted -/

/-- No row holds the pointer. -/
theorem pointer_eq_none {d : Db} (hrange : ¬ (number < UCAP_COLL_PTR_LB ∨ number > UCAP_COLL_PTR_UB)) :
    d.pointer pid oid number = none ↔
      ∀ r ∈ d.coll, r.pointer ≠ (bindInt64 pid, bindInt64 oid, bindInt number) := by
  have hin : UCAP_COLL_PTR_LB ≤ number ∧ number ≤ UCAP_COLL_PTR_UB :=
    ⟨UInt32.not_lt.1 fun h => hrange (.inl h), UInt32.not_lt.1 fun h => hrange (.inr h)⟩
  rw [Db.pointer, if_pos hin, Option.map_eq_none_iff, List.find?_eq_none]
  exact forall₂_congr fun _ _ => not_congr decide_eq_true_iff

/-- Exactly the attribute is deleted when nothing else is in the way on the collections page. -/
theorem erased_onlyAsked (hrange : page = USER_COLL_PG →
      ¬ (number < UCAP_COLL_PTR_LB ∨ number > UCAP_COLL_PTR_UB))
    (hdb : t.db = (s.erased pid oid page number).db) (hfiles : t.files = s.files) :
    t.db.Unset pid oid page number ∧ OnlyAsked [⟨page, number, []⟩] pid oid s t ↔
      s.db.ErasesAlone pid oid page number := by
  by_cases hcap : page = USER_COLL_PG
  · subst hcap
    have hrange := hrange rfl
    rw [Target.erased, if_pos rfl] at hdb
    have hmem : ∀ r, r ∈ t.db.coll ↔ r ∈ s.db.coll ∧ ¬ (r.pid = bindInt64 pid ∧
        r.cid = bindInt64 (s.db.pointedTo pid oid number) ∧ r.oid = bindInt64 oid) := fun r => by
      rw [hdb]
      exact mem_deleteWhere
    have hattr : t.db.attr = s.db.attr := by rw [hdb]; rfl
    constructor
    · rintro ⟨⟨hnone, hpointer⟩, honly⟩ -
      have hpointer := (pointer_eq_none hrange).1 (hpointer rfl)
      refine ⟨by rwa [Db.attribute, hattr] at hnone, fun r hr => ⟨fun hfound => ?_, fun hheld => ?_⟩⟩
      · by_contra hother
        refine ((hmem r).1 ((honly.memberships r fun e he _ => ?_).2 hr)).2 hfound
        rwa [List.mem_singleton.1 he]
      · by_contra hnot
        exact hpointer r ((hmem r).2 ⟨hr, hnot⟩) hheld
    · intro h
      obtain ⟨hnone, hfinds⟩ := h rfl
      refine ⟨⟨by rwa [Db.attribute, hattr], fun _ => (pointer_eq_none hrange).2 fun r hr hheld => ?_⟩, ?_⟩
      · obtain ⟨hr, hnot⟩ := (hmem r).1 hr
        exact hnot ((hfinds r hr).2 hheld)
      · refine ⟨by rw [hdb]; rfl, fun r _ => by rw [hattr], fun r hother => ?_, fun _ => hfiles⟩
        refine (hmem r).trans (and_iff_left_of_imp fun hr hfound => ?_)
        exact hother _ List.mem_cons_self rfl ((hfinds r hr).1 hfound)
  · refine iff_of_true ⟨⟨?_, fun h => absurd h hcap⟩, ?_⟩ fun h => absurd h hcap
    · rw [hdb, attribute_erased hcap, if_pos ⟨rfl, rfl⟩]
    · rw [Target.erased, if_neg hcap] at hdb
      refine ⟨by rw [hdb]; rfl, fun r hr => ?_, fun r _ => by rw [hdb]; rfl, fun _ => hfiles⟩
      have hne : r.key ≠ (attrRow pid oid page number []).key := hr _ List.mem_cons_self
      rw [hdb]
      exact mem_deleteWhere.trans (and_iff_left hne)

/-- What is left to hold where the command succeeds. -/
theorem deletes_of_run {cmd : Command} {fuel : Nat}
    (hrun : setAttributes env cmd pid oid 1 fuel s = some (.ok, t)) (hobj : t.db.obj = s.db.obj)
    (htype : s.db.objType pid oid ≠ .illegal) (hset : issettablePage (s.db.objType pid oid) page = true)
    (hinfo : ¬ InformationPage page) : Deletes env cmd pid oid fuel page number s ↔
      (t.db.Unset pid oid page number ∧ OnlyAsked (cmd.requested fuel) pid oid s t) ∧
        (IsSingle page number → ¬ ComputedPage page) := by
  rw [← Db.objType_congr hobj] at htype hset
  have hget := isgettablePage_of_issettablePage hset
  constructor
  · rintro ⟨t', hrun', hunset, honly, hreads⟩
    rw [hrun] at hrun'
    cases hrun'
    exact ⟨⟨hunset, honly⟩, fun hs hcomputed =>
      not_getsAs_nil hs htype hget hcomputed (hreads hs Env.calm fun _ => rfl)⟩
  · rintro ⟨⟨hunset, honly⟩, hpage⟩
    exact ⟨t, hrun, hunset, honly, fun hs env' hq =>
      getsAs_nil hq hs htype hget hinfo (hpage hs) hunset.1⟩

/-- **Entries of length 0.**  Where the last entry about an attribute has length 0, the command deletes
the attribute if its value is a NULL pointer that is taken, or if no call is made for it and it was not
defined; any other call fails the command. -/
theorem deletes_iff (env : Env) (cmd : Command) (pid oid : UInt64) (fuel : Nat) (page number : UInt32)
    (s : Target) (hzero : supplied (cmd.requested fuel) page number none = some [])
    (htype : s.db.objType pid oid ≠ .illegal) (hset : issettablePage (s.db.objType pid oid) page = true)
    (hinfo : ¬ InformationPage page) :
    (Deletes env cmd pid oid fuel page number s ↔
      (cmd.Uncalled oid fuel page ∧ s.db.Unset pid oid page number ∨
        ¬ cmd.Uncalled oid fuel page ∧ cmd.GivesNull ∧ s.db.TakesNull env pid oid page number 0 ∧
          s.db.ErasesAlone pid oid page number) ∧ (IsSingle page number → ¬ ComputedPage page)) ∧
    (¬ cmd.Uncalled oid fuel page → ¬ (cmd.GivesNull ∧ s.db.TakesNull env pid oid page number 0) →
      ∀ used, Ends (applyAttributes env cmd pid oid 1 fuel used) s fun r _ => r.1 ≠ .ok) := by
  obtain ⟨e, he, rfl, rfl, hvalue⟩ : ∃ e ∈ cmd.requested fuel, e.page = page ∧ e.number = number ∧
      e.value = [] := by
    rcases supplied_cases (cmd.requested fuel) page number none with ⟨hold, -⟩ | ⟨e, he, hp, hn, hval⟩
    · rw [hold] at hzero
      cases hzero
    · rw [hzero] at hval
      exact ⟨e, he, hp, hn, (Option.some.inj hval).symm⟩
  have hfails : Ends (setAttributes env cmd pid oid 1 fuel) s (fun ret _ => ret ≠ .ok) →
      ¬ Deletes env cmd pid oid fuel e.page e.number s ∧
        ∀ used, Ends (applyAttributes env cmd pid oid 1 fuel used) s fun r _ => r.1 ≠ .ok := by
    refine fun h => ⟨fun ⟨t, hrun, _⟩ => h _ _ hrun rfl, fun used => ends_call h fun ret t hno => ?_⟩
    exact ends_ite_of (fun _ => ends_pure.2 hno) fun h => absurd hno h
  by_cases huncalled : cmd.Uncalled oid fuel e.page
  · refine ⟨?_, fun h => absurd huncalled h⟩
    have hrun : ∃ t, setAttributes env cmd pid oid 1 fuel s = some (.ok, t) ∧ _ :=
      setAttributes_uncalled he huncalled
    obtain ⟨t, hrun, hdb, hfiles⟩ := hrun
    rw [deletes_of_run hrun (by rw [hdb]) htype hset hinfo, hdb]
    refine and_congr_left fun _ => ⟨fun h => .inl ⟨huncalled, h.1⟩, fun h => ?_⟩
    refine ⟨(h.resolve_right fun h => h.1 huncalled).2, ?_⟩
    exact ⟨by rw [hdb], fun _ _ => by rw [hdb], fun _ _ => by rw [hdb], fun _ => hfiles⟩
  by_cases hgives : cmd.GivesNull
  · obtain ⟨ret, t, hrun, hret, ht⟩ : ∃ ret t, setAttributes env cmd pid oid 1 fuel s = some (ret, t) ∧ _ :=
      setAttributes_erases hgives he hvalue huncalled hinfo
    by_cases htakes : s.db.TakesNull env pid oid e.page e.number 0
    · obtain rfl := hret.2 htakes
      obtain ⟨hdb, hfiles⟩ := ht rfl
      refine ⟨?_, fun _ h => absurd ⟨hgives, htakes⟩ h⟩
      have hobj : t.db.obj = s.db.obj := by
        rw [hdb, Target.erased]
        split_ifs <;> rfl
      obtain ⟨hentry, hreq, -⟩ := valueEntry_of_requested hgives he hvalue
      have hrange : e.page = USER_COLL_PG → _ := fun hcap => ((if_pos hcap).mp htakes.erases).1
      rw [deletes_of_run hrun hobj htype hset hinfo, hreq, hentry, erased_onlyAsked hrange hdb hfiles]
      refine and_congr_left fun _ => ⟨fun h => .inr ⟨huncalled, hgives, htakes, h⟩, fun h => ?_⟩
      exact (h.resolve_left fun h => huncalled h.1).2.2.2
    · obtain ⟨hno, happly⟩ := hfails fun ret' t' hrun' => by
        rw [hrun] at hrun'
        cases hrun'
        exact fun hok => htakes (hret.1 hok)
      refine ⟨iff_of_false hno fun h => ?_, fun _ _ => happly⟩
      exact h.1.elim (fun h => huncalled h.1) fun h => htakes h.2.2.1
  · obtain ⟨hno, happly⟩ := hfails (setAttributes_refuses he hvalue huncalled hgives)
    refine ⟨iff_of_false hno fun h => ?_, fun _ _ => happly⟩
    exact h.1.elim (fun h => huncalled h.1) fun h => hgives h.2.1

/-- A list of one entry of length 0, for attribute 1 of the first page of users. -/
def emptyEntry : Command where
  cdb := blobMem (List.replicate 68 0 ++ htonl 24)
  getsetCdbfmt := GETLIST_SETLIST
  retrievedAttrOff := 0
  indata := blobMem ([9, 0, 0, 0, 0, 0, 0, 0] ++
    (htonl 0x10000 ++ htonl 1 ++ List.replicate 6 0 ++ htons 0))
  inlen := 24
  hasOutdata := false

/-- A user object with this attribute. -/
def namedObject : Target := calmRun [.createPartition 0, .create 0x10000 0 1,
  .setAttributes 0x10000 0x10000 0x10000 1 (some (blobMem (List.replicate 8 7))) 8 false]

/-- A value of length 0 without data-in, for the same attribute. -/
def nullValue : Command where
  cdb := blobMem (List.replicate 64 0 ++ htonl 0x10000 ++ htonl 1)
  getsetCdbfmt := GETPAGE_SETVALUE
  retrievedAttrOff := 0
  indata := blobMem []
  inlen := 0
  hasIndata := false
  hasOutdata := false

/-- This one is deleted. -/
theorem deletes_iff_nullValue : Deletes Env.calm nullValue 0x10000 0x10000 0 0x10000 1 namedObject := by
  refine ((deletes_iff Env.calm nullValue 0x10000 0x10000 0 0x10000 1 namedObject (by decide +kernel)
    (by decide +kernel) (by decide +kernel) (by unfold InformationPage; decide)).1).2 ⟨.inr ?_, ?_⟩
  · refine ⟨?_, by decide +kernel, ?_, fun h => absurd h (by decide)⟩
    · rintro (⟨h, -⟩ | ⟨h, -⟩) <;> exact absurd h (by decide)
    · exact ⟨⟨rfl, fun _ => rfl⟩, by decide +kernel, by decide +kernel, by decide +kernel, by decide,
        by decide, rfl, (if_neg (by decide)).mpr rfl⟩
  · exact fun _ => by unfold ComputedPage; decide

/-- The command fails, and the attribute stays. -/
theorem emptyEntry_refused :
    ¬ Deletes Env.calm emptyEntry 0x10000 0x10000 2 0x10000 1 namedObject ∧
      (setAttributes Env.calm emptyEntry 0x10000 0x10000 1 2 namedObject).map
        (fun p => (p.1, p.2.db.attribute 0x10000 0x10000 0x10000 1))
        = some (cdbErr 0x10000 0x10000, some (List.replicate 8 7)) := by
  have hrun : (setAttributes Env.calm emptyEntry 0x10000 0x10000 1 2 namedObject).map
      (fun p => (p.1, p.2.db.attribute 0x10000 0x10000 0x10000 1))
      = some (cdbErr 0x10000 0x10000, some (List.replicate 8 7)) := by decide +kernel
  refine ⟨fun ⟨t, hok, _⟩ => ?_, hrun⟩
  rw [hok] at hrun
  exact cdbErr_ne_ok _ _ (congrArg Prod.fst (Option.some.inj hrun)).symm

end OsdTarget
