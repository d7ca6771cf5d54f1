import OsdTarget.ObjectViews
import OsdTarget.PureRetrieval

/-!
# The commands on one object in lockstep

The data commands and the atomics ask for nothing but the object they name, so they do the same in two
states that show the same of it.  REMOVE and CREATE with a requested id ask for a little more: for the rows
of their object in all three tables, and for the partition.
-/

namespace OsdTarget

open Base

variable {env : Env} {pid oid : UInt64}

/-! ## Data -/

section Data

variable {R : Target → Target → Prop} (h : Sees R env pid oid) (hccap : ∀ c, Alike R (setCcap c))

include h

theorem Sees.pwriteFile (off len : UInt64) (src : Mem) : Alike R (pwriteFile env pid oid off len src) := by
  refine alike_get fun s t hst => ?_
  rw [h.lookup s t hst]
  cases s.lookup env pid oid with
  | none => exact lockstep_pure hst _
  | some content =>
    cases env.pwrite pid oid off len with
    | none => exact lockstep_pure hst _
    | some limit =>
      exact lockstep_ite Iff.rfl (fun _ => lockstep_pure hst _) fun _ =>
        lockstep_bind (lockstep_set (h.setFile s t _ hst)) fun _ _ _ h' => lockstep_pure h' _

theorem Sees.sglWriteLoop (offset : UInt64) (dinbuf : Mem) (sglist : SgList) (n i : Nat)
    (dataOffset : UInt64) :
    Alike R (sglWriteLoop env pid oid offset dinbuf sglist n i dataOffset) := by
  induction n generalizing i dataOffset with
  | zero => exact alike_pure _
  | succ n ih => exact alike_bind (h.pwriteFile _ _ _) fun _ => alike_guard (ih _ _)

theorem Sees.vecWriteLoop (offset stride : UInt64) (dinbuf : Mem) (fuel : Nat)
    (bytes length dataOffset offsetVal : UInt64) :
    Alike R (vecWriteLoop env pid oid offset stride dinbuf fuel bytes length dataOffset offsetVal) := by
  induction fuel generalizing bytes length dataOffset offsetVal with
  | zero => exact alike_never
  | succ fuel ih =>
    exact alike_guard (alike_bind (h.pwriteFile _ _ _) fun _ => alike_guard (ih _ _ _ _))

include hccap

omit h in
theorem alike_finishWrite (appendOff : UInt64) : Alike R (finishWrite env pid oid appendOff) :=
  alike_guard (alike_bind (hccap _) fun _ => alike_pure _)

theorem Sees.osdWrite (len offset : UInt64) (dinbuf : Mem) (sglist : SgList) (ddt : UInt8) :
    Alike R (osdWrite env pid oid len offset dinbuf sglist ddt) := by
  have hopened : ∀ {m : OsdM Ret}, Alike R m → Alike R (openFile env pid oid >>= fun opened =>
      if (!opened) = true then pure (cdbErr pid oid) else m) :=
    fun hm => alike_bind h.toReveals.openFile fun _ => alike_guard hm
  refine alike_ite (alike_guard (hopened ?_)) (alike_ite (alike_guard (hopened ?_))
    (alike_ite (alike_guard (hopened ?_)) (alike_pure _)))
  · exact alike_bind (h.pwriteFile _ _ _) fun _ => alike_guard (alike_finishWrite hccap _)
  · refine alike_bind (h.sglWriteLoop _ _ _ _ _ _) fun r => ?_
    cases r with
    | none => exact alike_pure _
    | some _ => exact alike_ite alike_never (alike_finishWrite hccap _)
  · refine alike_bind (h.vecWriteLoop _ _ _ _ _ _ _ _) fun r => ?_
    cases r with
    | none => exact alike_pure _
    | some _ => exact alike_finishWrite hccap _

theorem Sees.contigAppend (len : UInt64) (appenddata : Option Mem) :
    Alike R (contigAppend env pid oid len appenddata) := by
  cases appenddata with
  | none => exact alike_pure _
  | some data =>
    refine alike_guard (alike_get fun s t hst => ?_)
    rw [h.lookup s t hst]
    cases s.lookup env pid oid with
    | none => exact lockstep_pure hst _
    | some content =>
      exact alike_guard (alike_guard (alike_bind (h.pwriteFile _ _ _) fun _ =>
        alike_guard (alike_finishWrite hccap _))) s t hst

theorem Sees.osdClear (len offset : UInt64) : Alike R (osdClear env pid oid len offset) :=
  alike_guard (alike_guard (alike_bind h.toReveals.openFile fun _ => alike_guard
    (alike_bind (h.pwriteFile _ _ _) fun _ => alike_guard (alike_finishWrite hccap _))))

omit hccap

theorem Sees.punchTail (offset newOffset newLen : UInt64) :
    Alike R (punchTail env pid oid offset newOffset newLen) := by
  refine alike_guard (alike_get fun s t hst => ?_)
  rw [h.toReveals.preadFile hst]
  cases preadFile env s pid oid newOffset newLen with
  | none => exact lockstep_pure hst _
  | some bytes =>
    exact alike_bind (h.pwriteFile _ _ _) (fun _ => alike_guard (alike_bind (h.truncateFile _) fun _ =>
      alike_guard (alike_guard (alike_pure _)))) s t hst

theorem Sees.osdPunch (len offset : UInt64) : Alike R (osdPunch env pid oid len offset) := by
  refine alike_guard (alike_get fun s t hst => ?_)
  rw [h.lookup s t hst]
  cases s.lookup env pid oid with
  | none => exact lockstep_pure hst _
  | some content =>
    exact alike_guard (alike_guard (alike_guard (alike_ite
      (alike_bind (h.truncateFile _) fun _ => alike_guard (alike_guard (alike_pure _)))
      (h.punchTail _ _ _)))) s t hst

/-! ## Atomics -/

theorem Sees.isPresentUserobject : Alike R (isPresentUserobject env pid oid) :=
  alike_bind h.present fun _ => alike_guard (alike_bind h.toReveals.getObjType fun _ => alike_pure _)

/-- The page of the atomics is not one of the special ones. -/
theorem Sees.setAtomic (number : UInt32) (val : Option Mem) (len : UInt16) :
    Alike R (attrSetAttr env pid oid USER_ATOMICS_PG number val len) := h.store _ _ _ _

theorem Sees.readAtomic (number : UInt32) : Alike R (readAtomic env pid oid number) :=
  alike_bind (h.attrGetVal _ _ _) fun _ => alike_guard (alike_guard
    (alike_bind (h.setAtomic _ _ _) fun _ => alike_guard (alike_pure _)))

variable [Detached R]

theorem Sees.osdCas (cmp swap : UInt64) (pos : Nat) : Alike R (osdCas env pid oid cmp swap pos) := by
  have hend : ∀ val, Alike R
      (outWrite pos (htonll val) >>= fun _ => pure (.ok, some 8) : OsdM (Ret × Option UInt64)) :=
    fun _ => alike_bind (Detached.reply _ _) fun _ => alike_pure _
  refine alike_bind h.isPresentUserobject fun _ => alike_guard (alike_bind (h.readAtomic _) fun val => ?_)
  cases val with
  | none => exact alike_pure _
  | some val =>
    exact alike_ite (alike_bind (h.setAtomic _ _ _) fun _ => alike_guard (hend _)) (hend _)

theorem Sees.osdFa (add : UInt64) (pos : Nat) : Alike R (osdFa env pid oid add pos) := by
  refine alike_bind h.isPresentUserobject fun _ => alike_guard (alike_bind (h.readAtomic _) fun val => ?_)
  cases val with
  | none => exact alike_pure _
  | some val =>
    exact alike_bind (h.setAtomic _ _ _) fun _ => alike_guard
      (alike_bind (Detached.reply _ _) fun _ => alike_pure _)

end Data

/-! ## The view of one object -/

section View

variable {K U : Int → Int → Prop} {s t : Target}

instance : Detached (View K U) where
  reply := alike_outWrite
  txn _ _ _ _ _ _ h := h.of_eq ⟨rfl, rfl⟩ ⟨rfl, rfl⟩ h.rootFreed h.out

/-- An id may be asked for if the states agree on it, or it is there in both. -/
theorem alike_objIspresent (hb : env.Blind) {pid oid : UInt64}
    (hk : K (bindInt64 pid) (bindInt64 oid) → U (bindInt64 pid) (bindInt64 oid)) :
    Alike (View K U) (objIspresent env pid oid) :=
  alike_query hb fun _ _ hst => decide_eq_decide.2 (hst.has hk)

namespace InView

variable (h : InView env K pid oid)

include h

theorem objGetType : Alike (View K U) (objGetType env pid oid) := by
  refine alike_query h.blind fun s t hst => ?_
  have hobj : Agrees (fun r : ObjRow => K r.pid r.oid) s.db.obj t.db.obj := hst.obj
  unfold Db.typeOf
  rw [hobj.find? fun r hr => ?_]
  refine decide_eq_false ?_
  rintro ⟨hp, ho⟩
  exact h.outside (hp ▸ ho ▸ hr)

/-- Rows of the object, in the attribute tables of both states. -/
theorem attrs (hst : View K U s t) (q : AttrRow → Bool)
    (hq : ∀ r, q r = true → r.pid = bindInt64 pid ∧ r.oid = bindInt64 oid) :
    t.db.attr.filter q = s.db.attr.filter q := by
  refine hst.attr q fun r hr => Bool.eq_false_iff.2 fun hqr => ?_
  obtain ⟨hp, ho⟩ := hq r hqr
  exact h.outside (hp ▸ ho ▸ hr)

/-- **The object is seen.** -/
theorem sees : Sees (View K U) env pid oid where
  type := h.objGetType
  refused s t _ := h.blind.query _ _ _
  rows s t hst q := by
    cases q <;> refine h.attrs hst _ fun r hr => ?_ <;> simp [AttrRow.key] at hr
    all_goals tauto
  value page number := by
    refine alike_query h.blind fun s t hst => ?_
    rw [← List.head?_filter, ← List.head?_filter, h.attrs hst _ fun r hr => ?_]
    simp [AttrRow.key] at hr
    tauto
  lookup s t hst := hst.lookup h
  present := alike_objIspresent h.blind fun hk => absurd hk h.outside
  store _ _ _ _ := alike_dms h.blind runsAlike_attrSet
  delete _ _ := alike_dms h.blind runsAlike_attrDelete
  setFile _ _ c hst := hst.setFile c
  pointer number cid := by
    unfold collGetCid
    refine alike_query h.blind fun s t hst => ?_
    have hcoll : Agrees (fun r : CollRow => K r.pid r.oid) s.db.coll t.db.coll := hst.coll
    rw [hcoll.find? fun r hr => ?_]
    refine decide_eq_false ?_
    rintro ⟨hp, ho, -⟩
    exact h.outside (hp ▸ ho ▸ hr)
  join _ _ := alike_dms h.blind (runsAlike_collInsert h.outside)
  leave _ := alike_dms h.blind runsAlike_collDelete

/-! ## Removing and creating -/

theorem unlinkFile : Alike (View K U) (unlinkFile env pid oid) := by
  refine alike_get fun s t hst => ?_
  rw [hst.lookup h]
  exact lockstep_ite Iff.rfl (fun _ => lockstep_pure hst _) fun _ =>
    lockstep_bind (lockstep_set (hst.setFile _)) fun _ _ _ h' => lockstep_pure h' _

theorem osdCreateDatafile : Alike (View K U) (osdCreateDatafile env pid oid) := by
  refine alike_get fun s t hst => ?_
  rw [hst.lookup h, hst.rootFreed]
  exact lockstep_ite Iff.rfl (fun _ => lockstep_pure hst _) fun _ =>
    lockstep_ite Iff.rfl (fun _ => lockstep_pure hst _) fun _ =>
    lockstep_ite Iff.rfl (fun _ => lockstep_pure hst _) fun _ =>
    lockstep_bind (lockstep_set (hst.setFile _)) fun _ _ _ h' => lockstep_pure h' _

theorem osdRemove : Alike (View K U) (osdRemove env pid oid) :=
  alike_guard (alike_bind alike_invalidateCache fun _ => alike_bind h.unlinkFile fun _ =>
    alike_bind (alike_dms h.blind runsAlike_attrDeleteAll) fun _ => alike_guard
    (alike_bind (alike_dms h.blind runsAlike_collDeleteOid) fun _ => alike_guard
    (alike_bind (alike_dms h.blind (runsAlike_objDelete h.outside)) fun _ => alike_guard
    (alike_bind (alike_setCcap _) fun _ => alike_pure _))))

/-- At most one object is created, so nothing before it is removed again. -/
theorem createLoop {n : Nat} (hn : n ≤ 1) : Alike (View K U) (createLoop env pid oid n oid) := by
  have hback : Alike (View K U) (osdRemoveTmpObjects env pid (oid - oid).toNat oid >>= fun _ =>
      pure (some oid)) := by
    rw [UInt64.sub_self]
    exact alike_pure _
  cases n with
  | zero => exact alike_pure _
  | succ n =>
    obtain rfl : n = 0 := by omega
    exact alike_bind (alike_dms h.blind (runsAlike_objInsert h.outside)) fun _ => alike_ite hback
      (alike_bind h.osdCreateDatafile fun _ =>
        alike_ite (alike_bind (alike_dms h.blind (runsAlike_objDelete h.outside)) fun _ => hback)
          (alike_pure _))

theorem createFrom {numoid : UInt16} (hn : atLeastOne numoid = 1) (requested : UInt64) :
    Alike (View K U) (createFrom env pid requested oid numoid) := by
  have hcount : createCount oid (atLeastOne numoid) ≤ 1 := by
    rw [hn]
    exact createCount_le oid 1
  refine alike_bind (h.createLoop hcount) fun failed => ?_
  cases failed with
  | some _ => exact alike_bind alike_invalidateCache fun _ => alike_pure _
  | none =>
    dsimp only
    exact alike_bind (alike_modify fun _ _ h' => h'.of_eq ⟨rfl, rfl⟩ ⟨rfl, rfl⟩ h'.rootFreed h'.out)
      fun _ => alike_bind (alike_setCcap _) fun _ => alike_pure _

/-- CREATE of the object, by its id. -/
theorem osdCreate (hpart : K (bindInt64 pid) 0 → U (bindInt64 pid) 0) (hoid : oid ≠ 0) (numoid : UInt16) :
    Alike (View K U) (osdCreate env pid oid numoid) := by
  refine alike_guard (alike_guard (alike_bind (alike_objIspresent h.blind hpart) fun _ => alike_guard
    (alike_ite_of (fun _ => alike_pure _) fun hnum => alike_ite_of (fun h0 => absurd h0 hoid) fun _ =>
      alike_bind (alike_bind h.sees.present fun _ => alike_guard
        (alike_bind alike_invalidateCache fun _ => alike_pure _)) fun _ => alike_guard
          (h.createFrom (atLeastOne_eq_one fun hlt => hnum ⟨hlt, hoid⟩) _))))

end InView

end View

/-! ## The attribute parameters -/

/-- The page shows nothing of the current command and no time. -/
def IsLasting (page : UInt32) : Prop :=
  page ≠ CUR_CMD_ATTR_PG ∧ page ≠ ROOT_INFO_PG ∧ page ≠ USER_TMSTMP_PG ∧
    page ≠ PARTITION_DIR_PG + USER_TMSTMP_PG

instance (page : UInt32) : Decidable (IsLasting page) := inferInstanceAs (Decidable (_ ∧ _ ∧ _ ∧ _))

/-- A set parameter that a command comes to. -/
structure Setting where
  page : UInt32
  val : Option Mem
  len : UInt16

namespace Command

variable (cmd : Command)

def settings (fuel : Nat) : List Setting :=
  if cmd.getsetCdbfmt = GETPAGE_SETVALUE then
    match setAttrValueCheck cmd with
    | .use off len => [⟨getNtohl cmd.cdb 64, cmd.indataAt off, UInt16.ofNat len⟩]
    | _ => []
  else if cmd.getsetCdbfmt = GETLIST_SETLIST then
    match setListCheck cmd with
    | .use off len => (visitEntries cmd.indata fuel (off + 8) (UInt32.ofNat len - 8)).1.map fun e =>
      ⟨e.page, some (cmd.indata.shift e.cval), e.len⟩
    | _ => []
  else if cmd.getsetCdbfmt = GETFIELD_SETVALUE then
    match setOneAttrValueCheck cmd with
    | .use off len => [⟨getNtohl cmd.cdb 52, some (cmd.cdb.shift off), UInt16.ofNat len⟩]
    | _ => []
  else []

/-- The pages it asks for. -/
def pagesAsked : List UInt32 :=
  if cmd.getsetCdbfmt = GETPAGE_SETVALUE then [getNtohl cmd.cdb 52]
  else if cmd.getsetCdbfmt = GETLIST_SETLIST then
    match getAttrListCheck cmd with
    | .use off len => (getEntries cmd off len).map Prod.fst
    | _ => []
  else []

/-- The collection a setting names: only a pointer of 8 bytes does. -/
def PointsTo (fuel : Nat) (cid : UInt64) : Prop :=
  ∃ x ∈ cmd.settings fuel, x.page = USER_COLL_PG ∧ x.len = 8 ∧
    x.val.map (fun m => getNtohll m 0) = some cid

end Command

section Parameters

variable {K U : Int → Int → Prop} {cmd : Command} {fuel : Nat}

theorem IsLasting.seesPage {page : UInt32} (h : IsLasting page) : SeesPage (View K U) page where
  ccap hp := hp.elim (fun hp => absurd hp h.1) fun hp => absurd hp h.2.1
  times hp := hp.elim (fun hp => absurd hp h.2.2.2) fun hp => absurd hp h.2.2.1

/-- What is asked of the settings of a command: no page of its own, no collection that may come and go. -/
structure Command.SettingsSeen (cmd : Command) (K U : Int → Int → Prop) (fuel : Nat) : Prop where
  lasting : ∀ x ∈ cmd.settings fuel, IsLasting x.page
  asked : ∀ page ∈ cmd.pagesAsked, IsLasting page
  pointers : ∀ cid, cmd.PointsTo fuel cid → K (bindInt64 cmd.pid) (bindInt64 cid) →
    U (bindInt64 cmd.pid) (bindInt64 cid)

theorem seesEntries_of_visited {R : Target → Target → Prop} {indata : Mem} {listHdr : Nat}
    {listLen : UInt32}
    (h : ∀ e ∈ (visitEntries indata fuel listHdr listLen).1, SeesPage R e.page ∧
      SeesPointer R env pid e.page (some (indata.shift e.cval)) e.len) :
    SeesEntries R env pid indata fuel listHdr listLen := by
  induction fuel generalizing listHdr listLen with
  | zero => trivial
  | succ fuel ih =>
    intro hlen
    unfold visitEntries at h
    rw [if_neg hlen] at h
    obtain ⟨⟨hpage, hval⟩, hrest⟩ := List.forall_mem_cons.1 h
    exact ⟨hpage, hval, ih hrest⟩

theorem Command.SettingsSeen.seesParameters (h : cmd.SettingsSeen K U fuel) (hb : env.Blind) :
    SeesParameters (View K U) env cmd cmd.pid fuel := by
  have hsetting : ∀ x ∈ cmd.settings fuel, SeesPage (View K U) x.page ∧
      SeesPointer (View K U) env cmd.pid x.page x.val x.len := by
    refine fun x hx => ⟨(h.lasting x hx).seesPage, fun hp hlen m hm => ?_⟩
    exact alike_objIspresent hb (h.pointers _ ⟨x, hx, hp, hlen, by rw [hm]; rfl⟩)
  have hask : ∀ page ∈ cmd.pagesAsked, SeesPage (View K U) page := fun page hp => (h.asked page hp).seesPage
  unfold Command.settings at hsetting
  unfold Command.pagesAsked at hask
  refine ⟨fun hf off len hc => ?_, fun hf off len hc => ?_, fun hf off len hc => ?_, fun hf => ?_,
    fun hf off len hc i hi => ?_⟩
  · rw [if_pos hf, hc] at hsetting
    exact hsetting _ List.mem_cons_self
  · rw [if_neg (by rw [hf]; decide), if_pos hf, hc] at hsetting
    exact seesEntries_of_visited fun e he => hsetting _ (List.mem_map_of_mem he)
  · rw [if_neg (by rw [hf]; decide), if_neg (by rw [hf]; decide), if_pos hf, hc] at hsetting
    exact hsetting _ List.mem_cons_self
  · rw [if_pos hf] at hask
    exact hask _ List.mem_cons_self
  · rw [if_neg (by rw [hf]; decide), if_pos hf, hc] at hask
    exact hask _ (List.mem_map_of_mem (List.mem_map_of_mem (List.mem_range.2 hi)))

theorem InView.seesIds (h : InView env K pid oid) :
    ∀ k < createCount oid 1, Sees (View K U) env pid (oid + UInt64.ofNat k) := by
  intro k hk
  obtain rfl : k = 0 := Nat.lt_one_iff.1 (hk.trans_le (createCount_le oid 1))
  show Sees _ env pid (oid + 0)
  rw [UInt64.add_zero]
  exact h.sees

variable (h : InView env K cmd.pid oid) (hseen : cmd.SettingsSeen K U fuel)

include h hseen

theorem InView.setAttributes : Alike (View K U) (setAttributes env cmd cmd.pid oid 1 fuel) :=
  alike_setAttributes (hseen.seesParameters h.blind) 1 h.seesIds

theorem InView.getAttributes (used : UInt32) :
    Alike (View K U) (getAttributes env cmd cmd.pid oid 1 used) :=
  alike_getAttributes (hseen.seesParameters h.blind) h.seesIds h.sees used

/-- The parameters of a command on one object. -/
theorem InView.applyAttributes (used : UInt32) :
    Alike (View K U) (applyAttributes env cmd cmd.pid oid 1 fuel used) :=
  alike_applyAttributes (hseen.seesParameters h.blind) h.seesIds h.sees used

end Parameters

/-! ## Handlers -/

section Handlers

variable {K U : Int → Int → Prop} {cmd : Command} {ds : List ContDescriptor} {fuel : Nat}

/-- CREATE of a requested id creates one object, and the current command names it. -/
theorem osdCreate_names {s : Target} {numoid : UInt16} (hoid : oid ≠ 0) :
    Ends (osdCreate env pid oid numoid) s fun ret t => ret = .ok →
      atLeastOne numoid = 1 ∧ getCreatedOid t.ccap (UInt16.toUInt32 1) = oid := by
  refine osdCreate_ends (fun _ _ hno _ hret => absurd hret hno) fun o ic _ _ hone hpick => ?_
  have hnum := hone hoid
  obtain rfl : o = oid := by
    rcases hpick with ⟨h0, -⟩ | ⟨-, ho, -⟩
    · exact absurd h0 hoid
    · exact ho
  refine ends_bind.2 fun failed t _ => ?_
  cases failed with
  | some _ => exact ends_bind.2 (ends_modify.2 (ends_pure.2 fun hret => nomatch hret))
  | none =>
    refine ends_bind.2 (ends_modify.2 (ends_bind.2 (ends_modify.2 (ends_pure.2 fun _ => ⟨hnum, ?_⟩))))
    show getCreatedOid (fillCcap .userobject pid (o + (atLeastOne numoid).toUInt64 - 1) 0) _ = o
    rw [hnum]
    exact getCreatedOid_fillCcap (n := 1) (by decide)

theorem cdbCreate_names {s : Target} {numoid : UInt16} (hoid : oid ≠ 0) :
    Ends (withinTxn env (osdCreate env pid oid numoid)) s fun ret t => ret = .ok →
      atLeastOne numoid = 1 ∧ getCreatedOid t.ccap (UInt16.toUInt32 1) = oid :=
  withinTxn_ends fun _ _ => (osdCreate_names hoid).mono fun _ _ hret _ _ => hret

namespace InView

variable (h : InView env K cmd.pid cmd.oid) (hseen : cmd.SettingsSeen K U fuel)

include h hseen

theorem withAttributes {m : OsdM (Ret × Option UInt64)} (hm : Alike (View K U) m) :
    Alike (View K U) (withAttributes env cmd cmd.pid cmd.oid fuel m) :=
  alike_bind hm fun _ => alike_guard (alike_bind (h.applyAttributes hseen _) fun _ => alike_pure _)

theorem afterAttributes {m : OsdM (Ret × Option UInt64)} (hm : Alike (View K U) m) :
    Alike (View K U) (afterAttributes env cmd cmd.pid cmd.oid fuel m) :=
  alike_bind (h.applyAttributes hseen _) fun _ => alike_guard (alike_bind hm fun _ => alike_pure _)

theorem cdbRead : Alike (View K U) (cdbRead env cmd ds fuel) :=
  alike_guard (alike_bind (h.sees.toReveals.osdReadDevice alike_setCcap _ _ _) fun _ => alike_guard
    (alike_bind (h.applyAttributes hseen _) fun _ => alike_guard (alike_pure _)))

theorem execWrite : Alike (View K U) (execWrite env cmd ds fuel) :=
  alike_guard (alike_bind (h.withAttributes hseen (alike_bind (h.sees.osdWrite alike_setCcap _ _ _ _ _)
    fun _ => alike_pure _)) fun _ => alike_pure _)

theorem cdbCreate (hpart : K (bindInt64 cmd.pid) 0 → U (bindInt64 cmd.pid) 0) (hoid : cmd.oid ≠ 0)
    (used : UInt32) : Alike (View K U) (cdbCreate env cmd fuel used) := by
  have hundo : ∀ n ≤ 1, Alike (View K U) (osdRemoveTmpObjects env cmd.pid n cmd.oid) := by
    intro n hn
    cases n with
    | zero => exact alike_pure _
    | succ n =>
      obtain rfl : n = 0 := by omega
      exact alike_bind h.osdRemove fun _ => alike_pure _
  have hattrs : Alike (View K U) (attributesOrUndo env cmd cmd.pid cmd.oid 1 fuel used
      (osdRemoveTmpObjects env cmd.pid (createCount cmd.oid 1) cmd.oid)) := by
    refine alike_bind (h.applyAttributes hseen _) fun r => ?_
    exact alike_ite (alike_bind (hundo _ (createCount_le _ 1)) fun _ => alike_pure _) (alike_pure _)
  refine alike_guard fun s t hst => lockstep_bind_of_ends
    (alike_withinTxn (h.osdCreate hpart hoid _) s t hst) (cdbCreate_names hoid) (cdbCreate_names hoid)
    fun ret s' t' hst' hs ht => lockstep_ite Iff.rfl (fun _ => lockstep_pure hst' _) fun hret => ?_
  obtain ⟨hone, hs⟩ := hs (not_not.1 hret)
  obtain ⟨-, ht⟩ := ht (not_not.1 hret)
  have hone : (if getNtohs cmd.cdb 32 = 0 then 1 else getNtohs cmd.cdb 32) = 1 := hone
  refine lockstep_get ?_
  dsimp only
  rw [hone, hs, ht]
  exact hattrs s' t' hst'

end InView

end Handlers

end OsdTarget
