import OsdTarget.Cdb
import OsdTarget.AttributeSpec

/-!
# What the attribute parameters of a command do

`set_attributes` and `get_attributes` go over the ids from one on, attribute by attribute.  A relation
that admits what is done to one attribute of each of these objects holds along the whole.
-/

namespace OsdTarget

open Base

variable {env : Env} {s s' : Target} {pid oid : UInt64}

/-! ## One attribute -/

/-- `R` admits whatever is done to an attribute of the object. -/
structure AdmitsAttributes (R : Target → Target → Prop) (pid oid : UInt64) : Prop where
  row : ∀ page number blob, Admits R ⟨bindInt64 pid, bindInt64 oid, bindInt page, bindInt number, blob⟩
  delete : ∀ page number, AdmitsDelete R (attrRow pid oid page number []).key
  file : AdmitsFile R pid oid
  point : ∀ (s : Target) cid number t,
    insertColl ⟨bindInt64 pid, cid, bindInt64 oid, number⟩ s.db.coll = some t → R s (s.setColl t)
  unpoint : ∀ (s : Target) cid, R s (s.setColl (deleteWhere
    (fun r => r.pid = bindInt64 pid ∧ r.cid = cid ∧ r.oid = bindInt64 oid) s.db.coll))

section Stays

variable {R : Target → Target → Prop} [Stays R]

theorem Stored.stays {page number : UInt32} {val : Option Mem} {len : UInt16}
    (hR : AdmitsAttributes R pid oid) (h : Stored pid oid page number val len s s') : R s s' := by
  cases h with
  | row => exact hR.row _ _ _ s
  | deleted => exact hR.delete _ _ s
  | resized _ _ c c' hfile => exact hR.file s c c' hfile
  | ignored => exact Stays.refl R s
  | pointed _ m _ _ _ t hrow => exact hR.point s _ _ t hrow
  | unpointed _ _ cid => exact hR.unpoint s _

theorem resp_osdSetAttributes (hR : AdmitsAttributes R pid oid) (page number : UInt32)
    (val : Option Mem) (len : UInt16) (isembedded : Bool) :
    Respects R (osdSetAttributes env pid oid page number val len isembedded) := by
  refine fun s => osdSetAttributes_stores.mono fun _ s' h => ?_
  rcases h with ⟨-, rfl⟩ | ⟨-, type, t, c, -, hst, rfl⟩
  · exact Stays.refl R s'
  · exact Stays.trans s t _ (hst.stays hR) (Stays.same _ _ rfl rfl rfl rfl rfl rfl)

/-- A retrieval of everything may add rows, of a present object only. -/
theorem osdGetattrList_respects (hR : (∃ type, TypeAnswer s.db pid oid type) → AdmitsAttributes R pid oid)
    (page number : UInt32) (pos : Nat) (outlen : UInt32) (isembedded : Bool) (listfmt : UInt8) :
    Ends (osdGetattrList env pid oid page number pos outlen isembedded listfmt) s (fun _ s' => R s s') := by
  refine osdGetattrList_stays fun _ ht r hr => ?_
  simp only [lazyAttrs, List.mem_cons, List.not_mem_nil, or_false] at hr
  rcases hr with rfl | rfl <;> exact (hR ht).row _ _ _

theorem osdGetattrPage_respects (hR : (∃ type, TypeAnswer s.db pid oid type) → AdmitsAttributes R pid oid)
    (page : UInt32) (pos : Nat) (outlen : UInt64) (isembedded : Bool) :
    Ends (osdGetattrPage env pid oid page pos outlen isembedded) s (fun _ s' => R s s') := by
  refine osdGetattrPage_stays fun _ ht r hr => ?_
  simp only [lazyAttrs, List.mem_cons, List.not_mem_nil, or_false] at hr
  rcases hr with rfl | rfl <;> exact (hR ht).row _ _ _

end Stays

/-! ## The ids in turn -/

theorem withinTxn_ends {α : Type} {m : OsdM α} {Q : α → Target → Prop}
    (h : ∀ b l, Ends m { s with inTxn := b, txnCalls := l }
      (fun a t => ∀ b l, Q a { t with inTxn := b, txnCalls := l })) :
    Ends (withinTxn env m) s Q :=
  ends_bind.2 (osdBeginTxn_ends fun _ b l => ends_call (h b l) fun _ _ hq =>
    ends_bind.2 (osdEndTxn_ends fun _ b l => ends_pure.2 (hq b l)))

/-- Every call that sets or gets an attribute of the object stays inside `R`. -/
structure Serves (R : Target → Target → Prop) (env : Env) (isembedded : Bool) (pid oid : UInt64) :
    Prop where
  set : ∀ page number val len,
    Respects R (osdSetAttributes env pid oid page number val len isembedded)
  list : ∀ page number pos outlen listfmt,
    Respects R (osdGetattrList env pid oid page number pos outlen isembedded listfmt)

section Stays

variable {R : Target → Target → Prop} [Stays R]

theorem AdmitsAttributes.serves (h : AdmitsAttributes R pid oid) (isembedded : Bool) :
    Serves R env isembedded pid oid where
  set _ _ _ _ := resp_osdSetAttributes h _ _ _ _ _
  list _ _ _ _ _ _ := osdGetattrList_respects (fun _ => h) _ _ _ _ _ _

theorem resp_setOnObjects {n : Nat} {i : UInt64} {isembedded : Bool}
    (hR : ∀ k < n, Serves R env isembedded pid (i + UInt64.ofNat k)) (page number : UInt32)
    (val : Option Mem) (len : UInt16) :
    Respects R (setOnObjects env pid page number val len isembedded n i) := by
  induction n generalizing i with
  | zero => exact resp_pure _
  | succ n ih =>
    obtain ⟨h0, hrest⟩ := forall_ids_succ.1 hR
    exact resp_bind (h0.set _ _ _ _) fun _ => respects_ite (resp_pure _) (ih hrest)

theorem resp_run {c : ParamCheck} {body : Nat → Nat → OsdM Ret}
    (h : ∀ off len, Respects R (body off len)) : Respects R (c.run pid oid body) := by
  cases c with
  | nothing => exact resp_pure _
  | reject asc => exact resp_pure _
  | use off len => exact h off len

theorem resp_setAttrListLoop {indata : Mem} {numoid : UInt16} {isembedded : Bool}
    (hR : ∀ k < createCount oid numoid, Serves R env isembedded pid (oid + UInt64.ofNat k)) (fuel : Nat)
    (listHdr : Nat) (listLen : UInt32) :
    Respects R (setAttrListLoop env indata pid oid isembedded numoid fuel listHdr listLen) := by
  induction fuel generalizing listHdr listLen with
  | zero => exact respects_ite (resp_pure _) resp_never
  | succ fuel ih =>
    exact respects_ite (resp_pure _) (resp_bind (resp_setOnObjects hR _ _ _ _) fun _ =>
      respects_ite (resp_pure _) (ih _ _))

theorem resp_getFromObjects {n : Nat} {i : UInt64} {isembedded : Bool}
    (hR : ∀ k < n, Serves R env isembedded pid (i + UInt64.ofNat k)) (page number : UInt32)
    (listfmt : UInt8) (c : GetCursor) :
    Respects R (getFromObjects env pid page number isembedded listfmt n i c) := by
  induction n generalizing i c with
  | zero => exact resp_pure _
  | succ n ih =>
    obtain ⟨h0, hrest⟩ := forall_ids_succ.1 hR
    exact resp_bind (h0.list _ _ _ _ _) fun _ => respects_ite (resp_pure _) (ih hrest _)

theorem resp_getAttrListLoop {numoid : UInt16} {isembedded : Bool} {listfmt : UInt8}
    (hR : ∀ k < createCount oid numoid, Serves R env isembedded pid (oid + UInt64.ofNat k))
    (entries : List (UInt32 × UInt32)) (c : GetCursor) :
    Respects R (getAttrListLoop env pid oid isembedded listfmt numoid entries c) := by
  induction entries generalizing c with
  | nil => exact resp_pure _
  | cons e rest ih =>
    exact resp_bind (resp_getFromObjects hR _ _ _ _) fun _ => respects_ite (resp_pure _) (ih _)

end Stays

/-! Around them, transactions. -/

section Transactions

variable {R : Target → Target → Prop}

theorem resp_withinTxn [Untransacted R] {α : Type} {m : OsdM α} (hm : Respects R m) :
    Respects R (withinTxn env m) :=
  resp_bind resp_osdBeginTxn fun _ => resp_bind hm fun _ => resp_bind resp_osdEndTxn fun _ => resp_pure _

/-- What stays inside `R'` stays inside `R` when it is bracketed by transaction calls. -/
def Brackets (env : Env) (R' R : Target → Target → Prop) : Prop :=
  ∀ ⦃α : Type⦄ (m : OsdM α), Respects R' m → Respects R (withinTxn env m)

theorem brackets_self [Untransacted R] : Brackets env R R := fun _ _ => resp_withinTxn

variable {R' : Target → Target → Prop} [Stays R'] [Stays R]

/-- **`set_attributes`.** -/
theorem serves_setAttributes (hb : Brackets env R' R) {cmd : Command} {numoid : UInt32} {fuel : Nat}
    (hR : ∀ k < createCount oid numoid.toUInt16, Serves R' env true pid (oid + UInt64.ofNat k)) :
    Respects R (setAttributes env cmd pid oid numoid fuel) := by
  refine respects_ite (resp_pure _) (respects_ite ?_ (respects_ite ?_ (respects_ite ?_ (resp_pure _))))
  · exact resp_run fun _ _ => hb _ (resp_setOnObjects hR _ _ _ _)
  · exact resp_run fun _ _ => hb _ (resp_setAttrListLoop hR _ _ _)
  · exact resp_run fun _ _ => hb _ (resp_setOnObjects hR _ _ _ _)

theorem serves_getAttrList (hb : Brackets env R' R) {cmd : Command} {numoid : UInt16} {isembedded : Bool}
    {used : UInt32}
    (hR : ∀ k < createCount oid numoid, Serves R' env isembedded pid (oid + UInt64.ofNat k)) :
    Respects R (getAttrList env cmd pid oid isembedded numoid used) := by
  unfold getAttrList
  split
  · exact resp_pure _
  · exact resp_pure _
  · refine resp_bind (resp_outWrite _ _) fun _ => resp_bind (resp_outWrite _ _) fun _ =>
      resp_bind (hb _ (resp_bind (resp_getAttrListLoop hR _ _) fun r => ?_)) fun _ => resp_pure _
    exact respects_ite (resp_bind (resp_outWrite _ _) fun _ => resp_pure _) (resp_pure _)

/-- **`get_attributes`.**  A page is retrieved from the first id even where the range of ids wraps around
and is empty. -/
theorem serves_getAttributes (hb : Brackets env R' R) {cmd : Command} {numoid : UInt16} {used : UInt32}
    (hpage : ∀ page pos outlen, Ends (osdGetattrPage env pid oid page pos outlen true) s
      (fun _ s' => R s s'))
    (hR : ∀ k < createCount oid numoid, Serves R' env true pid (oid + UInt64.ofNat k)) :
    Ends (getAttributes env cmd pid oid numoid used) s (fun _ s' => R s s') := by
  have hsame : ∀ r : Ret × UInt32, Ends (pure r : OsdM (Ret × UInt32)) s (fun _ s' => R s s') :=
    fun _ => ends_pure.2 (Stays.refl R s)
  refine ends_ite_of (fun _ => hsame _) fun _ => ends_ite_of (fun _ => ?_) fun _ =>
    ends_ite_of (fun _ => serves_getAttrList hb hR s) fun _ =>
    ends_ite_of (fun _ => hsame _) fun _ => hsame _
  refine ends_ite_of (fun _ => hsame _) fun _ => ends_ite_of (fun _ => hsame _) fun _ =>
    ends_ite_of (fun _ => hsame _) fun _ => ?_
  exact ends_call (hpage _ _ _) fun _ _ h => ends_pure.2 h

theorem resp_setAttributes (hb : Brackets env R' R) {cmd : Command} {numoid : UInt32} {fuel : Nat}
    (hR : ∀ k < createCount oid numoid.toUInt16, AdmitsAttributes R' pid (oid + UInt64.ofNat k)) :
    Respects R (setAttributes env cmd pid oid numoid fuel) :=
  serves_setAttributes hb fun k hk => (hR k hk).serves true

theorem getAttributes_respects (hb : Brackets env R' R) {cmd : Command} {numoid : UInt16} {used : UInt32}
    (hfirst : (∃ type, TypeAnswer s.db pid oid type) → AdmitsAttributes R pid oid)
    (hR : ∀ k < createCount oid numoid, AdmitsAttributes R' pid (oid + UInt64.ofNat k)) :
    Ends (getAttributes env cmd pid oid numoid used) s (fun _ s' => R s s') :=
  serves_getAttributes hb (fun _ _ _ => osdGetattrPage_respects hfirst _ _ _ _)
    fun k hk => (hR k hk).serves true

end Transactions

/-! ## Both parameters -/

instance : Untransacted IdStep where
  same _ _ hdb hic hf hr _ _ := (AttrStep.of_eq (K := fun _ _ => False) hdb hic hf hr).toIdStep
  trans _ _ _ h h' := ⟨h'.obj.trans h.obj, h'.ic.trans h.ic,
    fun p o => (h'.files p o).trans (h.files p o), h'.rootFreed.trans h.rootFreed⟩
  txn _ _ _ := ⟨rfl, rfl, fun _ _ => rfl, rfl⟩

theorem IdStep.admitsAttributes (pid oid : UInt64) : AdmitsAttributes IdStep pid oid where
  row _ _ _ s := (AttrStep.admits (K := fun _ _ => True) trivial s).toIdStep
  delete _ _ s := (AttrStep.admitsDelete (fun _ _ => True) _ s).toIdStep
  file s c c' h := (AttrStep.admitsFile (fun _ _ => True) pid oid s c c' h).toIdStep
  point _ _ _ _ _ := ⟨rfl, rfl, fun _ _ => rfl, rfl⟩
  unpoint _ _ := ⟨rfl, rfl, fun _ _ => rfl, rfl⟩

theorem resp_applyAttributes_idStep {cmd : Command} {numoid : UInt16} {fuel : Nat} {used : UInt32} :
    Respects IdStep (applyAttributes env cmd pid oid numoid fuel used) :=
  resp_bind (resp_setAttributes brackets_self fun _ _ => IdStep.admitsAttributes _ _) fun _ =>
    respects_ite (resp_pure _) fun _ => getAttributes_respects brackets_self
      (fun _ => IdStep.admitsAttributes _ _)
      fun _ _ => IdStep.admitsAttributes _ _

theorem TypeAnswer.of_obj {d d' : Db} {type : ObjType} (h : TypeAnswer d pid oid type)
    (hd : d'.obj = d.obj) : TypeAnswer d' pid oid type := by
  unfold TypeAnswer Db.HasType at h ⊢
  rwa [hd]

/-- **Applying the attribute parameters** does to the ids given what is done to attributes. -/
theorem applyAttributes_respects {R : Target → Target → Prop} [Untransacted R] {cmd : Command}
    {numoid : UInt16}
    {fuel : Nat} {used : UInt32}
    (hfirst : (∃ type, TypeAnswer s.db pid oid type) → AdmitsAttributes R pid oid)
    (hR : ∀ k < createCount oid numoid, AdmitsAttributes R pid (oid + UInt64.ofNat k)) :
    Ends (applyAttributes env cmd pid oid numoid fuel used) s (fun _ s' => R s s') := by
  have hnum : numoid.toUInt32.toUInt16 = numoid := by simp
  have hset : Respects R (setAttributes env cmd pid oid numoid.toUInt32 fuel) :=
    resp_setAttributes brackets_self (hnum.symm ▸ hR)
  have hobj : Respects IdStep (setAttributes env cmd pid oid numoid.toUInt32 fuel) :=
    resp_setAttributes brackets_self fun _ _ => IdStep.admitsAttributes _ _
  refine ends_call ((hset s).and (hobj s)) fun _ t ⟨ht, hid⟩ =>
    ends_ite_of (fun _ => ends_pure.2 ht) fun _ => ?_
  have hfirst' : (∃ type, TypeAnswer t.db pid oid type) → AdmitsAttributes R pid oid :=
    fun ⟨type, h⟩ => hfirst ⟨type, h.of_obj hid.obj.symm⟩
  exact (getAttributes_respects brackets_self hfirst' hR).mono fun _ v hv => Stays.trans s t v ht hv

end OsdTarget
