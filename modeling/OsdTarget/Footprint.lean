import OsdTarget.Commands

/-!
# Which objects a command touches

Creating and removing user objects changes nothing about any other object: not its row, its
attributes, its memberships nor its data file.  `Beside K` says so of two states, `K` being the ids
that may have been touched.  The loops are followed once, for every relation that admits what is done
to a single object.
-/

namespace OsdTarget

open Base

variable {env : Env} {s s' : Target}

/-! ## Creating and removing one object -/

/-- A relation that does not look at the id cache either. -/
class Uncached (R : Target → Target → Prop) : Prop extends Stays R where
  ic : ∀ (s : Target) (c : IdCache), R s { s with ic := c }

/-- `R` admits whatever creating and removing one object does. -/
structure AdmitsObject (R : Target → Target → Prop) (pid oid : UInt64) : Prop where
  insert : ∀ (s : Target) type, R s (s.setObj (s.db.obj ++ [⟨bindInt64 pid, bindInt64 oid, type⟩]))
  delete : ∀ s : Target,
    R s (s.setObj (deleteWhere (fun r => r.pid = bindInt64 pid ∧ r.oid = bindInt64 oid) s.db.obj))
  attrs : ∀ s : Target,
    R s (s.setAttr (deleteWhere (fun r => r.pid = bindInt64 pid ∧ r.oid = bindInt64 oid) s.db.attr))
  colls : ∀ s : Target,
    R s (s.setColl (deleteWhere (fun r => r.pid = bindInt64 pid ∧ r.oid = bindInt64 oid) s.db.coll))
  file : ∀ (s : Target) c, R s (s.setFile pid oid c)

section Stays

variable {R : Target → Target → Prop} [Uncached R] {pid : UInt64}

theorem resp_invalidateCache : Respects R invalidateCache := respects_modify fun s => Uncached.ic s _

theorem resp_unlinkFile {oid : UInt64} (h : AdmitsObject R pid oid) :
    Respects R (unlinkFile env pid oid) := fun s =>
  ends_bind.2 (ends_get.2 (ends_ite_of (fun _ => ends_pure.2 (Stays.refl R s)) fun _ =>
    ends_bind.2 (ends_set.2 (ends_pure.2 (h.file s none)))))

theorem resp_objDelete {oid : UInt64} (h : AdmitsObject R pid oid) :
    Respects R (objDelete env pid oid) :=
  fun s => objDelete_ends (h.delete s) fun _ => Stays.refl R s

theorem resp_attrDeleteAll {oid : UInt64} (h : AdmitsObject R pid oid) :
    Respects R (attrDeleteAll env pid oid) :=
  fun s => attrDeleteAll_ends (h.attrs s) fun _ => Stays.refl R s

theorem resp_osdRemove_of {oid : UInt64} (hfile : Respects R (unlinkFile env pid oid))
    (hattr : Respects R (attrDeleteAll env pid oid)) (hcoll : Respects R (collDeleteOid env pid oid))
    (hobj : Respects R (objDelete env pid oid)) : Respects R (osdRemove env pid oid) :=
  respects_ite (resp_pure _) (resp_bind resp_invalidateCache fun _ => resp_bind hfile fun _ =>
    resp_bind hattr fun _ => respects_ite (resp_pure _) (resp_bind hcoll fun _ =>
      respects_ite (resp_pure _) (resp_bind hobj fun _ => respects_ite (resp_pure _)
        (resp_bind (resp_setCcap _) fun _ => resp_pure _))))

theorem resp_osdRemove {oid : UInt64} (h : AdmitsObject R pid oid) :
    Respects R (osdRemove env pid oid) :=
  resp_osdRemove_of (resp_unlinkFile h) (resp_attrDeleteAll h)
    (fun s => collDeleteOid_ends (h.colls s) fun _ => Stays.refl R s) (resp_objDelete h)

theorem osdRemoveTmpObjects_stays {oid : UInt64} (n : Nat)
    (h : ∀ k < n, AdmitsObject R pid (oid + UInt64.ofNat k)) :
    Respects R (osdRemoveTmpObjects env pid n oid) := fun s =>
  osdRemoveTmpObjects_invariant (P := fun t => R s t) n oid
    (fun k hk t ht => (resp_osdRemove (h k hk) t).mono fun _ v hv => Stays.trans s t v ht hv)
    (Stays.refl R s)

/-- The loop of CREATE only works on ids that were free. -/
theorem createLoop_stays {d : Db} {oid : UInt64}
    (hR : ∀ i, ¬ d.Has (bindInt64 pid) (bindInt64 i) → AdmitsObject R pid i) (n : Nat) {m : Nat}
    (h : Created d pid oid m s) (hmn : m + n < 2 ^ 64) :
    Ends (createLoop env pid oid n (oid + UInt64.ofNat m)) s (fun _ s' => R s s') := by
  induction n generalizing s m with
  | zero => exact ends_pure.2 (Stays.refl R s)
  | succ n ih =>
    let i := oid + UInt64.ofNat m
    have hundo : ∀ t, R s t → Ends (osdRemoveTmpObjects env pid (i - oid).toNat oid >>= fun _ =>
        pure (some i)) t (fun _ s' => R s s') := by
      intro t ht
      rw [show (i - oid).toNat = m from sub_ofNat_toNat (by omega)]
      have hback : Respects R (osdRemoveTmpObjects env pid m oid) :=
        osdRemoveTmpObjects_stays m fun k hk => hR _ (h.fresh k hk)
      exact ends_call (hback t) fun _ v hv => ends_pure.2 (Stays.trans s t v ht hv)
    refine ends_bind.2 (objInsert_ends (fun hfree => ?_) fun _ => ?_)
    · refine ends_ite_of (fun h => absurd rfl h) fun _ => ?_
      have hnew := h.insert hfree
      have hi := hR i (hnew.fresh m (Nat.lt_succ_self m))
      let t := s.setObj (s.db.obj ++ [userRow pid i])
      have hins : R s t := hi.insert s _
      refine ends_bind.2 (osdCreateDatafile_ends (fun _ _ => ?_) fun e => ?_)
      · refine ends_ite_of (fun h => absurd rfl h) fun _ => ?_
        have hc : Created d pid oid (m + 1) (t.setFile pid i (some [])) := { hnew with }
        rw [show i + 1 = oid + UInt64.ofNat (m + 1) by rw [UInt64.ofNat_add, ← UInt64.add_assoc]; rfl]
        refine (ih hc (by omega)).mono fun _ v hv => ?_
        exact Stays.trans s t v hins (Stays.trans t _ v (hi.file t _) hv)
      · refine ends_ite_of (fun _ => ?_) fun h => absurd (by simp) h
        refine ends_call (resp_objDelete hi t) fun _ v hv => hundo v (Stays.trans s t v hins hv)
    · exact ends_ite_of (fun _ => hundo s (Stays.refl R s)) fun h => absurd (by simp) h

theorem createFrom_stays {d : Db} {requested oid : UInt64} {numoid : UInt16} (hd : s.db = d)
    (hR : ∀ i, ¬ d.Has (bindInt64 pid) (bindInt64 i) → AdmitsObject R pid i) :
    Ends (createFrom env pid requested oid numoid) s (fun _ s' => R s s') := by
  have hlen : createCount oid (atLeastOne numoid) < 2 ^ 64 := by
    have h1 := createCount_le oid (atLeastOne numoid)
    have h2 := (atLeastOne numoid).toNat_lt
    omega
  have hloop : Ends (createLoop env pid oid (createCount oid (atLeastOne numoid)) (oid + UInt64.ofNat 0))
      s (fun _ s' => R s s') :=
    createLoop_stays hR _ (hd ▸ created_zero pid oid s) (by omega)
  rw [show UInt64.ofNat 0 = 0 from rfl, UInt64.add_zero] at hloop
  refine ends_call hloop fun r t ht => ?_
  cases r with
  | some i => exact ends_bind.2 (ends_modify.2 (ends_pure.2 (Stays.trans s t _ ht (Uncached.ic t _))))
  | none =>
    refine ends_bind.2 (ends_modify.2 (ends_bind.2 (ends_modify.2 (ends_pure.2 ?_))))
    refine Stays.trans s t _ ht (Stays.trans t _ _ (Uncached.ic t _)
      (Stays.same _ _ rfl rfl rfl rfl rfl rfl))

/-- **CREATE does nothing to an id that was in use.** -/
theorem osdCreate_stays {requested : UInt64} {numoid : UInt16}
    (hR : ∀ i, ¬ s.db.Has (bindInt64 pid) (bindInt64 i) → AdmitsObject R pid i) :
    Ends (osdCreate env pid requested numoid) s (fun _ s' => R s s') := by
  refine osdCreate_ends (fun _ ic _ _ => Uncached.ic s ic) fun oid ic _ _ _ _ => ?_
  exact (createFrom_stays (s := { s with ic }) rfl hR).mono
    fun _ v hv => Stays.trans s _ v (Uncached.ic s ic) hv

/-- CREATE AND WRITE works on ids that were not in use, and writes to a data file. -/
theorem osdCreateAndWrite_stays {oid : UInt64}
    (hR : ∀ i, ¬ s.db.Has (bindInt64 pid) (bindInt64 i) → AdmitsObject R pid i)
    (hf : AdmitsFile R pid oid) (len offset : UInt64) (data : Mem) (sglist : SgList) (ddt : UInt8) :
    Ends (osdCreateAndWrite env pid oid len offset data sglist ddt) s (fun _ s' => R s s') := by
  have hcreate : Ends (osdCreate env pid oid 1) s (fun _ t => R s t) := osdCreate_stays hR
  refine ends_call ((osdCreate_spec pid oid 1).and hcreate) fun ret t ⟨⟨_, hfree⟩, ht⟩ => ?_
  refine ends_ite_of (fun _ => ends_pure.2 ht) fun hok => ?_
  have hwrite : Ends (osdWrite env pid oid len offset data sglist ddt) t (fun _ v => R t v) :=
    resp_osdWrite hf len offset data sglist ddt t
  refine ends_call hwrite fun ret v hv => ?_
  have hsv : R s v := Stays.trans s t v ht hv
  dsimp only
  refine ends_ite_of (fun _ => ?_) fun _ => ends_pure.2 hsv
  by_cases hid : isUserobjectId pid oid = true
  · have hne : oid ≠ 0 := by
      rintro rfl
      exact absurd (isUserobjectId_le hid) (by decide)
    have hrem : Respects R (osdRemove env pid oid) :=
      resp_osdRemove (hR _ (hfree (Decidable.not_not.1 hok) hne))
    exact ends_call (hrem v) fun _ w hw => ends_pure.2 (Stays.trans s v w hsv hw)
  · refine ends_call (P := fun _ w => w = v) ?_ fun _ w hw => ends_pure.2 (hw ▸ hsv)
    exact ends_ite_of (fun _ => ends_pure.2 rfl) fun h => absurd (by simpa using hid) h

end Stays

/-! ## The frame -/

/-- Everything outside `K` is as it was: the rows, in their order, and the data files. -/
structure Beside (K : Int → Int → Prop) (s s' : Target) : Prop where
  obj : ∀ p : ObjRow → Bool, (∀ r, K r.pid r.oid → p r = false) → s'.db.obj.filter p = s.db.obj.filter p
  attr : ∀ p : AttrRow → Bool, (∀ r, K r.pid r.oid → p r = false) →
    s'.db.attr.filter p = s.db.attr.filter p
  coll : ∀ p : CollRow → Bool, (∀ r, K r.pid r.oid → p r = false) →
    s'.db.coll.filter p = s.db.coll.filter p
  files : ∀ p o, ¬ K (bindInt64 p) (bindInt64 o) → s'.files p o = s.files p o

namespace Beside

variable {K : Int → Int → Prop}

theorem of_eq (hdb : s'.db = s.db) (hf : s'.files = s.files) : Beside K s s' where
  obj _ _ := by rw [hdb]
  attr _ _ := by rw [hdb]
  coll _ _ := by rw [hdb]
  files _ _ _ := by rw [hf]

theorem trans (s t v : Target) (h : Beside K s t) (h' : Beside K t v) : Beside K s v where
  obj p hp := (h'.obj p hp).trans (h.obj p hp)
  attr p hp := (h'.attr p hp).trans (h.attr p hp)
  coll p hp := (h'.coll p hp).trans (h.coll p hp)
  files p o hk := (h'.files p o hk).trans (h.files p o hk)

instance : Uncached (Beside K) where
  same _ _ hdb _ hf _ _ _ := of_eq hdb hf
  trans := trans
  ic _ _ := of_eq rfl rfl

instance : Untransacted (Beside K) where
  txn _ _ _ := of_eq rfl rfl

theorem mono {K' : Int → Int → Prop} (h : Beside K s s') (hK : ∀ p o, K p o → K' p o) :
    Beside K' s s' where
  obj p hp := h.obj p fun r hr => hp r (hK _ _ hr)
  attr p hp := h.attr p fun r hr => hp r (hK _ _ hr)
  coll p hp := h.coll p fun r hr => hp r (hK _ _ hr)
  files p o hk := h.files p o fun hr => hk (hK _ _ hr)

theorem setFile {pid oid : UInt64} (hK : K (bindInt64 pid) (bindInt64 oid)) (s : Target)
    (c : Option (List UInt8)) : Beside K s (s.setFile pid oid c) := by
  refine { of_eq (s := s) rfl rfl with files := fun p o hk => ?_ }
  rw [Target.setFile_files, if_neg]
  rintro ⟨rfl, rfl⟩
  exact hk hK

theorem admits {r : AttrRow} (hK : K r.pid r.oid) : Admits (Beside K) r := by
  refine fun s => { of_eq (s := s) rfl rfl with attr := fun p hp => ?_ }
  refine filter_insertReplace fun x hx => hp x ?_
  simp only [AttrRow.key, Prod.mk.injEq] at hx
  rw [hx.1, hx.2.1]
  exact hK

theorem admitsDelete {k : Int × Int × Int × Int} (hK : K k.1 k.2.1) : AdmitsDelete (Beside K) k := by
  refine fun s => { of_eq (s := s) rfl rfl with attr := fun p hp => ?_ }
  refine filter_deleteWhere fun x hx => hp x ?_
  rwa [← hx] at hK

theorem admitsFile {pid oid : UInt64} (hK : K (bindInt64 pid) (bindInt64 oid)) :
    AdmitsFile (Beside K) pid oid :=
  fun s _ _ _ => setFile hK s _

theorem admitsObject {pid oid : UInt64} (hK : K (bindInt64 pid) (bindInt64 oid)) :
    AdmitsObject (Beside K) pid oid where
  insert s type := { of_eq (s := s) rfl rfl with
    obj := fun _ hp => filter_append_of_not (hp ⟨bindInt64 pid, bindInt64 oid, type⟩ hK) }
  delete s := { of_eq (s := s) rfl rfl with
    obj := fun _ hp => filter_deleteWhere fun x hx => hp x (hx.1 ▸ hx.2 ▸ hK) }
  attrs s := { of_eq (s := s) rfl rfl with
    attr := fun _ hp => filter_deleteWhere fun x hx => hp x (hx.1 ▸ hx.2 ▸ hK) }
  colls s := { of_eq (s := s) rfl rfl with
    coll := fun _ hp => filter_deleteWhere fun x hx => hp x (hx.1 ▸ hx.2 ▸ hK) }
  file s c := setFile hK s c

end Beside

/-- The rows of one object. -/
def Db.objAt (d : Db) (p o : Int) : List ObjRow := d.obj.filter fun r => r.pid = p ∧ r.oid = o
def Db.attrsAt (d : Db) (p o : Int) : List AttrRow := d.attr.filter fun r => r.pid = p ∧ r.oid = o
def Db.collsAt (d : Db) (p o : Int) : List CollRow := d.coll.filter fun r => r.pid = p ∧ r.oid = o

/-- A row of `K` is not that of an object outside. -/
theorem at_ne {K : Int → Int → Prop} {p o : Int} (hk : ¬ K p o) {q : Int × Int} (hK : K q.1 q.2) :
    decide (q.1 = p ∧ q.2 = o) = false := by
  refine decide_eq_false fun h => hk ?_
  rw [← h.1, ← h.2]
  exact hK

theorem Beside.objAt {K : Int → Int → Prop} (h : Beside K s s') {p o : Int} (hk : ¬ K p o) :
    s'.db.objAt p o = s.db.objAt p o := h.obj _ fun r hr => at_ne hk (q := (r.pid, r.oid)) hr

theorem Beside.attrsAt {K : Int → Int → Prop} (h : Beside K s s') {p o : Int} (hk : ¬ K p o) :
    s'.db.attrsAt p o = s.db.attrsAt p o := h.attr _ fun r hr => at_ne hk (q := (r.pid, r.oid)) hr

theorem Beside.collsAt {K : Int → Int → Prop} (h : Beside K s s') {p o : Int} (hk : ¬ K p o) :
    s'.db.collsAt p o = s.db.collsAt p o := h.coll _ fun r hr => at_ne hk (q := (r.pid, r.oid)) hr

end OsdTarget
