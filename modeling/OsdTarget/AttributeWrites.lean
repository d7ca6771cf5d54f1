import OsdTarget.Footprint
import OsdTarget.AttributeOwners

/-!
# Which attributes a command writes

For every command the attribute rows it may store, `Op.Stores`, and the keys it may store or delete
under, `Op.Overwrites`.  All other rows of the table stay as they are, and no row comes but those.
-/

namespace OsdTarget

open Base

variable {env : Env} {s s' : Target}

/-! ## The relation -/

/-- The rows with one key. -/
def Db.attrAt (d : Db) (k : Int × Int × Int × Int) : List AttrRow := d.attr.filter fun r => r.key = k

/-- Rows with a key outside `D` are as they were, and a row that came satisfies `V`. -/
structure Rewrites (D : Int × Int × Int × Int → Prop) (V : AttrRow → Prop) (s s' : Target) : Prop where
  new : ∀ r ∈ s'.db.attr, r ∈ s.db.attr ∨ V r
  kept : ∀ k, ¬ D k → s'.db.attrAt k = s.db.attrAt k

namespace Rewrites

variable {D : Int × Int × Int × Int → Prop} {V : AttrRow → Prop}

theorem of_eq (h : s'.db.attr = s.db.attr) : Rewrites D V s s' where
  new _ hr := .inl (h ▸ hr)
  kept _ _ := by rw [Db.attrAt, h]; rfl

theorem trans (s t v : Target) (h : Rewrites D V s t) (h' : Rewrites D V t v) : Rewrites D V s v where
  new r hr := (h'.new r hr).elim (h.new r) .inr
  kept k hk := (h'.kept k hk).trans (h.kept k hk)

instance : Uncached (Rewrites D V) where
  same _ _ hdb _ _ _ _ _ := of_eq (by rw [hdb])
  trans := trans
  ic _ _ := of_eq rfl

instance : Untransacted (Rewrites D V) where
  txn _ _ _ := of_eq rfl

theorem weaken {D' : Int × Int × Int × Int → Prop} {V' : AttrRow → Prop} (h : Rewrites D V s s')
    (hD : ∀ k, D k → D' k) (hV : ∀ r, V r → V' r) : Rewrites D' V' s s' where
  new r hr := (h.new r hr).imp_right (hV r)
  kept k hk := h.kept k fun hd => hk (hD k hd)

theorem admits {r : AttrRow} (hD : D r.key) (hV : V r) : Admits (Rewrites D V) r := by
  refine fun s => ⟨fun x hx => ?_, fun k hk => ?_⟩
  · refine (mem_insertReplace.1 hx).imp And.left ?_
    rintro rfl
    exact hV
  · refine filter_insertReplace fun x hx => decide_eq_false fun h => hk ?_
    rw [← h, hx]
    exact hD

theorem admitsDelete {k : Int × Int × Int × Int} (hD : D k) : AdmitsDelete (Rewrites D V) k := by
  refine fun s => ⟨fun x hx => .inl (mem_deleteWhere.1 hx).1, fun k' hk => ?_⟩
  refine filter_deleteWhere fun x hx => decide_eq_false fun h => hk ?_
  rw [← h, hx]
  exact hD

theorem admitsFile (pid oid : UInt64) : AdmitsFile (Rewrites D V) pid oid :=
  fun _ _ _ _ => of_eq rfl

theorem deleteObject {p o : Int} (hD : ∀ k, k.1 = p ∧ k.2.1 = o → D k) (s : Target) :
    Rewrites D V s (s.setAttr (deleteWhere (fun r => r.pid = p ∧ r.oid = o) s.db.attr)) := by
  refine ⟨fun x hx => .inl (mem_deleteWhere.1 hx).1, fun k hk => ?_⟩
  refine filter_deleteWhere fun x hx => decide_eq_false fun h => hk (hD k ?_)
  rw [← h]
  exact hx

theorem admitsObject {pid oid : UInt64} (hD : ∀ k, k.1 = bindInt64 pid ∧ k.2.1 = bindInt64 oid → D k) :
    AdmitsObject (Rewrites D V) pid oid where
  insert _ _ := of_eq rfl
  delete _ := of_eq rfl
  attrs s := deleteObject hD s
  colls _ := of_eq rfl
  file _ _ := of_eq rfl

theorem bulk {rows : List AttrRow} (hD : ∀ r ∈ rows, D r.key)
    (hV : ∀ l₁ r l₂, rows = l₁ ++ r :: l₂ → (∀ y ∈ l₂, y.key ≠ r.key) → V r) (s : Target) :
    Rewrites D V s (s.withAttrs rows) := by
  refine ⟨fun x hx => ?_, fun k hk => ?_⟩
  · rcases mem_foldl_insertReplace_iff.1 hx with h | ⟨l₁, l₂, he, hl⟩
    · exact .inl h.1
    · exact .inr (hV l₁ x l₂ he hl)
  · show List.filter _ (rows.foldl _ s.db.attr) = List.filter _ s.db.attr
    generalize s.db.attr = t
    clear hV
    induction rows generalizing t with
    | nil => rfl
    | cons r rows ih =>
      rw [List.foldl_cons, ih fun x hx => hD x (List.mem_cons_of_mem _ hx)]
      refine filter_insertReplace fun x hx => decide_eq_false fun h => hk ?_
      rw [← h, hx]
      exact hD r List.mem_cons_self

end Rewrites

/-! ## Commands -/

/-- The row is the last of these with its key. -/
def IsLast (rows : List AttrRow) (r : AttrRow) : Prop :=
  ∃ l₁ l₂, rows = l₁ ++ r :: l₂ ∧ ∀ y ∈ l₂, y.key ≠ r.key

/-- The object is a present user object. -/
def Db.HasUser (d : Db) (pid oid : UInt64) : Prop :=
  d.HasType (bindInt64 pid) (bindInt64 oid) .userobject

/-- The keys of objects of the partition that do not exist. -/
def FreshKey (d : Db) (pid : UInt64) (k : Int × Int × Int × Int) : Prop :=
  k.1 = bindInt64 pid ∧ ¬ d.Has k.1 k.2.1

/-- The attribute rows a command may store. -/
def Op.Stores (s : Target) (r : AttrRow) : Op → Prop
  | .setAttributes pid oid page number val len _ =>
    r = storedRow pid oid page number val len ∧ page ≠ USER_COLL_PG ∧
      s.StoresRow page number len ∧ (IsPlainPage page → len ≠ 0) ∧
      ∃ type, SetChecks s.db pid oid page number val len type
  | .getattrList pid oid page .. => page = GETALLATTR_PG ∧ r ∈ lazyAttrs pid oid
  | .getattrPage pid oid page .. => page = GETALLATTR_PG ∧ r ∈ lazyAttrs pid oid
  | .setMemberAttributes pid cid setAttr =>
    (s.db.HasType (bindInt64 pid) (bindInt64 cid) .collection ∧ setAttr ≠ [] ∧
      ∀ e ∈ setAttr, issettablePage .userobject e.page = true) ∧
      IsLast (bulkRows s.db pid cid setAttr) r
  | .cas pid oid .. => s.db.HasUser pid oid ∧
    ∃ value : List UInt8, value.length = 8 ∧ r = attrRow pid oid USER_ATOMICS_PG UAP_CAS value
  | .fa pid oid .. => s.db.HasUser pid oid ∧
    ∃ value : List UInt8, value.length = 8 ∧ r = attrRow pid oid USER_ATOMICS_PG UAP_FA value
  | .genCas pid oid page number cmp cmpLen swap swapLen =>
    (s.db.HasUser pid oid ∧ swapLen ≠ 0 ∧ swap.isSome = true ∧
      GenCasSwaps s.db (attrRow pid oid page number []).key cmp cmpLen ∧ s.StoresRow page number swapLen) ∧
      r = storedRow pid oid page number swap swapLen
  | .formatOsd => r.pid = 0 ∧ r.oid = 0
  | _ => False

/-- The keys under which a command may store or delete. -/
def Op.Overwrites (s : Target) (k : Int × Int × Int × Int) : Op → Prop
  | .create pid .. => FreshKey s.db pid k
  | .createAndWrite pid .. => FreshKey s.db pid k
  | .remove pid oid => k.1 = bindInt64 pid ∧ k.2.1 = bindInt64 oid
  | .removeCollection pid cid _ => k.1 = bindInt64 pid ∧ k.2.1 = bindInt64 cid
  | .removePartition pid => k.1 = bindInt64 pid ∧ k.2.1 = bindInt64 PARTITION_OID
  | .setAttributes pid oid page number .. => k = (attrRow pid oid page number []).key
  | .getattrList pid oid page .. => page = GETALLATTR_PG ∧ ∃ r ∈ lazyAttrs pid oid, r.key = k
  | .getattrPage pid oid page .. => page = GETALLATTR_PG ∧ ∃ r ∈ lazyAttrs pid oid, r.key = k
  | .setMemberAttributes pid cid setAttr => ∃ r ∈ bulkRows s.db pid cid setAttr, r.key = k
  | .cas pid oid .. => k = (attrRow pid oid USER_ATOMICS_PG UAP_CAS []).key
  | .fa pid oid .. => k = (attrRow pid oid USER_ATOMICS_PG UAP_FA []).key
  | .genCas pid oid page number .. => k = (attrRow pid oid page number []).key
  | .formatOsd => True
  | _ => False

theorem lazyAttrs_admits {pid oid : UInt64} {page : UInt32} (hpage : page = GETALLATTR_PG)
    (r : AttrRow) (hr : r ∈ lazyAttrs pid oid) :
    Admits (Rewrites (fun k => page = GETALLATTR_PG ∧ ∃ r ∈ lazyAttrs pid oid, r.key = k)
      (fun r => page = GETALLATTR_PG ∧ r ∈ lazyAttrs pid oid)) r :=
  Rewrites.admits ⟨hpage, r, hr, rfl⟩ ⟨hpage, hr⟩

theorem freshKey_admits {d : Db} {pid i : UInt64} (hi : ¬ d.Has (bindInt64 pid) (bindInt64 i)) :
    AdmitsObject (Rewrites (FreshKey d pid) fun _ => False) pid i :=
  Rewrites.admitsObject fun k hk => ⟨hk.1, by rwa [hk.1, hk.2]⟩

theorem osdRemoveCollection_rewrites (pid cid : UInt64) (fcr : UInt8) :
    Respects (Rewrites (fun k => k.1 = bindInt64 pid ∧ k.2.1 = bindInt64 cid) fun _ => False)
      (osdRemoveCollection env pid cid fcr) := by
  let R := Rewrites (fun k => k.1 = bindInt64 pid ∧ k.2.1 = bindInt64 cid) fun _ => False
  have hadm : AdmitsObject R pid cid := Rewrites.admitsObject fun _ => id
  have hcoll : Respects R (collDeleteCid env pid cid) :=
    fun s => collDeleteCid_ends (Rewrites.of_eq rfl) fun _ => Stays.refl R s
  have hend : Respects R (attrDeleteAll env pid cid >>= fun ret =>
      if ret ≠ .ok then pure (hwErr pid cid) else
      objDelete env pid cid >>= fun ret => if ret ≠ .ok then pure (hwErr pid cid) else
        setCcap (fillCcap .collection pid cid 0) >>= fun _ => pure .ok) :=
    resp_bind (resp_attrDeleteAll hadm) fun _ => respects_ite (resp_pure _)
      (resp_bind (resp_objDelete hadm) fun _ => respects_ite (resp_pure _)
        (resp_bind (resp_setCcap _) fun _ => resp_pure _))
  refine respects_ite (resp_pure _) (respects_ite (resp_pure _) (resp_bind resp_query fun r =>
    respects_ite (resp_pure _) (resp_bind resp_invalidateCache fun _ => resp_bind resp_query fun e =>
      respects_ite (resp_pure _) ?_)))
  exact respects_ite (respects_ite (resp_pure _) (resp_bind hcoll fun _ =>
    respects_ite (resp_pure _) hend)) hend

theorem osdRemovePartition_rewrites (pid : UInt64) :
    Respects (Rewrites (fun k => k.1 = bindInt64 pid ∧ k.2.1 = bindInt64 PARTITION_OID) fun _ => False)
      (osdRemovePartition env pid) := by
  have hadm : AdmitsObject (Rewrites (fun k => k.1 = bindInt64 pid ∧ k.2.1 = bindInt64 PARTITION_OID)
      fun _ => False) pid PARTITION_OID := Rewrites.admitsObject fun _ => id
  exact respects_ite (resp_pure _) (resp_bind resp_query fun _ => respects_ite (resp_pure _)
    (resp_bind resp_invalidateCache fun _ => resp_bind (resp_attrDeleteAll hadm) fun _ =>
      respects_ite (resp_pure _) (resp_bind (resp_objDelete hadm) fun _ => respects_ite (resp_pure _)
        (resp_bind (resp_setCcap _) fun _ => resp_pure _))))

/-- FORMAT leaves the tables alone, or with nothing but the root object in them. -/
theorem osdFormatOsd_tables : Ends (osdFormatOsd env) s (fun _ s' => s'.db = s.db ∨
    (∀ r ∈ s'.db.obj, r = ⟨0, 0, .root⟩) ∧ ∀ r ∈ s'.db.attr, r.pid = 0 ∧ r.oid = 0 ∧ s'.db.Has 0 0) := by
  let P (t : Target) : Prop := (∀ r ∈ t.db.obj, r = ⟨0, 0, .root⟩) ∧
    ∀ r ∈ t.db.attr, r.pid = 0 ∧ r.oid = 0 ∧ t.db.Has 0 0
  have hinit : ∀ t : Target, t.db = ⟨[], [], []⟩ → Ends (osdInitializeDb env) t (fun _ t' => P t') := by
    intro t ht
    refine ends_bind.2 (ends_modify.2 (ends_bind.2 (objInsert_ends (fun _ => ?_) fun _ => ?_)))
    · refine ends_ite_of (fun h => absurd rfl h) fun _ => ?_
      have hK : (0 : Int) = 0 ∧ (0 : Int) = 0 := ⟨rfl, rfl⟩
      have hall : Respects (AttrStep fun p o => p = 0 ∧ o = 0) (setInitAttrs env rootInfo >>= fun ret =>
          if ret ≠ .ok then pure ret else setInitAttrs env partitionInfo >>= fun ret =>
            if ret ≠ .ok then pure ret else
              attrSetAttr env ROOT_PID ROOT_OID (PARTITION_PG + 1) 1 (some (hostVal env 0)) 8) :=
        resp_bind (resp_setInitAttrs hK _) fun _ => respects_ite (resp_pure _)
          (resp_bind (resp_setInitAttrs hK _) fun _ => respects_ite (resp_pure _)
            (resp_attrSetAttr (AttrStep.admits ⟨rfl, rfl⟩) fun _ => AttrStep.admitsFile _ _ _))
      refine (hall _).mono fun _ v hv => ?_
      have hobj : v.db.obj = [⟨0, 0, .root⟩] := by
        rw [hv.obj]
        show t.db.obj ++ [_] = _
        rw [ht]
        rfl
      refine ⟨fun r hr => by simpa [hobj] using hr, fun r hr => ?_⟩
      have hhas : v.db.Has 0 0 := ⟨_, by rw [hobj]; exact List.mem_singleton.2 rfl, rfl, rfl⟩
      rcases hv.attr r hr with h | ⟨hp, ho⟩
      · have h : r ∈ t.db.attr := h
        rw [ht] at h
        cases h
      · exact ⟨hp, ho, hhas⟩
    · refine ends_ite_of (fun _ => ends_pure.2 ?_) fun h => absurd (by simp) h
      show P { t with ccap := Ccap.zero, ic := IdCache.zero }
      constructor <;> intro r hr <;> simp [ht] at hr
  have hreopen : ∀ t : Target, Ends (osdOpen env >>= fun ret =>
      if ret ≠ .ok then pure (senseBuildSdd OSD_SSK_HARDWARE_ERROR OSD_ASC_SYSTEM_RESOURCE_FAILURE 0 0)
      else setCcap Ccap.zero >>= fun _ => pure .ok) t (fun _ t' => P t') := by
    intro t
    have hopen : Ends (osdOpen env) t (fun _ t' => P t') := by
      refine ends_bind.2 (ends_get.2 (ends_bind.2 (ends_set.2 (ends_ite_of (fun _ => ?_) fun _ => ?_))))
      · refine ends_bind.2 (ends_modify.2 (ends_pure.2 ⟨fun r hr => ?_, fun r hr => ?_⟩)) <;> cases hr
      · exact hinit _ rfl
    refine ends_call hopen fun _ v hv => ends_ite_of (fun _ => ends_pure.2 hv) fun _ => ?_
    exact ends_bind.2 (ends_modify.2 (ends_pure.2 hv))
  refine ends_call (P := fun _ t => t.db = s.db ∨ P t) ?_
    fun ret t h => ends_bind.2 (ends_modify.2 (ends_pure.2 h))
  refine ends_bind.2 (ends_get.2 (ends_ite_of (fun _ => (hreopen s).mono fun _ _ => .inr) fun _ => ?_))
  split
  · exact ends_bind.2 (ends_set.2 (ends_pure.2 (.inl rfl)))
  · exact ends_bind.2 (ends_set.2 (ends_pure.2 (.inl rfl)))
  · exact ends_bind.2 (ends_set.2 (ends_pure.2 (.inl rfl)))
  · exact ends_bind.2 (ends_set.2 ((hreopen _).mono fun _ _ => .inr))

/-- **Every command writes only the attributes it is said to write.** -/
theorem Op.exec_rewrites (op : Op) : Ends (op.exec env) s
    (fun _ s' => Rewrites (fun k => op.Overwrites s k) (fun r => op.Stores s r) s s') := by
  have hnone : ∀ {m : OsdM Ret}, Ends m s (fun _ s' => s'.db.attr = s.db.attr) →
      Ends m s (fun _ s' => Rewrites (fun k => op.Overwrites s k) (fun r => op.Stores s r) s s') :=
    fun h => h.mono fun _ _ => Rewrites.of_eq
  cases op with
  | create pid requestedOid numoid => exact osdCreate_stays fun i hi => freshKey_admits hi
  | createAndWrite pid oid len offset data sglist ddt =>
    exact osdCreateAndWrite_stays (fun i hi => freshKey_admits hi) (Rewrites.admitsFile pid oid) len offset
      data sglist ddt
  | createCollection pid requestedCid =>
    exact hnone ((osdCreateCollection_spec _ _).mono fun _ _ h => h.keeps.2)
  | createPartition requestedPid => exact hnone ((osdCreatePartition_spec _).mono fun _ _ h => h.attr)
  | createUserTrackingCollection pid requestedCid sourceCid cdbContLen =>
    exact hnone ((osdCreateUserTrackingCollection_spec _ _ _ _).mono fun _ _ h => h.keeps.2)
  | remove pid oid => exact resp_osdRemove (Rewrites.admitsObject fun _ => id) s
  | removeCollection pid cid fcr => exact osdRemoveCollection_rewrites _ _ _ s
  | removePartition pid => exact osdRemovePartition_rewrites _ s
  | write pid oid len offset data sglist ddt =>
    exact resp_osdWrite (Rewrites.admitsFile _ _) _ _ _ _ _ s
  | setAttributes pid oid page number val len isembedded =>
    refine osdSetAttributes_stores.mono fun ret s' h => ?_
    rcases h with ⟨-, rfl⟩ | ⟨-, type, t, c, hc, hst, rfl⟩
    · exact .of_eq rfl
    have hcc : Rewrites (fun k => (Op.setAttributes pid oid page number val len isembedded).Overwrites s k)
        (fun r => (Op.setAttributes pid oid page number val len isembedded).Stores s r) t
        { t with ccap := c } := .of_eq rfl
    refine .trans s t _ ?_ hcc
    cases hst with
    | row hpage hrow hlen =>
      refine (?_ : Admits (Rewrites _ _) _) s
      exact Rewrites.admits rfl ⟨rfl, hpage, hrow, hlen, type, hc⟩
    | deleted =>
      refine (?_ : AdmitsDelete (Rewrites _ _) _) s
      exact Rewrites.admitsDelete rfl
    | resized => exact .of_eq rfl
    | ignored => exact .of_eq rfl
    | pointed => exact .of_eq rfl
    | unpointed => exact .of_eq rfl
  | getattrList pid oid page number pos outlen isembedded listfmt =>
    exact ends_map.2 (osdGetattrList_stays fun hpage _ => lazyAttrs_admits hpage)
  | getattrPage pid oid page pos outlen isembedded =>
    exact ends_map.2 (osdGetattrPage_stays fun hpage _ => lazyAttrs_admits hpage)
  | setMemberAttributes pid cid setAttr =>
    refine osdSetMemberAttributes_stays fun hcoll hnil hpages t ht => ?_
    exact Rewrites.bulk (fun r hr => ⟨r, hr, rfl⟩)
      (fun l₁ r l₂ he hl => ⟨⟨hcoll, hnil, hpages⟩, l₁, l₂, he, hl⟩) t
  | cas pid oid cmp swap pos =>
    exact ends_map.2 (osdCas_stays fun hu value hv => Rewrites.admits rfl ⟨hu, value, hv, rfl⟩)
  | fa pid oid add pos =>
    exact ends_map.2 (osdFa_stays fun hu value hv => Rewrites.admits rfl ⟨hu, value, hv, rfl⟩)
  | genCas pid oid page number cmp cmpLen swap swapLen =>
    refine ends_map.2 (osdGenCas_stays (fun hu hlen hsome hswaps hrow => ?_)
      (fun _ => Rewrites.admitsDelete rfl) fun _ => Rewrites.admitsFile _ _)
    refine (?_ : Admits (Rewrites _ _) _) s
    exact Rewrites.admits rfl ⟨⟨hu, hlen, hsome, hswaps, hrow⟩, rfl⟩
  | formatOsd =>
    refine osdFormatOsd_tables.mono fun _ s' h => ⟨fun r hr => ?_, fun k hk => absurd trivial hk⟩
    rcases h with h | ⟨-, h⟩
    · exact .inl (h ▸ hr)
    · exact .inr ⟨(h r hr).1, (h r hr).2.1⟩

end OsdTarget
