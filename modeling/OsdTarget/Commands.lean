import OsdTarget.CreateSpec

/-!
# What one command can do

`Op.effect` says, for each command, how the tables and the id cache after it are related to those
before.  Every invariant of the following modules is a case analysis over it.
-/

namespace OsdTarget

open Base

variable {env : Env} {s : Target}

/-! ## A fresh device -/

/-- The tables of a device that has just been initialised. -/
structure Initial (s : Target) : Prop where
  obj : s.db.obj = [⟨0, 0, .root⟩]
  attr : ∀ r ∈ s.db.attr, r.pid = 0 ∧ r.oid = 0
  coll : s.db.coll = []
  ic : s.ic = IdCache.zero
  files : ∀ p o, s.files p o = none
  rootFreed : s.rootFreed = false

theorem resp_setInitAttrs {K : Int → Int → Prop} (hK : K 0 0) (l : List (UInt32 × UInt32 × String)) :
    Respects (AttrStep K) (setInitAttrs env l) := by
  induction l with
  | nil => exact resp_pure _
  | cons x l ih =>
    exact resp_bind (resp_attrSetAttrRow (AttrStep.admits hK)) fun _ => respects_ite (resp_pure _) ih

/-- The root object is in, the cache and the current-command attributes are cleared. -/
def Target.withRoot (s : Target) : Target :=
  Target.setObj { s with ccap := Ccap.zero, ic := IdCache.zero } (s.db.obj ++ [⟨0, 0, .root⟩])

/-- Initialising ends with an empty id cache; from empty tables it inserts the root object and gives
it attributes. -/
theorem osdInitializeDb_spec : Ends (osdInitializeDb env) s (fun ret s' => s'.ic = IdCache.zero ∧
    (ret = .ok → AttrStep (fun p o => p = 0 ∧ o = 0) s.withRoot s')) := by
  refine ends_bind.2 (ends_modify.2 (ends_bind.2 (objInsert_ends (fun _ => ?_) fun _ => ?_)))
  · refine ends_ite_of (fun h => absurd rfl h) fun _ => ?_
    refine Ends.mono (Q := fun _ s' => AttrStep (fun p o => p = 0 ∧ o = 0) s.withRoot s') ?_
      fun ret s' h => ⟨h.ic, fun _ => h⟩
    have hK : (0 : Int) = 0 ∧ (0 : Int) = 0 := ⟨rfl, rfl⟩
    have hK' : bindInt64 ROOT_PID = 0 ∧ bindInt64 ROOT_OID = 0 := ⟨rfl, rfl⟩
    exact resp_bind (resp_setInitAttrs hK _) (fun _ => respects_ite (resp_pure _)
      (resp_bind (resp_setInitAttrs hK _) fun _ => respects_ite (resp_pure _)
        (resp_attrSetAttr (AttrStep.admits hK') fun _ => AttrStep.admitsFile _ _ _))) _
  · exact ends_ite_of (fun _ => ends_pure.2 ⟨rfl, nofun⟩) fun h => absurd (by simp) h

theorem Fresh.initial (h : Fresh s) : Initial s := by
  obtain ⟨env, h⟩ := h
  obtain ⟨hic, hok⟩ := osdInitializeDb_spec _ _ h
  have hs := hok rfl
  refine ⟨hs.obj, fun r hr => ?_, hs.coll, hic, fun p o => ?_, hs.rootFreed⟩
  · rcases hs.attr r hr with h | h
    · cases h
    · exact h
  · have hf := hs.files p o
    exact Option.isSome_eq_false_iff.1 hf |> Option.isNone_iff_eq_none.1

/-! ## FORMAT -/

/-- FORMAT leaves tables and cache alone, or ends with an empty cache. -/
theorem osdFormatOsd_spec :
    Ends (osdFormatOsd env) s (fun _ s' => s'.ic = IdCache.zero ∨ s'.db = s.db ∧ s'.ic = s.ic) := by
  have hreopen : ∀ t : Target, Ends (osdOpen env >>= fun ret =>
      if ret ≠ .ok then pure (senseBuildSdd OSD_SSK_HARDWARE_ERROR OSD_ASC_SYSTEM_RESOURCE_FAILURE 0 0)
      else setCcap Ccap.zero >>= fun _ => pure .ok) t (fun _ s' => s'.ic = IdCache.zero) := by
    intro t
    have hopen : Ends (osdOpen env) t (fun _ s' => s'.ic = IdCache.zero) := by
      refine ends_bind.2 (ends_get.2 (ends_bind.2 (ends_set.2 (ends_ite_of (fun _ => ?_) fun _ => ?_))))
      · exact ends_bind.2 (ends_modify.2 (ends_pure.2 rfl))
      · exact osdInitializeDb_spec.mono fun _ _ h => h.1
    refine ends_call hopen fun _ t' h => ends_ite_of (fun _ => ends_pure.2 h) fun _ => ?_
    exact ends_bind.2 (ends_modify.2 (ends_pure.2 h))
  refine ends_call (P := fun _ s' => s'.ic = IdCache.zero ∨ s'.db = s.db ∧ s'.ic = s.ic) ?_
    fun ret t h => ends_bind.2 (ends_modify.2 (ends_pure.2 h))
  refine ends_bind.2 (ends_get.2 (ends_ite_of (fun _ => ?_) fun _ => ?_))
  · exact (hreopen s).mono fun _ _ => .inl
  · split
    · exact ends_bind.2 (ends_set.2 (ends_pure.2 (.inr ⟨rfl, rfl⟩)))
    · exact ends_bind.2 (ends_set.2 (ends_pure.2 (.inr ⟨rfl, rfl⟩)))
    · exact ends_bind.2 (ends_set.2 (ends_pure.2 (.inr ⟨rfl, rfl⟩)))
    · exact ends_bind.2 (ends_set.2 ((hreopen _).mono fun _ _ => .inl))

/-! ## All commands -/

/-- What a command can do to the tables and the id cache. -/
def Op.effect (env : Env) (s s' : Target) : Op → Prop
  | .create pid requestedOid numoid => CreateStep pid requestedOid numoid s s'
  | .createAndWrite pid oid .. => CreateAndWriteStep env pid oid s s'
  | .createCollection pid requestedCid => CollectionStep env pid requestedCid none s s'
  | .createPartition requestedPid => PartitionStep requestedPid s s'
  | .createUserTrackingCollection pid requestedCid sourceCid _ =>
    CollectionStep env pid requestedCid (some sourceCid) s s'
  | .remove pid oid => s' = s ∨ isUserobjectId pid oid = true ∧
      Removes (bindInt64 pid) (bindInt64 oid)
        (fun r => r.pid = bindInt64 pid ∧ r.oid = bindInt64 oid) env.SomeDeleteFails s s'
  | .removeCollection pid cid fcr => RemovesCollection pid cid fcr s s'
  | .removePartition pid => RemovesPartition pid s s'
  | .write .. => AttrStep (fun _ _ => False) s s'
  | .setAttributes pid oid page _ val len _ => SetStep pid oid page val len s s'
  | .getattrList pid oid page .. => AttrStep (LazyRows s.db pid oid page) s s'
  | .getattrPage pid oid page .. => AttrStep (LazyRows s.db pid oid page) s s'
  | .setMemberAttributes pid cid setAttr => AttrStep (MemberAttrRows s.db pid cid setAttr) s s'
  | .cas pid oid .. => AttrStep (OwnRows s.db pid oid) s s'
  | .fa pid oid .. => AttrStep (OwnRows s.db pid oid) s s'
  | .genCas pid oid .. => AttrStep (OwnRows s.db pid oid) s s'
  | .formatOsd => s'.ic = IdCache.zero ∨ s'.db = s.db ∧ s'.ic = s.ic

/-- **Every command keeps to its description.** -/
theorem Op.exec_spec (op : Op) : Ends (op.exec env) s (fun _ s' => op.effect env s s') := by
  cases op with
  | create pid requestedOid numoid => exact (osdCreate_spec _ _ _).mono fun _ _ h => h.1
  | createAndWrite pid oid len offset data sglist ddt => exact osdCreateAndWrite_spec _ _ _ _ _ _ _
  | createCollection pid requestedCid => exact osdCreateCollection_spec _ _
  | createPartition requestedPid => exact osdCreatePartition_spec _
  | createUserTrackingCollection pid requestedCid sourceCid cdbContLen =>
    exact osdCreateUserTrackingCollection_spec _ _ _ _
  | remove pid oid =>
    refine (osdRemove_spec pid oid).mono fun _ s' h => ?_
    rcases h with ⟨-, h⟩ | ⟨hid, -, h⟩
    · exact .inl h
    · exact .inr ⟨hid, h⟩
  | removeCollection pid cid fcr => exact osdRemoveCollection_spec _ _ _
  | removePartition pid => exact osdRemovePartition_spec _
  | write pid oid len offset data sglist ddt =>
    exact resp_osdWrite (AttrStep.admitsFile _ _ _) _ _ _ _ _ s
  | setAttributes pid oid page number val len isembedded => exact osdSetAttributes_spec _ _ _ _ _ _ _
  | getattrList pid oid page number pos outlen isembedded listfmt =>
    exact ends_map.2 (osdGetattrList_stays lazyRows_admits)
  | getattrPage pid oid page pos outlen isembedded =>
    exact ends_map.2 (osdGetattrPage_stays lazyRows_admits)
  | setMemberAttributes pid cid setAttr => exact osdSetMemberAttributes_spec _ _ _
  | cas pid oid cmp swap pos => exact ends_map.2 (osdCas_stays fun hu _ _ => .admits ⟨rfl, rfl, hu.has⟩)
  | fa pid oid add pos => exact ends_map.2 (osdFa_stays fun hu _ _ => .admits ⟨rfl, rfl, hu.has⟩)
  | genCas pid oid page number cmp cmpLen swap swapLen =>
    exact ends_map.2 (osdGenCas_stays (fun hu _ _ _ _ => AttrStep.admits ⟨rfl, rfl, hu.has⟩ s)
      (fun _ => .admitsDelete _ _) fun _ => .admitsFile _ _ _)
  | formatOsd => exact osdFormatOsd_spec

/-! ## What happens to the object table -/

/-- Object rows that go are neither the root nor a partition in use; rows that come have a new key,
and are partitions or come into a partition. -/
structure ObjStep (s s' : Target) : Prop where
  gone : ∀ r ∈ s.db.obj, r ∈ s'.db.obj ∨ r.oid ≠ 0 ∨ r.pid ≠ 0 ∧ ¬ s.db.Holds r.pid
  new : ∀ r ∈ s'.db.obj, r ∈ s.db.obj ∨ ¬ s.db.Has r.pid r.oid ∧
    (r.type = .partition ∨ r.oid ≠ 0 ∧ s.db.Has r.pid 0)

theorem ObjStep.of_eq {s' : Target} (h : s'.db.obj = s.db.obj) : ObjStep s s' :=
  ⟨fun _ hr => .inl (h ▸ hr), fun _ hr => .inl (h ▸ hr)⟩

theorem bindInt64_ne_zero {x : UInt64} (h : OBJECT_OID_LB ≤ x) : bindInt64 x ≠ 0 := by
  intro h0
  have hx : x = 0 := bindInt64_inj.1 h0
  rw [hx] at h
  exact absurd h (by decide)

theorem Removes.objStep {s' : Target} {pid oid : Int} {cleared : CollRow → Prop} {why : Prop}
    (h : Removes pid oid cleared why s s') (hok : oid ≠ 0 ∨ pid ≠ 0 ∧ ¬ s.db.Holds pid) :
    ObjStep s s' := by
  obtain ⟨-, ho⟩ | ⟨ho, -, -⟩ := h.obj
  · exact .of_eq ho
  · refine ⟨fun r hr => ?_, fun r hr => .inl ?_⟩
    · by_cases hk : r.pid = pid ∧ r.oid = oid
      · exact .inr (by rwa [hk.1, hk.2])
      · exact .inl (ho ▸ mem_deleteWhere.2 ⟨hr, hk⟩)
    · rw [ho] at hr
      exact (mem_deleteWhere.1 hr).1

theorem CreateStep.objStep {s' : Target} {pid requested : UInt64} {numoid : UInt16}
    (h : CreateStep pid requested numoid s s') : ObjStep s s' := by
  cases h with
  | rejected hdb hic => exact .of_eq (by rw [hdb])
  | ran oid ic hpid hpart hone hpick hg hdone =>
    refine ⟨fun r hr => .inl (hg.keeps r hr), fun r hr => (hg.only r hr).imp_right ?_⟩
    rintro ⟨k, -, rfl, hfree⟩
    refine ⟨hfree, .inr ⟨fun h0 => hfree ?_, hpart⟩⟩
    have h0 : bindInt64 (oid + UInt64.ofNat k) = 0 := h0
    rwa [h0]

theorem CollectionStep.objStep {s' : Target} {pid requested : UInt64} {source : Option UInt64}
    (h : CollectionStep env pid requested source s s') : ObjStep s s' := by
  cases h with
  | rejected hdb hic => exact .of_eq (by rw [hdb])
  | ran cid hpid hpart hpick hattr hcoll hobj =>
    rcases hobj with ⟨hfree, ho⟩ | ⟨-, ho⟩
    · refine ⟨fun r hr => .inl (ho ▸ List.mem_append_left _ hr), fun r hr => ?_⟩
      rw [ho] at hr
      rcases List.mem_append.1 hr with hr | hr
      · exact .inl hr
      · rw [List.mem_singleton.1 hr]
        refine .inr ⟨hfree, .inr ⟨fun h0 => hfree ?_, hpart⟩⟩
        have h0 : bindInt64 cid = 0 := h0
        rwa [h0]
    · exact .of_eq ho

theorem PartitionStep.objStep {s' : Target} {requested : UInt64} (h : PartitionStep requested s s') :
    ObjStep s s' := by
  rcases h.obj with ho | ⟨-, hfree, ho⟩
  · exact .of_eq ho
  · refine ⟨fun r hr => .inl (ho ▸ List.mem_append_left _ hr), fun r hr => ?_⟩
    rw [ho] at hr
    rcases List.mem_append.1 hr with hr | hr
    · exact .inl hr
    · rw [List.mem_singleton.1 hr]
      exact .inr ⟨hfree, .inl rfl⟩

theorem Op.effect.objStep {s' : Target} {op : Op} (h : op.effect env s s') (hop : op ≠ .formatOsd) :
    ObjStep s s' := by
  cases op with
  | create => exact CreateStep.objStep h
  | createAndWrite pid oid =>
    rcases h with h | ⟨t, v, ht, hv, rfl | ⟨h, hlb, -⟩⟩
    · exact h.objStep
    · have hst := ht.objStep
      exact ⟨fun r hr => by rw [hv.obj]; exact hst.gone r hr,
        fun r hr => hst.new r (by rw [← hv.obj]; exact hr)⟩
    · have hst := ht.objStep
      have hne := bindInt64_ne_zero hlb
      -- rows of partitions survive both steps, and no row appears in the second
      have hkeep : ∀ r ∈ t.db.obj, r.oid = 0 → r ∈ s'.db.obj := by
        intro r hr h0
        rw [← hv.obj] at hr
        rcases h.obj with ⟨-, ho⟩ | ⟨ho, -, -⟩ <;> rw [ho]
        · exact hr
        · exact mem_deleteWhere.2 ⟨hr, fun hk => hne (hk.2.symm.trans h0)⟩
      have hsub : ∀ r ∈ s'.db.obj, r ∈ t.db.obj := by
        intro r hr
        rw [← hv.obj]
        rcases h.obj with ⟨-, ho⟩ | ⟨ho, -, -⟩ <;> rw [ho] at hr
        · exact hr
        · exact (mem_deleteWhere.1 hr).1
      refine ⟨fun r hr => ?_, fun r hr => hst.new r (hsub r hr)⟩
      by_cases h0 : r.oid = 0
      · exact (hst.gone r hr).imp_left fun h1 => hkeep r h1 h0
      · exact .inr (.inl h0)
  | createCollection => exact CollectionStep.objStep h
  | createPartition => exact PartitionStep.objStep h
  | createUserTrackingCollection => exact CollectionStep.objStep h
  | remove =>
    rcases h with rfl | ⟨hid, h⟩
    · exact .of_eq rfl
    · exact h.objStep (.inl (bindInt64_ne_zero (isUserobjectId_le hid)))
  | removeCollection =>
    rcases h with rfl | ⟨-, hlb, -, -, h⟩
    · exact .of_eq rfl
    · exact h.objStep (.inl (bindInt64_ne_zero hlb))
  | removePartition =>
    rcases h with rfl | ⟨hpid, hempty, -, h⟩
    · exact .of_eq rfl
    · refine h.objStep (.inr ⟨fun h0 => hpid ?_, hempty⟩)
      exact bindInt64_inj.1 (show _ = bindInt64 0 from h0)
  | write => exact .of_eq (AttrStep.toIdStep h).obj
  | setAttributes => exact .of_eq (SetStep.toIdStep h).obj
  | getattrList => exact .of_eq (AttrStep.toIdStep h).obj
  | getattrPage => exact .of_eq (AttrStep.toIdStep h).obj
  | setMemberAttributes => exact .of_eq (AttrStep.toIdStep h).obj
  | cas => exact .of_eq (AttrStep.toIdStep h).obj
  | fa => exact .of_eq (AttrStep.toIdStep h).obj
  | genCas => exact .of_eq (AttrStep.toIdStep h).obj
  | formatOsd => exact absurd rfl hop

/-- Only the root and partitions have the object id 0. -/
def ZeroRows (d : Db) : Prop := ∀ r ∈ d.obj, r.oid = 0 → r.type = .root ∨ r.type = .partition

theorem ZeroRows.step {s' : Target} (h : ZeroRows s.db) (hs : ObjStep s s') : ZeroRows s'.db := by
  intro r hr h0
  rcases hs.new r hr with hold | ⟨-, hp | ⟨hne, -⟩⟩
  · exact h r hold h0
  · exact .inr hp
  · exact absurd h0 hne

theorem Initial.zeroRows (h : Initial s) : ZeroRows s.db := by
  intro r hr _
  rw [h.obj] at hr
  rw [List.mem_singleton.1 hr]
  exact .inl rfl

/-! ## Runs -/

/-- **The invariant rule over commands**: what every effect permitted by the guard keeps holds in
every reachable state. -/
theorem Reachable.of_effect {G : Step → Target → Target → Prop} {I : Target → Prop}
    (h0 : ∀ s, Initial s → I s)
    (hs : ∀ (env : Env) (op : Op) s s', I s → op.effect env s s' → G ⟨env, op⟩ s s' → I s')
    (h : Reachable G s) : I s :=
  h.invariant (fun s hs => h0 s hs.initial)
    fun env op s hi => op.exec_spec.mono fun _ s' he hg => hs env op s s' hi he hg

end OsdTarget
