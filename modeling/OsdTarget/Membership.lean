import OsdTarget.Commands

/-!
# Memberships

A row of the `coll` table says that an object is a member of a collection.  The comments of `coll.c`
and the checks of `osd_set_member_attributes` and `osd_cas` take the one to be a user object and the
other a collection, but `osd_remove`, `osd_remove_collection` and `set_cap` test no types.  Objects and
collections share one range of ids, so an id of the other kind slips through and leaves rows that
refer to nothing.  Runs that never do that keep the references intact.
-/

namespace OsdTarget

open Base

variable {env : Env} {s s' : Target}

/-! ## The invariant -/

/-- The row names a collection that is present and a user object that is present. -/
def RefOk (d : Db) (m : CollRow) : Prop :=
  d.HasType m.pid m.cid .collection ∧ d.HasType m.pid m.oid .userobject

instance (d : Db) (m : CollRow) : Decidable (RefOk d m) :=
  inferInstanceAs (Decidable (d.HasType m.pid m.cid .collection ∧ d.HasType m.pid m.oid .userobject))

structure Members (s : Target) : Prop where
  zero : ZeroRows s.db
  refs : ∀ m ∈ s.db.coll, RefOk s.db m

/-- The pointer a SET ATTRIBUTES stores names a collection, if it names anything. -/
def PointsToCollection (d : Db) (pid oid : UInt64) (page : UInt32) (len : UInt16) (val : Option Mem) :
    Prop :=
  ∀ m, val = some m → page = USER_COLL_PG → len = 8 →
    d.HasType (bindInt64 pid) (bindInt64 oid) .userobject →
    d.Has (bindInt64 pid) (bindInt64 (getNtohll m 0)) →
    d.HasType (bindInt64 pid) (bindInt64 (getNtohll m 0)) .collection

/-- The command treats no id as being of the other kind. -/
def Op.RespectsTypes (s : Target) : Op → Prop
  | .remove pid oid => ¬ s.db.HasMembers (bindInt64 pid) (bindInt64 oid)
  | .removeCollection pid cid _ => ∀ m ∈ s.db.coll, ¬ (m.pid = bindInt64 pid ∧ m.oid = bindInt64 cid)
  | .setAttributes pid oid page _ val len _ => PointsToCollection s.db pid oid page len val
  | .createUserTrackingCollection pid requestedCid sourceCid _ =>
    requestedCid = 0 → sourceCid ≠ 0 →
      ¬ s.db.Has (bindInt64 pid) (bindInt64 (s.chosen pid COLLECTION_OID_LB))
  | .formatOsd => False
  | _ => True

/-! ## Steps -/

theorem RefOk.mono {d d' : Db} {m : CollRow} (h : RefOk d m) (hd : ∀ r ∈ d.obj, r ∈ d'.obj) :
    RefOk d' m :=
  ⟨hd _ h.1, hd _ h.2⟩

/-- Objects came, memberships at most went. -/
theorem Members.refs_grow (h : Members s) (hobj : ∀ r ∈ s.db.obj, r ∈ s'.db.obj)
    (hcoll : ∀ m ∈ s'.db.coll, m ∈ s.db.coll) : ∀ m ∈ s'.db.coll, RefOk s'.db m :=
  fun m hm => (h.refs m (hcoll m hm)).mono hobj

/-- An object went to which no remaining membership refers. -/
theorem Members.refs_removes (h : Members s) {pid oid : Int} {cleared : CollRow → Prop} {why : Prop}
    (hs : Removes pid oid cleared why s s')
    (hcid : ∀ m ∈ s.db.coll, ¬ cleared m → ¬ (m.pid = pid ∧ m.cid = oid))
    (hoid : ∀ m ∈ s.db.coll, ¬ cleared m → ¬ (m.pid = pid ∧ m.oid = oid)) :
    ∀ m ∈ s'.db.coll, RefOk s'.db m := by
  intro m hm
  have hold := hs.coll m hm
  obtain ⟨h1, h2⟩ := h.refs m hold
  rcases hs.obj with ⟨-, ho⟩ | ⟨ho, -, hcl⟩
  · exact RefOk.mono ⟨h1, h2⟩ fun r hr => ho ▸ hr
  · have hkeep : ∀ r ∈ s.db.obj, ¬ (r.pid = pid ∧ r.oid = oid) → r ∈ s'.db.obj := by
      intro r hr hk
      rw [ho]
      exact mem_deleteWhere.2 ⟨hr, hk⟩
    exact ⟨hkeep _ h1 (hcid m hold (hcl m hm)), hkeep _ h2 (hoid m hold (hcl m hm))⟩

theorem CreateStep.keeps {pid requested : UInt64} {numoid : UInt16}
    (hs : CreateStep pid requested numoid s s') :
    (∀ r ∈ s.db.obj, r ∈ s'.db.obj) ∧ (∀ m ∈ s'.db.coll, m ∈ s.db.coll) ∧
      ∀ r ∈ s'.db.attr, r ∈ s.db.attr := by
  cases hs with
  | rejected hdb hic =>
    rw [hdb]
    exact ⟨fun _ => id, fun _ => id, fun _ => id⟩
  | ran oid ic hpid hpart hone hpick hg hdone => exact ⟨hg.keeps, hg.coll, hg.attr⟩

theorem CollectionStep.keeps {pid requested : UInt64} {source : Option UInt64}
    (hs : CollectionStep env pid requested source s s') :
    (∀ r ∈ s.db.obj, r ∈ s'.db.obj) ∧ s'.db.attr = s.db.attr := by
  cases hs with
  | rejected hdb hic =>
    rw [hdb]
    exact ⟨fun _ => id, rfl⟩
  | ran cid hpid hpart hpick hattr hcoll hobj =>
    refine ⟨fun r hr => ?_, hattr⟩
    rcases hobj with ⟨-, ho⟩ | ⟨-, ho⟩ <;> rw [ho]
    · exact List.mem_append_left _ hr
    · exact hr

/-- Copied memberships refer to the members of the source and to the new collection. -/
theorem Members.refs_createCollection (h : Members s) (henv : env.InsertsCollections)
    {pid requested : UInt64} {source : Option UInt64}
    (hs : CollectionStep env pid requested source s s')
    (hfresh : ∀ src, source = some src → requested = 0 → src ≠ 0 →
      ¬ s.db.Has (bindInt64 pid) (bindInt64 (s.chosen pid COLLECTION_OID_LB))) :
    ∀ m ∈ s'.db.coll, RefOk s'.db m := by
  have hkeep := hs.keeps.1
  cases hs with
  | rejected hdb hic =>
    rw [hdb]
    exact h.refs
  | ran cid hpid hpart hpick hattr hcoll hobj =>
    intro m hm
    rcases hcoll m hm with hold | ⟨src, hsrc, hne, hp, hc, x, hx, hxp, -, hxo⟩
    · exact (h.refs m hold).mono hkeep
    · have hfree : ¬ s.db.Has (bindInt64 pid) (bindInt64 cid) := by
        rcases hpick with ⟨h0, rfl, -⟩ | ⟨-, -, -, hfree, -⟩
        · exact hfresh src hsrc h0 hne
        · exact hfree
      have hnew : collectionRow pid cid ∈ s'.db.obj := by
        rcases hobj with ⟨-, ho⟩ | ⟨⟨d, hd⟩ | hhas, -⟩
        · rw [ho]
          exact List.mem_append_right _ (List.mem_singleton.2 rfl)
        · rw [henv _ d rfl] at hd
          cases hd
        · exact absurd hhas hfree
      have hmember := hkeep _ (h.refs x hx).2
      rw [hxp, hxo] at hmember
      refine ⟨?_, ?_⟩
      · rw [Db.HasType, hp, hc]
        exact hnew
      · rw [Db.HasType, hp]
        exact hmember

theorem Members.refs_set (h : Members s) {pid oid : UInt64} {page : UInt32} {val : Option Mem}
    {len : UInt16} (hs : SetStep pid oid page val len s s')
    (hptr : PointsToCollection s.db pid oid page len val) : ∀ m ∈ s'.db.coll, RefOk s'.db m := by
  have hobj : ∀ r ∈ s.db.obj, r ∈ s'.db.obj := fun r hr => hs.obj ▸ hr
  intro r hr
  rcases hs.coll r hr with hold | ⟨hpage, huser, m, hval, hlen, hhas, hp, hc, ho⟩
  · exact (h.refs r hold).mono hobj
  · refine ⟨?_, ?_⟩
    · rw [Db.HasType, hp, hc]
      exact hobj _ (hptr m hval hpage hlen huser hhas)
    · rw [Db.HasType, hp, ho]
      exact hobj _ huser

theorem Members.refs_idStep (h : Members s) (hobj : s'.db.obj = s.db.obj) (hcoll : s'.db.coll = s.db.coll) :
    ∀ m ∈ s'.db.coll, RefOk s'.db m :=
  h.refs_grow (fun _ hr => hobj ▸ hr) fun _ hm => hcoll ▸ hm

/-- **A command that respects the types keeps the references.** -/
theorem Members.step (h : Members s) (henv : env.InsertsCollections) {op : Op}
    (hop : op.RespectsTypes s) (hs : op.effect env s s') : Members s' := by
  have hne : op ≠ .formatOsd := by
    rintro rfl
    exact hop
  refine ⟨h.zero.step (hs.objStep hne), ?_⟩
  have hattr : ∀ {K}, AttrStep K s s' → ∀ m ∈ s'.db.coll, RefOk s'.db m :=
    fun hs => h.refs_idStep hs.obj hs.coll
  cases op with
  | create =>
    obtain ⟨hobj, hcoll, -⟩ := CreateStep.keeps hs
    exact h.refs_grow hobj hcoll
  | createAndWrite pid oid =>
    rcases hs with hs | ⟨t, v, ht, hv, hs⟩
    · obtain ⟨hobj, hcoll, -⟩ := hs.keeps
      exact h.refs_grow hobj hcoll
    · obtain ⟨hobj, hcoll, -⟩ := ht.keeps
      have hvobj : ∀ r ∈ s.db.obj, r ∈ v.db.obj := fun r hr => hv.obj ▸ hobj r hr
      have hvcoll : ∀ m ∈ v.db.coll, m ∈ s.db.coll := fun m hm => hcoll m (hv.coll ▸ hm)
      have hmid : Members v := by
        refine ⟨(h.zero.step ht.objStep).step (.of_eq hv.obj), ?_⟩
        exact h.refs_grow hvobj hvcoll
      rcases hs with rfl | ⟨hs, -, hfree⟩
      · exact hmid.refs
      · -- the removed object is new, so no membership refers to it
        refine hmid.refs_removes hs (fun m hm _ hk => hfree ?_) fun m hm _ hk => hfree ?_
        · have hhas := (h.refs m (hvcoll m hm)).1.has
          rwa [hk.1, hk.2] at hhas
        · have hhas := (h.refs m (hvcoll m hm)).2.has
          rwa [hk.1, hk.2] at hhas
  | createCollection => exact h.refs_createCollection henv hs nofun
  | createPartition =>
    refine h.refs_grow (fun r hr => ?_) fun m hm => hs.coll ▸ hm
    rcases hs.obj with ho | ⟨-, -, ho⟩ <;> rw [ho]
    · exact hr
    · exact List.mem_append_left _ hr
  | createUserTrackingCollection pid requestedCid sourceCid =>
    refine h.refs_createCollection henv hs ?_
    rintro src ⟨⟩ h0 hsrc
    exact hop h0 hsrc
  | remove =>
    rcases hs with rfl | ⟨-, hs⟩
    · exact h.refs
    · exact h.refs_removes hs (fun m hm _ hk => hop ⟨m, hm, hk⟩) fun m _ hcl hk => hcl hk
  | removeCollection =>
    rcases hs with rfl | ⟨-, -, -, -, hs⟩
    · exact h.refs
    · exact h.refs_removes hs (fun m _ hcl hk => hcl hk) fun m hm _ hk => hop m hm hk
  | removePartition =>
    rcases hs with rfl | ⟨-, -, -, hs⟩
    · exact h.refs
    · refine h.refs_removes hs (fun m hm _ hk => ?_) fun m hm _ hk => ?_
      · rcases h.zero _ (h.refs m hm).1 hk.2 with ht | ht <;> cases ht
      · rcases h.zero _ (h.refs m hm).2 hk.2 with ht | ht <;> cases ht
  | write => exact hattr hs
  | setAttributes => exact h.refs_set hs hop
  | getattrList => exact hattr hs
  | getattrPage => exact hattr hs
  | setMemberAttributes => exact hattr hs
  | cas => exact hattr hs
  | fa => exact hattr hs
  | genCas => exact hattr hs
  | formatOsd => exact absurd rfl hne

/-! ## Runs -/

/-- The runs that keep memberships intact. -/
def TypedRun (i : Step) (s _ : Target) : Prop :=
  i.op.RespectsTypes s ∧ i.env.InsertsCollections

theorem Reachable.members (h : Reachable TypedRun s) : Members s := by
  refine h.of_effect (fun s h => ⟨h.zeroRows, ?_⟩) fun _ _ _ _ hi he hg => hi.step hg.2 hg.1 he
  intro m hm
  rw [h.coll] at hm
  cases hm

/-- **Memberships refer to what is present**, and a collection just created has no members. -/
theorem membership_integrity (h : Reachable TypedRun s) :
    (∀ m ∈ s.db.coll, RefOk s.db m) ∧
    ∀ (env : Env) (pid requestedCid : UInt64) (ret : Ret) (s' : Target),
      osdCreateCollection env pid requestedCid s = some (ret, s') →
      ∀ r ∈ s'.db.obj, r ∉ s.db.obj → ¬ s'.db.HasMembers r.pid r.oid := by
  have hs := h.members
  refine ⟨hs.refs, fun env pid requestedCid ret s' hrun r hr hnew => ?_⟩
  have hstep : CollectionStep env pid requestedCid none s s' :=
    osdCreateCollection_spec pid requestedCid ret s' hrun
  rintro ⟨m, hm, hk⟩
  have hold : m ∈ s.db.coll := by
    cases hstep with
    | rejected hdb hic => exact hdb ▸ hm
    | ran cid hpid hpart hpick hattr hcoll hobj =>
      rcases hcoll m hm with hold | ⟨src, hsrc, -⟩
      · exact hold
      · cases hsrc
  rcases hstep.objStep.new r hr with hin | ⟨hfree, -⟩
  · exact hnew hin
  · have hhas := (hs.refs m hold).1.has
    rw [hk.1, hk.2] at hhas
    exact hfree hhas

/-- SET ATTRIBUTES that makes the object 0x10001 a member of the collection 0x10000. -/
def collectionPointer : Op :=
  .setAttributes 0x10000 0x10001 USER_COLL_PG 1 (some (blobMem (htonll 0x10000))) 8 true

theorem membership_integrity_pointer :
    let s := calmRun [.createPartition 0, .createCollection 0x10000 0, .create 0x10000 0 1,
      collectionPointer]
    s.db.coll ≠ [] ∧ ∀ m ∈ s.db.coll, RefOk s.db m := by
  refine ⟨by decide +kernel, (membership_integrity (.calmRun ?_)).1⟩
  refine ⟨by decide +kernel, ⟨trivial, fun _ _ _ => rfl⟩,
    by decide +kernel, ⟨trivial, fun _ _ _ => rfl⟩,
    by decide +kernel, ⟨trivial, fun _ _ _ => rfl⟩,
    by decide +kernel, ⟨?_, fun _ _ _ => rfl⟩, trivial⟩
  rintro m ⟨⟩ - - - -
  decide +kernel

/-- The commands about objects, collections and their attributes. -/
def Op.isMembershipCommand : Op → Bool
  | .create .. | .createCollection .. | .createPartition .. | .remove .. | .removeCollection ..
  | .setAttributes .. | .createUserTrackingCollection .. => true
  | _ => false

/-- REMOVE accepts the id of a collection and leaves its memberships behind. -/
theorem membership_dangling :
    ¬ ∀ s, Reachable (fun i _ _ => i.op.isMembershipCommand = true) s → ∀ m ∈ s.db.coll, RefOk s.db m := by
  intro h
  let ops : List Op := [.createPartition 0, .createCollection 0x10000 0, .create 0x10000 0 1,
    collectionPointer, .remove 0x10000 0x10000]
  have hmeets : Meets (fun i _ _ => i.op.isMembershipCommand = true) ops Target.fresh :=
    ⟨by decide +kernel, rfl, by decide +kernel, rfl, by decide +kernel, rfl, by decide +kernel, rfl,
      by decide +kernel, rfl, trivial⟩
  have hall := h (calmRun ops) (.calmRun hmeets)
  revert hall
  decide +kernel

end OsdTarget
