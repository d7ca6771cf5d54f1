import OsdTarget.Membership

/-!
# Attributes and their objects

Every command that stores an attribute tests that the object exists, with two exceptions.
`get_obj_type` takes any id with object number 0 for a partition, so a retrieval of all attributes
initialises them for a partition that is not there.  And `mtq_set_member_attrs` selects the members of
a collection by its id alone, whatever their partition.
-/

namespace OsdTarget

open Base

variable {env : Env} {s s' : Target}

/-! ## The invariant -/

/-- The root object is there, and so is the object of every attribute. -/
structure Owned (s : Target) : Prop where
  root : s.db.Has 0 0
  owners : ∀ r ∈ s.db.attr, s.db.Has r.pid r.oid

/-- A retrieval of all attributes names no missing partition. -/
def PartitionPresent (d : Db) (pid oid : UInt64) (page : UInt32) : Prop :=
  page = GETALLATTR_PG → PARTITION_PID_LB ≤ pid → oid = PARTITION_OID → d.Has (bindInt64 pid) 0

/-- Every member that an accepted SET MEMBER ATTRIBUTES selects is an object of the partition. -/
def MembersPresent (d : Db) (pid cid : UInt64) (setAttr : List SetEntry) : Prop :=
  ∀ o, MemberAttrRows d pid cid setAttr (sqlLiteral pid.toNat) o → d.Has (sqlLiteral pid.toNat) o

/-- The command stores attributes for objects that are present only. -/
def Op.RespectsOwners (s : Target) : Op → Prop
  | .getattrList pid oid page .. => PartitionPresent s.db pid oid page
  | .getattrPage pid oid page .. => PartitionPresent s.db pid oid page
  | .setMemberAttributes pid cid setAttr => MembersPresent s.db pid cid setAttr
  | .formatOsd => False
  | _ => True

/-! ## Steps -/

theorem Db.Has.mono {d d' : Db} {pid oid : Int} (h : d.Has pid oid) (hd : ∀ r ∈ d.obj, r ∈ d'.obj) :
    d'.Has pid oid := by
  obtain ⟨r, hr, hk⟩ := h
  exact ⟨r, hd r hr, hk⟩

theorem Removes.keepsOwner {pid oid : Int} {cleared : CollRow → Prop} {why : Prop}
    (hs : Removes pid oid cleared why s s') {r : AttrRow} (hr : r ∈ s'.db.attr)
    (hhas : s.db.Has r.pid r.oid) : s'.db.Has r.pid r.oid := by
  obtain ⟨x, hx, hp, ho⟩ := hhas
  rcases hs.obj with ⟨-, hobj⟩ | ⟨hobj, hclear, -⟩
  · exact ⟨x, hobj ▸ hx, hp, ho⟩
  · refine ⟨x, ?_, hp, ho⟩
    rw [hobj, mem_deleteWhere, hp, ho]
    exact ⟨hx, hclear r hr⟩

/-- **An object whose attributes are left is left too.** -/
theorem Op.effect.keepsOwner {op : Op} (h : op.effect env s s') (hop : op ≠ .formatOsd) {r : AttrRow}
    (hr : r ∈ s'.db.attr) (hhas : s.db.Has r.pid r.oid) : s'.db.Has r.pid r.oid := by
  cases op with
  | create => exact hhas.mono (CreateStep.keeps h).1
  | createAndWrite =>
    rcases h with h | ⟨t, v, ht, hv, h⟩
    · exact hhas.mono h.keeps.1
    · have hmid : v.db.Has r.pid r.oid := hhas.mono fun x hx => hv.obj ▸ ht.keeps.1 x hx
      rcases h with rfl | ⟨h, -, -⟩
      · exact hmid
      · exact h.keepsOwner hr hmid
  | createCollection => exact hhas.mono (CollectionStep.keeps h).1
  | createPartition =>
    refine hhas.mono fun x hx => ?_
    rcases PartitionStep.obj h with ho | ⟨-, -, ho⟩ <;> rw [ho]
    · exact hx
    · exact List.mem_append_left _ hx
  | createUserTrackingCollection => exact hhas.mono (CollectionStep.keeps h).1
  | remove =>
    rcases h with rfl | ⟨-, h⟩
    · exact hhas
    · exact h.keepsOwner hr hhas
  | removeCollection =>
    rcases h with rfl | ⟨-, -, -, -, h⟩
    · exact hhas
    · exact h.keepsOwner hr hhas
  | removePartition =>
    rcases h with rfl | ⟨-, -, -, h⟩
    · exact hhas
    · exact h.keepsOwner hr hhas
  | setAttributes => exact hhas.mono fun _ hx => (SetStep.toIdStep h).obj ▸ hx
  | write => exact hhas.mono fun _ hx => (AttrStep.toIdStep h).obj ▸ hx
  | getattrList => exact hhas.mono fun _ hx => (AttrStep.toIdStep h).obj ▸ hx
  | getattrPage => exact hhas.mono fun _ hx => (AttrStep.toIdStep h).obj ▸ hx
  | setMemberAttributes => exact hhas.mono fun _ hx => (AttrStep.toIdStep h).obj ▸ hx
  | cas => exact hhas.mono fun _ hx => (AttrStep.toIdStep h).obj ▸ hx
  | fa => exact hhas.mono fun _ hx => (AttrStep.toIdStep h).obj ▸ hx
  | genCas => exact hhas.mono fun _ hx => (AttrStep.toIdStep h).obj ▸ hx
  | formatOsd => exact absurd rfl hop

theorem Owned.lazyRows (h : Owned s) {pid oid : UInt64} {page : UInt32}
    (hop : PartitionPresent s.db pid oid page) (p o : Int) (hl : LazyRows s.db pid oid page p o) :
    s.db.Has p o := by
  obtain ⟨rfl, rfl, hpage, type, ht⟩ := hl
  rcases ht with ⟨-, rfl, rfl⟩ | ⟨-, hpid, rfl⟩ | ht
  · exact h.root
  · exact hop hpage hpid rfl
  · exact ht.has

/-- The commands that create something add no attribute. -/
theorem Op.effect.attr_of_creates {op : Op} (h : op.effect env s s') (hop : op.creates = true) :
    ∀ r ∈ s'.db.attr, r ∈ s.db.attr := by
  cases op with
  | create => exact (CreateStep.keeps h).2.2
  | createAndWrite =>
    rcases h with h | ⟨t, v, ht, hv, h⟩
    · exact h.keeps.2.2
    · intro r hr
      have hmid : r ∈ v.db.attr := by
        rcases h with rfl | ⟨h, -, -⟩
        · exact hr
        · exact h.attr r hr
      rcases hv.attr r hmid with hr | hno
      · exact ht.keeps.2.2 r hr
      · exact hno.elim
  | createCollection => exact fun r hr => (CollectionStep.keeps h).2 ▸ hr
  | createPartition => exact fun r hr => PartitionStep.attr h ▸ hr
  | createUserTrackingCollection => exact fun r hr => (CollectionStep.keeps h).2 ▸ hr
  | _ => cases hop

/-- **A command that respects the owners keeps every attribute with its object.** -/
theorem Owned.step (h : Owned s) {op : Op} (hop : op.RespectsOwners s) (hs : op.effect env s s') :
    Owned s' := by
  have hne : op ≠ .formatOsd := by
    rintro rfl
    exact hop
  have hroot : s'.db.Has 0 0 := by
    obtain ⟨r, hr, hp, ho⟩ := h.root
    rcases (hs.objStep hne).gone r hr with hin | h0 | ⟨h0, -⟩
    · exact ⟨r, hin, hp, ho⟩
    · exact absurd ho h0
    · exact absurd hp h0
  refine ⟨hroot, fun r hr => hs.keepsOwner hne hr ?_⟩
  cases op with
  | create => exact h.owners r (hs.attr_of_creates rfl r hr)
  | createAndWrite => exact h.owners r (hs.attr_of_creates rfl r hr)
  | createCollection => exact h.owners r (hs.attr_of_creates rfl r hr)
  | createPartition => exact h.owners r (hs.attr_of_creates rfl r hr)
  | createUserTrackingCollection => exact h.owners r (hs.attr_of_creates rfl r hr)
  | remove =>
    rcases hs with rfl | ⟨-, hs⟩
    · exact h.owners r hr
    · exact h.owners r (hs.attr r hr)
  | removeCollection =>
    rcases hs with rfl | ⟨-, -, -, -, hs⟩
    · exact h.owners r hr
    · exact h.owners r (hs.attr r hr)
  | removePartition =>
    rcases hs with rfl | ⟨-, -, -, hs⟩
    · exact h.owners r hr
    · exact h.owners r (hs.attr r hr)
  | write => exact (AttrStep.attr hs r hr).elim (h.owners r) nofun
  | setAttributes => exact (SetStep.attr hs r hr).elim (h.owners r) fun hk => hk.2.2
  | getattrList => exact (AttrStep.attr hs r hr).elim (h.owners r) (h.lazyRows hop _ _)
  | getattrPage => exact (AttrStep.attr hs r hr).elim (h.owners r) (h.lazyRows hop _ _)
  | setMemberAttributes pid cid setAttr =>
    rcases AttrStep.attr hs r hr with hold | hk
    · exact h.owners r hold
    · have hp : r.pid = sqlLiteral pid.toNat := hk.2.2.2.1
      rw [hp] at hk ⊢
      exact hop r.oid hk
  | cas => exact (AttrStep.attr hs r hr).elim (h.owners r) fun hk => hk.2.2
  | fa => exact (AttrStep.attr hs r hr).elim (h.owners r) fun hk => hk.2.2
  | genCas => exact (AttrStep.attr hs r hr).elim (h.owners r) fun hk => hk.2.2
  | formatOsd => exact absurd rfl hne

/-! ## Runs -/

/-- The runs that keep every attribute with its object. -/
def OwnedRun (i : Step) (s _ : Target) : Prop := i.op.RespectsOwners s

theorem Initial.owned (h : Initial s) : Owned s := by
  have hroot : s.db.Has 0 0 := by
    refine ⟨⟨0, 0, .root⟩, ?_, rfl, rfl⟩
    rw [h.obj]
    exact List.mem_singleton.2 rfl
  refine ⟨hroot, fun r hr => ?_⟩
  obtain ⟨hp, ho⟩ := h.attr r hr
  rw [hp, ho]
  exact hroot

theorem Reachable.owned (h : Reachable OwnedRun s) : Owned s :=
  h.of_effect (fun _ => Initial.owned) fun _ _ _ _ hi he hg => hi.step hg he

/-- **Every attribute belongs to an object that is present**, and what has just been created has no
attributes. -/
theorem attribute_integrity (h : Reachable OwnedRun s) :
    (∀ r ∈ s.db.attr, s.db.Has r.pid r.oid) ∧
    ∀ (i : Step) (s' : Target), i.next s s' → i.op.creates = true →
      ∀ x ∈ s'.db.obj, x ∉ s.db.obj → ∀ r ∈ s'.db.attr, ¬ (r.pid = x.pid ∧ r.oid = x.oid) := by
  have hs := h.owned
  refine ⟨hs.owners, ?_⟩
  rintro i s' ⟨-, ret, hrun⟩ hop x hx hnew r hr ⟨hp, ho⟩
  have he := i.op.exec_spec ret s' hrun
  have hne : i.op ≠ .formatOsd := by
    intro hfmt
    rw [hfmt] at hop
    cases hop
  rcases (he.objStep hne).new x hx with hold | ⟨hfree, -⟩
  · exact hnew hold
  · have hhas := hs.owners r (he.attr_of_creates hop r hr)
    rw [hp, ho] at hhas
    exact hfree hhas

/-- GET ATTRIBUTES of everything. -/
def getAll (pid oid : UInt64) : Op :=
  .getattrList pid oid GETALLATTR_PG ATTRNUM_GETALL 0 4096 false RTRVD_SET_ATTR_LIST

/-- A user object whose attributes have been initialised by a retrieval. -/
theorem attribute_integrity_getAll :
    let s := calmRun [.createPartition 0, .create 0x10000 0 1, getAll 0x10000 0x10000]
    (∃ r ∈ s.db.attr, r.oid ≠ 0) ∧ ∀ r ∈ s.db.attr, s.db.Has r.pid r.oid := by
  refine ⟨by decide +kernel, (attribute_integrity (.calmRun ?_)).1⟩
  refine ⟨by decide +kernel, trivial, by decide +kernel, trivial, by decide +kernel, ?_, trivial⟩
  exact fun _ _ h0 => absurd h0 (by decide)

/-- A retrieval stores attributes for a partition that does not exist. -/
theorem attribute_unowned :
    ¬ ∀ s, Reachable (fun i _ _ => i.op ≠ .formatOsd) s → ∀ r ∈ s.db.attr, s.db.Has r.pid r.oid := by
  intro h
  have hall := h (calmRun [getAll 0x20000 0]) (.calmRun ⟨by decide +kernel, nofun, trivial⟩)
  revert hall
  decide +kernel

end OsdTarget
