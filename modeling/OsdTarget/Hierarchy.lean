import OsdTarget.IdCache

/-!
# The namespace hierarchy

The object table is a tree of depth three: the root, its partitions, their objects.  Creation picks
ids by counting up, so the invariant also says that the counter is past the ids that are no objects'.
It stays there until it wraps around.
-/

namespace OsdTarget

open Base

variable {env : Env} {s s' : Target}

/-! ## The invariant -/

/-- A row of the object table in its place. -/
inductive RowOk (d : Db) : ObjRow → Prop
  | root : RowOk d ⟨0, 0, .root⟩
  | partition (pid : UInt64) (hpid : PARTITION_PID_LB ≤ pid) : RowOk d (partitionRow pid)
  | object (pid oid : UInt64) (type : ObjType) (hoid : OBJECT_OID_LB ≤ oid)
    (htype : type = .userobject ∨ type = .collection)
    (hpart : d.HasType (bindInt64 pid) 0 .partition) : RowOk d ⟨bindInt64 pid, bindInt64 oid, type⟩

structure Hierarchy (d : Db) : Prop where
  root : d.HasType 0 0 .root
  rows : ∀ r ∈ d.obj, RowOk d r

/-- The cache has ids left for any one command. -/
def Target.HasRoom (s : Target) : Prop := s.ic.curPid ≠ 0 → s.ic.nextId.toNat ≤ 2 ^ 64 - 65536

instance (s : Target) : Decidable s.HasRoom := inferInstanceAs (Decidable (_ → _))

structure Namespace (s : Target) : Prop where
  hierarchy : Hierarchy s.db
  cached : s.ic.curPid ≠ 0 → 65536 ≤ s.ic.nextId.toNat

/-! ## The tree -/

theorem RowOk.mono {d d' : Db} {r : ObjRow} (h : RowOk d r)
    (hd : ∀ pid, d.HasType pid 0 .partition → d'.HasType pid 0 .partition) : RowOk d' r := by
  cases h with
  | root => exact .root
  | partition pid hpid => exact .partition pid hpid
  | object pid oid type hoid htype hpart => exact .object pid oid type hoid htype (hd _ hpart)

/-- Rows in their place may come. -/
theorem Hierarchy.grow {d d' : Db} (h : Hierarchy d) (hkeep : ∀ r ∈ d.obj, r ∈ d'.obj)
    (hnew : ∀ r ∈ d'.obj, r ∈ d.obj ∨ RowOk d r) : Hierarchy d' := by
  have hpart : ∀ pid, d.HasType pid 0 .partition → d'.HasType pid 0 .partition :=
    fun _ hp => hkeep _ hp
  refine ⟨hkeep _ h.root, fun r hr => ?_⟩
  rcases hnew r hr with hold | hok
  · exact (h.rows r hold).mono hpart
  · exact hok.mono hpart

theorem Hierarchy.append {d d' : Db} (h : Hierarchy d) {r : ObjRow} (hr : RowOk d r)
    (hd : d'.obj = d.obj ++ [r]) : Hierarchy d' := by
  refine h.grow (fun x hx => hd ▸ List.mem_append_left _ hx) fun x hx => ?_
  rw [hd] at hx
  rcases List.mem_append.1 hx with hx | hx
  · exact .inl hx
  · exact .inr (List.mem_singleton.1 hx ▸ hr)

theorem Hierarchy.of_eq {d d' : Db} (h : Hierarchy d) (hd : d'.obj = d.obj) : Hierarchy d' :=
  h.grow (fun _ hr => hd ▸ hr) fun _ hr => .inl (hd ▸ hr)

/-- An id passed the range check of its command and its partition is present. -/
theorem Hierarchy.partition_of_has {d : Db} (h : Hierarchy d) {pid : UInt64} (hpid : OBJECT_PID_LB ≤ pid)
    (hhas : d.Has (bindInt64 pid) 0) : d.HasType (bindInt64 pid) 0 .partition := by
  obtain ⟨type, htype⟩ := hhas.exists_type
  have hok := h.rows _ htype
  generalize hr : (⟨bindInt64 pid, 0, type⟩ : ObjRow) = r at hok
  cases hok with
  | root =>
    have hp : bindInt64 pid = 0 := congrArg ObjRow.pid hr
    exact absurd hp (bindInt64_ne_zero hpid)
  | partition p hp =>
    have ht : type = .partition := congrArg ObjRow.type hr
    rw [← ht]
    exact htype
  | object p o t ho ht hpart =>
    have ho0 : 0 = bindInt64 o := congrArg ObjRow.oid hr
    exact absurd ho0.symm (bindInt64_ne_zero ho)

/-- Removing an object, or a partition that holds none. -/
theorem Hierarchy.delete {d d' : Db} (h : Hierarchy d) {pid oid : UInt64}
    (hok : OBJECT_OID_LB ≤ oid ∨ oid = 0 ∧ pid ≠ 0 ∧ ¬ d.Holds (bindInt64 pid))
    (hd : d'.obj = deleteWhere (fun r => r.pid = bindInt64 pid ∧ r.oid = bindInt64 oid) d.obj) :
    Hierarchy d' := by
  have hmem : ∀ r, r ∈ d'.obj ↔ r ∈ d.obj ∧ ¬ (r.pid = bindInt64 pid ∧ r.oid = bindInt64 oid) := by
    intro r
    rw [hd]
    exact mem_deleteWhere
  refine ⟨(hmem _).2 ⟨h.root, ?_⟩, fun r hr => ?_⟩
  · rintro ⟨hp, ho⟩
    rcases hok with hlb | ⟨-, hpid, -⟩
    · exact bindInt64_ne_zero hlb ho.symm
    · exact hpid (bindInt64_inj.1 (show bindInt64 pid = bindInt64 0 from hp.symm))
  · obtain ⟨hr, -⟩ := (hmem r).1 hr
    cases h.rows r hr with
    | root => exact .root
    | partition p hp => exact .partition p hp
    | object p o type ho htype hpart =>
      refine .object p o type ho htype ((hmem _).2 ⟨hpart, ?_⟩)
      rintro ⟨hp, h0⟩
      rcases hok with hlb | ⟨-, -, hempty⟩
      · exact bindInt64_ne_zero hlb h0.symm
      · exact hempty ⟨_, hr, hp, bindInt64_ne_zero ho⟩

/-! ## Counting -/

/-- The id SELECT MAX leads to, which no row of the partition can push beyond 2^63. -/
theorem Hierarchy.chosen_uncached (h : Hierarchy s.db) {pid : UInt64} (hc : s.ic.curPid ≠ pid)
    (hpart : s.db.Has (bindInt64 pid) 0) :
    65536 ≤ (s.chosen pid OBJECT_OID_LB).toNat ∧ (s.chosen pid OBJECT_OID_LB).toNat ≤ 2 ^ 63 := by
  obtain ⟨r0, hr0, hp0, ho0⟩ := hpart
  obtain ⟨hle, r, hr, hrp, hro⟩ := s.db.maxOid_spec hr0
  rw [hp0] at hle hro
  have hmax : 0 ≤ s.db.maxOid (bindInt64 pid) := ho0 ▸ hle
  have hzero : s.db.maxOid (bindInt64 pid) = 0 →
      65536 ≤ (s.chosen pid OBJECT_OID_LB).toNat ∧ (s.chosen pid OBJECT_OID_LB).toNat ≤ 2 ^ 63 := by
    intro h0
    have hchosen : s.chosen pid OBJECT_OID_LB = OBJECT_OID_LB := by
      simp only [Target.chosen, if_neg hc, h0]
      rfl
    rw [hchosen]
    decide
  cases h.rows r hr with
  | root => exact hzero hro.symm
  | partition p hp => exact hzero hro.symm
  | object p o type ho htype hpart =>
    -- the largest id of the partition is that of an object
    have hro : bindInt64 o = s.db.maxOid (bindInt64 pid) := hro
    have holb : 65536 ≤ o.toNat := UInt64.le_iff_toNat_le.1 ho
    have ho63 : o.toNat < 2 ^ 63 := toNat_lt_of_bindInt64 (hro ▸ hmax)
    have hnext : (o + 1).toNat = o.toNat + 1 := add_ofNat_toNat (k := 1) (by omega)
    have hchosen : s.chosen pid OBJECT_OID_LB = o + 1 := by
      have hne : o + 1 ≠ 1 := by
        intro h1
        have h1 := congrArg UInt64.toNat h1
        rw [hnext] at h1
        exact absurd h1 (by have h1 : (1 : UInt64).toNat = 1 := rfl; omega)
      simp only [Target.chosen, if_neg hc, ← hro, columnInt64_bindInt64, if_neg hne]
    rw [hchosen]
    omega

/-- The id the cache hands out. -/
theorem Namespace.chosen_cached (h : Namespace s) {pid : UInt64} (hpid : OBJECT_PID_LB ≤ pid)
    (hc : s.ic.curPid = pid) : s.chosen pid OBJECT_OID_LB = s.ic.nextId := by
  have hlb := h.cached (hc ▸ pid_ne_zero hpid)
  have hne : s.ic.nextId ≠ 1 := by
    intro h1
    rw [h1] at hlb
    exact absurd hlb (by decide)
  simp only [Target.chosen, if_pos hc, if_neg hne]

/-- **Whatever way an id is chosen, it is an object id with room behind it.** -/
theorem Namespace.chosen (h : Namespace s) (hroom : s.HasRoom) {pid : UInt64} (hpid : OBJECT_PID_LB ≤ pid)
    (hpart : s.db.Has (bindInt64 pid) 0) : 65536 ≤ (s.chosen pid OBJECT_OID_LB).toNat ∧
      (s.chosen pid OBJECT_OID_LB).toNat ≤ 2 ^ 64 - 65536 := by
  by_cases hc : s.ic.curPid = pid
  · have hp := hc ▸ pid_ne_zero hpid
    rw [h.chosen_cached hpid hc]
    exact ⟨h.cached hp, hroom hp⟩
  · obtain ⟨hlow, hhigh⟩ := h.hierarchy.chosen_uncached hc hpart
    exact ⟨hlow, Nat.le_trans hhigh (by decide)⟩

/-! ## Steps -/

theorem Namespace.of_zero (h : Hierarchy s.db) (hic : s.ic.curPid = 0) : Namespace s :=
  ⟨h, fun hp => absurd hic hp⟩

theorem Namespace.of_eq (h : Namespace s) (hobj : s'.db.obj = s.db.obj) (hic : s'.ic = s.ic) :
    Namespace s' := by
  refine ⟨h.hierarchy.of_eq hobj, fun hp => ?_⟩
  rw [hic] at hp ⊢
  exact h.cached hp

theorem Namespace.create (h : Namespace s) (hroom : s.HasRoom) {pid requested : UInt64}
    {numoid : UInt16} (hs : CreateStep pid requested numoid s s') : Namespace s' := by
  cases hs with
  | rejected hdb hic =>
    rcases hic with hic | hic
    · exact h.of_eq (by rw [hdb]) hic
    · exact .of_zero (h.hierarchy.of_eq (by rw [hdb])) (by rw [hic]; rfl)
  | ran oid ic hpid hpart hone hpick hg hdone =>
    have hp := h.hierarchy.partition_of_has hpid hpart
    have hn := (atLeastOne numoid).toNat_lt
    rcases hpick with ⟨-, hoid, rfl⟩ | ⟨hreq, -, hlb, -, rfl⟩
    · obtain ⟨hlow, hhigh⟩ := h.chosen hroom hpid hpart
      rw [show s.chosen pid OBJECT_OID_LB = oid from hoid.symm] at hlow hhigh
      have hcount : createCount oid (atLeastOne numoid) = (atLeastOne numoid).toNat :=
        createCount_eq (atLeastOne_pos numoid) (by omega)
      have htree : Hierarchy s'.db := by
        refine h.hierarchy.grow hg.keeps fun r hr => (hg.only r hr).imp_right ?_
        rintro ⟨k, hk, rfl, -⟩
        refine .object _ _ _ ?_ (.inl rfl) hp
        rw [UInt64.le_iff_toNat_le, add_ofNat_toNat (by omega)]
        exact Nat.le_trans hlow (Nat.le_add_right _ _)
      rcases hdone with hic | ⟨hc, hic⟩
      · exact .of_zero htree (by rw [hic]; rfl)
      · refine ⟨htree, fun _ => ?_⟩
        rw [hic]
        show 65536 ≤ (oid + 1 + ((atLeastOne numoid).toUInt64 - 1)).toNat
        rw [nextId_toNat (by omega)]
        exact Nat.le_trans hlow (Nat.le_add_right _ _)
    · -- a requested id is created alone, and the cache stays invalid
      have hcount : createCount oid (atLeastOne numoid) ≤ 1 := by
        have hle := createCount_le oid (atLeastOne numoid)
        rw [hone hreq] at hle ⊢
        exact hle
      have htree : Hierarchy s'.db := by
        refine h.hierarchy.grow hg.keeps fun r hr => (hg.only r hr).imp_right ?_
        rintro ⟨k, hk, rfl, -⟩
        obtain rfl : k = 0 := by omega
        refine .object _ _ _ ?_ (.inl rfl) hp
        rwa [show UInt64.ofNat 0 = 0 from rfl, UInt64.add_zero]
      refine .of_zero htree ?_
      rcases hdone with hic | ⟨-, hic⟩
      · rw [hic]
        rfl
      · rw [hic]
        rfl

theorem Namespace.createCollection (h : Namespace s) (hroom : s.HasRoom) {pid requested : UInt64}
    {source : Option UInt64} (hs : CollectionStep env pid requested source s s') : Namespace s' := by
  cases hs with
  | rejected hdb hic =>
    rcases hic with hic | hic
    · exact h.of_eq (by rw [hdb]) hic
    · exact .of_zero (h.hierarchy.of_eq (by rw [hdb])) (by rw [hic]; rfl)
  | ran cid hpid hpart hpick hattr hcoll hobj =>
    have hp := h.hierarchy.partition_of_has hpid hpart
    have htree : OBJECT_OID_LB ≤ cid → Hierarchy s'.db := by
      intro hlb
      rcases hobj with ⟨-, ho⟩ | ⟨-, ho⟩
      · exact h.hierarchy.append (.object _ _ _ hlb (.inr rfl) hp) ho
      · exact h.hierarchy.of_eq ho
    rcases hpick with ⟨-, hcid, hic⟩ | ⟨-, -, hlb, -, hic⟩
    · obtain ⟨hlow, hhigh⟩ := h.chosen hroom hpid hpart
      rw [show s.chosen pid OBJECT_OID_LB = cid from hcid.symm] at hlow hhigh
      refine ⟨htree (UInt64.le_iff_toNat_le.2 hlow), fun _ => ?_⟩
      rw [hic]
      have hnext : (cid + 1).toNat = cid.toNat + 1 := add_ofNat_toNat (k := 1) (by omega)
      show 65536 ≤ (cid + 1).toNat
      omega
    · exact .of_zero (htree hlb) (by rw [hic]; rfl)

/-- The id of a new partition is in range, requested or the largest one plus one. -/
theorem Hierarchy.partitionId_le (h : Hierarchy s.db) {requested : UInt64}
    (hreq : requested ≠ 0 → PARTITION_PID_LB ≤ requested) :
    PARTITION_PID_LB ≤ s.partitionId requested := by
  unfold Target.partitionId
  by_cases h0 : requested = 0
  · rw [if_pos h0]
    obtain ⟨hle, r, hr, hmax⟩ := Db.maxPid_spec h.root
    have hle : 0 ≤ s.db.maxPid := hle
    split
    · exact UInt64.le_refl _
    · rename_i hne
      have hrange : ∀ p : UInt64, PARTITION_PID_LB ≤ p → bindInt64 p = s.db.maxPid →
          PARTITION_PID_LB ≤ columnInt64 s.db.maxPid + 1 := by
        intro p hp hm
        have hlb : 65536 ≤ p.toNat := UInt64.le_iff_toNat_le.1 hp
        have hp63 : p.toNat < 2 ^ 63 := toNat_lt_of_bindInt64 (hm ▸ hle)
        have hnext : (p + 1).toNat = p.toNat + 1 := add_ofNat_toNat (k := 1) (by omega)
        rw [← hm, columnInt64_bindInt64, UInt64.le_iff_toNat_le, hnext]
        exact Nat.le_succ_of_le hlb
      cases h.rows r hr with
      | root =>
        have hm : (0 : Int) = s.db.maxPid := hmax
        rw [← hm] at hne
        exact absurd rfl hne
      | partition p hp => exact hrange p hp hmax
      | object p o type ho htype hpart =>
        have hpok := h.rows _ hpart
        generalize hx : (⟨bindInt64 p, 0, .partition⟩ : ObjRow) = x at hpok
        cases hpok with
        | root =>
          have ht : ObjType.partition = .root := congrArg ObjRow.type hx
          cases ht
        | partition q hq =>
          have hpq : p = q := bindInt64_inj.1 (congrArg ObjRow.pid hx)
          exact hrange p (hpq ▸ hq) hmax
        | object q o' t ho' ht hq =>
          exact absurd (congrArg ObjRow.oid hx).symm (bindInt64_ne_zero ho')
  · rw [if_neg h0]
    exact hreq h0

theorem Namespace.createPartition (h : Namespace s) {requested : UInt64}
    (hs : PartitionStep requested s s') : Namespace s' := by
  rcases hs.obj with ho | ⟨hreq, -, ho⟩
  · exact h.of_eq ho hs.ic
  · refine ⟨h.hierarchy.append (.partition _ (h.hierarchy.partitionId_le hreq)) ho, fun hp => ?_⟩
    rw [hs.ic] at hp ⊢
    exact h.cached hp

theorem Hierarchy.removes {pid oid : UInt64} {cleared : CollRow → Prop} {why : Prop}
    (h : Hierarchy s.db) (hs : Removes (bindInt64 pid) (bindInt64 oid) cleared why s s')
    (hok : OBJECT_OID_LB ≤ oid ∨ oid = 0 ∧ pid ≠ 0 ∧ ¬ s.db.Holds (bindInt64 pid)) :
    Namespace s' := by
  refine .of_zero ?_ (by rw [hs.ic]; rfl)
  rcases hs.obj with ⟨-, ho⟩ | ⟨ho, -, -⟩
  · exact h.of_eq ho
  · exact h.delete hok ho

/-- **One command keeps the hierarchy.** -/
theorem Namespace.step (h : Namespace s) {op : Op}
    (hroom : op.creates = true → s.HasRoom) (hop : op ≠ .formatOsd)
    (hs : op.effect env s s') : Namespace s' := by
  have hid : IdStep s s' → Namespace s' := fun hs => h.of_eq hs.obj hs.ic
  cases op with
  | create => exact h.create (hroom rfl) hs
  | createAndWrite =>
    rcases hs with hs | ⟨t, v, ht, hv, hs⟩
    · exact h.create (hroom rfl) hs
    · have hmid : Namespace v := (h.create (hroom rfl) ht).of_eq hv.obj hv.ic
      rcases hs with rfl | ⟨hs, hlb, -⟩
      · exact hmid
      · exact hmid.hierarchy.removes hs (.inl hlb)
  | createCollection => exact h.createCollection (hroom rfl) hs
  | createPartition => exact h.createPartition hs
  | createUserTrackingCollection => exact h.createCollection (hroom rfl) hs
  | remove =>
    rcases hs with rfl | ⟨hid, hs⟩
    · exact h
    · exact h.hierarchy.removes hs (.inl (isUserobjectId_le hid))
  | removeCollection =>
    rcases hs with rfl | ⟨-, hlb, -, -, hs⟩
    · exact h
    · exact h.hierarchy.removes hs (.inl hlb)
  | removePartition pid =>
    rcases hs with rfl | ⟨hpid, hempty, -, hs⟩
    · exact h
    · have hs : Removes (bindInt64 pid) (bindInt64 PARTITION_OID) _ _ s s' := hs
      exact h.hierarchy.removes hs (.inr ⟨rfl, hpid, hempty⟩)
  | write => exact hid hs.toIdStep
  | setAttributes => exact hid hs.toIdStep
  | getattrList => exact hid hs.toIdStep
  | getattrPage => exact hid hs.toIdStep
  | setMemberAttributes => exact hid hs.toIdStep
  | cas => exact hid hs.toIdStep
  | fa => exact hid hs.toIdStep
  | genCas => exact hid hs.toIdStep
  | formatOsd => exact absurd rfl hop

/-! ## Runs -/

/-- The runs considered: no FORMAT, and the cache does not run out of ids. -/
def WithinCapacity (i : Step) (_ s' : Target) : Prop := i.op ≠ .formatOsd ∧ s'.HasRoom

theorem Initial.namespace (h : Initial s) : Namespace s := by
  refine .of_zero ⟨?_, fun r hr => ?_⟩ (by rw [h.ic]; rfl)
  · rw [Db.HasType, h.obj]
    exact List.mem_singleton.2 rfl
  · rw [h.obj] at hr
    rw [List.mem_singleton.1 hr]
    exact .root

theorem Initial.hasRoom (h : Initial s) : s.HasRoom := fun hp => absurd (by rw [h.ic]; rfl) hp

theorem Reachable.namespace (h : Reachable WithinCapacity s) : Namespace s ∧ s.HasRoom := by
  refine Reachable.of_effect (I := fun s => Namespace s ∧ s.HasRoom)
    (fun _ h0 => ⟨h0.namespace, h0.hasRoom⟩) (fun _ _ _ _ hi he hg => ?_) h
  exact ⟨hi.1.step (fun _ => hi.2) hg.1 he, hg.2⟩

/-- The two rows of a partition id would share a key. -/
theorem Hierarchy.type_of_zero {d : Db} (h : Hierarchy d) {r : ObjRow} (hr : r ∈ d.obj)
    (hroot : r ≠ ⟨0, 0, .root⟩) (h0 : r.oid = 0) :
    r.type = .partition ∧ PARTITION_PID_LB ≤ columnInt64 r.pid := by
  cases h.rows r hr with
  | root => exact absurd rfl hroot
  | partition p hp =>
    refine ⟨rfl, ?_⟩
    show PARTITION_PID_LB ≤ columnInt64 (bindInt64 p)
    rwa [columnInt64_bindInt64]
  | object p o type ho htype hpart => exact absurd h0 (bindInt64_ne_zero ho)

theorem Hierarchy.object_of_ne_zero {d : Db} (h : Hierarchy d) {r : ObjRow} (hr : r ∈ d.obj)
    (h0 : r.oid ≠ 0) : OBJECT_OID_LB ≤ columnInt64 r.oid ∧
      (r.type = .userobject ∨ r.type = .collection) ∧ d.HasType r.pid 0 .partition := by
  cases h.rows r hr with
  | root => exact absurd rfl h0
  | partition p hp => exact absurd rfl h0
  | object p o type ho htype hpart =>
    refine ⟨?_, htype, hpart⟩
    show OBJECT_OID_LB ≤ columnInt64 (bindInt64 o)
    rwa [columnInt64_bindInt64]

/-- **The namespace hierarchy holds in every reachable state**, a step never takes away a partition
that holds something, and never creates an object in a missing one. -/
theorem namespace_hierarchy (h : Reachable WithinCapacity s) :
    s.db.HasType 0 0 .root ∧
    (∀ r ∈ s.db.obj, r ≠ ⟨0, 0, .root⟩ → r.oid = 0 →
      r.type = .partition ∧ PARTITION_PID_LB ≤ columnInt64 r.pid) ∧
    (∀ r ∈ s.db.obj, r.oid ≠ 0 → OBJECT_OID_LB ≤ columnInt64 r.oid ∧
      (r.type = .userobject ∨ r.type = .collection) ∧ s.db.HasType r.pid 0 .partition) ∧
    ∀ (i : Step) (s' : Target), i.next s s' → WithinCapacity i s s' →
      (∀ pid, s.db.HasType pid 0 .partition → s.db.Holds pid → s'.db.HasType pid 0 .partition) ∧
      ∀ r ∈ s'.db.obj, r ∉ s.db.obj → r.oid ≠ 0 → s.db.HasType r.pid 0 .partition := by
  have htree := h.namespace.1.hierarchy
  refine ⟨htree.root, fun r => htree.type_of_zero, fun r => htree.object_of_ne_zero, ?_⟩
  rintro i s' hnext hg
  have h' : Reachable WithinCapacity s' := .step i h hnext hg
  have htree' := h'.namespace.1.hierarchy
  obtain ⟨-, ret, hrun⟩ := hnext
  have hstep : ObjStep s s' := (i.op.exec_spec ret s' hrun).objStep hg.1
  refine ⟨fun pid hp hholds => ?_, fun r hr hnew h0 => ?_⟩
  · rcases hstep.gone _ hp with hin | hne | ⟨-, hempty⟩
    · exact hin
    · exact absurd rfl hne
    · exact absurd hholds hempty
  · obtain ⟨-, htype, hp⟩ := htree'.object_of_ne_zero hr h0
    rcases hstep.new r hr with hold | ⟨-, hpart | ⟨-, hhas⟩⟩
    · exact absurd hold hnew
    · rcases htype with ht | ht <;> rw [ht] at hpart <;> cases hpart
    · -- the partition row of the new state was there before
      rcases hstep.new _ hp with hold | ⟨hno, -⟩
      · exact hold
      · exact absurd hhas hno

/-- With a partition, a collection and what is left of two user objects. -/
theorem namespace_hierarchy_objects :
    let s := calmRun [.createPartition 0, .createCollection 0x10000 0, .create 0x10000 0 2,
      .remove 0x10000 0x10001]
    s.db.obj.length = 4 ∧ ∀ r ∈ s.db.obj, r.oid ≠ 0 → OBJECT_OID_LB ≤ columnInt64 r.oid ∧
      (r.type = .userobject ∨ r.type = .collection) ∧ s.db.HasType r.pid 0 .partition := by
  refine ⟨by decide +kernel, (namespace_hierarchy (.calmRun ?_)).2.2.1⟩
  exact ⟨by decide +kernel, ⟨nofun, by decide +kernel⟩,
    by decide +kernel, ⟨nofun, by decide +kernel⟩,
    by decide +kernel, ⟨nofun, by decide +kernel⟩,
    by decide +kernel, ⟨nofun, by decide +kernel⟩, trivial⟩

/-- After all the ids but the last were skipped. -/
def lastId : Target := { oneObject with ic := ⟨0x10000, 0xFFFFFFFFFFFFFFFF⟩ }

/-- **Without ids left the counter wraps around**, and an object gets the id 2. -/
theorem namespace_hierarchy_wraps : ¬ ∀ s, Reachable (fun i _ _ => i.op ≠ .formatOsd) s →
    ∀ r ∈ s.db.obj, r.oid ≠ 0 → OBJECT_OID_LB ≤ columnInt64 r.oid := by
  intro h
  have hreached : Reachable (fun i _ _ => i.op ≠ .formatOsd) oneObject :=
    .calmRun ⟨by decide +kernel, nofun, by decide +kernel, nofun, trivial⟩
  have hnext : oneObject.ic.nextId = 0x10001 := by decide +kernel
  have hpart : oneObject.db.Has (bindInt64 0x10000) 0 := by decide +kernel
  have hskipped := hreached.skips (n := 2 ^ 64 - 0x10002) (by decide +kernel) (by decide) hpart
    (by decide +kernel) (fun _ _ _ => nofun) (by rw [hnext]; decide) (by rw [hnext]; decide)
  rw [hnext, show (0x10001 : UInt64) + UInt64.ofNat (2 ^ 64 - 0x10002) = 0xFFFFFFFFFFFFFFFF by decide]
    at hskipped
  have hlast : Reachable (fun i _ _ => i.op ≠ .formatOsd) lastId := hskipped
  -- none of the three objects is created, and the next id is 2
  have hthree : Reachable (fun i _ _ => i.op ≠ .formatOsd) (Op.after (.create 0x10000 0 3) lastId) :=
    hlast.after ⟨by decide +kernel, by decide +kernel⟩ nofun
  have hone : Reachable (fun i _ _ => i.op ≠ .formatOsd)
      (Op.after (.create 0x10000 0 1) (Op.after (.create 0x10000 0 3) lastId)) :=
    hthree.after ⟨by decide +kernel, by decide +kernel⟩ nofun
  have hbad := h _ hone ⟨0x10000, 2, .userobject⟩ (by decide +kernel) (by decide)
  exact absurd hbad (by decide)

end OsdTarget
