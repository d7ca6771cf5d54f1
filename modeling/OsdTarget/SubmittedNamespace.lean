import OsdTarget.Hierarchy
import OsdTarget.SchemaKeys
import Mathlib.Data.List.Nodup

/-!
# The namespace under submissions

The invariants of the object table hold between submissions as they do between commands.  As long as
collections get inserted the ids counted over are in use, and a table of at most 2^62 rows keeps the counter
from wrapping around; SQLite tables are far smaller.  A submission creates at most once, so a bound on the
table before it is one on the table its creation finds.
-/

namespace OsdTarget

open Base

variable {env : Env} {s s' : Target}

/-! ## Counting -/

/-- The ids from some start up to `next` are all in use. -/
structure Target.Filled (s : Target) (pid next : UInt64) : Prop where
  exists_start : ∃ start : Nat, 65536 ≤ start ∧ start ≤ 2 ^ 63 ∧ start ≤ next.toNat ∧
    ∀ k, start ≤ k → k < next.toNat → s.db.Has (bindInt64 pid) (bindInt64 (UInt64.ofNat k))

/-- The counter has only counted over ids that are in use. -/
structure Counted (s : Target) : Prop extends Namespace s where
  filled : s.ic.curPid ≠ 0 → s.Filled s.ic.curPid s.ic.nextId

theorem Target.Filled.mono {pid next : UInt64} (h : s.Filled pid next)
    (hkeep : ∀ r ∈ s.db.obj, r ∈ s'.db.obj) : s'.Filled pid next := by
  obtain ⟨start, h1, h2, h3, hall⟩ := h.exists_start
  refine ⟨start, h1, h2, h3, fun k hk hkn => ?_⟩
  obtain ⟨r, hr, hkey⟩ := hall k hk hkn
  exact ⟨r, hkeep r hr, hkey⟩

/-- The ids counted over are different rows, so their number is bounded by the size of the table. -/
theorem Target.Filled.bound {pid next : UInt64} (h : s.Filled pid next)
    (hrows : s.db.obj.length ≤ 2 ^ 62) : next.toNat ≤ 2 ^ 63 + 2 ^ 62 := by
  obtain ⟨start, -, h2, h3, hall⟩ := h.exists_start
  have hnext := next.toNat_lt
  let ids := (List.range (next.toNat - start)).map fun k => bindInt64 (UInt64.ofNat (start + k))
  have hnodup : ids.Nodup := by
    refine List.Nodup.map_on (fun a ha b hb hab => ?_) List.nodup_range
    have ha := List.mem_range.1 ha
    have hb := List.mem_range.1 hb
    have heq := congrArg UInt64.toNat (bindInt64_inj.1 hab)
    have hsa : start + a < UInt64.size := Nat.lt_trans (show start + a < next.toNat by omega) hnext
    have hsb : start + b < UInt64.size := Nat.lt_trans (show start + b < next.toNat by omega) hnext
    rw [UInt64.toNat_ofNat_of_lt' hsa, UInt64.toNat_ofNat_of_lt' hsb] at heq
    omega
  have hsub : ids ⊆ s.db.obj.map ObjRow.oid := by
    intro z hz
    obtain ⟨k, hk, rfl⟩ := List.mem_map.1 hz
    have hk := List.mem_range.1 hk
    obtain ⟨r, hr, -, ho⟩ := hall (start + k) (by omega) (by omega)
    exact List.mem_map.2 ⟨r, hr, ho⟩
  have hlen := hnodup.length_le_of_subset hsub
  simp only [ids, List.length_map, List.length_range] at hlen
  omega

/-- Counting on over ids that are in use by now. -/
theorem Target.Filled.extend {pid oid next : UInt64} {n : Nat} (h : s.Filled pid oid)
    (hnext : next.toNat = oid.toNat + n) (hkeep : ∀ r ∈ s.db.obj, r ∈ s'.db.obj)
    (hnew : ∀ k < n, s'.db.Has (bindInt64 pid) (bindInt64 (oid + UInt64.ofNat k))) :
    s'.Filled pid next := by
  obtain ⟨start, h1, h2, h3, hall⟩ := (h.mono hkeep).exists_start
  refine ⟨start, h1, h2, by omega, fun k hk hkn => ?_⟩
  by_cases hlt : k < oid.toNat
  · exact hall k hk hlt
  · have hid : UInt64.ofNat k = oid + UInt64.ofNat (k - oid.toNat) := by
      have hlt64 := next.toNat_lt
      apply UInt64.toNat_inj.1
      rw [add_ofNat_toNat (by omega), UInt64.toNat_ofNat_of_lt' (Nat.lt_trans hkn hlt64)]
      omega
    rw [hid]
    exact hnew _ (by omega)

/-- So it leaves room in a table that is not too large. -/
theorem Counted.hasRoom (h : Counted s) (hrows : s.db.obj.length ≤ 2 ^ 62) : s.HasRoom := fun hp =>
  Nat.le_trans ((h.filled hp).bound hrows) (by decide)

theorem Counted.of_zero (h : Namespace s) (hic : s.ic.curPid = 0) : Counted s :=
  ⟨h, fun hp => absurd hic hp⟩

/-- The cache as it was, over rows that may come. -/
theorem Counted.of_ic (h : Counted s) (hn : Namespace s') (hic : s'.ic = s.ic)
    (hkeep : ∀ r ∈ s.db.obj, r ∈ s'.db.obj) : Counted s' := by
  refine ⟨hn, fun hp => ?_⟩
  rw [hic] at hp ⊢
  exact (h.filled hp).mono hkeep

/-- **Whatever way an id is chosen, the ids below it are in use from some object id on.** -/
theorem Counted.chosen (h : Counted s) {pid : UInt64} (hpid : OBJECT_PID_LB ≤ pid)
    (hpart : s.db.Has (bindInt64 pid) 0) : s.Filled pid (s.chosen pid OBJECT_OID_LB) := by
  by_cases hc : s.ic.curPid = pid
  · have hfilled := h.filled (hc ▸ pid_ne_zero hpid)
    rw [hc] at hfilled
    rwa [h.chosen_cached hpid hc]
  · obtain ⟨hlow, hhigh⟩ := h.hierarchy.chosen_uncached hc hpart
    exact ⟨_, hlow, hhigh, Nat.le_refl _, fun k hk hkn => absurd hkn (Nat.not_lt.2 hk)⟩

theorem Counted.create (h : Counted s) (hrows : s.db.obj.length ≤ 2 ^ 62) {pid requested : UInt64}
    {numoid : UInt16} (hs : CreateStep pid requested numoid s s') : Counted s' := by
  have hn := h.toNamespace.create (h.hasRoom hrows) hs
  cases hs with
  | rejected hdb hic =>
    rcases hic with hic | hic
    · exact h.of_ic hn hic fun _ hr => by rwa [hdb]
    · exact .of_zero hn (by rw [hic]; rfl)
  | ran oid ic hpid hpart hone hpick hg hdone =>
    rcases hdone with hic | ⟨hc, hic⟩
    · exact .of_zero hn (by rw [hic]; rfl)
    rcases hpick with ⟨-, hoid, rfl⟩ | ⟨-, -, -, -, rfl⟩
    · have hfilled : s.Filled pid oid := hoid ▸ h.chosen hpid hpart
      have hhigh := hfilled.bound hrows
      have hlt := (atLeastOne numoid).toNat_lt
      have hcount : createCount oid (atLeastOne numoid) = (atLeastOne numoid).toNat :=
        createCount_eq (atLeastOne_pos numoid) (by omega)
      refine ⟨hn, fun _ => ?_⟩
      rw [hic]
      rw [hcount] at hc
      exact hfilled.extend (nextId_toNat (by omega)) hc.keeps fun k hk => ⟨_, hc.rows k hk, rfl, rfl⟩
    · exact .of_zero hn (by rw [hic]; rfl)

theorem Counted.createCollection (h : Counted s) (hrows : s.db.obj.length ≤ 2 ^ 62)
    (henv : env.InsertsCollections) {pid requested : UInt64} {source : Option UInt64}
    (hs : CollectionStep env pid requested source s s') : Counted s' := by
  have hn := h.toNamespace.createCollection (h.hasRoom hrows) hs
  cases hs with
  | rejected hdb hic =>
    rcases hic with hic | hic
    · exact h.of_ic hn hic fun _ hr => by rwa [hdb]
    · exact .of_zero hn (by rw [hic]; rfl)
  | ran cid hpid hpart hpick hattr hcoll hobj =>
    rcases hpick with ⟨-, hcid, hic⟩ | ⟨-, -, -, -, hic⟩
    · have hfilled : s.Filled pid cid := hcid ▸ h.chosen hpid hpart
      have hhigh := hfilled.bound hrows
      have hkeep : ∀ r ∈ s.db.obj, r ∈ s'.db.obj := by
        intro r hr
        rcases hobj with ⟨-, ho⟩ | ⟨-, ho⟩ <;> rw [ho]
        · exact List.mem_append_left _ hr
        · exact hr
      have hnext : (cid + 1).toNat = cid.toNat + 1 := add_ofNat_toNat (k := 1) (by omega)
      refine ⟨hn, fun _ => ?_⟩
      rw [hic]
      refine hfilled.extend hnext hkeep fun k hk => ?_
      obtain rfl : k = 0 := by omega
      rw [show UInt64.ofNat 0 = 0 from rfl, UInt64.add_zero]
      -- inserted now, or there before
      rcases hobj with ⟨-, ho⟩ | ⟨⟨d, hd⟩ | ⟨r, hr, hk⟩, -⟩
      · exact ⟨collectionRow pid cid, by rw [ho]; simp, rfl, rfl⟩
      · rw [henv _ d rfl] at hd
        cases hd
      · exact ⟨r, hkeep r hr, hk⟩
    · exact .of_zero hn (by rw [hic]; rfl)

/-- **One command counts over ids that are in use.** -/
theorem Counted.step (h : Counted s) {op : Op}
    (hcap : op.creates = true → s.db.obj.length ≤ 2 ^ 62 ∧ env.InsertsCollections)
    (hop : op ≠ .formatOsd) (hs : op.effect env s s') : Counted s' := by
  have hn := h.toNamespace.step (fun hc => h.hasRoom (hcap hc).1) hop hs
  have hid : IdStep s s' → Counted s' := fun hs => h.of_ic hn hs.ic fun _ hr => by rwa [hs.obj]
  have hremoved : ∀ {pid oid : Int} {cleared why}, Removes pid oid cleared why s s' → Counted s' :=
    fun hs => .of_zero hn (by rw [hs.ic]; rfl)
  cases op with
  | create => exact h.create (hcap rfl).1 hs
  | createAndWrite =>
    rcases hs with hs | ⟨t, v, ht, hv, rfl | ⟨hs, -, -⟩⟩
    · exact h.create (hcap rfl).1 hs
    · exact (h.create (hcap rfl).1 ht).of_ic hn hv.ic fun _ hr => by rwa [hv.obj]
    · exact .of_zero hn (by rw [hs.ic]; rfl)
  | createCollection => exact h.createCollection (hcap rfl).1 (hcap rfl).2 hs
  | createPartition =>
    refine h.of_ic hn hs.ic fun r hr => ?_
    rcases hs.obj with ho | ⟨-, -, ho⟩ <;> rw [ho]
    · exact hr
    · exact List.mem_append_left _ hr
  | createUserTrackingCollection => exact h.createCollection (hcap rfl).1 (hcap rfl).2 hs
  | remove =>
    rcases hs with rfl | ⟨-, hs⟩
    · exact h
    · exact hremoved hs
  | removeCollection =>
    rcases hs with rfl | ⟨-, -, -, -, hs⟩
    · exact h
    · exact hremoved hs
  | removePartition =>
    rcases hs with rfl | ⟨-, -, -, hs⟩
    · exact h
    · exact hremoved hs
  | write => exact hid hs.toIdStep
  | setAttributes => exact hid hs.toIdStep
  | getattrList => exact hid hs.toIdStep
  | getattrPage => exact hid hs.toIdStep
  | setMemberAttributes => exact hid hs.toIdStep
  | cas => exact hid hs.toIdStep
  | fa => exact hid hs.toIdStep
  | genCas => exact hid hs.toIdStep
  | formatOsd => exact absurd rfl hop

/-! ## Events that do not create -/

theorem Removes.rows_le {pid oid : Int} {cleared : CollRow → Prop} {why : Prop}
    (h : Removes pid oid cleared why s s') : s'.db.obj.length ≤ s.db.obj.length := by
  obtain ⟨-, ho⟩ | ⟨ho, -, -⟩ := h.obj
  · rw [ho]
  · rw [ho]
    exact List.length_filter_le _ _

/-- Without creating and without FORMAT the object table does not grow. -/
theorem Op.effect.rows_le {op : Op} (h : op.effect env s s') (hc : op.creates = false)
    (hop : op ≠ .formatOsd) : s'.db.obj.length ≤ s.db.obj.length := by
  have hid : IdStep s s' → s'.db.obj.length ≤ s.db.obj.length := fun hs => by rw [hs.obj]
  cases op with
  | create | createAndWrite | createCollection | createPartition | createUserTrackingCollection =>
    exact absurd hc nofun
  | remove =>
    rcases h with rfl | ⟨-, h⟩
    · exact Nat.le_refl _
    · exact h.rows_le
  | removeCollection =>
    rcases h with rfl | ⟨-, -, -, -, h⟩
    · exact Nat.le_refl _
    · exact h.rows_le
  | removePartition =>
    rcases h with rfl | ⟨-, -, -, h⟩
    · exact Nat.le_refl _
    · exact h.rows_le
  | write => exact hid (AttrStep.toIdStep h)
  | setAttributes => exact hid (SetStep.toIdStep h)
  | getattrList => exact hid (AttrStep.toIdStep h)
  | getattrPage => exact hid (AttrStep.toIdStep h)
  | setMemberAttributes => exact hid (AttrStep.toIdStep h)
  | cas => exact hid (AttrStep.toIdStep h)
  | fa => exact hid (AttrStep.toIdStep h)
  | genCas => exact hid (AttrStep.toIdStep h)
  | formatOsd => exact absurd rfl hop

/-- The submissions considered: no FORMAT, and no COPY USER OBJECTS, which may pick an id without using
it. -/
def Command.KeepsNamespace (cmd : Command) : Prop := cmd.serviceAction ∉ [.formatOsd, .copyUserObjects]

instance (cmd : Command) : Decidable cmd.KeepsNamespace := inferInstanceAs (Decidable (¬ _))

variable {cmd : Command}

/-- **One event keeps the hierarchy**, creating while there is room. -/
theorem Counted.event (h : Counted s) (hcmd : cmd.KeepsNamespace) {e : Event} (he : cmd.May e)
    (hcap : e.creates = true → s.db.obj.length ≤ 2 ^ 62 ∧ env.InsertsCollections) (hn : e.next env s s') :
    Counted s' := by
  cases e with
  | op o =>
    obtain ⟨ret, hr⟩ := hn
    refine h.step hcap ?_ (o.exec_spec ret s' hr)
    rintro rfl
    exact hcmd (by rw [show cmd.serviceAction = .formatOsd from he]; decide)
  | data pid oid content =>
    obtain ⟨-, rfl⟩ := hn
    exact h.of_ic (h.toNamespace.of_eq rfl rfl) rfl fun _ hr => hr
  | cache ic => exact absurd (by rw [show cmd.serviceAction = .copyUserObjects from he]; decide) hcmd
  | silent => exact h.of_ic (h.toNamespace.of_eq (by rw [hn.1]) hn.2.1) hn.2.1 fun _ hr => by rwa [hn.1]

theorem Event.rows_le {e : Event} (he : cmd.Besides e) (hcmd : cmd.KeepsNamespace) (hn : e.next env s s') :
    s'.db.obj.length ≤ s.db.obj.length := by
  cases e with
  | op o =>
    obtain ⟨ret, hr⟩ := hn
    refine (o.exec_spec ret s' hr).rows_le he.2 ?_
    rintro rfl
    exact hcmd (by rw [show cmd.serviceAction = .formatOsd from he.1]; decide)
  | data pid oid content =>
    obtain ⟨-, rfl⟩ := hn
    exact Nat.le_refl _
  | cache ic =>
    obtain rfl := hn
    exact Nat.le_refl _
  | silent => exact Nat.le_of_eq (by rw [hn.1])

/-! ## Submissions -/

/-- **One submission keeps the hierarchy.** -/
theorem Counted.submission (h : Counted s) (hcmd : cmd.KeepsNamespace) (henv : env.InsertsCollections)
    (hrows : s.db.obj.length ≤ 2 ^ 62) (hdoes : DoesOnce env cmd s s') : Counted s' := by
  have hsilent : ∀ {n : Nat} (v v' : Target), Counted v ∧ v.db.obj.length ≤ n →
      Event.next env v v' .silent → Counted v' ∧ v'.db.obj.length ≤ n :=
    fun v v' hv hn => ⟨hv.1.of_ic (hv.1.toNamespace.of_eq (by rw [hn.1]) hn.2.1) hn.2.1 fun _ hr => by
      rwa [hn.1], by rw [hn.1]; exact hv.2⟩
  have hrest : ∀ {n : Nat} {v v' : Target}, Counted v ∧ v.db.obj.length ≤ n → Does env cmd.Besides v v' →
      Counted v' ∧ v'.db.obj.length ≤ n := by
    intro n v v' hv hd
    refine hd.invariant (I := fun t => Counted t ∧ t.db.obj.length ≤ n) hsilent (fun e t t' he ht hn => ?_) hv
    have hno : e.creates = true → t.db.obj.length ≤ 2 ^ 62 ∧ env.InsertsCollections :=
      fun hc => absurd (hc.symm.trans he.2) nofun
    exact ⟨ht.1.event hcmd he.1 hno hn, Nat.le_trans (Event.rows_le he hcmd hn) ht.2⟩
  obtain ⟨t, t', hs, he, ht'⟩ := hdoes
  obtain ⟨ht, hroom⟩ := hrest ⟨h, hrows⟩ hs
  refine (hrest ⟨?_, Nat.le_refl _⟩ ht').1
  rcases he with rfl | ⟨e, he, -, hn⟩
  · exact ht
  · exact ht.event hcmd he (fun _ => ⟨hroom, henv⟩) hn

/-- The runs considered: SQLite inserts what no key forbids, and tables stay far below the sizes it can
hold. -/
def RoomyRun (r : Arrival) (s _ : Target) : Prop :=
  r.sub.command.KeepsNamespace ∧ r.env.InsertsCollections ∧ s.db.obj.length ≤ 2 ^ 62

/-- **The hierarchy holds whatever was submitted**: the root is there, what has object id 0 beside it is a
partition, and every user object and collection lies in a partition that is there. -/
theorem submitted_hierarchy (h : Reach Arrival.next Fresh RoomyRun s) :
    s.db.HasType 0 0 .root ∧
    (∀ r ∈ s.db.obj, r ≠ ⟨0, 0, .root⟩ → r.oid = 0 →
      r.type = .partition ∧ PARTITION_PID_LB ≤ columnInt64 r.pid) ∧
    ∀ r ∈ s.db.obj, r.oid ≠ 0 → OBJECT_OID_LB ≤ columnInt64 r.oid ∧
      (r.type = .userobject ∨ r.type = .collection) ∧ s.db.HasType r.pid 0 .partition := by
  have hns : Counted s := by
    refine h.invariant (fun t ht => .of_zero ht.initial.namespace (by rw [ht.initial.ic]; rfl)) ?_
    rintro r t t' ht ⟨-, report, hrun⟩ ⟨hcmd, henv, hrows⟩
    exact ht.submission hcmd henv hrows (osdemuCmdSubmit_does hrun)
  exact ⟨hns.hierarchy.root, fun r => hns.hierarchy.type_of_zero, fun r => hns.hierarchy.object_of_ne_zero⟩

theorem submitted_hierarchy_object :
    (⟨65536, 65536, .userobject⟩ : ObjRow) ∈ withObject.db.obj ∧
      withObject.db.HasType 65536 0 .partition := by
  have hreached : Reach Arrival.next Fresh RoomyRun withObject :=
    withObject_reached ⟨by decide +kernel, fun _ _ _ => rfl, by decide +kernel⟩
      ⟨by decide +kernel, fun _ _ _ => rfl, by decide +kernel⟩
  have hobject : (⟨65536, 65536, .userobject⟩ : ObjRow) ∈ withObject.db.obj := by decide +kernel
  exact ⟨hobject, ((submitted_hierarchy hreached).2.2 _ hobject (by decide)).2.2⟩

end OsdTarget
