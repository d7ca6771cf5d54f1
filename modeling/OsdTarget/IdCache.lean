import OsdTarget.Commands

/-!
# The id cache

As long as object ids stay below 2^63 - 65536, the id the cache hands out next lies above every id
of its partition.  That is a bound on the table and on the cache: `osd_create_collection` does not
invalidate the cache when its INSERT fails, so ids can be skipped without any of them getting into the
table.  Where the INSERT of a collection is refused on a key conflict only, the table alone will do.
-/

namespace OsdTarget

open Base

variable {env : Env} {s s' : Target}

/-! ## The invariant -/

/-- All ids of the table are below 2^63 - 65536. -/
def Db.IdsBelow (d : Db) : Prop := ∀ r ∈ d.obj, 0 ≤ r.oid ∧ r.oid < 2 ^ 63 - 65536

instance (d : Db) : Decidable d.IdsBelow :=
  inferInstanceAs (Decidable (∀ r ∈ d.obj, 0 ≤ r.oid ∧ r.oid < 2 ^ 63 - 65536))

/-- Every id of the partition lies below `next`. -/
structure Target.Above (s : Target) (pid next : UInt64) : Prop where
  pos : 0 < next.toNat
  bound : next.toNat ≤ 2 ^ 63 - 65536
  rows : ∀ r ∈ s.db.obj, r.pid = bindInt64 pid → r.oid < next.toNat

structure Coherent (s : Target) : Prop where
  ids : s.db.IdsBelow
  cached : s.ic.curPid ≠ 0 → s.Above s.ic.curPid s.ic.nextId

theorem Coherent.of_zero (hids : s.db.IdsBelow) (hic : s.ic.curPid = 0) : Coherent s :=
  ⟨hids, fun h => absurd hic h⟩

theorem Coherent.of_eq (h : Coherent s) (hobj : s'.db.obj = s.db.obj) (hic : s'.ic = s.ic) :
    Coherent s' := by
  refine ⟨fun r hr => h.ids r (hobj ▸ hr), fun hp => ?_⟩
  rw [hic] at hp ⊢
  obtain ⟨hpos, hbound, hrows⟩ := h.cached hp
  exact ⟨hpos, hbound, fun r hr => hrows r (hobj ▸ hr)⟩

/-! ## Choosing an id -/

/-- The SELECT MAX path. -/
theorem Coherent.above_maxOid (h : Coherent s) (pid : UInt64) :
    s.Above pid (columnInt64 (s.db.maxOid (bindInt64 pid)) + 1) := by
  have hmax : 0 ≤ s.db.maxOid (bindInt64 pid) ∧ s.db.maxOid (bindInt64 pid) < 2 ^ 63 - 65536 := by
    rcases s.db.maxOid_eq (bindInt64 pid) with h0 | ⟨r, hr, -, ho⟩
    · omega
    · have hb := h.ids r hr
      omega
  have hcol : (columnInt64 (s.db.maxOid (bindInt64 pid))).toNat = (s.db.maxOid (bindInt64 pid)).toNat :=
    columnInt64_toNat hmax.1 (by omega)
  have hnext : (columnInt64 (s.db.maxOid (bindInt64 pid)) + 1).toNat
      = (s.db.maxOid (bindInt64 pid)).toNat + 1 := by
    rw [← hcol]
    exact add_ofNat_toNat (k := 1) (by omega)
  refine ⟨by omega, by omega, fun r hr hp => ?_⟩
  have hle := (s.db.maxOid_spec hr).1
  rw [hp] at hle
  omega

/-- **Both paths pick an id above all those of the partition.** -/
theorem Coherent.above_chosen (h : Coherent s) {pid : UInt64} (hpid : pid ≠ 0) :
    s.Above pid (s.chosen pid OBJECT_OID_LB) := by
  let next := if s.ic.curPid = pid then s.ic.nextId else columnInt64 (s.db.maxOid (bindInt64 pid)) + 1
  have hnext : s.Above pid next := by
    by_cases hc : s.ic.curPid = pid
    · have hcached := h.cached (hc ▸ hpid)
      rw [hc] at hcached
      simpa only [next, if_pos hc] using hcached
    · simpa only [next, if_neg hc] using h.above_maxOid pid
  show s.Above pid (if next = 1 then OBJECT_OID_LB else next)
  by_cases h1 : next = 1
  · -- the partition holds no object yet, at most its own row
    rw [if_pos h1]
    rw [h1] at hnext
    refine ⟨by decide, by decide, fun r hr hp => ?_⟩
    have hlt : r.oid < 1 := hnext.rows r hr hp
    have hlb : OBJECT_OID_LB.toNat = 65536 := rfl
    omega
  · rw [if_neg h1]
    exact hnext

/-- Ids from there on are free. -/
theorem Target.Above.fresh {pid oid : UInt64} (h : s.Above pid oid) {k : Nat} (hk : k < 65536) :
    bindInt64 (oid + UInt64.ofNat k) = oid.toNat + k ∧
      ¬ s.db.Has (bindInt64 pid) (bindInt64 (oid + UInt64.ofNat k)) := by
  have hb := h.bound
  have hsum : (oid + UInt64.ofNat k).toNat = oid.toNat + k := add_ofNat_toNat (by omega)
  have hbind : bindInt64 (oid + UInt64.ofNat k) = oid.toNat + k := by
    rw [bindInt64_of_lt (by omega), hsum]
    omega
  refine ⟨hbind, ?_⟩
  rintro ⟨r, hr, hp, ho⟩
  have hlt := h.rows r hr hp
  omega

theorem Coherent.lt_nextId (h : Coherent s) (hp : s.ic.curPid ≠ 0) {r : ObjRow} (hr : r ∈ s.db.obj)
    (hrp : r.pid = bindInt64 s.ic.curPid) : columnInt64 r.oid < s.ic.nextId := by
  obtain ⟨h0, hlt⟩ := h.ids r hr
  have hrow := (h.cached hp).rows r hr hrp
  rw [UInt64.lt_iff_toNat_lt, columnInt64_toNat h0 (by omega)]
  omega

/-! ## Steps -/

theorem atLeastOne_pos (numoid : UInt16) : 0 < (atLeastOne numoid).toNat := by
  unfold atLeastOne
  split
  · decide
  · rename_i h
    have hne : numoid.toNat ≠ 0 := fun h0 => h (UInt16.toNat_inj.1 h0)
    omega

/-- The next id once `n` of them are created. -/
theorem nextId_toNat {oid : UInt64} {n : UInt16}
    (h : oid.toNat + n.toNat < 2 ^ 64) :
    (oid + 1 + (n.toUInt64 - 1)).toNat = oid.toNat + n.toNat := by
  have heq : oid + 1 + (n.toUInt64 - 1) = oid + n.toUInt64 := by
    rw [UInt64.add_assoc, UInt64.add_comm 1, UInt64.sub_add_cancel]
  rw [heq, UInt64.toNat_add, UInt16.toNat_toUInt64, Nat.mod_eq_of_lt h]

theorem pid_ne_zero {pid : UInt64} (h : OBJECT_PID_LB ≤ pid) : pid ≠ 0 := by
  rintro rfl
  exact absurd h (by decide)

theorem Coherent.create (h : Coherent s) {pid requested : UInt64} {numoid : UInt16}
    (hs : CreateStep pid requested numoid s s') (hids : s'.db.IdsBelow) : Coherent s' := by
  cases hs with
  | rejected hdb hic =>
    rcases hic with hic | hic
    · exact h.of_eq (by rw [hdb]) hic
    · exact .of_zero hids (by rw [hic]; rfl)
  | ran oid ic hpid hpart hone hpick hg hdone =>
    rcases hdone with hic | ⟨hc, hic⟩
    · exact .of_zero hids (by rw [hic]; rfl)
    · rcases hpick with ⟨-, hoid, rfl⟩ | ⟨-, -, -, -, rfl⟩
      · -- the chosen id and those that follow it are all in
        have hab : s.Above pid oid := hoid ▸ h.above_chosen (pid_ne_zero hpid)
        have hpos := atLeastOne_pos numoid
        have hlt := (atLeastOne numoid).toNat_lt
        have hb := hab.bound
        have hcount : createCount oid (atLeastOne numoid) = (atLeastOne numoid).toNat :=
          createCount_eq hpos (by omega)
        rw [hcount] at hc
        have hnext : (oid + 1 + ((atLeastOne numoid).toUInt64 - 1)).toNat
            = oid.toNat + (atLeastOne numoid).toNat := nextId_toNat (by omega)
        refine ⟨hids, fun _ => ?_⟩
        rw [hic]
        show s'.Above pid (oid + 1 + ((atLeastOne numoid).toUInt64 - 1))
        refine ⟨by omega, ?_, fun r hr hp => ?_⟩
        · have hlast := hids _ (hc.rows ((atLeastOne numoid).toNat - 1) (by omega))
          have hbind := (hab.fresh (k := (atLeastOne numoid).toNat - 1) (by omega)).1
          simp only [userRow] at hlast
          omega
        · rcases hc.only r hr with hold | ⟨k, hk, rfl, -⟩
          · have hrow := hab.rows r hold hp
            omega
          · have hbind := (hab.fresh (k := k) (by omega)).1
            simp only [userRow]
            omega
      · exact .of_zero hids (by rw [hic]; rfl)

/-- The next id is in bounds, or none was skipped. -/
def Target.InBounds (s' : Target) (env : Env) : Prop :=
  env.InsertsCollections ∨ s'.ic.nextId.toNat ≤ 2 ^ 63 - 65536

theorem Coherent.createCollection (h : Coherent s) (hbounds : s'.InBounds env)
    {pid requested : UInt64} {source : Option UInt64}
    (hs : CollectionStep env pid requested source s s') (hids : s'.db.IdsBelow) : Coherent s' := by
  cases hs with
  | rejected hdb hic =>
    rcases hic with hic | hic
    · exact h.of_eq (by rw [hdb]) hic
    · exact .of_zero hids (by rw [hic]; rfl)
  | ran cid hpid hpart hpick hattr hcoll hobj =>
    rcases hpick with ⟨-, hcid, hic⟩ | ⟨-, -, -, -, hic⟩
    · have hab : s.Above pid cid := hcid ▸ h.above_chosen (pid_ne_zero hpid)
      have hb := hab.bound
      obtain ⟨hbind, hfree⟩ := hab.fresh (k := 0) (by omega)
      rw [show UInt64.ofNat 0 = 0 from rfl, UInt64.add_zero] at hbind hfree
      have hnext : (cid + 1).toNat = cid.toNat + 1 := add_ofNat_toNat (k := 1) (by omega)
      refine ⟨hids, fun _ => ?_⟩
      rw [hic]
      show s'.Above pid (cid + 1)
      rcases hobj with ⟨-, ho⟩ | ⟨hno, ho⟩
      · refine ⟨by omega, ?_, fun r hr hp => ?_⟩
        · have hlast := hids (collectionRow pid cid) (by rw [ho]; simp)
          simp only [collectionRow] at hlast
          omega
        · rw [ho] at hr
          rcases List.mem_append.1 hr with hold | hr
          · have hrow := hab.rows r hold hp
            omega
          · rw [List.mem_singleton.1 hr]
            simp only [collectionRow]
            omega
      · -- an id that is skipped
        refine ⟨by omega, ?_, fun r hr hp => ?_⟩
        · rcases hbounds with henv | hle
          · rcases hno with ⟨d, hd⟩ | hhas
            · rw [henv _ d rfl] at hd
              cases hd
            · exact absurd hhas hfree
          · rwa [hic] at hle
        · rw [ho] at hr
          have hrow := hab.rows r hr hp
          omega
    · exact .of_zero hids (by rw [hic]; rfl)

theorem Coherent.createPartition (h : Coherent s) {requested : UInt64}
    (hs : PartitionStep requested s s') (hids : s'.db.IdsBelow) : Coherent s' := by
  rcases hs.obj with ho | ⟨-, -, ho⟩
  · exact h.of_eq ho hs.ic
  · refine ⟨hids, fun hp => ?_⟩
    rw [hs.ic] at hp ⊢
    obtain ⟨hpos, hbound, hrows⟩ := h.cached hp
    refine ⟨hpos, hbound, fun r hr hrp => ?_⟩
    rw [ho] at hr
    rcases List.mem_append.1 hr with hr | hr
    · exact hrows r hr hrp
    · rw [List.mem_singleton.1 hr]
      simp only [partitionRow]
      omega

theorem Coherent.idStep (h : Coherent s) (hs : IdStep s s') : Coherent s' := h.of_eq hs.obj hs.ic

/-- **One command keeps the cache coherent.** -/
theorem Coherent.step (h : Coherent s) {op : Op} (hbounds : s'.InBounds env)
    (hs : op.effect env s s') (hids : s'.db.IdsBelow) : Coherent s' := by
  have hzero : s'.ic = IdCache.zero → Coherent s' := fun hic => .of_zero hids (by rw [hic]; rfl)
  cases op with
  | create => exact h.create hs hids
  | createAndWrite =>
    rcases hs with hs | ⟨t, v, ht, hv, rfl | ⟨hs, -, -⟩⟩
    · exact h.create hs hids
    · refine Coherent.idStep ?_ hv.toIdStep
      exact h.create ht fun r hr => hids r (by rw [hv.obj]; exact hr)
    · exact hzero hs.ic
  | createCollection => exact h.createCollection hbounds hs hids
  | createPartition => exact h.createPartition hs hids
  | createUserTrackingCollection => exact h.createCollection hbounds hs hids
  | remove =>
    rcases hs with rfl | ⟨-, hs⟩
    · exact h
    · exact hzero hs.ic
  | removeCollection =>
    rcases hs with rfl | ⟨-, -, -, -, hs⟩
    · exact h
    · exact hzero hs.ic
  | removePartition =>
    rcases hs with rfl | ⟨-, -, -, hs⟩
    · exact h
    · exact hzero hs.ic
  | write => exact h.idStep hs.toIdStep
  | setAttributes => exact h.idStep hs.toIdStep
  | getattrList => exact h.idStep hs.toIdStep
  | getattrPage => exact h.idStep hs.toIdStep
  | setMemberAttributes => exact h.idStep hs.toIdStep
  | cas => exact h.idStep hs.toIdStep
  | fa => exact h.idStep hs.toIdStep
  | genCas => exact h.idStep hs.toIdStep
  | formatOsd =>
    rcases hs with hs | ⟨hdb, hic⟩
    · exact hzero hs
    · exact h.of_eq (by rw [hdb]) hic

/-! ## Runs -/

/-- The runs considered: ids stay small, in the table and in the cache. -/
def SmallIds (_ : Step) (_ s' : Target) : Prop := s'.db.IdsBelow ∧ s'.ic.nextId.toNat ≤ 2 ^ 63 - 65536

theorem Initial.coherent (h : Initial s) : Coherent s := by
  refine .of_zero (fun r hr => ?_) (by rw [h.ic]; rfl)
  rw [h.obj] at hr
  rw [List.mem_singleton.1 hr]
  constructor <;> decide

theorem Reachable.coherent (h : Reachable SmallIds s) : Coherent s :=
  h.of_effect (fun _ => Initial.coherent) fun _ _ _ _ hi he hg => hi.step (.inr hg.2) he hg.1

/-- **Id-cache coherence and freshness.**  In every reachable state every id in the cached partition
is smaller than the next one, and none of the ids that the commands choose is in use. -/
theorem idCache_coherent (h : Reachable SmallIds s) :
    (s.ic.curPid ≠ 0 → ∀ r ∈ s.db.obj, r.pid = bindInt64 s.ic.curPid → columnInt64 r.oid < s.ic.nextId) ∧
    ∀ (env : Env) (pid lb : UInt64) (numoid : UInt16), pid ≠ 0 →
      lb = USEROBJECT_OID_LB ∨ lb = COLLECTION_OID_LB →
      Ends (chooseId env pid lb) s fun picked _ => ∀ oid, picked = some oid →
        ∀ k < max numoid.toNat 1, ¬ s.db.Has (bindInt64 pid) (bindInt64 (oid + UInt64.ofNat k)) := by
  have hs := h.coherent
  refine ⟨fun hp _ => hs.lt_nextId hp, fun env pid lb numoid hpid hlb => ?_⟩
  obtain rfl : lb = OBJECT_OID_LB := by rcases hlb with h | h <;> exact h
  refine chooseId_ends (fun _ => ?_) fun _ => nofun
  rintro oid ⟨⟩ k hk
  have hn := numoid.toNat_lt
  exact ((hs.above_chosen hpid).fresh (by omega)).2

/-- After a partition and three user objects, with the cache in use. -/
theorem idCache_coherent_cached :
    let s := calmRun [.createPartition 0, .create 0x10000 0 3]
    s.ic = ⟨0x10000, 0x10003⟩ ∧
      ∀ r ∈ s.db.obj, r.pid = bindInt64 s.ic.curPid → columnInt64 r.oid < s.ic.nextId := by
  refine ⟨by decide +kernel, (idCache_coherent (.calmRun ?_)).1 (by decide +kernel)⟩
  exact ⟨by decide +kernel, ⟨by decide +kernel, by decide +kernel⟩, by decide +kernel,
    ⟨by decide +kernel, by decide +kernel⟩, trivial⟩

/-! ## Ids that are skipped -/

/-- Nothing fails but the INSERT of a collection. -/
def Env.noCollections : Env :=
  { Env.calm with dmsFails := fun st _ => match st with
      | .objInsert r => r.type = .collection
      | _ => false }

/-- A CREATE COLLECTION that fails in its INSERT moves the cache on, and nothing else. -/
theorem osdCreateCollection_skips {pid : UInt64} (hpid : COLLECTION_PID_LB ≤ pid)
    (hpart : s.db.Has (bindInt64 pid) 0) (hc : s.ic.curPid = pid) (h1 : s.ic.nextId ≠ 1) : ∃ ret,
      osdCreateCollection Env.noCollections pid 0 s = some (ret, { s with ic := ⟨pid, s.ic.nextId + 1⟩ }) := by
  have hadmits : Env.noCollections.AdmitsCollection s pid 0 :=
    ⟨hpid, fun h => absurd rfl h, rfl, hpart, fun _ h => absurd hc h, fun h => absurd rfl h⟩
  have hchosen : s.chosen pid COLLECTION_OID_LB = s.ic.nextId := by
    simp only [Target.chosen, if_pos hc, if_neg h1]
  have hends : Ends (osdCreateCollection Env.noCollections pid 0) s fun _ t =>
      t = { s with ic := ⟨pid, s.ic.nextId + 1⟩ } := by
    refine osdCreateCollection_ends (fun _ _ _ _ hno => absurd hadmits hno) fun cid ic _ hpick => ?_
    obtain ⟨-, rfl, rfl⟩ := hpick.resolve_right fun h => h.1 rfl
    rw [hchosen]
    exact insertCollection_ends (fun hins => absurd hins.1 (by simp [Env.noCollections, collectionRow])) fun _ _ _ => rfl
  obtain ⟨ret, t, hrun, rfl⟩ := hends.of_halts (halts_osdCreateCollection pid 0)
  exact ⟨ret, hrun⟩

/-- **Any number of ids can be skipped.** -/
theorem Reachable.skips {G : Step → Target → Target → Prop} {pid : UInt64} (h : Reachable G s)
    (hopen : s.opened = true) (hpid : COLLECTION_PID_LB ≤ pid) (hpart : s.db.Has (bindInt64 pid) 0)
    (hc : s.ic.curPid = pid) (hG : ∀ t t', t'.db = s.db → G ⟨Env.noCollections, .createCollection pid 0⟩ t t')
    {n : Nat} (hn : s.ic.nextId.toNat + n ≤ 2 ^ 64) (h1 : 1 < s.ic.nextId.toNat) :
    Reachable G { s with ic := ⟨pid, s.ic.nextId + UInt64.ofNat n⟩ } := by
  induction n with
  | zero =>
    rw [show UInt64.ofNat 0 = 0 from rfl, UInt64.add_zero, ← hc]
    exact h
  | succ n ih =>
    have hnext : (s.ic.nextId + UInt64.ofNat n).toNat = s.ic.nextId.toNat + n := add_ofNat_toNat (by omega)
    have hne : s.ic.nextId + UInt64.ofNat n ≠ 1 := fun h => by
      rw [h] at hnext
      have hone : (1 : UInt64).toNat = 1 := rfl
      omega
    have hrun : ∃ ret, osdCreateCollection Env.noCollections pid 0
        { s with ic := ⟨pid, s.ic.nextId + UInt64.ofNat n⟩ } = some (ret, _) :=
      osdCreateCollection_skips hpid hpart rfl hne
    have hstep : s.ic.nextId + UInt64.ofNat n + 1 = s.ic.nextId + UInt64.ofNat (n + 1) := by
      rw [UInt64.add_assoc]
      exact congrArg (s.ic.nextId + ·) (UInt64.ofNat_add n 1).symm
    rw [hstep] at hrun
    exact .step ⟨Env.noCollections, .createCollection pid 0⟩ (ih (by omega)) ⟨hopen, hrun⟩ (hG _ _ rfl)

/-- After all the ids behind it were skipped. -/
def wrappedCache : Target := { oneObject with ic := ⟨0x10000, 0⟩ }

/-- **The table alone does not bound the cache**: with its ids small for ever, the next id may still wrap
around to 0. -/
theorem idCache_coherent_skipped : ¬ ∀ s, Reachable (fun _ _ s' => s'.db.IdsBelow) s →
    s.ic.curPid ≠ 0 → ∀ r ∈ s.db.obj, r.pid = bindInt64 s.ic.curPid → columnInt64 r.oid < s.ic.nextId := by
  intro h
  have hids : oneObject.db.IdsBelow := by decide +kernel
  have hreached : Reachable (fun _ _ s' => s'.db.IdsBelow) oneObject :=
    .calmRun ⟨by decide +kernel, by decide +kernel, by decide +kernel, by decide +kernel, trivial⟩
  have hnext : oneObject.ic.nextId = 0x10001 := by decide +kernel
  have hpart : oneObject.db.Has (bindInt64 0x10000) 0 := by decide +kernel
  have hskipped := hreached.skips (n := 2 ^ 64 - 0x10001) (by decide +kernel) (by decide) hpart
    (by decide +kernel) (fun _ t' hdb r hr => hids r (hdb ▸ hr)) (by rw [hnext]; decide) (by rw [hnext]; decide)
  rw [hnext, show (0x10001 : UInt64) + UInt64.ofNat (2 ^ 64 - 0x10001) = 0 by decide] at hskipped
  have hwrapped : Reachable (fun _ _ s' => s'.db.IdsBelow) wrappedCache := hskipped
  have hlast := h wrappedCache hwrapped (by decide +kernel) ⟨0x10000, 0x10000, .userobject⟩
    (by decide +kernel) (by decide +kernel)
  exact absurd hlast (by decide +kernel)

end OsdTarget
