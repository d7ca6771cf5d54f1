import OsdTarget.CreateLists
import OsdTarget.PairsApart

/-!
# CREATE of several objects

As many commands for one object each set all entries on one object before they make the next.  They come to
the same objects as one command for all, unless a pointer of the list names an object that is not yet there.
-/

namespace OsdTarget

open Base

variable {env : Env} {pid oid : UInt64} {indata : Mem} {s s' t : Target}

/-! ## As many commands for one object each -/

/-- The command for another number of objects. -/
def Command.withNumoid (cmd : Command) (n : UInt16) : Command := { cmd with cdb := cmd.cdb.write 32 (htons n) }

section Fields

variable {cmd : Command} {n : UInt16} {fuel : Nat}

theorem getNtohl_withNumoid {off : Nat} (h : off + 4 ≤ 32 ∨ 34 ≤ off) :
    getNtohl (cmd.withNumoid n).cdb off = getNtohl cmd.cdb off := by
  unfold getNtohl Command.withNumoid
  rw [Mem.read_write_of_disjoint h]

theorem getNtohll_withNumoid {off : Nat} (h : off + 8 ≤ 32) :
    getNtohll (cmd.withNumoid n).cdb off = getNtohll cmd.cdb off := by
  unfold getNtohll Command.withNumoid
  rw [Mem.read_write_of_disjoint (.inl h)]

theorem pid_withNumoid : (cmd.withNumoid n).pid = cmd.pid := getNtohll_withNumoid (by decide)

theorem oid_withNumoid : (cmd.withNumoid n).oid = cmd.oid := getNtohll_withNumoid (by decide)

theorem numoid_withNumoid : (cmd.withNumoid n).numoid = atLeastOne n :=
  congrArg atLeastOne (getNtohs_of_read (Mem.read_write_self cmd.cdb 32 (htons n)))

theorem setListCheck_withNumoid : setListCheck (cmd.withNumoid n) = setListCheck cmd := by
  unfold setListCheck getNtohoffset
  rw [getNtohl_withNumoid (.inr (by decide)), getNtohl_withNumoid (.inr (by decide))]
  rfl

theorem entries_withNumoid : (cmd.withNumoid n).entries fuel = cmd.entries fuel := by
  unfold Command.entries
  rw [setListCheck_withNumoid]
  rfl

theorem Command.ListEnds.withNumoid (h : cmd.ListEnds fuel) : (cmd.withNumoid n).ListEnds fuel := by
  unfold Command.ListEnds at h ⊢
  rw [setListCheck_withNumoid]
  exact h

theorem Command.OnlySets.withNumoid (h : cmd.OnlySets) : (cmd.withNumoid n).OnlySets :=
  ⟨h.format, (getNtohl_withNumoid (.inr (by decide))).trans h.gets⟩

/-- A pointer among the settings is one among the entries. -/
theorem pointsTo_iff (hsets : cmd.OnlySets) {cid : UInt64} : cmd.PointsTo fuel cid ↔
    ∃ e ∈ cmd.entries fuel, e.page = USER_COLL_PG ∧ e.len = 8 ∧
      getNtohll (cmd.indata.shift e.cval) 0 = cid := by
  have hsettings : cmd.settings fuel = (cmd.entries fuel).map fun e =>
      ⟨e.page, some (cmd.indata.shift e.cval), e.len⟩ := by
    unfold Command.settings Command.entries
    rw [if_neg (by rw [hsets.format]; decide), if_pos hsets.format]
    cases setListCheck cmd <;> rfl
  unfold Command.PointsTo
  rw [hsettings]
  simp only [List.mem_map, exists_exists_and_eq_and, Option.map_some, Option.some_inj]

end Fields

variable (env) in
/-- CREATE of one object `n` times, the first failure being the last command. -/
def createEach (cmd : Command) (fuel : Nat) (used : UInt32) : Nat → OsdM Ret
  | 0 => return .ok
  | n + 1 => do
    let (ret, _) ← cdbCreate env (cmd.withNumoid 1) fuel used
    if ret ≠ .ok then
      return ret
    createEach cmd fuel used n

/-! ## One object after the other -/

theorem ButTxn.apart {K : Int → Int → Prop} (h : ButTxn s t) : Apart K s t := by
  obtain ⟨b, l, rfl⟩ := h
  exact Untransacted.txn s b l

/-- Objects that are added to states which agree. -/
theorem Apart.withObjects {K : Int → Int → Prop} (h : Apart K s t) (pid oid : UInt64) (n : Nat) :
    Apart K (s.withObjects pid oid n) (t.withObjects pid oid n) where
  obj := Agrees.append (K := fun r : ObjRow => K r.pid r.oid) h.obj _
  attr := h.attr
  coll := h.coll
  files p o hk := by
    unfold Target.withObjects
    dsimp only
    rw [h.files p o hk]
  rootFreed := h.rootFreed

theorem withObjects_one (s : Target) (k : Nat) :
    (s.withObjects pid oid k).withObjects pid (oid + UInt64.ofNat k) 1 = s.withObjects pid oid (k + 1) := by
  have hone : ∀ u : Target, u.withObjects pid (oid + UInt64.ofNat k) 1 =
      (u.setObj (u.db.obj ++ [userRow pid (oid + UInt64.ofNat k)])).setFile pid (oid + UInt64.ofNat k)
        (some []) := by
    intro u
    have h := u.withObjects_succ pid (oid + UInt64.ofNat k) 0
    rw [u.withObjects_zero, show oid + UInt64.ofNat k + UInt64.ofNat 0 = oid + UInt64.ofNat k from
      UInt64.add_zero _] at h
    exact h.symm
  rw [hone, Target.withObjects_succ]

/-- The objects from the `k`-th on are the difference. -/
theorem apart_withObjects {K : Int → Int → Prop} (s : Target) (pid oid : UInt64) {k n : Nat} (hkn : k ≤ n)
    (hK : ∀ j, k ≤ j → j < n → K (bindInt64 pid) (bindInt64 (oid + UInt64.ofNat j))) :
    Apart K (s.withObjects pid oid k) (s.withObjects pid oid n) := by
  induction n, hkn using Nat.le_induction with
  | base => exact (Apart.equivalence K).refl _
  | succ n hkn ih =>
    have hadmits : AdmitsObject (Apart K) pid (oid + UInt64.ofNat n) := Apart.admitsObject (hK n hkn (by omega))
    have hnext := (hadmits.insert (s.withObjects pid oid n) .userobject).trans (hadmits.file _ (some []))
    rw [← Target.withObjects_succ]
    exact (ih fun j hj hjn => hK j hj (by omega)).trans hnext

theorem apart_afterCreate {K : Int → Int → Prop} (s : Target) (pid oid : UInt64) (n : UInt16) :
    Apart K (s.withObjects pid oid (createCount oid n)) (s.afterCreate pid oid n) :=
  ⟨⟨fun _ _ => rfl, fun _ _ => rfl, fun _ _ => rfl, fun _ _ _ => rfl⟩, rfl⟩

theorem others_of_ne {j k : Nat} (hk : oid.toNat + k < 2 ^ 64) (hj : oid.toNat + j < 2 ^ 64) (hjk : j ≠ k) :
    Others pid (oid + UInt64.ofNat k) (bindInt64 pid) (bindInt64 (oid + UInt64.ofNat j)) :=
  fun h => hjk (add_ofNat_inj hj hk (bindInt64_inj.1 h.2))

/-- Between the command for all objects, which left `b`, and as many for one object each, `k` of which have
come to `t`: the next id is the one after theirs, and each of their objects is as in `b`. -/
structure Midway (b s : Target) (pid oid : UInt64) (k : Nat) (t : Target) : Prop where
  obj : t.db.obj = (s.withObjects pid oid k).db.obj
  kept : Apart (IdRange pid oid k) s t
  done : ∀ j < k, Apart (Others pid (oid + UInt64.ofNat j)) b t
  ic : t.ic = if k = 0 then s.ic else ⟨pid, oid + UInt64.ofNat k⟩

section Steps

variable {b : Target} {k n : Nat}

theorem createsObjects_pos {n : UInt16} (h : env.CreatesObjects s pid (atLeastOne n))
    (hfits : (s.chosen pid USEROBJECT_OID_LB).toNat + (atLeastOne n).toNat < 2 ^ 64) :
    0 < (s.chosen pid USEROBJECT_OID_LB).toNat := by
  refine Nat.pos_of_ne_zero fun h0 => ?_
  have hcount := createCount_of_fits hfits
  have hfirst := (h.creates 0 (Nat.le_refl 0) (by rw [hcount, Nat.zero_add]; exact atLeastOne_pos n)).inserts.2
  rw [Target.withObjects_zero, show s.chosen pid USEROBJECT_OID_LB + UInt64.ofNat 0 = 0 from
    (UInt64.add_zero _).trans (UInt64.toNat_inj.1 h0)] at hfirst
  exact hfirst h.admits.partition

theorem Midway.chosen (h : Midway b s pid (s.chosen pid USEROBJECT_OID_LB) k t)
    (hpos : 0 < (s.chosen pid USEROBJECT_OID_LB).toNat)
    (hfits : (s.chosen pid USEROBJECT_OID_LB).toNat + k < 2 ^ 64) :
    t.chosen pid USEROBJECT_OID_LB = s.chosen pid USEROBJECT_OID_LB + UInt64.ofNat k := by
  by_cases hk : k = 0
  · subst hk
    have hsame : t.chosen pid USEROBJECT_OID_LB = s.chosen pid USEROBJECT_OID_LB := by
      unfold Target.chosen Db.maxOid
      rw [h.ic, if_pos rfl, h.obj, Target.withObjects_zero]
    exact hsame.trans (UInt64.add_zero _).symm
  · have hne : s.chosen pid USEROBJECT_OID_LB + UInt64.ofNat k ≠ 1 := by
      intro h1
      have hnat := congrArg UInt64.toNat h1
      rw [add_ofNat_toNat hfits] at hnat
      have hone : (1 : UInt64).toNat = 1 := rfl
      omega
    unfold Target.chosen
    rw [h.ic, if_neg hk]
    dsimp only
    rw [if_pos rfl, if_neg hne]
    rfl

theorem Midway.chooses (hb : env.Blind) (h : Midway b s pid oid k t) (hs : env.Chooses s pid) :
    env.Chooses t pid := by
  intro hne
  by_cases hk : k = 0
  · rw [h.ic, if_pos hk] at hne
    rw [hb.query _ t.db s.db]
    exact hs hne
  · rw [h.ic, if_neg hk] at hne
    exact absurd rfl hne

theorem has_withObjects (s : Target) {p o : Int} : (s.withObjects pid oid n).db.Has p o ↔
    s.db.Has p o ∨ IdRange pid oid n p o := by
  unfold Db.Has Target.withObjects IdRange
  simp only [List.mem_append, or_and_right, exists_or, List.mem_map, List.mem_range]
  refine or_congr_right ⟨?_, ?_⟩
  · rintro ⟨_, ⟨j, hj, rfl⟩, rfl, rfl⟩
    exact ⟨j, hj, rfl, rfl⟩
  · rintro ⟨j, hj, rfl, rfl⟩
    exact ⟨_, ⟨j, hj, rfl⟩, rfl, rfl⟩

/-- The next object can be created where only the ones before it are new. -/
theorem Midway.creates (hb : env.Blind) (h : Midway b s pid oid k t) (hfits : oid.toNat + k < 2 ^ 64)
    (hs : env.Creates (s.withObjects pid oid k) pid (oid + UInt64.ofNat k)) :
    env.Creates t pid (oid + UInt64.ofNat k) := by
  have hhas : t.db.Has = (s.withObjects pid oid k).db.Has := by
    unfold Db.Has
    rw [h.obj]
  have hout : ¬ IdRange pid oid k (bindInt64 pid) (bindInt64 (oid + UInt64.ofNat k)) := by
    rintro ⟨j, hj, -, ho⟩
    exact absurd (add_ofNat_inj hfits (by omega) (bindInt64_inj.1 ho)) (Nat.ne_of_gt hj)
  refine ⟨⟨hb.dms _ t.db (s.withObjects pid oid k).db ▸ hs.inserts.1, hhas ▸ hs.inserts.2⟩,
    hs.makes.stat, ?_, hs.makes.creat, h.kept.rootFreed ▸ hs.makes.root⟩
  have habsent := hs.makes.absent
  unfold Target.lookup at habsent ⊢
  rw [h.kept.rootFreed, h.kept.files _ _ hout]
  have hfile : (s.withObjects pid oid k).files pid (oid + UInt64.ofNat k) = s.files pid (oid + UInt64.ofNat k) :=
    if_neg fun ⟨_, j, hj, ho⟩ => hout ⟨j, hj, rfl, congrArg bindInt64 ho⟩
  rwa [hfile] at habsent

theorem createCount_single {oid : UInt64} (h : oid.toNat + 1 < 2 ^ 64) : createCount oid 1 = 1 :=
  createCount_eq (by decide) h

theorem createCount_at {m : UInt16} (hk : k < createCount oid m) : createCount (oid + UInt64.ofNat k) 1 = 1 := by
  obtain ⟨hlt, hfits⟩ := createCount_fits hk
  have hsum : (oid + UInt64.ofNat k).toNat = oid.toNat + k := add_ofNat_toNat (by omega)
  exact createCount_single (by omega)

/-- To the next object, the state with it looks like the one with all of them. -/
theorem Midway.next (h : Midway b s pid oid k t) {m : UInt16} (hk : k < createCount oid m) :
    Apart (Others pid (oid + UInt64.ofNat k)) (s.afterCreate pid oid m)
      (t.afterCreate pid (oid + UInt64.ofNat k) 1) := by
  obtain ⟨hlt, hfits⟩ := createCount_fits hk
  have hle := createCount_le oid m
  have hother : ∀ j, j ≠ k → j < m.toNat →
      Others pid (oid + UInt64.ofNat k) (bindInt64 pid) (bindInt64 (oid + UInt64.ofNat j)) :=
    fun j hjk hj => others_of_ne (by omega) (by omega) hjk
  have hlater := apart_withObjects s pid oid hk
    fun j hj hjn => hother j (by omega) (by omega)
  have hbefore := apart_withObjects s pid oid (Nat.zero_le k)
    fun j _ hjk => hother j (by omega) (by omega)
  rw [Target.withObjects_zero] at hbefore
  have hkept : Apart (Others pid (oid + UInt64.ofNat k)) s t := by
    refine h.kept.mono ?_
    rintro p o ⟨j, hj, rfl, rfl⟩
    exact hother j (by omega) (by omega)
  have hsame : Apart (Others pid (oid + UInt64.ofNat k)) (s.withObjects pid oid k) t :=
    hbefore.symm.trans hkept
  have hone := hsame.withObjects pid (oid + UInt64.ofNat k) 1
  rw [withObjects_one] at hone
  have hall := hlater.symm.trans hone
  have hsingle := apart_afterCreate (K := Others pid (oid + UInt64.ofNat k)) t pid (oid + UInt64.ofNat k) 1
  rw [createCount_at hk] at hsingle
  exact (apart_afterCreate s pid oid m).symm.trans (hall.trans hsingle)

theorem Midway.obj_next (h : Midway b s pid oid k t) {m : UInt16} (hk : k < createCount oid m) :
    (t.afterCreate pid (oid + UInt64.ofNat k) 1).db.obj = (s.withObjects pid oid (k + 1)).db.obj := by
  refine Eq.trans ?_ (congrArg (fun u : Target => u.db.obj) (withObjects_one s k))
  show t.db.obj ++ (List.range (createCount (oid + UInt64.ofNat k) 1)).map _ =
    (s.withObjects pid oid k).db.obj ++ (List.range 1).map _
  rw [h.obj, createCount_at hk]

variable {cmd : Command} {fuel : Nat} {used used' : UInt32}

/-- None of the pointers of the list names an object after the first. -/
def Command.PointsBefore (cmd : Command) (fuel : Nat) (oid : UInt64) : Prop :=
  ∀ j, 0 < j → j < cmd.numoid.toNat → ¬ cmd.PointsTo fuel (oid + UInt64.ofNat j)

theorem Midway.createsObjects (hb : env.Blind) (h : Midway b s pid (s.chosen pid USEROBJECT_OID_LB) k t)
    {m : UInt16} (hs : env.CreatesObjects s pid (atLeastOne m))
    (hk : k < createCount (s.chosen pid USEROBJECT_OID_LB) (atLeastOne m)) : env.CreatesObjects t pid 1 := by
  obtain ⟨hlt, hfits⟩ := createCount_fits hk
  have hpartition : t.db.Has (bindInt64 pid) 0 := by
    have hthere : (s.withObjects pid (s.chosen pid USEROBJECT_OID_LB) k).db.Has (bindInt64 pid) 0 :=
      (has_withObjects s).2 (.inl hs.admits.partition)
    unfold Db.Has at hthere ⊢
    rwa [h.obj]
  have hids : env.AdmitsIds t pid 0 := ⟨hs.admits.pid_lb, fun h => absurd rfl h,
    hb.query _ t.db s.db ▸ hs.admits.asked, hpartition, fun h => absurd rfl h⟩
  refine ⟨⟨hids, fun _ => h.chooses hb (hs.admits.chooses rfl)⟩, ?_⟩
  rw [h.chosen (createsObjects_pos hs hfits) (by omega), createCount_at hk]
  intro j _ hj
  obtain rfl : j = 0 := by omega
  rw [Target.withObjects_zero]
  show env.Creates t pid (_ + 0)
  rw [UInt64.add_zero]
  exact h.creates hb (by omega) (hs.creates k (Nat.zero_le k) (by omega))

/-- **What the command for all objects did to the next one**, the command for it alone does. -/
theorem Midway.pairs (hb : env.Blind) (h : Midway b s pid oid k t) {m : UInt16} {le : List ListEntry}
    {v : Target} (hk : k < createCount oid m)
    (hv : runPairs env pid indata true (setPairs oid (createCount oid m) le) (s.afterCreate pid oid m)
      = some (.ok, v))
    (hpoint : ∀ e ∈ le, e.page = USER_COLL_PG → e.len = 8 → ∀ j, 0 < j → j < createCount oid m →
      getNtohll (indata.shift e.cval) 0 ≠ oid + UInt64.ofNat j) :
    ∃ t', runPairs env pid indata true (setPairs (oid + UInt64.ofNat k) 1 le)
        (t.afterCreate pid (oid + UInt64.ofNat k) 1) = some (.ok, t') ∧
      Apart (Others pid (oid + UInt64.ofNat k)) v t' := by
  obtain ⟨hlt, hfits⟩ := createCount_fits hk
  have hle := createCount_le oid m
  have hready := h.next hk
  have hobj := h.obj_next hk
  obtain ⟨t', ht', happart⟩ := runPairs_project hb hv hready rfl fun p hp _ hpage hhas => by
    -- what the pair names was there before, or is the first of the new objects
    have hlen := (runPairs_pointer hv hp hpage).1
    have hmem := (mem_setPairs.1 hp).1
    have hnext : (t.afterCreate pid (oid + UInt64.ofNat k) 1).db.Has = (s.withObjects pid oid (k + 1)).db.Has := by
      unfold Db.Has
      rw [hobj]
    rw [hnext, has_withObjects]
    rcases (has_withObjects (n := createCount oid m) s).1 hhas with hold | ⟨j, hj, -, ho⟩
    · exact .inl hold
    · obtain rfl : j = 0 := by
        by_contra hne
        exact hpoint p.2 hmem hpage hlen j (Nat.pos_of_ne_zero hne) hj (bindInt64_inj.1 ho)
      exact .inr ⟨0, Nat.succ_pos k, rfl, ho⟩
  refine ⟨t', ?_, happart⟩
  rwa [filter_setPairs hk (by omega)] at ht'

theorem Midway.butTxn {v : Target} (h : Midway b s pid oid k t) (htv : ButTxn t v) : Midway b s pid oid k v := by
  have happart : ∀ K, Apart K t v := fun _ => htv.apart
  obtain ⟨c, l, rfl⟩ := htv
  exact ⟨h.obj, h.kept.trans (happart _), fun j hj => (h.done j hj).trans (happart _), h.ic⟩

/-- The pairs of the next object change nothing of the others. -/
theorem Midway.succ {v : Target} (h : Midway b s pid oid k t) {m : UInt16} {le : List ListEntry}
    (hk : k < createCount oid m)
    (hrun : runPairs env pid indata true (setPairs (oid + UInt64.ofNat k) 1 le)
      (t.afterCreate pid (oid + UInt64.ofNat k) 1) = some (.ok, v))
    (hdone : Apart (Others pid (oid + UInt64.ofNat k)) b v) : Midway b s pid oid (k + 1) v := by
  obtain ⟨hlt, hfits⟩ := createCount_fits hk
  have hone := createCount_at hk
  have hself : oid + UInt64.ofNat k + UInt64.ofNat 0 = oid + UInt64.ofNat k := UInt64.add_zero _
  have hchanges : ∀ {K : Int → Int → Prop}, K (bindInt64 pid) (bindInt64 (oid + UInt64.ofNat k)) →
      Apart K t v ∧ SameHolders (t.afterCreate pid (oid + UInt64.ofNat k) 1) v := by
    intro K hK
    obtain ⟨hpairs, hsame⟩ := runPairs_apart (K := K) hrun fun p hp => by
      obtain ⟨-, j, hj, hoid⟩ := mem_setPairs.1 hp
      obtain rfl : j = 0 := by omega
      rw [hoid, hself]
      exact hK
    have hafter := apart_afterCreate (K := K) t pid (oid + UInt64.ofNat k) 1
    have hnew := apart_withObjects (K := K) t pid (oid + UInt64.ofNat k) (Nat.zero_le 1)
      fun j _ hj => by
        obtain rfl : j = 0 := by omega
        rw [hself]
        exact hK
    rw [Target.withObjects_zero] at hnew
    rw [hone] at hafter
    exact ⟨hnew.trans (hafter.trans hpairs), hsame⟩
  have hsame := (hchanges (K := fun _ _ => True) trivial).2
  refine ⟨hsame.obj.trans (h.obj_next hk), ?_, fun j hj => ?_, ?_⟩
  · have hkept : Apart (IdRange pid oid (k + 1)) s t :=
      h.kept.mono fun p o ⟨j, hj, hpo⟩ => ⟨j, Nat.lt_succ_of_lt hj, hpo⟩
    exact hkept.trans (hchanges ⟨k, Nat.lt_succ_self k, rfl, rfl⟩).1
  · rcases Nat.lt_succ_iff_lt_or_eq.1 hj with hj | rfl
    · exact (h.done j hj).trans (hchanges (others_of_ne (by omega) (by omega) (Nat.ne_of_gt hj))).1
    · exact hdone
  · rw [hsame.ic, if_neg (Nat.succ_ne_zero k)]
    show (⟨pid, oid + UInt64.ofNat k + 1 + 0⟩ : IdCache) = _
    rw [UInt64.add_zero, UInt64.ofNat_add, ← UInt64.add_assoc]
    rfl

theorem pairsFrom_withNumoid (hcount : createCount oid 1 = 1) :
    (cmd.withNumoid 1).pairsFrom oid fuel = setPairs oid 1 (cmd.entries fuel) := by
  unfold Command.pairsFrom
  rw [numoid_withNumoid, show atLeastOne 1 = 1 from rfl, hcount, entries_withNumoid]

/-- **One command for one object**, from the state midway. -/
theorem Midway.step (used : UInt32) (hb : env.Blind) (hsets : cmd.OnlySets) (hoid : cmd.oid = 0)
    (hfits : (s.chosen cmd.pid USEROBJECT_OID_LB).toNat + cmd.numoid.toNat < 2 ^ 64)
    (hall : cmd.Creates env fuel s b)
    (hpoint : cmd.PointsBefore fuel (s.chosen cmd.pid USEROBJECT_OID_LB))
    (h : Midway b s cmd.pid (s.chosen cmd.pid USEROBJECT_OID_LB) k t) (hk : k < cmd.numoid.toNat) :
    ∃ t', cdbCreate env (cmd.withNumoid 1) fuel used t = some ((.ok, used), t') ∧
      Midway b s cmd.pid (s.chosen cmd.pid USEROBJECT_OID_LB) (k + 1) t' := by
  obtain ⟨hcreates, hends, v, hv, hvb⟩ := hall
  have hcount : createCount (s.chosen cmd.pid USEROBJECT_OID_LB) cmd.numoid = cmd.numoid.toNat :=
    createCount_of_fits hfits
  have hk : k < createCount (s.chosen cmd.pid USEROBJECT_OID_LB) cmd.numoid := hcount ▸ hk
  have hsingle := h.createsObjects hb hcreates hk
  have hchosen := h.chosen (createsObjects_pos hcreates hfits) (by omega)
  obtain ⟨t', ht', happart⟩ := h.pairs hb hk hv fun e he hpage hlen j hj hjm heq =>
    hpoint j hj (hcount ▸ hjm) ((pointsTo_iff hsets).2 ⟨e, he, hpage, hlen, heq⟩)
  have hone := createCount_at hk
  have hobj := h.obj_next hk
  generalize s.chosen cmd.pid USEROBJECT_OID_LB = oid at *
  have hrun : (cmd.withNumoid 1).Creates env fuel t t' := by
    refine ⟨?_, hends.withNumoid, t', ?_, t'.inTxn, t'.txnCalls, rfl⟩
    · rw [pid_withNumoid, numoid_withNumoid]
      exact hsingle
    · rw [pid_withNumoid, hchosen, numoid_withNumoid, pairsFrom_withNumoid hone]
      exact ht'
  obtain ⟨w, hw, htw⟩ := cdbCreate_run used hsets.withNumoid (oid_withNumoid.trans hoid) hrun
  have hdone := hvb.apart.symm.trans happart
  exact ⟨w, hw, (h.succ hk ht' hdone).butTxn htw⟩

/-- **The commands one after the other**, from the state midway. -/
theorem createEach_midway (used : UInt32) (hb : env.Blind) (hsets : cmd.OnlySets) (hoid : cmd.oid = 0)
    (hfits : (s.chosen cmd.pid USEROBJECT_OID_LB).toNat + cmd.numoid.toNat < 2 ^ 64)
    (hall : cmd.Creates env fuel s b)
    (hpoint : cmd.PointsBefore fuel (s.chosen cmd.pid USEROBJECT_OID_LB)) (n : Nat)
    (h : Midway b s cmd.pid (s.chosen cmd.pid USEROBJECT_OID_LB) k t) (hn : k + n ≤ cmd.numoid.toNat) :
    ∃ t', createEach env cmd fuel used n t = some (.ok, t') ∧
      Midway b s cmd.pid (s.chosen cmd.pid USEROBJECT_OID_LB) (k + n) t' := by
  induction n generalizing k t with
  | zero => exact ⟨t, rfl, h⟩
  | succ n ih =>
    obtain ⟨u, hu, hmid⟩ := h.step used hb hsets hoid hfits hall hpoint (by omega)
    obtain ⟨t', ht', hlast⟩ := ih hmid (by omega)
    refine ⟨t', (bind_of_some hu).trans ht', ?_⟩
    rwa [Nat.add_comm n 1, ← Nat.add_assoc]

/-- The first of the commands. -/
theorem createEach_first (h : createEach env cmd fuel used (n + 1) s = some (.ok, t)) :
    ∃ used' u, cdbCreate env (cmd.withNumoid 1) fuel used s = some ((.ok, used'), u) := by
  have hend : Ends (createEach env cmd fuel used (n + 1)) s fun ret _ => ret = .ok →
      ∃ used' u, cdbCreate env (cmd.withNumoid 1) fuel used s = some ((.ok, used'), u) := by
    refine ends_bind.2 fun r u hu => ends_ite_of (fun hno => ends_pure.2 fun h => absurd h hno)
      fun hok _ _ _ _ => ?_
    obtain ⟨ret, used'⟩ := r
    obtain rfl : ret = .ok := not_not.1 hok
    exact ⟨used', u, hu⟩
  exact hend _ _ h rfl

/-- Where the first command succeeds, the list names no later object. -/
theorem pointsBefore_of_first (hsets : cmd.OnlySets) (hoid : cmd.oid = 0)
    (hfits : (s.chosen cmd.pid USEROBJECT_OID_LB).toNat + cmd.numoid.toNat < 2 ^ 64)
    (hall : env.CreatesObjects s cmd.pid cmd.numoid)
    (hfirst : cdbCreate env (cmd.withNumoid 1) fuel used s = some ((.ok, used'), s')) :
    cmd.PointsBefore fuel (s.chosen cmd.pid USEROBJECT_OID_LB) := by
  intro j hj hjn hpoints
  have hcount : createCount (s.chosen cmd.pid USEROBJECT_OID_LB) cmd.numoid = cmd.numoid.toNat :=
    createCount_of_fits hfits
  have hone : createCount (s.chosen cmd.pid USEROBJECT_OID_LB) 1 = 1 := createCount_single (by omega)
  obtain ⟨-, -, v, hv, -⟩ := cdbCreate_ok hsets.withNumoid (oid_withNumoid.trans hoid) hfirst
  rw [pid_withNumoid, numoid_withNumoid, pairsFrom_withNumoid hone] at hv
  obtain ⟨e, he, hpage, -, hcid⟩ := (pointsTo_iff hsets).1 hpoints
  have hmem : (s.chosen cmd.pid USEROBJECT_OID_LB, e) ∈
      setPairs (s.chosen cmd.pid USEROBJECT_OID_LB) 1 (cmd.entries fuel) :=
    mem_setPairs.2 ⟨he, 0, Nat.one_pos, (UInt64.add_zero _).symm⟩
  have hhas : (s.afterCreate cmd.pid (s.chosen cmd.pid USEROBJECT_OID_LB) 1).db.Has (bindInt64 cmd.pid)
      (bindInt64 (s.chosen cmd.pid USEROBJECT_OID_LB + UInt64.ofNat j)) :=
    hcid ▸ (runPairs_pointer hv hmem hpage).2
  rcases (has_withObjects s).1 hhas with hold | ⟨i, hi, -, ho⟩
  · refine (hall.creates j (Nat.zero_le j) (by rw [hcount]; omega)).inserts.2 ?_
    exact (has_withObjects s).2 (.inl hold)
  · rw [hone] at hi
    exact absurd (add_ofNat_inj (by omega) (by omega) (bindInt64_inj.1 ho)) (by omega)

theorem chosen_le (hids : s.db.IdsBelow) (hnext : s.ic.curPid ≠ 0 → s.ic.nextId.toNat ≤ 2 ^ 63 - 65536)
    (hpid : pid ≠ 0) : (s.chosen pid USEROBJECT_OID_LB).toNat ≤ 2 ^ 63 - 65536 := by
  let next := if s.ic.curPid = pid then s.ic.nextId else columnInt64 (s.db.maxOid (bindInt64 pid)) + 1
  have hle : next.toNat ≤ 2 ^ 63 - 65536 := by
    by_cases hc : s.ic.curPid = pid
    · simpa only [next, if_pos hc] using hnext (hc ▸ hpid)
    · have huncached : Coherent { s with ic := IdCache.zero } := .of_zero hids rfl
      simpa only [next, if_neg hc] using (huncached.above_maxOid pid).bound
  show (if next = 1 then USEROBJECT_OID_LB else next).toNat ≤ _
  split
  · decide
  · exact hle

end Steps

section

variable {cmd : Command} {fuel : Nat} {used used' : UInt32}

theorem Midway.sameContents {b : Target} (h : Midway b s pid oid n t) (hb : Apart (IdRange pid oid n) s b) :
    SameContents b t := by
  refine sameContents_of_cover fun p o => ?_
  by_cases hr : IdRange pid oid n p o
  · obtain ⟨j, hj, hpo⟩ := hr
    exact ⟨_, h.done j hj, fun hother => hother hpo⟩
  · exact ⟨_, hb.symm.trans h.kept, hr⟩

/-- What CREATE leaves of other objects, and of the cache. -/
theorem Command.Creates.leaves {b : Target} {n : Nat} (h : cmd.Creates env fuel s b)
    (hcount : createCount (s.chosen cmd.pid USEROBJECT_OID_LB) cmd.numoid = n) :
    Apart (IdRange cmd.pid (s.chosen cmd.pid USEROBJECT_OID_LB) n) s b ∧
      b.ic = ⟨cmd.pid, s.chosen cmd.pid USEROBJECT_OID_LB + 1 + (cmd.numoid.toUInt64 - 1)⟩ := by
  obtain ⟨-, -, v, hv, hvb⟩ := h
  generalize s.chosen cmd.pid USEROBJECT_OID_LB = oid at *
  unfold Command.pairsFrom at hv
  rw [hcount] at hv
  obtain ⟨hpairs, hsame⟩ := runPairs_apart (K := IdRange cmd.pid oid n) hv fun p hp => by
    obtain ⟨-, j, hj, hoid⟩ := mem_setPairs.1 hp
    exact ⟨j, hj, rfl, congrArg bindInt64 hoid⟩
  have hnew := apart_withObjects (K := IdRange cmd.pid oid n) s cmd.pid oid (Nat.zero_le n)
    fun j _ hj => ⟨j, hj, rfl, rfl⟩
  rw [Target.withObjects_zero] at hnew
  have hafter := apart_afterCreate (K := IdRange cmd.pid oid n) s cmd.pid oid cmd.numoid
  rw [hcount] at hafter
  refine ⟨hnew.trans (hafter.trans (hpairs.trans hvb.apart)), ?_⟩
  obtain ⟨c, l, rfl⟩ := hvb
  exact hsame.ic

/-- **CREATE of several objects** leaves what as many commands for one object leave, exactly when none of the
collection pointers it sets names one of the objects after the first. -/
theorem cdbCreate_each_iff (hb : env.Blind) (hsets : cmd.OnlySets) (hoid : cmd.oid = 0) (hids : s.db.IdsBelow)
    (hnext : s.ic.curPid ≠ 0 → s.ic.nextId.toNat ≤ 2 ^ 63 - 65536)
    (hrun : cdbCreate env cmd fuel used s = some ((.ok, used'), s')) :
    (∃ t, createEach env cmd fuel used cmd.numoid.toNat s = some (.ok, t) ∧ SameContents s' t ∧
      t.ic = s'.ic) ↔
      cmd.PointsBefore fuel (s.chosen cmd.pid USEROBJECT_OID_LB) := by
  have hall := cdbCreate_ok hsets hoid hrun
  have hpid : cmd.pid ≠ 0 := pid_ne_zero hall.objects.admits.pid_lb
  have hlow := chosen_le hids hnext hpid
  have hn := cmd.numoid.toNat_lt
  have hfits : (s.chosen cmd.pid USEROBJECT_OID_LB).toNat + cmd.numoid.toNat < 2 ^ 64 := by omega
  have hpos : 0 < cmd.numoid.toNat := atLeastOne_pos _
  constructor
  · rintro ⟨t, ht, -⟩
    obtain ⟨n, hsucc⟩ := Nat.exists_eq_succ_of_ne_zero (Nat.ne_of_gt hpos)
    rw [hsucc] at ht
    obtain ⟨used'', u, hfirst⟩ := createEach_first ht
    exact pointsBefore_of_first hsets hoid hfits hall.objects hfirst
  · intro hpoint
    have hstart : Midway s' s cmd.pid (s.chosen cmd.pid USEROBJECT_OID_LB) 0 s :=
      ⟨by rw [Target.withObjects_zero], (Apart.equivalence _).refl s,
        fun j hj => absurd hj (Nat.not_lt_zero j), rfl⟩
    obtain ⟨t, ht, hlast⟩ := createEach_midway used hb hsets hoid hfits hall hpoint cmd.numoid.toNat
      hstart (Nat.le_of_eq (Nat.zero_add _))
    rw [Nat.zero_add] at hlast
    obtain ⟨hrest, hic⟩ := hall.leaves (createCount_of_fits hfits)
    refine ⟨t, ht, hlast.sameContents hrest, ?_⟩
    rw [hic, hlast.ic, if_neg (Nat.ne_of_gt hpos)]
    have hlastid : s.chosen cmd.pid USEROBJECT_OID_LB + UInt64.ofNat cmd.numoid.toNat =
        s.chosen cmd.pid USEROBJECT_OID_LB + 1 + (cmd.numoid.toUInt64 - 1) := by
      rw [UInt64.add_assoc, UInt64.add_comm 1, UInt64.sub_add_cancel, UInt64.ofNat_uInt16ToNat]
    rw [hlastid]

end

/-- CREATE of two objects in the first partition, with an attribute to set on this page: number 1, and the id
of the second object as its value. -/
def createTwoWith (page : UInt32) : Command where
  cdb := blobMem (List.replicate 17 0 ++ [0, 0, 0, 0, 1, 0, 0] ++ List.replicate 8 0 ++ [0, 2] ++
    List.replicate 34 0 ++ htonl 32)
  getsetCdbfmt := GETLIST_SETLIST
  retrievedAttrOff := 0
  indata := blobMem ([9, 0, 0, 0, 0, 0, 0, 24] ++ htonl page ++ htonl 1 ++ List.replicate 6 0 ++ [0, 8] ++
    htonll 0x10001)
  inlen := 32
  hasOutdata := true

theorem cdbCreate_each_iff_two : ∃ s' t,
    cdbCreate Env.calm (createTwoWith 0x10000) 2 0 emptyPartition = some ((.ok, 0), s') ∧
      createEach Env.calm (createTwoWith 0x10000) 2 0 (createTwoWith 0x10000).numoid.toNat emptyPartition
        = some (.ok, t) ∧ SameContents s' t ∧ t.ic = s'.ic := by
  have hrun : (cdbCreate Env.calm (createTwoWith 0x10000) 2 0 emptyPartition).map Prod.fst = some (.ok, 0) := by
    decide +kernel
  obtain ⟨⟨r, s'⟩, hs', hr⟩ := Option.map_eq_some_iff.1 hrun
  obtain rfl : r = (.ok, 0) := hr
  have hpages : ∀ x ∈ (createTwoWith 0x10000).settings 2, x.page ≠ USER_COLL_PG := by decide +kernel
  have hcalm : Env.calm.Blind := ⟨fun _ _ _ => rfl, fun _ _ _ => rfl⟩
  obtain ⟨t, ht⟩ := (cdbCreate_each_iff hcalm ⟨rfl, by decide +kernel⟩ (by decide +kernel)
    (by decide +kernel) (by decide +kernel) hs').2 fun _ _ _ ⟨x, hx, hpage, _⟩ => hpages x hx hpage
  exact ⟨s', t, hs', ht⟩

/-- The pointer is set on both objects when both are there, and not when the first is alone. -/
theorem cdbCreate_each_pointer : ¬ ∀ s used' s', Reachable SmallIds s →
    (∀ r ∈ s.db.obj, 0 ≤ r.oid ∧ r.oid < 2 ^ 63 - 2 ^ 17) →
    cdbCreate Env.calm (createTwoWith USER_COLL_PG) 2 0 s = some ((.ok, used'), s') →
    ∃ t, createEach Env.calm (createTwoWith USER_COLL_PG) 2 0 (createTwoWith USER_COLL_PG).numoid.toNat s
      = some (.ok, t) ∧ SameContents s' t ∧ t.ic = s'.ic := by
  intro h
  have hrun : (cdbCreate Env.calm (createTwoWith USER_COLL_PG) 2 0 emptyPartition).map Prod.fst
      = some (.ok, 0) := by decide +kernel
  have hfails : (createEach Env.calm (createTwoWith USER_COLL_PG) 2 0
      (createTwoWith USER_COLL_PG).numoid.toNat emptyPartition).map Prod.fst ≠ some .ok := by decide +kernel
  obtain ⟨⟨r, s'⟩, hs', hr⟩ := Option.map_eq_some_iff.1 hrun
  obtain rfl : r = (.ok, 0) := hr
  have hsmall : Reachable SmallIds emptyPartition :=
    .calmRun ⟨by decide +kernel, ⟨by decide +kernel, by decide +kernel⟩, trivial⟩
  obtain ⟨t, ht, -⟩ := h _ _ _ hsmall (by decide +kernel) hs'
  exact hfails (by rw [ht]; rfl)

end OsdTarget
