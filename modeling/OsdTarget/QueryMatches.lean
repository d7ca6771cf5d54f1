import OsdTarget.Query
import Mathlib.Data.List.Pairwise

/-!
# What a QUERY selects

The statement joins the members of the collection with the attributes of all objects that have the same
id, in any partition, and compares numbers as it prints them with numbers as they are stored.
-/

namespace OsdTarget

open Base

/-! ## What is asked for -/

/-- The value lies between the bounds there are. -/
def Criterion.InRange (c : Criterion) (v : List UInt8) : Prop :=
  (c.min = [] ∨ c.min ≤ v) ∧ (c.max = [] ∨ v ≤ c.max)

/-- The object has the attribute, and its value lies between the bounds. -/
def Criterion.HoldsFor (d : Db) (pid oid : UInt64) (c : Criterion) : Prop :=
  ∃ r ∈ d.attr, r.key = (bindInt64 pid, bindInt64 oid, bindInt c.page, bindInt c.number) ∧
    c.InRange r.value

/-- Some criterion holds, for type 0, or every criterion; always when there are none. -/
def QueryCriteria.Holds (qc : QueryCriteria) (P : Criterion → Prop) : Prop :=
  if qc.queryType = 0 then qc.entries = [] ∨ ∃ c ∈ qc.entries, P c else ∀ c ∈ qc.entries, P c

/-- The member meets the criteria. -/
def QueryMatches (d : Db) (pid cid : UInt64) (qc : QueryCriteria) (oid : UInt64) : Prop :=
  d.IsMember pid cid oid ∧ qc.Holds (Criterion.HoldsFor d pid oid)

/-- The statement selects exactly the members that match, once each and ascending. -/
def QueryExact (d : Db) (pid cid : UInt64) (qc : QueryCriteria) : Prop :=
  let ids := (queryRows d pid cid qc).map columnInt64
  ids.Pairwise (· < ·) ∧ ∀ oid, oid ∈ ids ↔ QueryMatches d pid cid qc oid

/-! ## What the statement looks at -/

/-- Some object with this id, in whatever partition, has attributes and meets the criteria, numbers taken
as printed. -/
def FoundAnywhere (d : Db) (qc : QueryCriteria) (oid : UInt64) : Prop :=
  (∃ r ∈ d.attr, r.oid = bindInt64 oid) ∧
    qc.Holds fun c => ∃ r ∈ d.attr, r.oid = bindInt64 oid ∧ c.Where r

/-- The columns of `coll` are 64-bit integers. -/
def Db.CollInt64 (d : Db) : Prop :=
  ∀ r ∈ d.coll, (r.pid < 2 ^ 63 ∧ r.cid < 2 ^ 63) ∧ -2 ^ 63 ≤ r.oid ∧ r.oid < 2 ^ 63

section

variable {d : Db} {pid cid : UInt64} {qc : QueryCriteria}

theorem mem_selectOids {cond : AttrRow → Prop} [DecidablePred cond] {z : Int} :
    z ∈ selectOids d pid cid cond ↔
      (∃ r ∈ d.coll, r.key = (sqlLiteral pid.toNat, sqlLiteral cid.toNat, z)) ∧
        ∃ r ∈ d.attr, r.oid = z ∧ cond r := by
  simp only [selectOids, List.mem_flatMap, List.mem_map, List.mem_filter, decide_eq_true_eq, true_and]
  constructor
  · rintro ⟨r, hr, a, ⟨ha, heq, hpid, hcid, hcond⟩, rfl⟩
    exact ⟨⟨r, hr, Prod.ext hpid (Prod.ext hcid heq)⟩, a, ha, rfl, hcond⟩
  · rintro ⟨⟨r, hr, hkey⟩, a, ha, rfl, hcond⟩
    obtain ⟨hpid, hkey⟩ := Prod.ext_iff.1 hkey
    obtain ⟨hcid, hoid⟩ := Prod.ext_iff.1 hkey
    exact ⟨r, hr, a, ⟨ha, hoid, hpid, hcid, hcond⟩, rfl⟩

/-- One SELECT after the other is joined to what is there. -/
theorem mem_foldl_setOp {cs : List Criterion} {l : List Int} {z : Int} :
    z ∈ cs.foldl (fun l (c : Criterion) => setOp qc.queryType l (selectOids d pid cid c.Where)) l ↔
      if qc.queryType = 0 then z ∈ l ∨ ∃ c ∈ cs, z ∈ selectOids d pid cid c.Where
      else z ∈ l ∧ ∀ c ∈ cs, z ∈ selectOids d pid cid c.Where := by
  induction cs generalizing l with
  | nil => simp
  | cons c cs ih =>
    rw [List.foldl_cons, ih, setOp]
    by_cases h0 : qc.queryType = 0
    · simp only [if_pos h0, List.mem_append, List.exists_mem_cons_iff, or_assoc]
    · simp only [if_neg h0, List.mem_filter, List.forall_mem_cons, decide_eq_true_eq, and_assoc]

/-- The rows are the members, as printed, with attributes that meet the criteria. -/
theorem mem_queryRows {z : Int} :
    z ∈ queryRows d pid cid qc ↔
      (∃ r ∈ d.coll, r.key = (sqlLiteral pid.toNat, sqlLiteral cid.toNat, z)) ∧
        (∃ r ∈ d.attr, r.oid = z) ∧ qc.Holds fun c => ∃ r ∈ d.attr, r.oid = z ∧ c.Where r := by
  unfold queryRows QueryCriteria.Holds
  rw [mem_ascending, List.mem_dedup]
  cases hqc : qc.entries with
  | nil =>
    dsimp only
    rw [mem_selectOids]
    simp
  | cons c cs =>
    dsimp only
    rw [mem_foldl_setOp]
    by_cases h0 : qc.queryType = 0
    · rw [if_pos h0, if_pos h0]
      simp only [mem_selectOids]
      constructor
      · rintro (⟨hm, r, hr, ho, hw⟩ | ⟨c', hc', hm, r, hr, ho, hw⟩)
        · exact ⟨hm, ⟨r, hr, ho⟩, .inr ⟨c, List.mem_cons_self, r, hr, ho, hw⟩⟩
        · exact ⟨hm, ⟨r, hr, ho⟩, .inr ⟨c', List.mem_cons_of_mem _ hc', r, hr, ho, hw⟩⟩
      · rintro ⟨hm, -, hnil | ⟨c', hc', hrow⟩⟩
        · cases hnil
        · rcases List.mem_cons.1 hc' with rfl | hc'
          · exact .inl ⟨hm, hrow⟩
          · exact .inr ⟨c', hc', hm, hrow⟩
    · rw [if_neg h0, if_neg h0]
      simp only [mem_selectOids]
      constructor
      · rintro ⟨⟨hm, r, hr, ho, hw⟩, hall⟩
        refine ⟨hm, ⟨r, hr, ho⟩, List.forall_mem_cons.2 ⟨⟨r, hr, ho, hw⟩, fun c' hc' => (hall c' hc').2⟩⟩
      · rintro ⟨hm, -, hall⟩
        obtain ⟨hfirst, hrest⟩ := List.forall_mem_cons.1 hall
        exact ⟨⟨hm, hfirst⟩, fun c' hc' => ⟨hm, hrest c' hc'⟩⟩

end

/-! ## When the selection is right -/

/-- No member is lost: those that match are in a partition and collection whose ids are stored as printed,
and the statement finds them. -/
def NoneLost (d : Db) (pid cid : UInt64) (qc : QueryCriteria) : Prop :=
  ∀ oid, QueryMatches d pid cid qc oid →
    pid.toNat < 2 ^ 63 ∧ cid.toNat < 2 ^ 63 ∧ FoundAnywhere d qc oid

/-- No member is selected for the attributes of other objects with its id. -/
def NoneForeign (d : Db) (pid cid : UInt64) (qc : QueryCriteria) : Prop :=
  pid.toNat < 2 ^ 63 → cid.toNat < 2 ^ 63 → ∀ oid, d.IsMember pid cid oid → FoundAnywhere d qc oid →
    qc.Holds (Criterion.HoldsFor d pid oid)

/-- The ids that match are stored as numbers of one sign. -/
def OneSide (d : Db) (pid cid : UInt64) (qc : QueryCriteria) : Prop :=
  ∀ oid oid', QueryMatches d pid cid qc oid → QueryMatches d pid cid qc oid' → oid.toNat < 2 ^ 63 →
    oid'.toNat < 2 ^ 63

section

variable {d : Db} {pid cid : UInt64} {qc : QueryCriteria}

/-- A member as printed is a member, where ids are stored as printed. -/
theorem member_iff (hcoll : d.CollInt64) {oid : UInt64} :
    (∃ r ∈ d.coll, r.key = (sqlLiteral pid.toNat, sqlLiteral cid.toNat, bindInt64 oid)) ↔
      pid.toNat < 2 ^ 63 ∧ cid.toNat < 2 ^ 63 ∧ d.IsMember pid cid oid := by
  constructor
  · rintro ⟨r, hr, hkey⟩
    have hpid : r.pid = pid.toNat := (Prod.ext_iff.1 hkey).1
    have hcid : r.cid = cid.toNat := (Prod.ext_iff.1 (Prod.ext_iff.1 hkey).2).1
    have hb := (hcoll r hr).1
    have hp : pid.toNat < 2 ^ 63 := by omega
    have hc : cid.toNat < 2 ^ 63 := by omega
    refine ⟨hp, hc, r, hr, ?_⟩
    rw [hkey, bindInt64_of_lt hp, bindInt64_of_lt hc]
    rfl
  · rintro ⟨hp, hc, r, hr, hkey⟩
    refine ⟨r, hr, ?_⟩
    rw [hkey, bindInt64_of_lt hp, bindInt64_of_lt hc]
    rfl

theorem queryRows_bounds (hcoll : d.CollInt64) {z : Int} (hz : z ∈ queryRows d pid cid qc) :
    -2 ^ 63 ≤ z ∧ z < 2 ^ 63 := by
  obtain ⟨⟨r, hr, hkey⟩, -⟩ := mem_queryRows.1 hz
  have ho : r.oid = z := (Prod.ext_iff.1 (Prod.ext_iff.1 hkey).2).2
  exact ho ▸ (hcoll r hr).2

/-- The ids the statement selects, as the client sees them. -/
theorem mem_queryIds (hcoll : d.CollInt64) {oid : UInt64} :
    oid ∈ (queryRows d pid cid qc).map columnInt64 ↔
      pid.toNat < 2 ^ 63 ∧ cid.toNat < 2 ^ 63 ∧ d.IsMember pid cid oid ∧ FoundAnywhere d qc oid := by
  have hrow : oid ∈ (queryRows d pid cid qc).map columnInt64 ↔
      bindInt64 oid ∈ queryRows d pid cid qc := by
    rw [List.mem_map]
    constructor
    · rintro ⟨z, hz, rfl⟩
      obtain ⟨h0, h⟩ := queryRows_bounds hcoll hz
      rwa [bindInt64_columnInt64 h0 h]
    · exact fun h => ⟨_, h, columnInt64_bindInt64 oid⟩
  rw [hrow, mem_queryRows, member_iff hcoll]
  exact ⟨fun ⟨⟨hp, hc, hm⟩, hf⟩ => ⟨hp, hc, hm, hf⟩, fun ⟨hp, hc, hm, hf⟩ => ⟨⟨hp, hc, hm⟩, hf⟩⟩

/-- Rows come in the order of their signed values. -/
theorem queryRows_sorted : (queryRows d pid cid qc).Pairwise (· < ·) :=
  (sortedLT_ascending (List.nodup_dedup _)).pairwise

/-- The order of ids of one sign is that of the columns. -/
theorem id_lt_iff {x y : UInt64} (h : x.toNat < 2 ^ 63 ↔ y.toNat < 2 ^ 63) :
    x < y ↔ bindInt64 x < bindInt64 y := by
  have hx := x.toNat_lt
  have hy := y.toNat_lt
  rw [UInt64.lt_iff_toNat_lt]
  unfold bindInt64
  split <;> split <;> omega

theorem queryIds_sorted_iff (hcoll : d.CollInt64) :
    ((queryRows d pid cid qc).map columnInt64).Pairwise (· < ·) ↔
      ∀ x ∈ (queryRows d pid cid qc).map columnInt64, ∀ y ∈ (queryRows d pid cid qc).map columnInt64,
        x.toNat < 2 ^ 63 → y.toNat < 2 ^ 63 := by
  rw [List.pairwise_map]
  constructor
  · intro hsort x hx y hy hxlt
    obtain ⟨a, ha, rfl⟩ := List.mem_map.1 hx
    obtain ⟨b, hb, rfl⟩ := List.mem_map.1 hy
    by_contra hge
    have hba : b < a := by
      obtain ⟨ha0, ha1⟩ := queryRows_bounds hcoll ha
      obtain ⟨hb0, hb1⟩ := queryRows_bounds hcoll hb
      rw [← bindInt64_columnInt64 ha0 ha1, ← bindInt64_columnInt64 hb0 hb1, bindInt64_of_lt hxlt,
        bindInt64, if_neg hge]
      have := (columnInt64 b).toNat_lt
      omega
    -- the smaller row comes first, so its id is smaller too
    let Ordered (x y : Int) : Prop :=
      (x < y → columnInt64 x < columnInt64 y) ∧ (y < x → columnInt64 y < columnInt64 x)
    have : Std.Symm Ordered := ⟨fun _ _ h => ⟨h.2, h.1⟩⟩
    have horder : (queryRows d pid cid qc).Pairwise Ordered :=
      (queryRows_sorted.and hsort).imp fun ⟨hlt, hid⟩ => ⟨fun _ => hid, fun hgt => absurd hlt hgt.asymm⟩
    have hrefl : ∀ x ∈ queryRows d pid cid qc, Ordered x x :=
      fun x _ => ⟨fun h => absurd h (lt_irrefl x), fun h => absurd h (lt_irrefl x)⟩
    have hlt := UInt64.lt_iff_toNat_lt.1 ((horder.forall_of_forall hrefl hb ha).1 hba)
    omega
  · intro hside
    refine queryRows_sorted.imp_of_mem fun {a b} ha hb hlt => ?_
    obtain ⟨ha0, ha1⟩ := queryRows_bounds hcoll ha
    obtain ⟨hb0, hb1⟩ := queryRows_bounds hcoll hb
    have ha' := List.mem_map_of_mem (f := columnInt64) ha
    have hb' := List.mem_map_of_mem (f := columnInt64) hb
    rw [id_lt_iff ⟨hside _ ha' _ hb', hside _ hb' _ ha'⟩, bindInt64_columnInt64 ha0 ha1,
      bindInt64_columnInt64 hb0 hb1]
    exact hlt

end

/-- A collection of one object, and an object of another partition with the same id. -/
def twoPartitions : Db where
  obj := []
  coll := [⟨0x10000, 0x10001, 0x10002, 0⟩]
  attr := [⟨0x10000, 0x10002, 0x10, 1, some [5]⟩, ⟨0x10001, 0x10002, 0x20, 1, some [7]⟩]

/-- Attribute 1 of page `page`, at least `min`. -/
def atLeast (page : UInt32) (min : List UInt8) : QueryCriteria := ⟨0, [⟨page, 1, min, []⟩]⟩

theorem twoPartitions_member {oid : UInt64} (h : twoPartitions.IsMember 0x10000 0x10001 oid) :
    oid = 0x10002 := by
  obtain ⟨r, hr, hkey⟩ := h
  obtain rfl := List.mem_singleton.1 hr
  have hoid : bindInt64 0x10002 = bindInt64 oid := (Prod.ext_iff.1 (Prod.ext_iff.1 hkey).2).2
  exact (bindInt64_inj.1 hoid).symm

end OsdTarget
