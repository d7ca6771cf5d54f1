import OsdTarget.GetList
import OsdTarget.ObjectDescriptors

/-!
# The rows of LIST with attributes

The statement of `mtq_list_oids_attr` is one SELECT for the marker and one for each attribute asked for,
sorted by object.  Ids, pages and numbers are printed into its text without a sign, while the tables hold
what was bound as signed integers; a row is found where the two agree.
-/

namespace OsdTarget

open Base

/-! ## What there is to list -/

/-- The user objects of a partition from an id on, in ascending order. -/
def Db.userobjects (d : Db) (pid initial : UInt64) : List UInt64 :=
  (ascending ((d.obj.filter fun r =>
    r.pid = bindInt64 pid ∧ r.type = .userobject ∧ initial ≤ columnInt64 r.oid).map
      fun r => (columnInt64 r.oid).toNat)).map UInt64.ofNat

/-- The numbers printed into the statement select the rows of the object. -/
def Selects (pid initial oid : UInt64) : Prop :=
  sqlLiteral pid.toNat = bindInt64 pid ∧ sqlLiteral initial.toNat ≤ bindInt64 oid

/-- The numbers printed for an attribute are those stored. -/
def Printed (a : UInt32 × UInt32) : Prop :=
  sqlLiteral a.1.toNat = bindInt a.1 ∧ sqlLiteral a.2.toNat = bindInt a.2

instance (pid initial oid : UInt64) : Decidable (Selects pid initial oid) :=
  inferInstanceAs (Decidable (_ ∧ _))

instance (a : UInt32 × UInt32) : Decidable (Printed a) := inferInstanceAs (Decidable (_ ∧ _))

/-- An attribute of an object, if it is defined. -/
def Db.sought (d : Db) (pid initial oid : UInt64) (a : UInt32 × UInt32) : Option Sought :=
  (d.attribute pid oid a.1 a.2).map fun v => ⟨a.1, a.2, v, decide (Selects pid initial oid ∧ Printed a)⟩

theorem Db.sought_marks {d : Db} {pid initial oid : UInt64} :
    ∀ m ∈ d.sought pid initial oid (USER_TMSTMP_PG, 0), m.marks := by
  intro m hm
  obtain ⟨v, -, rfl⟩ := Option.map_eq_some_iff.1 hm
  exact ⟨rfl, rfl⟩

/-- An object with the attributes asked for that are defined on it. -/
def Db.listedObject (d : Db) (pid initial : UInt64) (getAttr : List (UInt32 × UInt32)) (oid : UInt64) :
    Listed :=
  ⟨oid, d.sought pid initial oid (USER_TMSTMP_PG, 0), getAttr.filterMap (d.sought pid initial oid),
    Db.sought_marks⟩

def Db.listed (d : Db) (pid initial : UInt64) (getAttr : List (UInt32 × UInt32)) : List Listed :=
  (d.userobjects pid initial).map (d.listedObject pid initial getAttr)

/-- What the tables hold: the primary keys, numbers that were bound, and ids other than 0 for user
objects. -/
structure Db.Stores (d : Db) : Prop where
  objKeys : (d.obj.map ObjRow.key).Nodup
  attrKeys : (d.attr.map AttrRow.key).Nodup
  ids : ∀ r ∈ d.obj, r.pid < 2 ^ 63 ∧ -2 ^ 63 ≤ r.oid ∧ r.oid < 2 ^ 63
  numbers : ∀ r ∈ d.attr, r.page < 2 ^ 31 ∧ r.number < 2 ^ 31
  userobjects : ∀ r ∈ d.obj, r.type = .userobject → r.oid ≠ 0

/-! ## The statement -/

section Rows

variable {d : Db} {pid initial : UInt64}

theorem sqlLiteral_eq_bindInt64 {x : UInt64} (h : (x.toNat : Int) < 2 ^ 63) :
    sqlLiteral x.toNat = bindInt64 x := (bindInt64_of_lt (by omega)).symm

theorem sqlLiteral_eq_bindInt {x : UInt32} (h : (x.toNat : Int) < 2 ^ 31) :
    sqlLiteral x.toNat = bindInt x := (if_pos (by omega)).symm

/-- The row as the loop sees it: SQL NULL looks like an empty BLOB. -/
def AttrRow.shown (r : AttrRow) : AttrRow := { r with blob := some r.value }

theorem listOidsAttrLoop_shown (env : Env) (rows : List AttrRow) (c : OdeCursor) :
    listOidsAttrLoop env (rows.map AttrRow.shown) c = listOidsAttrLoop env rows c := by
  induction rows generalizing c with
  | nil => rfl
  | cons r rows ih =>
    rw [List.map_cons, listOidsAttrLoop, listOidsAttrLoop]
    simp only [ih]
    rfl

/-- The rows of an object's attribute, found or not. -/
theorem attr_filter_eq (h : d.Stores) {oid : UInt64} (hsel : Selects pid initial oid)
    (a : UInt32 × UInt32) :
    (d.attr.filter fun r => r.pid = bindInt64 pid ∧ r.oid = bindInt64 oid ∧
        r.page = sqlLiteral a.1.toNat ∧ r.number = sqlLiteral a.2.toNat).map AttrRow.shown
      = ((d.sought pid initial oid a).toList.filter Sought.found).map fun x => rowOf pid (oid, x) := by
  unfold Db.sought Db.attribute
  by_cases hp : Printed a
  · have hkey : (d.attr.filter fun r => r.pid = bindInt64 pid ∧ r.oid = bindInt64 oid ∧
        r.page = sqlLiteral a.1.toNat ∧ r.number = sqlLiteral a.2.toNat)
        = d.attr.filter fun r => r.key = (bindInt64 pid, bindInt64 oid, bindInt a.1, bindInt a.2) := by
      refine List.filter_congr fun r _ => decide_eq_decide.2 ?_
      rw [hp.1, hp.2, AttrRow.key, Prod.mk.injEq, Prod.mk.injEq, Prod.mk.injEq]
    rw [hkey, filter_key h.attrKeys]
    cases hf : d.attr.find? fun r => r.key = (bindInt64 pid, bindInt64 oid, bindInt a.1, bindInt a.2) with
    | none => rfl
    | some r =>
      have hr : r.key = (bindInt64 pid, bindInt64 oid, bindInt a.1, bindInt a.2) := by
        simpa using List.find?_some hf
      obtain ⟨p, o, page, number, v⟩ := r
      simp only [AttrRow.key, Prod.mk.injEq] at hr
      obtain ⟨rfl, rfl, rfl, rfl⟩ := hr
      have hfound : decide (Selects pid initial oid ∧ Printed a) = true := decide_eq_true ⟨hsel, hp⟩
      show [_] = List.map _ (List.filter Sought.found
        [⟨a.1, a.2, v.getD [], decide (Selects pid initial oid ∧ Printed a)⟩])
      rw [hfound]
      rfl
  · -- a number of 2^31 or more is stored with a sign
    have hnone : ∀ r ∈ d.attr, ¬ (r.page = sqlLiteral a.1.toNat ∧ r.number = sqlLiteral a.2.toNat) := by
      rintro r hr ⟨hpage, hnumber⟩
      have hlt := h.numbers r hr
      rw [hpage, hnumber] at hlt
      exact hp ⟨sqlLiteral_eq_bindInt hlt.1, sqlLiteral_eq_bindInt hlt.2⟩
    rw [List.filter_eq_nil_iff.2 fun r hr => by
      rw [decide_eq_true_iff]
      exact fun hc => hnone r hr hc.2.2]
    refine (List.map_eq_nil_iff.2 (List.filter_eq_nil_iff.2 fun x hx => ?_)).symm
    obtain ⟨v, -, rfl⟩ := Option.map_eq_some_iff.1 (Option.mem_toList.1 hx)
    rw [decide_eq_true_iff]
    exact fun hc => hp hc.2

/-- An object that the statement does not select has no rows. -/
theorem sought_unselected {oid : UInt64} (hsel : ¬ Selects pid initial oid) (a : UInt32 × UInt32) :
    (d.sought pid initial oid a).toList.filter Sought.found = [] := by
  refine List.filter_eq_nil_iff.2 fun x hx => ?_
  obtain ⟨v, -, rfl⟩ := Option.map_eq_some_iff.1 (Option.mem_toList.1 hx)
  rw [decide_eq_true_iff]
  exact fun hc => hsel hc.1

/-- **One SELECT, one object**: the row of the attribute, if it is found. -/
theorem listedAttrRows_filter (h : d.Stores) {o : ObjRow} (ho : o ∈ d.obj) (htype : o.type = .userobject)
    (hpid : o.pid = bindInt64 pid) (hsel : Selects pid initial (columnInt64 o.oid)) (a : UInt32 × UInt32) :
    ((listedAttrRows d (sqlLiteral pid.toNat) (sqlLiteral initial.toNat) (sqlLiteral a.1.toNat)
        (sqlLiteral a.2.toNat)).filter (fun r => r.oid = o.oid)).map AttrRow.shown
      = ((d.sought pid initial (columnInt64 o.oid) a).toList.filter Sought.found).map
        fun x => rowOf pid (columnInt64 o.oid, x) := by
  have hids := h.ids o ho
  have hoid : bindInt64 (columnInt64 o.oid) = o.oid := bindInt64_columnInt64 hids.2.1 hids.2.2
  have honly : (d.obj.filter fun x => x.pid = sqlLiteral pid.toNat ∧ x.type = .userobject ∧
      sqlLiteral initial.toNat ≤ x.oid).filter (fun x => x.oid = o.oid) = [o] := by
    rw [List.filter_filter, ← filter_key_of_mem h.objKeys ho]
    refine List.filter_congr fun x hx => ?_
    rw [Bool.eq_iff_iff, Bool.and_eq_true, decide_eq_true_iff, decide_eq_true_iff, decide_eq_true_iff,
      ObjRow.key, ObjRow.key, Prod.mk.injEq, hsel.1, hpid]
    constructor
    · rintro ⟨hoid, hpid, -, -⟩
      exact ⟨hpid, hoid⟩
    · rintro ⟨hp, hxo⟩
      have hsame : x = o := List.inj_on_of_nodup_map h.objKeys hx ho (by
        rw [ObjRow.key, ObjRow.key, hp, hxo, hpid])
      subst hsame
      exact ⟨rfl, hp, htype, hoid ▸ hsel.2⟩
  have hother : ∀ x : ObjRow, decide (x.oid = o.oid) = false →
      (d.attr.filter fun r => r.pid = x.pid ∧ r.oid = x.oid ∧ r.page = sqlLiteral a.1.toNat ∧
        r.number = sqlLiteral a.2.toNat).filter (fun r => r.oid = o.oid) = [] := by
    intro x hx
    rw [List.filter_filter, List.filter_eq_nil_iff]
    intro r _ hc
    rw [Bool.and_eq_true, decide_eq_true_iff, decide_eq_true_iff] at hc
    exact of_decide_eq_false hx (hc.2.2.1.symm.trans hc.1)
  rw [← attr_filter_eq h hsel a, hoid]
  unfold listedAttrRows
  rw [List.filter_flatMap, ← flatMap_filter_of_nil fun x _ => hother x, honly, List.flatMap_singleton,
    List.filter_filter]
  refine congrArg (List.map AttrRow.shown) (List.filter_congr fun r _ => ?_)
  rw [Bool.eq_iff_iff, Bool.and_eq_true, decide_eq_true_iff, decide_eq_true_iff, decide_eq_true_iff, hpid]
  exact ⟨fun hc => hc.2, fun hc => ⟨hc.2.1, hc⟩⟩

/-! ## The objects -/

theorem mem_userobjects {oid : UInt64} : oid ∈ d.userobjects pid initial ↔
    ∃ r ∈ d.obj, r.pid = bindInt64 pid ∧ r.type = .userobject ∧ initial ≤ columnInt64 r.oid ∧
      columnInt64 r.oid = oid := by
  unfold Db.userobjects
  rw [List.mem_map]
  constructor
  · rintro ⟨n, hn, rfl⟩
    obtain ⟨r, hr, rfl⟩ := List.mem_map.1 (mem_ascending.1 hn)
    obtain ⟨hmem, hr⟩ := List.mem_filter.1 hr
    obtain ⟨hpid, htype, hle⟩ := of_decide_eq_true hr
    exact ⟨r, hmem, hpid, htype, hle, UInt64.ofNat_toNat.symm⟩
  · rintro ⟨r, hmem, hpid, htype, hle, rfl⟩
    refine ⟨(columnInt64 r.oid).toNat, mem_ascending.2 (List.mem_map.2 ⟨r, ?_, rfl⟩), UInt64.ofNat_toNat⟩
    exact List.mem_filter.2 ⟨hmem, decide_eq_true ⟨hpid, htype, hle⟩⟩

theorem userobjects_ascending (h : d.Stores) :
    (d.userobjects pid initial).Pairwise fun x y => x.toNat < y.toNat := by
  have hnodup : ((d.obj.filter fun r =>
      r.pid = bindInt64 pid ∧ r.type = .userobject ∧ initial ≤ columnInt64 r.oid).map
        fun r => (columnInt64 r.oid).toNat).Nodup := by
    refine List.Nodup.map_on (fun r hr r' hr' he => ?_) (h.objKeys.of_map.filter _)
    obtain ⟨hr, hp⟩ := List.mem_filter.1 hr
    obtain ⟨hr', hp'⟩ := List.mem_filter.1 hr'
    have hoid : r.oid = r'.oid := by
      rw [← bindInt64_columnInt64 (h.ids r hr).2.1 (h.ids r hr).2.2, UInt64.toNat_inj.1 he,
        bindInt64_columnInt64 (h.ids r' hr').2.1 (h.ids r' hr').2.2]
    have hpid : r.pid = r'.pid := (of_decide_eq_true hp).1.trans (of_decide_eq_true hp').1.symm
    exact List.inj_on_of_nodup_map h.objKeys hr hr' (by rw [ObjRow.key, ObjRow.key, hpid, hoid])
  unfold Db.userobjects
  rw [List.pairwise_map]
  refine (sortedLT_ascending hnodup).pairwise.imp_of_mem fun {x y} hx hy hlt => ?_
  have hback : ∀ n ∈ ascending ((d.obj.filter fun r =>
      r.pid = bindInt64 pid ∧ r.type = .userobject ∧ initial ≤ columnInt64 r.oid).map
        fun r => (columnInt64 r.oid).toNat), (UInt64.ofNat n).toNat = n := by
    intro n hn
    obtain ⟨r, -, rfl⟩ := List.mem_map.1 (mem_ascending.1 hn)
    rw [UInt64.ofNat_toNat]
  rw [hback x hx, hback y hy]
  exact hlt

theorem stream_listedObject (getAttr : List (UInt32 × UInt32)) (oid : UInt64) :
    (d.listedObject pid initial getAttr oid).stream = (((USER_TMSTMP_PG, 0) :: getAttr).flatMap fun a =>
      (d.sought pid initial oid a).toList.filter Sought.found).map fun a => (oid, a) := by
  show List.map _ (List.filter _ (_ ++ getAttr.filterMap _)) = _
  rw [List.filterMap_eq_flatMap_toList, ← List.filter_flatMap, List.flatMap_cons]
  rfl

/-- The rows of one object, one attribute after the other. -/
theorem stream_rows (h : d.Stores) (getAttr : List (UInt32 × UInt32)) {oid : UInt64}
    (ho : oid ∈ d.userobjects pid initial) (hsel : Selects pid initial oid) :
    ((((USER_TMSTMP_PG, 0) :: getAttr).flatMap fun a => listedAttrRows d (sqlLiteral pid.toNat)
        (sqlLiteral initial.toNat) (sqlLiteral a.1.toNat) (sqlLiteral a.2.toNat)).filter
          (fun r => r.oid = bindInt64 oid)).map AttrRow.shown
      = (d.listedObject pid initial getAttr oid).stream.map (rowOf pid) := by
  obtain ⟨o, hmem, hpid, htype, -, rfl⟩ := mem_userobjects.1 ho
  have hids := h.ids o hmem
  rw [bindInt64_columnInt64 hids.2.1 hids.2.2, List.filter_flatMap, List.map_flatMap,
    List.flatMap_congr fun a _ => listedAttrRows_filter h hmem htype hpid hsel a, stream_listedObject,
    List.map_map, List.map_flatMap]
  rfl

/-- **The rows of the statement**: those of each object that is listed, in the order of the objects. -/
theorem listOidsAttrRows_eq (h : d.Stores) (getAttr : List (UInt32 × UInt32)) :
    (listOidsAttrRows d pid initial getAttr).map AttrRow.shown
      = ((d.listed pid initial getAttr).flatMap Listed.stream).map (rowOf pid) := by
  let found := (d.userobjects pid initial).filter fun oid => Selects pid initial oid
  have hfound : ∀ oid ∈ found, oid ∈ d.userobjects pid initial ∧ Selects pid initial oid := fun oid ho =>
    ⟨(List.mem_filter.1 ho).1, of_decide_eq_true (List.mem_filter.1 ho).2⟩
  have hks : (found.map bindInt64).Pairwise (· < ·) := by
    rw [List.pairwise_map]
    refine ((userobjects_ascending h).filter _).imp_of_mem fun {x y} hx hy hlt => ?_
    have hpos : ∀ {oid}, oid ∈ found → bindInt64 oid = oid.toNat := fun ho =>
      bindInt64_of_lt (toNat_lt_of_bindInt64 (Int.le_trans (Int.natCast_nonneg _) (hfound _ ho).2.2))
    rw [hpos hx, hpos hy]
    exact Int.ofNat_lt.2 hlt
  have hmem : ∀ r ∈ ((USER_TMSTMP_PG, 0) :: getAttr).flatMap
      (fun a => listedAttrRows d (sqlLiteral pid.toNat)
      (sqlLiteral initial.toNat) (sqlLiteral a.1.toNat) (sqlLiteral a.2.toNat)),
      r.oid ∈ found.map bindInt64 := by
    intro r hr
    obtain ⟨a, -, hr⟩ := List.mem_flatMap.1 hr
    obtain ⟨o, ho, hr⟩ := List.mem_flatMap.1 hr
    obtain ⟨hmem, hsel⟩ := List.mem_filter.1 ho
    obtain ⟨hpid, htype, hle⟩ := of_decide_eq_true hsel
    have hoid : r.oid = o.oid := (of_decide_eq_true (List.mem_filter.1 hr).2).2.1
    have hids := h.ids o hmem
    have hback := bindInt64_columnInt64 hids.2.1 hids.2.2
    have hlit : sqlLiteral pid.toNat = bindInt64 pid := sqlLiteral_eq_bindInt64 (by
      have : o.pid = (pid.toNat : Int) := hpid
      omega)
    have hge : (initial.toNat : Int) ≤ o.oid := hle
    refine List.mem_map.2 ⟨columnInt64 o.oid, List.mem_filter.2 ⟨mem_userobjects.2 ⟨o, hmem,
      hpid.trans hlit, htype, ?_, rfl⟩, decide_eq_true ⟨hlit, by rw [hback]; exact hle⟩⟩,
        hback.trans hoid.symm⟩
    rw [UInt64.le_iff_toNat_le, columnInt64_toNat (by omega) (by omega)]
    omega
  unfold listOidsAttrRows
  rw [mergeSort_eq_flatMap hks hmem, List.flatMap_map, List.map_flatMap,
    List.flatMap_congr fun oid ho => stream_rows h getAttr (hfound oid ho).1 (hfound oid ho).2,
    flatMap_filter_of_nil, Db.listed, List.flatMap_map, List.map_flatMap]
  intro oid _ hsel
  have hno := of_decide_eq_false hsel
  rw [stream_listedObject, List.flatMap_congr fun a _ => sought_unselected hno a]
  simp

end Rows

end OsdTarget
