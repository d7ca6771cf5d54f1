import OsdTarget.Query
import OsdTarget.Base.GrowingText
import OsdTarget.Base.Numerals

/-!
# The SQL texts of `mtq.c`

`mtq_run_query`, `mtq_list_oids_attr` and `mtq_set_member_attrs` up to `sqlite3_prepare`: the statement is
printed piece by piece into a buffer of `MAXSQLEN * factor` bytes.  The three differ in the pieces, in the
reserve they keep, and in the width of `sqlen`.  Table names are those of the schema.
-/

namespace OsdTarget

open Base

def MAXSQLEN : Nat := 2048

def attrName : List Char := "attr".toList
def collName : List Char := "coll".toList
def objName : List Char := "obj".toList

/-- What `%u` and `%llu` print. -/
def decimal (n : Nat) : List Char := numeral 10 n

/-- One piece for each entry; what goes between two entries is appended to the first of them. -/
def joined {α : Type} (f : α → Piece) (between : List (List Char)) : List α → List Piece
  | [] => []
  | x :: xs => ⟨(f x).printed, (f x).appended ++ if xs.isEmpty then [] else between⟩ :: joined f between xs

variable (alloc : Nat → Bool) (fill : Nat → Char)

/-! ## `mtq_run_query` -/

/-- `select_stmt`. -/
def selectStmt (pid cid : UInt64) : List Char :=
  "SELECT attr.oid FROM ".toList ++ collName ++ " as coll, ".toList ++ attrName ++
    " as attr  WHERE coll.pid = coll.pid AND coll.oid = attr.oid AND  coll.pid = ".toList ++
    decimal pid.toNat ++ " AND coll.cid = ".toList ++ decimal cid.toNat ++ " ".toList

/-- `op`, for the query types there are. -/
def queryOp (queryType : UInt8) : Option (List Char) :=
  if queryType = 0 then some " UNION ".toList
  else if queryType = 1 then some " INTERSECT ".toList
  else none

/-- What is printed for one criterion. -/
def Criterion.piece (c : Criterion) : Piece where
  printed := " AND attr.page = ".toList ++ decimal c.page.toNat ++ " AND attr.number = ".toList ++
    decimal c.number.toNat ++ " ".toList
  appended := (if c.min.length > 0 then [" AND ? <= attr.value ".toList] else []) ++
    if c.max.length > 0 then [" AND attr.value <= ? ".toList] else []

def queryPlan (op : List Char) (pid cid : UInt64) (entries : List Criterion) : TextPlan where
  unit := MAXSQLEN
  factor := 2
  bits := 32
  reserve := 400
  strict := false
  head := ⟨selectStmt pid cid, []⟩
  pieces := joined Criterion.piece [op, selectStmt pid cid] entries
  tail := " GROUP BY attr.oid ORDER BY 1;".toList
  appends := true

/-- The statement of `mtq_run_query`. -/
def mtqRunQueryText (pid cid : UInt64) (qc : QueryCriteria) : Except TextState TextState :=
  match queryOp qc.queryType with
  | none => .error .nothing
  | some op => (queryPlan op pid cid qc.entries).run alloc fill

/-! ## `mtq_list_oids_attr` -/

/-- `select_stmt` there, printed for one attribute. -/
def listStmt (pid initial : UInt64) (page number : UInt32) : List Char :=
  "SELECT obj.oid as myoid, attr.page,  attr.number, attr.value FROM ".toList ++ objName ++
    " as obj, ".toList ++ attrName ++
    " as attr  WHERE obj.pid = attr.pid AND obj.oid = attr.oid AND  obj.pid = ".toList ++
    decimal pid.toNat ++ " AND obj.type = ".toList ++ decimal 0x80 ++ " AND  attr.page = ".toList ++
    decimal page.toNat ++ " AND attr.number = ".toList ++ decimal number.toNat ++
    " AND obj.oid >= ".toList ++ decimal initial.toNat ++ " ".toList

def listPlan (pid initial : UInt64) (getAttr : List (UInt32 × UInt32)) : TextPlan where
  unit := MAXSQLEN
  factor := 2
  bits := 32
  reserve := 400
  strict := true
  head := ⟨listStmt pid initial USER_TMSTMP_PG 0, [" UNION ALL ".toList]⟩
  pieces := joined (fun e => ⟨listStmt pid initial e.1 e.2, []⟩) [" UNION ALL ".toList] getAttr
  tail := " ORDER BY myoid; ".toList
  appends := false

/-- The statement of `mtq_list_oids_attr`. -/
def mtqListOidsAttrText (pid initial : UInt64) (getAttr : List (UInt32 × UInt32)) :
    Except TextState TextState :=
  if getAttr.isEmpty then .error .nothing else (listPlan pid initial getAttr).run alloc fill

/-! ## `mtq_set_member_attrs` -/

def SetEntry.piece (pid cid : UInt64) (e : SetEntry) : Piece where
  printed := " SELECT ".toList ++ decimal pid.toNat ++ ", oid, ".toList ++ decimal e.page.toNat ++
    ", ".toList ++ decimal e.number.toNat ++ ", ? FROM ".toList ++ collName ++ "  WHERE cid = ".toList ++
    decimal cid.toNat ++ " ".toList
  appended := []

def setPlan (pid cid : UInt64) (setAttr : List SetEntry) : TextPlan where
  unit := MAXSQLEN
  factor := 1
  bits := 64
  reserve := 200
  strict := true
  head := ⟨"INSERT OR REPLACE INTO ".toList ++ attrName ++ " ".toList, []⟩
  pieces := joined (SetEntry.piece pid cid) [" UNION ALL ".toList] setAttr
  tail := " ;".toList
  appends := true

/-- The statement of `mtq_set_member_attrs`. -/
def mtqSetMemberAttrsText (pid cid : UInt64) (setAttr : List SetEntry) : Except TextState TextState :=
  if setAttr.isEmpty then .error .nothing else (setPlan pid cid setAttr).run alloc fill

/-! ## The pieces fit the reserves -/

/-- The columns of a decimal number. -/
def columns (n : Nat) : Nat := Nat.log 10 n + 1

section Pieces

variable {alloc : Nat → Bool} {fill : Nat → Char} {pid cid initial : UInt64} {op : List Char}

@[simp] theorem length_decimal (n : Nat) : (decimal n).length = columns n := length_numeral (by decide)

theorem columns_le {n k : Nat} (hk : 0 < k) (h : n < 10 ^ k) : columns n ≤ k :=
  Nat.log_lt_of_lt_pow' hk.ne' h

theorem columns_uint64 (n : UInt64) : columns n.toNat ≤ 20 :=
  columns_le (by decide) (Nat.lt_trans n.toNat_lt (by decide))

theorem columns_uint32 (n : UInt32) : columns n.toNat ≤ 10 :=
  columns_le (by decide) (Nat.lt_trans n.toNat_lt (by decide))

@[simp] theorem nul_notMem_decimal (n : Nat) : nul ∉ decimal n := by
  intro h
  obtain ⟨d, hd, hnul⟩ := mem_numeral (by decide) h
  have hno : ∀ d < 10, nul ≠ d.digitChar := by decide
  exact hno d hd hnul

theorem length_selectStmt : (selectStmt pid cid).length = 132 + columns pid.toNat + columns cid.toNat := by
  have h1 : "SELECT attr.oid FROM ".toList.length = 21 := by decide
  have h2 : " as coll, ".toList.length = 10 := by decide
  have h3 : " as attr  WHERE coll.pid = coll.pid AND coll.oid = attr.oid AND  coll.pid = ".toList.length = 76 := by
    decide
  have h4 : " AND coll.cid = ".toList.length = 16 := by decide
  have hcoll : collName.length = 4 := rfl
  have hattr : attrName.length = 4 := rfl
  have hblank : " ".toList.length = 1 := rfl
  unfold selectStmt
  simp only [List.length_append, length_decimal]
  omega

theorem nul_notMem_selectStmt : nul ∉ selectStmt pid cid := by
  unfold selectStmt
  simp only [List.mem_append, nul_notMem_decimal, or_false]
  decide

/-- What one criterion comes to. -/
def Criterion.textLength (c : Criterion) : Nat :=
  37 + columns c.page.toNat + columns c.number.toNat + (if c.min = [] then 0 else 21) +
    if c.max = [] then 0 else 21

theorem length_criterionPiece (c : Criterion) : c.piece.text.length = c.textLength := by
  have h1 : " AND attr.page = ".toList.length = 17 := by decide
  have h2 : " AND attr.number = ".toList.length = 19 := by decide
  have h3 : " AND ? <= attr.value ".toList.length = 21 := by decide
  have h4 : " AND attr.value <= ? ".toList.length = 21 := by decide
  have hblank : " ".toList.length = 1 := rfl
  have hclause : ∀ (l : List UInt8) (clause : List Char), clause.length = 21 →
      (if l.length > 0 then [clause] else []).flatten.length = if l = [] then 0 else 21 := by
    intro l clause hlen
    cases l with
    | nil => rfl
    | cons x l =>
      rw [if_pos (List.length_pos_of_ne_nil (List.cons_ne_nil x l)), if_neg (List.cons_ne_nil x l)]
      simpa using hlen
  unfold Piece.text Criterion.piece Criterion.textLength
  simp only [List.length_append, List.flatten_append, length_decimal, hclause _ _ h3, hclause _ _ h4]
  omega

theorem nul_notMem_criterionPiece (c : Criterion) : nul ∉ c.piece.text := by
  have hclause : ∀ (l : List UInt8) (clause : List Char), nul ∉ clause →
      nul ∉ (if l.length > 0 then [clause] else []).flatten := by
    intro l clause hclean
    split
    · simpa using hclean
    · exact List.not_mem_nil
  unfold Piece.text Criterion.piece
  simp only [List.flatten_append, List.mem_append, not_or]
  exact ⟨⟨⟨⟨⟨by decide, nul_notMem_decimal _⟩, by decide⟩, nul_notMem_decimal _⟩, by decide⟩,
    hclause _ _ (by decide), hclause _ _ (by decide)⟩

theorem criterion_le (c : Criterion) : c.textLength ≤ 99 := by
  have hp := columns_uint32 c.page
  have hn := columns_uint32 c.number
  unfold Criterion.textLength
  split <;> split <;> omega

theorem length_listStmt {page number : UInt32} : (listStmt pid initial page number).length =
    228 + columns pid.toNat + columns page.toNat + columns number.toNat + columns initial.toNat := by
  have h1 : "SELECT obj.oid as myoid, attr.page,  attr.number, attr.value FROM ".toList.length = 66 := by decide
  have h2 : " as obj, ".toList.length = 9 := by decide
  have h3 : " as attr  WHERE obj.pid = attr.pid AND obj.oid = attr.oid AND  obj.pid = ".toList.length = 73 := by
    decide
  have h4 : " AND obj.type = ".toList.length = 16 := by decide
  have h5 : " AND  attr.page = ".toList.length = 18 := by decide
  have h6 : " AND attr.number = ".toList.length = 19 := by decide
  have h7 : " AND obj.oid >= ".toList.length = 16 := by decide
  have hobj : objName.length = 3 := rfl
  have hattr : attrName.length = 4 := rfl
  have hblank : " ".toList.length = 1 := rfl
  have htype : columns 0x80 = 3 := by decide
  unfold listStmt
  simp only [List.length_append, length_decimal]
  omega

theorem nul_notMem_listStmt {page number : UInt32} : nul ∉ listStmt pid initial page number := by
  unfold listStmt
  simp only [List.mem_append, nul_notMem_decimal, or_false]
  decide

theorem length_setPiece (e : SetEntry) : (e.piece pid cid).text.length =
    45 + columns pid.toNat + columns e.page.toNat + columns e.number.toNat + columns cid.toNat := by
  have h1 : " SELECT ".toList.length = 8 := by decide
  have h2 : ", oid, ".toList.length = 7 := by decide
  have h3 : ", ".toList.length = 2 := by decide
  have h4 : ", ? FROM ".toList.length = 9 := by decide
  have h5 : "  WHERE cid = ".toList.length = 14 := by decide
  have hcoll : collName.length = 4 := rfl
  have hblank : " ".toList.length = 1 := rfl
  unfold Piece.text SetEntry.piece
  simp only [List.length_append, List.flatten_nil, List.append_nil, length_decimal]
  omega

theorem setPiece_le (e : SetEntry) : (e.piece pid cid).text.length ≤ 105 := by
  have h1 := columns_uint64 pid
  have h2 := columns_uint64 cid
  have h3 := columns_uint32 e.page
  have h4 := columns_uint32 e.number
  rw [length_setPiece]
  omega

theorem nul_notMem_setPiece (e : SetEntry) : nul ∉ (e.piece pid cid).text := by
  unfold Piece.text SetEntry.piece
  simp only [List.flatten_nil, List.append_nil, List.mem_append, nul_notMem_decimal, or_false]
  decide

/-! ## The texts between the pieces -/

variable {α : Type} {f : α → Piece} {between : List (List Char)} {l : List α} {x : Piece}

theorem mem_joined (h : x ∈ joined f between l) : ∃ a ∈ l, x.text = (f a).text ∨
    x.text = (f a).text ++ between.flatten := by
  induction l with
  | nil => exact absurd h List.not_mem_nil
  | cons a l ih =>
    rcases List.mem_cons.1 h with rfl | h
    · refine ⟨a, List.mem_cons_self, ?_⟩
      unfold Piece.text
      cases l with
      | nil => exact .inl (by simp)
      | cons a' l => exact .inr (by simp)
    · obtain ⟨a', ha', hx⟩ := ih h
      exact ⟨a', List.mem_cons_of_mem _ ha', hx⟩

theorem joined_clean (hf : ∀ a, nul ∉ (f a).text) (hbetween : nul ∉ between.flatten) :
    ∀ x ∈ joined f between l, nul ∉ x.text := by
  intro x hx
  obtain ⟨a, -, htext | htext⟩ := mem_joined hx
  · rw [htext]
    exact hf a
  · rw [htext, List.mem_append, not_or]
    exact ⟨hf a, hbetween⟩

theorem joined_le {n : Nat} (hf : ∀ a, (f a).text.length ≤ n) :
    ∀ x ∈ joined f between l, x.text.length ≤ n + between.flatten.length := by
  intro x hx
  obtain ⟨a, -, htext | htext⟩ := mem_joined hx
  · rw [htext]
    exact Nat.le_add_right_of_le (hf a)
  · rw [htext, List.length_append]
    exact Nat.add_le_add_right (hf a) _

/-- All pieces together: one text less between them than there are entries. -/
theorem length_joined : ((joined f between l).map fun x => x.text.length).sum =
    (l.map fun a => (f a).text.length).sum + (l.length - 1) * between.flatten.length := by
  induction l with
  | nil => simp [joined]
  | cons a l ih =>
    cases l with
    | nil => simp [joined, Piece.text]
    | cons a' l =>
      have hfirst : (joined f between (a :: a' :: l)).map (fun x => x.text.length) =
          ((f a).text.length + between.flatten.length) ::
            (joined f between (a' :: l)).map fun x => x.text.length := by
        rw [joined, List.map_cons]
        simp [Piece.text, Nat.add_assoc]
      have hall : ((a :: a' :: l).map fun a => (f a).text.length).sum
          = (f a).text.length + ((a' :: l).map fun a => (f a).text.length).sum := by
        rw [List.map_cons, List.sum_cons]
      have htexts : (a :: a' :: l).length - 1 = (a' :: l).length - 1 + 1 := rfl
      rw [hfirst, List.sum_cons, ih, hall, htexts, Nat.succ_mul]
      omega

/-- The pieces one behind the other are the entries with the texts between them. -/
theorem flatten_joined : ((joined f between l).map Piece.text).flatten =
    List.intercalate between.flatten (l.map fun a => (f a).text) := by
  induction l with
  | nil => rfl
  | cons a l ih =>
    cases l with
    | nil => simp [joined, Piece.text, List.intercalate]
    | cons a' l =>
      rw [joined, List.map_cons, List.flatten_cons, ih, List.map_cons, List.map_cons,
        List.map_cons, List.intercalate_cons_cons]
      simp [Piece.text]

/-! ## The three texts -/

theorem queryPlan_roomy (hop : op.length ≤ 11) (hclean : nul ∉ op) (entries : List Criterion) :
    (queryPlan op pid cid entries).Roomy := by
  have hp := columns_uint64 pid
  have hc := columns_uint64 cid
  have hselect : (selectStmt pid cid).length = _ := length_selectStmt
  have htail : " GROUP BY attr.oid ORDER BY 1;".toList.length = 30 := by decide
  have hbetween : [op, selectStmt pid cid].flatten.length = op.length + (selectStmt pid cid).length := by simp
  constructor
  · show (selectStmt pid cid ++ []).length + 400 ≤ 4096
    rw [List.append_nil]
    omega
  · intro x hx
    have hle := joined_le (fun c => length_criterionPiece c ▸ criterion_le c) x hx
    show x.text.length + " GROUP BY attr.oid ORDER BY 1;".toList.length + 1 ≤ 400
    omega
  · show " GROUP BY attr.oid ORDER BY 1;".toList.length + 1 ≤ 400
    omega
  · show nul ∉ selectStmt pid cid ++ []
    rw [List.append_nil]
    exact nul_notMem_selectStmt
  · refine joined_clean nul_notMem_criterionPiece ?_
    simpa using ⟨hclean, nul_notMem_selectStmt⟩

theorem listPlan_roomy (getAttr : List (UInt32 × UInt32)) : (listPlan pid initial getAttr).Roomy := by
  have hstmt : ∀ page number, (listStmt pid initial page number).length ≤ 288 := by
    intro page number
    have h1 := columns_uint64 pid
    have h2 := columns_uint64 initial
    have h3 := columns_uint32 page
    have h4 := columns_uint32 number
    rw [length_listStmt]
    omega
  have htail : " ORDER BY myoid; ".toList.length = 17 := by decide
  have hbetween : [" UNION ALL ".toList].flatten.length = 11 := by decide
  have hclean : nul ∉ [" UNION ALL ".toList].flatten := by decide
  constructor
  · have hle := hstmt USER_TMSTMP_PG 0
    show (listStmt pid initial USER_TMSTMP_PG 0 ++ [" UNION ALL ".toList].flatten).length + 400 ≤ 4096
    rw [List.length_append]
    omega
  · intro x hx
    have hle := joined_le (fun e : UInt32 × UInt32 => (by
      simpa [Piece.text] using hstmt e.1 e.2 :
        (Piece.text ⟨listStmt pid initial e.1 e.2, []⟩).length ≤ 288)) x hx
    show x.text.length + " ORDER BY myoid; ".toList.length + 1 ≤ 400
    omega
  · show " ORDER BY myoid; ".toList.length + 1 ≤ 400
    omega
  · show nul ∉ listStmt pid initial USER_TMSTMP_PG 0 ++ [" UNION ALL ".toList].flatten
    rw [List.mem_append, not_or]
    exact ⟨nul_notMem_listStmt, hclean⟩
  · refine joined_clean (fun e => ?_) hclean
    simpa [Piece.text] using nul_notMem_listStmt

theorem setPlan_roomy (setAttr : List SetEntry) : (setPlan pid cid setAttr).Roomy := by
  have hbetween : [" UNION ALL ".toList].flatten.length = 11 := by decide
  constructor
  · show ("INSERT OR REPLACE INTO ".toList ++ attrName ++ " ".toList ++ []).length + 200 ≤ 2048
    decide
  · intro x hx
    have hle := joined_le setPiece_le x hx
    show x.text.length + 2 + 1 ≤ 200
    omega
  · show " ;".toList.length + 1 ≤ 200
    decide
  · show nul ∉ "INSERT OR REPLACE INTO ".toList ++ attrName ++ " ".toList ++ []
    decide
  · exact joined_clean nul_notMem_setPiece (by decide)

end Pieces

/-! ## The counter -/

/-- The bytes of the query before its tail. -/
def queryTextLength (pid cid : UInt64) (qc : QueryCriteria) : Nat :=
  let select := 132 + columns pid.toNat + columns cid.toNat
  select + (qc.entries.map Criterion.textLength).sum +
    (qc.entries.length - 1) * ((if qc.queryType = 0 then 7 else 11) + select)

/-- The bytes of the listing before its tail. -/
def listTextLength (pid initial : UInt64) (getAttr : List (UInt32 × UInt32)) : Nat :=
  let select (page number : UInt32) :=
    228 + columns pid.toNat + columns page.toNat + columns number.toNat + columns initial.toNat
  select USER_TMSTMP_PG 0 + 11 + (getAttr.map fun e => select e.1 e.2).sum + (getAttr.length - 1) * 11

/-- Some size up to `2 ^ 33` bytes, which the buffer has to take for a text of `2 ^ 32`, is refused. -/
def RunsOut (alloc : Nat → Bool) : Prop := ∃ j ≤ 21, alloc (4096 * 2 ^ j) = false

variable {alloc : Nat → Bool} {fill : Nat → Char} {pid cid initial : UInt64} {qc : QueryCriteria}

theorem nothing_sound : TextState.nothing.Sound :=
  ⟨fun _ h => absurd h List.not_mem_nil, fun _ h => absurd h List.not_mem_nil⟩

theorem queryOp_spec {queryType : UInt8} {op : List Char} (h : queryOp queryType = some op) :
    op.length = (if queryType = 0 then 7 else 11) ∧ nul ∉ op ∧ ¬ 1 < queryType := by
  unfold queryOp at h
  split at h
  · next h0 =>
    cases h
    subst h0
    decide
  · split at h
    · next h0 h1 =>
      cases h
      subst h1
      decide
    · cases h

theorem queryOp_none {queryType : UInt8} (h : queryOp queryType = none) : 1 < queryType := by
  unfold queryOp at h
  split at h
  · cases h
  · split at h
    · cases h
    · next h0 h1 =>
      rw [UInt8.lt_iff_toNat_lt]
      have h0 : queryType.toNat ≠ 0 := fun h => h0 (UInt8.toNat_inj.1 h)
      have h1 : queryType.toNat ≠ 1 := fun h => h1 (UInt8.toNat_inj.1 h)
      show 1 < queryType.toNat
      omega

theorem queryOp_roomy {op : List Char} (hop : queryOp qc.queryType = some op) :
    (queryPlan op pid cid qc.entries).Roomy := by
  obtain ⟨hlen, hclean, -⟩ := queryOp_spec hop
  refine queryPlan_roomy ?_ hclean qc.entries
  split at hlen <;> omega

/-- Twenty doublings of the first `MAXSQLEN * 2` bytes reach what 32 bits count. -/
theorem doublings_uint32 : MAXSQLEN * 2 * 2 ^ 20 = 2 ^ 32 := by decide

theorem doublings_size_t : MAXSQLEN * 1 * 2 ^ 53 = 2 ^ 64 := by decide

theorem queryPlan_total {op : List Char} (hop : op.length = if qc.queryType = 0 then 7 else 11) :
    (queryPlan op pid cid qc.entries).total = queryTextLength pid cid qc := by
  have hjoined : ((queryPlan op pid cid qc.entries).pieces.map fun x => x.text.length).sum = _ := length_joined
  have hbetween : [op, selectStmt pid cid].flatten.length = op.length + (selectStmt pid cid).length := by simp
  have hhead : (Piece.text ⟨selectStmt pid cid, []⟩).length = (selectStmt pid cid).length := by simp [Piece.text]
  unfold TextPlan.total queryTextLength
  show (Piece.text ⟨selectStmt pid cid, []⟩).length + _ = _
  rw [hhead, hjoined, hbetween, hop, length_selectStmt]
  simp only [length_criterionPiece]
  exact (Nat.add_assoc _ _ _).symm

theorem mtqRunQueryText_inside :
    ∀ w ∈ (reached (mtqRunQueryText alloc fill pid cid qc)).buf.writes, w.1 ≤ w.2 := by
  unfold mtqRunQueryText
  split
  · exact nothing_sound.inside
  · next op hop =>
    exact (queryOp_roomy hop).inside alloc fill

theorem mtqRunQueryText_sound_iff : (reached (mtqRunQueryText alloc fill pid cid qc)).Sound ↔
    1 < qc.queryType ∨ RunsOut alloc ∨ queryTextLength pid cid qc < 2 ^ 32 := by
  have hinside : ∀ w ∈ (reached (mtqRunQueryText alloc fill pid cid qc)).buf.writes, w.1 ≤ w.2 :=
    mtqRunQueryText_inside
  unfold mtqRunQueryText at hinside ⊢
  cases hop : queryOp qc.queryType with
  | none => exact iff_of_true nothing_sound (.inl (queryOp_none hop))
  | some op =>
    obtain ⟨hlen, -, htype⟩ := queryOp_spec hop
    have hroomy : (queryPlan op pid cid qc.entries).Roomy := queryOp_roomy hop
    have hcounted : (∀ m ∈ (reached ((queryPlan op pid cid qc.entries).run alloc fill)).marks, m.1 = m.2) ↔
        (queryPlan op pid cid qc.entries).total < 2 ^ 32 ∨ RunsOut alloc :=
      hroomy.counted_iff alloc fill doublings_uint32
    rw [queryPlan_total hlen] at hcounted
    rw [or_iff_right htype, or_comm, ← hcounted]
    exact ⟨TextState.Sound.counted, fun h => ⟨hroomy.inside alloc fill, h⟩⟩

theorem listPlan_total {getAttr : List (UInt32 × UInt32)} :
    (listPlan pid initial getAttr).total = listTextLength pid initial getAttr := by
  have hbetween : [" UNION ALL ".toList].flatten.length = 11 := by decide
  have hjoined : ((listPlan pid initial getAttr).pieces.map fun x => x.text.length).sum = _ := length_joined
  have hhead : (listPlan pid initial getAttr).head.text.length = (listStmt pid initial USER_TMSTMP_PG 0).length +
      11 := by
    show (listStmt pid initial USER_TMSTMP_PG 0 ++ [" UNION ALL ".toList].flatten).length = _
    rw [List.length_append, hbetween]
  have hpiece : ∀ page number, (Piece.text ⟨listStmt pid initial page number, []⟩).length =
      (listStmt pid initial page number).length := by
    intro page number
    simp [Piece.text]
  unfold TextPlan.total listTextLength
  rw [hhead, hjoined, hbetween]
  simp only [hpiece, length_listStmt]
  exact (Nat.add_assoc _ _ _).symm

theorem mtqListOidsAttrText_inside {getAttr : List (UInt32 × UInt32)} :
    ∀ w ∈ (reached (mtqListOidsAttrText alloc fill pid initial getAttr)).buf.writes, w.1 ≤ w.2 := by
  unfold mtqListOidsAttrText
  split
  · exact nothing_sound.inside
  · exact (listPlan_roomy getAttr).inside alloc fill

theorem mtqListOidsAttrText_sound_iff {getAttr : List (UInt32 × UInt32)} :
    (reached (mtqListOidsAttrText alloc fill pid initial getAttr)).Sound ↔
      getAttr = [] ∨ RunsOut alloc ∨ listTextLength pid initial getAttr < 2 ^ 32 := by
  unfold mtqListOidsAttrText
  split
  · next hempty => exact iff_of_true nothing_sound (.inl (List.isEmpty_iff.1 hempty))
  · next hsome =>
    have hne : getAttr ≠ [] := fun h => hsome (List.isEmpty_iff.2 h)
    have hroomy : (listPlan pid initial getAttr).Roomy := listPlan_roomy getAttr
    have hcounted : (∀ m ∈ (reached ((listPlan pid initial getAttr).run alloc fill)).marks, m.1 = m.2) ↔
        (listPlan pid initial getAttr).total < 2 ^ 32 ∨ RunsOut alloc :=
      hroomy.counted_iff alloc fill doublings_uint32
    rw [listPlan_total] at hcounted
    rw [or_iff_right hne, or_comm, ← hcounted]
    exact ⟨TextState.Sound.counted, fun h => ⟨hroomy.inside alloc fill, h⟩⟩

/-- A statement for all the attributes a `uint32_t` counts is short enough for a `size_t`. -/
theorem setPlan_total_lt {setAttr : List SetEntry} (hsz : setAttr.length < 2 ^ 32) :
    (setPlan pid cid setAttr).total < 2 ^ 40 := by
  have hbetween : [" UNION ALL ".toList].flatten.length = 11 := by decide
  have hjoined : ((setPlan pid cid setAttr).pieces.map fun x => x.text.length).sum = _ := length_joined
  have hsum : (setAttr.map fun e => (e.piece pid cid).text.length).sum ≤ setAttr.length * 105 := by
    clear hsz hjoined
    induction setAttr with
    | nil => exact Nat.le_refl _
    | cons e l ih =>
      have he : (e.piece pid cid).text.length ≤ 105 := setPiece_le e
      rw [List.map_cons, List.sum_cons, List.length_cons, Nat.succ_mul]
      omega
  have hhead : (setPlan pid cid setAttr).head.text.length = 28 := by
    show ("INSERT OR REPLACE INTO ".toList ++ attrName ++ " ".toList ++ []).length = 28
    decide
  unfold TextPlan.total
  rw [hhead, hjoined, hbetween]
  omega

theorem mtqSetMemberAttrsText_sound {setAttr : List SetEntry} (hsz : setAttr.length < 2 ^ 32) :
    (reached (mtqSetMemberAttrsText alloc fill pid cid setAttr)).Sound := by
  unfold mtqSetMemberAttrsText
  split
  · exact nothing_sound
  · have hroomy : (setPlan pid cid setAttr).Roomy := setPlan_roomy setAttr
    refine ⟨hroomy.inside alloc fill, ?_⟩
    have htotal : (setPlan pid cid setAttr).total < 2 ^ 40 := setPlan_total_lt hsz
    exact (hroomy.counted_iff alloc fill doublings_size_t).2
      (.inl (Nat.lt_trans htotal (show 2 ^ 40 < 2 ^ 64 by decide)))

/-! ## What is prepared -/

/-- The statement of a query: the SELECT once for each criterion, with the operation between them. -/
theorem mtqRunQueryText_built {op : List Char} (halloc : ∀ size, alloc size = true)
    (hop : queryOp qc.queryType = some op) (hshort : queryTextLength pid cid qc < 2 ^ 32) :
    ∃ b, mtqRunQueryText alloc fill pid cid qc = .ok b ∧ b.buf.Holds [] (selectStmt pid cid ++
      List.intercalate (op ++ selectStmt pid cid) (qc.entries.map fun c => c.piece.text) ++
      " GROUP BY attr.oid ORDER BY 1;".toList) := by
  have hlen := (queryOp_spec hop).1
  have hroomy : (queryPlan op pid cid qc.entries).Roomy := queryOp_roomy hop
  obtain ⟨b, hb, hholds⟩ := hroomy.built fill doublings_uint32 halloc
    ((queryPlan_total hlen).trans_lt hshort)
  have hpieces : ((queryPlan op pid cid qc.entries).pieces.map Piece.text).flatten = _ := flatten_joined
  have hhead : (queryPlan op pid cid qc.entries).head.text = selectStmt pid cid := List.append_nil _
  have hbetween : [op, selectStmt pid cid].flatten = op ++ selectStmt pid cid := by simp
  rw [hhead, hpieces, hbetween] at hholds
  refine ⟨b, ?_, hholds⟩
  unfold mtqRunQueryText
  rw [hop]
  exact hb

theorem mtqListOidsAttrText_built {getAttr : List (UInt32 × UInt32)} (halloc : ∀ size, alloc size = true)
    (hne : getAttr ≠ []) (hshort : listTextLength pid initial getAttr < 2 ^ 32) :
    ∃ b, mtqListOidsAttrText alloc fill pid initial getAttr = .ok b ∧
      b.buf.Holds [] (listStmt pid initial USER_TMSTMP_PG 0 ++ " UNION ALL ".toList ++
        List.intercalate " UNION ALL ".toList (getAttr.map fun e => listStmt pid initial e.1 e.2) ++
        " ORDER BY myoid; ".toList) := by
  have hroomy : (listPlan pid initial getAttr).Roomy := listPlan_roomy getAttr
  obtain ⟨b, hb, hholds⟩ := hroomy.built fill doublings_uint32 halloc
    (listPlan_total.trans_lt hshort)
  have hpieces : ((listPlan pid initial getAttr).pieces.map Piece.text).flatten = _ := flatten_joined
  have hpiece : ∀ e : UInt32 × UInt32, Piece.text ⟨listStmt pid initial e.1 e.2, []⟩ =
      listStmt pid initial e.1 e.2 := fun e => List.append_nil _
  have hbetween : [" UNION ALL ".toList].flatten = " UNION ALL ".toList := List.flatten_singleton
  have hhead : (listPlan pid initial getAttr).head.text =
      listStmt pid initial USER_TMSTMP_PG 0 ++ " UNION ALL ".toList :=
    congrArg (listStmt pid initial USER_TMSTMP_PG 0 ++ ·) hbetween
  rw [hhead, hpieces, hbetween] at hholds
  simp only [hpiece] at hholds
  refine ⟨b, ?_, hholds⟩
  unfold mtqListOidsAttrText
  rw [if_neg (mt List.isEmpty_iff.1 hne)]
  exact hb

theorem mtqSetMemberAttrsText_built {setAttr : List SetEntry} (halloc : ∀ size, alloc size = true)
    (hne : setAttr ≠ []) (hsz : setAttr.length < 2 ^ 32) :
    ∃ b, mtqSetMemberAttrsText alloc fill pid cid setAttr = .ok b ∧
      b.buf.Holds [] ("INSERT OR REPLACE INTO attr ".toList ++
        List.intercalate " UNION ALL ".toList (setAttr.map fun e => (e.piece pid cid).text) ++
        " ;".toList) := by
  have hroomy : (setPlan pid cid setAttr).Roomy := setPlan_roomy setAttr
  have htotal : (setPlan pid cid setAttr).total < 2 ^ 40 := setPlan_total_lt hsz
  obtain ⟨b, hb, hholds⟩ := hroomy.built fill doublings_size_t halloc
    (Nat.lt_trans htotal (show 2 ^ 40 < 2 ^ 64 by decide))
  have hpieces : ((setPlan pid cid setAttr).pieces.map Piece.text).flatten = _ := flatten_joined
  have hbetween : [" UNION ALL ".toList].flatten = " UNION ALL ".toList := List.flatten_singleton
  have hhead : (setPlan pid cid setAttr).head.text = "INSERT OR REPLACE INTO attr ".toList := by
    show "INSERT OR REPLACE INTO ".toList ++ attrName ++ " ".toList ++ [] = _
    decide
  rw [hhead, hpieces, hbetween] at hholds
  refine ⟨b, ?_, hholds⟩
  unfold mtqSetMemberAttrsText
  rw [if_neg (mt List.isEmpty_iff.1 hne)]
  exact hb

/-- **What the three builders prepare** where memory is there: one SELECT for each criterion with the
operation of the query between them, one for each attribute listed behind the one that finds every object, one
for each attribute to set; each text with its NUL. -/
theorem sqlTexts_built (alloc : Nat → Bool) (fill : Nat → Char) (pid cid initial : UInt64) (qc : QueryCriteria)
    (getAttr : List (UInt32 × UInt32)) (setAttr : List SetEntry) (halloc : ∀ size, alloc size = true) :
    (∀ op, queryOp qc.queryType = some op → queryTextLength pid cid qc < 2 ^ 32 →
        ∃ b, mtqRunQueryText alloc fill pid cid qc = .ok b ∧ b.buf.Holds [] (selectStmt pid cid ++
          List.intercalate (op ++ selectStmt pid cid) (qc.entries.map fun c => c.piece.text) ++
          " GROUP BY attr.oid ORDER BY 1;".toList)) ∧
      (getAttr ≠ [] → listTextLength pid initial getAttr < 2 ^ 32 →
        ∃ b, mtqListOidsAttrText alloc fill pid initial getAttr = .ok b ∧
          b.buf.Holds [] (listStmt pid initial USER_TMSTMP_PG 0 ++ " UNION ALL ".toList ++
            List.intercalate " UNION ALL ".toList (getAttr.map fun e => listStmt pid initial e.1 e.2) ++
            " ORDER BY myoid; ".toList)) ∧
      (setAttr ≠ [] → setAttr.length < 2 ^ 32 →
        ∃ b, mtqSetMemberAttrsText alloc fill pid cid setAttr = .ok b ∧
          b.buf.Holds [] ("INSERT OR REPLACE INTO attr ".toList ++
            List.intercalate " UNION ALL ".toList (setAttr.map fun e => (e.piece pid cid).text) ++
            " ;".toList)) :=
  ⟨fun _ hop hshort => mtqRunQueryText_built halloc hop hshort,
    fun hne hshort => mtqListOidsAttrText_built halloc hne hshort,
    fun hne hsz => mtqSetMemberAttrsText_built halloc hne hsz⟩

/-- Two attributes set on the members of a collection. -/
theorem sqlTexts_built_two : ∃ b,
    mtqSetMemberAttrsText (fun _ => true) (fun _ => ' ') 7 9 [⟨1, 2, [3]⟩, ⟨4, 5, [6]⟩] = .ok b ∧
      b.buf.Holds [] ("INSERT OR REPLACE INTO attr  SELECT 7, oid, 1, 2, ? FROM coll  WHERE cid = 9 ".toList ++
        " UNION ALL  SELECT 7, oid, 4, 5, ? FROM coll  WHERE cid = 9  ;".toList) := by
  obtain ⟨-, -, hset⟩ := sqlTexts_built (fun _ => true) (fun _ => ' ') 7 9 0 ⟨0, []⟩ []
    [⟨1, 2, [3]⟩, ⟨4, 5, [6]⟩] fun _ => rfl
  obtain ⟨b, hb, hholds⟩ := hset (by decide) (by decide)
  exact ⟨b, hb, hholds⟩

/-! ## The factor -/

/-- The factor stays far below what its type, `uint32_t` in two of the functions and `int` in the third,
can hold. -/
theorem factors_lt (alloc : Nat → Bool) (fill : Nat → Char) (pid cid initial : UInt64) (qc : QueryCriteria)
    (getAttr : List (UInt32 × UInt32)) (setAttr : List SetEntry) (hsz : setAttr.length < 2 ^ 32) :
    (reached (mtqRunQueryText alloc fill pid cid qc)).factor < 2 ^ 31 ∧
      (reached (mtqListOidsAttrText alloc fill pid initial getAttr)).factor < 2 ^ 31 ∧
      (reached (mtqSetMemberAttrsText alloc fill pid cid setAttr)).factor < 2 ^ 31 := by
  refine ⟨?_, ?_, ?_⟩
  · unfold mtqRunQueryText
    split
    · decide
    · next op hop =>
      have hroomy : (queryPlan op pid cid qc.entries).Roomy := queryOp_roomy hop
      have hle : 2048 * _ ≤ max (2048 * 2) (2 * (2 ^ 32 + 400)) :=
        hroomy.factor_le alloc fill (.inr (Nat.le_refl (2 ^ 32)))
      omega
  · unfold mtqListOidsAttrText
    split
    · decide
    · have hroomy : (listPlan pid initial getAttr).Roomy := listPlan_roomy getAttr
      have hle : 2048 * _ ≤ max (2048 * 2) (2 * (2 ^ 32 + 400)) :=
        hroomy.factor_le alloc fill (.inr (Nat.le_refl (2 ^ 32)))
      omega
  · unfold mtqSetMemberAttrsText
    split
    · decide
    · have hroomy : (setPlan pid cid setAttr).Roomy := setPlan_roomy setAttr
      have hle : 2048 * _ ≤ max (2048 * 1) (2 * (2 ^ 40 + 200)) :=
        hroomy.factor_le alloc fill (.inl (setPlan_total_lt hsz).le)
      omega

/-! ## The buffers -/

/-- **When the three SQL texts are built inside their buffers, with `sqlen` their length**: nothing is written
outside in any case, and the 32 bits of `sqlen` in two of the functions take texts below `2 ^ 32` bytes. -/
theorem sqlTexts_sound_iff (alloc : Nat → Bool) (fill : Nat → Char) (pid cid initial : UInt64)
    (qc : QueryCriteria) (getAttr : List (UInt32 × UInt32)) (setAttr : List SetEntry)
    (hsz : setAttr.length < 2 ^ 32) :
    ((reached (mtqRunQueryText alloc fill pid cid qc)).Sound ↔
        1 < qc.queryType ∨ RunsOut alloc ∨ queryTextLength pid cid qc < 2 ^ 32) ∧
      ((reached (mtqListOidsAttrText alloc fill pid initial getAttr)).Sound ↔
        getAttr = [] ∨ RunsOut alloc ∨ listTextLength pid initial getAttr < 2 ^ 32) ∧
      (reached (mtqSetMemberAttrsText alloc fill pid cid setAttr)).Sound :=
  ⟨mtqRunQueryText_sound_iff, mtqListOidsAttrText_sound_iff, mtqSetMemberAttrsText_sound hsz⟩

/-- One criterion, two attributes listed, one set. -/
theorem sqlTexts_sound_iff_small :
    (reached (mtqRunQueryText (fun _ => true) (fun _ => ' ') 0x10000 0x10001 ⟨0, [⟨1, 2, [3], []⟩]⟩)).Sound ∧
      (reached (mtqListOidsAttrText (fun _ => true) (fun _ => ' ') 0x10000 0 [(1, 2), (3, 4)])).Sound ∧
      (reached (mtqSetMemberAttrsText (fun _ => true) (fun _ => ' ') 0x10000 0x10001 [⟨1, 2, [3]⟩])).Sound := by
  obtain ⟨hquery, hlist, hset⟩ := sqlTexts_sound_iff (fun _ => true) (fun _ => ' ') 0x10000 0x10001 0
    ⟨0, [⟨1, 2, [3], []⟩]⟩ [(1, 2), (3, 4)] [⟨1, 2, [3]⟩] (by decide)
  exact ⟨hquery.2 (.inr (.inr (by decide))), hlist.2 (.inr (.inr (by decide))), hset⟩

/-- A query list of `2 ^ 26` criteria of 16 bytes, in 1 GB: `sqlen` wraps. -/
theorem queryText_wraps : ¬ (reached (mtqRunQueryText (fun _ => true) (fun _ => ' ') 0x10000 0x10000
    ⟨0, List.replicate (2 ^ 26) ⟨0, 0, [], []⟩⟩)).Sound := by
  have hlength : ∀ n, queryTextLength 0x10000 0x10000 ⟨0, List.replicate n ⟨0, 0, [], []⟩⟩ =
      142 + n * 39 + (n - 1) * 149 := by
    intro n
    have hsum : ((List.replicate n (⟨0, 0, [], []⟩ : Criterion)).map Criterion.textLength).sum = n * 39 := by
      rw [List.map_replicate, List.sum_replicate_nat]
      rfl
    have hcount : (List.replicate n (⟨0, 0, [], []⟩ : Criterion)).length = n := List.length_replicate
    unfold queryTextLength
    dsimp only
    rw [hsum, hcount]
    rfl
  intro h
  rcases mtqRunQueryText_sound_iff.1 h with htype | ⟨j, -, hrefused⟩ | hlt
  · exact absurd htype (by decide)
  · cases hrefused
  · rw [hlength] at hlt
    omega

end OsdTarget
