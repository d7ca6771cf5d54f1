import OsdTarget.GetList
import OsdTarget.Base.Ascending
import Mathlib.Data.List.Dedup

/-!
# The directory page

`attr_get_dir_page` computes the directory page of an object: one attribute for each of its pages,
numbered by the page, with the name of the page for a value.  The statement gathers the names in two
passes, first the pages without a name, which get a fixed text, then the names themselves.
-/

namespace OsdTarget

open Base

/-! ## `attr_get_dir_page` -/

def USEROBJECT_DIR_PG : UInt32 := USEROBJECT_PG + 0x0
def COLLECTION_DIR_PG : UInt32 := COLLECTION_PG + 0x0
def ROOT_DIR_PG : UInt32 := ROOT_PG + 0x0

/-- The name of a page that has none. -/
def unidPage : List UInt8 := (cString "        unidentified attributes page   ").read 0 ATTR_PAGE_ID_LEN

/-- The statement `dirpage`: rows of (page, name).  `EXCEPT` leaves its rows distinct and in their
order; the name is the same constant on both of its sides. -/
def Db.dirpage (d : Db) (pid oid : Int) : List (Int × List UInt8) :=
  let rows := d.attr.filter fun r => r.pid = pid ∧ r.oid = oid
  let named := rows.filter fun r => r.number = 0
  let unnamed := (rows.map AttrRow.page).dedup.filter fun page => page ∉ named.map AttrRow.page
  (ascending unnamed).map (fun page => (page, unidPage)) ++ named.map fun r => (r.page, r.value)

variable (env : Env)

/-- `attr_gather_dir_page` on row after row: the page of a row is the number of the attribute. -/
def gatherDirPage (oid : UInt64) (page : UInt32) (listfmt : UInt8) :
    List (Int × List UInt8) → Nat → UInt64 → Gathered → OsdM Gathered
  | [], _, _, g => return g
  | (number, value) :: rows, pos, outlen, g => do
    if (UInt16.ofNat value.length).toNat ≠ ATTR_PAGE_ID_LEN then
      return { g with inval := true }
    match ← packAttr env listfmt pos outlen.toUInt32 oid page (columnInt number)
        (UInt16.ofNat value.length) (some (blobMem value)) with
    | .ok ret =>
      gatherDirPage oid page listfmt rows (pos + ret) (outlen - UInt64.ofNat ret)
        { g with len := g.len + UInt32.ofNat ret, found := true }
    | .error .einval => return { g with inval := true }
    | .error _ => return g

/-- `attr_get_dir_page`, with `exec_attr_rtrvl_stmt` for its statement. -/
def attrGetDirPage (pid oid : UInt64) (page : UInt32) (listfmt : UInt8) (pos : Nat) (outlen : UInt64) :
    OsdM (Ret × Option UInt32) := do
  if page ≠ USEROBJECT_DIR_PG ∧ page ≠ COLLECTION_DIR_PG ∧ page ≠ PARTITION_DIR_PG ∧
      page ≠ ROOT_DIR_PG then
    return (.err .einval, none)
  let s ← get
  if env.queryFails (.attrRtrvl (bindInt64 pid) (bindInt64 oid)) s.db then
    return (.err .osdError, some 0)
  let g ← gatherDirPage env oid page listfmt (s.db.dirpage (bindInt64 pid) (bindInt64 oid)) pos outlen
    ⟨0, false, false⟩
  if g.inval then
    return (.err .einval, some 0)
  if g.found then
    return (.ok, some g.len)
  return (.err .enoent, some g.len)

/-! ## What the statement selects -/

section Statement

variable {d : Db} {pid oid : Int}

/-- The pages the object has attributes on. -/
def Db.pages (d : Db) (pid oid : Int) : List Int :=
  ((d.attr.filter fun r => r.pid = pid ∧ r.oid = oid).map AttrRow.page).dedup

theorem mem_pages {page : Int} :
    page ∈ d.pages pid oid ↔ ∃ r ∈ d.attr, r.pid = pid ∧ r.oid = oid ∧ r.page = page := by
  rw [Db.pages, List.mem_dedup, List.mem_map]
  simp only [List.mem_filter, decide_eq_true_eq, and_assoc]

/-- The rows that name a page of the object. -/
theorem mem_named {r : AttrRow} :
    r ∈ (d.attr.filter fun r => r.pid = pid ∧ r.oid = oid).filter (fun r => r.number = 0) ↔
      r ∈ d.attr ∧ r.key = (pid, oid, r.page, 0) := by
  simp only [List.mem_filter, decide_eq_true_eq, AttrRow.key, Prod.mk.injEq, true_and, and_assoc]

/-- Each page has one name, as the numbers of the attributes of a page are distinct. -/
theorem nodup_named (hkeys : (d.attr.map AttrRow.key).Nodup) :
    (((d.attr.filter fun r => r.pid = pid ∧ r.oid = oid).filter fun r => r.number = 0).map
      AttrRow.page).Nodup := by
  have hsub : List.Sublist ((d.attr.filter fun r => r.pid = pid ∧ r.oid = oid).filter fun r =>
      r.number = 0) d.attr := List.filter_sublist.trans List.filter_sublist
  refine List.Nodup.of_map (fun page => (pid, oid, page, (0 : Int))) ?_
  rw [List.map_map]
  refine (List.map_congr_left fun r hr => ?_) ▸ hkeys.sublist (hsub.map AttrRow.key)
  exact (mem_named.1 hr).2

/-- **Every page once.** -/
theorem dirpage_pages (hkeys : (d.attr.map AttrRow.key).Nodup) :
    ((d.dirpage pid oid).map Prod.fst).Perm (d.pages pid oid) := by
  have hfst : (d.dirpage pid oid).map Prod.fst
      = ascending ((d.pages pid oid).filter fun page => page ∉ ((d.attr.filter fun r =>
          r.pid = pid ∧ r.oid = oid).filter fun r => r.number = 0).map AttrRow.page) ++
        ((d.attr.filter fun r => r.pid = pid ∧ r.oid = oid).filter fun r => r.number = 0).map
          AttrRow.page := by
    simp only [Db.dirpage, Db.pages, List.map_append, List.map_map]
    congr 1
    exact List.map_id _
  rw [hfst]
  have hnodup : (d.pages pid oid).Nodup := List.nodup_dedup _
  refine (List.perm_ext_iff_of_nodup ?_ hnodup).2 fun page => ?_
  · refine List.nodup_append'.2 ⟨(sortedLT_ascending (hnodup.filter _)).nodup, nodup_named hkeys, ?_⟩
    intro page hp hn
    exact of_decide_eq_true (List.mem_filter.1 (mem_ascending.1 hp)).2 hn
  · rw [List.mem_append, mem_ascending, List.mem_filter]
    constructor
    · rintro (h | h)
      · exact h.1
      · obtain ⟨r, hr, rfl⟩ := List.mem_map.1 h
        have hr := (List.mem_filter.1 hr).1
        exact List.mem_dedup.2 (List.mem_map_of_mem hr)
    · intro h
      by_cases hn : page ∈ ((d.attr.filter fun r => r.pid = pid ∧ r.oid = oid).filter fun r =>
          r.number = 0).map AttrRow.page
      · exact .inr hn
      · exact .inl ⟨h, decide_eq_true hn⟩

/-- The name of a page of the object is its attribute 0. -/
theorem dirpage_name {d : Db} {pid oid : UInt64} (hkeys : (d.attr.map AttrRow.key).Nodup)
    {row : Int × List UInt8} (h : row ∈ d.dirpage (bindInt64 pid) (bindInt64 oid)) {n : UInt32}
    (hn : row.1 = bindInt n) : row.2 = (d.attribute pid oid n ATTRNUM_INFO).getD unidPage := by
  have hfind : ∀ r ∈ d.attr, r.key = (bindInt64 pid, bindInt64 oid, bindInt n, 0) →
      d.attribute pid oid n ATTRNUM_INFO = some r.value := fun r hr hk => by
    have hfilter := filter_key hkeys r.key
    rw [filter_key_of_mem hkeys hr, hk] at hfilter
    exact congrArg (Option.map AttrRow.value) (Option.toList_eq_singleton_iff.1 hfilter.symm)
  rcases List.mem_append.1 h with h | h
  · obtain ⟨page, hp, rfl⟩ := List.mem_map.1 h
    have hnone : d.attribute pid oid n ATTRNUM_INFO = none := by
      refine Option.map_eq_none_iff.2 (List.find?_eq_none.2 fun r hr hk => ?_)
      have hk : r.key = (bindInt64 pid, bindInt64 oid, bindInt n, 0) := of_decide_eq_true hk
      refine of_decide_eq_true (List.mem_filter.1 (mem_ascending.1 hp)).2 ?_
      have hpage : r.page = bindInt n := (Prod.ext_iff.1 (Prod.ext_iff.1 (Prod.ext_iff.1 hk).2).2).1
      rw [show page = r.page from hn.trans hpage.symm]
      exact List.mem_map_of_mem (mem_named.2 ⟨hr, by rw [hk, hpage]⟩)
    rw [hnone]
    rfl
  · obtain ⟨r, hr, rfl⟩ := List.mem_map.1 h
    obtain ⟨hmem, hk⟩ := mem_named.1 hr
    rw [hfind r hmem (by rw [hk, show r.page = bindInt n from hn])]
    rfl

end Statement

/-! ## The loop -/

section Loop

variable {env : Env} {s : Target} {listfmt : UInt8} {page : UInt32}

/-- A row of the statement as an item of the directory page. -/
def dirItem (tag : Option UInt64) (page : UInt32) (row : Int × List UInt8) : Item :=
  ⟨tag, page, columnInt row.1, UInt16.ofNat row.2.length, some (blobMem row.2)⟩

/-- The name is as long as the loop asks for. -/
def FullName (row : Int × List UInt8) : Prop := (UInt16.ofNat row.2.length).toNat = ATTR_PAGE_ID_LEN

/-- The room an entry of the directory page takes. -/
def dirEntrySize (tag : Option UInt64) : Nat := tagLen tag.isSome + (LE_VAL_OFF + ATTR_PAGE_ID_LEN)

theorem dirItem_wf {tag : Option UInt64} {row : Int × List UInt8} : (dirItem tag page row).Wf := by
  intro h
  cases h

theorem dirItem_size {tag : Option UInt64} {row : Int × List UInt8} (h : FullName row) :
    (dirItem tag page row).size = dirEntrySize tag := by
  unfold Item.size
  rw [Item.tag_length_eq, show (dirItem tag page row).len.toNat = ATTR_PAGE_ID_LEN from h]
  rfl

theorem toUInt32_sub {outlen : UInt64} {n : Nat} (h : n ≤ outlen.toUInt32.toNat) :
    (outlen - UInt64.ofNat n).toUInt32.toNat = outlen.toUInt32.toNat - n := by
  have hlt := outlen.toNat_lt
  rw [UInt64.toNat_toUInt32] at h ⊢
  have hn : (UInt64.ofNat n).toNat = n := by
    rw [UInt64.toNat_ofNat']
    exact Nat.mod_eq_of_lt (by omega)
  rw [UInt64.toNat_sub_of_le _ _ (by rw [UInt64.le_iff_toNat_le]; omega), hn, UInt64.toNat_toUInt32]
  omega

theorem halts_gatherDirPage (oid : UInt64) (page : UInt32) (listfmt : UInt8)
    (rows : List (Int × List UInt8)) (pos : Nat) (outlen : UInt64) (g : Gathered) :
    Halts (gatherDirPage env oid page listfmt rows pos outlen g) := by
  induction rows generalizing pos outlen g with
  | nil => exact halts_pure _
  | cons row rows ih =>
    refine halts_ite (halts_pure _) (halts_bind (halts_packAttr _ _ _ _ _ _ _ _) fun res => ?_)
    split
    · exact ih _ _ _
    · exact halts_pure _
    · exact halts_pure _

/-- With enough room the loop packs every row, or meets a name of another length. -/
theorem gatherDirPage_packs (hf : IsFormat listfmt) (oid : UInt64) (rows : List (Int × List UInt8))
    (pos : Nat) (outlen : UInt64) (g : Gathered) (hal : Aligned env pos outlen.toUInt32.toNat)
    (hroom : rows.length * dirEntrySize (tagOf listfmt oid) ≤ outlen.toUInt32.toNat) :
    Ends (gatherDirPage env oid page listfmt rows pos outlen g) s fun g' s' =>
      ((∃ row ∈ rows, ¬ FullName row) → g'.inval = true) ∧
      ((∀ row ∈ rows, FullName row) →
        Emits pos (emit outlen.toUInt32.toNat (rows.map (dirItem (tagOf listfmt oid) page))) s s' ∧
        g'.len = g.len + UInt32.ofNat
          (emit outlen.toUInt32.toNat (rows.map (dirItem (tagOf listfmt oid) page))).length ∧
        g'.inval = g.inval ∧ (g'.found = true ↔ g.found = true ∨ rows ≠ [])) := by
  induction rows generalizing pos outlen g s with
  | nil =>
    refine ends_pure.2 ⟨fun h => ?_, fun _ => ⟨.refl _ _, by simp [emit], rfl, by simp⟩⟩
    obtain ⟨row, hrow, -⟩ := h
    exact absurd hrow List.not_mem_nil
  | cons row rows ih =>
    have hlen : (row :: rows).length * dirEntrySize (tagOf listfmt oid)
        = rows.length * dirEntrySize (tagOf listfmt oid) + dirEntrySize (tagOf listfmt oid) := by
      rw [List.length_cons, Nat.succ_mul]
    refine ends_ite_of (fun hshort => ?_) fun hname => ?_
    · refine ends_pure.2 ⟨fun _ => rfl, fun h => ?_⟩
      exact absurd (h row List.mem_cons_self) hshort
    · have hname : FullName row := not_not.1 hname
      set x : Item := dirItem (tagOf listfmt oid) page row with hx
      have hsize : x.size = dirEntrySize (tagOf listfmt oid) := dirItem_size hname
      have hneed := x.need_le_size
      have hxlen : (x.bytes outlen.toUInt32.toNat).length = dirEntrySize (tagOf listfmt oid) := by
        rw [← hsize]
        exact Item.bytes_length_of_fits (x := x) dirItem_wf (by omega)
      refine ends_call (packAttr_packs hf hal oid page (columnInt row.1)
        (UInt16.ofNat row.2.length) (some (blobMem row.2))) ?_
      rintro ret t ⟨-, ⟨-, rfl, he⟩ | ⟨hlt, -, -⟩⟩
      · have hmod := Item.bytes_length hal.2 (x := x) (by omega)
        have hsub := toUInt32_sub (show (x.bytes outlen.toUInt32.toNat).length ≤ outlen.toUInt32.toNat by omega)
        refine (ih (s := t) (pos + (x.bytes outlen.toUInt32.toNat).length)
          (outlen - UInt64.ofNat (x.bytes outlen.toUInt32.toNat).length) _ ⟨?_, ?_⟩ ?_).mono ?_
        · have := hal.1
          omega
        · have := hal.2
          omega
        · omega
        · rintro g' s' ⟨hbad, hgood⟩
          refine ⟨?_, fun h => ?_⟩
          · rintro ⟨row', hmem, hno⟩
            rcases List.mem_cons.1 hmem with rfl | hmem
            · exact absurd hname hno
            · exact hbad ⟨row', hmem, hno⟩
          · obtain ⟨hem, hl, hi, hfound⟩ := hgood fun row' hmem => h row' (List.mem_cons_of_mem _ hmem)
            rw [hsub] at hem hl
            rw [List.map_cons, ← hx, emit, if_neg (by omega)]
            refine ⟨he.append hem, ?_, hi, by simp [hfound]⟩
            rw [hl, List.length_append, UInt32.ofNat_add, UInt32.add_assoc]
            rfl
      · exact absurd hlt (show ¬ _ < x.need by omega)

/-- The rows packed with enough room decode one by one. -/
theorem decodes_dirItems {tag : Option UInt64} {room : Nat} {rows : List (Int × List UInt8)}
    (h8 : room % 8 = 0) (hfull : ∀ row ∈ rows, FullName row)
    (hroom : rows.length * dirEntrySize tag ≤ room) :
    Decodes tag.isSome (emit room (rows.map (dirItem tag page)))
      (rows.map fun row => (dirItem tag page row).entry) := by
  have hitems : ∀ x ∈ rows.map (dirItem tag page),
      x.Wf ∧ x.oid.isSome = tag.isSome ∧ x.size = dirEntrySize tag := fun x hx => by
    obtain ⟨row, hrow, rfl⟩ := List.mem_map.1 hx
    exact ⟨dirItem_wf, rfl, dirItem_size (hfull row hrow)⟩
  have hsize : totalSize (rows.map (dirItem tag page)) ≤ room := by
    rw [totalSize, List.map_congr_left fun x hx => (hitems x hx).2.2, List.map_const',
      List.sum_replicate_nat, List.length_map]
    exact hroom
  -- one answer of many items is as good as many answers of one
  have hone : emitAll room (singles (rows.map (dirItem tag page))) = emit room (rows.map (dirItem tag page)) := by
    have hneed : ∀ items ∈ singles (rows.map (dirItem tag page)), ∀ x ∈ items,
        x.need = tagLen tag.isSome + LE_MIN_ITEM_LEN := fun items hitem x hx => by
      obtain ⟨y, hy, rfl⟩ := List.mem_map.1 hitem
      obtain rfl := List.mem_singleton.1 hx
      rw [Item.need, Item.tag_length_eq, (hitems x hy).2.1]
    rw [emitAll_flatten hneed, singles, ← List.flatMap_def, List.flatMap_singleton']
  have hdec := decodes_of_fits h8 (fun x hx => (hitems x hx).1) (fun x hx => (hitems x hx).2.1) hsize
  rwa [hone, List.map_map] at hdec

end Loop

/-! ## The listing -/

/-- The object has an attribute. -/
def Db.HasAttributes (d : Db) (pid oid : UInt64) : Prop :=
  ∃ r ∈ d.attr, r.pid = bindInt64 pid ∧ r.oid = bindInt64 oid

/-- Some page of the object has a name that is not 40 bytes long. -/
def Db.HasShortName (d : Db) (pid oid : UInt64) : Prop :=
  ∃ r ∈ d.attr, r.pid = bindInt64 pid ∧ r.oid = bindInt64 oid ∧ r.number = 0 ∧
    r.value.length ≠ ATTR_PAGE_ID_LEN

/-- `es` lists the pages of the object, each once and with its name. -/
structure ListsPages (d : Db) (pid oid : UInt64) (tag : Option UInt64) (page : UInt32)
    (es : List Entry) : Prop where
  once : (es.map Entry.number).Nodup
  pages : ∀ n, n ∈ es.map Entry.number ↔
    ∃ r ∈ d.attr, r.pid = bindInt64 pid ∧ r.oid = bindInt64 oid ∧ r.page = bindInt n
  entry : ∀ e ∈ es, e.oid = tag ∧ e.page = page ∧
    e.value = (d.attribute pid oid e.number ATTRNUM_INFO).getD unidPage

/-- The directory pages of the four kinds of objects. -/
def IsDirPage (page : UInt32) : Prop :=
  page = USEROBJECT_DIR_PG ∨ page = COLLECTION_DIR_PG ∨ page = PARTITION_DIR_PG ∨ page = ROOT_DIR_PG

/-- Pages are stored by `sqlite3_bind_int` and values with a 16-bit length. -/
structure AttrStored (d : Db) : Prop where
  keys : (d.attr.map AttrRow.key).Nodup
  page : ∀ r ∈ d.attr, ∃ n : UInt32, r.page = bindInt n
  length : ∀ r ∈ d.attr, r.value.length < 2 ^ 16

section Listing

variable {env : Env} {s : Target} {d : Db} {pid oid : UInt64}

theorem hasAttributes_iff : d.HasAttributes pid oid ↔ d.pages (bindInt64 pid) (bindInt64 oid) ≠ [] := by
  constructor
  · rintro ⟨r, hr, hp, ho⟩ hnil
    exact List.not_mem_nil (hnil ▸ mem_pages.2 ⟨r, hr, hp, ho, rfl⟩)
  · intro hne
    obtain ⟨page, hpage⟩ := List.exists_mem_of_ne_nil _ hne
    obtain ⟨r, hr, hp, ho, -⟩ := mem_pages.1 hpage
    exact ⟨r, hr, hp, ho⟩

theorem unidPage_length : unidPage.length = ATTR_PAGE_ID_LEN := Mem.read_length _ _ _

/-- The loop refuses the names of other lengths; the fixed text has the right one. -/
theorem hasShortName_iff (h : AttrStored d) : d.HasShortName pid oid ↔
    ∃ row ∈ d.dirpage (bindInt64 pid) (bindInt64 oid), ¬ FullName row := by
  have hmod : ∀ l : List UInt8, l.length < 2 ^ 16 → (UInt16.ofNat l.length).toNat = l.length :=
    fun l hl => UInt16.toNat_ofNat_of_lt' hl
  constructor
  · rintro ⟨r, hr, hp, ho, hn, hlen⟩
    have hnamed := mem_named.2 ⟨hr, show r.key = (bindInt64 pid, bindInt64 oid, r.page, 0) by
      rw [AttrRow.key, hp, ho, hn]⟩
    refine ⟨(r.page, r.value), List.mem_append_right _ (List.mem_map_of_mem hnamed), ?_⟩
    exact fun hf => hlen ((hmod _ (h.length r hr)).symm.trans hf)
  · rintro ⟨row, hrow, hf⟩
    rcases List.mem_append.1 hrow with hrow | hrow
    · obtain ⟨page, -, rfl⟩ := List.mem_map.1 hrow
      exact absurd (show FullName (page, unidPage) by
        show (UInt16.ofNat unidPage.length).toNat = _
        rw [unidPage_length]
        rfl) hf
    · obtain ⟨r, hr, rfl⟩ := List.mem_map.1 hrow
      obtain ⟨hmem, hk⟩ := mem_named.1 hr
      obtain ⟨hp, hk⟩ := Prod.ext_iff.1 hk
      obtain ⟨ho, hk⟩ := Prod.ext_iff.1 hk
      obtain ⟨-, hn⟩ := Prod.ext_iff.1 hk
      exact ⟨r, hmem, hp, ho, hn, fun hlen => hf ((hmod _ (h.length r hmem)).trans hlen)⟩

/-- The rows of the statement as entries list the pages. -/
theorem listsPages_dirpage (h : AttrStored d) (tag : Option UInt64) (page : UInt32)
    (hfull : ∀ row ∈ d.dirpage (bindInt64 pid) (bindInt64 oid), FullName row) :
    ListsPages d pid oid tag page
      ((d.dirpage (bindInt64 pid) (bindInt64 oid)).map fun row => (dirItem tag page row).entry) := by
  have hperm : ((d.dirpage (bindInt64 pid) (bindInt64 oid)).map Prod.fst).Perm _ := dirpage_pages h.keys
  have hbound : ∀ p ∈ d.pages (bindInt64 pid) (bindInt64 oid), ∃ n : UInt32, p = bindInt n := fun p hp => by
    obtain ⟨r, hr, -, -, rfl⟩ := mem_pages.1 hp
    exact h.page r hr
  have hnumbers : ((d.dirpage (bindInt64 pid) (bindInt64 oid)).map fun row =>
      (dirItem tag page row).entry).map Entry.number
      = ((d.dirpage (bindInt64 pid) (bindInt64 oid)).map Prod.fst).map columnInt := by
    rw [List.map_map, List.map_map]
    rfl
  refine ⟨?_, fun n => ?_, fun e he => ?_⟩
  · rw [hnumbers]
    refine (List.Nodup.map_on (fun x hx y hy hxy => ?_)
      (hperm.nodup_iff.2 (List.nodup_dedup _)))
    obtain ⟨a, rfl⟩ := hbound x (hperm.mem_iff.1 hx)
    obtain ⟨b, rfl⟩ := hbound y (hperm.mem_iff.1 hy)
    rw [columnInt_bindInt, columnInt_bindInt] at hxy
    rw [hxy]
  · rw [hnumbers, List.mem_map]
    constructor
    · rintro ⟨p, hp, rfl⟩
      have hp := hperm.mem_iff.1 hp
      obtain ⟨a, rfl⟩ := hbound p hp
      obtain ⟨r, hr, hpid, hoid, hpage⟩ := mem_pages.1 hp
      exact ⟨r, hr, hpid, hoid, by rw [columnInt_bindInt, hpage]⟩
    · rintro ⟨r, hr, hpid, hoid, hpage⟩
      exact ⟨bindInt n, hperm.mem_iff.2 (mem_pages.2 ⟨r, hr, hpid, hoid, hpage⟩), columnInt_bindInt n⟩
  · obtain ⟨row, hrow, rfl⟩ := List.mem_map.1 he
    obtain ⟨a, ha⟩ := hbound row.1 (hperm.mem_iff.1 (List.mem_map_of_mem hrow))
    refine ⟨rfl, rfl, ?_⟩
    have hnumber : (dirItem tag page row).entry.number = a := by
      show columnInt row.1 = a
      rw [ha, columnInt_bindInt]
    have hlen : (dirItem tag page row).len.toNat = row.2.length := by
      have hl : (UInt16.ofNat row.2.length).toNat = ATTR_PAGE_ID_LEN := hfull row hrow
      rcases List.mem_append.1 hrow with hm | hm
      · obtain ⟨p, -, rfl⟩ := List.mem_map.1 hm
        exact hl.trans unidPage_length.symm
      · obtain ⟨r, hr, rfl⟩ := List.mem_map.1 hm
        exact UInt16.toNat_ofNat_of_lt' (h.length r (mem_named.1 hr).1)
    rw [hnumber, ← dirpage_name h.keys hrow ha]
    show (blobMem row.2).read 0 (dirItem tag page row).len.toNat = row.2
    rw [hlen]
    exact read_blobMem row.2

/-- **The directory page.**  With enough room `attr_get_dir_page` lists every page of the object once,
unless one of them has a name that is not 40 bytes long: then it fails as a whole. -/
theorem attrGetDirPage_lists (env : Env) (pid oid : UInt64) (page : UInt32) (listfmt : UInt8)
    (pos : Nat) (outlen : UInt64) (s : Target) (hformat : IsFormat listfmt) (hpage : IsDirPage page)
    (hstored : AttrStored s.db)
    (hquery : env.queryFails (.attrRtrvl (bindInt64 pid) (bindInt64 oid)) s.db = false)
    (haligned : Aligned env pos outlen.toUInt32.toNat)
    (hroom : (s.db.pages (bindInt64 pid) (bindInt64 oid)).length * dirEntrySize (tagOf listfmt oid)
      ≤ outlen.toUInt32.toNat) :
    ∃ ret used t, attrGetDirPage env pid oid page listfmt pos outlen s = some ((ret, some used), t) ∧
      (ret = .err .enoent ↔ ¬ s.db.HasAttributes pid oid) ∧
      (s.db.HasShortName pid oid → ret = .err .einval) ∧
      (s.db.HasAttributes pid oid → ¬ s.db.HasShortName pid oid → ret = .ok ∧
        ∃ es, Decodes (tagOf listfmt oid).isSome (t.reply.read pos used.toNat) es ∧
          ListsPages s.db pid oid (tagOf listfmt oid) page es) := by
  have hperm : ((s.db.dirpage (bindInt64 pid) (bindInt64 oid)).map Prod.fst).Perm _ :=
    dirpage_pages hstored.keys
  set rows := s.db.dirpage (bindInt64 pid) (bindInt64 oid) with hrows
  have hcount : rows.length = (s.db.pages (bindInt64 pid) (bindInt64 oid)).length := by
    rw [← hperm.length_eq, List.length_map]
  have hnil : s.db.HasAttributes pid oid ↔ rows ≠ [] := by
    rw [hasAttributes_iff, ← List.length_pos_iff, ← List.length_pos_iff, hcount]
  have hshort : s.db.HasShortName pid oid ↔ _ := hasShortName_iff hstored
  obtain ⟨g, t, hrun, hbad, hgood⟩ : ∃ g t,
      gatherDirPage env oid page listfmt rows pos outlen ⟨0, false, false⟩ s = some (g, t) ∧ _ :=
    (gatherDirPage_packs hformat oid rows pos outlen ⟨0, false, false⟩ haligned
      (by rw [hcount]; exact hroom)).of_halts (halts_gatherDirPage _ _ _ _ _ _ _)
  have hcall : attrGetDirPage env pid oid page listfmt pos outlen s
      = (if g.inval then pure (.err .einval, some 0) else if g.found then pure (.ok, some g.len)
          else pure (.err .enoent, some g.len) : OsdM (Ret × Option UInt32)) t := by
    have hdir : ¬ (page ≠ USEROBJECT_DIR_PG ∧ page ≠ COLLECTION_DIR_PG ∧ page ≠ PARTITION_DIR_PG ∧
        page ≠ ROOT_DIR_PG) := fun h => by
      rcases hpage with rfl | rfl | rfl | rfl
      · exact h.1 rfl
      · exact h.2.1 rfl
      · exact h.2.2.1 rfl
      · exact h.2.2.2 rfl
    unfold attrGetDirPage
    rw [if_neg hdir, bind_get,
      if_neg (by rw [hquery]; decide), ← hrows, bind_of_some hrun]
  by_cases hfull : ∀ row ∈ rows, FullName row
  · have hno : ¬ s.db.HasShortName pid oid := fun h => by
      obtain ⟨row, hrow, hf⟩ := hshort.1 h
      exact hf (hfull row hrow)
    obtain ⟨hemits, hlen, hinval, hfound⟩ := hgood hfull
    rw [if_neg (by rw [hinval]; decide)] at hcall
    by_cases hempty : rows = []
    · have hnf : ¬ g.found = true := fun h => (hfound.1 h).elim (by decide) fun hne => hne hempty
      rw [if_neg hnf] at hcall
      have hnone : ¬ s.db.HasAttributes pid oid := fun h => hnil.1 h hempty
      exact ⟨_, _, t, hcall, iff_of_true rfl hnone, fun h => absurd h hno, fun h => absurd h hnone⟩
    · rw [if_pos (hfound.2 (.inr hempty))] at hcall
      have hsome := hnil.2 hempty
      refine ⟨_, _, t, hcall, iff_of_false (by decide) fun h => h hsome, fun h => absurd h hno, ?_⟩
      refine fun _ _ => ⟨rfl, _, ?_, listsPages_dirpage hstored (tagOf listfmt oid) page hfull⟩
      rw [← hrows]
      have hused : g.len.toNat
          = (emit outlen.toUInt32.toNat (rows.map (dirItem (tagOf listfmt oid) page))).length := by
        rw [hlen, UInt32.zero_add, UInt32.toNat_ofNat_of_lt']
        exact Nat.lt_of_le_of_lt (emit_length haligned.2 _).1 (UInt32.toNat_lt _)
      rw [hused, hemits.content]
      exact decodes_dirItems haligned.2 hfull (by rw [hcount]; exact hroom)
  · obtain ⟨row, hrow⟩ := not_forall.1 hfull
    obtain ⟨hrow, hf⟩ := Classical.not_imp.1 hrow
    rw [if_pos (hbad ⟨row, hrow, hf⟩)] at hcall
    have hyes := hshort.2 ⟨row, hrow, hf⟩
    have hsome := hnil.2 (List.ne_nil_of_mem hrow)
    exact ⟨_, _, t, hcall, iff_of_false (by decide) fun h => h hsome, fun _ => rfl,
      fun _ h => absurd hyes h⟩

end Listing

/-- An object with an attribute on one page and the name of another one. -/
def namedPage (name : List UInt8) : Target := calmRun [.createPartition 0, .create 0x10000 0 1,
  .setAttributes 0x10000 0x10000 0x10001 5 (some (blobMem [1, 2])) 2 false,
  .setAttributes 0x10000 0x10000 0x10002 0 (some (blobMem name)) (UInt16.ofNat name.length) false]

theorem attrGetDirPage_lists_named :
    ∃ ret used t, attrGetDirPage Env.calm 0x10000 0x10000 USEROBJECT_DIR_PG RTRVD_SET_ATTR_LIST 0 112
        (namedPage unidPage) = some ((ret, some used), t) ∧
      (ret = .err .enoent ↔ ¬ (namedPage unidPage).db.HasAttributes 0x10000 0x10000) ∧
      ((namedPage unidPage).db.HasShortName 0x10000 0x10000 → ret = .err .einval) ∧
      ((namedPage unidPage).db.HasAttributes 0x10000 0x10000 →
        ¬ (namedPage unidPage).db.HasShortName 0x10000 0x10000 → ret = .ok ∧
        ∃ es, Decodes false (t.reply.read 0 used.toNat) es ∧
          ListsPages (namedPage unidPage).db 0x10000 0x10000 none USEROBJECT_DIR_PG es) := by
  have hpages : ∀ r ∈ (namedPage unidPage).db.attr, r.page = bindInt (columnInt r.page) := by
    decide +kernel
  exact attrGetDirPage_lists Env.calm 0x10000 0x10000 USEROBJECT_DIR_PG RTRVD_SET_ATTR_LIST 0 112
    (namedPage unidPage) (.inl rfl) (.inl rfl)
    ⟨by decide +kernel, fun r hr => ⟨_, hpages r hr⟩, by decide +kernel⟩ rfl
    ⟨by decide, by decide⟩ (by decide +kernel)

/-- One short name is enough for no page to be listed. -/
theorem attrGetDirPage_short : (namedPage [65, 0]).db.HasAttributes 0x10000 0x10000 ∧
    (namedPage [65, 0]).db.attribute 0x10000 0x10000 0x10002 ATTRNUM_INFO = some [65, 0] ∧
    (attrGetDirPage Env.calm 0x10000 0x10000 USEROBJECT_DIR_PG RTRVD_SET_ATTR_LIST 0 112
      (namedPage [65, 0])).map Prod.fst = some (.err .einval, some 0) := by
  refine ⟨⟨⟨0x10000, 0x10000, 0x10001, 5, some [1, 2]⟩, ?_, rfl, rfl⟩, ?_, ?_⟩ <;> decide +kernel

end OsdTarget
