import OsdTarget.AttributeWrites

/-!
# The rules for stored attributes

`osd_set_attributes` tests the page, the number, the length and, for the name of a page, the value.
CAS, FA and the implicit initialisation store constants that pass these tests.  GEN CAS stores
whatever it is given, and SET MEMBER ATTRIBUTES only tests the page.
-/

namespace OsdTarget

open Base

variable {env : Env} {s s' : Target}

/-! ## The rules -/

/-- What `osd_set_attributes` requires of an attribute of a user object. -/
structure Allowed (page number : UInt32) (value : List UInt8) : Prop where
  settable : issettablePage .userobject page = true
  modifiable : number ≠ ATTRNUM_UNMODIFIABLE
  nonempty : 1 ≤ value.length
  short : value.length ≤ ATTR_LEN_UB
  info : number = ATTRNUM_INFO → value.length ≤ ATTR_PAGE_ID_LEN ∧ 0 ∈ value

def AttrRow.Valid (r : AttrRow) : Prop := Allowed (columnInt r.page) (columnInt r.number) r.value

theorem allowed_iff {page number : UInt32} {value : List UInt8} : Allowed page number value ↔
    issettablePage .userobject page = true ∧ number ≠ ATTRNUM_UNMODIFIABLE ∧ 1 ≤ value.length ∧
      value.length ≤ ATTR_LEN_UB ∧
      (number = ATTRNUM_INFO → value.length ≤ ATTR_PAGE_ID_LEN ∧ 0 ∈ value) :=
  ⟨fun h => ⟨h.settable, h.modifiable, h.nonempty, h.short, h.info⟩,
    fun ⟨h1, h2, h3, h4, h5⟩ => ⟨h1, h2, h3, h4, h5⟩⟩

instance (page number : UInt32) (value : List UInt8) : Decidable (Allowed page number value) :=
  decidable_of_iff _ allowed_iff.symm

instance (r : AttrRow) : Decidable r.Valid := inferInstanceAs (Decidable (Allowed ..))

/-- A row is the attribute it was stored for. -/
@[simp] theorem attrRow_valid {pid oid : UInt64} {page number : UInt32} {value : List UInt8} :
    (attrRow pid oid page number value).Valid ↔ Allowed page number value := by
  show Allowed (columnInt (bindInt page)) (columnInt (bindInt number)) value ↔ _
  rw [columnInt_bindInt, columnInt_bindInt]

@[simp] theorem storedRow_valid {pid oid : UInt64} {page number : UInt32} {val : Option Mem}
    {len : UInt16} :
    (storedRow pid oid page number val len).Valid ↔ Allowed page number (givenBytes val len) := by
  show Allowed (columnInt (bindInt page)) (columnInt (bindInt number)) (AttrRow.value _) ↔ _
  rw [columnInt_bindInt, columnInt_bindInt, storedRow_value]

theorem lazyAttrs_valid {pid oid : UInt64} {r : AttrRow} (h : r ∈ lazyAttrs pid oid) : r.Valid := by
  simp only [lazyAttrs, List.mem_cons, List.not_mem_nil, or_false] at h
  rcases h with rfl | rfl
  · exact attrRow_valid.2 (by decide +kernel)
  · exact attrRow_valid.2 (by decide +kernel)

/-- The counters of CAS and FA. -/
theorem allowed_atomic {number : UInt32} {value : List UInt8} (hn : number = UAP_CAS ∨ number = UAP_FA)
    (h : value.length = 8) : Allowed USER_ATOMICS_PG number value := by
  have hub : (8 : Nat) ≤ ATTR_LEN_UB := by decide
  refine ⟨by decide, ?_, by omega, by omega, fun h0 => ?_⟩
  · rcases hn with rfl | rfl <;> decide
  · rcases hn with rfl | rfl <;> exact absurd h0 (by decide)

theorem issettablePage_rootInfo : issettablePage .userobject ROOT_INFO_PG = false := by decide

/-- **What passes the checks of `osd_set_attributes` on a user object obeys the rules.** -/
theorem SetChecks.allowed {d : Db} {pid oid : UInt64} {page number : UInt32} {val : Option Mem}
    {len : UInt16} (h : SetChecks d pid oid page number val len .userobject)
    (hpage : page ≠ USER_COLL_PG) (hlen : IsPlainPage page → len ≠ 0)
    (hname : page = USER_INFO_PG → val ≠ none) : Allowed page number (givenBytes val len) := by
  have hri : page ≠ ROOT_INFO_PG := by
    rintro rfl
    have hset := h.settable
    rw [issettablePage_rootInfo] at hset
    cases hset
  have hsome : val.isSome = true := by
    by_cases hui : page = USER_INFO_PG
    · exact Option.isSome_iff_ne_none.2 (hname hui)
    · exact h.given.2 (hlen ⟨hui, hri, hpage⟩)
  obtain ⟨m, rfl⟩ := Option.isSome_iff_exists.1 hsome
  have hne : len.toNat ≠ 0 := fun h0 => h.given.1 hsome (UInt16.toNat_inj.1 h0)
  have hval : (givenBytes (some m) len).length = len.toNat := Mem.read_length ..
  refine ⟨h.settable, h.modifiable, by omega, hval ▸ h.short, fun hinfo => ?_⟩
  obtain ⟨hle, hnul⟩ := h.info hinfo
  refine ⟨hval ▸ hle, ?_⟩
  obtain ⟨b, hb, hb0⟩ := List.any_eq_true.1 hnul
  exact of_decide_eq_true hb0 ▸ hb

/-! ## The invariant -/

/-- Two rows of one object have one type. -/
def Db.TypesAgree (d : Db) : Prop :=
  ∀ r ∈ d.obj, ∀ r' ∈ d.obj, r.pid = r'.pid → r.oid = r'.oid → r.type = r'.type

/-- The id is in use by something that is not a user object. -/
def Db.HasOther (d : Db) (p o : Int) : Prop := d.Has p o ∧ ¬ d.HasType p o .userobject

/-- An attribute obeys the rules unless it belongs to something that is not a user object. -/
structure Ruled (s : Target) : Prop where
  zero : ZeroRows s.db
  types : s.db.TypesAgree
  rows : ∀ r ∈ s.db.attr, r.Valid ∨ s.db.HasOther r.pid r.oid

/-- What a command may store without a test obeys the rules: the members' attributes of SET MEMBER
ATTRIBUTES, the new value of GEN CAS, and a user name given as a NULL pointer. -/
def Op.KeepsRules (s : Target) : Op → Prop
  | .setMemberAttributes pid cid setAttr =>
    (s.db.HasType (bindInt64 pid) (bindInt64 cid) .collection ∧ setAttr ≠ [] ∧
      ∀ e ∈ setAttr, issettablePage .userobject e.page = true) →
    ∀ r, IsLast (bulkRows s.db pid cid setAttr) r → ¬ s.db.HasOther r.pid r.oid → r.Valid
  | .genCas pid oid page number cmp cmpLen swap swapLen =>
    (s.db.HasUser pid oid ∧ swapLen ≠ 0 ∧ swap.isSome = true ∧
      GenCasSwaps s.db (attrRow pid oid page number []).key cmp cmpLen ∧ s.StoresRow page number swapLen) →
    Allowed page number (givenBytes swap swapLen)
  | .setAttributes pid oid page number val _ _ =>
    s.db.HasUser pid oid → page = USER_INFO_PG → number = UIAP_USERNAME → val ≠ none
  | _ => True

/-! ## Steps -/

theorem Db.HasOther.of_type {d : Db} (h : d.TypesAgree) {p o : Int} {type : ObjType}
    (ht : d.HasType p o type) (hne : type ≠ .userobject) : d.HasOther p o :=
  ⟨ht.has, fun hu => hne (h _ ht _ hu rfl rfl)⟩

/-- A type other than that of user objects is what it says. -/
theorem TypeAnswer.hasOther {d : Db} {pid oid : UInt64} {type : ObjType}
    (h : TypeAnswer d pid oid type) (hne : type ≠ .userobject) (hz : ZeroRows d) (ha : d.TypesAgree)
    (hhas : d.Has (bindInt64 pid) (bindInt64 oid)) : d.HasOther (bindInt64 pid) (bindInt64 oid) := by
  have hzero : bindInt64 oid = 0 → d.HasOther (bindInt64 pid) (bindInt64 oid) := by
    refine fun h0 => ⟨hhas, fun hu => ?_⟩
    rcases hz _ hu h0 with h | h <;> cases h
  rcases h with ⟨-, -, rfl⟩ | ⟨-, -, rfl⟩ | h
  · exact hzero rfl
  · exact hzero rfl
  · exact .of_type ha h hne

/-- **Everything a command stores obeys the rules or belongs to something else.** -/
theorem Ruled.stores (h : Ruled s) {op : Op} (hop : op.KeepsRules s) {r : AttrRow} (hr : op.Stores s r) :
    r.Valid ∨ s.db.HasOther r.pid r.oid ∨ op = .formatOsd := by
  cases op with
  | setAttributes pid oid page number val len isembedded =>
    obtain ⟨rfl, hpage, hrow, hlen, type, hc⟩ := hr
    by_cases htype : type = .userobject
    · subst htype
      have huser := hc.answer.hasType (by simp) (by simp)
      refine .inl (storedRow_valid.2 (hc.allowed hpage hlen fun hui => hop huser hui ?_))
      unfold Target.StoresRow at hrow
      rwa [if_pos hui] at hrow
    · exact .inr (.inl (hc.answer.hasOther htype h.zero h.types hc.present))
  | getattrList => exact .inl (lazyAttrs_valid hr.2)
  | getattrPage => exact .inl (lazyAttrs_valid hr.2)
  | setMemberAttributes =>
    by_cases ho : s.db.HasOther r.pid r.oid
    · exact .inr (.inl ho)
    · exact .inl (hop hr.1 r hr.2 ho)
  | cas =>
    obtain ⟨-, value, hv, rfl⟩ := hr
    exact .inl (attrRow_valid.2 (allowed_atomic (.inl rfl) hv))
  | fa =>
    obtain ⟨-, value, hv, rfl⟩ := hr
    exact .inl (attrRow_valid.2 (allowed_atomic (.inr rfl) hv))
  | genCas =>
    obtain ⟨hcond, rfl⟩ := hr
    exact .inl (storedRow_valid.2 (hop hcond))
  | formatOsd => exact .inr (.inr rfl)
  | _ => exact hr.elim

/-- The rows that come with one command are of one type. -/
theorem Op.effect.newType {op : Op} (h : op.effect env s s') (hop : op ≠ .formatOsd) :
    ∃ type, ∀ r ∈ s'.db.obj, r ∈ s.db.obj ∨ r.type = type := by
  have hsame : s'.db.obj = s.db.obj → ∃ type, ∀ r ∈ s'.db.obj, r ∈ s.db.obj ∨ r.type = type :=
    fun h => ⟨.illegal, fun r hr => .inl (h ▸ hr)⟩
  have hcreate : ∀ {pid requested numoid t}, CreateStep pid requested numoid s t →
      ∀ r ∈ t.db.obj, r ∈ s.db.obj ∨ r.type = .userobject := by
    intro pid requested numoid t h r hr
    cases h with
    | rejected hdb => exact .inl (hdb ▸ hr)
    | ran oid ic hpid hpart hone hpick hg hdone =>
      refine (hg.only r hr).imp_right ?_
      rintro ⟨k, -, rfl, -⟩
      rfl
  have hcoll : ∀ {pid requested source}, CollectionStep env pid requested source s s' →
      ∃ type, ∀ r ∈ s'.db.obj, r ∈ s.db.obj ∨ r.type = type := by
    intro pid requested source h
    cases h with
    | rejected hdb => exact hsame (by rw [hdb])
    | ran cid hpid hpart hpick hattr hcoll hobj =>
      rcases hobj with ⟨-, ho⟩ | ⟨-, ho⟩
      · refine ⟨.collection, fun r hr => ?_⟩
        rw [ho] at hr
        refine (List.mem_append.1 hr).imp_right fun hr => ?_
        rw [List.mem_singleton.1 hr]
        rfl
      · exact hsame ho
  have hgone : ∀ {pid oid : Int} {cleared why}, Removes pid oid cleared why s s' →
      ∃ type, ∀ r ∈ s'.db.obj, r ∈ s.db.obj ∨ r.type = type := by
    refine fun h => ⟨.illegal, fun r hr => .inl ?_⟩
    rcases h.obj with ⟨-, ho⟩ | ⟨ho, -, -⟩ <;> rw [ho] at hr
    · exact hr
    · exact (mem_deleteWhere.1 hr).1
  cases op with
  | create => exact ⟨.userobject, hcreate h⟩
  | createAndWrite =>
    rcases h with h | ⟨t, v, ht, hv, h⟩
    · exact ⟨.userobject, hcreate h⟩
    · refine ⟨.userobject, fun r hr => hcreate ht r (hv.obj ▸ ?_)⟩
      rcases h with rfl | ⟨h, -, -⟩
      · exact hr
      · rcases h.obj with ⟨-, ho⟩ | ⟨ho, -, -⟩ <;> rw [ho] at hr
        · exact hr
        · exact (mem_deleteWhere.1 hr).1
  | createCollection => exact hcoll h
  | createPartition =>
    rcases PartitionStep.obj h with ho | ⟨-, -, ho⟩
    · exact hsame ho
    · refine ⟨.partition, fun r hr => ?_⟩
      rw [ho] at hr
      refine (List.mem_append.1 hr).imp_right fun hr => ?_
      rw [List.mem_singleton.1 hr]
      rfl
  | createUserTrackingCollection => exact hcoll h
  | remove => exact h.elim (fun h => hsame (by rw [h])) fun h => hgone h.2
  | removeCollection => exact h.elim (fun h => hsame (by rw [h])) fun h => hgone h.2.2.2.2
  | removePartition => exact h.elim (fun h => hsame (by rw [h])) fun h => hgone h.2.2.2
  | setAttributes => exact hsame (SetStep.toIdStep h).obj
  | write => exact hsame (AttrStep.toIdStep h).obj
  | getattrList => exact hsame (AttrStep.toIdStep h).obj
  | getattrPage => exact hsame (AttrStep.toIdStep h).obj
  | setMemberAttributes => exact hsame (AttrStep.toIdStep h).obj
  | cas => exact hsame (AttrStep.toIdStep h).obj
  | fa => exact hsame (AttrStep.toIdStep h).obj
  | genCas => exact hsame (AttrStep.toIdStep h).obj
  | formatOsd => exact absurd rfl hop

theorem Db.TypesAgree.step (h : s.db.TypesAgree) {op : Op} (he : op.effect env s s')
    (hop : op ≠ .formatOsd) : s'.db.TypesAgree := by
  obtain ⟨type, htype⟩ := he.newType hop
  have hstep := he.objStep hop
  intro r hr r' hr' hp ho
  rcases hstep.new r hr with hold | ⟨hfree, -⟩
  · rcases hstep.new r' hr' with hold' | ⟨hfree', -⟩
    · exact h r hold r' hold' hp ho
    · exact absurd ⟨r, hold, hp, ho⟩ hfree'
  · have hnot : ∀ x, x.pid = r.pid → x.oid = r.oid → x ∉ s.db.obj :=
      fun x hxp hxo hx => hfree ⟨x, hx, hxp, hxo⟩
    rw [(htype r hr).resolve_left (hnot r rfl rfl), (htype r' hr').resolve_left (hnot r' hp.symm ho.symm)]

/-- **One command keeps the rules.** -/
theorem Ruled.step (h : Ruled s) {op : Op} (hop : op.KeepsRules s) :
    Ends (op.exec env) s (fun _ s' => Ruled s') := by
  intro ret s' hrun
  have he := op.exec_spec ret s' hrun
  have hw := op.exec_rewrites ret s' hrun
  by_cases hfmt : op = .formatOsd
  · subst hfmt
    rcases osdFormatOsd_tables ret s' hrun with hdb | ⟨hobj, hattr⟩
    · refine ⟨?_, ?_, ?_⟩ <;> rw [hdb]
      · exact h.zero
      · exact h.types
      · exact h.rows
    · refine ⟨fun r hr _ => .inl (by rw [hobj r hr]), fun r hr r' hr' _ _ => by rw [hobj r hr, hobj r' hr'],
        fun r hr => .inr ?_⟩
      obtain ⟨hp, ho, hhas⟩ := hattr r hr
      rw [hp, ho]
      exact ⟨hhas, fun hu => nomatch hobj _ hu⟩
  · have hstep := he.objStep hfmt
    refine ⟨h.zero.step hstep, h.types.step he hfmt, fun r hr => ?_⟩
    have hrow : r.Valid ∨ s.db.HasOther r.pid r.oid := by
      rcases hw.new r hr with hold | hst
      · exact h.rows r hold
      · exact (h.stores hop hst).imp_right fun h => h.resolve_right hfmt
    refine hrow.imp_right fun ⟨hhas, hno⟩ => ⟨he.keepsOwner hfmt hr hhas, fun hu => ?_⟩
    rcases hstep.new _ hu with hold | ⟨hfree, -⟩
    · exact hno hold
    · exact hfree hhas

/-! ## Runs -/

/-- The runs in which GEN CAS and SET MEMBER ATTRIBUTES are given attributes that obey the rules. -/
def RuledRun (i : Step) (s _ : Target) : Prop := i.op.KeepsRules s

theorem Initial.ruled (h : Initial s) : Ruled s := by
  have hroot : ∀ r ∈ s.db.obj, r = ⟨0, 0, .root⟩ := fun r hr => by simpa [h.obj] using hr
  refine ⟨h.zeroRows, fun r hr r' hr' _ _ => by rw [hroot r hr, hroot r' hr'], fun r hr => .inr ?_⟩
  obtain ⟨hp, ho⟩ := h.attr r hr
  rw [hp, ho]
  refine ⟨⟨⟨0, 0, .root⟩, ?_, rfl, rfl⟩, fun hu => nomatch hroot _ hu⟩
  rw [h.obj]
  exact List.mem_singleton.2 rfl

theorem Reachable.ruled (h : Reachable RuledRun s) : Ruled s :=
  h.invariant (fun _ hs => hs.initial.ruled) fun _ _ _ hi _ _ hrun hg => hi.step hg _ _ hrun

/-- **Every attribute of a user object obeys the rules of SET ATTRIBUTES.** -/
theorem stored_attributes_valid (h : Reachable RuledRun s) :
    ∀ r ∈ s.db.attr, s.db.HasType r.pid r.oid .userobject →
      issettablePage .userobject (columnInt r.page) = true ∧ columnInt r.number ≠ 0xFFFFFFFF ∧
      1 ≤ r.value.length ∧ r.value.length ≤ 0xFFFE ∧
      (columnInt r.number = 0 → r.value.length ≤ 40 ∧ 0 ∈ r.value) := by
  intro r hr hu
  rcases h.ruled.rows r hr with hv | ⟨-, hno⟩
  · exact allowed_iff.1 hv
  · exact absurd hu hno

/-- A GEN CAS that stores an attribute under a number of its own. -/
def genCasStore (number : UInt32) : Op :=
  .genCas 0x10000 0x10000 0x10000 number none 0 (some (blobMem [7])) 1

theorem stored_attributes_valid_genCas :
    let s := calmRun [.createPartition 0, .create 0x10000 0 1, genCasStore 5]
    (∃ r ∈ s.db.attr, s.db.HasType r.pid r.oid .userobject) ∧
      ∀ r ∈ s.db.attr, s.db.HasType r.pid r.oid .userobject →
        issettablePage .userobject (columnInt r.page) = true ∧ columnInt r.number ≠ 0xFFFFFFFF ∧
        1 ≤ r.value.length ∧ r.value.length ≤ 0xFFFE ∧
        (columnInt r.number = 0 → r.value.length ≤ 40 ∧ 0 ∈ r.value) := by
  refine ⟨by decide +kernel, stored_attributes_valid (.calmRun ?_)⟩
  exact ⟨by decide +kernel, trivial, by decide +kernel, trivial, by decide +kernel,
    fun _ => by decide +kernel, trivial⟩

/-- GEN CAS stores an attribute with the number that SET ATTRIBUTES refuses. -/
theorem attribute_unmodifiable_stored :
    ¬ ∀ s, Reachable (fun _ _ _ => True) s → ∀ r ∈ s.db.attr, s.db.HasType r.pid r.oid .userobject →
      issettablePage .userobject (columnInt r.page) = true ∧ columnInt r.number ≠ 0xFFFFFFFF ∧
      1 ≤ r.value.length ∧ r.value.length ≤ 0xFFFE ∧
      (columnInt r.number = 0 → r.value.length ≤ 40 ∧ 0 ∈ r.value) := by
  intro h
  have hall := h (calmRun [.createPartition 0, .create 0x10000 0 1, genCasStore 0xFFFFFFFF])
    (.calmRun ⟨by decide +kernel, trivial, by decide +kernel, trivial, by decide +kernel, trivial, trivial⟩)
  revert hall
  decide +kernel

end OsdTarget
