import OsdTarget.Base.KeyedStore
import OsdTarget.Decoding
import OsdTarget.SetMembers

/-!
# The attribute backends

`pan_attr.c` takes the place of `attr.c` on a Panasas device.  There the attributes of the user pages
are kept by ioctls on (group, object, page, number), and `attr_set_conversion` and
`attr_get_conversion` first cut page and number to 16 bits.  A get packs what it found for one object,
whatever format was asked for.
-/

namespace OsdTarget

open Base

variable {env : Env} {s t : Target} {pid oid : UInt64} {page number : UInt32}

/-! ## `pan_attr.c` -/

/-- What the ioctls take an attribute by. -/
structure PanKey where
  group : UInt64
  object : UInt64
  page : UInt32
  number : UInt32
  deriving DecidableEq, Repr

/-- The store behind the ioctls. -/
abbrev PanStore := PanKey → Option (List UInt8)

/-- `_attr_set_attr`. -/
def panAttrSetAttr (pid oid : UInt64) (page number : UInt32) (val : Mem) (len : UInt16)
    (store : PanStore) : PanStore :=
  Function.update store ⟨pid, oid, page, number⟩ (some (val.read 0 len.toNat))

/-- `_attr_get_attr`; the ioctl fails for an attribute that is not there. -/
def panAttrGetAttr (env : Env) (store : PanStore) (pid oid : UInt64) (origPage origNum page number : UInt32)
    (listfmt : UInt8) (pos : Nat) (outlen : UInt64) : OsdM (Ret × Option UInt32) :=
  match store ⟨pid, oid, page, number⟩ with
  | none => return (.err .osdError, none)
  | some value =>
    if listfmt = 0 then return (.ok, none)
    else do
      match ← lePackAttr env pos outlen.toUInt32 origPage origNum (UInt16.ofNat value.length)
        (some (blobMem value)) with
      | .ok ret => return (.ok, some (UInt32.ofNat ret))
      | .error .eoverflow => return (.ok, some 0)
      | .error e => return (.err e, none)

section Conversion

variable (maxStdAttrPage : UInt32)

/-- The page and number `pan_attr.c` makes of a user page; `MAX_STD_ATTR_PAGE` is the last page of the
device's own. -/
def panPage (page : UInt32) : UInt32 := (page &&& 0xffff) + maxStdAttrPage + 1
def panNumber (number : UInt32) : UInt32 := number &&& 0xffff

/-- `attr_set_conversion`. -/
def panAttrSetConversion (pid oid : UInt64) (page number : UInt32) (val : Mem) (len : UInt16)
    (store : PanStore) :
    PanStore :=
  panAttrSetAttr pid oid (panPage maxStdAttrPage page) (panNumber number) val len store

/-- `attr_get_conversion`. -/
def panAttrGetConversion (env : Env) (store : PanStore) (pid oid : UInt64) (page number : UInt32)
    (listfmt : UInt8)
    (pos : Nat) (outlen : UInt64) : OsdM (Ret × Option UInt32) :=
  panAttrGetAttr env store pid oid page number (panPage maxStdAttrPage page) (panNumber number)
    listfmt pos outlen

end Conversion

/-! ## Calls -/

/-- An attribute of an object. -/
structure Attribute where
  pid : UInt64
  oid : UInt64
  page : UInt32
  number : UInt32
  deriving DecidableEq, Repr

def Attribute.row (a : Attribute) (value : List UInt8) : AttrRow :=
    attrRow a.pid a.oid a.page a.number value
def Attribute.key (a : Attribute) : Int × Int × Int × Int := (a.row []).key
def Attribute.panKey (maxStdAttrPage : UInt32) (a : Attribute) : PanKey :=
  ⟨a.pid, a.oid, panPage maxStdAttrPage a.page, panNumber a.number⟩

/-- A call of one of the two functions. -/
inductive AttrCall
  | set (a : Attribute) (value : List UInt8)
  | get (a : Attribute) (pos : Nat) (outlen : UInt64)

/-- What a client reads of a get: page, number and value of the entry it packed. -/
def returned (listfmt : UInt8) (pos : Nat) (r : Ret × Option UInt32) (t : Target) :
    Option (UInt32 × UInt32 × List UInt8) :=
  if r.1 = .ok then
    (decodeEntry (decide (listfmt = RTRVD_CREATE_MULTIOBJ_LIST)) (t.reply.read pos (r.2.getD 0).toNat)).map
      fun p => (p.1.page, p.1.number, p.1.value)
  else none

/-- Calls in the build with `attr.c`: what each get returns. -/
def execCalls (env : Env) (listfmt : UInt8) : List AttrCall →
    OsdM (List (Option (UInt32 × UInt32 × List UInt8)))
  | [] => return []
  | .set a value :: l => do
    let _ ← attrSetConversion env a.pid a.oid a.page a.number (some (blobMem value))
      (UInt16.ofNat value.length)
    execCalls env listfmt l
  | .get a pos outlen :: l => do
    let r ← attrGetConversion env a.pid a.oid a.page a.number listfmt pos outlen
    let x := returned listfmt pos r (← get)
    return x :: (← execCalls env listfmt l)

/-- The same calls in the build with `pan_attr.c`. -/
def panExecCalls (env : Env) (maxStdAttrPage : UInt32) (listfmt : UInt8) :
    List AttrCall → PanStore → OsdM (List (Option (UInt32 × UInt32 × List UInt8)))
  | [], _ => return []
  | .set a value :: l, store =>
    panExecCalls env maxStdAttrPage listfmt l (panAttrSetConversion maxStdAttrPage a.pid
      a.oid a.page a.number
      (blobMem value) (UInt16.ofNat value.length) store)
  | .get a pos outlen :: l, store => do
    let r ← panAttrGetConversion maxStdAttrPage env store a.pid a.oid a.page a.number listfmt pos outlen
    let x := returned listfmt pos r (← get)
    return x :: (← panExecCalls env maxStdAttrPage listfmt l store)

/-- The attributes of user pages. -/
def Attribute.User (a : Attribute) : Prop := 0x10000 ≤ a.page ∧ a.page ≤ 0x1FFFFFFF

/-- A call on one of the attributes `A`, with a value of 1 to 65534 bytes or with room for one. -/
def AttrCall.Fits (env : Env) (A : Set Attribute) : AttrCall → Prop
  | .set a value => a ∈ A ∧ 1 ≤ value.length ∧ value.length ≤ 65534
  | .get a pos outlen => a ∈ A ∧ Aligned env pos outlen.toNat ∧ 65560 ≤ outlen.toNat ∧ outlen.toNat < 2 ^ 32

/-- No two attributes of an object have the low halves of their pages and of their numbers in common. -/
def ToldApart (A : Set Attribute) : Prop :=
  ∀ a ∈ A, ∀ b ∈ A, a.pid = b.pid → a.oid = b.oid → a.page.toNat % 2 ^ 16 = b.page.toNat % 2 ^ 16 →
    a.number.toNat % 2 ^ 16 = b.number.toNat % 2 ^ 16 → a = b

theorem Attribute.key_injective : Function.Injective Attribute.key := by
  rintro ⟨p, o, g, n⟩ ⟨p', o', g', n'⟩ h
  have hp : p = p' := bindInt64_inj.1 (congrArg (fun x => x.1) h)
  have ho : o = o' := bindInt64_inj.1 (congrArg (fun x => x.2.1) h)
  have hg : bindInt g = bindInt g' := congrArg (fun x => x.2.2.1) h
  have hn : bindInt n = bindInt n' := congrArg (fun x => x.2.2.2) h
  rw [hp, ho, ← columnInt_bindInt g, hg, columnInt_bindInt, ← columnInt_bindInt n, hn, columnInt_bindInt]

theorem lowHalf_eq {x y : UInt32} : x &&& 0xffff = y &&& 0xffff ↔ x.toNat % 2 ^ 16 = y.toNat % 2 ^ 16 := by
  rw [← UInt32.toNat_inj, UInt32.toNat_and, UInt32.toNat_and]
  show x.toNat &&& (2 ^ 16 - 1) = y.toNat &&& (2 ^ 16 - 1) ↔ _
  rw [Nat.and_two_pow_sub_one_eq_mod, Nat.and_two_pow_sub_one_eq_mod]

/-- The keys of the ioctls tell the attributes apart when their low halves do. -/
theorem panKey_injOn {A : Set Attribute} {maxStdAttrPage : UInt32} :
    Set.InjOn (Attribute.panKey maxStdAttrPage) A ↔ ToldApart A := by
  have hkey : ∀ a b : Attribute, a.panKey maxStdAttrPage = b.panKey maxStdAttrPage ↔
      a.pid = b.pid ∧ a.oid = b.oid ∧
      a.page.toNat % 2 ^ 16 = b.page.toNat % 2 ^ 16 ∧ a.number.toNat % 2 ^ 16 =
        b.number.toNat % 2 ^ 16 := by
    intro a b
    unfold Attribute.panKey panPage panNumber
    rw [PanKey.mk.injEq, UInt32.add_left_inj, UInt32.add_left_inj, lowHalf_eq, lowHalf_eq]
  constructor
  · intro h a ha b hb hp ho hg hn
    exact h ha hb ((hkey a b).2 ⟨hp, ho, hg, hn⟩)
  · intro h a ha b hb he
    obtain ⟨hp, ho, hg, hn⟩ := (hkey a b).1 he
    exact h a ha b hb hp ho hg hn

/-! ## What a get returns -/

section Returned

variable {listfmt : UInt8} {pos : Nat} {r : Ret × Option UInt32} {x : Item}

/-- The bytes of the one item that an answer holds. -/
theorem Answers.read_singleton {room : Nat} (hneed : x.need ≤ room) (h8 : room % 8 = 0)
    (hroom : room < 2 ^ 32)
    (h : Answers pos room s (some [x]) r t) : r.1 = .ok ∧ t.reply.read pos (r.2.getD 0).toNat =
      x.bytes room := by
  have hemit : emit room [x] = x.bytes room := by rw [emit_singleton, if_neg (Nat.not_lt.2 hneed)]
  have hlen := (emit_length h8 [x]).1
  obtain ⟨-, hout, hused, hret⟩ := h
  refine ⟨?_, ?_⟩
  · rcases hret with ⟨hok, -⟩ | ⟨-, hnil⟩
    · exact hok
    · exact absurd hneed (Nat.not_le.2 (lt_need_of_emit_nil hnil h8))
  · have hcount : (r.2.getD 0).toNat = (emit room [x]).length := by
      rw [hused]
      show (UInt32.ofNat (emit room [x]).length).toNat = _
      rw [UInt32.toNat_ofNat', Nat.mod_eq_of_lt (by omega)]
    rw [hcount, hout.content, hemit]

/-- An entry that was packed whole is what the client reads. -/
theorem returned_of_answers {room : Nat} (htag :
    x.oid.isSome = decide (listfmt = RTRVD_CREATE_MULTIOBJ_LIST))
    (hwf : x.Wf) (hfit : x.size ≤ room) (h8 : room % 8 = 0) (hroom : room < 2 ^ 32)
    (h : Answers pos room s (some [x]) r t) : returned listfmt pos r t =
      some (x.page, x.number, x.value) := by
  obtain ⟨hok, hread⟩ := h.read_singleton (Nat.le_trans x.need_le_size hfit) h8 hroom
  have hdecode : decodeEntry x.oid.isSome (x.bytes room ++ []) = some (x.entry, []) := by
    rw [decodeEntry_bytes hwf, if_pos hfit]
    rw [List.append_nil, Item.bytes_length_of_fits hwf hfit]
    exact hfit
  unfold returned
  rw [if_pos hok, hread, ← htag, ← List.append_nil (x.bytes room), hdecode]
  rfl

theorem returned_of_none {room : Nat} (h : Answers pos room s (some []) r t) :
    returned listfmt pos r t = none := by
  obtain ⟨-, -, -, ⟨-, hne⟩ | ⟨hno, -⟩⟩ := h
  · exact absurd rfl hne
  · unfold returned
    rw [hno]
    exact if_neg (by simp)

theorem valueLength_toNat {value : List UInt8} (h : value.length ≤ 65534) :
    (UInt16.ofNat value.length).toNat = value.length := by
  rw [UInt16.toNat_ofNat', Nat.mod_eq_of_lt]
  omega

theorem Attribute.value_room {value : List UInt8} (h : value.length ≤ 65534) (a : Attribute)
    (tag : Option UInt64) :
    (rowItem tag (a.row value)).size ≤ 65560 ∧ (rowItem tag (a.row value)).Wf ∧
      (rowItem tag (a.row value)).page = a.page ∧ (rowItem tag (a.row value)).number = a.number ∧
      (rowItem tag (a.row value)).value = value := by
  have hlen : (UInt16.ofNat value.length).toNat = value.length := valueLength_toNat h
  refine ⟨?_, (nomatch ·), columnInt_bindInt _, columnInt_bindInt _, ?_⟩
  · have htag := (rowItem tag (a.row value)).tag_length
    have hround := (roundup8_spec (LE_VAL_OFF + value.length))
    show (rowItem tag (a.row value)).tag.length + roundup8
      (LE_VAL_OFF + (UInt16.ofNat value.length).toNat) ≤ 65560
    rw [hlen]
    unfold LE_VAL_OFF at *
    omega
  · show (blobMem value).read 0 (UInt16.ofNat value.length).toNat = value
    rw [hlen, read_blobMem]

end Returned

/-! ## The builds as stores -/

/-- The call as one on a store. -/
def AttrCall.storeCall : AttrCall → StoreCall Attribute (List UInt8)
  | .set a value => .put a value
  | .get a _ _ => .get a

/-- What a get of `a` returns where the store answers `value`. -/
def entryOf (x : Attribute × Option (List UInt8)) : Option (UInt32 × UInt32 × List UInt8) :=
  x.2.map fun value => (x.1.page, x.1.number, value)

def attrValues : Set (List UInt8) := {value | 1 ≤ value.length ∧ value.length ≤ 65534}

theorem AttrCall.Fits.within {A : Set Attribute} {c : AttrCall} (h : c.Fits env A) :
    c.storeCall.Within A attrValues := by
  cases c with
  | set a value => exact h
  | get a pos outlen => exact h.1

/-- The table holds the attributes `A` as `m` does. -/
def RowsHold (A : Set Attribute) (m : Attribute → Option (List UInt8)) (s : Target) : Prop :=
  ∀ a ∈ A, (∀ v, m a = some v → v ∈ attrValues) ∧
    s.db.attr.filter (fun r => r.key = a.key) = ((m a).map a.row).toList

section Builds

variable {A : Set Attribute} {listfmt : UInt8} {l : List AttrCall}

theorem RowsHold.set {m : Attribute → Option (List UInt8)} (h : RowsHold A m s) {a : Attribute}
    {value : List UInt8}
    (hvalue : value ∈ attrValues) : RowsHold A (Function.update m a (some value))
    (s.withAttr (a.row value)) := by
  intro b hb
  obtain ⟨hlen, hrows⟩ := h b hb
  show _ ∧ (insertReplace AttrRow.key (a.row value) s.db.attr).filter (fun r => r.key = b.key) = _
  by_cases hab : b = a
  · subst hab
    rw [Function.update_self]
    refine ⟨fun v hv => ?_, ?_⟩
    · cases hv
      exact hvalue
    · have hgone : (deleteWhere (fun r => r.key = (b.row value).key) s.db.attr).filter
          (fun r => r.key = b.key) = [] := by
        rw [List.filter_eq_nil_iff]
        intro r hr hk
        exact (mem_deleteWhere.1 hr).2 (of_decide_eq_true hk)
      rw [insertReplace, List.filter_append, hgone, List.nil_append]
      exact List.filter_cons_of_pos (decide_eq_true rfl)
  · rw [Function.update_of_ne hab]
    refine ⟨hlen, ?_⟩
    rw [← hrows]
    refine filter_insertReplace fun r hr => decide_eq_false fun hk => hab ?_
    exact Attribute.key_injective (hk.symm.trans hr)

theorem attrSetConversion_ends (henv : env.RunsSql) {a : Attribute} {value : List UInt8}
    (hvalue : value ∈ attrValues)
    {Q : Ret → Target → Prop} (hok : Q .ok (s.withAttr (a.row value))) :
    Ends (attrSetConversion env a.pid a.oid a.page a.number (some (blobMem value))
      (UInt16.ofNat value.length)) s Q := by
  have hlen : (UInt16.ofNat value.length).toNat = value.length := valueLength_toNat hvalue.2
  refine dbExecDms_ends_of rfl ?_ fun hf => ?_
  · show Q .ok (s.withAttr (attrRow a.pid a.oid a.page a.number
      ((blobMem value).read 0 (UInt16.ofNat value.length).toNat)))
    rw [hlen, read_blobMem]
    exact hok
  · rw [henv.dms] at hf
    exact absurd hf (by decide)

theorem attrGetConversion_returns (henv : env.RunsSql) (hf : IsFormat listfmt)
    {m : Attribute → Option (List UInt8)}
    (h : RowsHold A m s) {a : Attribute} {pos : Nat} {outlen : UInt64}
    (hfit : (AttrCall.get a pos outlen).Fits env A) :
    Ends (attrGetConversion env a.pid a.oid a.page a.number listfmt pos outlen) s fun r t =>
      returned listfmt pos r t = entryOf (a, m a) ∧ t.core = s.core := by
  obtain ⟨ha, hal, hroom, hlt⟩ := hfit
  obtain ⟨hlen, hrows⟩ := h a ha
  refine (execAttrRtrvlStmt_answers hf hal hlt (.attr a.page a.number) a.pid a.oid).mono fun r t hr => ?_
  have hitems : rowItems env s a.pid a.oid (tagOf listfmt a.oid) (.attr a.page a.number)
      = some (((m a).map a.row).toList.map (rowItem (tagOf listfmt a.oid))) := by
    unfold rowItems
    rw [if_neg (by simp [henv.query]), ← hrows]
    rfl
  rw [hitems] at hr
  refine ⟨?_, hr.1⟩
  cases hm : m a with
  | none =>
    rw [hm] at hr
    exact returned_of_none hr
  | some value =>
    rw [hm] at hr
    obtain ⟨hsize, hwf, hpage, hnumber, hvalue⟩ := a.value_room (hlen value hm).2 (tagOf listfmt a.oid)
    have htag : (rowItem (tagOf listfmt a.oid) (a.row value)).oid.isSome
        = decide (listfmt = RTRVD_CREATE_MULTIOBJ_LIST) := by
      show (tagOf listfmt a.oid).isSome = _
      unfold tagOf
      by_cases hf : listfmt = RTRVD_CREATE_MULTIOBJ_LIST
      · rw [if_pos hf, decide_eq_true hf]
        rfl
      · rw [if_neg hf, decide_eq_false hf]
        rfl
    rw [returned_of_answers htag hwf (Nat.le_trans hsize hroom) hal.2 hlt hr, hpage, hnumber, hvalue]
    rfl

theorem RowsHold.of_core {m : Attribute → Option (List UInt8)} (h : RowsHold A m s) (ht : t.core = s.core) :
    RowsHold A m t := by
  have hdb : t.core.db = s.core.db := congrArg Target.db ht
  intro a ha
  obtain ⟨hlen, hrows⟩ := h a ha
  refine ⟨hlen, ?_⟩
  show t.core.db.attr.filter (fun r => r.key = a.key) = _
  rw [hdb]
  exact hrows

/-- **The build with `attr.c`** is the store under the attributes themselves. -/
theorem execCalls_answers (henv : env.RunsSql) (hf : IsFormat listfmt) (hl : ∀ c ∈ l, c.Fits env A)
    {m : Attribute → Option (List UInt8)} (h : RowsHold A m s) :
    Ends (execCalls env listfmt l) s fun out _ =>
      out = (answersTo id m (l.map AttrCall.storeCall)).map entryOf := by
  induction l generalizing m s with
  | nil => exact ends_pure.2 rfl
  | cons c l ih =>
    have hc := hl c List.mem_cons_self
    have hrest : ∀ c ∈ l, c.Fits env A := fun c hc => hl c (List.mem_cons_of_mem _ hc)
    cases c with
    | set a value => exact ends_bind.2 (attrSetConversion_ends henv hc.2 (ih hrest (h.set hc.2)))
    | get a pos outlen =>
      refine ends_call (attrGetConversion_returns henv hf h hc) fun r t ⟨hr, hcore⟩ =>
        ends_bind.2 (ends_get.2 ?_)
      refine ends_call (ih hrest (h.of_core hcore)) fun out u hout => ends_pure.2 ?_
      rw [hr, hout]
      rfl

/-- The store behind the ioctls holds no value of another size. -/
def PanHolds (A : Set Attribute) (maxStdAttrPage : UInt32) (store : PanStore) : Prop :=
  ∀ a ∈ A, ∀ v, store (a.panKey maxStdAttrPage) = some v → v ∈ attrValues

variable {maxStdAttrPage : UInt32} {store : PanStore}

theorem PanHolds.set (h : PanHolds A maxStdAttrPage store) (a : Attribute) {value : List UInt8}
    (hvalue : value ∈ attrValues) :
    PanHolds A maxStdAttrPage (Function.update store (a.panKey maxStdAttrPage) (some value)) := by
  intro b hb v hv
  by_cases hab : b.panKey maxStdAttrPage = a.panKey maxStdAttrPage
  · rw [hab, Function.update_self] at hv
    cases hv
    exact hvalue
  · rw [Function.update_of_ne hab] at hv
    exact h b hb v hv

theorem panAttrSetConversion_eq (a : Attribute) {value : List UInt8} (hvalue : value ∈ attrValues) :
    panAttrSetConversion maxStdAttrPage a.pid a.oid a.page a.number (blobMem value)
      (UInt16.ofNat value.length) store
      = Function.update store (a.panKey maxStdAttrPage) (some value) := by
  have hlen : (UInt16.ofNat value.length).toNat = value.length := valueLength_toNat hvalue.2
  unfold panAttrSetConversion panAttrSetAttr
  rw [hlen, read_blobMem]
  rfl

theorem panAttrGetAttr_packs {a : Attribute} {value : List UInt8} {pos : Nat} {outlen : UInt64}
    (hstore : store (a.panKey maxStdAttrPage) = some value) (hf : IsFormat listfmt)
    (hfit : (AttrCall.get a pos outlen).Fits env A) :
    Ends (panAttrGetConversion maxStdAttrPage env store a.pid a.oid a.page a.number listfmt pos outlen) s
      (Answers pos outlen.toNat s (some [⟨none, a.page, a.number, UInt16.ofNat value.length,
        some (blobMem value)⟩])) := by
  obtain ⟨-, hal, -, hlt⟩ := hfit
  have h32 := toUInt32_toNat_of_lt hlt
  have hzero : listfmt ≠ 0 := by
    rcases hf with rfl | rfl <;> decide
  show Ends (panAttrGetAttr env store a.pid a.oid a.page a.number (panPage maxStdAttrPage a.page)
    (panNumber a.number)
    listfmt pos outlen) s _
  unfold panAttrGetAttr
  rw [show store ⟨a.pid, a.oid, panPage maxStdAttrPage a.page, panNumber a.number⟩ = some value from hstore]
  dsimp only
  rw [if_neg hzero]
  refine ends_call (lePackAttr_packs (by rw [h32]; exact hal) _ _ _ _) fun r t h => ?_
  rw [h32] at h
  cases r with
  | ok n => exact ends_pure.2 (h.answers (fun m hm => by cases hm; rfl) (fun hm => nomatch hm))
  | error e =>
    obtain ⟨-, ⟨-, hr, -⟩ | ⟨-, hr, -⟩⟩ := id h
    · cases hr
    · cases hr
      exact ends_pure.2 (h.answers (fun m hm => nomatch hm) (fun _ => rfl))

theorem panAttrGetConversion_none {a : Attribute}
    (hstore : store (a.panKey maxStdAttrPage) = none) (pos : Nat)
    (outlen : UInt64) :
    Ends (panAttrGetConversion maxStdAttrPage env store a.pid a.oid a.page a.number listfmt pos outlen)
      s fun r t =>
      returned listfmt pos r t = none := by
  show Ends (panAttrGetAttr env store a.pid a.oid a.page a.number (panPage maxStdAttrPage a.page)
    (panNumber a.number) listfmt pos outlen) s _
  unfold panAttrGetAttr
  rw [show store ⟨a.pid, a.oid, panPage maxStdAttrPage a.page, panNumber a.number⟩ = none from hstore]
  exact ends_pure.2 rfl

/-- In the list format of one object an entry of `pan_attr.c` is read as what it stands for. -/
theorem panAttrGetConversion_returns (hlist : listfmt = RTRVD_SET_ATTR_LIST)
    (h : PanHolds A maxStdAttrPage store)
    {a : Attribute} {pos : Nat} {outlen : UInt64} (hfit : (AttrCall.get a pos outlen).Fits env A) :
    Ends (panAttrGetConversion maxStdAttrPage env store a.pid a.oid a.page a.number listfmt pos outlen)
      s fun r t =>
      returned listfmt pos r t = entryOf (a, store (a.panKey maxStdAttrPage)) := by
  subst hlist
  cases hstore : store (a.panKey maxStdAttrPage) with
  | none => exact panAttrGetConversion_none hstore pos outlen
  | some value =>
    have hlen := (h a hfit.1 value hstore).2
    have hcount := valueLength_toNat hlen
    have hwf : Item.Wf ⟨none, a.page, a.number, UInt16.ofNat value.length, some (blobMem value)⟩ :=
        (nomatch ·)
    refine (panAttrGetAttr_packs hstore (.inl rfl) hfit).mono fun r t hr => ?_
    refine (returned_of_answers rfl hwf ?_ hfit.2.1.2 hfit.2.2.2 hr).trans ?_
    · have hround := roundup8_spec (LE_VAL_OFF + value.length)
      show 0 + roundup8 (LE_VAL_OFF + (UInt16.ofNat value.length).toNat) ≤ outlen.toNat
      have hroom := hfit.2.2.1
      rw [hcount]
      unfold LE_VAL_OFF at *
      omega
    · show some (a.page, a.number, (blobMem value).read 0 (UInt16.ofNat value.length).toNat) = _
      rw [hcount, read_blobMem]
      rfl

/-- In the format of many objects the page of such an entry is read where nothing stands. -/
theorem panAttrGetConversion_untagged (hmulti : listfmt = RTRVD_CREATE_MULTIOBJ_LIST)
    {a : Attribute} {pos : Nat}
    {outlen : UInt64} (hfit : (AttrCall.get a pos outlen).Fits env A) :
    Ends (panAttrGetConversion maxStdAttrPage env store a.pid a.oid a.page a.number listfmt pos outlen)
      s fun r t =>
      ∀ e, returned listfmt pos r t = some e → e.1 = 0 := by
  subst hmulti
  cases hstore : store (a.panKey maxStdAttrPage) with
  | none =>
    refine (panAttrGetConversion_none hstore pos outlen).mono fun r t hr e he => ?_
    rw [hr] at he
    cases he
  | some value =>
    refine (panAttrGetAttr_packs hstore (.inr rfl) hfit).mono fun r t hr e he => ?_
    obtain ⟨-, hal, hroom, hlt⟩ := hfit
    obtain ⟨hok, hread⟩ := hr.read_singleton (Nat.le_trans (show 16 ≤ 65560 by decide) hroom) hal.2 hlt
    unfold returned at he
    rw [if_pos hok, hread] at he
    obtain ⟨⟨d, rest⟩, hd, rfl⟩ := Option.map_eq_some_iff.1 he
    rw [← List.append_nil (Item.bytes _ _)] at hd
    exact decodeEntry_untagged rfl hd

/-- **The build with `pan_attr.c`** is the store under the keys of the ioctls. -/
theorem panExecCalls_answers (hlist : A.Nonempty → listfmt = RTRVD_SET_ATTR_LIST)
    (hl : ∀ c ∈ l, c.Fits env A)
    (h : PanHolds A maxStdAttrPage store) :
    Ends (panExecCalls env maxStdAttrPage listfmt l store) s fun out _ =>
      out = (answersTo (Attribute.panKey maxStdAttrPage) store (l.map AttrCall.storeCall)).map entryOf := by
  induction l generalizing store s with
  | nil => exact ends_pure.2 rfl
  | cons c l ih =>
    have hc := hl c List.mem_cons_self
    have hrest : ∀ c ∈ l, c.Fits env A := fun c hc => hl c (List.mem_cons_of_mem _ hc)
    cases c with
    | set a value =>
      show Ends (panExecCalls env maxStdAttrPage listfmt l
        (panAttrSetConversion maxStdAttrPage a.pid a.oid a.page
        a.number (blobMem value) (UInt16.ofNat value.length) store)) s _
      rw [panAttrSetConversion_eq a hc.2]
      exact ih hrest (h.set a hc.2)
    | get a pos outlen =>
      refine ends_call (panAttrGetConversion_returns (hlist ⟨a, hc.1⟩) h hc) fun r t hr =>
        ends_bind.2 (ends_get.2 ?_)
      refine ends_call (ih hrest h) fun out u hout => ends_pure.2 ?_
      rw [hr, hout]
      rfl

theorem panExecCalls_untagged (hmulti : listfmt = RTRVD_CREATE_MULTIOBJ_LIST) (hl : ∀ c ∈ l, c.Fits env A) :
    Ends (panExecCalls env maxStdAttrPage listfmt l store) s fun out _ => ∀ e, some e ∈ out → e.1 = 0 := by
  induction l generalizing store s with
  | nil => exact ends_pure.2 fun _ he => (nomatch he)
  | cons c l ih =>
    have hrest : ∀ c ∈ l, c.Fits env A := fun c hc => hl c (List.mem_cons_of_mem _ hc)
    cases c with
    | set a value => exact ih hrest
    | get a pos outlen =>
      refine ends_call (panAttrGetConversion_untagged hmulti (hl _ List.mem_cons_self)) fun r t hr =>
        ends_bind.2 (ends_get.2 ?_)
      refine ends_call (ih hrest) fun out u hout => ends_pure.2 fun e he => ?_
      rcases List.mem_cons.1 he with he | he
      · exact hr e he.symm
      · exact hout e he

theorem halts_execCalls (listfmt : UInt8) (l : List AttrCall) : Halts (execCalls env listfmt l) := by
  induction l with
  | nil => exact halts_pure _
  | cons c l ih =>
    cases c with
    | set a value => exact halts_bind (halts_dbExecDms _) fun _ => ih
    | get a pos outlen =>
      exact halts_bind (halts_execAttrRtrvlStmt _ _ _ _ _ _) fun _ => halts_bind halts_get fun _ =>
        halts_bind ih fun _ => halts_pure _

theorem halts_panAttrGetConversion (a : Attribute) (listfmt : UInt8) (pos : Nat) (outlen : UInt64) :
    Halts (panAttrGetConversion maxStdAttrPage env store a.pid a.oid a.page a.number listfmt
      pos outlen) := by
  unfold panAttrGetConversion panAttrGetAttr
  split
  · exact halts_pure _
  · refine halts_ite (halts_pure _) (halts_bind (halts_lePackAttr _ _ _ _ _ _) fun r => ?_)
    split <;> exact halts_pure _

theorem halts_panExecCalls (listfmt : UInt8) (l : List AttrCall) (store : PanStore) :
    Halts (panExecCalls env maxStdAttrPage listfmt l store) := by
  induction l generalizing store with
  | nil => exact halts_pure _
  | cons c l ih =>
    cases c with
    | set a value => exact ih _
    | get a pos outlen =>
      exact halts_bind (halts_panAttrGetConversion _ _ _ _) fun _ => halts_bind halts_get fun _ =>
        halts_bind (ih _) fun _ => halts_pure _

end Builds

/-! ## The two builds -/

section Backends

variable {A : Set Attribute} {maxStdAttrPage : UInt32} {listfmt : UInt8}

/-- The two builds hold the same attributes `A`, of 1 to 65534 bytes. -/
def HoldAlike (A : Set Attribute) (maxStdAttrPage : UInt32) (s : Target) (store : PanStore) : Prop :=
  ∃ m, RowsHold A m s ∧ ∀ a ∈ A, store (a.panKey maxStdAttrPage) = m a

/-- Whatever calls on the attributes `A` are made, the two builds return the same. -/
def BuildsAgree (A : Set Attribute) (maxStdAttrPage : UInt32) (listfmt : UInt8) : Prop :=
  ∀ (env : Env) (s : Target) (store : PanStore) (calls : List AttrCall), env.RunsSql →
    HoldAlike A maxStdAttrPage s store → (∀ c ∈ calls, c.Fits env A) →
    ∃ out t t', execCalls env listfmt calls s = some (out, t) ∧
      panExecCalls env maxStdAttrPage listfmt calls store s = some (out, t')

theorem rowsHold_blank (A : Set Attribute) : RowsHold A (fun _ => none) Target.blank :=
  fun _ _ => ⟨fun _ h => (nomatch h), rfl⟩

theorem BuildsAgree.of_told (hlist : A.Nonempty → listfmt = RTRVD_SET_ATTR_LIST) (htold : ToldApart A)
    (hf : IsFormat listfmt) : BuildsAgree A maxStdAttrPage listfmt := by
  intro env s store calls henv ⟨m, hrows, hstore⟩ hcalls
  have hpan : PanHolds A maxStdAttrPage store := fun a ha v hv =>
      (hrows a ha).1 v ((hstore a ha).symm.trans hv)
  obtain ⟨out, t, hrun, hout⟩ := Ends.of_halts (execCalls_answers henv hf hcalls hrows)
      (halts_execCalls _ _)
  obtain ⟨out', t', hrun', hout'⟩ := Ends.of_halts
    (panExecCalls_answers (s := s) hlist hcalls hpan) (halts_panExecCalls _ _ _)
  have hsame : answersTo id m (calls.map AttrCall.storeCall)
      = answersTo (Attribute.panKey maxStdAttrPage) store (calls.map AttrCall.storeCall) := by
    refine answersTo_eq (A := A) (W := attrValues) (Set.injOn_id A) (panKey_injOn.2 htold) ?_ fun a ha => ?_
    · intro c hc
      obtain ⟨c', hc', rfl⟩ := List.mem_map.1 hc
      exact (hcalls c' hc').within
    · exact (hstore a ha).symm
  rw [hout, hsame, ← hout'] at hrun
  exact ⟨out', t, t', hrun, hrun'⟩

/-- From the blank state, where the environment fails nothing, `pan_attr.c` returns what the attributes
hold. -/
theorem BuildsAgree.calm (h : BuildsAgree A maxStdAttrPage listfmt) (hf : IsFormat listfmt)
    {calls : List AttrCall}
    (hcalls : ∀ c ∈ calls, c.Fits Env.calm A) :
    ∃ out t, panExecCalls Env.calm maxStdAttrPage listfmt calls (fun _ => none)
      Target.blank = some (out, t) ∧
      out = (answersTo id (fun _ => none) (calls.map AttrCall.storeCall)).map entryOf := by
  obtain ⟨out, t, t', hrun, hrun'⟩ := h Env.calm Target.blank (fun _ => none) calls Env.calm_runsSql
    ⟨_, rowsHold_blank A, fun _ _ => rfl⟩ hcalls
  exact ⟨out, t', hrun', execCalls_answers Env.calm_runsSql hf hcalls (rowsHold_blank A) out t hrun⟩

theorem fits_get {a : Attribute} (ha : a ∈ A) : (AttrCall.get a 0 65560).Fits Env.calm A :=
  ⟨ha, ⟨rfl, rfl⟩, by decide, by decide⟩

theorem fits_set {a : Attribute} (ha : a ∈ A) (b : UInt8) : (AttrCall.set a [b]).Fits Env.calm A :=
  ⟨ha, Nat.le_refl 1, Nat.le_add_left 1 65533⟩

/-- An attribute that was set is found by its page, which the format of many objects does not let. -/
theorem BuildsAgree.list (h : BuildsAgree A maxStdAttrPage listfmt) (hA : ∀ a ∈ A, a.User)
    (hf : IsFormat listfmt)
    (hne : A.Nonempty) : listfmt = RTRVD_SET_ATTR_LIST := by
  obtain ⟨a, ha⟩ := hne
  refine hf.resolve_right fun hmulti => ?_
  have hcalls : ∀ c ∈ [AttrCall.set a [1], .get a 0 65560], c.Fits Env.calm A := by
    simp only [List.mem_cons, List.not_mem_nil, or_false]
    rintro c (rfl | rfl)
    · exact fits_set ha 1
    · exact fits_get ha
  obtain ⟨out, t, hrun, hout⟩ := h.calm hf hcalls
  have hanswer : some (a.page, a.number, [1]) ∈ out := by
    rw [hout]
    show some (a.page, a.number, [1]) ∈ [entryOf (a, Function.update (fun _ => none) a (some [1]) a)]
    rw [Function.update_self]
    exact List.mem_cons_self
  have hzero : a.page = 0 := panExecCalls_untagged hmulti hcalls out t hrun _ hanswer
  have huser := (hA a ha).1
  rw [hzero] at huser
  exact absurd huser (by decide)

/-- A set of one attribute shows through a get of another unless the keys tell them apart. -/
theorem BuildsAgree.told (h : BuildsAgree A maxStdAttrPage RTRVD_SET_ATTR_LIST) : ToldApart A := by
  have hprobe : ∀ a ∈ A, ∀ b ∈ A, answersTo id (fun _ => none) (probe a b ([1] : List UInt8) [2])
      = answersTo (Attribute.panKey maxStdAttrPage) (fun _ => none) (probe a b [1] [2]) := by
    intro a ha b hb
    have hcalls : ∀ c ∈ [AttrCall.set a [1], .set b [2], .get a 0 65560], c.Fits Env.calm A := by
      simp only [List.mem_cons, List.not_mem_nil, or_false]
      rintro c (rfl | rfl | rfl)
      · exact fits_set ha 1
      · exact fits_set hb 2
      · exact fits_get ha
    obtain ⟨out, t, hrun, hout⟩ := h.calm (.inl rfl) hcalls
    have hnone : PanHolds A maxStdAttrPage fun _ => none := fun _ _ _ hv => (nomatch hv)
    have hpan : out = (answersTo (Attribute.panKey maxStdAttrPage) (fun _ => none)
        (probe a b [1] [2])).map entryOf :=
      panExecCalls_answers (fun _ => rfl) hcalls hnone out t hrun
    have hsame : (answersTo id (fun _ => none) (probe a b [1] [2])).map entryOf = _ := hout.symm.trans hpan
    rw [answersTo_probe, answersTo_probe] at hsame ⊢
    have hvalue := congrArg (fun e => e.2.2) (Option.some.inj (List.cons.inj hsame).1)
    exact congrArg (fun v => [(a, some v)]) hvalue
  exact panKey_injOn.1 (injOn_of_probe (Set.injOn_id A) (by decide) hprobe)

/-- **The two builds agree** on the attributes `A` exactly where a get is asked for the list of one
object and no two attributes of an object have the low halves of their pages and of their numbers in
common. -/
theorem buildsAgree_iff (hA : ∀ a ∈ A, a.User) (hf : IsFormat listfmt) :
    BuildsAgree A maxStdAttrPage listfmt ↔ (A.Nonempty → listfmt = RTRVD_SET_ATTR_LIST) ∧ ToldApart A := by
  constructor
  · intro h
    have hlist := h.list hA hf
    refine ⟨hlist, ?_⟩
    rcases A.eq_empty_or_nonempty with rfl | hne
    · exact fun a ha => ha.elim
    · rw [hlist hne] at h
      exact h.told
  · intro ⟨hlist, htold⟩
    exact BuildsAgree.of_told hlist htold hf

/-- Two pages of an object whose low halves differ. -/
theorem buildsAgree_neighbours :
    BuildsAgree {⟨0x10000, 0x10000, 0x10000, 1⟩, ⟨0x10000, 0x10000, 0x10001, 1⟩} 7 RTRVD_SET_ATTR_LIST :=
  (buildsAgree_iff (by simp [Attribute.User]) (.inl rfl)).2 ⟨fun _ => rfl, by simp [ToldApart]⟩

/-- A value set under page 0x20000 comes back for page 0x10000. -/
theorem buildsAgree_not_far :
    ¬ BuildsAgree {⟨0x10000, 0x10000, 0x10000, 1⟩, ⟨0x10000, 0x10000, 0x20000, 1⟩} 7 RTRVD_SET_ATTR_LIST ∧
    (execCalls Env.calm RTRVD_SET_ATTR_LIST
      [.set ⟨0x10000, 0x10000, 0x10000, 1⟩ [1], .set ⟨0x10000, 0x10000, 0x20000, 1⟩ [2],
        .get ⟨0x10000, 0x10000, 0x10000, 1⟩ 0 65560] Target.blank).map Prod.fst =
          some [some (0x10000, 1, [1])] ∧
    (panExecCalls Env.calm 7 RTRVD_SET_ATTR_LIST
      [.set ⟨0x10000, 0x10000, 0x10000, 1⟩ [1], .set ⟨0x10000, 0x10000, 0x20000, 1⟩ [2],
        .get ⟨0x10000, 0x10000, 0x10000, 1⟩ 0 65560] (fun _ => none) Target.blank).map Prod.fst
      = some [some (0x10000, 1, [2])] := by
  have htold : ¬ ToldApart {⟨0x10000, 0x10000, 0x10000, 1⟩, ⟨0x10000, 0x10000, 0x20000, 1⟩} := by
    intro h
    exact absurd (h _ (.inl rfl) _ (.inr rfl) rfl rfl rfl rfl) (by decide)
  exact ⟨fun h => htold h.told, by decide +kernel, by decide +kernel⟩

end Backends

end OsdTarget
