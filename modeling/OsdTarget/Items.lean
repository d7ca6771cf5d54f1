import OsdTarget.Reply

/-!
# Packed items

The entries of a retrieved attribute list, with or without an object id in front, and `emit`, which
cuts a list of items to the room there is.  Less room cuts off the tail.
-/

namespace OsdTarget

open Base

/-! ## Items -/

/-- What is packed for one attribute, behind an object id in the format for several objects. -/
structure Item where
  oid : Option UInt64
  page : UInt32
  number : UInt32
  len : UInt16
  val : Option Mem

/-- The bytes in front of the entry. -/
def Item.tag (x : Item) : List UInt8 := match x.oid with
  | some oid => htonll oid
  | none => []

/-- The least room the item can be packed into. -/
def Item.need (x : Item) : Nat := x.tag.length + LE_MIN_ITEM_LEN

/-- The bytes stored for the item when `room` bytes are left. -/
def Item.bytes (x : Item) (room : Nat) : List UInt8 :=
  x.tag ++ leBytes (room - x.tag.length) x.page x.number x.len x.val

/-- The bytes stored for one item after the other, up to the first that does not fit. -/
def emit : Nat → List Item → List UInt8
  | _, [] => []
  | room, x :: items =>
    if room < x.need then []
    else x.bytes room ++ emit (room - (x.bytes room).length) items

theorem Item.tag_length (x : Item) : x.tag.length = 0 ∨ x.tag.length = 8 := by
  unfold Item.tag
  cases x.oid <;> simp

/-- An item that is packed keeps the room a multiple of 8. -/
theorem Item.bytes_length {x : Item} {room : Nat} (h8 : room % 8 = 0) (hroom : x.need ≤ room) :
    16 ≤ (x.bytes room).length ∧ (x.bytes room).length % 8 = 0 ∧ (x.bytes room).length ≤ room := by
  have ht := x.tag_length
  have hr := fun n => roundup8_spec n
  unfold Item.need LE_MIN_ITEM_LEN LE_VAL_OFF at hroom
  unfold Item.bytes
  rw [List.length_append, leBytes_length]
  have hk : (if x.val.isSome then min x.len.toNat (room - x.tag.length - LE_VAL_OFF) else 0)
      ≤ room - x.tag.length - LE_VAL_OFF := by
    split
    · exact Nat.min_le_right _ _
    · exact Nat.zero_le _
  revert hk
  generalize (if x.val.isSome then min x.len.toNat (room - x.tag.length - LE_VAL_OFF) else 0) = k
  intro hk
  have := hr (LE_VAL_OFF + k)
  unfold LE_VAL_OFF at *
  omega

theorem emit_length {room : Nat} (h8 : room % 8 = 0) (items : List Item) :
    (emit room items).length ≤ room ∧ (emit room items).length % 8 = 0 := by
  induction items generalizing room with
  | nil => exact ⟨Nat.zero_le _, rfl⟩
  | cons x items ih =>
    unfold emit
    split
    · exact ⟨Nat.zero_le _, rfl⟩
    · rename_i hroom
      have hx := Item.bytes_length h8 (Nat.not_lt.1 hroom)
      have hrest := ih (show (room - (x.bytes room).length) % 8 = 0 by omega)
      rw [List.length_append]
      omega

theorem emit_singleton (room : Nat) (x : Item) :
    emit room [x] = if room < x.need then [] else x.bytes room := by
  unfold emit
  split
  · rfl
  · rw [emit, List.append_nil]

/-- Nothing is stored only when the first item does not fit. -/
theorem lt_need_of_emit_nil {room : Nat} {x : Item} {items : List Item}
    (h : emit room (x :: items) = []) (h8 : room % 8 = 0) : room < x.need := by
  rw [emit] at h
  split at h
  · assumption
  · rename_i hge
    have hlen := (Item.bytes_length h8 (Nat.not_lt.1 hge)).1
    have := congrArg List.length h
    rw [List.length_append, List.length_nil] at this
    omega

/-- Without room for the least item nothing is stored. -/
theorem emit_of_lt {room : Nat} (h : room < LE_MIN_ITEM_LEN) (items : List Item) :
    emit room items = [] := by
  cases items with
  | nil => rfl
  | cons x items =>
    have hneed : room < x.need := Nat.lt_of_lt_of_le h (Nat.le_add_left _ _)
    rw [emit, if_pos hneed]

/-- Items that all need the same room stop at the same point, however the list is split. -/
theorem emit_append {need room : Nat} {items : List Item} (hneed : ∀ x ∈ items, x.need = need)
    {items' : List Item} (hneed' : ∀ x ∈ items', x.need = need) :
    emit room (items ++ items') = emit room items ++ emit (room - (emit room items).length) items' := by
  induction items generalizing room with
  | nil => rfl
  | cons x items ih =>
    have hx : x.need = need := hneed x List.mem_cons_self
    by_cases hroom : room < need
    · have hnil : ∀ l : List Item, (∀ y ∈ l, y.need = need) → emit room l = [] := by
        intro l hl
        cases l with
        | nil => rfl
        | cons y l => rw [emit, hl y List.mem_cons_self, if_pos hroom]
      rw [hnil _ hneed, List.cons_append, emit, hx, if_pos hroom]
      exact (hnil _ hneed').symm
    · rw [List.cons_append, emit, emit, hx, if_neg hroom, if_neg hroom,
        ih fun y hy => hneed y (List.mem_cons_of_mem _ hy), List.append_assoc, List.length_append,
        Nat.sub_add_eq]

/-! ### Truncation -/

/-- Less room cuts off the tail of an item; a cut item fills its room. -/
theorem Item.bytes_cut {x : Item} {a b : Nat} (h8 : a % 8 = 0) (hneed : x.need ≤ a) (hab : a ≤ b) :
    x.bytes a <+: x.bytes b ∧ (x.bytes a = x.bytes b ∨ (x.bytes a).length = a) := by
  have ht := x.tag_length
  unfold Item.need LE_MIN_ITEM_LEN LE_VAL_OFF at hneed
  unfold Item.bytes
  cases hval : x.val with
  | none => exact ⟨List.prefix_rfl, .inl rfl⟩
  | some m =>
    by_cases hfit : x.len.toNat ≤ a - x.tag.length - LE_VAL_OFF
    · have e : leBytes (a - x.tag.length) x.page x.number x.len (some m)
          = leBytes (b - x.tag.length) x.page x.number x.len (some m) := by
        unfold leBytes
        dsimp only
        rw [if_neg (by omega), if_neg (by omega)]
      rw [e]
      exact ⟨List.prefix_rfl, .inl rfl⟩
    · unfold LE_VAL_OFF at hfit
      -- what is stored with more room goes on behind what is stored with less
      obtain ⟨k, hk⟩ : ∃ k, (if x.len.toNat > b - x.tag.length - LE_VAL_OFF
          then b - x.tag.length - LE_VAL_OFF else x.len.toNat) = a - x.tag.length - LE_VAL_OFF + k := by
        refine ⟨(if x.len.toNat > b - x.tag.length - LE_VAL_OFF then b - x.tag.length - LE_VAL_OFF
          else x.len.toNat) - (a - x.tag.length - LE_VAL_OFF), ?_⟩
        unfold LE_VAL_OFF
        split <;> omega
      have hpad : roundup8 (a - x.tag.length - LE_VAL_OFF + LE_VAL_OFF)
          - (a - x.tag.length - LE_VAL_OFF + LE_VAL_OFF) = 0 := by
        have hmod : a - x.tag.length - LE_VAL_OFF + LE_VAL_OFF = a - x.tag.length := by
          unfold LE_VAL_OFF
          omega
        rw [hmod]
        unfold roundup8
        omega
      have hcut : leBytes (a - x.tag.length) x.page x.number x.len (some m) = htonl x.page ++
          htonl x.number ++ List.replicate 6 0 ++ htons x.len ++
          m.read 0 (a - x.tag.length - LE_VAL_OFF) := by
        unfold leBytes
        dsimp only
        rw [if_pos (by unfold LE_VAL_OFF; omega), hpad, List.replicate_zero, List.append_nil]
      constructor
      · refine (List.prefix_append_right_inj _).2 ?_
        rw [hcut]
        unfold leBytes
        dsimp only
        rw [hk, Mem.read_add, List.append_assoc, List.append_assoc _ (m.read _ _ ++ _),
          List.append_assoc (m.read _ _)]
        exact (List.prefix_append_right_inj _).2 (List.prefix_append _ _)
      · right
        rw [hcut]
        simp only [List.length_append, htonl_length, htons_length, List.length_replicate,
          Mem.read_length]
        unfold LE_VAL_OFF
        omega

/-- **Less room cuts off the tail.** -/
theorem emit_cut {a b : Nat} (ha : a % 8 = 0) (hb : b % 8 = 0) (hab : a ≤ b) (items : List Item) :
    emit a items <+: emit b items := by
  induction items generalizing a b with
  | nil => exact List.prefix_rfl
  | cons x items ih =>
    by_cases hneed : a < x.need
    · rw [emit, if_pos hneed]
      exact List.nil_prefix
    · have hlen := Item.bytes_length ha (Nat.not_lt.1 hneed)
      obtain ⟨hpre, hsame | hfull⟩ := Item.bytes_cut ha (Nat.not_lt.1 hneed) hab
      · rw [emit, if_neg hneed, emit, if_neg (by omega), ← hsame]
        refine (List.prefix_append_right_inj _).2 (ih (by omega) ?_ (by omega))
        have := Item.bytes_length hb (x := x) (by omega)
        omega
      · rw [emit, if_neg hneed, emit, if_neg (by omega), hfull, Nat.sub_self,
          emit_of_lt (by decide), List.append_nil]
        exact hpre.trans (List.prefix_append _ _)


/-! ## Packing one item -/

/-- The format of a reply decides whether entries carry an object id. -/
def tagOf (listfmt : UInt8) (oid : UInt64) : Option UInt64 :=
  if listfmt = RTRVD_CREATE_MULTIOBJ_LIST then some oid else none

/-- The two formats of a reply. -/
def IsFormat (listfmt : UInt8) : Prop :=
  listfmt = RTRVD_SET_ATTR_LIST ∨ listfmt = RTRVD_CREATE_MULTIOBJ_LIST

/-- A packing function given `room` bytes: the item is stored, or it does not fit. -/
def PacksItem (pos room : Nat) (x : Item) (s : Target) (r : Except Errno Nat) (s' : Target) : Prop :=
  s'.core = s.core ∧
  (x.need ≤ room ∧ r = .ok (x.bytes room).length ∧ Emits pos (x.bytes room) s s' ∨
    room < x.need ∧ r = .error .eoverflow ∧ Emits pos [] s s')

section Packing

variable {env : Env} {s : Target} {pos : Nat} {buflen : UInt32}

/-- The place for the next entry is aligned, and so is its length. -/
def Aligned (env : Env) (pos room : Nat) : Prop := (env.outAddr + pos) % 8 = 0 ∧ room % 8 = 0

theorem lePackAttr_packs (h : Aligned env pos buflen.toNat) (page number : UInt32) (valen : UInt16)
    (val : Option Mem) : Ends (lePackAttr env pos buflen page number valen val) s
      (PacksItem pos buflen.toNat ⟨none, page, number, valen, val⟩ s) := by
  have hneed : Item.need ⟨none, page, number, valen, val⟩ = LE_MIN_ITEM_LEN := rfl
  have hbytes : Item.bytes ⟨none, page, number, valen, val⟩ buflen.toNat
      = leBytes buflen.toNat page number valen val := rfl
  unfold lePackAttr lePackAttrAt
  rw [if_neg (by have := h.1; have := h.2; omega)]
  by_cases hroom : buflen.toNat < LE_MIN_ITEM_LEN
  · rw [if_pos hroom]
    exact ends_pure.2 ⟨rfl, .inr ⟨by rw [hneed]; exact hroom, rfl, .refl _ _⟩⟩
  · rw [if_neg hroom]
    refine ends_bind.2 (ends_modify.2 (ends_pure.2 ⟨rfl, .inl ⟨by rw [hneed]; omega, ?_⟩⟩))
    rw [hbytes]
    exact ⟨rfl, .write _ _ _⟩

theorem leMultiobjPackAttr_packs (h : Aligned env pos buflen.toNat) (oid : UInt64)
    (page number : UInt32) (valen : UInt16) (val : Option Mem) :
    Ends (leMultiobjPackAttr env pos buflen oid page number valen val) s
      (PacksItem pos buflen.toNat ⟨some oid, page, number, valen, val⟩ s) := by
  let x : Item := ⟨some oid, page, number, valen, val⟩
  have htag : x.tag.length = 8 := htonll_length oid
  have hneed : x.need = 24 := by
    unfold Item.need
    rw [htag]
    rfl
  refine ends_ite_of (fun hmin => ?_) fun hmin => ?_
  · have hmin' : buflen.toNat < 16 := hmin
    exact ends_pure.2 ⟨rfl, .inr ⟨show _ < x.need by omega, rfl, .refl _ _⟩⟩
  · have hmin' : ¬ buflen.toNat < 16 := hmin
    have hsub : (buflen - 8).toNat = buflen.toNat - 8 := by
      rw [UInt32.toNat_sub_of_le _ _ (by rw [UInt32.le_iff_toNat_le]; show 8 ≤ buflen.toNat; omega)]
      rfl
    have hal : Aligned env (pos + 8) (buflen - 8).toNat := by
      have h1 := h.1
      have h2 := h.2
      unfold Aligned
      omega
    refine ends_bind.2 (ends_modify.2 (ends_call (lePackAttr_packs hal page number valen val) ?_))
    rintro r t ⟨hcore, ht⟩
    have hlen : (htonll oid).length = 8 := htonll_length oid
    have hin : Item.need ⟨none, page, number, valen, val⟩ = 16 := rfl
    rcases ht with ⟨hroom, rfl, he⟩ | ⟨hroom, rfl, he⟩
    · have hbytes : x.bytes buflen.toNat
          = htonll oid ++ Item.bytes ⟨none, page, number, valen, val⟩ (buflen - 8).toNat := by
        show x.tag ++ leBytes (buflen.toNat - x.tag.length) page number valen val = _
        rw [htag, ← hsub]
        rfl
      refine ends_pure.2 ⟨hcore, .inl ⟨show x.need ≤ _ by omega, ?_, ?_⟩⟩
      · rw [show Item.bytes ⟨some oid, page, number, valen, val⟩ buflen.toNat = _ from hbytes,
          List.length_append, hlen]
        rfl
      · rw [show Item.bytes ⟨some oid, page, number, valen, val⟩ buflen.toNat = _ from hbytes]
        exact Emits.append (.write _ _ _) (by rw [hlen]; exact he)
    · refine ends_pure.2 ⟨hcore, .inr ⟨show _ < x.need by omega, rfl, ?_⟩⟩
      exact ⟨rfl, fun a ha => (he.before a (by omega)).trans
        ((Emits.nil_of_le (Nat.le_refl _)).before a ha)⟩

theorem packAttr_packs {listfmt : UInt8} (hf : IsFormat listfmt) (h : Aligned env pos buflen.toNat)
    (oid : UInt64) (page number : UInt32) (valen : UInt16) (val : Option Mem) :
    Ends (packAttr env listfmt pos buflen oid page number valen val) s
      (PacksItem pos buflen.toNat ⟨tagOf listfmt oid, page, number, valen, val⟩ s) := by
  rcases hf with rfl | rfl
  · exact lePackAttr_packs h page number valen val
  · exact leMultiobjPackAttr_packs h oid page number valen val

end Packing

end OsdTarget
