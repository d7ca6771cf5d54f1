import OsdTarget.Truncation

/-!
# Decoding a reply

The entries of a retrieved attribute list as a client reads them, with an object id in front or
without one.  An item decodes as what was packed exactly when all of it was stored.
-/

namespace OsdTarget

open Base

/-! ## Entries -/

/-- A decoded entry. -/
structure Entry where
  oid : Option UInt64
  page : UInt32
  number : UInt32
  value : List UInt8
  deriving DecidableEq, Repr

/-- The bytes of the object id in front of an entry. -/
def tagLen (tagged : Bool) : Nat := if tagged then 8 else 0

/-- The first entry of `l`, and what follows it and its padding. -/
def decodeEntry (tagged : Bool) (l : List UInt8) : Option (Entry × List UInt8) :=
  let m := blobMem l
  let t := tagLen tagged
  let len := (getNtohs m (t + LE_LEN_OFF)).toNat
  if l.length < t + LE_MIN_ITEM_LEN ∨ l.length < t + roundup8 (LE_VAL_OFF + len) then none
  else some (⟨if tagged then some (getNtohll m 0) else none, getNtohl m (t + LE_PAGE_OFF),
    getNtohl m (t + LE_NUMBER_OFF), m.read (t + LE_VAL_OFF) len⟩, l.drop (t + roundup8 (LE_VAL_OFF + len)))

/-- `l` is a sequence of entries that decode as `es`. -/
inductive Decodes (tagged : Bool) : List UInt8 → List Entry → Prop
  | nil : Decodes tagged [] []
  | cons {l rest : List UInt8} {e : Entry} {es : List Entry} :
    decodeEntry tagged l = some (e, rest) → Decodes tagged rest es → Decodes tagged l (e :: es)

/-! ## Items as entries -/

/-- The value an item holds. -/
def Item.value (x : Item) : List UInt8 := match x.val with
  | some m => m.read 0 x.len.toNat
  | none => []

/-- An item without a value has length 0. -/
def Item.Wf (x : Item) : Prop := x.val = none → x.len = 0

def Item.entry (x : Item) : Entry := ⟨x.oid, x.page, x.number, x.value⟩

/-- The room all of the item takes. -/
def Item.size (x : Item) : Nat := x.tag.length + roundup8 (LE_VAL_OFF + x.len.toNat)

theorem Item.value_length {x : Item} (h : x.Wf) : x.value.length = x.len.toNat := by
  unfold Item.value
  cases hv : x.val with
  | some m => exact Mem.read_length _ _ _
  | none =>
    rw [h hv]
    rfl

theorem Item.need_le_size (x : Item) : x.need ≤ x.size := by
  have := (roundup8_spec (LE_VAL_OFF + x.len.toNat)).2.1
  unfold Item.need Item.size LE_MIN_ITEM_LEN LE_VAL_OFF at *
  omega

theorem Item.tag_length_eq (x : Item) : x.tag.length = tagLen x.oid.isSome := by
  unfold Item.tag tagLen
  cases x.oid with
  | none => rfl
  | some oid => exact htonll_length oid

/-- Where the parts of an item lie when `room` bytes are left: the header is always whole. -/
theorem Item.bytes_eq (x : Item) (room : Nat) :
    ∃ stored pad, x.bytes room = x.tag ++ (htonl x.page ++ (htonl x.number ++ (List.replicate 6 0 ++
      (htons x.len ++ (stored ++ pad))))) ∧ (x.size ≤ room → stored = x.value) := by
  have hr := (roundup8_spec (LE_VAL_OFF + x.len.toNat)).2.1
  unfold Item.bytes leBytes
  cases hv : x.val with
  | none =>
    refine ⟨[], _, by simp only [List.append_assoc]; rfl, fun _ => ?_⟩
    rw [Item.value, hv]
  | some m =>
    refine ⟨_, _, by simp only [List.append_assoc]; rfl, fun hroom => ?_⟩
    unfold Item.size at hroom
    rw [Item.value, hv, if_neg (by omega)]

/-- All of the item is stored when it fits. -/
theorem Item.bytes_length_of_fits {x : Item} (hwf : x.Wf) {room : Nat} (h : x.size ≤ room) :
    (x.bytes room).length = x.size := by
  have hr := (roundup8_spec (LE_VAL_OFF + x.len.toNat)).2.1
  unfold Item.size at h
  have hk : (if x.val.isSome then min x.len.toNat (room - x.tag.length - LE_VAL_OFF) else 0)
      = x.len.toNat := by
    cases hv : x.val with
    | none =>
      rw [hwf hv]
      rfl
    | some m =>
      exact Nat.min_eq_left (by omega)
  rw [Item.bytes, List.length_append, leBytes_length, hk]
  rfl

/-- **An item that fits decodes as itself**, and one that does not fit does not decode. -/
theorem decodeEntry_bytes {x : Item} (hwf : x.Wf) {room : Nat} {rest : List UInt8}
    (hrest : (x.bytes room ++ rest).length ≤ room) :
    decodeEntry x.oid.isSome (x.bytes room ++ rest)
      = if x.size ≤ room then some (x.entry, rest) else none := by
  have hr := (roundup8_spec (LE_VAL_OFF + x.len.toNat)).2.1
  have htag := x.tag_length_eq
  obtain ⟨stored, pad, hbytes, hstored⟩ := x.bytes_eq room
  have hl : (x.bytes room ++ rest).length = (x.bytes room).length + rest.length := List.length_append
  -- the header
  have hall := read_blobMem (x.bytes room ++ rest)
  unfold decodeEntry
  dsimp only
  revert hall
  generalize blobMem (x.bytes room ++ rest) = m
  intro hall
  obtain ⟨hx, -⟩ := Mem.read_append.1 hall
  rw [hbytes] at hx
  obtain ⟨h0, hx⟩ := Mem.read_append.1 hx
  obtain ⟨hpage, hx⟩ := Mem.read_append.1 hx
  obtain ⟨hnumber, hx⟩ := Mem.read_append.1 hx
  obtain ⟨-, hx⟩ := Mem.read_append.1 hx
  obtain ⟨hlen, hx⟩ := Mem.read_append.1 hx
  obtain ⟨hval, -⟩ := Mem.read_append.1 hx
  simp only [htag, Nat.zero_add, htonl_length] at h0 hpage hnumber
  simp only [htag, Nat.zero_add, htonl_length, htons_length, List.length_replicate, Nat.add_assoc,
    Nat.reduceAdd] at hlen hval
  have hlen' : getNtohs m (tagLen x.oid.isSome + LE_LEN_OFF) = x.len := getNtohs_of_read hlen
  have hpage' : getNtohl m (tagLen x.oid.isSome + LE_PAGE_OFF) = x.page := getNtohl_of_read hpage
  have hnumber' : getNtohl m (tagLen x.oid.isSome + LE_NUMBER_OFF) = x.number := getNtohl_of_read hnumber
  rw [hlen', hpage', hnumber', ← htag]
  by_cases hfit : x.size ≤ room
  · rw [if_pos hfit]
    have hbl := Item.bytes_length_of_fits hwf hfit
    have hsz : x.size = x.tag.length + roundup8 (LE_VAL_OFF + x.len.toNat) := rfl
    have hn := x.need_le_size
    rw [if_neg (by unfold Item.need at hn; omega), ← hsz, ← hbl, List.drop_left]
    have hv : m.read (x.tag.length + LE_VAL_OFF) x.len.toNat = x.value := by
      rw [hstored hfit, Item.value_length hwf] at hval
      rw [htag]
      exact hval
    rw [hv]
    have ho : (if x.oid.isSome = true then some (getNtohll m 0) else none) = x.oid := by
      cases hoid : x.oid with
      | none => rfl
      | some oid =>
        have ht : x.tag = htonll oid := by rw [Item.tag, hoid]
        rw [ht, hoid] at h0
        exact congrArg some (getNtohll_of_read h0)
    rw [ho]
    rfl
  · have hsz : x.size = x.tag.length + roundup8 (LE_VAL_OFF + x.len.toNat) := rfl
    rw [if_neg hfit, if_pos (by omega)]

theorem decodeEntry_length {tagged : Bool} {l : List UInt8} {p : Entry × List UInt8}
    (h : decodeEntry tagged l = some p) : tagLen tagged + LE_MIN_ITEM_LEN ≤ l.length := by
  unfold decodeEntry at h
  dsimp only at h
  split at h
  · cases h
  · omega

theorem decodes_nil {tagged : Bool} {es : List Entry} (h : Decodes tagged [] es) : es = [] := by
  cases h with
  | nil => rfl
  | cons hd _ =>
    have hl : tagLen tagged + LE_MIN_ITEM_LEN ≤ 0 := decodeEntry_length hd
    unfold LE_MIN_ITEM_LEN LE_VAL_OFF at hl
    omega

/-- Without the object id that the format promises, the page reads as 0. -/
theorem decodeEntry_untagged {x : Item} (hoid : x.oid = none) {room : Nat}
    {rest rest' : List UInt8} {e : Entry}
    (h : decodeEntry true (x.bytes room ++ rest) = some (e, rest')) : e.page = 0 := by
  obtain ⟨stored, pad, hbytes, -⟩ := x.bytes_eq room
  have htag : x.tag = [] := by rw [Item.tag, hoid]
  have hall := read_blobMem (x.bytes room ++ rest)
  unfold decodeEntry at h
  dsimp only at h
  split at h
  · cases h
  · cases h
    revert hall
    generalize blobMem (x.bytes room ++ rest) = m
    intro hall
    obtain ⟨hx, -⟩ := Mem.read_append.1 hall
    rw [hbytes, htag, List.nil_append] at hx
    obtain ⟨-, hx⟩ := Mem.read_append.1 hx
    obtain ⟨-, hx⟩ := Mem.read_append.1 hx
    obtain ⟨hzero, -⟩ := Mem.read_append.1 hx
    simp only [Nat.zero_add, htonl_length, List.length_replicate, Nat.reduceAdd] at hzero
    -- of the 6 reserved bytes the first 4 are read
    have h4 : m.read 8 4 = htonl 0 := (Mem.read_append (a := htonl 0) (b := [0, 0])).1 hzero |>.1
    exact getNtohl_of_read h4

/-! ## Replies item by item -/

/-- Answers of one item each. -/
def singles (xs : List Item) : List (List Item) := xs.map fun x => [x]

/-- All of the items. -/
def totalSize (xs : List Item) : Nat := (xs.map Item.size).sum

theorem emitAll_singles_cons (room : Nat) (x : Item) (xs : List Item) :
    emitAll room (singles (x :: xs)) = if room < x.need then emitAll room (singles xs)
      else x.bytes room ++ emitAll (room - (x.bytes room).length) (singles xs) := by
  show emit room [x] ++ emitAll (room - (emit room [x]).length) (singles xs) = _
  rw [emit_singleton]
  by_cases h : room < x.need
  · rw [if_pos h, if_pos h]
    rfl
  · rw [if_neg h, if_neg h]

/-- **Items that fit decode in order.** -/
theorem decodes_of_fits {tagged : Bool} {room : Nat} (h8 : room % 8 = 0) {xs : List Item}
    (hwf : ∀ x ∈ xs, x.Wf) (htag : ∀ x ∈ xs, x.oid.isSome = tagged) (hfit : totalSize xs ≤ room) :
    Decodes tagged (emitAll room (singles xs)) (xs.map Item.entry) := by
  induction xs generalizing room with
  | nil => exact .nil
  | cons x xs ih =>
    have hsum : totalSize (x :: xs) = x.size + totalSize xs := rfl
    have hn := x.need_le_size
    have hx : x.size ≤ room := by omega
    have hwfx := hwf x List.mem_cons_self
    have hbl := Item.bytes_length_of_fits hwfx hx
    have hmod := Item.bytes_length h8 (x := x) (by omega)
    rw [emitAll_singles_cons, if_neg (by omega)]
    have hlen := emitAll_length (show (room - (x.bytes room).length) % 8 = 0 by omega) (singles xs)
    have hdec := decodeEntry_bytes hwfx
      (show (x.bytes room ++ emitAll (room - (x.bytes room).length) (singles xs)).length ≤ room by
        rw [List.length_append]
        omega)
    rw [if_pos hx, htag x List.mem_cons_self] at hdec
    exact .cons hdec (ih (by omega) (fun y hy => hwf y (List.mem_cons_of_mem _ hy))
      (fun y hy => htag y (List.mem_cons_of_mem _ hy)) (by omega))

/-- Items that fit never lack room. -/
theorem not_short_of_fits {room : Nat} (h8 : room % 8 = 0) {xs : List Item} (hwf : ∀ x ∈ xs, x.Wf)
    (hfit : totalSize xs ≤ room) : ¬ Short room (singles xs) := by
  rintro ⟨l₁, items, l₂, heq, hne, hnil⟩
  induction xs generalizing room l₁ with
  | nil => cases l₁ <;> cases heq
  | cons x xs ih =>
    have hsum : totalSize (x :: xs) = x.size + totalSize xs := rfl
    have hn := x.need_le_size
    have hwfx := hwf x List.mem_cons_self
    have hbl : (x.bytes room).length = x.size := Item.bytes_length_of_fits hwfx (by omega)
    have hmod := Item.bytes_length h8 (x := x) (by omega)
    cases l₁ with
    | nil =>
      obtain ⟨rfl, -⟩ := List.cons.inj heq
      rw [show emitAll room [] = [] from rfl, List.length_nil, Nat.sub_zero, emit_singleton,
        if_neg (by omega)] at hnil
      have hl := congrArg List.length hnil
      rw [hbl, List.length_nil] at hl
      unfold Item.need LE_MIN_ITEM_LEN at hn
      omega
    | cons items' l₁ =>
      obtain ⟨rfl, htl⟩ := List.cons.inj heq
      refine ih (show (room - (x.bytes room).length) % 8 = 0 by omega)
        (fun y hy => hwf y (List.mem_cons_of_mem _ hy)) (by omega) l₁ htl ?_
      have hone : emitAll room ([x] :: l₁)
          = x.bytes room ++ emitAll (room - (x.bytes room).length) l₁ := by
        rw [emitAll, emit_singleton, if_neg (by omega)]
      rwa [hone, List.length_append, ← Nat.sub_sub] at hnil

/-- **What decodes was packed as it is**: an item that was cut, or that lacks the object id the format
promises, does not decode as an entry with its page. -/
theorem entries_of_decodes {tagged : Bool} {room : Nat} (h8 : room % 8 = 0) {xs : List Item}
    (hwf : ∀ x ∈ xs, x.Wf) {es : List Entry} (hlen : es.length = xs.length)
    (htag : ∀ p ∈ xs.zip es, p.1.oid.isSome = tagged ∨ tagged = true ∧ p.1.oid = none ∧ p.2.page ≠ 0)
    (h : Decodes tagged (emitAll room (singles xs)) es) :
    xs.map Item.entry = es ∧ ∀ x ∈ xs, x.oid.isSome = tagged := by
  induction xs generalizing room es with
  | nil =>
    obtain rfl := List.length_eq_zero_iff.1 hlen
    exact ⟨rfl, fun _ h => nomatch h⟩
  | cons x xs ih =>
    cases es with
    | nil => cases hlen
    | cons e es =>
      generalize hstream : emitAll room (singles (x :: xs)) = l at h
      cases h with
      | cons hdec hrest =>
        subst hstream
        have hn := Item.need_le_size x
        have hx := htag (x, e) List.mem_cons_self
        have hneed : x.need ≤ room := by
          by_contra hlt
          rw [emitAll_singles_cons, if_pos (by omega)] at hdec
          have hl := (emitAll_length h8 (singles xs)).1
          have hd := decodeEntry_length hdec
          have ht := x.tag_length_eq
          unfold Item.need at hlt
          rcases hx with hx | ⟨rfl, hx, -⟩
          · rw [hx] at ht
            omega
          · rw [hx] at ht
            have h0 : tagLen (Option.isSome (none : Option UInt64)) = 0 := rfl
            have h8' : tagLen true = 8 := rfl
            omega
        rw [emitAll_singles_cons, if_neg (by omega)] at hdec
        have hmod := Item.bytes_length h8 hneed
        have hl := (emitAll_length (show (room - (x.bytes room).length) % 8 = 0 by omega) (singles xs)).1
        rcases hx with hx | ⟨rfl, hx, hp⟩
        · have hall := decodeEntry_bytes (hwf x List.mem_cons_self)
            (show (x.bytes room ++ emitAll (room - (x.bytes room).length) (singles xs)).length ≤ room by
              rw [List.length_append]
              omega)
          rw [hx, hdec] at hall
          split at hall
          · cases hall
            obtain ⟨hes, hts⟩ := ih (by omega) (fun y hy => hwf y (List.mem_cons_of_mem _ hy))
              (Nat.succ.inj hlen) (fun p hp => htag p (List.mem_cons_of_mem _ hp)) hrest
            refine ⟨by rw [List.map_cons, hes], ?_⟩
            intro y hy
            rcases List.mem_cons.1 hy with rfl | hy
            · exact hx
            · exact hts y hy
          · cases hall
        · exact absurd (decodeEntry_untagged hx hdec) hp

end OsdTarget
