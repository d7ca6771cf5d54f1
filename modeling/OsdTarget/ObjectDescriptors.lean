import OsdTarget.Listing
import OsdTarget.Items

/-!
# Object descriptors

The reply to LIST with attributes: for each object a header with its id and the length of its attribute
list, then the list.  `mtq_list_oids_attr` produces it from one stream of rows; a header is begun at the
row of a marker attribute, and the length is filled in when the next one is begun, when the space is used
up, or at the end.
-/

namespace OsdTarget

open Base

/-! ## What is asked for -/

/-- An attribute of an object that was asked for and is defined; `found` when the statement selects it. -/
structure Sought where
  page : UInt32
  number : UInt32
  value : List UInt8
  found : Bool
  deriving DecidableEq, Repr

/-- The attribute whose row begins an object descriptor. -/
def Sought.marks (a : Sought) : Prop := a.page = USER_TMSTMP_PG ∧ a.number = 0

instance (a : Sought) : Decidable a.marks := inferInstanceAs (Decidable (_ ∧ _))

def Sought.item (a : Sought) : Item :=
  ⟨none, a.page, a.number, UInt16.ofNat a.value.length,
    if a.value = [] then none else some (blobMem a.value)⟩

/-- The bytes its entry takes. -/
def Sought.size (a : Sought) : Nat := roundup8 (LE_VAL_OFF + (UInt16.ofNat a.value.length).toNat)

/-- An object with its marker, if it has one, and the attributes asked for. -/
structure Listed where
  oid : UInt64
  marker : Option Sought
  attrs : List Sought
  marks : ∀ m ∈ marker, m.marks

/-- What the statement selects of an object, in the order of its branches. -/
def Listed.stream (o : Listed) : List (UInt64 × Sought) :=
  ((o.marker.toList ++ o.attrs).filter Sought.found).map fun a => (o.oid, a)

/-- The row that is selected. -/
def rowOf (pid : UInt64) (p : UInt64 × Sought) : AttrRow :=
  ⟨bindInt64 pid, bindInt64 p.1, bindInt p.2.page, bindInt p.2.number, p.2.value⟩

/-! ## The listing -/

/-- An object descriptor: a header of 16 bytes and the attribute list. -/
def encodeOde (oid : UInt64) (attrs : List UInt8) : List UInt8 :=
  htonll oid ++ List.replicate 4 0 ++ htonl (UInt32.ofNat attrs.length) ++ attrs

/-- The ids with their attribute lists, one object after the other as far as there is room. -/
def descriptors : Nat → List Listed → List (UInt64 × List UInt8)
  | _, [] => []
  | room, o :: os =>
    if room < 16 then []
    else
      let attrs := emit (room - 16) (o.attrs.map Sought.item)
      (o.oid, attrs) :: descriptors (room - 16 - attrs.length) os

/-- The reply behind its header. -/
def listing (room : Nat) (os : List Listed) : List UInt8 :=
  (descriptors room os).flatMap fun d => encodeOde d.1 d.2

/-- The room it takes to list all attributes of all objects. -/
def sizeOfAll (os : List Listed) : Nat := (os.map fun o => 16 + (o.attrs.map Sought.size).sum).sum

theorem encodeOde_length (oid : UInt64) (attrs : List UInt8) :
    (encodeOde oid attrs).length = 16 + attrs.length := by
  simp only [encodeOde, List.length_append, htonll_length, htonl_length, List.length_replicate]

theorem listing_cons (room : Nat) (o : Listed) (os : List Listed) : listing room (o :: os) =
    if room < 16 then [] else encodeOde o.oid (emit (room - 16) (o.attrs.map Sought.item)) ++
      listing (room - 16 - (emit (room - 16) (o.attrs.map Sought.item)).length) os := by
  unfold listing
  rw [descriptors]
  split
  · rfl
  · rfl

theorem descriptors_of_lt {room : Nat} (h : room < 16) (os : List Listed) : descriptors room os = [] := by
  cases os with
  | nil => rfl
  | cons o os => rw [descriptors, if_pos h]

theorem listing_of_lt {room : Nat} (h : room < 16) (os : List Listed) : listing room os = [] := by
  rw [listing, descriptors_of_lt h, List.flatMap_nil]

/-! ## Entries and their room -/

theorem Sought.le_size (a : Sought) : 16 ≤ a.size ∧ a.size % 8 = 0 := by
  have h := roundup8_spec (LE_VAL_OFF + (UInt16.ofNat a.value.length).toNat)
  unfold LE_VAL_OFF at h
  unfold Sought.size LE_VAL_OFF
  omega

/-- With room for it an entry takes its size, with less it takes what there is. -/
theorem Sought.bytes_length (a : Sought) {room : Nat} (h8 : room % 8 = 0) (h16 : 16 ≤ room) :
    (a.item.bytes room).length = min a.size room := by
  have hlen : (if a.item.val.isSome then min a.item.len.toNat (room - 0 - LE_VAL_OFF) else 0)
      = min (UInt16.ofNat a.value.length).toNat (room - LE_VAL_OFF) := by
    unfold Sought.item
    dsimp only
    by_cases hv : a.value = []
    · rw [if_pos hv, hv]
      rfl
    · rw [if_neg hv]
      rfl
  show (leBytes (room - 0) a.page a.number _ _).length = _
  rw [leBytes_length]
  refine (congrArg (fun n => roundup8 (LE_VAL_OFF + n)) hlen).trans ?_
  unfold Sought.size roundup8 LE_VAL_OFF
  omega

/-- An entry is the same in any room it fits into. -/
theorem Sought.bytes_eq (a : Sought) {room w : Nat} (hw8 : w % 8 = 0) (h8 : room % 8 = 0) (h16 : 16 ≤ w)
    (hw : min a.size room ≤ w) (hle : w ≤ room) : a.item.bytes w = a.item.bytes room := by
  have hneed : a.item.need = 16 := rfl
  refine (Item.bytes_cut hw8 (hneed.le.trans h16) hle).1.eq_of_length ?_
  rw [a.bytes_length hw8 h16, a.bytes_length h8 (Nat.le_trans h16 hle)]
  omega

/-! ## The reply while it is filled -/

/-- The bytes of a descriptor under way. -/
def current : Option (UInt64 × List UInt8) → List UInt8
  | none => []
  | some d => encodeOde d.1 d.2

/-- The descriptors `done` are finished; of `cur` everything but the length of its list is there. -/
def Written (m : Mem) (pos : Nat) (done : List UInt8) : Option (UInt64 × List UInt8) → Prop
  | none => m.read pos done.length = done
  | some (oid, attrs) => m.read pos (done.length + 12) = done ++ (htonll oid ++ List.replicate 4 0) ∧
      m.read (pos + done.length + 16) attrs.length = attrs

/-- Stores that end in front of `top` follow those there are. -/
def Within (s : Target) (top : Nat) (t : Target) : Prop :=
  ∃ ws, t.out = s.out ++ ws ∧ ∀ w ∈ ws, w.1 + w.2.length ≤ top

/-- The loop of `mtq_list_oids_attr`, given `size` bytes from `pos` on, has come to the cursor `c`. -/
structure Filling (pos : Nat) (size : UInt64) (s : Target) (done : List UInt8)
    (cur : Option (UInt64 × List UInt8))
    (c : OdeCursor) (t : Target) : Prop where
  head : c.head = pos + done.length + if cur.isSome then 12 else 0
  tail : c.tail = pos + done.length + (current cur).length
  listLen : c.attrListLen = UInt32.ofNat ((cur.map fun d => d.2.length).getD 0)
  used : c.used.toNat = done.length + (current cur).length
  room : c.used.toNat + c.allocLen.toNat = size.toNat
  aligned : c.tail % 8 = 0
  written : Written t.reply pos done cur
  stores : Within s c.tail t

section Fill

variable {env : Env} {pos : Nat} {size : UInt64} {s t : Target} {done : List UInt8}
  {cur : Option (UInt64 × List UInt8)} {c : OdeCursor}

/-- Bytes behind everything do not matter. -/
theorem Written.write {m : Mem} (h : Written m pos done cur) {p : Nat} {bytes : List UInt8}
    (hp : pos + done.length + (current cur).length ≤ p) : Written (m.write p bytes) pos done cur := by
  cases cur with
  | none =>
    have hread : m.read pos done.length = done := h
    show (m.write p bytes).read pos done.length = done
    rw [Mem.read_write_of_disjoint (.inl (by simp only [current, List.length_nil] at hp; omega)), hread]
  | some d =>
    obtain ⟨oid, attrs⟩ := d
    obtain ⟨hhead, hattrs⟩ := h
    simp only [current, encodeOde_length] at hp
    refine ⟨?_, ?_⟩
    · rw [Mem.read_write_of_disjoint (.inl (by omega)), hhead]
    · rw [Mem.read_write_of_disjoint (.inl (by omega)), hattrs]

/-- Filling in the length finishes a descriptor. -/
theorem Written.close {m : Mem} {oid : UInt64} {attrs : List UInt8}
    (h : Written m pos done (some (oid, attrs))) :
    Written (m.write (pos + done.length + 12) (htonl (UInt32.ofNat attrs.length))) pos
      (done ++ encodeOde oid attrs) none := by
  obtain ⟨hhead, hattrs⟩ := h
  show Mem.read _ _ _ = _
  have hsplit : done ++ encodeOde oid attrs = done ++ (htonll oid ++ List.replicate 4 0) ++
      (htonl (UInt32.ofNat attrs.length) ++ attrs) := by
    simp only [encodeOde, List.append_assoc]
  have hlen : (done ++ (htonll oid ++ List.replicate 4 0)).length = done.length + 12 := by
    simp only [List.length_append, htonll_length, List.length_replicate]
  rw [hsplit]
  refine Mem.read_append.2 ⟨?_, Mem.read_append.2 ⟨?_, ?_⟩⟩
  · rw [hlen, Mem.read_write_of_disjoint (.inl (by omega)), hhead]
  · rw [hlen, ← Nat.add_assoc]
    exact Mem.read_write_self _ _ _
  · rw [hlen, htonl_length, Mem.read_write_of_disjoint (.inr (by rw [htonl_length]; omega))]
    exact hattrs

theorem Filling.head_ne (h : Filling pos size s done cur c t) (hcur : cur.isSome) : c.head ≠ c.tail := by
  have hhead := h.head
  have htail := h.tail
  cases cur with
  | none => exact absurd hcur Bool.false_ne_true
  | some d =>
    simp only [current, encodeOde_length, Option.isSome_some, if_true] at hhead htail
    omega

/-- The stores that finish the descriptor under way, if there is one. -/
def closing (pos : Nat) (done : List UInt8) : Option (UInt64 × List UInt8) → List (Nat × List UInt8)
  | none => []
  | some d => [(pos + done.length + 12, htonl (UInt32.ofNat d.2.length))]

theorem closeOpen_run (h : Filling pos size s done cur c t) (v : Target) :
    c.closeOpen v = some ({ c with head := c.tail, attrListLen := 0 },
      { v with out := v.out ++ closing pos done cur }) := by
  unfold OdeCursor.closeOpen
  cases cur with
  | none =>
    have hhead : c.head = c.tail := h.head.trans h.tail.symm
    have hlen : c.attrListLen = 0 := h.listLen
    have hsame : ({ c with head := c.tail, attrListLen := 0 } : OdeCursor) = c := by
      obtain ⟨head, tail, allocLen, len, used, addLen, contId⟩ := c
      obtain rfl : head = tail := hhead
      obtain rfl : len = 0 := hlen
      rfl
    rw [if_neg (by simpa using hhead), hsame]
    show some (c, v) = some (c, { v with out := v.out ++ [] })
    rw [List.append_nil]
  | some d =>
    have hhead : c.head = pos + done.length + 12 := h.head
    have hlen : c.attrListLen = UInt32.ofNat d.2.length := h.listLen
    have htail : c.tail = pos + done.length + (encodeOde d.1 d.2).length := h.tail
    rw [encodeOde_length] at htail
    rw [if_pos (by omega), OdeCursor.close, hhead, hlen]
    rfl

theorem closing_within (h : Filling pos size s done cur c t) :
    ∀ w ∈ closing pos done cur, w.1 + w.2.length ≤ c.tail := by
  cases cur with
  | none => exact fun w hw => absurd hw List.not_mem_nil
  | some d =>
    have htail : c.tail = pos + done.length + (encodeOde d.1 d.2).length := h.tail
    rw [encodeOde_length] at htail
    refine List.forall_mem_singleton.2 ?_
    show pos + done.length + 12 + (htonl _).length ≤ _
    rw [htonl_length]
    omega

theorem Written.closing {v : Target} (h : Written v.reply pos done cur) :
    Written (Target.reply { v with out := v.out ++ closing pos done cur }) pos
      (done ++ current cur) none := by
  cases cur with
  | none =>
    show Mem.read (Target.reply { v with out := v.out ++ [] }) pos (done ++ []).length = done ++ []
    rw [List.append_nil, List.append_nil]
    exact h
  | some d =>
    show Written (Target.reply { v with out := v.out ++ [(_, _)] }) _ _ _
    rw [reply_write]
    exact h.close

/-- Nothing behind the descriptor changes. -/
theorem closing_read (h : Filling pos size s done cur c t) {v : Target} {p n : Nat} (hp : c.tail ≤ p) :
    (Target.reply { v with out := v.out ++ closing pos done cur }).read p n = v.reply.read p n := by
  have hin := closing_within h
  cases cur with
  | none => rw [show v.out ++ closing pos done none = v.out from List.append_nil _]
  | some d =>
    show (Target.reply { v with out := v.out ++ [(_, _)] }).read p n = _
    rw [reply_write, Mem.read_write_of_disjoint]
    have := List.forall_mem_singleton.1 hin
    exact .inr (Nat.le_trans this hp)

theorem Within.more {top top' : Nat} (h : Within s top t) (htop : top ≤ top') {ws : List (Nat × List UInt8)}
    (hws : ∀ w ∈ ws, w.1 + w.2.length ≤ top') : Within s top' { t with out := t.out ++ ws } := by
  obtain ⟨vs, hout, hvs⟩ := h
  refine ⟨vs ++ ws, ?_, List.forall_mem_append.2 ⟨fun w hw => Nat.le_trans (hvs w hw) htop, hws⟩⟩
  show t.out ++ ws = _
  rw [hout, List.append_assoc]

theorem Within.of_out {top : Nat} {v : Target} {ws : List (Nat × List UInt8)}
    (h : Within s top { t with out := t.out ++ ws }) (hv : v.out = t.out ++ ws) : Within s top v := by
  obtain ⟨vs, hout, hvs⟩ := h
  exact ⟨vs, hv.trans hout, hvs⟩

/-- `closeOpen` finishes the descriptor under way, if there is one. -/
theorem Filling.close (h : Filling pos size s done cur c t) : ∃ c' t', c.closeOpen t = some (c', t') ∧
    Filling pos size s (done ++ current cur) none c' t' ∧ c'.contId = c.contId ∧
    c'.allocLen = c.allocLen ∧ c'.addLen = c.addLen := by
  have htail : c.tail = pos + (done ++ current cur).length := by
    rw [List.length_append, h.tail, Nat.add_assoc]
  refine ⟨_, _, closeOpen_run h t, ⟨htail, htail, rfl, ?_, h.room, h.aligned, h.written.closing,
    h.stores.more (Nat.le_refl _) (closing_within h)⟩, rfl, rfl, rfl⟩
  rw [h.used, List.length_append]
  rfl

/-- A marker with room for a header finishes one descriptor and begins another. -/
theorem startOde_fills (h : Filling pos size s done cur c t) (hroom : 16 ≤ c.allocLen.toNat)
    (oid : UInt64) :
    ∃ c' t', startOde oid c t = some (c', t') ∧
      Filling pos size s (done ++ current cur) (some (oid, [])) c' t' ∧
      c'.allocLen.toNat = c.allocLen.toNat - 16 ∧ c'.contId = c.contId ∧ c'.addLen = c.addLen := by
  have hle : (16 : UInt64) ≤ c.allocLen := UInt64.le_iff_toNat_le.2 hroom
  have halloc : (c.allocLen - 16).toNat = c.allocLen.toNat - 16 := UInt64.toNat_sub_of_le _ _ hle
  have hsize := h.room
  have htail : c.tail = pos + (done ++ current cur).length := by
    rw [List.length_append, h.tail, Nat.add_assoc]
  have hlt := size.toNat_lt
  have hused : (c.used + 16).toNat = (done ++ current cur).length + 16 := by
    rw [UInt64.toNat_add, List.length_append, ← h.used]
    show (c.used.toNat + 16) % 2 ^ 64 = _
    omega
  let v : Target := { t with out := t.out ++ [(c.tail, htonll oid), (c.tail + 8, List.replicate 4 0)] }
  let t' : Target := { v with out := v.out ++ closing pos done cur }
  let c' : OdeCursor := ⟨c.tail + 12, c.tail + 16, c.allocLen - 16, 0, c.used + 16, c.addLen, c.contId⟩
  have hrun : startOde oid c t = some (c', t') := by
    unfold startOde
    rw [if_pos hle]
    have h1 : outWrite c.tail (htonll oid) t =
        some ((), { t with out := t.out ++ [(c.tail, htonll oid)] }) := rfl
    have h2 : outWrite (c.tail + 8) (List.replicate 4 0)
        { t with out := t.out ++ [(c.tail, htonll oid)] } = some ((), v) := by
      show some (_, _) = some (_, _)
      simp only [v, List.append_assoc, List.cons_append, List.nil_append]
    rw [bind_of_some h1]
    refine (bind_of_some h2).trans ?_
    rw [bind_of_some (closeOpen_run h v)]
    rfl
  have hv : v.reply = (t.reply.write c.tail (htonll oid)).write (c.tail + 8) (List.replicate 4 0) := by
    show List.foldl _ _ (t.out ++ _) = _
    rw [List.foldl_append]
    rfl
  have hend : pos + done.length + (current cur).length ≤ c.tail := h.tail.ge
  have hdone : t'.reply.read pos (done ++ current cur).length = done ++ current cur := by
    have hwritten : Written v.reply pos done cur := by
      rw [hv]
      exact (h.written.write hend).write (Nat.le_trans hend (Nat.le_add_right _ _))
    exact hwritten.closing
  have hheader : t'.reply.read c.tail 12 = htonll oid ++ List.replicate 4 0 := by
    rw [closing_read h (Nat.le_refl _), hv]
    refine (Mem.read_append (a := htonll oid) (b := List.replicate 4 0)).2 ⟨?_, ?_⟩
    · rw [Mem.read_write_of_disjoint (.inl (by rw [htonll_length]))]
      exact Mem.read_write_self _ _ _
    · rw [htonll_length]
      exact Mem.read_write_self _ _ _
  refine ⟨c', t', hrun, ⟨?_, ?_, rfl, ?_, ?_, ?_, ⟨?_, rfl⟩, ?_⟩, halloc, rfl, rfl⟩
  · show c.tail + 12 = _
    rw [htail]
    rfl
  · show c.tail + 16 = _
    rw [htail]
    rfl
  · rw [show c'.used.toNat = _ from hused]
    rfl
  · show (c.used + 16).toNat + (c.allocLen - 16).toNat = size.toNat
    rw [hused, halloc]
    have hu := h.used
    rw [← List.length_append] at hu
    omega
  · have := h.aligned
    show (c.tail + 16) % 8 = 0
    omega
  · rw [Mem.read_add, hdone, ← htail, hheader]
  · have hout : t' = { t with out := t.out ++ ([(c.tail, htonll oid), (c.tail + 8, List.replicate 4 0)] ++
        closing pos done cur) } := by
      simp only [t', v, List.append_assoc]
    rw [hout]
    refine h.stores.more (Nat.le_add_right _ 16) (List.forall_mem_append.2 ⟨?_, fun w hw => ?_⟩)
    · refine List.forall_mem_cons.2 ⟨?_, List.forall_mem_singleton.2 ?_⟩
      · show c.tail + (htonll oid).length ≤ c.tail + 16
        rw [htonll_length]
        omega
      · show c.tail + 8 + (List.replicate 4 0).length ≤ c.tail + 16
        rw [List.length_replicate]
        omega
    · have := closing_within h w hw
      show _ ≤ c.tail + 16
      omega

/-- Noting where to go on moves nothing. -/
theorem Filling.continueAt (h : Filling pos size s done cur c t) (oid : UInt64) :
    Filling pos size s done cur (c.continueAt oid) t ∧
      (c.continueAt oid).contId = (if c.contId = 0 then oid else c.contId) ∧
      (c.continueAt oid).allocLen = c.allocLen ∧ (c.continueAt oid).addLen = c.addLen := by
  unfold OdeCursor.continueAt
  by_cases h0 : c.contId = 0
  · rw [if_pos h0, if_pos h0]
    exact ⟨⟨h.head, h.tail, h.listLen, h.used, h.room, h.aligned, h.written, h.stores⟩, rfl, rfl, rfl⟩
  · rw [if_neg h0, if_neg h0]
    exact ⟨h, rfl, rfl, rfl⟩

/-- `le_pack_attr` stores the entry the room allows. -/
theorem lePackAttr_sought {c : OdeCursor} (a : Sought) (haddr : (env.outAddr + c.tail) % 8 = 0)
    (h8 : c.allocLen.toNat % 8 = 0) (h16 : 16 ≤ c.allocLen.toNat)
    (hw : min a.size c.allocLen.toNat ≤ c.allocLen.toNat % 2 ^ 32) (t : Target) :
    lePackAttr env c.tail c.allocLen.toUInt32 a.page a.number (UInt16.ofNat a.value.length)
        (if a.value = [] then none else some (blobMem a.value)) t
      = some (.ok (min a.size c.allocLen.toNat),
        { t with out := t.out ++ [(c.tail, a.item.bytes c.allocLen.toNat)] }) := by
  have hsize := a.le_size
  have hbuf : c.allocLen.toUInt32.toNat = c.allocLen.toNat % 2 ^ 32 := UInt64.toNat_toUInt32 _
  have hbytes : leBytes c.allocLen.toUInt32.toNat a.page a.number (UInt16.ofNat a.value.length)
      (if a.value = [] then none else some (blobMem a.value)) = a.item.bytes c.allocLen.toNat := by
    have hw8 : c.allocLen.toNat % 2 ^ 32 % 8 = 0 := by omega
    have hw16 : 16 ≤ c.allocLen.toNat % 2 ^ 32 := by omega
    rw [hbuf]
    exact a.bytes_eq hw8 h8 hw16 hw (Nat.mod_le _ _)
  unfold lePackAttr lePackAttrAt
  rw [if_neg (by omega), if_neg (by unfold LE_MIN_ITEM_LEN LE_VAL_OFF; omega), hbytes]
  show some (Except.ok (a.item.bytes c.allocLen.toNat).length, _) = _
  rw [a.bytes_length h8 h16]

/-- An attribute with room for an entry goes behind the others; the last one that has room finishes the
descriptor. -/
theorem addAttr_fills {oid : UInt64} {attrs : List UInt8}
    (h : Filling pos size s done (some (oid, attrs)) c t)
    (haddr : env.outAddr % 8 = 0) (a : Sought) (h8 : c.allocLen.toNat % 8 = 0)
    (h16 : 16 ≤ c.allocLen.toNat) (hw : min a.size c.allocLen.toNat ≤ c.allocLen.toNat % 2 ^ 32)
    (pid oid' : UInt64) : ∃ c' t', addAttr env (rowOf pid (oid', a)) c t = some (some c', t') ∧
      c'.allocLen.toNat = c.allocLen.toNat - min a.size c.allocLen.toNat ∧ c'.addLen = c.addLen ∧
      if c.allocLen.toNat - min a.size c.allocLen.toNat < 16 then
        Filling pos size s (done ++ encodeOde oid (attrs ++ a.item.bytes c.allocLen.toNat)) none c' t' ∧
          c'.contId = if c.contId = 0 then oid' else c.contId
      else Filling pos size s done (some (oid, attrs ++ a.item.bytes c.allocLen.toNat)) c' t' ∧
        c'.contId = c.contId := by
  generalize hn : min a.size c.allocLen.toNat = n at hw ⊢
  generalize hb : a.item.bytes c.allocLen.toNat = bytes
  have hlen : bytes.length = n := by rw [← hb, a.bytes_length h8 h16, hn]
  have hsize := a.le_size
  have hlt := size.toNat_lt
  have hroom := h.room
  have hal := h.aligned
  have htail : c.tail = pos + done.length + (encodeOde oid attrs).length := h.tail
  have hused : c.used.toNat = done.length + (encodeOde oid attrs).length := h.used
  have hode : (encodeOde oid (attrs ++ bytes)).length = (encodeOde oid attrs).length + n := by
    rw [encodeOde_length, encodeOde_length, List.length_append, hlen, Nat.add_assoc]
  have hofNat : (UInt64.ofNat n).toNat = n := UInt64.toNat_ofNat_of_lt' (show n < 2 ^ 64 by omega)
  have hsub : (c.allocLen - UInt64.ofNat n).toNat = c.allocLen.toNat - n := by
    rw [UInt64.toNat_sub_of_le _ _ (UInt64.le_iff_toNat_le.2 (by omega)), hofNat]
  have hadd : (c.used + UInt64.ofNat n).toNat = c.used.toNat + n := by
    rw [UInt64.toNat_add, hofNat, Nat.mod_eq_of_lt (by omega)]
  let c₁ : OdeCursor := ⟨c.head, c.tail + n, c.allocLen - UInt64.ofNat n, c.attrListLen + UInt32.ofNat n,
    c.used + UInt64.ofNat n, c.addLen, c.contId⟩
  let t₁ : Target := { t with out := t.out ++ [(c.tail, bytes)] }
  have h₁ : Filling pos size s done (some (oid, attrs ++ bytes)) c₁ t₁ := by
    refine ⟨h.head, ?_, ?_, ?_, ?_, ?_, ?_, ?_⟩
    · show c.tail + n = pos + done.length + (encodeOde oid (attrs ++ bytes)).length
      omega
    · show c.attrListLen + UInt32.ofNat n = UInt32.ofNat (attrs ++ bytes).length
      rw [List.length_append, hlen, UInt32.ofNat_add, h.listLen]
      rfl
    · show (c.used + UInt64.ofNat n).toNat = done.length + (encodeOde oid (attrs ++ bytes)).length
      omega
    · show (c.used + UInt64.ofNat n).toNat + (c.allocLen - UInt64.ofNat n).toNat = size.toNat
      omega
    · show (c.tail + n) % 8 = 0
      omega
    · obtain ⟨hhead, hattrs⟩ := h.written
      rw [encodeOde_length] at htail
      show Written (Target.reply { t with out := t.out ++ [(c.tail, bytes)] }) _ _ _
      rw [reply_write]
      refine ⟨?_, Mem.read_append.2 ⟨?_, ?_⟩⟩
      · rw [Mem.read_write_of_disjoint (.inl (by omega)), hhead]
      · rw [Mem.read_write_of_disjoint (.inl (by omega)), hattrs]
      · rw [show pos + done.length + 16 + attrs.length = c.tail by omega]
        exact Mem.read_write_self _ _ _
    · refine h.stores.more (Nat.le_add_right _ n) (List.forall_mem_singleton.2 ?_)
      rw [hlen]
  have hrun : addAttr env (rowOf pid (oid', a)) c t = (if c₁.allocLen < 16 then do
      let c ← c₁.close
      return some (c.continueAt (columnInt64 (bindInt64 oid')))
      else return some c₁ : OsdM (Option OdeCursor)) t₁ := by
    have hpack : lePackAttr env c.tail _ _ _ _ _ t = _ := lePackAttr_sought a (by omega) h8 h16 (by omega) t
    rw [hb, hn] at hpack
    unfold addAttr rowOf AttrRow.value
    rw [if_pos (show (16 : UInt64) ≤ c.allocLen from UInt64.le_iff_toNat_le.2 h16)]
    dsimp only [Option.getD_some]
    rw [columnInt_bindInt, columnInt_bindInt, bind_of_some hpack]
  rw [hrun]
  have hfull : c₁.allocLen < 16 ↔ c.allocLen.toNat - n < 16 := by
    rw [UInt64.lt_iff_toNat_lt, ← hsub]
    rfl
  by_cases hlast : c.allocLen.toNat - n < 16
  · obtain ⟨c₂, t', hclose, hfill, hcont₂, hal₂, hadd₂⟩ := h₁.close
    have hopen : c₁.head ≠ c₁.tail := h₁.head_ne rfl
    rw [OdeCursor.closeOpen, if_pos hopen] at hclose
    obtain ⟨hnext, hcont, hal, hadd⟩ := hfill.continueAt oid'
    rw [if_pos (hfull.2 hlast), bind_of_some hclose, columnInt64_bindInt64]
    refine ⟨_, t', rfl, (congrArg UInt64.toNat (hal.trans hal₂)).trans hsub, hadd.trans hadd₂, ?_⟩
    rw [if_pos hlast]
    exact ⟨hnext, hcont₂ ▸ hcont⟩
  · rw [if_neg (mt hfull.1 hlast)]
    refine ⟨c₁, t₁, rfl, hsub, rfl, ?_⟩
    rw [if_neg hlast]
    exact ⟨h₁, rfl⟩

/-! ## The loop over the rows -/

/-- What a row adds to the additional length. -/
def Sought.step (a : Sought) : Nat :=
  if a.marks then 16 else roundup8 (10 + (UInt16.ofNat a.value.length).toNat)

def OdeCursor.counted (c : OdeCursor) (a : Sought) : OdeCursor :=
  { c with addLen := c.addLen + UInt64.ofNat a.step }

theorem Filling.counted (h : Filling pos size s done cur c t) (a : Sought) :
    Filling pos size s done cur (c.counted a) t :=
  ⟨h.head, h.tail, h.listLen, h.used, h.room, h.aligned, h.written, h.stores⟩

/-- One row: a descriptor is begun, or an attribute added. -/
def takeRow (env : Env) (pid : UInt64) (p : UInt64 × Sought) (c : OdeCursor) : OsdM (Option OdeCursor) :=
  if p.2.marks then some <$> startOde p.1 c else addAttr env (rowOf pid p) c

/-- The loop goes on with the next row as long as the additional length does not overflow. -/
theorem listOidsAttrLoop_cons {pid : UInt64} {p : UInt64 × Sought} {rows : List AttrRow} {c' : OdeCursor}
    {t' : Target} (hrow : takeRow env pid p c t = some (some c', t'))
    (hadd : c'.addLen.toNat + p.2.step < 2 ^ 64) :
    listOidsAttrLoop env (rowOf pid p :: rows) c t = listOidsAttrLoop env rows (c'.counted p.2) t' := by
  have hpos : 0 < p.2.step := by
    unfold Sought.step roundup8
    split <;> omega
  have hgrow : c'.addLen < c'.addLen + UInt64.ofNat p.2.step := by
    rw [UInt64.lt_iff_toNat_lt, UInt64.toNat_add, UInt64.toNat_ofNat_of_lt' (show _ < 2 ^ 64 by omega),
      Nat.mod_eq_of_lt (by omega)]
    omega
  have hstart : (columnInt (rowOf pid p).page = USER_TMSTMP_PG ∧ columnInt (rowOf pid p).number = 0) ↔
      p.2.marks := by
    show (columnInt (bindInt _) = _ ∧ columnInt (bindInt _) = _) ↔ _
    rw [columnInt_bindInt, columnInt_bindInt]
    rfl
  rw [listOidsAttrLoop]
  unfold takeRow at hrow
  by_cases hm : p.2.marks
  · have hstep : p.2.step = 16 := if_pos hm
    rw [if_pos hm] at hrow
    rw [if_pos (hstart.2 hm), if_pos (hstart.2 hm)]
    rw [show columnInt64 (rowOf pid p).oid = p.1 from columnInt64_bindInt64 p.1, bind_of_some hrow]
    dsimp only
    rw [hstep] at hgrow
    rw [OdeCursor.counted, hstep]
    exact congrFun (if_pos hgrow) t'
  · have hstep : p.2.step = roundup8 (10 + (UInt16.ofNat p.2.value.length).toNat) := if_neg hm
    rw [if_neg hm] at hrow
    rw [if_neg (mt hstart.1 hm), if_neg (mt hstart.1 hm), bind_of_some hrow]
    dsimp only
    rw [hstep] at hgrow
    rw [OdeCursor.counted, hstep]
    exact congrFun (if_pos hgrow) t'

/-- From `c` on the loop comes to its end with `body` in place, and notes where to go on just when
`cut`. -/
def Finishes (env : Env) (pos : Nat) (size : UInt64) (s : Target) (pid : UInt64) (body : List UInt8)
    (cut : Prop) (rows : List (UInt64 × Sought)) (c : OdeCursor) (t : Target) : Prop :=
  ∃ c' t' done cur, listOidsAttrLoop env (rows.map (rowOf pid)) c t = some ((true, c'), t') ∧
    Filling pos size s done cur c' t' ∧ done ++ current cur = body ∧ (c'.contId ≠ 0 ↔ cut)

theorem Finishes.cons {pid : UInt64} {p : UInt64 × Sought} {rows : List (UInt64 × Sought)}
    {body : List UInt8} {cut : Prop} {c' : OdeCursor} {t' : Target}
    (hrow : takeRow env pid p c t = some (some c', t')) (hadd : c'.addLen.toNat + p.2.step < 2 ^ 64)
    (h : Finishes env pos size s pid body cut rows (c'.counted p.2) t') :
    Finishes env pos size s pid body cut (p :: rows) c t := by
  obtain ⟨c'', t'', done', cur', hloop, hrest⟩ := h
  refine ⟨c'', t'', done', cur', ?_, hrest⟩
  rw [List.map_cons, listOidsAttrLoop_cons hrow hadd, hloop]

theorem Finishes.congr {pid : UInt64} {rows : List (UInt64 × Sought)} {body : List UInt8} {cut cut' : Prop}
    (h : Finishes env pos size s pid body cut rows c t) (hcut : cut ↔ cut') :
    Finishes env pos size s pid body cut' rows c t := by
  obtain ⟨c', t', done', cur', hloop, hfill, hbody, hcont⟩ := h
  exact ⟨c', t', done', cur', hloop, hfill, hbody, hcont.trans hcut⟩

theorem counted_addLen {a : Sought} (h : c.addLen.toNat + a.step < 2 ^ 64) :
    (c.counted a).addLen.toNat = c.addLen.toNat + a.step := by
  show (c.addLen + UInt64.ofNat a.step).toNat = _
  rw [UInt64.toNat_add, UInt64.toNat_ofNat_of_lt' (show _ < 2 ^ 64 by omega), Nat.mod_eq_of_lt h]

/-- Without room a row finishes the descriptor under way, if there is one. -/
theorem takeRow_full (h : Filling pos size s done cur c t) (hroom : c.allocLen.toNat < 16) (pid : UInt64)
    {p : UInt64 × Sought} (hid : p.1 ≠ 0) : ∃ c' t', takeRow env pid p c t = some (some c', t') ∧
      Filling pos size s (done ++ current cur) none c' t' ∧ c'.allocLen = c.allocLen ∧
      c'.addLen = c.addLen ∧ (c'.contId ≠ 0 ↔ c.contId ≠ 0 ∨ p.2.marks ∨ cur.isSome) := by
  have hno : ¬ (16 : UInt64) ≤ c.allocLen := fun hle => by
    have h16 : 16 ≤ c.allocLen.toNat := UInt64.le_iff_toNat_le.1 hle
    omega
  have hnoted : (if c.contId = 0 then p.1 else c.contId) ≠ 0 := by
    split
    · exact hid
    · assumption
  obtain ⟨c₁, t', hclose, hfill, hcont₁, hal₁, hadd₁⟩ := h.close
  obtain ⟨hnext, hcont, hal, hadd⟩ := hfill.continueAt p.1
  have hrow : p.2.marks ∨ cur.isSome → takeRow env pid p c t = some (some (c₁.continueAt p.1), t') := by
    intro hor
    unfold takeRow
    by_cases hm : p.2.marks
    · have hrun : startOde p.1 c t = some (c₁.continueAt p.1, t') := by
        unfold startOde
        rw [if_neg hno, bind_of_some hclose]
        rfl
      rw [if_pos hm]
      show (startOde p.1 c t).bind _ = _
      rw [hrun]
      rfl
    · have hopen : c.head ≠ c.tail := h.head_ne (hor.resolve_left hm)
      rw [OdeCursor.closeOpen, if_pos hopen] at hclose
      rw [if_neg hm, addAttr, if_neg hno, if_pos hopen, bind_of_some hclose]
      show some (some (c₁.continueAt (columnInt64 (bindInt64 p.1))), t') = _
      rw [columnInt64_bindInt64]
  by_cases hor : p.2.marks ∨ cur.isSome
  · refine ⟨_, t', hrow hor, hnext, hal.trans hal₁, hadd.trans hadd₁, ?_⟩
    rw [hcont, hcont₁]
    exact iff_of_true hnoted (.inr hor)
  · -- no descriptor is under way, and the row is passed over
    obtain ⟨hm, hcur⟩ := not_or.1 hor
    cases cur with
    | some d => exact absurd rfl hcur
    | none =>
      have hsame : c.head = c.tail := h.head.trans h.tail.symm
      refine ⟨c, t, ?_, (List.append_nil done).symm ▸ h, rfl, rfl, ?_⟩
      · rw [takeRow, if_neg hm, addAttr, if_neg hno, if_neg (by simpa using hsame)]
        rfl
      · simp [hm]

end Fill

end OsdTarget
