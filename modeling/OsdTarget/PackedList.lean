import OsdTarget.SetList

/-!
# Packed lists decode as set lists

What `le_pack_attr` stores for attribute after attribute, behind the header of a set list, is read by
`parse_setattr_list` as the same attributes.  The one computes padding as `roundup8(len) - len`, the
other as `(8 - len % 8) % 8`.
-/

namespace OsdTarget

open Base

/-! ## Packing -/

/-- Pack attributes one after the other, each at the position reached so far, into the `size` bytes at
`addr`: the memory then and the values returned. -/
def packEntries (addr : Nat) (size : UInt32) :
    List SetEntry → Nat → Mem → Except Errno (Mem × List Nat)
  | [], _, m => .ok (m, [])
  | e :: es, pos, m =>
    match lePackAttrAt (addr + pos) (UInt32.ofNat (size.toNat - pos)) e.page e.number
        (UInt16.ofNat e.value.length) (some (blobMem e.value)) with
    | .error err => .error err
    | .ok bytes =>
      match packEntries addr size es (pos + bytes.length) (m.write (addr + pos) bytes) with
      | .error err => .error err
      | .ok (m, rets) => .ok (m, bytes.length :: rets)

/-- A list header, then the entries. -/
def packList (addr : Nat) (size : UInt32) (hdr : List UInt8) (es : List SetEntry) (m : Mem) :
    Except Errno (Mem × List Nat) :=
  packEntries addr size es 8 (m.write addr hdr)

/-! ## Entries -/

/-- An entry whose reserved and pad bytes are zero. -/
def encodeEntry (e : SetEntry) : List UInt8 :=
  htonl e.page ++ (htonl e.number ++ (List.replicate 6 0 ++ (htons (UInt16.ofNat e.value.length) ++
    (e.value ++ List.replicate (roundup8 (e.value.length + LE_VAL_OFF) - (e.value.length + LE_VAL_OFF))
      0))))

theorem encodeEntry_length (e : SetEntry) :
    (encodeEntry e).length = roundup8 (e.value.length + LE_VAL_OFF) := by
  have h := (roundup8_spec (e.value.length + LE_VAL_OFF)).2.1
  simp only [encodeEntry, List.length_append, htonl_length, htons_length, List.length_replicate]
  unfold LE_VAL_OFF at *
  omega

theorem encodeEntry_isEntry {e : SetEntry} (h : e.value.length < 2 ^ 16) : IsEntry (encodeEntry e) e := by
  have hr := roundup8_spec (e.value.length + LE_VAL_OFF)
  refine ⟨List.replicate 6 0, List.replicate _ 0, List.length_replicate, ?_, ?_, h, rfl⟩
  · rw [List.length_replicate]
    omega
  · rw [encodeEntry_length]
    exact hr.1

/-- With room for it, `le_pack_attr` stores the whole entry. -/
theorem lePackAttrAt_encode {addr : Nat} {buflen : UInt32} {e : SetEntry} (haddr : addr % 8 = 0)
    (hlen : buflen.toNat % 8 = 0) (hval : e.value.length < 2 ^ 16)
    (hroom : (encodeEntry e).length ≤ buflen.toNat) :
    lePackAttrAt addr buflen e.page e.number (UInt16.ofNat e.value.length) (some (blobMem e.value))
      = .ok (encodeEntry e) := by
  have hr := (roundup8_spec (e.value.length + LE_VAL_OFF)).2.1
  rw [encodeEntry_length] at hroom
  have hv : (UInt16.ofNat e.value.length).toNat = e.value.length := by
    rw [UInt16.toNat_ofNat']
    exact Nat.mod_eq_of_lt hval
  have hfit : ¬ e.value.length > buflen.toNat - LE_VAL_OFF := by omega
  unfold lePackAttrAt
  rw [if_neg (by omega), if_neg (by unfold LE_MIN_ITEM_LEN; omega)]
  unfold leBytes encodeEntry
  dsimp only
  rw [hv, if_neg hfit, read_blobMem]
  simp only [List.append_assoc]

/-! ## Lists -/

/-- What packing the attributes leaves behind. -/
structure Packed (addr : Nat) (hdr : List UInt8) (es : List SetEntry) (m m' : Mem) (rets : List Nat) :
    Prop where
  /-- Every return value is a multiple of 8. -/
  aligned : ∀ r ∈ rets, r % 8 = 0
  /-- Header and entries are there, every pad byte zero. -/
  content : m'.read addr (8 + rets.sum) = hdr ++ (es.map encodeEntry).flatten
  /-- Nothing else has changed. -/
  frame : ∀ a, a < addr ∨ addr + (8 + rets.sum) ≤ a → m' a = m a
  /-- A command whose set list is what was written reads the same attributes from it and comes to its
  end. -/
  decodes : ∀ (cmd : Command) (pid oid : UInt64),
    setattrListLen cmd = UInt32.ofNat (8 + rets.sum) →
    cmd.indata.read (setattrListOff cmd) (8 + rets.sum) = m'.read addr (8 + rets.sum) →
    ∃ fuel le, parseSetattrList cmd pid oid fuel = some (.ok, le) ∧
      le.map (ListEntry.setEntry cmd.indata) = es ∧
      Walks cmd (setattrListOff cmd + (8 + rets.sum), 0, le)

theorem packed_tiles {es : List SetEntry} (hval : ∀ e ∈ es, e.value.length < 2 ^ 16) :
    Tiles (es.map encodeEntry).flatten es := by
  refine ⟨es.map encodeEntry, rfl, ?_⟩
  induction es with
  | nil => exact .nil
  | cons e es ih =>
    exact .cons (encodeEntry_isEntry (hval e (.head _))) (ih fun e' he' => hval e' (.tail _ he'))

/-- One entry after the other: what is written, what is returned, what stays. -/
theorem packEntries_spec {addr : Nat} {size : UInt32} (haddr : addr % 8 = 0)
    (hsize : size.toNat % 8 = 0) {es : List SetEntry} (hval : ∀ e ∈ es, e.value.length < 2 ^ 16)
    {pos : Nat} (hpos : pos % 8 = 0) (hroom : pos + (es.map encodeEntry).flatten.length ≤ size.toNat)
    (m : Mem) : ∃ m', packEntries addr size es pos m = .ok (m', es.map fun e => (encodeEntry e).length) ∧
      m'.read (addr + pos) (es.map encodeEntry).flatten.length = (es.map encodeEntry).flatten ∧
      ∀ a, a < addr + pos ∨ addr + pos + (es.map encodeEntry).flatten.length ≤ a → m' a = m a := by
  induction es generalizing pos m with
  | nil => exact ⟨m, rfl, rfl, fun _ _ => rfl⟩
  | cons e es ih =>
    have hcons : ((e :: es).map encodeEntry).flatten = encodeEntry e ++ (es.map encodeEntry).flatten := rfl
    rw [hcons, List.length_append] at hroom ⊢
    have hmod : (encodeEntry e).length % 8 = 0 := (encodeEntry_isEntry (hval e (.head _))).length.2
    have hsz := size.toNat_lt
    have hleft : (UInt32.ofNat (size.toNat - pos)).toNat = size.toNat - pos := by
      rw [UInt32.toNat_ofNat']
      exact Nat.mod_eq_of_lt (by omega)
    have hpack : lePackAttrAt (addr + pos) (UInt32.ofNat (size.toNat - pos)) e.page e.number
        (UInt16.ofNat e.value.length) (some (blobMem e.value)) = .ok (encodeEntry e) :=
      lePackAttrAt_encode (by omega) (by omega) (hval e (.head _)) (by omega)
    obtain ⟨m', hrest, hread, hframe⟩ := ih (fun e' he' => hval e' (.tail _ he'))
      (show (pos + (encodeEntry e).length) % 8 = 0 by omega) (by omega)
      (m.write (addr + pos) (encodeEntry e))
    refine ⟨m', ?_, ?_, fun a ha => ?_⟩
    · rw [packEntries, hpack]
      dsimp only
      rw [hrest]
      rfl
    · rw [← List.length_append]
      refine Mem.read_append.2 ⟨?_, by rw [Nat.add_assoc]; exact hread⟩
      rw [Mem.read_congr fun a _ hlt => hframe a (.inl (by omega))]
      exact Mem.read_write_self _ _ _
    · rw [hframe a (by omega)]
      rcases ha with ha | ha
      · exact Mem.write_of_lt ha
      · exact Mem.write_of_ge (by omega)

/-- **Packed lists decode as set lists.** -/
theorem packed_decodes (addr : Nat) (size : UInt32) (hdr : List UInt8) (es : List SetEntry) (m : Mem)
    (haddr : addr % 8 = 0) (hsize : size.toNat % 8 = 0) (hhdr : hdr.length = 8)
    (htype : hdr.headD 0 &&& 0xF = RTRVD_SET_ATTR_LIST)
    (hval : ∀ e ∈ es, 1 ≤ e.value.length ∧ e.value.length ≤ 65534)
    (hroom : 8 + (es.map fun e => roundup8 (LE_VAL_OFF + e.value.length)).sum ≤ size.toNat) :
    ∃ m' rets, packList addr size hdr es m = .ok (m', rets) ∧ Packed addr hdr es m m' rets := by
  have hval : ∀ e ∈ es, e.value.length < 2 ^ 16 := fun e he => by
    have := (hval e he).2
    omega
  have hsum : (es.map fun e => (encodeEntry e).length).sum = (es.map encodeEntry).flatten.length := by
    rw [List.length_flatten, List.map_map]
    rfl
  have hroom : 8 + (es.map encodeEntry).flatten.length ≤ size.toNat := by
    rw [← hsum]
    simpa only [encodeEntry_length, Nat.add_comm _ LE_VAL_OFF] using hroom
  obtain ⟨m', hrun, hread, hframe⟩ := packEntries_spec haddr hsize hval (show 8 % 8 = 0 from rfl) hroom
    (m.write addr hdr)
  have hcontent : m'.read addr (8 + (es.map encodeEntry).flatten.length)
      = hdr ++ (es.map encodeEntry).flatten := by
    rw [← hhdr, ← List.length_append]
    refine Mem.read_append.2 ⟨?_, by rw [hhdr]; exact hread⟩
    rw [Mem.read_congr fun a _ hlt => hframe a (.inl (by omega))]
    exact Mem.read_write_self _ _ _
  refine ⟨m', _, hrun, ?_, by rw [hsum, hcontent], fun a ha => ?_, ?_⟩
  · intro r hr
    obtain ⟨e, he, rfl⟩ := List.mem_map.1 hr
    exact (encodeEntry_isEntry (hval e he)).length.2
  · rw [hsum] at ha
    rw [hframe a (by omega)]
    rcases ha with ha | ha
    · exact Mem.write_of_lt ha
    · exact Mem.write_of_ge (by omega)
  · intro cmd pid oid hlen hlist
    rw [hsum] at hlen hlist
    have hsz := size.toNat_lt
    have hlenv : (setattrListLen cmd).toNat = 8 + (es.map encodeEntry).flatten.length := by
      rw [hlen, UInt32.toNat_ofNat']
      exact Nat.mod_eq_of_lt (by omega)
    rw [hcontent, ← hhdr, ← List.length_append] at hlist
    obtain ⟨hfirst, hrest⟩ := Mem.read_append.1 hlist
    rw [hhdr] at hrest
    have hty : cmd.indata (setattrListOff cmd) &&& 0xF = RTRVD_SET_ATTR_LIST := by
      rw [← htype, ← hfirst, hhdr]
      rfl
    have hbytes : setListBytes cmd = (es.map encodeEntry).flatten := by
      rw [setListBytes, hlenv, Nat.add_sub_cancel_left]
      exact hrest
    have htiles : Tiles (setListBytes cmd) es := hbytes ▸ packed_tiles hval
    have h8 : 8 ≤ (setattrListLen cmd).toNat := by omega
    have hcheck := setListCheck_aligned h8 hty
    have hmod := htiles.length_mod
    rw [setListBytes, Mem.read_length] at hmod
    rw [if_pos hmod] at hcheck
    obtain ⟨le, hle, hmap⟩ := laid_setList h8 htiles
    refine ⟨le.length, le, parseSetattrList_laid hcheck h8 hle, hmap, ?_⟩
    rw [hsum, ← hlenv]
    exact walks_end hcheck h8 hle

/-- Two attributes, with a value of one byte and with one of 9 bytes, in a buffer of 72 bytes. -/
theorem packed_decodes_pair :
    ∃ m' rets, packList 0x1000 72 [9, 0, 0, 0, 0, 0, 0, 56]
      [⟨0x10000, 7, [0x2A]⟩, ⟨0x10001, 1, List.replicate 9 0xFF⟩] (fun _ => 0xAA) = .ok (m', rets) ∧
      Packed 0x1000 [9, 0, 0, 0, 0, 0, 0, 56]
        [⟨0x10000, 7, [0x2A]⟩, ⟨0x10001, 1, List.replicate 9 0xFF⟩] (fun _ => 0xAA) m' rets :=
  packed_decodes _ _ _ _ _ (by decide) (by decide) (by decide) (by decide) (by decide) (by decide)

end OsdTarget
