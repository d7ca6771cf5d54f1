import OsdTarget.GetList
import OsdTarget.PackedList
import OsdTarget.ServiceAction

/-!
# The length of a GEN CAS reply

`exec_getattr` lets `get_attributes` store its list behind the place for the original value, moves the
header in front of it and packs the value in between.  The reply is right, and its header gives its length;
but the bytes used are counted by `get_attr_list` and once more here.
-/

namespace OsdTarget

open Base

variable {env : Env} {s t : Target} {cmd : Command} {r : GenCasResult} {used : UInt32}

/-! ## The parts of the reply -/

/-- The command that `get_attributes` is given: its list begins `n` bytes later, and has as much less
room. -/
def Command.behind (cmd : Command) (n : UInt32) : Command :=
  { cmd.withAllocLen (cmd.allocLen - n) with retrievedAttrOff := cmd.retrievedAttrOff + n.toUInt64 }

/-- The attribute with its original value. -/
def GenCasResult.setEntry (r : GenCasResult) : SetEntry := ⟨r.entry.page, r.entry.number, r.orig.getD []⟩

/-- The room it takes. -/
def GenCasResult.size (r : GenCasResult) : UInt32 :=
  UInt32.ofNat (roundup8 (LE_VAL_OFF + (r.orig.getD []).length))

/-- The header of the list is cleared first. -/
def Target.cleared (s : Target) (pos : Nat) : Target :=
    { s with out := s.out ++ [(pos, List.replicate 8 0)] }

/-- The entries that `get_attributes` produces for the list to get. -/
def gotEntries (env : Env) (cmd : Command) (n : UInt32) (s : Target) : List UInt8 :=
  match getAttributes env (cmd.behind n) cmd.pid cmd.oid 1 0 (s.cleared (cmd.behind n).outbuf) with
  | some ((.ok, used), s') => (cmd.behind n).entryBytes used s'
  | _ => []

/-- The reply is a list whose first entry is the original value, the entries of the list to get follow, the
bytes used are those of the list and its header, and there was room for them. -/
structure CasReplied (env : Env) (cmd : Command) (r : GenCasResult) (s : Target) (used : UInt32)
    (t : Target) : Prop where
  reply : Replied cmd 1 (encodeEntry r.setEntry ++ gotEntries env cmd r.size s) used t
  fits : used ≤ cmd.allocLen

theorem GenCasResult.size_toNat (horig : (r.orig.getD []).length ≤ ATTR_LEN_UB) :
    r.size.toNat = (encodeEntry r.setEntry).length ∧ 16 ≤ r.size.toNat ∧ r.size.toNat % 8 = 0 := by
  have hub : ATTR_LEN_UB = 65534 := rfl
  have hoff : LE_VAL_OFF = 16 := rfl
  obtain ⟨hmod, hle, hlt⟩ := roundup8_spec (LE_VAL_OFF + (r.orig.getD []).length)
  have hsize : r.size.toNat = roundup8 (LE_VAL_OFF + (r.orig.getD []).length) :=
    UInt32.toNat_ofNat_of_lt' (show _ < 2 ^ 32 by omega)
  refine ⟨?_, by omega, by omega⟩
  rw [hsize, encodeEntry_length, Nat.add_comm]
  rfl

theorem behind_allocLen (n : UInt32) : (cmd.behind n).allocLen = cmd.allocLen - n := withAllocLen_allocLen _

theorem behind_getattrListLen (n : UInt32) : getattrListLen (cmd.behind n) = getattrListLen cmd :=
  withAllocLen_getNtohl _ (by omega)

theorem behind_outbuf (n : UInt32) : (cmd.behind n).outbuf = (cmd.outbuf + n.toNat) % 2 ^ 64 := by
  show (cmd.retrievedAttrOff + n.toUInt64).toNat = _
  rw [UInt64.toNat_add, UInt32.toNat_toUInt64]
  rfl

theorem behind_aligned {n : UInt32} (hn : n.toNat % 8 = 0) (h : (env.outAddr + (cmd.outbuf + 8)) % 8 = 0) :
    (env.outAddr + (cmd.behind n).outbuf) % 8 = 0 := by
  rw [behind_outbuf]
  omega

/-! ## The list to get -/

/-- The entries are behind their header, and were counted with it; without a list nothing is. -/
structure GotList (env : Env) (cmd : Command) (n : UInt32) (s : Target) (used : UInt32)
    (s' : Target) : Prop where
  length : (getNtohl s'.reply ((cmd.behind n).outbuf + 4)).toNat = (gotEntries env cmd n s).length
  content : s'.reply.read ((cmd.behind n).outbuf + 8) (gotEntries env cmd n s).length =
    gotEntries env cmd n s
  room : (gotEntries env cmd n s).length + n.toNat + 8 ≤ cmd.allocLen.toNat
  used : used.toNat = if getattrListLen cmd = 0 then 0 else 8 + (gotEntries env cmd n s).length
  nothing : getattrListLen cmd = 0 → gotEntries env cmd n s = []

theorem cleared_length (s : Target) (pos : Nat) : (s.cleared pos).reply.read (pos + 4) 4 = htonl 0 := by
  have hread : (s.cleared pos).reply.read pos (4 + 4) = List.replicate 4 0 ++ List.replicate 4 0 := by
    unfold Target.cleared
    rw [reply_write]
    exact Mem.read_write_self s.reply pos (List.replicate 8 0)
  rw [Mem.read_add] at hread
  exact List.append_inj_right hread (Mem.read_length _ _ _)

theorem getAttributes_gotList {n : UInt32} (hlist : cmd.getsetCdbfmt = GETLIST_SETLIST)
    (haddr : (env.outAddr + (cmd.behind n).outbuf) % 8 = 0) (hroom : n.toNat + 8 ≤ cmd.allocLen.toNat) :
    Ends (getAttributes env (cmd.behind n) cmd.pid cmd.oid 1 0) (s.cleared (cmd.behind n).outbuf)
      fun a s' => a.1 = .ok → GotList env cmd n s a.2 s' := by
  rintro ⟨ret, used⟩ s' hrun rfl
  have hgot : gotEntries env cmd n s = (cmd.behind n).entryBytes used s' := by
    unfold gotEntries
    rw [hrun]
  have hfmt : (cmd.behind n).getsetCdbfmt = GETLIST_SETLIST := hlist
  have hget : getAttributes env (cmd.behind n) cmd.pid cmd.oid 1 0 =
      getAttrList env (cmd.behind n) cmd.pid cmd.oid true 1 0 := by
    unfold getAttributes
    rw [if_neg (by decide), hfmt, if_neg (by decide), if_pos rfl]
  have halloc : (cmd.behind n).allocLen.toNat = cmd.allocLen.toNat - n.toNat := by
    rw [behind_allocLen, UInt32.toNat_sub_of_le _ _ (UInt32.le_iff_toNat_le.2 (by omega))]
  rw [hget] at hrun
  have hdef : ∀ {check}, getAttrListCheck (cmd.behind n) = check → (∀ asc, check ≠ .reject asc) →
      getListCheck (cmd.behind n) = check := by
    rintro check rfl hne
    unfold getAttrListCheck at hne ⊢
    split at hne
    · exact absurd rfl (hne _)
    · rw [if_neg ‹_›]
  cases hcheck : getAttrListCheck (cmd.behind n) with
  | nothing =>
    have hlen : getattrListLen cmd = 0 := by
      rw [← behind_getattrListLen n, getListCheck_nothing (hdef hcheck nofun)]
    have hsame : some (((.ok, 0), s.cleared (cmd.behind n).outbuf) : (Ret × UInt32) × Target) =
        some ((.ok, used), s') := by
      rw [← hrun]
      unfold getAttrList
      rw [hcheck]
      rfl
    cases hsame
    have hnil : gotEntries env cmd n s = [] := hgot
    refine ⟨?_, ?_, ?_, (if_pos hlen).symm, fun _ => hnil⟩
    · rw [hnil, getNtohl_of_read (cleared_length _ _)]
      rfl
    · rw [hnil]
      rfl
    · rw [hnil, List.length_nil]
      omega
  | reject asc =>
    rw [getAttrList_reject hcheck] at hrun
    cases hrun
  | use off len =>
    obtain ⟨htaken, -, -⟩ := getListCheck_use.1 (hdef hcheck nofun)
    have hlen : getattrListLen cmd ≠ 0 := fun h0 => by
      have h8 := htaken.size
      rw [behind_getattrListLen, h0] at h8
      exact absurd h8 (by decide)
    have hmod : (cmd.behind n).allocLen.toNat % 8 = 0 := and7_mod htaken.allocAligned
    obtain ⟨ans, t', -, ⟨lists, -, -, hrep⟩ | ⟨hbad, -⟩⟩ :=
      getAttrList_replies 0 hcheck haddr (by omega) hmod _ _ hrun
    · have hentries : (cmd.behind n).entryBytes used s' =
          emitAll ((cmd.behind n).allocLen.toNat - 8) lists := by
        rw [Command.entryBytes, hrep.used, Nat.add_sub_cancel_left, hrep.content]
      have hle := (emitAll_length (show ((cmd.behind n).allocLen.toNat - 8) % 8 = 0 by omega) lists).1
      rw [hentries] at hgot
      refine ⟨?_, ?_, ?_, ?_, fun h0 => absurd h0 hlen⟩
      · rw [hgot]
        exact hrep.length
      · rw [hgot]
        exact hrep.content
      · rw [hgot]
        omega
      · rw [if_neg hlen, hgot]
        exact hrep.used
    · exact absurd rfl hbad

/-! ## The header in front -/

/-- The list as it is left: the header moved to the front, the original value behind it, and the length
of its entry added. -/
structure CasListed (env : Env) (cmd : Command) (r : GenCasResult) (s : Target) (used : UInt32)
    (t : Target) : Prop where
  format : t.reply cmd.outbuf = RTRVD_SET_ATTR_LIST
  length : (getNtohl t.reply (cmd.outbuf + 4)).toNat = r.size.toNat + (gotEntries env cmd r.size s).length
  entry : t.reply.read (cmd.outbuf + 8) (encodeEntry r.setEntry).length = encodeEntry r.setEntry
  rest : (cmd.behind r.size).outbuf = cmd.outbuf + r.size.toNat →
    t.reply.read (cmd.outbuf + 8 + r.size.toNat) (gotEntries env cmd r.size s).length =
      gotEntries env cmd r.size s
  used : ∃ u : UInt32,
    u.toNat = (if getattrListLen cmd = 0 then 0 else 8 + (gotEntries env cmd r.size s).length) ∧
      used = u + (getNtohl t.reply (cmd.outbuf + 4) + 8)
  room : (gotEntries env cmd r.size s).length + r.size.toNat + 8 ≤ cmd.allocLen.toNat
  nothing : getattrListLen cmd = 0 → gotEntries env cmd r.size s = []

/-- The bytes of a list of 8 bytes of header at `off` once they are at `start`, with `entry` behind them. -/
def moved (m : Mem) (start off : Nat) (entry : List UInt8) : Mem :=
  let m' := m.write off [RTRVD_SET_ATTR_LIST]
  (m'.write start (m'.read off 8)).write (start + 8) entry

section Moved

variable {m : Mem} {start off : Nat} {entry : List UInt8}

theorem moved_header :
    (moved m start off entry).read start 8 = (m.write off [RTRVD_SET_ATTR_LIST]).read off 8 := by
  unfold moved
  rw [Mem.read_write_of_disjoint (.inl (Nat.le_refl _))]
  have hself := Mem.read_write_self (m.write off [RTRVD_SET_ATTR_LIST]) start
    ((m.write off [RTRVD_SET_ATTR_LIST]).read off 8)
  rwa [Mem.read_length] at hself

theorem moved_format : (moved m start off entry) start = RTRVD_SET_ATTR_LIST := by
  have hheader : (moved m start off entry).read start (1 + 7) =
      (m.write off [RTRVD_SET_ATTR_LIST]).read off (1 + 7) := moved_header
  rw [Mem.read_add, Mem.read_add] at hheader
  have hone := List.append_inj_left hheader (by rw [Mem.read_length, Mem.read_length])
  exact (List.cons.inj (hone.trans (Mem.read_write_self m off [RTRVD_SET_ATTR_LIST]))).1

theorem moved_length : getNtohl (moved m start off entry) (start + 4) = getNtohl m (off + 4) := by
  have hheader : (moved m start off entry).read start (4 + 4) =
      (m.write off [RTRVD_SET_ATTR_LIST]).read off (4 + 4) := moved_header
  rw [Mem.read_add, Mem.read_add] at hheader
  have hlength := List.append_inj_right hheader (by rw [Mem.read_length, Mem.read_length])
  rw [Mem.read_write_of_disjoint (.inr (show off + 1 ≤ off + 4 by omega))] at hlength
  unfold getNtohl
  rw [hlength]

theorem moved_entry : (moved m start off entry).read (start + 8) entry.length = entry :=
  Mem.read_write_self ..

theorem moved_rest (hoff : off = start + entry.length) (k : Nat) :
    (moved m start off entry).read (start + 8 + entry.length) k = m.read (off + 8) k := by
  unfold moved
  rw [Mem.read_write_of_disjoint (.inr (Nat.le_refl _)), Mem.read_write_of_disjoint (.inr ?_),
    Mem.read_write_of_disjoint (.inr ?_), hoff, Nat.add_right_comm]
  · show off + 1 ≤ start + 8 + entry.length
    omega
  · rw [Mem.read_length]
    omega

end Moved

/-- Once the length of the list has been stored. -/
theorem GotList.listed {u : UInt32} {s' : Target} (hgot : GotList env cmd r.size s u s')
    (horig : (r.orig.getD []).length ≤ ATTR_LEN_UB) {m : Mem}
    (hm : m = moved s'.reply cmd.outbuf (cmd.behind r.size).outbuf (encodeEntry r.setEntry))
    (ht : t.reply = m.write (cmd.outbuf + 4) (htonl (getNtohl m (cmd.outbuf + 4) + r.size))) :
    CasListed env cmd r s (u + (getNtohl m (cmd.outbuf + 4) + r.size + 8)) t := by
  obtain ⟨hsize, h16, -⟩ := r.size_toNat horig
  have hlt := cmd.allocLen.toNat_lt
  have hroom := hgot.room
  have hfour : (htonl (getNtohl m (cmd.outbuf + 4) + r.size)).length = 4 := htonl_length _
  have hlength : getNtohl t.reply (cmd.outbuf + 4) = getNtohl m (cmd.outbuf + 4) + r.size := by
    refine getNtohl_of_read ?_
    rw [ht]
    conv_lhs => rw [← hfour]
    exact Mem.read_write_self _ _ _
  -- the length is within the header
  have hbehind : ∀ {p k : Nat}, cmd.outbuf + 8 ≤ p → t.reply.read p k = m.read p k := fun hp => by
    rw [ht, Mem.read_write_of_disjoint (.inr (by omega))]
  refine ⟨?_, ?_, ?_, fun hoff => ?_, ⟨u, hgot.used, by rw [hlength]⟩, hroom, hgot.nothing⟩
  · rw [ht, Mem.write_of_lt (by omega), hm, moved_format]
  · rw [hlength, UInt32.toNat_add, hm, moved_length, hgot.length]
    omega
  · rw [hbehind (Nat.le_refl _), hm, moved_entry]
  · rw [hbehind (Nat.le_add_right _ _), hm, hsize, moved_rest (hsize ▸ hoff), hgot.content]

/-- The original value is packed whole; one that is absent is packed like an empty one. -/
theorem lePackAttr_orig {e : SetEntry} {pos : Nat} {buflen : UInt32} (hval : e.value.length < 2 ^ 16)
    (hroom : (encodeEntry e).length ≤ buflen.toNat) :
    Ends (lePackAttr env pos buflen e.page e.number (UInt16.ofNat e.value.length)
      (if e.value = [] then none else some (blobMem e.value))) s fun p t => ∀ k, p = .ok k →
        (env.outAddr + pos) % 8 = 0 ∧ t = { s with out := s.out ++ [(pos, encodeEntry e)] } := by
  have hstored : ∀ bytes, lePackAttrAt (env.outAddr + pos) buflen e.page e.number
      (UInt16.ofNat e.value.length) (if e.value = [] then none else some (blobMem e.value)) = .ok bytes →
      (env.outAddr + pos) % 8 = 0 ∧ bytes = encodeEntry e := by
    intro bytes hpack
    have haligned : buflen.toNat % 8 = 0 ∧ (env.outAddr + pos) % 8 = 0 := by
      unfold lePackAttrAt at hpack
      split at hpack
      · cases hpack
      · omega
    refine ⟨haligned.2, ?_⟩
    by_cases hnil : e.value = []
    · rw [if_pos hnil] at hpack
      have hlen := encodeEntry_length e
      unfold lePackAttrAt LE_MIN_ITEM_LEN at hpack
      rw [if_neg (by omega)] at hpack
      split at hpack
      · cases hpack
      · cases hpack
        unfold encodeEntry leBytes
        rw [hnil]
        simp
    · rw [if_neg hnil, lePackAttrAt_encode haligned.2 haligned.1 hval hroom] at hpack
      exact (Except.ok.inj hpack).symm
  unfold lePackAttr
  split
  · exact ends_pure.2 fun k hk => nomatch hk
  · rename_i bytes hpack
    obtain ⟨haddr, rfl⟩ := hstored bytes hpack
    exact ends_bind.2 (ends_modify.2 (ends_pure.2 fun _ _ => ⟨haddr, rfl⟩))

/-- The reply of every list, empty or not. -/
theorem execGetattr_lists (hlist : cmd.getsetCdbfmt = GETLIST_SETLIST)
    (horig : (r.orig.getD []).length ≤ ATTR_LEN_UB) (h8 : 8 ≤ cmd.allocLen) :
    Ends (execGetattr env cmd r) s fun a t => a.1 = .ok → CasListed env cmd r s a.2 t := by
  have h8' : 8 ≤ cmd.allocLen.toNat := UInt32.le_iff_toNat_le.1 h8
  have hsub : (cmd.allocLen - 8).toNat = cmd.allocLen.toNat - 8 := UInt32.toNat_sub_of_le _ _ h8
  obtain ⟨hsize, h16, hsize8⟩ := r.size_toNat horig
  have herr : cdbErr cmd.pid cmd.oid ≠ .ok := cdbErr_ne_ok _ _
  refine ends_ite_of (fun _ => ends_pure.2 fun h => absurd h herr) fun hroom => ?_
  replace hroom : ¬ cmd.allocLen - 8 < r.size := hroom
  rw [UInt32.lt_iff_toNat_lt, hsub] at hroom
  refine ends_bind.2 (ends_modify.2 ?_)
  refine ends_call (P := fun a s₂ => (env.outAddr + (cmd.behind r.size).outbuf) % 8 = 0 → a.1 = .ok →
    GotList env cmd r.size s a.2 s₂) (fun a s₂ hrun haddr => ?_) fun a s₂ hgot => ?_
  · exact getAttributes_gotList hlist haddr (by omega) a s₂ hrun
  obtain ⟨ret, u⟩ := a
  refine ends_ite_of (fun hbad => ends_pure.2 fun h => absurd h hbad) fun hok => ?_
  refine ends_bind.2 (ends_modify.2 (ends_bind.2 (ends_get.2 (ends_bind.2 (ends_modify.2 ?_)))))
  refine ends_call (lePackAttr_orig (e := r.setEntry) ?_ ?_) fun p s₅ hpack => ?_
  · exact Nat.lt_of_le_of_lt horig (by decide)
  · show (encodeEntry r.setEntry).length ≤ (cmd.allocLen - 8).toNat
    omega
  cases p with
  | error e => exact ends_ite_of (fun _ => ends_pure.2 fun h => absurd h herr) fun _ => ends_never.2 trivial
  | ok k =>
    obtain ⟨haddr, rfl⟩ := hpack k rfl
    refine ends_bind.2 (ends_get.2 (ends_bind.2 (ends_modify.2 (ends_pure.2 fun _ => ?_))))
    refine (hgot (behind_aligned hsize8 haddr) (not_not.1 hok)).listed horig ?_ (reply_write _ _ _)
    rw [reply_write, reply_write, reply_write]
    rfl

/-- **The bytes of the reply are counted once** exactly when there is no list to get and room for a
header. -/
theorem execGetattr_replied_iff (hlist : cmd.getsetCdbfmt = GETLIST_SETLIST)
    (horig : (r.orig.getD []).length ≤ ATTR_LEN_UB)
    (hrun : execGetattr env cmd r s = some ((.ok, used), t)) :
    CasReplied env cmd r s used t ↔ getattrListLen cmd = 0 ∧ 8 ≤ cmd.allocLen := by
  have hsize := (r.size_toNat horig).1
  have hlt := cmd.allocLen.toNat_lt
  constructor
  · rintro ⟨hreply, hfits⟩
    rw [UInt32.le_iff_toNat_le] at hfits
    have hused := hreply.used
    have h8 : 8 ≤ cmd.allocLen := UInt32.le_iff_toNat_le.2 (show 8 ≤ cmd.allocLen.toNat by omega)
    refine ⟨by_contra fun hne => ?_, h8⟩
    obtain ⟨u, hu, hsum⟩ := (execGetattr_lists hlist horig h8 _ _ hrun rfl).used
    have hlength := hreply.length
    rw [List.length_append] at hused hlength
    rw [if_neg hne] at hu
    have htotal : used.toNat = u.toNat + (getNtohl t.reply (cmd.outbuf + 4)).toNat + 8 - 2 ^ 32 ∨
        used.toNat = u.toNat + (getNtohl t.reply (cmd.outbuf + 4)).toNat + 8 := by
      rw [show used = _ from hsum, UInt32.toNat_add, UInt32.toNat_add, show (8 : UInt32).toNat = 8 from rfl]
      have hu' := u.toNat_lt
      omega
    omega
  · rintro ⟨h0, h8⟩
    have hlisted := execGetattr_lists hlist horig h8 _ _ hrun rfl
    obtain ⟨u, hu, hsum⟩ := hlisted.used
    have hnil := hlisted.nothing h0
    have hlength := hlisted.length
    have hroom := hlisted.room
    rw [hnil, List.length_nil] at hlength hroom
    rw [if_pos h0] at hu
    have hused : used.toNat = 8 + r.size.toNat := by
      rw [show used = _ from hsum, UInt32.toNat_add, UInt32.toNat_add, show (8 : UInt32).toNat = 8 from rfl]
      omega
    refine ⟨⟨hlisted.format, ?_, ?_, ?_⟩, UInt32.le_iff_toNat_le.2 (by omega)⟩
    · rw [hnil, List.append_nil]
      omega
    · rw [hnil, List.append_nil]
      exact hlisted.entry
    · rw [hnil, List.append_nil]
      omega

/-- A user object with a one-byte attribute. -/
def taggedObject : Target := calmRun [.createPartition 0, .create 0x10000 0x10000 1,
  .setAttributes 0x10000 0x10000 0x10000 1 (some (blobMem [7])) 1 false]

/-- GEN CAS of that attribute, empty for empty, with these attributes to get: the first list is the one to
set, the second follows at byte 256. -/
def tagCommand (entries : List UInt8) (alloc : UInt32) : Command where
  cdb := blobMem (List.replicate 16 0 ++ htonll 0x10000 ++ htonll 0x10000 ++ List.replicate 20 0 ++
    htonl (if entries = [] then 0 else 8 + UInt32.ofNat entries.length) ++ htonl 1 ++ htonl alloc ++
    List.replicate 4 0 ++ htonl 40 ++ List.replicate 4 0)
  getsetCdbfmt := GETLIST_SETLIST
  retrievedAttrOff := 0
  indata := blobMem ([9, 0, 0, 0, 0, 0, 0, 32] ++
    (htonl 0x10000 ++ htonl 1 ++ List.replicate 8 0) ++ (htonl 0x10000 ++ htonl 1 ++ List.replicate 8 0) ++
    List.replicate 216 0 ++ [1, 0, 0, 0] ++ htonl (UInt32.ofNat entries.length) ++ entries)
  inlen := 264 + UInt64.ofNat entries.length
  hasOutdata := true

/-- With nothing to get, there is room for the one entry. -/
theorem execGetattr_replied_noList : ∃ r s t,
    execGenCas Env.calm (tagCommand [] 32) taggedObject = some (.ok r, s) ∧ r.orig = some [7] ∧
      execGetattr Env.calm (tagCommand [] 32) r s = some ((.ok, 32), t) ∧
      CasReplied Env.calm (tagCommand [] 32) r s 32 t := by
  have hrun : (execGenCas Env.calm (tagCommand [] 32) taggedObject).bind (fun a => match a.1 with
      | .ok r => (execGetattr Env.calm (tagCommand [] 32) r a.2).map fun b => (r.orig, b.1)
      | .error _ => none) = some (some [7], .ok, 32) := by decide +kernel
  obtain ⟨⟨ret, s⟩, hcas, hrun⟩ := Option.bind_eq_some_iff.1 hrun
  cases ret with
  | error ret => nomatch hrun
  | ok r =>
    obtain ⟨⟨a, t⟩, hget, ha⟩ := Option.map_eq_some_iff.1 hrun
    obtain ⟨horig, rfl⟩ := Prod.mk.inj ha
    exact ⟨r, s, t, hcas, horig, hget,
      (execGetattr_replied_iff rfl (by rw [horig]; decide) hget).2 (by decide +kernel)⟩

/-- With the partition id and the logical length to get, the 80 bytes of the reply are counted as 136. -/
theorem execGetattr_counts_twice : ∃ r s t,
    execGenCas Env.calm (tagCommand [0, 0, 0, 1, 0, 0, 0, 1, 0, 0, 0, 1, 0, 0, 0, 0x82] 200) taggedObject
      = some (.ok r, s) ∧ r.orig = some [7] ∧
    execGetattr Env.calm (tagCommand [0, 0, 0, 1, 0, 0, 0, 1, 0, 0, 0, 1, 0, 0, 0, 0x82] 200) r s
      = some ((.ok, 136), t) ∧ getNtohl t.reply 4 = 72 ∧
    ¬ CasReplied Env.calm (tagCommand [0, 0, 0, 1, 0, 0, 0, 1, 0, 0, 0, 1, 0, 0, 0, 0x82] 200) r s 136 t := by
  generalize hcmd : tagCommand [0, 0, 0, 1, 0, 0, 0, 1, 0, 0, 0, 1, 0, 0, 0, 0x82] 200 = cmd
  have hrun : (execGenCas Env.calm cmd taggedObject).bind (fun a => match a.1 with
      | .ok r => (execGetattr Env.calm cmd r a.2).map fun b => (r.orig, b.1, getNtohl b.2.reply 4)
      | .error _ => none) = some (some [7], (.ok, 136), 72) := by
    subst hcmd
    decide +kernel
  obtain ⟨⟨ret, s⟩, hcas, hrun⟩ := Option.bind_eq_some_iff.1 hrun
  cases ret with
  | error ret => nomatch hrun
  | ok r =>
    obtain ⟨⟨a, t⟩, hget, ha⟩ := Option.map_eq_some_iff.1 hrun
    obtain ⟨horig, ha⟩ := Prod.mk.inj ha
    obtain ⟨rfl, hheader⟩ := Prod.mk.inj ha
    refine ⟨r, s, t, hcas, horig, hget, hheader, fun h => ?_⟩
    have hlength := h.reply.length
    have hused := h.reply.used
    rw [← hlength] at hused
    have hstart : cmd.outbuf + 4 = 4 := by
      subst hcmd
      rfl
    rw [hstart, show getNtohl t.reply 4 = 72 from hheader] at hused
    exact absurd hused (by decide)

end OsdTarget
