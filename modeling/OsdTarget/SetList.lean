import OsdTarget.AttributeList

/-!
# Set lists

`set_attr_list` and `parse_setattr_list` walk a set list from entry to entry and stop when the
remaining length is 0.  A list that its entries tile brings the walk to 0 after its last entry.  Any
other list takes the walk past its end, where the remaining length wraps around; no test rejects it.
-/

namespace OsdTarget

open Base

/-! ## What is asked of the two functions -/

/-- `setattr_list_len` and `list_off`. -/
def setattrListLen (cmd : Command) : UInt32 := getNtohl cmd.cdb 68
def setattrListOff (cmd : Command) : Nat := (getNtohoffset cmd.cdb 72).toUInt32.toNat

/-- The bytes of the list behind its header. -/
def setListBytes (cmd : Command) : List UInt8 :=
  cmd.indata.read (setattrListOff cmd + 8) ((setattrListLen cmd).toNat - 8)

variable (env : Env)

/-- Setting the attributes of a list one after the other, each on all objects, until one is refused. -/
def setEntries (indata : Mem) (pid oid : UInt64) (isembedded : Bool) (numoid : UInt16) :
    List ListEntry → OsdM Ret
  | [] => return .ok
  | e :: le => do
    let ret ← setOnObjects env pid e.page e.number (some (indata.shift e.cval)) e.len isembedded
      (createCount oid numoid) oid
    if ret ≠ .ok then
      return ret
    setEntries indata pid oid isembedded numoid le

/-- The walk of the list comes to a state of the loop. -/
def Walks (cmd : Command) (st : Nat × UInt32 × List ListEntry) : Prop :=
  ∃ off len, setListCheck cmd = .use off len ∧
    Leads (parseRound cmd.indata) (off + 8, UInt32.ofNat len - 8, []) st

/-- Set lists are accepted exactly when they are well formed. -/
structure AcceptsWellFormed (cmd : Command) (pid oid : UInt64) (isembedded : Bool) (numoid : UInt16) :
    Prop where
  /-- Both functions visit the entries of a well-formed list, in order. -/
  visits : ∀ es, Tiles (setListBytes cmd) es → ∃ le fuel,
    le.map (ListEntry.setEntry cmd.indata) = es ∧
      parseSetattrList cmd pid oid fuel = some (.ok, le) ∧
      setAttrList env cmd pid oid isembedded numoid fuel = (setListCheck cmd).run pid oid fun _ _ =>
        withinTxn env (setEntries env cmd.indata pid oid isembedded numoid le)
  /-- Both reject any other list. -/
  rejects : (∀ es, ¬ Tiles (setListBytes cmd) es) → ∃ fuel,
    (∃ le, parseSetattrList cmd pid oid fuel = some (paramListLengthErr pid oid, le)) ∧
      setAttrList env cmd pid oid isembedded numoid fuel = return paramListLengthErr pid oid
  /-- No entry is read past the end of the list, or filled past the end of the allocation. -/
  inside : ∀ listHdr listLen le, Walks cmd (listHdr, listLen, le) → listLen ≠ 0 →
    listHdr + (listEntryAt cmd.indata listHdr).size ≤ setattrListOff cmd + (setattrListLen cmd).toNat ∧
      le.length < setattrAlloc (setattrListLen cmd).toNat

/-! ## The argument check -/

section

variable {env} {cmd : Command} {pid oid : UInt64} {isembedded : Bool} {numoid : UInt16}

theorem setListCheck_nothing (h : setattrListLen cmd = 0) : setListCheck cmd = .nothing := by
  unfold setListCheck
  exact if_pos h

/-- Past the header, the check is about the length only. -/
theorem setListCheck_aligned (h8 : 8 ≤ (setattrListLen cmd).toNat)
    (htype : cmd.indata (setattrListOff cmd) &&& 0xF = RTRVD_SET_ATTR_LIST) :
    setListCheck cmd = if ((setattrListLen cmd).toNat - 8) % 8 = 0
      then .use (setattrListOff cmd) (setattrListLen cmd).toNat
      else .reject OSD_ASC_PARAMETER_LIST_LENGTH_ERROR := by
  have h0 : setattrListLen cmd ≠ 0 := by
    intro h
    rw [h] at h8
    exact absurd h8 (by decide)
  have hsmall : ¬ setattrListLen cmd < LIST_HDR_LEN := by
    intro h
    exact absurd (UInt32.lt_iff_toNat_lt.1 h) (Nat.not_lt.2 h8)
  have hmod : (setattrListLen cmd - 8) &&& 7 = 0 ↔ ((setattrListLen cmd).toNat - 8) % 8 = 0 := by
    have hsub : (setattrListLen cmd - 8).toNat = (setattrListLen cmd).toNat - 8 :=
      UInt32.toNat_sub_of_le _ _ (UInt32.le_iff_toNat_le.2 h8)
    rw [← UInt32.toNat_inj, UInt32.toNat_and, hsub]
    exact Nat.and_two_pow_sub_one_eq_mod _ 3 ▸ Iff.rfl
  show (if setattrListLen cmd = 0 then _ else if setattrListLen cmd < LIST_HDR_LEN then _
    else if cmd.indata (setattrListOff cmd) &&& 0xF ≠ RTRVD_SET_ATTR_LIST then _
    else if (setattrListLen cmd - 8) &&& 7 ≠ 0 then _ else _) = _
  rw [if_neg h0, if_neg hsmall, if_neg (not_not_intro htype)]
  by_cases h : ((setattrListLen cmd).toNat - 8) % 8 = 0
  · rw [if_neg (not_not_intro (hmod.2 h)), if_pos h]
    rfl
  · rw [if_pos fun hz => h (hmod.1 hz), if_neg h]

/-- Once the check is passed, nothing is rejected as too long or too short. -/
theorem parseSetattrList_not_rejected {off len fuel : Nat} {le : List ListEntry}
    (h : setListCheck cmd = .use off len) :
    parseSetattrList cmd pid oid fuel ≠ some (paramListLengthErr pid oid, le) := by
  unfold parseSetattrList
  rw [h]
  dsimp only
  split
  · intro heq
    cases heq
  · intro heq
    obtain ⟨out, -, hout⟩ := Option.map_eq_some_iff.1 heq
    cases hout

/-! ## Well-formed lists -/

/-- `set_attr_list` sets the entries that are laid out, one after the other. -/
theorem setAttrListLoop_laid {indata : Mem} {pos stop : Nat} {le : List ListEntry}
    (h : Laid indata pos le stop) (hlt : stop - pos < 2 ^ 32) {fuel : Nat} (hf : le.length ≤ fuel) :
    setAttrListLoop env indata pid oid isembedded numoid fuel pos (UInt32.ofNat (stop - pos))
      = setEntries env indata pid oid isembedded numoid le := by
  induction le generalizing pos fuel with
  | nil =>
    obtain rfl : pos = stop := h
    rw [Nat.sub_self]
    cases fuel <;> rfl
  | cons e le ih =>
    obtain ⟨he, hrest⟩ := h
    have hle := hrest.fits
    have hsize := e.size_spec.1
    obtain ⟨fuel, rfl⟩ : ∃ k, fuel = k + 1 := ⟨fuel - 1, by simp at hf; omega⟩
    have hloop := ih hrest (by omega) (Nat.le_of_succ_le_succ hf)
    rw [setAttrListLoop, if_neg (left_ne_zero (by omega) hlt)]
    dsimp only
    rw [← he, left_sub hrest, hloop]
    rfl

/-- While a list that is laid out is walked, what is left of it is laid out from there on. -/
theorem walk_laid {indata : Mem} {pos stop : Nat} {le : List ListEntry} (h : Laid indata pos le stop)
    (hlt : stop - pos < 2 ^ 32) {st : Nat × UInt32 × List ListEntry}
    (hst : Leads (parseRound indata) (pos, UInt32.ofNat (stop - pos), []) st) :
    ∃ rest, Laid indata st.1 rest stop ∧ st.2.1 = UInt32.ofNat (stop - st.1) ∧ pos ≤ st.1 ∧
      st.2.2.length + rest.length = le.length := by
  refine hst.invariant (I := fun st => ∃ rest, Laid indata st.1 rest stop ∧
    st.2.1 = UInt32.ofNat (stop - st.1) ∧ pos ≤ st.1 ∧ st.2.2.length + rest.length = le.length)
    ?_ ⟨le, h, rfl, Nat.le_refl _, Nat.zero_add _⟩
  rintro ⟨hdr, left, acc⟩ t ⟨rest, hrest, hleft, hpos, hlen⟩ hstep
  cases rest with
  | nil =>
    obtain rfl : hdr = stop := hrest
    have hleft : left = UInt32.ofNat (hdr - hdr) := hleft
    rw [Nat.sub_self] at hleft
    obtain rfl : left = 0 := hleft
    cases hstep
  | cons e rest =>
    obtain ⟨he, hrest⟩ := hrest
    have hle := hrest.fits
    have hsize := e.size_spec.1
    obtain rfl : left = UInt32.ofNat (stop - hdr) := hleft
    have hgo : parseRound indata (hdr, UInt32.ofNat (stop - hdr), acc)
        = .next (hdr + e.size, UInt32.ofNat (stop - (hdr + e.size)), acc ++ [e]) := by
      show (if UInt32.ofNat (stop - hdr) = 0 then _ else _) = _
      have hpos : pos ≤ hdr := hpos
      rw [if_neg (left_ne_zero (by omega) (by omega)), ← left_sub hrest, he]
    rw [hgo] at hstep
    cases hstep
    refine ⟨rest, hrest, rfl, Nat.le_trans hpos (Nat.le_add_right _ _), ?_⟩
    have hlen : acc.length + (rest.length + 1) = le.length := hlen
    show (acc ++ [e]).length + rest.length = le.length
    rw [List.length_append, List.length_singleton]
    omega

/-- `list_len` as what lies between the header and the end. -/
theorem setListLeft (h8 : 8 ≤ (setattrListLen cmd).toNat) : UInt32.ofNat (setattrListLen cmd).toNat - 8
    = UInt32.ofNat (setattrListOff cmd + (setattrListLen cmd).toNat - (setattrListOff cmd + 8)) := by
  rw [show (8 : UInt32) = UInt32.ofNat 8 from rfl, ← UInt32.ofNat_sub h8, Nat.add_sub_add_left]

/-- A well-formed list, as the walk behind its header sees it. -/
theorem laid_setList (h8 : 8 ≤ (setattrListLen cmd).toNat) {es : List SetEntry}
    (hes : Tiles (setListBytes cmd) es) : ∃ le, Laid cmd.indata (setattrListOff cmd + 8) le
      (setattrListOff cmd + (setattrListLen cmd).toNat) ∧ le.map (ListEntry.setEntry cmd.indata) = es := by
  have hlen : (setListBytes cmd).length = (setattrListLen cmd).toNat - 8 := Mem.read_length _ _ _
  obtain ⟨le, hle, hmap⟩ := laid_of_tiles hes (by rw [hlen]; rfl)
  have hstop : setattrListOff cmd + 8 + (setListBytes cmd).length
      = setattrListOff cmd + (setattrListLen cmd).toNat := by omega
  rw [hstop] at hle
  exact ⟨le, hle, hmap⟩

section

variable {le : List ListEntry}
  (hcheck : setListCheck cmd = .use (setattrListOff cmd) (setattrListLen cmd).toNat)
  (h8 : 8 ≤ (setattrListLen cmd).toNat)
  (hle : Laid cmd.indata (setattrListOff cmd + 8) le (setattrListOff cmd + (setattrListLen cmd).toNat))

include hcheck h8 hle

theorem parseSetattrList_laid : parseSetattrList cmd pid oid le.length = some (.ok, le) := by
  have hfits := hle.fits
  have hlt := (setattrListLen cmd).toNat_lt
  have halloc : ¬ (0 < (setattrListLen cmd).toNat - 8 ∧ setattrAlloc (setattrListLen cmd).toNat = 0) := by
    rintro ⟨hpos, hzero⟩
    -- something is left for the entries, so there is one
    cases le with
    | nil =>
      have hend : setattrListOff cmd + 8 = setattrListOff cmd + (setattrListLen cmd).toNat := hle
      omega
    | cons e le =>
      rw [List.length_cons] at hfits
      unfold setattrAlloc at hzero
      omega
  unfold parseSetattrList
  rw [hcheck]
  dsimp only
  rw [if_neg halloc, setListLeft h8, parse_laid hle (by omega) (Nat.le_refl _) []]
  rfl

theorem setAttrList_laid : setAttrList env cmd pid oid isembedded numoid le.length
    = (setListCheck cmd).run pid oid fun _ _ =>
        withinTxn env (setEntries env cmd.indata pid oid isembedded numoid le) := by
  have hlt := (setattrListLen cmd).toNat_lt
  unfold setAttrList
  rw [hcheck]
  show withinTxn env _ = withinTxn env _
  rw [setListLeft h8, setAttrListLoop_laid hle (by omega) (Nat.le_refl _)]

/-- The walk stays inside the list and the allocation. -/
theorem walks_inside {listHdr : Nat} {listLen : UInt32} {acc : List ListEntry}
    (hwalk : Walks cmd (listHdr, listLen, acc)) (hne : listLen ≠ 0) :
    listHdr + (listEntryAt cmd.indata listHdr).size ≤ setattrListOff cmd + (setattrListLen cmd).toNat ∧
      acc.length < setattrAlloc (setattrListLen cmd).toNat := by
  obtain ⟨off, len, hoff, hleads⟩ := hwalk
  rw [hcheck] at hoff
  cases hoff
  have hlt := (setattrListLen cmd).toNat_lt
  rw [setListLeft h8] at hleads
  obtain ⟨rest, hrest, hval, hpos, hcount⟩ := walk_laid hle (by omega) hleads
  have hfits := hle.fits
  cases rest with
  | nil =>
    obtain rfl : listHdr = _ := hrest
    have hval : listLen = UInt32.ofNat (_ - _) := hval
    rw [Nat.sub_self] at hval
    exact absurd hval hne
  | cons e rest =>
    obtain ⟨he, hrest⟩ := hrest
    have hend : listHdr + e.size + 16 * rest.length ≤ _ := hrest.fits
    have hcount : acc.length + (rest.length + 1) = le.length := hcount
    refine ⟨?_, ?_⟩
    · rw [← he]
      omega
    · unfold setattrAlloc
      omega

/-- The walk comes to the end of the list. -/
theorem walks_end : Walks cmd (setattrListOff cmd + (setattrListLen cmd).toNat, 0, le) := by
  have hlt := (setattrListLen cmd).toNat_lt
  refine ⟨_, _, hcheck, ?_⟩
  rw [setListLeft h8]
  obtain ⟨⟨hdr, left, acc⟩, hleads, hend⟩ := rounds_some (parse_laid hle (by omega) (Nat.le_refl _) [])
  obtain ⟨rest, hrest, hval, hpos, -⟩ := walk_laid hle (by omega) hleads
  have hval : left = UInt32.ofNat (setattrListOff cmd + (setattrListLen cmd).toNat - hdr) := hval
  have hpos : setattrListOff cmd + 8 ≤ hdr := hpos
  have hstop : hdr + 16 * rest.length ≤ setattrListOff cmd + (setattrListLen cmd).toNat := hrest.fits
  by_cases hzero : left = 0
  · have hexit : parseRound cmd.indata (hdr, left, acc) = .exit acc := if_pos hzero
    obtain rfl : acc = le := by
      rw [hexit] at hend
      rcases hend with hend | hend <;> cases hend
      rfl
    have hdr_eq : hdr = setattrListOff cmd + (setattrListLen cmd).toNat := by
      by_contra hne
      exact left_ne_zero (by omega) (by omega) (hval.symm.trans hzero)
    rw [hdr_eq, hzero] at hleads
    exact hleads
  · have hgo : ∃ t, parseRound cmd.indata (hdr, left, acc) = .next t := ⟨_, if_neg hzero⟩
    obtain ⟨t, hgo⟩ := hgo
    rw [hgo] at hend
    rcases hend with hend | hend <;> cases hend

end

theorem accepts_of_tiles (hcheck : setListCheck cmd = .use (setattrListOff cmd) (setattrListLen cmd).toNat)
    (h8 : 8 ≤ (setattrListLen cmd).toNat) {es : List SetEntry} (h : Tiles (setListBytes cmd) es) :
    AcceptsWellFormed env cmd pid oid isembedded numoid := by
  refine ⟨fun es hes => ?_, fun hno => absurd h (hno es), fun listHdr listLen acc hwalk hne => ?_⟩
  · obtain ⟨le, hle, hmap⟩ := laid_setList h8 hes
    exact ⟨le, le.length, hmap, parseSetattrList_laid hcheck h8 hle, setAttrList_laid hcheck h8 hle⟩
  · obtain ⟨le, hle, -⟩ := laid_setList h8 h
    exact walks_inside hcheck h8 hle hwalk hne

end

/-! ## When lists are accepted exactly if well formed -/

/-- **Set lists.**  A list is dealt with rightly exactly when it is empty, or its length is not a
multiple of 8, or it is well formed. -/
theorem setList_accepts_iff (cmd : Command) (pid oid : UInt64) (isembedded : Bool) (numoid : UInt16)
    (hlen : setattrListLen cmd = 0 ∨ 8 ≤ (setattrListLen cmd).toNat)
    (htype : cmd.indata (setattrListOff cmd) &&& 0xF = RTRVD_SET_ATTR_LIST) :
    AcceptsWellFormed env cmd pid oid isembedded numoid ↔
      setattrListLen cmd = 0 ∨ ((setattrListLen cmd).toNat - 8) % 8 ≠ 0 ∨
        ∃ es, Tiles (setListBytes cmd) es := by
  constructor
  · intro h
    by_cases h0 : setattrListLen cmd = 0
    · exact .inl h0
    · have h8 := hlen.resolve_left h0
      by_cases hmod : ((setattrListLen cmd).toNat - 8) % 8 = 0
      · right; right
        by_contra hno
        obtain ⟨fuel, ⟨le, hparse⟩, -⟩ := h.rejects fun es hes => hno ⟨es, hes⟩
        have hcheck := setListCheck_aligned h8 htype
        rw [if_pos hmod] at hcheck
        exact parseSetattrList_not_rejected hcheck hparse
      · exact .inr (.inl hmod)
  · intro h
    by_cases h0 : setattrListLen cmd = 0
    · have hcheck := setListCheck_nothing h0
      have hbytes : setListBytes cmd = [] := by
        unfold setListBytes
        rw [h0]
        rfl
      refine ⟨fun es hes => ?_, fun hno => absurd (tiles_nil.2 rfl) (hbytes ▸ hno []), ?_⟩
      · rw [hbytes, tiles_nil] at hes
        refine ⟨[], 0, hes.symm, ?_, ?_⟩
        · unfold parseSetattrList
          rw [hcheck]
        · unfold setAttrList
          rw [hcheck]
          rfl
      · rintro _ _ _ ⟨off, len, hoff, -⟩
        rw [hcheck] at hoff
        cases hoff
    · have h8 := hlen.resolve_left h0
      have hcheck := setListCheck_aligned h8 htype
      by_cases hmod : ((setattrListLen cmd).toNat - 8) % 8 = 0
      · rw [if_pos hmod] at hcheck
        obtain ⟨es, hes⟩ := (h.resolve_left h0).resolve_left (not_not_intro hmod)
        exact accepts_of_tiles hcheck h8 hes
      · rw [if_neg hmod] at hcheck
        refine ⟨fun es hes => ?_, fun _ => ⟨0, ⟨[], ?_⟩, ?_⟩, ?_⟩
        · have hl := hes.length_mod
          rw [setListBytes, Mem.read_length] at hl
          exact absurd hl hmod
        · unfold parseSetattrList
          rw [hcheck]
          rfl
        · unfold setAttrList
          rw [hcheck]
          rfl
        · rintro _ _ _ ⟨off, len, hoff, -⟩
          rw [hcheck] at hoff
          cases hoff

/-- A command with this set list, at the start of its data-in. -/
def setListCommand (list : List UInt8) : Command where
  cdb := blobMem (List.replicate 68 0 ++ htonl (UInt32.ofNat list.length))
  getsetCdbfmt := GETLIST_SETLIST
  retrievedAttrOff := 0
  indata := blobMem list
  inlen := UInt64.ofNat list.length
  hasOutdata := true

/-- A list of one attribute, whose value of one byte is padded to 8. -/
theorem setList_accepts_iff_single :
    AcceptsWellFormed Env.calm (setListCommand ([9, 0, 0, 0, 0, 0, 0, 24] ++ [0, 0x01, 0, 0] ++
      [0, 0, 0, 7] ++ List.replicate 6 0 ++ [0, 1] ++ [0x2A] ++ List.replicate 7 0))
      0x10000 0x10000 false 1 := by
  refine (setList_accepts_iff _ _ _ _ _ _ (.inr (by decide +kernel)) (by decide +kernel)).2
    (.inr (.inr ⟨[⟨0x10000, 7, [0x2A]⟩], ⟨[_], (List.append_nil _).symm, .cons ?_ .nil⟩⟩))
  exact ⟨List.replicate 6 0, List.replicate 7 0, by decide +kernel⟩

/-! ## A list that runs over -/

/-- A list of 24 bytes whose only entry claims a value of one byte, and so has 24 bytes itself. -/
def overrunCommand : Command :=
  setListCommand ([9] ++ List.replicate 21 0 ++ [0, 1])

/-- It is not well formed, and neither function rejects it. -/
theorem setList_overrun : setattrListLen overrunCommand = 24 ∧
    overrunCommand.indata (setattrListOff overrunCommand) &&& 0xF = RTRVD_SET_ATTR_LIST ∧
    ¬ AcceptsWellFormed Env.calm overrunCommand 0x10000 0x10000 false 1 := by
  have hlen : setattrListLen overrunCommand = 24 := by decide +kernel
  have hoff : setattrListOff overrunCommand = 0 := by decide +kernel
  refine ⟨hlen, by decide +kernel, ?_⟩
  have hcheck : setListCheck overrunCommand = .use 0 24 := by decide +kernel
  intro h
  have hno : ∀ es, ¬ Tiles (setListBytes overrunCommand) es := by
    intro es hes
    have hbytes : (setListBytes overrunCommand).length = 16 := by
      rw [setListBytes, Mem.read_length, hlen]
      rfl
    obtain ⟨le, hle, -⟩ := laid_of_tiles hes (by rw [hbytes, setListBytes, hoff, hlen]; rfl)
    rw [hbytes] at hle
    cases le with
    | nil =>
      have hend : 0 + 8 = 0 + 8 + 16 := hle
      omega
    | cons e le =>
      obtain ⟨he, hrest⟩ := hle
      have hend := hrest.fits
      have hsize : e.size = 24 := by
        rw [he]
        decide +kernel
      omega
  obtain ⟨fuel, ⟨le, hparse⟩, -⟩ := h.rejects hno
  exact parseSetattrList_not_rejected hcheck hparse

end OsdTarget
