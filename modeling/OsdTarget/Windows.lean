import OsdTarget.SetList

/-!
# Attribute parameters and the length of data-in

Four functions take an attribute parameter at a position the CDB gives.  The two that set do not look
at the length of data-in at all.  The two that get compare the length of the list with what data-in
holds from its offset on, cut to 32 bits, and reject the list that is too short, not the one that is
too long.
-/

namespace OsdTarget

open Base

/-! ## What is asked of the checks -/

/-- A parameter that is used lies inside the `inlen` bytes of data-in. -/
def ParamCheck.Inside (c : ParamCheck) (inlen : UInt64) : Prop :=
  ∀ off len, c = .use off len → off + len ≤ inlen.toNat

/-- The parameters of all four functions lie inside data-in when they are used, and one that is
rejected is rejected before anything happens. -/
structure WindowsInside (env : Env) (cmd : Command) : Prop where
  setAttrValue : (setAttrValueCheck cmd).Inside cmd.inlen
  setAttrList : (setListCheck cmd).Inside cmd.inlen
  getAttrList : (getAttrListCheck cmd).Inside cmd.inlen
  parseGetattrList : (getListCheck cmd).Inside cmd.inlen
  rejects : ∀ (pid oid : UInt64) (isembedded : Bool) (numoid : UInt16) (asc : UInt16) (s : Target),
    (setListCheck cmd = .reject asc → ∀ fuel, OsdTarget.setAttrList env cmd pid oid isembedded numoid
      fuel s = some (senseBuildSdd OSD_SSK_ILLEGAL_REQUEST asc pid oid, s)) ∧
    (getAttrListCheck cmd = .reject asc → ∀ used, OsdTarget.getAttrList env cmd pid oid isembedded numoid
      used s = some ((senseBuildSdd OSD_SSK_ILLEGAL_REQUEST asc pid oid, used), s))

section

variable {env : Env} {cmd : Command} {pid oid : UInt64} {isembedded : Bool} {numoid asc : UInt16}

theorem setAttrList_reject (h : setListCheck cmd = .reject asc) (fuel : Nat) (s : Target) :
    setAttrList env cmd pid oid isembedded numoid fuel s
      = some (senseBuildSdd OSD_SSK_ILLEGAL_REQUEST asc pid oid, s) := by
  unfold setAttrList
  rw [h]
  rfl

theorem getAttrList_reject (h : getAttrListCheck cmd = .reject asc) (used : UInt32) (s : Target) :
    getAttrList env cmd pid oid isembedded numoid used s
      = some ((senseBuildSdd OSD_SSK_ILLEGAL_REQUEST asc pid oid, used), s) := by
  unfold getAttrList
  rw [h]
  rfl

/-! ## Setting -/

theorem setAttrValue_inside : (setAttrValueCheck cmd).Inside cmd.inlen ↔
    getNtohl cmd.cdb 64 = 0 ∨
      (getNtohoffset cmd.cdb 76).toNat + (getNtohl cmd.cdb 72).toNat ≤ cmd.inlen.toNat := by
  unfold setAttrValueCheck ParamCheck.Inside
  by_cases h : getNtohl cmd.cdb 64 = 0
  · rw [if_pos h]
    exact ⟨fun _ => .inl h, fun _ _ _ hc => nomatch hc⟩
  · rw [if_neg h]
    constructor
    · exact fun hin => .inr (hin _ _ rfl)
    · rintro hin off len hc
      cases hc
      exact hin.resolve_left h

/-- The tests a set list passes without regard to the length of data-in. -/
structure SetListTaken (cmd : Command) : Prop where
  size : 8 ≤ (setattrListLen cmd).toNat
  type : cmd.indata (setattrListOff cmd) &&& 0xF = RTRVD_SET_ATTR_LIST
  aligned : (setattrListLen cmd).toNat % 8 = 0

theorem setListCheck_use {off len : Nat} : setListCheck cmd = .use off len ↔
    SetListTaken cmd ∧ off = setattrListOff cmd ∧ len = (setattrListLen cmd).toNat := by
  constructor
  · intro h
    have h8 : 8 ≤ (setattrListLen cmd).toNat := by
      by_contra hsmall
      have hs : getNtohl cmd.cdb 68 < LIST_HDR_LEN := UInt32.lt_iff_toNat_lt.2 (Nat.not_le.1 hsmall)
      unfold setListCheck at h
      dsimp only at h
      rw [if_pos hs] at h
      split_ifs at h
    have htype : cmd.indata (setattrListOff cmd) &&& 0xF = RTRVD_SET_ATTR_LIST := by
      by_contra ht
      unfold setListCheck at h
      dsimp only at h
      rw [if_pos (show cmd.indata (getNtohoffset cmd.cdb 72).toUInt32.toNat &&& 0xF
        ≠ RTRVD_SET_ATTR_LIST from ht)] at h
      split_ifs at h
    rw [setListCheck_aligned h8 htype] at h
    split_ifs at h with hmod
    cases h
    exact ⟨⟨h8, htype, by omega⟩, rfl, rfl⟩
  · rintro ⟨⟨h8, htype, hmod⟩, rfl, rfl⟩
    rw [setListCheck_aligned h8 htype, if_pos (by omega)]

theorem setAttrList_inside : (setListCheck cmd).Inside cmd.inlen ↔
    (SetListTaken cmd → setattrListOff cmd + (setattrListLen cmd).toNat ≤ cmd.inlen.toNat) := by
  constructor
  · exact fun hin htaken => hin _ _ (setListCheck_use.2 ⟨htaken, rfl, rfl⟩)
  · intro hin off len hc
    obtain ⟨htaken, rfl, rfl⟩ := setListCheck_use.1 hc
    exact hin htaken

/-! ## Getting -/

/-- `getattr_list_len`, `list_off` and `list_in_len`. -/
def getattrListLen (cmd : Command) : UInt32 := getNtohl cmd.cdb 52
def getattrListOff (cmd : Command) : UInt64 := getNtohoffset cmd.cdb 56
def listInLen (cmd : Command) : UInt32 := (cmd.inlen - getattrListOff cmd).toUInt32

/-- Only an empty list is not looked at. -/
theorem getListCheck_nothing (h : getListCheck cmd = .nothing) : getattrListLen cmd = 0 := by
  unfold getListCheck at h
  dsimp only at h
  split_ifs at h with h0
  exact h0

/-- The tests a get list passes. -/
structure GetListTaken (cmd : Command) : Prop where
  size : 8 ≤ (getattrListLen cmd).toNat
  header : 8 ≤ (listInLen cmd).toNat
  offAligned : getattrListOff cmd &&& 7 = 0
  allocAligned : getNtohl cmd.cdb 60 &&& 7 = 0
  type : cmd.indata (getattrListOff cmd).toNat &&& 0xF = RTRV_ATTR_LIST
  aligned : (getattrListLen cmd - 8) &&& 7 = 0
  notShort : (listInLen cmd).toNat ≤ (getattrListLen cmd).toNat

theorem getListCheck_use {off len : Nat} : getListCheck cmd = .use off len ↔
    GetListTaken cmd ∧ off = (getattrListOff cmd).toNat ∧ len = (getattrListLen cmd).toNat := by
  have hlit : LIST_HDR_LEN.toNat = 8 := rfl
  have hsum : getattrListLen cmd - 8 + 8 = getattrListLen cmd := UInt32.sub_add_cancel _ _
  have hdef : getListCheck cmd = (if getattrListLen cmd = 0 then .nothing
      else if getattrListLen cmd < LIST_HDR_LEN then .reject OSD_ASC_PARAMETER_LIST_LENGTH_ERROR
      else if listInLen cmd < 8 then .reject OSD_ASC_PARAMETER_LIST_LENGTH_ERROR
      else if getattrListOff cmd &&& 7 ≠ 0 ∨ getNtohl cmd.cdb 60 &&& 7 ≠ 0 then
        .reject OSD_ASC_PARAMETER_LIST_LENGTH_ERROR
      else if cmd.indata (getattrListOff cmd).toNat &&& 0xF ≠ RTRV_ATTR_LIST then
        .reject OSD_ASC_INVALID_FIELD_IN_PARAM_LIST
      else if (getattrListLen cmd - 8) &&& 7 ≠ 0 then .reject OSD_ASC_PARAMETER_LIST_LENGTH_ERROR
      else if getattrListLen cmd - 8 + 8 < listInLen cmd then .reject OSD_ASC_PARAMETER_LIST_LENGTH_ERROR
      else .use (getattrListOff cmd).toNat (getattrListLen cmd).toNat) := rfl
  rw [hdef, hsum]
  constructor
  · intro h
    split_ifs at h with h0 hsize hheader halign htype hmod hshort
    cases h
    rw [UInt32.lt_iff_toNat_lt, hlit] at hsize
    rw [UInt32.lt_iff_toNat_lt] at hheader hshort
    have halign := not_or.1 halign
    exact ⟨⟨Nat.not_lt.1 hsize, Nat.not_lt.1 hheader, not_not.1 halign.1, not_not.1 halign.2,
      not_not.1 htype, not_not.1 hmod, Nat.not_lt.1 hshort⟩, rfl, rfl⟩
  · rintro ⟨⟨hsize, hheader, hoff, halloc, htype, hmod, hshort⟩, rfl, rfl⟩
    have h0 : getattrListLen cmd ≠ 0 := by
      intro h
      rw [h] at hsize
      exact absurd hsize (by decide)
    have hsize : ¬ getattrListLen cmd < LIST_HDR_LEN := by
      rw [UInt32.lt_iff_toNat_lt, hlit]
      omega
    have hheader : ¬ listInLen cmd < 8 := by
      rw [UInt32.lt_iff_toNat_lt]
      exact Nat.not_lt.2 hheader
    have hshort : ¬ getattrListLen cmd < listInLen cmd := by
      rw [UInt32.lt_iff_toNat_lt]
      exact Nat.not_lt.2 hshort
    rw [if_neg h0, if_neg hsize, if_neg hheader,
      if_neg (not_or.2 ⟨not_not_intro hoff, not_not_intro halloc⟩), if_neg (not_not_intro htype),
      if_neg (not_not_intro hmod), if_neg hshort]

/-- A get list that is used lies inside exactly if it ends with data-in, and does not if so much
follows its offset that the count of it is cut. -/
theorem getListTaken_inside (h : GetListTaken cmd) :
    (getattrListOff cmd).toNat + (getattrListLen cmd).toNat ≤ cmd.inlen.toNat ↔
      (getattrListOff cmd).toNat ≤ cmd.inlen.toNat ∧
        (2 ^ 32 ≤ cmd.inlen.toNat - (getattrListOff cmd).toNat ∨
          (listInLen cmd).toNat = (getattrListLen cmd).toNat) := by
  have hlen := (getattrListLen cmd).toNat_lt
  have hshort := h.notShort
  have hin : (getattrListOff cmd).toNat ≤ cmd.inlen.toNat →
      (listInLen cmd).toNat = (cmd.inlen.toNat - (getattrListOff cmd).toNat) % 2 ^ 32 := by
    intro hle
    unfold listInLen
    rw [UInt64.toNat_toUInt32, UInt64.toNat_sub_of_le _ _ (UInt64.le_iff_toNat_le.2 hle)]
  constructor
  · intro hfit
    have hval := hin (by omega)
    refine ⟨by omega, ?_⟩
    omega
  · rintro ⟨hle, hcase⟩
    have hval := hin hle
    omega

/-- What a get list that is used must meet to lie inside. -/
def GetListFits (cmd : Command) : Prop :=
  GetListTaken cmd → (getattrListOff cmd).toNat ≤ cmd.inlen.toNat ∧
    (2 ^ 32 ≤ cmd.inlen.toNat - (getattrListOff cmd).toNat ∨
      (listInLen cmd).toNat = (getattrListLen cmd).toNat)

theorem parseGetattrList_inside : (getListCheck cmd).Inside cmd.inlen ↔ GetListFits cmd := by
  constructor
  · exact fun hin h => (getListTaken_inside h).1 (hin _ _ (getListCheck_use.2 ⟨h, rfl, rfl⟩))
  · intro hfit off len hc
    obtain ⟨h, rfl, rfl⟩ := getListCheck_use.1 hc
    exact (getListTaken_inside h).2 (hfit h)

end

/-! ## When the parameters lie inside -/

/-- **Parameter windows.**  All four functions keep inside data-in exactly when the value to set and
the set list fit by themselves and the get list reaches up to the end of data-in. -/
theorem windowsInside_iff (env : Env) (cmd : Command) : WindowsInside env cmd ↔
    (getNtohl cmd.cdb 64 = 0 ∨
      (getNtohoffset cmd.cdb 76).toNat + (getNtohl cmd.cdb 72).toNat ≤ cmd.inlen.toNat) ∧
    (SetListTaken cmd → setattrListOff cmd + (setattrListLen cmd).toNat ≤ cmd.inlen.toNat) ∧
    GetListFits cmd := by
  constructor
  · rintro ⟨hvalue, hset, -, hget, -⟩
    exact ⟨setAttrValue_inside.1 hvalue, setAttrList_inside.1 hset, parseGetattrList_inside.1 hget⟩
  · rintro ⟨hvalue, hset, hget⟩
    have hparse := parseGetattrList_inside.2 hget
    refine ⟨setAttrValue_inside.2 hvalue, setAttrList_inside.2 hset, fun off len hc => ?_, hparse,
      fun _ _ _ _ _ s => ⟨fun h fuel => setAttrList_reject h fuel s,
        fun h used => getAttrList_reject h used s⟩⟩
    unfold getAttrListCheck at hc
    split at hc
    · cases hc
    · exact hparse off len hc

/-- A get list of 16 bytes, 8 of which data-in holds. -/
def shortDataIn : Command where
  cdb := blobMem (List.replicate 52 0 ++ [0, 0, 0, 16] ++ List.replicate 8 0)
  getsetCdbfmt := GETLIST_SETLIST
  retrievedAttrOff := 0
  indata := blobMem [1, 0, 0, 0, 0, 0, 0, 8]
  inlen := 8
  hasOutdata := true

/-- Both functions take it. -/
theorem windows_shortDataIn : getAttrListCheck shortDataIn = .use 0 16 ∧
    getListCheck shortDataIn = .use 0 16 ∧ ¬ WindowsInside Env.calm shortDataIn := by
  have hget : getListCheck shortDataIn = .use 0 16 := by decide +kernel
  refine ⟨by decide +kernel, hget, fun h => ?_⟩
  exact absurd (h.parseGetattrList 0 16 hget) (by decide)

end OsdTarget
