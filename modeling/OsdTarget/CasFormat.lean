import OsdTarget.PackedList
import OsdTarget.ServiceAction
import OsdTarget.SetPairs

/-!
# The list of GEN CAS

`set_attr_list` takes the length and the value of an entry from where `struct list_entry` has them.
`exec_gen_cas` and `exec_cas_setattr` take the length from the six bytes in between, which `le_pack_attr`
fills with zeros: every value is read as empty.
-/

namespace OsdTarget

open Base

variable {env : Env} {s : Target} {cmd rest : Command} {pid oid : UInt64} {indata : Mem} {isembedded : Bool}

/-! ## Lists that a command carries -/

/-- The set list of the command is what `le_pack_attr` makes of these attributes, behind a header with its
type and its length. -/
structure Command.Carries (cmd : Command) (es : List SetEntry) : Prop where
  values : ∀ e ∈ es, e.value.length < 2 ^ 16
  short : 8 + (es.map encodeEntry).flatten.length < 2 ^ 32
  total : setattrListLen cmd = UInt32.ofNat (8 + (es.map encodeEntry).flatten.length)
  type : cmd.indata (setattrListOff cmd) &&& 0xF = RTRVD_SET_ATTR_LIST
  length : getNtohl cmd.indata (setattrListOff cmd + 4) = UInt32.ofNat (es.map encodeEntry).flatten.length
  entries : cmd.indata.read (setattrListOff cmd + 8) (es.map encodeEntry).flatten.length =
    (es.map encodeEntry).flatten

/-- The entry is taken as the value with its length. -/
def ListEntry.Takes (indata : Mem) (e : ListEntry) (x : SetEntry) : Prop :=
  e.len.toNat = x.value.length ∧ givenBytes (e.casValue indata) e.len = x.value

/-! ## Calls -/

/-- A call of `osd_set_attributes`. -/
structure SetCall where
  oid : UInt64
  page : UInt32
  number : UInt32
  value : List UInt8
  len : UInt16
  deriving DecidableEq

def SetPair.call (indata : Mem) (p : SetPair) : SetCall :=
  ⟨p.1, p.2.page, p.2.number, (p.val indata).read 0 p.2.len.toNat, p.2.len⟩

/-- The calls of `runPairs`: pair after pair, until one is refused. -/
def callsMade (env : Env) (pid : UInt64) (indata : Mem) (isembedded : Bool) :
    List SetPair → Target → List SetCall
  | [], _ => []
  | p :: ps, s => p.call indata :: match setPair env pid indata isembedded p s with
    | some (.ok, t) => callsMade env pid indata isembedded ps t
    | _ => []

/-- The first call is made in any case. -/
theorem callsMade_cons (p : SetPair) (ps : List SetPair) (s : Target) :
    ∃ calls, callsMade env pid indata isembedded (p :: ps) s = p.call indata :: calls := ⟨_, rfl⟩

theorem callsMade_of_ok {ps : List SetPair} {t : Target}
    (h : runPairs env pid indata isembedded ps s = some (.ok, t)) :
    callsMade env pid indata isembedded ps s = ps.map (SetPair.call indata) := by
  induction ps generalizing s with
  | nil => rfl
  | cons p ps ih =>
    unfold runPairs at h
    unfold callsMade
    cases hp : setPair env pid indata isembedded p s with
    | none =>
      rw [bind_of_none hp] at h
      cases h
    | some r =>
      obtain ⟨ret, u⟩ := r
      rw [bind_of_some hp] at h
      by_cases hret : ret = .ok
      · subst hret
        rw [if_neg (fun h => h rfl)] at h
        exact congrArg (_ :: ·) (ih h)
      · rw [if_pos hret] at h
        cases h
        exact absurd rfl hret

/-- The entries that the loop of `exec_cas_setattr` comes to, and whether it ends. -/
def casEntries (indata : Mem) : Nat → Nat → UInt32 → List ListEntry × Bool
  | 0, _, listLen => ([], listLen = 0)
  | fuel + 1, list, listLen =>
    if listLen = 0 then ([], true)
    else
      let e := casEntryAt indata list
      let rest := casEntries indata fuel (list + e.size) (listLen - UInt32.ofNat e.size)
      (e :: rest.1, rest.2)

/-- The loop is a walk like that of `set_attr_list`, over the entries it sees. -/
theorem casSetattrLoop_eq (fuel list : Nat) (listLen : UInt32) :
    casSetattrLoop env cmd fuel list listLen = (do
      let ret ← runPairs env cmd.pid cmd.indata true
        ((casEntries cmd.indata fuel list listLen).1.map (cmd.oid, ·))
      if ret ≠ .ok then
        return ret
      if (casEntries cmd.indata fuel list listLen).2 then return .ok else never) := by
  induction fuel generalizing list listLen with
  | zero =>
    unfold casSetattrLoop casEntries
    show _ = (pure Ret.ok >>= _ : OsdM Ret)
    have hok : ¬ Ret.ok ≠ Ret.ok := fun h => h rfl
    rw [pure_bind, if_neg hok]
    by_cases h : listLen = 0
    · rw [if_pos h]
      exact (if_pos (decide_eq_true h)).symm
    · rw [if_neg h]
      exact (if_neg (by simpa using h)).symm
  | succ fuel ih =>
    unfold casSetattrLoop casEntries
    by_cases h : listLen = 0
    · rw [if_pos h, if_pos h]
      show _ = (pure Ret.ok >>= _ : OsdM Ret)
      rw [pure_bind]
      rfl
    · rw [if_neg h, if_neg h]
      dsimp only
      rw [List.map_cons]
      unfold runPairs
      rw [bind_assoc]
      refine bind_congr fun ret => ?_
      by_cases hret : ret ≠ .ok
      · rw [if_pos hret, if_pos hret, pure_bind, if_pos hret]
      · rw [if_neg hret, if_neg hret, ih]

/-- The calls of `exec_cas_setattr`. -/
def casCalls (env : Env) (cmd : Command) (fuel list : Nat) (listLen : UInt32) (s : Target) : List SetCall :=
  if listLen < 16 then []
  else callsMade env cmd.pid cmd.indata true ((casEntries cmd.indata fuel list listLen).1.map
    (cmd.oid, ·)) s

/-- `exec_cas_setattr` that answers OK has made the call of every entry it came to. -/
theorem execCasSetattr_calls {fuel list : Nat} {listLen : UInt32} {t : Target}
    (h : execCasSetattr env cmd fuel list listLen s = some (.ok, t)) :
    casCalls env cmd fuel list listLen s =
      (casEntries cmd.indata fuel list listLen).1.map fun e => SetPair.call cmd.indata (cmd.oid, e) := by
  unfold execCasSetattr at h
  unfold casCalls
  by_cases hlen : listLen < 16
  · rw [if_pos hlen] at h
    cases h
  · rw [if_neg hlen, casSetattrLoop_eq] at h
    rw [if_neg hlen]
    cases hrun : runPairs env cmd.pid cmd.indata true
        ((casEntries cmd.indata fuel list listLen).1.map (cmd.oid, ·)) s with
    | none =>
      rw [bind_of_none hrun] at h
      cases h
    | some r =>
      obtain ⟨ret, u⟩ := r
      rw [bind_of_some hrun] at h
      by_cases hret : ret = .ok
      · subst hret
        rw [callsMade_of_ok hrun, List.map_map]
        rfl
      · rw [if_pos hret] at h
        cases h
        exact absurd rfl hret

/-- The calls of `set_attr_list` on one object. -/
def setListCalls (env : Env) (cmd : Command) (pid oid : UInt64) (fuel : Nat) (s : Target) : List SetCall :=
  callsMade env pid cmd.indata true (cmd.setPairs oid 1 fuel) s

/-- The two values are taken from the first two entries, and the others are set as `set_attr_list` sets them
when they are the list of `rest`. -/
def CommonFormat (env : Env) (cmd rest : Command) (e₁ e₂ : SetEntry) (es : List SetEntry)
    (s : Target) : Prop :=
  ∃ c w list listLen, genCasEntries cmd = .ok (c, w, list, listLen) ∧
    c.Takes cmd.indata e₁ ∧ w.Takes cmd.indata e₂ ∧ ∀ fuel, es.length ≤ fuel →
      casCalls env cmd fuel list listLen s = setListCalls env rest cmd.pid cmd.oid fuel s

/-! ## What is read of an entry -/

/-- The bytes read as the length are zero. -/
theorem casEntryAt_encode {pos : Nat} {e : SetEntry}
    (h : indata.read pos (encodeEntry e).length = encodeEntry e) :
    casEntryAt indata pos = ⟨e.page, e.number, 0, pos + 10⟩ := by
  unfold encodeEntry at h
  obtain ⟨hpage, h⟩ := Mem.read_append.1 h
  obtain ⟨hnumber, h⟩ := Mem.read_append.1 h
  obtain ⟨hreserved, -⟩ := Mem.read_append.1 h
  rw [htonl_length] at hpage
  rw [htonl_length, htonl_length] at hnumber
  rw [htonl_length, htonl_length, List.length_replicate] at hreserved
  have hlen : getNtohs indata (pos + 8) = 0 := by
    refine getNtohs_of_read ?_
    rw [show (6 : Nat) = 2 + 4 from rfl, Mem.read_add, List.replicate_add] at hreserved
    exact List.append_inj_left hreserved (Mem.read_length _ _ _)
  unfold casEntryAt
  rw [getNtohl_of_read hpage, getNtohl_of_read hnumber, hlen]

theorem takes_empty_iff {page number : UInt32} {cval : Nat} {e : SetEntry} :
    ListEntry.Takes indata ⟨page, number, 0, cval⟩ e ↔ e.value = [] := by
  refine ⟨fun h => List.length_eq_zero_iff.1 h.1.symm, fun h => ?_⟩
  unfold ListEntry.Takes
  rw [h]
  exact ⟨rfl, rfl⟩

theorem size_of_empty {e : ListEntry} (h : e.len = 0) : e.size = 16 := by
  unfold ListEntry.size ListEntry.pad
  rw [h]
  rfl

theorem encodeEntry_length_empty {e : SetEntry} (h : e.value = []) : (encodeEntry e).length = 16 := by
  rw [encodeEntry_length, h]
  rfl

/-- A value that is given must not be empty. -/
theorem osdSetAttributes_empty (page number : UInt32) (val : Mem) :
    Ends (osdSetAttributes env pid oid page number (some val) 0 isembedded) s fun ret _ => ret ≠ .ok := by
  refine osdSetAttributes_stores.mono fun ret t h => ?_
  rcases h with ⟨hne, -⟩ | ⟨-, type, u, c, hchecks, -⟩
  · exact hne
  · exact absurd rfl (hchecks.given.1 rfl)

/-- So nothing comes after it. -/
theorem callsMade_empty {p : SetPair} (h : p.2.len = 0) (ps : List SetPair) (s : Target) :
    callsMade env pid indata isembedded (p :: ps) s = [p.call indata] := by
  unfold callsMade
  refine congrArg (_ :: ·) ?_
  split
  · rename_i t hrun
    have hne : Ends (setPair env pid indata isembedded p) s fun ret _ => ret ≠ .ok := by
      unfold setPair
      rw [h]
      exact osdSetAttributes_empty _ _ _
    exact absurd rfl (hne _ _ hrun)
  · rfl

/-! ## The entries of the list -/

section Carries

variable {e e₁ e₂ : SetEntry} {es : List SetEntry}

theorem flatten_encode (e : SetEntry) (es : List SetEntry) :
    ((e :: es).map encodeEntry).flatten = encodeEntry e ++ (es.map encodeEntry).flatten := rfl

theorem encodeEntry_ge (e : SetEntry) : 16 ≤ (encodeEntry e).length := by
  rw [encodeEntry_length]
  have h := (roundup8_spec (e.value.length + LE_VAL_OFF)).2.1
  unfold LE_VAL_OFF at *
  omega

theorem Command.Carries.length_mod (h : cmd.Carries es) : (es.map encodeEntry).flatten.length % 8 = 0 :=
  (packed_tiles h.values).length_mod

theorem Command.Carries.listLen (h : cmd.Carries es) :
    (setattrListLen cmd).toNat = 8 + (es.map encodeEntry).flatten.length := by
  rw [h.total, UInt32.toNat_ofNat', Nat.mod_eq_of_lt h.short]

/-- The set list is taken. -/
theorem Command.Carries.check (h : cmd.Carries es) :
    setListCheck cmd = .use (setattrListOff cmd) (8 + (es.map encodeEntry).flatten.length) := by
  have hmod := h.length_mod
  rw [setListCheck_aligned (by rw [h.listLen]; omega) h.type, if_pos (by rw [h.listLen]; omega), h.listLen]

/-- The two entries that are looked at first. -/
theorem genCasEntries_carries (h : cmd.Carries (e₁ :: e₂ :: es)) :
    genCasEntries cmd = .ok (⟨e₁.page, e₁.number, 0, setattrListOff cmd + 18⟩,
      casEntryAt cmd.indata (setattrListOff cmd + 24),
      setattrListOff cmd + 24 + (casEntryAt cmd.indata (setattrListOff cmd + 24)).size,
      UInt32.ofNat ((e₁ :: e₂ :: es).map encodeEntry).flatten.length - 16 -
        UInt32.ofNat (casEntryAt cmd.indata (setattrListOff cmd + 24)).size) := by
  have hentries := h.entries
  rw [flatten_encode] at hentries
  have hcmp : casEntryAt cmd.indata (setattrListOff cmd + 8) =
      ⟨e₁.page, e₁.number, 0, setattrListOff cmd + 18⟩ := casEntryAt_encode (Mem.read_append.1 hentries).1
  have hge₁ := encodeEntry_ge e₁
  have hge₂ := encodeEntry_ge e₂
  have hlong : 32 ≤ ((e₁ :: e₂ :: es).map encodeEntry).flatten.length := by
    rw [flatten_encode, flatten_encode, List.length_append, List.length_append]
    omega
  have hmod := h.length_mod
  have hshort := h.short
  have hlistLen := h.listLen
  have hlength := h.length
  have htotal : UInt32.ofNat ((e₁ :: e₂ :: es).map encodeEntry).flatten.length + 8 =
      setattrListLen cmd := by
    rw [h.total, UInt32.ofNat_add, UInt32.add_comm]
    rfl
  revert hlong hmod hshort hlistLen htotal hlength
  generalize ((e₁ :: e₂ :: es).map encodeEntry).flatten.length = n
  intro hlong hmod hshort hlistLen hlength htotal
  have hn : (UInt32.ofNat n).toNat = n := UInt32.toNat_ofNat_of_lt' (show n < 2 ^ 32 by omega)
  have hheader : ¬ setattrListLen cmd < LIST_HDR_LEN := fun hlt => by
    have hlt' : (setattrListLen cmd).toNat < 8 := UInt32.lt_iff_toNat_lt.1 hlt
    omega
  have hmultiple : UInt32.ofNat n &&& 7 = 0 := by
    rw [← UInt32.toNat_inj, UInt32.toNat_and, hn]
    exact (Nat.and_two_pow_sub_one_eq_mod n 3).trans hmod
  have hleft : ¬ UInt32.ofNat n - 16 < 16 := fun hlt => by
    have hlt' : (UInt32.ofNat n - 16).toNat < 16 := UInt32.lt_iff_toNat_lt.1 hlt
    rw [UInt32.toNat_sub_of_le _ _ (UInt32.le_iff_toNat_le.2 (by rw [hn]; show 16 ≤ n; omega)), hn] at hlt'
    have h16 : (16 : UInt32).toNat = 16 := rfl
    omega
  have hoff : (getNtohoffset cmd.cdb 72).toUInt32.toNat = setattrListOff cmd := rfl
  have hlen : getNtohl cmd.cdb 68 = setattrListLen cmd := rfl
  have hsize : ListEntry.size ⟨e₁.page, e₁.number, 0, setattrListOff cmd + 18⟩ = 16 := size_of_empty rfl
  unfold genCasEntries
  dsimp only
  rw [hoff, hlen, hlength, hcmp, if_neg hheader, if_neg (not_not_intro h.type),
    if_neg (not_not_intro htotal),
    if_neg (not_not_intro hmultiple), hsize, show UInt32.ofNat 16 = 16 from rfl, if_neg hleft]

theorem Command.Carries.second (h : cmd.Carries (e₁ :: e₂ :: es)) (h₁ : e₁.value = []) :
    cmd.indata.read (setattrListOff cmd + 24) (encodeEntry e₂ ++ (es.map encodeEntry).flatten).length =
      encodeEntry e₂ ++ (es.map encodeEntry).flatten := by
  have hentries := h.entries
  rw [flatten_encode, flatten_encode] at hentries
  obtain ⟨-, hentries⟩ := Mem.read_append.1 hentries
  rwa [encodeEntry_length_empty h₁] at hentries

theorem Command.Carries.third (h : cmd.Carries (e₁ :: e₂ :: es)) (h₁ : e₁.value = []) (h₂ : e₂.value = []) :
    cmd.indata.read (setattrListOff cmd + 40) (es.map encodeEntry).flatten.length =
      (es.map encodeEntry).flatten := by
  have hrest := (Mem.read_append.1 (h.second h₁)).2
  rwa [encodeEntry_length_empty h₂] at hrest

/-- What `exec_gen_cas` leaves behind two empty values. -/
theorem genCasEntries_empty (h : cmd.Carries (e₁ :: e₂ :: es)) (h₁ : e₁.value = []) (h₂ : e₂.value = []) :
    genCasEntries cmd = .ok (⟨e₁.page, e₁.number, 0, setattrListOff cmd + 18⟩,
      ⟨e₂.page, e₂.number, 0, setattrListOff cmd + 34⟩, setattrListOff cmd + 40,
      UInt32.ofNat (es.map encodeEntry).flatten.length) := by
  have htotal : ((e₁ :: e₂ :: es).map encodeEntry).flatten.length =
      16 + (16 + (es.map encodeEntry).flatten.length) := by
    rw [flatten_encode, flatten_encode, List.length_append, List.length_append,
      encodeEntry_length_empty h₁, encodeEntry_length_empty h₂]
  have h16 : UInt32.ofNat 16 = 16 := rfl
  rw [genCasEntries_carries h, casEntryAt_encode (Mem.read_append.1 (h.second h₁)).1, size_of_empty rfl,
    htotal, UInt32.ofNat_add, UInt32.ofNat_add, h16, UInt32.add_comm, UInt32.add_sub_cancel,
    UInt32.add_comm, UInt32.add_sub_cancel]

/-- The call that `set_attr_list` makes for an entry. -/
def SetEntry.call (oid : UInt64) (e : SetEntry) : SetCall :=
  ⟨oid, e.page, e.number, e.value, UInt16.ofNat e.value.length⟩

/-- An entry behind two empty values is passed on with an empty value, and no other is. -/
theorem casCalls_cons {pos fuel : Nat} (hread : cmd.indata.read pos (encodeEntry e).length = encodeEntry e)
    {listLen : UInt32} (hlen : ¬ listLen < 16) (hfuel : 0 < fuel) :
    casCalls env cmd fuel pos listLen s = [SetEntry.call cmd.oid ⟨e.page, e.number, []⟩] := by
  obtain ⟨n, rfl⟩ : ∃ n, fuel = n + 1 := ⟨fuel - 1, by omega⟩
  have hne : listLen ≠ 0 := by
    rintro rfl
    exact hlen (by decide)
  unfold casCalls casEntries
  rw [if_neg hlen, if_neg hne]
  dsimp only
  rw [casEntryAt_encode hread, List.map_cons, callsMade_empty rfl]
  rfl

theorem casCalls_third (h : cmd.Carries (e₁ :: e₂ :: e :: es)) (h₁ : e₁.value = []) (h₂ : e₂.value = [])
    {fuel : Nat} (hfuel : 0 < fuel) :
    casCalls env cmd fuel (setattrListOff cmd + 40)
      (UInt32.ofNat ((e :: es).map encodeEntry).flatten.length) s =
        [SetEntry.call cmd.oid ⟨e.page, e.number, []⟩] := by
  refine casCalls_cons (Mem.read_append.1 (h.third h₁ h₂)).1 (fun hlt => ?_) hfuel
  have hge := encodeEntry_ge e
  have hshort := h.short
  rw [flatten_encode, flatten_encode, List.length_append, List.length_append] at hshort
  rw [UInt32.lt_iff_toNat_lt, UInt32.toNat_ofNat', Nat.mod_eq_of_lt (by omega), flatten_encode,
    List.length_append] at hlt
  have h16 : (16 : UInt32).toNat = 16 := rfl
  omega

theorem setListCalls_nil (h : rest.Carries []) (fuel : Nat) :
    setListCalls env rest pid oid fuel s = [] := by
  unfold setListCalls Command.setPairs
  rw [h.check]
  have hnil : (visitEntries rest.indata fuel (setattrListOff rest + 8) (UInt32.ofNat 8 - 8)).1 = [] := by
    cases fuel with
    | zero => rfl
    | succ n =>
      unfold visitEntries
      rw [if_pos (by decide)]
  show callsMade env pid rest.indata true (setPairs oid _ (visitEntries _ _ _ (UInt32.ofNat 8 - 8)).1)
    s = []
  rw [hnil]
  rfl

/-- An entry that `set_attr_list` reads, as a pair. -/
theorem listEntryAt_call {pos : Nat} (hval : e.value.length < 2 ^ 16)
    (hread : indata.read pos (encodeEntry e).length = encodeEntry e) (oid : UInt64) :
    SetPair.call indata (oid, listEntryAt indata pos) = e.call oid := by
  obtain ⟨hentry, -⟩ := listEntryAt_of_isEntry (encodeEntry_isEntry hval) hread
  have hlen : (listEntryAt indata pos).len = UInt16.ofNat e.value.length := by
    rw [← hentry, ListEntry.setEntry, Mem.read_length, UInt16.ofNat_toNat]
  have hpage : (listEntryAt indata pos).page = e.page := congrArg SetEntry.page hentry
  have hnumber : (listEntryAt indata pos).number = e.number := congrArg SetEntry.number hentry
  have hvalue : indata.read (listEntryAt indata pos).cval (listEntryAt indata pos).len.toNat = e.value :=
    congrArg SetEntry.value hentry
  unfold SetPair.call SetPair.val SetEntry.call
  rw [Mem.read_shift, ← hlen, ← hpage, ← hnumber, ← hvalue]
  rfl

/-- An empty first value ends the set list. -/
theorem setListCalls_cons (h : rest.Carries (e :: es)) {fuel : Nat} (hfuel : 0 < fuel) :
    ¬ oid.toNat + 1 < 2 ^ 64 ∧ setListCalls env rest pid oid fuel s = [] ∨
      oid.toNat + 1 < 2 ^ 64 ∧ ∃ calls, setListCalls env rest pid oid fuel s = e.call oid :: calls ∧
        (e.value = [] → calls = []) := by
  obtain ⟨n, rfl⟩ : ∃ n, fuel = n + 1 := ⟨fuel - 1, by omega⟩
  have hval := h.values e List.mem_cons_self
  have hfirst := h.entries
  rw [flatten_encode] at hfirst
  have hcall := listEntryAt_call hval (Mem.read_append.1 hfirst).1 oid
  have hne : UInt32.ofNat (8 + ((e :: es).map encodeEntry).flatten.length) - 8 ≠ 0 := by
    have hge := encodeEntry_ge e
    have hshort := h.short
    rw [flatten_encode, List.length_append] at hshort ⊢
    rw [UInt32.ofNat_add, show UInt32.ofNat 8 = 8 from rfl, UInt32.add_comm, UInt32.add_sub_cancel]
    exact left_ne_zero (by omega) (by omega)
  obtain ⟨le, hvisit⟩ : ∃ le, (visitEntries rest.indata (n + 1) (setattrListOff rest + 8)
      (UInt32.ofNat (8 + ((e :: es).map encodeEntry).flatten.length) - 8)).1 =
        listEntryAt rest.indata (setattrListOff rest + 8) :: le := by
    unfold visitEntries
    rw [if_neg hne]
    exact ⟨_, rfl⟩
  have hpairs : rest.setPairs oid 1 (n + 1) =
      setPairs oid (createCount oid 1) (listEntryAt rest.indata (setattrListOff rest + 8) :: le) := by
    unfold Command.setPairs
    rw [h.check, ← hvisit]
  unfold setListCalls
  rw [hpairs]
  by_cases hoid : oid.toNat + 1 < 2 ^ 64
  · have hcount : createCount oid 1 = 1 := createCount_eq Nat.one_pos hoid
    have hone : setPairs oid 1 (listEntryAt rest.indata (setattrListOff rest + 8) :: le) =
        (oid, listEntryAt rest.indata (setattrListOff rest + 8)) :: setPairs oid 1 le := by
      unfold setPairs
      rw [List.flatMap_cons, pairsOf_succ]
      rfl
    rw [hcount, hone]
    refine .inr ⟨hoid, ?_⟩
    by_cases hnil : e.value = []
    · refine ⟨[], ?_, fun _ => rfl⟩
      rw [callsMade_empty ?_, hcall]
      have hlen := congrArg SetCall.len hcall
      exact hlen.trans (by rw [SetEntry.call, hnil]; rfl)
    · obtain ⟨calls, hcalls⟩ := callsMade_cons (oid, listEntryAt rest.indata (setattrListOff rest + 8))
        (setPairs oid 1 le) s
      exact ⟨calls, hcalls.trans (congrArg (· :: calls) hcall), fun h => absurd h hnil⟩
  · have hcount : createCount oid 1 = 0 := if_neg fun hlt => by
      rw [UInt64.lt_iff_toNat_lt, UInt64.toNat_add, show (1 : UInt16).toUInt64.toNat = 1 from rfl] at hlt
      have := oid.toNat_lt
      omega
    rw [hcount]
    refine .inl ⟨hoid, ?_⟩
    have hnone : ∀ le, setPairs oid 0 le = [] := fun le => by
      unfold setPairs
      exact List.flatMap_eq_nil_iff.2 fun _ _ => rfl
    rw [hnone]
    rfl

end Carries

/-- **The formats agree** exactly on lists whose first values are empty: two, and the one behind them when
there is one, on an object that `set_attr_list` comes to. -/
theorem commonFormat_iff {e₁ e₂ : SetEntry} {es : List SetEntry} (h : cmd.Carries (e₁ :: e₂ :: es))
    (hrest : rest.Carries es) : CommonFormat env cmd rest e₁ e₂ es s ↔
      e₁.value = [] ∧ e₂.value = [] ∧ ∀ e ∈ es.head?, e.value = [] ∧ cmd.oid.toNat + 1 < 2 ^ 64 := by
  constructor
  · rintro ⟨c, w, list, listLen, hcas, hcmp, hswap, hcalls⟩
    have hfirst := hcas
    rw [genCasEntries_carries h] at hfirst
    cases hfirst
    have h₁ := takes_empty_iff.1 hcmp
    rw [casEntryAt_encode (Mem.read_append.1 (h.second h₁)).1] at hswap
    have h₂ := takes_empty_iff.1 hswap
    refine ⟨h₁, h₂, fun e he => ?_⟩
    rw [genCasEntries_empty h h₁ h₂] at hcas
    obtain ⟨-, hcas⟩ := Prod.mk.inj (Except.ok.inj hcas)
    obtain ⟨-, hcas⟩ := Prod.mk.inj hcas
    obtain ⟨hlist, hlistLen⟩ := Prod.mk.inj hcas
    rw [← hlist, ← hlistLen] at hcalls
    cases es with
    | nil => exact nomatch he
    | cons e₃ es =>
      obtain rfl : e₃ = e := Option.some.inj he
      have hpos : 0 < (e₃ :: es).length := Nat.succ_pos _
      have hcas := hcalls _ (Nat.le_refl _)
      rw [casCalls_third h h₁ h₂ hpos] at hcas
      rcases setListCalls_cons hrest hpos with ⟨-, hnone⟩ | ⟨hone, calls, hset, -⟩
      · exact absurd (hcas.trans hnone) (List.cons_ne_nil _ _)
      · obtain ⟨hcall, -⟩ := List.cons.inj (hcas.trans hset)
        exact ⟨(congrArg SetCall.value hcall).symm, hone⟩
  · rintro ⟨h₁, h₂, hthird⟩
    refine ⟨_, _, _, _, genCasEntries_empty h h₁ h₂, takes_empty_iff.2 h₁, takes_empty_iff.2 h₂,
      fun fuel hfuel => ?_⟩
    cases es with
    | nil => exact (setListCalls_nil hrest fuel).symm
    | cons e₃ es =>
      obtain ⟨h₃, hcount⟩ := hthird e₃ rfl
      have hpos : 0 < fuel := Nat.lt_of_lt_of_le (Nat.succ_pos _) hfuel
      rw [casCalls_third h h₁ h₂ hpos]
      rcases setListCalls_cons hrest hpos with ⟨hmax, -⟩ | ⟨-, calls, hset, hnil⟩
      · exact absurd hcount hmax
      · rw [hset, hnil h₃]
        unfold SetEntry.call
        rw [h₃]

/-- A command for an object of the first partition, with this list. -/
def casCommand (es : List SetEntry) : Command where
  cdb := blobMem (List.replicate 16 0 ++ htonll 0x10000 ++ htonll 0x10000 ++ List.replicate 36 0 ++
    htonl (UInt32.ofNat (8 + (es.map encodeEntry).flatten.length)) ++ List.replicate 4 0)
  getsetCdbfmt := GETLIST_SETLIST
  retrievedAttrOff := 0
  indata := blobMem ([9, 0, 0, 0] ++ htonl (UInt32.ofNat (es.map encodeEntry).flatten.length) ++
    (es.map encodeEntry).flatten)
  inlen := 0
  hasOutdata := true

/-- Three empty values. -/
theorem commonFormat_empty : CommonFormat Env.calm
    (casCommand [⟨0x10, 1, []⟩, ⟨0x10, 1, []⟩, ⟨0x10, 2, []⟩])
    (casCommand [⟨0x10, 2, []⟩]) ⟨0x10, 1, []⟩ ⟨0x10, 1, []⟩ [⟨0x10, 2, []⟩] Target.fresh := by
  have hcmd : (casCommand [⟨0x10, 1, []⟩, ⟨0x10, 1, []⟩, ⟨0x10, 2, []⟩]).Carries
      [⟨0x10, 1, []⟩, ⟨0x10, 1, []⟩, ⟨0x10, 2, []⟩] := by
    constructor <;> decide +kernel
  have hrest : (casCommand [⟨0x10, 2, []⟩]).Carries [⟨0x10, 2, []⟩] := by
    constructor <;> decide +kernel
  exact (commonFormat_iff hcmd hrest).2 (by decide +kernel)

/-- The values 01 and 02 are both taken as empty. -/
theorem commonFormat_bytes :
    (casCommand [⟨0x10, 1, [1]⟩, ⟨0x10, 1, [2]⟩]).Carries [⟨0x10, 1, [1]⟩, ⟨0x10, 1, [2]⟩] ∧
    (casCommand []).Carries [] ∧
    ¬ CommonFormat Env.calm (casCommand [⟨0x10, 1, [1]⟩, ⟨0x10, 1, [2]⟩]) (casCommand [])
      ⟨0x10, 1, [1]⟩ ⟨0x10, 1, [2]⟩ [] Target.fresh := by
  have hcmd : (casCommand [⟨0x10, 1, [1]⟩, ⟨0x10, 1, [2]⟩]).Carries [⟨0x10, 1, [1]⟩, ⟨0x10, 1, [2]⟩] := by
    constructor <;> decide +kernel
  refine ⟨hcmd, by constructor <;> decide +kernel, ?_⟩
  rintro ⟨c, w, list, listLen, hcas, hcmp, -⟩
  rw [genCasEntries_carries hcmd] at hcas
  obtain ⟨rfl, -⟩ := Prod.mk.inj (Except.ok.inj hcas)
  exact absurd (takes_empty_iff.1 hcmp) (List.cons_ne_nil _ _)

end OsdTarget
