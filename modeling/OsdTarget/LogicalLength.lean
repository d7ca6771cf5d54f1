import OsdTarget.FailedSets

/-!
# The logical length

Setting the logical length of a user object resizes its data file, and a retrieval asks the file system
for it.  On its way into `truncate` the length passes through a 16-bit parameter.
-/

namespace OsdTarget

open Base

variable {env : Env} {s t : Target} {pid oid : UInt64} {number : UInt32}

/-! ## Retrieving computed attributes -/

/-- A retrieval of the attribute, given room for its entry, answers with exactly this value. -/
def GetsAs (env : Env) (pid oid : UInt64) (page number : UInt32) (value : List UInt8) (t : Target) : Prop :=
  ∀ (pos : Nat) (outlen : UInt32) (isembedded : Bool) (listfmt : UInt8),
    IsFormat listfmt → Aligned env pos outlen.toNat →
    let e : Entry := ⟨tagOf listfmt oid, page, number, value⟩
    e.size ≤ outlen.toNat → ∃ used t',
      osdGetattrList env pid oid page number pos outlen isembedded listfmt t = some ((.ok, some used), t') ∧
      Decodes e.oid.isSome (t'.reply.read pos used.toNat) [e]

/-- What a retrieval answers with is what is read. -/
theorem getsAs_of_retrieve {page : UInt32} {value : List UInt8}
    (h : ∀ (isembedded : Bool) (listfmt : UInt8), ∃ x : Item, x.Wf ∧
      x.entry = ⟨tagOf listfmt oid, page, number, value⟩ ∧
      ∃ t', retrieve env pid oid page number isembedded listfmt t = some (some [x], t')) :
    GetsAs env pid oid page number value t := by
  intro pos outlen isembedded listfmt hf hal e hfit
  obtain ⟨x, hwf, hentry, hret⟩ := h isembedded listfmt
  have hsize : x.size ≤ outlen.toNat := by
    rw [Item.size_eq hwf, hentry]
    exact hfit
  obtain ⟨used, t', hrun, hbytes⟩ := osdGetattrList_single hf hal hret hwf hsize
  have hoid : e.oid = x.oid := congrArg Entry.oid hentry.symm
  refine ⟨used, t', hrun, ?_⟩
  show Decodes e.oid.isSome _ [(⟨tagOf listfmt oid, page, number, value⟩ : Entry)]
  rw [hbytes, hoid, ← hentry]
  exact .cons (decodeEntry_whole hwf hsize) .nil

/-- Two values of moderate length are not both read. -/
theorem GetsAs.unique {page : UInt32} {v w : List UInt8} (hv : GetsAs Env.calm pid oid page number v t)
    (hw : GetsAs Env.calm pid oid page number w t) (hvlen : v.length ≤ 1000) (hwlen : w.length ≤ 1000) :
    v = w := by
  have hal : Aligned Env.calm 0 (UInt32.toNat 1024) := ⟨rfl, rfl⟩
  have hroom : ∀ value : List UInt8, value.length ≤ 1000 →
      Entry.size ⟨none, page, number, value⟩ ≤ (1024 : UInt32).toNat := by
    intro value hlen
    have hround := roundup8_spec (LE_VAL_OFF + value.length)
    show 0 + roundup8 (LE_VAL_OFF + value.length) ≤ 1024
    unfold LE_VAL_OFF at *
    omega
  obtain ⟨used, t₁, hrun₁, hdec₁⟩ := hv 0 1024 true RTRVD_SET_ATTR_LIST (.inl rfl) hal (hroom v hvlen)
  obtain ⟨used', t₂, hrun₂, hdec₂⟩ := hw 0 1024 true RTRVD_SET_ATTR_LIST (.inl rfl) hal (hroom w hwlen)
  rw [hrun₁] at hrun₂
  cases hrun₂
  exact congrArg Entry.value (hdec₁.singleton_inj hdec₂)

/-- A computed value that its getter finds is shown. -/
theorem getsAs_userInfo {v : UInt16 × Mem} (hq : ∀ q, env.queryFails q t.db = false)
    (hs : IsSingle USER_INFO_PG number) (htype : t.db.objType pid oid = .userobject)
    (hname : number ≠ UIAP_USERNAME) (hv : userInfoVal env t pid oid number = some v) :
    GetsAs env pid oid USER_INFO_PG number (valueBytes v) t := by
  refine getsAs_of_retrieve fun isembedded listfmt => ?_
  let x : Item := ⟨tagOf listfmt oid, USER_INFO_PG, number, v.1, some v.2⟩
  have hitems : pageItems env t pid oid USER_INFO_PG number listfmt = some [x] := by
    unfold pageItems attrItems
    dsimp only
    rw [if_neg (by decide), if_neg (by decide), if_pos (.inr (.inr rfl)), if_pos rfl, if_neg hname, hv]
    rfl
  have htype' : t.db.objType pid oid ≠ .illegal := by
    rw [htype]
    decide
  have hget : isgettablePage (t.db.objType pid oid) USER_INFO_PG = true := by
    rw [htype]
    decide
  exact ⟨x, nofun, rfl, retrieve_single hq hs htype' hget hitems⟩

theorem valueBytes_htonll (x : UInt64) : valueBytes (8, blobMem (htonll x)) = htonll x := read_htonll x

/-- The length of the data file is shown when `stat` finds the file. -/
theorem getsAs_logicalLen {content : List UInt8} (hq : ∀ q, env.queryFails q t.db = false)
    (htype : t.db.objType pid oid = .userobject) (hstat : t.statFails env pid oid = false)
    (hfile : t.files pid oid = some content) :
    GetsAs env pid oid USER_INFO_PG UIAP_LOGICAL_LEN (htonll (UInt64.ofNat content.length)) t := by
  obtain ⟨hlookup, hsys⟩ := Bool.or_eq_false_iff.1 hstat
  have hroot : (t.rootFreed && env.rootGarbled) = false := by
    by_contra h
    rw [Target.lookup, if_pos (by simpa using h)] at hlookup
    cases hlookup
  have hfound : t.lookup env pid oid = some content := by
    rw [Target.lookup, if_neg (by rw [hroot]; decide), hfile]
  have hv : userInfoVal env t pid oid UIAP_LOGICAL_LEN
      = some (8, blobMem (htonll (UInt64.ofNat content.length))) := by
    unfold userInfoVal
    rw [hfound]
    dsimp only
    rw [if_neg (by decide), if_neg (by decide), if_neg (by decide), if_neg (by decide), if_pos rfl,
      if_neg (by rw [hsys]; decide)]
  have h := getsAs_userInfo hq (by decide) htype (by decide) hv
  rwa [valueBytes_htonll] at h

/-! ## Setting the length -/

/-- The entry that sets the logical length, from an 8-byte value. -/
def logicalLenEntry : ListEntry := ⟨USER_INFO_PG, UIAP_LOGICAL_LEN, 8, 0⟩

/-- The state with the data file of the object resized; the page of the current command is filled unless
the attribute is embedded in another command. -/
def Target.resize (s : Target) (pid oid len : UInt64) (content : List UInt8) (isembedded : Bool) : Target :=
  s.shown (s.setFile pid oid (some (resized content len))) pid isembedded (oid, logicalLenEntry)

theorem Target.resize_file (len : UInt64) (content : List UInt8) (isembedded : Bool) :
    (s.resize pid oid len content isembedded).files pid oid = some (resized content len) := by
  unfold Target.resize Target.shown
  cases isembedded <;> exact if_pos ⟨rfl, rfl⟩

theorem Target.resize_db (len : UInt64) (content : List UInt8) (isembedded : Bool) :
    (s.resize pid oid len content isembedded).db = s.db := by
  unfold Target.resize Target.shown
  cases isembedded <;> rfl

/-- Setting the logical length to `len` succeeds, cuts the content or extends it by zeros to `len`
bytes, changes nothing else, and is what a retrieval shows after that. -/
def SetsLength (env : Env) (pid oid len : UInt64) (val : Mem) (isembedded : Bool) (content : List UInt8)
    (s : Target) : Prop :=
  let t := s.resize pid oid len content isembedded
  osdSetAttributes env pid oid USER_INFO_PG UIAP_LOGICAL_LEN (some val) 8 isembedded s = some (.ok, t) ∧
    ∀ env' : Env, (∀ q, env'.queryFails q t.db = false) → t.statFails env' pid oid = false →
      GetsAs env' pid oid USER_INFO_PG UIAP_LOGICAL_LEN (htonll len) t

theorem narrow_toNat (len : UInt64) : len.toUInt16.toUInt64.toNat = len.toNat % 2 ^ 16 := by
  rw [UInt16.toNat_toUInt64, UInt64.toNat_toUInt16]

theorem narrow_eq {len : UInt64} (h : len.toNat < 2 ^ 16) : len.toUInt16.toUInt64 = len := by
  apply UInt64.toNat_inj.1
  rw [narrow_toNat]
  exact Nat.mod_eq_of_lt h

/-- The length that reaches `truncate`. -/
theorem fileLen_logicalLen (val : Mem) (oid : UInt64) :
    SetPair.fileLen val (oid, logicalLenEntry) = (getNtohll val 0).toUInt16.toUInt64 := by
  have hshift : val.shift 0 = val := funext fun a => congrArg val (Nat.zero_add a)
  show (getNtohll (val.shift 0) 0).toUInt16.toUInt64 = _
  rw [hshift]

theorem logicalLen_fileLen {len : UInt64} {val : Mem} (hval : val.read 0 8 = htonll len) :
    SetPair.fileLen val (oid, logicalLenEntry) = len.toUInt16.toUInt64 := by
  rw [fileLen_logicalLen, getNtohll_of_read hval]

/-- What becomes of the call: it fails, or the tests let it through and the file is resized. -/
theorem osdSetAttributes_resizes {val : Mem} {isembedded : Bool} :
    Ends (osdSetAttributes env pid oid USER_INFO_PG UIAP_LOGICAL_LEN (some val) 8 isembedded) s fun ret t =>
      ret ≠ .ok ∧ t = s ∨ ret = .ok ∧ s.db.Allows pid val (oid, logicalLenEntry) ∧
        ∃ content, s.lookup env pid oid = some content ∧
          t = s.resize pid oid (SetPair.fileLen val (oid, logicalLenEntry)) content isembedded := by
  rw [osdSetAttributes_eq_setPair]
  refine setPair_inv.mono fun ret t h => h.imp_right fun ⟨hok, _, hallows, v, hst, ht⟩ => ⟨hok, hallows, ?_⟩
  cases hst with
  | row hrow hdms => exact absurd (hrow.2.1 rfl) (show ¬ UIAP_LOGICAL_LEN = UIAP_USERNAME by decide)
  | resized hres c hc hsys => exact ⟨c, hc, ht⟩
  | ignored hign => exact absurd hign.1 (show ¬ USER_INFO_PG = ROOT_INFO_PG by decide)
  | pointed hpt => exact absurd hpt.1 (show ¬ USER_INFO_PG = USER_COLL_PG by decide)

/-- The length that is set is the low half-word of the one that is asked for. -/
theorem osdSetAttributes_length {len : UInt64} {val : Mem} {isembedded : Bool} {content : List UInt8}
    (hval : val.read 0 8 = htonll len) (hfile : s.lookup env pid oid = some content) :
    Ends (osdSetAttributes env pid oid USER_INFO_PG UIAP_LOGICAL_LEN (some val) 8 isembedded) s
      fun ret t => ret = .ok → t = s.resize pid oid len.toUInt16.toUInt64 content isembedded := by
  refine osdSetAttributes_resizes.mono fun ret t h hok => ?_
  obtain ⟨c, hc, ht⟩ := (h.resolve_left fun h => h.1 hok).2.2
  obtain rfl : content = c := Option.some.inj (hfile.symm.trans hc)
  rw [ht, logicalLen_fileLen hval]

/-- The tests of `osd_set_attributes` let a logical length through. -/
theorem logicalLen_allowed {val : Mem} (huser : s.db.objType pid oid = .userobject) :
    s.db.Allows pid val (oid, logicalLenEntry) :=
  allows_userobject huser (by decide) (by decide) (by decide) (by decide) (by decide)

/-- A user object gets its length where the database answers and `truncate` succeeds. -/
theorem osdSetAttributes_resized {val : Mem} (isembedded : Bool) {content : List UInt8}
    (huser : s.db.objType pid oid = .userobject) (hfile : s.lookup env pid oid = some content)
    (hanswers : env.Answers pid oid s.db)
    (haccepts : env.sysFails (.truncate pid oid (SetPair.fileLen val (oid, logicalLenEntry))) = false) :
    osdSetAttributes env pid oid USER_INFO_PG UIAP_LOGICAL_LEN (some val) 8 isembedded s =
      some (.ok, s.resize pid oid (SetPair.fileLen val (oid, logicalLenEntry)) content isembedded) := by
  have hstored : PairStored env pid val (oid, logicalLenEntry) s _ := .resized ⟨rfl, rfl⟩ content hfile haccepts
  rw [osdSetAttributes_eq_setPair]
  exact setPair_accepted ⟨hanswers, logicalLen_allowed huser, _, hstored, rfl⟩

/-- **The logical length of a user object is set as asked exactly when it fits into 16 bits.** -/
theorem setsLength_iff (env : Env) (pid oid len : UInt64) (val : Mem) (isembedded : Bool)
    (content : List UInt8) (s : Target) (huser : s.db.objType pid oid = .userobject)
    (hfile : s.lookup env pid oid = some content) (hanswers : env.Answers pid oid s.db)
    (hval : val.read 0 8 = htonll len) (haccepts : env.sysFails (.truncate pid oid len) = false) :
    SetsLength env pid oid len val isembedded content s ↔ len.toNat < 2 ^ 16 := by
  constructor
  · rintro ⟨hrun, -⟩
    have ht := osdSetAttributes_length hval hfile _ _ hrun rfl
    have hfiles := congrArg (fun t => t.files pid oid) ht
    simp only [Target.resize_file, Option.some.injEq] at hfiles
    have hsize := congrArg List.length hfiles
    rw [resized_length, resized_length, narrow_toNat] at hsize
    omega
  · intro hshort
    have hfl : SetPair.fileLen val (oid, logicalLenEntry) = len := by
      rw [logicalLen_fileLen hval, narrow_eq hshort]
    rw [← hfl] at haccepts
    have hrun := osdSetAttributes_resized isembedded huser hfile hanswers haccepts
    rw [hfl] at hrun
    refine ⟨hrun, fun env' hq hstat => ?_⟩
    have htype : (s.resize pid oid len content isembedded).db.objType pid oid = .userobject := by
      rw [Target.resize_db]
      exact huser
    have hgets := getsAs_logicalLen hq htype hstat (Target.resize_file len content isembedded)
    rwa [resized_length, UInt64.ofNat_toNat] at hgets

theorem setsLength_iff_short :
    SetsLength Env.calm 0x10000 0x10000 20 (blobMem (htonll 20)) false [] oneObject :=
  (setsLength_iff Env.calm 0x10000 0x10000 20 (blobMem (htonll 20)) false [] oneObject
    (by decide +kernel) (by decide +kernel) ⟨rfl, fun _ => rfl⟩ (by decide +kernel) rfl).2 (by decide)

/-- A length of 2^16 leaves the file empty. -/
theorem setsLength_wraps :
    ¬ SetsLength Env.calm 0x10000 0x10000 0x10000 (blobMem (htonll 0x10000)) false [] oneObject ∧
      (osdSetAttributes Env.calm 0x10000 0x10000 USER_INFO_PG UIAP_LOGICAL_LEN
        (some (blobMem (htonll 0x10000))) 8 false oneObject).map (fun p => (p.1, p.2.files 0x10000 0x10000))
        = some (.ok, some []) := by
  have hrun : (osdSetAttributes Env.calm 0x10000 0x10000 USER_INFO_PG UIAP_LOGICAL_LEN
      (some (blobMem (htonll 0x10000))) 8 false oneObject).map (fun p => (p.1, p.2.files 0x10000 0x10000))
      = some (.ok, some []) := by decide +kernel
  refine ⟨fun h => ?_, hrun⟩
  rw [h.1, Option.map_some, Target.resize_file] at hrun
  have hsize := congrArg (fun r => r.map fun p => p.2.map List.length) hrun
  rw [Option.map_some, Option.map_some, resized_length] at hsize
  exact absurd hsize (by decide)

end OsdTarget
