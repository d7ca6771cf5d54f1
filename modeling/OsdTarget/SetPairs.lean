import OsdTarget.Base.Lockstep
import OsdTarget.SetGet
import OsdTarget.Cdb

/-!
# Set lists, pair by pair

`set_attr_list` sets every entry of its list on every object: one call of `osd_set_attributes` for each
pair of an object and an entry.  Its two loops are one walk over these pairs, which stops at the first that
is refused.  An accepted pair stores a row, resizes a data file, or is ignored.
-/

namespace OsdTarget

open Base

/-! ## Pairs -/

/-- An object id, and an entry to set on that object. -/
abbrev SetPair := UInt64 × ListEntry

/-- The entry on `n` objects from `oid` on. -/
def pairsOf (oid : UInt64) (n : Nat) (e : ListEntry) : List SetPair :=
  (List.range n).map fun k => (oid + UInt64.ofNat k, e)

/-- Entry after entry, each on all objects. -/
def setPairs (oid : UInt64) (n : Nat) (le : List ListEntry) : List SetPair := le.flatMap (pairsOf oid n)

/-- The entries the loop of `set_attr_list` comes to within `fuel` rounds, and whether it ends. -/
def visitEntries (indata : Mem) : Nat → Nat → UInt32 → List ListEntry × Bool
  | 0, _, listLen => ([], listLen = 0)
  | fuel + 1, listHdr, listLen =>
    if listLen = 0 then ([], true)
    else
      let e := listEntryAt indata listHdr
      let rest := visitEntries indata fuel (listHdr + e.size) (listLen - UInt32.ofNat e.size)
      (e :: rest.1, rest.2)

/-- The pairs of a command, in the order they are set. -/
def Command.setPairs (cmd : Command) (oid : UInt64) (numoid : UInt16) (fuel : Nat) : List SetPair :=
  match setListCheck cmd with
  | .use off len => OsdTarget.setPairs oid (createCount oid numoid)
      (visitEntries cmd.indata fuel (off + 8) (UInt32.ofNat len - 8)).1
  | _ => []

variable (env : Env) (pid : UInt64) (indata : Mem) (isembedded : Bool)

def setPair (p : SetPair) : OsdM Ret :=
  osdSetAttributes env pid p.1 p.2.page p.2.number (some (indata.shift p.2.cval)) p.2.len isembedded

/-- Pair after pair, until one is refused. -/
def runPairs : List SetPair → OsdM Ret
  | [] => return .ok
  | p :: ps => do
    let ret ← setPair env pid indata isembedded p
    if ret ≠ .ok then
      return ret
    runPairs ps

variable {env pid indata isembedded} {s t : Target} {oid : UInt64}

theorem runPairs_append (ps qs : List SetPair) : runPairs env pid indata isembedded (ps ++ qs) = (do
    let ret ← runPairs env pid indata isembedded ps
    if ret ≠ .ok then
      return ret
    runPairs env pid indata isembedded qs) := by
  induction ps with
  | nil =>
    show _ = (pure Ret.ok >>= _ : OsdM Ret)
    rw [pure_bind]
    rfl
  | cons p ps ih =>
    show (setPair env pid indata isembedded p >>= fun ret => if ret ≠ .ok then pure ret else
      runPairs env pid indata isembedded (ps ++ qs)) = ((setPair env pid indata isembedded p >>= fun ret =>
        if ret ≠ .ok then pure ret else runPairs env pid indata isembedded ps) >>= _)
    rw [bind_assoc]
    refine bind_congr fun ret => ?_
    by_cases hret : ret ≠ .ok
    · rw [if_pos hret, if_pos hret, pure_bind, if_pos hret]
    · rw [if_neg hret, if_neg hret, ih]

theorem pairsOf_succ (oid : UInt64) (n : Nat) (e : ListEntry) :
    pairsOf oid (n + 1) e = (oid, e) :: pairsOf (oid + 1) n e := by
  unfold pairsOf
  rw [List.range_succ_eq_map, List.map_cons, List.map_map]
  have hzero : oid + UInt64.ofNat 0 = oid := UInt64.add_zero oid
  have hsucc : ((fun k => (oid + UInt64.ofNat k, e)) ∘ Nat.succ) = fun k =>
      (oid + 1 + UInt64.ofNat k, e) := by
    funext k
    show (oid + UInt64.ofNat (k + 1), e) = _
    rw [UInt64.ofNat_add, UInt64.add_assoc, UInt64.add_comm (UInt64.ofNat k)]
    rfl
  rw [hzero, hsucc]

theorem setOnObjects_eq (e : ListEntry) (n : Nat) (oid : UInt64) :
    setOnObjects env pid e.page e.number (some (indata.shift e.cval)) e.len isembedded n oid
      = runPairs env pid indata isembedded (pairsOf oid n e) := by
  induction n generalizing oid with
  | zero => rfl
  | succ n ih =>
    rw [pairsOf_succ]
    unfold setOnObjects runPairs
    rw [ih]
    rfl

/-- **The two loops are one walk over the pairs.** -/
theorem setAttrListLoop_eq (oid : UInt64) (numoid : UInt16) (fuel listHdr : Nat) (listLen : UInt32) :
    setAttrListLoop env indata pid oid isembedded numoid fuel listHdr listLen = (do
      let ret ← runPairs env pid indata isembedded
        (setPairs oid (createCount oid numoid) (visitEntries indata fuel listHdr listLen).1)
      if ret ≠ .ok then
        return ret
      if (visitEntries indata fuel listHdr listLen).2 then return .ok else never) := by
  induction fuel generalizing listHdr listLen with
  | zero =>
    unfold setAttrListLoop visitEntries
    show _ = (pure Ret.ok >>= _ : OsdM Ret)
    have hok : ¬ Ret.ok ≠ Ret.ok := fun h => h rfl
    rw [pure_bind, if_neg hok]
    by_cases h : listLen = 0
    · rw [if_pos h]
      exact (if_pos (decide_eq_true h)).symm
    · rw [if_neg h]
      exact (if_neg (by simpa using h)).symm
  | succ fuel ih =>
    unfold setAttrListLoop visitEntries
    by_cases h : listLen = 0
    · rw [if_pos h, if_pos h]
      show _ = (pure Ret.ok >>= _ : OsdM Ret)
      rw [pure_bind]
      rfl
    · rw [if_neg h, if_neg h]
      dsimp only
      have hpairs : ∀ (n : Nat) (e : ListEntry) (le : List ListEntry),
          setPairs oid n (e :: le) = pairsOf oid n e ++ setPairs oid n le := fun _ _ _ => List.flatMap_cons
      rw [hpairs, runPairs_append, bind_assoc, setOnObjects_eq]
      refine bind_congr fun ret => ?_
      by_cases hret : ret ≠ .ok
      · rw [if_pos hret, if_pos hret, pure_bind, if_pos hret]
      · rw [if_neg hret, if_neg hret, ih]

/-! ## What a pair asks for -/

/-- The value of a pair. -/
def SetPair.val (indata : Mem) (p : SetPair) : Mem := indata.shift p.2.cval

/-- The length a pair gives a data file. -/
def SetPair.fileLen (indata : Mem) (p : SetPair) : UInt64 := (getNtohll (p.val indata) 0).toUInt16.toUInt64

/-- The row a pair stores. -/
def SetPair.row (pid : UInt64) (indata : Mem) (p : SetPair) : AttrRow :=
  attrRow pid p.1 p.2.page p.2.number ((p.val indata).read 0 p.2.len.toNat)

/-- The membership a pair on the collections page stores. -/
def SetPair.pointer (pid : UInt64) (indata : Mem) (p : SetPair) : CollRow :=
  ⟨bindInt64 pid, bindInt64 (getNtohll (p.val indata) 0), bindInt64 p.1, bindInt p.2.number⟩

/-- The content of a data file after `truncate`. -/
def resized (content : List UInt8) (len : UInt64) : List UInt8 :=
  content.take len.toNat ++ List.replicate (len.toNat - content.length) 0

/-- The tests of `osd_set_attributes`. -/
structure Db.Allows (d : Db) (pid : UInt64) (indata : Mem) (p : SetPair) : Prop where
  present : d.Has (bindInt64 pid) (bindInt64 p.1)
  typed : d.objType pid p.1 ≠ .illegal
  settable : issettablePage (d.objType pid p.1) p.2.page = true
  modifiable : p.2.number ≠ ATTRNUM_UNMODIFIABLE
  given : p.2.len ≠ 0
  info : p.2.number = ATTRNUM_INFO → p.2.len.toNat ≤ ATTR_PAGE_ID_LEN ∧
    hasNul (some (p.val indata)) p.2.len = true
  short : p.2.len.toNat ≤ ATTR_LEN_UB

/-- They let an attribute of a user object through that is not an information attribute. -/
theorem allows_userobject {e : ListEntry} (huser : s.db.objType pid oid = .userobject)
    (hpage : issettablePage .userobject e.page = true) (hmodifiable : e.number ≠ ATTRNUM_UNMODIFIABLE)
    (hinfo : e.number ≠ ATTRNUM_INFO) (hgiven : e.len ≠ 0) (hshort : e.len.toNat ≤ ATTR_LEN_UB) :
    s.db.Allows pid indata (oid, e) where
  present := has_of_objType huser
  typed := by
    rw [huser]
    nofun
  settable := by
    rw [huser]
    exact hpage
  modifiable := hmodifiable
  given := hgiven
  info h := absurd h hinfo
  short := hshort

/-- It is a row of `attr` that is stored; `formatting` for a FORMAT OSD under way. -/
def SetPair.StoresRow (p : SetPair) (formatting : Prop) : Prop :=
  p.2.page ≠ USER_COLL_PG ∧ (p.2.page = USER_INFO_PG → p.2.number = UIAP_USERNAME) ∧
    (p.2.page = ROOT_INFO_PG → p.2.number = RIAP_OSD_NAME ∨
      p.2.number = RIAP_OSD_SYSTEM_ID ∧ formatting ∧ p.2.len.toNat < RIAP_OSD_SYSTEM_ID_LEN)

/-- It is a membership that is stored. -/
def SetPair.Points (p : SetPair) (d : Db) (pid : UInt64) (indata : Mem) : Prop :=
  p.2.page = USER_COLL_PG ∧ ¬ (p.2.number < UCAP_COLL_PTR_LB ∨ p.2.number > UCAP_COLL_PTR_UB) ∧
    p.2.len = 8 ∧
    d.Has (bindInt64 pid) (bindInt64 (getNtohll (p.val indata) 0))

/-- The data file is resized. -/
def SetPair.Resizes (p : SetPair) : Prop := p.2.page = USER_INFO_PG ∧ p.2.number = UIAP_LOGICAL_LEN

/-- Nothing comes of it. -/
def SetPair.Ignored (p : SetPair) : Prop :=
  p.2.page = ROOT_INFO_PG ∧ p.2.number ≠ RIAP_OSD_NAME ∧ p.2.number ≠ RIAP_OSD_SYSTEM_ID

/-- The queries about an object are answered. -/
structure Env.Answers (env : Env) (pid oid : UInt64) (d : Db) : Prop where
  present : env.queryFails (.objIspresent (bindInt64 pid) (bindInt64 oid)) d = false
  typed : OBJECT_PID_LB ≤ pid ∧ OBJECT_OID_LB ≤ oid →
    env.queryFails (.objGetType (bindInt64 pid) (bindInt64 oid)) d = false

/-- What `osd_set_attributes` leaves of an accepted pair. -/
inductive PairStored (env : Env) (pid : UInt64) (indata : Mem) (p : SetPair) (s : Target) : Target → Prop
  | row (h : p.StoresRow (s.ccap.cdbSrvcAct = OSD_FORMAT_OSD))
    (hdms : env.dmsFails (.attrSet (p.row pid indata)) s.db = false) :
    PairStored env pid indata p s (s.withAttr (p.row pid indata))
  | resized (h : p.Resizes) (c : List UInt8) (hc : s.lookup env pid p.1 = some c)
    (hsys : env.sysFails (.truncate pid p.1 (p.fileLen indata)) = false) :
    PairStored env pid indata p s (s.setFile pid p.1 (some (resized c (p.fileLen indata))))
  | ignored (h : p.Ignored) : PairStored env pid indata p s s
  | pointed (h : p.Points s.db pid indata)
    (hquery : env.queryFails (.objIspresent (bindInt64 pid) (bindInt64 (getNtohll (p.val indata) 0))) s.db
      = false)
    (hdms : env.dmsFails (.collInsert (p.pointer pid indata)) s.db = false) (t : List CollRow)
    (ht : insertColl (p.pointer pid indata) s.db.coll = some t) :
    PairStored env pid indata p s (s.setColl t)

/-- One call is a pair on a list that holds the value alone. -/
theorem osdSetAttributes_eq_setPair (env : Env) (pid oid : UInt64) (page number : UInt32) (val : Mem)
    (len : UInt16) (isembedded : Bool) :
    osdSetAttributes env pid oid page number (some val) len isembedded
      = setPair env pid val isembedded (oid, ⟨page, number, len, 0⟩) := by
  have hshift : val.shift 0 = val := funext fun a => congrArg val (Nat.zero_add a)
  rw [setPair, hshift]

/-! ## Pairs that are accepted or refused -/

section

variable {p : SetPair} {page number : UInt32} {len : UInt16} {m : Mem}

/-- The lengths that SET ATTRIBUTES hands to it have 16 bits. -/
theorem SetPair.fileLen_lt (indata : Mem) (p : SetPair) : (p.fileLen indata).toNat < 2 ^ 63 :=
  Nat.lt_trans (UInt16.toNat_lt _) (by decide)

theorem setLogicalLen_run (newLen : UInt64) : setLogicalLen env pid oid newLen s =
    match s.lookup env pid oid with
    | none => some (.err .osdError, s)
    | some c => if 2 ^ 63 ≤ newLen.toNat ∨ env.sysFails (.truncate pid oid newLen) then some (.err .osdError, s)
      else some (.ok, s.setFile pid oid (some (resized c newLen))) := by
  unfold setLogicalLen truncateFile
  have hget : (get : OsdM Target) s = some (s, s) := rfl
  show (((get >>= fun s => match s.lookup env pid oid with
    | none => pure false
    | some c => _) >>= _ : OsdM Ret)) s = _
  rw [bind_assoc, bind_of_some hget]
  cases s.lookup env pid oid with
  | none => rfl
  | some c =>
    dsimp only
    split <;> rfl

/-- A pair is stored, or it is refused and nothing happens. -/
def PairOutcome (env : Env) (pid : UInt64) (indata : Mem) (p : SetPair) (s : Target) (ret : Ret)
    (s' : Target) : Prop :=
  ret ≠ .ok ∧ s' = s ∨ ret = .ok ∧ PairStored env pid indata p s s'

theorem pairOutcome_err (e : Errno) : PairOutcome env pid indata p s (.err e) s := .inl ⟨nofun, rfl⟩

theorem attrSetAttrRow_pair (h : p.StoresRow (s.ccap.cdbSrvcAct = OSD_FORMAT_OSD)) :
    Ends (attrSetAttrRow env pid p.1 p.2.page p.2.number (some (p.val indata)) p.2.len) s
      (PairOutcome env pid indata p s) := by
  refine dbExecDms_ends (fun d hdms hd => ?_) fun _ => pairOutcome_err _
  cases hd
  exact .inr ⟨rfl, .row h hdms⟩

theorem setUiap_pair (hpage : p.2.page = USER_INFO_PG) :
    Ends (setUiap env pid p.1 p.2.number (some (p.val indata)) p.2.len) s
      (PairOutcome env pid indata p s) := by
  refine ends_ite_of (fun hname => ?_) fun _ => ends_ite_of (fun hlen => ?_) fun _ =>
    ends_pure.2 (pairOutcome_err _)
  · unfold attrSetConversion
    rw [← hpage]
    refine attrSetAttrRow_pair ⟨fun h => ?_, fun _ => hname, fun h => ?_⟩
    · exact absurd (hpage.symm.trans h) (by decide)
    · exact absurd (hpage.symm.trans h) (by decide)
  · intro ret s' hrun
    have hrun : setLogicalLen env pid p.1 (p.fileLen indata) s = some (ret, s') := hrun
    rw [setLogicalLen_run] at hrun
    cases hfound : s.lookup env pid p.1 with
    | none =>
      rw [hfound] at hrun
      cases hrun
      exact pairOutcome_err _
    | some c =>
      rw [hfound] at hrun
      dsimp only at hrun
      split at hrun
      · cases hrun
        exact pairOutcome_err _
      · next hno =>
        cases hrun
        exact .inr ⟨rfl, .resized ⟨hpage, hlen⟩ c hfound (by simpa using (not_or.1 hno).2)⟩

theorem setRiap_pair (hpage : p.2.page = ROOT_INFO_PG) :
    Ends (setRiap env pid p.1 p.2.number (some (p.val indata)) p.2.len) s
      (PairOutcome env pid indata p s) := by
  have hcoll : p.2.page ≠ USER_COLL_PG := fun h => absurd (hpage.symm.trans h) (by decide)
  have hinfo : p.2.page ≠ USER_INFO_PG := fun h => absurd (hpage.symm.trans h) (by decide)
  have hset : (p.2.number = RIAP_OSD_SYSTEM_ID → s.ccap.cdbSrvcAct = OSD_FORMAT_OSD →
      p.2.len.toNat < RIAP_OSD_SYSTEM_ID_LEN) →
      Ends (attrSetAttr env pid p.1 ROOT_INFO_PG p.2.number (some (p.val indata)) p.2.len) s
        (PairOutcome env pid indata p s) := by
    intro hshort
    refine ends_ite_of (fun h => absurd h (by decide)) fun _ =>
      ends_ite_of (fun _ => ?_) fun h => absurd rfl h
    refine ends_ite_of (fun hid => ?_) fun hid => ends_ite_of (fun hname => ?_) fun hname => ?_
    · refine ends_bind.2 (ends_get.2 (ends_ite_of (fun hf => ?_) fun _ => ends_pure.2 (pairOutcome_err _)))
      refine ends_ite_of (fun _ => ends_pure.2 (pairOutcome_err _)) fun _ => ?_
      rw [← hid, ← hpage]
      exact attrSetAttrRow_pair ⟨hcoll, fun h => absurd h hinfo, fun _ => .inr ⟨hid, hf, hshort hid hf⟩⟩
    · rw [← hname, ← hpage]
      exact attrSetAttrRow_pair ⟨hcoll, fun h => absurd h hinfo, fun _ => .inl hname⟩
    · exact ends_pure.2 (.inr ⟨rfl, .ignored ⟨hpage, hname, hid⟩⟩)
  refine ends_bind.2 (ends_get.2 (ends_ite_of (fun _ => ?_) fun hno => ?_))
  · refine ends_ite_of (fun _ => ends_pure.2 (pairOutcome_err _)) fun _ => ends_ite_of
      (fun _ => ends_pure.2 (pairOutcome_err _)) fun hlen => ?_
    exact hset fun _ _ => not_not.1 hlen
  · exact hset fun hid hf => absurd ⟨hid, hf⟩ hno

theorem setCap_pair (hpage : p.2.page = USER_COLL_PG) (hgiven : p.2.len ≠ 0) :
    Ends (setCap env pid p.1 p.2.number (some (p.val indata)) p.2.len) s
      (PairOutcome env pid indata p s) := by
  refine ends_ite_of (fun _ => ends_pure.2 (pairOutcome_err _)) fun hrange => ends_ite_of
    (fun h => absurd h hgiven) fun _ => ends_ite_of
      (fun _ => ends_pure.2 (pairOutcome_err _)) fun hlen => ?_
  refine ends_bind.2 (dbExecQuery_ends (fun hquery => ?_) fun _ => ends_ite_of
    (fun _ => ends_pure.2 (pairOutcome_err _)) fun h => absurd (.inl (by simp)) h)
  refine ends_ite_of (fun _ => ends_pure.2 (pairOutcome_err _)) fun hp => ?_
  refine ends_bind.2 (dbExecDms_ends (fun d hdms hd => ?_) fun _ => ends_ite_of
    (fun _ => ends_pure.2 (pairOutcome_err _)) fun h => absurd (by simp) h)
  simp only [Dms.run, Option.map_eq_some_iff] at hd
  obtain ⟨t, ht, rfl⟩ := hd
  refine ends_ite_of (fun h => absurd rfl h) fun _ => ends_pure.2 (.inr ⟨rfl, ?_⟩)
  exact .pointed ⟨hpage, hrange, by simpa using hlen, by simpa using hp⟩ hquery hdms t ht

theorem storeAttribute_pair (hgiven : p.2.len ≠ 0) :
    Ends (storeAttribute env pid p.1 p.2.page p.2.number (some (p.val indata)) p.2.len) s
      (PairOutcome env pid indata p s) := by
  have hspecial : ∀ m : OsdM Ret, Ends m s (PairOutcome env pid indata p s) →
      Ends (m >>= fun r => if r = .ok then pure .ok else pure (cdbErr pid p.1)) s
        (PairOutcome env pid indata p s) := by
    refine fun m hm => ends_call hm fun ret t h => ends_ite_of (fun hok => ends_pure.2 ?_)
      fun hno => ends_pure.2 ?_
    · rwa [hok] at h
    · rcases h with ⟨-, rfl⟩ | ⟨hok, -⟩
      · exact .inl ⟨nofun, rfl⟩
      · exact absurd hok hno
  refine ends_ite_of (fun hui => hspecial _ (setUiap_pair hui)) fun hui =>
    ends_ite_of (fun hri => hspecial _ (setRiap_pair hri)) fun hri =>
    ends_ite_of (fun hcap => hspecial _ (setCap_pair hcap hgiven)) fun hcap =>
    ends_ite_of (fun hlen => absurd hlen hgiven) fun _ => ?_
  refine ends_call (attrSetAttrRow_pair ⟨hcap, fun h => absurd h hui, fun h => absurd h hri⟩)
    fun ret t h => ?_
  rcases h with ⟨hno, rfl⟩ | ⟨rfl, hst⟩
  · exact ends_ite_of (fun hok => absurd hok hno) fun _ => ends_pure.2 (.inl ⟨nofun, rfl⟩)
  · exact ends_ite_of (fun _ => ends_pure.2 (.inr ⟨rfl, hst⟩)) fun h => absurd rfl h

/-- The state after an accepted pair: the page of the current command is filled unless it is embedded. -/
def Target.shown (s t : Target) (pid : UInt64) (isembedded : Bool) (p : SetPair) : Target :=
  if isembedded then t else { t with ccap := fillCcap (s.db.objType pid p.1) pid p.1 0 }

theorem getObjType_run : getObjType env pid oid s = some
    (if (OBJECT_PID_LB ≤ pid ∧ OBJECT_OID_LB ≤ oid) ∧
        env.queryFails (.objGetType (bindInt64 pid) (bindInt64 oid)) s.db = true then .illegal
      else s.db.objType pid oid, s) := by
  have hzero : ∀ x : UInt64, x = 0 → ¬ OBJECT_OID_LB ≤ x := by
    rintro _ rfl
    decide
  unfold getObjType Db.objType
  by_cases hroot : pid = ROOT_PID ∧ oid = ROOT_OID
  · rw [if_pos hroot, if_pos hroot, if_neg fun h => hzero oid hroot.2 h.1.2]
    rfl
  by_cases hpart : PARTITION_PID_LB ≤ pid ∧ oid = PARTITION_OID
  · rw [if_neg hroot, if_neg hroot, if_pos hpart, if_pos hpart, if_neg fun h => hzero oid hpart.2 h.1.2]
    rfl
  rw [if_neg hroot, if_neg hroot, if_neg hpart, if_neg hpart]
  by_cases hobj : OBJECT_PID_LB ≤ pid ∧ OBJECT_OID_LB ≤ oid
  · rw [if_pos hobj, if_pos hobj]
    by_cases hq : env.queryFails (.objGetType (bindInt64 pid) (bindInt64 oid)) s.db = true
    · have hget : objGetType env pid oid s = some ((.err .osdError, .illegal), s) :=
        congrFun (if_pos hq : (ite _ _ _ : OsdM _) = _) s
      rw [bind_of_some hget, if_pos ⟨hobj, hq⟩]
      rfl
    · have hget : objGetType env pid oid s = some ((.ok, s.db.typeOf (bindInt64 pid) (bindInt64 oid)), s) :=
        congrFun (if_neg hq : (ite _ _ _ : OsdM _) = _) s
      rw [bind_of_some hget, if_neg fun h => hq h.2]
      rfl
  · rw [if_neg hobj, if_neg hobj, if_neg fun h => hobj h.1]
    rfl

/-- What an accepted pair comes down to. -/
def PairAccepted (env : Env) (pid : UInt64) (indata : Mem) (isembedded : Bool) (p : SetPair)
    (s s' : Target) :
    Prop :=
  env.Answers pid p.1 s.db ∧ s.db.Allows pid indata p ∧
    ∃ t, PairStored env pid indata p s t ∧ s' = s.shown t pid isembedded p

/-- **What becomes of a pair**, in any environment. -/
theorem setPair_inv : Ends (setPair env pid indata isembedded p) s fun ret s' =>
    ret ≠ .ok ∧ s' = s ∨ ret = .ok ∧ PairAccepted env pid indata isembedded p s s' := by
  have hfail : ∀ ret : Ret, ret ≠ .ok → Ends (pure ret : OsdM Ret) s (fun ret s' => ret ≠ .ok ∧ s' = s ∨
      ret = .ok ∧ PairAccepted env pid indata isembedded p s s') := fun ret h => ends_pure.2 (.inl ⟨h, rfl⟩)
  refine ends_bind.2 (dbExecQuery_ends (fun hpresent => ?_) fun _ => ends_ite_of (fun _ => hfail _ nofun)
    fun h => absurd (.inl (by simp)) h)
  refine ends_ite_of (fun _ => hfail _ nofun) fun hp => ends_bind.2 ((ends_of_run getObjType_run).2 ?_)
  refine ends_ite_of (fun _ => hfail _ nofun) fun hne => ?_
  split_ifs at hne with hq
  · exact absurd rfl hne
  rw [if_neg hq]
  refine ends_ite_of (fun _ => hfail _ nofun) fun hset => ends_ite_of (fun _ => hfail _ nofun) fun hnum =>
    ends_ite_of (fun _ => hfail _ nofun) fun hgiven => ends_ite_of (fun _ => hfail _ nofun) fun hinfo =>
    ends_ite_of (fun _ => hfail _ nofun) fun hlen => ?_
  have hanswers : env.Answers pid p.1 s.db := by
    refine ⟨hpresent, fun h => ?_⟩
    simpa using fun hf => hq ⟨h, hf⟩
  have hgiven : p.2.len ≠ 0 := fun h => hgiven (.inr ⟨rfl, h⟩)
  have hallows : s.db.Allows pid indata p := by
    refine ⟨by simpa using hp, hne, by simpa using hset, hnum, hgiven, fun h => ?_, Nat.not_lt.1 hlen⟩
    rw [not_and, not_or] at hinfo
    have hinfo := hinfo h
    exact ⟨Nat.not_lt.1 hinfo.1, not_not.1 hinfo.2⟩
  refine ends_call (storeAttribute_pair hgiven) fun ret v h => ?_
  rcases h with ⟨hno, rfl⟩ | ⟨rfl, hst⟩
  · exact ends_ite_of (fun _ => hfail _ hno) fun h => absurd hno h
  · refine ends_ite_of (fun h => absurd rfl h) fun _ => ends_ite_of (fun he => ?_) fun he => ?_
    · refine ends_bind.2 (ends_modify.2 (ends_pure.2 (.inr ⟨rfl, hanswers, hallows, v, hst, ?_⟩)))
      have he : isembedded = false := by simpa using he
      unfold Target.shown
      rw [he]
      rfl
    · refine ends_pure.2 (.inr ⟨rfl, hanswers, hallows, v, hst, ?_⟩)
      have he : isembedded = true := by simpa using he
      unfold Target.shown
      rw [he]
      rfl

theorem objIspresent_accepted (hq : env.queryFails
    (.objIspresent (bindInt64 pid) (bindInt64 oid)) s.db = false)
    (hhas : s.db.Has (bindInt64 pid) (bindInt64 oid)) : objIspresent env pid oid s =
      some ((.ok, true), s) := by
  show (if env.queryFails _ s.db = true then _ else _ : OsdM _) s = _
  rw [if_neg (by simp [hq])]
  show some ((Ret.ok, decide (s.db.Has (bindInt64 pid) (bindInt64 oid))), s) = _
  rw [decide_eq_true hhas]

theorem attrSetAttrRow_stored (hdms : env.dmsFails (.attrSet (p.row pid indata)) s.db = false) :
    attrSetAttrRow env pid p.1 p.2.page p.2.number (some (p.val indata)) p.2.len s
      = some (.ok, s.withAttr (p.row pid indata)) :=
  dbExecDms_accepted hdms rfl

theorem setRiap_stored (hpage : p.2.page = ROOT_INFO_PG) {t : Target}
    (h : PairStored env pid indata p s t) :
    setRiap env pid p.1 p.2.number (some (p.val indata)) p.2.len s = some (.ok, t) := by
  have hget : (get : OsdM Target) s = some (s, s) := rfl
  have hroot : ROOT_INFO_PG ≠ USER_INFO_PG := by decide
  have hids : RIAP_OSD_NAME ≠ RIAP_OSD_SYSTEM_ID := by decide
  unfold setRiap
  rw [bind_of_some hget]
  cases h with
  | row h hdms =>
    have hset := attrSetAttrRow_stored hdms
    rw [hpage] at hset
    rcases h.2.2 hpage with hname | ⟨hid, hformat, hshort⟩
    · rw [hname] at hset ⊢
      have hskip : ¬ (RIAP_OSD_NAME = RIAP_OSD_SYSTEM_ID ∧ s.ccap.cdbSrvcAct = OSD_FORMAT_OSD) :=
        fun h => hids h.1
      rw [if_neg hskip]
      unfold attrSetAttr
      rw [if_neg hroot, if_pos rfl, if_neg hids, if_pos rfl]
      exact hset
    · rw [hid] at hset ⊢
      rw [if_pos ⟨rfl, hformat⟩, if_neg (Nat.not_lt.2 (Nat.le_of_lt hshort)), if_neg (not_not.2 hshort)]
      unfold attrSetAttr
      rw [if_neg hroot, if_pos rfl, if_pos rfl]
      refine (bind_of_some hget).trans ?_
      rw [if_pos hformat, if_neg (Nat.not_lt.2 (Nat.le_of_lt hshort))]
      exact hset
  | resized h => exact absurd (h.1.symm.trans hpage) (by decide)
  | ignored h =>
    rw [if_neg fun hf => h.2.2 hf.1]
    unfold attrSetAttr
    rw [if_neg hroot, if_pos rfl, if_neg h.2.2, if_neg h.2.1]
    rfl
  | pointed h => exact absurd (h.1.symm.trans hpage) (by decide)

theorem setUiap_stored (hpage : p.2.page = USER_INFO_PG) {t : Target}
    (h : PairStored env pid indata p s t) :
    setUiap env pid p.1 p.2.number (some (p.val indata)) p.2.len s = some (.ok, t) := by
  unfold setUiap
  cases h with
  | row h hdms =>
    have hset := attrSetAttrRow_stored hdms
    rw [hpage] at hset
    rw [if_pos (h.2.1 hpage)]
    exact hset
  | resized h c hc hsys =>
    have hname : p.2.number ≠ UIAP_USERNAME := fun hn => absurd (h.2.symm.trans hn) (by decide)
    rw [if_neg hname, if_pos h.2]
    show setLogicalLen env pid p.1 (p.fileLen indata) s = _
    rw [setLogicalLen_run, hc]
    exact if_neg (truncates hsys (p.fileLen_lt indata))
  | ignored h => exact absurd (h.1.symm.trans hpage) (by decide)
  | pointed h => exact absurd (h.1.symm.trans hpage) (by decide)

theorem setCap_stored (hpage : p.2.page = USER_COLL_PG) {t : Target} (h : PairStored env pid indata p s t) :
    setCap env pid p.1 p.2.number (some (p.val indata)) p.2.len s = some (.ok, t) := by
  cases h with
  | row h => exact absurd hpage h.1
  | resized h => exact absurd (h.1.symm.trans hpage) (by decide)
  | ignored h => exact absurd (h.1.symm.trans hpage) (by decide)
  | pointed h hquery hdms t ht =>
    obtain ⟨-, hrange, hlen, hhas⟩ := h
    have hinsert : collInsert env pid (getNtohll (p.val indata) 0) p.1 p.2.number s =
        some (.ok, s.setColl t) :=
      dbExecDms_accepted hdms (by simp only [Dms.run]; exact congrArg _ ht)
    have h0 : p.2.len ≠ 0 := fun h => absurd (hlen.symm.trans h) (by decide)
    unfold setCap
    rw [if_neg hrange, if_neg h0, if_neg (not_not.2 hlen)]
    dsimp only
    rw [bind_of_some (objIspresent_accepted hquery hhas)]
    exact (bind_of_some hinsert).trans rfl

theorem storeAttribute_stored {t : Target} (h : PairStored env pid indata p s t) (hgiven : p.2.len ≠ 0) :
    storeAttribute env pid p.1 p.2.page p.2.number (some (p.val indata)) p.2.len s = some (.ok, t) := by
  have hspecial : ∀ m : OsdM Ret, m s = some (.ok, t) →
      (m >>= fun r => if r = .ok then pure .ok else pure (cdbErr pid p.1)) s = some (.ok, t) :=
    fun m hm => (bind_of_some hm).trans rfl
  unfold storeAttribute
  by_cases hui : p.2.page = USER_INFO_PG
  · rw [if_pos hui]
    exact hspecial _ (setUiap_stored hui h)
  by_cases hri : p.2.page = ROOT_INFO_PG
  · rw [if_neg hui, if_pos hri]
    exact hspecial _ (setRiap_stored hri h)
  by_cases hcap : p.2.page = USER_COLL_PG
  · rw [if_neg hui, if_neg hri, if_pos hcap]
    exact hspecial _ (setCap_stored hcap h)
  rw [if_neg hui, if_neg hri, if_neg hcap, if_neg hgiven]
  cases h with
  | row h hdms => exact (bind_of_some (attrSetAttrRow_stored hdms)).trans rfl
  | resized h => exact absurd h.1 hui
  | ignored h => exact absurd h.1 hri
  | pointed h => exact absurd h.1 hcap

/-- A pair that passes the tests and can be stored is accepted. -/
theorem setPair_accepted {s' : Target} (h : PairAccepted env pid indata isembedded p s s') :
    setPair env pid indata isembedded p s = some (.ok, s') := by
  obtain ⟨hanswers, hallows, t, hst, rfl⟩ := h
  have htype : getObjType env pid p.1 s = some (s.db.objType pid p.1, s) := by
    rw [getObjType_run, if_neg fun h => absurd (hanswers.typed h.1) (by simp [h.2])]
  have hgiven : ¬ (((some (indata.shift p.2.cval)).isNone = true ∧ p.2.len ≠ 0) ∨
      ((some (indata.shift p.2.cval)).isSome = true ∧ p.2.len = 0)) := by
    simp [hallows.given]
  have hinfo : ¬ (p.2.number = ATTRNUM_INFO ∧ (p.2.len.toNat > ATTR_PAGE_ID_LEN ∨
      ¬ hasNul (some (indata.shift p.2.cval)) p.2.len = true)) := by
    rintro ⟨hn, h | h⟩
    · exact absurd (hallows.info hn).1 (Nat.not_le.2 h)
    · exact h (hallows.info hn).2
  unfold setPair osdSetAttributes
  rw [bind_of_some (objIspresent_accepted hanswers.present hallows.present)]
  show (getObjType env pid p.1 >>= _ : OsdM Ret) s = _
  rw [bind_of_some htype, if_neg hallows.typed, if_neg (by simp [hallows.settable]),
    if_neg hallows.modifiable]
  rw [if_neg hgiven, if_neg hinfo, if_neg (Nat.not_lt.2 hallows.short)]
  refine (bind_of_some (storeAttribute_stored hst hallows.given)).trans ?_
  unfold Target.shown
  cases isembedded <;> rfl

end

end OsdTarget
