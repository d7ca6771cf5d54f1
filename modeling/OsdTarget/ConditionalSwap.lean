import OsdTarget.FailedSets
import OsdTarget.Registers

/-!
# GEN CAS

`osd_gen_cas` is meant to store `swap` in an attribute exactly when the attribute holds `cmp`, the empty
string standing for an attribute that is absent.  It also stores `swap` where the attribute is absent and
`cmp` is not empty.
-/

namespace OsdTarget

open Base

variable {env : Env} {s t : Target} {pid oid : UInt64} {page number : UInt32}

/-! ## Operands -/

/-- A byte string as `exec_gen_cas` passes it: a NULL pointer when it is empty. -/
structure CasBytes where
  ptr : Option Mem
  len : UInt16
  null : ptr.isNone = true ↔ len = 0

namespace CasBytes

def bytes (b : CasBytes) : List UInt8 := givenBytes b.ptr b.len

theorem length_bytes (b : CasBytes) : b.bytes.length = b.len.toNat := by
  obtain ⟨ptr, len, hnull⟩ := b
  cases ptr with
  | some m => exact Mem.read_length _ _ _
  | none =>
    obtain rfl := hnull.1 rfl
    rfl

theorem bytes_eq_nil (b : CasBytes) : b.bytes = [] ↔ b.len = 0 := by
  rw [← List.length_eq_zero_iff, b.length_bytes]
  exact ⟨fun h => UInt16.toNat_inj.1 h, fun h => by rw [h]; rfl⟩

/-- The test for a value to be stored. -/
theorem isGiven (b : CasBytes) : 0 < b.len ∧ b.ptr.isSome = true ↔ b.bytes ≠ [] := by
  rw [ne_eq, b.bytes_eq_nil, ← b.null]
  cases hptr : b.ptr with
  | none => exact ⟨fun h => absurd h.2 Bool.false_ne_true, fun h => absurd rfl h⟩
  | some m =>
    refine ⟨fun _ h => absurd h Bool.false_ne_true, fun _ => ⟨?_, rfl⟩⟩
    have hne : b.len ≠ 0 := by
      rw [ne_eq, ← b.null, hptr]
      exact Bool.false_ne_true
    exact UInt16.pos_iff_ne_zero.2 hne

/-- The test for the attribute to be deleted. -/
theorem isEmpty (b : CasBytes) : b.len = 0 ∧ b.ptr.isNone = true ↔ b.bytes = [] := by
  rw [b.bytes_eq_nil]
  exact ⟨And.left, fun h => ⟨h, b.null.2 h⟩⟩

/-- The comparison. -/
theorem same_iff (b : CasBytes) (v : List UInt8) :
    (decide (v.length = b.len.toNat) && (match b.ptr with
      | some m => decide (m.read 0 v.length = v)
      | none => decide (v.length = 0))) = true ↔ v = b.bytes := by
  rw [Bool.and_eq_true, decide_eq_true_eq, ← b.length_bytes]
  unfold bytes
  cases hptr : b.ptr with
  | none =>
    rw [decide_eq_true_eq]
    exact ⟨fun h => List.length_eq_zero_iff.1 h.2, fun h => by rw [h]; exact ⟨rfl, rfl⟩⟩
  | some m =>
    rw [decide_eq_true_eq]
    constructor
    · rintro ⟨hlen, hread⟩
      rw [← hread, hlen]
      exact congrArg (m.read 0) (Mem.read_length _ _ _)
    · rintro rfl
      exact ⟨rfl, congrArg (m.read 0) (Mem.read_length _ _ _)⟩

end CasBytes

/-! ## The attribute -/

/-- The key of the attribute. -/
def attrKey (pid oid : UInt64) (page number : UInt32) : Int × Int × Int × Int :=
  (attrRow pid oid page number []).key

/-- `attr_set_attr` accepts the attribute and does nothing: it is one of an information page that is not
stored, or the logical length that the data file has. -/
def Target.IgnoresAttr (s : Target) (env : Env) (pid oid : UInt64) (page number : UInt32)
    (val : Option Mem) : Prop :=
  page = USER_INFO_PG ∧ number ≠ UIAP_USERNAME ∧ (number = UIAP_LOGICAL_LEN → ∃ m c, val = some m ∧
      env.sysFails (.truncate pid oid (getNtohll m 0)) = false ∧ s.lookup env pid oid = some c ∧
        c.length = (getNtohll m 0).toNat ∧ c.length < 2 ^ 63) ∨
    page = ROOT_INFO_PG ∧ number ≠ RIAP_OSD_SYSTEM_ID ∧ number ≠ RIAP_OSD_NAME

theorem attrSetAttr_stored (henv : env.RunsSql) {val : Option Mem} {len : UInt16}
    (h : s.StoresRow page number len) :
    attrSetAttr env pid oid page number val len s =
      some (.ok, s.withAttr (storedRow pid oid page number val len)) := by
  have hrow : attrSetAttrRow env pid oid page number val len s =
      some (.ok, s.withAttr (storedRow pid oid page number val len)) :=
    dbExecDms_accepted (henv.dms _ _) rfl
  unfold Target.StoresRow at h
  unfold attrSetAttr
  by_cases hui : page = USER_INFO_PG
  · rw [if_pos hui] at h ⊢
    subst hui h
    exact hrow
  rw [if_neg hui] at h ⊢
  by_cases hri : page = ROOT_INFO_PG
  · rw [if_pos hri] at h ⊢
    subst hri
    rcases h with rfl | ⟨rfl, hformat, hlen⟩
    · exact hrow
    · rw [if_pos rfl]
      refine bind_get.trans ?_
      rw [if_pos hformat, if_neg (by omega)]
      exact hrow
  rw [if_neg hri]
  exact hrow

theorem setLogicalLen_same {newLen : UInt64} {c : List UInt8} (hc : s.lookup env pid oid = some c)
    (hsys : env.sysFails (.truncate pid oid newLen) = false) (hlen : c.length = newLen.toNat)
    (hfits : c.length < 2 ^ 63) : setLogicalLen env pid oid newLen s = some (.ok, s) := by
  rw [setLogicalLen_run, hc]
  refine (if_neg (truncates hsys (hlen ▸ hfits))).trans ?_
  unfold resized
  rw [← hlen, List.take_length, Nat.sub_self, List.replicate_zero, List.append_nil,
    Target.setFile_self (Target.files_of_lookup hc)]

theorem attrSetAttr_ignored {val : Option Mem} {len : UInt16}
    (h : s.IgnoresAttr env pid oid page number val) :
    attrSetAttr env pid oid page number val len s = some (.ok, s) := by
  unfold attrSetAttr
  rcases h with ⟨rfl, hname, hsize⟩ | ⟨rfl, hid, hname⟩
  · rw [if_pos rfl, if_neg hname]
    by_cases hlen : number = UIAP_LOGICAL_LEN
    · obtain ⟨m, c, rfl, hsys, hc, hlength, hfits⟩ := hsize hlen
      rw [if_pos hlen]
      exact setLogicalLen_same hc hsys hlength hfits
    · rw [if_neg hlen]
      rfl
  · rw [if_neg (by decide), if_pos rfl, if_neg hid, if_neg hname]
    rfl

/-- A call that sets the logical length and leaves the file as it was found it with that length. -/
theorem length_of_setLogicalLen {newLen : UInt64} (hrun : setLogicalLen env pid oid newLen s = some (.ok, t))
    (hfile : t.files pid oid = s.files pid oid) : ∃ c, env.sysFails (.truncate pid oid newLen) = false ∧
      s.lookup env pid oid = some c ∧ c.length = newLen.toNat ∧ c.length < 2 ^ 63 := by
  rw [setLogicalLen_run] at hrun
  cases hc : s.lookup env pid oid with
  | none =>
    rw [hc] at hrun
    exact nomatch hrun
  | some c =>
    rw [hc] at hrun
    dsimp only at hrun
    by_cases hno : 2 ^ 63 ≤ newLen.toNat ∨ env.sysFails (.truncate pid oid newLen) = true
    · rw [if_pos hno] at hrun
      exact nomatch hrun
    · rw [if_neg hno] at hrun
      obtain ⟨hfits, hsys⟩ := not_or.1 hno
      cases hrun
      rw [files_setFile, Target.files_of_lookup hc] at hfile
      have hlength : c.length = newLen.toNat := by
        rw [← Option.some.inj hfile, resized_length]
      exact ⟨c, by simpa using hsys, rfl, hlength, by omega⟩

/-- Elsewhere it fails, or resizes the data file. -/
theorem ignoresAttr_of_ok {val : Option Mem} {len : UInt16} (h : ¬ s.StoresRow page number len)
    (hrun : attrSetAttr env pid oid page number val len s = some (.ok, t))
    (hfile : t.files pid oid = s.files pid oid) : s.IgnoresAttr env pid oid page number val := by
  unfold Target.StoresRow at h
  unfold attrSetAttr at hrun
  by_cases hui : page = USER_INFO_PG
  · rw [if_pos hui] at h hrun
    rw [if_neg h] at hrun
    refine .inl ⟨hui, h, fun hlen => ?_⟩
    rw [if_pos hlen] at hrun
    cases val with
    | none => exact nomatch hrun
    | some m =>
      obtain ⟨c, hsys, hc, hlength, hfits⟩ := length_of_setLogicalLen hrun hfile
      exact ⟨m, c, rfl, hsys, hc, hlength, hfits⟩
  rw [if_neg hui] at h hrun
  by_cases hri : page = ROOT_INFO_PG
  · rw [if_pos hri] at h hrun
    have hname : number ≠ RIAP_OSD_NAME := fun he => h (.inl he)
    refine .inr ⟨hri, fun hid => ?_, hname⟩
    rw [if_pos hid, bind_get] at hrun
    by_cases hformat : s.ccap.cdbSrvcAct = OSD_FORMAT_OSD
    · rw [if_pos hformat] at hrun
      by_cases hlen : len.toNat > RIAP_OSD_SYSTEM_ID_LEN
      · rw [if_pos hlen] at hrun
        exact nomatch hrun
      · exact h (.inr ⟨hid, hformat, by omega⟩)
    · rw [if_neg hformat] at hrun
      exact nomatch hrun
  · rw [if_neg hri] at h
    exact absurd trivial h

theorem attrVal_stored (val : Option Mem) (len : UInt16) :
    (s.withAttr (storedRow pid oid page number val len)).db.attrVal
      (attrKey pid oid page number) =
      givenBytes val len := by
  refine (attrVal_withAttr (r := storedRow pid oid page number val len) ?_).trans (storedRow_value ..)
  rw [storedRow_value]
  cases val with
  | none => exact Nat.two_pow_pos 16
  | some m => exact (Mem.read_length m 0 len.toNat).symm ▸ len.toNat_lt

/-- What the attribute is after `attr_set_attr` has accepted it, where nothing else has changed. -/
theorem attrSetAttr_outcome (henv : env.RunsSql) {val : Option Mem} {len : UInt16}
    (hrun : attrSetAttr env pid oid page number val len s = some (.ok, t))
    (hfile : t.files pid oid = s.files pid oid) :
    s.StoresRow page number len ∧ t.db.attrVal (attrKey pid oid page number) = givenBytes val len ∨
      s.IgnoresAttr env pid oid page number val ∧ t = s := by
  by_cases hst : s.StoresRow page number len
  · rw [attrSetAttr_stored henv hst] at hrun
    cases hrun
    exact .inl ⟨hst, attrVal_stored val len⟩
  · have hig := ignoresAttr_of_ok hst hrun hfile
    rw [attrSetAttr_ignored hig] at hrun
    cases hrun
    exact .inr ⟨hig, rfl⟩

theorem attrDeleteAttr_run (henv : env.RunsSql) (pid oid : UInt64) (page number : UInt32) :
    attrDeleteAttr env pid oid page number s = some (.ok, s.withoutAttr (attrKey pid oid page number)) := by
  refine (dbExecDms_accepted (henv.dms _ _) rfl).trans ?_
  simp [Target.withoutAttr, Target.setAttr, attrKey, AttrRow.key, attrRow]

theorem OnlyRow.withoutAttr (k : Int × Int × Int × Int) (s : Target) : OnlyRow k s (s.withoutAttr k) :=
  ⟨fun _ hp => filter_deleteWhere hp, rfl⟩

theorem attrVal_withoutAttr (k : Int × Int × Int × Int) (s : Target) :
    (s.withoutAttr k).db.attrVal k = [] := by
  have hnone : (s.withoutAttr k).db.attr.find? (fun r => r.key = k) = none :=
    List.find?_eq_none.2 fun r hr he => (mem_deleteWhere.1 hr).2 (of_decide_eq_true he)
  unfold Db.attrVal
  rw [hnone]

theorem attrGetVal_run (henv : env.RunsSql) (outlen : UInt64) :
    attrGetVal env pid oid page number outlen s =
    let v := s.db.attrVal (attrKey pid oid page number)
    some (if outlen.toUInt32.toNat < v.length then (.err .einval, []) else if v = [] then (.err .enoent, [])
      else (.ok, v), s) := by
  have hquery : dbExecQuery env
      (.attrGetVal (bindInt64 pid) (bindInt64 oid) (bindInt page) (bindInt number)) none
      (fun d => d.attr.find? fun r => r.key =
        (bindInt64 pid, bindInt64 oid, bindInt page, bindInt number)) s =
      some ((.ok, s.db.attr.find? fun r => r.key = attrKey pid oid page number), s) := by
    show (if env.queryFails _ s.db = true then _ else _ : OsdM _) s = _
    rw [if_neg (by simp [henv.query])]
    rfl
  refine (bind_of_some hquery).trans ?_
  unfold Db.attrVal
  cases s.db.attr.find? fun r => r.key = attrKey pid oid page number with
  | none => rfl
  | some r =>
    have hlen : (r.value.take (UInt16.ofNat r.value.length).toNat).length =
        (UInt16.ofNat r.value.length).toNat := by
      rw [List.length_take, UInt16.toNat_ofNat']
      exact Nat.min_eq_left (Nat.mod_le ..)
    dsimp only
    rw [hlen]
    by_cases hout : outlen.toUInt32.toNat < (UInt16.ofNat r.value.length).toNat
    · rw [if_pos hout, if_pos hout]
      rfl
    rw [if_neg hout, if_neg hout]
    by_cases h0 : (UInt16.ofNat r.value.length).toNat = 0
    · rw [if_pos h0, if_pos (by rw [h0, List.take_zero])]
      rfl
    · rw [if_neg h0, if_neg fun hnil => h0 (by rw [← hlen, hnil, List.length_nil])]
      rfl

/-! ## The command -/

/-- The command by cases: the attribute is set when it is `cmp` or absent, and deleted when it is `cmp`. -/
theorem osdGenCas_run (henv : env.RunsSql) (hobj : s.db.objType pid oid = .userobject)
    (cmp swap : CasBytes) :
    osdGenCas env pid oid page number cmp.ptr cmp.len swap.ptr swap.len s =
      let v := s.db.attrVal (attrKey pid oid page number)
      if ATTR_LEN_UB < v.length then some ((hwErr pid oid, none), s)
      else if swap.bytes ≠ [] ∧ (v = [] ∨ v = cmp.bytes) then
        (attrSetAttr env pid oid page number swap.ptr swap.len s).map fun r =>
          (if r.1 = .ok then (.ok, some v) else (hwErr pid oid, none), r.2)
      else if swap.bytes = [] ∧ v = cmp.bytes then
        some ((.ok, some v), s.withoutAttr (attrKey pid oid page number))
      else some ((.ok, if v = [] then none else some v), s) := by
  unfold osdGenCas
  rw [bind_of_some (isPresentUserobject_run henv hobj)]
  show (if _ then _ else _ : OsdM _) s = _
  rw [if_neg (by decide), bind_of_some (attrGetVal_run henv _)]
  dsimp only
  generalize s.db.attrVal (attrKey pid oid page number) = v
  rw [show (UInt64.ofNat ATTR_LEN_UB).toUInt32.toNat = ATTR_LEN_UB from rfl]
  by_cases hlong : ATTR_LEN_UB < v.length
  · rw [if_pos hlong, if_pos hlong]
    rfl
  rw [if_neg hlong, if_neg hlong]
  obtain ⟨ret, hfound, hok, hgoes⟩ : ∃ ret : Ret,
      (if v = [] then (.err .enoent, []) else (.ok, v)) = (ret, v) ∧ (ret = .ok ↔ v ≠ []) ∧
        ¬ (ret ≠ .ok ∧ ret ≠ .err .enoent) := by
    by_cases hv : v = []
    · exact ⟨.err .enoent, by rw [if_pos hv, hv], ⟨nofun, fun h => absurd hv h⟩, fun h => h.2 rfl⟩
    · exact ⟨.ok, if_neg hv, ⟨fun _ => hv, fun _ => rfl⟩, fun h => h.1 rfl⟩
  have hsame := cmp.same_iff v
  rw [hfound, if_neg hgoes]
  by_cases hs : swap.bytes ≠ [] ∧ (v = [] ∨ v = cmp.bytes)
  · rw [if_pos hs]
    obtain ⟨hlen, hptr⟩ := swap.isGiven.2 hs.1
    refine (congrFun (if_pos ⟨hlen, hptr, hs.2.imp (fun hv hr => hok.1 hr hv) hsame.2⟩) s).trans ?_
    cases hrun : attrSetAttr env pid oid page number swap.ptr swap.len s with
    | none => exact bind_of_none hrun
    | some r =>
      obtain ⟨ret', t⟩ := r
      rw [bind_of_some hrun, Option.map_some]
      by_cases hret : ret' = .ok
      · rw [if_neg (by simpa using hret), if_pos hret]
        rfl
      · rw [if_pos hret, if_neg hret]
        rfl
  rw [if_neg hs]
  refine (congrFun (if_neg fun h => hs ⟨swap.isGiven.1 ⟨h.1, h.2.1⟩, ?_⟩) s).trans ?_
  · exact h.2.2.imp (fun hr => by_contra fun hv => hr (hok.2 hv)) hsame.1
  by_cases hd : swap.bytes = [] ∧ v = cmp.bytes
  · rw [if_pos hd]
    obtain ⟨hlen, hptr⟩ := swap.isEmpty.2 hd.1
    refine (congrFun (if_pos ⟨hlen, hptr, hsame.2 hd.2⟩) s).trans ?_
    rw [bind_of_some (attrDeleteAttr_run henv pid oid page number)]
    rfl
  · rw [if_neg hd]
    refine (congrFun (if_neg fun h => hd ⟨swap.isEmpty.1 ⟨h.1, h.2.1⟩, hsame.1 h.2.2⟩) s).trans ?_
    by_cases hv : v = []
    · rw [if_pos hv, if_neg fun hr => hok.1 hr hv]
      rfl
    · rw [if_neg hv, if_pos (hok.2 hv)]
      rfl

/-! ## The exchange -/

/-- The list of the command names the attribute and gives these operands. -/
def Command.Exchanges (cmd : Command) (pid oid : UInt64) (page number : UInt32)
    (cmp swap : CasBytes) : Prop :=
  cmd.pid = pid ∧ cmd.oid = oid ∧ ∃ c w list listLen, genCasEntries cmd = .ok (c, w, list, listLen) ∧
    c.page = page ∧ c.number = number ∧ c.casValue cmd.indata = cmp.ptr ∧ c.len = cmp.len ∧
      w.casValue cmd.indata = swap.ptr ∧ w.len = swap.len

/-- A conditional swap: the original value is returned and `swap` is left in its place when it is `cmp`, the
attribute being absent where the value is empty. -/
structure ConditionalSwap (env : Env) (pid oid : UInt64) (page number : UInt32) (cmp swap : CasBytes)
    (s : Target) (orig : Option (List UInt8)) (t : Target) : Prop where
  original : orig.getD [] = s.db.attrVal (attrKey pid oid page number)
  only : OnlyRow (attrKey pid oid page number) s t
  value : t.db.attrVal (attrKey pid oid page number) =
    if s.db.attrVal (attrKey pid oid page number) = cmp.bytes then swap.bytes
    else s.db.attrVal (attrKey pid oid page number)
  absent : s.db.attrVal (attrKey pid oid page number) = cmp.bytes → swap.bytes = [] →
    ∀ r ∈ t.db.attr, r.key ≠ attrKey pid oid page number
  flag : ∀ cmd : Command, cmd.Exchanges pid oid page number cmp swap →
    ∃ r, execGenCas env cmd s = some (.ok r, t) ∧ r.orig = orig ∧
      (r.casRes = true ↔ s.db.attrVal (attrKey pid oid page number) = cmp.bytes)

/-- `exec_gen_cas` compares the original value once more. -/
theorem execGenCas_run {cmd : Command} {cmp swap : CasBytes} {orig : Option (List UInt8)}
    (hcmd : cmd.Exchanges pid oid page number cmp swap)
    (hrun : osdGenCas env pid oid page number cmp.ptr cmp.len swap.ptr swap.len s = some ((.ok, orig), t)) :
    ∃ r, execGenCas env cmd s = some (.ok r, t) ∧ r.orig = orig ∧
      (r.casRes = true ↔ orig.getD [] = cmp.bytes) := by
  obtain ⟨rfl, rfl, c, w, list, listLen, hentries, rfl, rfl, hcmp, hcmpLen, hswap, hswapLen⟩ := hcmd
  rw [← hcmp, ← hcmpLen, ← hswap, ← hswapLen] at hrun
  have hcas : execGenCas env cmd s = some (.ok
      ⟨list, listLen, c, orig, (orig.getD []).length = c.len.toNat ∧
      cmd.indata.read c.cval c.len.toNat = orig.getD []⟩, t) := by
    unfold execGenCas
    rw [hentries]
    dsimp only
    rw [bind_of_some hrun]
    rfl
  refine ⟨_, hcas, rfl, ?_⟩
  have hbytes : cmp.bytes = cmd.indata.read c.cval c.len.toNat := by
    unfold CasBytes.bytes
    rw [← hcmp, ← hcmpLen]
    unfold ListEntry.casValue
    by_cases h0 : c.len = 0
    · rw [if_pos h0, h0]
      rfl
    · rw [if_neg h0]
      exact Mem.read_shift _ _ _ _
  rw [decide_eq_true_eq, hbytes]
  refine ⟨fun h => h.2.symm, fun h => ⟨?_, h.symm⟩⟩
  rw [h, Mem.read_length]

/-- Nothing but the attribute has changed, and it is gone. -/
theorem conditionalSwap_delete {cmp swap : CasBytes}
    (hrun : osdGenCas env pid oid page number cmp.ptr cmp.len swap.ptr swap.len s =
      some ((.ok, some (s.db.attrVal (attrKey pid oid page number))),
        s.withoutAttr (attrKey pid oid page number)))
    (hsame : s.db.attrVal (attrKey pid oid page number) = cmp.bytes) (hswap : swap.bytes = []) :
    ConditionalSwap env pid oid page number cmp swap s (some (s.db.attrVal (attrKey pid oid page number)))
      (s.withoutAttr (attrKey pid oid page number)) where
  original := rfl
  only := OnlyRow.withoutAttr _ s
  value := by
    rw [if_pos hsame, hswap, attrVal_withoutAttr]
  absent _ _ _ hr := (mem_deleteWhere.1 hr).2
  flag _ hcmd := execGenCas_run hcmd hrun

/-- The attribute is not `cmp` and stays. -/
theorem conditionalSwap_refuse {cmp swap : CasBytes} {orig : Option (List UInt8)}
    (hrun : osdGenCas env pid oid page number cmp.ptr cmp.len swap.ptr swap.len s = some ((.ok, orig), s))
    (horig : orig.getD [] = s.db.attrVal (attrKey pid oid page number))
    (hdiff : s.db.attrVal (attrKey pid oid page number) ≠ cmp.bytes) :
    ConditionalSwap env pid oid page number cmp swap s orig s where
  original := horig
  only := .refl _ s
  value := (if_neg hdiff).symm
  absent h := absurd h hdiff
  flag _ hcmd := horig ▸ execGenCas_run hcmd hrun

/-- The attribute now has the bytes of `swap`. -/
theorem conditionalSwap_set {cmp swap : CasBytes}
    (hrun : osdGenCas env pid oid page number cmp.ptr cmp.len swap.ptr swap.len s =
      some ((.ok, some (s.db.attrVal (attrKey pid oid page number))), t))
    (honly : OnlyRow (attrKey pid oid page number) s t)
    (hvalue : t.db.attrVal (attrKey pid oid page number) = swap.bytes) (hswap : swap.bytes ≠ [])
    (hsame : s.db.attrVal (attrKey pid oid page number) = cmp.bytes) :
    ConditionalSwap env pid oid page number cmp swap s
      (some (s.db.attrVal (attrKey pid oid page number))) t where
  original := rfl
  only := honly
  value := hvalue.trans (if_pos hsame).symm
  absent _ h := absurd h hswap
  flag _ hcmd := execGenCas_run hcmd hrun

/-- What `osd_gen_cas` needs for a conditional swap.  Where the attribute is absent and `cmp` is not
empty, it calls `attr_set_attr` nevertheless. -/
structure CanSwap (env : Env) (pid oid : UInt64) (page number : UInt32) (cmp swap : CasBytes)
    (s : Target) : Prop where
  short : (s.db.attrVal (attrKey pid oid page number)).length ≤ ATTR_LEN_UB
  stored : swap.bytes ≠ [] → s.db.attrVal (attrKey pid oid page number) = cmp.bytes →
    s.StoresRow page number swap.len ∨
      s.IgnoresAttr env pid oid page number swap.ptr ∧
        s.db.attrVal (attrKey pid oid page number) = swap.bytes
  guarded : swap.bytes ≠ [] → s.db.attrVal (attrKey pid oid page number) = [] → cmp.bytes ≠ [] →
    s.IgnoresAttr env pid oid page number swap.ptr

theorem osdGenCas_canSwap (henv : env.RunsSql) (hobj : s.db.objType pid oid = .userobject)
    {cmp swap : CasBytes} {orig : Option (List UInt8)}
    (hrun : osdGenCas env pid oid page number cmp.ptr cmp.len swap.ptr swap.len s = some ((.ok, orig), t))
    (hp : ConditionalSwap env pid oid page number cmp swap s orig t) :
    CanSwap env pid oid page number cmp swap s := by
  rw [osdGenCas_run henv hobj] at hrun
  dsimp only at hrun
  have hshort : ¬ ATTR_LEN_UB < (s.db.attrVal (attrKey pid oid page number)).length := fun hlong => by
    rw [if_pos hlong] at hrun
    exact nomatch hrun
  rw [if_neg hshort] at hrun
  have hset : swap.bytes ≠ [] ∧ (s.db.attrVal (attrKey pid oid page number) = [] ∨
      s.db.attrVal (attrKey pid oid page number) = cmp.bytes) →
      s.StoresRow page number swap.len ∧ t.db.attrVal (attrKey pid oid page number) = swap.bytes ∨
        s.IgnoresAttr env pid oid page number swap.ptr ∧ t = s := fun hs => by
    rw [if_pos hs] at hrun
    obtain ⟨⟨ret, t'⟩, hset, hr⟩ := Option.map_eq_some_iff.1 hrun
    obtain ⟨hret, rfl⟩ := Prod.mk.inj hr
    by_cases hok : ret = .ok
    · subst hok
      have hfiles := congrArg Target.files hp.only.rest
      exact attrSetAttr_outcome henv hset (congrFun (congrFun hfiles pid) oid)
    · rw [if_neg hok] at hret
      exact nomatch hret
  refine ⟨Nat.not_lt.1 hshort, fun hs hsame => ?_, fun hs hnone hcmp => ?_⟩
  · rcases hset ⟨hs, .inr hsame⟩ with ⟨hst, -⟩ | ⟨hig, rfl⟩
    · exact .inl hst
    · exact .inr ⟨hig, hp.value.trans (if_pos hsame)⟩
  · rcases hset ⟨hs, .inl hnone⟩ with ⟨-, hval⟩ | ⟨hig, -⟩
    · rw [hp.value, if_neg fun hsame => hcmp (hsame.symm.trans hnone), hnone] at hval
      exact absurd hval.symm hs
    · exact hig

/-- **GEN CAS is a conditional swap** exactly under these conditions. -/
theorem osdGenCas_swaps_iff (henv : env.RunsSql) (hobj : s.db.objType pid oid = .userobject)
    (cmp swap : CasBytes) :
    (∃ orig t, osdGenCas env pid oid page number cmp.ptr cmp.len swap.ptr swap.len s =
      some ((.ok, orig), t) ∧
      ConditionalSwap env pid oid page number cmp swap s orig t) ↔
      CanSwap env pid oid page number cmp swap s := by
  refine ⟨fun ⟨_, _, hrun, hp⟩ => osdGenCas_canSwap henv hobj hrun hp, fun hcan => ?_⟩
  have hrun : osdGenCas env pid oid page number cmp.ptr cmp.len swap.ptr swap.len s = _ :=
    osdGenCas_run henv hobj cmp swap
  dsimp only at hrun
  rw [if_neg (Nat.not_lt.2 hcan.short)] at hrun
  by_cases hsame : s.db.attrVal (attrKey pid oid page number) = cmp.bytes
  · by_cases hswap : swap.bytes = []
    · rw [if_neg fun h => h.1 hswap, if_pos ⟨hswap, hsame⟩] at hrun
      exact ⟨_, _, hrun, conditionalSwap_delete hrun hsame hswap⟩
    rw [if_pos ⟨hswap, .inr hsame⟩] at hrun
    rcases hcan.stored hswap hsame with hst | ⟨hig, hval⟩
    · rw [attrSetAttr_stored henv hst] at hrun
      exact ⟨_, _, hrun, conditionalSwap_set hrun
        (OnlyRow.withAttr (storedRow pid oid page number swap.ptr swap.len) s)
        (attrVal_stored swap.ptr swap.len) hswap hsame⟩
    · rw [attrSetAttr_ignored hig] at hrun
      exact ⟨_, _, hrun, conditionalSwap_set hrun (.refl _ s) hval hswap hsame⟩
  · by_cases hset : swap.bytes ≠ [] ∧ s.db.attrVal (attrKey pid oid page number) = []
    · have hcmp : cmp.bytes ≠ [] := fun h => hsame (hset.2.trans h.symm)
      rw [if_pos ⟨hset.1, .inl hset.2⟩, attrSetAttr_ignored (hcan.guarded hset.1 hset.2 hcmp)] at hrun
      exact ⟨_, _, hrun, conditionalSwap_refuse hrun rfl hsame⟩
    · rw [if_neg fun h => hset ⟨h.1, h.2.resolve_right hsame⟩, if_neg fun h => hsame h.2] at hrun
      refine ⟨_, _, hrun, conditionalSwap_refuse hrun ?_ hsame⟩
      by_cases hv : s.db.attrVal (attrKey pid oid page number) = []
      · rw [if_pos hv, hv]
        rfl
      · rw [if_neg hv]
        rfl

/-- One byte. -/
def CasBytes.one (b : UInt8) : CasBytes := ⟨some (blobMem [b]), 1, ⟨nofun, nofun⟩⟩

def CasBytes.empty : CasBytes := ⟨none, 0, ⟨fun _ => rfl, fun _ => rfl⟩⟩

/-- An absent attribute, compared with the empty string, is set. -/
theorem osdGenCas_swaps_first :
    ∃ orig t, osdGenCas Env.calm 0x10000 0x10000 0x10 1 none 0 (some (blobMem [7])) 1 plainObject =
        some ((.ok, orig), t) ∧
      ConditionalSwap Env.calm 0x10000 0x10000 0x10 1 .empty (.one 7) plainObject orig t := by
  have habsent : plainObject.db.attrVal (attrKey 0x10000 0x10000 0x10 1) = [] := by decide +kernel
  refine (osdGenCas_swaps_iff Env.calm_runsSql (by decide +kernel) .empty (.one 7)).2
    ⟨?_, fun _ _ => ?_, fun _ _ h => ?_⟩
  · rw [habsent]
    exact Nat.zero_le _
  · exact .inl (by decide +kernel)
  · exact absurd rfl h

/-- Compared with another byte, it is set as well, and the flag says that it was not. -/
theorem osdGenCas_over_absent :
    plainObject.db.objType 0x10000 0x10000 = .userobject ∧
      plainObject.db.attrVal (attrKey 0x10000 0x10000 0x10 1) = [] ∧
      ((osdGenCas Env.calm 0x10000 0x10000 0x10 1 (some (blobMem [1])) 1 (some (blobMem [7])) 1
        plainObject).map fun r => (r.1, r.2.db.attrVal (attrKey 0x10000 0x10000 0x10 1))) =
          some ((.ok, some []), [7]) ∧
      ¬ ∃ orig t, osdGenCas Env.calm 0x10000 0x10000 0x10 1 (some (blobMem [1])) 1 (some (blobMem [7])) 1
          plainObject = some ((.ok, orig), t) ∧
        ConditionalSwap Env.calm 0x10000 0x10000 0x10 1 (.one 1) (.one 7) plainObject orig t := by
  have habsent : plainObject.db.attrVal (attrKey 0x10000 0x10000 0x10 1) = [] := by decide +kernel
  have hset : ((osdGenCas Env.calm 0x10000 0x10000 0x10 1 (some (blobMem [1])) 1 (some (blobMem [7])) 1
      plainObject).map fun r => (r.1, r.2.db.attrVal (attrKey 0x10000 0x10000 0x10 1))) =
        some ((.ok, some []), [7]) := by
    decide +kernel
  refine ⟨by decide +kernel, habsent, hset, fun ⟨orig, t, hrun, hp⟩ => ?_⟩
  rw [hrun, Option.map_some] at hset
  have hvalue := hp.value
  rw [habsent, if_neg (by decide)] at hvalue
  rw [hvalue] at hset
  exact absurd hset (by simp)

end OsdTarget
