import OsdTarget.Registers
import OsdTarget.LogicalLength

/-!
# The registers as attributes

CAS and FA keep their registers as the integers of the host, in attributes that everyone else reads and
writes as strings of bytes.  What they answer is converted to the order of the network.
-/

namespace OsdTarget

open Base

variable {env : Env} {s t : Target} {be : Bool} {r : Register} {x : UInt64}

/-! ## Readers of a register -/

/-- A retrieval of its attribute answers with these bytes. -/
def Register.Shows (r : Register) (v : List UInt8) (t : Target) : Prop :=
  ∀ env : Env, (∀ q, env.queryFails q t.db = false) →
    GetsAs env r.pid r.oid USER_ATOMICS_PG r.atomic.number v t

/-- The next call on it returns these bytes as the original value. -/
def Register.Returns (r : Register) (be : Bool) (v : List UInt8) (t : Target) : Prop :=
  ∀ c : AtomicCall, c.access.register = r → c.env.bigEndian = be → c.env.RunsSql →
    ∃ t', c.exec t = some ((.ok, some 8), t') ∧ t'.out = t.out ++ [(c.pos, v)]

/-- Both readers see the same bytes, once there are any, and a value that was set as an attribute is the
one the next call returns. -/
structure Register.OneValue (r : Register) (be : Bool) (x : UInt64) (t : Target) : Prop where
  same : t.db.attrVal r.key ≠ [] → ∃ v : List UInt8, v.length = 8 ∧ r.Shows v t ∧ r.Returns be v t
  stored : ∀ (env : Env) (val : Mem) (isembedded : Bool) (u : Target), val.read 0 8 = htonll x →
    osdSetAttributes env r.pid r.oid USER_ATOMICS_PG r.atomic.number (some val) 8 isembedded t
      = some (.ok, u) → r.Returns be (htonll x) u

/-- The bytes of the value read the same in both orders. -/
def ByteSymmetric (x : UInt64) : Prop := (htonll x).reverse = htonll x

instance (x : UInt64) : Decidable (ByteSymmetric x) := inferInstanceAs (Decidable (_ = _))

/-! ## Integers of the host -/

/-- The integer the host has in these bytes. -/
def hostValue (bigEndian : Bool) (bytes : List UInt8) : UInt64 :=
  UInt64.ofNat (beNat (if bigEndian then bytes else bytes.reverse))

theorem htonll_ofNat {l : List UInt8} (h : l.length = 8) : htonll (UInt64.ofNat (beNat l)) = l := by
  have hlt : beNat l < 2 ^ 64 := by
    have hlt := beNat_lt l
    rwa [h] at hlt
  show natBe 8 (UInt64.ofNat (beNat l)).toNat = l
  rw [UInt64.toNat_ofNat_of_lt' hlt, ← h, natBe_beNat]

theorem hostBytes_hostValue {l : List UInt8} (h : l.length = 8) : hostBytes be (hostValue be l) = l := by
  cases be
  · show (htonll (UInt64.ofNat (beNat l.reverse))).reverse = l
    rw [htonll_ofNat (by rw [List.length_reverse, h]), List.reverse_reverse]
  · exact htonll_ofNat h

/-- An integer reads the same from bytes in the order of the host and of the network, or has other bytes. -/
theorem htonll_hostValue_iff {l : List UInt8} (h : l.length = 8) :
    l = htonll (hostValue be l) ↔ be = true ∨ l.reverse = l := by
  cases be
  · have hrev : l.reverse.length = 8 := by rw [List.length_reverse, h]
    have hvalue : htonll (hostValue false l) = l.reverse := htonll_ofNat hrev
    rw [hvalue]
    exact ⟨fun heq => .inr heq.symm, fun h => (h.resolve_left nofun).symm⟩
  · exact iff_of_true (htonll_ofNat h).symm (.inl rfl)

/-- The order of the host is that of the network, or does not matter. -/
theorem hostBytes_eq_iff : hostBytes be x = htonll x ↔ be = true ∨ ByteSymmetric x := by
  cases be
  · exact ⟨.inr, fun h => h.resolve_left nofun⟩
  · exact iff_of_true rfl (.inl rfl)

/-! ## What the readers see -/

/-- A call in which CAS or FA does not change the register. -/
def Register.call (r : Register) (be : Bool) : AtomicCall where
  env := { Env.calm with bigEndian := be }
  pid := r.pid
  oid := r.oid
  pos := 0
  op := match r.atomic with
    | .cas => .cas 0 0
    | .fa => .fa 0

theorem Register.call_register (r : Register) (be : Bool) : (r.call be).access.register = r := by
  obtain ⟨p, o, a⟩ := r
  cases a <;> rfl

/-- A register that is kept is what the next call returns, in the order of the network. -/
theorem returns_iff {v : List UInt8} (hobj : t.db.objType r.pid r.oid = .userobject)
    (hx : t.db.Keeps be r x) : r.Returns be v t ↔ v = htonll x := by
  have hcall : ∀ c : AtomicCall, c.access.register = r → c.env.bigEndian = be → c.env.RunsSql →
      ∃ t', c.exec t = some ((.ok, some 8), t') ∧ t'.out = t.out ++ [(c.pos, htonll x)] := by
    rintro c rfl rfl hruns
    obtain ⟨a, t', hrun, hserved⟩ := (AtomicCall.exec_served c hobj hx).of_halts c.halts_exec
    rcases hserved with ⟨rfl, hl⟩ | ⟨⟨-, -, hno⟩, -⟩
    · exact ⟨t', hrun, hl.out⟩
    · exact absurd hruns hno
  constructor
  · intro h
    have hruns : (r.call be).env.RunsSql := ⟨fun _ _ => rfl, fun _ _ => rfl⟩
    obtain ⟨t₁, hrun₁, hout₁⟩ := h (r.call be) (r.call_register be) rfl hruns
    obtain ⟨t₂, hrun₂, hout₂⟩ := hcall (r.call be) (r.call_register be) rfl hruns
    rw [hrun₁] at hrun₂
    cases hrun₂
    rw [hout₁] at hout₂
    exact congrArg Prod.snd (List.singleton_inj.1 (List.append_cancel_left hout₂))
  · rintro rfl
    exact hcall

/-- An attribute that is defined is shown as it is stored. -/
theorem shows_attrVal (hobj : t.db.objType r.pid r.oid = .userobject)
    (hkeys : (t.db.attr.map AttrRow.key).Nodup) (hdefined : t.db.attrVal r.key ≠ []) :
    r.Shows (t.db.attrVal r.key) t := by
  intro env hq
  refine getsAs_of_retrieve fun isembedded listfmt => ?_
  obtain ⟨value, hvalue, hreported⟩ : ∃ value,
      t.db.attribute r.pid r.oid USER_ATOMICS_PG r.atomic.number = some value ∧
        t.db.attrVal r.key = reported value := by
    unfold Db.attrVal at hdefined ⊢
    unfold Db.attribute
    cases hf : t.db.attr.find? fun row => row.key = r.key with
    | none =>
      rw [hf] at hdefined
      exact absurd rfl hdefined
    | some row =>
      refine ⟨row.value, congrArg (Option.map AttrRow.value) hf, ?_⟩
      show row.value.take (UInt16.ofNat row.value.length).toNat = row.value.take (row.value.length % 2 ^ 16)
      rw [UInt16.toNat_ofNat']
  let item : Item := ⟨tagOf listfmt r.oid, USER_ATOMICS_PG, r.atomic.number, UInt16.ofNat value.length,
    some (blobMem value)⟩
  have hs : IsSingle USER_ATOMICS_PG r.atomic.number := by
    cases r.atomic <;> decide
  have hitems : pageItems env t r.pid r.oid USER_ATOMICS_PG r.atomic.number listfmt = some [item] := by
    have hrows : rowItems env t r.pid r.oid (tagOf listfmt r.oid) (.attr USER_ATOMICS_PG r.atomic.number)
        = _ := rowItems_attribute (r := ⟨USER_ATOMICS_PG, r.atomic.number, r.oid⟩) hkeys _
    unfold pageItems
    dsimp only
    rw [if_neg (by decide), if_neg (by decide), if_neg (by decide), if_neg (by decide), rtrvlOf,
      if_neg hs.1, if_neg hs.2, hrows, if_neg (by rw [hq]; decide), hvalue]
    rfl
  have htype : t.db.objType r.pid r.oid ≠ .illegal := by
    rw [hobj]
    decide
  have hget : isgettablePage (t.db.objType r.pid r.oid) USER_ATOMICS_PG = true := by
    rw [hobj]
    decide
  have hwf : item.Wf := by
    unfold Item.Wf
    intro h
    cases h
  refine ⟨item, hwf, ?_, retrieve_single hq hs htype hget hitems⟩
  rw [hreported]
  exact stored_entry (r := ⟨USER_ATOMICS_PG, r.atomic.number, r.oid⟩)

/-- What a call finds after a value was set. -/
theorem keeps_of_set {val : Mem} {isembedded : Bool} {u : Target} (hval : val.read 0 8 = htonll x)
    (hrun : osdSetAttributes env r.pid r.oid USER_ATOMICS_PG r.atomic.number (some val) 8 isembedded t
      = some (.ok, u)) :
    u.db.Keeps be r (hostValue be (htonll x)) ∧ u.db.obj = t.db.obj := by
  rw [osdSetAttributes_eq_setPair] at hrun
  rcases setPair_inv _ _ hrun with ⟨hno, -⟩ | ⟨-, -, -, v, hst, rfl⟩
  · exact absurd rfl hno
  rw [Target.shown_db]
  have hnot : ∀ p : UInt32, p ≠ USER_ATOMICS_PG → USER_ATOMICS_PG ≠ p := fun _ h => h.symm
  cases hst with
  | row h hdms =>
    have hrow : SetPair.row r.pid val (r.oid, ⟨USER_ATOMICS_PG, r.atomic.number, 8, 0⟩)
        = r.row (hostBytes be (hostValue be (htonll x))) := by
      rw [hostBytes_hostValue (htonll_length x), ← hval]
      show attrRow _ _ _ _ ((val.shift 0).read 0 8) = _
      rw [Mem.read_shift]
      rfl
    rw [hrow]
    exact ⟨keeps_withAttr be r _, rfl⟩
  | resized h => exact absurd h.1 (show ¬ USER_ATOMICS_PG = USER_INFO_PG by decide)
  | ignored h => exact absurd h.1 (show ¬ USER_ATOMICS_PG = ROOT_INFO_PG by decide)
  | pointed h => exact absurd h.1 (show ¬ USER_ATOMICS_PG = USER_COLL_PG by decide)

/-- The registers of a present user object can be set. -/
theorem exists_set (hobj : t.db.objType r.pid r.oid = .userobject) (x : UInt64) : ∃ u,
    osdSetAttributes Env.calm r.pid r.oid USER_ATOMICS_PG r.atomic.number (some (blobMem (htonll x))) 8 true t
      = some (.ok, u) := by
  let e : ListEntry := ⟨USER_ATOMICS_PG, r.atomic.number, 8, 0⟩
  have hnumber : r.atomic.number ≠ ATTRNUM_UNMODIFIABLE ∧ r.atomic.number ≠ ATTRNUM_INFO := by
    cases r.atomic <;> decide
  have hallows : t.db.Allows r.pid (blobMem (htonll x)) (r.oid, e) :=
    allows_userobject hobj (show issettablePage .userobject USER_ATOMICS_PG = true by decide) hnumber.1
      hnumber.2 (show (8 : UInt16) ≠ 0 by decide) (show (8 : UInt16).toNat ≤ ATTR_LEN_UB by decide)
  have hstored : PairStored Env.calm r.pid (blobMem (htonll x)) (r.oid, e) t _ :=
    .row ⟨show ¬ USER_ATOMICS_PG = USER_COLL_PG by decide,
      fun h => absurd h (show ¬ USER_ATOMICS_PG = USER_INFO_PG by decide),
      fun h => absurd h (show ¬ USER_ATOMICS_PG = ROOT_INFO_PG by decide)⟩ rfl
  have hanswers : Env.calm.Answers r.pid r.oid t.db := ⟨rfl, fun _ => rfl⟩
  have hrun : setPair Env.calm r.pid (blobMem (htonll x)) true (r.oid, e) t = some (.ok, _) :=
    setPair_accepted ⟨hanswers, hallows, _, hstored, rfl⟩
  exact ⟨_, by rw [osdSetAttributes_eq_setPair]; exact hrun⟩

/-- **The registers have one value for every reader** exactly when the order of the host does not show:
neither in the value the run has left, once there is one, nor in the value that is set. -/
theorem oneValue_iff {objects : UInt64 → UInt64 → Prop} {l : List AtomicStep} {bank : Register → UInt64}
    (hrun : AtomicRun be objects s l t) (hbank : ∀ r, objects r.pid r.oid → s.db.Keeps be r (bank r))
    (hkeys : (t.db.attr.map AttrRow.key).Nodup) (hr : objects r.pid r.oid)
    (hobj : t.db.objType r.pid r.oid = .userobject) (x : UInt64) :
    r.OneValue be x t ↔ be = true ∨
      (t.db.attrVal r.key ≠ [] → ByteSymmetric (bankAfter bank (accesses l) r)) ∧ ByteSymmetric x := by
  have hkeeps := hrun.bank hbank r hr
  generalize bankAfter bank (accesses l) r = y at hkeeps ⊢
  have hbytes : t.db.attrVal r.key ≠ [] → t.db.attrVal r.key = hostBytes be y := fun hdefined =>
    hkeeps.resolve_right fun h => hdefined h.1
  -- the call after `x` was set
  have hset : ∀ {env : Env} {val : Mem} {isembedded : Bool} {u : Target}, val.read 0 8 = htonll x →
      osdSetAttributes env r.pid r.oid USER_ATOMICS_PG r.atomic.number (some val) 8 isembedded t
        = some (.ok, u) → (r.Returns be (htonll x) u ↔ be = true ∨ ByteSymmetric x) := by
    intro env val isembedded u hval hu
    obtain ⟨hkept, hobj'⟩ : u.db.Keeps be r _ ∧ _ := keeps_of_set hval hu
    rw [returns_iff (by rw [Db.objType_congr hobj', hobj]) hkept]
    exact htonll_hostValue_iff (htonll_length x)
  constructor
  · intro h
    by_cases hbe : be = true
    · exact .inl hbe
    refine .inr ⟨fun hdefined => ?_, ?_⟩
    · obtain ⟨v, hlen, hshows, hreturns⟩ := h.same hdefined
      have hseen : v = hostBytes be y := by
        rw [← hbytes hdefined]
        refine (hshows Env.calm fun _ => rfl).unique (shows_attrVal hobj hkeys hdefined Env.calm fun _ => rfl)
          (by rw [hlen]; decide) ?_
        rw [hbytes hdefined, hostBytes_length]
        decide
      have hfound : v = htonll y := (returns_iff hobj hkeeps).1 hreturns
      exact (hostBytes_eq_iff.1 (hseen.symm.trans hfound)).resolve_left hbe
    · obtain ⟨u, hu⟩ := exists_set hobj x
      have hval : (blobMem (htonll x)).read 0 8 = htonll x := by
        have hread := read_blobMem (htonll x)
        rwa [htonll_length] at hread
      exact ((hset hval hu).1 (h.stored _ _ _ _ hval hu)).resolve_left hbe
  · intro h
    refine ⟨fun hdefined => ?_, fun env val isembedded u hval hu => (hset hval hu).2 (h.imp_right And.right)⟩
    have hsame : hostBytes be y = htonll y := hostBytes_eq_iff.2 (h.imp_right fun h => h.1 hdefined)
    refine ⟨htonll y, htonll_length y, ?_, (returns_iff hobj hkeeps).2 rfl⟩
    rw [← hsame, ← hbytes hdefined]
    exact shows_attrVal hobj hkeys hdefined

theorem AtomicCall.step_run {objects : UInt64 → UInt64 → Prop} {c : AtomicCall}
    (horder : c.env.bigEndian = be) (hobject : objects c.pid c.oid)
    (hpresent : s.db.objType c.pid c.oid = .userobject) : AtomicRun be objects s [c.step s] (c.step s).after :=
  .call (a := c.step s) horder hobject hpresent (c.step_returns s) (.done _)

/-- A swap of `x` for 0, on a host that stores the low-order byte first. -/
def swapIn (x : UInt64) : AtomicStep :=
  AtomicCall.step ⟨Env.calm, 0x10000, 0x10000, 0, .cas 0 x⟩ plainObject

/-- The register it swaps. -/
def plainRegister : Register := ⟨0x10000, 0x10000, .cas⟩

theorem swapIn_run (x : UInt64) : AtomicRun false (fun p o => p = 0x10000 ∧ o = 0x10000) plainObject [swapIn x]
    (swapIn x).after :=
  AtomicCall.step_run rfl ⟨rfl, rfl⟩ (show plainObject.db.objType 0x10000 0x10000 = .userobject by decide +kernel)

theorem plainObject_keeps (r : Register) (hr : r.pid = 0x10000 ∧ r.oid = 0x10000) :
    plainObject.db.Keeps false r 0 := by
  obtain ⟨p, o, a⟩ := r
  obtain ⟨rfl, rfl⟩ : p = 0x10000 ∧ o = 0x10000 := hr
  refine .inr ⟨?_, rfl⟩
  cases a <;> decide +kernel

/-- A value that reads the same in both orders. -/
theorem oneValue_iff_symmetric : plainRegister.OneValue false 0 (swapIn 0x0500000000000005).after :=
  (oneValue_iff (swapIn_run 0x0500000000000005) plainObject_keeps (by decide +kernel) ⟨rfl, rfl⟩
    (by decide +kernel) 0).2 (.inr ⟨fun _ => by decide +kernel, by decide +kernel⟩)

/-- A retrieval then answers with the bytes of 5 in the order of the host, and the next call in that of
the network. -/
theorem swapFive_split : ¬ plainRegister.OneValue false 1 (swapIn 5).after ∧
    plainRegister.Shows [5, 0, 0, 0, 0, 0, 0, 0] (swapIn 5).after ∧
    plainRegister.Returns false [0, 0, 0, 0, 0, 0, 0, 5] (swapIn 5).after := by
  have hstored : (swapIn 5).after.db.attrVal plainRegister.key = [5, 0, 0, 0, 0, 0, 0, 0] := by decide +kernel
  have hobj : (swapIn 5).after.db.objType plainRegister.pid plainRegister.oid = .userobject := by decide +kernel
  have hkeys : ((swapIn 5).after.db.attr.map AttrRow.key).Nodup := by decide +kernel
  generalize (swapIn 5).after = t at hstored hobj hkeys ⊢
  have hkeeps : t.db.Keeps false plainRegister 5 := .inl hstored
  have hdefined : t.db.attrVal plainRegister.key ≠ [] := by
    rw [hstored]
    nofun
  have hshows := shows_attrVal hobj hkeys hdefined
  rw [hstored] at hshows
  refine ⟨fun h => ?_, hshows, (returns_iff hobj hkeeps).2 rfl⟩
  obtain ⟨v, hlen, hseen, hreturns⟩ := h.same hdefined
  have hfive : v = htonll 5 := (returns_iff hobj hkeeps).1 hreturns
  have heq := (hseen Env.calm fun _ => rfl).unique (hshows Env.calm fun _ => rfl) (by rw [hlen]; decide)
    (by decide)
  rw [hfive] at heq
  exact absurd heq (by decide)

end OsdTarget
