import OsdTarget.SetMembers
import OsdTarget.TrackingCollections
import OsdTarget.Base.Accesses

/-!
# The registers of CAS and FA

Every user object owns two 64-bit registers, kept as attributes of the atomics page and stored when
they are first used.  CAS and FA are accesses to such a bank of registers, however they follow one
another and whatever else happens to the device between them.
-/

namespace OsdTarget

open Base

variable {env : Env} {s t : Target} {pid oid : UInt64}

/-! ## Host integers -/

theorem htonll_toNat (x : UInt64) : beNat (htonll x) = x.toNat := by
  rw [htonll, beNat_natBe]
  exact Nat.mod_eq_of_lt x.toNat_lt

/-- An eight-byte value is read as the variable it was stored from. -/
theorem hostRead_hostBytes (env : Env) (x : UInt64) : hostRead env (hostBytes env.bigEndian x) = x := by
  unfold hostRead
  rw [hostBytes_length]
  dsimp only
  rw [Nat.sub_self, Mem.read_zero, List.append_nil]
  cases hb : env.bigEndian
  · rw [if_neg (by simp)]
    show UInt64.ofNat (beNat (htonll x).reverse.reverse) = x
    rw [List.reverse_reverse, htonll_toNat, UInt64.ofNat_toNat]
  · rw [if_pos rfl]
    show UInt64.ofNat (beNat (htonll x)) = x
    rw [htonll_toNat, UInt64.ofNat_toNat]

theorem givenBytes_hostVal (env : Env) (x : UInt64) :
    givenBytes (some (hostVal env x)) 8 = hostBytes env.bigEndian x := by
  show (blobMem (hostBytes env.bigEndian x)).read 0 8 = _
  have hread := read_blobMem (hostBytes env.bigEndian x)
  rwa [hostBytes_length] at hread

/-! ## The bank -/

/-- The two registers of an object. -/
inductive Atomic
  | cas
  | fa
  deriving DecidableEq, Repr

/-- The attribute of the atomics page that keeps it. -/
def Atomic.number : Atomic → UInt32
  | .cas => UAP_CAS
  | .fa => UAP_FA

structure Register where
  pid : UInt64
  oid : UInt64
  atomic : Atomic
  deriving DecidableEq, Repr

def Register.key (r : Register) : Int × Int × Int × Int :=
  (attrRow r.pid r.oid USER_ATOMICS_PG r.atomic.number []).key

theorem Register.key_inj {r r' : Register} : r.key = r'.key ↔ r = r' := by
  refine ⟨fun h => ?_, congrArg _⟩
  obtain ⟨p, o, a⟩ := r
  obtain ⟨p', o', a'⟩ := r'
  have hp : p = p' := bindInt64_inj.1 (congrArg (·.1) h)
  have ho : o = o' := bindInt64_inj.1 (congrArg (·.2.1) h)
  have hn : bindInt a.number = bindInt a'.number := congrArg (·.2.2.2) h
  have ha : a = a' := by
    cases a <;> cases a' <;> first | rfl | exact absurd hn (by decide)
  rw [hp, ho, ha]

/-- The table keeps `x` in the register: as the host's eight bytes, or not at all when it is 0. -/
def Db.Keeps (bigEndian : Bool) (d : Db) (r : Register) (x : UInt64) : Prop :=
  d.attrVal r.key = hostBytes bigEndian x ∨ d.attrVal r.key = [] ∧ x = 0

/-- A call of `osd_cas` or `osd_fa`; the operand of FA is signed. -/
inductive AtomicOp
  | cas (cmp swap : UInt64)
  | fa (add : Int64)

def AtomicOp.atomic : AtomicOp → Atomic
  | .cas .. => .cas
  | .fa _ => .fa

/-- The value left in a register: CAS stores `swap` exactly over `cmp`, FA adds modulo 2^64. -/
def AtomicOp.update : AtomicOp → UInt64 → UInt64
  | .cas cmp swap, old => if old = cmp then swap else old
  | .fa add, old => UInt64.ofInt (old.toNat + add.toInt)

structure AtomicCall where
  env : Env
  pid : UInt64
  oid : UInt64
  pos : Nat
  op : AtomicOp

def AtomicCall.exec (c : AtomicCall) : OsdM (Ret × Option UInt64) :=
  match c.op with
  | .cas cmp swap => osdCas c.env c.pid c.oid cmp swap c.pos
  | .fa add => osdFa c.env c.pid c.oid add.toUInt64 c.pos

def AtomicCall.access (c : AtomicCall) : Access Register UInt64 :=
  ⟨⟨c.pid, c.oid, c.op.atomic⟩, c.op.update⟩

/-- The sum the code computes on the bits of the operand. -/
theorem toUInt64_add (add : Int64) (old : UInt64) :
    add.toUInt64 + old = UInt64.ofInt (old.toNat + add.toInt) := by
  have hold := old.toNat_lt
  have hadd := add.toUInt64.toNat_lt
  have hbits : add.toInt = if 2 * add.toUInt64.toNat < 2 ^ 64 then (add.toUInt64.toNat : Int)
      else (add.toUInt64.toNat : Int) - (2 ^ 64 : Nat) := rfl
  rw [← UInt64.toNat_inj, UInt64.ofInt, UInt64.toNat_add, UInt64.toNat_ofNat', hbits]
  split <;> omega

/-! ## One call -/

/-- Nothing has changed but the attribute with this key and the replies. -/
structure OnlyRow (k : Int × Int × Int × Int) (s t : Target) : Prop where
  attr : Agrees (fun r : AttrRow => r.key = k) s.db.attr t.db.attr
  rest : t = { s with db := { s.db with attr := t.db.attr }, out := t.out }

namespace OnlyRow

variable {k : Int × Int × Int × Int} {s' : Target}

theorem refl (k : Int × Int × Int × Int) (s : Target) : OnlyRow k s s := ⟨fun _ _ => rfl, rfl⟩

theorem trans (h : OnlyRow k s s') (h' : OnlyRow k s' t) : OnlyRow k s t where
  attr p hp := (h'.attr p hp).trans (h.attr p hp)
  rest := by
    rw [h'.rest, h.rest]

theorem withAttr (r : AttrRow) (s : Target) : OnlyRow r.key s (s.withAttr r) :=
  ⟨fun _ hp => filter_insertReplace fun x hx => hp x hx, rfl⟩

theorem outWrite (w : Nat × List UInt8) : OnlyRow k s { s with out := s.out ++ [w] } := ⟨fun _ _ => rfl, rfl⟩

/-- Other attributes are as they were. -/
theorem attrVal {k' : Int × Int × Int × Int} (h : OnlyRow k s t) (hne : k' ≠ k) :
    t.db.attrVal k' = s.db.attrVal k' := by
  unfold Db.attrVal
  rw [h.attr.find? fun x hx => decide_eq_false fun hx' => hne (hx'.symm.trans hx)]

end OnlyRow

def Register.row (r : Register) (value : List UInt8) : AttrRow :=
  attrRow r.pid r.oid USER_ATOMICS_PG r.atomic.number value

theorem attrVal_withAttr {r : AttrRow} (h : r.value.length < 2 ^ 16) :
    (s.withAttr r).db.attrVal r.key = r.value := by
  unfold Db.attrVal
  rw [show (s.withAttr r).db.attr = insertReplace AttrRow.key r s.db.attr from rfl, find?_insertReplace]
  show r.value.take (UInt16.ofNat r.value.length).toNat = r.value
  rw [UInt16.toNat_ofNat_of_lt' h, List.take_length]

theorem keeps_withAttr (be : Bool) (r : Register) (x : UInt64) :
    (s.withAttr (r.row (hostBytes be x))).db.Keeps be r x :=
  .inl (attrVal_withAttr (s := s) (r := r.row (hostBytes be x)) (by simp [Register.row]))

theorem setRegister_ends {r : Register} {x : UInt64} {Q : Ret → Target → Prop}
    (hok : Q .ok (s.withAttr (r.row (hostBytes env.bigEndian x))))
    (herr : ¬ env.RunsSql → Q (.err .osdError) s) :
    Ends (attrSetAttr env r.pid r.oid USER_ATOMICS_PG r.atomic.number (some (hostVal env x)) 8) s Q := by
  unfold attrSetAttr
  rw [if_neg (by decide), if_neg (by decide)]
  refine dbExecDms_ends_of rfl ?_ fun hf => herr fun hruns => ?_
  · rw [← givenBytes_hostVal env x] at hok
    exact hok
  · rw [hruns.dms] at hf
    exact absurd hf (by decide)

theorem getRegister_ends {r : Register} {x : UInt64} {Q : Ret × List UInt8 → Target → Prop}
    (hx : s.db.Keeps env.bigEndian r x) (hok : Q (.ok, hostBytes env.bigEndian x) s)
    (hnone : x = 0 → Q (.err .enoent, []) s) (herr : ¬ env.RunsSql → Q (.err .osdError, []) s) :
    Ends (attrGetVal env r.pid r.oid USER_ATOMICS_PG r.atomic.number 8) s Q := by
  refine ends_bind.2 (dbExecQuery_ends (fun _ => ?_) fun hf => ends_pure.2 (herr fun hruns => ?_))
  · unfold Db.Keeps Db.attrVal at hx
    rw [show r.key = (bindInt64 r.pid, bindInt64 r.oid, bindInt USER_ATOMICS_PG, bindInt r.atomic.number) from rfl]
      at hx
    cases hf : s.db.attr.find? (fun y => y.key
        = (bindInt64 r.pid, bindInt64 r.oid, bindInt USER_ATOMICS_PG, bindInt r.atomic.number)) with
    | none =>
      rw [hf] at hx
      rcases hx with hx | hx
      · have hlen := congrArg List.length hx
        rw [hostBytes_length] at hlen
        exact absurd hlen (by decide)
      · exact ends_pure.2 (hnone hx.2)
    | some y =>
      rw [hf] at hx
      dsimp only at hx ⊢
      have hlen : (y.value.take (UInt16.ofNat y.value.length).toNat).length
          = (UInt16.ofNat y.value.length).toNat := by
        rw [List.length_take, UInt16.toNat_ofNat']
        exact Nat.min_eq_left (Nat.mod_le ..)
      rcases hx with hx | ⟨hx, h0⟩
      · rw [hx, hostBytes_length] at hlen
        refine ends_ite_of (fun h => absurd h ?_) fun _ => ends_ite_of (fun h => ?_) fun _ => ?_
        · rw [← hlen]
          decide
        · omega
        · rw [hx]
          exact ends_pure.2 hok
      · rw [hx] at hlen
        refine ends_ite_of (fun h => ?_) fun _ => ends_ite_of (fun _ => ends_pure.2 (hnone h0)) fun h => ?_
        · rw [← hlen] at h
          exact absurd h (Nat.not_lt_zero _)
        · exact absurd hlen.symm h
  · rw [hruns.query] at hf
    exact absurd hf (by decide)

/-- The device keeps `x` in the register, has written `w`, and is as before otherwise. -/
structure Leaves (be : Bool) (r : Register) (x : UInt64) (w : List (Nat × List UInt8)) (s t : Target) : Prop where
  keeps : t.db.Keeps be r x
  only : OnlyRow r.key s t
  out : t.out = s.out ++ w

/-- A register is read where it is kept; one not yet stored is stored as 0. -/
theorem readAtomic_ends {r : Register} {x : UInt64} (hx : s.db.Keeps env.bigEndian r x) :
    Ends (readAtomic env r.pid r.oid r.atomic.number) s fun v t =>
      v = some x ∧ Leaves env.bigEndian r x [] s t ∨ v = none ∧ ¬ env.RunsSql ∧ t = s := by
  refine ends_bind.2 (getRegister_ends hx ?_ (fun h0 => ?_) fun hruns => ?_)
  · refine ends_ite_of (fun _ => ends_pure.2 (.inl ⟨?_, hx, .refl _ s, (List.append_nil _).symm⟩))
      fun h => absurd rfl h
    exact congrArg some (hostRead_hostBytes env x)
  · subst h0
    refine ends_ite_of (fun h => nomatch h) fun _ => ends_ite_of (fun h => absurd rfl h) fun _ => ?_
    refine ends_bind.2 (setRegister_ends ?_ fun hruns => ?_)
    · refine ends_ite_of (fun h => absurd rfl h) fun _ => ends_pure.2 (.inl ⟨rfl, ?_, ?_, ?_⟩)
      · exact keeps_withAttr ..
      · exact OnlyRow.withAttr (r.row (hostBytes env.bigEndian 0)) s
      · exact (List.append_nil _).symm
    · exact ends_ite_of (fun _ => ends_pure.2 (.inr ⟨rfl, hruns, rfl⟩)) fun h => absurd (by simp) h
  · refine ends_ite_of (fun h => nomatch h) fun _ => ends_ite_of (fun _ => ?_) fun h => absurd (by simp) h
    exact ends_pure.2 (.inr ⟨rfl, hruns, rfl⟩)

theorem isPresentUserobject_run (henv : env.RunsSql) (hobj : s.db.objType pid oid = .userobject) :
    isPresentUserobject env pid oid s = some (true, s) := by
  unfold isPresentUserobject
  rw [bind_of_some (objIspresent_run henv (has_of_objType hobj))]
  show (if _ then _ else _ : OsdM Bool) s = _
  rw [if_neg (by simp), bind_of_some (getObjType_answers (fun q => henv.query q _) pid oid), hobj]
  rfl

theorem isPresentUserobject_present (hobj : s.db.objType pid oid = .userobject) :
    Ends (isPresentUserobject env pid oid) s fun b t => t = s ∧ (b = false → ¬ env.RunsSql) := by
  have hsame : Ends (isPresentUserobject env pid oid) s fun _ t => t = s :=
    isPresentUserobject_ends rfl fun _ => rfl
  by_cases hruns : env.RunsSql
  · exact (ends_of_run (isPresentUserobject_run hruns hobj)).2 ⟨rfl, fun h => nomatch h⟩
  · exact hsame.mono fun _ _ h => ⟨h, fun _ => hruns⟩

theorem Leaves.trans {be : Bool} {r : Register} {x y : UInt64} {w : List (Nat × List UInt8)} {s' : Target}
    (h : Leaves be r x [] s s') (hy : t.db.Keeps be r y) (h' : OnlyRow r.key s' t) (hout : t.out = s'.out ++ w) :
    Leaves be r y w s t :=
  ⟨hy, h.only.trans h', by rw [hout, h.out, List.append_nil]⟩

/-- What a call on a register that keeps `x` may end with: the answer and `y` in its place, or a
failure of the database. -/
def Served (env : Env) (r : Register) (x y : UInt64) (pos : Nat) (s : Target) (a : Ret × Option UInt64)
    (t : Target) : Prop :=
  a = (.ok, some 8) ∧ Leaves env.bigEndian r y [(pos, htonll x)] s t ∨
    (a.1 ≠ .ok ∧ a.2 = none ∧ ¬ env.RunsSql) ∧ Leaves env.bigEndian r x [] s t

section Served

variable {r : Register} {x y : UInt64} {pos : Nat} {s' : Target}

/-- The value found goes to the reply. -/
theorem answer_served (h : Leaves env.bigEndian r y [] s s') :
    Ends (outWrite pos (htonll x) >>= fun _ => pure (.ok, some 8) : OsdM (Ret × Option UInt64)) s'
      (Served env r x y pos s) :=
  ends_bind.2 (ends_modify.2 (ends_pure.2 (.inl ⟨rfl, h.trans h.keeps (OnlyRow.outWrite _) rfl⟩)))

theorem setRegister_served (h : Leaves env.bigEndian r x [] s s') :
    Ends (attrSetAttr env r.pid r.oid USER_ATOMICS_PG r.atomic.number (some (hostVal env y)) 8 >>= fun ret =>
      if ret ≠ .ok then pure (hwErr r.pid r.oid, none)
      else outWrite pos (htonll x) >>= fun _ => pure (.ok, some 8) : OsdM (Ret × Option UInt64)) s'
      (Served env r x y pos s) := by
  refine ends_bind.2 (setRegister_ends ?_ fun hruns => ?_)
  · refine ends_ite_of (fun h => absurd rfl h) fun _ => answer_served ?_
    exact h.trans (keeps_withAttr ..) (OnlyRow.withAttr (r.row (hostBytes env.bigEndian y)) s')
      (List.append_nil _).symm
  · exact ends_ite_of (fun _ => ends_pure.2 (.inr ⟨⟨nofun, rfl, hruns⟩, h⟩)) fun h => absurd (by simp) h

/-- The common beginning: a present object, and its register is read. -/
theorem readAtomic_served {k : Option UInt64 → OsdM (Ret × Option UInt64)}
    (hobj : s.db.objType r.pid r.oid = .userobject) (hx : s.db.Keeps env.bigEndian r x)
    (hnone : k none = pure (hwErr r.pid r.oid, none))
    (hsome : ∀ s', Leaves env.bigEndian r x [] s s' → Ends (k (some x)) s' (Served env r x y pos s)) :
    Ends (isPresentUserobject env r.pid r.oid >>= fun b =>
      if (!b) = true then pure (cdbErr r.pid r.oid, none)
      else readAtomic env r.pid r.oid r.atomic.number >>= k) s (Served env r x y pos s) := by
  have hsame : Leaves env.bigEndian r x [] s s := ⟨hx, .refl _ s, (List.append_nil _).symm⟩
  refine ends_call (isPresentUserobject_present hobj) fun b s₀ ⟨hs₀, hb⟩ => ?_
  subst hs₀
  refine ends_ite_of (fun hno => ends_pure.2 (.inr ⟨⟨cdbErr_ne_ok _ _, rfl, hb ?_⟩, hsame⟩)) fun _ => ?_
  · simpa using hno
  refine ends_call (readAtomic_ends hx) fun v s₁ hv => ?_
  rcases hv with ⟨rfl, hl⟩ | ⟨rfl, hruns, rfl⟩
  · exact hsome s₁ hl
  · rw [hnone]
    exact ends_pure.2 (.inr ⟨⟨nofun, rfl, hruns⟩, hsame⟩)

end Served

/-- **One call** answers with the value its register keeps and leaves the updated one, or fails with
the database and leaves the register. -/
theorem AtomicCall.exec_served (c : AtomicCall) {x : UInt64} (hobj : s.db.objType c.pid c.oid = .userobject)
    (hx : s.db.Keeps c.env.bigEndian c.access.register x) :
    Ends c.exec s (Served c.env c.access.register x (c.access.update x) c.pos s) := by
  obtain ⟨env, pid, oid, pos, op⟩ := c
  cases op with
  | cas cmp swap =>
    refine readAtomic_served (r := ⟨pid, oid, .cas⟩) hobj hx rfl fun s₁ hl => ?_
    show Ends _ _ (Served _ _ _ (if x = cmp then swap else x) _ _)
    refine ends_ite_of (fun hcmp => ?_) fun hcmp => ?_
    · rw [if_pos hcmp]
      exact setRegister_served hl
    · rw [if_neg hcmp]
      exact answer_served hl
  | fa add =>
    refine readAtomic_served (r := ⟨pid, oid, .fa⟩) hobj hx rfl fun s₁ hl => ?_
    show Ends _ _ (Served _ _ _ (UInt64.ofInt (x.toNat + add.toInt)) _ _)
    rw [← toUInt64_add]
    exact setRegister_served hl

theorem AtomicCall.halts_exec (c : AtomicCall) : Halts c.exec := by
  obtain ⟨env, pid, oid, pos, op⟩ := c
  have hread : ∀ number, Halts (readAtomic env pid oid number) := fun number =>
    halts_bind (halts_attrGetVal _ _ _ _ _) fun _ => halts_ite (halts_pure _)
      (halts_ite (halts_pure _) (halts_bind (halts_attrSetAttr _ _ _ _ _ _) fun _ => halts_ite (halts_pure _) (halts_pure _)))
  have hpresent : Halts (isPresentUserobject env pid oid) :=
    halts_bind (halts_dbExecQuery _ _ _) fun _ => halts_ite (halts_pure _)
      (halts_bind (halts_getObjType _ _) fun _ => halts_pure _)
  have hanswer : ∀ val, Halts (outWrite pos (htonll val) >>= fun _ => pure (.ok, some 8) :
      OsdM (Ret × Option UInt64)) := fun val => halts_bind (halts_outWrite _ _) fun _ => halts_pure _
  cases op with
  | cas cmp swap =>
    refine halts_bind hpresent fun b => halts_ite (halts_pure _) (halts_bind (hread _) fun v => ?_)
    cases v with
    | none => exact halts_pure _
    | some val =>
      exact halts_ite (halts_bind (halts_attrSetAttr _ _ _ _ _ _) fun _ => halts_ite (halts_pure _) (hanswer val)) (hanswer val)
  | fa add =>
    refine halts_bind hpresent fun b => halts_ite (halts_pure _) (halts_bind (hread _) fun v => ?_)
    cases v with
    | none => exact halts_pure _
    | some val => exact halts_bind (halts_attrSetAttr _ _ _ _ _ _) fun _ => halts_ite (halts_pure _) (hanswer val)

/-! ## Runs -/

/-- A call that was made, with the states around it and what it returned. -/
structure AtomicStep where
  call : AtomicCall
  before : Target
  after : Target
  ret : Ret
  used : Option UInt64

/-- What the call returned, the length it reported, and what it wrote to the reply. -/
def AtomicStep.reply (a : AtomicStep) : Ret × Option UInt64 × List (Nat × List UInt8) :=
  (a.ret, a.used, a.after.out.drop a.before.out.length)

/-- A run of CAS and FA on the present user objects among `objects`, on a host of one byte order.
Anything may happen between the calls that leaves the registers of these objects alone. -/
inductive AtomicRun (bigEndian : Bool) (objects : UInt64 → UInt64 → Prop) : Target → List AtomicStep → Target → Prop
  | done (s : Target) : AtomicRun bigEndian objects s [] s
  | call {a : AtomicStep} {l : List AtomicStep} {t : Target} (order : a.call.env.bigEndian = bigEndian)
      (object : objects a.call.pid a.call.oid)
      (present : a.before.db.objType a.call.pid a.call.oid = .userobject)
      (returns : a.call.exec a.before = some ((a.ret, a.used), a.after))
      (rest : AtomicRun bigEndian objects a.after l t) : AtomicRun bigEndian objects a.before (a :: l) t
  | other {s s' : Target} {l : List AtomicStep} {t : Target}
      (same : ∀ r : Register, objects r.pid r.oid → s'.db.attrVal r.key = s.db.attrVal r.key)
      (rest : AtomicRun bigEndian objects s' l t) : AtomicRun bigEndian objects s l t

/-- The calls that succeeded. -/
def succeeded (l : List AtomicStep) : List AtomicStep := l.filter (fun a => a.ret = .ok)

/-- The accesses they make. -/
def accesses (l : List AtomicStep) : List (Access Register UInt64) := (succeeded l).map (·.call.access)

theorem succeeded_cons {a : AtomicStep} {l : List AtomicStep} :
    succeeded (a :: l) = succeeded [a] ++ succeeded l := List.filter_append [a] l

theorem bankAfter_cons {bank : Register → UInt64} {a : AtomicStep} {l : List AtomicStep} :
    bankAfter bank (accesses (a :: l)) = bankAfter (bankAfter bank (accesses [a])) (accesses l) := by
  unfold accesses
  rw [succeeded_cons, List.map_append]
  exact List.foldl_append

/-- **One call** leaves the registers of all objects as the bank has them after it. -/
theorem Served.bank {objects : UInt64 → UInt64 → Prop} {a : AtomicStep} {bank : Register → UInt64}
    (hserved : Served a.call.env a.call.access.register (bank a.call.access.register)
      (a.call.access.update (bank a.call.access.register)) a.call.pos a.before (a.ret, a.used) a.after)
    (hbank : ∀ r, objects r.pid r.oid → a.before.db.Keeps a.call.env.bigEndian r (bank r)) :
    ∀ r, objects r.pid r.oid →
      a.after.db.Keeps a.call.env.bigEndian r (bankAfter bank (accesses [a]) r) := by
  intro r hr
  -- the registers of the others are kept whatever the call does to its own
  have hothers : ∀ {y : UInt64} {w : List (Nat × List UInt8)},
      Leaves a.call.env.bigEndian a.call.access.register y w a.before a.after →
      r ≠ a.call.access.register → a.after.db.Keeps a.call.env.bigEndian r (bank r) := by
    intro y w hl hne
    unfold Db.Keeps
    rw [hl.only.attrVal fun hk => hne (Register.key_inj.1 hk)]
    exact hbank r hr
  rcases hserved with ⟨ha, hl⟩ | ⟨⟨hret, -⟩, hl⟩
  · have hone : accesses [a] = [a.call.access] := by
      have hok : a.ret = .ok := congrArg Prod.fst ha
      unfold accesses succeeded
      rw [List.filter_cons_of_pos (by simpa using hok)]
      rfl
    rw [hone]
    show a.after.db.Keeps _ r (a.call.access.apply bank r)
    by_cases hr' : r = a.call.access.register
    · rw [hr', Access.apply_register]
      exact hl.keeps
    · rw [Access.apply_of_ne hr']
      exact hothers hl hr'
  · have hnone : accesses [a] = [] := by
      unfold accesses succeeded
      rw [List.filter_cons_of_neg (by simpa using hret)]
      rfl
    rw [hnone]
    show a.after.db.Keeps _ r (bank r)
    by_cases hr' : r = a.call.access.register
    · rw [hr']
      exact hl.keeps
    · exact hothers hl hr'

/-- **A run** leaves the registers as the bank has them after its accesses. -/
theorem AtomicRun.bank {be : Bool} {objects : UInt64 → UInt64 → Prop} {l : List AtomicStep}
    {bank : Register → UInt64} (hrun : AtomicRun be objects s l t)
    (hbank : ∀ r, objects r.pid r.oid → s.db.Keeps be r (bank r)) :
    ∀ r, objects r.pid r.oid → t.db.Keeps be r (bankAfter bank (accesses l) r) := by
  induction hrun generalizing bank with
  | done s => exact hbank
  | other hsame _ ih =>
    refine ih fun r hr => ?_
    unfold Db.Keeps
    rw [hsame r hr]
    exact hbank r hr
  | @call a l t horder hobject hpresent hreturns hrest ih =>
    subst horder
    have hserved := AtomicCall.exec_served a.call hpresent (hbank a.call.access.register hobject) _ _ hreturns
    rw [bankAfter_cons]
    exact ih (hserved.bank hbank)

/-- **CAS and FA are sequential registers.**  The calls that succeed return what a bank of registers
answers to them in that order, and leave it in the table; a call fails only where the database does,
and no call changes anything but its own register. -/
theorem atomicRun_serves {be : Bool} {objects : UInt64 → UInt64 → Prop} {l : List AtomicStep}
    {bank : Register → UInt64} (hrun : AtomicRun be objects s l t)
    (hbank : ∀ r, objects r.pid r.oid → s.db.Keeps be r (bank r)) :
    (succeeded l).map AtomicStep.reply = List.zipWith (fun a v => (.ok, some 8, [(a.call.pos, htonll v)]))
        (succeeded l) (serve bank (accesses l)) ∧
      (∀ r, objects r.pid r.oid → t.db.Keeps be r (bankAfter bank (accesses l) r)) ∧
      (∀ a ∈ l, (a.call.env.RunsSql → a.ret = .ok) ∧ OnlyRow a.call.access.register.key a.before a.after) ∧
      ∀ c : AtomicCall, ∃ a u, c.exec t = some (a, u) := by
  refine ⟨?_, hrun.bank hbank, ?_, fun c => ?_⟩
  · induction hrun generalizing bank with
    | done s => rfl
    | other hsame _ ih =>
      refine ih fun r hr => ?_
      unfold Db.Keeps
      rw [hsame r hr]
      exact hbank r hr
    | @call a l t horder hobject hpresent hreturns hrest ih =>
      subst horder
      have hserved := AtomicCall.exec_served a.call hpresent (hbank a.call.access.register hobject) _ _ hreturns
      have hreplies := ih (hserved.bank hbank)
      rcases hserved with ⟨ha, hl⟩ | ⟨⟨hret, -⟩, -⟩
      · obtain ⟨hret, hused⟩ := Prod.mk.inj ha
        have hone : succeeded [a] = [a] := List.filter_cons_of_pos (by simpa using hret)
        have hreply : a.reply = (.ok, some 8, [(a.call.pos, htonll (bank a.call.access.register))]) := by
          unfold AtomicStep.reply
          rw [hret, hused, hl.out, List.drop_left]
        unfold accesses at hreplies ⊢
        rw [hone] at hreplies
        rw [succeeded_cons, hone, List.singleton_append, List.map_cons, List.map_cons, hreplies, hreply]
        rfl
      · have hnone : succeeded [a] = [] := List.filter_cons_of_neg (by simpa using hret)
        unfold accesses at hreplies ⊢
        rw [hnone] at hreplies
        rw [succeeded_cons, hnone, List.nil_append, hreplies]
        rfl
  · induction hrun generalizing bank with
    | done s => exact fun _ ha => absurd ha List.not_mem_nil
    | @other s s' l t hsame _ ih =>
      have hsame' : ∀ r, objects r.pid r.oid → s'.db.Keeps be r (bank r) := fun r hr => by
        unfold Db.Keeps
        rw [hsame r hr]
        exact hbank r hr
      exact ih hsame'
    | @call a l t horder hobject hpresent hreturns hrest ih =>
      subst horder
      have hserved := AtomicCall.exec_served a.call hpresent (hbank a.call.access.register hobject) _ _ hreturns
      refine List.forall_mem_cons.2 ⟨?_, ih (hserved.bank hbank)⟩
      rcases hserved with ⟨ha, hl⟩ | ⟨⟨-, -, hruns⟩, hl⟩
      · obtain ⟨hret, -⟩ := Prod.mk.inj ha
        exact ⟨fun _ => hret, hl.only⟩
      · exact ⟨fun h => absurd h hruns, hl.only⟩
  · obtain ⟨a, u, hr⟩ := c.halts_exec t
    exact ⟨a, u, hr⟩

/-- The call made in a state. -/
def AtomicCall.step (c : AtomicCall) (s : Target) : AtomicStep :=
  let r := (c.exec s).getD ((.ok, none), s)
  ⟨c, s, r.2, r.1.1, r.1.2⟩

theorem AtomicCall.step_returns (c : AtomicCall) (s : Target) :
    c.exec s = some (((c.step s).ret, (c.step s).used), (c.step s).after) := by
  obtain ⟨a, t, hr⟩ := c.halts_exec s
  unfold AtomicCall.step
  rw [hr]
  rfl

/-- Calls made one after the other. -/
def AtomicCall.steps : List AtomicCall → Target → List AtomicStep
  | [], _ => []
  | c :: l, s => c.step s :: AtomicCall.steps l (c.step s).after

theorem AtomicCall.steps_run {be : Bool} {objects : UInt64 → UInt64 → Prop} {calls : List AtomicCall}
    (hcalls : ∀ c ∈ calls, c.env.bigEndian = be ∧ objects c.pid c.oid)
    (hpresent : ∀ a ∈ AtomicCall.steps calls s, a.before.db.objType a.call.pid a.call.oid = .userobject) :
    ∃ t, AtomicRun be objects s (AtomicCall.steps calls s) t := by
  induction calls generalizing s with
  | nil => exact ⟨s, .done s⟩
  | cons c l ih =>
    obtain ⟨t, hrun⟩ := ih (fun c hc => hcalls c (List.mem_cons_of_mem _ hc))
      fun a ha => hpresent a (List.mem_cons_of_mem _ ha)
    obtain ⟨horder, hobject⟩ := hcalls c List.mem_cons_self
    exact ⟨t, .call (a := c.step s) horder hobject (hpresent _ List.mem_cons_self) (c.step_returns s) hrun⟩

def plainObject : Target := calmRun [.createPartition 0, .create 0x10000 0x10000 1]

def plainCalls : List AtomicCall :=
  [AtomicOp.cas 0 5, .fa (-20), .fa 30].map fun op => ⟨Env.calm, 0x10000, 0x10000, 0, op⟩

/-- The register of FA wraps around below 0, apart from that of CAS. -/
theorem atomicRun_serves_wraps :
    let l := AtomicCall.steps plainCalls plainObject
    (succeeded l).map AtomicStep.reply = List.zipWith (fun a v => (.ok, some 8, [(a.call.pos, htonll v)]))
        (succeeded l) (serve (fun _ => 0) (accesses l)) ∧
      serve (fun _ => 0) (accesses l) = [0, 0, 0xffffffffffffffec] := by
  have hcalls : ∀ c ∈ plainCalls, c.env.bigEndian = false ∧ c.pid = 0x10000 ∧ c.oid = 0x10000 := by
    decide +kernel
  have hpresent : ∀ a ∈ AtomicCall.steps plainCalls plainObject,
      a.before.db.objType a.call.pid a.call.oid = .userobject := by decide +kernel
  have hrun : ∃ t, AtomicRun false (fun p o => p = 0x10000 ∧ o = 0x10000) plainObject
      (AtomicCall.steps plainCalls plainObject) t := AtomicCall.steps_run hcalls hpresent
  obtain ⟨t, hrun⟩ := hrun
  have hnone : ∀ a : Atomic, plainObject.db.attrVal (Register.key ⟨0x10000, 0x10000, a⟩) = [] := by
    intro a
    cases a <;> decide +kernel
  refine ⟨(atomicRun_serves hrun fun r hr => .inr ⟨?_, rfl⟩).1, by decide +kernel⟩
  obtain ⟨p, o, a⟩ := r
  obtain ⟨hp, ho⟩ : p = 0x10000 ∧ o = 0x10000 := hr
  rw [hp, ho]
  exact hnone a

end OsdTarget
