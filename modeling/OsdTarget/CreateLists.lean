import OsdTarget.FailedSets
import OsdTarget.PureRetrieval

/-!
# CREATE with a set list

`cdb_create` makes all its objects and then sets entry after entry on all of them.  It succeeds exactly when
the objects can be created, one after the other, and each pair of an entry and an object is accepted.
-/

namespace OsdTarget

open Base

variable {env : Env} {pid oid : UInt64} {s s' t : Target}

/-! ## Set lists -/

section Command

variable {cmd : Command} {fuel : Nat} {used : UInt32} {numoid : UInt16}

/-- The entries of the set list. -/
def Command.entries (cmd : Command) (fuel : Nat) : List ListEntry :=
  match setListCheck cmd with
  | .use off len => (visitEntries cmd.indata fuel (off + 8) (UInt32.ofNat len - 8)).1
  | _ => []

/-- The set list passes its tests, and its end is met. -/
def Command.ListEnds (cmd : Command) (fuel : Nat) : Prop :=
  match setListCheck cmd with
  | .nothing => True
  | .reject _ => False
  | .use off len => (visitEntries cmd.indata fuel (off + 8) (UInt32.ofNat len - 8)).2 = true

/-- Lists to set and to get, the one to get being empty. -/
structure Command.OnlySets (cmd : Command) : Prop where
  format : cmd.getsetCdbfmt = GETLIST_SETLIST
  gets : getNtohl cmd.cdb 52 = 0

theorem butTxn_runPairs (ps : List SetPair) : Alike ButTxn (runPairs env pid indata true ps) := by
  induction ps with
  | nil => exact alike_pure _
  | cons p ps ih =>
    exact alike_bind ((butTxn_sees _ _ _).osdSetAttributes (butTxn_seesPage _) _ (butTxn_seesPointer _ _ _))
      fun _ => alike_guard ih

/-- What `set_attributes` comes to, for lists. -/
theorem setAttributes_lockstep (env : Env) (pid oid : UInt64) (fuel : Nat) (s : Target) (hsets : cmd.OnlySets)
    (hn : ¬ numoid.toUInt32 < 1) :
    (∃ ret, setAttributes env cmd pid oid numoid.toUInt32 fuel = pure ret ∧ (ret = .ok ↔ cmd.ListEnds fuel) ∧
      cmd.entries fuel = []) ∨
    ∃ ended : Bool, (ended = true ↔ cmd.ListEnds fuel) ∧
      Lockstep ButTxn (do
        let ret ← runPairs env pid cmd.indata true (setPairs oid (createCount oid numoid) (cmd.entries fuel))
        if ret ≠ .ok then
          return ret
        if ended then return .ok else never)
        (setAttributes env cmd pid oid numoid.toUInt32 fuel) s s := by
  have hformat : setAttributes env cmd pid oid numoid.toUInt32 fuel =
      setAttrList env cmd pid oid true numoid fuel := by
    unfold setAttributes
    rw [if_neg hn, hsets.format, if_neg (by decide), if_pos rfl, UInt16.toUInt16_toUInt32]
  rw [hformat]
  unfold setAttrList Command.ListEnds Command.entries
  cases setListCheck cmd with
  | nothing => exact .inl ⟨.ok, rfl, iff_of_true rfl trivial, rfl⟩
  | reject asc => exact .inl ⟨_, rfl, iff_of_false nofun id, rfl⟩
  | use off len =>
    refine .inr ⟨_, Iff.rfl, ?_⟩
    show Lockstep ButTxn _ (withinTxn env (setAttrListLoop env cmd.indata pid oid true numoid fuel (off + 8)
      (UInt32.ofNat len - 8))) s s
    rw [setAttrListLoop_eq]
    refine withinTxn_sameOutcome (alike_bind (butTxn_runPairs _) fun ret => alike_guard ?_)
    exact alike_ite (alike_pure _) alike_never

/-- **`set_attributes` succeeds** exactly when all pairs are accepted. -/
theorem setAttributes_ok (hsets : cmd.OnlySets) (hn : ¬ numoid.toUInt32 < 1)
    (h : setAttributes env cmd pid oid numoid.toUInt32 fuel s = some (.ok, s')) :
    cmd.ListEnds fuel ∧ ∃ v, runPairs env pid cmd.indata true
      (setPairs oid (createCount oid numoid) (cmd.entries fuel)) s = some (.ok, v) ∧ ButTxn v s' := by
  rcases setAttributes_lockstep env pid oid fuel s hsets hn with ⟨ret, hret, hends, hnil⟩ | ⟨ended, hends, hlock⟩
  · rw [hret] at h
    cases h
    rw [hnil]
    exact ⟨hends.1 rfl, s, rfl, s.inTxn, s.txnCalls, rfl⟩
  · obtain ⟨v, hv, hvs⟩ := (hlock : Lockstep ButTxn _ _ s s).back h
    have hall : Ends (runPairs env pid cmd.indata true
        (setPairs oid (createCount oid numoid) (cmd.entries fuel)) >>= fun ret => if ret ≠ .ok then pure ret
          else if ended then pure .ok else never) s fun ret v => ret = .ok → ended = true ∧
            runPairs env pid cmd.indata true (setPairs oid (createCount oid numoid) (cmd.entries fuel)) s
              = some (.ok, v) := by
      refine ends_bind.2 fun ret u hu => ends_ite_of (fun hno => ends_pure.2 fun h => absurd h hno) fun hok => ?_
      refine ends_ite_of (fun hended => ends_pure.2 fun _ => ⟨hended, ?_⟩) fun _ => ends_never.2 trivial
      rw [hu, not_not.1 hok]
    obtain ⟨hended, hrun⟩ := hall _ _ hv rfl
    exact ⟨hends.1 hended, v, hrun, hvs⟩

theorem setAttributes_of_pairs (hsets : cmd.OnlySets) (hn : ¬ numoid.toUInt32 < 1) (hends : cmd.ListEnds fuel)
    (h : runPairs env pid cmd.indata true
      (setPairs oid (createCount oid numoid) (cmd.entries fuel)) s = some (.ok, s')) :
    ∃ v, setAttributes env cmd pid oid numoid.toUInt32 fuel s = some (.ok, v) ∧ ButTxn s' v := by
  rcases setAttributes_lockstep env pid oid fuel s hsets hn with ⟨ret, hret, hok, hnil⟩ | ⟨ended, hended, hlock⟩
  · rw [hnil] at h
    have hnothing : setPairs oid (createCount oid numoid) [] = [] := rfl
    rw [hnothing] at h
    obtain rfl : s = s' := (Prod.mk.inj (Option.some.inj h)).2
    refine ⟨s, ?_, s.inTxn, s.txnCalls, rfl⟩
    rw [hret, hok.2 hends]
    rfl
  · refine (hlock : Lockstep ButTxn _ _ s s).run ((bind_of_some h).trans ?_)
    rw [if_neg (not_not.2 rfl), hended.2 hends]
    rfl

end Command

/-! ## Creating -/

/-- The row goes in, and the data file is made. -/
structure Env.Creates (env : Env) (s : Target) (pid i : UInt64) : Prop where
  inserts : env.Inserts s.db (userRow pid i)
  makes : env.MakesFile s pid i

theorem Env.Creates.of_eq (h : env.Creates s pid oid) (hdb : t.db = s.db) (hfiles : t.files = s.files)
    (hroot : t.rootFreed = s.rootFreed) : env.Creates t pid oid := by
  refine ⟨hdb ▸ h.inserts, h.makes.stat, ?_, h.makes.creat, hroot ▸ h.makes.root⟩
  have habsent := h.makes.absent
  unfold Target.lookup at habsent ⊢
  rw [hroot, hfiles]
  exact habsent

/-- One object after the other can be created, `n` of them with the first `m` already there. -/
def Env.CreatesFrom (env : Env) (s : Target) (pid oid : UInt64) (m n : Nat) : Prop :=
  ∀ k, m ≤ k → k < m + n → env.Creates (s.withObjects pid oid k) pid (oid + UInt64.ofNat k)

theorem createsFrom_succ {m n : Nat} : env.CreatesFrom s pid oid m (n + 1) ↔
    env.Creates (s.withObjects pid oid m) pid (oid + UInt64.ofNat m) ∧ env.CreatesFrom s pid oid (m + 1) n := by
  refine ⟨fun h => ⟨h m (Nat.le_refl m) (by omega), fun k hm hk => h k (by omega) (by omega)⟩,
    fun h k hm hk => ?_⟩
  rcases Nat.eq_or_lt_of_le hm with rfl | hm
  · exact h.1
  · exact h.2 k hm (by omega)

/-- **What becomes of the loop of `osd_create`.** -/
theorem createLoop_result (n m : Nat) :
    Ends (createLoop env pid oid n (oid + UInt64.ofNat m)) (s.withObjects pid oid m) fun r t =>
      r = none ∧ env.CreatesFrom s pid oid m n ∧ t = s.withObjects pid oid (m + n) ∨
        r ≠ none ∧ ¬ env.CreatesFrom s pid oid m n := by
  induction n generalizing m with
  | zero => exact ends_pure.2 (.inl ⟨rfl, fun k hm hk => absurd hk (by omega), rfl⟩)
  | succ n ih =>
    refine ends_bind.2 (objInsert_inserts (fun hins => ?_) fun hno => ?_)
    · refine ends_ite_of (fun h => absurd rfl h) fun _ => ends_bind.2 (osdCreateDatafile_makes (fun hmade => ?_)
        fun hno e => ?_)
      · have hnext : oid + UInt64.ofNat m + 1 = oid + UInt64.ofNat (m + 1) := by
          rw [UInt64.ofNat_add, ← UInt64.add_assoc]
          rfl
        have hlen : m + (n + 1) = m + 1 + n := by omega
        have hcreates : env.Creates (s.withObjects pid oid m) pid (oid + UInt64.ofNat m) :=
          ⟨hins, hmade.stat, hmade.absent, hmade.creat, hmade.root⟩
        refine ends_ite_of (fun h => absurd rfl h) fun _ => ?_
        rw [hnext, createsFrom_succ, hlen]
        refine Target.withObjects_succ s pid oid m ▸ (ih (m + 1)).mono fun r t h => ?_
        rcases h with ⟨hr, hall, ht⟩ | ⟨hr, hnot⟩
        · exact .inl ⟨hr, ⟨hcreates, hall⟩, ht⟩
        · exact .inr ⟨hr, fun h => hnot h.2⟩
      · have hnot : ¬ env.CreatesFrom s pid oid m (n + 1) := fun h => by
          have hmakes := (createsFrom_succ.1 h).1.makes
          exact hno ⟨hmakes.stat, hmakes.absent, hmakes.creat, hmakes.root⟩
        exact ends_ite_of (fun _ => ends_bind.2 fun _ _ _ => ends_bind.2 fun _ _ _ =>
          ends_pure.2 (.inr ⟨nofun, hnot⟩)) fun h => absurd (by simp) h
    · exact ends_ite_of (fun _ => ends_bind.2 fun _ _ _ => ends_pure.2
        (.inr ⟨nofun, fun h => hno (createsFrom_succ.1 h).1.inserts⟩)) fun h => absurd (by simp) h

/-- The state that CREATE leaves of `n` objects. -/
def Target.afterCreate (s : Target) (pid oid : UInt64) (n : UInt16) : Target :=
  { s.withObjects pid oid (createCount oid n) with
    ic := ⟨pid, oid + 1 + (n.toUInt64 - 1)⟩
    ccap := fillCcap .userobject pid (oid + n.toUInt64 - 1) 0 }

/-- The partition is there, and all objects can be created. -/
structure Env.CreatesObjects (env : Env) (s : Target) (pid : UInt64) (n : UInt16) : Prop where
  admits : env.AdmitsUserobject s pid 0
  creates : env.CreatesFrom s pid (s.chosen pid USEROBJECT_OID_LB) 0
    (createCount (s.chosen pid USEROBJECT_OID_LB) n)

theorem createFrom_result_chosen (numoid : UInt16) (ic : IdCache) (hpid : ic.curPid = pid)
    (hnext : ic.nextId = oid + 1) : Ends (createFrom env pid 0 oid numoid) { s with ic } fun ret t =>
      ret = .ok ∧ env.CreatesFrom s pid oid 0 (createCount oid (atLeastOne numoid)) ∧
        t = s.afterCreate pid oid (atLeastOne numoid) ∨
      ret ≠ .ok ∧ ¬ env.CreatesFrom s pid oid 0 (createCount oid (atLeastOne numoid)) := by
  let u : Target := { s with ic }
  have hiff : ∀ n, env.CreatesFrom u pid oid 0 n ↔ env.CreatesFrom s pid oid 0 n := fun n =>
    ⟨fun h k hm hk => (h k hm hk).of_eq rfl rfl rfl, fun h k hm hk => (h k hm hk).of_eq rfl rfl rfl⟩
  have hloop : Ends (createLoop env pid oid (createCount oid (atLeastOne numoid)) (oid + UInt64.ofNat 0))
      (u.withObjects pid oid 0) _ := createLoop_result _ 0
  rw [u.withObjects_zero, show oid + UInt64.ofNat 0 = oid from UInt64.add_zero oid, Nat.zero_add] at hloop
  refine ends_call hloop fun r t h => ?_
  rcases h with ⟨rfl, hall, rfl⟩ | ⟨hr, hnot⟩
  · refine ends_bind.2 (ends_modify.2 (ends_bind.2 (ends_modify.2 (ends_pure.2
      (.inl ⟨rfl, (hiff _).1 hall, ?_⟩)))))
    unfold Target.afterCreate
    rw [← hnext, ← hpid]
    rfl
  · cases r with
    | none => exact absurd rfl hr
    | some i => exact ends_bind.2 (ends_modify.2 (ends_pure.2 (.inr ⟨nofun, fun h => hnot ((hiff _).2 h)⟩)))

/-- **`osd_create` with ids of its own choice.** -/
theorem osdCreate_chosen (numoid : UInt16) : Ends (osdCreate env pid 0 numoid) s fun ret t =>
    ret = .ok ∧ env.CreatesObjects s pid (atLeastOne numoid) ∧
        t = s.afterCreate pid (s.chosen pid USEROBJECT_OID_LB) (atLeastOne numoid) ∨
      ret ≠ .ok ∧ ¬ env.CreatesObjects s pid (atLeastOne numoid) := by
  have hrefuse : ¬ env.AdmitsIds s pid 0 → Ends (pure (cdbErr pid 0) : OsdM Ret) s fun ret t =>
      ret = .ok ∧ env.CreatesObjects s pid (atLeastOne numoid) ∧
        t = s.afterCreate pid (s.chosen pid USEROBJECT_OID_LB) (atLeastOne numoid) ∨
      ret ≠ .ok ∧ ¬ env.CreatesObjects s pid (atLeastOne numoid) :=
    fun h => ends_pure.2 (.inr ⟨nofun, fun hc => h hc.admits.toAdmitsIds⟩)
  refine ends_ite_of (fun h => hrefuse fun ha => ?_) fun hpid => ends_ite_of (fun h => absurd rfl h.1) fun _ => ?_
  · rcases h with rfl | h
    · exact absurd ha.pid_lb (by decide)
    · exact absurd h (UInt64.not_lt.2 ha.pid_lb)
  refine ends_bind.2 (dbExecQuery_ends (fun hq => ?_) fun hq => ends_ite_of
    (fun _ => hrefuse fun ha => absurd (hq.symm.trans ha.asked) nofun) fun h => absurd (.inl (by simp)) h)
  refine ends_ite_of (fun h => hrefuse fun ha => ?_) fun hp => ends_ite_of (fun h => absurd rfl h.2) fun _ => ?_
  · rcases h with h | h
    · exact absurd rfl h
    · exact h (decide_eq_true ha.partition)
  have hids : env.AdmitsIds s pid 0 := ⟨UInt64.not_lt.1 fun h => hpid (.inr h), fun h => absurd rfl h, hq,
    has_of_present hp, fun h => absurd rfl h⟩
  refine ends_ite_of (fun _ => ends_bind.2 (chooseId_ends (fun hc => ?_) fun hc => ?_)) fun h => absurd rfl h
  · refine (createFrom_result_chosen numoid ⟨pid, s.chosen pid USEROBJECT_OID_LB + 1⟩ rfl rfl).mono
      fun ret t h => ?_
    rcases h with ⟨hret, hall, ht⟩ | ⟨hret, hnot⟩
    · exact .inl ⟨hret, ⟨⟨hids, fun _ => hc⟩, hall⟩, ht⟩
    · exact .inr ⟨hret, fun h => hnot h.creates⟩
  · exact ends_bind.2 (ends_modify.2 (ends_pure.2 (.inr ⟨nofun, fun h => hc (h.admits.chooses rfl)⟩)))

theorem osdCreate_ok {numoid : UInt16} (h : osdCreate env pid 0 numoid s = some (.ok, t)) :
    env.CreatesObjects s pid (atLeastOne numoid) ∧
      t = s.afterCreate pid (s.chosen pid USEROBJECT_OID_LB) (atLeastOne numoid) := by
  rcases osdCreate_chosen numoid _ _ h with ⟨-, h⟩ | ⟨hno, -⟩
  · exact h
  · exact absurd rfl hno

theorem osdCreate_run {numoid : UInt16} (h : env.CreatesObjects s pid (atLeastOne numoid)) :
    osdCreate env pid 0 numoid s =
      some (.ok, s.afterCreate pid (s.chosen pid USEROBJECT_OID_LB) (atLeastOne numoid)) := by
  have hhalts : Halts (osdCreate env pid 0 numoid) := halts_osdCreate numoid
  obtain ⟨ret, t, hrun, ⟨rfl, -, rfl⟩ | ⟨-, hno⟩⟩ := (osdCreate_chosen (s := s) numoid).of_halts hhalts
  · exact hrun
  · exact absurd h hno

/-! ## `cdb_create` with a set list -/

section Command

variable {cmd : Command} {fuel : Nat} {used used' : UInt32}

theorem getAttributes_onlySets (hsets : cmd.OnlySets) {numoid : UInt16} (hn : ¬ numoid < 1) :
    getAttributes env cmd pid oid numoid used = pure (.ok, used) := by
  have hcheck : getAttrListCheck cmd = .nothing := by
    unfold getAttrListCheck getListCheck
    rw [hsets.gets, if_neg fun h => h.1 rfl]
    rfl
  unfold getAttributes getAttrList
  rw [if_neg hn, hsets.format, if_neg (by decide), if_pos rfl, hcheck]

theorem applyAttributes_onlySets (hsets : cmd.OnlySets) {numoid : UInt16} (hn : ¬ numoid < 1) :
    applyAttributes env cmd pid oid numoid fuel used = (do
      let ret ← setAttributes env cmd pid oid numoid.toUInt32 fuel
      return (ret, used)) := by
  unfold applyAttributes
  refine congrArg (setAttributes env cmd pid oid numoid.toUInt32 fuel >>= ·) (funext fun ret => ?_)
  by_cases hok : ret = .ok
  · rw [if_neg (not_not.2 hok), getAttributes_onlySets hsets hn, hok]
  · exact if_pos hok

/-- The number of objects of the command. -/
def Command.numoid (cmd : Command) : UInt16 := atLeastOne (getNtohs cmd.cdb 32)

theorem numoid_pos (cmd : Command) : ¬ cmd.numoid < 1 ∧ ¬ cmd.numoid.toUInt32 < 1 := by
  have hpos : 0 < cmd.numoid.toNat := atLeastOne_pos _
  refine ⟨fun h => ?_, fun h => ?_⟩
  · exact absurd (UInt16.lt_iff_toNat_lt.1 h) (Nat.not_lt.2 hpos)
  · have hlt := UInt32.lt_iff_toNat_lt.1 h
    rw [UInt16.toNat_toUInt32] at hlt
    exact absurd hlt (Nat.not_lt.2 hpos)

/-- The pairs that the command comes to, from this id on. -/
def Command.pairsFrom (cmd : Command) (oid : UInt64) (fuel : Nat) : List SetPair :=
  OsdTarget.setPairs oid (createCount oid cmd.numoid) (cmd.entries fuel)

/-- The objects of CREATE can be created, and each pair of its list is then accepted, which leaves `b`. -/
structure Command.Creates (env : Env) (cmd : Command) (fuel : Nat) (s b : Target) : Prop where
  objects : env.CreatesObjects s cmd.pid cmd.numoid
  ends : cmd.ListEnds fuel
  pairs : ∃ v, runPairs env cmd.pid cmd.indata true (cmd.pairsFrom (s.chosen cmd.pid USEROBJECT_OID_LB) fuel)
    (s.afterCreate cmd.pid (s.chosen cmd.pid USEROBJECT_OID_LB) cmd.numoid) = some (.ok, v) ∧ ButTxn v b

/-- **CREATE that succeeds** creates its objects, and each pair of its list is accepted. -/
theorem cdbCreate_ok (hsets : cmd.OnlySets) (hoid : cmd.oid = 0)
    (h : cdbCreate env cmd fuel used s = some ((.ok, used'), s')) : cmd.Creates env fuel s s' := by
  have hend : Ends (cdbCreate env cmd fuel used) s fun r s' => r.1 = .ok → cmd.Creates env fuel s s' := by
    have hlist : ¬ (1 < getNtohs cmd.cdb 32 ∧ cmd.getsetCdbfmt = GETPAGE_SETVALUE ∧
        getNtohl cmd.cdb 52 ≠ CUR_CMD_ATTR_PG) := fun h => absurd (hsets.format.symm.trans h.2.1) (by decide)
    refine ends_ite_of (fun h => absurd h hlist) fun _ => ends_bind.2 fun ret u hu =>
      ends_ite_of (fun hno => ends_pure.2 fun h => absurd h hno) fun hok => ends_bind.2 (ends_get.2 ?_)
    obtain rfl := not_not.1 hok
    -- the objects are created, and the attributes of the current command name the last of them
    obtain ⟨t, ht, htu⟩ := (withinTxn_sameOutcome (butTxn_osdCreate _ _)).back hu
    have hoid : getNtohll cmd.cdb 24 = 0 := hoid
    rw [hoid] at ht
    obtain ⟨hcreates, rfl⟩ := osdCreate_ok ht
    have hccap : getCreatedOid u.ccap cmd.numoid.toUInt32 = s.chosen cmd.pid USEROBJECT_OID_LB := by
      obtain ⟨b, l, rfl⟩ := htu
      exact getCreatedOid_fillCcap (atLeastOne_pos _)
    show Ends (attributesOrUndo env cmd cmd.pid (getCreatedOid u.ccap cmd.numoid.toUInt32) cmd.numoid fuel used
      (osdRemoveTmpObjects env cmd.pid _ _)) u _
    rw [hccap]
    unfold attributesOrUndo
    rw [applyAttributes_onlySets hsets (numoid_pos cmd).1]
    refine ends_bind.2 (ends_bind.2 fun ret v hv => ends_pure.2 (ends_ite_of (fun hno => ends_bind.2
      fun _ _ _ => ends_pure.2 fun h => absurd h hno) fun hok => ends_pure.2 fun _ => ?_))
    obtain rfl := not_not.1 hok
    obtain ⟨hends, w, hw, hwv⟩ := setAttributes_ok hsets (numoid_pos cmd).2 hv
    obtain ⟨w', hw', hww'⟩ := (butTxn_runPairs _ _ _ htu).back hw
    exact ⟨hcreates, hends, w', hw', hww'.trans hwv⟩
  exact hend _ _ h rfl

/-- Where it does, CREATE succeeds. -/
theorem cdbCreate_run (used : UInt32) (hsets : cmd.OnlySets) (hoid : cmd.oid = 0) (h : cmd.Creates env fuel s t) :
    ∃ s', cdbCreate env cmd fuel used s = some ((.ok, used), s') ∧ ButTxn t s' := by
  obtain ⟨hcreates, hends, r, h, hrt⟩ := h
  have hlist : ¬ (1 < getNtohs cmd.cdb 32 ∧ cmd.getsetCdbfmt = GETPAGE_SETVALUE ∧
      getNtohl cmd.cdb 52 ≠ CUR_CMD_ATTR_PG) := fun h => absurd (hsets.format.symm.trans h.2.1) (by decide)
  obtain ⟨u, hu, htu⟩ := (withinTxn_sameOutcome (butTxn_osdCreate _ _)).run (osdCreate_run hcreates)
  have hccap : getCreatedOid u.ccap cmd.numoid.toUInt32 = s.chosen cmd.pid USEROBJECT_OID_LB := by
    obtain ⟨b, l, rfl⟩ := htu
    exact getCreatedOid_fillCcap (atLeastOne_pos _)
  obtain ⟨v, hv, htv⟩ := (butTxn_runPairs _ _ _ htu).run h
  obtain ⟨w, hw, hvw⟩ := setAttributes_of_pairs hsets (numoid_pos cmd).2 hends hv
  refine ⟨w, ?_, hrt.symm.trans (htv.trans hvw)⟩
  have hoid : getNtohll cmd.cdb 24 = 0 := hoid
  unfold cdbCreate
  dsimp only
  rw [if_neg hlist, hoid]
  refine (bind_of_some hu).trans ?_
  show attributesOrUndo env cmd cmd.pid (getCreatedOid u.ccap cmd.numoid.toUInt32) cmd.numoid fuel used
    (osdRemoveTmpObjects env cmd.pid _ _) u = _
  rw [hccap]
  unfold attributesOrUndo
  rw [applyAttributes_onlySets hsets (numoid_pos cmd).1]
  exact (bind_of_some (bind_of_some hw)).trans rfl

end Command

end OsdTarget
