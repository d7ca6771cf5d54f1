import OsdTarget.CreateCommands
import OsdTarget.CurrentCommand
import OsdTarget.LazyNames
import OsdTarget.ObjectCommands

/-!
# Commands on different objects

Two parties send commands, each on objects the other does not name.  A command changes no row and no data
file of another object, and does the same whatever the other party did in between, as long as the
partitions and the collections it uses are there.  So it makes no difference to anybody in which order the
parties have their turns.
-/

namespace OsdTarget

open Base

/-! ## Commands keep to their object -/

section Stays

variable {R : Target → Target → Prop} [Uncached R] {env : Env} {pid oid : UInt64}

/-- At most one object is created, so nothing before it is removed again. -/
theorem resp_createLoop_one (h : AdmitsObject R pid oid) {n : Nat} (hn : n ≤ 1) :
    Respects R (createLoop env pid oid n oid) := by
  have hback : Respects R (osdRemoveTmpObjects env pid (oid - oid).toNat oid >>= fun _ =>
      pure (some oid)) := by
    rw [UInt64.sub_self]
    exact resp_pure _
  have hinsert : Respects R (objInsert env pid oid .userobject) :=
    fun s => objInsert_ends (fun _ => h.insert s _) fun _ => Stays.refl R s
  have hfile : Respects R (osdCreateDatafile env pid oid) :=
    fun s => osdCreateDatafile_ends (fun _ _ => h.file s _) fun _ => Stays.refl R s
  cases n with
  | zero => exact resp_pure _
  | succ n =>
    obtain rfl : n = 0 := by omega
    exact resp_bind hinsert fun _ => respects_ite hback (resp_bind hfile fun _ =>
      respects_ite (resp_bind (resp_objDelete h) fun _ => hback) (resp_pure _))

/-- CREATE of a requested id. -/
theorem resp_osdCreate (h : AdmitsObject R pid oid) (hoid : oid ≠ 0) (numoid : UInt16) :
    Respects R (osdCreate env pid oid numoid) := by
  refine fun s => osdCreate_ends (fun _ ic _ _ => Uncached.ic s ic) fun o ic _ _ hone hpick => ?_
  obtain rfl : o = oid := by
    rcases hpick with ⟨h0, -⟩ | ⟨-, ho, -⟩
    · exact absurd h0 hoid
    · exact ho
  have hcount : createCount o (atLeastOne numoid) ≤ 1 := by
    rw [hone hoid]
    exact createCount_le o 1
  have hfrom : Respects R (createFrom env pid o o numoid) := by
    refine resp_bind (resp_createLoop_one h hcount) fun failed => ?_
    cases failed with
    | some _ => exact resp_bind resp_invalidateCache fun _ => resp_pure _
    | none =>
      exact resp_bind (respects_modify fun s => Uncached.ic s _) fun _ =>
        resp_bind (resp_setCcap _) fun _ => resp_pure _
  exact (hfrom { s with ic }).mono fun _ t ht => Stays.trans s _ t (Uncached.ic s ic) ht

end Stays

/-! ## The commands of a party -/

/-- A command on one object, which it names: one of those on a user object, REMOVE or CREATE. -/
def ServiceAction.OnObject (a : ServiceAction) : Prop := a.onUserobject = true ∨ a = .remove ∨ a = .create

instance (a : ServiceAction) : Decidable a.OnObject := inferInstanceAs (Decidable (_ ∨ _ ∨ _))

/-- The command names an object: CREATE is one with a requested id. -/
structure Command.OnObject (cmd : Command) : Prop where
  action : cmd.serviceAction.OnObject
  requested : cmd.serviceAction = .create → cmd.oid ≠ 0

section Apart

variable {K : Int → Int → Prop} {env : Env} {cmd : Command} {ds : List ContDescriptor} {fuel : Nat}
  {pid oid : UInt64}

theorem Apart.admitsObject (hK : K (bindInt64 pid) (bindInt64 oid)) : AdmitsObject (Apart K) pid oid where
  insert s type := { (Beside.admitsObject hK).insert s type with rootFreed := rfl }
  delete s := { (Beside.admitsObject hK).delete s with rootFreed := rfl }
  attrs s := { (Beside.admitsObject hK).attrs s with rootFreed := rfl }
  colls s := { (Beside.admitsObject hK).colls s with rootFreed := rfl }
  file s c := { (Beside.admitsObject hK).file s c with rootFreed := rfl }

theorem Apart.admitsAttributes (hK : K (bindInt64 pid) (bindInt64 oid)) :
    AdmitsAttributes (Apart K) pid oid where
  row _ _ _ s := { (Beside.admitsAttributes hK).row _ _ _ s with rootFreed := rfl }
  delete _ _ s := { (Beside.admitsAttributes hK).delete _ _ s with rootFreed := rfl }
  file s c c' hc := { (Beside.admitsAttributes hK).file s c c' hc with rootFreed := rfl }
  point s cid number t h := { (Beside.admitsAttributes hK).point s cid number t h with rootFreed := rfl }
  unpoint s cid := { (Beside.admitsAttributes hK).unpoint s cid with rootFreed := rfl }

theorem Apart.admitsIds (hK : K (bindInt64 pid) (bindInt64 oid)) :
    ∀ k < createCount oid 1, AdmitsAttributes (Apart K) pid (oid + UInt64.ofNat k) := by
  intro k hk
  obtain rfl : k = 0 := Nat.lt_one_iff.1 (hk.trans_le (createCount_le oid 1))
  show AdmitsAttributes _ pid (oid + 0)
  rw [UInt64.add_zero]
  exact Apart.admitsAttributes hK

theorem apart_applyAttributes (hK : K (bindInt64 pid) (bindInt64 oid)) (used : UInt32) :
    Respects (Apart K) (applyAttributes env cmd pid oid 1 fuel used) :=
  fun _ => applyAttributes_respects (fun _ => Apart.admitsAttributes hK) (Apart.admitsIds hK)

theorem apart_withAttributes (hK : K (bindInt64 pid) (bindInt64 oid)) {m : OsdM (Ret × Option UInt64)}
    (hm : Respects (Apart K) m) : Respects (Apart K) (withAttributes env cmd pid oid fuel m) :=
  resp_bind hm fun _ => respects_ite (resp_pure _)
    (resp_bind (apart_applyAttributes hK _) fun _ => resp_pure _)

theorem apart_afterAttributes (hK : K (bindInt64 pid) (bindInt64 oid)) {m : OsdM (Ret × Option UInt64)}
    (hm : Respects (Apart K) m) : Respects (Apart K) (afterAttributes env cmd pid oid fuel m) :=
  resp_bind (apart_applyAttributes hK _) fun _ => respects_ite (resp_pure _)
    (resp_bind hm fun _ => resp_pure _)

theorem apart_cdbCreate (hK : K (bindInt64 cmd.pid) (bindInt64 cmd.oid)) (hoid : cmd.oid ≠ 0)
    (used : UInt32) : Respects (Apart K) (cdbCreate env cmd fuel used) := by
  have hundo : Respects (Apart K) (osdRemoveTmpObjects env cmd.pid (createCount cmd.oid 1) cmd.oid) := by
    refine osdRemoveTmpObjects_stays _ fun k hk => ?_
    obtain rfl : k = 0 := Nat.lt_one_iff.1 (hk.trans_le (createCount_le cmd.oid 1))
    show AdmitsObject _ cmd.pid (cmd.oid + 0)
    rw [UInt64.add_zero]
    exact Apart.admitsObject hK
  have hattrs : Respects (Apart K) (attributesOrUndo env cmd cmd.pid cmd.oid 1 fuel used
      (osdRemoveTmpObjects env cmd.pid (createCount cmd.oid 1) cmd.oid)) := by
    refine resp_bind (apart_applyAttributes hK _) fun r => ?_
    exact respects_ite (resp_bind hundo fun _ => resp_pure _) (resp_pure _)
  have hcreate : Respects (Apart K) (withinTxn env (osdCreate env cmd.pid cmd.oid (getNtohs cmd.cdb 32))) :=
    resp_withinTxn (resp_osdCreate (Apart.admitsObject hK) hoid _)
  refine respects_ite (resp_pure _) fun s => ends_call ((hcreate s).and (cdbCreate_names hoid))
    fun ret t ⟨ht, hnames⟩ => ends_ite_of (fun _ => ends_pure.2 ht) fun hret => ?_
  obtain ⟨hone, hid⟩ := hnames (not_not.1 hret)
  have hone : (if getNtohs cmd.cdb 32 = 0 then 1 else getNtohs cmd.cdb 32) = 1 := hone
  refine ends_bind.2 (ends_get.2 ?_)
  dsimp only
  rw [hone, hid]
  exact (hattrs t).mono fun _ u hu => ht.trans hu

/-- **A command changes nothing of another object.** -/
theorem apart_dispatch (hK : K (bindInt64 cmd.pid) (bindInt64 cmd.oid)) (h : cmd.OnObject) :
    Respects (Apart K) (dispatch env cmd ds fuel) := by
  have hfile : AdmitsFile (Apart K) cmd.pid cmd.oid := (Apart.admitsAttributes hK).file
  have hquiet : ∀ {m : OsdM Ret}, Respects (Apart K) m →
      Respects (Apart K) (withAttributes env cmd cmd.pid cmd.oid fuel (noOutput m)) :=
    fun hm => apart_withAttributes hK (resp_bind hm fun _ => resp_pure _)
  unfold dispatch
  rcases h.action with hobj | hact | hact
  · cases hact : cmd.serviceAction <;> rw [hact] at hobj <;> try exact absurd hobj (by decide)
    case append =>
      exact respects_ite (resp_pure _) (respects_ite (resp_pure _) (hquiet (resp_contigAppend hfile _ _)))
    case clear => exact respects_ite (resp_pure _) (hquiet (resp_osdClear hfile _ _))
    case getAttributes =>
      have hget : Respects (Apart K) (getAttributes env cmd cmd.pid cmd.oid 1 0) :=
        fun _ => getAttributes_respects brackets_self (fun _ => Apart.admitsAttributes hK)
          (Apart.admitsIds hK)
      exact respects_ite (resp_pure _) (resp_bind hget fun _ => respects_ite (resp_pure _)
        (resp_bind (resp_setAttributes brackets_self (Apart.admitsIds hK)) fun _ => resp_pure _))
    case punch => exact respects_ite (resp_pure _) (hquiet (resp_osdPunch hfile _ _))
    case read =>
      exact respects_ite (resp_pure _) (resp_bind (resp_osdReadDevice _ _ _) fun _ =>
        respects_ite (resp_pure _) (resp_bind (apart_applyAttributes hK _) fun _ =>
          respects_ite (resp_pure _) (resp_pure _)))
    case setAttributes =>
      exact respects_ite (resp_pure _) (resp_bind (apart_applyAttributes hK _) fun _ => resp_pure _)
    case write =>
      exact respects_ite (resp_pure _) (resp_bind (hquiet (resp_osdWrite hfile _ _ _ _ _)) fun _ =>
        resp_pure _)
    case cas =>
      exact respects_ite (resp_pure _) (apart_withAttributes hK fun _ =>
        osdCas_stays fun _ _ _ => (Apart.admitsAttributes hK).row _ _ _)
    case fa =>
      exact respects_ite (resp_pure _) (apart_withAttributes hK fun _ =>
        osdFa_stays fun _ _ _ => (Apart.admitsAttributes hK).row _ _ _)
  · rw [hact]
    exact respects_ite (resp_pure _) (apart_afterAttributes hK (resp_bind
      (resp_osdRemove (Apart.admitsObject hK)) fun _ => resp_pure _))
  · rw [hact]
    exact respects_ite (resp_pure _) (resp_bind (apart_cdbCreate hK (h.requested hact) _) fun _ =>
      resp_pure _)

end Apart

/-! ## Commands do not see the other party -/

section Alike

variable {K U : Int → Int → Prop} {env : Env} {cmd : Command} {ds : List ContDescriptor} {fuel : Nat}

/-- The command uses only what may be asked for. -/
structure Command.Sees (cmd : Command) (K U : Int → Int → Prop) (fuel : Nat) : Prop
    extends cmd.SettingsSeen K U fuel where
  partition : cmd.serviceAction = .create → K (bindInt64 cmd.pid) 0 → U (bindInt64 cmd.pid) 0

/-- **What a command does and answers does not depend on the other objects.** -/
theorem InView.dispatch (hv : InView env K cmd.pid cmd.oid) (h : cmd.OnObject) (hsees : cmd.Sees K U fuel) :
    Alike (View K U) (dispatch env cmd ds fuel) := by
  have hseen := hsees.toSettingsSeen
  have hsees' := hv.sees (U := U)
  have hquiet : ∀ {m : OsdM Ret}, Alike (View K U) m →
      Alike (View K U) (OsdTarget.withAttributes env cmd cmd.pid cmd.oid fuel (noOutput m)) :=
    fun hm => hv.withAttributes hseen (alike_bind hm fun _ => alike_pure _)
  unfold OsdTarget.dispatch
  rcases h.action with hobj | hact | hact
  · cases hact : cmd.serviceAction <;> rw [hact] at hobj <;> try exact absurd hobj (by decide)
    case append => exact alike_guard (alike_guard (hquiet (hsees'.contigAppend alike_setCcap _ _)))
    case clear => exact alike_guard (hquiet (hsees'.osdClear alike_setCcap _ _))
    case getAttributes =>
      exact alike_guard (alike_bind (hv.getAttributes hseen _) fun _ => alike_guard
        (alike_bind (hv.setAttributes hseen) fun _ => alike_pure _))
    case punch => exact alike_guard (hquiet (hsees'.osdPunch _ _))
    case read => exact hv.cdbRead hseen
    case setAttributes =>
      exact alike_guard (alike_bind (hv.applyAttributes hseen _) fun _ => alike_pure _)
    case write => exact hv.execWrite hseen
    case cas => exact alike_guard (hv.withAttributes hseen (hsees'.osdCas _ _ _))
    case fa => exact alike_guard (hv.withAttributes hseen (hsees'.osdFa _ _))
  · rw [hact]
    exact alike_guard (hv.afterAttributes hseen (alike_bind hv.osdRemove fun _ => alike_pure _))
  · rw [hact]
    exact alike_guard (alike_bind (hv.cdbCreate hseen (hsees.partition hact) (h.requested hact) _) fun _ =>
      alike_pure _)

end Alike

/-! ## Submissions -/

theorem alike_countRetrieved {R : Target → Target → Prop} [Detached R] (off used : UInt64)
    (getUsed : UInt32) : Alike R (countRetrieved off used getUsed) :=
  alike_ite (alike_ite (alike_bind (Detached.reply _ _) fun _ => alike_pure _) (alike_pure _)) (alike_pure _)

/-- The ids `U` are there. -/
def Target.Occupied (s : Target) (U : Int → Int → Prop) : Prop := ∀ p o, U p o → s.db.Has p o

section Submissions

variable {K U : Int → Int → Prop} {env : Env} {cmd : Command} {fuel : Nat} {s t : Target}

theorem InView.execServiceAction (hv : InView env K cmd.pid cmd.oid) (h : cmd.OnObject)
    (hsees : cmd.Sees K U fuel) : Alike (View K U) (execServiceAction env cmd fuel) := by
  unfold OsdTarget.execServiceAction
  refine alike_ite (hv.dispatch h hsees) ?_
  cases parseCdbContinuationSegment cmd.indata cmd.cdbContLen cmd.action cmd.pid cmd.oid fuel with
  | none => exact alike_never
  | some r =>
    obtain ⟨ret, ds⟩ := r
    cases ret with
    | ok => exact hv.dispatch h hsees
    | err e => exact alike_pure _
    | sense x => exact alike_pure _

theorem apart_execServiceAction (hK : K (bindInt64 cmd.pid) (bindInt64 cmd.oid)) (h : cmd.OnObject) :
    Respects (Apart K) (execServiceAction env cmd fuel) := by
  unfold execServiceAction
  refine respects_ite (apart_dispatch hK h) ?_
  cases parseCdbContinuationSegment cmd.indata cmd.cdbContLen cmd.action cmd.pid cmd.oid fuel with
  | none => exact resp_never
  | some r =>
    obtain ⟨ret, ds⟩ := r
    cases ret with
    | ok => exact apart_dispatch hK h
    | err e => exact resp_pure _
    | sense x => exact resp_pure _

theorem Apart.received (h : Apart K s t) (hs : s.Occupied U) (ht : t.Occupied U) :
    View K U s.received t.received :=
  { h with
    out := rfl
    present := fun p o _ hu => ⟨hs p o hu, ht p o hu⟩ }

theorem apart_received : Respects (Apart K) (modify Target.received) :=
  respects_modify fun s => { Beside.of_eq (s := s) rfl rfl with rootFreed := rfl }

theorem View.received (h : View K U s t) : View K U s.received t.received :=
  h.of_eq ⟨rfl, rfl⟩ ⟨rfl, rfl⟩ h.rootFreed rfl

theorem InView.osdemuCmdSubmit {sub : Submission} (hv : InView env K sub.command.pid sub.command.oid)
    (h : sub.command.OnObject) (hsees : sub.command.Sees K U fuel) :
    Alike (View K U) (osdemuCmdSubmit env sub fuel) := by
  unfold OsdTarget.osdemuCmdSubmit
  cases sub.refusal env with
  | some r => exact alike_pure _
  | none =>
    exact alike_bind (alike_modify fun _ _ h => h.received) fun _ =>
      alike_bind (hv.execServiceAction h hsees) fun _ =>
        alike_bind (alike_countRetrieved _ _ _) fun _ => alike_pure _

theorem apart_osdemuCmdSubmit {sub : Submission}
    (hK : K (bindInt64 sub.command.pid) (bindInt64 sub.command.oid)) (h : sub.command.OnObject) : Respects (Apart K) (osdemuCmdSubmit env sub fuel) := by
  unfold osdemuCmdSubmit
  cases sub.refusal env with
  | some r => exact resp_pure _
  | none =>
    exact resp_bind apart_received fun _ =>
      resp_bind (apart_execServiceAction hK h) fun _ =>
        resp_bind (respects_ite (respects_ite (resp_bind (resp_outWrite _ _) fun _ => resp_pure _)
          (resp_pure _)) (resp_pure _)) fun _ => resp_pure _

/-- The same answer from states that differ in other objects only, if what it uses is there in both. -/
theorem InView.answer {r : Arrival} (hv : InView r.env K r.sub.command.pid r.sub.command.oid)
    (h : r.sub.command.OnObject) (hsees : r.sub.command.Sees K U r.fuel) (hst : Apart K s t)
    (hs : s.Occupied U) (ht : t.Occupied U) : Lockstep (Apart K) r.answer r.answer s t := by
  refine lockstep_bind (lockstep_modify (hst.received hs ht)) fun _ s₁ t₁ h₁ =>
    lockstep_bind (hv.osdemuCmdSubmit h hsees s₁ t₁ h₁) fun report s₂ t₂ h₂ => lockstep_get ?_
  rw [h₂.out]
  exact lockstep_pure h₂.toApart _

theorem apart_answer {r : Arrival} (hK : K (bindInt64 r.sub.command.pid) (bindInt64 r.sub.command.oid))
    (h : r.sub.command.OnObject) : Respects (Apart K) r.answer :=
  resp_bind apart_received fun _ =>
    resp_bind (apart_osdemuCmdSubmit hK h) fun _ => resp_bind resp_get fun _ => resp_pure _

end Submissions

/-! ## Two parties -/

namespace Arrival

variable (r : Arrival)

def pid : UInt64 := r.sub.command.pid
def oid : UInt64 := r.sub.command.oid

/-- A command of the two parties: it names its object, and it sets and asks for no page on which the
current command or a time shows. -/
structure OnObject : Prop extends r.sub.command.OnObject where
  lasting : ∀ x ∈ r.sub.command.settings r.fuel, IsLasting x.page
  asked : ∀ page ∈ r.sub.command.pagesAsked, IsLasting page

/-- The partition CREATE works in, and the collections that pointers are set to. -/
def Uses (p o : Int) : Prop :=
  r.sub.command.serviceAction = .create ∧ p = bindInt64 r.pid ∧ o = 0 ∨
    ∃ cid, r.sub.command.PointsTo r.fuel cid ∧ p = bindInt64 r.pid ∧ o = bindInt64 cid

end Arrival

/-- The ids of the objects that some commands name, and of what they use. -/
def Named (rs : List Arrival) (p o : Int) : Prop := ∃ r ∈ rs, bindInt64 r.pid = p ∧ bindInt64 r.oid = o

def Used (rs : List Arrival) (p o : Int) : Prop := ∃ r ∈ rs, r.Uses p o

/-- The same rows in each table, and the same data files. -/
structure SameContents (s t : Target) : Prop where
  obj : t.db.obj.Perm s.db.obj
  attr : t.db.attr.Perm s.db.attr
  coll : t.db.coll.Perm s.db.coll
  files : t.files = s.files

variable {K K' : Int → Int → Prop} {s t : Target}

/-- States that agree at every id, outside one set or another. -/
theorem sameContents_of_cover (h : ∀ p o, ∃ K, Apart K s t ∧ ¬ K p o) : SameContents s t where
  obj := by
    refine perm_of_agrees fun x => ?_
    obtain ⟨K, hst, hx⟩ := h x.pid x.oid
    exact ⟨fun r => K r.pid r.oid, hst.obj, hx⟩
  attr := by
    refine perm_of_agrees fun x => ?_
    obtain ⟨K, hst, hx⟩ := h x.pid x.oid
    exact ⟨fun r => K r.pid r.oid, hst.attr, hx⟩
  coll := by
    refine perm_of_agrees fun x => ?_
    obtain ⟨K, hst, hx⟩ := h x.pid x.oid
    exact ⟨fun r => K r.pid r.oid, hst.coll, hx⟩
  files := by
    funext p o
    obtain ⟨K, hst, hx⟩ := h (bindInt64 p) (bindInt64 o)
    exact hst.files p o hx

/-- States that neither party tells apart. -/
theorem Apart.sameContents (h : Apart K s t) (h' : Apart K' s t) (hK : ∀ p o, K p o → ¬ K' p o) :
    SameContents s t := by
  refine sameContents_of_cover fun p o => ?_
  by_cases hk : K p o
  · exact ⟨K', h', hK p o hk⟩
  · exact ⟨K, h, hk⟩

section Parties

variable {xs ys : List Arrival}

/-- What is needed of the commands of one party. -/
theorem party_of_onObject (hcmd : ∀ r ∈ xs, r.OnObject) (henv : ∀ r ∈ xs, r.env.Blind)
    (hapart : ∀ p o, Named xs p o → ¬ K p o) {U : Int → Int → Prop}
    (hused : ∀ r ∈ xs, ∀ p o, r.Uses p o → U p o) :
    Party Arrival.answer (Apart (Named xs)) (Apart K) (fun s => s.Occupied U) xs where
  stays r hr := apart_answer ⟨r, hr, rfl, rfl⟩ (hcmd r hr).toOnObject
  same r hr s t hs ht hst := by
    have hv : InView r.env K r.sub.command.pid r.sub.command.oid :=
      ⟨henv r hr, hapart _ _ ⟨r, hr, rfl, rfl⟩⟩
    refine hv.answer (hcmd r hr).toOnObject
      ⟨⟨(hcmd r hr).lasting, (hcmd r hr).asked, fun cid hcid _ => ?_⟩, fun hact _ => ?_⟩ hst hs ht
    · exact hused r hr _ _ (.inr ⟨cid, hcid, rfl, rfl⟩)
    · exact hused r hr _ _ (.inl ⟨hact, rfl, rfl⟩)

/-- Partitions and collections that no command names exist throughout. -/
theorem throughout_of_unnamed {zs : List (Arrival ⊕ Arrival)} {U : Int → Int → Prop}
    (hcmd : ∀ r ∈ lefts zs ++ rights zs, r.OnObject)
    (hU : ∀ p o, U p o → ¬ Named (lefts zs ++ rights zs) p o)
    (hs : s.Occupied U) : Throughout Arrival.answer (fun t => t.Occupied U) zs s := by
  have hstays : ∀ r ∈ lefts zs ++ rights zs, Respects (Apart (Named (lefts zs ++ rights zs))) r.answer :=
    fun r hr => apart_answer ⟨r, hr, rfl, rfl⟩ (hcmd r hr).toOnObject
  exact throughout_of_stays (fun s t hst hs p o hu => (hst.has (hU p o hu)).2 (hs p o hu))
    (fun r hr => hstays r (List.mem_append_left _ hr)) (fun r hr => hstays r (List.mem_append_right _ hr)) hs

/-- **Commands on different objects do not interfere.**  Whatever the order of the turns, the answers to
either party are the same, and so are the tables and the data files in the end. -/
theorem interleavings_agree {zs zs' : List (Arrival ⊕ Arrival)}
    {os : List ((Report × List (Nat × List UInt8)) ⊕ (Report × List (Nat × List UInt8)))}
    (hcmd : ∀ r ∈ xs ++ ys, r.OnObject) (henv : ∀ r ∈ xs ++ ys, r.env.Blind)
    (hnamed : ∀ x ∈ xs, ∀ y ∈ ys, ¬ (x.pid = y.pid ∧ x.oid = y.oid))
    (hl : lefts zs = xs) (hr : rights zs = ys) (hl' : lefts zs' = xs) (hr' : rights zs' = ys)
    (hused : Throughout Arrival.answer (fun t => t.Occupied (Used (xs ++ ys))) zs s)
    (hrun : runTurns Arrival.answer zs s = some (os, t)) :
    ∃ os' t', runTurns Arrival.answer zs' s = some (os', t') ∧ lefts os' = lefts os ∧
      rights os' = rights os ∧ SameContents t t' := by
  have hdisjoint : ∀ p o, Named xs p o → ¬ Named ys p o := by
    rintro p o ⟨x, hx, rfl, rfl⟩ ⟨y, hy, hp, ho⟩
    exact hnamed x hx y hy ⟨(bindInt64_inj.1 hp).symm, (bindInt64_inj.1 ho).symm⟩
  have hsub : ∀ {rs : List Arrival}, (∀ r ∈ rs, r ∈ xs ++ ys) → ∀ r ∈ rs, ∀ p o, r.Uses p o →
      Used (xs ++ ys) p o := fun hrs r hr p o h => ⟨r, hrs r hr, h⟩
  have hx : ∀ r ∈ xs, r ∈ xs ++ ys := fun r => List.mem_append_left ys
  have hy : ∀ r ∈ ys, r ∈ xs ++ ys := fun r => List.mem_append_right xs
  have hleft := party_of_onObject (fun r hr => hcmd r (hx r hr)) (fun r hr => henv r (hx r hr)) hdisjoint
    (hsub hx)
  have hright := party_of_onObject (fun r hr => hcmd r (hy r hr)) (fun r hr => henv r (hy r hr))
    (fun p o hp hp' => hdisjoint p o hp' hp) (hsub hy)
  have hmerge : ∀ s s' t : Target, Apart (Named ys) s t → Apart (Named xs) s' t →
      s.Occupied (Used (xs ++ ys)) → s'.Occupied (Used (xs ++ ys)) → t.Occupied (Used (xs ++ ys)) := by
    intro s s' t hs hs' hP hP' p o hu
    by_cases hk : Named ys p o
    · exact (hs'.has fun hk' => hdisjoint p o hk' hk).2 (hP' p o hu)
    · exact (hs.has hk).2 (hP p o hu)
  obtain ⟨os', t', hrun', hlefts, hrights, hB, hA⟩ := turns_agree
    (Apart.equivalence _) (Apart.equivalence _) hleft hright hmerge hl hr hl' hr' hused hrun
  exact ⟨os', t', hrun', hlefts, hrights, hA.sameContents hB hdisjoint⟩

end Parties

/-- CREATE of the third object of a partition, and REMOVE of the second. -/
def createThird : Arrival :=
  ⟨.calm, (submissionOf (cdbHeader 0x8882 [0, 0x20]) []).about 0x10000 0x10002, 0⟩

def removeSecond : Arrival :=
  ⟨.calm, (submissionOf (cdbHeader 0x888a [0, 0x20]) []).about 0x10000 0x10001, 0⟩

theorem interleavings_agree_created : ∃ os t os' t',
    runTurns Arrival.answer [.inl createThird, .inr removeSecond] twoObjects = some (os, t) ∧
    runTurns Arrival.answer [.inr removeSecond, .inl createThird] twoObjects = some (os', t') ∧
    lefts os' = lefts os ∧ rights os' = rights os ∧ SameContents t t' := by
  have hrun : (runTurns Arrival.answer [.inl createThird, .inr removeSecond] twoObjects).isSome := by
    decide +kernel
  obtain ⟨⟨os, t⟩, hrun⟩ := Option.isSome_iff_exists.1 hrun
  have hsettings : ∀ sub : Submission, sub.command.getsetCdbfmt = GETPAGE_SETVALUE →
      setAttrValueCheck sub.command = .nothing → sub.command.settings 0 = [] := by
    intro sub hf hc
    unfold Command.settings
    rw [if_pos hf, hc]
  have hcreate := hsettings createThird.sub (by decide +kernel) (by decide +kernel)
  have hremove := hsettings removeSecond.sub (by decide +kernel) (by decide +kernel)
  have hcmd : ∀ r ∈ [createThird] ++ [removeSecond], r.OnObject := by
    refine List.forall_mem_cons.2 ⟨?_, List.forall_mem_cons.2 ⟨?_, List.forall_mem_nil _⟩⟩
    · refine ⟨⟨by decide +kernel, by decide +kernel⟩, hcreate ▸ List.forall_mem_nil _, ?_⟩
      have hpage : createThird.sub.command.pagesAsked = [0] := by decide +kernel
      exact hpage ▸ List.forall_mem_singleton.2 (by decide)
    · refine ⟨⟨by decide +kernel, by decide +kernel⟩, hremove ▸ List.forall_mem_nil _, ?_⟩
      have hpage : removeSecond.sub.command.pagesAsked = [0] := by decide +kernel
      exact hpage ▸ List.forall_mem_singleton.2 (by decide)
  have hpid : ∀ r ∈ [createThird] ++ [removeSecond], bindInt64 r.pid = 0x10000 ∧ bindInt64 r.oid ≠ 0 := by
    decide +kernel
  have hused : ∀ p o, Used ([createThird] ++ [removeSecond]) p o → p = 0x10000 ∧ o = 0 := by
    rintro p o ⟨r, hr, ⟨-, rfl, rfl⟩ | ⟨cid, ⟨x, hx, -⟩, -⟩⟩
    · exact ⟨(hpid r hr).1, rfl⟩
    · refine absurd hx ?_
      rcases List.mem_cons.1 hr with rfl | hr
      · exact hcreate ▸ List.not_mem_nil
      · rw [List.mem_singleton.1 hr]
        exact hremove ▸ List.not_mem_nil
  have hthrough : Throughout Arrival.answer (fun t => t.Occupied (Used ([createThird] ++ [removeSecond])))
      [.inl createThird, .inr removeSecond] twoObjects := by
    refine throughout_of_unnamed hcmd (fun p o hu => ?_) fun p o hu => ?_
    · rintro ⟨r, hr, -, ho⟩
      exact (hpid r hr).2 (ho.trans (hused p o hu).2)
    · obtain ⟨rfl, rfl⟩ := hused p o hu
      decide +kernel
  have henv : ∀ r ∈ [createThird] ++ [removeSecond], r.env.Blind := by
    refine List.forall_mem_cons.2 ⟨?_, List.forall_mem_cons.2 ⟨?_, List.forall_mem_nil _⟩⟩ <;>
    exact ⟨fun _ _ _ => rfl, fun _ _ _ => rfl⟩
  have hl : lefts [.inr removeSecond, .inl createThird] = [createThird] := rfl
  obtain ⟨os', t', h⟩ := interleavings_agree hcmd henv (by decide +kernel) rfl rfl hl rfl hthrough hrun
  exact ⟨os, t, os', t', hrun, h⟩

end OsdTarget
