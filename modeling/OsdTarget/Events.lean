import OsdTarget.AttributeParams
import OsdTarget.CommandFrame
import OsdTarget.Submit

/-!
# What a submission does to the device

Between taking in a CDB and reporting a status, `cdb.c` works on the device through the commands of
`osd.c`.  `Event` lists what can happen there and `Command.May` what the service action of a command
allows, with the ids, lengths and values the CDB and data-in give.  Every submission is a sequence of
events it may cause, so what each event keeps holds after any number of submissions.
-/

namespace OsdTarget

open Base

/-! ## Events -/

/-- One thing that happens to a device while a submission is worked on. -/
inductive Event
  /-- a command of `osd.c` -/
  | op (op : Op)
  /-- an existing data file gets this content: APPEND, CLEAR and PUNCH -/
  | data (pid oid : UInt64) (content : List UInt8)
  /-- an id is picked and not used: COPY USER OBJECTS -/
  | cache (ic : IdCache)
  /-- a reply, the current command attributes, the bounds of a transaction -/
  | silent

/-- What an event leads to. -/
def Event.next (env : Env) (s s' : Target) : Event → Prop
  | .op o => ∃ ret, o.exec env s = some (ret, s')
  | .data pid oid content => s.files pid oid ≠ none ∧ s' = s.setFile pid oid (some content)
  | .cache ic => s' = { s with ic }
  | .silent => s'.db = s.db ∧ s'.ic = s.ic ∧ s'.files = s.files ∧ s'.rootFreed = s.rootFreed

def Event.creates : Event → Bool
  | .op o => o.creates
  | _ => false

/-- Any number of events, all of them silent or in `M`. -/
def Does (env : Env) (M : Event → Prop) : Target → Target → Prop :=
  Relation.ReflTransGen fun s s' => ∃ e : Event, (e = .silent ∨ M e) ∧ e.next env s s'

variable {env : Env} {M M' : Event → Prop} {s s' : Target}

theorem Does.of_may {e : Event} (h : M e) (he : e.next env s s') : Does env M s s' :=
  Relation.ReflTransGen.single ⟨e, .inr h, he⟩

theorem Does.silent (hdb : s'.db = s.db) (hic : s'.ic = s.ic) (hf : s'.files = s.files)
    (hr : s'.rootFreed = s.rootFreed) : Does env M s s' :=
  Relation.ReflTransGen.single ⟨.silent, .inl rfl, hdb, hic, hf, hr⟩

theorem Does.mono (h : Does env M s s') (hM : ∀ e, M e → M' e) : Does env M' s s' :=
  Relation.ReflTransGen.mono (fun _ _ ⟨e, he, hn⟩ => ⟨e, he.imp_right (hM e), hn⟩) _ _ h

instance : Untransacted (Does env M) where
  same _ _ hdb hic hf hr _ _ := .silent hdb hic hf hr
  trans _ _ _ := Relation.ReflTransGen.trans
  txn _ _ _ := .silent rfl rfl rfl rfl

/-- **What every event keeps, a run of events keeps.** -/
theorem Does.invariant {I : Target → Prop} (h : Does env M s s')
    (hsilent : ∀ t t', I t → Event.next env t t' .silent → I t')
    (hM : ∀ e t t', M e → I t → e.next env t t' → I t') (hi : I s) : I s' := by
  induction h with
  | refl => exact hi
  | tail _ hstep ih =>
    obtain ⟨e, rfl | he, hn⟩ := hstep
    · exact hsilent _ _ ih hn
    · exact hM e _ _ he ih hn

/-! ## What the service action allows -/

namespace Command

variable (cmd : Command)

/-- The objects whose attributes the command sets and gets: what it creates, or what it is about. -/
def Concerns (pid oid : UInt64) : Prop :=
  match cmd.serviceAction with
  | .create | .createCollection => pid = cmd.pid
  | .createPartition => oid = PARTITION_OID
  | .removePartition => pid = cmd.pid ∧ oid = PARTITION_OID
  | .formatOsd => pid = 0 ∧ oid = 0
  | _ => pid = cmd.pid ∧ oid = cmd.oid

/-- The commands of `osd.c` that the service action calls, with their arguments. -/
def Calls : Op → Prop
  | .create pid requestedOid numoid => cmd.serviceAction = .create ∧ pid = cmd.pid ∧
    requestedOid = cmd.oid ∧ numoid = getNtohs cmd.cdb 32
  | .createAndWrite pid oid len offset _ _ _ => cmd.serviceAction = .createAndWrite ∧ pid = cmd.pid ∧
    oid = cmd.oid ∧ len = getNtohll cmd.cdb 32 ∧ offset = getNtohll cmd.cdb 40
  | .createCollection pid requestedCid => cmd.serviceAction = .createCollection ∧ pid = cmd.pid ∧
    requestedCid = cmd.oid
  | .createPartition requestedPid => cmd.serviceAction = .createPartition ∧ requestedPid = cmd.pid
  | .createUserTrackingCollection pid requestedCid sourceCid cdbContLen =>
    cmd.serviceAction = .createUserTrackingCollection ∧ pid = cmd.pid ∧ requestedCid = cmd.oid ∧
      (sourceCid, cdbContLen) = trackingArguments cmd
  -- what was created is removed again when its attributes are refused
  | .remove pid oid => cmd.serviceAction = .remove ∧ pid = cmd.pid ∧ oid = cmd.oid ∨
    cmd.serviceAction ∈ [.create, .createCollection, .createPartition] ∧ cmd.Concerns pid oid
  | .removeCollection pid cid fcr => cmd.serviceAction = .removeCollection ∧ pid = cmd.pid ∧
    cid = cmd.oid ∧ fcr = cmd.cdb 11 &&& 0x1
  | .removePartition pid => cmd.serviceAction = .removePartition ∧ pid = cmd.pid
  | .write pid oid len offset _ _ _ => cmd.serviceAction = .write ∧ pid = cmd.pid ∧ oid = cmd.oid ∧
    len = getNtohll cmd.cdb 32 ∧ offset = getNtohll cmd.cdb 40
  | .setAttributes pid oid _ _ _ _ isembedded => cmd.Concerns pid oid ∧ isembedded = true
  | .getattrList pid oid _ _ _ _ isembedded _ => cmd.Concerns pid oid ∧ isembedded = true
  | .getattrPage pid oid _ _ _ isembedded => cmd.Concerns pid oid ∧ isembedded = true
  | .setMemberAttributes pid cid _ => cmd.serviceAction = .setMemberAttributes ∧ pid = cmd.pid ∧
    cid = cmd.oid
  | .cas pid oid cmp swap pos => cmd.serviceAction = .cas ∧ pid = cmd.pid ∧ oid = cmd.oid ∧
    cmp = getNtohll cmd.indata 0 ∧ swap = getNtohll cmd.indata 8 ∧ pos = (getNtohll cmd.cdb 40).toNat
  | .fa pid oid add pos => cmd.serviceAction = .fa ∧ pid = cmd.pid ∧ oid = cmd.oid ∧
    add = getNtohll cmd.indata 0 ∧ pos = (getNtohll cmd.cdb 40).toNat
  | .genCas pid oid _ _ _ _ _ _ => cmd.serviceAction ∈ [.genCas, .condSetattr] ∧ pid = cmd.pid ∧
    oid = cmd.oid
  | .formatOsd => cmd.serviceAction = .formatOsd

/-- The events the command may cause. -/
def May : Event → Prop
  | .op o => cmd.Calls o
  | .data pid oid _ => cmd.serviceAction ∈ [.append, .clear, .punch] ∧ pid = cmd.pid ∧ oid = cmd.oid
  | .cache _ => cmd.serviceAction = .copyUserObjects
  | .silent => True

/-- The events it may cause beside creating. -/
def Besides (e : Event) : Prop := cmd.May e ∧ e.creates = false

end Command

/-- What a command does when it creates something at most once. -/
def DoesOnce (env : Env) (cmd : Command) (s s' : Target) : Prop :=
  ∃ t t', Does env cmd.Besides s t ∧
    (t' = t ∨ ∃ e : Event, cmd.May e ∧ e.creates = true ∧ e.next env t t') ∧ Does env cmd.Besides t' s'

theorem DoesOnce.of_does {cmd : Command} (h : Does env cmd.Besides s s') : DoesOnce env cmd s s' :=
  ⟨s', s', h, .inl rfl, .refl⟩

theorem DoesOnce.then {cmd : Command} {v : Target} (h : DoesOnce env cmd s s') (hv : Does env cmd.Besides s' v) :
    DoesOnce env cmd s v := by
  obtain ⟨t, t', hs, he, ht⟩ := h
  exact ⟨t, t', hs, he, ht.trans hv⟩

theorem once_of_does {α : Type} {cmd : Command} {m : OsdM α} (h : Respects (Does env cmd.Besides) m) :
    Respects (DoesOnce env cmd) m := fun s => (h s).mono fun _ _ => .of_does

/-- It is a run of events the command may cause. -/
theorem DoesOnce.run {cmd : Command} (h : DoesOnce env cmd s s') :
    Relation.ReflTransGen (fun t t' => ∃ e : Event, cmd.May e ∧ e.next env t t') s s' := by
  have hdoes : ∀ {v v' : Target}, Does env cmd.Besides v v' →
      Relation.ReflTransGen (fun t t' => ∃ e : Event, cmd.May e ∧ e.next env t t') v v' := by
    refine Relation.ReflTransGen.mono (fun t t' => ?_) _ _
    rintro ⟨e, rfl | he, hn⟩
    · exact ⟨.silent, trivial, hn⟩
    · exact ⟨e, he.1, hn⟩
  obtain ⟨t, t', hs, rfl | ⟨e, he, -, hn⟩, ht⟩ := h
  · exact (hdoes hs).trans (hdoes ht)
  · exact ((hdoes hs).tail ⟨e, he, hn⟩).trans (hdoes ht)

/-- The one event, and what comes behind it. -/
theorem once_bind {α β : Type} {cmd : Command} {m : OsdM α} {f : α → OsdM β}
    (hm : Respects (DoesOnce env cmd) m) (hf : ∀ a, Respects (Does env cmd.Besides) (f a)) :
    Respects (DoesOnce env cmd) (m >>= f) :=
  fun s => ends_call (hm s) fun a t ht => (hf a t).mono fun _ _ => ht.then

/-! ## The commands of `osd.c` -/

theorem respects_map {α β : Type} {R : Target → Target → Prop} {m : OsdM α} {f : α → β} :
    Respects R (f <$> m) ↔ Respects R m :=
  forall_congr' fun _ => ends_map

theorem once_op {cmd : Command} {o : Op} (h : cmd.Calls o) (ho : o.creates = true) :
    Respects (DoesOnce env cmd) (o.exec env) :=
  fun s ret s' hr => ⟨s, s', .refl, .inr ⟨.op o, h, ho, ret, hr⟩, .refl⟩

theorem does_op {o : Op} (h : M (.op o)) : Respects (Does env M) (o.exec env) :=
  fun _ ret _ hr => .of_may h ⟨ret, hr⟩

/-- The attributes of the object may be set and retrieved. -/
structure Attends (M : Event → Prop) (pid oid : UInt64) : Prop where
  set : ∀ page number val len, M (.op (.setAttributes pid oid page number val len true))
  list : ∀ page number pos outlen listfmt,
    M (.op (.getattrList pid oid page number pos outlen true listfmt))
  page : ∀ page pos outlen, M (.op (.getattrPage pid oid page pos outlen true))

theorem Attends.mono {pid oid : UInt64} (h : Attends M pid oid) (hM : ∀ e, M e → M' e) : Attends M' pid oid where
  set _ _ _ _ := hM _ (h.set _ _ _ _)
  list _ _ _ _ _ := hM _ (h.list _ _ _ _ _)
  page _ _ _ := hM _ (h.page _ _ _)

theorem Command.Concerns.attends {cmd : Command} {pid oid : UInt64} (h : cmd.Concerns pid oid) :
    Attends cmd.Besides pid oid where
  set _ _ _ _ := ⟨⟨h, rfl⟩, rfl⟩
  list _ _ _ _ _ := ⟨⟨h, rfl⟩, rfl⟩
  page _ _ _ := ⟨⟨h, rfl⟩, rfl⟩

section Parameters

variable {pid oid : UInt64} {cmd : Command} {numoid : UInt16} {fuel : Nat} {used : UInt32}

theorem Attends.serves (h : Attends M pid oid) : Serves (Does env M) env true pid oid where
  set page number val len := does_op (h.set page number val len)
  list page number pos outlen listfmt := respects_map.1 (does_op (h.list page number pos outlen listfmt))

theorem does_setAttributes (h : ∀ k < createCount oid numoid, Attends M pid (oid + UInt64.ofNat k)) :
    Respects (Does env M) (setAttributes env cmd pid oid numoid.toUInt32 fuel) :=
  serves_setAttributes brackets_self fun k hk => (h k (by simpa using hk)).serves

theorem does_getAttributes (h0 : Attends M pid oid)
    (h : ∀ k < createCount oid numoid, Attends M pid (oid + UInt64.ofNat k)) :
    Respects (Does env M) (getAttributes env cmd pid oid numoid used) :=
  fun s => serves_getAttributes brackets_self
    (fun page pos outlen => respects_map.1 (does_op (h0.page page pos outlen)) s) fun k hk => (h k hk).serves

theorem does_applyAttributes (h0 : Attends M pid oid)
    (h : ∀ k < createCount oid numoid, Attends M pid (oid + UInt64.ofNat k)) :
    Respects (Does env M) (applyAttributes env cmd pid oid numoid fuel used) :=
  resp_bind (does_setAttributes h) fun _ => respects_ite (resp_pure _) (does_getAttributes h0 h)

/-- A range of one id. -/
theorem Attends.one (h : Attends M pid oid) :
    ∀ k < createCount oid 1, Attends M pid (oid + UInt64.ofNat k) := by
  intro k hk
  have hle : createCount oid 1 ≤ 1 := createCount_le oid 1
  obtain rfl : k = 0 := by omega
  rwa [show UInt64.ofNat 0 = 0 from rfl, UInt64.add_zero]

theorem does_attributesOrUndo {undo : OsdM Unit} (h0 : Attends M pid oid)
    (h : ∀ k < createCount oid numoid, Attends M pid (oid + UInt64.ofNat k))
    (hundo : Respects (Does env M) undo) :
    Respects (Does env M) (attributesOrUndo env cmd pid oid numoid fuel used undo) :=
  resp_bind (does_applyAttributes h0 h) fun _ =>
    respects_ite (resp_bind hundo fun _ => resp_pure _) (resp_pure _)

theorem does_withAttributes {m : OsdM (Ret × Option UInt64)} (h : Attends M pid oid)
    (hm : Respects (Does env M) m) : Respects (Does env M) (withAttributes env cmd pid oid fuel m) :=
  resp_bind hm fun _ => respects_ite (resp_pure _)
    (resp_bind (does_applyAttributes h h.one) fun _ => resp_pure _)

theorem does_afterAttributes {m : OsdM (Ret × Option UInt64)} (h : Attends M pid oid)
    (hm : Respects (Does env M) m) : Respects (Does env M) (afterAttributes env cmd pid oid fuel m) :=
  resp_bind (does_applyAttributes h h.one) fun _ => respects_ite (resp_pure _)
    (resp_bind hm fun _ => resp_pure _)

end Parameters

/-! ## Handlers -/

section Handlers

variable {cmd : Command} {ds : List ContDescriptor} {fuel : Nat}

theorem does_plain {m : OsdM Ret} (hm : Respects (Does env M) m) : Respects (Does env M) (plain m) :=
  resp_bind hm fun _ => resp_pure _

theorem does_noOutput {m : OsdM Ret} (hm : Respects (Does env M) m) : Respects (Does env M) (noOutput m) :=
  resp_bind hm fun _ => resp_pure _

theorem does_withGetUsed {m : OsdM (Ret × UInt32)} (hm : Respects (Does env M) m) :
    Respects (Does env M) (withGetUsed m) :=
  resp_bind hm fun _ => resp_pure _

theorem does_guard {α : Type} {c : Prop} [Decidable c] {a : α} {m : OsdM α} (hm : Respects (Does env M) m) :
    Respects (Does env M) (if c then pure a else m) :=
  respects_ite (resp_pure _) hm

theorem does_admitsFile {pid oid : UInt64} (h : ∀ content, M (.data pid oid content)) :
    AdmitsFile (Does env M) pid oid :=
  fun _ _ c' hc => .of_may (h c') ⟨by rw [hc]; exact nofun, rfl⟩

theorem does_uncached (h : ∀ ic, M (.cache ic)) : Uncached (Does env M) where
  ic _ c := .of_may (h c) rfl

/-- The sense data do not matter to the device. -/
theorem osdCreateAndWriteSense_eq (pid oid len offset : UInt64) (data : Mem) (sglist : SgList) (ddt : UInt8) :
    Prod.fst <$> osdCreateAndWriteSense env pid oid len offset data sglist ddt =
      osdCreateAndWrite env pid oid len offset data sglist ddt := by
  unfold osdCreateAndWriteSense osdCreateAndWrite
  rw [map_bind]
  congr 1
  funext ret
  split
  · rw [map_pure]
  · rw [map_bind]
    congr 1
    funext ret
    split
    · rw [map_bind]
      simp only [map_pure]
    · rw [map_pure]

theorem once_pure {α : Type} (a : α) : Respects (DoesOnce env cmd) (pure a : OsdM α) := once_of_does (resp_pure a)

theorem once_guard {α : Type} {c : Prop} [Decidable c] {a : α} {m : OsdM α}
    (hm : Respects (DoesOnce env cmd) m) : Respects (DoesOnce env cmd) (if c then pure a else m) :=
  respects_ite (once_pure a) hm

theorem once_execCreateAndWrite (hact : cmd.serviceAction = .createAndWrite) :
    Respects (DoesOnce env cmd) (execCreateAndWrite env cmd ds) := by
  refine once_guard (once_bind ?_ fun _ => resp_pure _)
  rw [← respects_map, osdCreateAndWriteSense_eq]
  exact once_op (o := .createAndWrite ..) ⟨hact, rfl, rfl, rfl, rfl⟩ rfl

theorem once_cdbCreate (hact : cmd.serviceAction = .create) :
    Respects (DoesOnce env cmd) (cdbCreate env cmd fuel 0) := by
  have hmine : ∀ i, cmd.Concerns cmd.pid i := fun i => by
    unfold Command.Concerns
    rw [hact]
  have hundo : ∀ n i, Respects (Does env cmd.Besides) (osdRemoveTmpObjects env cmd.pid n i) := by
    intro n
    induction n with
    | zero => exact fun _ => resp_pure _
    | succ n ih =>
      exact fun i => resp_bind (does_op (o := .remove ..) ⟨.inr ⟨by rw [hact]; decide, hmine i⟩, rfl⟩)
        fun _ => ih _
  have hcreate : Respects (DoesOnce env cmd) (withinTxn env
      (osdCreate env cmd.pid cmd.oid (getNtohs cmd.cdb 32))) := by
    intro s
    refine ends_call (resp_osdBeginTxn (R := Does env cmd.Besides) s) fun _ t ht => ?_
    refine ends_call (once_op (o := .create ..) ⟨hact, rfl, rfl, rfl⟩ rfl t) fun _ v hv => ?_
    obtain ⟨u, u', hu, he, hu'⟩ := hv
    refine ends_call (resp_osdEndTxn (R := Does env cmd.Besides) v) fun _ w hw => ends_pure.2 ?_
    exact ⟨u, u', ht.trans hu, he, hu'.trans hw⟩
  refine once_guard (once_bind hcreate fun _ => does_guard (resp_bind resp_get fun t => ?_))
  exact does_attributesOrUndo (hmine _).attends (fun _ _ => (hmine _).attends) (hundo _ _)

/-- The two commands that create one thing and remove it again as a user object. -/
theorem does_removeCreated {pid oid : UInt64} (h : M (.op (.remove pid oid))) :
    Respects (Does env M) (removeCreated env pid oid) :=
  resp_bind (does_op h) fun _ => resp_pure _

theorem once_cdbCreateCollectionSense (hact : cmd.serviceAction = .createCollection) :
    Respects (DoesOnce env cmd) (cdbCreateCollectionSense env cmd fuel) := by
  have hmine : ∀ i, cmd.Concerns cmd.pid i := fun i => by
    unfold Command.Concerns
    rw [hact]
  refine once_bind (once_op (o := .createCollection ..) ⟨hact, rfl, rfl⟩ rfl) fun _ =>
    does_guard (resp_bind resp_get fun t => does_withGetUsed ?_)
  exact does_attributesOrUndo (hmine _).attends (hmine _).attends.one
    (does_removeCreated ⟨.inr ⟨by rw [hact]; decide, hmine _⟩, rfl⟩)

theorem once_cdbCreatePartition (hact : cmd.serviceAction = .createPartition) :
    Respects (DoesOnce env cmd) (cdbCreatePartition env cmd fuel 0) := by
  have hmine : ∀ p, cmd.Concerns p PARTITION_OID := fun p => by
    unfold Command.Concerns
    rw [hact]
  refine once_bind (once_op (o := .createPartition _) ⟨hact, rfl⟩ rfl) fun _ =>
    does_guard (resp_bind resp_get fun t => ?_)
  exact does_attributesOrUndo (hmine _).attends (hmine _).attends.one
    (does_removeCreated ⟨.inr ⟨by rw [hact]; decide, hmine _⟩, rfl⟩)

theorem does_cdbRead (h : Attends M cmd.pid cmd.oid) : Respects (Does env M) (cdbRead env cmd ds fuel) :=
  does_guard (resp_bind (resp_osdReadDevice _ _ _) fun _ => does_guard
    (resp_bind (does_applyAttributes h h.one) fun _ => does_guard (resp_pure _)))

theorem does_casSetattrLoop (h : Attends M cmd.pid cmd.oid) (list : Nat) (listLen : UInt32) :
    Respects (Does env M) (casSetattrLoop env cmd fuel list listLen) := by
  induction fuel generalizing list listLen with
  | zero => exact respects_ite (resp_pure _) resp_never
  | succ fuel ih =>
    exact does_guard (resp_bind (does_op (o := .setAttributes ..) (h.set _ _ _ _)) fun _ => does_guard (ih _ _))

theorem does_execGetattr (h : Attends M cmd.pid cmd.oid) (r : GenCasResult) :
    Respects (Does env M) (execGetattr env cmd r) := by
  refine does_guard (resp_bind (resp_outWrite _ _) fun _ =>
    resp_bind (does_getAttributes h h.one) fun _ => does_guard (resp_bind (resp_outWrite _ _) fun _ =>
      resp_bind resp_get fun _ => resp_bind (resp_outWrite _ _) fun _ =>
        resp_bind (resp_lePackAttr _ _ _ _ _ _) fun packed => ?_))
  cases packed with
  | error e => exact respects_ite (resp_pure _) resp_never
  | ok n => exact resp_bind resp_get fun _ => resp_bind (resp_outWrite _ _) fun _ => resp_pure _

theorem does_freeUnset : Respects (Does env M) (freeUnset env) := respects_ite (resp_pure _) resp_never

theorem does_execGenCas (hact : cmd.serviceAction ∈ [.genCas, .condSetattr]) :
    Respects (Does env cmd.Besides) (execGenCas env cmd) := by
  unfold execGenCas
  split
  · exact resp_bind does_freeUnset fun _ => resp_pure _
  · exact resp_bind (respects_map.1 (does_op (o := .genCas ..) ⟨⟨hact, rfl, rfl⟩, rfl⟩)) fun _ =>
      does_guard (resp_pure _)

theorem does_cdbGenCas (hact : cmd.serviceAction ∈ [.genCas, .condSetattr])
    (h : Attends cmd.Besides cmd.pid cmd.oid) (cond : Bool) :
    Respects (Does env cmd.Besides) (cdbGenCas env cmd cond fuel) := by
  refine respects_ite (resp_bind does_freeUnset fun _ => resp_pure _)
    (resp_bind (does_execGenCas hact) fun res => ?_)
  cases res with
  | error ret => exact resp_pure _
  | ok r =>
    have hreply : Respects (Does env cmd.Besides) (execGetattr env cmd r >>= fun x =>
        if x.1 = .ok then pure (Outcome.of .ok 0 x.2) else pure (.of (cdbErr cmd.pid cmd.oid) 0 x.2)) :=
      resp_bind (does_execGetattr h r) fun _ => respects_ite (resp_pure _) (resp_pure _)
    exact respects_ite (resp_bind (does_guard (does_casSetattrLoop h _ _)) fun _ => does_guard hreply) hreply

theorem does_cdbList : Respects (Does env M) (cdbList env cmd) := by
  refine does_guard ?_
  split
  · exact resp_bind (resp_osdList _ _ _ _ _ _) fun _ => resp_pure _
  · exact resp_pure _

theorem does_execQuery (h : Attends M cmd.pid cmd.oid) : Respects (Does env M) (execQuery env cmd ds fuel) := by
  unfold execQuery
  split
  · exact resp_pure _
  · exact does_withAttributes h (resp_osdQuery _ _ _ _ _ _)

theorem does_cdbSetMemberAttributes (hact : cmd.serviceAction = .setMemberAttributes) :
    Respects (Does env cmd.Besides) (cdbSetMemberAttributes env cmd fuel) := by
  unfold cdbSetMemberAttributes
  split
  · exact resp_never
  · exact does_plain (does_op (o := .setMemberAttributes ..) ⟨⟨hact, rfl, rfl⟩, rfl⟩)
  · exact resp_pure _

theorem does_cdbCopyUserObjects (hact : cmd.serviceAction = .copyUserObjects) :
    Respects (Does env cmd.Besides) (cdbCopyUserObjects env cmd ds) := by
  have : Uncached (Does env cmd.Besides) := does_uncached fun _ => ⟨hact, rfl⟩
  unfold cdbCopyUserObjects
  split
  · exact resp_pure _
  · exact respects_ite (resp_bind (resp_osdCopyUserObjects _ _ _) fun _ => resp_pure _) (resp_pure _)

/-- **A service action does what it allows**, and creates at most once. -/
theorem once_dispatch : Respects (DoesOnce env cmd) (dispatch env cmd ds fuel) := by
  have hplain : ∀ {a : ServiceAction}, cmd.serviceAction = a →
      a ∉ [.create, .createCollection, .createPartition, .removePartition, .formatOsd] →
      Attends cmd.Besides cmd.pid cmd.oid := by
    rintro a rfl ha
    refine Command.Concerns.attends ?_
    unfold Command.Concerns
    split <;> rename_i h <;> first | exact ⟨rfl, rfl⟩ | exact absurd (by rw [h]; decide) ha
  have hdata : ∀ {a : ServiceAction}, cmd.serviceAction = a → a ∈ [.append, .clear, .punch] →
      AdmitsFile (Does env cmd.Besides) cmd.pid cmd.oid :=
    fun hact ha => does_admitsFile fun _ => ⟨⟨hact ▸ ha, rfl, rfl⟩, rfl⟩
  unfold dispatch
  cases hact : cmd.serviceAction with
  | append =>
    exact once_of_does (does_guard (does_guard (does_withAttributes (hplain hact (by decide))
      (does_noOutput (resp_contigAppend (hdata hact (by decide)) _ _)))))
  | clear =>
    exact once_of_does (does_guard (does_withAttributes (hplain hact (by decide))
      (does_noOutput (resp_osdClear (hdata hact (by decide)) _ _))))
  | punch =>
    exact once_of_does (does_guard (does_withAttributes (hplain hact (by decide))
      (does_noOutput (resp_osdPunch (hdata hact (by decide)) _ _))))
  | copyUserObjects => exact once_of_does (does_cdbCopyUserObjects hact)
  | create => exact once_guard (once_bind (once_cdbCreate hact) fun _ => resp_pure _)
  | createAndWrite => exact once_execCreateAndWrite hact
  | createCollection => exact once_guard (once_cdbCreateCollectionSense hact)
  | createPartition => exact once_guard (once_bind (once_cdbCreatePartition hact) fun _ => resp_pure _)
  | createUserTrackingCollection =>
    exact once_bind (once_op (o := .createUserTrackingCollection ..) ⟨hact, rfl, rfl, rfl⟩ rfl) fun _ => resp_pure _
  | flush => exact once_of_does (does_guard (does_plain (resp_osdFlush _ _ _)))
  | formatOsd =>
    have h0 : Attends cmd.Besides 0 0 := Command.Concerns.attends (by
      unfold Command.Concerns
      rw [hact]
      exact ⟨rfl, rfl⟩)
    exact once_of_does (does_guard (does_withAttributes h0 (does_noOutput (does_op (o := .formatOsd) ⟨hact, rfl⟩))))
  | getAttributes =>
    have h := hplain hact (by decide)
    have hset : Respects (Does env cmd.Besides) (setAttributes env cmd cmd.pid cmd.oid 1 fuel) :=
      does_setAttributes h.one
    exact once_of_does (does_guard (resp_bind (does_getAttributes h h.one) fun _ => does_guard
      (resp_bind hset fun _ => resp_pure _)))
  | list => exact once_of_does (does_cdbList)
  | listCollection =>
    exact once_of_does (does_withAttributes (hplain hact (by decide)) (resp_osdListCollection _ _ _ _ _ _))
  | query => exact once_of_does (does_execQuery (hplain hact (by decide)))
  | read => exact once_of_does (does_cdbRead (hplain hact (by decide)))
  | readMap =>
    exact once_of_does (does_guard (does_afterAttributes (hplain hact (by decide)) (resp_osdReadMap _ _ _)))
  | remove =>
    exact once_of_does (does_guard (does_afterAttributes (hplain hact (by decide))
      (does_noOutput (does_op (o := .remove ..) ⟨.inl ⟨hact, rfl, rfl⟩, rfl⟩))))
  | removeCollection =>
    exact once_of_does (does_guard (does_plain (does_op (o := .removeCollection ..) ⟨⟨hact, rfl, rfl, rfl⟩, rfl⟩)))
  | removePartition =>
    have h0 : Attends cmd.Besides cmd.pid PARTITION_OID := Command.Concerns.attends (by
      unfold Command.Concerns
      rw [hact]
      exact ⟨rfl, rfl⟩)
    exact once_of_does (does_guard (does_afterAttributes h0
      (does_noOutput (does_op (o := .removePartition ..) ⟨⟨hact, rfl⟩, rfl⟩))))
  | setAttributes =>
    have h := hplain hact (by decide)
    exact once_of_does (does_guard (does_withGetUsed (does_applyAttributes h h.one)))
  | setMemberAttributes => exact once_of_does (does_guard (does_cdbSetMemberAttributes hact))
  | write =>
    exact once_of_does (does_guard (resp_bind (does_withAttributes (hplain hact (by decide)) (does_noOutput
      (does_op (o := .write ..) ⟨⟨hact, rfl, rfl, rfl, rfl⟩, rfl⟩))) fun _ => resp_pure _))
  | cas =>
    exact once_of_does (does_guard (does_withAttributes (hplain hact (by decide))
      (respects_map.1 (does_op (o := .cas ..) ⟨⟨hact, rfl, rfl, rfl, rfl, rfl⟩, rfl⟩))))
  | fa =>
    exact once_of_does (does_guard (does_withAttributes (hplain hact (by decide))
      (respects_map.1 (does_op (o := .fa ..) ⟨⟨hact, rfl, rfl, rfl, rfl⟩, rfl⟩))))
  | genCas => exact once_of_does (does_cdbGenCas (by rw [hact]; decide) (hplain hact (by decide)) _)
  | condSetattr => exact once_of_does (does_cdbGenCas (by rw [hact]; decide) (hplain hact (by decide)) _)
  | flushCollection | flushOsd | flushPartition | removeMemberObjects | setMasterKey =>
    exact once_of_does (does_guard (does_plain (resp_pure _)))
  | getMemberAttributes | setKey => exact once_of_does (does_plain (resp_pure _))
  | performScsi => exact once_of_does (does_guard (resp_pure _))
  | other => exact once_of_does (resp_pure _)

theorem once_execServiceAction : Respects (DoesOnce env cmd) (execServiceAction env cmd fuel) := by
  refine respects_ite once_dispatch ?_
  split
  · exact once_of_does resp_never
  · exact once_dispatch
  · exact once_pure _

end Handlers

/-! ## Submissions -/

/-- **A submission is a run of events its service action allows**, whatever its CDB and data-in hold and
whatever fails around it; at most one of them creates something. -/
theorem osdemuCmdSubmit_does {sub : Submission} {fuel : Nat} {report : Report}
    (hrun : osdemuCmdSubmit env sub fuel s = some (report, s')) : DoesOnce env sub.command s s' := by
  have hcount : ∀ off used getUsed,
      Respects (Does env sub.command.Besides) (countRetrieved off used getUsed) :=
    fun _ _ _ => respects_ite (respects_ite (resp_bind (resp_outWrite _ _) fun _ => resp_pure _) (resp_pure _))
      (resp_pure _)
  have hreceived : Does env sub.command.Besides s s.received := .silent rfl rfl rfl rfl
  have hdoes : Ends (osdemuCmdSubmit env sub fuel) s fun _ v => DoesOnce env sub.command s v := by
    unfold osdemuCmdSubmit
    split
    · exact once_pure _ s
    · refine ends_bind.2 (ends_modify.2 ?_)
      refine (once_bind once_execServiceAction (fun _ => resp_bind (hcount _ _ _) fun _ => resp_pure _)
        s.received).mono fun _ v hv => ?_
      obtain ⟨t, t', ht, he, ht'⟩ := hv
      exact ⟨t, t', hreceived.trans ht, he, ht'⟩
  exact hdoes report s' hrun

/-- CREATE PARTITION, with the lowest of the ids. -/
def firstPartition : Submission :=
  { missingPartition with
    cdb := blobMem ([VARLEN_CDB, 0, 0, 0, 0, 0, 0, OSD_CDB_SIZE - 8] ++ htons 0x888b ++ [0, 0x20, 0, 0, 0, 0] ++
      htonll 0x10000) }

theorem osdemuCmdSubmit_does_partition : ∃ report s',
    osdemuCmdSubmit .calm firstPartition 0 .fresh = some (report, s') ∧ s'.db.obj.length = 2 ∧
      DoesOnce .calm firstPartition.command .fresh s' := by
  have hlen : (osdemuCmdSubmit .calm firstPartition 0 .fresh).map (fun r => r.2.db.obj.length) = some 2 := by
    decide +kernel
  obtain ⟨⟨report, s'⟩, hrun, h⟩ := Option.map_eq_some_iff.1 hlen
  exact ⟨report, s', hrun, h, osdemuCmdSubmit_does hrun⟩

end OsdTarget
