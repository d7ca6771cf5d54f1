import OsdTarget.Commands

/-!
# Object table and data files

Two stores say which user objects exist: the object table and the data files.  `osd_create` and
`osd_remove` keep them together, the rollback included.  `osd_remove_collection` does not test the
type of what it removes: given the id of a user object it takes the row and leaves the file.
-/

namespace OsdTarget

open Base

variable {env : Env} {s s' : Target}

/-! ## Programs that leave the files alone -/

/-- The data files and the path to them are unchanged. -/
structure KeepsFiles (s s' : Target) : Prop where
  files : s'.files = s.files
  rootFreed : s'.rootFreed = s.rootFreed

theorem KeepsFiles.refl (s : Target) : KeepsFiles s s := ⟨rfl, rfl⟩

theorem KeepsFiles.trans (s t v : Target) (h : KeepsFiles s t) (h' : KeepsFiles t v) :
    KeepsFiles s v :=
  ⟨h'.files.trans h.files, h'.rootFreed.trans h.rootFreed⟩

section KeepsFiles

variable {α β : Type}

theorem keeps_pure (a : α) : Respects KeepsFiles (pure a : OsdM α) := respects_pure KeepsFiles.refl a

theorem keeps_bind {m : OsdM α} {f : α → OsdM β} (hm : Respects KeepsFiles m)
    (hf : ∀ a, Respects KeepsFiles (f a)) : Respects KeepsFiles (m >>= f) :=
  respects_bind KeepsFiles.trans hm hf

theorem keeps_query {q : Query} {init : α} {answer : Db → α} :
    Respects KeepsFiles (dbExecQuery env q init answer) :=
  fun s => dbExecQuery_ends (fun _ => .refl s) fun _ => .refl s

theorem keeps_dms {st : Dms} : Respects KeepsFiles (dbExecDms env st) :=
  fun s => dbExecDms_ends (fun _ _ _ => ⟨rfl, rfl⟩) fun _ => .refl s

theorem keeps_invalidateCache : Respects KeepsFiles invalidateCache :=
  respects_modify fun _ => ⟨rfl, rfl⟩

theorem keeps_chooseId (pid lb : UInt64) : Respects KeepsFiles (chooseId env pid lb) :=
  fun s => chooseId_ends (fun _ => ⟨rfl, rfl⟩) fun _ => .refl s

theorem keeps_takeRequestedId (pid requested : UInt64) :
    Respects KeepsFiles (takeRequestedId env pid requested) :=
  fun s => takeRequestedId_ends (fun _ => .refl s) fun _ => ⟨rfl, rfl⟩

theorem keeps_insertCollection (pid cid requested : UInt64) :
    Respects KeepsFiles (insertCollection env pid cid requested) :=
  fun s => insertCollection_ends (fun _ => ⟨rfl, rfl⟩) fun _ _ _ => .refl s

theorem keeps_osdCreateCollection (pid requested : UInt64) :
    Respects KeepsFiles (osdCreateCollection env pid requested) := fun s =>
  osdCreateCollection_ends (fun _ _ _ _ _ => ⟨rfl, rfl⟩) fun _ ic _ _ =>
    (keeps_insertCollection _ _ _ { s with ic }).mono fun _ _ h => ⟨h.files, h.rootFreed⟩

theorem keeps_fillTrackingCollection (pid cid requested source : UInt64) :
    Respects KeepsFiles (fillTrackingCollection env pid cid requested source) :=
  respects_ite (keeps_bind keeps_dms fun _ =>
    respects_ite (keeps_bind keeps_invalidateCache fun _ => keeps_pure _) (keeps_insertCollection _ _ _))
    (keeps_insertCollection _ _ _)

theorem keeps_osdCreateUserTrackingCollection (pid requested source : UInt64) (cdbContLen : UInt32) :
    Respects KeepsFiles (osdCreateUserTrackingCollection env pid requested source cdbContLen) := by
  refine respects_ite (keeps_pure _) (respects_ite (keeps_pure _) (keeps_bind keeps_query fun _ =>
    respects_ite (keeps_pure _) (keeps_bind keeps_query fun _ => respects_ite (keeps_pure _)
      (respects_ite (keeps_pure _) (respects_ite (keeps_pure _)
        (respects_ite (keeps_bind (keeps_chooseId _ _) fun r => ?_)
          (keeps_bind (keeps_takeRequestedId _ _) fun _ =>
            respects_ite (keeps_pure _) (keeps_fillTrackingCollection _ _ _ _))))))))
  cases r with
  | none => exact keeps_bind keeps_invalidateCache fun _ => keeps_pure _
  | some cid => exact keeps_fillTrackingCollection _ _ _ _

theorem keeps_osdCreatePartition (requested : UInt64) :
    Respects KeepsFiles (osdCreatePartition env requested) := fun s =>
  osdCreatePartition_ends (fun _ _ _ => .refl s) fun _ => ⟨rfl, rfl⟩

end KeepsFiles

/-! ## Changes that keep the agreement -/

theorem Target.FilesAgree.of_types (h : s.FilesAgree) (hk : KeepsFiles s s')
    (ht : ∀ p o, s'.db.HasType p o .userobject ↔ s.db.HasType p o .userobject) : s'.FilesAgree := by
  refine ⟨hk.rootFreed.trans h.rootFreed, fun p o => ?_⟩
  rw [hk.files, ht]
  exact h.agree p o

theorem Target.FilesAgree.of_eq (h : s.FilesAgree) (hk : KeepsFiles s s') (ho : s'.db.obj = s.db.obj) :
    s'.FilesAgree := by
  refine h.of_types hk fun p o => ?_
  rw [Db.HasType, Db.HasType, ho]

theorem Target.FilesAgree.idStep (h : s.FilesAgree) (hs : IdStep s s') : s'.FilesAgree := by
  refine ⟨hs.rootFreed.trans h.rootFreed, fun p o => ?_⟩
  rw [hs.files, Db.HasType, hs.obj]
  exact h.agree p o

/-- A row of another type came. -/
theorem Target.FilesAgree.append (h : s.FilesAgree) (hk : KeepsFiles s s') {r : ObjRow}
    (hr : r.type ≠ .userobject) (ho : s'.db.obj = s.db.obj ++ [r]) : s'.FilesAgree := by
  refine h.of_types hk fun p o => ?_
  rw [Db.HasType, Db.HasType, ho, List.mem_append, List.mem_singleton]
  constructor
  · rintro (hold | hnew)
    · exact hold
    · exact absurd (congrArg ObjRow.type hnew).symm hr
  · exact .inl

/-- An object went that is no user object. -/
theorem Target.FilesAgree.removes (h : s.FilesAgree) (hf : s'.files = s.files) {pid oid : Int}
    {cleared : CollRow → Prop} {why : Prop} (hs : Removes pid oid cleared why s s')
    (hno : s'.db.obj = s.db.obj ∨ ¬ s.db.HasType pid oid .userobject) : s'.FilesAgree := by
  have hk : KeepsFiles s s' := ⟨hf, hs.rootFreed⟩
  rcases hno with ho | hno
  · exact h.of_eq hk ho
  rcases hs.obj with ⟨-, ho⟩ | ⟨ho, -, -⟩
  · exact h.of_eq hk ho
  · refine h.of_types hk fun p o => ?_
    rw [Db.HasType, ho, mem_deleteWhere]
    refine ⟨And.left, fun hin => ⟨hin, fun hkey => hno ?_⟩⟩
    rw [← hkey.1, ← hkey.2]
    exact hin

/-- A user object comes with its file. -/
theorem Target.FilesAgree.create (h : s.FilesAgree) (pid oid : UInt64) :
    ((s.setObj (s.db.obj ++ [userRow pid oid])).setFile pid oid (some [])).FilesAgree := by
  refine ⟨h.rootFreed, fun p o => ?_⟩
  rw [Target.setFile_files]
  have hmem : (⟨bindInt64 p, bindInt64 o, .userobject⟩ : ObjRow) ∈ s.db.obj ++ [userRow pid oid] ↔
      s.db.HasType (bindInt64 p) (bindInt64 o) .userobject ∨ p = pid ∧ o = oid := by
    rw [List.mem_append, List.mem_singleton, userRow, ObjRow.mk.injEq, bindInt64_inj, bindInt64_inj]
    simp [Db.HasType]
  refine Iff.trans ?_ hmem.symm
  rw [← h.agree p o]
  by_cases hk : p = pid ∧ o = oid
  · simp [hk]
  · simp [hk]

/-- A row inserted and deleted again. -/
theorem Target.FilesAgree.undo (h : s.FilesAgree) {pid oid : UInt64}
    (hfree : ¬ s.db.Has (bindInt64 pid) (bindInt64 oid)) :
    (s.setObj (deleteWhere (fun r => r.pid = bindInt64 pid ∧ r.oid = bindInt64 oid)
      (s.db.obj ++ [userRow pid oid]))).FilesAgree := by
  refine h.of_types ⟨rfl, rfl⟩ fun p o => ?_
  rw [Db.HasType, Target.setObj_db, mem_deleteWhere, List.mem_append, List.mem_singleton]
  constructor
  · rintro ⟨hold | hnew, hk⟩
    · exact hold
    · exact absurd ⟨congrArg ObjRow.pid hnew, congrArg ObjRow.oid hnew⟩ hk
  · intro hin
    exact ⟨.inl hin, fun hk => hfree ⟨_, hin, hk⟩⟩

/-! ## CREATE -/

theorem rollback_agrees (henv : env.Reliable) {pid : UInt64} (n : Nat) (j : UInt64) (hs : s.FilesAgree) :
    Ends (osdRemoveTmpObjects env pid n j) s (fun _ s' => s'.FilesAgree) :=
  osdRemoveTmpObjects_invariant n j (fun _ _ _ ht => osdRemove_agrees henv ht _ _) hs

/-- Every way through the loop keeps the agreement. -/
theorem createLoop_agrees (henv : env.Reliable) {pid oid : UInt64} (n : Nat) (i : UInt64)
    (hs : s.FilesAgree) : Ends (createLoop env pid oid n i) s (fun _ s' => s'.FilesAgree) := by
  induction n generalizing s i with
  | zero => exact ends_pure.2 hs
  | succ n ih =>
    have hundo : ∀ t : Target, t.FilesAgree →
        Ends (osdRemoveTmpObjects env pid (i - oid).toNat oid >>= fun _ => pure (some i)) t
          (fun _ s' => s'.FilesAgree) :=
      fun t ht => ends_call (rollback_agrees henv _ _ ht) fun _ _ h => ends_pure.2 h
    refine ends_bind.2 (objInsert_ends (fun hfree => ?_) fun _ => ?_)
    · refine ends_ite_of (fun h => absurd rfl h) fun _ =>
        ends_bind.2 (osdCreateDatafile_ends (fun _ _ => ?_) fun e => ?_)
      · exact ends_ite_of (fun h => absurd rfl h) fun _ => ih _ (hs.create pid i)
      · refine ends_ite_of (fun _ => ?_) fun h => absurd (by simp) h
        refine ends_bind.2 (objDelete_ends (hundo _ (hs.undo hfree)) fun hfail => ?_)
        exact absurd ⟨_, _, _, .inr (.inr hfail)⟩ henv.deletes
    · exact ends_ite_of (fun _ => hundo s hs) fun h => absurd (by simp) h

theorem createFrom_agrees (henv : env.Reliable) (pid requested oid : UInt64) (numoid : UInt16)
    (hs : s.FilesAgree) :
    Ends (createFrom env pid requested oid numoid) s (fun _ s' => s'.FilesAgree) := by
  refine ends_call (createLoop_agrees henv _ _ hs) fun r t ht => ?_
  cases r with
  | some i => exact ends_bind.2 (ends_modify.2 (ends_pure.2 (ht.of_eq ⟨rfl, rfl⟩ rfl)))
  | none =>
    exact ends_bind.2 (ends_modify.2 (ends_bind.2 (ends_modify.2 (ends_pure.2
      (ht.of_eq ⟨rfl, rfl⟩ rfl)))))

theorem osdCreate_agrees (henv : env.Reliable) (pid requested : UInt64) (numoid : UInt16)
    (hs : s.FilesAgree) :
    Ends (osdCreate env pid requested numoid) s (fun _ s' => s'.FilesAgree) := by
  have hcache : ∀ ic, ({ s with ic } : Target).FilesAgree := fun ic => hs.of_eq ⟨rfl, rfl⟩ rfl
  exact osdCreate_ends (fun _ ic _ _ => hcache ic) fun _ ic _ _ _ _ =>
    createFrom_agrees henv _ _ _ _ (hcache ic)

theorem osdCreateAndWrite_agrees (henv : env.Reliable) (pid oid len offset : UInt64) (data : Mem)
    (sglist : SgList) (ddt : UInt8) (hs : s.FilesAgree) :
    Ends (osdCreateAndWrite env pid oid len offset data sglist ddt) s (fun _ s' => s'.FilesAgree) := by
  refine ends_call (osdCreate_agrees henv pid oid 1 hs) fun ret t ht =>
    ends_ite_of (fun _ => ends_pure.2 ht) fun _ => ?_
  refine ends_call (resp_osdWrite (AttrStep.admitsFile (fun _ _ => False) pid oid) len offset
    data sglist ddt t)
    fun ret v hv => ?_
  have hv := ht.idStep hv.toIdStep
  dsimp only
  refine ends_ite_of (fun _ => ?_) fun _ => ends_pure.2 hv
  exact ends_call (osdRemove_agrees henv hv pid oid) fun _ _ h => ends_pure.2 h

/-! ## All commands -/

/-- REMOVE COLLECTION is not made to remove a user object. -/
def Op.SparesUserobjects (s : Target) : Op → Prop
  | .removeCollection pid cid fcr =>
    s.db.HasType (bindInt64 pid) (bindInt64 cid) .userobject → ¬ RemovableCollection s.db pid cid fcr
  | .formatOsd => False
  | _ => True

structure FilesKept (s : Target) : Prop where
  zero : ZeroRows s.db
  files : s.FilesAgree

theorem agrees_of_effect {op : Op} (hs : s.FilesAgree) (hk : Respects KeepsFiles (op.exec env))
    (hobj : ∀ s', op.effect env s s' → s'.db.obj = s.db.obj ∨
      ∃ r : ObjRow, r.type ≠ .userobject ∧ s'.db.obj = s.db.obj ++ [r]) :
    Ends (op.exec env) s (fun _ s' => s'.FilesAgree) := by
  refine ((hk s).and op.exec_spec).mono fun _ s' ⟨hkeep, he⟩ => ?_
  rcases hobj s' he with ho | ⟨r, hr, ho⟩
  · exact hs.of_eq hkeep ho
  · exact hs.append hkeep hr ho

theorem CollectionStep.obj_cases {pid requested : UInt64} {source : Option UInt64}
    (h : CollectionStep env pid requested source s s') : s'.db.obj = s.db.obj ∨
      ∃ r : ObjRow, r.type ≠ .userobject ∧ s'.db.obj = s.db.obj ++ [r] := by
  cases h with
  | rejected hdb hic => exact .inl (by rw [hdb])
  | ran cid hpid hpart hpick hattr hcoll hobj =>
    rcases hobj with ⟨-, ho⟩ | ⟨-, ho⟩
    · exact .inr ⟨collectionRow pid cid, nofun, ho⟩
    · exact .inl ho

/-- **One command keeps table and files together.** -/
theorem FilesKept.step (h : FilesKept s) (henv : env.Reliable) {op : Op} (hop : op.SparesUserobjects s) :
    Ends (op.exec env) s (fun _ s' => FilesKept s') := by
  have hne : op ≠ .formatOsd := by
    rintro rfl
    exact hop
  suffices hfiles : Ends (op.exec env) s (fun _ s' => s'.FilesAgree) from
    (hfiles.and op.exec_spec).mono fun _ s' ⟨hf, he⟩ => ⟨h.zero.step (he.objStep hne), hf⟩
  have hid : (∀ s', op.effect env s s' → IdStep s s') → Ends (op.exec env) s (fun _ s' => s'.FilesAgree) :=
    fun hstep => op.exec_spec.mono fun _ s' he => h.files.idStep (hstep s' he)
  cases op with
  | create => exact osdCreate_agrees henv _ _ _ h.files
  | createAndWrite => exact osdCreateAndWrite_agrees henv _ _ _ _ _ _ _ h.files
  | createCollection =>
    exact agrees_of_effect h.files (keeps_osdCreateCollection _ _) fun _ he => CollectionStep.obj_cases he
  | createPartition =>
    refine agrees_of_effect h.files (keeps_osdCreatePartition _) fun s' he => ?_
    rcases PartitionStep.obj he with ho | ⟨-, -, ho⟩
    · exact .inl ho
    · exact .inr ⟨partitionRow _, nofun, ho⟩
  | createUserTrackingCollection =>
    exact agrees_of_effect h.files (keeps_osdCreateUserTrackingCollection _ _ _ _)
      fun _ he => CollectionStep.obj_cases he
  | remove => exact osdRemove_agrees henv h.files _ _
  | removeCollection pid cid fcr =>
    refine (osdRemoveCollection_spec pid cid fcr).mono fun _ s' he => ?_
    rcases he with rfl | ⟨-, -, hrem, hf, hs⟩
    · exact h.files
    · refine h.files.removes hf hs ?_
      rcases hrem with ho | hrem
      · exact .inl ho
      · exact .inr fun huser => hop huser hrem
  | removePartition pid =>
    refine (osdRemovePartition_spec pid).mono fun _ s' he => ?_
    rcases he with rfl | ⟨-, -, hf, hs⟩
    · exact h.files
    · refine h.files.removes hf hs (.inr fun huser => ?_)
      rcases h.zero _ huser rfl with ht | ht <;> cases ht
  | write => exact hid fun _ he => AttrStep.toIdStep he
  | setAttributes => exact hid fun _ he => SetStep.toIdStep he
  | getattrList => exact hid fun _ he => AttrStep.toIdStep he
  | getattrPage => exact hid fun _ he => AttrStep.toIdStep he
  | setMemberAttributes => exact hid fun _ he => AttrStep.toIdStep he
  | cas => exact hid fun _ he => AttrStep.toIdStep he
  | fa => exact hid fun _ he => AttrStep.toIdStep he
  | genCas => exact hid fun _ he => AttrStep.toIdStep he
  | formatOsd => exact absurd rfl hne

/-! ## Runs -/

/-- The runs that keep table and files together. -/
def FileRun (i : Step) (s _ : Target) : Prop := i.op.SparesUserobjects s ∧ i.env.Reliable

theorem Initial.filesKept (h : Initial s) : FilesKept s := by
  refine ⟨h.zeroRows, h.rootFreed, fun p o => ?_⟩
  rw [h.files, Db.HasType, h.obj, List.mem_singleton]
  constructor
  · intro hsome
    cases hsome
  · intro heq
    cases (congrArg ObjRow.type heq)

theorem Reachable.filesKept (h : Reachable FileRun s) : FilesKept s := by
  refine h.invariant (fun s hs => hs.initial.filesKept) fun env op s hi => ?_
  intro ret s' hrun hg
  exact hi.step hg.2 hg.1 ret s' hrun

/-- **The data file of an object exists if and only if its row does.** -/
theorem dataFiles_agree (h : Reachable FileRun s) (pid oid : UInt64) :
    (s.files pid oid).isSome ↔ s.db.HasType (bindInt64 pid) (bindInt64 oid) .userobject :=
  h.filesKept.files.agree pid oid

theorem Env.calm_reliable : Env.calm.Reliable := by
  refine ⟨?_, fun _ _ => rfl⟩
  rintro ⟨d, pid, oid, h | h | h⟩ <;> cases h

/-- Two objects, one of them removed. -/
theorem dataFiles_agree_removed :
    let s := calmRun [.createPartition 0, .create 0x10000 0 2, .remove 0x10000 0x10001]
    (s.files 0x10000 0x10000).isSome ↔
      s.db.HasType (bindInt64 0x10000) (bindInt64 0x10000) .userobject := by
  refine dataFiles_agree (.calmRun ?_) _ _
  exact ⟨by decide +kernel, ⟨trivial, Env.calm_reliable⟩,
    by decide +kernel, ⟨trivial, Env.calm_reliable⟩,
    by decide +kernel, ⟨trivial, Env.calm_reliable⟩, trivial⟩

/-- The commands that create and remove. -/
def Op.isNamespaceCommand : Op → Bool
  | .create .. | .createAndWrite .. | .remove .. | .createCollection .. | .removeCollection ..
  | .createPartition .. | .removePartition .. => true
  | _ => false

/-- REMOVE COLLECTION accepts the id of a user object and leaves its file behind. -/
theorem dataFile_stranded :
    ¬ ∀ s, Reachable (fun i _ _ => i.op.isNamespaceCommand = true ∧ i.env.Reliable) s →
      ∀ pid oid, (s.files pid oid).isSome ↔
        s.db.HasType (bindInt64 pid) (bindInt64 oid) .userobject := by
  intro h
  let ops : List Op := [.createPartition 0, .create 0x10000 0 1, .removeCollection 0x10000 0x10000 0]
  have hmeets : Meets (fun i _ _ => i.op.isNamespaceCommand = true ∧ i.env.Reliable) ops Target.fresh :=
    ⟨by decide +kernel, ⟨rfl, Env.calm_reliable⟩, by decide +kernel, ⟨rfl, Env.calm_reliable⟩,
      by decide +kernel, ⟨rfl, Env.calm_reliable⟩, trivial⟩
  have hall := h (calmRun ops) (.calmRun hmeets) 0x10000 0x10000
  revert hall
  decide +kernel

end OsdTarget
