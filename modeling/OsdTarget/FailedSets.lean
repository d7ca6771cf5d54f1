import OsdTarget.AttributeParams
import OsdTarget.Chunks
import OsdTarget.Retrieval
import OsdTarget.SetMembers
import OsdTarget.SetPairs

/-!
# Set lists that fail

`set_attr_list` brackets its walk by a transaction, and ends the transaction in the same way whether the
walk went through or not.  What was set before a refusal therefore stays.  A list is all or nothing exactly
when no pair that can be stored is followed by one that can be refused.
-/

namespace OsdTarget

open Base

variable {env : Env} {pid oid : UInt64} {indata : Mem} {isembedded : Bool} {s s' t : Target}
  {objs : List ObjRow} {p : SetPair} {ps : List SetPair}

/-! ## All or nothing -/

/-- The attributes, the memberships and the data files are as before. -/
structure Untouched (s s' : Target) : Prop where
  attr : s'.db.attr = s.db.attr
  coll : s'.db.coll = s.db.coll
  files : s'.files = s.files

/-- A failed list changes nothing. -/
def FailsClean (env : Env) (cmd : Command) (pid oid : UInt64) (isembedded : Bool)
    (numoid : UInt16) (fuel : Nat)
    (s : Target) : Prop :=
  Ends (setAttrList env cmd pid oid isembedded numoid fuel) s fun ret s' => ret ≠ .ok → Untouched s s'

/-- A database with this object table and nothing else. -/
def bareDb (objs : List ObjRow) : Db := ⟨objs, [], []⟩

/-- Nothing can go wrong any more once the data file has been resized: the pair does the same again, or it
is ignored as one about that object was before. -/
def SetPair.Repeats (p q : SetPair) (indata : Mem) (seen : List UInt64) : Prop :=
  q.Resizes ∧ q.1 = p.1 ∧ q.fileLen indata = p.fileLen indata ∨ q.Ignored ∧ q.1 ∈ seen

/-- The pairs that the tests admit are ignored, up to one that can be stored; that one is the last, or it
resizes a data file and the others repeat it.  `seen` are the objects of those ignored so far.  The system
id of the root is ignored too: nothing makes FORMAT OSD the current command. -/
def Harmless (pid : UInt64) (indata : Mem) (objs : List ObjRow) : List UInt64 → List SetPair → Prop
  | _, [] => True
  | seen, p :: ps => (bareDb objs).Allows pid indata p →
    (p.StoresRow False ∨ p.Points (bareDb objs) pid indata → ps = []) ∧
    (p.Resizes → ∀ q ∈ ps, (bareDb objs).Allows pid indata q ∧ p.Repeats q indata seen) ∧
    (p.Ignored → Harmless pid indata objs (p.1 :: seen) ps)

theorem Untouched.refl (s : Target) : Untouched s s := ⟨rfl, rfl, rfl⟩

theorem Target.shown_db (p : SetPair) : (s.shown t pid isembedded p).db = t.db := by
  unfold Target.shown
  split <;> rfl

theorem Target.shown_files (p : SetPair) : (s.shown t pid isembedded p).files = t.files := by
  unfold Target.shown
  split <;> rfl

theorem Target.shown_lookup (p : SetPair) (x y : UInt64) :
    (s.shown t pid isembedded p).lookup env x y = t.lookup env x y := by
  unfold Target.shown
  split <;> rfl

/-- No pair makes FORMAT OSD the current command. -/
theorem Target.shown_formatting (h : t.ccap.cdbSrvcAct ≠ OSD_FORMAT_OSD) (p : SetPair) :
    (s.shown t pid isembedded p).ccap.cdbSrvcAct ≠ OSD_FORMAT_OSD := by
  unfold Target.shown
  cases isembedded with
  | true => exact h
  | false => exact show (0 : UInt16) ≠ OSD_FORMAT_OSD by decide

theorem Db.Has.of_obj {d d' : Db} (hobj : d'.obj = d.obj) {x y : Int} (h : d.Has x y) : d'.Has x y := by
  unfold Db.Has
  rw [hobj]
  exact h

/-- The tests are about the object table. -/
theorem Db.Allows.of_obj {d d' : Db} (hobj : d'.obj = d.obj) (h : d.Allows pid indata p) :
    d'.Allows pid indata p where
  present := h.present.of_obj hobj
  typed := Db.objType_congr hobj ▸ h.typed
  settable := Db.objType_congr hobj ▸ h.settable
  modifiable := h.modifiable
  given := h.given
  info := h.info
  short := h.short

theorem SetPair.Points.of_obj {d d' : Db} (hobj : d'.obj = d.obj) (h : p.Points d pid indata) :
    p.Points d' pid indata :=
  ⟨h.1, h.2.1, h.2.2.1, h.2.2.2.of_obj hobj⟩

theorem SetPair.StoresRow.mono {f f' : Prop} (h : p.StoresRow f) (hf : f → f') : p.StoresRow f' :=
  ⟨h.1, h.2.1, fun hp => (h.2.2 hp).imp_right fun h => ⟨h.1, hf h.2.1, h.2.2⟩⟩

/-! ## Harmless lists -/

theorem resized_length (c : List UInt8) (len : UInt64) : (resized c len).length = len.toNat := by
  unfold resized
  rw [List.length_append, List.length_take, List.length_replicate]
  omega

/-- The state after the file of an accepted pair has been resized. -/
theorem resized_shown {c : List UInt8} (hc : s.lookup env pid p.1 = some c) :
    ((s.shown (s.setFile pid p.1 (some (resized c (p.fileLen indata)))) pid isembedded p).lookup
      env pid p.1).isSome := by
  rw [Target.shown_lookup, Target.lookup_setFile hc]
  rfl

/-- A length that could be set once can be set again. -/
theorem runPairs_again {d : Db} {seen : List UInt64} (hanswers : env.Answers pid p.1 d)
    (hseen : ∀ x ∈ seen, env.Answers pid x d)
    (hsys : env.sysFails (.truncate pid p.1 (p.fileLen indata)) = false)
    (hall : ∀ q ∈ ps, d.Allows pid indata q ∧ p.Repeats q indata seen)
    (hdb : s.db = d) (hfile : (s.lookup env pid p.1).isSome) :
    ∃ s', runPairs env pid indata isembedded ps s = some (.ok, s') := by
  induction ps generalizing s with
  | nil => exact ⟨s, rfl⟩
  | cons q qs ih =>
    obtain ⟨⟨hallows, hrepeats⟩, hrest⟩ := List.forall_mem_cons.1 hall
    subst hdb
    have hstep : ∃ v, setPair env pid indata isembedded q s = some (.ok, v) ∧ v.db = s.db ∧
        (v.lookup env pid p.1).isSome := by
      rcases hrepeats with ⟨hresizes, heq, hlen⟩ | ⟨hignored, hmem⟩
      · rw [← heq] at hanswers hfile
        rw [← heq, ← hlen] at hsys
        obtain ⟨c, hc⟩ := Option.isSome_iff_exists.1 hfile
        refine ⟨_, setPair_accepted ⟨hanswers, hallows, _, .resized hresizes c hc hsys, rfl⟩,
          Target.shown_db q, ?_⟩
        rw [← heq]
        exact resized_shown hc
      · refine ⟨_, setPair_accepted ⟨hseen q.1 hmem, hallows, _, .ignored hignored, rfl⟩,
          Target.shown_db q, ?_⟩
        rwa [Target.shown_lookup]
    obtain ⟨v, hrun, hdb, hfile⟩ := hstep
    obtain ⟨w, hw⟩ := ih hrest hdb hfile
    refine ⟨w, ?_⟩
    unfold runPairs
    rw [bind_of_some hrun]
    exact hw

/-- A harmless list is all or nothing. -/
theorem Harmless.keeps {seen : List UInt64} (h : Harmless pid indata objs seen ps)
    (hobj : s.db.obj = objs) (hformat : s.ccap.cdbSrvcAct ≠ OSD_FORMAT_OSD)
    (hseen : ∀ x ∈ seen, env.Answers pid x s.db) :
    Ends (runPairs env pid indata isembedded ps) s fun ret s' => ret ≠ .ok → Untouched s s' := by
  induction ps generalizing s seen with
  | nil => exact ends_pure.2 fun h => absurd rfl h
  | cons p ps ih =>
    refine ends_call setPair_inv fun ret v hv => ?_
    rcases hv with ⟨hno, rfl⟩ | ⟨rfl, hanswers, hallows, t, hst, rfl⟩
    · exact ends_ite_of (fun _ => ends_pure.2 fun _ => .refl v) fun h => absurd hno h
    refine ends_ite_of (fun h => absurd rfl h) fun _ => ?_
    obtain ⟨hstored, hresizes, hignored⟩ := h (hallows.of_obj hobj.symm)
    cases hst with
    | row hrow hdms =>
      obtain rfl := hstored (.inl (hrow.mono hformat))
      exact ends_pure.2 fun h => absurd rfl h
    | pointed hp hquery hdms t ht =>
      obtain rfl := hstored (.inr (hp.of_obj hobj.symm))
      exact ends_pure.2 fun h => absurd rfl h
    | resized hr c hc hsys =>
      have hall : ∀ q ∈ ps, s.db.Allows pid indata q ∧ p.Repeats q indata seen := fun q hq =>
        ⟨(hresizes hr q hq).1.of_obj hobj, (hresizes hr q hq).2⟩
      have hdb : (s.shown (s.setFile pid p.1 (some (resized c (p.fileLen indata)))) pid isembedded p).db
          = s.db :=
        Target.shown_db p
      obtain ⟨v, hv⟩ := runPairs_again hanswers hseen hsys hall hdb (resized_shown hc)
      exact (ends_of_run hv).2 fun h => absurd rfl h
    | ignored hi =>
      have hdb : (s.shown s pid isembedded p).db = s.db := Target.shown_db p
      refine (ih (hignored hi) ((congrArg Db.obj hdb).trans hobj) (Target.shown_formatting hformat p)
        ?_).mono fun ret v hv hret => ?_
      · rw [hdb]
        exact List.forall_mem_cons.2 ⟨hanswers, hseen⟩
      · obtain ⟨hattr, hcoll, hfiles⟩ := hv hret
        rw [Target.shown_db] at hattr hcoll
        rw [Target.shown_files] at hfiles
        exact ⟨hattr, hcoll, hfiles⟩

/-! ## Other lists -/

theorem halts_osdSetAttributes (page number : UInt32) (val : Mem) (len : UInt16) :
    Halts (osdSetAttributes env pid oid page number (some val) len isembedded) := by
  have hspecial : ∀ m : OsdM Ret, Halts m →
      Halts (m >>= fun r => if r = .ok then pure .ok else pure (cdbErr pid oid)) :=
    fun m hm => halts_bind hm fun _ => halts_ite (halts_pure _) (halts_pure _)
  have huiap : Halts (setUiap env pid oid number (some val) len) :=
    halts_ite (halts_dbExecDms _) (halts_ite
      (halts_bind (halts_truncateFile _ _ _) fun _ => halts_ite (halts_pure _) (halts_pure _))
        (halts_pure _))
  have hset : Halts (attrSetAttr env pid oid ROOT_INFO_PG number (some val) len) :=
      halts_attrSetAttr _ _ _ _ _ _
  have hriap : Halts (setRiap env pid oid number (some val) len) :=
    halts_bind halts_get fun _ => halts_ite
      (halts_ite (halts_pure _) (halts_ite (halts_pure _) hset)) hset
  have hcid : Halts (collGetCid env pid oid number 0) := by
    unfold collGetCid
    exact halts_dbExecQuery _ _ _
  have hcap : Halts (setCap env pid oid number (some val) len) :=
    halts_ite (halts_pure _) (halts_ite
      (halts_bind hcid fun _ => halts_ite (halts_pure _)
        (halts_bind (halts_dbExecDms _) fun _ => halts_ite (halts_pure _) (halts_pure _)))
      (halts_ite (halts_pure _) (halts_bind (halts_dbExecQuery _ _ _) fun _ => halts_ite (halts_pure _)
        (halts_bind (halts_dbExecDms _) fun _ => halts_ite (halts_pure _) (halts_pure _)))))
  have hstore : Halts (storeAttribute env pid oid page number (some val) len) :=
    halts_ite (hspecial _ huiap) (halts_ite (hspecial _ hriap) (halts_ite (hspecial _ hcap)
      (halts_ite (hspecial _ (halts_dbExecDms _))
        (halts_bind (halts_dbExecDms _) fun _ => halts_ite (halts_pure _) (halts_pure _)))))
  refine halts_bind (halts_dbExecQuery _ _ _) fun _ => halts_ite (halts_pure _) ?_
  refine halts_bind (halts_getObjType _ _) fun _ => ?_
  refine halts_ite (halts_pure _) (halts_ite (halts_pure _)
    (halts_ite (halts_pure _) (halts_ite (halts_pure _)
    (halts_ite (halts_pure _) (halts_ite (halts_pure _) ?_)))))
  refine halts_bind hstore fun _ => halts_ite (halts_pure _) (halts_ite ?_ (halts_pure _))
  exact halts_bind (halts_modify _) fun _ => halts_pure _

/-- Content longer than a set list can ask for. -/
def longFile : List UInt8 := List.replicate (2 ^ 16) 0

theorem longFile_length : longFile.length = 2 ^ 16 := List.length_replicate

/-- A device with this object table, empty tables besides, and every data file long. -/
structure Target.Blank (s : Target) (objs : List ObjRow) : Prop where
  db : s.db = bareDb objs
  files : s.files = fun _ _ => some longFile
  root : s.rootFreed = false

theorem setPair_unanswered (h : env.queryFails (.objIspresent (bindInt64 pid) (bindInt64 p.1)) s.db =
    true) :
    setPair env pid indata isembedded p s = some (cdbErr pid p.1, s) := by
  have hquery : objIspresent env pid p.1 s = some ((.err .osdError, false), s) :=
    congrFun (if_pos h : (ite _ _ _ : OsdM _) = _) s
  exact (bind_of_some hquery).trans rfl

/-- Nothing fails while the tables are those of `d`, and no query is answered afterwards. -/
def Env.silentAfter (d : Db) : Env := { Env.calm with queryFails := fun _ d' => decide (d' ≠ d) }

/-- The query is about one of these objects, or about no object alone. -/
def Query.about (oids : List UInt64) : Query → Bool
  | .objIspresent _ o | .objGetType _ o => oids.any fun x => bindInt64 x = o
  | _ => true

/-- Nothing can be stored, no data file resized but this one, to this length, and nothing found out about
other objects. -/
def Env.resizesOnly (pid oid len : UInt64) (seen : List UInt64) : Env :=
  { Env.calm with
    dmsFails := fun _ _ => true
    queryFails := fun x _ => !x.about (oid :: seen)
    sysFails := fun c => decide (c ≠ .truncate pid oid len) }

/-- There is a device on which the pairs go wrong. -/
def Spoils (env : Env) (pid : UInt64) (indata : Mem) (isembedded : Bool) (ps : List SetPair)
    (s : Target) : Prop :=
  ∃ ret s', runPairs env pid indata isembedded ps s = some (ret, s') ∧ ret ≠ .ok ∧ ¬ Untouched s s'

/-- A row or a membership is stored, and the next pair is refused. -/
theorem spoils_stored {q : SetPair} {qs : List SetPair} (hs : s.Blank objs)
    (hallows : (bareDb objs).Allows pid indata p)
    (h : p.StoresRow (s.ccap.cdbSrvcAct = OSD_FORMAT_OSD) ∨ p.Points (bareDb objs) pid indata) :
    Spoils (.silentAfter (bareDb objs)) pid indata isembedded (p :: q :: qs) s := by
  have hquery : ∀ x, (Env.silentAfter (bareDb objs)).queryFails x s.db = false := fun x =>
    decide_eq_false (not_not.2 hs.db)
  have hstored : ∃ t, PairStored (.silentAfter (bareDb objs)) pid indata p s t ∧
      (t.db.attr ≠ [] ∨ t.db.coll ≠ []) := by
    rcases h with hrow | hp
    · refine ⟨_, .row hrow rfl, .inl fun hnil => ?_⟩
      have hmem : p.row pid indata ∈ (s.withAttr (p.row pid indata)).db.attr :=
        mem_insertReplace.2 (.inr rfl)
      rw [hnil] at hmem
      exact nomatch hmem
    · have hcoll : insertColl (p.pointer pid indata) s.db.coll = some [p.pointer pid indata] := by
        rw [hs.db]
        rfl
      exact ⟨_, .pointed (hs.db.symm ▸ hp) (hquery _) rfl _ hcoll, .inr (List.cons_ne_nil _ _)⟩
  obtain ⟨t, ht, hfull⟩ := hstored
  have hrun : setPair _ pid indata isembedded p s = some (.ok, s.shown t pid isembedded p) :=
    setPair_accepted ⟨⟨hquery _, fun _ => hquery _⟩, hs.db.symm ▸ hallows, t, ht, rfl⟩
  have hne : (s.shown t pid isembedded p).db ≠ bareDb objs := by
    rw [Target.shown_db]
    intro heq
    rw [heq] at hfull
    exact hfull.elim (absurd rfl) (absurd rfl)
  have hrefused : setPair (.silentAfter (bareDb objs)) pid indata isembedded q (s.shown t pid isembedded p)
      = some (cdbErr pid q.1, s.shown t pid isembedded p) := setPair_unanswered (decide_eq_true hne)
  refine ⟨cdbErr pid q.1, s.shown t pid isembedded p, ?_, nofun, fun hsame => ?_⟩
  · unfold runPairs
    refine (bind_of_some hrun).trans ?_
    unfold runPairs
    exact (bind_of_some hrefused).trans rfl
  · obtain ⟨hattr, hcoll, -⟩ := hsame
    rw [Target.shown_db, hs.db] at hattr hcoll
    rw [hattr, hcoll] at hfull
    exact hfull.elim (absurd rfl) (absurd rfl)

theorem resizesOnly_answers {len x : UInt64} {seen : List UInt64} {d : Db} :
    (Env.resizesOnly pid oid len seen).Answers pid x d ↔ x ∈ oid :: seen := by
  have habout : ∀ y, (!Query.about (oid :: seen) (.objIspresent y (bindInt64 x))) = false ↔
      x ∈ oid :: seen := by
    intro y
    simp only [Query.about, Bool.not_eq_false', List.any_eq_true, decide_eq_true_eq, bindInt64_inj]
    exact ⟨fun ⟨_, hmem, heq⟩ => heq ▸ hmem, fun h => ⟨x, h, rfl⟩⟩
  exact ⟨fun h => (habout _).1 h.present, fun h => ⟨(habout _).2 h, fun _ => (habout 0).2 h⟩⟩

/-- In these surroundings no list changes that length, and one that goes through repeats it. -/
theorem resizesOnly_run {seen : List UInt64} (hobj : s.db.obj = objs) {c : List UInt8}
    (hc : s.files pid p.1 = some c) (hlen : c.length = (p.fileLen indata).toNat) :
    ∃ ret s' c', runPairs (.resizesOnly pid p.1 (p.fileLen indata) seen) pid indata isembedded ps s =
      some (ret, s') ∧
      s'.files pid p.1 = some c' ∧ c'.length = (p.fileLen indata).toNat ∧ (ret = .ok → ∀ q ∈ ps,
        (bareDb objs).Allows pid indata q ∧ (p.Repeats q indata seen ∨ q.Ignored ∧ q.1 = p.1)) := by
  induction ps generalizing s c with
  | nil => exact ⟨.ok, s, c, rfl, hc, hlen, fun _ _ h => absurd h List.not_mem_nil⟩
  | cons q qs ih =>
    have hhalts : Halts (setPair (.resizesOnly pid p.1 (p.fileLen indata) seen) pid indata isembedded q) :=
      halts_osdSetAttributes _ _ _ _
    obtain ⟨ret, v, hrun, hv⟩ := setPair_inv.of_halts hhalts
    rcases hv with ⟨hno, rfl⟩ | ⟨rfl, hanswers, hallows, t, hst, rfl⟩
    · refine ⟨ret, s, c, ?_, hc, hlen, fun h => absurd h hno⟩
      unfold runPairs
      exact (bind_of_some hrun).trans (congrFun (if_pos hno) s)
    have hstep : ∃ c', t.files pid p.1 = some c' ∧ c'.length = (p.fileLen indata).toNat ∧ t.db = s.db ∧
        (p.Repeats q indata seen ∨ q.Ignored ∧ q.1 = p.1) := by
      cases hst with
      | row hrow hdms => cases hdms
      | pointed hp hquery hdms t ht => cases hdms
      | ignored hi =>
        refine ⟨c, hc, hlen, rfl, ?_⟩
        exact (List.mem_cons.1 (resizesOnly_answers.1 hanswers)).symm.imp (.inr ⟨hi, ·⟩) (⟨hi, ·⟩)
      | resized hr c' hc' hsys =>
        have hsame : q.1 = p.1 ∧ q.fileLen indata = p.fileLen indata := by
          have hcall := not_not.1 (of_decide_eq_false hsys)
          rw [Syscall.truncate.injEq] at hcall
          exact hcall.2
        refine ⟨_, if_pos ⟨rfl, hsame.1.symm⟩, ?_, rfl, .inl (.inl ⟨hr, hsame.1, hsame.2⟩)⟩
        rw [resized_length, hsame.2]
    obtain ⟨c', hfile, hlen', hdb, hrepeats⟩ := hstep
    have hshown : (s.shown t pid isembedded q).db = s.db := (Target.shown_db q).trans hdb
    obtain ⟨ret, w, c'', hw, hfile', hlen'', hall⟩ := ih (s := s.shown t pid isembedded q)
      ((congrArg Db.obj hshown).trans hobj) (by rw [Target.shown_files]; exact hfile) hlen'
    refine ⟨ret, w, c'', ?_, hfile', hlen'', fun hok =>
      List.forall_mem_cons.2 ⟨⟨hallows.of_obj hobj.symm, hrepeats⟩, hall hok⟩⟩
    unfold runPairs
    exact (bind_of_some hrun).trans hw

/-- An object whose data file is resized is a user object. -/
theorem Db.Allows.userobject {d : Db} (h : d.Allows pid indata p) (hr : p.Resizes) :
    d.objType pid p.1 = .userobject := by
  have hset := h.settable
  rw [hr.1] at hset
  revert hset
  cases d.objType pid p.1 <;> decide

/-- An object on which pairs are ignored is the root. -/
theorem Db.Allows.root {d : Db} (h : d.Allows pid indata p) (hi : p.Ignored) :
    d.objType pid p.1 = .root := by
  have hset := h.settable
  rw [hi.1] at hset
  revert hset
  cases d.objType pid p.1 <;> decide

theorem spoils_resized {seen : List UInt64} (hs : s.Blank objs)
    (hallows : (bareDb objs).Allows pid indata p)
    (hr : p.Resizes) (h : ¬ ∀ q ∈ ps, (bareDb objs).Allows pid indata q ∧ p.Repeats q indata seen) :
    Spoils (.resizesOnly pid p.1 (p.fileLen indata) seen) pid indata isembedded (p :: ps) s := by
  have hc : s.lookup (.resizesOnly pid p.1 (p.fileLen indata) seen) pid p.1
      = some longFile := by
    unfold Target.lookup
    rw [hs.root, hs.files]
    rfl
  have hst : PairStored (.resizesOnly pid p.1 (p.fileLen indata) seen) pid indata p s _ :=
    .resized hr longFile hc (decide_eq_false (not_not.2 rfl))
  have hrun : setPair _ pid indata isembedded p s = some (.ok, _) := setPair_accepted
    ⟨resizesOnly_answers.2 List.mem_cons_self, hs.db.symm ▸ hallows, _, hst, rfl⟩
  have hfile : (s.shown (s.setFile pid p.1 (some (resized longFile (p.fileLen indata)))) pid
      isembedded p).files
      pid p.1 = some (resized longFile (p.fileLen indata)) := by
    rw [Target.shown_files]
    exact if_pos ⟨rfl, rfl⟩
  have hdb : (s.shown (s.setFile pid p.1 (some (resized longFile (p.fileLen indata)))) pid
      isembedded p).db = s.db :=
    Target.shown_db p
  have hobj : (s.shown (s.setFile pid p.1 (some (resized longFile (p.fileLen indata)))) pid
      isembedded p).db.obj
      = objs := congrArg Db.obj (hdb.trans hs.db)
  obtain ⟨ret, v, c, hv, hfile, hlen, hall⟩ : ∃ ret v c, runPairs _ pid indata isembedded ps _ =
      some (ret, v) ∧ _ :=
    resizesOnly_run hobj hfile (resized_length _ _)
  refine ⟨ret, v, ?_, fun hok => h fun q hq => ?_, fun hsame => ?_⟩
  · unfold runPairs
    exact (bind_of_some hrun).trans hv
  · obtain ⟨hq, hrepeats | ⟨hi, heq⟩⟩ := hall hok q hq
    · exact ⟨hq, hrepeats⟩
    · have hroot := hq.root hi
      rw [heq, hallows.userobject hr] at hroot
      cases hroot
  · rw [hsame.files, hs.files] at hfile
    cases hfile
    rw [longFile_length] at hlen
    have hlt : (p.fileLen indata).toNat < 2 ^ 16 := by
      unfold SetPair.fileLen
      rw [UInt16.toNat_toUInt64]
      exact UInt16.toNat_lt _
    omega

/-- **A list that is not harmless goes wrong on some device.** -/
theorem Harmless.spoils {seen : List UInt64} (h :
    ¬ Harmless pid indata objs seen ps) :
    ∃ env : Env, (∀ x ∈ seen, env.Answers pid x (bareDb objs)) ∧ ∀ s : Target, s.Blank objs →
      Spoils env pid indata isembedded ps s := by
  induction ps generalizing seen with
  | nil => exact absurd trivial h
  | cons p ps ih =>
    obtain ⟨hallows, h⟩ := Classical.not_imp.1 h
    by_cases hstored : p.StoresRow False ∨ p.Points (bareDb objs) pid indata → ps = []
    · by_cases hresizes : p.Resizes → ∀ q ∈ ps, (bareDb objs).Allows pid indata q ∧ p.Repeats q indata seen
      · obtain ⟨hi, hrest⟩ := Classical.not_imp.1 fun hi => h ⟨hstored, hresizes, hi⟩
        obtain ⟨env, hanswers, henv⟩ := ih hrest
        refine ⟨env, fun x hx => hanswers x (List.mem_cons_of_mem _ hx), fun s hs => ?_⟩
        have hrun : setPair env pid indata isembedded p s = some (.ok, s.shown s pid isembedded p) :=
          setPair_accepted ⟨hs.db.symm ▸ hanswers p.1 List.mem_cons_self, hs.db.symm ▸ hallows, s,
            .ignored hi, rfl⟩
        obtain ⟨ret, v, hv, hno, hchanged⟩ := henv (s.shown s pid isembedded p)
          ⟨(Target.shown_db p).trans hs.db, (Target.shown_files p).trans hs.files, by
            unfold Target.shown
            split <;> exact hs.root⟩
        refine ⟨ret, v, ?_, hno, fun hsame => hchanged ?_⟩
        · unfold runPairs
          exact (bind_of_some hrun).trans hv
        · obtain ⟨hattr, hcoll, hfiles⟩ := hsame
          exact ⟨by rw [Target.shown_db]; exact hattr, by rw [Target.shown_db]; exact hcoll,
            by rw [Target.shown_files]; exact hfiles⟩
      · obtain ⟨hr, hall⟩ := Classical.not_imp.1 hresizes
        exact ⟨_, fun x hx => resizesOnly_answers.2 (List.mem_cons_of_mem _ hx),
          fun s hs => spoils_resized hs hallows hr hall⟩
    · obtain ⟨hst, hne⟩ := Classical.not_imp.1 hstored
      obtain ⟨q, qs, rfl⟩ := List.exists_cons_of_ne_nil hne
      refine ⟨.silentAfter (bareDb objs), fun x _ => ?_, fun s hs =>
        spoils_stored hs hallows (hst.imp_left fun h => h.mono False.elim)⟩
      exact ⟨decide_eq_false (not_not.2 rfl), fun _ => decide_eq_false (not_not.2 rfl)⟩

/-! ## `set_attr_list` -/

/-- What the walk comes to, and what is checked before it. -/
theorem setAttrList_pairs (env : Env) (cmd : Command) (pid oid : UInt64) (isembedded : Bool)
    (numoid : UInt16)
    (fuel : Nat) : (∃ ret, setAttrList env cmd pid oid isembedded numoid fuel = pure ret ∧
      cmd.setPairs oid numoid fuel = []) ∨
    ∃ ended : Bool, setAttrList env cmd pid oid isembedded numoid fuel = withinTxn env (do
      let ret ← runPairs env pid cmd.indata isembedded (cmd.setPairs oid numoid fuel)
      if ret ≠ .ok then
        return ret
      if ended then return .ok else never) := by
  unfold setAttrList Command.setPairs
  cases setListCheck cmd with
  | nothing => exact .inl ⟨_, rfl, rfl⟩
  | reject asc => exact .inl ⟨_, rfl, rfl⟩
  | use off len => exact .inr ⟨_, congrArg (withinTxn env) (setAttrListLoop_eq _ _ _ _ _)⟩

/-- What holds of a bracketed program holds of the program. -/
theorem Ends.of_withinTxn {α : Type} {m : OsdM α} {Q : α → Target → Prop} (h : Ends (withinTxn env m) s Q) :
    ∃ b l, Ends m { s with inTxn := b, txnCalls := l } fun a t => ∃ b l,
      Q a { t with inTxn := b, txnCalls := l } := by
  have hbracket : ∀ (c : OsdM Ret) (s : Target), Halts c →
      (∀ {Q : Ret → Target → Prop}, (∀ ret b l, Q ret { s with inTxn := b, txnCalls := l }) → Ends c s Q) →
      ∃ ret b l, c s = some (ret, { s with inTxn := b, txnCalls := l }) := by
    intro c s hhalts hends
    obtain ⟨ret, s', hrun⟩ := hhalts s
    have hform : Ends c s fun _ t => ∃ b l, t = { s with inTxn := b, txnCalls := l } :=
      hends fun _ b l => ⟨b, l, rfl⟩
    obtain ⟨b, l, rfl⟩ := hform _ _ hrun
    exact ⟨ret, b, l, hrun⟩
  obtain ⟨ret, b, l, hbegin⟩ := hbracket (osdBeginTxn env) s halts_osdBeginTxn osdBeginTxn_ends
  refine ⟨b, l, fun a t hrun => ?_⟩
  have hrest := ends_bind.1 (ends_bind.1 h _ _ hbegin) _ _ hrun
  obtain ⟨ret', b', l', hend⟩ := hbracket (osdEndTxn env) t halts_osdEndTxn osdEndTxn_ends
  exact ⟨b', l', ends_pure.1 (ends_bind.1 hrest _ _ hend)⟩

/-- Attribute 1 of the first page outside the standard ones, then an attribute that cannot be set. -/
def halfValid : Command where
  cdb := blobMem (List.replicate 68 0 ++ htonl 56)
  getsetCdbfmt := GETLIST_SETLIST
  retrievedAttrOff := 0
  indata := blobMem ([9, 0, 0, 0, 0, 0, 0, 0] ++
    (htonl 0x10000 ++ htonl 1 ++ List.replicate 6 0 ++ htons 1 ++ htonll 0x0700000000000000) ++
    (htonl 0x10000 ++ htonl 0xFFFFFFFF ++ List.replicate 6 0 ++ htons 1 ++ htonll 0x0700000000000000))
  inlen := 56
  hasOutdata := false

end OsdTarget
