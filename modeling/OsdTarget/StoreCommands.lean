import OsdTarget.Base.ObjectStore
import OsdTarget.Base.Simulation
import OsdTarget.Punch
import OsdTarget.ReportedAttributes
import OsdTarget.TrackingCollections

/-!
# The device as an object store

What the device is for: a store of partitions, collections and objects, in which a command that answers
OSD_OK does to the names and contents what it is asked for, and another one nothing, unless it is a write
that got part of the way.  `Implements` relates the device to such a store; each command takes related
states to related states.
-/

namespace OsdTarget

open Base

variable {env : Env} {s t : Target} {pid oid : UInt64}

/-! ## The device and its store -/

abbrev Store := ObjectStore UInt64 (List UInt8)

/-- The object table names the partitions and the collections, the data files are the objects. -/
structure Implements (s : Target) (S : Store) : Prop where
  partition : ∀ p, p ∈ S.partitions ↔ p ≠ 0 ∧ s.db.Has (bindInt64 p) 0
  collection : ∀ p o, S.entry p o = some .collection ↔ s.db.HasType (bindInt64 p) (bindInt64 o) .collection
  object : ∀ p o c, S.entry p o = some (.object c) ↔ s.files p o = some c

/-- What the commands rely on: table and files agree, ids are in range, and the root is there. -/
structure Kept (s : Target) : Prop extends FilesKept s where
  ids : IdsInRange s
  root : s.db.Has 0 0

variable {S : Store}

/-- An id without a row names nothing. -/
theorem Implements.free (h : Implements s S) (hs : s.FilesAgree)
    (hfree : ¬ s.db.Has (bindInt64 pid) (bindInt64 oid)) : S.entry pid oid = none := by
  cases he : S.entry pid oid with
  | none => rfl
  | some e =>
    cases e with
    | collection => exact absurd ((h.collection pid oid).1 he).has hfree
    | object c => exact absurd ((hs.agree pid oid).1 (by rw [(h.object pid oid c).1 he]; rfl)).has hfree

/-- The rows and the files say it all. -/
theorem Implements.of_rows (h : Implements s S) (hrows : ∀ r, r ∈ t.db.obj ↔ r ∈ s.db.obj)
    (hfiles : t.files = s.files) : Implements t S where
  partition p := by
    rw [h.partition p]
    simp only [Db.Has, hrows]
  collection p o := (h.collection p o).trans (hrows _).symm
  object p o c := by rw [h.object, hfiles]

theorem Implements.of_eq (h : Implements s S) (hobj : t.db.obj = s.db.obj) (hfiles : t.files = s.files) :
    Implements t S :=
  h.of_rows (fun _ => by rw [hobj]) hfiles

/-- A file that is there gets another content. -/
theorem Implements.rewrite (h : Implements s S) {c : List UInt8} (c' : List UInt8)
    (hfile : s.files pid oid = some c) (hobj : t.db.obj = s.db.obj)
    (hfiles : t.files = (s.setFile pid oid (some c')).files) : Implements t (S.rewrite pid oid c') := by
  have hentry := (h.object pid oid c).2 hfile
  have hcases : ∀ p o e, (S.rewrite pid oid c').entry p o = some e ↔
      if p = pid ∧ o = oid then e = .object c' else S.entry p o = some e := by
    intro p o e
    simp only [ObjectStore.rewrite]
    split
    · rename_i hk
      rw [hk.1, hk.2, hentry, Option.map_some, Option.some_inj]
      exact eq_comm
    · rfl
  refine ⟨fun p => (h.partition p).trans (by rw [Db.Has, Db.Has, hobj]), fun p o => ?_, fun p o b => ?_⟩
  · rw [hcases, Db.HasType, hobj]
    refine Iff.trans ?_ (h.collection p o)
    split
    · rename_i hk
      rw [hk.1, hk.2, hentry]
      simp
    · rfl
  · rw [hcases, hfiles, Target.setFile_files]
    split
    · exact ⟨fun he => congrArg some (StoreEntry.object.inj he).symm,
        fun he => congrArg StoreEntry.object (Option.some.inj he).symm⟩
    · exact h.object p o b

/-- New rows come, none of them of a partition, and with them the ids name the like of `e`. -/
theorem Implements.add (h : Implements s S) {ids : List UInt64} {e : StoreEntry (List UInt8)}
    {new : List ObjRow} (hp : pid ∈ S.partitions) (hfree : ∀ o ∈ ids, S.entry pid o = none)
    (hobj : t.db.obj = s.db.obj ++ new) (hne : ∀ r ∈ new, r.oid ≠ 0)
    (hcoll : ∀ p o, ⟨bindInt64 p, bindInt64 o, .collection⟩ ∈ new ↔
      e = .collection ∧ p = pid ∧ o ∈ ids)
    (hfiles : ∀ p o c, t.files p o = some c ↔
      if p = pid ∧ o ∈ ids then e = .object c else s.files p o = some c) :
    Implements t (S.add pid ids e hp) := by
  have hcases : ∀ p o e', (S.add pid ids e hp).entry p o = some e' ↔
      if p = pid ∧ o ∈ ids then e = e' else S.entry p o = some e' := by
    intro p o e'
    simp only [ObjectStore.add]
    split
    · exact Option.some_inj
    · rfl
  refine ⟨fun p => (h.partition p).trans (and_congr_right fun _ => ?_), fun p o => ?_, fun p o c => ?_⟩
  · rw [Db.Has, Db.Has, hobj]
    refine exists_congr fun r => ⟨fun hr => ⟨List.mem_append_left _ hr.1, hr.2⟩, fun hr => ⟨?_, hr.2⟩⟩
    exact (List.mem_append.1 hr.1).resolve_right fun hnew => hne r hnew hr.2.2
  · rw [hcases, Db.HasType, hobj, List.mem_append, hcoll]
    split
    · rename_i hk
      refine ⟨fun he => .inr ⟨he, hk⟩, fun hor => hor.elim (fun hold => ?_) And.left⟩
      have hentry := (h.collection p o).2 hold
      rw [hk.1, hfree o hk.2] at hentry
      cases hentry
    · rename_i hk
      rw [h.collection p o]
      exact (or_iff_left fun hnew => hk hnew.2).symm
  · rw [hcases, hfiles]
    split
    · rfl
    · exact h.object p o c

/-- The rows and the file of an id that is none of a partition go. -/
theorem Implements.drop (h : Implements s S) (hoid : oid ≠ 0)
    (hobj : t.db.obj = deleteWhere (fun r => r.pid = bindInt64 pid ∧ r.oid = bindInt64 oid) s.db.obj)
    (hfiles : t.files = (s.setFile pid oid none).files) : Implements t (S.drop pid oid) := by
  have hcases : ∀ p o e, (S.drop pid oid).entry p o = some e ↔
      ¬ (p = pid ∧ o = oid) ∧ S.entry p o = some e := by
    intro p o e
    simp only [ObjectStore.drop]
    split
    · rename_i hk
      simp [hk]
    · rename_i hk
      exact (and_iff_right hk).symm
  have hkey : ∀ p o : UInt64, (bindInt64 p = bindInt64 pid ∧ bindInt64 o = bindInt64 oid) ↔
      p = pid ∧ o = oid := fun p o => by rw [bindInt64_inj, bindInt64_inj]
  refine ⟨fun p => (h.partition p).trans (and_congr_right fun _ => ?_), fun p o => ?_, fun p o c => ?_⟩
  · simp only [Db.Has, hobj, mem_deleteWhere]
    refine exists_congr fun r => ⟨fun hr => ⟨⟨hr.1, fun hk => ?_⟩, hr.2⟩, fun hr => ⟨hr.1.1, hr.2⟩⟩
    have hzero : bindInt64 oid = bindInt64 0 := hk.2.symm.trans hr.2.2
    exact hoid (bindInt64_inj.1 hzero)
  · rw [hcases, Db.HasType, hobj, mem_deleteWhere, hkey, h.collection, and_comm]
    rfl
  · rw [hcases, hfiles, Target.setFile_files, h.object]
    split
    · rename_i hk
      simp [hk]
    · rename_i hk
      exact and_iff_right hk

/-- The row of a partition comes. -/
theorem Implements.addPartition (h : Implements s S) (hpid : pid ≠ 0)
    (hobj : t.db.obj = s.db.obj ++ [partitionRow pid]) (hfiles : t.files = s.files) :
    Implements t (S.addPartition pid) := by
  refine ⟨fun p => ?_, fun p o => ?_, fun p o c => (h.object p o c).trans (by rw [hfiles])⟩
  · show p = pid ∨ p ∈ S.partitions ↔ _
    rw [h.partition p, Db.Has, Db.Has, hobj]
    constructor
    · rintro (rfl | ⟨hp, r, hr, hk⟩)
      · exact ⟨hpid, partitionRow p, List.mem_append_right _ (List.mem_singleton.2 rfl), rfl, rfl⟩
      · exact ⟨hp, r, List.mem_append_left _ hr, hk⟩
    · rintro ⟨hp, r, hr, hk⟩
      rcases List.mem_append.1 hr with hr | hr
      · exact .inr ⟨hp, r, hr, hk⟩
      · rw [List.mem_singleton.1 hr] at hk
        exact .inl (bindInt64_inj.1 hk.1).symm
  · refine (h.collection p o).trans ?_
    rw [Db.HasType, Db.HasType, hobj, List.mem_append, List.mem_singleton]
    exact ⟨.inl, fun hor => hor.resolve_right fun heq => by simp [partitionRow] at heq⟩

/-- The row of a partition goes. -/
theorem Implements.dropPartition (h : Implements s S) (hzero : ZeroRows s.db)
    (hempty : ∀ o, S.entry pid o = none)
    (hobj : t.db.obj = deleteWhere (fun r => r.pid = bindInt64 pid ∧ r.oid = 0) s.db.obj)
    (hfiles : t.files = s.files) : Implements t (S.dropPartition pid hempty) := by
  refine ⟨fun p => ?_, fun p o => ?_, fun p o c => (h.object p o c).trans (by rw [hfiles])⟩
  · show p ∈ S.partitions ∧ p ≠ pid ↔ _
    rw [h.partition p]
    simp only [Db.Has, hobj, mem_deleteWhere]
    constructor
    · rintro ⟨⟨hp, r, hr, hk⟩, hne⟩
      exact ⟨hp, r, ⟨hr, fun hd => hne (bindInt64_inj.1 (hk.1.symm.trans hd.1))⟩, hk⟩
    · rintro ⟨hp, r, ⟨hr, hd⟩, hk⟩
      exact ⟨⟨hp, r, hr, hk⟩, fun heq => hd ⟨heq ▸ hk.1, hk.2⟩⟩
  · refine (h.collection p o).trans ?_
    rw [Db.HasType, Db.HasType, hobj, mem_deleteWhere]
    refine (and_iff_left_of_imp fun hrow hd => ?_).symm
    rcases hzero _ hrow hd.2 with ht | ht <;> cases ht

/-! ## What the commands mean for the store -/

/-- `n` ids from `oid` on. -/
def idsFrom (oid : UInt64) (n : Nat) : List UInt64 := (List.range n).map fun k => oid + UInt64.ofNat k

/-- Ids that named nothing name the like of `e`. -/
def Gains (S S' : Store) (pid : UInt64) (ids : List UInt64) (e : StoreEntry (List UInt8)) : Prop :=
  (∀ o ∈ ids, S.entry pid o = none) ∧ ∃ hp : pid ∈ S.partitions, S' = S.add pid ids e hp

/-- The object has a content, and then another that `R` relates to it. -/
def Refills (S S' : Store) (pid oid : UInt64) (R : List UInt8 → List UInt8 → Prop) : Prop :=
  ∃ c c', S.entry pid oid = some (.object c) ∧ R c c' ∧ S' = S.rewrite pid oid c'

/-- The logical length of user objects. -/
def IsLogicalLen (page number : UInt32) : Prop := page = USER_INFO_PG ∧ number = UIAP_LOGICAL_LEN

instance (page number : UInt32) : Decidable (IsLogicalLen page number) :=
  inferInstanceAs (Decidable (page = USER_INFO_PG ∧ number = UIAP_LOGICAL_LEN))

/-- At most the content of the object is another. -/
def Touches (S S' : Store) (pid oid : UInt64) : Prop := ∃ c, S' = S.rewrite pid oid c

/-- What a command that answers OSD_OK does to the store; `c` are the current-command attributes it
leaves.  SET ATTRIBUTES takes 16 bits of a logical length.  A store has no attributes, so it leaves open
whether GEN CAS swaps one.  FORMAT is not among the requests. -/
def Op.Done (c : Ccap) (S S' : Store) : Op → Prop
  | .create pid requested numoid => ∃ oid, (requested ≠ 0 → oid = requested) ∧ c.pid = pid ∧
      getCreatedOid c (atLeastOne numoid).toUInt32 = oid ∧
      Gains S S' pid (idsFrom oid (atLeastOne numoid).toNat) (.object [])
  | .createAndWrite pid oid len offset data sglist ddt => ∃ content,
      (Layout.Sound ⟨ddt, len, offset, data, sglist⟩ →
        content = stores 0 [] (Layout.writes ⟨ddt, len, offset, data, sglist⟩)) ∧
      Gains S S' pid [oid] (.object content)
  | .createCollection pid requested | .createUserTrackingCollection pid requested _ _ =>
      ∃ cid, (requested ≠ 0 → cid = requested) ∧ c.pid = pid ∧ c.oid = cid ∧
        Gains S S' pid [cid] .collection
  | .createPartition requested => ∃ pid, (requested ≠ 0 → pid = requested) ∧ c.pid = pid ∧
      pid ∉ S.partitions ∧ S' = S.addPartition pid
  | .remove pid oid => S' = S.drop pid oid
  | .removeCollection pid cid _ => S' = S.drop pid cid
  | .removePartition pid => ∃ h, S' = S.dropPartition pid h
  | .write pid oid len offset data sglist ddt => Refills S S' pid oid fun content content' =>
      Layout.Sound ⟨ddt, len, offset, data, sglist⟩ →
        content' = stores 0 content (Layout.writes ⟨ddt, len, offset, data, sglist⟩)
  | .setAttributes pid oid page number val _ _ =>
      if IsLogicalLen page number then
        Refills S S' pid oid fun content content' =>
          ∀ m, val = some m → content' = resized content (getNtohll m 0).toUInt16.toUInt64
      else S' = S
  | .genCas pid oid page number _ _ swap swapLen => S' = S ∨ IsLogicalLen page number ∧
      ∃ m, swap = some m ∧ 0 < swapLen ∧
        Refills S S' pid oid fun content content' => content' = resized content (getNtohll m 0)
  | .getattrList .. | .getattrPage .. | .setMemberAttributes .. | .cas .. | .fa .. => S' = S
  | .formatOsd => False

/-- What a command that answers otherwise does: a write may have got part of the way. -/
def Op.Refused (S S' : Store) : Op → Prop
  | .write pid oid .. => Touches S S' pid oid
  | _ => S' = S

/-- The commands, with those on the content of an object that are no `Op`. -/
inductive StoreRequest
  | op (o : Op)
  | append (pid oid len : UInt64) (data : Option Mem)
  | clear (pid oid len offset : UInt64)
  | punch (pid oid len offset : UInt64)
  | read (pid oid len offset : UInt64)

def StoreRequest.exec (env : Env) : StoreRequest → OsdM Ret
  | .op o => o.exec env
  | .append pid oid len data => contigAppend env pid oid len data
  | .clear pid oid len offset => osdClear env pid oid len offset
  | .punch pid oid len offset => osdPunch env pid oid len offset
  | .read pid oid len offset => Prod.fst <$> contigRead env pid oid len offset

/-- What is handed to the caller beside the status: the length of the reply, if it is stored, or the original
value of GEN CAS. -/
inductive StoreOutput
  | nothing
  | used (outlen : Option UInt64)
  | original (value : Option (List UInt8))

/-- The command with all that it hands over. -/
def StoreRequest.run (env : Env) : StoreRequest → OsdM (Ret × StoreOutput)
  | .op (.getattrList pid oid page number pos outlen isembedded listfmt) =>
    Prod.map id (.used ∘ Option.map UInt32.toUInt64) <$>
      osdGetattrList env pid oid page number pos outlen isembedded listfmt
  | .op (.getattrPage pid oid page pos outlen isembedded) =>
    Prod.map id (.used ∘ Option.map UInt32.toUInt64) <$> osdGetattrPage env pid oid page pos outlen isembedded
  | .op (.cas pid oid cmp swap pos) => Prod.map id .used <$> osdCas env pid oid cmp swap pos
  | .op (.fa pid oid add pos) => Prod.map id .used <$> osdFa env pid oid add pos
  | .op (.genCas pid oid page number cmp cmpLen swap swapLen) =>
    Prod.map id .original <$> osdGenCas env pid oid page number cmp cmpLen swap swapLen
  | .read pid oid len offset => Prod.map id .used <$> contigRead env pid oid len offset
  | r => (·, .nothing) <$> r.exec env

theorem StoreRequest.exec_eq (env : Env) (r : StoreRequest) : r.exec env = Prod.fst <$> r.run env := by
  have hsilent : ∀ m : OsdM Ret, m = Prod.fst <$> (·, StoreOutput.nothing) <$> m := fun m => by
    rw [Functor.map_map]
    exact (id_map m).symm
  have hloud : ∀ {α : Type} (f : α → StoreOutput) (m : OsdM (Ret × α)),
      Prod.fst <$> m = Prod.fst <$> Prod.map id f <$> m := fun f m => by
    rw [Functor.map_map]
    rfl
  cases r with
  | append | clear | punch => exact hsilent _
  | read => exact hloud _ _
  | op o =>
    cases o with
    | getattrList | getattrPage | cas | fa | genCas => exact hloud _ _
    | _ => exact hsilent _

/-- What a command answers: its status, what it hands over, the current-command attributes and the reply
buffer. -/
structure StoreAnswer where
  ret : Ret
  out : StoreOutput
  ccap : Ccap
  reply : Mem

/-- What becomes of the store with this answer.  PUNCH is promised ranges whose end fits 64 bits.  A read
that answers OSD_OK, or that it met the end after `n` bytes, replies with what the object holds, and zeros for
the rest. -/
def StoreRequest.Meets (r : StoreRequest) (a : StoreAnswer) (S S' : Store) : Prop :=
  match r with
  | .op o => a.ret = .ok ∧ o.Done a.ccap S S' ∨ a.ret ≠ .ok ∧ o.Refused S S'
  | .append pid oid len data => a.ret = .ok ∧ (Refills S S' pid oid fun content content' =>
      content.length < 2 ^ 64 → ∃ m, data = some m ∧ content' = content ++ m.read 0 len.toNat) ∨
    a.ret ≠ .ok ∧ Touches S S' pid oid
  | .clear pid oid len offset => a.ret = .ok ∧ (Refills S S' pid oid fun content content' =>
      content' = stores 0 content [⟨offset.toNat, List.replicate len.toNat 0⟩]) ∨
    a.ret ≠ .ok ∧ Touches S S' pid oid
  | .punch pid oid len offset => a.ret = .ok ∧ (Refills S S' pid oid fun content content' =>
      offset.toNat ≤ content.length ∧ (content.length < 2 ^ 63 → offset.toNat + len.toNat < 2 ^ 64 →
        content' = removeRange content offset.toNat len.toNat)) ∨
    a.ret ≠ .ok ∧ Touches S S' pid oid
  | .read pid oid len offset => S' = S ∧ ∀ n, a.ret = .ok ∧ n = len ∨ a.ret = readPastEnd pid oid n →
      a.out = .used (some len) ∧ ∃ content, S.entry pid oid = some (.object content) ∧
        a.reply.read 0 len.toNat = (content.drop offset.toNat).take n.toNat ++
          List.replicate (len.toNat - n.toNat) 0

/-- The states a command may lead to. -/
def Follows (r : StoreRequest) (S : Store) (out : StoreOutput) (ret : Ret) (t : Target) : Prop :=
  ∃ S', r.Meets ⟨ret, out, t.ccap, t.reply⟩ S S' ∧ Implements t S'

/-! ## CREATE -/

/-- What CREATE comes to from its first id on. -/
theorem createFrom_objects (henv : env.Reliable) {requested : UInt64} {numoid : UInt16} (ic : IdCache)
    (hpid : USEROBJECT_PID_LB ≤ pid) (hoid : USEROBJECT_OID_LB ≤ oid)
    (hfit : oid.toNat + (atLeastOne numoid).toNat < 2 ^ 64) :
    Ends (createFrom env pid requested oid numoid) { s with ic } fun ret t =>
      ret = .ok ∧ s.FreeIds env pid oid (atLeastOne numoid).toNat ∧
        t.db = (s.withObjects pid oid (atLeastOne numoid).toNat).db ∧
        t.files = (s.withObjects pid oid (atLeastOne numoid).toNat).files ∧
        t.ccap = fillCcap .userobject pid (oid + (atLeastOne numoid).toUInt64 - 1) 0 ∨
      ret ≠ .ok ∧ (∀ r, r ∈ t.db.obj ↔ r ∈ s.db.obj) ∧ t.files = s.files := by
  have hpos := atLeastOne_pos numoid
  have hcount := createCount_of_fits hfit
  have hsmall : 0 + createCount oid (atLeastOne numoid) < 2 ^ 64 := by omega
  have hid : ∀ k < 0 + createCount oid (atLeastOne numoid),
      isUserobjectId pid (oid + UInt64.ofNat k) = true :=
    fun k hk => isUserobjectId_range hpid hoid (by rwa [Nat.zero_add] at hk)
  let t : Target := { s with ic }
  have hz := created_zero pid oid t
  have hfree : t.FreeIds env pid oid 0 :=
    ⟨fun _ hk => absurd hk (Nat.not_lt_zero _), fun _ hk => absurd hk (Nat.not_lt_zero _), fun h =>
      absurd h (by decide)⟩
  have hmade := createLoop_made henv _ hsmall hid hfree
  rw [t.withObjects_zero] at hmade
  have hloop := hmade.and ((createLoop_undone henv.deletes _ hz hsmall hid).and (createLoop_spec _ hz hsmall))
  rw [show UInt64.ofNat 0 = 0 from rfl, UInt64.add_zero, Nat.zero_add] at hloop
  refine ends_call hloop fun r v ⟨⟨hdone, hfiles⟩, hundone, hgrowth, _⟩ => ?_
  cases r with
  | some i =>
    refine ends_bind.2 (ends_modify.2 (ends_pure.2 (.inr ⟨nofun, fun r => ?_, hfiles nofun⟩)))
    exact ⟨fun hr => hundone nofun r hr, fun hr => hgrowth.keeps r hr⟩
  | none =>
    obtain ⟨rfl, hids⟩ := hdone rfl
    rw [hcount] at hids ⊢
    exact ends_bind.2 (ends_modify.2 (ends_bind.2 (ends_modify.2 (ends_pure.2
      (.inl ⟨rfl, ⟨hids.row, hids.file, hids.root⟩, rfl, rfl, rfl⟩)))))

theorem mem_idsFrom {n : Nat} {o : UInt64} : o ∈ idsFrom oid n ↔ ∃ k < n, o = oid + UInt64.ofNat k := by
  simp only [idsFrom, List.mem_map, List.mem_range, eq_comm]

theorem Follows.refused {o : Op} {out : StoreOutput} {ret : Ret} (hret : ret ≠ .ok) (hsame : o.Refused S S)
    (h : Implements t S) :
    Follows (.op o) S out ret t :=
  ⟨S, .inr ⟨hret, hsame⟩, h⟩

/-- **CREATE adds objects without content**, or does nothing. -/
theorem osdCreate_follows (henv : env.Reliable) (hk : Kept s) (h : Implements s S) {requested : UInt64}
    {numoid : UInt16} (hfits : s.Fits pid requested numoid) :
    Ends (osdCreate env pid requested numoid) s (Follows (.op (.create pid requested numoid)) S .nothing) := by
  refine osdCreate_ends (fun ret ic hno _ => .refused hno rfl (h.of_eq rfl rfl)) fun oid ic hpid hpart hone hpick => ?_
  have hfit := hfits oid ⟨hpid, hpart, hone, ic, hpick⟩
  have hp : pid ∈ S.partitions := (h.partition pid).2 ⟨pid_ne_zero hpid, hpart⟩
  rcases hk.ids.picked hpid hpart hpick with rfl | hoid
  · refine (createFrom_taken (s := { s with ic }) ?_ hpart).mono fun ret t ⟨hno, hdb, hfiles, _⟩ => ?_
    · rw [createCount_of_fits hfit]
      exact atLeastOne_pos numoid
    · exact .refused hno rfl (h.of_eq (by rw [hdb]) hfiles)
  · refine (createFrom_objects henv ic hpid hoid hfit).mono fun ret t ht => ?_
    rcases ht with ⟨rfl, hids, hdb, hfiles, hccap⟩ | ⟨hno, hrows, hfiles⟩
    · have hfree : ∀ o ∈ idsFrom oid (atLeastOne numoid).toNat, S.entry pid o = none := fun o ho => by
        obtain ⟨k, hk', rfl⟩ := mem_idsFrom.1 ho
        exact h.free hk.files (hids.row k hk')
      refine ⟨S.add pid _ (.object []) hp, .inl ⟨rfl, oid, fun h0 => ?_, ?_, ?_, hfree, hp, rfl⟩, ?_⟩
      · rcases hpick with ⟨h1, -⟩ | ⟨-, rfl, -⟩
        · exact absurd h1 h0
        · rfl
      · rw [hccap]
        rfl
      · rw [hccap]
        exact getCreatedOid_fillCcap (atLeastOne_pos numoid)
      · refine h.add hp hfree (congrArg Db.obj hdb) (fun r hr h0 => ?_) (fun p o => ?_) fun p o c => ?_
        · obtain ⟨k, hk', rfl⟩ := List.mem_map.1 hr
          have h0 : bindInt64 (oid + UInt64.ofNat k) = 0 := h0
          exact hids.row k (List.mem_range.1 hk') (h0 ▸ hpart)
        · refine iff_of_false (fun hr => ?_) fun hn => nomatch hn.1
          obtain ⟨k, -, heq⟩ := List.mem_map.1 hr
          exact nomatch congrArg ObjRow.type heq
        · have hiff : (p = pid ∧ o ∈ idsFrom oid (atLeastOne numoid).toNat) ↔
              p = pid ∧ ∃ k < (atLeastOne numoid).toNat, o = oid + UInt64.ofNat k :=
            and_congr_right fun _ => mem_idsFrom
          rw [hfiles]
          show (if _ then some [] else s.files p o) = some c ↔ _
          by_cases hin : p = pid ∧ o ∈ idsFrom oid (atLeastOne numoid).toNat
          · rw [if_pos hin, if_pos (hiff.1 hin), Option.some_inj, StoreEntry.object.injEq]
          · rw [if_neg hin, if_neg fun hn => hin (hiff.2 hn)]
    · exact .refused hno rfl (h.of_rows hrows hfiles)

end OsdTarget
