import OsdTarget.Events
import OsdTarget.PureRetrieval

/-!
# The keys of the schema

What every statement keeps of the tables, every command keeps, and so does every submission: the
commands are followed once, for relations that admit the statements.  The keys that `osd.schema`
declares are the case that other results take as a hypothesis.
-/

namespace OsdTarget

open Base

variable {env : Env} {s s' : Target}

/-! ## Commands as statements -/

/-- `R` looks at the tables only, and admits what statements do to them and a device opened anew. -/
structure AdmitsTables (env : Env) (R : Target → Target → Prop) : Prop where
  db : ∀ t t' : Target, t'.db = t.db → R t t'
  dms : AdmitsStatements env R
  attributes : ∀ pid oid, AdmitsAttributes R pid oid
  members : ∀ (t : Target) rows, R t (t.withAttrs rows)
  blank : ∀ t t' : Target, t'.db = ⟨[], [], []⟩ → R t t'

namespace AdmitsTables

variable {R : Target → Target → Prop} [Uncached R] (h : AdmitsTables env R) {pid : UInt64}

include h

theorem remove (oid : UInt64) : Respects R (osdRemove env pid oid) := by
  refine resp_osdRemove_of (fun t => ?_) (h.dms _) (h.dms _) (h.dms _)
  exact ends_bind.2 (ends_get.2 (ends_ite_of (fun _ => ends_pure.2 (Stays.refl R t)) fun _ =>
    ends_bind.2 (ends_set.2 (ends_pure.2 (h.db _ _ rfl)))))

theorem removeAll (n : Nat) (i : UInt64) : Respects R (osdRemoveTmpObjects env pid n i) := by
  induction n generalizing i with
  | zero => exact resp_pure _
  | succ n ih => exact resp_bind (h.remove i) fun _ => ih _

theorem createAll (oid : UInt64) (n : Nat) (i : UInt64) : Respects R (createLoop env pid oid n i) := by
  induction n generalizing i with
  | zero => exact resp_pure _
  | succ n ih =>
    have hundo : Respects R (osdRemoveTmpObjects env pid (i - oid).toNat oid >>= fun _ => pure (some i)) :=
      resp_bind (h.removeAll _ _) fun _ => resp_pure _
    have hfile : Respects R (osdCreateDatafile env pid i) :=
      fun t => osdCreateDatafile_ends (fun _ _ => h.db _ _ rfl) fun _ => Stays.refl R t
    exact resp_bind (h.dms _) fun _ => respects_ite hundo (resp_bind hfile fun _ =>
      respects_ite (resp_bind (h.dms _) fun _ => hundo) (ih _))

theorem create (requested : UInt64) (numoid : UInt16) : Respects R (osdCreate env pid requested numoid) := by
  have hrest : ∀ oid, Respects R (createFrom env pid requested oid numoid) := fun oid => by
    refine resp_bind (h.createAll _ _ _) fun r => ?_
    cases r with
    | some i => exact resp_bind resp_invalidateCache fun _ => resp_pure _
    | none => exact resp_bind (respects_modify fun t => Uncached.ic t _) fun _ =>
        resp_bind (resp_setCcap _) fun _ => resp_pure _
  exact respects_ite (resp_pure _) (respects_ite (resp_pure _) (resp_bind resp_query fun _ =>
    respects_ite (resp_pure _) (respects_ite (resp_pure _) (resp_pickId hrest))))

theorem createAndWrite (oid len offset : UInt64) (data : Mem) (sglist : SgList) (ddt : UInt8) :
    Respects R (osdCreateAndWrite env pid oid len offset data sglist ddt) :=
  resp_bind (h.create _ _) fun _ => respects_ite (resp_pure _)
    (resp_bind (resp_osdWrite (h.attributes _ _).file _ _ _ _ _) fun _ =>
      respects_ite (resp_bind (h.remove _) fun _ => resp_pure _) (resp_pure _))

theorem initAttrs (l : List (UInt32 × UInt32 × String)) : Respects R (setInitAttrs env l) := by
  induction l with
  | nil => exact resp_pure _
  | cons x l ih =>
    exact resp_bind (resp_attrSetAttrRow ((h.attributes _ _).row _ _ _)) fun _ => respects_ite (resp_pure _) ih

theorem initDb : Respects R (osdInitializeDb env) := by
  have hattrs := h.attributes ROOT_PID ROOT_OID
  exact resp_bind (respects_modify fun t => h.db _ _ rfl) fun _ => resp_bind (h.dms _) fun _ =>
    respects_ite (resp_pure _) (resp_bind (h.initAttrs _) fun _ => respects_ite (resp_pure _)
      (resp_bind (h.initAttrs _) fun _ => respects_ite (resp_pure _)
        (resp_attrSetAttr (hattrs.row _ _ _) fun _ => hattrs.file)))

theorem format : Respects R (osdFormatOsd env) := by
  have hopen : Respects R (osdOpen env) := fun t => by
    refine ends_bind.2 (ends_get.2 (ends_bind.2 (ends_set.2 (ends_ite_of (fun _ => ?_) fun _ => ?_))))
    · exact ends_bind.2 (ends_modify.2 (ends_pure.2 (h.blank _ _ rfl)))
    · exact (h.initDb _).mono fun _ v hv => Stays.trans t _ v (h.blank t _ rfl) hv
  have hreopen : Respects R (osdOpen env >>= fun ret =>
      if ret ≠ .ok then pure (senseBuildSdd OSD_SSK_HARDWARE_ERROR OSD_ASC_SYSTEM_RESOURCE_FAILURE 0 0)
      else setCcap Ccap.zero >>= fun _ => pure .ok) :=
    resp_bind hopen fun _ => respects_ite (resp_pure _) (resp_bind (resp_setCcap _) fun _ => resp_pure _)
  refine resp_bind (fun t => ?_) fun _ => resp_bind (respects_modify fun t => h.db _ _ rfl) fun _ => resp_pure _
  refine ends_bind.2 (ends_get.2 (ends_ite_of (fun _ => hreopen t) fun _ => ?_))
  split
  all_goals refine ends_bind.2 (ends_set.2 ?_)
  iterate 3 exact ends_pure.2 (h.db _ _ rfl)
  exact (hreopen _).mono fun _ v hv => Stays.trans t { t with files := fun _ _ => none } v (h.db _ _ rfl) hv

/-- **Every command is made of statements.** -/
theorem exec [Untransacted R] (op : Op) : Respects R (op.exec env) := by
  cases op with
  | create => exact h.create _ _
  | createAndWrite => exact h.createAndWrite _ _ _ _ _ _
  | createCollection => exact resp_osdCreateCollection h.dms _ _
  | createPartition => exact resp_osdCreatePartition h.dms _
  | createUserTrackingCollection => exact resp_osdCreateUserTrackingCollection h.dms _ _ _ _
  | remove => exact h.remove _
  | removeCollection => exact resp_osdRemoveCollection h.dms _ _ _
  | removePartition => exact resp_osdRemovePartition h.dms _
  | write => exact resp_osdWrite (h.attributes _ _).file _ _ _ _ _
  | setAttributes => exact resp_osdSetAttributes (h.attributes _ _) _ _ _ _ _
  | getattrList =>
    exact respects_map.2 fun t => osdGetattrList_respects (fun _ => h.attributes _ _) _ _ _ _ _ _
  | getattrPage =>
    exact respects_map.2 fun t => osdGetattrPage_respects (fun _ => h.attributes _ _) _ _ _ _
  | setMemberAttributes =>
    exact fun t => osdSetMemberAttributes_stays fun _ _ _ v _ => h.members v _
  | cas => exact respects_map.2 fun t => osdCas_stays fun _ _ _ => (h.attributes _ _).row _ _ _
  | fa => exact respects_map.2 fun t => osdFa_stays fun _ _ _ => (h.attributes _ _).row _ _ _
  | genCas =>
    exact respects_map.2 fun t => osdGenCas_stays (fun _ _ _ _ _ => (h.attributes _ _).row _ _ _ t)
      (fun _ => (h.attributes _ _).delete _ _) fun _ => (h.attributes _ _).file
  | formatOsd => exact h.format

end AdmitsTables

/-! ## What statements keep -/

/-- If the tables were as `I` says, they still are. -/
def Preserves (I : Db → Prop) (s s' : Target) : Prop := I s.db → I s'.db

variable {I : Db → Prop}

instance : Uncached (Preserves I) where
  same _ _ hdb _ _ _ _ _ h := hdb ▸ h
  trans _ _ _ h h' hi := h' (h hi)
  ic _ _ h := h

instance : Untransacted (Preserves I) where
  txn _ _ _ h := h

/-- `I` holds of empty tables and is kept by every statement that runs; SQLite may be asked what rows
of `obj` it takes. -/
structure KeptByStatements (env : Env) (I : Db → Prop) : Prop where
  blank : I ⟨[], [], []⟩
  insert : ∀ r d t, env.dmsFails (.objInsert r) d = false → insertNew ObjRow.key r d.obj = some t →
    I d → I { d with obj := t }
  run : ∀ st d d', (∀ r, st ≠ .objInsert r) → Dms.run d st = some d' → I d → I d'

theorem KeptByStatements.withAttr (h : KeptByStatements env I) (r : AttrRow) : Admits (Preserves I) r :=
  fun t => h.run (.attrSet r) t.db _ nofun rfl

theorem KeptByStatements.withAttrs (h : KeptByStatements env I) (rows : List AttrRow) (t : Target) :
    Preserves I t (t.withAttrs rows) := by
  induction rows generalizing t with
  | nil => exact id
  | cons r rows ih => exact fun hi => ih (t.withAttr r) (h.withAttr r t hi)

theorem KeptByStatements.admits (h : KeptByStatements env I) : AdmitsTables env (Preserves I) where
  db _ _ hdb hi := hdb ▸ hi
  dms st t := by
    refine dbExecDms_ends (fun d hf hd hi => ?_) fun _ => id
    by_cases hst : ∃ r, st = .objInsert r
    · obtain ⟨r, rfl⟩ := hst
      obtain ⟨rows, hrows, rfl⟩ := Option.map_eq_some_iff.1 hd
      exact h.insert r t.db rows hf hrows hi
    · exact h.run st t.db d (fun r hr => hst ⟨r, hr⟩) hd hi
  attributes pid oid := {
    row := fun _ _ _ => h.withAttr _
    delete := fun page number t hi => by
      have hd := h.run (.attrDelete (bindInt64 pid) (bindInt64 oid) (bindInt page) (bindInt number)) t.db _
        nofun rfl hi
      simpa [Target.withoutAttr, Target.setAttr, AttrRow.key, attrRow] using hd
    file := fun _ _ _ _ => id
    point := fun t cid number rows hrows =>
      h.run (.collInsert ⟨bindInt64 pid, cid, bindInt64 oid, number⟩) t.db _ nofun (by simp [Dms.run, hrows])
    unpoint := fun t cid => h.run (.collDelete (bindInt64 pid) cid (bindInt64 oid)) t.db _ nofun rfl }
  members t rows := h.withAttrs rows t
  blank _ _ hdb _ := hdb ▸ h.blank

/-- **Every command keeps what statements keep.** -/
theorem KeptByStatements.exec (h : KeptByStatements env I) (op : Op) : Respects (Preserves I) (op.exec env) :=
  h.admits.exec op

/-- So does everything that happens while a submission is worked on. -/
theorem KeptByStatements.event (h : KeptByStatements env I) {e : Event} (hn : e.next env s s') :
    I s.db → I s'.db := by
  cases e with
  | op o =>
    obtain ⟨ret, hr⟩ := hn
    exact h.exec o s ret s' hr
  | data pid oid content =>
    obtain ⟨-, rfl⟩ := hn
    exact id
  | cache ic =>
    obtain rfl := hn
    exact id
  | silent => exact fun hi => hn.1 ▸ hi

/-! ## Runs of submissions -/

/-- One submission on an open device. -/
def Arrival.next (r : Arrival) (s s' : Target) : Prop :=
  s.opened = true ∧ ∃ report, osdemuCmdSubmit r.env r.sub r.fuel s = some (report, s')

/-- The states that runs of submissions reach from a fresh device, each meeting the guard. -/
abbrev Submitted (G : Arrival → Prop) : Target → Prop := Reach Arrival.next Fresh fun r _ _ => G r

/-- The state a submission leads to; one that does not return leaves the state alone. -/
def Arrival.after (r : Arrival) (s : Target) : Target :=
  ((osdemuCmdSubmit r.env r.sub r.fuel s).map Prod.snd).getD s

theorem Arrival.next_after {r : Arrival} (hopen : s.opened = true)
    (hret : (osdemuCmdSubmit r.env r.sub r.fuel s).isSome = true) : r.next s (r.after s) := by
  obtain ⟨⟨report, s'⟩, hrun⟩ := Option.isSome_iff_exists.1 hret
  refine ⟨hopen, report, ?_⟩
  rw [Arrival.after, hrun]
  rfl

/-- CREATE of one object in the first partition. -/
def firstObject : Submission :=
  { firstPartition with
    cdb := blobMem ([VARLEN_CDB, 0, 0, 0, 0, 0, 0, OSD_CDB_SIZE - 8] ++ htons 0x8882 ++ [0, 0x20, 0, 0, 0, 0] ++
      htonll 0x10000) }

/-- A device with one partition. -/
def withPartition : Target := Arrival.after ⟨.calm, firstPartition, 0⟩ .fresh

/-- The same with one object in it. -/
def withObject : Target := Arrival.after ⟨.calm, firstObject, 0⟩ withPartition

theorem withObject_reached {G : Arrival → Target → Target → Prop}
    (hp : G ⟨.calm, firstPartition, 0⟩ .fresh withPartition)
    (ho : G ⟨.calm, firstObject, 0⟩ withPartition withObject) : Reach Arrival.next Fresh G withObject := by
  refine .step _ (.step _ (.start fresh_fresh) (Arrival.next_after ?_ ?_) hp) (Arrival.next_after ?_ ?_) ho
  all_goals decide +kernel

/-- An event in its surroundings. -/
structure Occurrence where
  env : Env
  event : Event

def Occurrence.next (x : Occurrence) (s s' : Target) : Prop := x.event.next x.env s s'

/-- **Runs of submissions are runs of events.** -/
theorem Submitted.events {G : Arrival → Prop} (h : Submitted G s) :
    Reach Occurrence.next Fresh
      (fun x _ _ => ∃ r, G r ∧ x.env = r.env ∧ r.sub.command.May x.event) s := by
  refine h.refines fun r t t' ⟨_, report, hrun⟩ hg => ?_
  refine Relation.ReflTransGen.mono (fun v v' => ?_) _ _ (osdemuCmdSubmit_does hrun).run
  rintro ⟨e, he, hn⟩
  exact ⟨⟨r.env, e⟩, hn, r, hg, rfl, he⟩

/-! ## The keys -/

/-- The keys of the three tables, and the pointers of `coll`. -/
structure SchemaKeys (d : Db) : Prop where
  obj : (d.obj.map ObjRow.key).Nodup
  attr : (d.attr.map AttrRow.key).Nodup
  coll : (d.coll.map CollRow.key).Nodup
  pointers : (d.coll.map CollRow.pointer).Nodup

theorem SchemaKeys.setColl {d : Db} (h : SchemaKeys d) {t : List CollRow} (hk : (t.map CollRow.key).Nodup)
    (hp : (t.map CollRow.pointer).Nodup) : SchemaKeys { d with coll := t } := ⟨h.obj, h.attr, hk, hp⟩

/-- The primary key is tested before rows with the same pointer are replaced. -/
theorem nodup_insertColl {r : CollRow} {t t' : List CollRow} (hi : insertColl r t = some t')
    (hk : (t.map CollRow.key).Nodup) (hp : (t.map CollRow.pointer).Nodup) :
    (t'.map CollRow.key).Nodup ∧ (t'.map CollRow.pointer).Nodup := by
  unfold insertColl at hi
  split at hi
  · cases hi
  · rename_i hfree
    cases hi
    exact ⟨nodup_insertReplace hk fun x hx he => absurd ⟨x, hx, he⟩ hfree,
      nodup_insertReplace hp fun _ _ he => he⟩

theorem nodup_foldlM_insertColl {rows t t' : List CollRow}
    (hi : rows.foldlM (fun t r => insertColl r t) t = some t') (hk : (t.map CollRow.key).Nodup)
    (hp : (t.map CollRow.pointer).Nodup) :
    (t'.map CollRow.key).Nodup ∧ (t'.map CollRow.pointer).Nodup := by
  induction rows generalizing t with
  | nil =>
    cases hi
    exact ⟨hk, hp⟩
  | cons r rows ih =>
    rw [List.foldlM_cons] at hi
    obtain ⟨u, hu, hi⟩ := Option.bind_eq_some_iff.1 hi
    obtain ⟨hk', hp'⟩ := nodup_insertColl hu hk hp
    exact ih hi hk' hp'

/-- **Every statement keeps the keys.** -/
theorem SchemaKeys.run {d d' : Db} (h : SchemaKeys d) {st : Dms} (hrun : Dms.run d st = some d') :
    SchemaKeys d' := by
  cases st with
  | objInsert r =>
    obtain ⟨t, ht, rfl⟩ := Option.map_eq_some_iff.1 hrun
    exact { h with obj := nodup_insertNew h.obj ht }
  | objDelete | objDeletePid =>
    cases hrun
    exact { h with obj := nodup_deleteWhere h.obj }
  | collInsert r =>
    obtain ⟨t, ht, rfl⟩ := Option.map_eq_some_iff.1 hrun
    obtain ⟨hk, hp⟩ := nodup_insertColl ht h.coll h.pointers
    exact h.setColl hk hp
  | collCopyoids pid destCid sourceCid =>
    obtain ⟨t, ht, rfl⟩ := Option.map_eq_some_iff.1 hrun
    obtain ⟨hk, hp⟩ := nodup_foldlM_insertColl ht h.coll h.pointers
    exact h.setColl hk hp
  | collDelete | collDeleteCid | collDeleteOid =>
    cases hrun
    exact h.setColl (nodup_deleteWhere h.coll) (nodup_deleteWhere h.pointers)
  | attrSet r =>
    cases hrun
    exact { h with attr := nodup_insertReplace h.attr fun _ _ he => he }
  | attrSetMembers pid cid attrs =>
    cases hrun
    exact { h with attr := nodup_foldl_insertReplace h.attr }
  | attrDelete | attrDeleteAll =>
    cases hrun
    exact { h with attr := nodup_deleteWhere h.attr }

theorem schemaKeys_kept : KeptByStatements env SchemaKeys where
  blank := ⟨List.nodup_nil, List.nodup_nil, List.nodup_nil, List.nodup_nil⟩
  insert _ _ _ _ ht h := { h with obj := nodup_insertNew h.obj ht }
  run _ _ _ _ hrun h := h.run hrun

/-- **The keys of the schema hold whatever was submitted.**  After any submissions, with any CDB and
data-in, in any surroundings, no key of a table occurs twice, and an object has one collection for each
pointer. -/
theorem submitted_schemaKeys (h : Submitted (fun _ => True) s) : SchemaKeys s.db := by
  refine h.events.invariant (fun t ht => ?_) fun x t t' hk hn _ => schemaKeys_kept.event hn hk
  obtain ⟨env, hinit⟩ := ht
  have hkept : KeptByStatements env SchemaKeys := schemaKeys_kept
  exact hkept.admits.initDb _ _ _ hinit hkept.blank

theorem submitted_schemaKeys_object : withObject.db.obj.length = 3 ∧ SchemaKeys withObject.db :=
  ⟨by decide +kernel, submitted_schemaKeys (withObject_reached trivial trivial)⟩

end OsdTarget
