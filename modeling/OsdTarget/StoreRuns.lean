import OsdTarget.StoreNames
import OsdTarget.StoreObjects

/-!
# Runs of the device as runs of its store

The commands on attributes leave the store alone but for SET ATTRIBUTES of the logical length and GEN CAS of
it.  Then every command of a run is one to the store, and so is the run: whatever is asked and answered, a
store without partitions could have been asked and could have answered.
-/

namespace OsdTarget

open Base

variable {env : Env} {s t : Target} {pid oid : UInt64} {S : Store}

/-! ## Attributes -/

/-- Object table and data files are the same. -/
structure SameObjects (s t : Target) : Prop where
  obj : t.db.obj = s.db.obj
  files : t.files = s.files

instance : Untransacted SameObjects where
  same _ _ hdb _ hfiles _ _ _ := ⟨congrArg Db.obj hdb, hfiles⟩
  trans _ _ _ h h' := ⟨h'.obj.trans h.obj, h'.files.trans h.files⟩
  txn _ _ _ := ⟨rfl, rfl⟩

theorem SameObjects.admits (r : AttrRow) : Admits SameObjects r := fun _ => ⟨rfl, rfl⟩

/-- A command that leaves table and files alone. -/
theorem SameObjects.follows {o : Op} {out : StoreOutput} {ret : Ret} (h : Implements s S)
    (hsame : SameObjects s t) (hdone : o.Done t.ccap S S) (hrefused : o.Refused S S) :
    Follows (.op o) S out ret t := by
  refine ⟨S, ?_, h.of_eq hsame.obj hsame.files⟩
  by_cases hret : ret = .ok
  · exact .inl ⟨hret, hdone⟩
  · exact .inr ⟨hret, hrefused⟩

/-- The content that SET ATTRIBUTES of the logical length leaves. -/
theorem osdSetAttributes_content {page number : UInt32} {m : Mem} {len : UInt16} {isembedded : Bool}
    (hlen : IsLogicalLen page number) :
    Ends (osdSetAttributes env pid oid page number (some m) len isembedded) s fun ret t => ret = .ok →
      ∃ c, s.files pid oid = some c ∧ t.db = s.db ∧
        t.files = (s.setFile pid oid (some (resized c (getNtohll m 0).toUInt16.toUInt64))).files := by
  obtain ⟨rfl, rfl⟩ := hlen
  rw [osdSetAttributes_eq_setPair]
  refine setPair_inv.mono fun ret t h hok => ?_
  obtain ⟨-, -, -, v, hst, ht⟩ := h.resolve_left fun hno => hno.1 hok
  cases hst with
  | row hrow => exact absurd (hrow.2.1 rfl) (show ¬ UIAP_LOGICAL_LEN = UIAP_USERNAME by decide)
  | ignored hign => exact absurd hign.1 (show ¬ USER_INFO_PG = ROOT_INFO_PG by decide)
  | pointed hpt => exact absurd hpt.1 (show ¬ USER_INFO_PG = USER_COLL_PG by decide)
  | resized hres c hc hsys =>
    have hshift : m.shift 0 = m := funext fun a => congrArg m (Nat.zero_add a)
    have hfl : SetPair.fileLen m (oid, ⟨USER_INFO_PG, UIAP_LOGICAL_LEN, len, 0⟩) =
        (getNtohll m 0).toUInt16.toUInt64 := by
      show (getNtohll (m.shift 0) 0).toUInt16.toUInt64 = _
      rw [hshift]
    rw [hfl] at ht
    refine ⟨c, Target.files_of_lookup hc, ?_, ?_⟩
    · rw [ht]
      unfold Target.shown
      split <;> rfl
    · rw [ht]
      unfold Target.shown
      split <;> rfl

/-- A stored attribute is no matter of the store, unless it is the logical length. -/
theorem Stored.sameObjects {page number : UInt32} {val : Option Mem} {len : UInt16}
    (h : Stored pid oid page number val len s t)
    (hlen : ¬ IsLogicalLen page number) :
    SameObjects s t := by
  cases h with
  | resized hpage hnumber => exact absurd ⟨hpage, hnumber⟩ hlen
  | row => exact ⟨rfl, rfl⟩
  | deleted => exact ⟨rfl, rfl⟩
  | ignored => exact ⟨rfl, rfl⟩
  | pointed => exact ⟨rfl, rfl⟩
  | unpointed => exact ⟨rfl, rfl⟩

/-- **SET ATTRIBUTES leaves the store alone**, unless it sets a logical length. -/
theorem osdSetAttributes_follows (h : Implements s S)
    {page number : UInt32} {val : Option Mem} {len : UInt16}
    {isembedded : Bool} : Ends (osdSetAttributes env pid oid page number val len isembedded) s
      (Follows (.op (.setAttributes pid oid page number val len isembedded)) S .nothing) := by
  by_cases hlen : IsLogicalLen page number
  · have hdone : ∀ {c c' : List UInt8} {t : Target}, s.files pid oid = some c →
        (∀ m, val = some m → c' = resized c (getNtohll m 0).toUInt16.toUInt64) → t.db = s.db →
        t.files = (s.setFile pid oid (some c')).files →
        Follows (.op (.setAttributes pid oid page number val len isembedded)) S .nothing .ok t := by
      refine fun {c c' t} hc hval hdb hfiles => ⟨_, .inl ⟨rfl, ?_⟩,
        h.rewrite c' hc (congrArg Db.obj hdb) hfiles⟩
      show if IsLogicalLen page number then _ else _
      rw [if_pos hlen]
      exact ⟨c, c', (h.object pid oid c).2 hc, hval, rfl⟩
    cases val with
    | some m =>
      refine (osdSetAttributes_stores.and (osdSetAttributes_content hlen)).mono fun ret t ⟨hst, hok⟩ => ?_
      rcases hst with ⟨hno, rfl⟩ | ⟨rfl, -⟩
      · exact .refused hno rfl h
      · obtain ⟨c, hc, hdb, hfiles⟩ := hok rfl
        exact hdone hc (fun _ hm => Option.some.inj hm ▸ rfl) hdb hfiles
    | none =>
      obtain ⟨rfl, rfl⟩ := hlen
      refine osdSetAttributes_stores.mono fun ret t hst => ?_
      rcases hst with ⟨hno, rfl⟩ | ⟨rfl, type, v, c, -, hst, rfl⟩
      · exact .refused hno rfl h
      cases hst with
      | row hpage hrow => exact absurd hrow (show ¬ UIAP_LOGICAL_LEN = UIAP_USERNAME by decide)
      | deleted hpage => exact absurd rfl hpage.1
      | resized hpage hnumber c c' hc => exact hdone hc nofun rfl rfl
      | ignored hpage => exact absurd hpage (by decide)
      | pointed hpage => exact absurd hpage (by decide)
      | unpointed hpage => exact absurd hpage (by decide)
  · refine osdSetAttributes_stores.mono fun ret t hst => ?_
    rcases hst with ⟨hno, rfl⟩ | ⟨rfl, type, v, c, -, hst, rfl⟩
    · exact .refused hno rfl h
    have hsame := hst.sameObjects hlen
    refine ⟨S, .inl ⟨rfl, ?_⟩, h.of_eq hsame.obj hsame.files⟩
    show if IsLogicalLen page number then _ else _
    rw [if_neg hlen]

/-- `attr_set_attr` leaves objects alone, unless it sets the logical length of one. -/
theorem attrSetAttr_content {page number : UInt32} {val : Option Mem} {len : UInt16} :
    Ends (attrSetAttr env pid oid page number val len) s fun ret t => SameObjects s t ∨
      IsLogicalLen page number ∧ ret = .ok ∧ ∃ m c, val = some m ∧ s.files pid oid = some c ∧
        SameObjects (s.setFile pid oid (some (resized c (getNtohll m 0)))) t := by
  have hsame : SameObjects s s := ⟨rfl, rfl⟩
  by_cases hlen : IsLogicalLen page number
  · obtain ⟨rfl, rfl⟩ := hlen
    cases val with
    | none => exact fun _ _ h => nomatch h
    | some m =>
      intro ret t hrun
      have hrun : setLogicalLen env pid oid (getNtohll m 0) s = some (ret, t) := hrun
      rw [setLogicalLen_run] at hrun
      cases hlook : s.lookup env pid oid with
      | none =>
        rw [hlook] at hrun
        cases hrun
        exact .inl hsame
      | some c =>
        rw [hlook] at hrun
        dsimp only at hrun
        split at hrun
        · cases hrun
          exact .inl hsame
        · cases hrun
          exact .inr ⟨⟨rfl, rfl⟩, rfl, m, c, rfl, Target.files_of_lookup hlook, rfl, rfl⟩
  · exact attrSetAttr_ends (fun _ => .inl ⟨rfl, rfl⟩) (fun hp hn => absurd ⟨hp, hn⟩ hlen) fun _ _ => .inl hsame

/-- **GEN CAS leaves the store alone**, unless it swaps a logical length. -/
theorem osdGenCas_follows (h : Implements s S) {page number : UInt32} {cmp : Option Mem} {cmpLen : UInt16}
    {swap : Option Mem} {swapLen : UInt16} :
    Ends (osdGenCas env pid oid page number cmp cmpLen swap swapLen) s fun x =>
      Follows (.op (.genCas pid oid page number cmp cmpLen swap swapLen)) S (.original x.2) x.1 := by
  have hsame : ∀ {out : StoreOutput} {ret : Ret} {t : Target}, SameObjects s t →
      Follows (.op (.genCas pid oid page number cmp cmpLen swap swapLen)) S out ret t := fun ht =>
    ht.follows h (.inl rfl) rfl
  have hself : SameObjects s s := ⟨rfl, rfl⟩
  -- what is found decides whether the attribute is set, deleted or left
  have hrest : ∀ (ret : Ret) (val : List UInt8) {sets deletes : Prop} [Decidable sets] [Decidable deletes],
      (sets → 0 < swapLen) →
      Ends (if ret ≠ .ok ∧ ret ≠ .err .enoent then pure (hwErr pid oid, none)
        else if sets then
          attrSetAttr env pid oid page number swap swapLen >>= fun ret =>
            if ret ≠ .ok then pure (hwErr pid oid, none) else pure (.ok, some val)
        else if deletes then
          attrDeleteAttr env pid oid page number >>= fun ret =>
            if ret ≠ .ok then pure (hwErr pid oid, none) else pure (.ok, some val)
        else pure (.ok, if ret = .ok then some val else none) : OsdM (Ret × Option (List UInt8))) s fun x =>
          Follows (.op (.genCas pid oid page number cmp cmpLen swap swapLen)) S (.original x.2) x.1 := by
    intro ret val sets deletes _ _ hgiven
    refine ends_ite_of (fun _ => ends_pure.2 (hsame hself)) fun _ => ends_ite_of (fun hsets => ?_) fun _ =>
      ends_ite_of (fun _ => ?_) fun _ => ends_pure.2 (hsame hself)
    · refine ends_call attrSetAttr_content fun ret t ht => ?_
      rcases ht with ht | ⟨hlen, rfl, m, c, hswap, hfile, ht⟩
      · exact ends_ite_of (fun _ => ends_pure.2 (hsame ht)) fun _ => ends_pure.2 (hsame ht)
      · refine ends_ite_of (fun hno => absurd rfl hno) fun _ => ends_pure.2
          ⟨_, .inl ⟨rfl, .inr ⟨hlen, m, hswap, hgiven hsets, c, _, (h.object pid oid c).2 hfile, rfl, rfl⟩⟩,
            h.rewrite _ hfile ht.obj ht.files⟩
    · have hdeleted : SameObjects s (s.withoutAttr (attrRow pid oid page number []).key) := ⟨rfl, rfl⟩
      exact ends_bind.2 (attrDeleteAttr_ends
        (ends_ite_of (fun _ => ends_pure.2 (hsame hdeleted)) fun _ => ends_pure.2 (hsame hdeleted))
        (ends_ite_of (fun _ => ends_pure.2 (hsame hself)) fun _ => ends_pure.2 (hsame hself)))
  refine ends_bind.2 (isPresentUserobject_ends (ends_pure.2 (hsame hself)) fun _ => ?_)
  exact ends_bind.2 (attrGetVal_ends (fun _ => hrest _ _ fun hs => hs.1) (fun _ => hrest _ _ fun hs => hs.1)
    fun _ _ => hrest _ _ fun hs => hs.1)

/-! ## One command -/

/-- What is asked for in the runs below: CREATE AND WRITE names its object, REMOVE COLLECTION no user
object, the new ids do not count past 2^64, and FORMAT is left out. -/
def StoreRequest.Admitted (s : Target) : StoreRequest → Prop
  | .op (.createAndWrite pid oid ..) => oid ≠ 0 ∧ s.Fits pid oid 1
  | .op o => o.SparesUserobjects s ∧ o.Fits s
  | _ => True

/-- **Each command does to the store what it is meant to do.** -/
theorem StoreRequest.follows (henv : env.Reliable) (hout : env.ReadsOut) (hk : Kept s) (h : Implements s S)
    {r : StoreRequest} (hr : r.Admitted s) : Ends (r.run env) s fun x => Follows r S x.2 x.1 := by
  cases r with
  | append pid oid len data => exact ends_map.2 (contigAppend_follows h len data)
  | clear pid oid len offset => exact ends_map.2 (osdClear_follows h len offset)
  | punch pid oid len offset => exact ends_map.2 (osdPunch_follows hout h len offset)
  | read pid oid len offset => exact ends_map.2 (contigRead_follows h len offset)
  | op o =>
    have hadmits : ∀ r, Admits SameObjects r := SameObjects.admits
    cases o with
    | create => exact ends_map.2 (osdCreate_follows henv hk h hr.2)
    | createAndWrite pid oid len offset data sglist ddt =>
      exact ends_map.2 (osdCreateAndWrite_follows henv hk h hr.1 hr.2 ⟨ddt, len, offset, data, sglist⟩)
    | createCollection => exact ends_map.2 (osdCreateCollection_follows hk h)
    | createPartition => exact ends_map.2 (osdCreatePartition_follows hk h)
    | createUserTrackingCollection => exact ends_map.2 (osdCreateUserTrackingCollection_follows hk h)
    | remove => exact ends_map.2 (osdRemove_follows henv hk.files h)
    | removeCollection => exact ends_map.2 (osdRemoveCollection_follows henv hk h hr.1)
    | removePartition => exact ends_map.2 (osdRemovePartition_follows henv hk h)
    | write pid oid len offset data sglist ddt =>
      exact ends_map.2 (osdWrite_follows h ⟨ddt, len, offset, data, sglist⟩)
    | setAttributes => exact ends_map.2 (osdSetAttributes_follows h)
    | getattrList =>
      exact ends_map.2 ((osdGetattrList_stays fun _ _ r _ => hadmits r).mono fun _ _ ht => ht.follows h rfl rfl)
    | getattrPage =>
      exact ends_map.2 ((osdGetattrPage_stays fun _ _ r _ => hadmits r).mono fun _ _ ht => ht.follows h rfl rfl)
    | setMemberAttributes =>
      exact ends_map.2 ((osdSetMemberAttributes_stays (R := SameObjects) fun _ _ _ _ _ => ⟨rfl, rfl⟩).mono
        fun _ _ ht => ht.follows h rfl rfl)
    | cas => exact ends_map.2 ((osdCas_stays fun _ _ _ => hadmits _).mono fun _ _ ht => ht.follows h rfl rfl)
    | fa => exact ends_map.2 ((osdFa_stays fun _ _ _ => hadmits _).mono fun _ _ ht => ht.follows h rfl rfl)
    | genCas => exact ends_map.2 (osdGenCas_follows h)
    | formatOsd => exact absurd hr.1 id

/-! ## Runs -/

theorem StoreRequest.Admitted.spares {o : Op} (hr : StoreRequest.Admitted s (.op o)) :
    o.SparesUserobjects s := by
  cases o with
  | createAndWrite => trivial
  | _ => exact hr.1

theorem StoreRequest.Admitted.fits {o : Op} (hr : StoreRequest.Admitted s (.op o)) : o.Fits s := by
  cases o with
  | createAndWrite => exact hr.2
  | _ => exact hr.2

/-- What an object's content does not matter to is kept where nothing else changes. -/
theorem Kept.idStep (hk : Kept s) (hs : IdStep s t) : Kept t where
  zero := fun r hr => hk.zero r (hs.obj ▸ hr)
  files := hk.files.idStep hs
  ids := hk.ids.of_zero (fun r hr => hs.obj ▸ hr) (.inl hs.ic)
  root := by
    rw [Db.Has, hs.obj]
    exact hk.root

/-- The root does not go. -/
theorem ObjStep.root (h : ObjStep s t) (hroot : s.db.Has 0 0) : t.db.Has 0 0 := by
  obtain ⟨r, hr, hp, ho⟩ := hroot
  rcases h.gone r hr with hin | hne | ⟨hne, -⟩
  · exact ⟨r, hin, hp, ho⟩
  · exact absurd ho hne
  · exact absurd hp hne

/-- **One command keeps what the commands rely on.** -/
theorem Kept.step (hk : Kept s) (henv : env.Reliable) {r : StoreRequest} (hr : r.Admitted s) :
    Ends (r.exec env) s fun _ t => Kept t := by
  have hfile : ∀ p o, AdmitsFile (AttrStep fun _ _ => False) p o := AttrStep.admitsFile fun _ _ => False
  have hstays : ∀ t, AttrStep (fun _ _ => False) s t → Kept t := fun _ h => hk.idStep h.toIdStep
  cases r with
  | append pid oid len data =>
    exact (resp_contigAppend (hfile pid oid) len data s).mono fun _ => hstays
  | clear pid oid len offset =>
    exact (resp_osdClear (hfile pid oid) len offset s).mono fun _ => hstays
  | punch pid oid len offset =>
    exact (resp_osdPunch (hfile pid oid) len offset s).mono fun _ => hstays
  | read pid oid len offset =>
    exact ends_map.2 ((resp_contigRead len offset s).mono fun _ => hstays)
  | op o =>
    have hne : o ≠ .formatOsd := by
      rintro rfl
      exact hr.1
    exact (((hk.toFilesKept.step henv hr.spares).and (hk.ids.step hr.fits)).and o.exec_spec).mono
      fun _ t ⟨⟨hf, hi⟩, he⟩ => ⟨hf, hi, (he.objStep hne).root hk.root⟩

theorem StoreRequest.exec_of_run {r : StoreRequest} {x : Ret × StoreOutput} (h : r.run env s = some (x, t)) :
    r.exec env s = some (x.1, t) := by
  rw [r.exec_eq]
  exact map_run.2 ⟨x, h, rfl⟩

/-- One command and what it answers, with whatever goes wrong but DELETE and `unlink`; what one `pread` cannot
read whole fails. -/
def StoreStep (r : StoreRequest) (a : StoreAnswer) (s t : Target) : Prop :=
  r.Admitted s ∧ ∃ env : Env, env.Reliable ∧ env.ReadsOut ∧ ∃ x, r.run env s = some (x, t) ∧
    a = ⟨x.1, x.2, t.ccap, t.reply⟩

theorem simulates_store :
    Simulates StoreStep StoreRequest.Meets fun s S => Kept s ∧ Implements s S := by
  rintro r a s t S ⟨hk, h⟩ ⟨hr, env, henv, hout, x, hrun, rfl⟩
  obtain ⟨S', hmeets, himpl⟩ := r.follows henv hout hk h hr x t hrun
  exact ⟨S', hmeets, hk.step henv hr x.1 t (StoreRequest.exec_of_run hrun), himpl⟩

/-- A new device implements the store without partitions. -/
theorem Fresh.implements (hs : Fresh s) : Kept s ∧ Implements s .empty := by
  have hi := hs.initial
  have hrows : ∀ r ∈ s.db.obj, r = ⟨0, 0, .root⟩ := fun r hr => List.mem_singleton.1 (hi.obj ▸ hr)
  refine ⟨⟨hi.filesKept, ⟨fun r hr => ⟨0, ?_, .inl rfl⟩, fun hp => ?_⟩, ?_⟩,
    ⟨fun p => ?_, fun p o => ?_, fun p o c => ?_⟩⟩
  · rw [hrows r hr]
    rfl
  · rw [hi.ic] at hp
    exact absurd rfl hp
  · exact ⟨⟨0, 0, .root⟩, hi.obj ▸ List.mem_singleton.2 rfl, rfl, rfl⟩
  · refine iff_of_false id fun ⟨hp, r, hr, hk, _⟩ => hp ?_
    rw [hrows r hr] at hk
    exact bindInt64_inj.1 hk.symm
  · exact iff_of_false nofun fun hrow => nomatch congrArg ObjRow.type (hrows _ hrow)
  · rw [hi.files]
    exact iff_of_false nofun nofun

/-- The state and the answer of a command when nothing fails. -/
def StoreRequest.after (r : StoreRequest) (s : Target) : Target := ((r.run Env.calm s).map Prod.snd).getD s

def StoreRequest.answer (r : StoreRequest) (s : Target) : StoreAnswer :=
  let x := ((r.run Env.calm s).map Prod.fst).getD (.ok, .nothing)
  ⟨x.1, x.2, (r.after s).ccap, (r.after s).reply⟩

/-- A run in which nothing fails. -/
def calmTrace : List StoreRequest → Target → List (StoreRequest × StoreAnswer)
  | [], _ => []
  | r :: rs, s => (r, r.answer s) :: calmTrace rs (r.after s)

/-- Each command of the list is admitted and returns. -/
def Runs : List StoreRequest → Target → Prop
  | [], _ => True
  | r :: rs, s => r.Admitted s ∧ (r.run Env.calm s).isSome = true ∧ Runs rs (r.after s)

theorem Env.calm_readsOut : Env.calm.ReadsOut := fun _ _ _ _ _ h =>
  Option.some.inj h ▸ Nat.min_le_left _ _

theorem Runs.trace {rs : List StoreRequest} (h : Runs rs s) :
    ∃ t, Trace StoreStep s (calmTrace rs s) t := by
  induction rs generalizing s with
  | nil => exact ⟨s, .nil s⟩
  | cons r rs ih =>
    obtain ⟨hr, hsome, hrest⟩ := h
    obtain ⟨⟨x, u⟩, hrun⟩ := Option.isSome_iff_exists.1 hsome
    have hafter : r.after s = u := by
      rw [StoreRequest.after, hrun]
      rfl
    obtain ⟨t, ht⟩ := ih hrest
    refine ⟨t, .cons ⟨hr, Env.calm, Env.calm_reliable, Env.calm_readsOut, x, ?_, ?_⟩ ht⟩
    · rw [hafter, hrun]
    · rw [StoreRequest.answer, hrun]
      rfl

/-- An id that is requested does not count past 2^64. -/
theorem Target.fits_requested {requested : UInt64} {numoid : UInt16} (h0 : requested ≠ 0)
    (hfit : requested.toNat + (atLeastOne numoid).toNat < 2 ^ 64) : s.Fits pid requested numoid := by
  rintro oid ⟨-, -, -, ic, hpick⟩
  rcases hpick with ⟨h, -⟩ | ⟨-, rfl, -⟩
  · exact absurd h h0
  · exact hfit

/-- Two objects are made and written, and one of them is read. -/
def writtenAndRead : List StoreRequest :=
  [.op (.createPartition 0x10000), .op (.create 0x10000 0x10000 1), .op (.create 0x10000 0x10001 1),
    .op (.write 0x10000 0x10000 3 2 (blobMem [1, 2, 3]) ⟨0, blobMem []⟩ DDT_CONTIG),
    .append 0x10000 0x10001 2 (some (blobMem [7, 8])), .read 0x10000 0x10000 3 2]

theorem writtenAndRead_runs : Runs writtenAndRead Target.fresh := by
  refine ⟨⟨trivial, trivial⟩, by decide +kernel, ⟨trivial, Target.fits_requested (by decide) (by decide)⟩,
    by decide +kernel, ⟨trivial, Target.fits_requested (by decide) (by decide)⟩, by decide +kernel,
    ⟨trivial, trivial⟩, by decide +kernel, trivial, by decide +kernel, trivial, by decide +kernel, trivial⟩

/-- The commands that may change what the id names; of its attributes that is the logical length. -/
def StoreRequest.Changes (pid oid : UInt64) : StoreRequest → Prop
  | .op (.write p o ..) | .op (.remove p o) | .op (.removeCollection p o _) | .append p o _ _ | .clear p o _ _
  | .punch p o _ _ => p = pid ∧ o = oid
  | .op (.setAttributes p o page number ..) | .op (.genCas p o page number ..) =>
    (p = pid ∧ o = oid) ∧ IsLogicalLen page number
  | _ => False

/-- What an id names stays as it is under the other commands. -/
theorem StoreRequest.Meets.entry {r : StoreRequest} {a : StoreAnswer} {S S' : Store}
    {e : StoreEntry (List UInt8)} (h : r.Meets a S S') (hr : ¬ r.Changes pid oid)
    (he : S.entry pid oid = some e) : S'.entry pid oid = some e := by
  have hgains : ∀ {p : UInt64} {ids e'}, Gains S S' p ids e' → S'.entry pid oid = some e := by
    rintro p ids e' ⟨hfree, hp, rfl⟩
    exact ObjectStore.entry_add hp hfree he
  have htouches : ∀ {p o : UInt64}, ¬ (p = pid ∧ o = oid) → Touches S S' p o →
      S'.entry pid oid = some e := by
    rintro p o hne ⟨c, rfl⟩
    exact (ObjectStore.entry_rewrite hne c).trans he
  have hrefills : ∀ {p o : UInt64} {R}, ¬ (p = pid ∧ o = oid) → Refills S S' p o R →
      S'.entry pid oid = some e := by
    rintro p o R hne ⟨c, c', -, -, rfl⟩
    exact htouches hne ⟨c', rfl⟩
  have hsame : S' = S → S'.entry pid oid = some e := by
    rintro rfl
    exact he
  cases r with
  | append => exact h.elim (fun h => hrefills hr h.2) fun h => htouches hr h.2
  | clear => exact h.elim (fun h => hrefills hr h.2) fun h => htouches hr h.2
  | punch => exact h.elim (fun h => hrefills hr h.2) fun h => htouches hr h.2
  | read => exact hsame h.1
  | op o =>
    rcases h with ⟨-, h⟩ | ⟨-, h⟩
    · cases o with
      | create => obtain ⟨_, _, _, _, h⟩ := h; exact hgains h
      | createAndWrite => obtain ⟨_, _, h⟩ := h; exact hgains h
      | createCollection => obtain ⟨_, _, _, _, h⟩ := h; exact hgains h
      | createUserTrackingCollection => obtain ⟨_, _, _, _, h⟩ := h; exact hgains h
      | createPartition => obtain ⟨_, _, _, _, rfl⟩ := h; exact he
      | remove => obtain rfl := h; exact (ObjectStore.entry_drop hr).trans he
      | removeCollection => obtain rfl := h; exact (ObjectStore.entry_drop hr).trans he
      | removePartition => obtain ⟨_, rfl⟩ := h; exact he
      | write => exact hrefills hr h
      | genCas =>
        rcases h with h | ⟨hlen, _, _, _, h⟩
        · exact hsame h
        · exact hrefills (fun hk => hr ⟨hk, hlen⟩) h
      | setAttributes =>
        simp only [Op.Done] at h
        split at h
        · rename_i hlen
          exact hrefills (fun hk => hr ⟨hk, hlen⟩) h
        · exact hsame h
      | formatOsd => exact absurd h id
      | _ => exact hsame h
    · cases o with
      | write => exact htouches hr h
      | _ => exact hsame h

end OsdTarget
