import OsdTarget.StoreCommands

/-!
# Objects of the store

The commands on the content of objects, CREATE AND WRITE and REMOVE, as commands to the store.
-/

namespace OsdTarget

open Base

variable {env : Env} {s t : Target} {pid oid : UInt64} {S : Store}

/-! ## Writers -/

/-- A sound layout is stored as it is meant, whatever was there. -/
theorem Layout.plan_stores {l : Layout} (hl : l.Known) (hfin : l.Finite)
    (ht : ∀ c ∈ l.plan.1, env.Takes pid oid c) (hs : l.Sound) (content : List UInt8) :
    stores 0 content (l.plan.1.map Chunk.write) = stores 0 content l.writes := by
  rcases hl with hc | hg | hv
  · unfold plan writes
    rw [if_pos hc, if_pos hc]
    rfl
  · have hnc : ¬ l.ddt = DDT_CONTIG := by rw [hg]; decide
    have hn := hfin.1 hg
    have hplan : l.plan.1 = l.sglist.chunks l.offset l.data l.sglist.numEntries.toNat 0 0 := by
      unfold plan
      rw [if_neg hnc, if_pos hg]
      show l.sglist.chunks l.offset l.data (min _ _) 0 0 = _
      rw [Nat.min_eq_left (Nat.le_of_lt hn)]
    rw [hplan] at ht ⊢
    unfold writes
    rw [if_neg hnc, if_pos hg]
    refine stores_congr (l.sglist.chunks_same l.offset l.data UInt64.toNat_zero (Nat.zero_le _) (by omega)
      (fun c hc => ?_) fun j _ hj => hs.1 hg j (by omega))
    obtain ⟨-, limit, -, hlen⟩ := ht c hc
    omega
  · have hnc : ¬ l.ddt = DDT_CONTIG := by rw [hv]; decide
    have hns : ¬ l.ddt = DDT_SGL := by rw [hv]; decide
    unfold plan writes
    rw [if_neg hnc, if_neg hns, if_neg hnc, if_neg hns]
    by_cases hlen : l.len = 16
    · have hnone : vecWrites l.offset.toNat l.stride.toNat l.pieceLen.toNat l.data (l.len.toNat - 16)
          = [] := by
        rw [hlen]
        unfold vecWrites
        show (List.range ((0 + l.pieceLen.toNat - 1) / l.pieceLen.toNat)).map _ = []
        rcases Nat.eq_zero_or_pos l.pieceLen.toNat with h | h
        · rw [h]
          rfl
        · rw [Nat.div_eq_of_lt (by omega)]
          rfl
      rw [hnone, hlen]
      rfl
    · obtain ⟨hlong, hle, hin⟩ := hs.2 hv hlen
      have hL : 0 < l.pieceLen.toNat :=
        Nat.pos_of_ne_zero fun h => (hfin.2 hv).resolve_left hlen (UInt64.toNat_inj.1 h)
      have hpayload : (l.len - 16).toNat = l.len.toNat - 16 :=
        UInt64.toNat_sub_of_le _ _ (UInt64.le_iff_toNat_le.2 (Nat.le_of_lt hlong))
      have hlt := l.len.toNat_lt
      have hchunks : (vecChunks l.offset l.stride l.data (2 ^ 64 + 1) (l.len - 16) l.pieceLen 16 0).1.map
          Chunk.write = (List.range' 0 ((l.len.toNat - 16 - 0 * l.pieceLen.toNat + l.pieceLen.toNat - 1)
            / l.pieceLen.toNat)).map fun k => ⟨l.offset.toNat + k * l.stride.toNat,
              l.data.read (16 + k * l.pieceLen.toNat)
                (min l.pieceLen.toNat (l.len.toNat - 16 - k * l.pieceLen.toNat))⟩ :=
        vecChunks_writes hL (by omega) hin (by omega) (by omega) (fun _ => by rw [Nat.zero_mul]; rfl)
          (fun _ => by rw [Nat.zero_mul]; rfl) (by omega)
      rw [hchunks]
      unfold vecWrites
      rw [Nat.zero_mul, Nat.sub_zero, List.range_eq_range']

/-- **WRITE stores what it is meant to store** in an object that is there. -/
theorem osdWrite_follows (h : Implements s S) (l : Layout) :
    Ends (osdWrite env pid oid l.len l.offset l.data l.sglist l.ddt) s
      (Follows (.op (.write pid oid l.len l.offset l.data l.sglist l.ddt)) S .nothing) := by
  intro ret t hrun
  by_cases href : isUserobjectId pid oid = false ∨ s.lookup env pid oid = none
  · rw [osdWrite_refused href] at hrun
    cases hrun
    exact .refused nofun (S.exists_rewrite_self pid oid) h
  obtain ⟨hid, hlook⟩ := not_or.1 href
  obtain ⟨content, hlook⟩ := Option.ne_none_iff_exists'.1 hlook
  have hfile := Target.files_of_lookup hlook
  obtain ⟨hendless, hok, hfail⟩ := osdWrite_outcomes (l := l) (by simpa using hid) hlook
  by_cases hfin : env.TakesAll pid oid l → l.Finite
  · by_cases hst : env.Stores pid oid l
    · rw [hok hst (hfin hst.1)] at hrun
      cases hrun
      exact ⟨_, .inl ⟨rfl, content, _, (h.object pid oid content).2 hfile, fun hs =>
        Layout.plan_stores hst.1.1 (hfin hst.1) hst.1.2.2 hs content, rfl⟩, h.rewrite _ hfile rfl rfl⟩
    · obtain ⟨ret', content', hno, hfailed⟩ := hfail hst hfin
      rw [hfailed] at hrun
      cases hrun
      exact ⟨_, .inr ⟨hno, content', rfl⟩, h.rewrite _ hfile rfl rfl⟩
  · obtain ⟨ht, hfin⟩ := Classical.not_imp.1 hfin
    rw [hendless ht hfin] at hrun
    cases hrun

/-! ## REMOVE -/

/-- Whatever the id names goes. -/
theorem osdRemove_drops (henv : env.Reliable) (hs : s.FilesAgree) (h : Implements s S)
    (hid : isUserobjectId pid oid = true) :
    Ends (osdRemove env pid oid) s fun ret t => ret = .ok ∧ Implements t (S.drop pid oid) := by
  intro ret t hrun
  obtain ⟨v, hv, hdb, hfiles⟩ := osdRemove_run hid (env.deletes_of_not henv.deletes s.db _ _)
  rw [hv] at hrun
  cases hrun
  have hoid : oid ≠ 0 := by
    rintro rfl
    exact absurd (isUserobjectId_le hid) (by decide)
  have hroot : (s.rootFreed && env.rootGarbled) = false := by
    rw [hs.rootFreed]
    rfl
  refine ⟨rfl, h.drop hoid (congrArg Db.obj hdb) ?_⟩
  rw [hfiles]
  exact Target.unlinkedFiles_eq_iff.2 (.inr ⟨hroot, henv.unlink pid oid⟩)

theorem osdRemove_follows (henv : env.Reliable) (hs : s.FilesAgree) (h : Implements s S) :
    Ends (osdRemove env pid oid) s (Follows (.op (.remove pid oid)) S .nothing) := by
  by_cases hid : isUserobjectId pid oid = true
  · exact (osdRemove_drops henv hs h hid).mono fun ret t ⟨hret, ht⟩ => ⟨_, .inl ⟨hret, rfl⟩, ht⟩
  · intro ret t hrun
    rw [osdRemove_refused hid] at hrun
    cases hrun
    exact .refused nofun rfl h

/-! ## CREATE AND WRITE -/

/-- An id that is requested and taken is one of a user object. -/
theorem osdCreate_inRange {requested : UInt64} {numoid : UInt16} (h0 : requested ≠ 0) :
    Ends (osdCreate env pid requested numoid) s fun ret _ =>
      ret = .ok → isUserobjectId pid requested = true := by
  refine osdCreate_ends (fun ret ic hno _ hret => absurd hret hno) fun oid ic hpid _ _ hpick _ _ _ _ => ?_
  rcases hpick with ⟨h, -⟩ | ⟨-, rfl, hoid, -⟩
  · exact absurd h h0
  · exact Bool.and_eq_true_iff.2 ⟨decide_eq_true hpid, decide_eq_true hoid⟩

theorem idsFrom_one (oid : UInt64) : idsFrom oid 1 = [oid] := by
  show [oid + UInt64.ofNat 0] = [oid]
  rw [show UInt64.ofNat 0 = 0 from rfl, UInt64.add_zero]

/-- **CREATE AND WRITE of a requested id adds an object with its content**, or does nothing. -/
theorem osdCreateAndWrite_follows (henv : env.Reliable) (hk : Kept s) (h : Implements s S) (h0 : oid ≠ 0)
    (hfits : s.Fits pid oid 1) (l : Layout) :
    Ends (osdCreateAndWrite env pid oid l.len l.offset l.data l.sglist l.ddt) s
      (Follows (.op (.createAndWrite pid oid l.len l.offset l.data l.sglist l.ddt)) S .nothing) := by
  refine ends_call (((osdCreate_follows henv hk h hfits).and (osdCreate_agrees henv pid oid 1 hk.files)).and
    (osdCreate_inRange h0)) fun ret t ⟨⟨⟨S₁, hmeets, himpl⟩, hagrees⟩, hid⟩ => ?_
  refine ends_ite_of (fun hret => ends_pure.2 ?_) fun hret => ?_
  · obtain ⟨-, rfl⟩ := hmeets.resolve_left fun hok => hret hok.1
    exact .refused hret rfl himpl
  obtain rfl := not_not.1 hret
  obtain ⟨-, oid', hreq, -, -, hfree, hp, rfl⟩ := hmeets.resolve_right fun hno => hno.1 rfl
  obtain rfl := hreq h0
  rw [show (atLeastOne 1).toNat = 1 from rfl, idsFrom_one] at hfree himpl
  refine ends_call ((osdWrite_follows himpl l).and (resp_osdWrite (AttrStep.admitsFile (fun _ _ => False) pid oid')
    l.len l.offset l.data l.sglist l.ddt t)) fun ret v ⟨⟨S₂, hwrite, himpl₂⟩, hstep⟩ => ?_
  have hagrees₂ := hagrees.idStep hstep.toIdStep
  refine ends_ite_of (fun hret => ?_) fun hret => ends_pure.2 ?_
  · obtain ⟨-, c, rfl⟩ := hwrite.resolve_left fun hok => hret hok.1
    rw [ObjectStore.rewrite_add] at himpl₂
    refine ends_call (osdRemove_drops henv hagrees₂ himpl₂ (hid rfl)) fun _ w ⟨_, hw⟩ => ends_pure.2 ?_
    rw [ObjectStore.drop_add _ hp (hfree oid' List.mem_cons_self)] at hw
    exact .refused hret rfl hw
  · obtain ⟨hok, c, c', hentry, hstored, rfl⟩ := hwrite.resolve_right fun hno => hret hno.1
    rw [ObjectStore.rewrite_add] at himpl₂
    have hempty : (S.add pid [oid'] (.object []) hp).entry pid oid' = some (.object []) :=
      if_pos ⟨rfl, List.mem_cons_self⟩
    obtain rfl := StoreEntry.object.inj (Option.some.inj (hempty.symm.trans hentry))
    exact ⟨_, .inl ⟨hok, c', hstored, hfree, hp, rfl⟩, himpl₂⟩

/-! ## APPEND, CLEAR and PUNCH -/

/-- At most the content of an object that is there is another. -/
structure ContentOnly (pid oid : UInt64) (s t : Target) : Prop where
  obj : t.db.obj = s.db.obj
  files : t.files = s.files ∨ ∃ c c', s.files pid oid = some c ∧
    t.files = (s.setFile pid oid (some c')).files

instance : Untransacted (ContentOnly pid oid) where
  same s t hdb _ hfiles _ _ _ := ⟨by rw [hdb], .inl hfiles⟩
  txn s _ _ := ⟨rfl, .inl rfl⟩
  trans s t v h h' := by
    refine ⟨h'.obj.trans h.obj, ?_⟩
    rcases h.files with hf | ⟨c, c', hc, hf⟩
    · rw [← hf]
      refine h'.files.imp_right fun ⟨c, c', hc, hf'⟩ => ⟨c, c', hc, hf'.trans ?_⟩
      funext p o
      rw [Target.setFile_files, Target.setFile_files, hf]
    · rcases h'.files with hf' | ⟨_, d, -, hf'⟩
      · exact .inr ⟨c, c', hc, hf'.trans hf⟩
      · refine .inr ⟨c, d, hc, hf'.trans ?_⟩
        funext p o
        rw [Target.setFile_files, Target.setFile_files, hf, Target.setFile_files]
        split
        · rfl
        · rfl

theorem ContentOnly.admitsFile : AdmitsFile (ContentOnly pid oid) pid oid :=
  fun _ c c' hc => ⟨rfl, .inr ⟨c, c', hc, rfl⟩⟩

theorem Implements.touches (h : Implements s S) (ht : ContentOnly pid oid s t) :
    ∃ S', Touches S S' pid oid ∧ Implements t S' := by
  rcases ht.files with hfiles | ⟨c, c', hc, hfiles⟩
  · exact ⟨S, S.exists_rewrite_self pid oid, h.of_eq ht.obj hfiles⟩
  · exact ⟨_, ⟨c', rfl⟩, h.rewrite c' hc ht.obj hfiles⟩

/-- What is written to a file that is there. -/
theorem storeAll_follows (h : Implements s S) {content : List UInt8} (hlook :
    s.lookup env pid oid = some content)
    (cs : List Chunk) (appendOff : UInt64) : Ends (storeAll env pid oid cs appendOff) s fun ret t => ∃ S',
      (ret = .ok ∧ S' = S.rewrite pid oid (stores 0 content (cs.map Chunk.write)) ∨
        ret ≠ .ok ∧ Touches S S' pid oid) ∧ Implements t S' := by
  have hfile := Target.files_of_lookup hlook
  intro ret t hrun
  by_cases hw : env.WritesOut pid oid cs
  · rw [storeAll_ok hlook hw] at hrun
    cases hrun
    exact ⟨_, .inl ⟨rfl, rfl⟩, h.rewrite _ hfile rfl rfl⟩
  · obtain ⟨content', hfailed⟩ := storeAll_hwErr hlook hw appendOff
    rw [hfailed] at hrun
    cases hrun
    exact ⟨_, .inr ⟨nofun, content', rfl⟩, h.rewrite _ hfile rfl rfl⟩

/-- **APPEND adds to the end** of an object that is there. -/
theorem contigAppend_follows (h : Implements s S) (len : UInt64) (data : Option Mem) :
    Ends (contigAppend env pid oid len data) s (Follows (.append pid oid len data) S .nothing) := by
  have hno : ∀ {ret : Ret}, ret ≠ .ok → Ends (pure ret : OsdM Ret)
      s (Follows (.append pid oid len data) S .nothing) :=
    fun hret => ends_pure.2 ⟨S, .inr ⟨hret, S.exists_rewrite_self pid oid⟩, h⟩
  cases data with
  | none => exact hno nofun
  | some data =>
    refine ends_ite_of (fun _ => hno nofun) fun _ => ends_bind.2 (ends_get.2 ?_)
    cases hlook : s.lookup env pid oid with
    | none => exact hno nofun
    | some content =>
      have hentry := (h.object pid oid content).2 (Target.files_of_lookup hlook)
      refine ends_ite_of (fun _ => hno nofun) fun _ => ends_ite_of (fun _ => hno nofun) fun _ => ?_
      have hstored := storeAll_follows h hlook [⟨UInt64.ofNat content.length, len, data⟩]
        (UInt64.ofNat content.length)
      rw [storeAll_single] at hstored
      refine hstored.mono fun ret t ⟨S', hmeets, himpl⟩ => ⟨S',
        hmeets.imp_left fun ⟨hok, hS'⟩ => ⟨hok, ?_⟩, himpl⟩
      refine ⟨content, _, hentry, fun hshort => ⟨data, rfl, ?_⟩, hS'⟩
      have hlen : (UInt64.ofNat content.length).toNat = content.length := UInt64.toNat_ofNat_of_lt hshort
      show stores 0 content [⟨(UInt64.ofNat content.length).toNat, data.read 0 len.toNat⟩] = _
      rw [hlen, stores_end]

/-- **CLEAR stores zeros** in an object that is there. -/
theorem osdClear_follows (h : Implements s S) (len offset : UInt64) :
    Ends (osdClear env pid oid len offset) s (Follows (.clear pid oid len offset) S .nothing) := by
  have hsame := S.exists_rewrite_self pid oid
  rw [osdClear_eq]
  refine ends_ite_of (fun _ => ends_pure.2 ⟨S, .inr ⟨nofun, hsame⟩, h⟩) fun _ => ?_
  by_cases hopen : isUserobjectId pid oid = false ∨ s.lookup env pid oid = none ∨
      env.sysFails (.openFile pid oid) = true
  · intro ret t hrun
    unfold writeOut at hrun
    rw [onDatafile_refused hopen] at hrun
    cases hrun
    exact ⟨S, .inr ⟨nofun, hsame⟩, h⟩
  · obtain ⟨hid, hlook⟩ := not_or.1 hopen
    obtain ⟨hlook, hopen⟩ := not_or.1 hlook
    obtain ⟨content, hlook⟩ := Option.ne_none_iff_exists'.1 hlook
    have hstored := storeAll_follows h hlook [⟨offset, len, fun _ => 0⟩] 0
    intro ret t hrun
    unfold writeOut at hrun
    rw [onDatafile_opened (by simpa using hid) hlook (by simpa using hopen)] at hrun
    obtain ⟨S', hmeets, himpl⟩ := hstored ret t hrun
    refine ⟨S', hmeets.imp_left fun ⟨hok, hS'⟩ => ⟨hok, ?_⟩, himpl⟩
    refine ⟨content, _, (h.object pid oid content).2 (Target.files_of_lookup hlook), ?_, hS'⟩
    rw [List.map_singleton, Chunk.write, read_zeros]

/-- The content of an object that is there, whether it is another now or not. -/
theorem Implements.refilled (h : Implements s S) (ht : ContentOnly pid oid s t) {c : List UInt8}
    (hc : s.files pid oid = some c) :
    ∃ c', t.files pid oid = some c' ∧ Implements t (S.rewrite pid oid c') := by
  rcases ht.files with hfiles | ⟨_, c', -, hfiles⟩
  · refine ⟨c, by rw [hfiles, hc], ?_⟩
    rw [ObjectStore.rewrite_same ((h.object pid oid c).2 hc)]
    exact h.of_eq ht.obj hfiles
  · exact ⟨c', by rw [hfiles, files_setFile], h.rewrite c' hc ht.obj hfiles⟩

/-- A `pread` that does not fail reads as much as one call reads. -/
def Env.ReadsOut (env : Env) : Prop :=
  ∀ pid oid off len limit, env.pread pid oid off len = some limit → min len.toNat 0x7ffff000 ≤ limit

theorem truncateFile_content {content : List UInt8} (hfile : s.files pid oid = some content) (n : UInt64) :
    Ends (truncateFile env pid oid n) s fun ok t => ok = true →
      t.files pid oid = some (content.take n.toNat ++ List.replicate (n.toNat - content.length) 0) := by
  refine ends_bind.2 (ends_get.2 ?_)
  cases hlook : s.lookup env pid oid with
  | none => exact ends_pure.2 nofun
  | some c =>
    obtain rfl := Option.some.inj (hfile.symm.trans (Target.files_of_lookup hlook))
    exact ends_ite_of (fun _ => ends_pure.2 nofun) fun _ =>
      ends_bind.2 (ends_set.2 (ends_pure.2 fun _ => files_setFile _))

/-- A tail that is moved with success has moved whole. -/
theorem punchTail_content (hout : env.ReadsOut) {content : List UInt8} {newOffset newLen offset : UInt64}
    (hlook : s.lookup env pid oid = some content) (hoff : offset.toNat ≤ content.length)
    (hlen : newLen.toNat = content.length - newOffset.toNat) :
    Ends (punchTail env pid oid offset newOffset newLen) s fun ret t => ret = .ok →
      t.files pid oid = some (content.take offset.toNat ++ content.drop newOffset.toNat) := by
  refine ends_ite_of (fun _ => ends_pure.2 nofun) fun _ => ends_bind.2 (ends_get.2 ?_)
  cases hread : preadFile env s pid oid newOffset newLen with
  | none => exact ends_pure.2 nofun
  | some bytes =>
    let c : Chunk := ⟨offset, newLen, env.stack.write 0 bytes⟩
    obtain ⟨ret, content', hrun, hret, hstored⟩ := pwriteFile_run hlook c
    refine ends_bind.2 ((ends_of_run hrun).2 (ends_ite_of (fun _ => ends_pure.2 nofun) fun hall => ?_))
    have hall : ret = some c.len.toNat := not_not.1 hall
    obtain rfl := hstored hall
    obtain ⟨hend, _, -, hle⟩ := hret.1 hall
    have hend : offset.toNat + newLen.toNat < 2 ^ 63 := hend
    -- one call reads what one call stores
    have hshort : newLen.toNat ≤ 0x7ffff000 := Nat.le_trans hle (Nat.min_le_right _ _)
    have hbytes : bytes = content.drop newOffset.toNat := by
      unfold preadFile at hread
      rw [hlook] at hread
      split at hread
      · rename_i limit heq hlimit
        cases heq
        split at hread
        · cases hread
        · have hlimit' := hout _ _ _ _ _ hlimit
          rw [← Option.some.inj hread]
          exact List.take_of_length_le (by rw [List.length_drop]; omega)
      · cases hread
    subst hbytes
    have hdata : c.write = ⟨offset.toNat, content.drop newOffset.toNat⟩ := by
      refine congrArg _ (Eq.trans ?_ (Mem.read_write_self env.stack 0 _))
      rw [List.length_drop, ← hlen]
    have hsum : (offset + newLen).toNat = offset.toNat + (content.length - newOffset.toNat) := by
      rw [UInt64.toNat_add, hlen]
      exact Nat.mod_eq_of_lt (by omega)
    have htrunc : Ends (truncateFile env pid oid (offset + newLen))
        (s.setFile pid oid (some (c.write.store 0 content))) _ :=
      truncateFile_content (files_setFile (some (c.write.store 0 content))) (offset + newLen)
    rw [hdata, hsum, cut_moved hoff] at htrunc
    refine ends_call (hdata ▸ htrunc) fun ok t hcut => ends_ite_of (fun _ => ends_pure.2 nofun) fun hok => ?_
    exact ends_ite_of (fun _ => ends_pure.2 nofun) fun _ => ends_pure.2 fun _ => hcut (by simpa using hok)

/-- Where PUNCH answers OSD_OK the range lies in the object, and is gone. -/
theorem osdPunch_content (hout : env.ReadsOut) (len offset : UInt64) :
    Ends (osdPunch env pid oid len offset) s fun ret t => ret = .ok → ∃ content,
      s.files pid oid = some content ∧ offset.toNat ≤ content.length ∧
        (content.length < 2 ^ 63 → offset.toNat + len.toNat < 2 ^ 64 →
          t.files pid oid = some (removeRange content offset.toNat len.toNat)) := by
  refine ends_ite_of (fun _ => ends_pure.2 nofun) fun _ => ends_bind.2 (ends_get.2 ?_)
  cases hlook : s.lookup env pid oid with
  | none => exact ends_pure.2 nofun
  | some content =>
    have hfile := Target.files_of_lookup hlook
    refine ends_ite_of (fun _ => ends_pure.2 nofun) fun _ => ends_ite_of (fun _ => ends_pure.2 nofun) fun _ =>
      ends_ite_of (fun _ => ends_pure.2 nofun) fun hoff => ?_
    have hoff : offset.toNat ≤ content.length := Nat.not_lt.1 hoff
    have hsum : offset.toNat + len.toNat < 2 ^ 64 → (len + offset).toNat = offset.toNat + len.toNat := fun h =>
      (sum_toNat len offset).trans (Nat.mod_eq_of_lt h)
    refine ends_ite_of (fun hcut => ?_) fun hcut => ?_
    · refine ends_call (truncateFile_content hfile offset) fun ok t ht =>
        ends_ite_of (fun _ => ends_pure.2 nofun) fun hok => ends_ite_of (fun _ => ends_pure.2 nofun) fun _ =>
          ends_pure.2 fun _ => ⟨content, hfile, hoff, fun _ hfits => ?_⟩
      rw [ht (by simpa using hok), Nat.sub_eq_zero_of_le hoff, List.replicate_zero, List.append_nil, removeRange,
        List.drop_of_length_le (Nat.le_of_lt (hsum hfits ▸ hcut)), List.append_nil]
    · by_cases hsize : content.length < 2 ^ 63
      · have hnew : (len + offset).toNat ≤ content.length := Nat.not_lt.1 hcut
        refine (punchTail_content hout hlook hoff (tailLen_toNat hsize hnew)).mono fun ret t ht hret =>
          ⟨content, hfile, hoff, fun _ hfits => ?_⟩
        rw [ht hret, hsum hfits, removeRange]
      · exact fun _ _ _ _ => ⟨content, hfile, hoff, fun h => absurd h hsize⟩

/-- **PUNCH takes the range out** of an object that is there. -/
theorem osdPunch_follows (hout : env.ReadsOut) (h : Implements s S) (len offset : UInt64) :
    Ends (osdPunch env pid oid len offset) s (Follows (.punch pid oid len offset) S .nothing) := by
  refine ((resp_osdPunch ContentOnly.admitsFile len offset s).and (osdPunch_content hout len offset)).mono
    fun ret t ⟨ht, hok⟩ => ?_
  by_cases hret : ret = .ok
  · obtain ⟨content, hfile, hin, hgone⟩ := hok hret
    obtain ⟨content', hfile', himpl⟩ := h.refilled ht hfile
    refine ⟨_, .inl ⟨hret, content, content', (h.object pid oid content).2 hfile, ⟨hin, fun hsize hfits => ?_⟩, rfl⟩,
      himpl⟩
    exact Option.some.inj (hfile'.symm.trans (hgone hsize hfits))
  · obtain ⟨S', htouches, himpl⟩ := h.touches ht
    exact ⟨S', .inr ⟨hret, htouches⟩, himpl⟩

/-! ## READ -/

/-- What is stored in the reply buffer is what it holds there. -/
theorem reply_padded (s : Target) (bytes pad : List UInt8) (c : Ccap) :
    (Target.reply { s with out := s.out ++ [(0, bytes)] ++ [(bytes.length, pad)], ccap := c }).read 0
      (bytes ++ pad).length = bytes ++ pad := by
  simp only [Target.reply, List.foldl_append, List.foldl_cons, List.foldl_nil]
  refine Mem.read_append.2 ⟨?_, ?_⟩
  · rw [Mem.read_write_of_disjoint (.inl (Nat.le_of_eq (Nat.zero_add _))), Mem.read_write_self]
  · rw [Nat.zero_add, Mem.read_write_self]

/-- What `pread` gives is a piece of the content, from the offset on. -/
theorem preadFile_take {content bytes : List UInt8} {offset len : UInt64}
    (hlook : s.lookup env pid oid = some content) (hread : preadFile env s pid oid offset len = some bytes) :
    bytes.length ≤ len.toNat ∧ (content.drop offset.toNat).take bytes.length = bytes := by
  obtain ⟨k, hk, rfl⟩ : ∃ k ≤ len.toNat, bytes = (content.drop offset.toNat).take k := by
    unfold preadFile at hread
    rw [hlook] at hread
    split at hread
    · rename_i limit heq _
      cases heq
      split at hread
      · cases hread
      · exact ⟨_, by omega, (Option.some.inj hread).symm⟩
    · cases hread
  refine ⟨Nat.le_trans (List.length_take_le _ _) hk, ?_⟩
  rw [List.length_take, List.take_eq_take_min, Nat.min_assoc, Nat.min_self]
  exact List.take_eq_take_min.symm

/-- **READ replies with the content of the object**, and leaves it as it is. -/
theorem contigRead_follows (h : Implements s S) (len offset : UInt64) :
    Ends (contigRead env pid oid len offset) s fun x => Follows (.read pid oid len offset) S (.used x.2) x.1 := by
  have hno : ∀ {out : StoreOutput} {ret : Ret} {t : Target}, ret ≠ .ok → (∀ n, ret ≠ readPastEnd pid oid n) →
      t.db = s.db → t.files = s.files → Follows (.read pid oid len offset) S out ret t := fun hret hend hdb hfiles =>
    ⟨S, ⟨rfl, fun n hn => hn.elim (fun hok => absurd hok.1 hret) fun hn => absurd hn (hend n)⟩,
      h.of_eq (congrArg Db.obj hdb) hfiles⟩
  refine ends_ite_of (fun _ => ends_pure.2 (hno nofun nofun rfl rfl)) fun _ =>
    ends_bind.2 ((ends_of_run openFile_run).2 (ends_ite_of (fun _ => ends_pure.2 (hno nofun nofun rfl rfl))
      fun hopen => ends_bind.2 (ends_get.2 ?_)))
  obtain ⟨content, hlook⟩ : ∃ content, s.lookup env pid oid = some content := by
    rw [← Option.isSome_iff_exists]
    simp only [Bool.not_eq_true', Bool.and_eq_false_iff, not_or, Bool.not_eq_false] at hopen
    exact hopen.1
  have hentry := (h.object pid oid content).2 (Target.files_of_lookup hlook)
  cases hread : preadFile env s pid oid offset len with
  | none => exact ends_pure.2 (hno nofun nofun rfl rfl)
  | some bytes =>
    obtain ⟨hle, htake⟩ := preadFile_take hlook hread
    refine ends_bind.2 (ends_modify.2 (ends_ite_of (fun _ => ends_pure.2 (hno nofun nofun rfl rfl)) fun _ => ?_))
    refine ends_ite_of (fun hshort => ?_) fun hfull => ?_
    · -- behind the end there are only zeros
      refine ends_bind.2 (ends_modify.2 (ends_bind.2 (ends_modify.2 (ends_ite_of (fun _ => ends_pure.2 ?_)
        fun h => absurd hshort h))))
      refine ⟨S, ⟨rfl, fun n hn => ⟨rfl, content, hentry, ?_⟩⟩, h.of_eq rfl rfl⟩
      have hn : n.toNat = bytes.length := by
        rcases hn with ⟨hok, -⟩ | hend
        · cases hok
        · have hsame : UInt64.ofNat bytes.length = n := by
            simpa [readPastEnd, senseBuildSddCsi] using hend
          rw [← hsame]
          exact UInt64.toNat_ofNat_of_lt (Nat.lt_trans hshort len.toNat_lt)
      rw [hn, htake]
      have hreply := reply_padded s bytes (List.replicate (len.toNat - bytes.length) 0)
        (fillCcap .userobject pid oid 0)
      rwa [List.length_append, List.length_replicate, Nat.add_sub_cancel' hle] at hreply
    · refine ends_bind.2 (ends_modify.2 (ends_ite_of (fun h => absurd h hfull) fun _ => ends_pure.2 ?_))
      refine ⟨S, ⟨rfl, fun n hn => ⟨rfl, content, hentry, ?_⟩⟩, h.of_eq rfl rfl⟩
      have hlen : bytes.length = len.toNat := Nat.le_antisymm hle (Nat.not_lt.1 hfull)
      have hn : n = len := by
        rcases hn with ⟨-, rfl⟩ | hend
        · rfl
        · cases hend
      rw [hn, Nat.sub_self, List.replicate_zero, List.append_nil, ← hlen, htake]
      simp only [Target.reply, List.foldl_append, List.foldl_cons, List.foldl_nil]
      exact Mem.read_write_self _ _ _

end OsdTarget
