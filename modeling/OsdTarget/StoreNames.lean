import OsdTarget.StoreCommands

/-!
# Partitions and collections of the store

The commands that create and remove partitions and collections, as commands to the store.
-/

namespace OsdTarget

open Base

variable {env : Env} {s t : Target} {pid oid requested : UInt64} {S : Store}

/-! ## Partitions -/

/-- **CREATE PARTITION adds a partition**, or does nothing. -/
theorem osdCreatePartition_follows (hk : Kept s) (h : Implements s S) :
    Ends (osdCreatePartition env requested) s (Follows (.op (.createPartition requested)) S .nothing) := by
  refine osdCreatePartition_ends (fun ret hno _ => .refused hno rfl h) fun hc => ?_
  have hfree := hc.inserts.2
  have hpid : s.partitionId requested ≠ 0 := fun h0 => by
    rw [h0] at hfree
    exact hfree hk.root
  have hnew : s.partitionId requested ∉ S.partitions := fun hp => hfree ((h.partition _).1 hp).2
  exact ⟨_, .inl ⟨rfl, _, fun h0 => if_neg h0, rfl, hnew, rfl⟩, h.addPartition hpid rfl rfl⟩

/-- The deletions that end the other remove commands, where no DELETE fails. -/
theorem deleteObject_run (henv : ¬ env.SomeDeleteFails) {fail : Ret} {c : Ccap} :
    Ends (attrDeleteAll env pid oid >>= fun ret => if ret ≠ .ok then pure fail else
        objDelete env pid oid >>= fun ret => if ret ≠ .ok then pure fail else
          setCcap c >>= fun _ => pure Ret.ok) s fun ret t => ret = .ok ∧
      t.db.obj = deleteWhere (fun r => r.pid = bindInt64 pid ∧ r.oid = bindInt64 oid) s.db.obj ∧
        t.files = s.files := by
  refine ends_bind.2 (attrDeleteAll_ends ?_ fun hfail => absurd ⟨_, _, _, .inl hfail⟩ henv)
  refine ends_ite_of (fun h => absurd rfl h) fun _ => ends_bind.2 (objDelete_ends ?_ fun hfail =>
    absurd ⟨_, _, _, .inr (.inr hfail)⟩ henv)
  exact ends_ite_of (fun h => absurd rfl h) fun _ => ends_bind.2 (ends_modify.2 (ends_pure.2 ⟨rfl, rfl,
    rfl⟩))

/-- Where no row lies in a partition nothing is named in it. -/
theorem Implements.nothing_in (h : Implements s S) (hk : Kept s) (hempty : ¬ s.db.Holds (bindInt64 pid))
    (o : UInt64) : S.entry pid o = none := by
  have hrow : ∀ type : ObjType, type ≠ .root → type ≠ .partition →
      ¬ s.db.HasType (bindInt64 pid) (bindInt64 o) type := by
    refine fun type hr hp hrow => hempty ⟨_, hrow, rfl, fun h0 => ?_⟩
    exact (hk.zero _ hrow h0).elim hr hp
  cases he : S.entry pid o with
  | none => rfl
  | some e =>
    cases e with
    | collection => exact absurd ((h.collection pid o).1 he) (hrow _ nofun nofun)
    | object c =>
      refine absurd ((hk.files.agree pid o).1 ?_) (hrow _ nofun nofun)
      rw [(h.object pid o c).1 he]
      rfl

/-- **REMOVE PARTITION takes away a partition with nothing in it**, or does nothing. -/
theorem osdRemovePartition_follows (henv : env.Reliable) (hk : Kept s) (h : Implements s S) :
    Ends (osdRemovePartition env pid) s (Follows (.op (.removePartition pid)) S .nothing) := by
  have hno : ∀ {ret : Ret}, ret ≠ .ok → Ends (pure ret : OsdM Ret)
      s (Follows (.op (.removePartition pid)) S .nothing) :=
    fun hret => ends_pure.2 (.refused hret rfl h)
  refine ends_ite_of (fun _ => hno nofun) fun _ => ends_bind.2 (dbExecQuery_ends (fun _ => ?_)
    fun _ => ends_ite_of (fun _ => hno nofun) fun h => absurd (.inl (by simp)) h)
  refine ends_ite_of (fun _ => hno nofun) fun hempty => ends_bind.2 (ends_modify.2 ?_)
  have hempty : ∀ o, S.entry pid o = none := h.nothing_in hk (by simpa using hempty)
  refine (deleteObject_run henv.deletes).mono fun ret t ⟨hret, hobj, hfiles⟩ => ?_
  exact ⟨_, .inl ⟨hret, hempty, rfl⟩, h.dropPartition hk.zero hempty hobj hfiles⟩

/-! ## Collections -/

/-- The row of the collection comes, or nothing happens; in `u` its members may be there already. -/
theorem insertCollection_follows (hk : Kept s) (h : Implements s S) {u : Target} {cid : UInt64}
    (hobj : u.db.obj = s.db.obj) (hfiles : u.files = s.files) (hpid : COLLECTION_PID_LB ≤ pid)
    (hpart : s.db.Has (bindInt64 pid) 0) (hreq : requested ≠ 0 → cid = requested) :
    Ends (insertCollection env pid cid requested)
      u (Follows (.op (.createCollection pid requested)) S .nothing) := by
  have hp : pid ∈ S.partitions := (h.partition pid).2 ⟨pid_ne_zero hpid, hpart⟩
  refine insertCollection_ends (fun hins => ?_) fun ret hno _ => .refused hno rfl (h.of_eq hobj hfiles)
  have hfree : ¬ s.db.Has (bindInt64 pid) (bindInt64 cid) := by
    rw [Db.Has, ← hobj]
    exact hins.2
  have hnone : ∀ o ∈ [cid], S.entry pid o = none := fun o ho => by
    rw [List.mem_singleton.1 ho]
    exact h.free hk.files hfree
  refine ⟨S.add pid [cid] .collection hp, .inl ⟨rfl, cid, hreq, rfl, rfl, hnone, hp, rfl⟩, ?_⟩
  refine h.add hp hnone (congrArg (· ++ [collectionRow pid cid]) hobj) (fun r hr h0 => ?_) (fun p o => ?_)
    fun p o c => ?_
  · rw [List.mem_singleton.1 hr] at h0
    have h0 : bindInt64 cid = 0 := h0
    exact hfree (h0 ▸ hpart)
  · rw [List.mem_singleton, collectionRow, ObjRow.mk.injEq, bindInt64_inj, bindInt64_inj,
      List.mem_singleton]
    simp
  · show u.files p o = some c ↔ _
    rw [hfiles]
    split
    · rename_i hk'
      have hfile : s.files p o = none := by
        rw [hk'.1, List.mem_singleton.1 hk'.2]
        exact Option.not_isSome_iff_eq_none.1 fun hs => hfree ((hk.files.agree pid cid).1 hs).has
      rw [hfile]
      simp
    · rfl

/-- **CREATE COLLECTION adds a collection**, or does nothing. -/
theorem osdCreateCollection_follows (hk : Kept s) (h : Implements s S) :
    Ends (osdCreateCollection env pid requested) s (Follows (.op (.createCollection pid requested)) S .nothing) := by
  refine osdCreateCollection_ends (fun ret ic hno _ _ => .refused hno rfl (h.of_eq rfl rfl))
    fun cid ic ha hpick => insertCollection_follows hk h rfl rfl ha.pid_lb ha.partition fun h0 => ?_
  rcases hpick with ⟨h1, -⟩ | ⟨-, rfl, -⟩
  · exact absurd h1 h0
  · rfl

/-- **CREATE USER TRACKING COLLECTION adds a collection**, or does nothing. -/
theorem osdCreateUserTrackingCollection_follows (hk : Kept s) (h : Implements s S) {source : UInt64}
    {cdbContLen : UInt32} : Ends (osdCreateUserTrackingCollection env pid requested source cdbContLen) s
      (Follows (.op (.createUserTrackingCollection pid requested source cdbContLen)) S .nothing) := by
  refine osdCreateUserTrackingCollection_ends (fun ret ic hno _ => .refused hno rfl (h.of_eq rfl rfl))
    fun ic ha => ?_
  have hreq : requested ≠ 0 → s.collectionId pid requested = requested := fun h0 => if_neg h0
  refine ends_ite_of (fun hsrc => ends_bind.2 (collCopyoids_ends hsrc (fun t _ => ?_) ?_)) fun _ => ?_
  · refine ends_ite_of (fun h => absurd rfl h) fun _ => ?_
    exact insertCollection_follows hk h rfl rfl ha.pid_lb ha.partition hreq
  · refine ends_ite_of (fun _ => ends_bind.2 (ends_modify.2 (ends_pure.2 ?_))) fun h => absurd (by simp) h
    exact .refused nofun rfl (h.of_eq rfl rfl)
  · exact insertCollection_follows hk h rfl rfl ha.pid_lb ha.partition hreq

/-- **REMOVE COLLECTION takes away a collection**, or does nothing. -/
theorem osdRemoveCollection_follows (henv : env.Reliable) (hk : Kept s) (h : Implements s S) {cid : UInt64}
    {fcr : UInt8} (hspares : Op.SparesUserobjects s (.removeCollection pid cid fcr)) :
    Ends (osdRemoveCollection env pid cid fcr) s (Follows (.op (.removeCollection pid cid fcr)) S .nothing) := by
  have hno : ∀ {ret : Ret} {t : Target}, ret ≠ .ok → t.db.obj = s.db.obj → t.files = s.files →
      Ends (pure ret : OsdM Ret) t (Follows (.op (.removeCollection pid cid fcr)) S .nothing) :=
    fun hret hobj hfiles => ends_pure.2 (.refused hret rfl (h.of_eq hobj hfiles))
  refine ends_ite_of (fun _ => hno nofun rfl rfl) fun _ => ends_ite_of (fun _ => hno nofun rfl rfl) fun hcid => ?_
  refine ends_bind.2 (objIspresent_ends ?_ (ends_ite_of (fun _ => hno nofun rfl rfl)
    fun h => absurd (.inl (by simp)) h))
  refine ends_ite_of (fun _ => hno nofun rfl rfl) fun _ => ends_bind.2 (ends_modify.2 ?_)
  have hoid : cid ≠ 0 := by
    rintro rfl
    exact hcid (by decide)
  have hdrop : RemovableCollection s.db pid cid fcr → ∀ {u : Target} {fail : Ret} {c : Ccap},
      u.db.obj = s.db.obj → u.files = s.files →
      Ends (attrDeleteAll env pid cid >>= fun ret => if ret ≠ .ok then pure fail else
        objDelete env pid cid >>= fun ret => if ret ≠ .ok then pure fail else
          setCcap c >>= fun _ => pure Ret.ok) u (Follows (.op (.removeCollection pid cid fcr)) S .nothing) := by
    refine fun hrem u fail c hobj hfiles => (deleteObject_run henv.deletes).mono fun ret t ht => ?_
    have hfile : s.files pid cid = none := Option.not_isSome_iff_eq_none.1 fun hs =>
      hspares ((hk.files.agree pid cid).1 hs) hrem
    refine ⟨_, .inl ⟨ht.1, rfl⟩, h.drop hoid (by rw [ht.2.1, hobj]) ?_⟩
    rw [ht.2.2, hfiles]
    funext p o
    rw [Target.setFile_files]
    split
    · rename_i hk'
      rw [hk'.1, hk'.2, hfile]
    · rfl
  refine ends_bind.2 (dbExecQuery_ends (fun _ => ?_) fun _ =>
    ends_ite_of (fun _ => hno nofun rfl rfl) fun h => absurd (by simp) h)
  refine ends_ite_of (fun h => absurd rfl h) fun _ => ends_ite_of (fun _ =>
    ends_ite_of (fun _ => hno nofun rfl rfl) fun hfcr => ?_) fun hempty => ?_
  · refine ends_bind.2 (collDeleteCid_ends ?_ fun _ =>
      ends_ite_of (fun _ => hno nofun rfl rfl) fun h => absurd (by simp) h)
    exact ends_ite_of (fun h => absurd rfl h) fun _ => hdrop (fun h0 => absurd h0 hfcr) rfl rfl
  · refine hdrop (fun _ hm => ?_) rfl rfl
    simp only [Bool.not_eq_true', decide_eq_false_iff_not, not_not] at hempty
    exact hempty hm

end OsdTarget
