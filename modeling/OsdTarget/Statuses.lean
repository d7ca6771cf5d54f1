import OsdTarget.AttributeParams
import OsdTarget.CreateCommands
import OsdTarget.SenseData

/-!
# The statuses of the handlers

`osd.h` promises that the `osd_*` functions return 0, or the length of the sense data they have built, and
never a negative number.  Three of them return `OSD_ERROR` where `stat` fails on a file they have opened;
the others keep the promise.
-/

namespace OsdTarget

open Base

variable {env : Env} {s : Target} {pid oid : UInt64}

/-! ## Statuses -/

/-- 0, or sense data with a key and without command-specific information. -/
def Ret.Plain : Ret → Prop
  | .ok => True
  | .err _ => False
  | .sense x => x.key ≠ 0 ∧ x.csi = none

/-- The same, the information allowed. -/
def Ret.Proper : Ret → Prop
  | .ok => True
  | .err _ => False
  | .sense x => x.key ≠ 0

theorem Ret.Plain.proper {ret : Ret} (h : ret.Plain) : ret.Proper := by
  cases ret with
  | ok => trivial
  | err e => exact h
  | sense x => exact h.1

theorem Ret.Proper.senselen {ret : Ret} (h : ret.Proper) : 0 ≤ ret.senselen := by
  refine Ret.senselen_nonneg.2 fun e he => ?_
  rw [he] at h
  exact h

theorem plain_ok : Ret.ok.Plain := trivial

theorem plain_sdd {key : UInt8} (hkey : key ≠ 0) (code : UInt16) (pid oid : UInt64) :
    (senseBuildSdd key code pid oid).Plain := ⟨hkey, rfl⟩

theorem plain_cdbErr (pid oid : UInt64) : (cdbErr pid oid).Plain := plain_sdd (by decide) _ _ _
theorem plain_hwErr (pid oid : UInt64) : (hwErr pid oid).Plain := plain_sdd (by decide) _ _ _
theorem plain_paramListErr (pid oid : UInt64) : (paramListErr pid oid).Plain := plain_sdd (by decide) _ _ _
theorem plain_notEmptyErr (pid oid : UInt64) : (notEmptyErr pid oid).Plain := plain_sdd (by decide) _ _ _
theorem plain_paramListLengthErr (pid oid : UInt64) : (paramListLengthErr pid oid).Plain :=
  plain_sdd (by decide) _ _ _
theorem plain_unimplemented : osdErrorUnimplemented.Plain := ⟨by decide, rfl⟩
theorem proper_readPastEnd (pid oid len : UInt64) : (readPastEnd pid oid len).Proper := by
  show OSD_SSK_RECOVERED_ERROR ≠ 0
  decide

/-- All results of a handler that comes with a length. -/
abbrev PlainFst {α : Type} (r : Ret × α) : Prop := r.1.Plain

theorem plain_fst {α : Type} {m : OsdM (Ret × α)} (h : Yields PlainFst m) : Yields Ret.Plain (Prod.fst <$> m) :=
  yields_map h

/-! ## Creating and removing -/

theorem plain_osdRemove : Yields Ret.Plain (osdRemove env pid oid) :=
  yields_guard (plain_cdbErr _ _) (yields_bind fun _ => yields_bind fun _ => yields_bind fun _ =>
    yields_guard (plain_hwErr _ _) (yields_bind fun _ => yields_guard (plain_hwErr _ _) (yields_bind fun _ =>
      yields_guard (plain_hwErr _ _) (yields_bind fun _ => yields_pure plain_ok))))

theorem plain_osdRemoveCollection (fcr : UInt8) : Yields Ret.Plain (osdRemoveCollection env pid oid fcr) := by
  have hrest : Yields Ret.Plain (attrDeleteAll env pid oid >>= fun ret => if ret ≠ .ok then pure (hwErr pid oid)
      else objDelete env pid oid >>= fun ret => if ret ≠ .ok then pure (hwErr pid oid)
        else setCcap (fillCcap .collection pid oid 0) >>= fun _ => pure .ok) :=
    yields_bind fun _ => yields_guard (plain_hwErr _ _) (yields_bind fun _ => yields_guard (plain_hwErr _ _)
      (yields_bind fun _ => yields_pure plain_ok))
  refine yields_guard (plain_cdbErr _ _) (yields_guard (plain_cdbErr _ _) (yields_bind fun _ =>
    yields_guard (plain_cdbErr _ _) (yields_bind fun _ => yields_bind fun _ => yields_guard (plain_hwErr _ _) ?_)))
  exact yields_ite (yields_guard (plain_notEmptyErr _ _) (yields_bind fun _ =>
    yields_guard (plain_hwErr _ _) hrest)) hrest

theorem plain_osdRemovePartition : Yields Ret.Plain (osdRemovePartition env pid) :=
  yields_guard (plain_cdbErr _ _) (yields_bind fun _ => yields_guard (plain_notEmptyErr _ _) (yields_bind fun _ =>
    yields_bind fun _ => yields_guard (plain_hwErr _ _) (yields_bind fun _ => yields_guard (plain_hwErr _ _)
      (yields_bind fun _ => yields_pure plain_ok))))

theorem plain_createFrom (requested : UInt64) (numoid : UInt16) :
    Yields Ret.Plain (createFrom env pid requested oid numoid) := by
  refine yields_bind fun r => ?_
  cases r with
  | none => exact yields_bind fun _ => yields_bind fun _ => yields_pure plain_ok
  | some i => exact yields_bind fun _ => yields_pure (plain_hwErr _ _)

theorem plain_osdCreate (requested : UInt64) (numoid : UInt16) :
    Yields Ret.Plain (osdCreate env pid requested numoid) := by
  refine yields_guard (plain_cdbErr _ _) (yields_guard (plain_cdbErr _ _) (yields_bind fun _ =>
    yields_guard (plain_cdbErr _ _) (yields_guard (plain_cdbErr _ _) (yields_ite (yields_bind fun r => ?_)
      (yields_bind fun _ => yields_guard (plain_cdbErr _ _) (plain_createFrom _ _))))))
  cases r with
  | none => exact yields_bind fun _ => yields_pure (plain_hwErr _ _)
  | some oid => exact plain_createFrom _ _

theorem plain_insertCollection (cid requested : UInt64) :
    Yields Ret.Plain (insertCollection env pid cid requested) :=
  yields_bind fun _ => yields_guard (plain_cdbErr _ _) (yields_bind fun _ => yields_pure plain_ok)

theorem plain_osdCreateCollection (requested : UInt64) :
    Yields Ret.Plain (osdCreateCollection env pid requested) := by
  refine yields_guard (plain_cdbErr _ _) (yields_guard (plain_cdbErr _ _) (yields_bind fun _ =>
    yields_guard (plain_cdbErr _ _) (yields_ite (yields_bind fun r => ?_)
      (yields_bind fun _ => yields_guard (plain_cdbErr _ _) (plain_insertCollection _ _)))))
  cases r with
  | none => exact yields_bind fun _ => yields_pure (plain_hwErr _ _)
  | some cid => exact plain_insertCollection _ _

theorem plain_osdCreatePartition (requested : UInt64) : Yields Ret.Plain (osdCreatePartition env requested) := by
  have hinsert : ∀ pid, Yields Ret.Plain (insertPartition env pid requested) := fun _ =>
    yields_bind fun _ => yields_guard (plain_cdbErr _ _) (yields_bind fun _ => yields_pure plain_ok)
  refine yields_guard (plain_cdbErr _ _) (yields_ite (yields_bind fun r => ?_) (hinsert _))
  split
  · exact hinsert _
  · exact yields_pure (plain_hwErr _ _)

theorem plain_osdCreateUserTrackingCollection (requested source : UInt64) (cdbContLen : UInt32) :
    Yields Ret.Plain (osdCreateUserTrackingCollection env pid requested source cdbContLen) := by
  have hfill : ∀ cid, Yields Ret.Plain (fillTrackingCollection env pid cid requested source) := fun _ =>
    yields_ite (yields_bind fun _ => yields_ite (yields_bind fun _ => yields_pure (plain_hwErr _ _))
      (plain_insertCollection _ _)) (plain_insertCollection _ _)
  refine yields_guard (plain_cdbErr _ _) (yields_guard (plain_cdbErr _ _) (yields_bind fun _ =>
    yields_guard (plain_cdbErr _ _) (yields_bind fun _ => yields_guard (plain_cdbErr _ _)
      (yields_guard (plain_cdbErr _ _) (yields_guard (plain_cdbErr _ _) (yields_ite (yields_bind fun r => ?_)
        (yields_bind fun _ => yields_guard (plain_cdbErr _ _) (hfill _))))))))
  cases r with
  | none => exact yields_bind fun _ => yields_pure (plain_hwErr _ _)
  | some cid => exact hfill _

theorem plain_osdCopyUserObjects (requested : UInt64) (cuos : Mem) :
    Yields Ret.Plain (osdCopyUserObjects env pid requested cuos) := by
  refine yields_guard (plain_cdbErr _ _) (yields_guard (plain_cdbErr _ _) (yields_bind fun _ =>
    yields_guard (plain_cdbErr _ _) (yields_bind fun _ => yields_guard (plain_cdbErr _ _) (yields_bind fun _ =>
      yields_guard (plain_cdbErr _ _) (yields_ite (yields_bind fun r => ?_) (yields_bind fun _ =>
        yields_guard (plain_cdbErr _ _) (yields_bind fun _ => yields_pure plain_ok)))))))
  cases r with
  | none => exact yields_bind fun _ => yields_pure (plain_hwErr _ _)
  | some cid => exact yields_bind fun _ => yields_pure plain_ok

theorem plain_osdFormatOsd : Yields Ret.Plain (osdFormatOsd env) := by
  have hout : (senseBuildSdd OSD_SSK_HARDWARE_ERROR OSD_ASC_SYSTEM_RESOURCE_FAILURE 0 0).Plain := ⟨by decide, rfl⟩
  have hreopen : Yields Ret.Plain (osdOpen env >>= fun ret => if ret ≠ .ok then
      pure (senseBuildSdd OSD_SSK_HARDWARE_ERROR OSD_ASC_SYSTEM_RESOURCE_FAILURE 0 0)
      else setCcap Ccap.zero >>= fun _ => pure .ok) :=
    yields_bind fun _ => yields_guard hout (yields_bind fun _ => yields_pure plain_ok)
  have hformat : Yields Ret.Plain (formatOsd env) := by
    refine yields_bind fun s => yields_ite hreopen ?_
    split
    · exact yields_bind fun _ => yields_pure hout
    · exact yields_bind fun _ => yields_pure hout
    · exact yields_bind fun _ => yields_pure hout
    · exact yields_bind fun _ => hreopen
  exact yields_call hformat fun ret hret => yields_bind fun _ => yields_pure hret

/-! ## Data -/

theorem plain_finishWrite (appendOff : UInt64) : Yields Ret.Plain (finishWrite env pid oid appendOff) :=
  yields_guard (plain_hwErr _ _) (yields_bind fun _ => yields_pure plain_ok)

theorem plain_osdWrite (len offset : UInt64) (data : Mem) (sglist : SgList) (ddt : UInt8) :
    Yields Ret.Plain (osdWrite env pid oid len offset data sglist ddt) := by
  refine yields_ite ?_ (yields_ite ?_ (yields_ite ?_ (yields_pure (plain_cdbErr _ _))))
  · exact yields_guard (plain_cdbErr _ _) (yields_bind fun _ => yields_guard (plain_cdbErr _ _) (yields_bind fun _ =>
      yields_guard (plain_hwErr _ _) (plain_finishWrite _)))
  · refine yields_guard (plain_cdbErr _ _) (yields_bind fun _ => yields_guard (plain_cdbErr _ _)
      (yields_bind fun r => ?_))
    cases r with
    | none => exact yields_pure (plain_hwErr _ _)
    | some u => exact yields_ite yields_never (plain_finishWrite _)
  · refine yields_guard (plain_cdbErr _ _) (yields_bind fun _ => yields_guard (plain_cdbErr _ _)
      (yields_bind fun r => ?_))
    cases r with
    | none => exact yields_pure (plain_hwErr _ _)
    | some u => exact plain_finishWrite _

theorem plain_osdCreateAndWrite (len offset : UInt64) (data : Mem) (sglist : SgList) (ddt : UInt8) :
    Yields Ret.Plain (osdCreateAndWrite env pid oid len offset data sglist ddt) :=
  yields_call (plain_osdCreate _ _) fun _ hret => yields_guard hret (yields_call (plain_osdWrite _ _ _ _ _)
    fun _ hret => yields_ite (yields_bind fun _ => yields_pure hret) (yields_pure hret))

theorem plain_contigAppend (len : UInt64) (data : Option Mem) :
    Yields Ret.Plain (contigAppend env pid oid len data) := by
  cases data with
  | none => exact yields_pure (plain_cdbErr _ _)
  | some data =>
    refine yields_guard (plain_cdbErr _ _) (yields_bind fun s => ?_)
    cases s.lookup env pid oid with
    | none => exact yields_pure (plain_cdbErr _ _)
    | some content =>
      exact yields_guard (plain_cdbErr _ _) (yields_guard (plain_hwErr _ _) (yields_bind fun _ =>
        yields_guard (plain_hwErr _ _) (plain_finishWrite _)))

theorem plain_osdClear (len offset : UInt64) : Yields Ret.Plain (osdClear env pid oid len offset) :=
  yields_guard (plain_hwErr _ _) (yields_guard (plain_cdbErr _ _) (yields_bind fun _ =>
    yields_guard (plain_cdbErr _ _) (yields_bind fun _ => yields_guard (plain_hwErr _ _) (plain_finishWrite _))))

/-- Only a read meets the end of an object. -/
theorem proper_osdReadDevice (len offset : UInt64) (sglist : Option SgList) :
    Yields (fun r => r.1.Proper) (osdReadDevice env pid oid len offset sglist) := by
  have hcdb := (plain_cdbErr pid oid).proper
  have hhw := (plain_hwErr pid oid).proper
  cases sglist with
  | none =>
    refine yields_guard hcdb (yields_bind fun _ => yields_guard hcdb (yields_bind fun s => ?_))
    split
    · exact yields_pure hhw
    · have hend : ∀ bytes : List UInt8, Yields (fun r : Ret × Option UInt64 => r.1.Proper)
          (setCcap (fillCcap .userobject pid oid 0) >>= fun _ => if bytes.length < len.toNat then
            pure (readPastEnd pid oid (UInt64.ofNat bytes.length), some len) else pure (.ok, some len)) :=
        fun bytes => yields_bind fun _ => yields_guard (proper_readPastEnd _ _ _) (yields_pure plain_ok.proper)
      exact yields_bind fun _ => yields_guard hhw (yields_ite (yields_bind fun _ => hend _) (hend _))
  | some l =>
    refine yields_guard hcdb (yields_bind fun _ => yields_guard hcdb (yields_bind fun r => ?_))
    cases r with
    | none => exact yields_pure hhw
    | some readlen =>
      exact yields_ite yields_never (yields_guard hhw (yields_bind fun _ =>
        yields_guard (proper_readPastEnd _ _ _) (yields_pure plain_ok.proper)))

/-- The data file can be opened, and `stat` fails on it. -/
structure Env.StatFailsOpen (env : Env) (s : Target) (pid oid : UInt64) : Prop where
  id : isUserobjectId pid oid = true
  file : (s.lookup env pid oid).isSome
  opens : env.sysFails (.openFile pid oid) = false
  stat : env.sysFails (.stat pid oid) = true

theorem isUserobjectId_not {pid oid : UInt64} (h : isUserobjectId pid oid = true) :
    ¬ (!isUserobjectId pid oid) = true := by
  rw [h]
  exact Bool.false_ne_true

theorem osdPunch_stat (h : env.StatFailsOpen s pid oid) (len offset : UInt64) :
    osdPunch env pid oid len offset s = some (.err .osdError, s) := by
  obtain ⟨content, hfile⟩ := Option.isSome_iff_exists.1 h.file
  have hget : (get : OsdM Target) s = some (s, s) := rfl
  unfold osdPunch
  rw [if_neg (isUserobjectId_not h.id), bind_of_some hget, hfile]
  dsimp only
  rw [if_neg (by rw [h.opens]; exact Bool.false_ne_true), if_pos h.stat]
  rfl

theorem osdPunch_plain (h : ¬ env.StatFailsOpen s pid oid) (len offset : UInt64) :
    Ends (osdPunch env pid oid len offset) s fun ret _ => ret.Plain := by
  refine ends_ite_of (fun _ => ends_pure.2 (plain_cdbErr _ _)) fun hid => ends_bind.2 (ends_get.2 ?_)
  cases hfile : s.lookup env pid oid with
  | none => exact ends_pure.2 (plain_cdbErr _ _)
  | some content =>
    refine ends_ite_of (fun _ => ends_pure.2 (plain_cdbErr _ _)) fun hopen => ends_ite_of (fun hstat => ?_) fun _ => ?_
    · exact absurd ⟨by simpa using hid, Option.isSome_of_eq_some hfile, by simpa using hopen, hstat⟩ h
    have htail : ∀ x y, Yields Ret.Plain (punchTail env pid oid offset x y) := by
      intro x y
      refine yields_guard (plain_hwErr _ _) (yields_bind fun t => ?_)
      split
      · exact yields_pure (plain_hwErr _ _)
      · exact yields_bind fun _ => yields_guard (plain_hwErr _ _) (yields_bind fun _ =>
          yields_guard (plain_hwErr _ _) (yields_guard (plain_hwErr _ _) (yields_pure plain_ok)))
    exact yields_guard (plain_cdbErr _ _) (yields_ite (yields_bind fun _ => yields_guard (plain_hwErr _ _)
      (yields_guard (plain_hwErr _ _) (yields_pure plain_ok))) (htail _ _)) s

theorem osdFlush_stat (h : env.StatFailsOpen s pid oid) (len offset : UInt64) :
    osdFlush env pid oid len offset 2 s = some (.err .osdError, s) := by
  obtain ⟨content, hfile⟩ := Option.isSome_iff_exists.1 h.file
  have hget : (get : OsdM Target) s = some (s, s) := rfl
  unfold osdFlush
  rw [if_neg (isUserobjectId_not h.id), bind_of_some hget, hfile]
  dsimp only
  rw [if_neg (by rw [h.opens]; exact Bool.false_ne_true), if_neg (by decide), if_pos rfl, if_pos h.stat]
  rfl

theorem osdFlush_plain {flushScope : UInt8} (h : flushScope = 2 → ¬ env.StatFailsOpen s pid oid) (len offset : UInt64) :
    Ends (osdFlush env pid oid len offset flushScope) s fun ret _ => ret.Plain := by
  refine ends_ite_of (fun _ => ends_pure.2 (plain_cdbErr _ _)) fun hid => ends_bind.2 (ends_get.2 ?_)
  cases hfile : s.lookup env pid oid with
  | none => exact ends_pure.2 (plain_cdbErr _ _)
  | some content =>
    refine ends_ite_of (fun _ => ends_pure.2 (plain_cdbErr _ _)) fun hopen => ends_ite_of (fun _ => ?_) fun _ =>
      ends_ite_of (fun hscope => ends_ite_of (fun hstat => ?_) fun _ => ?_) fun _ => ends_pure.2 plain_unimplemented
    · exact yields_guard (plain_hwErr _ _) (plain_finishWrite _) s
    · exact absurd ⟨by simpa using hid, Option.isSome_of_eq_some hfile, by simpa using hopen, hstat⟩ (h hscope)
    · exact yields_guard (plain_cdbErr _ _) (yields_guard (plain_hwErr _ _)
        (yields_guard plain_ok (plain_finishWrite _))) s

theorem osdReadMap_stat (h : env.StatFailsOpen s pid oid) {allocLen : UInt64} (hlen : 24 ≤ allocLen) (offset : UInt64)
    (mapType : UInt16) : ∃ s', osdReadMap env pid oid allocLen offset mapType s = some ((.err .osdError, none), s') := by
  obtain ⟨content, hfile⟩ := Option.isSome_iff_exists.1 h.file
  have h0 : allocLen ≠ 0 := by
    rintro rfl
    exact absurd hlen (by decide)
  let t : Target := { s with out := s.out ++ [(0, List.replicate allocLen.toNat 0)] }
  have hout : outWrite 0 (List.replicate allocLen.toNat 0) s = some (⟨⟩, t) := rfl
  have hget : (get : OsdM Target) t = some (t, t) := rfl
  have hfile : t.lookup env pid oid = some content := hfile
  refine ⟨t, ?_⟩
  unfold osdReadMap
  rw [if_neg h0, if_neg (UInt64.not_lt.2 hlen), bind_of_some hout]
  refine (congrFun (if_neg (isUserobjectId_not h.id)) t).trans ((bind_of_some hget).trans ?_)
  rw [hfile]
  dsimp only
  rw [if_neg (by rw [h.opens]; exact Bool.false_ne_true), if_pos h.stat]
  rfl

theorem osdReadMap_plain {allocLen : UInt64} (h : 24 ≤ allocLen → ¬ env.StatFailsOpen s pid oid) (offset : UInt64)
    (mapType : UInt16) :
    Ends (osdReadMap env pid oid allocLen offset mapType) s fun r _ => r.1.Plain := by
  refine ends_ite_of (fun _ => ends_pure.2 plain_ok) fun _ =>
    ends_ite_of (fun _ => ends_pure.2 (plain_cdbErr _ _)) fun hlen => ends_bind.2 (ends_modify.2 ?_)
  refine ends_ite_of (fun _ => ends_pure.2 (plain_cdbErr _ _)) fun hid => ends_bind.2 (ends_get.2 ?_)
  split
  · exact ends_pure.2 (plain_cdbErr _ _)
  · next content hfile =>
    refine ends_ite_of (fun _ => ends_pure.2 (plain_cdbErr _ _)) fun hopen => ends_ite_of (fun hstat => ?_) fun _ => ?_
    · exact absurd ⟨by simpa using hid, Option.isSome_of_eq_some hfile, by simpa using hopen, hstat⟩
        (h (UInt64.not_lt.1 hlen))
    · exact yields_guard (P := PlainFst) (plain_cdbErr _ _) (yields_guard plain_unimplemented (yields_bind fun _ =>
        yields_bind fun _ => yields_guard (plain_hwErr _ _) (yields_pure plain_ok))) _

/-! ## Attributes -/

section

variable {page number : UInt32} {val : Option Mem} {len : UInt16} {isembedded : Bool}

theorem plain_osdSetAttributes : Yields Ret.Plain (osdSetAttributes env pid oid page number val len isembedded) := by
  have hspecial : ∀ m : OsdM Ret, Yields Ret.Plain
      (m >>= fun r => if r = .ok then pure .ok else pure (cdbErr pid oid)) :=
    fun m => yields_bind fun _ => yields_guard plain_ok (yields_pure (plain_cdbErr _ _))
  have hstore : Yields Ret.Plain (storeAttribute env pid oid page number val len) :=
    yields_ite (hspecial _) (yields_ite (hspecial _) (yields_ite (hspecial _) (yields_ite (hspecial _)
      (yields_bind fun _ => yields_guard plain_ok (yields_pure (plain_hwErr _ _))))))
  refine yields_bind fun _ => yields_guard (plain_cdbErr _ _) (yields_bind fun _ => ?_)
  exact yields_guard (plain_cdbErr _ _) (yields_guard (plain_paramListErr _ _) (yields_guard (plain_paramListErr _ _)
    (yields_guard (plain_cdbErr _ _) (yields_guard (plain_cdbErr _ _) (yields_guard (plain_paramListErr _ _)
      (yields_call hstore fun _ hret => yields_guard hret
        (yields_ite (yields_bind fun _ => yields_pure plain_ok) (yields_pure plain_ok))))))))

theorem plain_osdSetMemberAttributes (setAttr : List SetEntry) :
    Yields Ret.Plain (osdSetMemberAttributes env pid oid setAttr) := by
  have hfinish : ∀ ret : Ret, ret.Plain → Yields Ret.Plain (osdEndTxn env >>= fun _ => pure ret) :=
    fun _ h => yields_bind fun _ => yields_pure h
  refine yields_bind fun _ => yields_bind fun _ => yields_ite (hfinish _ (plain_cdbErr _ _)) (yields_bind fun _ => ?_)
  refine yields_ite (hfinish _ (plain_cdbErr _ _)) (yields_ite (hfinish _ (plain_paramListErr _ _))
    (yields_bind fun _ => yields_ite (hfinish _ (plain_hwErr _ _)) ?_))
  exact yields_bind fun _ => yields_bind fun _ => yields_pure plain_ok

theorem plain_osdGetattrList (pos : Nat) (outlen : UInt32) (listfmt : UInt8) :
    Yields PlainFst (osdGetattrList env pid oid page number pos outlen isembedded listfmt) := by
  refine yields_bind fun type => yields_guard (plain_cdbErr _ _) (yields_guard (plain_paramListErr _ _)
    (yields_bind fun _ => yields_guard (plain_hwErr _ _) (yields_bind fun r =>
      yields_guard (plain_paramListErr _ _) ?_)))
  have hend : ∀ used, Yields PlainFst (if (!isembedded) = true then
      setCcap (fillCcap type pid oid 0) >>= fun _ => pure (.ok, used)
      else pure (.ok, used) : OsdM (Ret × Option UInt32)) :=
    fun used => yields_ite (yields_bind fun _ => yields_pure plain_ok) (yields_pure plain_ok)
  dsimp only
  refine yields_ite (yields_bind fun n => ?_) (hend _)
  split
  · exact hend _
  · exact hend _
  · exact yields_pure (plain_paramListErr _ _)

theorem plain_osdGetattrPage (pos : Nat) (outlen : UInt64) :
    Yields PlainFst (osdGetattrPage env pid oid page pos outlen isembedded) := by
  have hanswer : ∀ r : Ret × Option UInt32, PlainFst (if r.1 = .ok ∨ r.1 = .err .enoent then (.ok, r.2)
      else (paramListErr pid oid, r.2)) := by
    intro r
    split
    · exact trivial
    · exact plain_paramListErr _ _
  refine yields_bind fun type => yields_guard (plain_cdbErr _ _) (yields_guard (plain_paramListErr _ _) ?_)
  refine yields_ite (yields_bind fun _ => ?_) ?_ <;>
  exact yields_ite (yields_bind fun _ => yields_pure (hanswer _)) (yields_ite (yields_bind fun _ =>
    yields_pure (hanswer _)) (yields_ite (yields_bind fun _ => yields_guard (plain_hwErr _ _)
      (yields_bind fun _ => yields_pure (hanswer _))) (yields_pure (plain_cdbErr _ _))))

end

/-! ## Atomics -/

theorem plain_osdCas (cmp swap : UInt64) (pos : Nat) : Yields PlainFst (osdCas env pid oid cmp swap pos) := by
  refine yields_bind fun _ => yields_guard (plain_cdbErr _ _) (yields_bind fun r => ?_)
  cases r with
  | none => exact yields_pure (plain_hwErr _ _)
  | some val =>
    have hend : Yields PlainFst (outWrite pos (htonll val) >>= fun _ => pure (Ret.ok, some 8) :
        OsdM (Ret × Option UInt64)) := yields_bind fun _ => yields_pure plain_ok
    exact yields_ite (yields_bind fun _ => yields_guard (plain_hwErr _ _) hend) hend

theorem plain_osdFa (add : UInt64) (pos : Nat) : Yields PlainFst (osdFa env pid oid add pos) := by
  refine yields_bind fun _ => yields_guard (plain_cdbErr _ _) (yields_bind fun r => ?_)
  cases r with
  | none => exact yields_pure (plain_hwErr _ _)
  | some val => exact yields_bind fun _ => yields_guard (plain_hwErr _ _) (yields_bind fun _ => yields_pure plain_ok)

theorem plain_osdGenCas (page number : UInt32) (cmp : Option Mem) (cmpLen : UInt16) (swap : Option Mem)
    (swapLen : UInt16) : Yields PlainFst (osdGenCas env pid oid page number cmp cmpLen swap swapLen) := by
  refine yields_bind fun _ => yields_guard (plain_cdbErr _ _) (yields_bind fun r =>
    yields_guard (plain_hwErr _ _) ?_)
  refine yields_ite (yields_bind fun _ => yields_guard (plain_hwErr _ _) (yields_pure plain_ok)) ?_
  exact yields_ite (yields_bind fun _ => yields_guard (plain_hwErr _ _) (yields_pure plain_ok)) (yields_pure plain_ok)

/-! ## Lists and queries -/

theorem plain_osdList (listAttr : UInt8) (allocLen initialOid : UInt64) (getAttr : List (UInt32 × UInt32))
    (listId : UInt32) : Yields PlainFst (osdList env listAttr pid allocLen initialOid getAttr listId) := by
  have hrest : ∀ r : Ret × IdCursor, Yields PlainFst (if r.1 ≠ .ok then
      pure (hwErr pid (if listId ≠ 0 then 0 else initialOid), none)
      else outWrite 0 (htonll (addHeaderLen r.2.addLen)) >>= fun _ => outWrite 8 (htonll r.2.contId) >>= fun _ =>
        setCcap (fillCcap .partition pid PARTITION_OID 0) >>= fun _ => pure (.ok, some (r.2.len + 24)) :
        OsdM (Ret × Option UInt64)) := fun r =>
    yields_guard (plain_hwErr _ _) (yields_bind fun _ => yields_bind fun _ => yields_bind fun _ => yields_pure plain_ok)
  refine yields_guard plain_ok (yields_guard (plain_cdbErr _ _) (yields_bind fun _ => yields_guard (plain_cdbErr _ _)
    (yields_guard (plain_cdbErr _ _) (yields_ite (yields_bind fun _ => ?_) (yields_ite (yields_bind fun _ =>
      yields_bind fun r => yields_guard (plain_hwErr _ _) ?_) (yields_bind fun _ => yields_pure plain_ok))))))
  · exact yields_ite (yields_bind hrest) (yields_bind hrest)
  · exact yields_bind fun _ => yields_bind fun _ => yields_bind fun _ => yields_pure plain_ok

theorem plain_osdListCollection (listAttr : UInt8) (allocLen initialOid : UInt64) (listId : UInt32) :
    Yields PlainFst (osdListCollection env listAttr pid oid allocLen initialOid listId) := by
  have hrest : ∀ r : Ret × IdCursor, Yields PlainFst (if r.1 ≠ .ok then
      pure (hwErr pid (if listId ≠ 0 then 0 else initialOid), none)
      else outWrite 0 (htonll (r.2.addLen + 16)) >>= fun _ => outWrite 8 (htonll r.2.contId) >>= fun _ =>
        setCcap (fillCcap .collection pid COLLECTION_OID_LB 0) >>= fun _ => pure (.ok, some (r.2.len + 24)) :
        OsdM (Ret × Option UInt64)) := fun r =>
    yields_guard (plain_hwErr _ _) (yields_bind fun _ => yields_bind fun _ => yields_bind fun _ => yields_pure plain_ok)
  refine yields_guard plain_ok (yields_guard (plain_cdbErr _ _) (yields_bind fun _ => yields_guard (plain_cdbErr _ _)
    (yields_bind fun _ => ?_)))
  exact yields_ite (yields_bind hrest) (yields_bind hrest)

theorem plain_osdQuery (queryListLen : UInt32) (allocLen : UInt64) (indata : Mem) (fuel : Nat) :
    Yields PlainFst (osdQuery env pid oid queryListLen allocLen indata fuel) := by
  refine yields_guard (plain_cdbErr _ _) (yields_bind fun _ => yields_guard (plain_cdbErr _ _)
    (yields_guard (plain_cdbErr _ _) (yields_guard plain_ok (yields_guard (plain_cdbErr _ _) ?_))))
  split
  · exact yields_never
  · exact yields_pure (plain_cdbErr _ _)
  · exact yields_bind fun _ => yields_bind fun _ => yields_bind fun _ => yields_guard (plain_hwErr _ _)
      (yields_bind fun _ => yields_pure plain_ok)

/-! ## All handlers -/

/-- The `osd_*` functions behind the service actions, with their arguments: those that are commands of a
run, and the others. -/
inductive Handler
  | command (op : Op)
  | append (pid oid len : UInt64) (data : Option Mem)
  | clear (pid oid len offset : UInt64)
  | copyUserObjects (pid requestedOid : UInt64) (cuos : Mem)
  | flush (pid oid len offset : UInt64) (flushScope : UInt8)
  | flushCollection
  | flushOsd
  | flushPartition
  | getMemberAttributes
  | list (listAttr : UInt8) (pid allocLen initialOid : UInt64) (getAttr : List (UInt32 × UInt32)) (listId : UInt32)
  | listCollection (listAttr : UInt8) (pid cid allocLen initialOid : UInt64) (listId : UInt32)
  | punch (pid oid len offset : UInt64)
  | query (pid cid : UInt64) (queryListLen : UInt32) (allocLen : UInt64) (indata : Mem) (fuel : Nat)
  | readDevice (pid oid len offset : UInt64) (sglist : Option SgList)
  | readMap (pid oid allocLen offset : UInt64) (mapType : UInt16)
  | removeMemberObjects
  | setKey
  | setMasterKey

def Handler.run (env : Env) : Handler → OsdM Ret
  | .command op => op.exec env
  | .append pid oid len data => contigAppend env pid oid len data
  | .clear pid oid len offset => osdClear env pid oid len offset
  | .copyUserObjects pid requestedOid cuos => osdCopyUserObjects env pid requestedOid cuos
  | .flush pid oid len offset flushScope => osdFlush env pid oid len offset flushScope
  | .flushCollection => pure osdFlushCollection
  | .flushOsd => pure osdFlushOsd
  | .flushPartition => pure osdFlushPartition
  | .getMemberAttributes => pure osdGetMemberAttributes
  | .list listAttr pid allocLen initialOid getAttr listId =>
    Prod.fst <$> osdList env listAttr pid allocLen initialOid getAttr listId
  | .listCollection listAttr pid cid allocLen initialOid listId =>
    Prod.fst <$> osdListCollection env listAttr pid cid allocLen initialOid listId
  | .punch pid oid len offset => osdPunch env pid oid len offset
  | .query pid cid queryListLen allocLen indata fuel =>
    Prod.fst <$> osdQuery env pid cid queryListLen allocLen indata fuel
  | .readDevice pid oid len offset sglist => Prod.fst <$> osdReadDevice env pid oid len offset sglist
  | .readMap pid oid allocLen offset mapType => Prod.fst <$> osdReadMap env pid oid allocLen offset mapType
  | .removeMemberObjects => pure osdRemoveMemberObjects
  | .setKey => pure osdSetKey
  | .setMasterKey => pure osdSetMasterKey

/-- It comes to a `stat` that fails. -/
def Handler.StatFails (env : Env) (s : Target) : Handler → Prop
  | .flush pid oid _ _ flushScope => flushScope = 2 ∧ env.StatFailsOpen s pid oid
  | .punch pid oid _ _ => env.StatFailsOpen s pid oid
  | .readMap pid oid allocLen _ _ => 24 ≤ allocLen ∧ env.StatFailsOpen s pid oid
  | _ => False

theorem plain_exec (op : Op) : Yields Ret.Plain (op.exec env) := by
  cases op with
  | create => exact plain_osdCreate _ _
  | createAndWrite => exact plain_osdCreateAndWrite _ _ _ _ _
  | createCollection => exact plain_osdCreateCollection _
  | createPartition => exact plain_osdCreatePartition _
  | createUserTrackingCollection => exact plain_osdCreateUserTrackingCollection _ _ _
  | remove => exact plain_osdRemove
  | removeCollection => exact plain_osdRemoveCollection _
  | removePartition => exact plain_osdRemovePartition
  | write => exact plain_osdWrite _ _ _ _ _
  | setAttributes => exact plain_osdSetAttributes
  | getattrList => exact plain_fst (plain_osdGetattrList _ _ _)
  | getattrPage => exact plain_fst (plain_osdGetattrPage _ _)
  | setMemberAttributes => exact plain_osdSetMemberAttributes _
  | cas => exact plain_fst (plain_osdCas _ _ _)
  | fa => exact plain_fst (plain_osdFa _ _)
  | genCas => exact plain_fst (plain_osdGenCas _ _ _ _ _ _)
  | formatOsd => exact plain_osdFormatOsd

/-- **The handlers that keep the promise.** -/
theorem Handler.proper {h : Handler} (hstat : ¬ h.StatFails env s) :
    Ends (h.run env) s fun ret _ => ret.Proper := by
  have hplain : ∀ {m : OsdM Ret}, Yields Ret.Plain m → Ends m s fun ret _ => ret.Proper :=
    fun hm => (hm s).mono fun _ _ => Ret.Plain.proper
  have hunimplemented : ∀ {ret : Ret}, ret = osdErrorUnimplemented →
      Ends (pure ret : OsdM Ret) s fun ret _ => ret.Proper := by
    rintro _ rfl
    exact ends_pure.2 plain_unimplemented.proper
  cases h with
  | command op => exact hplain (plain_exec op)
  | append => exact hplain (plain_contigAppend _ _)
  | clear => exact hplain (plain_osdClear _ _)
  | copyUserObjects => exact hplain (plain_osdCopyUserObjects _ _)
  | flush pid oid len offset flushScope =>
    exact (osdFlush_plain (fun hscope h => hstat ⟨hscope, h⟩) len offset).mono fun _ _ => Ret.Plain.proper
  | flushCollection => exact hunimplemented rfl
  | flushOsd => exact hunimplemented rfl
  | flushPartition => exact hunimplemented rfl
  | getMemberAttributes => exact hunimplemented rfl
  | list => exact hplain (plain_fst (plain_osdList _ _ _ _ _))
  | listCollection => exact hplain (plain_fst (plain_osdListCollection _ _ _ _))
  | punch pid oid len offset => exact (osdPunch_plain hstat len offset).mono fun _ _ => Ret.Plain.proper
  | query => exact hplain (plain_fst (plain_osdQuery _ _ _ _))
  | readDevice => exact yields_map (proper_osdReadDevice _ _ _) s
  | readMap pid oid allocLen offset mapType =>
    exact ends_map.2 ((osdReadMap_plain (fun hlen h => hstat ⟨hlen, h⟩) offset mapType).mono fun _ _ => Ret.Plain.proper)
  | removeMemberObjects => exact hunimplemented rfl
  | setKey => exact hunimplemented rfl
  | setMasterKey => exact hunimplemented rfl

/-- **A handler returns a negative number exactly when it comes to a `stat` that fails.** -/
theorem Handler.nonneg_iff {h : Handler} :
    (Ends (h.run env) s fun ret _ => 0 ≤ ret.senselen) ↔ ¬ h.StatFails env s := by
  refine ⟨fun hnonneg hstat => ?_, fun hstat => (Handler.proper hstat).mono fun _ _ => Ret.Proper.senselen⟩
  have hneg : ∃ s', h.run env s = some (.err .osdError, s') := by
    cases h with
    | flush pid oid len offset flushScope =>
      obtain ⟨rfl, hstat⟩ := hstat
      exact ⟨s, osdFlush_stat hstat len offset⟩
    | punch pid oid len offset => exact ⟨s, osdPunch_stat hstat len offset⟩
    | readMap pid oid allocLen offset mapType =>
      obtain ⟨s', hrun⟩ := osdReadMap_stat hstat.2 hstat.1 offset mapType
      refine ⟨s', ?_⟩
      show (Prod.fst <$> osdReadMap env pid oid allocLen offset mapType) s = _
      rw [map_eq_pure_bind, bind_of_some hrun]
      rfl
    | _ => exact hstat.elim
  obtain ⟨s', hrun⟩ := hneg
  exact Ret.senselen_nonneg.1 (hnonneg _ _ hrun) _ rfl

end OsdTarget
