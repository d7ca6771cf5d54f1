import OsdTarget.Footprint
import OsdTarget.ServiceAction

/-!
# What the other commands leave alone

Commands that only read stay inside every relation `R` of the kind in `Stays`, commands on the data of
one object inside every `R` that admits rewriting its data file.  The commands on collections and
partitions are followed for relations that do not look at the tables.
-/

namespace OsdTarget

open Base

variable {env : Env} {s s' : Target} {pid oid : UInt64}

section Stays

variable {R : Target → Target → Prop} [Stays R]

/-! ## Reading data -/

theorem resp_contigRead (len offset : UInt64) : Respects R (contigRead env pid oid len offset) := by
  refine respects_ite (resp_pure _) (resp_bind resp_openFile fun _ => respects_ite (resp_pure _)
    (resp_bind resp_get fun t => ?_))
  have hend : ∀ bytes : List UInt8, Respects R (setCcap (fillCcap .userobject pid oid 0) >>= fun _ =>
      if bytes.length < len.toNat then pure (readPastEnd pid oid (UInt64.ofNat bytes.length), some len)
      else pure (.ok, some len) : OsdM (Ret × Option UInt64)) :=
    fun _ => resp_bind (resp_setCcap _) fun _ => respects_ite (resp_pure _) (resp_pure _)
  split
  · exact resp_pure _
  · exact resp_bind (resp_outWrite _ _) fun _ => respects_ite (resp_pure _)
      (respects_ite (resp_bind (resp_outWrite _ _) fun _ => hend _) (hend _))

theorem resp_sglReadLoop (offset : UInt64) (sglist : SgList) (n i : Nat) (dataOffset : UInt64) :
    Respects R (sglReadLoop env pid oid offset sglist n i dataOffset) := by
  induction n generalizing i dataOffset with
  | zero => exact resp_pure _
  | succ n ih =>
    refine resp_bind resp_get fun t => ?_
    split
    · exact resp_pure _
    · exact resp_bind (resp_outWrite _ _) fun _ =>
        respects_ite (resp_bind (resp_outWrite _ _) fun _ => ih _ _) (ih _ _)

theorem resp_sglRead (len offset : UInt64) (sglist : SgList) :
    Respects R (sglRead env pid oid len offset sglist) := by
  refine respects_ite (resp_pure _) (resp_bind resp_openFile fun _ => respects_ite (resp_pure _)
    (resp_bind (resp_sglReadLoop _ _ _ _ _) fun r => ?_))
  split
  · exact resp_pure _
  · exact respects_ite resp_never (respects_ite (resp_pure _) (resp_bind (resp_setCcap _) fun _ =>
      respects_ite (resp_pure _) (resp_pure _)))

theorem resp_osdReadDevice (len offset : UInt64) (sglist : Option SgList) :
    Respects R (osdReadDevice env pid oid len offset sglist) := by
  cases sglist with
  | none => exact resp_contigRead _ _
  | some l => exact resp_sglRead _ _ _

theorem resp_readMapLoop (mapType : UInt16) (n : Nat) (fileSize byteOffset : UInt64) :
    Respects R (readMapLoop mapType n fileSize byteOffset) := by
  induction n generalizing fileSize byteOffset with
  | zero => exact resp_pure _
  | succ n ih =>
    exact resp_bind (resp_bind (resp_outWrite _ _) fun _ => resp_bind (resp_outWrite _ _) fun _ =>
      resp_outWrite _ _) fun _ => ih _ _

theorem resp_osdReadMap (allocLen offset : UInt64) (mapType : UInt16) :
    Respects R (osdReadMap env pid oid allocLen offset mapType) := by
  refine respects_ite (resp_pure _) (respects_ite (resp_pure _) (resp_bind (resp_outWrite _ _) fun _ =>
    respects_ite (resp_pure _) (resp_bind resp_get fun t => ?_)))
  split
  · exact resp_pure _
  · exact respects_ite (resp_pure _) (respects_ite (resp_pure _) (respects_ite (resp_pure _)
      (respects_ite (resp_pure _) (resp_bind (resp_readMapLoop _ _ _ _) fun _ =>
        resp_bind (resp_outWrite _ _) fun _ => respects_ite (resp_pure _) (resp_pure _)))))

theorem resp_osdFlush (len offset : UInt64) (flushScope : UInt8) :
    Respects R (osdFlush env pid oid len offset flushScope) := by
  refine respects_ite (resp_pure _) (resp_bind resp_get fun t => ?_)
  split
  · exact resp_pure _
  · refine respects_ite (resp_pure _) (respects_ite (respects_ite (resp_pure _) (resp_finishWrite _))
      (respects_ite (respects_ite (resp_pure _) (respects_ite (resp_pure _) (respects_ite (resp_pure _)
        (respects_ite (resp_pure _) (resp_finishWrite _))))) (resp_pure _)))

/-! ## Lists and queries -/

theorem resp_idRtrvlLoop (pos : Nat) (allocLen : UInt64) (ids : List UInt64) (c : IdCursor) :
    Respects R (idRtrvlLoop pos allocLen ids c) := by
  induction ids generalizing c with
  | nil => exact resp_pure _
  | cons id ids ih =>
    have hrest : ∀ c' : IdCursor, Respects R (if c'.addLen < c'.addLen + 8 then
        idRtrvlLoop pos allocLen ids { c' with addLen := c'.addLen + 8 }
      else pure { c' with addLen := 0 - 1 }) := fun c' => respects_ite (ih _) (resp_pure _)
    exact respects_ite (resp_bind (resp_outWrite _ _) fun _ => hrest _)
      (respects_ite (hrest _) (hrest _))

theorem resp_dbExecIdRtrvlStmt (q : Query) (rows : Db → List Int) (allocLen : UInt64) (pos : Nat) :
    Respects R (dbExecIdRtrvlStmt env q rows allocLen pos) :=
  resp_bind resp_query fun _ => respects_ite (resp_pure _)
    (resp_bind (resp_idRtrvlLoop _ _ _ _) fun _ => resp_pure _)

theorem resp_closeOpen (c : OdeCursor) : Respects R c.closeOpen :=
  respects_ite (resp_bind (resp_outWrite _ _) fun _ => resp_pure _) (resp_pure _)

theorem resp_startOde (id : UInt64) (c : OdeCursor) : Respects R (startOde id c) :=
  respects_ite (resp_bind (resp_outWrite _ _) fun _ => resp_bind (resp_outWrite _ _) fun _ =>
      resp_bind (resp_closeOpen _) fun _ => resp_pure _)
    (resp_bind (resp_closeOpen _) fun _ => resp_pure _)

theorem resp_addAttr (r : AttrRow) (c : OdeCursor) : Respects R (addAttr env r c) := by
  have hclose : ∀ c : OdeCursor, Respects R (c.close >>= fun c =>
      pure (some (c.continueAt (columnInt64 r.oid))) : OsdM (Option OdeCursor)) :=
    fun _ => resp_bind (resp_bind (resp_outWrite _ _) fun _ => resp_pure _) fun _ => resp_pure _
  refine respects_ite (resp_bind (resp_lePackAttr _ _ _ _ _ _) fun packed => ?_)
    (respects_ite (hclose c) (resp_pure _))
  split
  · exact resp_pure _
  · exact respects_ite (hclose _) (resp_pure _)

theorem resp_listOidsAttrLoop (rows : List AttrRow) (c : OdeCursor) :
    Respects R (listOidsAttrLoop env rows c) := by
  induction rows generalizing c with
  | nil => exact resp_pure _
  | cons r rows ih =>
    have hstart : ∀ f : OdeCursor → Option OdeCursor, Respects R (f <$> startOde (columnInt64 r.oid) c) :=
      fun f => map_eq_pure_bind f (startOde (columnInt64 r.oid) c) ▸
        resp_bind (resp_startOde _ _) fun _ => resp_pure _
    refine respects_ite (resp_bind (hstart _) fun next => ?_)
      (resp_bind (resp_addAttr _ _) fun next => ?_) <;>
    cases next with
    | none => exact resp_pure _
    | some c => exact respects_ite (ih _) (resp_pure _)

theorem resp_mtqListOidsAttr (pid initial : UInt64) (getAttr : List (UInt32 × UInt32)) (allocLen : UInt64)
    (pos : Nat) : Respects R (mtqListOidsAttr env pid initial getAttr allocLen pos) :=
  resp_bind resp_query fun _ => respects_ite (resp_pure _) (resp_bind (resp_listOidsAttrLoop _ _) fun _ =>
    respects_ite (resp_pure _) (respects_ite (resp_bind (resp_outWrite _ _) fun _ => resp_pure _)
      (resp_pure _)))

theorem resp_osdList (listAttr : UInt8) (pid allocLen initialOid : UInt64)
    (getAttr : List (UInt32 × UInt32)) (listId : UInt32) :
    Respects R (osdList env listAttr pid allocLen initialOid getAttr listId) := by
  have hlast : ∀ r : Ret × Option UInt64, Respects R
      (setCcap (fillCcap .partition pid PARTITION_OID 0) >>= fun _ => pure r) :=
    fun _ => resp_bind (resp_setCcap _) fun _ => resp_pure _
  refine respects_ite (resp_pure _) (respects_ite (resp_pure _) (resp_bind (resp_outWrite _ _) fun _ =>
    respects_ite (resp_pure _) (respects_ite (resp_pure _) (respects_ite (resp_bind (resp_outWrite _ _)
      fun _ => respects_ite (resp_bind (resp_dbExecIdRtrvlStmt _ _ _ _) fun _ => ?_)
        (resp_bind (resp_dbExecIdRtrvlStmt _ _ _ _) fun _ => ?_))
          (respects_ite (resp_bind (resp_outWrite _ _)
      fun _ => resp_bind (resp_mtqListOidsAttr _ _ _ _ _) fun _ => ?_) (hlast _))))))
  all_goals exact respects_ite (resp_pure _) (resp_bind (resp_outWrite _ _) fun _ =>
    resp_bind (resp_outWrite _ _) fun _ => hlast _)

theorem resp_osdListCollection (listAttr : UInt8) (pid cid allocLen initialOid : UInt64) (listId : UInt32) :
    Respects R (osdListCollection env listAttr pid cid allocLen initialOid listId) := by
  refine respects_ite (resp_pure _) (respects_ite (resp_pure _) (resp_bind (resp_outWrite _ _) fun _ =>
    respects_ite (resp_pure _) (resp_bind (resp_outWrite _ _) fun _ => respects_ite
      (resp_bind (resp_dbExecIdRtrvlStmt _ _ _ _) fun _ => ?_)
      (resp_bind (resp_dbExecIdRtrvlStmt _ _ _ _) fun _ => ?_))))
  all_goals exact respects_ite (resp_pure _) (resp_bind (resp_outWrite _ _) fun _ =>
    resp_bind (resp_outWrite _ _) fun _ => resp_bind (resp_setCcap _) fun _ => resp_pure _)

theorem resp_queryLoop (allocLen : UInt32) (ids : List UInt64) (p : Nat) (len used : UInt64) :
    Respects R (queryLoop allocLen ids p len used) := by
  induction ids generalizing p len used with
  | nil => exact resp_pure _
  | cons id ids ih =>
    exact respects_ite (resp_bind (resp_outWrite _ _) fun _ => ih _ _ _) (ih _ _ _)

theorem resp_mtqRunQuery (pid cid : UInt64) (qc : QueryCriteria) (allocLen : UInt32) :
    Respects R (mtqRunQuery env pid cid qc allocLen) :=
  respects_ite (resp_pure _) (resp_bind resp_query fun _ => respects_ite (resp_pure _)
    (resp_bind (resp_bind (resp_queryLoop _ _ _ _ _) fun _ => resp_bind (resp_outWrite _ _) fun _ =>
      resp_pure _) fun _ => resp_pure _))

theorem resp_osdQuery (pid cid : UInt64) (queryListLen : UInt32) (allocLen : UInt64) (indata : Mem)
    (fuel : Nat) : Respects R (osdQuery env pid cid queryListLen allocLen indata fuel) := by
  refine respects_ite (resp_pure _) (resp_bind resp_query fun _ => respects_ite (resp_pure _)
    (respects_ite (resp_pure _) (respects_ite (resp_pure _) (respects_ite (resp_pure _) ?_))))
  split
  · exact resp_never
  · exact resp_pure _
  · exact resp_bind (resp_outWrite _ _) fun _ => resp_bind (resp_outWrite _ _) fun _ =>
      resp_bind (resp_mtqRunQuery _ _ _ _) fun _ => respects_ite (resp_pure _)
        (resp_bind (resp_setCcap _) fun _ => resp_pure _)

/-! ## The data of one object -/

theorem resp_truncateFile (hf : AdmitsFile R pid oid) (len : UInt64) :
    Respects R (truncateFile env pid oid len) := by
  refine fun t => ends_bind.2 (ends_get.2 ?_)
  cases hc : t.lookup env pid oid with
  | none => exact ends_pure.2 (Stays.refl R t)
  | some c =>
    exact ends_ite_of (fun _ => ends_pure.2 (Stays.refl R t)) fun _ =>
      ends_bind.2 (ends_set.2 (ends_pure.2 (hf t c _ (Target.files_of_lookup hc))))

theorem resp_contigAppend (hf : AdmitsFile R pid oid) (len : UInt64) (appenddata : Option Mem) :
    Respects R (contigAppend env pid oid len appenddata) := by
  unfold contigAppend
  split
  · exact resp_pure _
  · refine respects_ite (resp_pure _) (resp_bind resp_get fun t => ?_)
    split
    · exact resp_pure _
    · exact respects_ite (resp_pure _) (respects_ite (resp_pure _)
        (resp_bind (resp_pwriteFile hf _ _ _) fun _ => respects_ite (resp_pure _) (resp_finishWrite _)))

theorem resp_osdClear (hf : AdmitsFile R pid oid) (len offset : UInt64) :
    Respects R (osdClear env pid oid len offset) :=
  respects_ite (resp_pure _) (respects_ite (resp_pure _) (resp_bind resp_openFile fun _ =>
    respects_ite (resp_pure _) (resp_bind (resp_pwriteFile hf _ _ _) fun _ =>
      respects_ite (resp_pure _) (resp_finishWrite _))))

theorem resp_osdPunch (hf : AdmitsFile R pid oid) (len offset : UInt64) :
    Respects R (osdPunch env pid oid len offset) := by
  refine respects_ite (resp_pure _) (resp_bind resp_get fun t => ?_)
  split
  · exact resp_pure _
  · refine respects_ite (resp_pure _) (respects_ite (resp_pure _) (respects_ite (resp_pure _)
      (respects_ite (resp_bind (resp_truncateFile hf _) fun _ => respects_ite (resp_pure _)
        (respects_ite (resp_pure _) (resp_pure _))) (respects_ite (resp_pure _)
          (resp_bind resp_get fun t => ?_)))))
    split
    · exact resp_pure _
    · exact resp_bind (resp_pwriteFile hf _ _ _) fun _ => respects_ite (resp_pure _)
        (resp_bind (resp_truncateFile hf _) fun _ => respects_ite (resp_pure _)
          (respects_ite (resp_pure _) (resp_pure _)))

end Stays

/-! ## Collections and partitions -/

/-- `R` does not look at the tables. -/
def AdmitsDb (R : Target → Target → Prop) : Prop := ∀ (s : Target) d, R s { s with db := d }

section Uncached

variable {R : Target → Target → Prop} [Uncached R]

theorem resp_dbExecDms (h : AdmitsDb R) (st : Dms) : Respects R (dbExecDms env st) :=
  fun s => dbExecDms_ends (fun d _ _ => h s d) fun _ => Stays.refl R s

/-- `R` admits what the statements do. -/
abbrev AdmitsStatements (env : Env) (R : Target → Target → Prop) : Prop :=
  ∀ st, Respects R (dbExecDms env st)

theorem resp_chooseId (pid lb : UInt64) : Respects R (chooseId env pid lb) := by
  have hic : ∀ c : Target → IdCache, Respects R (modify fun s => { s with ic := c s } : OsdM Unit) :=
    fun c => respects_modify fun s => Uncached.ic s (c s)
  have hfirst : ∀ oid : UInt64, Respects R (if oid = 1 then
      modify (fun s => { s with ic := { s.ic with nextId := lb + 1 } }) >>= fun _ => pure (some lb)
      else pure (some oid) : OsdM (Option UInt64)) :=
    fun _ => respects_ite (resp_bind (hic _) fun _ => resp_pure _) (resp_pure _)
  intro s
  refine ends_bind.2 (ends_get.2 (ends_ite_of (fun _ => ?_) fun _ => ?_))
  · refine ends_bind.2 (ends_set.2 ?_)
    exact (hfirst s.ic.nextId _).mono fun _ v => Stays.trans s _ v (Uncached.ic s _)
  · refine resp_bind resp_query (fun r => ?_) s
    split
    · exact resp_bind (hic _) fun _ => hfirst _
    · exact resp_pure none

theorem resp_takeRequestedId (pid requested : UInt64) : Respects R (takeRequestedId env pid requested) :=
  resp_bind resp_query fun _ => respects_ite (resp_pure _)
    (resp_bind resp_invalidateCache fun _ => resp_pure _)

/-- The choice of an id, and what is done with it. -/
theorem resp_pickId {pid lb requested : UInt64} {failed refused : Ret} {f : UInt64 → OsdM Ret}
    (hf : ∀ i, Respects R (f i)) :
    Respects R (if requested = 0 then do
        match ← chooseId env pid lb with
        | none =>
          invalidateCache
          return failed
        | some i => f i
      else do
        if !(← takeRequestedId env pid requested) then
          return refused
        f requested) := by
  refine respects_ite (resp_bind (resp_chooseId _ _) fun picked => ?_)
    (resp_bind (resp_takeRequestedId _ _) fun _ => respects_ite (resp_pure _) (hf _))
  split
  · exact resp_bind resp_invalidateCache fun _ => resp_pure _
  · exact hf _

theorem resp_insertCollection (h : AdmitsStatements env R) (pid cid requestedCid : UInt64) :
    Respects R (insertCollection env pid cid requestedCid) :=
  resp_bind (h _) fun _ => respects_ite (resp_pure _)
    (resp_bind (resp_setCcap _) fun _ => resp_pure _)

theorem resp_osdCreateCollection (h : AdmitsStatements env R) (pid requestedCid : UInt64) :
    Respects R (osdCreateCollection env pid requestedCid) :=
  respects_ite (resp_pure _) (respects_ite (resp_pure _) (resp_bind resp_query fun _ =>
    respects_ite (resp_pure _) (resp_pickId fun _ => resp_insertCollection h _ _ _)))

theorem resp_osdCreateUserTrackingCollection (h : AdmitsStatements env R) (pid requestedCid sourceCid : UInt64)
    (cdbContLen : UInt32) :
    Respects R (osdCreateUserTrackingCollection env pid requestedCid sourceCid cdbContLen) := by
  have hfill : ∀ cid, Respects R (fillTrackingCollection env pid cid requestedCid sourceCid) := fun cid =>
    respects_ite (resp_bind (h _) fun _ => respects_ite
      (resp_bind resp_invalidateCache fun _ => resp_pure _) (resp_insertCollection h _ _ _))
      (resp_insertCollection h _ _ _)
  exact respects_ite (resp_pure _) (respects_ite (resp_pure _) (resp_bind resp_query fun _ =>
    respects_ite (resp_pure _) (resp_bind resp_query fun _ => respects_ite (resp_pure _)
      (respects_ite (resp_pure _) (respects_ite (resp_pure _) (resp_pickId hfill))))))

theorem resp_osdCopyUserObjects (pid requestedOid : UInt64) (cuos : Mem) :
    Respects R (osdCopyUserObjects env pid requestedOid cuos) :=
  respects_ite (resp_pure _) (respects_ite (resp_pure _) (resp_bind resp_query fun _ =>
    respects_ite (resp_pure _) (resp_bind resp_query fun _ => respects_ite (resp_pure _)
      (resp_bind resp_query fun _ => respects_ite (resp_pure _) (resp_pickId fun _ =>
        resp_bind (resp_setCcap _) fun _ => resp_pure _)))))

theorem resp_osdCreatePartition (h : AdmitsStatements env R) (requestedPid : UInt64) :
    Respects R (osdCreatePartition env requestedPid) := by
  have hinsert : ∀ pid, Respects R (insertPartition env pid requestedPid) := fun _ =>
    resp_bind (h _) fun _ => respects_ite (resp_pure _)
      (resp_bind (resp_setCcap _) fun _ => resp_pure _)
  refine respects_ite (resp_pure _) (respects_ite (resp_bind resp_query fun r => ?_) (hinsert _))
  split
  · exact hinsert _
  · exact resp_pure _

/-- The end of the two removals. -/
theorem resp_removeRows (h : AdmitsStatements env R) {pid oid : UInt64} {failed : Ret} {c : Ccap} :
    Respects R (attrDeleteAll env pid oid >>= fun ret =>
      if ret ≠ .ok then pure failed
      else objDelete env pid oid >>= fun ret =>
        if ret ≠ .ok then pure failed else setCcap c >>= fun _ => pure .ok) :=
  resp_bind (h _) fun _ => respects_ite (resp_pure _) (resp_bind (h _)
    fun _ => respects_ite (resp_pure _) (resp_bind (resp_setCcap _) fun _ => resp_pure _))

theorem resp_osdRemoveCollection (h : AdmitsStatements env R) (pid cid : UInt64) (fcr : UInt8) :
    Respects R (osdRemoveCollection env pid cid fcr) :=
  respects_ite (resp_pure _) (respects_ite (resp_pure _) (resp_bind resp_query fun _ =>
    respects_ite (resp_pure _) (resp_bind resp_invalidateCache fun _ => resp_bind resp_query fun _ =>
      respects_ite (resp_pure _) (respects_ite (respects_ite (resp_pure _)
        (resp_bind (h _) fun _ => respects_ite (resp_pure _) (resp_removeRows h)))
        (resp_removeRows h)))))

theorem resp_osdRemovePartition (h : AdmitsStatements env R) (pid : UInt64) :
    Respects R (osdRemovePartition env pid) :=
  respects_ite (resp_pure _) (resp_bind resp_query fun _ => respects_ite (resp_pure _)
    (resp_bind resp_invalidateCache fun _ => resp_removeRows h))

end Uncached

end OsdTarget
