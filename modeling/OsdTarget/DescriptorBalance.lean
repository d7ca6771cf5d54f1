import OsdTarget.Descriptors

/-!
# Which commands leave a file open

The commands with their descriptors do what the commands do.  What a command has open at its end it had open
before, exactly if every call it made of a function that opens the data file came to an exit that closes it.
-/

namespace OsdTarget

open Base

variable {env : Env} {s : Target} {pid oid len offset : UInt64} {p : Process Target DataCall}

/-! ## The calls that close what they open -/

/-- `open` of the data file succeeds. -/
def Env.Opens (env : Env) (s : Target) (pid oid : UInt64) : Prop :=
  isUserobjectId pid oid = true ∧ (s.lookup env pid oid).isSome = true ∧
    env.sysFails (.openFile pid oid) = false

instance (env : Env) (s : Target) (pid oid : UInt64) : Decidable (env.Opens s pid oid) :=
  inferInstanceAs (Decidable (_ ∧ _ ∧ _))

/-- What a call has to meet to close what it opens. -/
def DataCall.Closes (env : Env) : DataCall × Target × Finset ℕ → Prop
  | (.read _ _ _ _ none, _, _) => True
  | (.read pid oid _ offset (some l), s, _) => env.Opens s pid oid →
    ∀ i ∈ List.range' 0 l.rounds, (preadFile env s pid oid (l.offset i + offset)
      (l.bytesToTransfer i)).isSome
  | (.write pid oid l, s, _) => env.Opens s pid oid → l.Known → ∀ c ∈ l.plan.1, env.Takes pid oid c
  | (.append pid oid len (some data), s, _) => env.Opens s pid oid → env.sysFails (.lseek pid oid) = false ∧
    ∀ content, s.lookup env pid oid = some content →
      env.Takes pid oid ⟨UInt64.ofNat content.length, len, data⟩
  | (.append _ _ _ none, _, _) => True
  | (.clear _ _ _ _, _, _) => True
  | (.punch _ _ _ _, _, _) => True
  | (.flush pid oid _ _ flushScope, s, _) => env.Opens s pid oid → flushScope = 0 ∨ flushScope = 2
  | (.readMap pid oid allocLen offset mapType, s, _) => 24 ≤ allocLen → env.Opens s pid oid →
    env.sysFails (.stat pid oid) = false →
      mapType = WRITTEN_DATA ∧ ∀ content, s.lookup env pid oid = some content →
        offset.toNat ≤ content.length
  | (.createDatafile pid oid, s, fds) => env.sysFails (.stat pid oid) = false →
      s.lookup env pid oid = none →
    env.sysFails (.creat pid oid) = false → (s.rootFreed && env.rootGarbled) = false → 0 ∈ fds

/-! ## Without the descriptors -/

namespace Fd

theorem contigRead_erases :
    Erases (contigRead env pid oid len offset) (OsdTarget.contigRead env pid oid len offset) := by
  refine erases_ite (erases_pure _) (erases_bind (erases_quietly _) fun opened => erases_ite (erases_pure _)
    (erases_takeFd fun fd => erases_bind (erases_quietly _) fun t => ?_))
  cases preadFile env t pid oid offset len with
  | none => exact erases_closeFd (erases_pure _)
  | some bytes => exact erases_bind (erases_quietly _) fun _ => erases_closeFd (erases_quietly _)

theorem sglRead_erases (sglist : SgList) :
    Erases (sglRead env pid oid len offset sglist) (OsdTarget.sglRead env pid oid len offset sglist) := by
  refine erases_ite (erases_pure _) (erases_bind (erases_quietly _) fun opened => erases_ite (erases_pure _)
    (erases_takeFd fun fd => erases_bind (erases_quietly _) fun r => ?_))
  cases r with
  | none => exact erases_pure _
  | some readlen => exact erases_ite (erases_quietly _) (erases_closeFd (erases_quietly _))

theorem osdReadDevice_erases (sglist : Option SgList) :
    Erases (osdReadDevice env pid oid len offset sglist)
      (OsdTarget.osdReadDevice env pid oid len offset sglist) := by
  refine erases_noteCall ?_
  cases sglist with
  | none => exact contigRead_erases
  | some l => exact sglRead_erases l

theorem osdReadMap_erases (allocLen : UInt64) (mapType : UInt16) :
    Erases (osdReadMap env pid oid allocLen offset mapType)
      (OsdTarget.osdReadMap env pid oid allocLen offset mapType) := by
  refine erases_noteCall (erases_ite (erases_pure _)
    (erases_ite (erases_pure _) (erases_bind (erases_quietly _) fun _ =>
    erases_ite (erases_pure _) (erases_bind (erases_quietly _) fun t => ?_))))
  cases t.lookup env pid oid with
  | none => exact erases_pure _
  | some content =>
    exact erases_ite (erases_pure _) (erases_takeFd fun fd => erases_ite (erases_closeFd (erases_pure _))
      (erases_ite (erases_pure _) (erases_ite (erases_pure _) (erases_bind (erases_quietly _) fun _ =>
        erases_bind (erases_quietly _) fun _ => erases_closeFd (erases_ite (erases_pure _)
          (erases_pure _))))))

theorem finishWrite_erases (fd : ℕ) (appendOff : UInt64) :
    Erases (finishWrite env fd pid oid appendOff) (OsdTarget.finishWrite env pid oid appendOff) :=
  erases_closeFd (erases_quietly _)

theorem osdWrite_erases (dinbuf : Mem) (sglist : SgList) (ddt : UInt8) :
    Erases (osdWrite env pid oid len offset dinbuf sglist ddt)
      (OsdTarget.osdWrite env pid oid len offset dinbuf sglist ddt) := by
  refine erases_noteCall (erases_ite ?_ (erases_ite ?_ (erases_ite ?_ (erases_pure _))))
  · exact erases_ite (erases_pure _) (erases_bind (erases_quietly _) fun opened => erases_ite (erases_pure _)
      (erases_takeFd fun fd => erases_bind (erases_quietly _) fun ret =>
        erases_ite (erases_pure _) (finishWrite_erases _ _)))
  · refine erases_ite (erases_pure _) (erases_bind (erases_quietly _) fun opened => erases_ite (erases_pure _)
      (erases_takeFd fun fd => erases_bind (erases_quietly _) fun ret => ?_))
    cases ret with
    | none => exact erases_pure _
    | some _ => exact erases_ite (erases_quietly _) (finishWrite_erases _ _)
  · refine erases_ite (erases_pure _) (erases_bind (erases_quietly _) fun opened => erases_ite (erases_pure _)
      (erases_takeFd fun fd => erases_bind (erases_quietly _) fun ret => ?_))
    cases ret with
    | none => exact erases_pure _
    | some _ => exact finishWrite_erases _ _

theorem contigAppend_erases (appenddata : Option Mem) :
    Erases (contigAppend env pid oid len appenddata)
      (OsdTarget.contigAppend env pid oid len appenddata) := by
  refine erases_noteCall ?_
  cases appenddata with
  | none => exact erases_pure _
  | some data =>
    refine erases_ite (erases_pure _) (erases_bind (erases_quietly _) fun t => ?_)
    cases t.lookup env pid oid with
    | none => exact erases_pure _
    | some content =>
      exact erases_ite (erases_pure _) (erases_takeFd fun fd => erases_ite (erases_pure _)
        (erases_bind (erases_quietly _) fun ret => erases_ite (erases_pure _) (finishWrite_erases _ _)))

theorem osdClear_erases : Erases (osdClear env pid oid len offset)
    (OsdTarget.osdClear env pid oid len offset) :=
  erases_noteCall (erases_ite (erases_pure _) (erases_ite (erases_pure _)
    (erases_bind (erases_quietly _) fun _ =>
    erases_ite (erases_pure _) (erases_takeFd fun _ => erases_bind (erases_quietly _) fun _ =>
      erases_ite (erases_closeFd (erases_pure _)) (finishWrite_erases _ _)))))

theorem osdPunch_erases : Erases (osdPunch env pid oid len offset)
    (OsdTarget.osdPunch env pid oid len offset) := by
  refine erases_noteCall (erases_ite (erases_pure _) (erases_bind (erases_quietly _) fun t => ?_))
  cases t.lookup env pid oid with
  | none => exact erases_pure _
  | some content =>
    exact erases_ite (erases_pure _) (erases_takeFd fun fd => erases_ite (erases_closeFd (erases_pure _))
      (erases_ite (erases_closeFd (erases_pure _)) (erases_ite (erases_bind (erases_quietly _) fun cut =>
        erases_ite (erases_closeFd (erases_pure _))
          (erases_closeFd (erases_ite (erases_pure _) (erases_pure _))))
        (erases_closeAfter _ fd))))

theorem osdFlush_erases (flushScope : UInt8) :
    Erases (osdFlush env pid oid len offset flushScope)
      (OsdTarget.osdFlush env pid oid len offset flushScope) := by
  refine erases_noteCall (erases_ite (erases_pure _) (erases_bind (erases_quietly _) fun t => ?_))
  cases t.lookup env pid oid with
  | none => exact erases_pure _
  | some content =>
    exact erases_ite (erases_pure _) (erases_takeFd fun fd => erases_ite
      (erases_ite (erases_closeFd (erases_pure _)) (finishWrite_erases _ _))
      (erases_ite (erases_ite (erases_closeFd (erases_pure _)) (erases_ite (erases_closeFd (erases_pure _))
        (erases_ite (erases_closeFd (erases_pure _)) (erases_ite (erases_closeFd (erases_pure _))
          (finishWrite_erases _ _))))) (erases_pure _)))

theorem osdCreateDatafile_erases :
    Erases (osdCreateDatafile env pid oid) (OsdTarget.osdCreateDatafile env pid oid) := by
  refine erases_noteCall (erases_bind (erases_quietly _) fun t => erases_ite (erases_pure _)
    (erases_ite (erases_pure _) (erases_ite (erases_pure _) (erases_bind (erases_quietly _) fun _ =>
      erases_takeFd fun fd => ?_))))
  by_cases h : fd = 0
  · rw [if_pos h]
    exact erases_pure _
  · rw [if_neg h]
    exact erases_closeFd (erases_pure _)

theorem createLoop_erases (n : Nat) (i : UInt64) :
    Erases (createLoop env pid oid n i) (OsdTarget.createLoop env pid oid n i) := by
  induction n generalizing i with
  | zero => exact erases_pure _
  | succ n ih =>
    exact erases_bind (erases_quietly _) fun ret => erases_ite
      (erases_bind (erases_quietly _) fun _ => erases_pure _)
      (erases_bind osdCreateDatafile_erases fun ret => erases_ite
        (erases_bind (erases_quietly _) fun _ => erases_bind (erases_quietly _) fun _ => erases_pure _)
          (ih _))

theorem createFrom_erases (requestedOid : UInt64) (numoid : UInt16) :
    Erases (createFrom env pid requestedOid oid numoid)
      (OsdTarget.createFrom env pid requestedOid oid numoid) := by
  refine erases_bind (createLoop_erases _ _) fun r => ?_
  cases r with
  | some _ => exact erases_bind (erases_quietly _) fun _ => erases_pure _
  | none => exact erases_bind (erases_quietly _) fun _ => erases_bind (erases_quietly _) fun _ => erases_pure _

theorem osdCreate_erases (requestedOid : UInt64) (numoid : UInt16) :
    Erases (osdCreate env pid requestedOid numoid) (OsdTarget.osdCreate env pid requestedOid numoid) := by
  refine erases_ite (erases_pure _) (erases_ite (erases_pure _) (erases_bind (erases_quietly _) fun r =>
    erases_ite (erases_pure _) (erases_ite (erases_pure _)
      (erases_ite (erases_bind (erases_quietly _) fun first => ?_)
      (erases_bind (erases_quietly _) fun free => erases_ite (erases_pure _) (createFrom_erases _ _))))))
  cases first with
  | none => exact erases_bind (erases_quietly _) fun _ => erases_pure _
  | some _ => exact createFrom_erases _ _

theorem cdbCreate_erases (cmd : Command) (fuel : Nat) (used : UInt32) :
    Erases (cdbCreate env cmd fuel used) (OsdTarget.cdbCreate env cmd fuel used) := by
  refine erases_ite (erases_pure _) ?_
  unfold withinTxn
  simp only [bind_assoc, pure_bind]
  exact erases_bind (erases_quietly _) fun _ => erases_bind (osdCreate_erases _ _) fun ret =>
    erases_bind (erases_quietly _) fun _ => erases_ite (erases_pure _)
      (erases_bind (erases_quietly _) fun t =>
      erases_quietly _)

theorem osdCreateAndWriteSense_erases (data : Mem) (sglist : SgList) (ddt : UInt8) :
    Erases (osdCreateAndWriteSense env pid oid len offset data sglist ddt)
      (OsdTarget.osdCreateAndWriteSense env pid oid len offset data sglist ddt) :=
  erases_bind (osdCreate_erases _ _) fun _ => erases_ite (erases_pure _)
    (erases_bind (osdWrite_erases _ _ _) fun _ => erases_ite (erases_bind (erases_quietly _) fun _ => erases_pure _)
      (erases_pure _))

theorem withAttributes_erases {cmd : Command} {fuel : Nat} {m : FdM (Ret × Option UInt64)}
    {n : OsdM (Ret × Option UInt64)} (h : Erases m n) :
    Erases (withAttributes env cmd pid oid fuel m) (OsdTarget.withAttributes env cmd pid oid fuel n) :=
  erases_bind h fun _ => erases_ite (erases_pure _) (erases_bind (erases_quietly _) fun _ => erases_pure _)

theorem noOutput_erases {m : FdM Ret} {n : OsdM Ret} (h : Erases m n) :
    Erases (noOutput m) (OsdTarget.noOutput n) :=
  erases_bind h fun _ => erases_pure _

theorem noContinuations_erases {cmd : Command} {m : FdM Outcome} {n : OsdM Outcome} (h : Erases m n) :
    Erases (noContinuations cmd pid oid m) (OsdTarget.noContinuations cmd pid oid n) :=
  erases_ite (erases_pure _) h

theorem enoughInput_erases {cmd : Command} {m : FdM Outcome} {n : OsdM Outcome} (h : Erases m n) :
    Erases (enoughInput cmd len m) (OsdTarget.enoughInput cmd len n) :=
  erases_ite (erases_pure _) h

theorem cdbRead_erases (cmd : Command) (ds : List ContDescriptor) (fuel : Nat) :
    Erases (cdbRead env cmd ds fuel) (OsdTarget.cdbRead env cmd ds fuel) :=
  erases_ite (erases_pure _) (erases_bind (osdReadDevice_erases _) fun _ => erases_ite (erases_pure _)
    (erases_bind (erases_quietly _) fun _ => erases_ite (erases_pure _) (erases_pure _)))

theorem cdbReadMap_erases (cmd : Command) (fuel : Nat) :
    Erases (cdbReadMap env cmd fuel) (OsdTarget.cdbReadMap env cmd fuel) :=
  erases_bind (erases_quietly _) fun _ => erases_ite (erases_pure _)
    (erases_bind (osdReadMap_erases _ _) fun _ => erases_pure _)

theorem dispatch_erases (cmd : Command) (ds : List ContDescriptor) (fuel : Nat) :
    Erases (dispatch env cmd ds fuel) (OsdTarget.dispatch env cmd ds fuel) := by
  unfold dispatch OsdTarget.dispatch
  cases cmd.serviceAction with
  | append => exact enoughInput_erases (noContinuations_erases (withAttributes_erases
      (noOutput_erases (contigAppend_erases _))))
  | clear => exact noContinuations_erases (withAttributes_erases (noOutput_erases osdClear_erases))
  | create => exact noContinuations_erases (erases_bind (cdbCreate_erases _ _ _) fun _ => erases_pure _)
  | createAndWrite => exact enoughInput_erases (erases_bind (osdCreateAndWriteSense_erases _ _ _) fun _ => erases_pure _)
  | flush => exact noContinuations_erases (erases_bind (osdFlush_erases _) fun _ => erases_pure _)
  | punch => exact noContinuations_erases (withAttributes_erases (noOutput_erases osdPunch_erases))
  | read => exact cdbRead_erases _ _ _
  | readMap => exact noContinuations_erases (cdbReadMap_erases _ _)
  | write => exact enoughInput_erases (erases_bind (withAttributes_erases
      (noOutput_erases (osdWrite_erases _ _ _))) fun _ => erases_pure _)
  | _ => exact erases_quietly _

theorem execServiceAction_erases (cmd : Command) (fuel : Nat) :
    Erases (execServiceAction env cmd fuel) (OsdTarget.execServiceAction env cmd fuel) := by
  refine erases_ite (dispatch_erases _ _ _) ?_
  cases parseCdbContinuationSegment cmd.indata cmd.cdbContLen cmd.action cmd.pid cmd.oid fuel with
  | none => exact erases_quietly _
  | some r =>
    obtain ⟨ret, ds⟩ := r
    cases ret with
    | ok => exact dispatch_erases _ _ _
    | err e => exact erases_pure _
    | sense x => exact erases_pure _

/-- **Without its descriptors a command is the command.** -/
theorem osdemuCmdSubmit_erases (sub : Submission) (fuel : Nat) :
    Erases (osdemuCmdSubmit env sub fuel) (OsdTarget.osdemuCmdSubmit env sub fuel) := by
  unfold osdemuCmdSubmit OsdTarget.osdemuCmdSubmit
  cases sub.refusal env with
  | some r => exact erases_pure _
  | none =>
    exact erases_bind (erases_quietly _) fun _ => erases_bind (execServiceAction_erases _ _) fun _ =>
      erases_bind (erases_quietly _) fun _ => erases_pure _

/-! ## The calls -/

/-- The way into a function that opens the data file. -/
theorem opening_balances {α : Type} {a b : α} {body : ℕ → FdM α} {c : Prop}
    (hno : ¬ env.Opens p.state pid oid → c)
    (hbody : env.Opens p.state pid oid → Ends (body (lowestFree p.fds))
      { p with fds := insert (lowestFree p.fds) p.fds } fun _ q => Balances c p q) :
    Ends (do
      if !isUserobjectId pid oid then
        return a
      if !(← quietly (openFile env pid oid)) then
        return b
      let fd ← takeFd
      body fd : FdM α) p fun _ q => Balances c p q := by
  refine ends_ite_of (fun h => ends_pure.2 (balances_kept rfl rfl (hno fun ho => ?_))) fun hid => ?_
  · rw [ho.1] at h
    cases h
  have hid : isUserobjectId pid oid = true := by simpa using hid
  refine ends_bind.2 (ends_quietly ?_)
  rw [ends_of_run openFile_run]
  refine ends_ite_of (fun h => ends_pure.2 (balances_kept rfl rfl (hno fun ho => ?_))) fun hopen => ?_
  · rw [ho.2.1, ho.2.2] at h
    cases h
  · have hopen : (p.state.lookup env pid oid).isSome = true ∧ env.sysFails (.openFile pid oid) = false := by
      simpa [Option.isSome_iff_ne_none] using hopen
    exact ends_bind.2 (ends_takeFd (hbody ⟨hid, hopen.1, hopen.2⟩))

/-- An exit that closes the file. -/
theorem closed_balances {α : Type} {m : OsdM α} {c : Prop} {t : Target} {calls : List (DataCall × Target × Finset ℕ)}
    {fds : Finset ℕ} (hc : c) :
    Ends (do
      closeFd (lowestFree fds)
      quietly m : FdM α) ⟨t, insert (lowestFree fds) fds, calls⟩ fun _ q => Balances c ⟨s, fds, calls⟩ q :=
  ends_bind.2 (ends_closeFd (ends_quietly fun _ _ _ => balances_kept rfl (erase_lowestFree _) hc))

/-- The loop of `sgl_read` goes through the list where `pread` takes each of its entries. -/
theorem sglReadLoop_isSome {l : SgList} {n i : Nat} {d : UInt64} {t : Target}
    (hlook : t.lookup env pid oid = s.lookup env pid oid) :
    Ends (sglReadLoop env pid oid offset l n i d) t fun r _ => (r.isSome ↔
      ∀ j ∈ List.range' i n, (preadFile env s pid oid (l.offset j + offset)
        (l.bytesToTransfer j)).isSome) := by
  induction n generalizing i d t with
  | zero => exact ends_pure.2 ⟨fun _ _ hj => (nomatch hj), fun _ => rfl⟩
  | succ n ih =>
    refine ends_bind.2 (ends_get.2 ?_)
    have hsame : preadFile env t pid oid (l.offset i + offset) (l.bytesToTransfer i)
        = preadFile env s pid oid (l.offset i + offset) (l.bytesToTransfer i) := by
      unfold preadFile
      rw [hlook]
    rw [hsame, List.range'_succ]
    cases hread : preadFile env s pid oid (l.offset i + offset) (l.bytesToTransfer i) with
    | none =>
      refine ends_pure.2 ⟨fun h => (nomatch h), fun h => ?_⟩
      have hfirst := h i List.mem_cons_self
      rw [hread] at hfirst
      cases hfirst
    | some bytes =>
      have hrest : ∀ u : Target, u.lookup env pid oid = s.lookup env pid oid →
          Ends (sglReadLoop env pid oid offset l n (i + 1) (d + UInt64.ofNat bytes.length)) u fun r _ =>
            (r.isSome ↔ ∀ j ∈ i :: List.range' (i + 1) n,
              (preadFile env s pid oid (l.offset j + offset) (l.bytesToTransfer j)).isSome) := by
        intro u hu
        refine (ih hu).mono fun r _ hr => hr.trans ?_
        rw [List.forall_mem_cons, hread]
        exact ⟨fun h => ⟨rfl, h⟩, And.right⟩
      refine ends_bind.2 (ends_modify.2 ?_)
      by_cases hshort : bytes.length < (l.bytesToTransfer i).toNat
      · simp only [if_pos hshort]
        exact ends_bind.2 (ends_modify.2 (hrest _ hlook))
      · simp only [if_neg hshort]
        exact hrest _ hlook

theorem contigRead_balances : Ends (contigRead env pid oid len offset) p fun _ q => Balances True p q := by
  refine opening_balances (fun _ => trivial) fun _ => ends_bind.2 (ends_quietly (ends_get.2 ?_))
  cases preadFile env p.state pid oid offset len with
  | none => exact ends_bind.2 (ends_closeFd (ends_pure.2 (balances_kept rfl (erase_lowestFree _) trivial)))
  | some bytes => exact ends_bind.2 (ends_quietly fun _ t _ => closed_balances trivial)

theorem sglRead_balances (l : SgList) : Ends (sglRead env pid oid len offset l) p fun _ q =>
    Balances (DataCall.Closes env (.read pid oid len offset (some l), p.state, p.fds)) p q := by
  refine opening_balances (fun hno ho => absurd ho hno) fun ho => ends_bind.2 (ends_quietly ?_)
  refine (sglReadLoop_isSome rfl).mono fun r t hr => ?_
  cases r with
  | none =>
    refine ends_pure.2 (balances_lost rfl rfl fun hc => ?_)
    have hall := hr.2 (hc ho)
    cases hall
  | some readlen =>
    refine ends_ite_of (fun _ => ends_quietly fun _ _ hrun => (nomatch hrun)) fun _ => ?_
    exact closed_balances fun _ => hr.1 rfl

/-- Chunks that are stored all, and their end reached, were taken whole. -/
theorem storePlan_takes {content : List UInt8} (h : s.lookup env pid oid = some content)
    (pl : List Chunk × Bool) :
    Ends (storePlan env pid oid pl) s fun r _ => (r.isSome ↔ ∀ c ∈ pl.1, env.Takes pid oid c) := by
  obtain ⟨ret, content', hrun, htakes, -⟩ := storeChunks_run pl.1 h
  refine ends_bind.2 ((ends_of_run hrun).2 ?_)
  cases ret with
  | none => exact ends_pure.2 ⟨fun hr => (nomatch hr), fun hall => (nomatch htakes.2 hall)⟩
  | some u =>
    refine ends_ite_of (fun _ => ends_pure.2 ⟨fun _ => htakes.1 rfl, fun _ => rfl⟩) fun _ => ?_
    exact fun _ _ hnever => (nomatch hnever)

/-- The writers, after `open`: an exit from the loop leaves the file open. -/
theorem contigWrite_balances (dinbuf : Mem) : Ends (contigWrite env pid oid len offset dinbuf) p fun _ q =>
    Balances (env.Opens p.state pid oid → env.Takes pid oid ⟨offset, len, dinbuf⟩) p q := by
  refine opening_balances (fun hno ho => absurd ho hno) fun ho => ends_bind.2 (ends_quietly ?_)
  obtain ⟨content, hlook⟩ := Option.isSome_iff_exists.1 ho.2.1
  obtain ⟨ret, content', hrun, htakes, -⟩ := pwriteFile_run hlook ⟨offset, len, dinbuf⟩
  refine (ends_of_run hrun).2 (ends_ite_of (fun hshort => ?_) fun hwhole => ?_)
  · exact ends_pure.2 (balances_lost rfl rfl fun hc => hshort (htakes.2 (hc ho)))
  · exact closed_balances fun _ => htakes.1 (not_not.1 hwhole)

theorem sglWrite_balances (dinbuf : Mem) (l : SgList) :
    Ends (sglWrite env pid oid offset dinbuf l) p fun _ q =>
    Balances (env.Opens p.state pid oid → ∀ c ∈ l.chunks offset dinbuf l.rounds 0 0,
      env.Takes pid oid c) p q := by
  refine opening_balances (fun hno ho => absurd ho hno) fun ho => ends_bind.2 (ends_quietly ?_)
  obtain ⟨content, hlook⟩ := Option.isSome_iff_exists.1 ho.2.1
  obtain ⟨ret, content', hrun, htakes, -⟩ := storeChunks_run (l.chunks offset dinbuf l.rounds 0 0) hlook
  rw [sglWriteLoop_eq]
  refine (ends_of_run hrun).2 ?_
  cases ret with
  | none => exact ends_pure.2 (balances_lost rfl rfl fun hc => (nomatch htakes.2 (hc ho)))
  | some u =>
    refine ends_ite_of (fun _ => ends_quietly fun _ _ hnever => (nomatch hnever)) fun _ => ?_
    exact closed_balances fun _ => htakes.1 rfl

theorem vecWrite_balances (dinbuf : Mem) : Ends (vecWrite env pid oid len offset dinbuf) p fun _ q =>
    Balances (env.Opens p.state pid oid → ∀ c ∈ (vecChunks offset (getNtohll dinbuf 0)
      dinbuf (2 ^ 64 + 1) (len - 16)
      (getNtohll dinbuf 8) 16 0).1, env.Takes pid oid c) p q := by
  refine opening_balances (fun hno ho => absurd ho hno) fun ho => ends_bind.2 (ends_quietly ?_)
  obtain ⟨content, hlook⟩ := Option.isSome_iff_exists.1 ho.2.1
  rw [vecWriteLoop_eq]
  refine (storePlan_takes hlook _).mono fun ret t hiff => ?_
  cases ret with
  | none => exact ends_pure.2 (balances_lost rfl rfl fun hc => (nomatch hiff.2 (hc ho)))
  | some u => exact closed_balances fun _ => hiff.1 rfl

theorem osdReadDevice_accounts (sglist : Option SgList) :
    Accounts (DataCall.Closes env) (osdReadDevice env pid oid len offset sglist) := by
  refine accounts_call fun p => ?_
  cases sglist with
  | none => exact contigRead_balances
  | some l => exact sglRead_balances l

theorem osdWrite_accounts (dinbuf : Mem) (sglist : SgList) (ddt : UInt8) :
    Accounts (DataCall.Closes env) (osdWrite env pid oid len offset dinbuf sglist ddt) := by
  refine accounts_call fun p => ?_
  let l : Layout := ⟨ddt, len, offset, dinbuf, sglist⟩
  by_cases hc : ddt = DDT_CONTIG
  · rw [if_pos hc]
    refine (contigWrite_balances dinbuf).mono fun _ q h => h.congr ?_
    have hplan : l.plan.1 = [⟨offset, len, dinbuf⟩] := congrArg Prod.fst (if_pos hc)
    show _ ↔ (_ → l.Known → ∀ c ∈ l.plan.1, _)
    rw [hplan]
    simp only [List.forall_mem_singleton]
    exact ⟨fun h ho _ => h ho, fun h ho => h ho (.inl hc)⟩
  rw [if_neg hc]
  by_cases hs : ddt = DDT_SGL
  · rw [if_pos hs]
    refine (sglWrite_balances dinbuf sglist).mono fun _ q h => h.congr ?_
    have hplan : l.plan.1 = sglist.chunks offset dinbuf sglist.rounds 0 0 :=
      congrArg Prod.fst ((if_neg hc).trans (if_pos hs))
    show _ ↔ (_ → l.Known → ∀ c ∈ l.plan.1, _)
    rw [hplan]
    exact ⟨fun h ho _ => h ho, fun h ho => h ho (.inr (.inl hs))⟩
  rw [if_neg hs]
  by_cases hv : ddt = DDT_VEC
  · rw [if_pos hv]
    refine (vecWrite_balances dinbuf).mono fun _ q h => h.congr ?_
    have hplan : l.plan = vecChunks offset (getNtohll dinbuf 0) dinbuf (2 ^ 64 + 1) (len - 16)
        (getNtohll dinbuf 8) 16 0 :=
      (if_neg hc).trans (if_neg hs)
    show _ ↔ (_ → l.Known → ∀ c ∈ l.plan.1, _)
    rw [hplan]
    exact ⟨fun h ho _ => h ho, fun h ho => h ho (.inr (.inr hv))⟩
  · rw [if_neg hv]
    refine ends_pure.2 (balances_kept rfl rfl fun _ hknown => ?_)
    rcases hknown with h | h | h
    · exact absurd h hc
    · exact absurd h hs
    · exact absurd h hv

theorem osdClear_accounts : Accounts (DataCall.Closes env) (osdClear env pid oid len offset) := by
  refine accounts_call fun p => ends_ite_of (fun _ => ends_pure.2 (balances_kept rfl rfl trivial)) fun _ =>
    opening_balances (fun _ => trivial) fun _ => ends_bind.2 (ends_quietly fun ret t _ => ?_)
  refine ends_ite_of (fun _ => ?_) fun _ => closed_balances trivial
  exact ends_bind.2 (ends_closeFd (ends_pure.2 (balances_kept rfl (erase_lowestFree _) trivial)))

/-- The way into the functions that know the size of the object. -/
theorem openingSized_balances {α : Type} {a b : α} {body : List UInt8 → ℕ → FdM α} {c : Prop}
    (hno : ¬ env.Opens p.state pid oid → c)
    (hbody : ∀ content, env.Opens p.state pid oid → p.state.lookup env pid oid = some content →
      Ends (body content (lowestFree p.fds)) { p with fds := insert (lowestFree p.fds) p.fds }
        fun _ q => Balances c p q) :
    Ends (do
      if !isUserobjectId pid oid then
        return a
      match (← quietly get).lookup env pid oid with
      | none => return b
      | some content =>
        if env.sysFails (.openFile pid oid) then
          return b
        let fd ← takeFd
        body content fd : FdM α) p fun _ q => Balances c p q := by
  refine ends_ite_of (fun h => ends_pure.2 (balances_kept rfl rfl (hno fun ho => ?_))) fun hid => ?_
  · rw [ho.1] at h
    cases h
  have hid : isUserobjectId pid oid = true := by simpa using hid
  refine ends_bind.2 (ends_quietly (ends_get.2 ?_))
  cases hlook : p.state.lookup env pid oid with
  | none =>
    refine ends_pure.2 (balances_kept rfl rfl (hno fun ho => ?_))
    have hsome := ho.2.1
    rw [hlook] at hsome
    cases hsome
  | some content =>
    refine ends_ite_of (fun h => ends_pure.2 (balances_kept rfl rfl (hno fun ho => ?_))) fun hopen => ?_
    · rw [ho.2.2] at h
      cases h
    · refine ends_bind.2 (ends_takeFd (hbody content ⟨hid, ?_, Bool.eq_false_iff.2 hopen⟩ hlook))
      rw [hlook]
      rfl

/-- An exit that closes the file and has nothing more to do. -/
theorem left_balances {α : Type} {a : α} {c : Prop} {t : Target} {calls : List (DataCall × Target × Finset ℕ)}
    {fds : Finset ℕ} (hc : c) :
    Ends (do
      closeFd (lowestFree fds)
      return a : FdM α) ⟨t, insert (lowestFree fds) fds, calls⟩ fun _ q => Balances c ⟨s, fds, calls⟩ q :=
  ends_bind.2 (ends_closeFd (ends_pure.2 (balances_kept rfl (erase_lowestFree _) hc)))

theorem contigAppend_accounts (appenddata : Option Mem) :
    Accounts (DataCall.Closes env) (contigAppend env pid oid len appenddata) := by
  refine accounts_call fun p => ?_
  cases appenddata with
  | none => exact ends_pure.2 (balances_kept rfl rfl trivial)
  | some data =>
    refine openingSized_balances (fun hno ho => absurd ho hno) fun content ho hlook => ?_
    refine ends_ite_of (fun hseek => ?_) fun hseek => ends_bind.2 (ends_quietly ?_)
    · refine ends_pure.2 (balances_lost rfl rfl fun hc => ?_)
      rw [(hc ho).1] at hseek
      cases hseek
    obtain ⟨ret, content', hrun, htakes, -⟩ := pwriteFile_run hlook ⟨UInt64.ofNat content.length, len, data⟩
    refine (ends_of_run hrun).2 (ends_ite_of (fun hshort => ?_) fun hwhole => ?_)
    · exact ends_pure.2 (balances_lost rfl rfl fun hc => hshort (htakes.2 ((hc ho).2 content hlook)))
    · refine closed_balances fun _ => ⟨Bool.eq_false_iff.2 hseek, fun content'' hlook'' => ?_⟩
      cases hlook.symm.trans hlook''
      exact htakes.1 (not_not.1 hwhole)

theorem osdPunch_accounts : Accounts (DataCall.Closes env) (osdPunch env pid oid len offset) := by
  refine accounts_call fun p => openingSized_balances (fun _ => trivial) fun content _ _ => ?_
  refine ends_ite_of (fun _ => left_balances trivial) fun _ => ends_ite_of (fun _ => left_balances trivial) fun _ =>
    ends_ite_of (fun _ => ends_bind.2 (ends_quietly fun cut t _ => ?_)) fun _ =>
      ends_bind.2 (ends_quietly fun ret t _ => left_balances trivial)
  refine ends_ite_of (fun _ => left_balances trivial) fun _ => ends_bind.2 (ends_closeFd ?_)
  exact ends_ite_of (fun _ => ends_pure.2 (balances_kept rfl (erase_lowestFree _) trivial)) fun _ =>
    ends_pure.2 (balances_kept rfl (erase_lowestFree _) trivial)

theorem osdFlush_accounts (flushScope : UInt8) :
    Accounts (DataCall.Closes env) (osdFlush env pid oid len offset flushScope) := by
  refine accounts_call fun p => openingSized_balances (fun hno ho => absurd ho hno) fun content ho _ => ?_
  refine ends_ite_of (fun h0 => ?_) fun h0 => ends_ite_of (fun h2 => ?_) fun h2 => ?_
  · have hc : env.Opens p.state pid oid → flushScope = 0 ∨ flushScope = 2 := fun _ => .inl h0
    exact ends_ite_of (fun _ => left_balances hc) fun _ => closed_balances hc
  · have hc : env.Opens p.state pid oid → flushScope = 0 ∨ flushScope = 2 := fun _ => .inr h2
    exact ends_ite_of (fun _ => left_balances hc) fun _ => ends_ite_of (fun _ => left_balances hc) fun _ =>
      ends_ite_of (fun _ => left_balances hc) fun _ => ends_ite_of (fun _ => left_balances hc) fun _ =>
        closed_balances hc
  · exact ends_pure.2 (balances_lost rfl rfl fun hc => (hc ho).elim h0 h2)

theorem osdReadMap_accounts (allocLen : UInt64) (mapType : UInt16) :
    Accounts (DataCall.Closes env) (osdReadMap env pid oid allocLen offset mapType) := by
  refine accounts_call fun p => ends_ite_of (fun hzero => ?_) fun _ => ends_ite_of (fun hshort => ?_) fun hlong => ?_
  · refine ends_pure.2 (balances_kept rfl rfl fun hlong => ?_)
    rw [hzero] at hlong
    exact absurd hlong (by decide)
  · exact ends_pure.2 (balances_kept rfl rfl fun hlong => absurd hshort (UInt64.not_lt.2 hlong))
  have hlong : 24 ≤ allocLen := UInt64.not_lt.1 hlong
  refine ends_bind.2 (ends_quietly (ends_modify.2 ?_))
  refine openingSized_balances (fun hno _ ho => absurd ho hno) fun content ho hlook => ?_
  refine ends_ite_of (fun hstat => left_balances fun _ _ hno => ?_) fun hstat => ?_
  · rw [hstat] at hno
    cases hno
  have hstat : env.sysFails (.stat pid oid) = false := Bool.eq_false_iff.2 hstat
  refine ends_ite_of (fun hpast => ?_) fun hpast => ends_ite_of (fun htype => ?_) fun htype => ?_
  · refine ends_pure.2 (balances_lost rfl rfl fun hc => ?_)
    exact absurd hpast (Nat.not_lt.2 ((hc hlong ho hstat).2 content hlook))
  · exact ends_pure.2 (balances_lost rfl rfl fun hc => htype (hc hlong ho hstat).1)
  have hc : mapType = WRITTEN_DATA ∧
      ∀ content, p.state.lookup env pid oid = some content → offset.toNat ≤ content.length := by
    refine ⟨not_not.1 htype, fun content' hlook' => ?_⟩
    cases hlook.symm.trans hlook'
    exact Nat.le_of_not_lt hpast
  refine ends_bind.2 (ends_quietly fun _ t _ => ends_bind.2 (ends_quietly (ends_modify.2 (ends_bind.2 (ends_closeFd ?_)))))
  exact ends_ite_of (fun _ => ends_pure.2 (balances_kept rfl (erase_lowestFree _) fun _ _ _ => hc)) fun _ =>
    ends_pure.2 (balances_kept rfl (erase_lowestFree _) fun _ _ _ => hc)

theorem osdCreateDatafile_accounts : Accounts (DataCall.Closes env) (osdCreateDatafile env pid oid) := by
  refine accounts_call fun p => ends_bind.2 (ends_quietly (ends_get.2 ?_))
  refine ends_ite_of (fun hstat => ends_pure.2 (balances_kept rfl rfl fun hno => ?_)) fun hstat => ?_
  · rw [hstat] at hno
    cases hno
  refine ends_ite_of (fun hthere => ends_pure.2 (balances_kept rfl rfl fun _ hno => ?_)) fun hthere => ?_
  · rw [hno] at hthere
    cases hthere
  refine ends_ite_of (fun hcreat => ends_pure.2 (balances_kept rfl rfl fun _ _ hc hroot => ?_)) fun hcreat => ?_
  · rw [hc, hroot] at hcreat
    cases hcreat
  have hmade : env.sysFails (.creat pid oid) = false ∧ (p.state.rootFreed && env.rootGarbled) = false := by
    rw [← Bool.or_eq_false_iff]
    exact Bool.eq_false_iff.2 hcreat
  refine ends_bind.2 (ends_quietly (ends_set.2 (ends_bind.2 (ends_takeFd ?_))))
  refine ends_ite_of (fun hfd => ?_) fun hfd => ?_
  · refine ends_pure.2 (balances_lost rfl rfl fun hc => ?_)
    have hnone : p.state.lookup env pid oid = none := by simpa using hthere
    exact (lowestFree_eq_zero _).1 hfd (hc (Bool.eq_false_iff.2 hstat) hnone hmade.1 hmade.2)
  · exact left_balances fun _ _ _ _ => not_not.1 (mt (lowestFree_eq_zero _).2 hfd)

/-! ## The commands -/

theorem createLoop_accounts (n : Nat) (i : UInt64) :
    Accounts (DataCall.Closes env) (createLoop env pid oid n i) := by
  induction n generalizing i with
  | zero => exact accounts_pure _
  | succ n ih =>
    exact accounts_bind (accounts_quietly _) fun ret => accounts_ite
      (accounts_bind (accounts_quietly _) fun _ => accounts_pure _)
      (accounts_bind osdCreateDatafile_accounts fun ret => accounts_ite
        (accounts_bind (accounts_quietly _) fun _ => accounts_bind (accounts_quietly _) fun _ => accounts_pure _) (ih _))

theorem createFrom_accounts (requestedOid : UInt64) (numoid : UInt16) :
    Accounts (DataCall.Closes env) (createFrom env pid requestedOid oid numoid) := by
  refine accounts_bind (createLoop_accounts _ _) fun r => ?_
  cases r with
  | some _ => exact accounts_bind (accounts_quietly _) fun _ => accounts_pure _
  | none => exact accounts_bind (accounts_quietly _) fun _ => accounts_bind (accounts_quietly _) fun _ => accounts_pure _

theorem osdCreate_accounts (requestedOid : UInt64) (numoid : UInt16) :
    Accounts (DataCall.Closes env) (osdCreate env pid requestedOid numoid) := by
  refine accounts_ite (accounts_pure _) (accounts_ite (accounts_pure _)
    (accounts_bind (accounts_quietly _) fun r =>
    accounts_ite (accounts_pure _) (accounts_ite (accounts_pure _) (accounts_ite
      (accounts_bind (accounts_quietly _) fun first => ?_)
      (accounts_bind (accounts_quietly _) fun free => accounts_ite (accounts_pure _)
        (createFrom_accounts _ _))))))
  cases first with
  | none => exact accounts_bind (accounts_quietly _) fun _ => accounts_pure _
  | some _ => exact createFrom_accounts _ _

theorem cdbCreate_accounts (cmd : Command) (fuel : Nat) (used : UInt32) :
    Accounts (DataCall.Closes env) (cdbCreate env cmd fuel used) :=
  accounts_ite (accounts_pure _) (accounts_bind (accounts_quietly _) fun _ => accounts_bind (osdCreate_accounts _ _)
    fun _ => accounts_bind (accounts_quietly _) fun _ => accounts_ite (accounts_pure _)
      (accounts_bind (accounts_quietly _) fun _ => accounts_quietly _))

theorem osdCreateAndWriteSense_accounts (data : Mem) (sglist : SgList) (ddt : UInt8) :
    Accounts (DataCall.Closes env) (osdCreateAndWriteSense env pid oid len offset data sglist ddt) :=
  accounts_bind (osdCreate_accounts _ _) fun _ => accounts_ite (accounts_pure _)
    (accounts_bind (osdWrite_accounts _ _ _) fun _ => accounts_ite
      (accounts_bind (accounts_quietly _) fun _ => accounts_pure _) (accounts_pure _))

theorem withAttributes_accounts {cmd : Command} {fuel : Nat} {m : FdM (Ret × Option UInt64)}
    (h : Accounts (DataCall.Closes env) m) :
    Accounts (DataCall.Closes env) (withAttributes env cmd pid oid fuel m) :=
  accounts_bind h fun _ => accounts_ite (accounts_pure _)
    (accounts_bind (accounts_quietly _) fun _ => accounts_pure _)

theorem noOutput_accounts {m : FdM Ret} (h : Accounts (DataCall.Closes env) m) :
    Accounts (DataCall.Closes env) (noOutput m) :=
  accounts_bind h fun _ => accounts_pure _

theorem noContinuations_accounts {cmd : Command} {m : FdM Outcome} (h : Accounts (DataCall.Closes env) m) :
    Accounts (DataCall.Closes env) (noContinuations cmd pid oid m) :=
  accounts_ite (accounts_pure _) h

theorem enoughInput_accounts {cmd : Command} {m : FdM Outcome} (h : Accounts (DataCall.Closes env) m) :
    Accounts (DataCall.Closes env) (enoughInput cmd len m) :=
  accounts_ite (accounts_pure _) h

theorem cdbRead_accounts (cmd : Command) (ds : List ContDescriptor) (fuel : Nat) :
    Accounts (DataCall.Closes env) (cdbRead env cmd ds fuel) :=
  accounts_ite (accounts_pure _) (accounts_bind (osdReadDevice_accounts _) fun _ => accounts_ite (accounts_pure _)
    (accounts_bind (accounts_quietly _) fun _ => accounts_ite (accounts_pure _) (accounts_pure _)))

theorem cdbReadMap_accounts (cmd : Command) (fuel : Nat) :
    Accounts (DataCall.Closes env) (cdbReadMap env cmd fuel) :=
  accounts_bind (accounts_quietly _) fun _ => accounts_ite (accounts_pure _)
    (accounts_bind (osdReadMap_accounts _ _) fun _ => accounts_pure _)

theorem dispatch_accounts (cmd : Command) (ds : List ContDescriptor) (fuel : Nat) :
    Accounts (DataCall.Closes env) (dispatch env cmd ds fuel) := by
  unfold dispatch
  cases cmd.serviceAction with
  | append => exact enoughInput_accounts (noContinuations_accounts (withAttributes_accounts
      (noOutput_accounts (contigAppend_accounts _))))
  | clear => exact noContinuations_accounts (withAttributes_accounts (noOutput_accounts osdClear_accounts))
  | create => exact noContinuations_accounts (accounts_bind (cdbCreate_accounts _ _ _) fun _ => accounts_pure _)
  | createAndWrite =>
    exact enoughInput_accounts (accounts_bind (osdCreateAndWriteSense_accounts _ _ _) fun _ => accounts_pure _)
  | flush => exact noContinuations_accounts (accounts_bind (osdFlush_accounts _) fun _ => accounts_pure _)
  | punch => exact noContinuations_accounts (withAttributes_accounts (noOutput_accounts osdPunch_accounts))
  | read => exact cdbRead_accounts _ _ _
  | readMap => exact noContinuations_accounts (cdbReadMap_accounts _ _)
  | write => exact enoughInput_accounts (accounts_bind (withAttributes_accounts
      (noOutput_accounts (osdWrite_accounts _ _ _))) fun _ => accounts_pure _)
  | _ => exact accounts_quietly _

theorem execServiceAction_accounts (cmd : Command) (fuel : Nat) :
    Accounts (DataCall.Closes env) (execServiceAction env cmd fuel) := by
  refine accounts_ite (dispatch_accounts _ _ _) ?_
  split
  · exact accounts_quietly _
  · exact dispatch_accounts _ _ _
  · exact accounts_pure _

theorem osdemuCmdSubmit_accounts (sub : Submission) (fuel : Nat) :
    Accounts (DataCall.Closes env) (osdemuCmdSubmit env sub fuel) := by
  unfold osdemuCmdSubmit
  split
  · exact accounts_pure _
  · exact accounts_bind (accounts_quietly _) fun _ => accounts_bind (execServiceAction_accounts _ _) fun _ =>
      accounts_bind (accounts_quietly _) fun _ => accounts_pure _

/-- **The descriptors open after a command are those open before it** exactly if every call it made of
a function that opens the data file was such as comes to an exit that closes it. -/
theorem osdemuCmdSubmit_balance (env : Env) (sub : Submission) (fuel : Nat) (s : Target) (fds : Finset ℕ) :
    Ends (osdemuCmdSubmit env sub fuel) ⟨s, fds, []⟩ fun _ q => q.fds = fds ↔ ∀ x ∈ q.calls,
      DataCall.Closes env x := by
  refine (osdemuCmdSubmit_accounts sub fuel _).mono fun _ q ⟨_, new, hcalls, hiff⟩ => ?_
  rw [hcalls]
  exact hiff

/-- FLUSH of the attributes of an object. -/
def flushAttributes : Submission where
  cdb := blobMem ([VARLEN_CDB, 0, 0, 0, 0, 0, 0, OSD_CDB_SIZE - 8] ++ htons 0x8888 ++ [1,
    0x20, 0, 0, 0, 0] ++
    htonll 0x10000 ++ htonll 0x10000)
  dataIn := fun _ => 0
  dataInLen := 0
  hasDataIn := false
  hasDataOut := false
  dataOutLen := 0

/-- It is answered as not implemented with the file left open, though no call of the system failed. -/
theorem flushAttributes_leaks :
    (¬ ∀ (env : Env) (sub : Submission) (fuel : Nat) (s : Target) (fds : Finset ℕ),
      Ends (osdemuCmdSubmit env sub fuel) ⟨s, fds, []⟩ fun _ q => q.fds = fds) ∧
    (osdemuCmdSubmit .calm flushAttributes 0 ⟨calmRun [.createPartition 0, .create 0x10000 0 1],
      {0, 1, 2}, []⟩).map
      (fun r => (r.1.status, r.2.fds)) = some (SAM_STAT_CHECK_CONDITION, {0, 1, 2, 3}) := by
  have hrun : (osdemuCmdSubmit .calm flushAttributes 0
      ⟨calmRun [.createPartition 0, .create 0x10000 0 1], {0, 1, 2},
        []⟩).map (fun r => (r.1.status, r.2.fds))
        = some (SAM_STAT_CHECK_CONDITION, {0, 1, 2, 3}) := by
    decide +kernel
  refine ⟨fun h => ?_, hrun⟩
  obtain ⟨⟨r, q⟩, hr, heq⟩ := Option.map_eq_some_iff.1 hrun
  have hfds : q.fds = {0, 1, 2} := h _ _ _ _ _ r q hr
  have hleft : q.fds = {0, 1, 2, 3} := congrArg Prod.snd heq
  rw [hfds] at hleft
  exact absurd hleft (by decide)

end Fd

end OsdTarget
