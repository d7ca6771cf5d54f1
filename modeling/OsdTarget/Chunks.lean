import OsdTarget.DataCommands
import OsdTarget.Base.Writes
import OsdTarget.Frame

/-!
# What the writers store

Every writer opens the data file, hands chunks to `pwrite` one after the other and closes the file.
It answers OSD_OK exactly if storage takes each chunk whole and the file closes; then the file holds
what the chunks leave.
-/

namespace OsdTarget

open Base

/-! ## Chunks -/

/-- What one `pwrite` is given. -/
structure Chunk where
  off : UInt64
  len : UInt64
  src : Mem

def Chunk.write (c : Chunk) : Write UInt8 := ⟨c.off.toNat, c.src.read 0 c.len.toNat⟩

/-- Storage takes the chunk whole. -/
def Env.Takes (env : Env) (pid oid : UInt64) (c : Chunk) : Prop :=
  c.off.toNat + c.len.toNat < 2 ^ 63 ∧
    ∃ limit, env.pwrite pid oid c.off c.len = some limit ∧ c.len.toNat ≤ min limit 0x7ffff000

variable (env : Env)

/-- Chunks up to the first that is not taken whole; `none` if there is one. -/
def storeChunks (pid oid : UInt64) : List Chunk → OsdM (Option Unit)
  | [] => return some ()
  | c :: cs => do
    let ret ← pwriteFile env pid oid c.off c.len c.src
    if ret ≠ some c.len.toNat then
      return none
    storeChunks pid oid cs

/-- The chunks, then `close`. -/
def storeAll (pid oid : UInt64) (cs : List Chunk) (appendOff : UInt64) : OsdM Ret := do
  match ← storeChunks env pid oid cs with
  | none => return hwErr pid oid
  | some _ => finishWrite env pid oid appendOff

/-- What the writers begin with: the tests of the ids, and `open`. -/
def onDatafile (pid oid : UInt64) (m : OsdM Ret) : OsdM Ret := do
  if !isUserobjectId pid oid then
    return cdbErr pid oid
  if !(← openFile env pid oid) then
    return cdbErr pid oid
  m

/-- A writer with its chunks. -/
def writeOut (pid oid : UInt64) (cs : List Chunk) : OsdM Ret :=
  onDatafile env pid oid (storeAll env pid oid cs 0)

/-- The chunks of `sgl_write` from entry `i` on, `n` entries to go. -/
def SgList.chunks (l : SgList) (offset : UInt64) (dinbuf : Mem) : Nat → Nat → UInt64 → List Chunk
  | 0, _, _ => []
  | n + 1, i, dataOffset =>
    ⟨l.offset i + offset, l.bytesToTransfer i, dinbuf.shift dataOffset.toNat⟩ ::
      l.chunks offset dinbuf n (i + 1) (dataOffset + l.bytesToTransfer i)

variable {env} {pid oid : UInt64} {s : Target} {content : List UInt8}

/-! ## Data files -/

theorem Target.lookup_setFile (h : s.lookup env pid oid = some content) (c : List UInt8) :
    (s.setFile pid oid (some c)).lookup env pid oid = some c := by
  unfold Target.lookup at h ⊢
  split at h
  · cases h
  · next hroot => exact (if_neg hroot).trans (if_pos ⟨rfl, rfl⟩)

theorem Target.setFile_setFile (c c' : Option (List UInt8)) :
    (s.setFile pid oid c).setFile pid oid c' = s.setFile pid oid c' := by
  simp only [Target.setFile, Target.mk.injEq, true_and, and_true]
  funext p o
  by_cases h : p = pid ∧ o = oid
  · rw [if_pos h, if_pos h]
  · rw [if_neg h, if_neg h, if_neg h]

theorem files_setFile (c : Option (List UInt8)) : (s.setFile pid oid c).files pid oid = c :=
    if_pos ⟨rfl, rfl⟩

theorem Target.setFile_self (h : s.files pid oid = some content) :
    s.setFile pid oid (some content) = s := by
  have hfiles : (fun p o => if p = pid ∧ o = oid then some content else s.files p o) = s.files := by
    funext p o
    by_cases hp : p = pid ∧ o = oid
    · obtain ⟨rfl, rfl⟩ := hp
      rw [if_pos ⟨rfl, rfl⟩, h]
    · rw [if_neg hp]
  show { s with files := _ } = s
  rw [hfiles]

theorem fileWrite_eq_store (off : Nat) (bytes : List UInt8) :
    fileWrite content off bytes = Write.store 0 content ⟨off, bytes⟩ := by
  cases bytes with
  | nil => rfl
  | cons b bs => exact if_neg (List.cons_ne_nil b bs)

/-! ## One chunk, all chunks -/

/-- What `pwrite` does when the system takes up to `limit` bytes. -/
theorem pwriteFile_taken (h : s.lookup env pid oid = some content) {off len : UInt64} {src : Mem} {limit : Nat}
    (hlimit : env.pwrite pid oid off len = some limit) : pwriteFile env pid oid off len src s =
      if 2 ^ 63 ≤ off.toNat + len.toNat then some (none, s)
      else some (some (min limit (min len.toNat 0x7ffff000)), s.setFile pid oid (some (fileWrite content
        off.toNat (src.read 0 (min limit (min len.toNat 0x7ffff000)))))) := by
  unfold pwriteFile
  rw [bind_get, h, hlimit]
  dsimp only
  split <;> rfl

theorem pwriteFile_failed {off len : UInt64} {src : Mem} (hlimit : env.pwrite pid oid off len = none) :
    pwriteFile env pid oid off len src s = some (none, s) := by
  unfold pwriteFile
  rw [bind_get, hlimit]
  cases s.lookup env pid oid <;> rfl

theorem pwriteFile_run (h : s.lookup env pid oid = some content) (c : Chunk) :
    ∃ ret content', pwriteFile env pid oid c.off c.len c.src s =
      some (ret, s.setFile pid oid (some content')) ∧
      (ret = some c.len.toNat ↔ env.Takes pid oid c) ∧
      (ret = some c.len.toNat → content' = c.write.store 0 content) := by
  have hsame := Target.setFile_self (Target.files_of_lookup h)
  have hstay : ¬ env.Takes pid oid c → pwriteFile env pid oid c.off c.len c.src s = some (none, s) →
      ∃ ret content', pwriteFile env pid oid c.off c.len c.src s =
        some (ret, s.setFile pid oid (some content')) ∧
        (ret = some c.len.toNat ↔ env.Takes pid oid c) ∧
        (ret = some c.len.toNat → content' = c.write.store 0 content) := by
    intro hno hrun
    exact ⟨none, content, by rw [hrun, hsame], ⟨nofun, fun ht => absurd ht hno⟩, nofun⟩
  cases hlimit : env.pwrite pid oid c.off c.len with
  | none =>
    refine hstay ?_ (pwriteFile_failed hlimit)
    rintro ⟨-, limit, hl, -⟩
    rw [hlimit] at hl
    cases hl
  | some limit =>
    have hrun : pwriteFile env pid oid c.off c.len c.src s = _ := pwriteFile_taken h hlimit
    by_cases hoff : 2 ^ 63 ≤ c.off.toNat + c.len.toNat
    · exact hstay (fun ht => absurd ht.1 (Nat.not_lt.2 hoff)) (hrun.trans (if_pos hoff))
    · have hcount : some (min limit (min c.len.toNat 0x7ffff000)) = some c.len.toNat ↔
          c.len.toNat ≤ min limit 0x7ffff000 := by
        rw [Option.some_inj]
        omega
      refine ⟨_, _, hrun.trans (if_neg hoff), ?_, fun hret => ?_⟩
      · rw [hcount]
        constructor
        · exact fun hle => ⟨Nat.lt_of_not_le hoff, limit, hlimit, hle⟩
        · rintro ⟨-, limit', hl, hle⟩
          rw [hlimit] at hl
          cases hl
          exact hle
      · rw [Option.some_inj.1 hret]
        exact fileWrite_eq_store _ _

/-- Chunks are stored as long as each is taken whole. -/
theorem storeChunks_run (cs : List Chunk) (h : s.lookup env pid oid = some content) :
    ∃ ret content', storeChunks env pid oid cs s = some (ret, s.setFile pid oid (some content')) ∧
      (ret = some () ↔ ∀ c ∈ cs, env.Takes pid oid c) ∧
      (ret = some () → content' = stores 0 content (cs.map Chunk.write)) := by
  induction cs generalizing s content with
  | nil =>
    refine ⟨some (), content, ?_, ⟨fun _ _ hc => (nomatch hc), fun _ => rfl⟩, fun _ => rfl⟩
    rw [Target.setFile_self (Target.files_of_lookup h)]
    rfl
  | cons c cs ih =>
    obtain ⟨ret, content', hrun, htakes, hstored⟩ := pwriteFile_run h c
    have hstep : storeChunks env pid oid (c :: cs) s = (if ret ≠ some c.len.toNat then return none
        else storeChunks env pid oid cs : OsdM (Option Unit)) (s.setFile pid oid (some content')) :=
      bind_of_some hrun
    by_cases hret : ret = some c.len.toNat
    · obtain ⟨ret', content'', hrest, htakes', hstored'⟩ := ih (Target.lookup_setFile h content')
      rw [if_neg (not_not.2 hret), hrest, Target.setFile_setFile] at hstep
      refine ⟨ret', content'', hstep, ?_, fun hok => ?_⟩
      · rw [htakes', List.forall_mem_cons]
        exact ⟨fun hcs => ⟨htakes.1 hret, hcs⟩, And.right⟩
      · rw [hstored' hok, hstored hret]
        rfl
    · rw [if_pos hret] at hstep
      refine ⟨none, content', hstep, ⟨nofun, fun hall => ?_⟩, nofun⟩
      exact absurd (htakes.2 (hall c List.mem_cons_self)) hret

/-! ## The writers -/

theorem openFile_run : openFile env pid oid s
    = some ((s.lookup env pid oid).isSome && !env.sysFails (.openFile pid oid), s) := rfl

/-- A command on a data file goes on where the ids are those of a user object and the file opens. -/
theorem opened_run {α : Type} (hid : isUserobjectId pid oid = true)
    (h : s.lookup env pid oid = some content) (hopen : env.sysFails (.openFile pid oid) = false)
    (noId noFile m : OsdM α) : (if (!isUserobjectId pid oid) = true then noId else
      openFile env pid oid >>= fun opened => if (!opened) = true then noFile else m) s = m s := by
  have hnid : ¬ (!isUserobjectId pid oid) = true := by simp [hid]
  have hnopen : ¬ (!((s.lookup env pid oid).isSome && !env.sysFails (.openFile pid oid))) = true := by
    simp [h, hopen]
  refine (congrFun (if_neg hnid) s).trans ((bind_of_some openFile_run).trans ?_)
  exact congrFun (if_neg hnopen) s

/-- Storage takes all chunks and the file closes. -/
def Env.WritesOut (env : Env) (pid oid : UInt64) (cs : List Chunk) : Prop :=
  (∀ c ∈ cs, env.Takes pid oid c) ∧ env.sysFails (.close pid oid) = false

/-- The state after a write that went through. -/
def Target.written (s : Target) (pid oid : UInt64) (content : List UInt8) (appendOff : UInt64) : Target :=
  { s.setFile pid oid (some content) with ccap := fillCcap .userobject pid oid appendOff }

theorem finishWrite_run (appendOff : UInt64) : finishWrite env pid oid appendOff s =
    if env.sysFails (.close pid oid) then some (hwErr pid oid, s)
    else some (.ok, { s with ccap := fillCcap .userobject pid oid appendOff }) := by
  unfold finishWrite
  split <;> rfl

/-- **Where storage takes everything, the file holds what the chunks leave.** -/
theorem storeAll_ok (h : s.lookup env pid oid = some content) {cs : List Chunk}
    (hw : env.WritesOut pid oid cs)
    (appendOff : UInt64) : storeAll env pid oid cs appendOff s
      = some (.ok, s.written pid oid (stores 0 content (cs.map Chunk.write)) appendOff) := by
  obtain ⟨ret, content', hrun, htakes, hstored⟩ := storeChunks_run cs h
  obtain rfl := htakes.2 hw.1
  obtain rfl := hstored rfl
  refine (bind_of_some hrun).trans ((finishWrite_run appendOff).trans (if_neg ?_))
  rw [hw.2]
  exact Bool.false_ne_true

/-- Otherwise the command fails, and only the file may have changed. -/
theorem storeAll_hwErr (h : s.lookup env pid oid = some content) {cs : List Chunk}
    (hw : ¬ env.WritesOut pid oid cs) (appendOff : UInt64) : ∃ content',
      storeAll env pid oid cs appendOff s = some (hwErr pid oid, s.setFile pid oid (some content')) := by
  obtain ⟨ret, content', hrun, htakes, -⟩ := storeChunks_run cs h
  refine ⟨content', (bind_of_some hrun).trans ?_⟩
  cases ret with
  | none => rfl
  | some u =>
    refine (finishWrite_run appendOff).trans (if_pos ?_)
    by_contra hclose
    exact hw ⟨htakes.1 rfl, by simpa using hclose⟩

theorem onDatafile_opened (hid : isUserobjectId pid oid = true) (h : s.lookup env pid oid = some content)
    (hopen : env.sysFails (.openFile pid oid) = false) (m : OsdM Ret) :
    onDatafile env pid oid m s = m s := opened_run hid h hopen _ _ m

/-- Without the ids of a user object, or its file, nothing is written. -/
theorem onDatafile_refused (h : isUserobjectId pid oid = false ∨ s.lookup env pid oid = none ∨
    env.sysFails (.openFile pid oid) = true) (m : OsdM Ret) :
    onDatafile env pid oid m s = some (cdbErr pid oid, s) := by
  by_cases hid : isUserobjectId pid oid = true
  · have hnid : ¬ (!isUserobjectId pid oid) = true := by simp [hid]
    have hclosed : (!((s.lookup env pid oid).isSome && !env.sysFails (.openFile pid oid))) = true := by
      rcases h with h | h | h
      · rw [hid] at h
        cases h
      · simp [h]
      · simp [h]
    refine (congrFun (if_neg hnid) s).trans ((bind_of_some openFile_run).trans ?_)
    exact congrFun (if_pos hclosed) s
  · exact congrFun (if_pos (by simp [hid])) s

/-! ## They return -/

theorem halts_pwriteFile (off len : UInt64) (src : Mem) : Halts (pwriteFile env pid oid off len src) := by
  refine halts_bind halts_get fun t => ?_
  split
  · exact halts_ite (halts_pure _) (halts_bind (halts_set _) fun _ => halts_pure _)
  · exact halts_pure _

theorem halts_storeAll (cs : List Chunk) (appendOff : UInt64) :
    Halts (storeAll env pid oid cs appendOff) := by
  have hchunks : ∀ cs, Halts (storeChunks env pid oid cs) := by
    intro cs
    induction cs with
    | nil => exact halts_pure _
    | cons c cs ih => exact halts_bind (halts_pwriteFile _ _ _) fun _ => halts_ite (halts_pure _) ih
  refine halts_bind (hchunks cs) fun r => ?_
  cases r with
  | none => exact halts_pure _
  | some _ => exact halts_ite (halts_pure _) (halts_bind (halts_modify _) fun _ => halts_pure _)

theorem halts_writeOut (cs : List Chunk) : Halts (writeOut env pid oid cs) :=
  halts_ite (halts_pure _) (halts_bind (halts_bind halts_get fun _ => halts_pure _) fun _ =>
    halts_ite (halts_pure _) (halts_storeAll _ _))

theorem halts_contigAppend (len : UInt64) (appenddata : Option Mem) :
    Halts (contigAppend env pid oid len appenddata) := by
  cases appenddata with
  | none => exact halts_pure _
  | some data =>
    refine halts_ite (halts_pure _) (halts_bind halts_get fun t => ?_)
    split
    · exact halts_pure _
    · exact halts_ite (halts_pure _) (halts_ite (halts_pure _) (halts_bind (halts_pwriteFile _ _ _) fun _ =>
        halts_ite (halts_pure _) (halts_ite (halts_pure _) (halts_bind (halts_modify _) fun _ =>
          halts_pure _))))

/-! ## Their chunks -/

theorem storeAll_single (c : Chunk) (appendOff : UInt64) : storeAll env pid oid [c] appendOff = (do
    let ret ← pwriteFile env pid oid c.off c.len c.src
    if ret ≠ some c.len.toNat then
      return hwErr pid oid
    finishWrite env pid oid appendOff) := by
  unfold storeAll storeChunks storeChunks
  simp only [bind_assoc]
  refine bind_congr fun ret => ?_
  split <;> simp

theorem contigWrite_eq (len offset : UInt64) (dinbuf : Mem) :
    contigWrite env pid oid len offset dinbuf = writeOut env pid oid [⟨offset, len, dinbuf⟩] := by
  unfold contigWrite writeOut onDatafile
  rw [storeAll_single]

theorem sglWriteLoop_eq (offset : UInt64) (dinbuf : Mem) (l : SgList) (n i : Nat) (dataOffset : UInt64) :
    sglWriteLoop env pid oid offset dinbuf l n i dataOffset
      = storeChunks env pid oid (l.chunks offset dinbuf n i dataOffset) := by
  induction n generalizing i dataOffset with
  | zero => rfl
  | succ n ih => exact bind_congr fun ret => if_congr Iff.rfl rfl (ih _ _)

theorem sglWrite_eq {l : SgList} (hl : l.endless = false) (offset : UInt64) (dinbuf : Mem) :
    sglWrite env pid oid offset dinbuf l
      = writeOut env pid oid (l.chunks offset dinbuf l.numEntries.toNat 0 0) := by
  have hrounds : l.rounds = l.numEntries.toNat := by
    unfold SgList.endless at hl
    exact Nat.min_eq_left (Nat.le_of_not_le (of_decide_eq_false hl))
  unfold sglWrite writeOut onDatafile storeAll
  rw [hrounds, sglWriteLoop_eq]
  refine if_congr Iff.rfl rfl (bind_congr fun opened => if_congr Iff.rfl rfl (bind_congr fun ret => ?_))
  cases ret with
  | none => rfl
  | some _ => exact if_neg (by rw [hl]; exact Bool.false_ne_true)

theorem osdClear_eq (len offset : UInt64) : osdClear env pid oid len offset =
    if env.noMemory len then return hwErr pid oid
    else writeOut env pid oid [⟨offset, len, fun _ => 0⟩] := by
  rw [← contigWrite_eq]
  rfl

/-- Appending stores one chunk at the end. -/
theorem contigAppend_eq (hid : isUserobjectId pid oid = true) (h : s.lookup env pid oid = some content)
    (hopen : env.sysFails (.openFile pid oid) = false) (hseek : env.sysFails (.lseek pid oid) = false)
    (len : UInt64) (data : Mem) : contigAppend env pid oid len (some data) s
      = storeAll env pid oid [⟨UInt64.ofNat content.length, len, data⟩]
        (UInt64.ofNat content.length) s := by
  rw [storeAll_single]
  have hnid : ¬ (!isUserobjectId pid oid) = true := by simp [hid]
  unfold contigAppend
  dsimp only
  rw [if_neg hnid, bind_get, h, hopen, hseek]
  rfl

end OsdTarget
