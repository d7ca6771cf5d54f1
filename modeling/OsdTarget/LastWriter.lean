import OsdTarget.Chunks
import OsdTarget.CommandFrame
import OsdTarget.FileNames

/-!
# Runs of writes, and what is read afterwards

Where storage has no errors, a run of writers leaves in the data file of an object what the last writer
of each position stored there.  `contig_read` reads just that, whatever else the run wrote to other
objects.
-/

namespace OsdTarget

open Base

/-! ## Storage without errors -/

/-- No system call fails, and `pread` and `pwrite` transfer what they are asked for. -/
structure Env.NoIoErrors (env : Env) : Prop where
  calls : ∀ c, env.sysFails c = false
  pwrites : ∀ pid oid off len, ∃ limit, env.pwrite pid oid off len = some limit ∧ len.toNat ≤ limit
  preads : ∀ pid oid off len, ∃ limit, env.pread pid oid off len = some limit ∧ len.toNat ≤ limit
  root : env.rootGarbled = false

/-- The write is short enough for one system call, and ends where a file may end. -/
def FitsFile (w : Write UInt8) : Prop := w.data.length < 0x7ffff000 ∧ w.stop < 2 ^ 63

instance (w : Write UInt8) : Decidable (FitsFile w) :=
  inferInstanceAs (Decidable (w.data.length < 0x7ffff000 ∧ w.stop < 2 ^ 63))

/-- One system call takes the write whole, and it ends where a file may end. -/
def TakenWhole (w : Write UInt8) : Prop := w.data.length ≤ 0x7ffff000 ∧ w.stop < 2 ^ 63

instance (w : Write UInt8) : Decidable (TakenWhole w) :=
  inferInstanceAs (Decidable (w.data.length ≤ 0x7ffff000 ∧ w.stop < 2 ^ 63))

theorem FitsFile.takenWhole {w : Write UInt8} (h : FitsFile w) : TakenWhole w := ⟨Nat.le_of_lt h.1, h.2⟩

variable {env : Env} {pid oid : UInt64} {s t : Target} {content base : List UInt8}

theorem Env.NoIoErrors.lookup (henv : env.NoIoErrors) (s : Target) (pid oid : UInt64) :
    s.lookup env pid oid = s.files pid oid := by
  unfold Target.lookup
  rw [henv.root, Bool.and_false]
  exact if_neg Bool.false_ne_true

theorem Env.NoIoErrors.takes (henv : env.NoIoErrors) {c : Chunk} (h : TakenWhole c.write) :
    env.Takes pid oid c := by
  obtain ⟨hlen, hstop⟩ := h
  obtain ⟨limit, hlimit, hle⟩ := henv.pwrites pid oid c.off c.len
  have hsize : c.write.data.length = c.len.toNat := Mem.read_length _ _ _
  have hoff : c.write.offset = c.off.toNat := rfl
  unfold Write.stop at hstop
  exact ⟨by omega, limit, hlimit, by omega⟩

theorem Env.NoIoErrors.writesOut (henv : env.NoIoErrors) {cs : List Chunk}
    (h : ∀ w ∈ cs.map Chunk.write, TakenWhole w) : env.WritesOut pid oid cs :=
  ⟨fun _ hc => henv.takes (h _ (List.mem_map_of_mem hc)), henv.calls _⟩

/-! ## Writers -/

/-- A call of `contig_write`, `sgl_write`, `contig_append` or `osd_clear`. -/
inductive DataOp
  | contigWrite (len offset : UInt64) (dinbuf : Mem)
  | sglWrite (offset : UInt64) (dinbuf : Mem) (sglist : SgList)
  | contigAppend (len : UInt64) (appenddata : Option Mem)
  | osdClear (len offset : UInt64)

/-- The call on an object, in the surroundings it meets. -/
structure DataStep where
  env : Env
  pid : UInt64
  oid : UInt64
  op : DataOp

def DataStep.exec (st : DataStep) : OsdM Ret :=
  match st.op with
  | .contigWrite len offset dinbuf => contigWrite st.env st.pid st.oid len offset dinbuf
  | .sglWrite offset dinbuf sglist => sglWrite st.env st.pid st.oid offset dinbuf sglist
  | .contigAppend len appenddata => contigAppend st.env st.pid st.oid len appenddata
  | .osdClear len offset => osdClear st.env st.pid st.oid len offset

/-- Calls one after the other. -/
def execSteps : List DataStep → OsdM (List Ret)
  | [] => return []
  | st :: sts => do
    let ret ← st.exec
    let rets ← execSteps sts
    return ret :: rets

/-! ## What they are meant to write -/

/-- The writes of a scatter/gather list from entry `i` on, `n` entries to go, its data from `pos` on. -/
def SgList.writes (l : SgList) (offset : Nat) (dinbuf : Mem) : Nat → Nat → Nat → List (Write UInt8)
  | 0, _, _ => []
  | n + 1, i, pos =>
    ⟨(l.offset i).toNat + offset, dinbuf.read pos (l.bytesToTransfer i).toNat⟩ ::
      l.writes offset dinbuf n (i + 1) (pos + (l.bytesToTransfer i).toNat)

/-- What the call writes to an object of this size. -/
def DataStep.writes (st : DataStep) (size : Nat) : List (Write UInt8) :=
  match st.op with
  | .contigWrite len offset dinbuf => [⟨offset.toNat, dinbuf.read 0 len.toNat⟩]
  | .sglWrite offset dinbuf l => l.writes offset.toNat dinbuf l.numEntries.toNat 0 0
  | .contigAppend len (some data) => [⟨size, data.read 0 len.toNat⟩]
  | .contigAppend _ none => []
  | .osdClear len offset =>
    if st.env.noMemory len then [] else [⟨offset.toNat, List.replicate len.toNat 0⟩]

/-- What a run writes to one object of this size, oldest first. -/
def writesTo (pid oid : UInt64) : Nat → List DataStep → List (Write UInt8)
  | _, [] => []
  | size, st :: sts =>
    if st.pid = pid ∧ st.oid = oid then
      st.writes size ++ writesTo pid oid (extent size (st.writes size)) sts
    else writesTo pid oid size sts

/-! ## One call -/

/-- The chunks of a list are its writes: neither an offset nor a position in the data wraps around. -/
theorem SgList.chunks_writes (l : SgList) (offset : UInt64) (dinbuf : Mem) {n i pos : Nat}
    {dataOffset : UInt64}
    (hpos : dataOffset.toNat = pos) (hle : pos ≤ i * 2 ^ 31) (hn : i + n ≤ 2 ^ 32)
    (hfit : ∀ w ∈ l.writes offset.toNat dinbuf n i pos, TakenWhole w) :
    (l.chunks offset dinbuf n i dataOffset).map Chunk.write = l.writes offset.toNat dinbuf n i pos := by
  induction n generalizing i pos dataOffset with
  | zero => rfl
  | succ n ih =>
    obtain ⟨⟨hlen, hstop⟩, hrest⟩ := List.forall_mem_cons.1 hfit
    have hlen : (l.bytesToTransfer i).toNat ≤ 0x7ffff000 := by simpa using hlen
    have hstop : (l.offset i).toNat + offset.toNat + (l.bytesToTransfer i).toNat < 2 ^ 63 := by
      simpa [Write.stop] using hstop
    have hoff : (l.offset i + offset).toNat = (l.offset i).toNat + offset.toNat := by
      rw [UInt64.toNat_add, Nat.mod_eq_of_lt (by omega)]
    have hnext : (dataOffset + l.bytesToTransfer i).toNat = pos + (l.bytesToTransfer i).toNat := by
      rw [UInt64.toNat_add, hpos, Nat.mod_eq_of_lt (by omega)]
    have hhead : Chunk.write ⟨l.offset i + offset, l.bytesToTransfer i, dinbuf.shift dataOffset.toNat⟩
        = ⟨(l.offset i).toNat + offset.toNat, dinbuf.read pos (l.bytesToTransfer i).toNat⟩ := by
      unfold Chunk.write
      rw [hoff, Mem.read_shift, hpos, Nat.add_zero]
    show Chunk.write _ :: _ = _ :: _
    rw [hhead, ih hnext (by omega) (by omega) hrest]

/-- The writes of fewer entries are among those of more. -/
theorem SgList.writes_subset (l : SgList) (offset : Nat) (dinbuf : Mem) {n m i pos : Nat} (h : n ≤ m) :
    ∀ w ∈ l.writes offset dinbuf n i pos, w ∈ l.writes offset dinbuf m i pos := by
  induction n generalizing m i pos with
  | zero => exact fun w hw => nomatch hw
  | succ n ih =>
    obtain ⟨m, rfl⟩ : ∃ k, m = k + 1 := ⟨m - 1, by omega⟩
    intro w hw
    rcases List.mem_cons.1 hw with rfl | hw
    · exact List.mem_cons_self
    · exact List.mem_cons_of_mem _ (ih (Nat.le_of_succ_le_succ h) w hw)

/-- Zeros from memory that holds nothing else. -/
theorem read_zeros (n : Nat) : Mem.read (fun _ => 0) 0 n = List.replicate n 0 := by
  unfold Mem.read
  rw [List.map_const', List.length_range]

section

variable (henv : env.NoIoErrors) (hid : isUserobjectId pid oid = true)
      (hfile : s.files pid oid = some content)

include henv hfile

theorem storeAll_stores (cs : List Chunk) (appendOff : UInt64)
    (hfit : ∀ w ∈ cs.map Chunk.write, TakenWhole w) :
    Ends (storeAll env pid oid cs appendOff) s fun ret s' =>
      ret = .ok ∧ s'.files pid oid = some (stores 0 content (cs.map Chunk.write)) :=
  (ends_of_run (storeAll_ok ((henv.lookup s pid oid).trans hfile) (henv.writesOut hfit) appendOff)).2
    ⟨rfl, if_pos ⟨rfl, rfl⟩⟩

include hid

theorem writeOut_stores (cs : List Chunk) (hfit : ∀ w ∈ cs.map Chunk.write, TakenWhole w) :
    Ends (writeOut env pid oid cs) s fun ret s' =>
      ret = .ok ∧ s'.files pid oid = some (stores 0 content (cs.map Chunk.write)) := by
  intro a s' hrun
  unfold writeOut at hrun
  rw [onDatafile_opened hid ((henv.lookup s pid oid).trans hfile) (henv.calls _)] at hrun
  exact storeAll_stores henv hfile cs 0 hfit a s' hrun

/-- A list of 2^32 entries or more keeps the loop going for ever. -/
theorem sglWrite_endless {l : SgList} (hl : l.endless = true) (offset : UInt64) (dinbuf : Mem)
    (hfit : ∀ w ∈ l.writes offset.toNat dinbuf l.numEntries.toNat 0 0, TakenWhole w) :
    sglWrite env pid oid offset dinbuf l s = none := by
  have hlook : s.lookup env pid oid = some content := (henv.lookup s pid oid).trans hfile
  have hn : 2 ^ 32 ≤ l.numEntries.toNat := of_decide_eq_true hl
  have hrounds : l.rounds = 2 ^ 32 := Nat.min_eq_right hn
  have hfits : ∀ w ∈ l.writes offset.toNat dinbuf (2 ^ 32) 0 0, TakenWhole w := fun w hw =>
    hfit w (l.writes_subset _ _ hn w hw)
  have hchunks := l.chunks_writes offset dinbuf UInt64.toNat_zero (Nat.zero_le _)
    (Nat.le_of_eq (Nat.zero_add _)) hfits
  have htakes : env.WritesOut pid oid (l.chunks offset dinbuf (2 ^ 32) 0 0) :=
    henv.writesOut (by rw [hchunks]; exact hfits)
  obtain ⟨ret, content', hrun, hiff, -⟩ := storeChunks_run (l.chunks offset dinbuf (2 ^ 32) 0 0) hlook
  obtain rfl := hiff.2 htakes.1
  refine (opened_run hid hlook (henv.calls _) _ _ _).trans ?_
  rw [hrounds, sglWriteLoop_eq, bind_of_some hrun]
  exact congrFun (if_pos hl) _

theorem sglWrite_stores (offset : UInt64) (dinbuf : Mem) (l : SgList)
    (hfit : ∀ w ∈ l.writes offset.toNat dinbuf l.numEntries.toNat 0 0, TakenWhole w) :
    Ends (sglWrite env pid oid offset dinbuf l) s fun ret s' => ret = .ok ∧
      s'.files pid oid = some (stores 0 content (l.writes offset.toNat dinbuf l.numEntries.toNat 0 0)) := by
  cases hl : l.endless with
  | true =>
    intro a s' hrun
    rw [sglWrite_endless henv hid hfile hl offset dinbuf hfit] at hrun
    cases hrun
  | false =>
    have hn : 0 + l.numEntries.toNat ≤ 2 ^ 32 := by
      unfold SgList.endless at hl
      rw [Nat.zero_add]
      exact Nat.le_of_not_le (of_decide_eq_false hl)
    have hchunks := l.chunks_writes offset dinbuf UInt64.toNat_zero (Nat.zero_le _) hn hfit
    rw [sglWrite_eq hl, ← hchunks]
    exact writeOut_stores henv hid hfile _ (by rw [hchunks]; exact hfit)

theorem contigAppend_stores (len : UInt64) (data : Mem)
    (hfit : TakenWhole ⟨content.length, data.read 0 len.toNat⟩) :
    Ends (contigAppend env pid oid len (some data)) s fun ret s' => ret = .ok ∧
      s'.files pid oid = some (stores 0 content [⟨content.length, data.read 0 len.toNat⟩]) := by
  have hsize : (UInt64.ofNat content.length).toNat = content.length := by
    have hstop : content.length + _ < 2 ^ 63 := hfit.2
    exact UInt64.toNat_ofNat_of_lt (Nat.lt_trans
      (Nat.lt_of_le_of_lt (Nat.le_add_right _ _) hstop) (by decide))
  have hchunk : [(⟨UInt64.ofNat content.length, len, data⟩ : Chunk)].map Chunk.write
      = [⟨content.length, data.read 0 len.toNat⟩] := by
    rw [List.map_singleton, Chunk.write, hsize]
  intro a s' hrun
  rw [contigAppend_eq hid ((henv.lookup s pid oid).trans hfile) (henv.calls _) (henv.calls _)] at hrun
  obtain ⟨hok, hstored⟩ := storeAll_stores henv hfile _ _ (by rw [hchunk]; simpa using hfit) a s' hrun
  rw [hchunk] at hstored
  exact ⟨hok, hstored⟩

/-- **A call stores its writes**, and answers with success if there are any. -/
theorem DataStep.exec_stores (op : DataOp)
    (hfit : ∀ w ∈ DataStep.writes ⟨env, pid, oid, op⟩ content.length, TakenWhole w) :
    Ends (DataStep.exec ⟨env, pid, oid, op⟩) s fun ret s' =>
      (ret = .ok ∨ ret ≠ .ok ∧ DataStep.writes ⟨env, pid, oid, op⟩ content.length = []) ∧
      s'.files pid oid = some (stores 0 content (DataStep.writes ⟨env, pid, oid, op⟩ content.length)) := by
  cases op with
  | contigWrite len offset dinbuf =>
    show Ends (contigWrite env pid oid len offset dinbuf) s _
    rw [contigWrite_eq]
    exact (writeOut_stores henv hid hfile [⟨offset, len, dinbuf⟩] hfit).mono fun _ _ h => ⟨.inl h.1, h.2⟩
  | sglWrite offset dinbuf l =>
    exact (sglWrite_stores henv hid hfile offset dinbuf l hfit).mono fun _ _ h => ⟨.inl h.1, h.2⟩
  | contigAppend len appenddata =>
    cases appenddata with
    | none => exact ends_pure.2 ⟨.inr ⟨nofun, rfl⟩, hfile⟩
    | some data =>
      exact (contigAppend_stores henv hid hfile len data (hfit _ List.mem_cons_self)).mono
        fun _ _ h => ⟨.inl h.1, h.2⟩
  | osdClear len offset =>
    show Ends (osdClear env pid oid len offset) s _
    rw [osdClear_eq]
    unfold DataStep.writes at hfit ⊢
    dsimp only at hfit ⊢
    refine ends_ite_of (fun hmem => ?_) fun hmem => ?_
    · rw [if_pos hmem]
      exact ends_pure.2 ⟨.inr ⟨nofun, rfl⟩, hfile⟩
    · rw [if_neg hmem] at hfit ⊢
      have hchunk : [(⟨offset, len, fun _ => 0⟩ : Chunk)].map Chunk.write
          = [⟨offset.toNat, List.replicate len.toNat 0⟩] := by
        rw [List.map_singleton, Chunk.write, read_zeros]
      rw [← hchunk] at hfit ⊢
      exact (writeOut_stores henv hid hfile _ hfit).mono fun _ _ h => ⟨.inl h.1, h.2⟩

end

/-! ## A run -/

/-- The data file of (pid, oid) is the same. -/
def SameFile (pid oid : UInt64) (s s' : Target) : Prop := s'.files pid oid = s.files pid oid

instance : Stays (SameFile pid oid) where
  same _ _ _ _ hfiles _ _ _ := congrFun (congrFun hfiles pid) oid
  trans _ _ _ h h' := h'.trans h

theorem SameFile.admitsFile {p o : UInt64} (hne : ¬ (p = pid ∧ o = oid)) :
    AdmitsFile (SameFile pid oid) p o :=
  fun _ _ _ _ => if_neg fun h => hne ⟨h.1.symm, h.2.symm⟩

/-- A call does what its object admits. -/
theorem DataStep.resp_exec {R : Target → Target → Prop} [Stays R] {st : DataStep}
    (hf : AdmitsFile R st.pid st.oid) : Respects R st.exec := by
  unfold DataStep.exec
  cases st.op with
  | contigWrite => exact resp_contigWrite hf _ _ _
  | sglWrite => exact resp_sglWrite hf _ _ _
  | contigAppend => exact resp_contigAppend hf _ _
  | osdClear => exact resp_osdClear hf _ _

/-- It leaves the files of other objects alone. -/
theorem DataStep.exec_beside {st : DataStep} (hne : ¬ (st.pid = pid ∧ st.oid = oid)) :
    Respects (SameFile pid oid) st.exec :=
  DataStep.resp_exec (SameFile.admitsFile hne)

/-- **A run stores, in each object, the writes it is meant to make there.** -/
theorem execSteps_stores {sts : List DataStep} (henv : ∀ st ∈ sts, st.env.NoIoErrors)
    (hid : isUserobjectId pid oid = true) (hfile : s.files pid oid = some base)
    (hfit : ∀ w ∈ writesTo pid oid base.length sts, TakenWhole w) :
    Ends (execSteps sts) s fun _ t => t.files pid oid =
      some (stores 0 base (writesTo pid oid base.length sts)) := by
  induction sts generalizing s base with
  | nil => exact ends_pure.2 hfile
  | cons st sts ih =>
    obtain ⟨hst, hsts⟩ := List.forall_mem_cons.1 henv
    obtain ⟨env, p, o, op⟩ := st
    by_cases heq : p = pid ∧ o = oid
    · obtain ⟨rfl, rfl⟩ := heq
      have hwrites : writesTo p o base.length (⟨env, p, o, op⟩ :: sts)
          = DataStep.writes ⟨env, p, o, op⟩ base.length ++ writesTo p o
            (extent base.length (DataStep.writes ⟨env, p, o, op⟩ base.length)) sts := if_pos ⟨rfl, rfl⟩
      rw [hwrites] at hfit ⊢
      refine ends_call (DataStep.exec_stores hst hid hfile op fun w hw =>
        hfit w (List.mem_append_left _ hw))
        fun ret t ⟨_, ht⟩ => ?_
      have hsize : extent base.length (DataStep.writes ⟨env, p, o, op⟩ base.length)
          = (stores 0 base (DataStep.writes ⟨env, p, o, op⟩ base.length)).length := length_stores.symm
      rw [hsize] at hfit ⊢
      refine ends_call (ih hsts ht fun w hw => hfit w (List.mem_append_right _ hw)) fun rets v hv =>
        ends_pure.2 ?_
      rw [hv, stores_append]
    · have hwrites : writesTo pid oid base.length (⟨env, p, o, op⟩ :: sts) =
          writesTo pid oid base.length sts :=
        if_neg heq
      rw [hwrites] at hfit ⊢
      refine ends_call (DataStep.exec_beside heq s) fun ret t ht => ?_
      exact ends_call (ih hsts (ht.trans hfile) hfit) fun rets v hv => ends_pure.2 hv

theorem execSteps_beside {sts : List DataStep} (hne : ∀ st ∈ sts, ¬ (st.pid = pid ∧ st.oid = oid)) :
    Respects (SameFile pid oid) (execSteps sts) := by
  induction sts with
  | nil => exact resp_pure _
  | cons st sts ih =>
    obtain ⟨hst, hsts⟩ := List.forall_mem_cons.1 hne
    exact resp_bind (DataStep.exec_beside hst) fun _ => resp_bind (ih hsts) fun _ => resp_pure _

/-- A run without lists that keep the loop going for ever comes to its end. -/
theorem halts_execSteps {sts : List DataStep}
    (hends : ∀ st ∈ sts, ∀ offset dinbuf l, st.op = .sglWrite offset dinbuf l → l.endless = false) :
    Halts (execSteps sts) := by
  induction sts with
  | nil => exact halts_pure _
  | cons st sts ih =>
    obtain ⟨hst, hsts⟩ := List.forall_mem_cons.1 hends
    refine halts_bind ?_ fun _ => halts_bind (ih hsts) fun _ => halts_pure _
    obtain ⟨env, p, o, op⟩ := st
    cases op with
    | contigWrite len offset dinbuf =>
      show Halts (contigWrite env p o len offset dinbuf)
      rw [contigWrite_eq]
      exact halts_writeOut _
    | sglWrite offset dinbuf l =>
      show Halts (sglWrite env p o offset dinbuf l)
      rw [sglWrite_eq (hst _ _ _ rfl)]
      exact halts_writeOut _
    | contigAppend len appenddata => exact halts_contigAppend _ _
    | osdClear len offset =>
      show Halts (osdClear env p o len offset)
      rw [osdClear_eq]
      exact halts_ite (halts_pure _) (halts_writeOut _)

/-! ## Reading -/

/-- What `contig_read` answers about an object of this size. -/
def readAnswer (pid oid len offset : UInt64) (size : Nat) : Ret :=
  if 0 < len.toNat ∧ size < offset.toNat + len.toNat then
    readPastEnd pid oid (UInt64.ofNat (min len.toNat (size - offset.toNat)))
  else .ok

/-- A read of a file that opens: what `pread` reads, and zeros for the rest. -/
theorem contigRead_bytes (henv : env.NoIoErrors) (hid : isUserobjectId pid oid = true)
    (hlook : t.lookup env pid oid = some content) {len offset : UInt64} {bytes : List UInt8}
    (hread : preadFile env t pid oid offset len = some bytes) : contigRead env pid oid len offset t =
      if bytes.length < len.toNat then some ((readPastEnd pid oid (UInt64.ofNat bytes.length), some len),
        { t with
          out := t.out ++ [(0, bytes)] ++ [(bytes.length, List.replicate (len.toNat - bytes.length) 0)]
          ccap := fillCcap .userobject pid oid 0 })
      else some ((.ok, some len),
        { t with out := t.out ++ [(0, bytes)], ccap := fillCcap .userobject pid oid 0 }) := by
  refine (opened_run hid hlook (henv.calls _) _ _ _).trans ?_
  refine (bind_of_some (show (get : OsdM Target) t = some (t, t) from rfl)).trans ?_
  rw [hread]
  dsimp only
  refine (bind_of_some (show outWrite 0 bytes t
    = some ((), { t with out := t.out ++ [(0, bytes)] }) from rfl)).trans ?_
  rw [henv.calls, if_neg Bool.false_ne_true]
  by_cases hshort : bytes.length < len.toNat
  · simp only [if_pos hshort]
    rfl
  · simp only [if_neg hshort]
    rfl

theorem contigRead_run (henv : env.NoIoErrors) (hid : isUserobjectId pid oid = true)
    (hfile : t.files pid oid = some content) {len offset : UInt64} (hlen : len.toNat < 0x7ffff000)
    (hend : offset.toNat + len.toNat < 2 ^ 63) : ∃ t',
      contigRead env pid oid len offset t = some
        ((readAnswer pid oid len offset content.length, some len), t') ∧
        ∀ k < len.toNat, t'.reply k = content.getD (offset.toNat + k) 0 := by
  have hlook : t.lookup env pid oid = some content := (henv.lookup t pid oid).trans hfile
  obtain ⟨limit, hlimit, hle⟩ := henv.preads pid oid offset len
  let bytes := (content.drop offset.toNat).take len.toNat
  have hread : preadFile env t pid oid offset len = some bytes := by
    unfold preadFile
    rw [hlook, hlimit]
    dsimp only
    rw [if_neg (by omega), show min limit (min len.toNat 0x7ffff000) = len.toNat by omega]
  have hsize : bytes.length = min len.toNat (content.length - offset.toNat) := by
    rw [List.length_take, List.length_drop]
  have hbytes : ∀ k < bytes.length, t.reply.write 0 bytes k = content.getD (offset.toNat + k) 0 := by
    intro k hk
    have hwrite : t.reply.write 0 bytes (0 + k) = bytes.getD k 0 := Mem.write_of_inside hk 0
    rw [Nat.zero_add] at hwrite
    rw [hwrite]
    exact getD_take_drop (by omega)
  have hrun := contigRead_bytes henv hid hlook hread
  unfold readAnswer
  by_cases hshort : bytes.length < len.toNat
  · rw [if_pos hshort] at hrun
    rw [if_pos (by omega), ← hsize]
    refine ⟨_, hrun, fun k hk => ?_⟩
    simp only [Target.reply, List.foldl_append, List.foldl_cons, List.foldl_nil]
    by_cases hin : k < bytes.length
    · rw [Mem.write_of_lt hin]
      exact hbytes k hin
    · -- behind the end there are only zeros
      obtain ⟨j, rfl⟩ := Nat.exists_eq_add_of_le (Nat.le_of_not_lt hin)
      rw [Mem.write_of_inside (by rw [List.length_replicate]; omega) 0, List.getD_replicate _ (by omega),
        List.getD_eq_default _ _ (by omega)]
  · rw [if_neg hshort] at hrun
    rw [if_neg (by omega)]
    refine ⟨_, hrun, fun k hk => ?_⟩
    simp only [Target.reply, List.foldl_append, List.foldl_cons, List.foldl_nil]
    exact hbytes k (by omega)

/-- **The last writer wins, in each object by itself.**  After any run of writers, a read answers for each
position what the last of them stored there in that object, and zeros past the end; it meets the end
exactly if the range passes it.  No file changes that does not have the name of an object written to. -/
theorem contigRead_lastWritten {sts : List DataStep} {len offset : UInt64}
    (hrun : ∀ st ∈ sts, st.env.NoIoErrors) (henv : env.NoIoErrors) (hid : isUserobjectId pid oid = true)
    (hfile : s.files pid oid = some base) (hfit : ∀ w ∈ writesTo pid oid base.length sts, FitsFile w)
    (hlen : len.toNat < 0x7ffff000) (hend : offset.toNat + len.toNat < 2 ^ 63) :
    Ends (execSteps sts) s fun _ t =>
      (∃ t', contigRead env pid oid len offset t = some ((readAnswer pid oid len offset
          (extent base.length (writesTo pid oid base.length sts)), some len), t') ∧
        ∀ k < len.toNat, t'.reply k =
          if offset.toNat + k < extent base.length (writesTo pid oid base.length sts)
          then lastWritten 0 base (writesTo pid oid base.length sts) (offset.toNat + k) else 0) ∧
      (∀ p o, (∀ st ∈ sts, ¬ (st.pid = p ∧ st.oid = o)) → t.files p o = s.files p o) ∧
      ∀ (root : List Char) (dir : Directory), dir.Holds root s → ∃ dir' : Directory, dir'.Holds root t ∧
        ∀ path, (∀ st ∈ sts, path ≠ getDfileName root st.pid st.oid) → dir' path = dir path := by
  intro rets t ht
  have hstored := execSteps_stores hrun hid hfile (fun w hw => (hfit w hw).takenWhole) rets t ht
  have hbeside : ∀ p o, (∀ st ∈ sts, ¬ (st.pid = p ∧ st.oid = o)) →
      t.files p o = s.files p o := fun p o hne =>
    execSteps_beside hne s rets t ht
  refine ⟨?_, hbeside, fun root dir hdir => ?_⟩
  · obtain ⟨t', hread, hbytes⟩ := contigRead_run henv hid hstored hlen hend
    rw [length_stores] at hread
    refine ⟨t', hread, fun k hk => ?_⟩
    rw [hbytes k hk]
    split
    · exact getD_stores _
    · next hpast => exact List.getD_eq_default _ _ (by rw [length_stores]; omega)
  · let K : UInt64 → UInt64 → Prop := fun p o => ∃ st ∈ sts, st.pid = p ∧ st.oid = o
    have hfiles : ∀ p o, ¬ K p o → t.files p o = s.files p o := fun p o hK =>
      hbeside p o fun st hst heq => hK ⟨st, hst, heq⟩
    obtain ⟨dir', hholds, hsame⟩ := hdir.move hfiles
    refine ⟨dir', hholds, fun path hpath => hsame path ?_⟩
    rintro p o ⟨st, hst, rfl, rfl⟩
    exact hpath st hst

/-- Two writes that overlap and a cleared byte, then a write to another object. -/
def overlappingWrites : List DataStep := [
  ⟨.calm, 0x10000, 0x10000, .contigWrite 4 0 fun i => UInt8.ofNat (i + 1)⟩,
  ⟨.calm, 0x10000, 0x10000, .contigWrite 2 3 fun _ => 9⟩,
  ⟨.calm, 0x10000, 0x10000, .osdClear 1 1⟩,
  ⟨.calm, 0x10000, 0x10001, .contigAppend 2 (some fun _ => 7)⟩]

theorem Env.calm_noIoErrors : Env.calm.NoIoErrors where
  calls _ := rfl
  pwrites _ _ _ len := ⟨len.toNat, rfl, Nat.le_refl _⟩
  preads _ _ _ len := ⟨len.toNat, rfl, Nat.le_refl _⟩
  root := rfl

theorem contigRead_lastWritten_overlap : ∃ rets t t',
    execSteps overlappingWrites (calmRun [.createPartition 0, .create 0x10000 0 2]) = some (rets, t) ∧
      contigRead .calm 0x10000 0x10000 6 0 t = some ((readPastEnd 0x10000 0x10000 5, some 6), t') ∧
      t'.reply 1 = 0 ∧ t'.reply 3 = 9 ∧ t'.reply 5 = 0 := by
  have hfile : (calmRun [.createPartition 0, .create 0x10000 0 2]).files 0x10000 0x10000 = some [] := by
    decide +kernel
  have hcalm : ∀ st ∈ overlappingWrites, st.env.NoIoErrors := by
    intro st hst
    simp only [overlappingWrites, List.mem_cons, List.not_mem_nil, or_false] at hst
    rcases hst with rfl | rfl | rfl | rfl <;> exact Env.calm_noIoErrors
  have hlists : ∀ st ∈ overlappingWrites, ∀ offset dinbuf l, st.op = .sglWrite offset dinbuf l →
      l.endless = false := by
    intro st hst offset dinbuf l hop
    simp only [overlappingWrites, List.mem_cons, List.not_mem_nil, or_false] at hst
    rcases hst with rfl | rfl | rfl | rfl <;> cases hop
  have hlen : (6 : UInt64).toNat < 0x7ffff000 := by decide
  have hend : (0 : UInt64).toNat + (6 : UInt64).toNat < 2 ^ 63 := by decide
  obtain ⟨rets, t, hrun, ⟨t', hread, hbytes⟩, -⟩ := (contigRead_lastWritten hcalm Env.calm_noIoErrors
    (by decide) hfile (by decide +kernel) hlen hend).of_halts (halts_execSteps hlists)
  exact ⟨rets, t, t', hrun, hread, hbytes 1 (by decide), hbytes 3 (by decide), hbytes 5 (by decide)⟩

end OsdTarget
