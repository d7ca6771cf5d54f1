import OsdTarget.Lifecycle
import OsdTarget.LogicalLength
import OsdTarget.Punch

/-!
# What an object reports about itself

Runs of CREATE, WRITE, APPEND, CLEAR, PUNCH and SET ATTRIBUTES of the logical length, followed by a plain
model of the contents, and what the user information attributes say of the objects at the end.  The value
of the object id is made from the partition id.
-/

namespace OsdTarget

open Base

variable {env : Env} {s t : Target} {pid oid : UInt64} {content : List UInt8}

/-! ## The plain model -/

/-- The contents of the objects there are. -/
abbrev Contents := UInt64 → UInt64 → Option (List UInt8)

/-- One of them changes, if it is there. -/
def Contents.change (m : Contents) (pid oid : UInt64) (f : List UInt8 → List UInt8) : Contents :=
  fun p o => if p = pid ∧ o = oid then (m p o).map f else m p o

/-- CREATE, a writer, PUNCH, or SET ATTRIBUTES of the logical length. -/
inductive ObjectOp
  | create (numoid : UInt16)
  | data (op : DataOp)
  | punch (len offset : UInt64)
  | setLength (val : Mem) (isembedded : Bool)

/-- The command on an object, in the surroundings it meets; to CREATE the object is the requested one. -/
structure ObjectStep where
  env : Env
  pid : UInt64
  oid : UInt64
  op : ObjectOp

def ObjectStep.exec (st : ObjectStep) : OsdM Ret :=
  match st.op with
  | .create numoid => osdCreate st.env st.pid st.oid numoid
  | .data op => DataStep.exec ⟨st.env, st.pid, st.oid, op⟩
  | .punch len offset => osdPunch st.env st.pid st.oid len offset
  | .setLength val isembedded =>
    osdSetAttributes st.env st.pid st.oid USER_INFO_PG UIAP_LOGICAL_LEN (some val) 8 isembedded

/-- What is meant to become of the content: bytes are overwritten, appended, set to zero or cut out, or the
content is resized.  Writes that no file can take, and ranges that start behind the end, are refused. -/
def ObjectStep.changed (st : ObjectStep) (content : List UInt8) : List UInt8 :=
  if isUserobjectId st.pid st.oid then
    match st.op with
    | .create _ => content
    | .data op =>
      let ws := DataStep.writes ⟨st.env, st.pid, st.oid, op⟩ content.length
      if ∀ w ∈ ws, TakenWhole w then stores 0 content ws else content
    | .punch len offset =>
      if offset.toNat ≤ content.length then removeRange content offset.toNat len.toNat else content
    | .setLength val _ => resized content (getNtohll val 0)
  else content

/-- One command of the plain model: CREATE makes objects without content, whatever their ids, and any other
command changes its object. -/
def PlainStep (st : ObjectStep) (m m' : Contents) : Prop :=
  match st.op with
  | .create _ => ∀ p o, m' p o = m p o ∨ m p o = none ∧ m' p o = some []
  | _ => m' = m.change st.pid st.oid st.changed

/-- Commands one after the other. -/
inductive PlainRun : Contents → List ObjectStep → Contents → Prop
  | nil (m : Contents) : PlainRun m [] m
  | cons {m m' m'' : Contents} {st : ObjectStep} {sts : List ObjectStep} (hstep : PlainStep st m m')
    (hrest : PlainRun m' sts m'') : PlainRun m (st :: sts) m''

/-! ## Runs whose commands fit -/

/-- Storage and the database have no errors, and there is memory for what one system call transfers. -/
structure Env.Works (env : Env) : Prop extends env.NoIoErrors, env.RunsSql where
  memory : ∀ n : UInt64, n.toNat ≤ 0x7ffff000 → env.noMemory n = false

/-- A write is refused before anything is stored. -/
def RefusedAtOnce (ws : List (Write UInt8)) : Prop :=
  ∃ front w rest, ws = front ++ w :: rest ∧ (∀ v ∈ front, v.data = [] ∧ v.offset < 2 ^ 63) ∧
    2 ^ 63 ≤ w.stop ∧ w.offset < 2 ^ 64

/-- When a command does what it is meant to with an object of this content.  The writes are all taken
whole, or one is refused at once; PUNCH starts behind the end, or its sum fits 64 bits and the tail one
system call; a length fits 16 bits. -/
def ObjectStep.Fits (st : ObjectStep) (content : List UInt8) : Prop :=
  match st.op with
  | .create _ => True
  | .data op => (∀ w ∈ DataStep.writes ⟨st.env, st.pid, st.oid, op⟩ content.length, TakenWhole w) ∨
      RefusedAtOnce (DataStep.writes ⟨st.env, st.pid, st.oid, op⟩ content.length)
  | .punch len offset => content.length < offset.toNat ∨ offset.toNat + len.toNat < 2 ^ 64 ∧
      content.length - (offset.toNat + len.toNat) ≤ 0x7ffff000
  | .setLength val _ => (getNtohll val 0).toNat < 2 ^ 16

/-- A run of commands that fit the objects they find. -/
inductive ObjectRun : Target → List ObjectStep → Target → Prop
  | nil (s : Target) : ObjectRun s [] s
  | cons {s t v : Target} {st : ObjectStep} {ret : Ret} {sts : List ObjectStep} (henv : st.env.Works)
    (hfits : ∀ content, s.files st.pid st.oid = some content → st.Fits content)
    (hstep : st.exec s = some (ret, t)) (hrest : ObjectRun t sts v) : ObjectRun s (st :: sts) v

/-- Table and files agree, an object has one row, which is the primary key of the table, and the files are
of lengths that files can have. -/
structure Target.HoldsFiles (s : Target) : Prop where
  files : s.FilesAgree
  keys : ∀ r ∈ s.db.obj, ∀ r' ∈ s.db.obj, r.key = r'.key → r = r'
  sizes : ∀ p o content, s.files p o = some content → content.length < 2 ^ 63

/-! ## Writes that are refused -/

theorem Chunk.write_stop (c : Chunk) : c.write.stop = c.off.toNat + c.len.toNat :=
  congrArg (c.off.toNat + ·) (Mem.read_length _ _ _)

/-- What would end behind the last position there can be `pwrite` does not store at all. -/
theorem pwriteFile_refused (hlook : s.lookup env pid oid = some content) {c : Chunk}
    (hstop : 2 ^ 63 ≤ c.write.stop) : pwriteFile env pid oid c.off c.len c.src s = some (none, s) := by
  cases hlimit : env.pwrite pid oid c.off c.len with
  | none => exact pwriteFile_failed hlimit
  | some limit => exact (pwriteFile_taken hlook hlimit).trans (if_pos (c.write_stop ▸ hstop))

/-- A chunk of no bytes is taken and changes nothing. -/
theorem pwriteFile_empty (henv : env.NoIoErrors) (hfile : s.files pid oid = some content) {c : Chunk}
    (hdata : c.write.data = []) (hoff : c.off.toNat < 2 ^ 63) :
    pwriteFile env pid oid c.off c.len c.src s = some (some c.len.toNat, s) := by
  have hwhole : TakenWhole c.write := by
    have hstop : c.write.stop = c.off.toNat := by
      unfold Write.stop
      rw [hdata]
      rfl
    refine ⟨?_, hstop ▸ hoff⟩
    rw [hdata]
    exact Nat.zero_le _
  obtain ⟨ret, content', hrun, hret, hstored⟩ := pwriteFile_run ((henv.lookup s pid oid).trans hfile) c
  obtain rfl := hret.2 (henv.takes hwhole)
  obtain rfl := hstored rfl
  have hsame : c.write.store 0 content = content := by
    unfold Write.store
    rw [hdata]
  rw [hrun, hsame, Target.setFile_self hfile]

/-- The chunks of a list up to the first that is refused change nothing, and the loop does not get behind
that one. -/
theorem SgList.chunks_refused (henv : env.NoIoErrors) (hfile : s.files pid oid = some content) (l : SgList)
    (offset : UInt64) (dinbuf : Mem) {front rest : List (Write UInt8)} {w : Write UInt8} {n m i pos : Nat}
    {dataOffset : UInt64} (hm : m ≤ n)
    (hsplit : l.writes offset.toNat dinbuf n i pos = front ++ w :: rest)
    (hfront : ∀ v ∈ front, v.data = [] ∧ v.offset < 2 ^ 63) (hlow : 2 ^ 63 ≤ w.stop)
    (hhigh : w.offset < 2 ^ 64) :
    ∃ r, storeChunks env pid oid (l.chunks offset dinbuf m i dataOffset) s = some (r, s) ∧
      (m = n → r = none) := by
  have hlook : s.lookup env pid oid = some content := (henv.lookup s pid oid).trans hfile
  have hsum : (l.offset i).toNat + offset.toNat < 2 ^ 64 →
      (l.offset i + offset).toNat = (l.offset i).toNat + offset.toNat := fun h => by
    rw [UInt64.toNat_add, Nat.mod_eq_of_lt h]
  induction front generalizing n m i pos dataOffset with
  | nil =>
    obtain _ | n := n
    · cases hsplit
    obtain rfl := (List.cons.inj hsplit).1
    obtain _ | m := m
    · exact ⟨some (), rfl, nofun⟩
    refine ⟨none, (bind_of_some (pwriteFile_refused (c := ⟨l.offset i + offset, l.bytesToTransfer i,
      dinbuf.shift dataOffset.toNat⟩) hlook ?_)).trans rfl, fun _ => rfl⟩
    unfold Write.stop at hlow
    rw [Mem.read_length] at hlow
    rw [Chunk.write_stop, hsum hhigh]
    exact hlow
  | cons v front ih =>
    obtain _ | n := n
    · cases hsplit
    obtain ⟨hv, hsplit⟩ := List.cons.inj hsplit
    obtain ⟨⟨hdata, hoff⟩, hfront⟩ := List.forall_mem_cons.1 hfront
    rw [← hv] at hdata hoff
    obtain _ | m := m
    · exact ⟨some (), rfl, nofun⟩
    have hlen : (l.bytesToTransfer i).toNat = 0 := by
      have hlen := congrArg List.length hdata
      rwa [Mem.read_length] at hlen
    have hoff : (l.offset i).toNat + offset.toNat < 2 ^ 63 := hoff
    have hrec : ∃ r, storeChunks env pid oid (l.chunks offset dinbuf m (i + 1)
        (dataOffset + l.bytesToTransfer i)) s = some (r, s) ∧ (m = n → r = none) :=
      ih (Nat.le_of_succ_le_succ hm) hsplit hfront fun h => by rw [UInt64.toNat_add, Nat.mod_eq_of_lt h]
    obtain ⟨r, hrest, hnone⟩ := hrec
    refine ⟨r, (bind_of_some (pwriteFile_empty (c := ⟨l.offset i + offset, l.bytesToTransfer i,
      dinbuf.shift dataOffset.toNat⟩) henv hfile ?_ ?_)).trans ?_, fun h => hnone (Nat.succ.inj h)⟩
    · show Mem.read _ 0 _ = []
      rw [hlen]
      rfl
    · show (l.offset i + offset).toNat < 2 ^ 63
      rw [hsum (by omega)]
      exact hoff
    · exact (congrFun (if_neg (not_not.2 rfl)) s).trans hrest

theorem sglWrite_refused (henv : env.NoIoErrors) (hid : isUserobjectId pid oid = true)
    (hfile : s.files pid oid = some content) {offset : UInt64} {dinbuf : Mem} {l : SgList}
    (h : RefusedAtOnce (l.writes offset.toNat dinbuf l.numEntries.toNat 0 0)) :
    Ends (sglWrite env pid oid offset dinbuf l) s fun ret t => ret ≠ .ok ∧ t = s := by
  obtain ⟨front, w, rest, hsplit, hfront, hlow, hhigh⟩ := h
  have hm : l.rounds ≤ l.numEntries.toNat := Nat.min_le_left _ _
  have hloop : ∃ r, storeChunks env pid oid (l.chunks offset dinbuf l.rounds 0 0) s = some (r, s) ∧
      (l.rounds = l.numEntries.toNat → r = none) :=
    l.chunks_refused henv hfile offset dinbuf hm hsplit hfront hlow hhigh
  obtain ⟨r, hrun, hnone⟩ := hloop
  intro ret t hret
  unfold sglWrite at hret
  rw [opened_run hid ((henv.lookup s pid oid).trans hfile) (henv.calls _), sglWriteLoop_eq,
    bind_of_some hrun] at hret
  cases r with
  | none =>
    cases hret
    exact ⟨nofun, rfl⟩
  | some u =>
    -- the loop came to the end of its rounds, so there are more entries
    have hmore : l.rounds ≠ l.numEntries.toNat := fun h => nomatch hnone h
    have hendless : l.endless = true := by
      unfold SgList.endless
      unfold SgList.rounds at hmore
      exact decide_eq_true (by omega)
    have hnever : (if l.endless then fun _ => none else finishWrite env pid oid 0 : OsdM Ret) s = none :=
      congrFun (if_pos hendless) s
    exact absurd (hret.symm.trans hnever) nofun

/-- Among the writes of a single chunk it is the chunk that is refused. -/
theorem RefusedAtOnce.single {w : Write UInt8} (h : RefusedAtOnce [w]) : 2 ^ 63 ≤ w.stop := by
  obtain ⟨front, v, rest, hsplit, -, hlow, -⟩ := h
  obtain _ | ⟨u, front⟩ := front
  · obtain rfl := (List.cons.inj hsplit).1
    exact hlow
  · have hlen := congrArg List.length hsplit
    simp only [List.length_cons, List.length_nil, List.length_append] at hlen
    omega

theorem writeOut_refused (henv : env.NoIoErrors) (hid : isUserobjectId pid oid = true)
    (hfile : s.files pid oid = some content) {c : Chunk} (hstop : 2 ^ 63 ≤ c.write.stop) :
    writeOut env pid oid [c] s = some (hwErr pid oid, s) := by
  have hlook : s.lookup env pid oid = some content := (henv.lookup s pid oid).trans hfile
  unfold writeOut
  rw [onDatafile_opened hid hlook (henv.calls _), storeAll_single,
    bind_of_some (pwriteFile_refused hlook hstop)]
  rfl

theorem contigAppend_refused (henv : env.NoIoErrors) (hid : isUserobjectId pid oid = true)
    (hfile : s.files pid oid = some content) {len : UInt64} {data : Mem}
    (hstop : 2 ^ 63 ≤ (Chunk.mk (UInt64.ofNat content.length) len data).write.stop) :
    contigAppend env pid oid len (some data) s = some (hwErr pid oid, s) := by
  have hlook : s.lookup env pid oid = some content := (henv.lookup s pid oid).trans hfile
  rw [contigAppend_eq hid hlook (henv.calls _) (henv.calls _), storeAll_single,
    bind_of_some (pwriteFile_refused hlook hstop)]
  rfl

/-- **A call whose writes are refused at once fails and changes nothing.** -/
theorem DataStep.exec_refused (henv : env.NoIoErrors) (hid : isUserobjectId pid oid = true)
    (hfile : s.files pid oid = some content) (hsize : content.length < 2 ^ 63) (op : DataOp)
    (h : RefusedAtOnce (DataStep.writes ⟨env, pid, oid, op⟩ content.length)) :
    Ends (DataStep.exec ⟨env, pid, oid, op⟩) s fun ret t => ret ≠ .ok ∧ t = s := by
  cases op with
  | contigWrite len offset dinbuf =>
    show Ends (contigWrite env pid oid len offset dinbuf) s _
    rw [contigWrite_eq]
    exact (ends_of_run (writeOut_refused (c := ⟨offset, len, dinbuf⟩) henv hid hfile h.single)).2 ⟨nofun, rfl⟩
  | sglWrite offset dinbuf l => exact sglWrite_refused henv hid hfile h
  | contigAppend len appenddata =>
    cases appenddata with
    | none => exact ends_pure.2 ⟨nofun, rfl⟩
    | some data =>
      have hend : (UInt64.ofNat content.length).toNat = content.length :=
        UInt64.toNat_ofNat_of_lt' (Nat.lt_trans hsize (by decide))
      refine (ends_of_run (contigAppend_refused henv hid hfile ?_)).2 ⟨nofun, rfl⟩
      rw [Chunk.write_stop, hend]
      exact h.single.trans_eq (congrArg (content.length + ·) (Mem.read_length _ _ _))
  | osdClear len offset =>
    show Ends (osdClear env pid oid len offset) s _
    rw [osdClear_eq]
    refine ends_ite_of (fun _ => ends_pure.2 ⟨nofun, rfl⟩) fun hmem => ?_
    have hwrites : DataStep.writes ⟨env, pid, oid, .osdClear len offset⟩ content.length =
        [⟨offset.toNat, List.replicate len.toNat 0⟩] := if_neg hmem
    rw [hwrites] at h
    have hrun : writeOut env pid oid [⟨offset, len, fun _ => 0⟩] s = some (hwErr pid oid, s) :=
      writeOut_refused henv hid hfile (by
        rw [Chunk.write_stop]
        exact h.single.trans_eq (congrArg (offset.toNat + ·) List.length_replicate))
    exact (ends_of_run hrun).2 ⟨nofun, rfl⟩

/-- Without the ids of a user object or without its file a call fails. -/
theorem DataStep.exec_absent (h : isUserobjectId pid oid = false ∨ s.lookup env pid oid = none)
    (op : DataOp) : Ends (DataStep.exec ⟨env, pid, oid, op⟩) s fun ret t => ret ≠ .ok ∧ t = s := by
  have hwriter : ∀ m : OsdM Ret, Ends (onDatafile env pid oid m) s fun ret t => ret ≠ .ok ∧ t = s :=
    fun m => (ends_of_run (onDatafile_refused (h.imp_right .inl) m)).2 ⟨nofun, rfl⟩
  cases op with
  | contigWrite len offset dinbuf => exact hwriter _
  | sglWrite offset dinbuf l => exact hwriter _
  | contigAppend len appenddata =>
    cases appenddata with
    | none => exact ends_pure.2 ⟨nofun, rfl⟩
    | some data =>
      refine ends_ite_of (fun _ => ends_pure.2 ⟨nofun, rfl⟩) fun hid => ends_bind.2 (ends_get.2 ?_)
      have hnone : s.lookup env pid oid = none := h.resolve_left (by simpa using hid)
      rw [hnone]
      exact ends_pure.2 ⟨nofun, rfl⟩
  | osdClear len offset =>
    show Ends (osdClear env pid oid len offset) s _
    rw [osdClear_eq]
    exact ends_ite_of (fun _ => ends_pure.2 ⟨nofun, rfl⟩) fun _ => hwriter _

/-! ## Contents -/

theorem Contents.change_self {m : Contents} {f : List UInt8 → List UInt8}
    (h : ∀ content, m pid oid = some content → f content = content) : m.change pid oid f = m := by
  funext p o
  unfold Contents.change
  split
  · rename_i heq
    rw [heq.1, heq.2]
    cases hcontent : m pid oid with
    | none => rfl
    | some content => exact congrArg some (h content hcontent)
  · rfl

theorem Contents.eq_change {m m' : Contents} {f : List UInt8 → List UInt8} (h : m pid oid = some content)
    (hnew : m' pid oid = some (f content)) (hothers : ∀ p o, ¬ (p = pid ∧ o = oid) → m' p o = m p o) :
    m' = m.change pid oid f := by
  funext p o
  unfold Contents.change
  split
  · rename_i heq
    rw [heq.1, heq.2, hnew, h]
    rfl
  · rename_i hne
    exact hothers p o hne

theorem RefusedAtOnce.not_whole {ws : List (Write UInt8)} (h : RefusedAtOnce ws) :
    ¬ ∀ w ∈ ws, TakenWhole w := by
  obtain ⟨front, w, rest, rfl, -, hlow, -⟩ := h
  intro hwhole
  have hstop := (hwhole w (List.mem_append_right _ List.mem_cons_self)).2
  exact absurd hstop (Nat.not_lt.2 hlow)

theorem ObjectStep.changed_outside {st : ObjectStep} (hid : ¬ isUserobjectId st.pid st.oid = true)
    (content : List UInt8) : st.changed content = content := if_neg hid

/-- Files keep to the lengths that files can have. -/
theorem ObjectStep.length_changed {st : ObjectStep} (hfits : st.Fits content)
    (hsize : content.length < 2 ^ 63) : (st.changed content).length < 2 ^ 63 := by
  obtain ⟨env, pid, oid, op⟩ := st
  unfold ObjectStep.changed
  split
  swap
  · exact hsize
  cases op with
  | create numoid => exact hsize
  | data op =>
    dsimp only
    split
    · rename_i hwhole
      rw [length_stores]
      exact extent_lt hsize fun w hw => (hwhole w hw).2
    · exact hsize
  | punch len offset =>
    dsimp only
    split
    · unfold removeRange
      rw [List.length_append, List.length_take, List.length_drop]
      omega
    · exact hsize
  | setLength val isembedded =>
    dsimp only
    rw [resized_length]
    exact Nat.lt_trans hfits (by decide)

/-! ## Writers, PUNCH and the logical length -/

/-- A writer stores all it has or fails without a trace. -/
theorem DataStep.exec_changes (henv : env.NoIoErrors) (op : DataOp)
    (hsizes : ∀ p o content, s.files p o = some content → content.length < 2 ^ 63)
    (hfits : ∀ content, s.files pid oid = some content →
      ObjectStep.Fits ⟨env, pid, oid, .data op⟩ content) :
    Ends (DataStep.exec ⟨env, pid, oid, op⟩) s fun _ t =>
      t.files = Contents.change s.files pid oid (ObjectStep.changed ⟨env, pid, oid, .data op⟩) := by
  let st : ObjectStep := ⟨env, pid, oid, .data op⟩
  have hsame : (∀ content, s.files pid oid = some content → st.changed content = content) →
      ∀ (ret : Ret) t, ret ≠ .ok ∧ t = s → t.files = Contents.change s.files pid oid st.changed :=
    fun h _ t ht => (congrArg Target.files ht.2).trans (Contents.change_self h).symm
  by_cases hid : isUserobjectId pid oid = true
  swap
  · exact (DataStep.exec_absent (.inl (Bool.eq_false_iff.2 hid)) op).mono
      (hsame fun content _ => ObjectStep.changed_outside hid content)
  cases hfile : s.files pid oid with
  | none =>
    have hlook : s.lookup env pid oid = none := (henv.lookup s pid oid).trans hfile
    exact (DataStep.exec_absent (.inr hlook) op).mono (hsame fun content h => nomatch hfile.symm.trans h)
  | some content =>
    have hchanged : st.changed content = if ∀ w ∈ DataStep.writes ⟨env, pid, oid, op⟩ content.length,
        TakenWhole w then stores 0 content (DataStep.writes ⟨env, pid, oid, op⟩ content.length)
        else content := if_pos hid
    rcases hfits content hfile with hwhole | hrefused
    · rw [if_pos hwhole] at hchanged
      intro ret t hrun
      obtain ⟨-, hstored⟩ := DataStep.exec_stores henv hid hfile op hwhole ret t hrun
      refine Contents.eq_change hfile (hchanged ▸ hstored) fun p o hne => ?_
      exact DataStep.exec_beside (fun heq => hne ⟨heq.1.symm, heq.2.symm⟩) s ret t hrun
    · rw [if_neg hrefused.not_whole] at hchanged
      refine (DataStep.exec_refused henv hid hfile (hsizes pid oid content hfile) op hrefused).mono
        (hsame fun c hc => ?_)
      obtain rfl := Option.some.inj (hfile.symm.trans hc)
      exact hchanged

theorem osdPunch_changes {len offset : UInt64} (henv : env.Works)
    (hsizes : ∀ p o content, s.files p o = some content → content.length < 2 ^ 63)
    (hfits : ∀ content, s.files pid oid = some content →
      ObjectStep.Fits ⟨env, pid, oid, .punch len offset⟩ content) :
    Ends (osdPunch env pid oid len offset) s fun _ t =>
      t.files = Contents.change s.files pid oid (ObjectStep.changed ⟨env, pid, oid, .punch len offset⟩) := by
  let st : ObjectStep := ⟨env, pid, oid, .punch len offset⟩
  by_cases hid : isUserobjectId pid oid = true
  swap
  · refine ends_ite_of (fun _ => ends_pure.2 ?_) fun h => absurd (by simpa using h) hid
    exact (Contents.change_self fun content _ => ObjectStep.changed_outside hid content).symm
  cases hfile : s.files pid oid with
  | none =>
    refine ends_ite_of (fun h => absurd hid (by simpa using h)) fun _ => ends_bind.2 (ends_get.2 ?_)
    rw [henv.lookup, hfile]
    exact ends_pure.2 (Contents.change_self fun content h => nomatch hfile.symm.trans h).symm
  | some content =>
    have hchanged : st.changed content = if offset.toNat ≤ content.length then
        removeRange content offset.toNat len.toNat else content := if_pos hid
    by_cases hoff : content.length < offset.toNat
    · rw [if_neg (Nat.not_le.2 hoff)] at hchanged
      refine (ends_of_run (osdPunch_behind henv.toNoIoErrors hid hfile hoff)).2
        (Contents.change_self fun c hc => ?_).symm
      obtain rfl := Option.some.inj (hfile.symm.trans hc)
      exact hchanged
    · have hin := Nat.not_lt.1 hoff
      have hsize := hsizes pid oid content hfile
      obtain ⟨hsum, hshort⟩ := (hfits content hfile).resolve_left hoff
      rw [if_pos hin] at hchanged
      have hmem : (len + offset).toNat ≤ content.length →
          env.noMemory (UInt64.ofNat content.length - (len + offset)) = false := fun hnew => by
        refine henv.memory _ ?_
        rw [tailLen_toNat hsize hnew, sum_toNat, Nat.mod_eq_of_lt hsum]
        exact hshort
      refine (ends_of_run (osdPunch_removed henv.toNoIoErrors hmem hid hfile hsize hin hsum hshort)).2 ?_
      refine Contents.eq_change hfile ?_ fun p o hne => if_neg hne
      exact (files_setFile _).trans (congrArg some hchanged.symm)

/-- The first row of an object is its only one. -/
theorem typeOf_of_hasType {d : Db} {p o : Int} {type : ObjType}
    (hkeys : ∀ r ∈ d.obj, ∀ r' ∈ d.obj, r.key = r'.key → r = r') (h : d.HasType p o type) :
    d.typeOf p o = type := by
  unfold Db.typeOf
  cases hfind : d.obj.find? fun r => r.pid = p ∧ r.oid = o with
  | none => exact absurd (List.find?_eq_none.1 hfind _ h) (by simp)
  | some r =>
    have hkey := List.find?_some hfind
    simp only [decide_eq_true_eq] at hkey
    rw [hkeys r (List.mem_of_find?_eq_some hfind) _ h (Prod.ext hkey.1 hkey.2)]
    rfl

/-- In range the type is that of the row. -/
theorem objType_of_isUserobjectId (d : Db) (hid : isUserobjectId pid oid = true) :
    d.objType pid oid = d.typeOf (bindInt64 pid) (bindInt64 oid) := by
  have hand := Bool.and_eq_true _ _ ▸ hid
  have hpid : USEROBJECT_PID_LB ≤ pid := of_decide_eq_true hand.1
  have hoid := isUserobjectId_le hid
  have hne : oid ≠ 0 := by
    rintro rfl
    exact absurd hoid (by decide)
  unfold Db.objType
  rw [if_neg fun h => hne h.2, if_neg fun h => hne h.2, if_pos ⟨hpid, hoid⟩]

/-- An object in range that has a file is a user object to the device. -/
theorem Target.HoldsFiles.objType (h : s.HoldsFiles) (hid : isUserobjectId pid oid = true)
    (hfile : s.files pid oid = some content) : s.db.objType pid oid = .userobject := by
  have hrow := (h.files.agree pid oid).1 (by rw [hfile]; rfl)
  rw [objType_of_isUserobjectId s.db hid, typeOf_of_hasType h.keys hrow]

/-- Only the user objects in range have a logical length to set. -/
theorem isUserobjectId_of_allows {val : Mem} (h : s.db.Allows pid val (oid, logicalLenEntry)) :
    isUserobjectId pid oid = true := by
  have hset : issettablePage (s.db.objType pid oid) USER_INFO_PG = true := h.settable
  have hty : s.db.objType pid oid ≠ .illegal := h.typed
  unfold Db.objType at hset hty
  split at hset
  · exact absurd hset (by decide)
  rename_i hroot
  rw [if_neg hroot] at hty
  split at hset
  · exact absurd hset (by decide)
  rename_i hpart
  rw [if_neg hpart] at hty
  split at hset
  · rename_i hrange
    exact Bool.and_eq_true _ _ ▸ ⟨decide_eq_true hrange.1, decide_eq_true hrange.2⟩
  · rename_i hrange
    exact absurd (if_neg hrange) hty

theorem logicalLen_changes {val : Mem} {isembedded : Bool} (henv : env.Works) (hs : s.HoldsFiles)
    (hfits : ∀ content, s.files pid oid = some content →
      ObjectStep.Fits ⟨env, pid, oid, .setLength val isembedded⟩ content) :
    Ends (osdSetAttributes env pid oid USER_INFO_PG UIAP_LOGICAL_LEN (some val) 8 isembedded) s
      fun _ t => t.files =
        Contents.change s.files pid oid (ObjectStep.changed ⟨env, pid, oid, .setLength val isembedded⟩) := by
  let st : ObjectStep := ⟨env, pid, oid, .setLength val isembedded⟩
  cases hfile : s.files pid oid with
  | none =>
    refine osdSetAttributes_resizes.mono fun ret t h => ?_
    rcases h with ⟨-, rfl⟩ | ⟨-, -, content, hlook, -⟩
    · exact (Contents.change_self fun content h => nomatch hfile.symm.trans h).symm
    · exact nomatch ((henv.lookup s pid oid).trans hfile).symm.trans hlook
  | some content =>
    by_cases hid : isUserobjectId pid oid = true
    · have hchanged : st.changed content = resized content (getNtohll val 0) := if_pos hid
      have hlen : SetPair.fileLen val (oid, logicalLenEntry) = getNtohll val 0 := by
        rw [fileLen_logicalLen, narrow_eq (hfits content hfile)]
      have htrunc : env.sysFails (.truncate pid oid (SetPair.fileLen val (oid, logicalLenEntry))) = false :=
        henv.calls _
      have hrun := osdSetAttributes_resized isembedded (hs.objType hid hfile)
        ((henv.lookup s pid oid).trans hfile) ⟨henv.query _ _, fun _ => henv.query _ _⟩ htrunc
      rw [hlen] at hrun
      refine (ends_of_run hrun).2 (Contents.eq_change hfile ?_ fun p o hne => ?_)
      · exact (Target.resize_file _ _ _).trans (congrArg some hchanged.symm)
      · unfold Target.resize Target.shown
        cases isembedded <;> exact if_neg hne
    · refine osdSetAttributes_resizes.mono fun ret t h => ?_
      rcases h with ⟨-, rfl⟩ | ⟨-, hallows, -⟩
      · exact (Contents.change_self fun content _ => ObjectStep.changed_outside hid content).symm
      · exact absurd (isUserobjectId_of_allows hallows) hid

/-! ## CREATE -/

/-- Every file of the device is one that there was, or is empty. -/
def OnlyEmptyNew (m : Contents) (t : Target) : Prop :=
  ∀ p o content, t.files p o = some content → m p o = some content ∨ content = []

theorem OnlyEmptyNew.remove {m : Contents} (h : OnlyEmptyNew m s) (pid oid : UInt64) :
    Ends (osdRemove env pid oid) s fun _ t => OnlyEmptyNew m t := by
  refine (osdRemove_spec pid oid).mono fun _ t ht => ?_
  rcases ht with ⟨-, rfl⟩ | ⟨-, hfiles, -⟩
  · exact h
  · intro p o content hcontent
    rw [hfiles] at hcontent
    unfold Target.unlinkedFiles at hcontent
    split at hcontent
    · exact h p o content hcontent
    · rw [Target.setFile_files] at hcontent
      split at hcontent
      · cases hcontent
      · exact h p o content hcontent

/-- The loop of CREATE makes empty files. -/
theorem createLoop_empty {m : Contents} (n : Nat) (i : UInt64) (h : OnlyEmptyNew m s) :
    Ends (createLoop env pid oid n i) s fun _ t => OnlyEmptyNew m t := by
  induction n generalizing s i with
  | zero => exact ends_pure.2 h
  | succ n ih =>
    have hundo : ∀ t : Target, OnlyEmptyNew m t →
        Ends (osdRemoveTmpObjects env pid (i - oid).toNat oid >>= fun _ => pure (some i)) t
          (fun _ v => OnlyEmptyNew m v) := fun t ht =>
      ends_call (osdRemoveTmpObjects_invariant _ _ (fun _ _ _ hu => hu.remove _ _) ht)
        fun _ _ hv => ends_pure.2 hv
    refine ends_bind.2 (objInsert_ends (fun hfree => ?_) fun _ => ?_)
    · refine ends_ite_of (fun h => absurd rfl h) fun _ =>
        ends_bind.2 (osdCreateDatafile_ends (fun _ _ => ?_) fun e => ?_)
      · refine ends_ite_of (fun h => absurd rfl h) fun _ => ih _ fun p o content hcontent => ?_
        rw [Target.setFile_files] at hcontent
        split at hcontent
        · exact .inr (Option.some.inj hcontent).symm
        · exact h p o content hcontent
      · exact ends_ite_of (fun _ => ends_bind.2 (objDelete_ends (hundo _ h) fun _ => hundo _ h))
          fun h => absurd (by simp) h
    · exact ends_ite_of (fun _ => hundo s h) fun h => absurd (by simp) h

theorem osdCreate_empty {requested : UInt64} {numoid : UInt16} :
    Ends (osdCreate env pid requested numoid) s fun _ t => OnlyEmptyNew s.files t := by
  have hsame : ∀ t : Target, t.files = s.files → OnlyEmptyNew s.files t :=
    fun t ht p o content hcontent => .inl (ht ▸ hcontent)
  refine osdCreate_ends (fun _ ic _ _ => hsame _ rfl) fun oid ic _ _ _ _ => ?_
  have hloop : Ends (createLoop env pid oid (createCount oid (atLeastOne numoid)) oid) { s with ic }
      fun _ t => OnlyEmptyNew s.files t := createLoop_empty _ _ (hsame _ rfl)
  refine ends_call hloop fun r t ht => ?_
  cases r with
  | some i => exact ends_bind.2 (ends_modify.2 (ends_pure.2 ht))
  | none => exact ends_bind.2 (ends_modify.2 (ends_bind.2 (ends_modify.2 (ends_pure.2 ht))))

/-- **CREATE makes empty files**, and does nothing to those there are. -/
theorem osdCreate_files (hs : s.FilesAgree) {requested : UInt64} {numoid : UInt16} :
    Ends (osdCreate env pid requested numoid) s fun _ t => ∀ p o,
      t.files p o = s.files p o ∨ s.files p o = none ∧ t.files p o = some [] := by
  have hbeside : Ends (osdCreate env pid requested numoid) s
      fun _ t => Beside (fun p o => ¬ s.db.Has p o) s t :=
    osdCreate_stays fun _ hi => Beside.admitsObject hi
  refine (hbeside.and osdCreate_empty).mono fun _ t ⟨hb, hempty⟩ p o => ?_
  cases hold : s.files p o with
  | some content =>
    have htype := (hs.agree p o).1 (by rw [hold]; rfl)
    exact .inl ((hb.files p o (not_not.2 htype.has)).trans hold)
  | none =>
    cases hnew : t.files p o with
    | none => exact .inl rfl
    | some content =>
      rcases hempty p o content hnew with hwas | rfl
      · rw [hold] at hwas
        cases hwas
      · exact .inr ⟨rfl, rfl⟩

/-- Each object has one row after CREATE too. -/
theorem osdCreate_keys (hkeys : ∀ r ∈ s.db.obj, ∀ r' ∈ s.db.obj, r.key = r'.key → r = r')
    {requested : UInt64} {numoid : UInt16} : Ends (osdCreate env pid requested numoid) s fun _ t =>
      ∀ r ∈ t.db.obj, ∀ r' ∈ t.db.obj, r.key = r'.key → r = r' := by
  refine (osdCreate_spec pid requested numoid).mono fun _ t ⟨hstep, _⟩ => ?_
  cases hstep with
  | rejected hdb hic => rwa [hdb]
  | ran first ic _ _ _ _ growth _ =>
    intro r hr r' hr' hkey
    rcases growth.only r hr with hold | ⟨k, -, rfl, hfree⟩
    · rcases growth.only r' hr' with hold' | ⟨k', -, rfl, hfree'⟩
      · exact hkeys r hold r' hold' hkey
      · exact absurd ⟨r, hold, congrArg Prod.fst hkey, congrArg Prod.snd hkey⟩ hfree'
    · rcases growth.only r' hr' with hold' | ⟨k', -, rfl, hfree'⟩
      · exact absurd ⟨r', hold', (congrArg Prod.fst hkey).symm, (congrArg Prod.snd hkey).symm⟩ hfree
      · have hoid : bindInt64 (first + UInt64.ofNat k) = bindInt64 (first + UInt64.ofNat k') :=
          congrArg Prod.snd hkey
        exact congrArg (fun o => (⟨bindInt64 pid, o, .userobject⟩ : ObjRow)) hoid

/-! ## One command -/

/-- Every command but CREATE leaves the object table alone, and a file to each object. -/
theorem ObjectStep.exec_idStep {st : ObjectStep} (hop : ∀ numoid, st.op ≠ .create numoid) :
    Ends st.exec s fun _ t => IdStep s t := by
  have hfile := AttrStep.admitsFile (fun _ _ => False) st.pid st.oid
  unfold ObjectStep.exec
  cases hst : st.op with
  | create numoid => exact absurd hst (hop numoid)
  | data op =>
    have hdata : Respects (AttrStep fun _ _ => False) (DataStep.exec ⟨st.env, st.pid, st.oid, op⟩) :=
      DataStep.resp_exec hfile
    exact (hdata s).mono fun _ _ h => h.toIdStep
  | punch len offset => exact (resp_osdPunch hfile len offset s).mono fun _ _ h => h.toIdStep
  | setLength val isembedded =>
    exact (osdSetAttributes_spec _ _ _ _ _ _ _).mono fun _ _ h => h.toIdStep

/-- They change the file of their object as they are meant to. -/
theorem ObjectStep.exec_changes {st : ObjectStep} (hop : ∀ numoid, st.op ≠ .create numoid)
    (henv : st.env.Works) (hs : s.HoldsFiles)
    (hfits : ∀ content, s.files st.pid st.oid = some content → st.Fits content) :
    Ends st.exec s fun _ t => t.files = Contents.change s.files st.pid st.oid st.changed := by
  obtain ⟨env, pid, oid, op⟩ := st
  cases op with
  | create numoid => exact absurd rfl (hop numoid)
  | data op => exact DataStep.exec_changes henv.toNoIoErrors op hs.sizes hfits
  | punch len offset => exact osdPunch_changes henv hs.sizes hfits
  | setLength val isembedded => exact logicalLen_changes henv hs hfits

theorem Env.Works.reliable (henv : env.Works) : env.Reliable := by
  refine ⟨?_, fun _ _ => henv.calls _⟩
  rintro ⟨d, p, o, h | h | h⟩
  · exact absurd ((henv.dms _ _).symm.trans h) nofun
  · exact absurd ((henv.dms _ _).symm.trans h) nofun
  · exact absurd ((henv.dms _ _).symm.trans h) nofun

/-- **One command is a step of the plain model**, and the next finds what it needs. -/
theorem ObjectStep.exec_plain {st : ObjectStep} (henv : st.env.Works) (hs : s.HoldsFiles)
    (hfits : ∀ content, s.files st.pid st.oid = some content → st.Fits content) :
    Ends st.exec s fun _ t => PlainStep st s.files t.files ∧ t.HoldsFiles := by
  by_cases hop : ∃ numoid, st.op = .create numoid
  · obtain ⟨env, pid, oid, op⟩ := st
    obtain ⟨numoid, rfl⟩ := hop
    have hagrees := osdCreate_agrees henv.reliable pid oid numoid hs.files
    refine ((osdCreate_files hs.files).and (hagrees.and (osdCreate_keys hs.keys))).mono
      fun _ t ⟨hnew, ht, hkeys⟩ => ⟨hnew, ht, hkeys, fun p o content hcontent => ?_⟩
    rcases hnew p o with hsame | ⟨-, hempty⟩
    · exact hs.sizes p o content (hsame ▸ hcontent)
    · obtain rfl := Option.some.inj (hempty.symm.trans hcontent)
      exact Nat.pow_pos (by decide)
  · have hop : ∀ numoid, st.op ≠ .create numoid := fun numoid h => hop ⟨numoid, h⟩
    refine ((ObjectStep.exec_changes hop henv hs hfits).and (ObjectStep.exec_idStep hop)).mono
      fun _ t ⟨hfiles, hid⟩ => ⟨?_, hs.files.idStep hid, hid.obj ▸ hs.keys, fun p o content hcontent => ?_⟩
    · unfold PlainStep
      split
      · rename_i numoid hcreate
        exact absurd hcreate (hop numoid)
      · exact hfiles
    · rw [hfiles, Contents.change] at hcontent
      split at hcontent
      · obtain ⟨c, hc, rfl⟩ := Option.map_eq_some_iff.1 hcontent
        rename_i heq
        rw [heq.1, heq.2] at hc
        exact ObjectStep.length_changed (hfits c hc) (hs.sizes _ _ c hc)
      · exact hs.sizes p o content hcontent

/-! ## Runs -/

/-- **A run is a run of the plain model.** -/
theorem ObjectRun.plain {sts : List ObjectStep} (h : ObjectRun s sts t) (hs : s.HoldsFiles) :
    PlainRun s.files sts t.files ∧ t.HoldsFiles := by
  induction h with
  | nil s => exact ⟨.nil s.files, hs⟩
  | cons henv hfits hstep _ ih =>
    obtain ⟨hplain, ht⟩ := ObjectStep.exec_plain henv hs hfits _ _ hstep
    obtain ⟨hrest, hv⟩ := ih ht
    exact ⟨.cons hplain hrest, hv⟩

/-! ## What is reported -/

/-- The user information attributes tell the ids of the object and the length of its content. -/
structure ReportsItself (env : Env) (pid oid : UInt64) (content : List UInt8) (t : Target) : Prop where
  partition : GetsAs env pid oid USER_INFO_PG UIAP_PID (htonll pid) t
  object : GetsAs env pid oid USER_INFO_PG UIAP_OID (htonll oid) t
  length : GetsAs env pid oid USER_INFO_PG UIAP_LOGICAL_LEN (htonll (UInt64.ofNat content.length)) t

/-- They do wherever queries are answered and `stat` finds the file. -/
def Target.Reports (t : Target) (pid oid : UInt64) (content : List UInt8) : Prop :=
  ∀ env : Env, (∀ q, env.queryFails q t.db = false) → t.statFails env pid oid = false →
    ReportsItself env pid oid content t

theorem getsAs_pid (hq : ∀ q, env.queryFails q t.db = false) (htype : t.db.objType pid oid = .userobject) :
    GetsAs env pid oid USER_INFO_PG UIAP_PID (htonll pid) t := by
  have hv : userInfoVal env t pid oid UIAP_PID = some (8, blobMem (htonll pid)) := rfl
  have h := getsAs_userInfo hq (by decide) htype (by decide) hv
  rwa [valueBytes_htonll] at h

/-- Asked for its id an object tells the id of its partition. -/
theorem getsAs_oid (hq : ∀ q, env.queryFails q t.db = false) (htype : t.db.objType pid oid = .userobject) :
    GetsAs env pid oid USER_INFO_PG UIAP_OID (htonll pid) t := by
  have hv : userInfoVal env t pid oid UIAP_OID = some (8, blobMem (htonll pid)) := rfl
  have h := getsAs_userInfo hq (by decide) htype (by decide) hv
  rwa [valueBytes_htonll] at h

/-- An object that reports itself has the id of its partition. -/
theorem Target.Reports.ids_eq {content' : List UInt8} (hroot : t.rootFreed = false)
    (htype : t.db.objType pid oid = .userobject) (hfile : t.files pid oid = some content)
    (h : t.Reports pid oid content') : pid = oid := by
  have hlook : t.lookup Env.calm pid oid = some content := by
    unfold Target.lookup
    rw [hroot]
    exact hfile
  have hstat : t.statFails Env.calm pid oid = false := by
    unfold Target.statFails
    rw [hlook]
    rfl
  have hasked := (h Env.calm (fun _ => rfl) hstat).object
  have hshort : ∀ x : UInt64, (htonll x).length ≤ 1000 := fun x => by
    rw [htonll_length]
    decide
  exact htonll_inj ((getsAs_oid (fun _ => rfl) htype).unique hasked (hshort _) (hshort _))

/-- **An object reports itself exactly when its id is that of its partition.** -/
theorem reports_iff_eq (hroot : t.rootFreed = false) (htype : t.db.objType pid oid = .userobject)
    (hfile : t.files pid oid = some content) : t.Reports pid oid content ↔ pid = oid := by
  refine ⟨fun h => h.ids_eq hroot htype hfile, ?_⟩
  rintro rfl env hq hstat
  exact ⟨getsAs_pid hq htype, getsAs_oid hq htype, getsAs_logicalLen hq htype hstat hfile⟩

/-- **What the objects report at the end of a run** is what the plain model has of them, but for the id of
an object that is not that of its partition. -/
theorem objectRun_reports {sts : List ObjectStep} (h : ObjectRun s sts t) (hs : s.HoldsFiles) :
    ∃ m, PlainRun s.files sts m ∧ ∀ pid oid, t.db.objType pid oid = .userobject →
      ∃ content, m pid oid = some content ∧ content.length < 2 ^ 63 ∧
        (t.Reports pid oid content ↔ pid = oid) := by
  obtain ⟨hplain, ht⟩ := h.plain hs
  refine ⟨t.files, hplain, fun pid oid htype => ?_⟩
  have hsome := (ht.files.agree pid oid).2 (hasType_of_objType htype)
  obtain ⟨content, hfile⟩ := Option.isSome_iff_exists.1 hsome
  exact ⟨content, hfile, ht.sizes pid oid content hfile, reports_iff_eq ht.files.rootFreed htype hfile⟩

theorem Env.calm_works : Env.calm.Works :=
  { Env.calm_noIoErrors, Env.calm_runsSql with memory := fun _ _ => rfl }

theorem emptyPartition_holdsFiles : emptyPartition.HoldsFiles := by
  have hreach : Reachable FileRun emptyPartition :=
    .calmRun ⟨by decide +kernel, ⟨trivial, Env.calm_reliable⟩, trivial⟩
  refine ⟨hreach.filesKept.files, by decide +kernel, fun p o content hcontent => ?_⟩
  have hno : ∀ r ∈ emptyPartition.db.obj, r.type ≠ .userobject := by decide +kernel
  have hrow := (hreach.filesKept.files.agree p o).1 (by rw [hcontent]; rfl)
  exact absurd rfl (hno _ hrow)

/-- The state a command leads to. -/
def ObjectStep.after (st : ObjectStep) (s : Target) : Target := ((st.exec s).map Prod.snd).getD s

theorem ObjectStep.exec_after {st : ObjectStep} (h : (st.exec s).isSome = true) :
    ∃ ret, st.exec s = some (ret, st.after s) := by
  obtain ⟨⟨ret, t⟩, hrun⟩ := Option.isSome_iff_exists.1 h
  refine ⟨ret, ?_⟩
  rw [ObjectStep.after, hrun]
  rfl

/-- CREATE of two objects. -/
def createTwo : ObjectStep := ⟨Env.calm, 0x10000, 0, .create 2⟩

/-- Three bytes for the second of them. -/
def appendThree : ObjectStep :=
  ⟨Env.calm, 0x10000, 0x10001, .data (.contigAppend 3 (some fun a => UInt8.ofNat (a + 1)))⟩

theorem createTwo_run : ObjectRun emptyPartition [createTwo] (createTwo.after emptyPartition) := by
  obtain ⟨ret, hrun⟩ : ∃ ret, createTwo.exec emptyPartition = some (ret, createTwo.after emptyPartition) :=
    ObjectStep.exec_after (by decide +kernel)
  exact .cons Env.calm_works (fun _ _ => trivial) hrun (.nil _)

/-- The second object has three bytes at the end, and says so. -/
theorem objectRun_reports_three :
    ∃ t, ObjectRun emptyPartition [createTwo, appendThree] t ∧
      ∃ m, PlainRun emptyPartition.files [createTwo, appendThree] m ∧
        ∀ pid oid, t.db.objType pid oid = .userobject → ∃ content, m pid oid = some content ∧
          content.length < 2 ^ 63 ∧ (t.Reports pid oid content ↔ pid = oid) := by
  let s := createTwo.after emptyPartition
  obtain ⟨ret, hcreate⟩ : ∃ ret, createTwo.exec emptyPartition = some (ret, s) :=
    ObjectStep.exec_after (by decide +kernel)
  obtain ⟨ret', happend⟩ : ∃ ret, appendThree.exec s = some (ret, appendThree.after s) :=
    ObjectStep.exec_after (by decide +kernel)
  have hfile : s.files 0x10000 0x10001 = some [] := by decide +kernel
  clear_value s
  have hfits : ∀ content, s.files 0x10000 0x10001 = some content → appendThree.Fits content := by
    intro content hcontent
    obtain rfl := Option.some.inj (hfile.symm.trans hcontent)
    exact .inl (by decide)
  have hrun : ObjectRun emptyPartition [createTwo, appendThree] (appendThree.after s) :=
    .cons Env.calm_works (fun _ _ => trivial) hcreate (.cons Env.calm_works hfits happend (.nil _))
  exact ⟨_, hrun, objectRun_reports hrun emptyPartition_holdsFiles⟩

/-- The second of two new objects tells the id of the first, which is that of the partition. -/
theorem objectRun_misreports : ∃ t, ObjectRun emptyPartition [createTwo] t ∧
    t.db.objType 0x10000 0x10001 = .userobject ∧
    GetsAs Env.calm 0x10000 0x10001 USER_INFO_PG UIAP_OID (htonll 0x10000) t ∧
    ∀ content, ¬ t.Reports 0x10000 0x10001 content := by
  let t := createTwo.after emptyPartition
  have htype : t.db.objType 0x10000 0x10001 = .userobject := by decide +kernel
  have hfile : t.files 0x10000 0x10001 = some [] := by decide +kernel
  have hroot : t.rootFreed = false := by decide +kernel
  refine ⟨t, createTwo_run, htype, getsAs_oid (fun _ => rfl) htype, fun content h => ?_⟩
  exact absurd (h.ids_eq hroot htype hfile) (by decide)

end OsdTarget
