import OsdTarget.LastWriter

/-!
# PUNCH

What the removal of a range of an object is meant to be, and what `osd_punch` does: the tail that it moves
starts at a 64-bit sum, and has to fit into one system call.
-/

namespace OsdTarget

open Base

variable {env : Env} {s t : Target} {pid oid len offset newOffset newLen : UInt64} {content : List UInt8}

/-! ## The removal of a range -/

/-- The bytes without the `len` from `offset` on. -/
def removeRange (content : List UInt8) (offset len : Nat) : List UInt8 :=
  content.take offset ++ content.drop (offset + len)

/-- From `s` to `t` only the data file of (pid, oid) may change. -/
def ChangesOnly (pid oid : UInt64) (s t : Target) : Prop :=
  t.db = s.db ∧ ∀ p o, ¬ (p = pid ∧ o = oid) → t.files p o = s.files p o

/-- What PUNCH promises on an object with this content. -/
structure PunchesRange (env : Env) (pid oid len offset : UInt64) (content : List UInt8) (s : Target) :
    Prop where
  inside : offset.toNat ≤ content.length → ∃ t, osdPunch env pid oid len offset s = some (.ok, t) ∧
    t.files pid oid = some (removeRange content offset.toNat len.toNat) ∧ ChangesOnly pid oid s t
  behind : content.length < offset.toNat → ∃ t, osdPunch env pid oid len offset s =
    some (cdbErr pid oid, t) ∧
    t.files pid oid = some content ∧ ChangesOnly pid oid s t

theorem changesOnly_setFile (c : Option (List UInt8)) : ChangesOnly pid oid s (s.setFile pid oid c) :=
  ⟨rfl, fun _ _ h => if_neg h⟩

/-! ## Cutting, and moving the tail -/

theorem truncateFile_run (henv : env.NoIoErrors) (hfile : s.files pid oid = some content) {n : UInt64}
    (hfits : n.toNat < 2 ^ 63) : truncateFile env pid oid n s =
      some (true, s.setFile pid oid (some (content.take n.toNat ++
        List.replicate (n.toNat - content.length) 0))) := by
  have hlook : s.lookup env pid oid = some content := (henv.lookup s pid oid).trans hfile
  unfold truncateFile
  rw [bind_get, hlook]
  exact congrFun (if_neg (truncates (henv.calls _) hfits)) s

/-- `pread` up to the end of the file, in one call. -/
theorem preadFile_tail (henv : env.NoIoErrors) (hfile : s.files pid oid = some content)
    (hsize : content.length < 2 ^ 63) (hnew : newOffset.toNat ≤ content.length)
    (hlen : newLen.toNat = content.length - newOffset.toNat) :
    preadFile env s pid oid newOffset newLen = some ((content.drop newOffset.toNat).take 0x7ffff000) := by
  obtain ⟨limit, hlimit, hle⟩ := henv.preads pid oid newOffset newLen
  unfold preadFile
  rw [henv.lookup, hfile, hlimit]
  refine (if_neg (by omega)).trans (congrArg some ?_)
  rw [List.take_eq_take_iff, List.length_drop]
  omega

/-- The tail is stored at `offset` and the file is cut behind it. -/
theorem cut_moved (hoff : offset.toNat ≤ content.length) (newOffset : Nat) :
    (Write.store 0 content ⟨offset.toNat, content.drop newOffset⟩).take
        (offset.toNat + (content.length - newOffset)) ++
      List.replicate (offset.toNat + (content.length - newOffset) -
        (Write.store 0 content ⟨offset.toNat, content.drop newOffset⟩).length) 0 =
      content.take offset.toNat ++ content.drop newOffset := by
  rw [← fileWrite_eq_store]
  unfold fileWrite
  by_cases hnil : content.drop newOffset = []
  · have hend : content.length - newOffset = 0 := by
      rw [← List.length_drop, hnil]
      rfl
    rw [if_pos hnil, hnil, hend, Nat.add_zero, Nat.sub_eq_zero_of_le hoff, List.replicate_zero]
  · have hhead : (content.take offset.toNat ++ content.drop newOffset).length =
        offset.toNat + (content.length - newOffset) := by
      rw [List.length_append, List.length_take, List.length_drop, Nat.min_eq_left hoff]
    rw [if_neg hnil, Nat.sub_eq_zero_of_le hoff, List.replicate_zero, List.append_nil,
      List.length_append, hhead,
      Nat.sub_eq_zero_of_le (Nat.le_add_right _ _), List.replicate_zero, List.append_nil,
        ← hhead, List.take_left]

/-- A tail that fits into one system call goes to its new place. -/
theorem punchTail_run (henv : env.NoIoErrors) (hmem : env.noMemory newLen = false)
    (hfile : s.files pid oid = some content) (hsize : content.length < 2 ^ 63)
    (hoff : offset.toNat ≤ content.length)
    (hnew : newOffset.toNat ≤ content.length) (hlen : newLen.toNat = content.length - newOffset.toNat)
    (hshort : newLen.toNat ≤ 0x7ffff000) (hend : offset.toNat + newLen.toNat < 2 ^ 63) :
    punchTail env pid oid offset newOffset newLen s =
      some (.ok, s.setFile pid oid (some (content.take offset.toNat ++ content.drop newOffset.toNat))) := by
  have htail : (content.drop newOffset.toNat).take 0x7ffff000 = content.drop newOffset.toNat :=
    List.take_of_length_le (by rw [List.length_drop]; omega)
  have hread := (preadFile_tail henv hfile hsize hnew hlen).trans (congrArg some htail)
  -- the buffer that is stored holds the tail
  let c : Chunk := ⟨offset, newLen, env.stack.write 0 (content.drop newOffset.toNat)⟩
  have hdata : c.write = ⟨offset.toNat, content.drop newOffset.toNat⟩ := by
    refine congrArg _ (Eq.trans ?_ (Mem.read_write_self env.stack 0 _))
    rw [List.length_drop, ← hlen]
  have htakes : env.Takes pid oid c := by
    obtain ⟨limit, hlimit, hle⟩ := henv.pwrites pid oid offset newLen
    exact ⟨hend, limit, hlimit, Nat.le_min.2 ⟨hle, hshort⟩⟩
  obtain ⟨ret, content', hrun, hret, hstored⟩ := pwriteFile_run ((henv.lookup s pid oid).trans hfile) c
  obtain rfl := hret.2 htakes
  obtain rfl := hstored rfl
  have hstore : pwriteFile env pid oid offset newLen (env.stack.write 0 (content.drop newOffset.toNat)) s =
      some (some newLen.toNat, s.setFile pid oid
        (some (Write.store 0 content ⟨offset.toNat, content.drop newOffset.toNat⟩))) := by
    rw [← hdata]
    exact hrun
  have hcut : (offset + newLen).toNat = offset.toNat + (content.length - newOffset.toNat) := by
    rw [UInt64.toNat_add, hlen]
    exact Nat.mod_eq_of_lt (by omega)
  have htrunc := truncateFile_run (s := s.setFile pid oid _) henv
    (files_setFile (some (Write.store 0 content ⟨offset.toNat, content.drop newOffset.toNat⟩)))
      (n := offset + newLen) (by omega)
  rw [Target.setFile_setFile, hcut, cut_moved hoff] at htrunc
  unfold punchTail
  rw [if_neg (by rw [hmem]; exact Bool.false_ne_true)]
  refine (bind_of_some (m := get) rfl).trans ?_
  simp only [hread]
  refine (bind_of_some hstore).trans ?_
  simp only [ne_eq, not_true_eq_false, if_false]
  refine (bind_of_some htrunc).trans ?_
  simp only [Bool.not_true, Bool.false_eq_true, if_false, henv.calls]
  rfl

/-- Of a longer tail a part is stored at most, of one that would end beyond the last file position
nothing, and both are an error. -/
theorem punchTail_long (henv : env.NoIoErrors) (hmem : env.noMemory newLen = false)
    (hfile : s.files pid oid = some content) (hsize : content.length < 2 ^ 63)
    (hnew : newOffset.toNat ≤ content.length) (hlen : newLen.toNat = content.length - newOffset.toNat)
    (hlong : 0x7ffff000 < newLen.toNat ∨ 2 ^ 63 ≤ offset.toNat + newLen.toNat) :
    Ends (punchTail env pid oid offset newOffset newLen) s fun ret _ => ret = hwErr pid oid := by
  have hread := preadFile_tail henv hfile hsize hnew hlen
  let c : Chunk := ⟨offset, newLen, env.stack.write 0 ((content.drop newOffset.toNat).take 0x7ffff000)⟩
  obtain ⟨ret, content', hrun, hret, -⟩ := pwriteFile_run ((henv.lookup s pid oid).trans hfile) c
  have hno : ret ≠ some newLen.toNat := by
    intro hall
    obtain ⟨hend, limit, -, hle⟩ := hret.1 hall
    exact hlong.elim (absurd (Nat.le_trans hle (Nat.min_le_right _ _)) ∘ Nat.not_le.2)
      (absurd hend ∘ Nat.not_lt.2)
  unfold punchTail
  rw [if_neg (by rw [hmem]; exact Bool.false_ne_true)]
  refine ends_bind.2 (ends_get.2 ?_)
  simp only [hread]
  refine ends_bind.2 ((ends_of_run hrun).2 ?_)
  rw [if_pos hno]
  exact ends_pure.2 rfl

/-! ## The three cases -/

/-- Behind the end of the object the command is refused. -/
theorem osdPunch_behind (henv : env.NoIoErrors) (hid : isUserobjectId pid oid = true)
    (hfile : s.files pid oid = some content) (h : content.length < offset.toNat) :
    osdPunch env pid oid len offset s = some (cdbErr pid oid, s) := by
  unfold osdPunch
  rw [hid]
  refine (bind_of_some (m := get) rfl).trans ?_
  simp only [henv.lookup, hfile, henv.calls, Bool.false_eq_true, if_false, if_pos h]
  rfl

/-- A range that reaches the end of the object is cut off. -/
theorem osdPunch_cut (henv : env.NoIoErrors) (hid : isUserobjectId pid oid = true)
    (hfile : s.files pid oid = some content) (hsize : content.length < 2 ^ 63)
    (hoff : offset.toNat ≤ content.length) (h : content.length < (len + offset).toNat) :
    osdPunch env pid oid len offset s = some (.ok, s.setFile pid oid (some (content.take offset.toNat)))
      := by
  have htrunc := truncateFile_run henv hfile (Nat.lt_of_le_of_lt hoff hsize)
  rw [Nat.sub_eq_zero_of_le hoff, List.replicate_zero, List.append_nil] at htrunc
  unfold osdPunch
  rw [hid]
  refine (bind_of_some (m := get) rfl).trans ?_
  simp only [henv.lookup, hfile, henv.calls, Bool.false_eq_true, if_false,
    if_neg (Nat.not_lt.2 hoff), if_pos h]
  refine (bind_of_some htrunc).trans ?_
  rfl

/-- Elsewhere the tail moves. -/
theorem osdPunch_moves (henv : env.NoIoErrors) (hid : isUserobjectId pid oid = true)
    (hfile : s.files pid oid = some content) (hoff : offset.toNat ≤ content.length)
    (h : (len + offset).toNat ≤ content.length) : osdPunch env pid oid len offset s =
      punchTail env pid oid offset (len + offset) (UInt64.ofNat content.length - (len + offset)) s := by
  unfold osdPunch
  rw [hid]
  refine (bind_of_some (m := get) rfl).trans ?_
  simp only [henv.lookup, hfile, henv.calls, Bool.false_eq_true, if_false, if_neg (Nat.not_lt.2 hoff),
    if_neg (Nat.not_lt.2 h)]

/-- The length of the tail that moves. -/
theorem tailLen_toNat (hsize : content.length < 2 ^ 63) (h : newOffset.toNat ≤ content.length) :
    (UInt64.ofNat content.length - newOffset).toNat = content.length - newOffset.toNat := by
  have hcontent : (UInt64.ofNat content.length).toNat = content.length :=
    UInt64.toNat_ofNat_of_lt' (by show content.length < 2 ^ 64; omega)
  rw [UInt64.toNat_sub_of_le _ _ (UInt64.le_iff_toNat_le.2 (by rw [hcontent]; exact h)), hcontent]

theorem sum_toNat (len offset : UInt64) : (len + offset).toNat = (offset.toNat + len.toNat) % 2 ^ 64 := by
  rw [UInt64.toNat_add, Nat.add_comm]

/-- Where the sum fits 64 bits and the tail fits one system call, the range is removed. -/
theorem osdPunch_removed (henv : env.NoIoErrors)
    (hmem : (len + offset).toNat ≤ content.length →
      env.noMemory (UInt64.ofNat content.length - (len + offset)) = false)
    (hid : isUserobjectId pid oid = true) (hfile : s.files pid oid = some content)
    (hsize : content.length < 2 ^ 63) (hin : offset.toNat ≤ content.length)
    (hfits : offset.toNat + len.toNat < 2 ^ 64)
    (hshort : content.length - (offset.toNat + len.toNat) ≤ 0x7ffff000) :
    osdPunch env pid oid len offset s = some (.ok,
      s.setFile pid oid (some (removeRange content offset.toNat len.toNat))) := by
  have hsum := sum_toNat len offset
  rw [Nat.mod_eq_of_lt hfits] at hsum
  unfold removeRange
  rw [← hsum]
  by_cases hcut : content.length < (len + offset).toNat
  · rw [osdPunch_cut henv hid hfile hsize hin hcut, List.drop_of_length_le (Nat.le_of_lt hcut), List.append_nil]
  · have hnew := Nat.not_lt.1 hcut
    have hlen := tailLen_toNat hsize hnew
    exact (osdPunch_moves henv hid hfile hin hnew).trans
      (punchTail_run henv (hmem hnew) hfile hsize hin hnew hlen (by omega) (by omega))

/-- **PUNCH removes exactly the range when the sum of offset and length fits 64 bits and the tail behind it
fits one system call, and on no other range inside the object.** -/
theorem osdPunch_removes_iff (henv : env.NoIoErrors) (hmem : ∀ n, env.noMemory n = false)
    (hid : isUserobjectId pid oid = true) (hfile : s.files pid oid = some content)
    (hsize : content.length < 2 ^ 63) :
    PunchesRange env pid oid len offset content s ↔
      content.length < offset.toNat ∨ offset.toNat + len.toNat < 2 ^ 64 ∧
        content.length - (offset.toNat + len.toNat) ≤ 0x7ffff000 := by
  have hsum := sum_toNat len offset
  constructor
  · intro hpunch
    by_cases hoff : content.length < offset.toNat
    · exact .inl hoff
    have hin := Nat.not_lt.1 hoff
    refine .inr ?_
    obtain ⟨t, hrun, hcontent, -⟩ := hpunch.inside hin
    by_cases hcut : content.length < (len + offset).toNat
    · have hlt := (len + offset).toNat_lt
      have hoffLt := offset.toNat_lt
      have hlenLt := len.toNat_lt
      omega
    have hnew := Nat.not_lt.1 hcut
    have hlen := tailLen_toNat hsize hnew
    rw [osdPunch_moves henv hid hfile hin hnew] at hrun
    by_cases hlong : 0x7ffff000 < (UInt64.ofNat content.length - (len + offset)).toNat ∨
        2 ^ 63 ≤ offset.toNat + (UInt64.ofNat content.length - (len + offset)).toNat
    · cases punchTail_long henv (hmem _) hfile hsize hnew hlen hlong _ _ hrun
    obtain ⟨hshort, hend⟩ := not_or.1 hlong
    rw [punchTail_run henv (hmem _) hfile hsize hin hnew hlen (Nat.not_lt.1 hshort) (Nat.not_le.1 hend)]
      at hrun
    obtain ⟨-, rfl⟩ := Prod.mk.inj (Option.some.inj hrun)
    rw [files_setFile, Option.some_inj] at hcontent
    -- a sum beyond 2^64 leaves more than the bytes in front of the range
    have hlength := congrArg List.length hcontent
    unfold removeRange at hlength
    simp only [List.length_append, List.length_take, List.length_drop] at hlength
    have hoffLt := offset.toNat_lt
    have hlenLt := len.toNat_lt
    omega
  · intro hcond
    refine ⟨fun hin => ?_, fun hoff => ⟨s, osdPunch_behind henv hid hfile hoff, hfile, rfl,
      fun _ _ _ => rfl⟩⟩
    obtain ⟨hfits, hshort⟩ := hcond.resolve_left (Nat.not_lt.2 hin)
    exact ⟨_, osdPunch_removed henv (fun _ => hmem _) hid hfile hsize hin hfits hshort, files_setFile _,
      changesOnly_setFile _⟩

/-- An object of the five bytes 1 to 5. -/
def fiveBytes : Target :=
  calmRun [.createPartition 0, .create 0x10000 0 1,
    .write 0x10000 0x10000 5 0 (fun a => UInt8.ofNat (a + 1)) ⟨0, fun _ => 0⟩ DDT_CONTIG]

theorem fiveBytes_file : fiveBytes.files 0x10000 0x10000 = some [1, 2, 3, 4, 5] := by decide +kernel

theorem osdPunch_removes_middle :
    PunchesRange .calm 0x10000 0x10000 2 1 [1, 2, 3, 4, 5] fiveBytes :=
  (osdPunch_removes_iff Env.calm_noIoErrors (fun _ => rfl) (by decide) fiveBytes_file (by decide)).2
    (by decide)

/-- Of a range from byte 3 to the end of all positions nothing is removed: the tail from byte 1 on is stored
again behind byte 3. -/
theorem osdPunch_wraps :
    ¬ PunchesRange .calm 0x10000 0x10000 0xfffffffffffffffe 3 [1, 2, 3, 4, 5] fiveBytes ∧
    (osdPunch .calm 0x10000 0x10000 0xfffffffffffffffe 3 fiveBytes).map (fun r =>
      (r.1, r.2.files 0x10000 0x10000)) = some (.ok, some [1, 2, 3, 2, 3, 4, 5]) := by
  refine ⟨fun h => ?_, by decide +kernel⟩
  obtain ⟨t, hrun, hcontent, -⟩ := h.inside (by decide)
  have hleaves : (osdPunch .calm 0x10000 0x10000 0xfffffffffffffffe 3 fiveBytes).map (fun r =>
      r.2.files 0x10000 0x10000) = some (some [1, 2, 3, 2, 3, 4, 5]) := by decide +kernel
  rw [hrun, Option.map_some, hcontent] at hleaves
  exact absurd hleaves (by decide)

end OsdTarget
