import OsdTarget.LastWriter

/-!
# READ MAP

What a map of the written data of an object is meant to be, and what `osd_read_map` stores: one descriptor
for each 4 bytes of the range, whose byte offset is the descriptor's own place in the reply.
-/

namespace OsdTarget

open Base

variable {env : Env} {s t : Target} {pid oid : UInt64} {content : List UInt8} {allocLen offset : UInt64}

/-! ## Maps -/

/-- The ranges (offset, length) follow one another from `start` on and end at `stop`. -/
def CoversRange (stop : Nat) : Nat → List (Nat × Nat) → Prop
  | start, [] => start = stop
  | start, (off, len) :: rest => off = start ∧ 0 < len ∧ CoversRange stop (start + len) rest

/-- The range that descriptor `i` of the reply reports. -/
def Target.mapDescriptor (s : Target) (i : Nat) : Nat × Nat :=
  ((getNtohll s.reply (8 + 16 * i + 8)).toNat, (getNtohl s.reply (8 + 16 * i + 4)).toNat)

/-- How many descriptors the allocation length allows. -/
def mapRoom (allocLen : UInt64) : Nat := (allocLen.toNat - 8) / 16

/-- From `s` to `t` nothing is stored in the reply behind the allocation length. -/
def StoresWithin (allocLen : UInt64) (s t : Target) : Prop :=
  ∃ ws, t.out = s.out ++ ws ∧ ∀ w ∈ ws, w.1 + w.2.length ≤ allocLen.toNat

/-- The reply holds those descriptors of a map of the range [`offset`, `size`) that the allocation
allows. -/
structure MapsRange (size : Nat) (offset allocLen : UInt64) (s t : Target) (used : Option UInt64)
    (full : List (Nat × Nat)) : Prop where
  covers : CoversRange size offset.toNat full
  within : StoresWithin allocLen s t
  descriptors : ∀ i (h : i < (full.take (mapRoom allocLen)).length),
    t.mapDescriptor i = (full.take (mapRoom allocLen))[i]
  used : used.map UInt64.toNat = some (8 + 16 * (full.take (mapRoom allocLen)).length)
  addLen : (getNtohll t.reply 0).toNat = 16 * full.length

/-! ## What is stored -/

/-- The stores of the loop of `osd_read_map`. -/
def mapStores : Nat → UInt64 → UInt64 → List (Nat × List UInt8)
  | 0, _, _ => []
  | n + 1, fileSize, byteOffset =>
    let dataLen := if fileSize ≤ 4 then fileSize else 4
    (byteOffset.toNat + 2, htons WRITTEN_DATA) :: (byteOffset.toNat + 4, htonl dataLen.toUInt32) ::
      (byteOffset.toNat + 8, htonll byteOffset) :: mapStores n (fileSize - dataLen) (byteOffset + 16)

theorem readMapLoop_run (n : Nat) (fileSize byteOffset : UInt64) (s : Target) :
    readMapLoop WRITTEN_DATA n fileSize byteOffset s =
      some ((), s.withOut (s.out ++ mapStores n fileSize byteOffset)) := by
  induction n generalizing fileSize byteOffset s with
  | zero =>
    rw [mapStores, List.append_nil]
    rfl
  | succ n ih =>
    unfold readMapLoop mapStores
    dsimp only
    refine (bind_of_some (m := setDscptr WRITTEN_DATA _ _ _) rfl).trans ((ih _ _ _).trans ?_)
    simp only [List.append_assoc, List.nil_append, List.cons_append, Target.withOut]

/-- The additional length. -/
def mapAddLen (size : Nat) : UInt64 :=
  if 16 * mapDescriptors size > 0xffffffff then 0xffffffff else UInt64.ofNat (16 * mapDescriptors size)

/-- All that `osd_read_map` stores. -/
def mapReply (allocLen : UInt64) (size : Nat) : List (Nat × List UInt8) :=
  (0, List.replicate allocLen.toNat 0) :: mapStores (mapDescriptors size) (UInt64.ofNat size) 8 ++
    [(0, htonll (mapAddLen size))]

/-- The reply and the answer of `osd_read_map`. -/
theorem osdReadMap_run (henv : env.NoIoErrors) (hid : isUserobjectId pid oid = true)
    (hfile : s.files pid oid = some content) (halloc : 24 ≤ allocLen)
    (hoff : offset.toNat ≤ content.length) :
    osdReadMap env pid oid allocLen offset WRITTEN_DATA s =
      some ((.ok, some (8 + 16 * UInt64.ofNat (mapDescriptors (content.length - offset.toNat)))),
        s.withOut (s.out ++ mapReply allocLen (content.length - offset.toNat))) := by
  have hlook : ∀ o, Target.lookup env { s with out := o } pid oid = some content := fun _ =>
    (henv.lookup _ pid oid).trans hfile
  have h24 : ¬ allocLen < 24 := UInt64.not_lt.2 halloc
  have h0 : ¬ allocLen = 0 := by
    rintro rfl
    exact h24 (by decide)
  unfold osdReadMap
  rw [if_neg h0, if_neg h24, hid]
  refine (bind_of_some (m := outWrite _ _) rfl).trans ((bind_of_some (m := get) rfl).trans ?_)
  simp only [hlook, henv.calls, Bool.false_eq_true, if_false, if_neg (Nat.not_lt.2 hoff), ne_eq,
    not_true_eq_false]
  refine (bind_of_some (readMapLoop_run _ _ _ _)).trans ((bind_of_some (m := outWrite _ _) rfl).trans ?_)
  simp only [mapReply, List.append_assoc, List.nil_append, List.cons_append, Target.withOut]
  rfl

/-! ## What the reply holds -/

/-- The memory after these stores. -/
def storedIn (m : Mem) (ws : List (Nat × List UInt8)) : Mem := ws.foldl (fun m w => m.write w.1 w.2) m

theorem reply_withOut (s : Target) (ws : List (Nat × List UInt8)) :
    (s.withOut (s.out ++ ws)).reply = storedIn s.reply ws := by
  unfold Target.reply storedIn Target.withOut
  rw [List.foldl_append]

theorem byteOffset_next {byteOffset : UInt64} (h : byteOffset.toNat + 16 < 2 ^ 64) :
    (byteOffset + 16).toNat = byteOffset.toNat + 16 := by
  rw [UInt64.toNat_add]
  exact Nat.mod_eq_of_lt h

/-- How many bytes the next descriptor is about. -/
def nextLen (fileSize : UInt64) : UInt64 := if fileSize ≤ 4 then fileSize else 4

/-- The memory with one descriptor stored. -/
def withDscptr (m : Mem) (fileSize byteOffset : UInt64) : Mem :=
  ((m.write (byteOffset.toNat + 2) (htons WRITTEN_DATA)).write (byteOffset.toNat + 4)
    (htonl (nextLen fileSize).toUInt32)).write (byteOffset.toNat + 8) (htonll byteOffset)

theorem storedIn_mapStores (m : Mem) (n : Nat) (fileSize byteOffset : UInt64) :
    storedIn m (mapStores (n + 1) fileSize byteOffset) =
      storedIn (withDscptr m fileSize byteOffset)
        (mapStores n (fileSize - nextLen fileSize) (byteOffset + 16)) := rfl

theorem nextLen_toNat (fileSize : UInt64) : (nextLen fileSize).toNat = min 4 fileSize.toNat := by
  unfold nextLen
  by_cases h : fileSize ≤ 4
  · rw [if_pos h]
    exact (Nat.min_eq_right (UInt64.le_iff_toNat_le.1 h)).symm
  · rw [if_neg h]
    exact (Nat.min_eq_left (Nat.le_of_lt (UInt64.lt_iff_toNat_lt.1 (UInt64.not_le.1 h)))).symm

/-- The bytes in front are as they were. -/
theorem mapStores_before {n : Nat} {fileSize byteOffset : UInt64} {m : Mem}
    (hfit : byteOffset.toNat + 16 * n < 2 ^ 64) {a : Nat} (ha : a < byteOffset.toNat + 2) :
    storedIn m (mapStores n fileSize byteOffset) a = m a := by
  induction n generalizing fileSize byteOffset m with
  | zero => rfl
  | succ n ih =>
    have hnext : (byteOffset + 16).toNat = byteOffset.toNat + 16 := byteOffset_next (by omega)
    rw [storedIn_mapStores, ih (by omega) (by omega)]
    unfold withDscptr
    rw [Mem.write_of_lt (by omega), Mem.write_of_lt (by omega), Mem.write_of_lt (by omega)]

/-- Descriptor `k` reports its own place, and 4 bytes or what is left. -/
theorem mapStores_descriptor {n k : Nat} (hk : k < n) {fileSize byteOffset : UInt64} {m : Mem}
    (hfit : byteOffset.toNat + 16 * n < 2 ^ 64) :
    (getNtohll (storedIn m (mapStores n fileSize byteOffset)) (byteOffset.toNat + 16 * k + 8)).toNat =
        byteOffset.toNat + 16 * k ∧
      (getNtohl (storedIn m (mapStores n fileSize byteOffset)) (byteOffset.toNat + 16 * k + 4)).toNat =
        min 4 (fileSize.toNat - 4 * k) := by
  induction n generalizing k fileSize byteOffset m with
  | zero => exact absurd hk (Nat.not_lt_zero k)
  | succ n ih =>
    have hnext : (byteOffset + 16).toNat = byteOffset.toNat + 16 := byteOffset_next (by omega)
    rw [storedIn_mapStores]
    cases k with
    | zero =>
      -- what follows is stored behind this descriptor
      have hrest : ∀ off len, off + len ≤ byteOffset.toNat + 16 →
          (storedIn (withDscptr m fileSize byteOffset) (mapStores n (fileSize - nextLen fileSize)
            (byteOffset + 16))).read off len = (withDscptr m fileSize byteOffset).read off len :=
              fun off len hlen =>
        Mem.read_congr fun a _ ha => mapStores_before (by omega) (by omega)
      constructor
      · rw [getNtohll_of_read (x := byteOffset)]
        · rfl
        · rw [hrest _ _ (by omega)]
          exact (congrArg _ (htonll_length _).symm).trans (Mem.read_write_self _ _ _)
      · have h32 : (nextLen fileSize).toUInt32.toNat = min 4 fileSize.toNat := by
          rw [UInt64.toNat_toUInt32, nextLen_toNat]
          omega
        rw [getNtohl_of_read (x := (nextLen fileSize).toUInt32), h32]
        · rfl
        · rw [hrest _ _ (by omega), withDscptr, Mem.read_write_of_disjoint (.inl (by omega))]
          exact (congrArg _ (htonl_length _).symm).trans (Mem.read_write_self _ _ _)
    | succ k =>
      have hleft : (fileSize - nextLen fileSize).toNat = fileSize.toNat - min 4 fileSize.toNat := by
        rw [UInt64.toNat_sub_of_le _ _ (UInt64.le_iff_toNat_le.2 (by rw [nextLen_toNat]; omega)),
          nextLen_toNat]
      have hat : byteOffset.toNat + 16 * (k + 1) = (byteOffset + 16).toNat + 16 * k := by omega
      rw [hat]
      have hfit' : (byteOffset + 16).toNat + 16 * n < 2 ^ 64 := by omega
      obtain ⟨h1, h2⟩ := ih (k := k) (by omega) hfit'
      refine ⟨h1, h2.trans ?_⟩
      rw [hleft]
      omega

/-- The loop stores descriptor `k`, however far behind. -/
theorem mem_mapStores {n k : Nat} (hk : k < n) {fileSize byteOffset : UInt64}
    (hfit : byteOffset.toNat + 16 * k < 2 ^ 64) :
    ∃ bytes : List UInt8, bytes.length = 8 ∧
      (byteOffset.toNat + 16 * k + 8, bytes) ∈ mapStores n fileSize byteOffset := by
  induction n generalizing k fileSize byteOffset with
  | zero => exact absurd hk (Nat.not_lt_zero k)
  | succ n ih =>
    cases k with
    | zero => exact ⟨htonll byteOffset, htonll_length _, .tail _ (.tail _ (.head _))⟩
    | succ k =>
      have hnext : (byteOffset + 16).toNat = byteOffset.toNat + 16 := byteOffset_next (by omega)
      obtain ⟨bytes, hlen, hmem⟩ : ∃ bytes : List UInt8, bytes.length = 8 ∧
          ((byteOffset + 16).toNat + 16 * k + 8, bytes) ∈
          mapStores n (fileSize - nextLen fileSize) (byteOffset + 16) := ih (by omega) (by omega)
      rw [hnext, show byteOffset.toNat + 16 + 16 * k = byteOffset.toNat + 16 * (k + 1) by omega] at hmem
      exact ⟨bytes, hlen, .tail _ (.tail _ (.tail _ hmem))⟩

/-! ## When the map is one of the range -/

theorem storedIn_mapReply (m : Mem) (size : Nat) : storedIn m (mapReply allocLen size) =
    (storedIn (m.write 0 (List.replicate allocLen.toNat 0))
    (mapStores (mapDescriptors size) (UInt64.ofNat size) 8)).write
      0 (htonll (mapAddLen size)) :=
  List.foldl_append

theorem mapReply_addLen (m : Mem) (size : Nat) :
    getNtohll (storedIn m (mapReply allocLen size)) 0 = mapAddLen size := by
  refine getNtohll_of_read ?_
  rw [storedIn_mapReply]
  exact (congrArg _ (htonll_length _).symm).trans (Mem.read_write_self _ _ _)

theorem mapReply_descriptor {size k : Nat} (hk : k < mapDescriptors size)
    (hfit : 8 + 16 * mapDescriptors size < 2 ^ 64)
    (hreply : t.reply = storedIn s.reply (mapReply allocLen size)) :
    t.mapDescriptor k = (8 + 16 * k, min 4 (size - 4 * k)) := by
  have hsize : (UInt64.ofNat size).toNat = size := by
    refine UInt64.toNat_ofNat_of_lt' ?_
    show size < 2 ^ 64
    unfold mapDescriptors at hfit
    omega
  obtain ⟨h1, h2⟩ := mapStores_descriptor (m := s.reply.write 0 (List.replicate allocLen.toNat 0)) hk
    (show (8 : UInt64).toNat + 16 * _ < 2 ^ 64 from hfit)
  rw [hsize] at h2
  -- the length that is stored last is in front of the descriptors
  have hlast : ∀ off n, 8 ≤ off → t.reply.read off n =
      (storedIn (s.reply.write 0 (List.replicate allocLen.toNat 0))
      (mapStores (mapDescriptors size) (UInt64.ofNat size) 8)).read off n := by
    intro off n hoff
    rw [hreply, storedIn_mapReply]
    exact Mem.read_write_of_disjoint (.inr (by rw [htonll_length]; omega))
  unfold Target.mapDescriptor getNtohll getNtohl
  rw [hlast _ _ (by omega), hlast _ _ (by omega)]
  exact Prod.ext h1 h2

theorem mapReply_within {size : Nat} (halloc : 24 ≤ allocLen)
    (h : StoresWithin allocLen s (s.withOut (s.out ++ mapReply allocLen size))) :
    mapDescriptors size ≤ mapRoom allocLen := by
  obtain ⟨ws, hout, hws⟩ := h
  obtain rfl : mapReply allocLen size = ws := List.append_cancel_left hout
  have h24 : 24 ≤ allocLen.toNat := UInt64.le_iff_toNat_le.1 halloc
  have hlt := allocLen.toNat_lt
  by_contra hmore
  -- the first descriptor without room is stored, too
  obtain ⟨bytes, hlen, hmem⟩ := mem_mapStores (k := mapRoom allocLen) (Nat.lt_of_not_le hmore)
    (show (8 : UInt64).toNat + 16 * mapRoom allocLen < 2 ^ 64 by
      show 8 + _ < _
      unfold mapRoom
      omega)
  have hin := hws _ (List.mem_append_left _ (List.mem_cons_of_mem _ hmem))
  have hend : 8 + 16 * mapRoom allocLen + 8 + bytes.length ≤ allocLen.toNat := hin
  unfold mapRoom at hend
  omega

/-- **READ MAP describes the range exactly when it is empty, or starts at byte 8 and has at most 4
bytes.** -/
theorem osdReadMap_tiles_iff (henv : env.NoIoErrors) (hid : isUserobjectId pid oid = true)
    (hfile : s.files pid oid = some content) (halloc : 24 ≤ allocLen)
    (hoff : offset.toNat ≤ content.length) :
    (∃ used t full, osdReadMap env pid oid allocLen offset WRITTEN_DATA s = some ((.ok, used), t) ∧
      MapsRange content.length offset allocLen s t used full) ↔
    offset.toNat = content.length ∨ offset = 8 ∧ content.length ≤ 12 := by
  have h24 : 24 ≤ allocLen.toNat := UInt64.le_iff_toNat_le.1 halloc
  have hrun := osdReadMap_run henv hid hfile halloc hoff
  obtain ⟨size, hsize⟩ : ∃ size, content.length = offset.toNat + size := Nat.exists_eq_add_of_le hoff
  rw [hsize, Nat.add_sub_cancel_left] at hrun
  have hreply : (s.withOut (s.out ++ mapReply allocLen size)).reply =
      storedIn s.reply (mapReply allocLen size) :=
    reply_withOut _ _
  constructor
  · rintro ⟨used, t, full, hrun', hmaps⟩
    obtain ⟨-, rfl⟩ := Prod.mk.inj (Option.some.inj (hrun.symm.trans hrun'))
    by_cases hzero : size = 0
    · exact .inl (by omega)
    have hroom := mapReply_within halloc hmaps.within
    have hfit : 8 + 16 * mapDescriptors size < 2 ^ 64 := by
      have hlt := allocLen.toNat_lt
      unfold mapRoom at hroom
      omega
    have hat := fun k hk => mapReply_descriptor (k := k) hk hfit hreply
    have hsome : 0 < mapDescriptors size := by
      unfold mapDescriptors
      omega
    obtain ⟨room, hroomEq⟩ : ∃ room, mapRoom allocLen = room + 1 := ⟨mapRoom allocLen - 1, by omega⟩
    cases full with
    | nil => exact absurd hmaps.covers (by unfold CoversRange; omega)
    | cons first rest =>
      obtain ⟨off, len⟩ := first
      obtain ⟨rfl, -, hcovers⟩ := hmaps.covers
      have htake : List.take (mapRoom allocLen) ((offset.toNat, len) :: rest) =
          (offset.toNat, len) :: rest.take room := by rw [hroomEq, List.take_succ_cons]
      have hdesc := hmaps.descriptors
      simp only [htake] at hdesc
      obtain ⟨h8, hlen⟩ : 8 = offset.toNat ∧ min 4 size = len :=
        Prod.mk.inj ((hat 0 hsome).symm.trans (hdesc 0 (Nat.succ_pos _)))
      refine .inr ⟨UInt64.toNat_inj.1 h8.symm, ?_⟩
      by_contra hlong
      -- the second descriptor would have to start at byte 12
      have htwo : 1 < mapDescriptors size := by
        unfold mapDescriptors
        omega
      obtain ⟨room', rfl⟩ : ∃ room', room = room' + 1 := ⟨room - 1, by omega⟩
      cases rest with
      | nil => exact absurd hcovers (by unfold CoversRange; omega)
      | cons second rest =>
        obtain ⟨off', len'⟩ := second
        obtain ⟨rfl, -, -⟩ := hcovers
        have hsecond : 8 + 16 * 1 = offset.toNat + len :=
          (Prod.mk.inj ((hat 1 htwo).symm.trans (hdesc 1 (by simp)))).1
        omega
  · intro hcond
    by_cases hzero : size = 0
    · subst hzero
      refine ⟨_, _, [], hrun, by unfold CoversRange; omega, ⟨_, rfl, ?_⟩, fun i h =>
        absurd h (by simp), by simp; rfl, ?_⟩
      · intro w hw
        have hcases : w = (0, List.replicate allocLen.toNat 0) ∨ w = (0, htonll (mapAddLen 0)) := by
          simpa [mapReply, mapDescriptors, mapStores] using hw
        rcases hcases with rfl | rfl
        · simp
        · simpa using Nat.le_trans (by decide) h24
      · rw [hreply, mapReply_addLen]
        rfl
    · obtain ⟨rfl, hshort⟩ : offset = 8 ∧ content.length ≤ 12 := hcond.resolve_left (by omega)
      have hsize8 : content.length = 8 + size := hsize
      have hone : mapDescriptors size = 1 := by
        unfold mapDescriptors
        omega
      obtain ⟨room, hroomEq⟩ : ∃ room, mapRoom allocLen = room + 1 :=
          ⟨mapRoom allocLen - 1, by unfold mapRoom; omega⟩
      have htake : List.take (mapRoom allocLen) [(8, size)] = [(8, size)] := by
        rw [hroomEq, List.take_succ_cons, List.take_nil]
      refine ⟨_, _, [(8, size)], hrun, ⟨rfl, by omega, hsize8.symm⟩, ⟨_, rfl, ?_⟩, ?_, ?_, ?_⟩
      · intro w hw
        unfold mapReply at hw
        rw [hone] at hw
        simp only [mapStores, List.cons_append, List.nil_append, List.mem_cons,
          List.not_mem_nil, or_false] at hw
        rcases hw with rfl | rfl | rfl | rfl | rfl
        · simp
        all_goals
          dsimp only
          simp only [htons_length, htonl_length, htonll_length]
          exact Nat.le_trans (by decide) h24
      · simp only [htake]
        intro i h
        obtain rfl : i = 0 := by
          simp only [List.length_singleton] at h
          omega
        refine (mapReply_descriptor (by omega) (by omega) hreply).trans ?_
        show (8 + 16 * 0, min 4 (size - 4 * 0)) = (8, size)
        exact Prod.ext rfl (by omega)
      · rw [htake, hone]
        rfl
      · rw [hreply, mapReply_addLen]
        unfold mapAddLen
        rw [hone]
        rfl

/-- An object of `n` bytes. -/
def objectOf (n : UInt64) : Target :=
  calmRun [.createPartition 0, .create 0x10000 0 1,
    .write 0x10000 0x10000 n 0 (fun _ => 7) ⟨0, fun _ => 0⟩ DDT_CONTIG]

theorem osdReadMap_tiles_end : ∃ used t full,
    osdReadMap .calm 0x10000 0x10000 24 5 WRITTEN_DATA (objectOf 5) = some ((.ok, used), t) ∧
      MapsRange 5 5 24 (objectOf 5) t used full := by
  have hfile : (objectOf 5).files 0x10000 0x10000 = some [7, 7, 7, 7, 7] := by decide +kernel
  exact (osdReadMap_tiles_iff Env.calm_noIoErrors (by decide) hfile (by decide) (by decide)).2
    (.inl (by decide))

/-- The map of 5 bytes reports the ranges (8, 4) and (24, 1), the second of them behind the allocation. -/
theorem osdReadMap_places :
    (¬ ∃ used t full, osdReadMap .calm 0x10000 0x10000 24 0 WRITTEN_DATA (objectOf 5) =
      some ((.ok, used), t) ∧
      MapsRange 5 0 24 (objectOf 5) t used full) ∧
    (osdReadMap .calm 0x10000 0x10000 24 0 WRITTEN_DATA (objectOf 5)).map (fun r => r.1) =
      some (.ok, some 40) ∧
    (osdReadMap .calm 0x10000 0x10000 24 0 WRITTEN_DATA (objectOf 5)).map (fun r =>
      (r.2.mapDescriptor 0, r.2.mapDescriptor 1)) = some ((8, 4), (24, 1)) := by
  have hfile : (objectOf 5).files 0x10000 0x10000 = some [7, 7, 7, 7, 7] := by decide +kernel
  refine ⟨fun h => ?_, by decide +kernel, by decide +kernel⟩
  have hcond := (osdReadMap_tiles_iff Env.calm_noIoErrors (by decide) hfile (by decide) (by decide)).1 h
  exact absurd hcond (by decide)

end OsdTarget
