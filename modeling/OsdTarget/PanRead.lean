import Mathlib.Algebra.Order.BigOperators.Group.List
import Mathlib.Algebra.Order.Group.Nat
import OsdTarget.LastWriter

/-!
# The I/O backends

`pan_io.c` takes the place of `io.c` on a Panasas device.  It reads by an ioctl that fills the buffer with
the bytes the object has in a range and reports their count.  Its `contig_read` takes a short count for an
error of the device, its `sgl_read` returns success whatever the count.
-/

namespace OsdTarget

open Base

variable {env : Env} {s t : Target} {pid oid : UInt64} {content : List UInt8}

/-! ## `pan_io.c` -/

/-- `OSD_IOCMD_READ`: the bytes of the range that the object has, by `rval_length` as many. -/
def osdIocmdRead (s : Target) (pid oid offset length : UInt64) : Option (List UInt8) :=
  (s.files pid oid).map fun content => (content.drop offset.toNat).take length.toNat

/-- `contig_read`: the status and `*used_outlen`, `none` when it is left alone. -/
def panContigRead (pid oid len offset : UInt64) : OsdM (Ret × Option UInt64) := do
  if !isUserobjectId pid oid then
    return (cdbErr pid oid, none)
  match osdIocmdRead (← get) pid oid offset len with
  | none => return (hwErr pid oid, none)
  | some bytes =>
    outWrite 0 bytes
    if bytes.length ≠ len.toNat then
      return (hwErr pid oid, none)
    if bytes.length < len.toNat then
      outWrite bytes.length (List.replicate (len.toNat - bytes.length) 0)
    setCcap (fillCcap .userobject pid oid 0)
    return (.ok, some len)

/-- `ret = iocr.ret.rval_length`: the count as an `int`, which is compared and added as a `size_t`. -/
def intOfCount (n : Nat) : UInt64 :=
  if n % 2 ^ 32 < 2 ^ 31 then UInt64.ofNat (n % 2 ^ 32) else UInt64.ofNat (2 ^ 64 - 2 ^ 32 + n % 2 ^ 32)

/-- The loop of `sgl_read` from entry `i` on, `n` entries to go: `data_offset` at its end, which is
also `readlen`; `none` stands for the jump to `out_hw_err`. -/
def panSglReadLoop (pid oid offset : UInt64) (sglist : SgList) :
    Nat → Nat → UInt64 → OsdM (Option UInt64)
  | 0, _, dataOffset => return some dataOffset
  | n + 1, i, dataOffset => do
    let length := sglist.bytesToTransfer i
    match osdIocmdRead (← get) pid oid (offset + sglist.offset i) length with
    | none => return none
    | some bytes =>
      outWrite dataOffset.toNat bytes
      let ret := intOfCount bytes.length
      if ret < length then do
        outWrite (dataOffset.toNat + ret.toNat) (List.replicate (length.toNat - ret.toNat) 0)
        panSglReadLoop pid oid offset sglist n (i + 1) (dataOffset + ret)
      else panSglReadLoop pid oid offset sglist n (i + 1) (dataOffset + length)

/-- `sgl_read`; the sense data of a read past the end are built, but success is returned. -/
def panSglRead (pid oid _len offset : UInt64) (sglist : SgList) : OsdM (Ret × Option UInt64) := do
  if !isUserobjectId pid oid then
    return (cdbErr pid oid, none)
  match ← panSglReadLoop pid oid offset sglist sglist.rounds 0 0 with
  | none => return (hwErr pid oid, none)
  | some readlen =>
    if sglist.endless then never else do
      setCcap (fillCcap .userobject pid oid 0)
      return (.ok, some readlen)

/-! ## What an initiator receives -/

/-- Of a read: the status with its sense data, `used_outlen` and so many bytes of the buffer. -/
def received (r : Option ((Ret × Option UInt64) × Target)) : Option (Ret × Option (UInt64 × List UInt8)) :=
  r.map fun x => (x.1.1, x.1.2.map fun used => (used, x.2.reply.read 0 used.toNat))

/-- How many bytes of a range an object of this size has. -/
def available (size : Nat) (offset length : UInt64) : Nat := min length.toNat (size - offset.toNat)

/-- A range that `pread` takes. -/
def Readable (offset length : UInt64) : Prop := offset.toNat + length.toNat < 2 ^ 63

instance (offset length : UInt64) : Decidable (Readable offset length) :=
    inferInstanceAs (Decidable (_ < _))

/-- The object has the range, and one `pread` transfers it; or neither backend takes the range. -/
def ContigAlike (size : Nat) (len offset : UInt64) : Prop :=
  (Readable offset len → available size offset len = len.toNat ∧ len.toNat ≤ 0x7ffff000) ∧
    (¬ Readable offset len → available size offset len ≠ len.toNat)

instance (size : Nat) (len offset : UInt64) : Decidable (ContigAlike size len offset) :=
  inferInstanceAs (Decidable (_ ∧ _))

namespace SgList

/-- What one `pread` transfers for an entry. -/
def count (l : SgList) (size : Nat) (offset : UInt64) (i : Nat) : Nat :=
  min 0x7ffff000 (available size (l.offset i + offset) (l.bytesToTransfer i))

/-- The ranges are such as `pread` takes, and together hold as many bytes as the command asks for. -/
def Alike (l : SgList) (size : Nat) (len offset : UInt64) : Prop :=
  (∀ i < l.rounds, Readable (l.offset i + offset) (l.bytesToTransfer i)) ∧
    (l.endless = false → len.toNat ≤ ((List.range l.rounds).map (l.count size offset)).sum)

/-- No entry finds more than one `pread` transfers. -/
def OnePread (l : SgList) (size : Nat) (offset : UInt64) : Prop :=
  ∀ i < l.rounds, available size (l.offset i + offset) (l.bytesToTransfer i) ≤ 0x7ffff000

instance (l : SgList) (size : Nat) (len offset : UInt64) : Decidable (l.Alike size len offset) :=
  inferInstanceAs (Decidable (_ ∧ _))

instance (l : SgList) (size : Nat) (offset : UInt64) : Decidable (l.OnePread size offset) :=
  inferInstanceAs (Decidable (∀ i < l.rounds, _))

end SgList

/-! ## Contiguous reads -/

section Contig

theorem preadFile_run (henv : env.NoIoErrors) (hfile : s.files pid oid = some content)
    (offset len : UInt64) :
    preadFile env s pid oid offset len
      = if 2 ^ 63 ≤ offset.toNat + len.toNat then none
        else some ((content.drop offset.toNat).take (min len.toNat 0x7ffff000)) := by
  obtain ⟨limit, hlimit, hle⟩ := henv.preads pid oid offset len
  unfold preadFile
  rw [henv.lookup, hfile, hlimit]
  dsimp only
  rw [show min limit (min len.toNat 0x7ffff000) = min len.toNat 0x7ffff000 by omega]

theorem contigRead_refused (hid : isUserobjectId pid oid = false) (len offset : UInt64) :
    contigRead env pid oid len offset s = some ((cdbErr pid oid, none), s) := by
  have hno : (!isUserobjectId pid oid) = true := by rw [hid]; rfl
  exact congrFun (if_pos hno) s

theorem panContigRead_refused (hid : isUserobjectId pid oid = false) (len offset : UInt64) :
    panContigRead pid oid len offset s = some ((cdbErr pid oid, none), s) := by
  have hno : (!isUserobjectId pid oid) = true := by rw [hid]; rfl
  exact congrFun (if_pos hno) s

/-- A range that `pread` refuses is an error of the device. -/
theorem contigRead_unreadable (henv : env.NoIoErrors) (hid : isUserobjectId pid oid = true)
    (hfile : s.files pid oid = some content) {len offset : UInt64} (h : ¬ Readable offset len) :
    contigRead env pid oid len offset s = some ((hwErr pid oid, none), s) := by
  refine (opened_run hid ((henv.lookup s pid oid).trans hfile) (henv.calls _) _ _ _).trans ?_
  refine bind_get.trans ?_
  rw [preadFile_run henv hfile, if_pos]
  · rfl
  · unfold Readable at h
    omega

/-- The ioctl fills the buffer, and a count other than the length asked for is an error of the device. -/
theorem panContigRead_run (hid : isUserobjectId pid oid = true) (hfile : s.files pid oid = some content)
    (len offset : UInt64) : panContigRead pid oid len offset s =
      if available content.length offset len = len.toNat then
        some ((.ok, some len), { s with
          out := s.out ++ [(0, (content.drop offset.toNat).take len.toNat)]
          ccap := fillCcap .userobject pid oid 0 })
      else some ((hwErr pid oid, none),
        { s with out := s.out ++ [(0, (content.drop offset.toNat).take len.toNat)] }) := by
  have hnid : ¬ (!isUserobjectId pid oid) = true := by simp [hid]
  have hsize : ((content.drop offset.toNat).take len.toNat).length = available content.length
      offset len := by
    rw [List.length_take, List.length_drop]
    rfl
  refine (congrFun (if_neg hnid) s).trans (bind_get.trans ?_)
  unfold osdIocmdRead
  rw [hfile]
  dsimp only [Option.map_some]
  refine (bind_of_some (show outWrite 0 ((content.drop offset.toNat).take len.toNat) s =
    some ((), _) from rfl)).trans ?_
  by_cases hwhole : available content.length offset len = len.toNat
  · rw [if_pos hwhole, if_neg (by rw [hsize]; exact fun h => h hwhole), if_neg (by rw [hsize]; omega)]
    rfl
  · rw [if_neg hwhole, if_pos (by rw [hsize]; exact hwhole)]
    rfl

/-- What the initiator of two reads receives differs when their statuses do. -/
theorem received_ne {r r' : Ret} {used used' : Option UInt64} (h : r ≠ r') :
    received (some ((r, used), s)) ≠ received (some ((r', used'), t)) :=
  fun he => h (congrArg Prod.fst (Option.some.inj he))

theorem contigRead_backends (henv : env.NoIoErrors) (hid : isUserobjectId pid oid = true)
    (hfile : s.files pid oid = some content) (len offset : UInt64) :
    received (contigRead env pid oid len offset s) = received (panContigRead pid oid len offset s)
      ↔ ContigAlike content.length len offset := by
  have hpan := panContigRead_run hid hfile len offset
  have hle : available content.length offset len ≤ len.toNat := Nat.min_le_left _ _
  by_cases hr : Readable offset len
  · -- what one `pread` transfers
    have hread : preadFile env s pid oid offset len
        = some ((content.drop offset.toNat).take (min len.toNat 0x7ffff000)) := by
      rw [preadFile_run henv hfile, if_neg]
      unfold Readable at hr
      omega
    have hlook : s.lookup env pid oid = some content := (henv.lookup s pid oid).trans hfile
    have hrun := contigRead_bytes henv hid hlook hread
    have hcount : ((content.drop offset.toNat).take (min len.toNat 0x7ffff000)).length
        = min 0x7ffff000 (available content.length offset len) := by
      rw [List.length_take, List.length_drop]
      unfold available
      omega
    rw [hcount] at hrun
    have hiff : ContigAlike content.length len offset
        ↔ available content.length offset len = len.toNat ∧ len.toNat ≤ 0x7ffff000 :=
      ⟨fun h => h.1 hr, fun h => ⟨fun _ => h, fun hn => absurd hr hn⟩⟩
    rw [hiff]
    by_cases hwhole : available content.length offset len = len.toNat
    · rw [if_pos hwhole] at hpan
      by_cases hone : len.toNat ≤ 0x7ffff000
      · rw [if_neg (by omega), show min len.toNat 0x7ffff000 = len.toNat by omega] at hrun
        rw [hrun, hpan]
        exact ⟨fun _ => ⟨hwhole, hone⟩, fun _ => rfl⟩
      · rw [if_pos (by omega)] at hrun
        rw [hrun, hpan]
        exact ⟨fun h => absurd h (received_ne nofun), fun h => absurd h.2 hone⟩
    · rw [if_neg hwhole] at hpan
      rw [if_pos (by omega)] at hrun
      rw [hrun, hpan]
      have hne : readPastEnd pid oid (UInt64.ofNat (min 0x7ffff000 (available content.length offset len)))
          ≠ hwErr pid oid := by
        intro h
        cases h
      exact ⟨fun h => absurd h (received_ne hne), fun h => absurd h.1 hwhole⟩
  · rw [contigRead_unreadable henv hid hfile hr, hpan]
    have hiff : ContigAlike content.length len offset ↔ available content.length offset len ≠ len.toNat :=
      ⟨fun h => h.2 hr, fun h => ⟨fun hn => absurd hn hr, fun _ => h⟩⟩
    rw [hiff]
    by_cases hwhole : available content.length offset len = len.toNat
    · rw [if_pos hwhole]
      exact ⟨fun h => absurd h (received_ne nofun), fun h => absurd hwhole h⟩
    · rw [if_neg hwhole]
      exact ⟨fun _ => hwhole, fun _ => rfl⟩

end Contig

/-! ## Lists -/

section Lists

variable {l : SgList} {offset : UInt64}

theorem intOfCount_of_lt {n : Nat} (h : n < 2 ^ 31) : intOfCount n = UInt64.ofNat n := by
  unfold intOfCount
  rw [Nat.mod_eq_of_lt (by omega), if_pos h]

/-- An entry that `pread` takes, in the loop of `io.c`; that of `pan_io.c` goes on alike after a short
enough one. -/
theorem sglReadLoop_next (henv : env.NoIoErrors) (hfile : s.files pid oid = some content)
    {i : Nat} (d : UInt64)
    (hr : Readable (l.offset i + offset) (l.bytesToTransfer i)) : ∃ t, t.files = s.files ∧
      (∀ n, sglReadLoop env pid oid offset l (n + 1) i d s
        = sglReadLoop env pid oid offset l n (i + 1)
          (d + UInt64.ofNat (l.count content.length offset i)) t) ∧
      (available content.length (l.offset i + offset) (l.bytesToTransfer i) ≤ 0x7ffff000 → ∀ n,
        panSglReadLoop pid oid offset l (n + 1) i d s
          = panSglReadLoop pid oid offset l n (i + 1)
            (d + UInt64.ofNat (l.count content.length offset i)) t) := by
  let length := (l.bytesToTransfer i).toNat
  let bytes := (content.drop (l.offset i + offset).toNat).take (min length 0x7ffff000)
  have hread : preadFile env s pid oid (l.offset i + offset) (l.bytesToTransfer i) = some bytes := by
    rw [preadFile_run henv hfile, if_neg]
    unfold Readable at hr
    omega
  have hcount : bytes.length = l.count content.length offset i := by
    show ((content.drop _).take _).length = min 0x7ffff000 (min length (content.length - _))
    rw [List.length_take, List.length_drop]
    omega
  have hget : (get : OsdM Target) s = some (s, s) := rfl
  have hlength : length < 2 ^ 64 := UInt64.toNat_lt _
  rw [← hcount]
  -- what the ioctl reads, and how its count is taken
  have hpan : available content.length (l.offset i + offset) (l.bytesToTransfer i) ≤ 0x7ffff000 →
      osdIocmdRead s pid oid (offset + l.offset i) (l.bytesToTransfer i) = some bytes ∧
        (intOfCount bytes.length).toNat = bytes.length := by
    intro hone
    have hmin : available content.length (l.offset i + offset) (l.bytesToTransfer i)
        = min length (content.length - (l.offset i + offset).toNat) := rfl
    constructor
    · unfold osdIocmdRead
      rw [hfile, UInt64.add_comm]
      refine congrArg some (List.take_eq_take_iff.2 ?_)
      rw [List.length_drop]
      omega
    · have hbytes : bytes.length ≤ 0x7ffff000 := by
        rw [hcount]
        exact Nat.min_le_left _ _
      rw [intOfCount_of_lt (by omega), UInt64.toNat_ofNat', Nat.mod_eq_of_lt (by omega)]
  by_cases hshort : bytes.length < length
  · refine ⟨{ s with out := s.out ++ [(d.toNat, bytes)] ++ [(d.toNat + bytes.length,
      List.replicate (length - bytes.length) 0)] }, rfl, fun n => ?_, fun hone n => ?_⟩
    · refine (bind_of_some hget).trans ?_
      rw [hread]
      simp only [if_pos (show bytes.length < (l.bytesToTransfer i).toNat from hshort)]
      rfl
    · obtain ⟨hioctl, hint⟩ := hpan hone
      have hlt : intOfCount bytes.length < l.bytesToTransfer i := by
        rw [UInt64.lt_iff_toNat_lt, hint]
        exact hshort
      refine (bind_of_some hget).trans ?_
      rw [hioctl]
      simp only [if_pos hlt, hint]
      rw [← hint, UInt64.ofNat_toNat, hint]
      rfl
  · refine ⟨{ s with out := s.out ++ [(d.toNat, bytes)] }, rfl, fun n => ?_, fun hone n => ?_⟩
    · refine (bind_of_some hget).trans ?_
      rw [hread]
      simp only [if_neg (show ¬ bytes.length < (l.bytesToTransfer i).toNat from hshort)]
      rfl
    · obtain ⟨hioctl, hint⟩ := hpan hone
      have hall : bytes.length = length := by
        have hle : bytes.length ≤ min length 0x7ffff000 := List.length_take_le _ _
        omega
      have hnlt : ¬ intOfCount bytes.length < l.bytesToTransfer i := by
        rw [UInt64.lt_iff_toNat_lt, hint]
        exact hshort
      refine (bind_of_some hget).trans ?_
      rw [hioctl]
      simp only [if_neg hnlt]
      rw [hall, UInt64.ofNat_toNat]
      rfl

/-- An entry that `pread` does not take. -/
theorem sglReadLoop_stop (henv : env.NoIoErrors) (hfile : s.files pid oid = some content)
    {i : Nat} (d : UInt64)
    (hr : ¬ Readable (l.offset i + offset) (l.bytesToTransfer i)) (n : Nat) :
    sglReadLoop env pid oid offset l (n + 1) i d s = some (none, s) := by
  refine bind_get.trans ?_
  rw [preadFile_run henv hfile, if_pos]
  · rfl
  · unfold Readable at hr
    omega

/-- The loop of `pan_io.c` comes to the end of every list. -/
theorem panSglReadLoop_ends (hfile : s.files pid oid = some content) (l : SgList)
    (offset : UInt64) (n i : Nat)
    (d : UInt64) :
    ∃ d' t, panSglReadLoop pid oid offset l n i d s = some (some d', t) := by
  induction n generalizing i d s with
  | zero => exact ⟨d, s, rfl⟩
  | succ n ih =>
    let bytes := (content.drop (offset + l.offset i).toNat).take (l.bytesToTransfer i).toNat
    have hioctl : osdIocmdRead s pid oid (offset + l.offset i) (l.bytesToTransfer i) = some bytes := by
      unfold osdIocmdRead
      rw [hfile]
      rfl
    have hrun : panSglReadLoop pid oid offset l (n + 1) i d s = _ :=
      bind_get
    rw [hioctl] at hrun
    rw [hrun]
    by_cases hlt : intOfCount bytes.length < l.bytesToTransfer i
    · simp only [if_pos hlt]
      exact ih (s := { s with out := s.out ++ [(d.toNat, bytes)] ++ [(d.toNat + (intOfCount bytes.length).toNat,
        List.replicate ((l.bytesToTransfer i).toNat - (intOfCount bytes.length).toNat) 0)] }) hfile _ _
    · simp only [if_neg hlt]
      exact ih (s := { s with out := s.out ++ [(d.toNat, bytes)] }) hfile _ _

/-- Where `pread` takes all entries, the loop of `io.c` counts what they hold. -/
theorem sglReadLoop_ends (henv : env.NoIoErrors) {n i : Nat} (d : UInt64)
    (hfile : s.files pid oid = some content)
    (hr : ∀ j ∈ List.range' i n, Readable (l.offset j + offset) (l.bytesToTransfer j)) : ∃ t,
    sglReadLoop env pid oid offset l n i d s
      = some (some (d + UInt64.ofNat ((List.range' i n).map (l.count content.length offset)).sum), t) := by
  induction n generalizing i d s with
  | zero =>
    refine ⟨s, ?_⟩
    show some (some d, s) = some (some (d + 0), s)
    rw [UInt64.add_zero]
  | succ n ih =>
    rw [List.range'_succ] at hr ⊢
    obtain ⟨t, hfiles, hnext, -⟩ := sglReadLoop_next henv hfile d (hr i List.mem_cons_self)
    obtain ⟨u, hu⟩ := ih (d + UInt64.ofNat (l.count content.length offset i)) (hfiles ▸ hfile) fun j hj =>
      hr j (List.mem_cons_of_mem _ hj)
    refine ⟨u, (hnext n).trans (hu.trans ?_)⟩
    rw [List.map_cons, List.sum_cons, UInt64.ofNat_add, UInt64.add_assoc]

/-- An entry that `pread` does not take ends the loop of `io.c`. -/
theorem sglReadLoop_fails (henv : env.NoIoErrors) {n i : Nat} (d : UInt64)
    (hfile : s.files pid oid = some content)
    (hr : ∃ j ∈ List.range' i n, ¬ Readable (l.offset j + offset) (l.bytesToTransfer j)) : ∃ t,
    sglReadLoop env pid oid offset l n i d s = some (none, t) := by
  induction n generalizing i d s with
  | zero =>
    obtain ⟨j, hj, -⟩ := hr
    exact (nomatch hj)
  | succ n ih =>
    by_cases hfirst : Readable (l.offset i + offset) (l.bytesToTransfer i)
    · obtain ⟨t, hfiles, hnext, -⟩ := sglReadLoop_next henv hfile d hfirst
      obtain ⟨j, hj, hno⟩ := hr
      rw [List.range'_succ, List.mem_cons] at hj
      rw [hnext n]
      rcases hj with rfl | hj
      · exact absurd hfirst hno
      · exact ih _ (hfiles ▸ hfile) ⟨j, hj, hno⟩
    · exact ⟨s, sglReadLoop_stop henv hfile d hfirst n⟩

/-- Where one `pread` transfers what each entry finds, the two loops do the same. -/
theorem panSglReadLoop_eq (henv : env.NoIoErrors) {n i : Nat} (d : UInt64)
    (hfile : s.files pid oid = some content)
    (hr : ∀ j ∈ List.range' i n, Readable (l.offset j + offset) (l.bytesToTransfer j))
    (hone : ∀ j ∈ List.range' i n,
      available content.length (l.offset j + offset) (l.bytesToTransfer j) ≤ 0x7ffff000) :
    panSglReadLoop pid oid offset l n i d s = sglReadLoop env pid oid offset l n i d s := by
  induction n generalizing i d s with
  | zero => rfl
  | succ n ih =>
    rw [List.range'_succ] at hr hone
    obtain ⟨t, hfiles, hnext, hpan⟩ := sglReadLoop_next henv hfile d (hr i List.mem_cons_self)
    rw [hnext n, hpan (hone i List.mem_cons_self) n]
    exact ih _ (hfiles ▸ hfile) (fun j hj => hr j (List.mem_cons_of_mem _ hj)) fun j hj =>
      hone j (List.mem_cons_of_mem _ hj)

/-- All that one list can hold is less than a size of 64 bits. -/
theorem sum_count_lt (l : SgList) (size : Nat) (offset : UInt64) :
    ((List.range l.rounds).map (l.count size offset)).sum < 2 ^ 64 := by
  have hle : ((List.range l.rounds).map (l.count size offset)).sum ≤ l.rounds * 0x7ffff000 := by
    have h := List.sum_le_card_nsmul ((List.range l.rounds).map (l.count size offset))
        0x7ffff000 fun x hx => by
      obtain ⟨i, -, rfl⟩ := List.mem_map.1 hx
      exact Nat.min_le_left _ _
    rw [List.length_map, List.length_range] at h
    exact h
  have hrounds : l.rounds ≤ 2 ^ 32 := Nat.min_le_right _ _
  omega

theorem sglRead_refused (hid : isUserobjectId pid oid = false) (len offset : UInt64) (l : SgList) :
    sglRead env pid oid len offset l s = some ((cdbErr pid oid, none), s) := by
  have hno : (!isUserobjectId pid oid) = true := by rw [hid]; rfl
  exact congrFun (if_pos hno) s

theorem panSglRead_refused (hid : isUserobjectId pid oid = false) (len offset : UInt64) (l : SgList) :
    panSglRead pid oid len offset l s = some ((cdbErr pid oid, none), s) := by
  have hno : (!isUserobjectId pid oid) = true := by rw [hid]; rfl
  exact congrFun (if_pos hno) s

/-- `sgl_read` of `io.c`, after its loop. -/
theorem sglRead_run (henv : env.NoIoErrors) (hid : isUserobjectId pid oid = true)
    (hfile : s.files pid oid = some content) (len : UInt64) {r : Option UInt64}
    (hloop : sglReadLoop env pid oid offset l l.rounds 0 0 s = some (r, t)) :
    sglRead env pid oid len offset l s = match r with
      | none => some ((hwErr pid oid, none), t)
      | some readlen =>
        if l.endless then none
        else some ((if readlen < len then readPastEnd pid oid readlen else .ok, some readlen),
          { t with ccap := fillCcap .userobject pid oid 0 }) := by
  refine (opened_run hid ((henv.lookup s pid oid).trans hfile) (henv.calls _) _ _ _).trans
    ((bind_of_some hloop).trans ?_)
  cases r with
  | none => rfl
  | some readlen =>
    dsimp only
    rw [henv.calls, if_neg Bool.false_ne_true]
    split
    · rfl
    · split <;> rfl

/-- `sgl_read` of `pan_io.c`, after its loop. -/
theorem panSglRead_run (hid : isUserobjectId pid oid = true) (len : UInt64) {readlen : UInt64}
    (hloop : panSglReadLoop pid oid offset l l.rounds 0 0 s = some (some readlen, t)) :
    panSglRead pid oid len offset l s =
      if l.endless then none
      else some ((.ok, some readlen), { t with ccap := fillCcap .userobject pid oid 0 }) := by
  have hnid : ¬ (!isUserobjectId pid oid) = true := by simp [hid]
  refine (congrFun (if_neg hnid) s).trans ((bind_of_some hloop).trans ?_)
  dsimp only
  split <;> rfl

variable {len : UInt64}

/-- Reads of a list that return the same have met no entry that `pread` refuses and no end of the object. -/
theorem alike_of_received (henv : env.NoIoErrors) (hid : isUserobjectId pid oid = true)
    (hfile : s.files pid oid = some content)
    (h : received (sglRead env pid oid len offset l s) = received (panSglRead pid oid len offset l s)) :
    l.Alike content.length len offset := by
  obtain ⟨d', t', hpanLoop⟩ := panSglReadLoop_ends hfile l offset l.rounds 0 0
  rw [panSglRead_run hid len hpanLoop] at h
  have hreadable : ∀ i < l.rounds, Readable (l.offset i + offset) (l.bytesToTransfer i) := by
    intro i hi
    by_contra hno
    obtain ⟨t, hloop⟩ := sglReadLoop_fails henv 0 hfile
      ⟨i, by rw [← List.range_eq_range']; exact List.mem_range.2 hi, hno⟩
    rw [sglRead_run henv hid hfile len hloop] at h
    dsimp only at h
    split at h
    · cases h
    · exact absurd h (received_ne nofun)
  refine ⟨hreadable, fun hend => ?_⟩
  obtain ⟨t, hloop⟩ := sglReadLoop_ends (l := l) (n := l.rounds) (i := 0) henv 0 hfile fun i hi => by
    rw [← List.range_eq_range'] at hi
    exact hreadable i (List.mem_range.1 hi)
  rw [sglRead_run henv hid hfile len hloop, hend] at h
  by_contra hshort
  have hlt : (0 + UInt64.ofNat ((List.range' 0 l.rounds).map (l.count content.length offset)).sum) <
      len := by
    rw [UInt64.zero_add, ← List.range_eq_range', UInt64.lt_iff_toNat_lt, UInt64.toNat_ofNat',
      Nat.mod_eq_of_lt (sum_count_lt l _ _)]
    exact Nat.lt_of_not_le hshort
  dsimp only at h
  rw [if_neg Bool.false_ne_true, if_neg Bool.false_ne_true, if_pos hlt] at h
  exact absurd h (received_ne nofun)

theorem sglRead_backends (henv : env.NoIoErrors) (hid : isUserobjectId pid oid = true)
    (hfile : s.files pid oid = some content) (hone : l.OnePread content.length offset) :
    received (sglRead env pid oid len offset l s) = received (panSglRead pid oid len offset l s)
      ↔ l.Alike content.length len offset := by
  refine ⟨alike_of_received henv hid hfile, fun ⟨hreadable, hsum⟩ => ?_⟩
  have hrange : ∀ i ∈ List.range' 0 l.rounds, i < l.rounds := by
    intro i hi
    rw [← List.range_eq_range'] at hi
    exact List.mem_range.1 hi
  obtain ⟨t, hloop⟩ := sglReadLoop_ends (n := l.rounds) henv 0 hfile fun i hi => hreadable i (hrange i hi)
  have hpan := panSglReadLoop_eq (n := l.rounds) henv 0 hfile (fun i hi => hreadable i (hrange i hi))
    fun i hi => hone i (hrange i hi)
  rw [sglRead_run henv hid hfile len hloop, panSglRead_run hid len (hpan.trans hloop)]
  cases hend : l.endless with
  | true => rfl
  | false =>
    have hge : ¬ (0 + UInt64.ofNat ((List.range' 0 l.rounds).map (l.count content.length offset)).sum) <
        len := by
      rw [UInt64.zero_add, ← List.range_eq_range', UInt64.lt_iff_toNat_lt, UInt64.toNat_ofNat',
        Nat.mod_eq_of_lt (sum_count_lt l _ _)]
      exact Nat.not_lt_of_le (hsum hend)
    dsimp only
    rw [if_neg hge]

end Lists

/-! ## The two builds -/

/-- **A read of the two builds** is answered alike exactly where it stays inside the object: the range of a
contiguous read, and so many bytes of a list as the command asks for. -/
theorem reads_backends (henv : env.NoIoErrors) (hfile : s.files pid oid = some content)
    (len offset : UInt64) :
    (received (contigRead env pid oid len offset s) = received (panContigRead pid oid len offset s)
      ↔ (isUserobjectId pid oid = true → ContigAlike content.length len offset)) ∧
    ∀ l : SgList,
      (received (sglRead env pid oid len offset l s) = received (panSglRead pid oid len offset l s) →
        isUserobjectId pid oid = true → l.Alike content.length len offset) ∧
      (l.OnePread content.length offset → (isUserobjectId pid oid = true →
        l.Alike content.length len offset) →
        received (sglRead env pid oid len offset l s) = received (panSglRead pid oid len offset l s)) := by
  cases hid : isUserobjectId pid oid with
  | true =>
    simp only [forall_const]
    exact ⟨contigRead_backends henv hid hfile len offset, fun l =>
      ⟨alike_of_received henv hid hfile, fun hone => (sglRead_backends henv hid hfile hone).2⟩⟩
  | false =>
    simp only [Bool.false_eq_true, false_imp_iff, imp_true_iff, iff_true, forall_const, true_and]
    refine ⟨?_, fun l _ => ?_⟩
    · rw [contigRead_refused hid, panContigRead_refused hid]
    · rw [sglRead_refused hid, panSglRead_refused hid]

/-- Two of three bytes, and the last of them by a list. -/
theorem reads_backends_inside :
    received (contigRead .calm 0x10000 0x10000 2 1 { Target.blank with files := fun _ _ => some [1, 2, 3] })
      = received (panContigRead 0x10000 0x10000 2 1
        { Target.blank with files := fun _ _ => some [1, 2, 3] }) ∧
    received (sglRead .calm 0x10000 0x10000 1 0 ⟨1, blobMem (htonll 2 ++ htonll 1)⟩
        { Target.blank with files := fun _ _ => some [1, 2, 3] })
      = received (panSglRead 0x10000 0x10000 1 0 ⟨1, blobMem (htonll 2 ++ htonll 1)⟩
        { Target.blank with files := fun _ _ => some [1, 2, 3] }) :=
  ⟨(reads_backends Env.calm_noIoErrors rfl 2 1).1.2 fun _ => by decide +kernel,
    ((reads_backends Env.calm_noIoErrors rfl 1 0).2 _).2 (by decide +kernel) fun _ => by decide +kernel⟩

/-- One byte of an object that has none: a recovered error in one build, in the other an error of the
device or success. -/
theorem reads_backends_past :
    received (contigRead .calm 0x10000 0x10000 1 0 (calmRun [.createPartition 0, .create 0x10000 0 2]))
      = some (readPastEnd 0x10000 0x10000 0, some (1, [0])) ∧
    received (panContigRead 0x10000 0x10000 1 0 (calmRun [.createPartition 0, .create 0x10000 0 2]))
      = some (hwErr 0x10000 0x10000, none) ∧
    received (sglRead .calm 0x10000 0x10000 1 0 ⟨1, blobMem (htonll 0 ++ htonll 1)⟩
      (calmRun [.createPartition 0, .create 0x10000 0 2])) =
        some (readPastEnd 0x10000 0x10000 0, some (0, [])) ∧
    received (panSglRead 0x10000 0x10000 1 0 ⟨1, blobMem (htonll 0 ++ htonll 1)⟩
      (calmRun [.createPartition 0, .create 0x10000 0 2])) = some (.ok, some (0, [])) := by
  refine ⟨?_, ?_, ?_, ?_⟩ <;> decide +kernel

end OsdTarget
