import OsdTarget.GatherRead
import OsdTarget.Layouts

/-!
# Strided transfers

`vec_write`, `vec_append` and `vec_read` cut a payload into pieces of one length and put a stride between
their places in the object.  The rounds of their loops are described by the calls they make, for every
length and stride: a piece longer than the payload makes the count of the bytes left wrap around.
-/

namespace OsdTarget

open Base

variable (env : Env)

/-! ## Reading and appending -/

/-- The loop of `vec_read`: `readlen` at its end; `none` stands for the jump to `out_hw_err`. -/
def vecReadLoop (pid oid offset stride : UInt64) :
    Nat → UInt64 → UInt64 → UInt64 → UInt64 → UInt64 → OsdM (Option UInt64)
  | 0, _, _, _, _, _ => never
  | fuel + 1, bytes, length, dataOffset, offsetVal, readlen => do
    if bytes = 0 then
      return some readlen
    match preadFile env (← get) pid oid (offsetVal + offset) length with
    | none => return none
    | some data =>
      outWrite dataOffset.toNat data
      if data.length ≠ length.toNat then
        return none
      let left := bytes - length
      vecReadLoop pid oid offset stride fuel left (if left < length then left else length)
        (dataOffset + length) (offsetVal + stride) (readlen + UInt64.ofNat data.length)

def vecRead (pid oid len offset : UInt64) (indata : Mem) : OsdM (Ret × Option UInt64) := do
  let stride := getNtohll indata 0
  let length := getNtohll indata 8
  if !isUserobjectId pid oid then
    return (cdbErr pid oid, none)
  if !(← openFile env pid oid) then
    return (cdbErr pid oid, none)
  match ← vecReadLoop env pid oid offset stride (2 ^ 64 + 1) len length 0 0 0 with
  | none => return (hwErr pid oid, none)
  | some readlen =>
    if env.sysFails (.close pid oid) then
      return (hwErr pid oid, none)
    setCcap (fillCcap .userobject pid oid 0)
    if readlen < len then
      return (readPastEnd pid oid readlen, some readlen)
    return (.ok, some readlen)

/-- `vec_append`, whose loop is that of `vec_write`; `none` for a NULL pointer to the data. -/
def vecAppend (pid oid len : UInt64) (appenddata : Option Mem) : OsdM Ret := do
  match appenddata with
  | none => return cdbErr pid oid
  | some data =>
    let stride := getNtohll data 0
    let length := getNtohll data 8
    if !isUserobjectId pid oid then
      return cdbErr pid oid
    match (← get).lookup env pid oid with
    | none => return cdbErr pid oid
    | some content =>
      if env.sysFails (.openFile pid oid) then
        return cdbErr pid oid
      if env.sysFails (.lseek pid oid) then
        return hwErr pid oid
      let off := UInt64.ofNat content.length
      match ← vecWriteLoop env pid oid off stride data (2 ^ 64 + 1) (len - 16) length 16 0 with
      | none => return hwErr pid oid
      | some _ => finishWrite env pid oid off

/-! ## Calls -/

/-- What a round hands to `pread` or `pwrite`: the place in the buffer, the length and the place in the
file. -/
structure Transfer where
  buf : UInt64
  len : UInt64
  file : UInt64

/-- The calls of the loops within `fuel` rounds where none fails, and whether the loop ends within them. -/
def vecTransfers (offset stride : UInt64) : Nat → UInt64 → UInt64 → UInt64 → UInt64 → List Transfer × Bool
  | 0, _, _, _, _ => ([], false)
  | fuel + 1, bytes, length, dataOffset, offsetVal =>
    if bytes = 0 then ([], true)
    else
      let left := bytes - length
      let rest := vecTransfers offset stride fuel left (if left < length then left else length)
        (dataOffset + length) (offsetVal + stride)
      (⟨dataOffset, length, offsetVal + offset⟩ :: rest.1, rest.2)

/-- The pieces of a payload behind a header: in the buffer one after the other, in the file one every
`stride` bytes from `base` on. -/
def pieces (header base stride L payload : Nat) : List (Nat × Nat × Nat) :=
  (List.range ((payload + L - 1) / L)).map fun k =>
    (header + k * L, min L (payload - k * L), base + k * stride)

/-- The numbers of a call. -/
def Transfer.nats (c : Transfer) : Nat × Nat × Nat := (c.buf.toNat, c.len.toNat, c.file.toNat)

/-- The call as a chunk of the data. -/
def Transfer.chunk (data : Mem) (c : Transfer) : Chunk := ⟨c.file, c.len, data.shift c.buf.toNat⟩

/-- One `pwrite` stores it. -/
def Transfer.Fits (c : Transfer) : Prop :=
  c.file.toNat + c.len.toNat < 2 ^ 63 ∧ c.len.toNat ≤ 0x7ffff000

/-- One `pread` reads it from an object of this size. -/
def Transfer.Whole (size : Nat) (c : Transfer) : Prop :=
  c.Fits ∧ (c.len.toNat = 0 ∨ c.file.toNat + c.len.toNat ≤ size)

/-- How much the rounds count down: a first piece longer than what is left takes 2^64 more. -/
def vecTotal (bytes length : UInt64) : Nat := if length ≤ bytes then bytes.toNat else 2 ^ 64 + bytes.toNat

/-- The call of round `k`. -/
def transferAt (header offset stride : UInt64) (L total k : Nat) : Transfer :=
  ⟨header + UInt64.ofNat (k * L), UInt64.ofNat (min L (total - k * L)), offset + UInt64.ofNat k * stride⟩

variable {env} {pid oid : UInt64} {s t : Target} {content : List UInt8} {offset stride header : UInt64}

theorem vecChunks_transfers (data : Mem) (fuel : Nat) (bytes length dataOffset offsetVal : UInt64) :
    vecChunks offset stride data fuel bytes length dataOffset offsetVal =
      ((vecTransfers offset stride fuel bytes length dataOffset offsetVal).1.map (Transfer.chunk data),
        (vecTransfers offset stride fuel bytes length dataOffset offsetVal).2) := by
  induction fuel generalizing bytes length dataOffset offsetVal with
  | zero => rfl
  | succ fuel ih =>
    unfold vecChunks vecTransfers
    by_cases h0 : bytes = 0
    · rw [if_pos h0, if_pos h0]
      rfl
    · rw [if_neg h0, if_neg h0]
      dsimp only
      rw [ih]
      rfl

/-- From round `k` on, where the count does not wrap around any more. -/
theorem vecTransfers_from {L total : Nat} (hL : 0 < L) {fuel k : Nat}
    {bytes length dataOffset offsetVal : UInt64}
    (hbytes : bytes.toNat = total - k * L) (hlength : length.toNat = min L (total - k * L))
    (hdata : bytes ≠ 0 → dataOffset = header + UInt64.ofNat (k * L))
    (hoff : offsetVal = UInt64.ofNat k * stride) (hfuel : bytes.toNat < fuel) :
    vecTransfers offset stride fuel bytes length dataOffset offsetVal =
      ((List.range' k ((total - k * L + L - 1) / L)).map (transferAt header offset stride L total),
        true) := by
  induction fuel generalizing k bytes length dataOffset offsetVal with
  | zero => omega
  | succ fuel ih =>
    unfold vecTransfers
    by_cases h0 : bytes = 0
    · have hdone : total - k * L = 0 := by
        rw [← hbytes, h0]
        rfl
      rw [if_pos h0, hdone, Nat.div_eq_of_lt (by omega)]
      rfl
    · have hpos : 0 < total - k * L := hbytes ▸ pos_of_ne_zero h0
      have hstep : (k + 1) * L = k * L + L := Nat.succ_mul k L
      have hcount : (total - k * L + L - 1) / L = (total - (k + 1) * L + L - 1) / L + 1 := by
        rw [hstep, ← Nat.sub_sub]
        exact pieces_succ hL hpos
      have hleft : (bytes - length).toNat = total - (k + 1) * L := by
        rw [UInt64.toNat_sub_of_le _ _ (UInt64.le_iff_toNat_le.2 (by omega))]
        omega
      have hnext : (if bytes - length < length then bytes - length else length).toNat =
          min L (total - (k + 1) * L) := by
        rw [nextPiece_toNat, hleft]
        omega
      have hlen : length = UInt64.ofNat (min L (total - k * L)) := by rw [← hlength, UInt64.ofNat_toNat]
      have hrest : vecTransfers offset stride fuel (bytes - length)
          (if bytes - length < length then bytes - length else length) (dataOffset + length)
            (offsetVal + stride) =
          ((List.range' (k + 1) ((total - (k + 1) * L + L - 1) / L)).map
            (transferAt header offset stride L total),
            true) := by
        refine ih hleft hnext (fun hne => ?_) ?_ (by omega)
        · -- only the last piece is shorter, and nothing follows it
          have hmore : (bytes - length).toNat ≠ 0 := fun h => hne (UInt64.toNat_inj.1 h)
          rw [hdata h0, hlen, show min L (total - k * L) = L by omega, hstep, UInt64.ofNat_add,
            UInt64.add_assoc]
        · rw [hoff, UInt64.ofNat_add, UInt64.add_mul]
          exact congrArg _ (UInt64.one_mul _).symm
      rw [if_neg h0, hcount, List.range'_succ]
      dsimp only
      rw [hrest, hdata h0, hoff, hlen, UInt64.add_comm _ offset]
      rfl

/-! ## All rounds -/

/-- A piece of some bytes. -/
theorem vecTransfers_eq {bytes length : UInt64} (h0 : bytes ≠ 0) (hlen : length ≠ 0) :
    vecTransfers offset stride (2 ^ 64 + 1) bytes length header 0 =
      ((List.range ((vecTotal bytes length + length.toNat - 1) / length.toNat)).map
        (transferAt header offset stride length.toNat (vecTotal bytes length)), true) := by
  have hL := pos_of_ne_zero hlen
  have hlt := bytes.toNat_lt
  have hlenLt := length.toNat_lt
  unfold vecTotal
  by_cases hle : length ≤ bytes
  · have hleNat := UInt64.le_iff_toNat_le.1 hle
    rw [if_pos hle]
    have hrun : vecTransfers offset stride (2 ^ 64 + 1) bytes length header 0 =
        ((List.range' 0 ((bytes.toNat - 0 * length.toNat + length.toNat - 1) / length.toNat)).map
          (transferAt header offset stride length.toNat bytes.toNat), true) :=
      vecTransfers_from hL (by omega) (by omega)
        (fun _ => by rw [Nat.zero_mul]; exact (UInt64.add_zero _).symm)
        UInt64.zero_mul.symm (by omega)
    rw [hrun, Nat.zero_mul, Nat.sub_zero, List.range_eq_range']
  · -- the first round leaves more than there was
    have hless : bytes.toNat < length.toNat := UInt64.lt_iff_toNat_lt.1 (UInt64.not_le.1 hle)
    rw [if_neg hle]
    have hleft : (bytes - length).toNat = 2 ^ 64 + bytes.toNat - 1 * length.toNat := by
      rw [UInt64.toNat_sub]
      omega
    have hnext : (if bytes - length < length then bytes - length else length).toNat =
        min length.toNat (2 ^ 64 + bytes.toNat - 1 * length.toNat) := by
      rw [nextPiece_toNat, hleft]
    have hcount : (2 ^ 64 + bytes.toNat + length.toNat - 1) / length.toNat =
        (2 ^ 64 + bytes.toNat - 1 * length.toNat + length.toNat - 1) / length.toNat + 1 := by
      rw [Nat.one_mul]
      exact pieces_succ hL (by omega)
    have hrest : vecTransfers offset stride (2 ^ 64) (bytes - length)
        (if bytes - length < length then bytes - length else length) (header + length) (0 + stride) =
        ((List.range' 1 ((2 ^ 64 + bytes.toNat - 1 * length.toNat + length.toNat - 1) / length.toNat)).map
          (transferAt header offset stride length.toNat (2 ^ 64 + bytes.toNat)), true) :=
      vecTransfers_from hL hleft hnext (fun _ => by rw [Nat.one_mul, UInt64.ofNat_toNat])
        ((UInt64.zero_add _).trans (UInt64.one_mul _).symm) (by rw [hleft]; omega)
    rw [vecTransfers, if_neg h0]
    dsimp only
    rw [hrest, hcount, List.range_eq_range', List.range'_succ, List.map_cons]
    refine Prod.ext (List.cons_eq_cons.2 ⟨?_, rfl⟩) rfl
    have hzero : UInt64.ofNat 0 = 0 := rfl
    unfold transferAt
    rw [Nat.zero_mul, Nat.sub_zero, Nat.min_eq_left (by omega), UInt64.ofNat_toNat, UInt64.zero_add, hzero,
      UInt64.add_zero, UInt64.zero_mul, UInt64.add_zero]

/-- A piece of no bytes is moved again and again. -/
theorem vecTransfers_zero {bytes : UInt64} (h0 : bytes ≠ 0) (fuel k : Nat) :
    vecTransfers offset stride fuel bytes 0 header (UInt64.ofNat k * stride) =
      ((List.range' k fuel).map (transferAt header offset stride 0 (vecTotal bytes 0)), false) := by
  induction fuel generalizing k with
  | zero => rfl
  | succ fuel ih =>
    have hnext : UInt64.ofNat k * stride + stride = UInt64.ofNat (k + 1) * stride := by
      rw [UInt64.ofNat_add, UInt64.add_mul]
      exact congrArg _ (UInt64.one_mul _).symm
    unfold vecTransfers
    rw [if_neg h0]
    dsimp only
    rw [UInt64.sub_zero, if_neg (UInt64.not_lt.2 UInt64.zero_le), UInt64.add_zero, hnext, ih,
      List.range'_succ,
      List.map_cons]
    refine Prod.ext (List.cons_eq_cons.2 ⟨?_, rfl⟩) rfl
    unfold transferAt
    rw [Nat.mul_zero, Nat.zero_min, UInt64.add_comm _ offset]
    exact congrArg (fun b => (⟨b, 0, _⟩ : Transfer)) (UInt64.add_zero _).symm

/-- The calls of the loop for these first values. -/
def vecCalls (header base stride bytes length : UInt64) : List Transfer × Bool :=
  vecTransfers base stride (2 ^ 64 + 1) bytes length header 0

/-- One of the pieces is such that its call fails. -/
def Refuses (Taken : Transfer → Prop) (header base stride bytes length : UInt64) : Prop :=
  ∃ k, k * length.toNat < vecTotal bytes length ∧
    ¬ Taken (transferAt header base stride length.toNat (vecTotal bytes length) k)

theorem vecCalls_ended {header base stride bytes length : UInt64} :
    (vecCalls header base stride bytes length).2 = true ↔ bytes = 0 ∨ length ≠ 0 := by
  have h := vecChunks_ended base stride (fun _ => 0) bytes length header 0
  rw [vecChunks_transfers] at h
  exact h

theorem exists_call {Taken : Transfer → Prop} {bytes length : UInt64} (h0 : bytes ≠ 0) :
    (∃ c ∈ (vecCalls header offset stride bytes length).1, ¬ Taken c) ↔
      Refuses Taken header offset stride bytes length := by
  have hpos := pos_of_ne_zero h0
  unfold vecCalls Refuses
  by_cases hlen : length = 0
  · subst hlen
    have hstart : UInt64.ofNat 0 * stride = 0 := UInt64.zero_mul
    have hrun : vecTransfers offset stride (2 ^ 64 + 1) bytes 0 header (UInt64.ofNat 0 * stride) = _ :=
      vecTransfers_zero h0 (2 ^ 64 + 1) 0
    rw [hstart] at hrun
    have htotal : 0 < vecTotal bytes 0 := by
      unfold vecTotal
      rw [if_pos UInt64.zero_le]
      exact hpos
    have hperiod : ∀ k, transferAt header offset stride 0 (vecTotal bytes 0) (k % 2 ^ 64) =
        transferAt header offset stride 0 (vecTotal bytes 0) k := by
      intro k
      have hk : UInt64.ofNat (k % 2 ^ 64) = UInt64.ofNat k := UInt64.toNat_inj.1 (by
        rw [UInt64.toNat_ofNat', UInt64.toNat_ofNat', Nat.mod_mod])
      unfold transferAt
      rw [hk, Nat.mul_zero, Nat.mul_zero]
    rw [hrun]
    constructor
    · rintro ⟨c, hc, hno⟩
      obtain ⟨k, -, rfl⟩ := List.mem_map.1 hc
      exact ⟨k, by rw [UInt64.toNat_zero, Nat.mul_zero]; exact htotal, hno⟩
    · rintro ⟨k, -, hno⟩
      refine ⟨_, List.mem_map.2 ⟨k % 2 ^ 64, ?_, rfl⟩, ?_⟩
      · rw [← List.range_eq_range', List.mem_range]
        exact Nat.lt_succ_of_lt (Nat.mod_lt _ (by decide))
      · rw [hperiod]
        exact hno
  · rw [vecTransfers_eq h0 hlen]
    constructor
    · rintro ⟨c, hc, hno⟩
      obtain ⟨k, hk, rfl⟩ := List.mem_map.1 hc
      exact ⟨k, (Layout.lt_pieces (pos_of_ne_zero hlen)).1 (List.mem_range.1 hk), hno⟩
    · rintro ⟨k, hk, hno⟩
      exact ⟨_, List.mem_map.2 ⟨k, List.mem_range.2 ((Layout.lt_pieces (pos_of_ne_zero hlen)).2 hk),
        rfl⟩, hno⟩

/-! ## Calls and pieces -/

/-- Pieces that are part of the payload, at positions that are numbers of 64 bits. -/
def PiecesFit (base stride L payload : Nat) : Prop :=
  0 < L ∧ L ≤ payload ∧ ∀ k, k * L < payload → base + k * stride < 2 ^ 64

/-- **The calls are the pieces of the payload exactly when the pieces fit.** -/
theorem nats_pieces_iff {bytes length : UInt64} {payload : Nat} (h0 : bytes ≠ 0) (hlen : length ≠ 0)
    (hpayload : payload = bytes.toNat ∨ payload = 0) (hfit : header.toNat + payload < 2 ^ 64) :
    (vecCalls header offset stride bytes length).1.map Transfer.nats =
        pieces header.toNat offset.toNat stride.toNat length.toNat payload ↔
      PiecesFit offset.toNat stride.toNat length.toNat payload := by
  have hL := pos_of_ne_zero hlen
  have hpos := pos_of_ne_zero h0
  have hlenLt := length.toNat_lt
  unfold vecCalls
  rw [vecTransfers_eq h0 hlen, List.map_map]
  unfold pieces
  constructor
  · intro heq
    have hge : length.toNat ≤ vecTotal bytes length := by
      unfold vecTotal
      split
      · next hle => exact UInt64.le_iff_toNat_le.1 hle
      · omega
    have hat : ∀ k, k * length.toNat < vecTotal bytes length →
        (Transfer.nats ∘ transferAt header offset stride length.toNat (vecTotal bytes length)) k =
          (header.toNat + k * length.toNat, min length.toNat (payload - k * length.toNat),
            offset.toNat + k * stride.toNat) := by
      intro k hk
      have hget := congrArg (fun l => l[k]?) heq
      simp only [List.getElem?_map] at hget
      rw [List.getElem?_range ((Layout.lt_pieces hL).2 hk), Option.map_some] at hget
      cases hright : (List.range ((payload + length.toNat - 1) / length.toNat))[k]? with
      | none =>
        rw [hright] at hget
        cases hget
      | some j =>
        obtain ⟨hj, rfl⟩ := List.getElem?_eq_some_iff.1 hright
        rw [hright, List.getElem_range] at hget
        exact Option.some.inj hget
    have hfirst := congrArg (fun p => p.2.1) (hat 0 (by omega))
    have hfirst : (UInt64.ofNat (min length.toNat (vecTotal bytes length - 0 * length.toNat))).toNat =
        min length.toNat (payload - 0 * length.toNat) := hfirst
    rw [Nat.zero_mul, Nat.sub_zero, Nat.sub_zero, Nat.min_eq_left hge, UInt64.ofNat_toNat] at hfirst
    have hle : length.toNat ≤ payload := by omega
    obtain rfl : payload = bytes.toNat := hpayload.resolve_right (by omega)
    refine ⟨hL, hle, fun k hk => ?_⟩
    have hthird := congrArg (fun p => p.2.2) (hat k (by
      unfold vecTotal
      rw [if_pos (UInt64.le_iff_toNat_le.2 hle)]
      exact hk))
    have hthird : (offset + UInt64.ofNat k * stride).toNat = offset.toNat + k * stride.toNat := hthird
    rw [← hthird]
    exact UInt64.toNat_lt _
  · rintro ⟨-, hle, hin⟩
    obtain rfl : payload = bytes.toNat := hpayload.resolve_right (by omega)
    have htotal : vecTotal bytes length = bytes.toNat := if_pos (UInt64.le_iff_toNat_le.2 hle)
    rw [htotal]
    refine List.map_congr_left fun k hk => ?_
    have hk := (Layout.lt_pieces hL).1 (List.mem_range.1 hk)
    have hin := hin k hk
    have hkle : k ≤ k * length.toNat := Nat.le_mul_of_pos_right k hL
    refine Prod.ext ?_ (Prod.ext ?_ ?_)
    · show (header + UInt64.ofNat (k * length.toNat)).toNat = _
      rw [UInt64.toNat_add, UInt64.toNat_ofNat_of_lt' (show k * length.toNat < 2 ^ 64 by omega)]
      exact Nat.mod_eq_of_lt (by omega)
    · exact UInt64.toNat_ofNat_of_lt' (Nat.lt_of_le_of_lt (Nat.min_le_left _ _) hlenLt)
    · show (offset + UInt64.ofNat k * stride).toNat = offset.toNat + k * stride.toNat
      rw [UInt64.toNat_add, UInt64.toNat_mul, UInt64.toNat_ofNat_of_lt' (show k < 2 ^ 64 by omega),
        Nat.mod_eq_of_lt (by omega : k * stride.toNat < 2 ^ 64)]
      exact Nat.mod_eq_of_lt hin

/-! ## Writing -/

/-- A plan on a data file: it fails at a chunk that is not taken, it does not end, or all is stored. -/
theorem storePlan_run (h : s.lookup env pid oid = some content) (p : List Chunk × Bool) :
    ((∃ c ∈ p.1, ¬ env.Takes pid oid c) →
      ∃ content', storePlan env pid oid p s = some (none, s.setFile pid oid (some content'))) ∧
    ((∀ c ∈ p.1, env.Takes pid oid c) → p.2 = false → storePlan env pid oid p s = none) ∧
    ((∀ c ∈ p.1, env.Takes pid oid c) → p.2 = true → storePlan env pid oid p s =
      some (some (), s.setFile pid oid (some (stores 0 content (p.1.map Chunk.write))))) := by
  obtain ⟨ret, content', hrun, htakes, hstored⟩ := storeChunks_run p.1 h
  refine ⟨fun ⟨c, hc, hno⟩ => ?_, fun hall hends => ?_, fun hall hends => ?_⟩
  · cases ret with
    | some _ => exact absurd (htakes.1 rfl c hc) hno
    | none => exact ⟨content', bind_of_some hrun⟩
  · obtain rfl := htakes.2 hall
    refine (bind_of_some hrun).trans ?_
    dsimp only
    rw [hends]
    rfl
  · obtain rfl := htakes.2 hall
    rw [storePlan_ended hends, hrun, hstored rfl]

theorem takes_iff (henv : env.NoIoErrors) {data : Mem} (c : Transfer) :
    env.Takes pid oid (c.chunk data) ↔ c.Fits := by
  obtain ⟨limit, hlimit, hle⟩ := henv.pwrites pid oid c.file c.len
  constructor
  · rintro ⟨hfile, limit', -, hlen⟩
    exact ⟨hfile, Nat.le_trans hlen (Nat.min_le_right _ _)⟩
  · rintro ⟨hfile, hlen⟩
    exact ⟨hfile, limit, hlimit, Nat.le_min.2 ⟨hle, hlen⟩⟩

/-- What is promised of the command `m` that stores the payload of `data` from `base` on: it comes to
an end, and when it succeeds, its calls were one for each piece, none of them took bytes behind the
payload, and the pieces are stored. -/
structure StoresPayload (m : OsdM Ret) (pid oid base len : UInt64) (data : Mem)
    (content : List UInt8) (s : Target) :
    Prop where
  ends : (m s).isSome
  stored : ∀ t, m s = some (.ok, t) →
    (vecCalls 16 base (getNtohll data 0) (len - 16) (getNtohll data 8)).1.map Transfer.nats =
      pieces 16 base.toNat (getNtohll data 0).toNat (getNtohll data 8).toNat (len.toNat - 16) ∧
    (∀ c ∈ (vecCalls 16 base (getNtohll data 0) (len - 16) (getNtohll data 8)).1,
      16 ≤ c.buf.toNat ∧ c.buf.toNat + c.len.toNat ≤ len.toNat) ∧
    t.files pid oid = some (stores 0 content
      (vecWrites base.toNat (getNtohll data 0).toNat (getNtohll data 8).toNat data (len.toNat - 16)))

/-- When a vector is stored as promised, or refused. -/
def VectorFits (base len : UInt64) (data : Mem) : Prop :=
  len = 16 ∨ Refuses Transfer.Fits 16 base (getNtohll data 0) (len - 16) (getNtohll data 8) ∨
    PiecesFit base.toNat (getNtohll data 0).toNat (getNtohll data 8).toNat (len.toNat - 16)

/-- The chunks of the pieces. -/
theorem calls_write {data : Mem} {base len stride length : UInt64} {calls : List Transfer}
    (h : calls.map Transfer.nats = pieces 16 base.toNat stride.toNat length.toNat (len.toNat - 16)) :
    (calls.map (Transfer.chunk data)).map Chunk.write =
      vecWrites base.toNat stride.toNat length.toNat data (len.toNat - 16) := by
  have hwrite : ∀ c : Transfer, (c.chunk data).write =
      ⟨c.nats.2.2, data.read c.nats.1 c.nats.2.1⟩ := fun c => by
    unfold Chunk.write Transfer.chunk Transfer.nats
    rw [Mem.read_shift, Nat.add_zero]
  have hmap : (calls.map (Transfer.chunk data)).map Chunk.write =
      (calls.map Transfer.nats).map fun p => (⟨p.2.2, data.read p.1 p.2.1⟩ : Write UInt8) := by
    rw [List.map_map, List.map_map]
    exact List.map_congr_left fun c _ => hwrite c
  rw [hmap, h, pieces, List.map_map]
  rfl

theorem len_sub_eq_zero {len : UInt64} : len - 16 = 0 ↔ len = 16 := by
  refine ⟨fun h => ?_, fun h => by rw [h]; rfl⟩
  rw [← UInt64.sub_add_cancel len 16, h]
  rfl

theorem vecChunks_calls (data : Mem) (base bytes length : UInt64) :
    vecChunks base stride data (2 ^ 64 + 1) bytes length header 0 =
      ((vecCalls header base stride bytes length).1.map (Transfer.chunk data),
        (vecCalls header base stride bytes length).2) :=
  vecChunks_transfers data _ _ _ _ _

/-- A payload of no bytes has no pieces. -/
theorem pieces_nil (header base stride L : Nat) : pieces header base stride L 0 = [] := by
  unfold pieces
  rcases Nat.eq_zero_or_pos L with rfl | hL
  · rfl
  · rw [Nat.div_eq_of_lt (by omega)]
    rfl

/-- The pieces are inside the payload. -/
theorem pieces_within {header base stride L payload : Nat} {p : Nat × Nat × Nat}
    (h : p ∈ pieces header base stride L payload) : header ≤ p.1 ∧ p.1 + p.2.1 ≤ header + payload ∧
      0 < payload := by
  obtain ⟨k, hk, rfl⟩ := List.mem_map.1 h
  have hk := List.mem_range.1 hk
  have hL : 0 < L := by
    refine Nat.pos_of_ne_zero fun hz => ?_
    rw [hz, Nat.div_zero] at hk
    omega
  have hlt := (Layout.lt_pieces hL).1 hk
  dsimp only
  omega

/-- **A vector is stored as promised exactly when it fits.** -/
theorem storesPayload_iff (henv : env.NoIoErrors) {base len appendOff : UInt64} {data : Mem} {m : OsdM Ret}
    (hfile : s.files pid oid = some content)
    (hm : m s = (storePlan env pid oid (vecChunks base (getNtohll data 0) data (2 ^ 64 + 1) (len - 16)
        (getNtohll data 8) 16 0) >>= fun r => match r with
      | none => pure (hwErr pid oid)
      | some _ => finishWrite env pid oid appendOff) s) :
    StoresPayload m pid oid base len data content s ↔ VectorFits base len data := by
  have hplan := storePlan_run ((henv.lookup s pid oid).trans hfile)
    (vecChunks base (getNtohll data 0) data (2 ^ 64 + 1) (len - 16) (getNtohll data 8) 16 0)
  rw [vecChunks_calls] at hm hplan
  obtain ⟨hfails, hendless, hstores⟩ := hplan
  by_cases hbad : ∃ c ∈ (vecCalls 16 base (getNtohll data 0) (len - 16) (getNtohll data 8)).1, ¬ c.Fits
  · -- storage refuses a piece
    refine iff_of_true ?_ ?_
    · obtain ⟨c, hc, hno⟩ := hbad
      obtain ⟨content', hrun⟩ := hfails ⟨_, List.mem_map_of_mem hc, fun h => hno ((takes_iff henv c).1 h)⟩
      have hanswer := hm.trans (bind_of_some hrun)
      refine ⟨by rw [hanswer]; rfl, fun t ht => ?_⟩
      rw [hanswer] at ht
      cases ht
    · by_cases h16 : len = 16
      · exact .inl h16
      · exact .inr (.inl ((exists_call fun h => h16 (len_sub_eq_zero.1 h)).1 hbad))
  have htaken : ∀ c ∈ (vecCalls 16 base (getNtohll data 0) (len - 16) (getNtohll data 8)).1.map
      (Transfer.chunk data),
      env.Takes pid oid c := by
    intro c hc
    obtain ⟨call, hcall, rfl⟩ := List.mem_map.1 hc
    rw [takes_iff henv]
    by_contra hno
    exact hbad ⟨call, hcall, hno⟩
  by_cases hends : (vecCalls 16 base (getNtohll data 0) (len - 16) (getNtohll data 8)).2 = true
  · have hanswer := hm.trans ((bind_of_some (hstores htaken hends)).trans (finishWrite_run appendOff))
    rw [henv.calls, if_neg Bool.false_ne_true] at hanswer
    have hiff : StoresPayload m pid oid base len data content s ↔
        (vecCalls 16 base (getNtohll data 0) (len - 16) (getNtohll data 8)).1.map Transfer.nats =
          pieces 16 base.toNat (getNtohll data 0).toNat (getNtohll data 8).toNat (len.toNat - 16) := by
      refine ⟨fun h => (h.stored _ hanswer).1, fun h =>
        ⟨by rw [hanswer]; rfl, fun t ht => ⟨h, fun c hc => ?_, ?_⟩⟩⟩
      · obtain ⟨hge, hle, hsome⟩ := pieces_within (h ▸ List.mem_map_of_mem hc)
        exact ⟨hge, Nat.le_trans hle (by omega)⟩
      · obtain ⟨-, rfl⟩ := Prod.mk.inj (Option.some.inj (hanswer.symm.trans ht))
        rw [← calls_write h]
        exact files_setFile _
    rw [hiff]
    by_cases h16 : len = 16
    · subst h16
      exact iff_of_true (pieces_nil _ _ _ _).symm (.inl rfl)
    have h0 : len - 16 ≠ 0 := fun h => h16 (len_sub_eq_zero.1 h)
    have hlength := (vecCalls_ended.1 hends).resolve_left h0
    have hlt := len.toNat_lt
    have hpayload : len.toNat - 16 = (len - 16).toNat ∨ len.toNat - 16 = 0 := by
      by_cases hle : 16 ≤ len.toNat
      · exact .inl (UInt64.toNat_sub_of_le len 16 (UInt64.le_iff_toNat_le.2 hle)).symm
      · exact .inr (by omega)
    have hheader : (16 : UInt64).toNat + (len.toNat - 16) < 2 ^ 64 := by
      show 16 + (len.toNat - 16) < 2 ^ 64
      omega
    refine (nats_pieces_iff h0 hlength hpayload hheader).trans ⟨fun h => .inr (.inr h), fun h => ?_⟩
    rcases h with h | h | h
    · exact absurd h h16
    · exact absurd ((exists_call h0).2 h) hbad
    · exact h
  · -- pieces of no bytes
    have hnone := hendless htaken (Bool.eq_false_iff.2 hends)
    rw [vecCalls_ended, not_or, not_not] at hends
    refine iff_of_false (fun h => ?_) fun h => ?_
    · exact absurd h.ends (by rw [hm, bind_of_none hnone]; exact Bool.false_ne_true)
    · rcases h with h | h | h
      · exact hends.1 (len_sub_eq_zero.2 h)
      · exact hbad ((exists_call hends.1).2 h)
      · exact absurd h.1 (by rw [hends.2]; exact Nat.lt_irrefl 0)

theorem vecWrite_run (hid : isUserobjectId pid oid = true) (henv : env.NoIoErrors)
    (hfile : s.files pid oid = some content)
    (len offset : UInt64) (data : Mem) : vecWrite env pid oid len offset data s =
      (storePlan env pid oid (vecChunks offset (getNtohll data 0) data (2 ^ 64 + 1) (len - 16)
        (getNtohll data 8) 16 0) >>= fun r => match r with
      | none => pure (hwErr pid oid)
      | some _ => finishWrite env pid oid 0) s := by
  rw [← vecWriteLoop_eq]
  exact opened_run hid ((henv.lookup s pid oid).trans hfile) (henv.calls _) _ _ _

theorem vecAppend_run (hid : isUserobjectId pid oid = true) (henv : env.NoIoErrors)
    (hfile : s.files pid oid = some content) (len : UInt64) (data : Mem) :
    vecAppend env pid oid len (some data) s =
      (storePlan env pid oid (vecChunks (UInt64.ofNat content.length) (getNtohll data 0) data
        (2 ^ 64 + 1) (len - 16)
        (getNtohll data 8) 16 0) >>= fun r => match r with
      | none => pure (hwErr pid oid)
      | some _ => finishWrite env pid oid (UInt64.ofNat content.length)) s := by
  have hnid : ¬ (!isUserobjectId pid oid) = true := by simp [hid]
  rw [← vecWriteLoop_eq]
  refine (congrFun (if_neg hnid) s).trans ((bind_of_some (m := get) rfl).trans ?_)
  simp only [henv.lookup, hfile, henv.calls, Bool.false_eq_true, if_false]

/-! ## Reading -/

/-- What the file has of a call. -/
def Transfer.bytes (content : List UInt8) (c : Transfer) : List UInt8 :=
  (content.drop c.file.toNat).take c.len.toNat

theorem Transfer.Whole.length {c : Transfer} (h : c.Whole content.length) : (c.bytes content).length =
    c.len.toNat := by
  unfold Transfer.bytes
  rw [List.length_take, List.length_drop]
  obtain ⟨-, hin⟩ := h
  omega

section Loop

variable {fuel : Nat} {bytes length dataOffset offsetVal readlen : UInt64}

/-- A round whose piece is read whole. -/
theorem vecReadLoop_next (henv : env.NoIoErrors) (hfile : s.files pid oid = some content) (h0 : bytes ≠ 0)
    (hwhole : Transfer.Whole content.length ⟨dataOffset, length, offsetVal + offset⟩) :
    vecReadLoop env pid oid offset stride (fuel + 1) bytes length dataOffset offsetVal readlen s =
      vecReadLoop env pid oid offset stride fuel (bytes - length)
        (if bytes - length < length then bytes - length else length) (dataOffset + length)
          (offsetVal + stride)
        (readlen + length) { s with out := s.out ++ [(dataOffset.toNat,
          Transfer.bytes content ⟨dataOffset, length, offsetVal + offset⟩)] } := by
  have hsize := hwhole.length
  obtain ⟨⟨hpos, hlen⟩, -⟩ := hwhole
  have hread : preadFile env s pid oid (offsetVal + offset) length =
      some (Transfer.bytes content ⟨dataOffset, length, offsetVal + offset⟩) := by
    dsimp only at hpos hlen
    rw [preadFile_run henv hfile, if_neg (by omega), Nat.min_eq_left hlen]
    rfl
  rw [vecReadLoop, if_neg h0]
  refine (bind_of_some (m := get) rfl).trans ?_
  rw [hread]
  simp only [hsize, ne_eq, not_true_eq_false, if_false, UInt64.ofNat_toNat]
  rfl

/-- A piece that is not read whole ends the loop. -/
theorem vecReadLoop_stop (henv : env.NoIoErrors) (hfile : s.files pid oid = some content) (h0 : bytes ≠ 0)
    (hno : ¬ Transfer.Whole content.length ⟨dataOffset, length, offsetVal + offset⟩) :
    ∃ t, vecReadLoop env pid oid offset stride (fuel + 1) bytes length dataOffset offsetVal readlen s =
      some (none, t) := by
  rw [vecReadLoop, if_neg h0]
  by_cases hr : 2 ^ 63 ≤ (offsetVal + offset).toNat + length.toNat
  · refine ⟨s, (bind_of_some (m := get) rfl).trans ?_⟩
    rw [preadFile_run henv hfile, if_pos hr]
    rfl
  · have hshort : ((content.drop (offsetVal + offset).toNat).take (min length.toNat 0x7ffff000)).length ≠
        length.toNat := by
      intro hall
      rw [List.length_take, List.length_drop] at hall
      refine hno ⟨⟨by dsimp only; omega, by dsimp only; omega⟩, ?_⟩
      dsimp only
      omega
    refine ⟨{ s with out := s.out ++ [(dataOffset.toNat,
      (content.drop (offsetVal + offset).toNat).take (min length.toNat 0x7ffff000))] },
      (bind_of_some (m := get) rfl).trans ?_⟩
    rw [preadFile_run henv hfile, if_neg hr]
    simp only [if_pos hshort]
    rfl

/-- The loop fails at a piece that is not read whole, does not end, or counts all the bytes. -/
theorem vecReadLoop_run (henv : env.NoIoErrors) (hfile : s.files pid oid = some content) :
    ((∃ c ∈ (vecTransfers offset stride fuel bytes length dataOffset offsetVal).1,
      ¬ c.Whole content.length) →
      ∃ t, vecReadLoop env pid oid offset stride fuel bytes length dataOffset offsetVal readlen s =
        some (none, t)) ∧
    ((∀ c ∈ (vecTransfers offset stride fuel bytes length dataOffset offsetVal).1, c.Whole content.length) →
      (vecTransfers offset stride fuel bytes length dataOffset offsetVal).2 = false →
      vecReadLoop env pid oid offset stride fuel bytes length dataOffset offsetVal readlen s = none) ∧
    ((∀ c ∈ (vecTransfers offset stride fuel bytes length dataOffset offsetVal).1, c.Whole content.length) →
      (vecTransfers offset stride fuel bytes length dataOffset offsetVal).2 = true →
      ∃ t, vecReadLoop env pid oid offset stride fuel bytes length dataOffset offsetVal readlen s =
        some (some (readlen + bytes), t)) := by
  induction fuel generalizing bytes length dataOffset offsetVal readlen s with
  | zero => exact ⟨fun ⟨_, hc, _⟩ => (nomatch hc), fun _ _ => rfl, fun _ h => nomatch h⟩
  | succ fuel ih =>
    by_cases h0 : bytes = 0
    · rw [vecTransfers, if_pos h0]
      refine ⟨fun ⟨_, hc, _⟩ => (nomatch hc), fun _ h => (nomatch h), fun _ _ => ⟨s, ?_⟩⟩
      rw [vecReadLoop, if_pos h0, h0, UInt64.add_zero]
      rfl
    · rw [vecTransfers, if_neg h0]
      dsimp only
      by_cases hwhole : Transfer.Whole content.length ⟨dataOffset, length, offsetVal + offset⟩
      · have hfile' : Target.files { s with out := s.out ++ [(dataOffset.toNat,
            Transfer.bytes content ⟨dataOffset, length, offsetVal + offset⟩)] } pid oid =
              some content := hfile
        rw [vecReadLoop_next henv hfile h0 hwhole]
        refine ⟨fun ⟨c, hc, hno⟩ => ?_, fun hall => (ih hfile').2.1 (List.forall_mem_cons.1 hall).2,
          fun hall hend => ?_⟩
        · rcases List.mem_cons.1 hc with rfl | hc
          · exact absurd hwhole hno
          · exact (ih hfile').1 ⟨c, hc, hno⟩
        · obtain ⟨t, hrun⟩ := (ih hfile').2.2 (List.forall_mem_cons.1 hall).2 hend
          refine ⟨t, hrun.trans ?_⟩
          rw [UInt64.add_assoc, UInt64.add_comm length, UInt64.sub_add_cancel]
      · exact ⟨fun _ => vecReadLoop_stop henv hfile h0 hwhole,
          fun hall => absurd (hall _ List.mem_cons_self) hwhole, fun hall =>
            absurd (hall _ List.mem_cons_self) hwhole⟩

/-- Pieces that are part of the payload follow one another in the reply. -/
theorem vecReadLoop_emits (henv : env.NoIoErrors) (hfile : s.files pid oid = some content)
    (hall : ∀ c ∈ (vecTransfers offset stride fuel bytes length dataOffset offsetVal).1,
      c.Whole content.length)
    (hpart : bytes = 0 ∨ length ≠ 0 ∧ length ≤ bytes) (hfit : dataOffset.toNat + bytes.toNat < 2 ^ 64)
    (hfuel : bytes.toNat < fuel) :
    ((vecTransfers offset stride fuel bytes length dataOffset offsetVal).1.flatMap
      (Transfer.bytes content)).length =
      bytes.toNat ∧
    Ends (vecReadLoop env pid oid offset stride fuel bytes length dataOffset offsetVal readlen) s fun _ t =>
      Emits dataOffset.toNat ((vecTransfers offset stride fuel bytes length dataOffset offsetVal).1.flatMap
        (Transfer.bytes content)) s t := by
  induction fuel generalizing bytes length dataOffset offsetVal readlen s with
  | zero => omega
  | succ fuel ih =>
    by_cases h0 : bytes = 0
    · subst h0
      refine ⟨rfl, fun r t hrun => ?_⟩
      obtain ⟨-, rfl⟩ := Prod.mk.inj (Option.some.inj
          ((show vecReadLoop env pid oid offset stride (fuel + 1) 0 length
        dataOffset offsetVal readlen s = some (some readlen, s) from rfl).symm.trans hrun))
      exact .refl _ _
    · obtain ⟨hlen, hle⟩ := hpart.resolve_left h0
      have hpos := pos_of_ne_zero hlen
      have hleNat := UInt64.le_iff_toNat_le.1 hle
      have hleft : (bytes - length).toNat = bytes.toNat - length.toNat := UInt64.toNat_sub_of_le _ _ hle
      have hnext : (dataOffset + length).toNat = dataOffset.toNat + length.toNat := by
        rw [UInt64.toNat_add]
        exact Nat.mod_eq_of_lt (by omega)
      unfold vecTransfers at hall ⊢
      rw [if_neg h0] at hall ⊢
      obtain ⟨hwhole, hall⟩ := List.forall_mem_cons.1 hall
      have hsize := hwhole.length
      have hfile' : Target.files { s with out := s.out ++ [(dataOffset.toNat,
          Transfer.bytes content ⟨dataOffset, length, offsetVal + offset⟩)] } pid oid =
            some content := hfile
      obtain ⟨hlength, hemits⟩ := ih hfile' hall (nextPiece_fits hlen) (by omega) (by omega)
      dsimp only
      rw [List.flatMap_cons]
      refine ⟨?_, fun r t hrun => ?_⟩
      · rw [List.length_append, hsize, hlength, hleft]
        dsimp only
        omega
      · rw [vecReadLoop_next henv hfile h0 hwhole] at hrun
        refine (Emits.write _ _ s).append ?_
        have hbehind := hemits _ _ hrun
        rw [hnext] at hbehind
        rw [hsize]
        exact hbehind

end Loop

/-- What is promised of `vec_read`: it comes to an end, and when it returns data, its calls were one
for each piece of `len` bytes, and the data are these pieces. -/
structure ReadsPayload (env : Env) (pid oid len offset : UInt64) (data : Mem)
    (content : List UInt8) (s : Target) :
    Prop where
  ends : (vecRead env pid oid len offset data s).isSome
  returned : ∀ ret used t, vecRead env pid oid len offset data s = some ((ret, some used), t) →
    ret = .ok ∧ used = len ∧
    (vecCalls 0 offset (getNtohll data 0) len (getNtohll data 8)).1.map Transfer.nats =
      pieces 0 offset.toNat (getNtohll data 0).toNat (getNtohll data 8).toNat len.toNat ∧
    t.reply.read 0 len.toNat =
      (pieces 0 offset.toNat (getNtohll data 0).toNat (getNtohll data 8).toNat len.toNat).flatMap fun p =>
        (content.drop p.2.2).take p.2.1

/-- What `vec_read` makes of the outcome of its loop. -/
def vecReadAnswer (pid oid len : UInt64) (r : Option UInt64 × Target) : (Ret × Option UInt64) × Target :=
  match r with
  | (none, t) => ((hwErr pid oid, none), t)
  | (some readlen, t) => ((if readlen < len then readPastEnd pid oid readlen else .ok, some readlen),
      { t with ccap := fillCcap .userobject pid oid 0 })

theorem vecRead_run (henv : env.NoIoErrors) (hid : isUserobjectId pid oid = true)
    (hfile : s.files pid oid = some content) (len offset : UInt64) (data : Mem) :
    vecRead env pid oid len offset data s =
      (vecReadLoop env pid oid offset (getNtohll data 0) (2 ^ 64 + 1) len (getNtohll data 8) 0 0 0 s).map
        (vecReadAnswer pid oid len) := by
  refine (opened_run hid ((henv.lookup s pid oid).trans hfile) (henv.calls _) _ _ _).trans ?_
  show (vecReadLoop env pid oid offset (getNtohll data 0) (2 ^ 64 + 1) len (getNtohll data 8) 0
    0 0 s).bind _ = _
  rcases vecReadLoop env pid oid offset (getNtohll data 0) (2 ^ 64 + 1) len (getNtohll data 8) 0 0 0 s with
    _ | ⟨_ | readlen, t⟩
  · rfl
  · rfl
  · dsimp only [Option.bind_some, Option.map_some, vecReadAnswer]
    rw [henv.calls, if_neg Bool.false_ne_true]
    split <;> rfl

/-- **`vec_read` returns what is promised exactly when there is nothing to read, a piece is not read
whole, or the pieces fit.** -/
theorem readsPayload_iff (henv : env.NoIoErrors) (hid : isUserobjectId pid oid = true)
    (hfile : s.files pid oid = some content) (len : UInt64) (data : Mem) :
    ReadsPayload env pid oid len offset data content s ↔
      len = 0 ∨ Refuses (Transfer.Whole content.length) 0 offset (getNtohll data 0) len (getNtohll data 8) ∨
        PiecesFit offset.toNat (getNtohll data 0).toNat (getNtohll data 8).toNat len.toNat := by
  by_cases hbad : ∃ c ∈ (vecCalls 0 offset (getNtohll data 0) len (getNtohll data 8)).1,
    ¬ c.Whole content.length
  · -- a piece that is not there
    obtain ⟨t, hloop⟩ := (vecReadLoop_run henv hfile).1 hbad
    have hanswer := vecRead_run henv hid hfile len offset data
    rw [hloop] at hanswer
    refine iff_of_true ⟨by rw [hanswer]; rfl, fun ret used u hu => ?_⟩ ?_
    · rw [hanswer] at hu
      cases hu
    · by_cases h0 : len = 0
      · exact .inl h0
      · exact .inr (.inl ((exists_call h0).1 hbad))
  have hall : ∀ c ∈ (vecCalls 0 offset (getNtohll data 0) len (getNtohll data 8)).1,
      c.Whole content.length := by
    intro c hc
    by_contra hno
    exact hbad ⟨c, hc, hno⟩
  by_cases hends : (vecCalls 0 offset (getNtohll data 0) len (getNtohll data 8)).2 = true
  · obtain ⟨t, hloop⟩ := (vecReadLoop_run henv hfile).2.2 hall hends
    have hanswer := vecRead_run henv hid hfile len offset data
    rw [hloop, Option.map_some, vecReadAnswer, UInt64.zero_add, if_neg (UInt64.lt_irrefl len)] at hanswer
    by_cases h0 : len = 0
    · subst h0
      refine iff_of_true ⟨by rw [hanswer]; rfl, fun ret used u hu => ?_⟩ (.inl rfl)
      obtain ⟨hret, -⟩ := Prod.mk.inj (Option.some.inj (hanswer.symm.trans hu))
      cases hret
      exact ⟨rfl, rfl, (pieces_nil _ _ _ _).symm, by rw [UInt64.toNat_zero, pieces_nil]; rfl⟩
    have hlength := (vecCalls_ended.1 hends).resolve_left h0
    have hlt := len.toNat_lt
    have hfit : (0 : UInt64).toNat + len.toNat < 2 ^ 64 := by
      rw [UInt64.toNat_zero, Nat.zero_add]
      exact hlt
    have hpieces : (vecCalls 0 offset (getNtohll data 0) len (getNtohll data 8)).1.map Transfer.nats =
        pieces 0 offset.toNat (getNtohll data 0).toNat (getNtohll data 8).toNat len.toNat ↔
          PiecesFit offset.toNat (getNtohll data 0).toNat (getNtohll data 8).toNat len.toNat :=
      nats_pieces_iff h0 hlength (.inl rfl) hfit
    constructor
    · intro h
      exact .inr (.inr (hpieces.1 (h.returned _ _ _ hanswer).2.2.1))
    · intro h
      rw [or_iff_right h0, or_iff_right (fun h => hbad ((exists_call h0).2 h))] at h
      have hnats := hpieces.2 h
      obtain ⟨hsize, hemits⟩ := vecReadLoop_emits henv hfile hall
        (.inr ⟨hlength, UInt64.le_iff_toNat_le.2 h.2.1⟩) hfit (by omega)
      have hcontent := (hemits _ _ hloop).content
      rw [hsize] at hcontent
      refine ⟨by rw [hanswer]; rfl, fun ret used u hu => ?_⟩
      obtain ⟨hret, rfl⟩ := Prod.mk.inj (Option.some.inj (hanswer.symm.trans hu))
      cases hret
      refine ⟨rfl, rfl, hnats, hcontent.trans ?_⟩
      rw [← hnats, List.flatMap_map]
      rfl
  · -- pieces of no bytes
    have hanswer := vecRead_run henv hid hfile len offset data
    rw [(vecReadLoop_run henv hfile).2.1 hall (Bool.eq_false_iff.2 hends)] at hanswer
    rw [vecCalls_ended, not_or, not_not] at hends
    refine iff_of_false (fun h => ?_) fun h => ?_
    · exact absurd h.ends (by rw [hanswer]; exact Bool.false_ne_true)
    · rcases h with h | h | h
      · exact hends.1 h
      · exact hbad ((exists_call hends.1).2 h)
      · exact absurd h.1 (by rw [hends.2]; exact Nat.lt_irrefl 0)

/-! ## The three commands -/

/-- A stride, a piece length and four bytes. -/
def vectorOf (stride length : UInt64) : Mem := blobMem (htonll stride ++ htonll length ++ [9, 8, 7, 6])

/-- Pieces of no bytes with no stride are all at the same place. -/
theorem calls_still {base bytes : UInt64} (h0 : bytes ≠ 0) :
    ∀ c ∈ (vecCalls header base 0 bytes 0).1, c.file = base ∧ c.len = 0 := by
  intro c hc
  by_contra hno
  have hrefuses : Refuses (fun c => c.file = base ∧ c.len = 0) header base 0 bytes 0 :=
      (exists_call h0).1 ⟨c, hc, hno⟩
  obtain ⟨k, -, hk⟩ := hrefuses
  refine hk ⟨?_, ?_⟩
  · show base + UInt64.ofNat k * 0 = base
    rw [UInt64.mul_zero, UInt64.add_zero]
  · show UInt64.ofNat (min 0 _) = 0
    rw [Nat.zero_min]
    rfl

theorem storePlan_still (henv : env.NoIoErrors) (hfile : s.files pid oid = some content)
    {base bytes : UInt64}
    (h0 : bytes ≠ 0) (hbase : base.toNat < 2 ^ 63) (data : Mem) :
    storePlan env pid oid (vecChunks base 0 data (2 ^ 64 + 1) bytes 0 16 0) s = none := by
  rw [vecChunks_calls]
  refine (storePlan_run ((henv.lookup s pid oid).trans hfile) _).2.1 (fun c hc => ?_) ?_
  · obtain ⟨call, hcall, rfl⟩ := List.mem_map.1 hc
    obtain ⟨hcallFile, hcallLen⟩ := calls_still h0 call hcall
    rw [takes_iff henv]
    unfold Transfer.Fits
    rw [hcallFile, hcallLen]
    exact ⟨hbase, Nat.zero_le _⟩
  · rw [Bool.eq_false_iff, ne_eq, vecCalls_ended]
    exact fun h => h.elim h0 fun h => h rfl

section Still

variable {len : UInt64} {data : Mem}

theorem vecWrite_stays (henv : env.NoIoErrors) (hid : isUserobjectId pid oid = true)
    (hfile : s.files pid oid = some content) (hstride : getNtohll data 0 = 0)
    (hlength : getNtohll data 8 = 0)
    (hlen : len ≠ 16) (hoff : offset.toNat < 2 ^ 63) : vecWrite env pid oid len offset data s = none := by
  have h0 : len - 16 ≠ 0 := fun h => hlen (len_sub_eq_zero.1 h)
  rw [vecWrite_run hid henv hfile, hstride, hlength]
  exact bind_of_none (storePlan_still henv hfile h0 hoff data)

theorem vecAppend_stays (henv : env.NoIoErrors) (hid : isUserobjectId pid oid = true)
    (hfile : s.files pid oid = some content) (hstride : getNtohll data 0 = 0)
    (hlength : getNtohll data 8 = 0)
    (hlen : len ≠ 16) (hsize : content.length < 2 ^ 63) :
    vecAppend env pid oid len (some data) s = none := by
  have h0 : len - 16 ≠ 0 := fun h => hlen (len_sub_eq_zero.1 h)
  rw [vecAppend_run hid henv hfile, hstride, hlength]
  refine bind_of_none (storePlan_still henv hfile h0 ?_ data)
  rwa [UInt64.toNat_ofNat_of_lt' (show content.length < 2 ^ 64 by omega)]

theorem vecRead_stays (henv : env.NoIoErrors) (hid : isUserobjectId pid oid = true)
    (hfile : s.files pid oid = some content) (hstride : getNtohll data 0 = 0)
    (hlength : getNtohll data 8 = 0)
    (hlen : len ≠ 0) (hoff : offset.toNat < 2 ^ 63) : vecRead env pid oid len offset data s = none := by
  have hended : (vecCalls 0 offset 0 len 0).2 = false := by
    rw [Bool.eq_false_iff, ne_eq, vecCalls_ended]
    exact fun h => h.elim hlen fun h => h rfl
  have hall : ∀ c ∈ (vecCalls 0 offset 0 len 0).1, c.Whole content.length := by
    intro c hc
    obtain ⟨hcallFile, hcallLen⟩ := calls_still hlen c hc
    unfold Transfer.Whole Transfer.Fits
    rw [hcallFile, hcallLen]
    exact ⟨⟨hoff, Nat.zero_le _⟩, .inl rfl⟩
  rw [vecRead_run henv hid hfile, hstride, hlength, (vecReadLoop_run henv hfile).2.1 hall hended]
  rfl

end Still

end OsdTarget
