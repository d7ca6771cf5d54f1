import OsdTarget.LastWriter

/-!
# Data distribution types

What `osd_write` makes of a layout: the chunks its writer hands to `pwrite` and whether the writer comes
to an end, against the writes the layout stands for.  The two agree for one range, for a list whose
positions do not wrap around, and for a vector whose pieces are not longer than the payload.
-/

namespace OsdTarget

open Base

/-! ## Vectors -/

/-- The chunks of `vec_write` within `fuel` rounds, and whether the loop ends within them. -/
def vecChunks (offset stride : UInt64) (dinbuf : Mem) :
    Nat → UInt64 → UInt64 → UInt64 → UInt64 → List Chunk × Bool
  | 0, _, _, _, _ => ([], false)
  | fuel + 1, bytes, length, dataOffset, offsetVal =>
    if bytes = 0 then ([], true)
    else
      let left := bytes - length
      let rest := vecChunks offset stride dinbuf fuel left (if left < length then left else length)
        (dataOffset + length) (offsetVal + stride)
      (⟨offsetVal + offset, length, dinbuf.shift dataOffset.toNat⟩ :: rest.1, rest.2)

/-- The payload behind the header, cut into pieces of `length` bytes, one every `stride` bytes. -/
def vecWrites (offset stride length : Nat) (dinbuf : Mem) (bytes : Nat) : List (Write UInt8) :=
  (List.range ((bytes + length - 1) / length)).map fun k =>
    ⟨offset + k * stride, dinbuf.read (16 + k * length) (min length (bytes - k * length))⟩

/-! ## Layouts -/

/-- What `osd_write` is given beside the ids. -/
structure Layout where
  ddt : UInt8
  len : UInt64
  offset : UInt64
  data : Mem
  sglist : SgList

namespace Layout

variable (l : Layout)

/-- `stride` and `length` of a vector. -/
def stride : UInt64 := getNtohll l.data 0
def pieceLen : UInt64 := getNtohll l.data 8

/-- `osd_write` has a writer for it. -/
def Known : Prop := l.ddt = DDT_CONTIG ∨ l.ddt = DDT_SGL ∨ l.ddt = DDT_VEC

instance : Decidable l.Known := inferInstanceAs (Decidable (_ ∨ _ ∨ _))

/-- The chunks of the writer, and whether it comes to an end. -/
def plan : List Chunk × Bool :=
  if l.ddt = DDT_CONTIG then ([⟨l.offset, l.len, l.data⟩], true)
  else if l.ddt = DDT_SGL then (l.sglist.chunks l.offset l.data l.sglist.rounds 0 0, !l.sglist.endless)
  else vecChunks l.offset l.stride l.data (2 ^ 64 + 1) (l.len - 16) l.pieceLen 16 0

/-- The writes the layout stands for. -/
def writes : List (Write UInt8) :=
  if l.ddt = DDT_CONTIG then [⟨l.offset.toNat, l.data.read 0 l.len.toNat⟩]
  else if l.ddt = DDT_SGL then l.sglist.writes l.offset.toNat l.data l.sglist.numEntries.toNat 0 0
  else vecWrites l.offset.toNat l.stride.toNat l.pieceLen.toNat l.data (l.len.toNat - 16)

end Layout

/-! ## The writers -/

variable (env : Env)

/-- Chunks, then the end of the loop, or none. -/
def storePlan (pid oid : UInt64) (p : List Chunk × Bool) : OsdM (Option Unit) := do
  match ← storeChunks env pid oid p.1 with
  | none => return none
  | some _ => if p.2 then return some () else never

variable {env} {pid oid : UInt64} {s : Target} {content : List UInt8}

theorem storePlan_ended {p : List Chunk × Bool} (h : p.2 = true) :
    storePlan env pid oid p = storeChunks env pid oid p.1 := by
  unfold storePlan
  rw [h]
  conv_rhs => rw [← bind_pure (storeChunks env pid oid p.1)]
  refine bind_congr fun r => ?_
  cases r <;> rfl

theorem vecWriteLoop_eq (offset stride : UInt64) (dinbuf : Mem) (fuel : Nat)
    (bytes length dataOffset offsetVal : UInt64) :
    vecWriteLoop env pid oid offset stride dinbuf fuel bytes length dataOffset offsetVal
      = storePlan env pid oid (vecChunks offset stride dinbuf fuel bytes length dataOffset offsetVal) := by
  induction fuel generalizing bytes length dataOffset offsetVal with
  | zero => rfl
  | succ fuel ih =>
    unfold vecWriteLoop vecChunks
    by_cases h0 : bytes = 0
    · rw [if_pos h0, if_pos h0]
      rfl
    · rw [if_neg h0, if_neg h0]
      dsimp only
      unfold storePlan storeChunks
      simp only [bind_assoc]
      refine bind_congr fun ret => ?_
      by_cases hret : ret ≠ some length.toNat
      · rw [if_pos hret, if_pos hret]
        rfl
      · rw [if_neg hret, if_neg hret, ih]
        rfl

/-- The writer of a plan. -/
def writePlan (env : Env) (pid oid : UInt64) (p : List Chunk × Bool) : OsdM Ret :=
  onDatafile env pid oid do
    match ← storePlan env pid oid p with
    | none => return hwErr pid oid
    | some _ => finishWrite env pid oid 0

theorem osdWrite_eq (l : Layout) : osdWrite env pid oid l.len l.offset l.data l.sglist l.ddt =
    if l.Known then writePlan env pid oid l.plan else pure (cdbErr pid oid) := by
  unfold osdWrite Layout.plan
  by_cases hc : l.ddt = DDT_CONTIG
  · rw [if_pos hc, if_pos (.inl hc), if_pos hc, contigWrite_eq]
    unfold writeOut storeAll writePlan
    have hstore : storePlan env pid oid ([⟨l.offset, l.len, l.data⟩], true) =
        storeChunks env pid oid [⟨l.offset, l.len, l.data⟩] := storePlan_ended rfl
    exact hstore ▸ rfl
  · rw [if_neg hc, if_neg hc]
    by_cases hs : l.ddt = DDT_SGL
    · rw [if_pos hs, if_pos (.inr (.inl hs)), if_pos hs]
      unfold sglWrite writePlan onDatafile storePlan
      rw [sglWriteLoop_eq]
      refine if_congr Iff.rfl rfl (bind_congr fun opened => if_congr Iff.rfl rfl ?_)
      simp only [bind_assoc]
      refine bind_congr fun ret => ?_
      cases ret with
      | none => rfl
      | some _ =>
        cases l.sglist.endless <;> rfl
    · rw [if_neg hs, if_neg hs]
      by_cases hv : l.ddt = DDT_VEC
      · rw [if_pos hv, if_pos (.inr (.inr hv))]
        unfold vecWrite writePlan onDatafile
        simp only [vecWriteLoop_eq]
        rfl
      · rw [if_neg hv, if_neg]
        rintro (h | h | h)
        · exact hc h
        · exact hs h
        · exact hv h

section

variable {p : List Chunk × Bool} (hid : isUserobjectId pid oid = true)
      (h : s.lookup env pid oid = some content)
  (hopen : env.sysFails (.openFile pid oid) = false)

include hid h hopen

/-- On a file that opens: the whole plan, or a failure that changes only the file, or no end. -/
theorem writePlan_opened :
    ((∀ c ∈ p.1, env.Takes pid oid c) → p.2 = false → writePlan env pid oid p s = none) ∧
    (env.WritesOut pid oid p.1 → p.2 = true → writePlan env pid oid p s
      = some (.ok, s.written pid oid (stores 0 content (p.1.map Chunk.write)) 0)) ∧
    (¬ env.WritesOut pid oid p.1 → ((∀ c ∈ p.1, env.Takes pid oid c) → p.2 = true) → ∃ content',
      writePlan env pid oid p s = some (hwErr pid oid, s.setFile pid oid (some content'))) := by
  have hrun : writePlan env pid oid p s = (storePlan env pid oid p >>= fun r => match r with
      | none => return hwErr pid oid
      | some _ => finishWrite env pid oid 0 : OsdM Ret) s := onDatafile_opened hid h hopen _
  have hall : p.2 = true → writePlan env pid oid p s = storeAll env pid oid p.1 0 s := by
    intro hended
    rw [hrun, storePlan_ended hended]
    rfl
  obtain ⟨ret, content', hchunks, htakes, -⟩ := storeChunks_run p.1 h
  refine ⟨fun ht hendless => ?_, fun hw hended => ?_, fun hw hends => ?_⟩
  · obtain rfl := htakes.2 ht
    have hplan : storePlan env pid oid p s = none := by
      refine (bind_of_some hchunks).trans ?_
      dsimp only
      rw [hendless]
      rfl
    rw [hrun]
    show (storePlan env pid oid p s).bind _ = none
    rw [hplan]
    rfl
  · rw [hall hended]
    exact storeAll_ok h hw 0
  · by_cases ht : ∀ c ∈ p.1, env.Takes pid oid c
    · rw [hall (hends ht)]
      exact storeAll_hwErr h hw 0
    · cases ret with
      | some _ => exact absurd (htakes.1 rfl) ht
      | none =>
        have hplan : storePlan env pid oid p s = some (none, s.setFile pid oid (some content')) :=
          bind_of_some hchunks
        exact ⟨content', by rw [hrun, bind_of_some hplan]; rfl⟩

end

/-! ## Pieces of a payload -/

theorem pos_of_ne_zero {x : UInt64} (h : x ≠ 0) : 0 < x.toNat :=
  Nat.pos_of_ne_zero fun hz => h (UInt64.toNat_inj.1 hz)

/-- Some bytes are one piece and the pieces of what is behind it. -/
theorem pieces_succ {L n : Nat} (hL : 0 < L) (hn : 0 < n) :
    (n + L - 1) / L = (n - L + L - 1) / L + 1 := by
  by_cases hlast : n ≤ L
  · rw [Nat.sub_eq_zero_of_le hlast, Nat.div_eq_of_lt (by omega : 0 + L - 1 < L)]
    exact Nat.div_eq_of_lt_le (by omega) (by omega)
  · rw [show n + L - 1 = n - L + L - 1 + L by omega, Nat.add_div_right _ hL]

/-- The next piece is as long as the last one, or what is left. -/
theorem nextPiece_toNat (left length : UInt64) :
    (if left < length then left else length).toNat = min length.toNat left.toNat := by
  by_cases hlt : left < length
  · have hltNat := UInt64.lt_iff_toNat_lt.1 hlt
    rw [if_pos hlt, Nat.min_eq_right (by omega)]
  · have hleNat := UInt64.le_iff_toNat_le.1 (UInt64.not_lt.1 hlt)
    rw [if_neg hlt, Nat.min_eq_left hleNat]

/-- The next piece is some of the bytes left. -/
theorem nextPiece_fits {left length : UInt64} (hlen : length ≠ 0) :
    left = 0 ∨ (if left < length then left else length) ≠ 0 ∧
      (if left < length then left else length) ≤ left := by
  by_cases hz : left = 0
  · exact .inl hz
  · refine .inr ?_
    split
    · exact ⟨hz, UInt64.le_refl _⟩
    · next hge => exact ⟨hlen, UInt64.not_lt.1 hge⟩

/-! ## Loops that end -/

/-- Once a piece is not longer than what is left, each round leaves less. -/
theorem vecChunks_ends {offset stride : UInt64} {dinbuf : Mem} {fuel : Nat}
    {bytes length dataOffset offsetVal : UInt64} (h : bytes = 0 ∨ length ≠ 0 ∧ length ≤ bytes)
    (hfuel : bytes.toNat < fuel) :
    (vecChunks offset stride dinbuf fuel bytes length dataOffset offsetVal).2 = true := by
  induction fuel generalizing bytes length dataOffset offsetVal with
  | zero => omega
  | succ fuel ih =>
    unfold vecChunks
    by_cases h0 : bytes = 0
    · rw [if_pos h0]
    · rw [if_neg h0]
      obtain ⟨hlen, hle⟩ := h.resolve_left h0
      have hleft : (bytes - length).toNat = bytes.toNat - length.toNat := UInt64.toNat_sub_of_le _ _ hle
      have hpos := pos_of_ne_zero hlen
      have hle := UInt64.le_iff_toNat_le.1 hle
      exact ih (nextPiece_fits hlen) (by omega)

/-- Pieces of no bytes never end. -/
theorem vecChunks_endless {offset stride : UInt64} {dinbuf : Mem} {fuel : Nat}
    {bytes dataOffset offsetVal : UInt64} (h : bytes ≠ 0) :
    (vecChunks offset stride dinbuf fuel bytes 0 dataOffset offsetVal).2 = false := by
  induction fuel generalizing dataOffset offsetVal with
  | zero => rfl
  | succ fuel ih =>
    unfold vecChunks
    rw [if_neg h]
    dsimp only
    rw [UInt64.sub_zero, if_neg (UInt64.not_lt.2 (UInt64.zero_le))]
    exact ih

theorem vecChunks_ended (offset stride : UInt64) (dinbuf : Mem)
    (bytes length dataOffset offsetVal : UInt64) :
    (vecChunks offset stride dinbuf (2 ^ 64 + 1) bytes length dataOffset offsetVal).2 = true ↔
      bytes = 0 ∨ length ≠ 0 := by
  by_cases h0 : bytes = 0
  · refine iff_of_true (vecChunks_ends (.inl h0) ?_) (.inl h0)
    rw [h0]
    exact Nat.zero_lt_succ _
  · by_cases hlen : length = 0
    · refine iff_of_false ?_ fun h => h.elim h0 fun h => h hlen
      rw [hlen, vecChunks_endless h0]
      exact Bool.false_ne_true
    · refine iff_of_true ?_ (.inr hlen)
      -- the first round may wrap around, the others do not
      rw [vecChunks, if_neg h0]
      have hlt := (bytes - length).toNat_lt
      exact vecChunks_ends (nextPiece_fits hlen) (by omega)

namespace Layout

/-- Fewer entries than the counter can count, and pieces that are not empty. -/
def Finite (l : Layout) : Prop :=
  (l.ddt = DDT_SGL → l.sglist.numEntries.toNat < 2 ^ 32) ∧ (l.ddt = DDT_VEC → l.len = 16 ∨ l.pieceLen ≠ 0)

theorem plan_ended {l : Layout} (hl : l.Known) : l.plan.2 = true ↔ l.Finite := by
  unfold plan Finite
  rcases hl with hc | hs | hv
  · rw [if_pos hc, hc]
    exact iff_of_true rfl ⟨nofun, nofun⟩
  · have hnc : ¬ l.ddt = DDT_CONTIG := by rw [hs]; decide
    rw [if_neg hnc, if_pos hs, hs]
    unfold SgList.endless
    simp only [Bool.not_eq_true', decide_eq_false_iff_not, Nat.not_le, forall_const]
    exact ⟨fun h => ⟨h, nofun⟩, And.left⟩
  · have hnc : ¬ l.ddt = DDT_CONTIG := by rw [hv]; decide
    have hns : ¬ l.ddt = DDT_SGL := by rw [hv]; decide
    rw [if_neg hnc, if_neg hns, hv, vecChunks_ended]
    have hzero : l.len - 16 = 0 ↔ l.len = 16 := by
      refine ⟨fun h => ?_, fun h => by rw [h]; rfl⟩
      rw [← UInt64.sub_add_cancel l.len 16, h]
      rfl
    rw [hzero]
    exact ⟨fun h => ⟨nofun, fun _ => h⟩, fun h => h.2 rfl⟩

end Layout

/-! ## Layouts that are stored as meant -/

/-- Where no position wraps around, the chunks of a list store its writes. -/
theorem SgList.chunks_same (l : SgList) (offset : UInt64) (dinbuf : Mem) {n i pos : Nat}
    {dataOffset : UInt64}
    (hpos : dataOffset.toNat = pos) (hle : pos ≤ i * 2 ^ 31) (hn : i + n ≤ 2 ^ 32)
    (hshort : ∀ c ∈ l.chunks offset dinbuf n i dataOffset, c.len.toNat ≤ 0x7ffff000)
    (hin : ∀ j, i ≤ j → j < i + n → l.bytesToTransfer j ≠ 0 →
      (l.offset j).toNat + offset.toNat < 2 ^ 64) :
    List.Forall₂ Write.Same ((l.chunks offset dinbuf n i dataOffset).map Chunk.write)
      (l.writes offset.toNat dinbuf n i pos) := by
  induction n generalizing i pos dataOffset with
  | zero => exact .nil
  | succ n ih =>
    obtain ⟨hlen, hrest⟩ := List.forall_mem_cons.1 hshort
    have hlen : (l.bytesToTransfer i).toNat ≤ 0x7ffff000 := hlen
    have hnext : (dataOffset + l.bytesToTransfer i).toNat = pos + (l.bytesToTransfer i).toNat := by
      rw [UInt64.toNat_add, hpos, Nat.mod_eq_of_lt (by omega)]
    refine .cons ?_ (ih hnext (by omega) (by omega) hrest fun j hj hlt => hin j (by omega) (by omega))
    by_cases hz : l.bytesToTransfer i = 0
    · refine .inr ⟨?_, ?_⟩
      · show (dinbuf.shift dataOffset.toNat).read 0 (l.bytesToTransfer i).toNat = []
        rw [hz]
        rfl
      · show dinbuf.read pos (l.bytesToTransfer i).toNat = []
        rw [hz]
        rfl
    · have hoff : (l.offset i + offset).toNat = (l.offset i).toNat + offset.toNat := by
        rw [UInt64.toNat_add, Nat.mod_eq_of_lt (hin i (Nat.le_refl i) (by omega) hz)]
      refine .inl ?_
      unfold Chunk.write
      rw [hoff, Mem.read_shift, hpos, Nat.add_zero]

theorem SgList.mem_writes (l : SgList) (offset : Nat) (dinbuf : Mem) {n i pos j : Nat} (h : i ≤ j)
    (hlt : j < i + n) :
    ∃ w ∈ l.writes offset dinbuf n i pos, w.offset = (l.offset j).toNat + offset ∧
      w.data.length = (l.bytesToTransfer j).toNat := by
  induction n generalizing i pos with
  | zero => omega
  | succ n ih =>
    by_cases heq : j = i
    · subst heq
      exact ⟨_, List.mem_cons_self, rfl, Mem.read_length _ _ _⟩
    · obtain ⟨w, hw, hspec⟩ : ∃ w ∈ l.writes offset dinbuf n (i + 1) (pos + (l.bytesToTransfer i).toNat),
          w.offset = (l.offset j).toNat + offset ∧ w.data.length = (l.bytesToTransfer j).toNat :=
        ih (by omega) (by omega)
      exact ⟨w, List.mem_cons_of_mem _ hw, hspec⟩

/-- The pieces of a vector from piece `k` on are the rest of its chunks. -/
theorem vecChunks_writes {offset stride : UInt64} {dinbuf : Mem} {payload L : Nat} (hL : 0 < L)
    (hsize : payload + 16 < 2 ^ 64)
    (hin : ∀ k, k * L < payload → offset.toNat + k * stride.toNat < 2 ^ 64) {fuel k : Nat}
    {bytes length dataOffset offsetVal : UInt64} (hbytes : bytes.toNat = payload - k * L)
    (hlength : length.toNat = min L (payload - k * L)) (hdata : bytes ≠ 0 → dataOffset.toNat = 16 + k * L)
    (hoff : bytes ≠ 0 → offsetVal = UInt64.ofNat (k * stride.toNat)) (hfuel : bytes.toNat < fuel) :
    (vecChunks offset stride dinbuf fuel bytes length dataOffset offsetVal).1.map Chunk.write
      = (List.range' k ((payload - k * L + L - 1) / L)).map fun k =>
        ⟨offset.toNat + k * stride.toNat, dinbuf.read (16 + k * L) (min L (payload - k * L))⟩ := by
  induction fuel generalizing k bytes length dataOffset offsetVal with
  | zero => omega
  | succ fuel ih =>
    unfold vecChunks
    by_cases h0 : bytes = 0
    · have hdone : payload - k * L = 0 := by
        rw [← hbytes, h0]
        rfl
      rw [if_pos h0, hdone, Nat.div_eq_of_lt (by omega)]
      rfl
    · have hpos : 0 < payload - k * L := hbytes ▸ pos_of_ne_zero h0
      have hstep : (k + 1) * L = k * L + L := Nat.succ_mul k L
      have hcount : (payload - k * L + L - 1) / L = (payload - (k + 1) * L + L - 1) / L + 1 := by
        rw [hstep, ← Nat.sub_sub]
        exact pieces_succ hL hpos
      have hin := hin k (by omega)
      have hhead : (offsetVal + offset).toNat = offset.toNat + k * stride.toNat := by
        rw [hoff h0, UInt64.toNat_add, UInt64.toNat_ofNat_of_lt' (show k * stride.toNat < 2 ^ 64 by omega),
          Nat.mod_eq_of_lt (by omega)]
        omega
      have hleft : (bytes - length).toNat = payload - (k + 1) * L := by
        rw [UInt64.toNat_sub_of_le _ _ (UInt64.le_iff_toNat_le.2 (by omega))]
        omega
      have hnext : (if bytes - length < length then bytes - length else length).toNat
          = min L (payload - (k + 1) * L) := by
        rw [nextPiece_toNat, hleft]
        omega
      rw [if_neg h0, hcount, List.range'_succ]
      refine List.cons_eq_cons.2 ⟨?_, ih hleft hnext (fun hne => ?_) (fun hne => ?_) (by omega)⟩
      · unfold Chunk.write
        rw [hhead, Mem.read_shift, hdata h0, Nat.add_zero, hlength]
      · have hmore : (bytes - length).toNat ≠ 0 := fun h => hne (UInt64.toNat_inj.1 h)
        rw [UInt64.toNat_add, hdata h0, Nat.mod_eq_of_lt (by omega)]
        omega
      · rw [hoff h0, Nat.succ_mul, UInt64.ofNat_add, UInt64.ofNat_toNat]

/-- Contents that differ in size. -/
theorem stores_ne_of_extent {ws vs : List (Write UInt8)} (h : extent 0 ws ≠ extent 0 vs) :
    stores 0 [] ws ≠ stores 0 [] vs := by
  intro heq
  have hlen := congrArg List.length heq
  rw [length_stores, length_stores] at hlen
  exact h hlen

namespace Layout

/-- The positions of a layout do not wrap around, and the pieces of a vector are part of a payload behind
a whole header. -/
def Sound (l : Layout) : Prop :=
  (l.ddt = DDT_SGL → ∀ i < l.sglist.numEntries.toNat, l.sglist.bytesToTransfer i ≠ 0 →
    (l.sglist.offset i).toNat + l.offset.toNat < 2 ^ 64) ∧
  (l.ddt = DDT_VEC → l.len ≠ 16 → 16 < l.len.toNat ∧ l.pieceLen.toNat ≤ l.len.toNat - 16 ∧
    ∀ k, k * l.pieceLen.toNat < l.len.toNat - 16 → l.offset.toNat + k * l.stride.toNat < 2 ^ 64)

variable {l : Layout}

/-- What is written past the end of all files is not what storage took. -/
theorem stores_ne_of_past (ht : ∀ c ∈ l.plan.1, env.Takes pid oid c) {v : Write UInt8} (hv : v ∈ l.writes)
    (hne : v.data ≠ []) (hpast : 2 ^ 64 ≤ v.stop) :
    stores 0 [] (l.plan.1.map Chunk.write) ≠ stores 0 [] l.writes := by
  refine stores_ne_of_extent (Nat.ne_of_lt (Nat.lt_of_lt_of_le (m := 2 ^ 64) ?_ ?_))
  · refine extent_lt (by decide) fun w hw => ?_
    obtain ⟨c, hc, rfl⟩ := List.mem_map.1 hw
    obtain ⟨hoff, limit, -, hlen⟩ := ht c hc
    have hsize : (c.src.read 0 c.len.toNat).length = c.len.toNat := Mem.read_length _ _ _
    show c.off.toNat + (c.src.read 0 c.len.toNat).length < 2 ^ 64
    omega
  · exact Nat.le_trans hpast (stop_le_extent hv hne)

theorem stores_plan_sgl (hs : l.ddt = DDT_SGL) (hfin : l.sglist.numEntries.toNat < 2 ^ 32)
    (ht : ∀ c ∈ l.plan.1, env.Takes pid oid c) :
    stores 0 [] (l.plan.1.map Chunk.write) = stores 0 [] l.writes ↔
      ∀ i < l.sglist.numEntries.toNat, l.sglist.bytesToTransfer i ≠ 0 →
        (l.sglist.offset i).toNat + l.offset.toNat < 2 ^ 64 := by
  have hnc : ¬ l.ddt = DDT_CONTIG := by rw [hs]; decide
  have hplan : l.plan.1 = l.sglist.chunks l.offset l.data l.sglist.numEntries.toNat 0 0 := by
    unfold plan
    rw [if_neg hnc, if_pos hs]
    show l.sglist.chunks l.offset l.data (min _ _) 0 0 = _
    rw [Nat.min_eq_left (Nat.le_of_lt hfin)]
  have hwrites : l.writes = l.sglist.writes l.offset.toNat l.data l.sglist.numEntries.toNat 0 0 := by
    unfold writes
    rw [if_neg hnc, if_pos hs]
  constructor
  · intro heq i hi hne
    by_contra hpast
    obtain ⟨w, hw, hoff, hlen⟩ := l.sglist.mem_writes l.offset.toNat l.data (Nat.zero_le i)
      (by omega : i < 0 + l.sglist.numEntries.toNat)
    have hpos : (l.sglist.bytesToTransfer i).toNat ≠ 0 := fun h => hne (UInt64.toNat_inj.1 h)
    have hdata : w.data ≠ [] := fun h => hpos (by rw [← hlen, h]; rfl)
    refine stores_ne_of_past ht (hwrites ▸ hw) hdata ?_ heq
    unfold Write.stop
    omega
  · intro hin
    rw [hwrites]
    rw [hplan] at ht ⊢
    refine stores_congr (l.sglist.chunks_same l.offset l.data UInt64.toNat_zero (Nat.zero_le _) (by omega)
      (fun c hc => ?_) fun j _ hj => hin j (by omega))
    obtain ⟨-, limit, -, hlen⟩ := ht c hc
    omega

/-- The number of pieces. -/
theorem lt_pieces {payload L k : Nat} (hL : 0 < L) : k < (payload + L - 1) / L ↔ k * L < payload := by
  rw [← Nat.succ_le_iff, Nat.le_div_iff_mul_le hL, Nat.succ_mul]
  omega

theorem stores_plan_vec (hv : l.ddt = DDT_VEC) (hfin : l.len = 16 ∨ l.pieceLen ≠ 0)
    (ht : ∀ c ∈ l.plan.1, env.Takes pid oid c) :
    stores 0 [] (l.plan.1.map Chunk.write) = stores 0 [] l.writes ↔
      (l.len ≠ 16 → 16 < l.len.toNat ∧ l.pieceLen.toNat ≤ l.len.toNat - 16 ∧
        ∀ k, k * l.pieceLen.toNat < l.len.toNat - 16 → l.offset.toNat + k * l.stride.toNat < 2 ^ 64) := by
  have hnc : ¬ l.ddt = DDT_CONTIG := by rw [hv]; decide
  have hns : ¬ l.ddt = DDT_SGL := by rw [hv]; decide
  have hplan : l.plan = vecChunks l.offset l.stride l.data (2 ^ 64 + 1) (l.len - 16) l.pieceLen 16 0 := by
    unfold plan
    rw [if_neg hnc, if_neg hns]
  have hwrites : l.writes = vecWrites l.offset.toNat l.stride.toNat l.pieceLen.toNat l.data
      (l.len.toNat - 16) := by
    unfold writes
    rw [if_neg hnc, if_neg hns]
  by_cases hlen : l.len = 16
  · refine iff_of_true ?_ fun h => absurd hlen h
    have hnone : l.writes = [] := by
      rw [hwrites, hlen]
      unfold vecWrites
      show (List.range ((0 + l.pieceLen.toNat - 1) / l.pieceLen.toNat)).map _ = []
      rcases Nat.eq_zero_or_pos l.pieceLen.toNat with h | h
      · rw [h]
        rfl
      · rw [Nat.div_eq_of_lt (by omega)]
        rfl
    rw [hplan, hnone, hlen]
    rfl
  · have hL : 0 < l.pieceLen.toNat :=
      Nat.pos_of_ne_zero fun h => hfin.resolve_left hlen (UInt64.toNat_inj.1 h)
    have hbytes : l.len - 16 ≠ 0 := by
      intro h
      rw [← UInt64.sub_add_cancel l.len 16, h] at hlen
      exact hlen rfl
    -- the first chunk is a whole piece at the offset, whatever the payload is
    obtain ⟨src, hfirst⟩ : ∃ src, (⟨0 + l.offset, l.pieceLen, src⟩ : Chunk) ∈ l.plan.1 := by
      rw [hplan, vecChunks, if_neg hbytes]
      exact ⟨_, List.mem_cons_self⟩
    have hext : l.offset.toNat + l.pieceLen.toNat ≤ extent 0 (l.plan.1.map Chunk.write) := by
      have hsize : (src.read 0 l.pieceLen.toNat).length = l.pieceLen.toNat := Mem.read_length _ _ _
      have hstop := stop_le_extent (n := 0) (List.mem_map_of_mem (f := Chunk.write) hfirst) fun h =>
        Nat.ne_of_gt hL (hsize.symm.trans (congrArg List.length h))
      have hzero : (0 + l.offset : UInt64) = l.offset := UInt64.zero_add _
      rw [Chunk.write, hzero, Write.stop, hsize] at hstop
      exact hstop
    rw [forall_prop_of_true hlen]
    constructor
    · intro heq
      have hlong : 16 < l.len.toNat := by
        by_contra hshort
        have hnone : l.writes = [] := by
          rw [hwrites, Nat.sub_eq_zero_of_le (Nat.le_of_not_lt hshort)]
          unfold vecWrites
          rw [Nat.div_eq_of_lt (by omega)]
          rfl
        refine stores_ne_of_extent ?_ heq
        rw [hnone]
        have hpos : 0 < l.offset.toNat + l.pieceLen.toNat := by omega
        exact Nat.ne_of_gt (Nat.lt_of_lt_of_le hpos hext)
      refine ⟨hlong, ?_, ?_⟩
      · by_contra hover
        have hone : l.writes = [⟨l.offset.toNat + 0 * l.stride.toNat,
            l.data.read (16 + 0 * l.pieceLen.toNat)
            (min l.pieceLen.toNat (l.len.toNat - 16 - 0 * l.pieceLen.toNat))⟩] := by
          rw [hwrites]
          unfold vecWrites
          rw [Nat.div_eq_of_lt_le (by omega) (by omega : _ < (1 + 1) * l.pieceLen.toNat)]
          rfl
        refine stores_ne_of_extent (Nat.ne_of_gt (Nat.lt_of_lt_of_le ?_ hext)) heq
        rw [hone]
        refine extent_lt (by omega) fun w hw => ?_
        rw [List.mem_singleton.1 hw, Write.stop, Mem.read_length, Nat.zero_mul, Nat.zero_mul]
        dsimp only
        omega
      · intro k hk
        by_contra hpast
        have hmem : (⟨l.offset.toNat + k * l.stride.toNat, l.data.read (16 + k * l.pieceLen.toNat)
            (min l.pieceLen.toNat (l.len.toNat - 16 - k * l.pieceLen.toNat))⟩ : Write UInt8)
              ∈ l.writes := by
          rw [hwrites]
          exact List.mem_map.2 ⟨k, List.mem_range.2 ((lt_pieces hL).2 hk), rfl⟩
        refine stores_ne_of_past ht hmem (fun h => ?_) ?_ heq
        · have hsize := congrArg List.length h
          rw [Mem.read_length] at hsize
          have hsize : min l.pieceLen.toNat (l.len.toNat - 16 - k * l.pieceLen.toNat) = 0 := hsize
          omega
        · unfold Write.stop
          dsimp only
          omega
    · rintro ⟨hlong, hle, hin⟩
      have hpayload : (l.len - 16).toNat = l.len.toNat - 16 :=
        UInt64.toNat_sub_of_le _ _ (UInt64.le_iff_toNat_le.2 (Nat.le_of_lt hlong))
      have hlt := l.len.toNat_lt
      have hchunks : (vecChunks l.offset l.stride l.data (2 ^ 64 + 1) (l.len - 16) l.pieceLen 16 0).1.map
          Chunk.write = (List.range' 0 ((l.len.toNat - 16 - 0 * l.pieceLen.toNat + l.pieceLen.toNat - 1)
            / l.pieceLen.toNat)).map fun k => ⟨l.offset.toNat + k * l.stride.toNat,
              l.data.read (16 + k * l.pieceLen.toNat)
                (min l.pieceLen.toNat (l.len.toNat - 16 - k * l.pieceLen.toNat))⟩ :=
        vecChunks_writes hL (by omega) hin (by omega) (by omega) (fun _ => by rw [Nat.zero_mul]; rfl)
          (fun _ => by rw [Nat.zero_mul]; rfl) (by omega)
      rw [hplan, hchunks, hwrites]
      unfold vecWrites
      rw [Nat.zero_mul, Nat.sub_zero, List.range_eq_range']

/-- **What storage took is what the layout stands for, exactly if the layout is sound.** -/
theorem stores_plan_iff (hl : l.Known) (hfin : l.Finite) (ht : ∀ c ∈ l.plan.1, env.Takes pid oid c) :
    stores 0 [] (l.plan.1.map Chunk.write) = stores 0 [] l.writes ↔ l.Sound := by
  rcases hl with hc | hs | hv
  · refine iff_of_true ?_ ⟨fun h => ?_, fun h => ?_⟩
    · unfold plan writes
      rw [if_pos hc, if_pos hc]
      rfl
    · rw [hc] at h
      exact absurd h (by decide)
    · rw [hc] at h
      exact absurd h (by decide)
  · rw [stores_plan_sgl hs (hfin.1 hs) ht]
    refine ⟨fun h => ⟨fun _ => h, fun h => ?_⟩, fun h => h.1 hs⟩
    rw [hs] at h
    exact absurd h (by decide)
  · rw [stores_plan_vec hv (hfin.2 hv) ht]
    refine ⟨fun h => ⟨fun h => ?_, fun _ => h⟩, fun h => h.2 hv⟩
    rw [hv] at h
    exact absurd h (by decide)

end Layout

end OsdTarget
