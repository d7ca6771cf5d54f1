import OsdTarget.PanRead
import OsdTarget.Punch

/-!
# Scatter/gather reads

A scatter/gather read is meant to return what the contiguous reads of its entries return, one behind the
other.  `sgl_read` goes on behind the bytes that an entry found, not behind those that it asked for.
-/

namespace OsdTarget

open Base

variable {env : Env} {s t : Target} {pid oid len offset : UInt64} {content : List UInt8} {l : SgList}

/-! ## The sequence of contiguous reads -/

/-- The bytes that `contig_read` returns, where it does not fail. -/
def contigBytes (env : Env) (pid oid len offset : UInt64) (s : Target) : Option (List UInt8) :=
  match contigRead env pid oid len offset s with
  | some ((_, some _), t) => some (t.reply.read 0 len.toNat)
  | _ => none

namespace SgList

/-- The bytes of the contiguous read for entry `i`. -/
def entryBytes (l : SgList) (env : Env) (pid oid offset : UInt64) (s : Target) (i : Nat) :
    Option (List UInt8) :=
  contigBytes env pid oid (l.bytesToTransfer i) (l.offset i + offset) s

/-- The lengths of all entries together. -/
def total (l : SgList) : Nat := ((List.range l.numEntries.toNat).map fun i =>
    (l.bytesToTransfer i).toNat).sum

/-- The object has fewer bytes than entry `i` asks for. -/
def Passes (l : SgList) (size : Nat) (offset : UInt64) (i : Nat) : Prop :=
  available size (l.offset i + offset) (l.bytesToTransfer i) < (l.bytesToTransfer i).toNat

/-- `pread` takes the range of entry `i`. -/
def Takes (l : SgList) (offset : UInt64) (i : Nat) : Prop :=
    Readable (l.offset i + offset) (l.bytesToTransfer i)

instance (l : SgList) (size : Nat) (offset : UInt64) (i : Nat) : Decidable (l.Passes size offset i) :=
  inferInstanceAs (Decidable (_ < _))

instance (l : SgList) (offset : UInt64) (i : Nat) : Decidable (l.Takes offset i) :=
  inferInstanceAs (Decidable (Readable _ _))

end SgList

/-- `sgl_read` returns what the contiguous reads return one behind the other, and fails where one of them
fails. -/
structure Gathers (env : Env) (pid oid len offset : UInt64) (content : List UInt8)
    (l : SgList) (s : Target) :
    Prop where
  answers : (∀ i < l.numEntries.toNat, (l.entryBytes env pid oid offset s i).isSome) →
    ∃ ret used t, sglRead env pid oid len offset l s = some ((ret, some used), t) ∧ used.toNat = l.total ∧
      t.reply.read 0 l.total =
        (List.range l.numEntries.toNat).flatMap (fun i => (l.entryBytes env pid oid offset s i).getD []) ∧
      (ret = .ok ∨ ∃ info, ret = readPastEnd pid oid info) ∧
      ((∃ info, ret = readPastEnd pid oid info) ↔ ∃ i < l.numEntries.toNat,
        l.Passes content.length offset i)
  fails : (∃ i < l.numEntries.toNat, l.entryBytes env pid oid offset s i = none) →
    ∃ t, sglRead env pid oid len offset l s = some ((hwErr pid oid, none), t)

/-! ## One entry -/

theorem contigBytes_isSome (henv : env.NoIoErrors) (hid : isUserobjectId pid oid = true)
    (hfile : s.files pid oid = some content) : (contigBytes env pid oid len offset s).isSome ↔
    Readable offset len := by
  unfold contigBytes
  by_cases hr : Readable offset len
  · have hread := preadFile_run henv hfile offset len
    rw [if_neg (by unfold Readable at hr; omega)] at hread
    rw [contigRead_bytes henv hid ((henv.lookup s pid oid).trans hfile) hread]
    by_cases hshort : ((content.drop offset.toNat).take (min len.toNat 0x7ffff000)).length < len.toNat
    · rw [if_pos hshort]
      exact ⟨fun _ => hr, fun _ => rfl⟩
    · rw [if_neg hshort]
      exact ⟨fun _ => hr, fun _ => rfl⟩
  · rw [contigRead_unreadable henv hid hfile hr]
    exact ⟨nofun, fun h => absurd h hr⟩

/-- A range inside the object is read as it is. -/
theorem contigBytes_inside (henv : env.NoIoErrors) (hid : isUserobjectId pid oid = true)
    (hfile : s.files pid oid = some content) (hr : Readable offset len) (hlen : len.toNat < 0x7ffff000)
    (hin : available content.length offset len = len.toNat) :
    contigBytes env pid oid len offset s = some ((content.drop offset.toNat).take len.toNat) := by
  have hread := preadFile_run henv hfile offset len
  rw [if_neg (by unfold Readable at hr; omega), Nat.min_eq_left (Nat.le_of_lt hlen)] at hread
  have hsize : ((content.drop offset.toNat).take len.toNat).length = len.toNat := by
    rw [List.length_take, List.length_drop]
    exact hin
  unfold contigBytes
  rw [contigRead_bytes henv hid ((henv.lookup s pid oid).trans hfile) hread, if_neg (by omega)]
  have hreply : Target.reply { s with
      out := s.out ++ [(0, (content.drop offset.toNat).take len.toNat)]
      ccap := fillCcap .userobject pid oid 0 } =
        s.reply.write 0 ((content.drop offset.toNat).take len.toNat) :=
    reply_write s 0 _
  refine congrArg some ?_
  rw [hreply]
  exact (congrArg _ hsize.symm).trans (Mem.read_write_self _ _ _)

/-! ## The loop -/

/-- What the object has of entry `i`. -/
def SgList.entry (l : SgList) (content : List UInt8) (offset : UInt64) (i : Nat) : List UInt8 :=
  (content.drop (l.offset i + offset).toNat).take (l.bytesToTransfer i).toNat

theorem entry_length {i : Nat} (h : ¬ l.Passes content.length offset i) :
    (l.entry content offset i).length = (l.bytesToTransfer i).toNat := by
  have hsize : (l.entry content offset i).length =
      available content.length (l.offset i + offset) (l.bytesToTransfer i) := by
    unfold SgList.entry
    rw [List.length_take, List.length_drop]
    rfl
  rw [hsize]
  exact Nat.le_antisymm (Nat.min_le_left _ _) (Nat.not_lt.1 h)

/-- Where every entry is inside the object, the entries follow one another in the reply. -/
theorem sglReadLoop_gathers (henv : env.NoIoErrors) {n i : Nat} {d : UInt64}
    (hfile : s.files pid oid = some content)
    (htakes : ∀ j ∈ List.range' i n, l.Takes offset j)
    (hshort : ∀ j ∈ List.range' i n, (l.bytesToTransfer j).toNat < 0x7ffff000)
    (hin : ∀ j ∈ List.range' i n, ¬ l.Passes content.length offset j)
    (hfit : d.toNat + ((List.range' i n).map fun j => (l.bytesToTransfer j).toNat).sum < 2 ^ 64) : ∃ t,
    sglReadLoop env pid oid offset l n i d s
      = some (some (d + UInt64.ofNat ((List.range' i n).map fun j => (l.bytesToTransfer j).toNat).sum), t) ∧
    Emits d.toNat ((List.range' i n).flatMap (l.entry content offset)) s t := by
  induction n generalizing i d s with
  | zero =>
    refine ⟨s, ?_, .refl _ _⟩
    show some (some d, s) = some (some (d + 0), s)
    rw [UInt64.add_zero]
  | succ n ih =>
    rw [List.range'_succ, List.forall_mem_cons] at htakes hshort hin
    rw [List.range'_succ, List.map_cons, List.sum_cons] at hfit ⊢
    obtain ⟨hr, htakes⟩ := htakes
    obtain ⟨hlen, hshort⟩ := hshort
    obtain ⟨hpass, hin⟩ := hin
    have hread : preadFile env s pid oid (l.offset i + offset) (l.bytesToTransfer i) =
        some (l.entry content offset i) := by
      rw [preadFile_run henv hfile, if_neg, Nat.min_eq_left (Nat.le_of_lt hlen)]
      · rfl
      · unfold SgList.Takes Readable at hr
        omega
    have hsize := entry_length hpass
    have hnext : (d + l.bytesToTransfer i).toNat = d.toNat + (l.entry content offset i).length := by
      rw [UInt64.toNat_add, hsize]
      exact Nat.mod_eq_of_lt (by omega)
    let s' : Target := { s with out := s.out ++ [(d.toNat, l.entry content offset i)] }
    have hstep : sglReadLoop env pid oid offset l (n + 1) i d s =
        sglReadLoop env pid oid offset l n (i + 1) (d + l.bytesToTransfer i) s' := by
      refine bind_get.trans ?_
      rw [hread]
      simp only [if_neg (show ¬ (l.entry content offset i).length < (l.bytesToTransfer i).toNat by omega)]
      rw [hsize, UInt64.ofNat_toNat]
      rfl
    obtain ⟨t, hrun, hrest⟩ := ih (i := i + 1) (d := d + l.bytesToTransfer i) (s := s') hfile htakes
        hshort hin (by omega)
    rw [hnext] at hrest
    refine ⟨t, ?_, ?_⟩
    · rw [hstep, hrun, UInt64.ofNat_add, UInt64.ofNat_toNat, UInt64.add_assoc]
    · rw [List.flatMap_cons]
      exact (Emits.write _ _ s).append hrest

/-! ## When the reads agree -/

/-- An entry that passes the end finds less than it asks for. -/
theorem count_le (l : SgList) (size : Nat) (offset : UInt64) (i : Nat) :
    l.count size offset i ≤ (l.bytesToTransfer i).toNat := by
  unfold SgList.count available
  omega

/-- **A scatter/gather read is the sequence of contiguous reads exactly when one of these fails (then
it fails too), or when the list has less than 2^32 entries and no entry passes the end of the object.** -/
theorem sglRead_gathers_iff (henv : env.NoIoErrors) (hid : isUserobjectId pid oid = true)
    (hfile : s.files pid oid = some content) (hsum : l.total = len.toNat)
    (hshort : ∀ i < l.numEntries.toNat, (l.bytesToTransfer i).toNat < 0x7ffff000) :
    Gathers env pid oid len offset content l s ↔
      (∃ i < l.rounds, ¬ l.Takes offset i) ∨
        l.numEntries.toNat < 2 ^ 32 ∧ ∀ i < l.numEntries.toNat, ¬ l.Passes content.length offset i := by
  have hrounds : l.rounds ≤ l.numEntries.toNat := Nat.min_le_left _ _
  have hlist : ∀ i, i ∈ List.range' 0 l.rounds ↔ i < l.rounds := fun i => by
    rw [← List.range_eq_range', List.mem_range]
  by_cases hfail : ∃ i < l.rounds, ¬ l.Takes offset i
  · -- the loop ends where the first of these reads fails
    obtain ⟨i, hi, hno⟩ := hfail
    have hnone : ¬ (l.entryBytes env pid oid offset s i).isSome := by
      rw [SgList.entryBytes, contigBytes_isSome henv hid hfile]
      exact hno
    obtain ⟨t, hloop⟩ := sglReadLoop_fails henv 0 hfile ⟨i, (hlist i).2 hi, hno⟩
    refine ⟨fun _ => .inl ⟨i, hi, hno⟩, fun _ =>
      ⟨fun hall => absurd (hall i (by omega)) hnone, fun _ => ⟨t, ?_⟩⟩⟩
    rw [sglRead_run henv hid hfile len hloop]
  have hall : ∀ i < l.rounds, l.Takes offset i := fun i hi => by
    by_contra hno
    exact hfail ⟨i, hi, hno⟩
  have htakes : ∀ i ∈ List.range' 0 l.rounds, l.Takes offset i := fun i hi => hall i ((hlist i).1 hi)
  rw [or_iff_right hfail]
  by_cases hmany : 2 ^ 32 ≤ l.numEntries.toNat
  · -- the counter never reaches the number of entries
    obtain ⟨t, hloop⟩ := sglReadLoop_ends henv 0 hfile htakes
    have hrun := sglRead_run henv hid hfile len hloop
    dsimp only at hrun
    rw [if_pos (show l.endless = true from decide_eq_true hmany)] at hrun
    refine ⟨fun h => ?_, fun h => absurd h.1 (Nat.not_lt.2 hmany)⟩
    by_cases hsome : ∀ i < l.numEntries.toNat, (l.entryBytes env pid oid offset s i).isSome
    · obtain ⟨ret, used, u, hanswer, -⟩ := h.answers hsome
      rw [hrun] at hanswer
      cases hanswer
    · simp only [not_forall] at hsome
      obtain ⟨i, hi, hnone⟩ := hsome
      obtain ⟨u, hanswer⟩ := h.fails ⟨i, hi, Option.not_isSome_iff_eq_none.1 hnone⟩
      rw [hrun] at hanswer
      cases hanswer
  have hfew : l.numEntries.toNat < 2 ^ 32 := Nat.lt_of_not_le hmany
  have heq : l.rounds = l.numEntries.toNat := Nat.min_eq_left (Nat.le_of_lt hfew)
  have hends : l.endless = false := decide_eq_false hmany
  rw [heq] at hall
  have hsome : ∀ i < l.numEntries.toNat, (l.entryBytes env pid oid offset s i).isSome := fun i hi =>
    (contigBytes_isSome henv hid hfile).2 (hall i hi)
  constructor
  · intro h
    refine ⟨hfew, fun i hi hpass => ?_⟩
    obtain ⟨ret, used, u, hanswer, hused, -⟩ := h.answers hsome
    obtain ⟨t, hloop⟩ := sglReadLoop_ends henv 0 hfile htakes
    have hrun := sglRead_run henv hid hfile len hloop
    dsimp only at hrun
    rw [hends, if_neg Bool.false_ne_true] at hrun
    have hread : used = 0 + UInt64.ofNat ((List.range' 0 l.rounds).map
        (l.count content.length offset)).sum :=
      Option.some.inj (Prod.mk.inj (Prod.mk.inj (Option.some.inj (hanswer.symm.trans hrun))).1).2
    -- the entry that passes the end counts for less than its length
    have hless : ((List.range l.rounds).map (l.count content.length offset)).sum < l.total := by
      rw [SgList.total, ← heq]
      refine List.sum_lt_sum _ _ (fun j _ => count_le l content.length offset j)
        ⟨i, List.mem_range.2 (heq ▸ hi), ?_⟩
      exact Nat.lt_of_le_of_lt (Nat.min_le_right _ _) hpass
    rw [hread, UInt64.zero_add, ← List.range_eq_range', UInt64.toNat_ofNat',
      Nat.mod_eq_of_lt (sum_count_lt l _ _)] at hused
    omega
  · rintro ⟨-, hin⟩
    have hbelow : ∀ i ∈ List.range' 0 l.rounds, i < l.numEntries.toNat := fun i hi => heq ▸ (hlist i).1 hi
    have htotal : ((List.range' 0 l.rounds).map fun j => (l.bytesToTransfer j).toNat).sum = l.total := by
      rw [← List.range_eq_range', heq, SgList.total]
    have hlenLt := len.toNat_lt
    have hfit : (0 : UInt64).toNat + ((List.range' 0 l.rounds).map fun j =>
        (l.bytesToTransfer j).toNat).sum < 2 ^ 64 := by
      rw [htotal, hsum, UInt64.toNat_zero, Nat.zero_add]
      exact hlenLt
    obtain ⟨t, hloop, hemits⟩ := sglReadLoop_gathers henv hfile htakes (fun i hi => hshort i (hbelow i hi))
      (fun i hi => hin i (hbelow i hi)) hfit
    rw [htotal, hsum, UInt64.ofNat_toNat, UInt64.zero_add] at hloop
    have hrun := sglRead_run henv hid hfile len hloop
    dsimp only at hrun
    rw [hends, if_neg Bool.false_ne_true, if_neg (UInt64.lt_irrefl len)] at hrun
    refine ⟨fun _ => ⟨_, len, _, hrun, hsum.symm, ?_, .inl rfl, ?_⟩, ?_⟩
    · rw [← List.range_eq_range', heq] at hemits
      have hlength : ((List.range l.numEntries.toNat).flatMap (l.entry content offset)).length =
          l.total := by
        rw [List.length_flatMap, SgList.total]
        exact congrArg List.sum (List.map_congr_left fun i hi => entry_length (hin i (List.mem_range.1 hi)))
      rw [← hlength]
      refine Eq.trans hemits.content (List.flatMap_congr fun i hi => ?_)
      have hi' := List.mem_range.1 hi
      have hwhole : available content.length (l.offset i + offset) (l.bytesToTransfer i) =
          (l.bytesToTransfer i).toNat :=
        Nat.le_antisymm (Nat.min_le_left _ _) (Nat.not_lt.1 (hin i hi'))
      rw [SgList.entryBytes, contigBytes_inside henv hid hfile (hall i hi') (hshort i hi') hwhole]
      rfl
    · exact ⟨fun ⟨_, h⟩ => (nomatch h), fun ⟨i, hi, hpass⟩ => absurd hpass (hin i hi)⟩
    · rintro ⟨i, hi, hnone⟩
      rw [Option.eq_none_iff_forall_ne_some] at hnone
      obtain ⟨bytes, hbytes⟩ := Option.isSome_iff_exists.1 (hsome i hi)
      exact absurd hbytes (hnone bytes)

/-- Two entries, given by their offsets and lengths. -/
def twoEntries (o1 n1 o2 n2 : UInt64) : SgList where
  numEntries := 2
  entries := blobMem (htonll o1 ++ htonll n1 ++ htonll o2 ++ htonll n2)

theorem sglRead_gathers_both : Gathers .calm 0x10000 0x10000 3 0 [1, 2, 3, 4, 5]
    (twoEntries 3 2 0 1) fiveBytes :=
  (sglRead_gathers_iff Env.calm_noIoErrors (by decide) fiveBytes_file (by decide +kernel)
    (by decide +kernel)).2
    (.inr ⟨by decide +kernel, by decide +kernel⟩)

/-- Of an entry of 4 bytes one byte is there: the bytes of the next entry follow behind that one, and
the two count as 3. -/
theorem sglRead_closes_up :
    ¬ Gathers .calm 0x10000 0x10000 6 0 [1, 2, 3, 4, 5] (twoEntries 4 4 0 2) fiveBytes ∧
    (sglRead .calm 0x10000 0x10000 6 0 (twoEntries 4 4 0 2) fiveBytes).map (fun r =>
      (r.1, r.2.reply.read 0 6)) = some ((readPastEnd 0x10000 0x10000 3, some 3), [5, 1, 2, 0, 0, 0]) ∧
    (twoEntries 4 4 0 2).entryBytes .calm 0x10000 0x10000 0 fiveBytes 0 = some [5, 0, 0, 0] := by
  refine ⟨fun h => ?_, by decide +kernel, by decide +kernel⟩
  have hcond := (sglRead_gathers_iff Env.calm_noIoErrors (by decide) fiveBytes_file (by decide +kernel)
    (by decide +kernel)).1 h
  exact absurd hcond (by decide +kernel)

end OsdTarget
