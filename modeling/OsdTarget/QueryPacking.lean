import OsdTarget.Query
import OsdTarget.System

/-!
# The rows of a QUERY in the reply

The loop counts all rows in one 64-bit length and stores a row when the allocation length exceeds it by
more than 8.  Once the length is past the allocation length the difference wraps, and rows are stored
again.
-/

namespace OsdTarget

open Base

/-! ## The loop -/

section Loop

variable {alloc : UInt32} {s : Target}

/-- `len` after `n` more rows. -/
theorem queryLen_add {len : UInt64} (h : len.toNat + 8 < 2 ^ 64) :
    (if len ≠ 0 - 1 ∧ len < len + 8 then len + 8 else 0 - 1) = len + 8 ∧
      (len + 8).toNat = len.toNat + 8 := by
  have hadd : (len + 8).toNat = len.toNat + 8 := by
    rw [UInt64.toNat_add]
    exact Nat.mod_eq_of_lt h
  refine ⟨if_pos ⟨?_, UInt64.lt_iff_toNat_lt.2 (by omega)⟩, hadd⟩
  rintro rfl
  exact absurd h (by decide)

/-- What the space test says: the row does not fit by more than a byte, or the length is past the
allocation length. -/
theorem queryRoom {len : UInt64} :
    8 < alloc.toUInt64 - len ↔ len.toNat + 8 < alloc.toNat ∨ alloc.toNat < len.toNat ∧
      8 < 2 ^ 64 - len.toNat + alloc.toNat := by
  have ha := alloc.toNat_lt
  have hl := len.toNat_lt
  have hto : alloc.toUInt64.toNat = alloc.toNat := UInt32.toNat_toUInt64 alloc
  rw [UInt64.lt_iff_toNat_lt, UInt64.toNat_sub, hto]
  show 8 < (2 ^ 64 - len.toNat + alloc.toNat) % 2 ^ 64 ↔ _
  omega

/-- One row. -/
theorem queryLoop_cons {id : UInt64} {ids : List UInt64} {p : Nat} {len used : UInt64}
    (h : len.toNat + 8 < 2 ^ 64) :
    queryLoop alloc (id :: ids) p len used s = if 8 < alloc.toUInt64 - len then
        queryLoop alloc ids (p + 8) (len + 8) (used + 8) { s with out := s.out ++ [(p, htonll id)] }
      else queryLoop alloc ids (p + 8) (len + 8) used s := by
  rw [queryLoop, (queryLen_add h).1]
  by_cases hroom : 8 < alloc.toUInt64 - len
  · rw [if_pos hroom, if_pos hroom]
    rfl
  · rw [if_neg hroom, if_neg hroom]
    rfl

/-- The loop ends, and only adds to what was stored. -/
theorem queryLoop_run (alloc : UInt32) (ids : List UInt64) (p : Nat) (len used : UInt64) (s : Target) :
    ∃ len' used' s' w, queryLoop alloc ids p len used s = some ((len', used'), s') ∧
      s'.out = s.out ++ w := by
  induction ids generalizing p len used s with
  | nil => exact ⟨len, used, s, [], rfl, (List.append_nil _).symm⟩
  | cons id ids ih =>
    rw [queryLoop]
    by_cases hroom : 8 < alloc.toUInt64 - len
    · obtain ⟨len', used', s', w, hrun, hout⟩ := ih (p + 8)
        (if len ≠ 0 - 1 ∧ len < len + 8 then len + 8 else 0 - 1) (used + 8)
        { s with out := s.out ++ [(p, htonll id)] }
      rw [if_pos hroom]
      exact ⟨len', used', s', _, hrun, hout.trans (List.append_assoc _ _ _)⟩
    · obtain ⟨len', used', s', w, hrun, hout⟩ := ih (p + 8)
        (if len ≠ 0 - 1 ∧ len < len + 8 then len + 8 else 0 - 1) used s
      rw [if_neg hroom]
      exact ⟨len', used', s', w, hrun, hout⟩

/-- Ids one behind the other from `p` on. -/
def placed (p : Nat) : List UInt64 → List (Nat × List UInt8)
  | [] => []
  | id :: ids => (p, htonll id) :: placed (p + 8) ids

theorem mem_placed {p : Nat} {ids : List UInt64} {x : Nat × List UInt8} (h : x ∈ placed p ids) :
    ∃ k < ids.length, x.1 = p + 8 * k := by
  induction ids generalizing p with
  | nil => cases h
  | cons id ids ih =>
    rcases List.mem_cons.1 h with rfl | h
    · exact ⟨0, Nat.succ_pos _, rfl⟩
    · obtain ⟨k, hk, hx⟩ := ih h
      exact ⟨k + 1, Nat.succ_lt_succ hk, by omega⟩

/-- Rows before the length is within 8 of the allocation length are all stored. -/
theorem queryLoop_stores {a : List UInt64} (b : List UInt64) (p : Nat) {len : UInt64} (used : UInt64)
    (s : Target) (h : len.toNat + 8 * a.length < alloc.toNat) :
    ∃ len' : UInt64, len'.toNat = len.toNat + 8 * a.length ∧
      queryLoop alloc (a ++ b) p len used s = queryLoop alloc b (p + 8 * a.length) len'
        (used + UInt64.ofNat (8 * a.length)) { s with out := s.out ++ placed p a } := by
  induction a generalizing p len used s with
  | nil =>
    refine ⟨len, rfl, ?_⟩
    rw [placed, List.append_nil]
    show _ = queryLoop alloc b p len (used + 0) s
    rw [UInt64.add_zero]
    rfl
  | cons id a ih =>
    have ha := alloc.toNat_lt
    rw [List.length_cons] at h
    have hadd := queryLen_add (show len.toNat + 8 < 2 ^ 64 by omega)
    obtain ⟨len', hlen', hrun⟩ := ih (p + 8) (used + 8) { s with out := s.out ++ [(p, htonll id)] }
      (show (len + 8).toNat + _ < _ by omega)
    refine ⟨len', by rw [List.length_cons]; omega, ?_⟩
    rw [List.cons_append, queryLoop_cons (by omega), if_pos (queryRoom.2 (.inl (by omega))), hrun,
      List.length_cons]
    have hused : used + 8 + UInt64.ofNat (8 * a.length) = used + UInt64.ofNat (8 * (a.length + 1)) := by
      rw [UInt64.add_assoc, Nat.mul_succ, Nat.add_comm (8 * a.length) 8, UInt64.ofNat_add]
      rfl
    rw [hused, show p + 8 * (a.length + 1) = p + 8 + 8 * a.length by omega]
    simp only [placed, List.append_assoc, List.singleton_append]

/-- Rows within 8 of the allocation length are not. -/
theorem queryLoop_skips {a : List UInt64} (p : Nat) {len : UInt64} (used : UInt64) (s : Target)
    (h1 : alloc.toNat ≤ len.toNat + 8) (h2 : len.toNat + 8 * a.length ≤ alloc.toNat + 8) :
    ∃ len' : UInt64, len'.toNat = len.toNat + 8 * a.length ∧
      queryLoop alloc a p len used s = some ((len', used), s) := by
  induction a generalizing p len with
  | nil => exact ⟨len, rfl, rfl⟩
  | cons id a ih =>
    have ha := alloc.toNat_lt
    rw [List.length_cons] at h2
    have hadd := queryLen_add (show len.toNat + 8 < 2 ^ 64 by omega)
    have hroom : ¬ 8 < alloc.toUInt64 - len := by
      rw [queryRoom]
      omega
    obtain ⟨len', hlen', hrun⟩ := ih (p + 8) (show alloc.toNat ≤ (len + 8).toNat + 8 by omega) (by omega)
    refine ⟨len', by rw [List.length_cons]; omega, ?_⟩
    rw [queryLoop_cons (by omega), if_neg hroom, hrun]

/-- Where the loop is after some rows. -/
theorem queryLoop_reaches (alloc : UInt32) {a : List UInt64} (b : List UInt64) (p : Nat)
    {len : UInt64} (used : UInt64)
    (s : Target) (h : len.toNat + 8 * a.length < 2 ^ 64) :
    ∃ (len' used' : UInt64) (w : _), len'.toNat = len.toNat + 8 * a.length ∧
      queryLoop alloc (a ++ b) p len used s
        = queryLoop alloc b (p + 8 * a.length) len' used' { s with out := s.out ++ w } := by
  induction a generalizing p len used s with
  | nil => exact ⟨len, used, [], rfl, by rw [List.append_nil]; rfl⟩
  | cons id a ih =>
    rw [List.length_cons] at h
    have hadd := queryLen_add (show len.toNat + 8 < 2 ^ 64 by omega)
    rw [List.cons_append, queryLoop_cons (by omega), List.length_cons,
      show p + 8 * (a.length + 1) = p + 8 + 8 * a.length by omega]
    by_cases hroom : 8 < alloc.toUInt64 - len
    · obtain ⟨len', used', w, hlen', hrun⟩ := ih (p + 8) (used + 8)
        { s with out := s.out ++ [(p, htonll id)] } (show (len + 8).toNat + _ < _ by omega)
      refine ⟨len', used', [(p, htonll id)] ++ w, by omega, ?_⟩
      rw [if_pos hroom, hrun]
      simp only [List.append_assoc]
    · obtain ⟨len', used', w, hlen', hrun⟩ := ih (p + 8) used s (show (len + 8).toNat + _ < _ by omega)
      refine ⟨len', used', w, by omega, ?_⟩
      rw [if_neg hroom, hrun]

end Loop

/-! ## The reply -/

/-- The first `m` ids are stored, behind each other and inside, and the lengths are right. -/
def QueryPacked (alloc : UInt32) (ids : List UInt64) (s : Target) : Prop :=
  ∃ (used len : UInt64) (s' : Target) (m : Nat), queryResults alloc ids s = some (used, s') ∧
    m ≤ ids.length ∧ 13 + 8 * m ≤ alloc.toNat ∧
    s'.out = s.out ++ placed 13 (ids.take m) ++ [(0, htonll len)] ∧
    used.toNat = 13 + 8 * m ∧ len.toNat = 5 + 8 * ids.length

section Reply

variable {alloc : UInt32} {ids : List UInt64} {s : Target}

/-- A row that is stored lies inside when the reply is packed as it should be. -/
theorem QueryPacked.fits (h : QueryPacked alloc ids s) {k : Nat} (hk : k < ids.length)
    (hsmall : 8 * k < 2 ^ 33) (hroom : 13 + 8 * k < alloc.toNat ∨ alloc.toNat < 5 + 8 * k) :
    13 + 8 * (k + 1) ≤ alloc.toNat := by
  obtain ⟨used, len, s', m, hrun, hm, hin, hout, -, -⟩ := h
  have hsplit : ids = ids.take k ++ ids[k] :: ids.drop (k + 1) := by
    rw [List.getElem_cons_drop, List.take_append_drop]
  have hlen : (ids.take k).length = k := List.length_take_of_le (by omega)
  -- the loop comes to the row, and goes on behind it
  obtain ⟨len₁, used₁, w₁, hlen₁, hrun₁⟩ : ∃ (len₁ used₁ : UInt64) (w : _), len₁.toNat = 5 + 8 * k ∧
      queryLoop alloc ids 13 5 13 s = queryLoop alloc (ids[k] :: ids.drop (k + 1)) (13 + 8 * k) len₁ used₁
        { s with out := s.out ++ w } := by
    have hsmall' : (5 : UInt64).toNat + 8 * (ids.take k).length < 2 ^ 64 := by
      rw [hlen]
      show 5 + _ < _
      omega
    have h := queryLoop_reaches alloc (ids[k] :: ids.drop (k + 1)) 13 13 s hsmall'
    rw [← hsplit, hlen] at h
    exact h
  have halloc := alloc.toNat_lt
  rw [queryLoop_cons (by omega), if_pos (queryRoom.2 (by omega))] at hrun₁
  obtain ⟨len₂, used₂, s₂, w₂, hrun₂, hout₂⟩ := queryLoop_run alloc (ids.drop (k + 1))
    (13 + 8 * k + 8) (len₁ + 8) (used₁ + 8)
    { s with out := s.out ++ w₁ ++ [(13 + 8 * k, htonll ids[k])] }
  have hres : queryResults alloc ids s
      = some (used₂, { s₂ with out := s₂.out ++ [(0, htonll len₂)] }) :=
    bind_of_some (hrun₁.trans hrun₂)
  rw [hres] at hrun
  cases hrun
  have hout : s₂.out ++ [(0, htonll len₂)] = s.out ++ placed 13 (ids.take m) ++ [(0, htonll len)] := hout
  have hplaced := List.append_inj_left' hout rfl
  rw [hout₂] at hplaced
  simp only [List.append_assoc] at hplaced
  have hmem : (13 + 8 * k, htonll ids[k]) ∈ placed 13 (ids.take m) := by
    rw [← List.append_cancel_left hplaced]
    simp
  obtain ⟨j, hj, hx⟩ := mem_placed hmem
  rw [List.length_take] at hj
  dsimp only at hx
  omega

/-- The first `m` ids are stored when the loop stores them and skips the others. -/
theorem queryPacked_of_split {m : Nat} (hm : m ≤ ids.length) (hin : 13 + 8 * m ≤ alloc.toNat)
    (hrest : m = ids.length ∨ alloc.toNat = 13 + 8 * m ∧ ids.length ≤ m + 2) :
    QueryPacked alloc ids s := by
  have halloc := alloc.toNat_lt
  have h5 : (5 : UInt64).toNat = 5 := rfl
  have hlen : (ids.take m).length = m := List.length_take_of_le hm
  have hdrop : (ids.drop m).length = ids.length - m := List.length_drop
  obtain ⟨len₁, hlen₁, hrun₁⟩ := queryLoop_stores (ids.drop m) 13 13 s
    (show (5 : UInt64).toNat + 8 * (ids.take m).length < alloc.toNat by omega)
  obtain ⟨len₂, hlen₂, hrun₂⟩ : ∃ len₂ : UInt64, len₂.toNat = 5 + 8 * ids.length ∧
      queryLoop alloc (ids.drop m) (13 + 8 * (ids.take m).length) len₁
        (13 + UInt64.ofNat (8 * (ids.take m).length))
        { s with out := s.out ++ placed 13 (ids.take m) } = some ((len₂, _), _) := by
    rcases hrest with hall | ⟨heq, hle⟩
    · rw [List.drop_of_length_le (by omega)]
      exact ⟨len₁, by omega, rfl⟩
    · obtain ⟨len₂, hlen₂, hrun₂⟩ := queryLoop_skips (13 + 8 * (ids.take m).length)
        (13 + UInt64.ofNat (8 * (ids.take m).length)) { s with out := s.out ++ placed 13 (ids.take m) }
        (show alloc.toNat ≤ len₁.toNat + 8 by omega)
        (show len₁.toNat + 8 * (ids.drop m).length ≤ alloc.toNat + 8 by omega)
      exact ⟨len₂, by omega, hrun₂⟩
  rw [List.take_append_drop] at hrun₁
  have hloop := hrun₁.trans hrun₂
  refine ⟨_, len₂, _, m, bind_of_some hloop, hm, hin, rfl, ?_, hlen₂⟩
  rw [hlen, UInt64.toNat_add, UInt64.toNat_ofNat_of_lt' (by show _ < 2 ^ 64; omega)]
  show (13 + 8 * m) % 2 ^ 64 = _
  omega

end Reply

/-- **QUERY result packing**: right exactly when all rows fit, or when the rows that do not are at most
two behind an allocation length that whole rows fill. -/
theorem queryPacked_iff (alloc : UInt32) (ids : List UInt64) (s : Target) (h13 : 13 ≤ alloc) :
    QueryPacked alloc ids s ↔ 13 + 8 * ids.length ≤ alloc.toNat ∨
      (alloc.toNat - 13) % 8 = 0 ∧ 8 * ids.length ≤ alloc.toNat + 3 := by
  have h13 : 13 ≤ alloc.toNat := UInt32.le_iff_toNat_le.1 h13
  have halloc := alloc.toNat_lt
  constructor
  · intro h
    by_contra hno
    obtain ⟨hbig, hno⟩ := not_or.1 hno
    by_cases hmod : (alloc.toNat - 13) % 8 = 0
    · -- the row at which the length is past the allocation length
      have hlong : alloc.toNat + 3 < 8 * ids.length := Nat.not_le.1 fun h => hno ⟨hmod, h⟩
      have := h.fits (k := (alloc.toNat + 3) / 8) (by omega) (by omega) (.inr (by omega))
      omega
    · -- the row that fits only in part
      have := h.fits (k := (alloc.toNat - 13) / 8) (by omega) (by omega) (.inl (by omega))
      omega
  · rintro (hall | ⟨hmod, hle⟩)
    · exact queryPacked_of_split (Nat.le_refl _) hall (.inl rfl)
    · by_cases hfit : 13 + 8 * ids.length ≤ alloc.toNat
      · exact queryPacked_of_split (Nat.le_refl _) hfit (.inl rfl)
      · exact queryPacked_of_split (m := (alloc.toNat - 13) / 8) (by omega) (by omega)
          (.inr ⟨by omega, by omega⟩)

/-- Two of four rows fill the reply. -/
theorem queryPacked_iff_aligned : QueryPacked 29 [1, 2, 3, 4] Target.fresh :=
  (queryPacked_iff 29 [1, 2, 3, 4] Target.fresh (by decide)).2 (.inr (by decide))

/-- One id of 8 bytes is stored from byte 13 on in a reply of 14. -/
theorem query_overrun : ¬ QueryPacked 14 [0x10000] Target.fresh := by
  rintro ⟨used, len, s', m, hrun, hm, hin, hout, -⟩
  have hrun' : (queryResults 14 [0x10000] Target.fresh).map (fun r => r.2.out.length) = some 2 := by
    decide +kernel
  obtain rfl : m = 0 := by
    have h14 : (14 : UInt32).toNat = 14 := rfl
    omega
  have hfresh : Target.fresh.out = [] := by decide +kernel
  rw [hrun, Option.map_some, hout, hfresh] at hrun'
  exact absurd hrun' (by simp [placed])

end OsdTarget
