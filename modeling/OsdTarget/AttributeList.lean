import OsdTarget.Cdb

/-!
# The set attributes list format

An entry is a header of 16 bytes with page, number and length, then the value, then pad bytes up to a
multiple of 8.  A list is a header of 8 bytes, then entries one behind the other.  `Tiles` is this
format as a statement about bytes; `Laid` is what a walk over a memory sees of it.
-/

namespace OsdTarget

open Base

/-! ## The format -/

/-- These bytes are an entry with this page, number and value. -/
def IsEntry (bytes : List UInt8) (e : SetEntry) : Prop :=
  ∃ reserved pad : List UInt8, reserved.length = 6 ∧ pad.length < 8 ∧ bytes.length % 8 = 0 ∧
    e.value.length < 2 ^ 16 ∧ bytes = htonl e.page ++ (htonl e.number ++ (reserved ++
      (htons (UInt16.ofNat e.value.length) ++ (e.value ++ pad))))

/-- These bytes are exactly a concatenation of entries. -/
def Tiles (bytes : List UInt8) (es : List SetEntry) : Prop :=
  ∃ blocks, bytes = blocks.flatten ∧ List.Forall₂ IsEntry blocks es

theorem IsEntry.length {bytes : List UInt8} {e : SetEntry} (h : IsEntry bytes e) :
    16 ≤ bytes.length ∧ bytes.length % 8 = 0 := by
  obtain ⟨reserved, pad, hres, -, hmod, -, rfl⟩ := h
  refine ⟨?_, hmod⟩
  simp only [List.length_append, htonl_length, htons_length, hres]
  omega

theorem Tiles.length_mod {bytes : List UInt8} {es : List SetEntry} (h : Tiles bytes es) :
    bytes.length % 8 = 0 := by
  obtain ⟨blocks, rfl, h⟩ := h
  induction h with
  | nil => rfl
  | cons he _ ih =>
    have := he.length.2
    rw [List.flatten_cons, List.length_append]
    omega

theorem tiles_nil {es : List SetEntry} : Tiles [] es ↔ es = [] := by
  constructor
  · rintro ⟨blocks, hb, h⟩
    cases h with
    | nil => rfl
    | cons he _ =>
      have hl := congrArg List.length hb
      rw [List.flatten_cons, List.length_append, List.length_nil] at hl
      have := he.length.1
      omega
  · rintro rfl
    exact ⟨[], rfl, .nil⟩

/-! ## What a walk sees -/

/-- From `pos` to `stop`, `indata` holds these entries and nothing else. -/
def Laid (indata : Mem) : Nat → List ListEntry → Nat → Prop
  | pos, [], stop => pos = stop
  | pos, e :: le, stop => e = listEntryAt indata pos ∧ Laid indata (pos + e.size) le stop

section

variable {indata : Mem} {pos stop : Nat} {le : List ListEntry}

theorem ListEntry.size_spec (e : ListEntry) :
    16 ≤ e.size ∧ e.size % 8 = 0 ∧ e.size ≤ e.len.toNat + 23 := by
  unfold ListEntry.size ListEntry.pad LE_VAL_OFF
  omega

theorem Laid.fits (h : Laid indata pos le stop) : pos + 16 * le.length ≤ stop := by
  induction le generalizing pos with
  | nil => exact Nat.le_of_eq h
  | cons e le ih =>
    have hrest := ih h.2
    have hsize := e.size_spec.1
    rw [List.length_cons]
    omega

/-- Every entry lies inside. -/
theorem Laid.mem (h : Laid indata pos le stop) {e : ListEntry} (he : e ∈ le) :
    pos + LE_VAL_OFF ≤ e.cval ∧ e.cval + e.len.toNat + e.pad ≤ stop := by
  induction le generalizing pos with
  | nil => cases he
  | cons e' le ih =>
    obtain ⟨rfl, hrest⟩ := h
    have hle := hrest.fits
    rcases List.mem_cons.1 he with rfl | he
    · have hcval : (listEntryAt indata pos).cval = pos + LE_VAL_OFF := rfl
      have hsize : (listEntryAt indata pos).size = LE_VAL_OFF + (listEntryAt indata pos).len.toNat
        + (listEntryAt indata pos).pad := rfl
      omega
    · have := ih hrest he
      omega

/-- An entry read back: its fields and how far the walk goes on. -/
theorem listEntryAt_of_isEntry {bytes : List UInt8} {e : SetEntry} (h : IsEntry bytes e)
    (hread : indata.read pos bytes.length = bytes) :
    (listEntryAt indata pos).setEntry indata = e ∧ (listEntryAt indata pos).size = bytes.length := by
  obtain ⟨reserved, pad, hres, hpad, hmod, hval, rfl⟩ := h
  obtain ⟨hpage, hread⟩ := Mem.read_append.1 hread
  obtain ⟨hnumber, hread⟩ := Mem.read_append.1 hread
  obtain ⟨-, hread⟩ := Mem.read_append.1 hread
  obtain ⟨hlen, hread⟩ := Mem.read_append.1 hread
  obtain ⟨hvalue, -⟩ := Mem.read_append.1 hread
  rw [htonl_length] at hpage
  rw [htonl_length, htonl_length] at hnumber
  rw [htonl_length, htonl_length, hres, htons_length] at hlen
  rw [htonl_length, htonl_length, hres, htons_length] at hvalue
  have hofs : pos + 4 + 4 + 6 = pos + LE_LEN_OFF := rfl
  have hofv : pos + 4 + 4 + 6 + 2 = pos + LE_VAL_OFF := rfl
  have hl : (listEntryAt indata pos).len = UInt16.ofNat e.value.length := by
    rw [hofs] at hlen
    exact getNtohs_of_read hlen
  have hln : (listEntryAt indata pos).len.toNat = e.value.length := by
    rw [hl, UInt16.toNat_ofNat']
    exact Nat.mod_eq_of_lt hval
  constructor
  · have hp : (listEntryAt indata pos).page = e.page := getNtohl_of_read hpage
    have hn : (listEntryAt indata pos).number = e.number := getNtohl_of_read hnumber
    have hv : indata.read (listEntryAt indata pos).cval (listEntryAt indata pos).len.toNat = e.value := by
      rw [hln]
      rw [hofv] at hvalue
      exact hvalue
    unfold ListEntry.setEntry
    rw [hp, hn, hv]
  · simp only [List.length_append, htonl_length, htons_length, hres] at hmod ⊢
    unfold ListEntry.size ListEntry.pad LE_VAL_OFF
    rw [hln]
    omega

/-- Bytes that are a list are seen as that list. -/
theorem laid_of_tiles {bytes : List UInt8} {es : List SetEntry} (h : Tiles bytes es)
    (hread : indata.read pos bytes.length = bytes) :
    ∃ le, Laid indata pos le (pos + bytes.length) ∧ le.map (ListEntry.setEntry indata) = es := by
  obtain ⟨blocks, rfl, h⟩ := h
  induction h generalizing pos with
  | nil => exact ⟨[], rfl, rfl⟩
  | cons he _ ih =>
    rw [List.flatten_cons] at hread
    obtain ⟨hfirst, hrest⟩ := Mem.read_append.1 hread
    obtain ⟨hentry, hsize⟩ := listEntryAt_of_isEntry he hfirst
    rw [← hsize] at hrest
    obtain ⟨le, hle, hmap⟩ := ih hrest
    refine ⟨listEntryAt indata pos :: le, ⟨rfl, ?_⟩, by rw [List.map_cons, hentry, hmap]⟩
    rw [List.flatten_cons, List.length_append, ← hsize, ← Nat.add_assoc]
    exact hle

/-! ## The walk of the parsers -/

/-- What is left when an entry has been passed. -/
theorem left_sub {e : ListEntry} (h : Laid indata (pos + e.size) le stop) :
    UInt32.ofNat (stop - pos) - UInt32.ofNat e.size = UInt32.ofNat (stop - (pos + e.size)) := by
  have hle := h.fits
  rw [← UInt32.ofNat_sub (by omega), Nat.sub_sub]

theorem left_ne_zero {k : Nat} (h0 : 0 < k) (h : k < 2 ^ 32) : UInt32.ofNat k ≠ 0 := by
  intro hz
  have hz := congrArg UInt32.toNat hz
  rw [UInt32.toNat_ofNat', Nat.mod_eq_of_lt h] at hz
  exact absurd hz (Nat.ne_of_gt h0)

/-- A list that is laid out is walked from entry to entry, up to its end. -/
theorem parse_laid (h : Laid indata pos le stop) (hlt : stop - pos < 2 ^ 32) {n : Nat}
    (hn : le.length ≤ n) (acc : List ListEntry) :
    rounds (parseRound indata) n (pos, UInt32.ofNat (stop - pos), acc) = some (acc ++ le) := by
  induction le generalizing pos n acc with
  | nil =>
    obtain rfl : pos = stop := h
    rw [Nat.sub_self, List.append_nil]
    exact rounds_exit rfl
  | cons e le ih =>
    obtain ⟨he, hrest⟩ := h
    have hle := hrest.fits
    have hsize := e.size_spec.1
    obtain ⟨n, rfl⟩ : ∃ k, n = k + 1 := ⟨n - 1, by simp at hn; omega⟩
    have hstep : parseRound indata (pos, UInt32.ofNat (stop - pos), acc)
        = .next (pos + e.size, UInt32.ofNat (stop - (pos + e.size)), acc ++ [e]) := by
      show (if UInt32.ofNat (stop - pos) = 0 then _ else _) = _
      rw [if_neg (left_ne_zero (by omega) hlt), ← left_sub hrest, he]
    rw [rounds_next hstep, ih hrest (by omega) (Nat.le_of_succ_le_succ hn), List.append_assoc]
    rfl

end

end OsdTarget
