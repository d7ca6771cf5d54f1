import OsdTarget.Cdb
import OsdTarget.Base.Scaled
import Mathlib.Tactic.IntervalCases

/-!
# Offset fields

The 32-bit offset fields of attribute parameters: `set_htonoffset` and `next_offset` of `osd-util.c`
beside `get_ntohoffset`.  A field is a mantissa of 28 bits and a shift of 0 to 15, except that the code
word of all ones, mantissa `0xfffffff` at shift 7, stands for no offset.
-/

namespace OsdTarget

open Base

/-! ## Encoding and the next offset -/

def OFFSET_UNUSED : UInt32 := 0xFFFFFFFF

/-- `max_mantissa`. -/
def MAX_MANTISSA : UInt64 := 0x0fffffff

theorem toNat_halved (x : UInt64) : (x >>> 1).toNat = x.toNat / 2 := by
  rw [UInt64.toNat_shiftRight]
  exact Nat.shiftRight_eq_div_pow _ 1

/-- The loop of `set_htonoffset` and of `next_offset`. -/
def dropBits (val : UInt64) (exponent : Int) : UInt64 × Int :=
  if MAX_MANTISSA < val then dropBits (val >>> 1) (exponent + 1) else (val, exponent)
termination_by val.toNat
decreasing_by
  have hval : 0x0fffffff < val.toNat := UInt64.lt_iff_toNat_lt.1 ‹MAX_MANTISSA < val›
  rw [toNat_halved]
  omega

/-- `set_htonoffset`: the four bytes it stores.  A value with more low bits than fit loses them. -/
def setHtonoffset (val : UInt64) : List UInt8 :=
  let (val, exponent) := dropBits (val >>> 3) (-5)
  if 15 < exponent then List.replicate 4 0
  else htonl (val.toUInt32 ||| UInt32.ofInt exponent <<< 28)

/-- `next_offset` from `recheck` on. -/
def recheck (start val : UInt64) (exponent : Nat) : UInt64 :=
  if 23 < exponent then 0
  else if val <<< UInt64.ofNat exponent < start then
    if (val + 1) &&& ~~~MAX_MANTISSA ≠ 0 then recheck start ((val + 1) >>> 1) (exponent + 1)
    else (val + 1) <<< UInt64.ofNat exponent
  else val <<< UInt64.ofNat exponent
termination_by 24 - exponent

/-- `next_offset`. -/
def nextOffset (start : UInt64) : UInt64 :=
  let (val, exponent) := dropBits (start >>> 3) 3
  recheck start val exponent.toNat

/-! ## What the loop finds -/

theorem dropBits_spec {val : UInt64} {v lo : Nat} (exponent : Int) (hval : val.toNat = v / 2 ^ lo) :
    ∃ s, IsScale (2 ^ 28) lo v s ∧ (dropBits val exponent).1.toNat = v / 2 ^ s ∧
      (dropBits val exponent).2 = exponent + s - lo := by
  fun_induction dropBits val exponent generalizing lo with
  | case1 val exponent hlt ih =>
    have hlarge : 2 ^ 28 * 2 ^ lo ≤ v := by
      have hmax : 0x0fffffff < val.toNat := UInt64.lt_iff_toNat_lt.1 hlt
      exact (Nat.le_div_iff_mul_le (Nat.two_pow_pos lo)).1 (by omega)
    have hhalf : (val >>> 1).toNat = v / 2 ^ (lo + 1) := by
      rw [toNat_halved, hval, Nat.pow_succ, ← Nat.div_div_eq_div_mul]
    obtain ⟨s, hs, hm, he⟩ := ih hhalf
    exact ⟨s, hs.of_succ hlarge, hm, by omega⟩
  | case2 val exponent hle =>
    refine ⟨lo, isScale_of_lt ?_, hval, by omega⟩
    have hmax : val.toNat ≤ 0x0fffffff := UInt64.le_iff_toNat_le.1 (UInt64.not_lt.1 hle)
    exact (Nat.div_lt_iff_lt_mul (Nat.two_pow_pos lo)).1 (by omega)

/-- Both functions start from an eighth of the value. -/
theorem exists_dropBits (x : UInt64) : ∃ s, IsScale (2 ^ 28) 3 x.toNat s ∧
    ∀ exponent, (dropBits (x >>> 3) exponent).1.toNat = x.toNat / 2 ^ s ∧
      (dropBits (x >>> 3) exponent).2 = exponent + s - 3 := by
  have hval : (x >>> 3).toNat = x.toNat / 2 ^ 3 := by
    rw [UInt64.toNat_shiftRight]
    exact Nat.shiftRight_eq_div_pow _ _
  obtain ⟨s, hs, -⟩ := dropBits_spec 0 hval
  refine ⟨s, hs, fun exponent => ?_⟩
  obtain ⟨s', hs', hm, he⟩ := dropBits_spec exponent hval
  obtain rfl : s' = s := hs'.unique hs
  exact ⟨hm, he⟩

/-! ## The two conversions -/

theorem getNtohl_htonl (f : UInt32) : getNtohl (blobMem (htonl f)) 0 = f :=
  getNtohl_of_read ((htonl_length f) ▸ read_blobMem (htonl f))

/-- The value of a field. -/
def fieldValue (f : UInt32) : UInt64 := getNtohoffset (blobMem (htonl f)) 0

theorem fieldValue_toNat {f : UInt32} (h : f ≠ OFFSET_UNUSED) :
    (fieldValue f).toNat = f.toNat % 2 ^ 28 * 2 ^ ((f.toNat / 2 ^ 28 + 8) % 16) := by
  have hm : f.toNat % 2 ^ 28 < 2 ^ 28 := Nat.mod_lt _ (by decide)
  have he : 2 ^ ((f.toNat / 2 ^ 28 + 8) % 16) ≤ 2 ^ 15 :=
    Nat.pow_le_pow_right (by decide) (Nat.le_of_lt_succ (Nat.mod_lt _ (by decide)))
  have hlt := Nat.mul_lt_mul_of_lt_of_le hm he (by decide)
  unfold fieldValue getNtohoffset
  rw [getNtohl_htonl]
  simp only [show f ≠ 0xFFFFFFFF from h, if_false]
  exact UInt64.toNat_ofNat_of_lt' (hlt.trans (by decide))

/-- The field with mantissa `m` and shift `e`. -/
def offsetField (m e : Nat) : UInt32 := UInt32.ofNat (m + (e + 8) % 16 * 2 ^ 28)

section Fields

variable {m e : Nat}

theorem offsetField_toNat (hm : m < 2 ^ 28) : (offsetField m e).toNat = m + (e + 8) % 16 * 2 ^ 28 := by
  have : (e + 8) % 16 < 16 := Nat.mod_lt _ (by decide)
  refine UInt32.toNat_ofNat_of_lt' (show m + (e + 8) % 16 * 2 ^ 28 < 2 ^ 32 by omega)

/-- Only one pair of a mantissa and a shift has no field. -/
theorem offsetField_unused (hm : m < 2 ^ 28) (he : e ≤ 15) :
    offsetField m e = OFFSET_UNUSED ↔ m = 0x0fffffff ∧ e = 7 := by
  rw [← UInt32.toNat_inj, offsetField_toNat hm, show OFFSET_UNUSED.toNat = 0xFFFFFFFF from rfl]
  omega

theorem fieldValue_offsetField (hm : m < 2 ^ 28) (he : e ≤ 15)
    (h : offsetField m e ≠ OFFSET_UNUSED) : (fieldValue (offsetField m e)).toNat = m * 2 ^ e := by
  rw [fieldValue_toNat h, offsetField_toNat hm, show (m + (e + 8) % 16 * 2 ^ 28) % 2 ^ 28 = m by omega,
    show ((m + (e + 8) % 16 * 2 ^ 28) / 2 ^ 28 + 8) % 16 = e by omega]

/-- The exponent in the top four bits, its sign cut off. -/
theorem exponentBits_toNat : ∀ s : Nat, s ≤ 15 →
    (UInt32.ofInt (-5 + (s : Int) - 3) <<< 28).toNat = 2 ^ 28 * ((s + 8) % 16) := by decide

/-- `set_htonoffset` stores the mantissa at the least shift from 3 on. -/
theorem setHtonoffset_eq {v : UInt64} {s : Nat} (hs : IsScale (2 ^ 28) 3 v.toNat s) (h15 : s ≤ 15) :
    setHtonoffset v = htonl (offsetField (v.toNat / 2 ^ s) s) := by
  obtain ⟨s', hs', hdrop⟩ := exists_dropBits v
  obtain rfl : s' = s := hs'.unique hs
  obtain ⟨hm, he⟩ := hdrop (-5)
  have hlt : v.toNat / 2 ^ s' < 2 ^ 28 := (Nat.div_lt_iff_lt_mul (Nat.two_pow_pos s')).2 hs.1.2
  unfold setHtonoffset
  rw [← Prod.eta (dropBits (v >>> 3) (-5)), he]
  simp only [show ¬ (15 : Int) < -5 + s' - 3 by omega, if_false]
  congr 1
  rw [← UInt32.toNat_inj, offsetField_toNat hlt, UInt32.toNat_or, UInt64.toNat_toUInt32, hm]
  rw [exponentBits_toNat s' h15, Nat.mod_eq_of_lt (hlt.trans (by decide)), Nat.or_comm,
    ← Nat.two_pow_add_eq_or_of_lt hlt]
  omega

end Fields

/-! ## What `next_offset` returns -/

theorem toNat_scaled {x : UInt64} {e : Nat} (he : e ≤ 23) (hx : x.toNat ≤ 2 ^ 28) :
    (x <<< UInt64.ofNat e).toNat = x.toNat * 2 ^ e := by
  have hpow : 2 ^ e ≤ 2 ^ 23 := Nat.pow_le_pow_right (by decide) he
  have hlt : x.toNat * 2 ^ e < 2 ^ 64 := (Nat.mul_le_mul hx hpow).trans_lt (by decide)
  rw [UInt64.toNat_shiftLeft, UInt64.toNat_ofNat_of_lt' (he.trans_lt (by decide)), Nat.mod_eq_of_lt (he.trans_lt (by decide)),
    Nat.shiftLeft_eq, Nat.mod_eq_of_lt hlt]

theorem toNat_succ {x : UInt64} (hx : x.toNat < 2 ^ 28) : (x + 1).toNat = x.toNat + 1 := by
  rw [UInt64.toNat_add]
  exact Nat.mod_eq_of_lt (show x.toNat + 1 < 2 ^ 64 by omega)

/-- The test `val & ~max_mantissa` after `val += 1`. -/
theorem carry_iff {x : UInt64} (hx : x.toNat < 2 ^ 28) :
    (x + 1) &&& ~~~MAX_MANTISSA = 0 ↔ x.toNat + 1 < 2 ^ 28 := by
  have hsucc := toNat_succ hx
  constructor
  · intro h
    rcases Nat.lt_or_eq_of_le (Nat.succ_le_of_lt hx) with hlt | heq
    · exact hlt
    · rw [show x + 1 = 0x10000000 from UInt64.toNat_inj.1 (hsucc.trans heq)] at h
      exact absurd h (by decide)
  · intro h
    have hmask : (x + 1) &&& MAX_MANTISSA = x + 1 := by
      rw [← UInt64.toNat_inj, UInt64.toNat_and, show MAX_MANTISSA.toNat = 2 ^ 28 - 1 from rfl,
        Nat.and_two_pow_sub_one_eq_mod, hsucc, Nat.mod_eq_of_lt h]
    rw [← hmask, UInt64.and_assoc, show MAX_MANTISSA &&& ~~~MAX_MANTISSA = 0 by decide, UInt64.and_zero]

theorem recheck_of_le {start x : UInt64} {e : Nat} (he : e ≤ 23) (hx : x.toNat ≤ 2 ^ 28)
    (h : start.toNat ≤ x.toNat * 2 ^ e) : (recheck start x e).toNat = x.toNat * 2 ^ e := by
  have hshift := toNat_scaled he hx
  rw [recheck, if_neg (Nat.not_lt.2 he), if_neg, hshift]
  rw [UInt64.lt_iff_toNat_lt, hshift]
  exact Nat.not_lt.2 h

/-- What `recheck` comes to with the mantissa and the exponent of the first loop. -/
theorem recheck_toNat {start val : UInt64} {s : Nat} (hs : IsScale (2 ^ 28) 3 start.toNat s)
    (hval : val.toNat = start.toNat / 2 ^ s) :
    (recheck start val s).toNat =
      if start.toNat ≤ (2 ^ 28 - 1) * 2 ^ 23 then roundUp s start.toNat else 0 := by
  have hm : val.toNat < 2 ^ 28 := hval ▸ (Nat.div_lt_iff_lt_mul (Nat.two_pow_pos s)).2 hs.1.2
  have hdiv : val.toNat * 2 ^ s ≤ start.toNat := hval ▸ Nat.div_mul_le_self _ _
  have hnext : start.toNat < (val.toNat + 1) * 2 ^ s := by
    rw [hval, Nat.add_mul, Nat.one_mul]
    exact Nat.lt_div_mul_add (Nat.two_pow_pos s)
  by_cases hlarge : 23 < s
  · -- a mantissa at the last exponent would do, were `start` at most the last value
    rw [recheck, if_pos hlarge, if_neg]
    · rfl
    · intro hle
      have hs' := hs.2 (show 3 ≤ 23 ∧ start.toNat < 2 ^ 28 * 2 ^ 23 from ⟨by decide, by omega⟩)
      omega
  have hpow : 2 ^ s ≤ 2 ^ 23 := Nat.pow_le_pow_right (by decide) (Nat.not_lt.1 hlarge)
  have hshift := toNat_scaled (Nat.not_lt.1 hlarge) hm.le
  rcases Nat.lt_or_eq_of_le hdiv with hlt | heq
  · have hup : roundUp s start.toNat = (val.toNat + 1) * 2 ^ s := by
      refine (roundUp_eq_iff (Nat.dvd_mul_left _ _)).2 ⟨hnext.le, ?_⟩
      rw [Nat.add_mul, Nat.one_mul]
      omega
    have hsucc := toNat_succ hm
    rw [recheck, if_neg hlarge, if_pos (UInt64.lt_iff_toNat_lt.2 (hshift ▸ hlt))]
    by_cases hcarry : val.toNat + 1 < 2 ^ 28
    · have hle : start.toNat ≤ (2 ^ 28 - 1) * 2 ^ 23 :=
        hnext.le.trans (Nat.mul_le_mul (Nat.le_sub_one_of_lt hcarry) hpow)
      rw [if_neg (not_not.2 ((carry_iff hm).2 hcarry)), toNat_scaled (Nat.not_lt.1 hlarge) (by omega), hsucc,
        if_pos hle, hup]
    · -- the mantissa has become `2 ^ 28`, half of which goes with the next exponent
      have hhalf : ((val + 1) >>> 1).toNat = 2 ^ 27 := by
        rw [toNat_halved, hsucc]
        omega
      rw [if_pos (mt (carry_iff hm).1 hcarry)]
      have hfull : val.toNat + 1 = 2 ^ 28 := by omega
      rw [hfull] at hnext hup
      by_cases hlast : s = 23
      · subst hlast
        rw [recheck, if_pos (by decide), if_neg]
        · rfl
        · rw [show val.toNat = 2 ^ 28 - 1 by omega] at hlt
          exact Nat.not_le.2 hlt
      · have hpow' : 2 ^ (s + 1) ≤ 2 ^ 23 := Nat.pow_le_pow_right (by decide) (by omega)
        have hdouble : 2 ^ 27 * 2 ^ (s + 1) = 2 ^ 28 * 2 ^ s := by ring
        rw [recheck_of_le (by omega) (by omega) (by rw [hhalf, hdouble]; exact hnext.le), hhalf, hdouble, hup,
          if_pos]
        omega
  · have hup : roundUp s start.toNat = val.toNat * 2 ^ s :=
      (roundUp_eq_iff (Nat.dvd_mul_left _ _)).2 ⟨heq.ge, by have := Nat.two_pow_pos s; omega⟩
    rw [recheck_of_le (Nat.not_lt.1 hlarge) hm.le heq.ge, hup, if_pos]
    exact heq.ge.trans (Nat.mul_le_mul (Nat.le_sub_one_of_lt hm) hpow)

theorem nextOffset_toNat {start : UInt64} {s : Nat} (hs : IsScale (2 ^ 28) 3 start.toNat s) :
    (nextOffset start).toNat =
      if start.toNat ≤ (2 ^ 28 - 1) * 2 ^ 23 then roundUp s start.toNat else 0 := by
  obtain ⟨s', hs', hdrop⟩ := exists_dropBits start
  obtain rfl : s' = s := hs'.unique hs
  obtain ⟨hm, he⟩ := hdrop 3
  unfold nextOffset
  rw [← Prod.eta (dropBits (start >>> 3) 3), he]
  simp only [show ((3 : Int) + s' - 3).toNat = s' by omega]
  exact recheck_toNat hs hm

/-! ## Legal offsets -/

/-- A multiple of 8 that `get_ntohoffset` returns for some field in use. -/
def LegalOffset (v : UInt64) : Prop := 8 ∣ v.toNat ∧ ∃ f, f ≠ OFFSET_UNUSED ∧ fieldValue f = v

/-- The one value whose field would be the reserved code word. -/
def reservedOffset : Nat := 0x0fffffff * 2 ^ 7

theorem eq_of_mul_pow_eq_reserved {m e : Nat} (hm : m < 2 ^ 28) (he : e ≤ 15)
    (h : m * 2 ^ e = reservedOffset) : m = 0x0fffffff ∧ e = 7 := by
  rw [reservedOffset] at h
  interval_cases e <;> omega

theorem legalOffset_iff {v : UInt64} :
    LegalOffset v ↔ Scaled (2 ^ 28) 3 15 v.toNat ∧ v.toNat ≠ reservedOffset := by
  constructor
  · rintro ⟨h8, f, hf, rfl⟩
    have hm : f.toNat % 2 ^ 28 < 2 ^ 28 := Nat.mod_lt _ (by decide)
    have he : (f.toNat / 2 ^ 28 + 8) % 16 ≤ 15 := Nat.le_of_lt_succ (Nat.mod_lt _ (by decide))
    have hv := fieldValue_toNat hf
    rw [hv] at h8 ⊢
    refine ⟨?_, fun h => hf ?_⟩
    · rcases Nat.lt_or_ge ((f.toNat / 2 ^ 28 + 8) % 16) 3 with hlt | hge
      · -- below shift 3 an eighth of the value is a mantissa of its own
        have hpow : 2 ^ ((f.toNat / 2 ^ 28 + 8) % 16) ≤ 2 ^ 2 :=
          Nat.pow_le_pow_right (by decide) (Nat.le_of_lt_succ hlt)
        obtain ⟨k, hk⟩ := h8
        have := Nat.mul_le_mul hm.le hpow
        exact ⟨k, 3, by omega, le_rfl, by decide, hk.trans (Nat.mul_comm 8 k)⟩
      · exact ⟨_, _, hm, hge, he, rfl⟩
    · obtain ⟨hm', he'⟩ := eq_of_mul_pow_eq_reserved hm he h
      rw [← UInt32.toNat_inj, show OFFSET_UNUSED.toNat = 0xFFFFFFFF from rfl]
      have := f.toNat_lt
      omega
  · rintro ⟨⟨m, e, hm, hlo, hhi, hv⟩, hres⟩
    have hused : offsetField m e ≠ OFFSET_UNUSED := by
      rw [ne_eq, offsetField_unused hm hhi]
      rintro ⟨rfl, rfl⟩
      exact hres hv
    refine ⟨?_, offsetField m e, hused, ?_⟩
    · rw [hv]
      exact (Nat.pow_dvd_pow 2 hlo).mul_left m
    · rw [← UInt64.toNat_inj, fieldValue_offsetField hm hhi hused, hv]

/-- `set_htonoffset` of a legal offset stores a field in use that has this value. -/
theorem LegalOffset.setHtonoffset {v : UInt64} (h : LegalOffset v) :
    ∃ f, f ≠ OFFSET_UNUSED ∧ setHtonoffset v = htonl f ∧ fieldValue f = v := by
  obtain ⟨hv, hres⟩ := legalOffset_iff.1 h
  obtain ⟨s, hs, -⟩ := exists_dropBits v
  obtain ⟨h15, m, hm⟩ := hs.scaled_iff.1 hv
  have hdiv : v.toNat / 2 ^ s = m := by rw [hm, Nat.mul_div_cancel_left m (Nat.two_pow_pos s)]
  have hlt : m < 2 ^ 28 := hdiv ▸ (Nat.div_lt_iff_lt_mul (Nat.two_pow_pos s)).2 hs.1.2
  have hused : offsetField m s ≠ OFFSET_UNUSED := by
    rw [ne_eq, offsetField_unused hlt h15]
    rintro ⟨rfl, rfl⟩
    exact hres (hm.trans (Nat.mul_comm _ _))
  refine ⟨offsetField m s, hused, hdiv ▸ setHtonoffset_eq hs h15, ?_⟩
  rw [← UInt64.toNat_inj, fieldValue_offsetField hlt h15 hused, hm, Nat.mul_comm]

theorem htonl_inj {f f' : UInt32} (h : htonl f = htonl f') : f = f' := by
  have hread := congrArg (fun l => getNtohl (blobMem l) 0) h
  rwa [getNtohl_htonl, getNtohl_htonl] at hread

/-- Fields of multiples of 8 re-encode without loss, and two of them have the same value exactly when they
re-encode to the same field. -/
theorem setHtonoffset_canonical {f : UInt32} (hf : f ≠ OFFSET_UNUSED) (h8 : 8 ∣ (fieldValue f).toNat) :
    setHtonoffset (fieldValue f) ≠ htonl OFFSET_UNUSED ∧
    getNtohoffset (blobMem (setHtonoffset (fieldValue f))) 0 = fieldValue f ∧
    ∀ f', f' ≠ OFFSET_UNUSED → 8 ∣ (fieldValue f').toNat →
      (fieldValue f = fieldValue f' ↔ setHtonoffset (fieldValue f) = setHtonoffset (fieldValue f')) := by
  obtain ⟨g, hg, heq, hv⟩ := LegalOffset.setHtonoffset ⟨h8, f, hf, rfl⟩
  rw [heq]
  refine ⟨fun h => hg (htonl_inj h), hv, fun f' hf' h8' => ?_⟩
  obtain ⟨g', -, heq', hv'⟩ := LegalOffset.setHtonoffset ⟨h8', f', hf', rfl⟩
  rw [heq']
  constructor
  · intro h
    rw [← heq, ← heq', h]
  · intro h
    rw [← hv, ← hv', htonl_inj h]

/-- Mantissa 16 at shift 7. -/
theorem setHtonoffset_canonical_shifted :
    setHtonoffset (fieldValue 0xF0000010) ≠ htonl OFFSET_UNUSED ∧
    getNtohoffset (blobMem (setHtonoffset (fieldValue 0xF0000010))) 0 = fieldValue 0xF0000010 ∧
    ∀ f', f' ≠ OFFSET_UNUSED → 8 ∣ (fieldValue f').toNat →
      (fieldValue 0xF0000010 = fieldValue f' ↔
        setHtonoffset (fieldValue 0xF0000010) = setHtonoffset (fieldValue f')) :=
  setHtonoffset_canonical (by decide) (by decide +kernel)

/-! ## The least legal offset -/

/-- What is asked of `next_offset`. -/
structure FindsNext (start : UInt64) : Prop where
  least : (∃ v, LegalOffset v ∧ start ≤ v) → IsLeast {v | LegalOffset v ∧ start ≤ v} (nextOffset start) ∧
    getNtohoffset (blobMem (setHtonoffset (nextOffset start))) 0 = nextOffset start
  none : (¬ ∃ v, LegalOffset v ∧ start ≤ v) → nextOffset start = 0

/-- The largest legal offset. -/
theorem legalOffset_last : LegalOffset 0x7ffffff8000 :=
  legalOffset_iff.2 ⟨⟨0x0fffffff, 15, by decide, by decide, le_rfl, rfl⟩, by decide⟩

theorem exists_legalOffset {start : UInt64} :
    (∃ v, LegalOffset v ∧ start ≤ v) ↔ start ≤ 0x7ffffff8000 := by
  refine ⟨fun ⟨v, hv, hle⟩ => UInt64.le_trans hle ?_, fun h => ⟨_, legalOffset_last, h⟩⟩
  obtain ⟨m, e, hm, -, he, heq⟩ := (legalOffset_iff.1 hv).1
  rw [UInt64.le_iff_toNat_le, heq]
  exact Nat.mul_le_mul (Nat.le_sub_one_of_lt hm) (Nat.pow_le_pow_right (by decide) he)

theorem nextOffset_of_le {start : UInt64} (h : start ≤ 0x7ffffff8000) :
    IsLeast {u | Scaled (2 ^ 28) 3 15 u ∧ start.toNat ≤ u} (nextOffset start).toNat := by
  obtain ⟨s, hs, -⟩ := exists_dropBits start
  have hle := UInt64.le_iff_toNat_le.1 h
  rw [nextOffset_toNat hs, if_pos (hle.trans (by decide))]
  exact hs.isLeast_roundUp (by decide) (by decide) hle

/-- The last scaled number in front of the reserved one. -/
theorem le_of_scaled_lt_reserved {u : Nat} (hu : Scaled (2 ^ 28) 3 15 u) (h : u < reservedOffset) :
    u ≤ 0x0ffffffe * 2 ^ 7 := by
  obtain ⟨m, e, hm, hlo, hhi, rfl⟩ := hu
  rw [reservedOffset] at h
  interval_cases e <;> omega

theorem nextOffset_reserved {start : UInt64} (h : start ≤ 0x7ffffff8000) :
    (nextOffset start).toNat = reservedOffset ↔ 0x7ffffff00 < start ∧ start ≤ 0x7ffffff80 := by
  obtain ⟨⟨hscaled, hle⟩, hleast⟩ := nextOffset_of_le h
  rw [UInt64.lt_iff_toNat_lt, UInt64.le_iff_toNat_le]
  have hreserved : Scaled (2 ^ 28) 3 15 reservedOffset :=
    ⟨0x0fffffff, 7, by decide, by decide, by decide, rfl⟩
  have hbefore : Scaled (2 ^ 28) 3 15 (0x0ffffffe * 2 ^ 7) :=
    ⟨0x0ffffffe, 7, by decide, by decide, by decide, rfl⟩
  constructor
  · intro heq
    refine ⟨Nat.lt_of_not_le fun hsmall => ?_, hle.trans heq.le⟩
    have := hleast ⟨hbefore, hsmall⟩
    rw [heq] at this
    exact absurd this (by decide)
  · rintro ⟨hgt, hle'⟩
    refine (Nat.le_antisymm (hleast ⟨hreserved, hle'⟩) (Nat.le_of_not_lt fun hlt => ?_))
    exact absurd (hle.trans (le_of_scaled_lt_reserved hscaled hlt)) (Nat.not_le.2 hgt)

/-- **`next_offset` returns the least legal offset**, unless rounding comes to the reserved code word.  Past
the last legal offset it goes on to shift 23, as if the exponent had no sign. -/
theorem nextOffset_finds_iff (start : UInt64) : FindsNext start ↔
    start ≤ 0x7ffffff00 ∨ (0x7ffffff80 < start ∧ start ≤ 0x7ffffff8000) ∨ 0x7ffffff800000 < start := by
  by_cases hlast : start ≤ 0x7ffffff8000
  · have hleast := nextOffset_of_le hlast
    have hfinds : FindsNext start ↔ LegalOffset (nextOffset start) := by
      refine ⟨fun h => (h.least (exists_legalOffset.2 hlast)).1.1.1, fun hlegal => ⟨fun _ => ⟨⟨?_, ?_⟩, ?_⟩, ?_⟩⟩
      · exact ⟨hlegal, UInt64.le_iff_toNat_le.2 hleast.1.2⟩
      · intro v hv
        exact UInt64.le_iff_toNat_le.2
          (hleast.2 ⟨(legalOffset_iff.1 hv.1).1, UInt64.le_iff_toNat_le.1 hv.2⟩)
      · obtain ⟨f, -, heq, hv⟩ := hlegal.setHtonoffset
        rw [heq]
        exact hv
      · exact fun h => absurd (exists_legalOffset.2 hlast) h
    rw [hfinds, legalOffset_iff, and_iff_right hleast.1.1, ne_eq, nextOffset_reserved hlast]
    rw [UInt64.le_iff_toNat_le] at hlast
    simp only [UInt64.lt_iff_toNat_lt, UInt64.le_iff_toNat_le, UInt64.reduceToNat] at hlast ⊢
    omega
  · have hfinds : FindsNext start ↔ nextOffset start = 0 :=
      ⟨fun h => h.none (mt exists_legalOffset.1 hlast),
        fun h => ⟨fun hex => absurd (exists_legalOffset.1 hex) hlast, fun _ => h⟩⟩
    obtain ⟨s, hs, -⟩ := exists_dropBits start
    have hup := le_roundUp s start.toNat
    rw [hfinds, ← UInt64.toNat_inj, nextOffset_toNat hs]
    simp only [UInt64.lt_iff_toNat_lt, UInt64.le_iff_toNat_le, UInt64.reduceToNat] at hlast ⊢
    split <;> omega

/-- The reserved code word itself: the offset is returned, and its field reads back as no offset. -/
theorem not_findsNext_reserved : ¬ FindsNext 0x7ffffff80 := by
  intro h
  have hround := (h.least (exists_legalOffset.2 (by decide))).2
  exact absurd hround (by decide +kernel)

end OsdTarget
