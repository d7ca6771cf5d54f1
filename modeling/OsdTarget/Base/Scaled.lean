import Mathlib.Algebra.Order.Floor.Div
import Mathlib.Algebra.Group.Even
import Mathlib.Tactic.Ring

/-!
# Scaled numbers

Natural numbers that are a mantissa below a bound times a power of two.  A number has many such forms;
the one with the least exponent tells whether there is any, and rounding up to a multiple of its power
gives the next number that has one.
-/

namespace OsdTarget.Base

/-- A mantissa below `M` times a power of two with an exponent from `lo` to `hi`. -/
def Scaled (M lo hi v : ℕ) : Prop := ∃ m e, m < M ∧ lo ≤ e ∧ e ≤ hi ∧ v = m * 2 ^ e

/-- The least exponent from `lo` on at which a mantissa below `M` reaches past `v`. -/
def IsScale (M lo v s : ℕ) : Prop := IsLeast {e | lo ≤ e ∧ v < M * 2 ^ e} s

/-- The least multiple of `2 ^ s` from `v` on. -/
def roundUp (s v : ℕ) : ℕ := v ⌈/⌉ 2 ^ s * 2 ^ s

variable {M lo hi s u v : ℕ}

/-! ## The least exponent -/

theorem isScale_of_lt (h : v < M * 2 ^ lo) : IsScale M lo v lo := ⟨⟨le_rfl, h⟩, fun _ he => he.1⟩

theorem IsScale.of_succ (h : M * 2 ^ lo ≤ v) (hs : IsScale M (lo + 1) v s) : IsScale M lo v s := by
  refine ⟨⟨Nat.le_of_succ_le hs.1.1, hs.1.2⟩, ?_⟩
  rintro e ⟨hlo, hv⟩
  refine hs.2 ⟨?_, hv⟩
  rcases Nat.eq_or_lt_of_le hlo with rfl | hlt
  · exact absurd hv (Nat.not_lt.2 h)
  · exact hlt

theorem Scaled.lt (h : Scaled M lo hi v) : v < M * 2 ^ hi := by
  obtain ⟨m, e, hm, -, hhi, rfl⟩ := h
  exact Nat.mul_lt_mul_of_lt_of_le hm (Nat.pow_le_pow_right (by omega) hhi) (Nat.two_pow_pos _)

theorem IsScale.scaled_iff (h : IsScale M lo v s) : Scaled M lo hi v ↔ s ≤ hi ∧ 2 ^ s ∣ v := by
  constructor
  · rintro ⟨m, e, hm, hlo, hhi, rfl⟩
    have hse : s ≤ e := h.2 ⟨hlo, Nat.mul_lt_mul_of_pos_right hm (Nat.two_pow_pos _)⟩
    exact ⟨hse.trans hhi, (Nat.pow_dvd_pow 2 hse).mul_left m⟩
  · rintro ⟨hhi, m, rfl⟩
    have hlt := h.1.2
    rw [Nat.mul_comm M] at hlt
    exact ⟨m, s, Nat.lt_of_mul_lt_mul_left hlt, h.1.1, hhi, Nat.mul_comm _ _⟩

/-! ## Rounding up -/

theorem le_roundUp (s v : ℕ) : v ≤ roundUp s v := by
  have h : v ≤ 2 ^ s * (v ⌈/⌉ 2 ^ s) := (ceilDiv_le_iff_le_mul (Nat.two_pow_pos _)).1 le_rfl
  rwa [Nat.mul_comm] at h

theorem dvd_roundUp (s v : ℕ) : 2 ^ s ∣ roundUp s v := Nat.dvd_mul_left _ _

theorem roundUp_le_of_dvd (hd : 2 ^ s ∣ u) (h : v ≤ u) : roundUp s v ≤ u := by
  obtain ⟨c, rfl⟩ := hd
  have hc : v ⌈/⌉ 2 ^ s ≤ c := (ceilDiv_le_iff_le_mul (Nat.two_pow_pos _)).2 h
  exact (Nat.mul_le_mul_right _ hc).trans_eq (Nat.mul_comm _ _)

/-- Rounding up stays below the next multiple. -/
theorem roundUp_lt (s v : ℕ) : roundUp s v < v + 2 ^ s := by
  have hs : 0 < 2 ^ s := Nat.two_pow_pos s
  rw [roundUp, Nat.ceilDiv_eq_add_pred_div]
  have := Nat.div_mul_le_self (v + 2 ^ s - 1) (2 ^ s)
  omega

theorem roundUp_eq_iff (hd : 2 ^ s ∣ u) : roundUp s v = u ↔ v ≤ u ∧ u < v + 2 ^ s := by
  constructor
  · rintro rfl
    exact ⟨le_roundUp s v, roundUp_lt s v⟩
  · rintro ⟨hle, hlt⟩
    obtain ⟨a, rfl⟩ := hd
    obtain ⟨b, hb⟩ := dvd_roundUp s v
    have h₁ : 2 ^ s * b ≤ 2 ^ s * a := hb ▸ roundUp_le_of_dvd (Nat.dvd_mul_right _ a) hle
    have h₂ : 2 ^ s * a < 2 ^ s * (b + 1) := by
      have := le_roundUp s v
      rw [Nat.mul_add]
      omega
    have hs : 0 < 2 ^ s := Nat.two_pow_pos s
    have hba := Nat.le_of_mul_le_mul_left h₁ hs
    have hab := Nat.lt_of_mul_lt_mul_left h₂
    rw [hb, show b = a by omega]

/-- With the least exponent no scaled number is passed over. -/
theorem IsScale.roundUp_le (hs : IsScale M lo v s) (hu : Scaled M lo hi u) (h : v ≤ u) :
    roundUp s v ≤ u := by
  obtain ⟨m, e, hm, hlo, -, rfl⟩ := hu
  have hse : s ≤ e := hs.2 ⟨hlo, h.trans_lt (Nat.mul_lt_mul_of_pos_right hm (Nat.two_pow_pos _))⟩
  exact roundUp_le_of_dvd ((Nat.pow_dvd_pow 2 hse).mul_left m) h

/-- A mantissa that reaches `M` by rounding goes on at the next exponent. -/
theorem IsScale.scaled_roundUp (hM : Even M) (hs : IsScale M lo v s) (hlo : lo ≤ hi)
    (h : roundUp s v < M * 2 ^ hi) : Scaled M lo hi (roundUp s v) := by
  have hhi : s ≤ hi := hs.2 ⟨hlo, (le_roundUp s v).trans_lt h⟩
  have hle : v ⌈/⌉ 2 ^ s ≤ M :=
    (ceilDiv_le_iff_le_mul (Nat.two_pow_pos _)).2 (hs.1.2.le.trans_eq (Nat.mul_comm _ _))
  rcases Nat.lt_or_eq_of_le hle with hlt | heq
  · exact ⟨_, s, hlt, hs.1.1, hhi, rfl⟩
  · obtain ⟨k, hk⟩ := hM
    have hpos : 0 < M := Nat.pos_of_mul_pos_right (Nat.zero_lt_of_lt hs.1.2)
    rw [roundUp, heq] at h ⊢
    have hlt : s < hi := (Nat.pow_lt_pow_iff_right Nat.one_lt_two).1 (Nat.lt_of_mul_lt_mul_left h)
    refine ⟨k, s + 1, by omega, Nat.le_succ_of_le hs.1.1, hlt, ?_⟩
    rw [hk, Nat.pow_succ]
    ring

/-- Rounding up gives the next scaled number, as long as there is one. -/
theorem IsScale.isLeast_roundUp (hM : Even M) (hs : IsScale M lo v s) (hlo : lo ≤ hi)
    (h : v ≤ (M - 1) * 2 ^ hi) : IsLeast {u | Scaled M lo hi u ∧ v ≤ u} (roundUp s v) := by
  have hpos : 0 < M := Nat.pos_of_mul_pos_right (Nat.zero_lt_of_lt hs.1.2)
  have hlast : Scaled M lo hi ((M - 1) * 2 ^ hi) := ⟨M - 1, hi, by omega, hlo, le_rfl, rfl⟩
  have hle := hs.roundUp_le hlast h
  exact ⟨⟨hs.scaled_roundUp hM hlo (hle.trans_lt hlast.lt), le_roundUp s v⟩,
    fun u hu => hs.roundUp_le hu.1 hu.2⟩

end OsdTarget.Base
