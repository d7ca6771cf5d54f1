import Mathlib.Algebra.Group.Nat.Defs
import Mathlib.Data.List.Basic
import Mathlib.Data.Nat.Log

/-!
# Numerals

The digits of a number in a base up to 16, as `printf` writes them, and that they tell the number.
-/

namespace OsdTarget.Base

/-- The digits of a number, without leading zeros. -/
def numeral (b n : Nat) : List Char := Nat.toDigits b n

/-- Digits with leading zeros up to a width. -/
def padded (width : Nat) (l : List Char) : List Char := List.replicate (width - l.length) '0' ++ l

/-- The value of a digit, `0` to `9` or `a` to `f`. -/
def digitValue (c : Char) : Nat := if c.toNat < 58 then c.toNat - 48 else c.toNat - 87

/-- The number that digits tell, with leading zeros or without. -/
def numeralValue (b : Nat) (l : List Char) : Nat := l.foldl (fun v c => b * v + digitValue c) 0

section

variable {b n m : Nat}

theorem numeral_of_lt (h : n < b) : numeral b n = [n.digitChar] := Nat.toDigits_of_lt_base h

theorem numeral_of_le (hb : 1 < b) (h : b ≤ n) : numeral b n = numeral b (n / b) ++ [(n % b).digitChar] :=
  Nat.toDigits_of_base_le hb h

theorem numeral_ne_nil : numeral b n ≠ [] := Nat.toDigits_ne_nil

/-- Induction along the digits: a number of one digit, or one with a last digit. -/
theorem digits_induction {P : Nat → Prop} (hb : 1 < b) (one : ∀ n < b, P n)
    (more : ∀ n, b ≤ n → P (n / b) → P n) (n : Nat) : P n := by
  induction n using Nat.strongRecOn with
  | _ n ih =>
    by_cases h : n < b
    · exact one n h
    · exact more n (Nat.le_of_not_lt h) (ih _ (Nat.div_lt_self (by omega) hb))

/-- Every character of a numeral is a digit. -/
theorem mem_numeral (hb : 1 < b) {c : Char} (h : c ∈ numeral b n) : ∃ d < b, c = d.digitChar := by
  induction n using digits_induction hb with
  | one n hn =>
    rw [numeral_of_lt hn, List.mem_singleton] at h
    exact ⟨n, hn, h⟩
  | more n hn ih =>
    rw [numeral_of_le hb hn, List.mem_append, List.mem_singleton] at h
    rcases h with h | h
    · exact ih h
    · exact ⟨n % b, Nat.mod_lt _ (by omega), h⟩

theorem digitValue_digitChar : ∀ d < 16, digitValue d.digitChar = d := by decide

theorem numeralValue_append_singleton (l : List Char) (c : Char) :
    numeralValue b (l ++ [c]) = b * numeralValue b l + digitValue c := List.foldl_concat ..

theorem numeralValue_numeral (hb : 1 < b) (h16 : b ≤ 16) : numeralValue b (numeral b n) = n := by
  induction n using digits_induction hb with
  | one n hn =>
    rw [numeral_of_lt hn, ← List.nil_append [n.digitChar], numeralValue_append_singleton,
      digitValue_digitChar n (by omega)]
    exact Nat.zero_add n
  | more n hn ih =>
    have hd := Nat.mod_lt n (by omega : 0 < b)
    rw [numeral_of_le hb hn, numeralValue_append_singleton, ih, digitValue_digitChar _ (by omega)]
    exact Nat.div_add_mod n b

/-- Leading zeros do not change the value. -/
theorem numeralValue_padded (width : Nat) (l : List Char) :
    numeralValue b (padded width l) = numeralValue b l := by
  have hzeros : ∀ k, numeralValue b (List.replicate k '0') = 0 := by
    intro k
    induction k with
    | zero => rfl
    | succ k ih =>
      rw [List.replicate_succ', numeralValue_append_singleton, ih]
      rfl
  unfold padded numeralValue at *
  rw [List.foldl_append, hzeros]

/-- Numerals tell the number. -/
theorem numeral_inj (hb : 1 < b) (h16 : b ≤ 16) (h : numeral b m = numeral b n) : m = n := by
  rw [← numeralValue_numeral hb h16 (n := m), h, numeralValue_numeral hb h16]

theorem padded_numeral_inj {width : Nat} (hb : 1 < b) (h16 : b ≤ 16)
    (h : padded width (numeral b m) = padded width (numeral b n)) : m = n := by
  rw [← numeralValue_numeral hb h16 (n := m), ← numeralValue_padded width, h, numeralValue_padded,
    numeralValue_numeral hb h16]

/-- The characters of a padded numeral are digits, too. -/
theorem mem_padded_numeral {width : Nat} (hb : 1 < b) {c : Char} (h : c ∈ padded width (numeral b n)) :
    ∃ d < b, c = d.digitChar := by
  rcases List.mem_append.1 h with h | h
  · exact ⟨0, by omega, List.eq_of_mem_replicate h⟩
  · exact mem_numeral hb h

theorem length_padded (width : Nat) (l : List Char) : (padded width l).length = max width l.length := by
  unfold padded
  rw [List.length_append, List.length_replicate]
  omega

/-- A number below the power has at most that many digits. -/
theorem length_numeral_le {k : Nat} (hb : 1 < b) (hk : 0 < k) (h : n < b ^ k) : (numeral b n).length ≤ k :=
  (Nat.length_toDigits_le_iff hb hk).2 h

theorem length_numeral (hb : 1 < b) : (numeral b n).length = Nat.log b n + 1 := by
  have hle : ∀ k, (numeral b n).length ≤ k + 1 ↔ Nat.log b n ≤ k := by
    intro k
    rw [numeral, Nat.length_toDigits_le_iff hb k.succ_pos, ← Nat.lt_succ_iff]
    exact ⟨Nat.log_lt_of_lt_pow' k.succ_ne_zero, Nat.lt_pow_of_log_lt hb⟩
  have hpos := List.length_pos_iff.2 (numeral_ne_nil (b := b) (n := n))
  have hupper := (hle (Nat.log b n)).2 (Nat.le_refl _)
  have hlower := (hle ((numeral b n).length - 1)).1 (by omega)
  omega

/-- Two words that a separator ends are the same words. -/
theorem append_sep_inj {sep : Char} {k l k' l' : List Char} (hk : sep ∉ k) (hl : sep ∉ l)
    (h : k ++ sep :: k' = l ++ sep :: l') : k = l ∧ k' = l' := by
  induction k generalizing l with
  | nil =>
    cases l with
    | nil => exact ⟨rfl, (List.cons.inj h).2⟩
    | cons c l => exact absurd ((List.cons.inj h).1 ▸ List.mem_cons_self) hl
  | cons c k ih =>
    cases l with
    | nil => exact absurd ((List.cons.inj h).1 ▸ List.mem_cons_self) hk
    | cons d l =>
      obtain ⟨rfl, htail⟩ := List.cons.inj h
      obtain ⟨rfl, rfl⟩ := ih (fun hc => hk (List.mem_cons_of_mem _ hc))
        (fun hc => hl (List.mem_cons_of_mem _ hc)) htail
      exact ⟨rfl, rfl⟩

end

end OsdTarget.Base
