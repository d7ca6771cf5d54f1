import Mathlib.Algebra.Group.Int.Defs
import Mathlib.Algebra.GroupWithZero.Nat
import Mathlib.Tactic.Common
import Mathlib.Data.List.Induction

/-!
# Byte strings and byte memories

Big-endian numbers as lists of bytes, and a memory as a total function from addresses to bytes.
Reading past what a program was given is then a read of whatever the memory holds there, and a
program's reads can be bounded by saying that its result does not depend on the bytes outside a
range.
-/

namespace OsdTarget.Base

/-- The number a list of bytes denotes, most significant byte first. -/
def beNat (l : List UInt8) : Nat := l.foldl (fun a b => a * 256 + b.toNat) 0

/-- The `n` low-order bytes of `k`, most significant byte first. -/
def natBe : Nat → Nat → List UInt8
  | 0, _ => []
  | n + 1, k => natBe n (k / 256) ++ [UInt8.ofNat k]

@[simp] theorem natBe_length (n k : Nat) : (natBe n k).length = n := by
  induction n generalizing k with
  | zero => rfl
  | succ n ih => simp [natBe, ih]

@[simp] theorem beNat_nil : beNat [] = 0 := rfl

theorem beNat_append_singleton (l : List UInt8) (b : UInt8) :
    beNat (l ++ [b]) = beNat l * 256 + b.toNat := by
  simp [beNat, List.foldl_append]

theorem beNat_natBe (n k : Nat) : beNat (natBe n k) = k % 256 ^ n := by
  induction n generalizing k with
  | zero => simp [natBe, Nat.mod_one]
  | succ n ih =>
    have hb : (UInt8.ofNat k).toNat = k % 256 := by simp
    rw [natBe, beNat_append_singleton, ih, hb, Nat.pow_succ, Nat.mul_comm (256 ^ n), Nat.mod_mul]
    omega

theorem natBe_beNat (l : List UInt8) : natBe l.length (beNat l) = l := by
  induction l using List.reverseRecOn with
  | nil => rfl
  | append_singleton l b ih =>
    have hb : b.toNat < 256 := b.toNat_lt
    have hdiv : (beNat l * 256 + b.toNat) / 256 = beNat l := by omega
    have hlow : UInt8.ofNat (beNat l * 256 + b.toNat) = b := UInt8.toNat_inj.1 (by
      rw [UInt8.toNat_ofNat']
      omega)
    rw [List.length_append, beNat_append_singleton]
    show natBe l.length ((beNat l * 256 + b.toNat) / 256) ++ [UInt8.ofNat _] = l ++ [b]
    rw [hdiv, ih, hlow]

theorem beNat_lt (l : List UInt8) : beNat l < 256 ^ l.length := by
  have hmod := beNat_natBe l.length (beNat l)
  rw [natBe_beNat] at hmod
  exact Nat.lt_of_le_of_lt (Nat.le_of_eq hmod) (Nat.mod_lt _ (Nat.pow_pos (by decide)))

/-! ## Memories -/

/-- A byte memory: every address holds some byte. -/
abbrev Mem := Nat → UInt8

/-- The `n` bytes from address `off` on. -/
def Mem.read (m : Mem) (off n : Nat) : List UInt8 := (List.range n).map (fun i => m (off + i))

/-- Store the bytes `l` from address `off` on. -/
def Mem.write (m : Mem) (off : Nat) (l : List UInt8) : Mem :=
  fun a => if off ≤ a then (l[a - off]?).getD (m a) else m a

/-- The memory seen through a pointer to address `off`. -/
def Mem.shift (m : Mem) (off : Nat) : Mem := fun a => m (off + a)

@[simp] theorem Mem.read_length (m : Mem) (off n : Nat) : (m.read off n).length = n := by
  simp [Mem.read]

@[simp] theorem Mem.read_zero (m : Mem) (off : Nat) : m.read off 0 = [] := rfl

theorem Mem.read_shift (m : Mem) (a off n : Nat) : (m.shift a).read off n = m.read (a + off) n := by
  simp [Mem.read, Mem.shift, Nat.add_assoc]

theorem Mem.read_add (m : Mem) (off n k : Nat) :
    m.read off (n + k) = m.read off n ++ m.read (off + n) k := by
  simp only [Mem.read, List.range_add, List.map_append, List.map_map]
  congr 1
  apply List.map_congr_left
  intro i _
  simp [Nat.add_assoc]

/-- Reading a concatenation is reading its parts, one behind the other. -/
theorem Mem.read_append {m : Mem} {off : Nat} {a b : List UInt8} :
    m.read off (a ++ b).length = a ++ b ↔
      m.read off a.length = a ∧ m.read (off + a.length) b.length = b := by
  rw [List.length_append, Mem.read_add]
  constructor
  · intro h
    exact List.append_inj h (Mem.read_length _ _ _)
  · rintro ⟨ha, hb⟩
    rw [ha, hb]

theorem Mem.read_congr {m m' : Mem} {off n : Nat} (h : ∀ a, off ≤ a → a < off + n → m a = m' a) :
    m.read off n = m'.read off n := by
  apply List.map_congr_left
  intro i hi
  exact h _ (by omega) (by have := List.mem_range.1 hi; omega)

theorem Mem.write_of_lt {m : Mem} {off a : Nat} {l : List UInt8} (h : a < off) :
    m.write off l a = m a := by
  simp [Mem.write, Nat.not_le.2 h]

theorem Mem.write_of_ge {m : Mem} {off a : Nat} {l : List UInt8} (h : off + l.length ≤ a) :
    m.write off l a = m a := by
  have hn : l[a - off]? = none := List.getElem?_eq_none (by omega)
  simp [Mem.write, hn]

theorem Mem.write_of_inside {m : Mem} {off k : Nat} {l : List UInt8} (h : k < l.length) (d : UInt8) :
    m.write off l (off + k) = l.getD k d := by
  rw [Mem.write, if_pos (Nat.le_add_right _ _), Nat.add_sub_cancel_left, List.getD_eq_getElem?_getD,
    List.getElem?_eq_getElem h, Option.getD_some, Option.getD_some]

theorem Mem.read_write_self (m : Mem) (off : Nat) (l : List UInt8) :
    (m.write off l).read off l.length = l := by
  apply List.ext_getElem (by simp)
  intro i h1 h2
  simp [Mem.read, Mem.write, h2]

theorem Mem.read_write_of_disjoint {m : Mem} {off n p : Nat} {l : List UInt8}
    (h : off + n ≤ p ∨ p + l.length ≤ off) : (m.write p l).read off n = m.read off n := by
  apply Mem.read_congr
  intro a h1 h2
  rcases h with h | h
  · exact Mem.write_of_lt (by omega)
  · exact Mem.write_of_ge (by omega)

end OsdTarget.Base
