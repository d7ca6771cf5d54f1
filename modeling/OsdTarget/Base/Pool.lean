import Mathlib.Data.Finset.Basic
import Mathlib.Data.List.Nodup

/-!
# A pool of handles

Handles are given out under fresh numbers and given back one by one.  Giving back a handle that is not out
is a misuse: it is noted, and what is out stays as it was.
-/

namespace OsdTarget.Base

/-- The handles that are out, the next number, and whether one was given back that was not out. -/
structure Pool where
  live : Finset ℕ
  next : ℕ
  misused : Bool

namespace Pool

/-- Every handle that is out was given out. -/
def Fresh (p : Pool) : Prop := ∀ h ∈ p.live, h < p.next

def acquire (p : Pool) : Pool := { p with live := insert p.next p.live, next := p.next + 1 }

def release (p : Pool) (h : ℕ) : Pool :=
  if h ∈ p.live then { p with live := p.live.erase h } else { p with misused := true }

/-- A handle is used. -/
def touch (p : Pool) (h : ℕ) : Pool := if h ∈ p.live then p else { p with misused := true }

def releaseAll (p : Pool) (l : List ℕ) : Pool := l.foldl release p

variable {p : Pool}

theorem touch_of_live {h : ℕ} (hl : h ∈ p.live) : p.touch h = p := if_pos hl

@[simp] theorem releaseAll_nil : p.releaseAll [] = p := rfl

theorem releaseAll_cons (h : ℕ) (l : List ℕ) : p.releaseAll (h :: l) = (p.release h).releaseAll l := rfl

theorem Fresh.next_notMem (h : p.Fresh) : p.next ∉ p.live := fun hmem => Nat.lt_irrefl _ (h _ hmem)

theorem Fresh.acquire (h : p.Fresh) : p.acquire.Fresh := by
  intro n hn
  rcases Finset.mem_insert.1 hn with rfl | hn
  · exact Nat.lt_succ_self _
  · exact Nat.lt_succ_of_lt (h n hn)

/-! ## Giving back -/

theorem live_release (h : ℕ) : (p.release h).live = p.live.erase h := by
  unfold release
  split
  · rfl
  · rename_i hno
    exact (Finset.erase_eq_of_notMem hno).symm

@[simp] theorem next_release (h : ℕ) : (p.release h).next = p.next := by
  unfold release
  split <;> rfl

theorem misused_release (h : ℕ) : (p.release h).misused = true ↔ p.misused = true ∨ h ∉ p.live := by
  unfold release
  split
  · rename_i hmem
    exact ⟨.inl, fun hor => hor.resolve_right (not_not_intro hmem)⟩
  · rename_i hno
    exact ⟨fun _ => .inr hno, fun _ => rfl⟩

@[simp] theorem next_releaseAll (l : List ℕ) : (p.releaseAll l).next = p.next := by
  induction l generalizing p with
  | nil => rfl
  | cons h l ih => rw [releaseAll_cons, ih, next_release]

/-- What was given back is not out, the rest is. -/
theorem mem_live_releaseAll {l : List ℕ} {n : ℕ} : n ∈ (p.releaseAll l).live ↔ n ∈ p.live ∧ n ∉ l := by
  induction l generalizing p with
  | nil => simp
  | cons h l ih =>
    rw [releaseAll_cons, ih, live_release, Finset.mem_erase, List.mem_cons, not_or]
    exact ⟨fun ⟨⟨hne, hn⟩, hl⟩ => ⟨hn, hne, hl⟩, fun ⟨hn, hne, hl⟩ => ⟨⟨hne, hn⟩, hl⟩⟩

/-- **Handles that are out may be given back, each of them once.** -/
theorem misused_releaseAll {l : List ℕ} :
    (p.releaseAll l).misused = true ↔ p.misused = true ∨ ¬ (l.Nodup ∧ ∀ h ∈ l, h ∈ p.live) := by
  induction l generalizing p with
  | nil => simp
  | cons h l ih =>
    rw [releaseAll_cons, ih, misused_release, live_release, or_assoc, List.nodup_cons]
    refine or_congr_right ?_
    by_cases hmem : h ∈ p.live
    · have hrest : (∀ n ∈ l, n ∈ p.live.erase h) ↔ h ∉ l ∧ ∀ n ∈ l, n ∈ p.live := by
        refine ⟨fun hall => ⟨fun hl => Finset.notMem_erase h _ (hall h hl), fun n hn => ?_⟩, ?_⟩
        · exact Finset.mem_of_mem_erase (hall n hn)
        · rintro ⟨hno, hall⟩ n hn
          exact Finset.mem_erase.2 ⟨fun heq => hno (heq ▸ hn), hall n hn⟩
      simp only [hmem, not_true_eq_false, false_or, hrest, List.forall_mem_cons, true_and]
      exact not_congr ⟨fun ⟨hl, hno, hall⟩ => ⟨⟨hno, hl⟩, hall⟩, fun ⟨⟨hno, hl⟩, hall⟩ => ⟨hl, hno, hall⟩⟩
    · exact iff_of_true (.inl hmem) fun hall => hmem (hall.2 h List.mem_cons_self)

theorem Fresh.releaseAll (h : p.Fresh) (l : List ℕ) : (p.releaseAll l).Fresh := by
  intro n hn
  rw [next_releaseAll]
  exact h n (mem_live_releaseAll.1 hn).1

end Pool

end OsdTarget.Base
