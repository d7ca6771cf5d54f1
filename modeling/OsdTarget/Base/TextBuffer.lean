import Mathlib.Data.List.Basic

/-!
# Text in a buffer

`sprintf` and `strcat` write a text and its NUL behind a pointer, `strlen` looks for the NUL.  A buffer
keeps where each write ended and how much was allocated then; writes are not held back at the end of what
is allocated.
-/

namespace OsdTarget.Base

def nul : Char := Char.ofNat 0

/-- Memory of `size` bytes, and for each write where it ended and what was allocated. -/
structure TextBuffer where
  bytes : List Char
  size : Nat
  writes : List (Nat × Nat)

/-- A text printed in place, and texts appended to it. -/
structure Piece where
  printed : List Char
  appended : List (List Char)

/-- What the piece comes to. -/
def Piece.text (x : Piece) : List Char := x.printed ++ x.appended.flatten

namespace TextBuffer

variable (fill : Nat → Char) (t : TextBuffer)

/-- `malloc`; nobody knows what is in the memory. -/
def malloc (size : Nat) : TextBuffer := ⟨(List.range size).map fill, size, []⟩

def realloc (size : Nat) : TextBuffer :=
  { t with
    bytes := t.bytes.take size ++ (List.range (size - t.bytes.length)).map fill
    size := size }

def strlen (cp : Nat) : Nat := ((t.bytes.drop cp).takeWhile (· ≠ nul)).length

def sprintf (cp : Nat) (text : List Char) : TextBuffer :=
  { t with
    bytes := t.bytes.take cp ++ (text ++ nul :: t.bytes.drop (cp + text.length + 1))
    writes := (cp + text.length + 1, t.size) :: t.writes }

def strcat (cp : Nat) (text : List Char) : TextBuffer := t.sprintf (cp + t.strlen cp) text

/-- `sprintf(cp, …)`, then `strcat(cp, …)` for each text appended. -/
def add (cp : Nat) (x : Piece) : TextBuffer :=
  x.appended.foldl (fun t text => t.strcat cp text) (t.sprintf cp x.printed)

/-- All bytes are allocated ones, and every write ended among those of its time. -/
structure Inside : Prop where
  length : t.bytes.length = t.size
  writes : ∀ w ∈ t.writes, w.1 ≤ w.2

/-- Behind the bytes `front` there is the text with its NUL. -/
def Holds (front text : List Char) : Prop := ∃ rest, t.bytes = front ++ (text ++ nul :: rest)

variable {fill t} {front text : List Char} {cp : Nat}

theorem inside_malloc (size : Nat) : (malloc fill size).Inside where
  length := by simp [malloc]
  writes _ h := absurd h List.not_mem_nil

/-- The bytes before a pointer into the buffer. -/
theorem Inside.length_take (h : t.Inside) (hcp : cp ≤ t.size) : (t.bytes.take cp).length = cp := by
  rw [List.length_take, h.length]
  exact Nat.min_eq_left hcp

theorem Inside.realloc (h : t.Inside) {size : Nat} (hle : t.size ≤ size) : (t.realloc fill size).Inside where
  length := by
    have hlen := h.length
    simp only [TextBuffer.realloc, List.length_append, List.length_take, List.length_map, List.length_range]
    omega
  writes := h.writes

/-- What was there stays, with what the new memory holds behind it. -/
theorem realloc_bytes {size : Nat} (hle : t.bytes.length ≤ size) : (t.realloc fill size).bytes =
    t.bytes ++ (List.range (size - t.bytes.length)).map fill := by
  unfold TextBuffer.realloc
  rw [List.take_of_length_le hle]

theorem Holds.realloc (h : t.Holds front text) {size : Nat} (hle : t.bytes.length ≤ size) :
    (t.realloc fill size).Holds front text := by
  obtain ⟨rest, hbytes⟩ := h
  refine ⟨rest ++ (List.range (size - t.bytes.length)).map fill, ?_⟩
  rw [realloc_bytes hle, show t.bytes ++ _ = front ++ (text ++ nul :: rest) ++ _ from congrArg (· ++ _) hbytes]
  simp only [List.append_assoc, List.cons_append]

/-- The length of a text is where its NUL is. -/
theorem takeWhile_nul {rest : List Char} (hn : nul ∉ text) :
    (text ++ nul :: rest).takeWhile (· ≠ nul) = text := by
  have hkept : ∀ c ∈ text, decide (c ≠ nul) = true := fun c hc => decide_eq_true fun h => hn (h ▸ hc)
  rw [List.takeWhile_append_of_pos hkept, List.takeWhile_cons_of_neg (by simp), List.append_nil]

theorem Holds.strlen (h : t.Holds front text) (hn : nul ∉ text) : t.strlen front.length = text.length := by
  obtain ⟨rest, hbytes⟩ := h
  unfold TextBuffer.strlen
  rw [hbytes, List.drop_left, takeWhile_nul hn]

/-- A NUL ends the text, wherever else there are some. -/
theorem length_takeWhile_nul_le (l rest : List Char) :
    ((l ++ nul :: rest).takeWhile (· ≠ nul)).length ≤ l.length := by
  induction l with
  | nil => simp
  | cons c l ih =>
    by_cases hc : c = nul
    · rw [List.cons_append, List.takeWhile_cons_of_neg (by simpa using hc)]
      exact Nat.zero_le _
    · rw [List.cons_append, List.takeWhile_cons_of_pos (by simpa using hc)]
      exact Nat.succ_le_succ ih

theorem strlen_le {l rest : List Char} (h : t.bytes.drop cp = l ++ nul :: rest) : t.strlen cp ≤ l.length := by
  unfold TextBuffer.strlen
  rw [h]
  exact length_takeWhile_nul_le l rest

theorem Inside.sprintf (h : t.Inside) (hroom : cp + text.length + 1 ≤ t.size) : (t.sprintf cp text).Inside where
  length := by
    have hlen := h.length
    simp only [TextBuffer.sprintf, List.length_append, List.length_take, List.length_cons, List.length_drop]
    omega
  writes := List.forall_mem_cons.2 ⟨hroom, h.writes⟩

theorem sprintf_holds : (t.sprintf cp text).Holds (t.bytes.take cp) text := ⟨_, rfl⟩

theorem Holds.strcat (h : t.Holds front text) (hn : nul ∉ text) (more : List Char) :
    (t.strcat front.length more).Holds front (text ++ more) := by
  have hlen := h.strlen hn
  obtain ⟨rest, hbytes⟩ := h
  refine ⟨t.bytes.drop (front.length + text.length + more.length + 1), ?_⟩
  unfold TextBuffer.strcat TextBuffer.sprintf
  have hfront : t.bytes.take (front.length + text.length) = front ++ text := by
    rw [hbytes, ← List.append_assoc, ← List.length_append, List.take_left]
  simp only [hlen, hfront, List.append_assoc]

theorem Inside.strcat (h : t.Inside) (hholds : t.Holds front text) (hn : nul ∉ text) {more : List Char}
    (hroom : front.length + text.length + more.length + 1 ≤ t.size) : (t.strcat front.length more).Inside := by
  unfold TextBuffer.strcat
  rw [hholds.strlen hn]
  exact h.sprintf hroom

/-- Texts appended one after the other. -/
theorem Inside.appendAll {more : List (List Char)} (h : t.Inside) (hholds : t.Holds front text)
    (hn : nul ∉ text ++ more.flatten)
    (hroom : front.length + (text ++ more.flatten).length + 1 ≤ t.size) :
    (more.foldl (fun t text => t.strcat front.length text) t).Inside ∧
      (more.foldl (fun t text => t.strcat front.length text) t).size = t.size ∧
      (more.foldl (fun t text => t.strcat front.length text) t).Holds front (text ++ more.flatten) := by
  induction more generalizing t text with
  | nil => exact ⟨h, rfl, by simpa using hholds⟩
  | cons x more ih =>
    rw [List.flatten_cons, ← List.append_assoc] at hn hroom ⊢
    have hclean : nul ∉ text := fun hc => hn (List.mem_append_left _ (List.mem_append_left _ hc))
    have hx : front.length + text.length + x.length + 1 ≤ t.size := by
      simp only [List.length_append] at hroom
      omega
    exact ih (h.strcat hholds hclean hx) (hholds.strcat hclean x) hn hroom

/-- A piece is written where the pointer is, and inside when there is room for it and its NUL. -/
theorem Inside.add (h : t.Inside) {x : Piece} (hn : nul ∉ x.text) (hroom : cp + x.text.length + 1 ≤ t.size) :
    (t.add cp x).Inside ∧ (t.add cp x).size = t.size ∧ (t.add cp x).Holds (t.bytes.take cp) x.text := by
  have hfront : (t.bytes.take cp).length = cp := h.length_take (by omega)
  have hprinted : cp + x.printed.length + 1 ≤ t.size := by
    unfold Piece.text at hroom
    rw [List.length_append] at hroom
    omega
  have hholds : (t.sprintf cp x.printed).Holds (t.bytes.take cp) x.printed := sprintf_holds
  have hall := (h.sprintf hprinted).appendAll hholds hn (by rw [hfront]; exact hroom)
  rw [hfront] at hall
  exact hall

end TextBuffer

end OsdTarget.Base
