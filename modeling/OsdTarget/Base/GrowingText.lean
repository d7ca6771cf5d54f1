import Mathlib.Algebra.Group.Nat.Defs
import Mathlib.Algebra.GroupWithZero.Nat
import OsdTarget.Base.TextBuffer

/-!
# A text built in a growing buffer

A text is built piece by piece behind a pointer; a counter of `bits` bits follows its length.  The buffer
is doubled only after a piece has been written, when less than a reserve is left.  So a piece is inside as
long as the reserve takes one piece and the tail.  The counter follows the text until it wraps.
-/

namespace OsdTarget.Base

open TextBuffer

/-- How a text is built. -/
structure TextPlan where
  unit : Nat
  /-- at first, `unit * factor` bytes are allocated -/
  factor : Nat
  bits : Nat
  reserve : Nat
  /-- whether the test on the counter is `>`, else it is `>=` -/
  strict : Bool
  head : Piece
  pieces : List Piece
  tail : List Char
  /-- whether the tail is appended by `strcat`, else it is printed where the counter says -/
  appends : Bool

/-- Where the building is; `marks` are the counter and `strlen` of the buffer each time it was updated. -/
structure TextState where
  buf : TextBuffer
  len : Nat
  factor : Nat
  marks : List (Nat × Nat)

/-- Nothing was allocated. -/
def TextState.nothing : TextState := ⟨⟨[], 0, []⟩, 0, 0, []⟩

namespace TextPlan

variable (alloc : Nat → Bool) (fill : Nat → Char) (p : TextPlan)

/-- The test whether to grow. -/
def full (len size : Nat) : Bool :=
  if p.strict then size - p.reserve < len else size - p.reserve ≤ len

/-- Writing one piece at the pointer, and adding its length to the counter. -/
def append (x : Piece) (b : TextState) : TextState :=
  let buf := b.buf.add b.len x
  let len := (b.len + buf.strlen b.len) % 2 ^ p.bits
  { b with buf := buf, len := len, marks := (len, buf.strlen 0) :: b.marks }

/-- Doubling the buffer when it is full; the building ends when there is no memory. -/
def grow (b : TextState) : Except TextState TextState :=
  if p.full b.len (p.unit * b.factor) then
    if alloc (p.unit * (2 * b.factor)) then
      .ok { b with factor := 2 * b.factor, buf := b.buf.realloc fill (p.unit * (2 * b.factor)) }
    else .error b
  else .ok b

def loop : List Piece → TextState → Except TextState TextState
  | [], b => .ok b
  | x :: xs, b => do
    let b ← p.grow alloc fill (p.append x b)
    loop xs b

def finish (b : TextState) : TextState :=
  { b with buf := if p.appends then b.buf.strcat b.len p.tail else b.buf.sprintf b.len p.tail }

/-- The head, in what is allocated first. -/
def start : TextState := p.append p.head ⟨.malloc fill (p.unit * p.factor), 0, p.factor, []⟩

/-- The building: `ok` with the whole text, `error` when there was no memory. -/
def run : Except TextState TextState :=
  if alloc (p.unit * p.factor) then do
    let b ← p.loop alloc fill p.pieces (p.start fill)
    return p.finish b
  else .error .nothing

end TextPlan

/-- Where the building got to. -/
def reached : Except TextState TextState → TextState
  | .ok b => b
  | .error b => b

/-- All writes ended in what was allocated, and the counter was always the length of the text. -/
structure TextState.Sound (b : TextState) : Prop where
  inside : ∀ w ∈ b.buf.writes, w.1 ≤ w.2
  counted : ∀ m ∈ b.marks, m.1 = m.2

/-- The reserve takes a piece, the tail and the NUL; the texts have no NULs. -/
structure TextPlan.Roomy (p : TextPlan) : Prop where
  head : p.head.text.length + p.reserve ≤ p.unit * p.factor
  piece : ∀ x ∈ p.pieces, x.text.length + p.tail.length + 1 ≤ p.reserve
  tail : p.tail.length + 1 ≤ p.reserve
  cleanHead : nul ∉ p.head.text
  clean : ∀ x ∈ p.pieces, nul ∉ x.text

/-- The length of the text before its tail. -/
def TextPlan.total (p : TextPlan) : Nat := p.head.text.length + (p.pieces.map fun x => x.text.length).sum

variable {alloc : Nat → Bool} {fill : Nat → Char} {p : TextPlan} {b : TextState} {x : Piece} {xs : List Piece}
  {text : List Char} {L : Nat}

namespace TextPlan

/-! ## One piece -/

/-- What was written is inside, and a NUL is near enough to the pointer for the tail. -/
structure Written (p : TextPlan) (b : TextState) : Prop where
  inside : b.buf.Inside
  size : b.buf.size = p.unit * b.factor
  reserve : p.reserve ≤ b.buf.size
  short : b.len < b.buf.size
  ends : ∃ l rest, b.buf.bytes.drop b.len = l ++ nul :: rest ∧
    b.len + l.length + p.tail.length + 1 ≤ b.buf.size

/-- Moreover, the reserve is left behind the pointer. -/
structure Ready (p : TextPlan) (b : TextState) : Prop extends p.Written b where
  room : b.len + p.reserve ≤ b.buf.size

theorem append_spec (h : b.buf.Inside) (hn : nul ∉ x.text) (hroom : b.len + x.text.length + 1 ≤ b.buf.size) :
    (p.append x b).buf.Inside ∧ (p.append x b).buf.size = b.buf.size ∧
      (p.append x b).buf.Holds (b.buf.bytes.take b.len) x.text ∧
      (p.append x b).len = (b.len + x.text.length) % 2 ^ p.bits := by
  obtain ⟨hinside, hsize, hholds⟩ := h.add hn hroom
  have hfront : (b.buf.bytes.take b.len).length = b.len := h.length_take (by omega)
  have hstrlen := hholds.strlen hn
  rw [hfront] at hstrlen
  exact ⟨hinside, hsize, hholds, congrArg (fun n => (b.len + n) % 2 ^ p.bits) hstrlen⟩

/-- The mark that a piece leaves: the counter modulo its width, and the length itself. -/
theorem append_marks (h : b.buf.Inside) (hfront : b.buf.bytes.take b.len = text) (hlen : b.len = text.length)
    (hclean : nul ∉ text ++ x.text) (hroom : (text ++ x.text).length + 1 ≤ b.buf.size) :
    (p.append x b).buf.Inside ∧ (p.append x b).buf.size = b.buf.size ∧
      (p.append x b).buf.Holds [] (text ++ x.text) ∧
      (p.append x b).len = (text ++ x.text).length % 2 ^ p.bits ∧
      (p.append x b).marks = ((text ++ x.text).length % 2 ^ p.bits, (text ++ x.text).length) :: b.marks := by
  rw [List.length_append, ← hlen] at hroom
  have hn : nul ∉ x.text := fun hc => hclean (List.mem_append_right _ hc)
  obtain ⟨hinside, hsize, ⟨rest, hbytes⟩, hnext⟩ := append_spec (p := p) h hn hroom
  rw [hlen, ← List.length_append] at hnext
  rw [hfront, ← List.append_assoc] at hbytes
  have hholds : (p.append x b).buf.Holds [] (text ++ x.text) := ⟨rest, hbytes⟩
  have hstrlen : (p.append x b).buf.strlen 0 = (text ++ x.text).length := hholds.strlen hclean
  refine ⟨hinside, hsize, hholds, hnext, ?_⟩
  rw [← hnext, ← hstrlen]
  rfl

theorem full_false {len size : Nat} (h : p.full len size = false) (hr : p.reserve ≤ size) :
    len + p.reserve ≤ size := by
  unfold full at h
  split at h
  · have := of_decide_eq_false h
    omega
  · have := of_decide_eq_false h
    omega

theorem full_true {len size : Nat} (h : p.full len size = true) : size ≤ len + p.reserve := by
  unfold full at h
  split at h
  · have := of_decide_eq_true h
    omega
  · have := of_decide_eq_true h
    omega

/-- A piece is written inside when there is room for it and the tail. -/
theorem append_written (h : b.buf.Inside) (hsize : b.buf.size = p.unit * b.factor)
    (hreserve : p.reserve ≤ b.buf.size) (hn : nul ∉ x.text)
    (hroom : b.len + x.text.length + p.tail.length + 1 ≤ b.buf.size) : p.Written (p.append x b) := by
  obtain ⟨hinside, hkept, ⟨rest, hbytes⟩, hlen⟩ := append_spec (p := p) h hn (by omega)
  have hle : (p.append x b).len ≤ b.len + x.text.length := hlen ▸ Nat.mod_le _ _
  have hfront : (b.buf.bytes.take b.len).length = b.len := h.length_take (by omega)
  refine ⟨hinside, hkept.trans hsize, hkept ▸ hreserve, by omega, ?_⟩
  -- after the counter has wrapped, the NUL of the piece is still behind the pointer
  refine ⟨(b.buf.bytes.take b.len ++ x.text).drop (p.append x b).len, rest, ?_, ?_⟩
  · rw [hbytes, ← List.append_assoc, List.drop_append_of_le_length]
    rw [List.length_append, hfront]
    exact hle
  · rw [List.length_drop, List.length_append, hfront]
    omega

theorem Ready.append (h : p.Ready b) (hn : nul ∉ x.text)
    (hx : x.text.length + p.tail.length + 1 ≤ p.reserve) : p.Written (p.append x b) := by
  have hroom := h.room
  exact append_written h.inside h.size h.reserve hn (by omega)

/-- After the test there is the reserve again, or no memory. -/
theorem Written.grow (alloc : Nat → Bool) (fill : Nat → Char) (h : p.Written b) :
    (reached (p.grow alloc fill b)).buf.Inside ∧ ∀ b', p.grow alloc fill b = .ok b' → p.Ready b' := by
  obtain ⟨hinside, hsize, hreserve, hshort, l, rest, hdrop, hend⟩ := h
  unfold TextPlan.grow
  by_cases hfull : p.full b.len (p.unit * b.factor) = true
  · rw [if_pos hfull]
    split
    · have hdouble : p.unit * (2 * b.factor) = 2 * b.buf.size := by
        rw [hsize]
        exact Nat.mul_left_comm _ _ _
      have hle : b.buf.size ≤ p.unit * (2 * b.factor) := by omega
      have hgrown : (b.buf.realloc fill (p.unit * (2 * b.factor))).Inside := hinside.realloc hle
      refine ⟨hgrown, ?_⟩
      rintro _ ⟨⟩
      obtain ⟨more, hcut⟩ : ∃ more, (b.buf.realloc fill (p.unit * (2 * b.factor))).bytes.drop b.len
          = l ++ nul :: more := by
        have hlen := hinside.length
        rw [realloc_bytes (by omega), List.drop_append_of_le_length (by omega), hdrop]
        exact ⟨rest ++ _, by rw [List.append_assoc, List.cons_append]⟩
      have hroom : b.len + p.reserve ≤ p.unit * (2 * b.factor) := by omega
      exact ⟨⟨hgrown, rfl, Nat.le_trans hreserve hle, Nat.lt_of_lt_of_le hshort hle, l, more, hcut,
        Nat.le_trans hend hle⟩, hroom⟩
    · refine ⟨hinside, ?_⟩
      rintro _ ⟨⟩
  · rw [if_neg hfull]
    refine ⟨hinside, ?_⟩
    rintro _ ⟨⟩
    have hroom := full_false (Bool.not_eq_true _ ▸ hfull) (hsize ▸ hreserve)
    exact ⟨⟨hinside, hsize, hreserve, hshort, l, rest, hdrop, hend⟩, hsize ▸ hroom⟩

/-! ## The loop -/

theorem loop_cons : p.loop alloc fill (x :: xs) b =
    (p.grow alloc fill (p.append x b)).bind (p.loop alloc fill xs) := rfl

/-- **However many pieces there are**, all of them are written inside. -/
theorem Ready.loop (alloc : Nat → Bool) (fill : Nat → Char) (h : p.Ready b)
    (hxs : ∀ x ∈ xs, nul ∉ x.text ∧ x.text.length + p.tail.length + 1 ≤ p.reserve) :
    (reached (p.loop alloc fill xs b)).buf.Inside ∧ ∀ b', p.loop alloc fill xs b = .ok b' → p.Ready b' := by
  induction xs generalizing b with
  | nil =>
    refine ⟨h.inside, ?_⟩
    rintro _ ⟨⟩
    exact h
  | cons x xs ih =>
    obtain ⟨⟨hn, hx⟩, hxs⟩ := List.forall_mem_cons.1 hxs
    have hgrow := (h.append hn hx).grow alloc fill
    rw [loop_cons]
    cases hb : p.grow alloc fill (p.append x b) with
    | error b' =>
      rw [hb] at hgrow
      refine ⟨hgrow.1, ?_⟩
      rintro _ ⟨⟩
    | ok b' => exact ih (hgrow.2 b' hb) hxs

/-- The tail fits as well. -/
theorem Ready.finish (h : p.Ready b) : (p.finish b).buf.Inside := by
  obtain ⟨l, rest, hdrop, hend⟩ := h.ends
  unfold TextPlan.finish
  split
  · have hle := strlen_le hdrop
    exact h.inside.sprintf (by omega)
  · exact h.inside.sprintf (by omega)

theorem Roomy.fits (h : p.Roomy) :
    ∀ x ∈ p.pieces, nul ∉ x.text ∧ x.text.length + p.tail.length + 1 ≤ p.reserve :=
  fun x hx => ⟨h.clean x hx, h.piece x hx⟩

theorem Roomy.start_spec (fill : Nat → Char) (h : p.Roomy) :
    (p.start fill).buf.Inside ∧ (p.start fill).buf.size = p.unit * p.factor ∧
      (p.start fill).buf.Holds [] p.head.text ∧
      (p.start fill).len = p.head.text.length % 2 ^ p.bits ∧
      (p.start fill).marks = [(p.head.text.length % 2 ^ p.bits, p.head.text.length)] := by
  have hhead := h.head
  have htail := h.tail
  exact append_marks (b := ⟨.malloc fill (p.unit * p.factor), 0, p.factor, []⟩) (inside_malloc _) List.take_zero
    rfl h.cleanHead (show p.head.text.length + 1 ≤ p.unit * p.factor by omega)

theorem Roomy.ready (fill : Nat → Char) (h : p.Roomy) : p.Ready (p.start fill) := by
  have hhead := h.head
  have htail := h.tail
  obtain ⟨-, hsize, -, hlen, -⟩ := h.start_spec fill
  have hle : (p.start fill).len ≤ p.head.text.length := hlen ▸ Nat.mod_le _ _
  have hinside : (malloc fill (p.unit * p.factor)).Inside := inside_malloc _
  have hwritten : p.Written (p.start fill) := append_written hinside rfl
    (show p.reserve ≤ p.unit * p.factor by omega) h.cleanHead
    (show 0 + p.head.text.length + p.tail.length + 1 ≤ p.unit * p.factor by omega)
  exact ⟨hwritten, by omega⟩

theorem run_eq (halloc : alloc (p.unit * p.factor) = true) : p.run alloc fill =
    (p.loop alloc fill p.pieces (p.start fill)).bind fun b => .ok (p.finish b) := if_pos halloc

/-- What follows the loop changes the bytes only. -/
theorem run_kept (halloc : alloc (p.unit * p.factor) = true) :
    (reached (p.run alloc fill)).marks = (reached (p.loop alloc fill p.pieces (p.start fill))).marks ∧
      (reached (p.run alloc fill)).factor = (reached (p.loop alloc fill p.pieces (p.start fill))).factor := by
  rw [run_eq halloc]
  cases p.loop alloc fill p.pieces (p.start fill) with
  | error b => exact ⟨rfl, rfl⟩
  | ok b => exact ⟨rfl, rfl⟩

theorem run_refused (halloc : ¬ alloc (p.unit * p.factor) = true) : p.run alloc fill = .error .nothing :=
  if_neg halloc

/-- **No text is too long for its buffer.** -/
theorem Roomy.inside (alloc : Nat → Bool) (fill : Nat → Char) (h : p.Roomy) :
    ∀ w ∈ (reached (p.run alloc fill)).buf.writes, w.1 ≤ w.2 := by
  by_cases halloc : alloc (p.unit * p.factor) = true
  · have hloop := (h.ready fill).loop alloc fill h.fits
    rw [run_eq halloc]
    cases hb : p.loop alloc fill p.pieces (p.start fill) with
    | error b =>
      rw [hb] at hloop
      exact hloop.1.writes
    | ok b => exact (hloop.2 b hb).finish.writes
  · rw [run_refused halloc]
    exact fun w hw => absurd hw List.not_mem_nil

/-! ## What is allocated -/

/-- The buffer is doubled only when little more than the reserve is free. -/
theorem Written.grow_size (alloc : Nat → Bool) (fill : Nat → Char) (h : p.Written b) :
    (reached (p.grow alloc fill b)).buf.size = p.unit * (reached (p.grow alloc fill b)).factor ∧
      (reached (p.grow alloc fill b)).buf.size ≤ max b.buf.size (2 * (b.len + p.reserve)) := by
  have hsize := h.size
  unfold TextPlan.grow
  by_cases hfull : p.full b.len (p.unit * b.factor) = true
  · have hle := full_true hfull
    have hdouble : p.unit * (2 * b.factor) = 2 * (p.unit * b.factor) := Nat.mul_left_comm _ _ _
    rw [if_pos hfull]
    split
    · refine ⟨rfl, ?_⟩
      show p.unit * (2 * b.factor) ≤ _
      omega
    · exact ⟨hsize, Nat.le_max_left _ _⟩
  · rw [if_neg hfull]
    exact ⟨hsize, Nat.le_max_left _ _⟩

/-- **Not more than twice the text and the reserve** is allocated, whatever bounds the text or the counter. -/
theorem Ready.loop_size (alloc : Nat → Bool) (fill : Nat → Char) {most : Nat} (h : p.Ready b)
    (hxs : ∀ x ∈ xs, nul ∉ x.text ∧ x.text.length + p.tail.length + 1 ≤ p.reserve)
    (hmost : b.len + (xs.map fun x => x.text.length).sum ≤ most ∨ 2 ^ p.bits ≤ most) :
    (reached (p.loop alloc fill xs b)).buf.size = p.unit * (reached (p.loop alloc fill xs b)).factor ∧
      (reached (p.loop alloc fill xs b)).buf.size ≤ max b.buf.size (2 * (most + p.reserve)) := by
  induction xs generalizing b with
  | nil => exact ⟨h.size, Nat.le_max_left _ _⟩
  | cons x xs ih =>
    obtain ⟨⟨hn, hx⟩, hxs⟩ := List.forall_mem_cons.1 hxs
    have hroom := h.room
    have hwritten := h.append hn hx
    obtain ⟨-, hsize, -, hlen⟩ := append_spec (p := p) h.inside hn (by omega)
    have hle : (p.append x b).len ≤ b.len + x.text.length := hlen ▸ Nat.mod_le _ _
    have hlt : (p.append x b).len < 2 ^ p.bits := hlen ▸ Nat.mod_lt _ (Nat.two_pow_pos _)
    rw [List.map_cons, List.sum_cons] at hmost
    have hgrown := hwritten.grow_size alloc fill
    have hready := (hwritten.grow alloc fill).2
    rw [hsize] at hgrown
    rw [loop_cons]
    cases hb : p.grow alloc fill (p.append x b) with
    | error b' =>
      rw [hb] at hgrown
      exact ⟨hgrown.1, Nat.le_trans hgrown.2 (by omega)⟩
    | ok b' =>
      rw [hb] at hgrown
      have hkept : b'.len = (p.append x b).len := by
        unfold TextPlan.grow at hb
        split at hb
        · split at hb
          · cases hb
            rfl
          · cases hb
        · cases hb
          rfl
      obtain ⟨hfactor, hmax⟩ := ih (hready b' hb) hxs (by omega)
      have hgrown : b'.buf.size ≤ _ := hgrown.2
      exact ⟨hfactor, Nat.le_trans hmax (by omega)⟩

/-- The factor never passes what a text of that length needs. -/
theorem Roomy.factor_le (alloc : Nat → Bool) (fill : Nat → Char) {most : Nat} (h : p.Roomy)
    (hmost : p.total ≤ most ∨ 2 ^ p.bits ≤ most) :
    p.unit * (reached (p.run alloc fill)).factor ≤ max (p.unit * p.factor) (2 * (most + p.reserve)) := by
  by_cases halloc : alloc (p.unit * p.factor) = true
  · obtain ⟨-, hsize, -, hlen, -⟩ := h.start_spec fill
    have hle : (p.start fill).len ≤ p.head.text.length := hlen ▸ Nat.mod_le _ _
    have htotal : p.total = p.head.text.length + (p.pieces.map fun x => x.text.length).sum := rfl
    obtain ⟨hfactor, hmax⟩ : _ ∧ (reached (p.loop alloc fill p.pieces (p.start fill))).buf.size ≤
        max _ (2 * (most + p.reserve)) :=
      (h.ready fill).loop_size alloc fill h.fits (by omega)
    rw [(run_kept halloc).2, ← hfactor, ← hsize]
    exact hmax
  · rw [run_refused halloc]
    exact Nat.zero_le _

/-! ## The counter -/

/-- Up to here the buffer holds the text, and the counter is its length.  What was allocated was a power of
two times what was allocated first, with every power before it. -/
structure Follows (p : TextPlan) (alloc : Nat → Bool) (text : List Char) (b : TextState) : Prop where
  inside : b.buf.Inside
  size : b.buf.size = p.unit * b.factor
  holds : b.buf.Holds [] text
  len : b.len = text.length
  clean : nul ∉ text
  lt : text.length < 2 ^ p.bits
  counted : ∀ m ∈ b.marks, m.1 = m.2
  grown : ∃ i, b.buf.size = p.unit * p.factor * 2 ^ i ∧ ∀ j ≤ i, alloc (p.unit * p.factor * 2 ^ j) = true

theorem Follows.append (h : p.Follows alloc text b) (hn : nul ∉ x.text)
    (hroom : (text ++ x.text).length + 1 ≤ b.buf.size) :
    (p.append x b).marks = ((text ++ x.text).length % 2 ^ p.bits, (text ++ x.text).length) :: b.marks ∧
      ((text ++ x.text).length < 2 ^ p.bits → p.Follows alloc (text ++ x.text) (p.append x b)) := by
  have hfront : b.buf.bytes.take b.len = text := by
    obtain ⟨more, hholds⟩ := h.holds
    rw [hholds, List.nil_append, h.len, List.take_left]
  have hclean : nul ∉ text ++ x.text := fun hc => (List.mem_append.1 hc).elim h.clean hn
  obtain ⟨hinside, hsize, hholds, hlen, hmarks⟩ :=
    append_marks (p := p) h.inside hfront h.len hclean hroom
  refine ⟨hmarks, fun hlt => ⟨hinside, hsize.trans h.size, hholds, ?_, hclean, hlt, ?_, ?_⟩⟩
  · rw [hlen, Nat.mod_eq_of_lt hlt]
  · rw [hmarks]
    exact List.forall_mem_cons.2 ⟨Nat.mod_eq_of_lt hlt, h.counted⟩
  · rw [hsize]
    exact h.grown

/-- When the buffer is doubled, all that was ever allocated is at most what the counter can tell. -/
theorem Follows.grow (fill : Nat → Char) (hL : p.unit * p.factor * 2 ^ L = 2 ^ p.bits)
    (hr : p.reserve ≤ p.unit * p.factor)
    (h : p.Follows alloc text b) (hshort : text.length < b.buf.size) :
    (∃ b', p.grow alloc fill b = .ok b' ∧ p.Follows alloc text b' ∧
        text.length + p.reserve ≤ b'.buf.size) ∨
      p.grow alloc fill b = .error b ∧ ∃ j ≤ L + 1, alloc (p.unit * p.factor * 2 ^ j) = false := by
  obtain ⟨hinside, hsize, hholds, hlen, hclean, hlt, hcounted, i, hi, halloc⟩ := h
  have hpow : 1 ≤ 2 ^ i := Nat.one_le_two_pow
  have hbase : p.unit * p.factor ≤ b.buf.size := hi ▸ Nat.le_mul_of_pos_right _ hpow
  unfold TextPlan.grow
  by_cases hfull : p.full b.len (p.unit * b.factor) = true
  · rw [if_pos hfull]
    have htwice : p.unit * p.factor * 2 ^ (i + 1) = 2 * b.buf.size := by
      rw [Nat.pow_succ, ← Nat.mul_assoc, ← hi, Nat.mul_comm]
    have hdouble : p.unit * (2 * b.factor) = p.unit * p.factor * 2 ^ (i + 1) := by
      rw [htwice, hsize]
      exact Nat.mul_left_comm _ _ _
    split
    · next hgranted =>
      refine .inl ⟨_, rfl, ⟨hinside.realloc (by omega), rfl, hholds.realloc (hinside.length ▸ by omega), hlen,
        hclean, hlt, hcounted, i + 1, hdouble, fun j hj => ?_⟩, ?_⟩
      · rcases Nat.lt_or_eq_of_le hj with hj | rfl
        · exact halloc j (Nat.le_of_lt_succ hj)
        · exact hdouble ▸ hgranted
      · show text.length + p.reserve ≤ p.unit * (2 * b.factor)
        omega
    · next hrefused =>
      refine .inr ⟨rfl, i + 1, ?_, hdouble ▸ Bool.eq_false_iff.2 hrefused⟩
      have hle := full_true hfull
      rw [← hsize, hlen] at hle
      have hbound : p.unit * p.factor ≤ 2 ^ p.bits := hL ▸ Nat.le_mul_of_pos_right _ (Nat.two_pow_pos L)
      by_contra hlarge
      have hmore : 2 ^ (L + 1) ≤ 2 ^ i := Nat.pow_le_pow_right (by decide) (by omega)
      have htoo := Nat.mul_le_mul_left (p.unit * p.factor) hmore
      rw [Nat.pow_succ, ← Nat.mul_assoc, hL, ← hi] at htoo
      omega
  · rw [if_neg hfull]
    have hroom := full_false (Bool.not_eq_true _ ▸ hfull) (show p.reserve ≤ p.unit * b.factor by omega)
    exact .inl ⟨b, rfl, ⟨hinside, hsize, hholds, hlen, hclean, hlt, hcounted, i, hi, halloc⟩, by omega⟩

/-- A mark stays. -/
theorem mem_marks_grow {f : TextState → Except TextState TextState} {m : Nat × Nat}
    (hf : ∀ b', m ∈ b'.marks → m ∈ (reached (f b')).marks) (h : m ∈ b.marks) :
    m ∈ (reached ((p.grow alloc fill b).bind f)).marks := by
  unfold TextPlan.grow
  split
  · split
    · exact hf _ h
    · exact h
  · exact hf _ h

theorem mem_marks_loop {m : Nat × Nat} (h : m ∈ b.marks) : m ∈ (reached (p.loop alloc fill xs b)).marks := by
  induction xs generalizing b with
  | nil => exact h
  | cons x xs ih =>
    rw [loop_cons]
    exact mem_marks_grow (fun _ => ih) (List.mem_cons_of_mem _ h)

/-- **The counter follows the text** to its end if and only if it can tell the length, or memory runs out
before. -/
theorem Follows.loop (hL : p.unit * p.factor * 2 ^ L = 2 ^ p.bits) (hr : p.reserve ≤ p.unit * p.factor)
    (h : p.Follows alloc text b) (hroom : text.length + p.reserve ≤ b.buf.size)
    (hxs : ∀ x ∈ xs, nul ∉ x.text ∧ x.text.length + p.tail.length + 1 ≤ p.reserve) :
    (∀ m ∈ (reached (p.loop alloc fill xs b)).marks, m.1 = m.2) ↔
      text.length + (xs.map fun x => x.text.length).sum < 2 ^ p.bits ∨
        ∃ j ≤ L + 1, alloc (p.unit * p.factor * 2 ^ j) = false := by
  induction xs generalizing b text with
  | nil => exact iff_of_true h.counted (.inl h.lt)
  | cons x xs ih =>
    obtain ⟨⟨hn, hx⟩, hxs⟩ := List.forall_mem_cons.1 hxs
    have hlength : (text ++ x.text).length = text.length + x.text.length := List.length_append
    obtain ⟨hmarks, hfollows⟩ := h.append hn (by omega)
    rw [List.map_cons, List.sum_cons, ← Nat.add_assoc, ← hlength]
    by_cases hlt : (text ++ x.text).length < 2 ^ p.bits
    · have hnext := hfollows hlt
      have hsize : (p.append x b).buf.size = b.buf.size :=
        (append_spec h.inside hn (h.len ▸ by omega)).2.1
      rw [loop_cons]
      rcases hnext.grow fill hL hr (by omega) with ⟨b', hb, hb', hroom'⟩ | ⟨hb, hrefused⟩
      · rw [hb]
        exact ih hb' hroom' hxs
      · rw [hb]
        exact iff_of_true hnext.counted (.inr hrefused)
    · -- the counter has wrapped
      refine iff_of_false (fun hall => ?_) ?_
      · rw [loop_cons] at hall
        have hmark := hall _ (mem_marks_grow (fun _ => mem_marks_loop) (hmarks ▸ List.mem_cons_self))
        exact hlt (Nat.lt_of_le_of_lt (Nat.le_of_eq hmark.symm) (Nat.mod_lt _ (Nat.two_pow_pos p.bits)))
      · rintro (hsum | ⟨j, hj, hrefused⟩)
        · omega
        · obtain ⟨i, hi, halloc⟩ := h.grown
          have hlarge : L + 1 ≤ i := by
            by_contra hsmall
            have hpow : 2 ^ i ≤ 2 ^ L := Nat.pow_le_pow_right (by decide) (by omega)
            have hle := Nat.mul_le_mul_left (p.unit * p.factor) hpow
            rw [hL, ← hi] at hle
            omega
          exact absurd (halloc j (Nat.le_trans hj hlarge)) (hrefused ▸ Bool.false_ne_true)

theorem Roomy.follows (fill : Nat → Char) (h : p.Roomy) (hbits : p.unit * p.factor ≤ 2 ^ p.bits)
    (halloc : alloc (p.unit * p.factor) = true) : p.Follows alloc p.head.text (p.start fill) := by
  have hhead := h.head
  have htail := h.tail
  have hlt : p.head.text.length < 2 ^ p.bits := by omega
  obtain ⟨hinside, hsize, hholds, hlen, hmarks⟩ := h.start_spec fill
  refine ⟨hinside, hsize, hholds, hlen.trans (Nat.mod_eq_of_lt hlt), h.cleanHead, hlt, ?_, 0, ?_, ?_⟩
  · rw [hmarks]
    exact List.forall_mem_singleton.2 (Nat.mod_eq_of_lt hlt)
  · rw [Nat.pow_zero, Nat.mul_one]
    exact hsize
  · intro j hj
    rw [Nat.le_zero.1 hj, Nat.pow_zero, Nat.mul_one]
    exact halloc

/-- **The counter is the length of the text** if and only if it can tell it, or there is no memory for a text
of that length. -/
theorem Roomy.counted_iff (alloc : Nat → Bool) (fill : Nat → Char) (h : p.Roomy)
    (hL : p.unit * p.factor * 2 ^ L = 2 ^ p.bits) :
    (∀ m ∈ (reached (p.run alloc fill)).marks, m.1 = m.2) ↔
      p.total < 2 ^ p.bits ∨ ∃ j ≤ L + 1, alloc (p.unit * p.factor * 2 ^ j) = false := by
  by_cases halloc : alloc (p.unit * p.factor) = true
  · have hbits : p.unit * p.factor ≤ 2 ^ p.bits := hL ▸ Nat.le_mul_of_pos_right _ (Nat.two_pow_pos L)
    have hhead := h.head
    have hsize := (h.start_spec fill).2.1
    rw [(run_kept halloc).1]
    exact (h.follows fill hbits halloc).loop hL (by omega) (by omega) h.fits
  · refine iff_of_true ?_ (.inr ⟨0, Nat.zero_le _, ?_⟩)
    · rw [run_refused halloc]
      exact fun m hm => absurd hm List.not_mem_nil
    · rw [Nat.pow_zero, Nat.mul_one]
      exact Bool.eq_false_iff.2 halloc

/-! ## The text -/

theorem Follows.loop_text (fill : Nat → Char) (hL : p.unit * p.factor * 2 ^ L = 2 ^ p.bits)
    (hr : p.reserve ≤ p.unit * p.factor)
    (halloc : ∀ size, alloc size = true) (h : p.Follows alloc text b)
    (hroom : text.length + p.reserve ≤ b.buf.size)
    (hxs : ∀ x ∈ xs, nul ∉ x.text ∧ x.text.length + p.tail.length + 1 ≤ p.reserve)
    (hlt : text.length + (xs.map fun x => x.text.length).sum < 2 ^ p.bits) :
    ∃ b', p.loop alloc fill xs b = .ok b' ∧ p.Follows alloc (text ++ (xs.map Piece.text).flatten) b' := by
  induction xs generalizing b text with
  | nil => exact ⟨b, rfl, by simpa using h⟩
  | cons x xs ih =>
    obtain ⟨⟨hn, hx⟩, hxs⟩ := List.forall_mem_cons.1 hxs
    have hlength : (text ++ x.text).length = text.length + x.text.length := List.length_append
    rw [List.map_cons, List.sum_cons, ← Nat.add_assoc, ← hlength] at hlt
    have hnext := (h.append hn (by omega)).2 (by omega)
    have hsize : (p.append x b).buf.size = b.buf.size :=
      (append_spec h.inside hn (h.len ▸ by omega)).2.1
    rw [loop_cons, List.map_cons, List.flatten_cons, ← List.append_assoc]
    rcases hnext.grow fill hL hr (by omega) with ⟨b', hb, hb', hroom'⟩ | ⟨-, j, -, hrefused⟩
    · rw [hb]
      exact ih hb' hroom' hxs hlt
    · exact absurd (halloc _) (hrefused ▸ Bool.false_ne_true)

theorem Follows.finish (h : p.Follows alloc text b) : (p.finish b).buf.Holds [] (text ++ p.tail) := by
  obtain ⟨rest, hbytes⟩ := h.holds
  rw [List.nil_append] at hbytes
  have hfront : b.buf.bytes.take b.len = text := by
    rw [hbytes, h.len, List.take_left]
  -- the text there is empty, so both ways of writing begin at the pointer
  have hempty : b.buf.strlen b.len = 0 := by
    have hholds : b.buf.Holds text [] := ⟨rest, hbytes⟩
    have hstrlen := hholds.strlen List.not_mem_nil
    rwa [← h.len] at hstrlen
  have hprinted : (b.buf.sprintf b.len p.tail).Holds [] (text ++ p.tail) := by
    obtain ⟨more, hmore⟩ : (b.buf.sprintf b.len p.tail).Holds (b.buf.bytes.take b.len) p.tail := sprintf_holds
    exact ⟨more, by rw [hmore, hfront, List.nil_append, List.append_assoc]⟩
  unfold TextPlan.finish TextBuffer.strcat
  rw [hempty, Nat.add_zero]
  split
  · exact hprinted
  · exact hprinted

/-- **What is built**, when there is memory and the counter can tell the length. -/
theorem Roomy.built (fill : Nat → Char) (h : p.Roomy) (hL : p.unit * p.factor * 2 ^ L = 2 ^ p.bits)
    (halloc : ∀ size, alloc size = true) (htotal : p.total < 2 ^ p.bits) :
    ∃ b, p.run alloc fill = .ok b ∧
      b.buf.Holds [] (p.head.text ++ (p.pieces.map Piece.text).flatten ++ p.tail) := by
  have hbits : p.unit * p.factor ≤ 2 ^ p.bits := hL ▸ Nat.le_mul_of_pos_right _ (Nat.two_pow_pos L)
  have hhead := h.head
  have hsize := (h.start_spec fill).2.1
  obtain ⟨b, hb, hfollows⟩ := (h.follows fill hbits (halloc _)).loop_text fill hL (by omega) halloc
    (by omega) h.fits htotal
  refine ⟨p.finish b, ?_, hfollows.finish⟩
  rw [run_eq (halloc _), hb]
  rfl

end TextPlan

end OsdTarget.Base
