import OsdTarget.ListedRows
import OsdTarget.Registers

/-!
# LIST with attributes

The rows of one object are told from those of the next only by the marker in front of them.  Where every
object reached has one, and every attribute reached is an ordinary one that can be packed, the reply is the
listing; and the continuation id tells that something was cut off where a row is left to note it.
-/

namespace OsdTarget

open Base

/-! ## When the rows can be told apart -/

/-- The attributes of an object come into the reply one by one while there is room; `more` and `rest` are
the objects and the rows that follow, which `next` says can go on. -/
def Packs (more : Prop) (rest : List (UInt64 × Sought)) (next : Nat → Prop) : Nat → List Sought → Prop
  | room, [] => next room
  | room, a :: as =>
    if room < 16 then (∃ b ∈ a :: as, b.found = true) ∨ rest ≠ []
    else a.found = true ∧ ¬ a.marks ∧ room % 8 = 0 ∧ min a.size room ≤ room % 2 ^ 32 ∧
      if room - min a.size room < 16 then room < a.size ∨ as ≠ [] ∨ more
      else Packs more rest next (room - min a.size room) as

/-- Every object that there is room for has its marker and its attributes can be packed; where there is no
room some row is left. -/
def Splits : Nat → List Listed → Prop
  | _, [] => True
  | room, o :: os =>
    if room < 16 then (o :: os).flatMap Listed.stream ≠ []
    else (∃ m ∈ o.marker, m.found = true) ∧
      (emit (room - 16) (o.attrs.map Sought.item)).length < 2 ^ 32 ∧
      Packs (os ≠ []) (os.flatMap Listed.stream) (fun left => Splits left os) (room - 16) o.attrs

/-- The same from the start of the reply, where no descriptor is under way. -/
def Separable (room : Nat) (os : List Listed) : Prop :=
  if room < 16 then os = [] ∨ ∃ p ∈ os.flatMap Listed.stream, p.2.marks else Splits room os

instance Packs.decidable {more : Prop} [Decidable more] {rest : List (UInt64 × Sought)} {next : Nat → Prop}
    [∀ n, Decidable (next n)] : (room : Nat) → (as : List Sought) → Decidable (Packs more rest next room as)
  | room, [] => inferInstanceAs (Decidable (next room))
  | room, a :: as =>
    have : Decidable (Packs more rest next (room - min a.size room) as) := Packs.decidable _ as
    inferInstanceAs (Decidable (if room < 16 then (∃ b ∈ a :: as, b.found = true) ∨ rest ≠ []
      else a.found = true ∧ ¬ a.marks ∧ room % 8 = 0 ∧ min a.size room ≤ room % 2 ^ 32 ∧
        if room - min a.size room < 16 then room < a.size ∨ as ≠ [] ∨ more
        else Packs more rest next (room - min a.size room) as))

instance Splits.decidable : (room : Nat) → (os : List Listed) → Decidable (Splits room os)
  | _, [] => inferInstanceAs (Decidable True)
  | room, o :: os =>
    have : ∀ n, Decidable (Splits n os) := fun n => Splits.decidable n os
    inferInstanceAs (Decidable (if room < 16 then (o :: os).flatMap Listed.stream ≠ []
      else (∃ m ∈ o.marker, m.found = true) ∧
        (emit (room - 16) (o.attrs.map Sought.item)).length < 2 ^ 32 ∧
        Packs (os ≠ []) (os.flatMap Listed.stream) (fun left => Splits left os) (room - 16) o.attrs))

instance (room : Nat) (os : List Listed) : Decidable (Separable room os) :=
  inferInstanceAs (Decidable (if room < 16 then os = [] ∨ ∃ p ∈ os.flatMap Listed.stream, p.2.marks
    else Splits room os))

/-! ## The run -/

section Run

variable {env : Env} {pos : Nat} {size : UInt64} {s t : Target} {done : List UInt8}
  {cur : Option (UInt64 × List UInt8)} {c : OdeCursor} {pid : UInt64}

/-- Without room nothing is added; the first row that can notes where to go on. -/
theorem finishes_full (h : Filling pos size s done cur c t) (hroom : c.allocLen.toNat < 16)
    {rows : List (UInt64 × Sought)} (hids : ∀ p ∈ rows, p.1 ≠ 0)
    (hadd : c.addLen.toNat + (rows.map fun p => p.2.step).sum < 2 ^ 64) :
    Finishes env pos size s pid (done ++ current cur)
      (c.contId ≠ 0 ∨ (rows ≠ [] ∧ cur.isSome) ∨ ∃ p ∈ rows, p.2.marks) rows c t := by
  induction rows generalizing c t done cur with
  | nil =>
    refine ⟨c, t, done, cur, rfl, h, rfl, ?_⟩
    simp
  | cons p rows ih =>
    obtain ⟨hid, hids⟩ := List.forall_mem_cons.1 hids
    rw [List.map_cons, List.sum_cons] at hadd
    obtain ⟨c', t', hrow, hnext, hal, had, hcont⟩ := takeRow_full h hroom pid hid
    have hstep : c'.addLen.toNat + p.2.step < 2 ^ 64 := by rw [had]; omega
    have hrest := ih (hnext.counted p.2) (by rw [← hal] at hroom; exact hroom) hids
      (by rw [counted_addLen hstep, had]; omega)
    rw [show done ++ current cur ++ current none = done ++ current cur from List.append_nil _] at hrest
    refine .cons hrow hstep (hrest.congr ?_)
    show (c'.contId ≠ 0 ∨ (rows ≠ [] ∧ false = true) ∨ ∃ q ∈ rows, q.2.marks) ↔ _
    have hmarks : (∃ q ∈ p :: rows, q.2.marks) ↔ p.2.marks ∨ ∃ q ∈ rows, q.2.marks := by simp
    have hno : (rows ≠ [] ∧ false = true) ↔ False := by simp
    have hyes : (p :: rows ≠ [] ∧ cur.isSome = true) ↔ cur.isSome = true := by simp
    rw [hcont, hmarks, hno, hyes, false_or]
    simp only [or_assoc, or_left_comm]

theorem stream_ids {os : List Listed} (h : ∀ o ∈ os, o.oid ≠ 0) :
    ∀ p ∈ os.flatMap Listed.stream, p.1 ≠ 0 := by
  intro p hp
  obtain ⟨o, ho, hp⟩ := List.mem_flatMap.1 hp
  obtain ⟨a, -, rfl⟩ := List.mem_map.1 hp
  exact h o ho

theorem sum_size_of_ne_nil {as : List Sought} (h : as ≠ []) : 16 ≤ (as.map Sought.size).sum := by
  obtain ⟨a, as, rfl⟩ := List.exists_cons_of_ne_nil h
  rw [List.map_cons, List.sum_cons]
  have := a.le_size
  omega

theorem sizeOfAll_of_ne_nil {os : List Listed} (h : os ≠ []) : 16 ≤ sizeOfAll os := by
  obtain ⟨o, os, rfl⟩ := List.exists_cons_of_ne_nil h
  rw [sizeOfAll, List.map_cons, List.sum_cons]
  omega

/-- The attributes of one object, then whatever follows. -/
theorem finishes_attrs (haddr : env.outAddr % 8 = 0) {os : List Listed} {rest : List (UInt64 × Sought)}
    {next : Nat → Prop} (hids : ∀ p ∈ rest, p.1 ≠ 0) {oid : UInt64} (hid : oid ≠ 0)
    (hnext : ∀ {c t done cur}, Filling pos size s done cur c t → cur.isSome → c.contId = 0 →
      next c.allocLen.toNat → c.addLen.toNat + (rest.map fun p => p.2.step).sum < 2 ^ 64 →
      Finishes env pos size s pid (done ++ current cur ++ listing c.allocLen.toNat os)
        (c.allocLen.toNat < sizeOfAll os) rest c t)
    {as : List Sought} {attrs : List UInt8} (h : Filling pos size s done (some (oid, attrs)) c t)
    (hcont : c.contId = 0) (hpacks : Packs (os ≠ []) rest next c.allocLen.toNat as)
    (hadd : c.addLen.toNat + ((((as.filter Sought.found).map fun a => (oid, a)) ++ rest).map
      fun p => p.2.step).sum < 2 ^ 64) :
    Finishes env pos size s pid
      (done ++ encodeOde oid (attrs ++ emit c.allocLen.toNat (as.map Sought.item)) ++
        listing (c.allocLen.toNat - (emit c.allocLen.toNat (as.map Sought.item)).length) os)
      (c.allocLen.toNat < (as.map Sought.size).sum + sizeOfAll os)
      (((as.filter Sought.found).map fun a => (oid, a)) ++ rest) c t := by
  induction as generalizing c t attrs with
  | nil =>
    have hrest := hnext h rfl hcont hpacks hadd
    simpa only [List.map_nil, emit, List.append_nil, List.sum_nil, Nat.zero_add, List.length_nil,
      Nat.sub_zero, List.filter_nil, List.nil_append, current] using hrest
  | cons a as ih =>
    rw [Packs] at hpacks
    have hids' : ∀ p ∈ ((((a :: as).filter Sought.found).map fun a => (oid, a)) ++ rest), p.1 ≠ 0 := by
      intro p hp
      rcases List.mem_append.1 hp with hp | hp
      · obtain ⟨b, -, rfl⟩ := List.mem_map.1 hp
        exact hid
      · exact hids p hp
    rw [List.map_cons, List.map_cons, List.sum_cons]
    by_cases hroom : c.allocLen.toNat < 16
    · -- no room for another entry: some row is left, which finishes the descriptor
      rw [if_pos hroom] at hpacks
      have hrows : (((a :: as).filter Sought.found).map fun a => (oid, a)) ++ rest ≠ [] := by
        rintro hnil
        obtain ⟨hnone, hrest⟩ := List.append_eq_nil_iff.1 hnil
        rcases hpacks with ⟨b, hb, hfound⟩ | hne
        · have hmem := List.mem_filter.2 ⟨hb, hfound⟩
          rw [List.map_eq_nil_iff.1 hnone] at hmem
          exact List.not_mem_nil hmem
        · exact hne hrest
      rw [emit_of_lt hroom, List.append_nil, List.length_nil, Nat.sub_zero, listing_of_lt hroom,
        List.append_nil]
      refine (finishes_full h hroom hids' hadd).congr (iff_of_true (.inr (.inl ⟨hrows, rfl⟩)) ?_)
      have := a.le_size
      omega
    · rw [if_neg hroom] at hpacks
      obtain ⟨hfound, hmarks, h8, hw, hrest⟩ := hpacks
      have h16 : 16 ≤ c.allocLen.toNat := Nat.not_lt.1 hroom
      have hlen := a.bytes_length h8 h16
      have hneed : ¬ c.allocLen.toNat < a.item.need := hroom
      rw [emit, if_neg hneed, hlen]
      rw [List.filter_cons_of_pos hfound, List.map_cons, List.cons_append] at hadd hids' ⊢
      rw [List.map_cons, List.sum_cons] at hadd
      obtain ⟨c', t', hrow, hal, had, hfill⟩ := addAttr_fills h haddr a h8 h16 hw pid oid
      have hrow' : takeRow env pid (oid, a) c t = some (some c', t') := by rw [takeRow, if_neg hmarks, hrow]
      have hstep : c'.addLen.toNat + a.step < 2 ^ 64 := by
        rw [had]
        exact Nat.lt_of_le_of_lt (Nat.add_le_add_left (Nat.le_add_right a.step _) _) hadd
      have hadd' : (c'.counted a).addLen.toNat +
          ((((as.filter Sought.found).map fun a => (oid, a)) ++ rest).map
          fun p => p.2.step).sum < 2 ^ 64 := by
        rw [counted_addLen hstep, had, Nat.add_assoc]
        exact hadd
      have hsize : min a.size c.allocLen.toNat ≤ a.size := Nat.min_le_left _ _
      refine .cons hrow' hstep ?_
      generalize hleft : c.allocLen.toNat - min a.size c.allocLen.toNat = left at *
      by_cases hlast : left < 16
      · -- the last entry there is room for
        rw [if_pos hlast] at hfill hrest
        obtain ⟨hfill, hcont'⟩ := hfill
        have hnoted : c'.contId ≠ 0 := by
          rw [hcont', if_pos hcont]
          exact hid
        have hfull : Finishes env pos size s pid _ _ _ _ _ := finishes_full (hfill.counted a)
          (show c'.allocLen.toNat < 16 by omega) (List.forall_mem_cons.1 hids').2 hadd'
        rw [emit_of_lt hlast, List.append_nil, hlen, hleft, listing_of_lt hlast, List.append_nil]
        rw [show ∀ l : List UInt8, l ++ current none = l from List.append_nil] at hfull
        refine hfull.congr (iff_of_true (.inl hnoted) ?_)
        rcases hrest with hcut | has | hos
        · omega
        · have := sum_size_of_ne_nil has
          omega
        · have := sizeOfAll_of_ne_nil hos
          omega
      · rw [if_neg hlast] at hfill hrest
        obtain ⟨hfill, hcont'⟩ := hfill
        have hgoal := ih (hfill.counted a) (hcont'.trans hcont) (by
          show Packs _ _ _ c'.allocLen.toNat as
          rw [hal]
          exact hrest) hadd'
        rw [show (c'.counted a).allocLen.toNat = left from hal] at hgoal
        rw [List.length_append, hlen, ← Nat.sub_sub, hleft, ← List.append_assoc attrs]
        exact hgoal.congr (by omega)

/-- **One object after the other**, the induction on the objects. -/
theorem finishes_objects (haddr : env.outAddr % 8 = 0) {os : List Listed} (hids : ∀ o ∈ os, o.oid ≠ 0)
    (h : Filling pos size s done cur c t) (hstart : cur.isSome ∨ 16 ≤ c.allocLen.toNat)
    (hcont : c.contId = 0) (hsplits : Splits c.allocLen.toNat os)
    (hadd : c.addLen.toNat + ((os.flatMap Listed.stream).map fun p => p.2.step).sum < 2 ^ 64) :
    Finishes env pos size s pid (done ++ current cur ++ listing c.allocLen.toNat os)
      (c.allocLen.toNat < sizeOfAll os) (os.flatMap Listed.stream) c t := by
  induction os generalizing c t done cur with
  | nil =>
    refine ⟨c, t, done, cur, rfl, h, (List.append_nil _).symm, ?_⟩
    exact iff_of_false (not_not.2 hcont) (Nat.not_lt_zero _)
  | cons o os ih =>
    obtain ⟨hid, hids'⟩ := List.forall_mem_cons.1 hids
    rw [Splits] at hsplits
    by_cases hroom : c.allocLen.toNat < 16
    · rw [if_pos hroom] at hsplits
      have hcur : cur.isSome := hstart.resolve_right (by omega)
      rw [listing_of_lt hroom, List.append_nil]
      refine (finishes_full h hroom (stream_ids hids) hadd).congr
        (iff_of_true (.inr (.inl ⟨hsplits, hcur⟩)) ?_)
      have := sizeOfAll_of_ne_nil (List.cons_ne_nil o os)
      omega
    · rw [if_neg hroom] at hsplits
      obtain ⟨⟨m, hm, hfound⟩, -, hpacks⟩ := hsplits
      have hstream : (o :: os).flatMap Listed.stream = (o.oid, m) ::
          (((o.attrs.filter Sought.found).map fun a => (o.oid, a)) ++ os.flatMap Listed.stream) := by
        rw [List.flatMap_cons, Listed.stream, show o.marker = some m from hm, Option.toList_some,
          List.singleton_append, List.filter_cons_of_pos hfound, List.map_cons, List.cons_append]
      have hmarks : m.marks := o.marks m hm
      have h16 : m.step = 16 := if_pos hmarks
      rw [hstream] at hadd ⊢
      rw [List.map_cons, List.sum_cons] at hadd
      obtain ⟨c', t', hrun, hfill, hal, hcont', had⟩ := startOde_fills h (Nat.not_lt.1 hroom) o.oid
      have hrow : takeRow env pid (o.oid, m) c t = some (some c', t') := by
        rw [takeRow, if_pos hmarks]
        show (startOde o.oid c t).bind _ = _
        rw [hrun]
        rfl
      have hstep : c'.addLen.toNat + m.step < 2 ^ 64 := by
        rw [had]
        exact Nat.lt_of_le_of_lt (Nat.add_le_add_left (Nat.le_add_right m.step _) _) hadd
      refine .cons hrow hstep ?_
      have hroom' : (c'.counted m).allocLen.toNat = c.allocLen.toNat - 16 := hal
      rw [← hroom'] at hpacks
      have hattrs : Finishes env pos size s pid _ _ _ (c'.counted m) t' :=
        finishes_attrs haddr (stream_ids hids') hid
          (fun hf hc h0 hs ha => ih hids' hf (.inl hc) h0 hs ha) (hfill.counted m)
            (hcont'.trans hcont) hpacks (by
            rw [counted_addLen hstep, had, Nat.add_assoc]
            exact hadd)
      rw [List.nil_append, hroom'] at hattrs
      rw [listing_cons, if_neg hroom, ← List.append_assoc]
      refine hattrs.congr ?_
      have hall : sizeOfAll (o :: os) = 16 + (o.attrs.map Sought.size).sum + sizeOfAll os := by
        rw [sizeOfAll, List.map_cons, List.sum_cons, ← sizeOfAll]
      omega

/-- The whole run: the listing, and where to go on if it is cut off. -/
theorem finishes_listing (haddr : env.outAddr % 8 = 0) {os : List Listed} (hids : ∀ o ∈ os, o.oid ≠ 0)
    (h : Filling pos size s [] none c t) (hcont : c.contId = 0) (hsep : Separable c.allocLen.toNat os)
    (hadd : c.addLen.toNat + ((os.flatMap Listed.stream).map fun p => p.2.step).sum < 2 ^ 64) :
    Finishes env pos size s pid (listing c.allocLen.toNat os) (c.allocLen.toNat < sizeOfAll os)
      (os.flatMap Listed.stream) c t := by
  unfold Separable at hsep
  by_cases hroom : c.allocLen.toNat < 16
  · rw [if_pos hroom] at hsep
    rw [listing_of_lt hroom]
    refine (finishes_full h hroom (stream_ids hids) hadd).congr ?_
    rcases hsep with rfl | hmarks
    · exact iff_of_false (by simp [hcont]) (Nat.not_lt_zero _)
    · have hne : os ≠ [] := by
        rintro rfl
        obtain ⟨p, hp, -⟩ := hmarks
        exact List.not_mem_nil hp
      have := sizeOfAll_of_ne_nil hne
      exact iff_of_true (.inr (.inr hmarks)) (by omega)
  · rw [if_neg hroom] at hsep
    exact finishes_objects haddr hids h (.inr (Nat.not_lt.1 hroom)) hcont hsep hadd

end Run

/-! ## The reply -/

/-- What the reply to LIST with attributes should be. -/
structure ListsAttributes (pid initial alloc : UInt64) (getAttr : List (UInt32 × UInt32)) (s : Target)
    (used : UInt64) (t : Target) : Prop where
  /-- Behind the header of 24 bytes there are the descriptors of the objects, as far as there is room. -/
  body : t.reply.read 24 (listing (alloc.toNat - 24) (s.db.listed pid initial getAttr)).length =
    listing (alloc.toNat - 24) (s.db.listed pid initial getAttr)
  /-- The length of each attribute list fits its field. -/
  lengths : ∀ d ∈ descriptors (alloc.toNat - 24) (s.db.listed pid initial getAttr), d.2.length < 2 ^ 32
  /-- `used_outlen` counts the header and the body, and nothing is stored behind them. -/
  count : used.toNat = 24 + (listing (alloc.toNat - 24) (s.db.listed pid initial getAttr)).length
  stores : Within s used.toNat t
  room : used ≤ alloc
  /-- The continuation id is 0 when everything is there, and only then. -/
  contId : getNtohll t.reply 8 = 0 ↔ sizeOfAll (s.db.listed pid initial getAttr) ≤ alloc.toNat - 24

section Reply

variable {env : Env} {s t : Target} {pid initial alloc : UInt64} {getAttr : List (UInt32 × UInt32)}

theorem Packs.left {more : Prop} {rest : List (UInt64 × Sought)} {next : Nat → Prop} {room : Nat}
    {as : List Sought} (h : Packs more rest next room as) :
    next (room - (emit room (as.map Sought.item)).length) ∨
      room - (emit room (as.map Sought.item)).length < 16 := by
  induction as generalizing room with
  | nil => exact .inl h
  | cons a as ih =>
    rw [Packs] at h
    rw [List.map_cons]
    by_cases hroom : room < 16
    · exact .inr (Nat.lt_of_le_of_lt (Nat.sub_le _ _) hroom)
    · rw [if_neg hroom] at h
      obtain ⟨-, -, h8, -, hrest⟩ := h
      have hlen := a.bytes_length h8 (Nat.not_lt.1 hroom)
      have hneed : ¬ room < a.item.need := hroom
      rw [emit, if_neg hneed, List.length_append, hlen, ← Nat.sub_sub]
      by_cases hlast : room - min a.size room < 16
      · exact .inr (Nat.lt_of_le_of_lt (Nat.sub_le _ _) hlast)
      · rw [if_neg hlast] at hrest
        exact ih hrest

theorem Splits.lengths {room : Nat} {os : List Listed} (h : Splits room os) :
    ∀ d ∈ descriptors room os, d.2.length < 2 ^ 32 := by
  induction os generalizing room with
  | nil => exact fun d hd => absurd hd List.not_mem_nil
  | cons o os ih =>
    rw [Splits] at h
    rw [descriptors]
    by_cases hroom : room < 16
    · rw [if_pos hroom]
      exact fun d hd => absurd hd List.not_mem_nil
    · rw [if_neg hroom] at h ⊢
      obtain ⟨-, hlen, hpacks⟩ := h
      refine List.forall_mem_cons.2 ⟨hlen, ?_⟩
      rcases hpacks.left with hnext | hfull
      · exact ih hnext
      · rw [descriptors_of_lt hfull]
        exact fun d hd => absurd hd List.not_mem_nil

theorem Separable.lengths {room : Nat} {os : List Listed} (h : Separable room os) :
    ∀ d ∈ descriptors room os, d.2.length < 2 ^ 32 := by
  unfold Separable at h
  by_cases hroom : room < 16
  · rw [descriptors_of_lt hroom]
    exact fun d hd => absurd hd List.not_mem_nil
  · rw [if_neg hroom] at h
    exact Splits.lengths h

theorem Sought.step_le (a : Sought) : a.step ≤ a.size := by
  have h := a.le_size
  unfold Sought.step
  split
  · exact h.1
  · unfold Sought.size roundup8 LE_VAL_OFF
    omega

theorem step_sum_le (os : List Listed) :
    ((os.flatMap Listed.stream).map fun p => p.2.step).sum ≤ sizeOfAll os := by
  have hattrs : ∀ as : List Sought, ((as.filter Sought.found).map Sought.step).sum ≤
      (as.map Sought.size).sum :=
    fun as => by
      induction as with
      | nil => exact Nat.le_refl _
      | cons a as ih =>
        have ha := a.step_le
        rw [List.filter_cons, List.map_cons, List.sum_cons]
        split
        · rw [List.map_cons, List.sum_cons]
          omega
        · omega
  have hobject : ∀ o : Listed, (o.stream.map fun p => p.2.step).sum ≤ 16 +
      (o.attrs.map Sought.size).sum := by
    intro o
    have hsum := hattrs o.attrs
    rw [Listed.stream, List.map_map, List.filter_append, List.map_append, List.sum_append]
    refine Nat.add_le_add ?_ hsum
    cases hm : o.marker with
    | none => exact Nat.zero_le _
    | some m =>
      have h16 : m.step = 16 := if_pos (o.marks m hm)
      rw [Option.toList_some, List.filter_singleton]
      cases m.found with
      | false => exact Nat.zero_le _
      | true => exact h16.le
  induction os with
  | nil => exact Nat.le_refl _
  | cons o os ih =>
    rw [List.flatMap_cons, List.map_append, List.sum_append, sizeOfAll, List.map_cons, List.sum_cons,
      ← sizeOfAll]
    exact Nat.add_le_add (hobject o) ih

theorem listed_ids (hd : s.db.Stores) : ∀ o ∈ s.db.listed pid initial getAttr, o.oid ≠ 0 := by
  intro o ho
  obtain ⟨oid, hoid, rfl⟩ := List.mem_map.1 ho
  obtain ⟨r, hr, -, htype, -, rfl⟩ := mem_userobjects.1 hoid
  intro hzero
  have hids := hd.ids r hr
  refine hd.userobjects r hr htype ?_
  rw [← bindInt64_columnInt64 hids.2.1 hids.2.2, show columnInt64 r.oid = 0 from hzero]
  rfl

/-- The length of the last attribute list is filled in after the loop. -/
theorem lastLength_run {pos : Nat} {size : UInt64} {done : List UInt8} {cur : Option (UInt64 × List UInt8)}
    {c : OdeCursor} (h : Filling pos size s done cur c t) (ret : Ret) :
    (if c.head ≠ c.tail then do
        outWrite c.head (htonl c.attrListLen)
        return (ret, c)
      else return (ret, c) : OsdM (Ret × OdeCursor)) t
      = some ((ret, c), { t with out := t.out ++ closing pos done cur }) := by
  have hclose := closeOpen_run h t
  unfold OdeCursor.closeOpen at hclose
  by_cases hne : c.head ≠ c.tail
  · rw [if_pos hne] at hclose ⊢
    exact congrArg (fun x => x.map fun y => ((ret, c), y.2)) hclose
  · rw [if_neg hne] at hclose ⊢
    exact congrArg (fun x => x.map fun y => ((ret, c), y.2)) hclose

/-- What stands of the reply when the query runs: the reserved bytes and the format of the list. -/
def Target.listHead (s : Target) : Target :=
  { s with out := s.out ++ [(0, List.replicate 24 0), (23, [0x88])] }

theorem listHead_filling (size : UInt64) : Filling 24 size s [] none ⟨24, 24, size, 0, 0, 0, 0⟩ s.listHead := by
  refine ⟨rfl, rfl, rfl, rfl, Nat.zero_add _, (show (24 : Nat) % 8 = 0 from rfl), rfl, _, rfl, ?_⟩
  refine List.forall_mem_cons.2 ⟨?_, List.forall_mem_singleton.2 ?_⟩
  · show 0 + (List.replicate 24 (0 : UInt8)).length ≤ 24
    rw [List.length_replicate]
  · exact Nat.le_refl 24

/-- **The query** behind the header: the loop over its rows, and the length that is left open. -/
theorem mtqListOidsAttr_fills (hd : s.db.Stores) (haddr : env.outAddr % 8 = 0)
    (hq : env.queryFails (.listOidsAttr (bindInt64 pid) (bindInt64 initial)) s.db = false) {size : UInt64}
    (htotal : sizeOfAll (s.db.listed pid initial getAttr) < 2 ^ 64)
    (hsep : Separable size.toNat (s.db.listed pid initial getAttr)) :
    ∃ c t done cur, mtqListOidsAttr env pid initial getAttr size 24 s.listHead
        = some ((.ok, c), { t with out := t.out ++ closing 24 done cur }) ∧
      Filling 24 size s done cur c t ∧
      done ++ current cur = listing size.toNat (s.db.listed pid initial getAttr) ∧
      (c.contId ≠ 0 ↔ size.toNat < sizeOfAll (s.db.listed pid initial getAttr)) := by
  obtain ⟨c, t, done, cur, hloop, hfill, hbody, hcont⟩ : Finishes env 24 size s pid _ _ _ _ s.listHead :=
    finishes_listing haddr (listed_ids hd) (listHead_filling size) rfl hsep
      (Nat.lt_of_le_of_lt (Nat.zero_add _ ▸ step_sum_le _) htotal)
  rw [← listOidsAttrRows_eq hd, listOidsAttrLoop_shown] at hloop
  refine ⟨c, t, done, cur, ?_, hfill, hbody, hcont⟩
  have hquery : dbExecQuery env (.listOidsAttr (bindInt64 pid) (bindInt64 initial)) []
      (fun d => listOidsAttrRows d pid initial getAttr) s.listHead
      = some ((.ok, listOidsAttrRows s.db pid initial getAttr), s.listHead) := by
    show (if env.queryFails _ s.db = true then _ else _ : OsdM _) s.listHead = _
    rw [if_neg (by simp [hq])]
    rfl
  unfold mtqListOidsAttr
  dsimp only
  rw [bind_of_some hquery]
  dsimp only
  rw [if_neg (by simp), bind_of_some hloop]
  dsimp only
  rw [if_neg (by simp)]
  exact lastLength_run hfill .ok

/-- The command around the query: the header before it, the two fields of the header after it. -/
theorem osdList_of_mtq (hpid : pid ≠ 0) (h24 : (24 : UInt64) ≤ alloc) (hget : getAttr ≠ []) {c : OdeCursor}
    (hmtq : mtqListOidsAttr env pid initial getAttr (alloc - 24) 24 s.listHead = some ((.ok, c), t)) :
    osdList env 1 pid alloc initial getAttr 0 s = some ((.ok, some (c.used + 24)), { t with
      out := t.out ++ [(0, htonll (addHeaderLen c.addLen))] ++ [(8, htonll c.contId)]
      ccap := fillCcap .partition pid PARTITION_OID 0 }) := by
  have h0 : alloc ≠ 0 := by
    rintro rfl
    exact absurd h24 (by decide)
  have hzero : outWrite 0 (List.replicate 24 0) s =
      some ((), { s with out := s.out ++ [(0, List.replicate 24 0)] }) :=
    rfl
  have hhead : outWrite 23 [0x88] { s with out := s.out ++ [(0, List.replicate 24 0)] }
      = some ((), s.listHead) := by
    show some (_, _) = some (_, _)
    simp only [Target.listHead, List.append_assoc, List.cons_append, List.nil_append]
  have hparts : ¬ ((1 : UInt8) = 0 ∧ getAttr ≠ []) ∧ ¬ ((1 : UInt8) = 1 ∧ getAttr = []) :=
    ⟨fun hc => absurd hc.1 (by decide), fun hc => hget hc.2⟩
  unfold osdList
  rw [if_neg h0, if_neg (UInt64.not_lt.2 h24), bind_of_some hzero, if_neg hparts.1, if_neg hparts.2]
  dsimp only
  rw [if_neg (by decide), if_pos hpid]
  refine (bind_of_some hhead).trans ?_
  rw [if_neg (by decide), bind_of_some hmtq]
  rfl

/-- **LIST with attributes** replies with the listing where the rows can be told apart. -/
theorem osdList_lists (hd : s.db.Stores) (haddr : env.outAddr % 8 = 0)
    (hq : env.queryFails (.listOidsAttr (bindInt64 pid) (bindInt64 initial)) s.db = false)
    (hpid : pid ≠ 0) (h24 : 24 ≤ alloc.toNat) (hget : getAttr ≠ [])
    (htotal : sizeOfAll (s.db.listed pid initial getAttr) < 2 ^ 64)
    (hsep : Separable (alloc.toNat - 24) (s.db.listed pid initial getAttr)) :
    ∃ used t, osdList env 1 pid alloc initial getAttr 0 s = some ((.ok, some used), t) ∧
      ListsAttributes pid initial alloc getAttr s used t := by
  have h24' : (24 : UInt64) ≤ alloc := UInt64.le_iff_toNat_le.2 h24
  have halloc : (alloc - 24).toNat = alloc.toNat - 24 := UInt64.toNat_sub_of_le _ _ h24'
  obtain ⟨c, t₁, done, cur, hmtq, hfill, hbody, hcont⟩ :=
    mtqListOidsAttr_fills hd haddr hq htotal (halloc ▸ hsep)
  rw [halloc] at hbody hcont
  let t₂ : Target := { t₁ with out := t₁.out ++ closing 24 done cur }
  let t : Target := { t₂ with
    out := t₂.out ++ [(0, htonll (addHeaderLen c.addLen))] ++ [(8, htonll c.contId)]
    ccap := fillCcap .partition pid PARTITION_OID 0 }
  have hlist : osdList env 1 pid alloc initial getAttr 0 s = some ((.ok, some (c.used + 24)), t) :=
    osdList_of_mtq hpid h24' hget hmtq
  have hbodyLen : (listing (alloc.toNat - 24) (s.db.listed pid initial getAttr)).length = c.used.toNat := by
    rw [← hbody, List.length_append, hfill.used]
  have hcount : (c.used + 24).toNat = 24 + c.used.toNat := by
    have hlt := alloc.toNat_lt
    have hle := hfill.room
    rw [UInt64.toNat_add]
    show (c.used.toNat + 24) % 2 ^ 64 = _
    omega
  have hreply : t.reply = (t₂.reply.write 0 (htonll (addHeaderLen c.addLen))).write 8
      (htonll c.contId) := by
    show List.foldl _ _ (t₂.out ++ [(0, _)] ++ [(8, _)]) = _
    rw [List.foldl_append, List.foldl_append]
    rfl
  have htail : c.tail = 24 + c.used.toNat := by rw [hfill.tail, hfill.used, Nat.add_assoc]
  refine ⟨c.used + 24, t, hlist, ?_, hsep.lengths, by rw [hcount, hbodyLen], ?_, ?_, ?_⟩
  · rw [hreply, Mem.read_write_of_disjoint (.inr (by rw [htonll_length]; omega)),
      Mem.read_write_of_disjoint (.inr (by rw [htonll_length]; omega)), ← hbody]
    exact hfill.written.closing
  · rw [hcount, ← htail]
    have hout : t.out = t₁.out ++ (closing 24 done cur ++ [(0, htonll (addHeaderLen c.addLen)),
        (8, htonll c.contId)]) := by
      simp only [t, t₂, List.append_assoc, List.cons_append, List.nil_append]
    refine (hfill.stores.more (Nat.le_refl _) (List.forall_mem_append.2
      ⟨closing_within hfill, ?_⟩)).of_out hout
    refine List.forall_mem_cons.2 ⟨?_, List.forall_mem_singleton.2 ?_⟩
    · show 0 + (htonll _).length ≤ c.tail
      rw [htonll_length]
      omega
    · show 8 + (htonll _).length ≤ c.tail
      rw [htonll_length]
      omega
  · have hle := hfill.room
    rw [UInt64.le_iff_toNat_le, hcount]
    omega
  · have hid : getNtohll t.reply 8 = c.contId := by
      rw [hreply]
      exact getNtohll_of_read (Mem.read_write_self _ 8 (htonll c.contId))
    rw [hid, ← Nat.not_lt, ← hcont, not_not]

end Reply

/-- A new object, its page names asked for, then given an attribute of three bytes. -/
def markedObject : Target := calmRun [.createPartition 0, .create 0x10000 0x10000 1,
  .getattrList 0x10000 0x10000 GETALLATTR_PG ATTRNUM_GETALL 0 64 true RTRVD_SET_ATTR_LIST,
  .setAttributes 0x10000 0x10000 0x10 1 (some (blobMem [1, 2, 3])) 3 false]

/-- The object is listed with its attribute. -/
theorem osdList_lists_marked : ∃ used t,
    osdList Env.calm 1 0x10000 128 0 [(0x10, 1)] 0 markedObject = some ((.ok, some used), t) ∧
      ListsAttributes 0x10000 0 128 [(0x10, 1)] markedObject used t :=
  osdList_lists ⟨by decide +kernel, by decide +kernel, by decide +kernel, by
    decide +kernel, by decide +kernel⟩
    rfl rfl (by decide) (by decide) (by decide) (by decide +kernel) (by decide +kernel)

/-- An object whose page names nobody has asked for is left out, and the reply says that nothing is. -/
theorem osdList_omits_unmarked : ¬ ∃ used t,
    osdList Env.calm 1 0x10000 64 0 [(0x10, 1)] 0 plainObject = some ((.ok, some used), t) ∧
      ListsAttributes 0x10000 0 64 [(0x10, 1)] plainObject used t := by
  rintro ⟨used, t, hrun, hlists⟩
  have hused : (osdList Env.calm 1 0x10000 64 0 [(0x10, 1)] 0 plainObject).map (fun x => x.1)
      = some (.ok, some 24) := by decide +kernel
  rw [hrun] at hused
  obtain rfl : used = 24 := by simpa using hused
  have hlen : (listing (64 - 24) (plainObject.db.listed 0x10000 0 [(0x10, 1)])).length = 16 :=
      by decide +kernel
  exact absurd (hlists.count.trans (congrArg (24 + ·) hlen)) (by decide)

/-- An object without a marker whose attribute spells out the descriptor that is missing. -/
def lookalike : Target := calmRun [.createPartition 0, .create 0x10000 0x2000000001 1,
  .setAttributes 0x10000 0x2000000001 0x10 1
    (some (blobMem (htonl 0x10 ++ htonl 1 ++ List.replicate 6 0 ++ htons 16))) 16 false]

/-- The condition is not necessary: where the values happen to agree, rows that cannot be told apart still
come out as the listing. -/
theorem osdList_lists_lookalike : ¬ Separable 32 (lookalike.db.listed 0x10000 0 [(0x10, 1)]) ∧ ∃ used t,
    osdList Env.calm 1 0x10000 56 0 [(0x10, 1)] 0 lookalike = some ((.ok, some used), t) ∧
      ListsAttributes 0x10000 0 56 [(0x10, 1)] lookalike used t := by
  refine ⟨by decide +kernel, ?_⟩
  have hshort : ∀ d ∈ descriptors 32 (lookalike.db.listed 0x10000 0 [(0x10, 1)]), d.2.length < 2 ^ 32 := by
    decide +kernel
  have hlen : (listing 32 (lookalike.db.listed 0x10000 0 [(0x10, 1)])).length = 32 := by decide +kernel
  have hcut : ¬ sizeOfAll (lookalike.db.listed 0x10000 0 [(0x10, 1)]) ≤ 32 := by decide +kernel
  have hnone : lookalike.out = [] := by decide +kernel
  have hrun : (osdList Env.calm 1 0x10000 56 0 [(0x10, 1)] 0 lookalike).map
      (fun x => (x.1, x.2.reply.read 24 32,
      getNtohll x.2.reply 8, x.2.out.all fun w => w.1 + w.2.length ≤ 56))
      = some ((.ok, some 56), listing 32 (lookalike.db.listed 0x10000 0 [(0x10, 1)]),
        0x2000000001, true) := by
    decide +kernel
  obtain ⟨⟨r, t⟩, ht, hx⟩ := Option.map_eq_some_iff.1 hrun
  simp only [Prod.mk.injEq] at hx
  obtain ⟨rfl, hbody, hcont, hall⟩ := hx
  have h32 : (56 : UInt64).toNat - 24 = 32 := rfl
  refine ⟨56, t, ht, ⟨?_, ?_, ?_, ⟨t.out, ?_, ?_⟩, by decide, ?_⟩⟩
  · rw [h32, hlen, hbody]
  · rw [h32]
    exact hshort
  · rw [h32, hlen]
    rfl
  · rw [hnone]
    rfl
  · simpa using hall
  · rw [h32, hcont]
    exact iff_of_false (by decide) hcut

end OsdTarget
