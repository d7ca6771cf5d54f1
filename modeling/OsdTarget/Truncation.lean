import OsdTarget.Retrieval
import OsdTarget.Windows

/-!
# Truncated attribute lists

`get_attr_list` hands the room that one attribute leaves to the next.  Whatever is cut off, the
entries stored with less room are the first bytes of those stored with more.
-/

namespace OsdTarget

open Base

variable (env : Env)

/-! ## The loops without a reply -/

/-- `retrieve` on object after object, as `get_attr_list` calls it; `none` when one fails. -/
def retrieveFrom (pid : UInt64) (page number : UInt32) (isembedded : Bool) (listfmt : UInt8) :
    Nat → UInt64 → OsdM (Option (List (List Item)))
  | 0, _ => return some []
  | n + 1, i => do
    match ← retrieve env pid i page number isembedded listfmt with
    | none => return none
    | some items =>
      match ← retrieveFrom pid page number isembedded listfmt n (i + 1) with
      | none => return none
      | some rest => return some (items :: rest)

/-- The loop of `get_attr_list`, likewise. -/
def retrieveList (pid oid : UInt64) (isembedded : Bool) (listfmt : UInt8) (numoid : UInt16) :
    List (UInt32 × UInt32) → OsdM (Option (List (List Item)))
  | [] => return some []
  | (page, number) :: rest => do
    match ← retrieveFrom env pid page number isembedded listfmt (createCount oid numoid) oid with
    | none => return none
    | some lists =>
      match ← retrieveList pid oid isembedded listfmt numoid rest with
      | none => return none
      | some lists' => return some (lists ++ lists')

/-- What is stored for one answer after the other. -/
def emitAll : Nat → List (List Item) → List UInt8
  | _, [] => []
  | room, items :: lists => emit room items ++ emitAll (room - (emit room items).length) lists

theorem emitAll_append (room : Nat) (l₁ l₂ : List (List Item)) :
    emitAll room (l₁ ++ l₂) = emitAll room l₁ ++ emitAll (room - (emitAll room l₁).length) l₂ := by
  induction l₁ generalizing room with
  | nil => rfl
  | cons items l₁ ih =>
    rw [List.cons_append, emitAll, emitAll, ih, List.append_assoc, List.length_append, Nat.sub_add_eq]

theorem emitAll_length {room : Nat} (h8 : room % 8 = 0) (lists : List (List Item)) :
    (emitAll room lists).length ≤ room ∧ (emitAll room lists).length % 8 = 0 := by
  induction lists generalizing room with
  | nil => exact ⟨Nat.zero_le _, rfl⟩
  | cons items lists ih =>
    have h := emit_length h8 items
    have hrest := ih (show (room - (emit room items).length) % 8 = 0 by omega)
    rw [emitAll, List.length_append]
    omega

/-- Items that all need the same room are stored as if they were one answer. -/
theorem emitAll_flatten {need room : Nat} {lists : List (List Item)}
    (hneed : ∀ items ∈ lists, ∀ x ∈ items, x.need = need) :
    emitAll room lists = emit room lists.flatten := by
  induction lists generalizing room with
  | nil => rfl
  | cons items lists ih =>
    rw [emitAll, ih fun l hl => hneed l (List.mem_cons_of_mem _ hl), List.flatten_cons,
      emit_append (hneed items List.mem_cons_self)]
    intro x hx
    obtain ⟨l, hl, hx⟩ := List.mem_flatten.1 hx
    exact hneed l (List.mem_cons_of_mem _ hl) x hx

/-! ## The loops pack what those answer -/

section Loops

variable {env : Env} {s t : Target} {listfmt : UInt8} {pid : UInt64} {isembedded : Bool}

theorem halts_retrieveFrom (page number : UInt32) (n : Nat) (i : UInt64) :
    Halts (retrieveFrom env pid page number isembedded listfmt n i) := by
  induction n generalizing i with
  | zero => exact halts_pure _
  | succ n ih =>
    refine halts_bind (halts_retrieve _ _ _ _ _ _) fun ans => ?_
    split
    · exact halts_pure _
    · refine halts_bind (ih _) fun rest => ?_
      split <;> exact halts_pure _

theorem halts_retrieveList (oid : UInt64) (numoid : UInt16) (entries : List (UInt32 × UInt32)) :
    Halts (retrieveList env pid oid isembedded listfmt numoid entries) := by
  induction entries with
  | nil => exact halts_pure _
  | cons e entries ih =>
    refine halts_bind (halts_retrieveFrom _ _ _ _) fun ans => ?_
    split
    · exact halts_pure _
    · refine halts_bind ih fun rest => ?_
      split <;> exact halts_pure _

/-- The room at `c` is aligned. -/
def GetCursor.Aligned (env : Env) (c : GetCursor) : Prop := OsdTarget.Aligned env c.pos c.allocLen.toNat

/-- Behind `n` bytes of the room. -/
structure GetCursor.Behind (c : GetCursor) (n : Nat) (c' : GetCursor) : Prop where
  pos : c'.pos = c.pos + n
  allocLen : c'.allocLen.toNat = c.allocLen.toNat - n
  used : c'.used = c.used + UInt32.ofNat n

theorem GetCursor.behind_advance {c : GetCursor} {n : Nat} (h : n ≤ c.allocLen.toNat) :
    c.Behind n (c.advance (UInt32.ofNat n)) := by
  have hlt := c.allocLen.toNat_lt
  have hn : (UInt32.ofNat n).toNat = n := by
    rw [UInt32.toNat_ofNat']
    exact Nat.mod_eq_of_lt (by omega)
  refine ⟨by rw [GetCursor.advance, hn], ?_, rfl⟩
  show (c.allocLen - UInt32.ofNat n).toNat = _
  rw [UInt32.toNat_sub_of_le _ _ (by rw [UInt32.le_iff_toNat_le]; omega), hn]

theorem GetCursor.Behind.trans {c₁ c₂ c₃ : GetCursor} {m n : Nat} (h : c₁.Behind m c₂)
    (h' : c₂.Behind n c₃) : c₁.Behind (m + n) c₃ where
  pos := by rw [h'.pos, h.pos, Nat.add_assoc]
  allocLen := by rw [h'.allocLen, h.allocLen, Nat.sub_add_eq]
  used := by rw [h'.used, h.used, UInt32.ofNat_add, UInt32.add_assoc]

/-- Some answer has items and room for none. -/
def Short (room : Nat) (lists : List (List Item)) : Prop :=
  ∃ l₁ items l₂, lists = l₁ ++ items :: l₂ ∧ items ≠ [] ∧
    emit (room - (emitAll room l₁).length) items = []

/-- What a loop of `get_attr_list` comes to from `c` on, beside the answers `ans`. -/
def RetrievesAll (c : GetCursor) (s : Target) (ans : Option (List (List Item))) (t' : Target)
    (r : Ret × GetCursor) (s' : Target) : Prop :=
  (∃ lists, ans = some lists ∧ r.1 = .ok ∧
    c.Behind (emitAll c.allocLen.toNat lists).length r.2 ∧
    Emits c.pos (emitAll c.allocLen.toNat lists) s s' ∧ s'.core = t'.core) ∨
  r.1 ≠ .ok ∧ (ans = none ∨ ∃ lists, ans = some lists ∧ Short c.allocLen.toNat lists)

/-- A loop that goes on behind answers that were stored. -/
theorem RetrievesAll.behind {c c₁ : GetCursor} {s₁ t' s' : Target} {lists₁ : List (List Item)}
    {ans : Option (List (List Item))} {r : Ret × GetCursor}
    (hc : c.Behind (emitAll c.allocLen.toNat lists₁).length c₁)
    (he : Emits c.pos (emitAll c.allocLen.toNat lists₁) s s₁) (h : RetrievesAll c₁ s₁ ans t' r s') :
    RetrievesAll c s (ans.map (lists₁ ++ ·)) t' r s' := by
  rcases h with ⟨lists, rfl, hok, hb, he', hcore⟩ | ⟨hbad, rfl | ⟨lists, rfl, l₁, items, l₂, rfl, hne, hs⟩⟩
  · refine .inl ⟨_, rfl, hok, ?_, ?_, hcore⟩
    · rw [emitAll_append, List.length_append, ← hc.allocLen]
      exact hc.trans hb
    · rw [emitAll_append, ← hc.allocLen]
      exact he.append (hc.pos ▸ he')
  · exact .inr ⟨hbad, .inl rfl⟩
  · refine .inr ⟨hbad, .inr ⟨_, rfl, lists₁ ++ l₁, items, l₂, by rw [List.append_assoc], hne, ?_⟩⟩
    rw [emitAll_append, List.length_append, Nat.sub_add_eq, ← hc.allocLen]
    exact hs

/-- An answer without room, whatever the answers behind it. -/
theorem RetrievesAll.short {c : GetCursor} {s' t' : Target} {ans : Option (List (List Item))}
    {lists : List (List Item)} {r : Ret × GetCursor} (hbad : r.1 ≠ .ok)
    (h : Short c.allocLen.toNat lists) :
    RetrievesAll c s (ans.map (lists ++ ·)) t' r s' := by
  refine .inr ⟨hbad, ?_⟩
  cases ans with
  | none => exact .inl rfl
  | some lists' =>
    obtain ⟨l₁, items, l₂, rfl, hne, hs⟩ := h
    exact .inr ⟨_, rfl, l₁, items, l₂ ++ lists', by simp, hne, hs⟩

theorem GetCursor.Behind.aligned {c c' : GetCursor} {n : Nat} (h : c.Behind n c') (hn : n % 8 = 0)
    (hle : n ≤ c.allocLen.toNat) (hal : c.Aligned env) : c'.Aligned env := by
  obtain ⟨h1, h2⟩ := hal
  refine ⟨?_, ?_⟩
  · rw [h.pos]
    omega
  · rw [h.allocLen]
    omega

theorem getFromObjects_retrieves (hf : IsFormat listfmt) (page number : UInt32) (n : Nat) (i : UInt64)
    {c : GetCursor} (hal : c.Aligned env) (hst : s.core = t.core) :
    Ends (getFromObjects env pid page number isembedded listfmt n i c) s fun r s' =>
      ∃ ans t', retrieveFrom env pid page number isembedded listfmt n i t = some (ans, t') ∧
        RetrievesAll c s ans t' r s' := by
  induction n generalizing i c s t with
  | zero =>
    exact ends_pure.2 ⟨_, _, rfl, .inl ⟨[], rfl, rfl, ⟨rfl, rfl, (UInt32.add_zero _).symm⟩,
      .refl _ _, hst⟩⟩
  | succ n ih =>
    refine ends_call (osdGetattrList_retrieves hf hal hst pid i page number isembedded) ?_
    rintro ⟨ret, used⟩ s₁ ⟨ans₁, t₁, ht₁, h⟩
    have hret := bind_of_some (f := fun ans => (do
      match ans with
      | none => return none
      | some items =>
        match ← retrieveFrom env pid page number isembedded listfmt n (i + 1) with
        | none => return none
        | some rest => return some (items :: rest) : OsdM _)) ht₁
    change retrieveFrom env pid page number isembedded listfmt (n + 1) i t = _ at hret
    -- the answers of the objects behind this one
    have hrest : ∀ {items : List Item} {ans : Option (List (List Item))} {t' : Target},
        ans₁ = some items →
        retrieveFrom env pid page number isembedded listfmt n (i + 1) t₁ = some (ans, t') →
        retrieveFrom env pid page number isembedded listfmt (n + 1) i t
          = some (ans.map ([items] ++ ·), t') := by
      rintro items ans t' rfl hr
      rw [hret]
      dsimp only
      rw [bind_of_some hr]
      cases ans <;> rfl
    rcases h with ⟨items, rfl, heq, he, hcore⟩ | ⟨hbad, hans⟩
    · cases heq
      dsimp only
      rw [if_neg (by simp)]
      have hone : emitAll c.allocLen.toNat [items] = emit c.allocLen.toNat items := by
        rw [emitAll, emitAll, List.append_nil]
      have hlen := emit_length hal.2 items
      have hb := GetCursor.behind_advance hlen.1
      refine (ih (i + 1) (hb.aligned hlen.2 hlen.1 hal) hcore).mono ?_
      rintro r s' ⟨ans, t', ht', h⟩
      exact ⟨_, t', hrest rfl ht', h.behind (hone ▸ hb) (hone ▸ he)⟩
    · dsimp only
      rw [if_pos hbad]
      refine ends_pure.2 ?_
      rcases hans with rfl | ⟨items, rfl, hne, hnil⟩
      · exact ⟨_, _, hret, .inr ⟨hbad, .inl rfl⟩⟩
      · have hh : Halts (retrieveFrom env pid page number isembedded listfmt n (i + 1)) :=
          halts_retrieveFrom _ _ _ _
        obtain ⟨ans, t', ht'⟩ := hh t₁
        exact ⟨_, t', hrest rfl ht', .short hbad ⟨[], items, [], rfl, hne, hnil⟩⟩

theorem getAttrListLoop_retrieves (hf : IsFormat listfmt) (oid : UInt64) (numoid : UInt16)
    (entries : List (UInt32 × UInt32)) {c : GetCursor} (hal : c.Aligned env) (hst : s.core = t.core) :
    Ends (getAttrListLoop env pid oid isembedded listfmt numoid entries c) s fun r s' =>
      ∃ ans t', retrieveList env pid oid isembedded listfmt numoid entries t = some (ans, t') ∧
        RetrievesAll c s ans t' r s' := by
  induction entries generalizing c s t with
  | nil =>
    exact ends_pure.2 ⟨_, _, rfl, .inl ⟨[], rfl, rfl, ⟨rfl, rfl, (UInt32.add_zero _).symm⟩,
      .refl _ _, hst⟩⟩
  | cons e entries ih =>
    refine ends_call (getFromObjects_retrieves hf e.1 e.2 (createCount oid numoid) oid hal hst) ?_
    rintro ⟨ret, c₁⟩ s₁ ⟨ans₁, t₁, ht₁, h⟩
    have hret := bind_of_some (f := fun ans => (do
      match ans with
      | none => return none
      | some lists =>
        match ← retrieveList env pid oid isembedded listfmt numoid entries with
        | none => return none
        | some lists' => return some (lists ++ lists') : OsdM _)) ht₁
    change retrieveList env pid oid isembedded listfmt numoid (e :: entries) t = _ at hret
    have hrest : ∀ {lists : List (List Item)} {ans : Option (List (List Item))} {t' : Target},
        ans₁ = some lists →
        retrieveList env pid oid isembedded listfmt numoid entries t₁ = some (ans, t') →
        retrieveList env pid oid isembedded listfmt numoid (e :: entries) t
          = some (ans.map (lists ++ ·), t') := by
      rintro lists ans t' rfl hr
      rw [hret]
      dsimp only
      rw [bind_of_some hr]
      cases ans <;> rfl
    rcases h with ⟨lists, rfl, hok, hb, he, hcore⟩ | ⟨hbad, hans⟩
    · obtain rfl : ret = .ok := hok
      dsimp only
      rw [if_neg (by simp)]
      have hlen := emitAll_length hal.2 lists
      refine (ih (hb.aligned hlen.2 hlen.1 hal) hcore).mono ?_
      rintro r s' ⟨ans, t', ht', h⟩
      exact ⟨_, t', hrest rfl ht', h.behind hb he⟩
    · dsimp only
      rw [if_pos hbad]
      refine ends_pure.2 ?_
      rcases hans with rfl | ⟨lists, rfl, hs⟩
      · exact ⟨_, _, hret, .inr ⟨hbad, .inl rfl⟩⟩
      · have hh : Halts (retrieveList env pid oid isembedded listfmt numoid entries) :=
          halts_retrieveList _ _ _
        obtain ⟨ans, t', ht'⟩ := hh t₁
        exact ⟨_, t', hrest rfl ht', .short hbad hs⟩

end Loops

section Tags

variable {env : Env} {s : Target} {listfmt : UInt8} {pid : UInt64} {isembedded : Bool}

/-- No item of the answers carries an object id. -/
def Untagged (ans : Option (List (List Item))) : Prop :=
  ∀ lists, ans = some lists → ∀ items ∈ lists, ∀ x ∈ items, x.oid = none

theorem Untagged.append {lists : List (List Item)} {ans : Option (List (List Item))}
    (h : ∀ items ∈ lists, ∀ x ∈ items, x.oid = none) (h' : Untagged ans) :
    Untagged (ans.map (lists ++ ·)) := by
  intro all hall items hitems
  obtain ⟨lists', hl, rfl⟩ := Option.map_eq_some_iff.1 hall
  rcases List.mem_append.1 hitems with hi | hi
  · exact h items hi
  · exact h' lists' hl items hi

theorem retrieveFrom_untagged (page number : UInt32) (n : Nat) (i : UInt64) :
    Ends (retrieveFrom env pid page number isembedded RTRVD_SET_ATTR_LIST n i) s
      fun ans _ => Untagged ans := by
  induction n generalizing i s with
  | zero =>
    refine ends_pure.2 ?_
    rintro _ ⟨⟩ _ h
    cases h
  | succ n ih =>
    refine ends_call retrieve_tag fun ans s₁ h => ?_
    cases ans with
    | none => exact ends_pure.2 fun _ h => nomatch h
    | some items =>
      have hitems : ∀ l ∈ [items], ∀ x ∈ l, x.oid = none := by
        intro l hl x hx
        obtain rfl := List.mem_singleton.1 hl
        exact (h _ rfl x hx).elim id id
      refine ends_call (ih (i + 1)) fun rest s₂ hrest => ?_
      cases rest with
      | none => exact ends_pure.2 fun _ h => nomatch h
      | some rest => exact ends_pure.2 (Untagged.append hitems hrest)

theorem retrieveList_untagged (oid : UInt64) (numoid : UInt16) (entries : List (UInt32 × UInt32)) :
    Ends (retrieveList env pid oid isembedded RTRVD_SET_ATTR_LIST numoid entries) s
      fun ans _ => Untagged ans := by
  induction entries generalizing s with
  | nil =>
    refine ends_pure.2 ?_
    rintro _ ⟨⟩ _ h
    cases h
  | cons e entries ih =>
    refine ends_call (retrieveFrom_untagged e.1 e.2 _ oid) fun ans s₁ h => ?_
    cases ans with
    | none => exact ends_pure.2 fun _ h => nomatch h
    | some lists =>
      refine ends_call ih fun rest s₂ hrest => ?_
      cases rest with
      | none => exact ends_pure.2 fun _ h => nomatch h
      | some rest => exact ends_pure.2 (Untagged.append (h lists rfl) hrest)

end Tags

/-! ## The whole list -/

section List

variable {env : Env} {s : Target} {cmd : Command} {pid oid : UInt64} {isembedded : Bool}
  {numoid : UInt16}

theorem quiet_osdBeginTxn : Quiet (osdBeginTxn env) := by
  refine quiet_bind (quiet_modify fun _ _ => rfl) fun _ s o => ?_
  show (if (s.inTxn || env.sysFails .beginTxn) = true then _ else _ : OsdM Ret) (s.withOut o)
    = ((if (s.inTxn || env.sysFails .beginTxn) = true then _ else _ : OsdM Ret) s).map _
  split <;> rfl

theorem quiet_osdEndTxn : Quiet (osdEndTxn env) := by
  refine quiet_bind (quiet_modify fun _ _ => rfl) fun _ s o => ?_
  show (if (!s.inTxn || env.sysFails .endTxn) = true then _ else _ : OsdM Ret) (s.withOut o)
    = ((if (!s.inTxn || env.sysFails .endTxn) = true then _ else _ : OsdM Ret) s).map _
  split <;> rfl

/-- `list_alloc_len`, the list format, and where the list goes in the reply. -/
def Command.allocLen (cmd : Command) : UInt32 := getNtohl cmd.cdb 60
def replyFormat (numoid : UInt16) : UInt8 :=
  if 1 < numoid then RTRVD_CREATE_MULTIOBJ_LIST else RTRVD_SET_ATTR_LIST
def Command.outbuf (cmd : Command) : Nat := cmd.retrievedAttrOff.toNat

/-- The pages and numbers asked for by the list of `len` bytes at `off`. -/
def getEntries (cmd : Command) (off len : Nat) : List (UInt32 × UInt32) :=
  (List.range ((len - 8) / 8)).map fun i => getEntryAt cmd.indata (off + 8 + 8 * i)

/-- The answers to the whole list. -/
def retrieveAnswers (env : Env) (cmd : Command) (pid oid : UInt64) (isembedded : Bool) (numoid : UInt16)
    (off len : Nat) : OsdM (Option (List (List Item))) := do
  let _ ← osdBeginTxn env
  retrieveList env pid oid isembedded (replyFormat numoid) numoid (getEntries cmd off len)

/-- A reply whose header gives the format and the length of the entries behind it. -/
structure Replied (cmd : Command) (numoid : UInt16) (entries : List UInt8) (used : UInt32) (s' : Target) :
    Prop where
  format : s'.reply cmd.outbuf = replyFormat numoid
  length : (getNtohl s'.reply (cmd.outbuf + 4)).toNat = entries.length
  content : s'.reply.read (cmd.outbuf + 8) entries.length = entries
  used : used.toNat = 8 + entries.length

theorem replyFormat_isFormat (numoid : UInt16) : IsFormat (replyFormat numoid) := by
  unfold replyFormat
  split
  · exact .inr rfl
  · exact .inl rfl

/-- Entries behind a header whose length comes last. -/
theorem Replied.of_emits {entries : List UInt8} {used : UInt32} {s₂ s₄ s' : Target}
    (hfmt : s₂.reply cmd.outbuf = replyFormat numoid) (he : Emits (cmd.outbuf + 8) entries s₂ s₄)
    (hs' : s'.reply = s₄.reply.write (cmd.outbuf + 4) (htonl (used - 8)))
    (hused : used.toNat = 8 + entries.length) : Replied cmd numoid entries used s' where
  format := by
    rw [hs', Mem.write_of_lt (by omega), he.before _ (by omega)]
    exact hfmt
  length := by
    have hlen : (htonl (used - 8)).length = 4 := htonl_length _
    have hread : s'.reply.read (cmd.outbuf + 4) 4 = htonl (used - 8) := by
      rw [hs']
      conv_lhs => rw [← hlen]
      exact Mem.read_write_self _ _ _
    rw [getNtohl_of_read hread, UInt32.toNat_sub_of_le _ _ (by
      rw [UInt32.le_iff_toNat_le]
      show 8 ≤ used.toNat
      omega), hused]
    exact Nat.add_sub_cancel_left ..
  content := by
    have hlen : (htonl (used - 8)).length = 4 := htonl_length _
    rw [hs', Mem.read_write_of_disjoint (.inr (by omega))]
    exact he.content
  used := hused

/-- **`get_attr_list` packs the answers to its list**, as far as there is room. -/
theorem getAttrList_replies {off len : Nat} (used : UInt32) (hcheck : getAttrListCheck cmd = .use off len)
    (haddr : (env.outAddr + cmd.outbuf) % 8 = 0) (h8 : 8 ≤ cmd.allocLen.toNat)
    (hmod : cmd.allocLen.toNat % 8 = 0) :
    Ends (getAttrList env cmd pid oid isembedded numoid used) s fun r s' =>
      ∃ ans t', retrieveAnswers env cmd pid oid isembedded numoid off len s.core = some (ans, t') ∧
        ((∃ lists, ans = some lists ∧ r.1 = .ok ∧
          Replied cmd numoid (emitAll (cmd.allocLen.toNat - 8) lists) r.2 s') ∨
        r.1 ≠ .ok ∧ (ans = none ∨ ∃ lists, ans = some lists ∧ Short (cmd.allocLen.toNat - 8) lists)) := by
  have hsub : (cmd.allocLen - 8).toNat = cmd.allocLen.toNat - 8 := by
    rw [UInt32.toNat_sub_of_le _ _ (by rw [UInt32.le_iff_toNat_le]; exact h8)]
    rfl
  let c₀ : GetCursor := ⟨cmd.outbuf + 8, cmd.allocLen - 8, 8⟩
  let s₁ : Target := { s with out := s.out ++ [(cmd.outbuf, [replyFormat numoid])] }
  let s₂ : Target := { s₁ with out := s₁.out ++ [(cmd.outbuf + 1, [0, 0, 0])] }
  have hfmt : s₂.reply cmd.outbuf = replyFormat numoid := by
    rw [reply_write, Mem.write_of_lt (by omega), reply_write]
    exact (List.cons.inj (Mem.read_write_self s.reply cmd.outbuf [replyFormat numoid])).1
  have hal : c₀.Aligned env := by
    refine ⟨?_, ?_⟩
    · show (env.outAddr + (cmd.outbuf + 8)) % 8 = 0
      omega
    · show (cmd.allocLen - 8).toNat % 8 = 0
      omega
  unfold getAttrList
  rw [hcheck]
  refine ends_bind.2 (ends_modify.2 (ends_bind.2 (ends_modify.2 ?_)))
  refine ends_bind.2 (ends_call (quiet_osdBeginTxn.sim (show s₂.core = s.core.core from rfl)) ?_)
  rintro b s₃ ⟨t₃, ht₃, hcore₃, hout₃⟩
  refine ends_bind.2 (ends_bind.2 ((getAttrListLoop_retrieves (replyFormat_isFormat numoid) oid numoid
    (getEntries cmd off len) hal hcore₃).mono ?_))
  rintro ⟨ret, c⟩ s₄ ⟨ans, t', ht', h⟩
  have hret : retrieveAnswers env cmd pid oid isembedded numoid off len s.core = some (ans, t') := by
    rw [retrieveAnswers, bind_of_some ht₃]
    exact ht'
  rw [RetrievesAll, show c₀.allocLen.toNat = cmd.allocLen.toNat - 8 from hsub] at h
  rcases h with ⟨lists, rfl, hok, hb, he, -⟩ | ⟨hbad, hans⟩
  · obtain rfl : ret = .ok := hok
    refine ends_bind.2 (ends_modify.2 (ends_pure.2 (ends_bind.2 ?_)))
    refine (quiet_osdEndTxn.sim rfl).mono ?_
    rintro b' s₅ ⟨-, -, -, hout₅⟩
    have hlen := (emitAll_length (show (cmd.allocLen.toNat - 8) % 8 = 0 by omega) lists).1
    have hlt := cmd.allocLen.toNat_lt
    have hused : c.used.toNat = 8 + (emitAll (cmd.allocLen.toNat - 8) lists).length := by
      rw [show c.used = 8 + UInt32.ofNat _ from hb.used, UInt32.toNat_add, UInt32.toNat_ofNat',
        Nat.mod_eq_of_lt (a := (emitAll _ _).length) (by omega)]
      exact Nat.mod_eq_of_lt (by show 8 + _ < 2 ^ 32; omega)
    refine ends_pure.2 (ends_pure.2 ⟨_, _, hret, .inl ⟨_, rfl, rfl, ?_⟩⟩)
    refine .of_emits hfmt (he.of_out hout₃.symm rfl) ?_ hused
    have hs₅ : s₅.reply = Target.reply
        { s₄ with out := s₄.out ++ [(cmd.outbuf + 4, htonl (c.used - 8))] } := by
      rw [Target.reply, hout₅]
      rfl
    rw [hs₅, reply_write]
  · have hbad' : ¬ ret = .ok := hbad
    dsimp only
    rw [if_neg hbad']
    refine ends_pure.2 (ends_bind.2 ((quiet_osdEndTxn.sim rfl).mono ?_))
    exact fun _ _ _ => ends_pure.2 (ends_pure.2 ⟨_, _, hret, .inr ⟨hbad, hans⟩⟩)

end List

/-! ## More or less room -/

/-- The command with another allocation length for the list. -/
def Command.withAllocLen (cmd : Command) (n : UInt32) : Command :=
  { cmd with cdb := cmd.cdb.write 60 (htonl n) }

/-- The entry bytes of a reply of `used` bytes. -/
def Command.entryBytes (cmd : Command) (used : UInt32) (s' : Target) : List UInt8 :=
  s'.reply.read (cmd.outbuf + 8) (used.toNat - 8)

section Truncation

variable {env : Env} {s : Target} {cmd : Command} {pid oid : UInt64} {isembedded : Bool}

theorem withAllocLen_allocLen (n : UInt32) : (cmd.withAllocLen n).allocLen = n := by
  refine getNtohl_of_read ?_
  show (cmd.cdb.write 60 (htonl n)).read 60 4 = htonl n
  conv_lhs => rw [← htonl_length n]
  exact Mem.read_write_self _ _ _

/-- The rest of the CDB does not change. -/
theorem withAllocLen_getNtohl (n : UInt32) {off : Nat} (h : off + 4 ≤ 60) :
    getNtohl (cmd.withAllocLen n).cdb off = getNtohl cmd.cdb off := by
  unfold getNtohl
  rw [show (cmd.withAllocLen n).cdb = cmd.cdb.write 60 (htonl n) from rfl,
    Mem.read_write_of_disjoint (.inl h)]

/-- Where the list of requests is does not depend on the room for the answers. -/
theorem withAllocLen_use {n : UInt32} {o l : Nat}
    (h : getAttrListCheck (cmd.withAllocLen n) = .use o l) :
    o = (getattrListOff cmd).toNat ∧ l = (getattrListLen cmd).toNat := by
  have hoff : getattrListOff (cmd.withAllocLen n) = getattrListOff cmd := by
    unfold getattrListOff getNtohoffset
    rw [withAllocLen_getNtohl n (by omega)]
  have hlen : getattrListLen (cmd.withAllocLen n) = getattrListLen cmd :=
    withAllocLen_getNtohl n (by omega)
  unfold getAttrListCheck at h
  split at h
  · cases h
  · obtain ⟨-, rfl, rfl⟩ := getListCheck_use.1 h
    rw [hoff, hlen]
    exact ⟨rfl, rfl⟩

/-- A request that succeeds was answered item by item, each without an object id. -/
theorem getAttrList_emits {n used u : UInt32} {s' : Target} (hlist : getattrListLen cmd ≠ 0)
    (haddr : (env.outAddr + cmd.outbuf) % 8 = 0) (h8 : 8 ≤ n.toNat) (hmod : n.toNat % 8 = 0)
    (hrun : getAttrList env (cmd.withAllocLen n) pid oid isembedded 1 used s = some ((.ok, u), s')) :
    ∃ lists t', retrieveAnswers env cmd pid oid isembedded 1 (getattrListOff cmd).toNat
        (getattrListLen cmd).toNat s.core = some (some lists, t') ∧
      Replied cmd 1 (emitAll (n.toNat - 8) lists) u s' := by
  have hcheck : ∃ o l, getAttrListCheck (cmd.withAllocLen n) = .use o l := by
    cases hc : getAttrListCheck (cmd.withAllocLen n) with
    | nothing =>
      unfold getAttrListCheck at hc
      split at hc
      · cases hc
      · refine absurd (getListCheck_nothing hc) ?_
        rw [show getattrListLen (cmd.withAllocLen n) = getattrListLen cmd from
          withAllocLen_getNtohl n (by omega)]
        exact hlist
    | reject asc =>
      rw [getAttrList_reject hc] at hrun
      cases hrun
    | use o l => exact ⟨o, l, rfl⟩
  obtain ⟨o, l, hcheck⟩ := hcheck
  have hn : (cmd.withAllocLen n).allocLen = n := withAllocLen_allocLen n
  obtain ⟨ans, t', hans, h⟩ := getAttrList_replies used hcheck haddr (by rw [hn]; exact h8)
    (by rw [hn]; exact hmod) _ _ hrun
  obtain ⟨rfl, rfl⟩ := withAllocLen_use hcheck
  rcases h with ⟨lists, rfl, -, hrep⟩ | ⟨hbad, -⟩
  · rw [hn] at hrep
    exact ⟨lists, t', hans, hrep.format, hrep.length, hrep.content, hrep.used⟩
  · exact absurd rfl hbad

theorem retrieveAnswers_untagged {off len : Nat} :
    Ends (retrieveAnswers env cmd pid oid isembedded 1 off len) s fun ans _ => Untagged ans :=
  ends_bind.2 fun _ _ _ => retrieveList_untagged oid 1 _

/-- **Truncation only cuts off the tail.** -/
theorem truncation_cuts_tail (env : Env) (cmd : Command) (pid oid : UInt64) (isembedded : Bool)
    (a b used ua ub : UInt32) (s sa sb : Target) (hlist : getattrListLen cmd ≠ 0)
    (haddr : (env.outAddr + cmd.outbuf) % 8 = 0) (h8a : 8 ≤ a) (hmoda : a % 8 = 0) (hmodb : b % 8 = 0)
    (hab : a ≤ b)
    (hruna : getAttrList env (cmd.withAllocLen a) pid oid isembedded 1 used s = some ((.ok, ua), sa))
    (hrunb : getAttrList env (cmd.withAllocLen b) pid oid isembedded 1 used s = some ((.ok, ub), sb)) :
    cmd.entryBytes ua sa <+: cmd.entryBytes ub sb ∧ (cmd.entryBytes ua sa).length ≤ a.toNat - 8 ∧
      (getNtohl sa.reply (cmd.outbuf + 4)).toNat = (cmd.entryBytes ua sa).length ∧
      (getNtohl sb.reply (cmd.outbuf + 4)).toNat = (cmd.entryBytes ub sb).length := by
  have hmod : ∀ {n : UInt32}, n % 8 = 0 → n.toNat % 8 = 0 := by
    intro n hn
    have := congrArg UInt32.toNat hn
    rwa [UInt32.toNat_mod] at this
  rw [UInt32.le_iff_toNat_le] at h8a hab
  have h8 : 8 ≤ a.toNat := h8a
  have ha := hmod hmoda
  have hb := hmod hmodb
  obtain ⟨lists, ta, hla, hra⟩ := getAttrList_emits hlist haddr h8 ha hruna
  obtain ⟨lists', tb, hlb, hrb⟩ := getAttrList_emits hlist haddr (by omega) hb hrunb
  -- both runs pack the same answers
  obtain rfl : lists = lists' := by
    rw [hla] at hlb
    cases hlb
    rfl
  have hneed : ∀ items ∈ lists, ∀ x ∈ items, x.need = LE_MIN_ITEM_LEN := by
    intro items hi x hx
    rw [Item.need, Item.tag, retrieveAnswers_untagged _ _ hla lists rfl items hi x hx]
    rfl
  have hbytes : ∀ {n u : UInt32} {s' : Target}, Replied cmd 1 (emitAll (n.toNat - 8) lists) u s' →
      cmd.entryBytes u s' = emit (n.toNat - 8) lists.flatten := by
    intro n u s' h
    rw [Command.entryBytes, h.used, Nat.add_sub_cancel_left, h.content, emitAll_flatten hneed]
  have hlena := hra.length
  have hlenb := hrb.length
  rw [emitAll_flatten hneed] at hlena hlenb
  rw [hbytes hra, hbytes hrb]
  exact ⟨emit_cut (by omega) (by omega) (by omega) _, (emit_length (by omega) _).1, hlena, hlenb⟩

end Truncation

/-- Vendor and product of the root information page. -/
def rootRequest : Command where
  cdb := blobMem (List.replicate 52 0 ++ [0, 0, 0, 24] ++ List.replicate 8 0)
  getsetCdbfmt := GETLIST_SETLIST
  retrievedAttrOff := 0
  indata := blobMem ([1, 0, 0, 0, 0, 0, 0, 16] ++ [0x90, 0, 0, 1, 0, 0, 0, 4] ++
    [0x90, 0, 0, 1, 0, 0, 0, 5])
  inlen := 24
  hasOutdata := true

/-- With room for one of the two entries and a half, and with room for both. -/
theorem truncation_cuts_tail_rootRequest : ∃ sa sb,
    getAttrList Env.calm (rootRequest.withAllocLen 48) 0 0 true 1 0 Target.fresh = some ((.ok, 48), sa) ∧
    getAttrList Env.calm (rootRequest.withAllocLen 56) 0 0 true 1 0 Target.fresh = some ((.ok, 56), sb) ∧
    rootRequest.entryBytes 48 sa <+: rootRequest.entryBytes 56 sb ∧
    (rootRequest.entryBytes 48 sa).length ≤ 48 - 8 ∧
    (getNtohl sa.reply (rootRequest.outbuf + 4)).toNat = (rootRequest.entryBytes 48 sa).length ∧
    (getNtohl sb.reply (rootRequest.outbuf + 4)).toNat = (rootRequest.entryBytes 56 sb).length := by
  have hruna : (getAttrList Env.calm (rootRequest.withAllocLen 48) 0 0 true 1 0 Target.fresh).map Prod.fst
      = some (.ok, 48) := by decide +kernel
  have hrunb : (getAttrList Env.calm (rootRequest.withAllocLen 56) 0 0 true 1 0 Target.fresh).map Prod.fst
      = some (.ok, 56) := by decide +kernel
  obtain ⟨⟨-, sa⟩, ha, rfl⟩ := Option.map_eq_some_iff.1 hruna
  obtain ⟨⟨-, sb⟩, hb, rfl⟩ := Option.map_eq_some_iff.1 hrunb
  exact ⟨sa, sb, ha, hb, truncation_cuts_tail Env.calm rootRequest 0 0 true 48 56 0 48 56 Target.fresh sa sb
    (by decide +kernel) (by decide) (by decide) (by decide) (by decide) (by decide) ha hb⟩

end OsdTarget
