import OsdTarget.AttributeSpec

/-!
# The reply buffer

What the stores of a command leave in the reply buffer, and the programs that have nothing to do with
it.
-/

namespace OsdTarget

open Base

/-! ## The reply buffer -/

/-- What the reply buffer holds after the stores so far. -/
def Target.reply (s : Target) : Mem := s.out.foldl (fun m w => m.write w.1 w.2) fun _ => 0

/-- The state with another record of stores. -/
def Target.withOut (s : Target) (o : List (Nat × List UInt8)) : Target := { s with out := o }

/-- The state apart from the reply buffer. -/
def Target.core (s : Target) : Target := s.withOut []

/-- Between two states `bytes` were stored from `pos` on and nothing before that. -/
structure Emits (pos : Nat) (bytes : List UInt8) (s s' : Target) : Prop where
  content : s'.reply.read pos bytes.length = bytes
  before : ∀ a < pos, s'.reply a = s.reply a

theorem Emits.refl (pos : Nat) (s : Target) : Emits pos [] s s := ⟨rfl, fun _ _ => rfl⟩

theorem Emits.append {pos : Nat} {b₁ b₂ : List UInt8} {s t v : Target} (h₁ : Emits pos b₁ s t)
    (h₂ : Emits (pos + b₁.length) b₂ t v) : Emits pos (b₁ ++ b₂) s v where
  content := by
    refine Mem.read_append.2 ⟨?_, h₂.content⟩
    rw [Mem.read_congr fun a _ hlt => h₂.before a hlt]
    exact h₁.content
  before a ha := (h₂.before a (by omega)).trans (h₁.before a ha)

theorem reply_write (s : Target) (pos : Nat) (bytes : List UInt8) :
    Target.reply { s with out := s.out ++ [(pos, bytes)] } = s.reply.write pos bytes := by
  simp only [Target.reply, List.foldl_append, List.foldl_cons, List.foldl_nil]

/-- Stores behind `pos` emit nothing there. -/
theorem Emits.nil_of_le {pos p : Nat} {bytes : List UInt8} {s : Target} (h : pos ≤ p) :
    Emits pos [] s { s with out := s.out ++ [(p, bytes)] } where
  content := rfl
  before a ha := by
    rw [reply_write]
    exact Mem.write_of_lt (by omega)

theorem Emits.write (pos : Nat) (bytes : List UInt8) (s : Target) :
    Emits pos bytes s { s with out := s.out ++ [(pos, bytes)] } where
  content := by
    rw [reply_write]
    exact Mem.read_write_self _ _ _
  before a ha := by
    rw [reply_write]
    exact Mem.write_of_lt ha

/-- Only the record of stores counts. -/
theorem Emits.of_out {pos : Nat} {bytes : List UInt8} {s t s' t' : Target} (h : Emits pos bytes s s')
    (hs : t.out = s.out) (hs' : t'.out = s'.out) : Emits pos bytes t t' := by
  have e : t.reply = s.reply := by simp only [Target.reply, hs]
  have e' : t'.reply = s'.reply := by simp only [Target.reply, hs']
  exact ⟨e' ▸ h.content, fun a ha => by rw [e, e']; exact h.before a ha⟩

/-! ## Programs that do not use the reply buffer -/

/-- `m` neither reads nor writes the reply buffer. -/
def Quiet {α : Type} (m : OsdM α) : Prop :=
  ∀ s o, m (s.withOut o) = (m s).map fun p => (p.1, p.2.withOut o)

section Quiet

variable {α β : Type} {env : Env}

theorem quiet_pure (a : α) : Quiet (pure a : OsdM α) := fun _ _ => rfl

theorem quiet_bind {m : OsdM α} {f : α → OsdM β} (hm : Quiet m) (hf : ∀ a, Quiet (f a)) :
    Quiet (m >>= f) := by
  intro s o
  simp only [bind, StateT.bind, hm s o]
  cases m s with
  | none => rfl
  | some p => exact hf p.1 p.2 o

/-- A block that reads the state, apart from the reply buffer, and goes on. -/
theorem quiet_get_bind {f : Target → OsdM β} (hf : ∀ s, Quiet (f s))
    (hout : ∀ s o, f (s.withOut o) = f s) : Quiet (get >>= f) := by
  intro s o
  show f (s.withOut o) (s.withOut o) = (f s s).map _
  rw [hout]
  exact hf s s o

theorem quiet_ite {c : Prop} [Decidable c] {m n : OsdM α} (hm : Quiet m) (hn : Quiet n) :
    Quiet (if c then m else n) := by
  by_cases h : c
  · rw [if_pos h]
    exact hm
  · rw [if_neg h]
    exact hn

theorem quiet_modify {f : Target → Target} (hf : ∀ s o, f (s.withOut o) = (f s).withOut o) :
    Quiet (modify f : OsdM PUnit) := by
  intro s o
  show some (PUnit.unit, f (s.withOut o)) = some (PUnit.unit, (f s).withOut o)
  rw [hf]

theorem quiet_dbExecQuery (q : Query) (init : α) (answer : Db → α) :
    Quiet (dbExecQuery env q init answer) :=
  quiet_get_bind (fun _ => quiet_ite (quiet_pure _) (quiet_pure _)) fun _ _ => rfl

theorem quiet_dbExecDms (st : Dms) : Quiet (dbExecDms env st) := by
  intro s o
  show (if env.dmsFails st s.db = true then _ else _ : OsdM Ret) (s.withOut o)
    = ((if env.dmsFails st s.db = true then _ else _ : OsdM Ret) s).map _
  by_cases hf : env.dmsFails st s.db = true
  · rw [if_pos hf, if_pos hf]
    rfl
  · rw [if_neg hf, if_neg hf]
    have hdb : (s.withOut o).db = s.db := rfl
    rw [hdb]
    cases st.run s.db <;> rfl

theorem quiet_attrGetVal (pid oid : UInt64) (page number : UInt32) (outlen : UInt64) :
    Quiet (attrGetVal env pid oid page number outlen) := by
  refine quiet_bind (quiet_dbExecQuery _ _ _) fun ⟨ret, row⟩ => ?_
  cases ret with
  | ok =>
    cases row with
    | none => exact quiet_pure _
    | some r => exact quiet_ite (quiet_pure _) (quiet_ite (quiet_pure _) (quiet_pure _))
  | err e => exact quiet_pure _
  | sense x => exact quiet_pure _

theorem quiet_truncateFile (pid oid len : UInt64) : Quiet (truncateFile env pid oid len) := by
  intro s o
  have hlookup : (s.withOut o).lookup env pid oid = s.lookup env pid oid := rfl
  unfold truncateFile
  simp only [bind, StateT.bind, get, getThe, MonadStateOf.get, StateT.get, pure, Option.bind_some, hlookup]
  cases s.lookup env pid oid with
  | none => rfl
  | some content =>
    dsimp only
    split <;> rfl

theorem quiet_attrSetAttr (pid oid : UInt64) (page number : UInt32) (val : Option Mem) (len : UInt16) :
    Quiet (attrSetAttr env pid oid page number val len) := by
  have hrow : ∀ p n, Quiet (attrSetAttrRow env pid oid p n val len) := fun _ _ => quiet_dbExecDms _
  unfold attrSetAttr
  refine quiet_ite (quiet_ite (hrow _ _) (quiet_ite ?_ (quiet_pure _)))
    (quiet_ite (quiet_ite ?_ (quiet_ite (hrow _ _) (quiet_pure _))) (hrow _ _))
  · cases val with
    | none => exact fun _ _ => rfl
    | some m =>
      exact quiet_bind (quiet_truncateFile _ _ _) fun _ => quiet_ite (quiet_pure _) (quiet_pure _)
  · refine quiet_get_bind (fun _ => quiet_ite (quiet_ite (quiet_pure _) (hrow _ _)) (quiet_pure _)) ?_
    exact fun _ _ => rfl

theorem quiet_lazyInitAttr (pid oid : UInt64) (page number : UInt32) :
    Quiet (lazyInitAttr env pid oid page number) :=
  quiet_ite (quiet_pure _) (quiet_bind (quiet_attrGetVal _ _ _ _ _) fun _ =>
    quiet_ite (quiet_pure _) (quiet_ite (quiet_pure _)
      (quiet_bind (quiet_attrSetAttr _ _ _ _ _ _) fun _ =>
        quiet_ite (quiet_pure _) (quiet_attrSetAttr _ _ _ _ _ _))))

theorem quiet_getObjType (pid oid : UInt64) : Quiet (getObjType env pid oid) := by
  refine quiet_ite (quiet_pure _) (quiet_ite (quiet_pure _) (quiet_ite
    (quiet_bind (quiet_dbExecQuery _ _ _) fun r => ?_) (quiet_pure _)))
  split <;> exact quiet_pure _

/-- A quiet program does the same from any two states that agree apart from the reply buffer. -/
theorem Quiet.sim {m : OsdM α} (h : Quiet m) {s t : Target} (hst : s.core = t.core) :
    Ends m s fun a s' => ∃ t', m t = some (a, t') ∧ s'.core = t'.core ∧ s'.out = s.out := by
  intro a s' hr
  have ht : t = s.withOut t.out := by
    show t.core.withOut t.out = s.core.withOut t.out
    rw [hst]
  refine ⟨s'.withOut t.out, ?_, rfl, ?_⟩
  · rw [ht, h s t.out, hr]
    rfl
  · have hs := h s s.out
    rw [show s.withOut s.out = s from rfl, hr] at hs
    exact congrArg (fun p => p.2.out) (Option.some.inj hs)

end Quiet

end OsdTarget
