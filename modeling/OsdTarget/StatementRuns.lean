import OsdTarget.MapTiling
import OsdTarget.Statements

/-!
# Executing statements

The `repeat:` loops of `obj.c`, `coll.c` and `attr.c` over `db_exec_dms`, `db_exec_id_rtrvl_stmt` and
`exec_attr_rtrvl_stmt`: a step may find SQLite busy, and one that meets another schema has every statement
prepared anew before it is tried again.  A statement that answers `OSD_OK` has been executed once, and the
reply holds what one execution stores there.
-/

namespace OsdTarget

open Base

/-! ## Steps -/

/-- The first answer that is not `SQLITE_BUSY`. -/
def settle : List (Option Verdict) → Option (Verdict × List (Option Verdict))
  | [] => none
  | none :: l => settle l
  | some v :: l => some (v, l)

/-- `sqlite3_step`, until SQLite is not busy. -/
def sqlite3Step : SessionM Verdict := fun s => (settle s.steps).map fun r => (r.1, { s with steps := r.2 })

/-- What `sqlite3_reset` has to tell about the last step. -/
inductive Last
  | ok | schema | error
  deriving DecidableEq, Repr

/-- What is left when a step does not run. -/
def Verdict.last : Verdict → Last
  | .runs => .ok
  | .schema => .schema
  | .fails => .error

def onTarget {α : Type} (m : OsdM α) : SessionM α := fun s =>
  (m s.target).map fun r => (r.1, { s with target := r.2 })

/-- `OSD_OK`, `OSD_ERROR` and `OSD_REPEAT`. -/
inductive Answer
  | ok | error | again
  deriving DecidableEq, Repr

/-- `db_reset_stmt`. -/
def dbResetStmt (bound : Bool) (last : Last) : SessionM Answer := do
  if !bound then
    return .error
  match last with
  | .ok => return .ok
  | .error => return .error
  | .schema =>
    let _ ← dbFinalize
    if (← dbInitialize) = .ok then
      return .again
    return .error

/-- The pointer to the statement is read: the assertion at the start of every function, and a use of the
handle. -/
def useStatement (p : Prepared) : SessionM Unit := fun s =>
  match s.connected, (s.handles p.tab)[p.slot]? with
  | true, some h => some ((), { s with pool := s.pool.touch h })
  | _, _ => none

/-- `nextpid` has no parameters. -/
def Prepared.binds (p : Prepared) : Bool := p ≠ .objNextpid

/-! ## Execution -/

/-- From the label `repeat:` on, at most `n` times. -/
def untilAnswered {α : Type} (m : SessionM (Option α)) : ℕ → SessionM α
  | 0 => fun _ => none
  | n + 1 => do
    match ← m with
    | some a => return a
    | none => untilAnswered m n

/-- Whether all parameters are bound. -/
def bindAll (p : Prepared) : SessionM Bool := if p.binds then succeeds else return true

/-- The steps of a statement, if it is bound. -/
def stepsOf {α : Type} (bound : Bool) (init : α) (work : SessionM (Last × α)) : SessionM (Last × α) :=
  if bound then work else return (.error, init)

/-- One execution: the statement is bound and worked off, then reset. -/
def execution {α : Type} (p : Prepared) (init : α) (work : SessionM (Last × α)) : SessionM (Option (Ret × α)) := do
  useStatement p
  let bound ← bindAll p
  let r ← stepsOf bound init work
  match ← dbResetStmt bound r.1 with
  | .ok => return some (.ok, r.2)
  | .error => return some (.err .osdError, r.2)
  | .again => return none

/-- A function of `obj.c`, `coll.c` or `attr.c`.  Each repetition has taken one of the steps. -/
def statement {α : Type} (p : Prepared) (init : α) (work : SessionM (Last × α)) : SessionM (Ret × α) := do
  untilAnswered (execution p init work) ((← get).steps.length + 1)

/-- The steps of a statement that changes a table, as in `db_exec_dms`. -/
def dmsSteps (st : Dms) : SessionM (Last × Unit) := do
  match ← sqlite3Step with
  | .runs =>
    match st.run (← get).target.db with
    -- `SQLITE_CONSTRAINT`
    | none => return (.error, ())
    | some d =>
      modify fun s => { s with target := { s.target with db := d } }
      return (.ok, ())
  | v => return (v.last, ())

/-- The steps of a query for one row. -/
def querySteps {α : Type} (init : α) (answer : Db → α) : SessionM (Last × α) := do
  match ← sqlite3Step with
  | .runs => return (.ok, answer (← get).target.db)
  | v => return (v.last, init)

/-- Row after row until the body is done, a step each, and one behind the last row. -/
def rowSteps {ρ γ : Type} (body : ρ → γ → OsdM (γ × Bool)) : List ρ → γ → SessionM (Last × γ)
  | [], c => do
    return ((← sqlite3Step).last, c)
  | r :: rows, c => do
    match ← sqlite3Step with
    | .runs =>
      let (c, more) ← onTarget (body r c)
      if more then rowSteps body rows c else return (.ok, c)
    | v => return (v.last, c)

/-- The rows of a query, worked off by `body`. -/
def scanSteps {ρ γ : Type} (body : ρ → γ → OsdM (γ × Bool)) (rows : Db → List ρ) (c : γ) :
    SessionM (Last × γ) := do
  rowSteps body (rows (← get).target.db) c

/-! ## Additions to the reply -/

section Adds

variable {α β ρ γ : Type}

/-- `m` changes nothing and adds to the reply what does not depend on it. -/
def Adds (m : OsdM α) : Prop :=
  ∀ t : Target, ∃ r : Option (α × List (Nat × List UInt8)),
    ∀ o, m (t.withOut o) = r.map fun x => (x.1, t.withOut (o ++ x.2))

theorem adds_pure (a : α) : Adds (pure a) := fun t => ⟨some (a, []), fun o => by
  rw [Option.map_some, List.append_nil]
  rfl⟩

theorem adds_outWrite (pos : Nat) (bytes : List UInt8) : Adds (outWrite pos bytes) :=
  fun _ => ⟨some ((), [(pos, bytes)]), fun _ => rfl⟩

theorem adds_bind {m : OsdM α} {f : α → OsdM β} (hm : Adds m) (hf : ∀ a, Adds (f a)) : Adds (m >>= f) := by
  intro t
  obtain ⟨r, hr⟩ := hm t
  cases r with
  | none => exact ⟨none, fun o => bind_of_none (hr o)⟩
  | some x =>
    obtain ⟨r', hr'⟩ := hf x.1 t
    refine ⟨r'.map fun y => (y.1, x.2 ++ y.2), fun o => ?_⟩
    rw [bind_of_some (hr o), hr', Option.map_map]
    exact congrArg (Option.map · r') (funext fun y => by rw [Function.comp_apply, List.append_assoc])

theorem adds_ite {c : Prop} [Decidable c] {m n : OsdM α} (hm : Adds m) (hn : Adds n) :
    Adds (if c then m else n) := by
  split
  · exact hm
  · exact hn

theorem Adds.run {m : OsdM α} (h : Adds m) {t v : Target} {a : α} (hrun : m t = some (a, v)) :
    ∃ w, v = t.withOut (t.out ++ w) ∧ ∀ o, m (t.withOut o) = some (a, t.withOut (o ++ w)) := by
  obtain ⟨r, hr⟩ := h t
  obtain ⟨x, rfl, hx⟩ := Option.map_eq_some_iff.1 ((hr t.out).symm.trans hrun)
  cases hx
  exact ⟨x.2, rfl, hr⟩

/-- Row after row until the body is done. -/
def eachRow (body : ρ → γ → OsdM (γ × Bool)) : List ρ → γ → OsdM γ
  | [], c => return c
  | r :: rows, c => do
    let (c, more) ← body r c
    if more then eachRow body rows c else return c

theorem adds_eachRow {body : ρ → γ → OsdM (γ × Bool)} (h : ∀ r c, Adds (body r c)) (rows : List ρ) (c : γ) :
    Adds (eachRow body rows c) := by
  induction rows generalizing c with
  | nil => exact adds_pure c
  | cons r rows ih => exact adds_bind (h r c) fun x => adds_ite (ih x.1) (adds_pure x.1)

end Adds

/-! ## Stores made twice -/

theorem storedIn_append (m : Mem) (ws ws' : List (Nat × List UInt8)) :
    storedIn m (ws ++ ws') = storedIn (storedIn m ws) ws' := List.foldl_append

/-- Of stores, one covers this address. -/
def Covered (ws : List (Nat × List UInt8)) (a : Nat) : Prop := ∃ w ∈ ws, w.1 ≤ a ∧ a < w.1 + w.2.length

theorem write_of_not_covered {m : Mem} {w : Nat × List UInt8} {a : Nat} (h : ¬ (w.1 ≤ a ∧ a < w.1 + w.2.length)) :
    m.write w.1 w.2 a = m a := by
  by_cases hlt : a < w.1
  · exact Mem.write_of_lt hlt
  · exact Mem.write_of_ge (Nat.not_lt.1 fun hstop => h ⟨Nat.not_lt.1 hlt, hstop⟩)

theorem storedIn_of_not_covered {m : Mem} {ws : List (Nat × List UInt8)} {a : Nat} (h : ¬ Covered ws a) :
    storedIn m ws a = m a := by
  induction ws generalizing m with
  | nil => rfl
  | cons w ws ih =>
    refine (ih fun ⟨x, hx, hc⟩ => h ⟨x, List.mem_cons_of_mem _ hx, hc⟩).trans ?_
    exact write_of_not_covered fun hc => h ⟨w, List.mem_cons_self, hc⟩

/-- What was stored before does not matter where something is stored. -/
theorem storedIn_congr {m m' : Mem} {ws : List (Nat × List UInt8)} {a : Nat} (h : m a = m' a ∨ Covered ws a) :
    storedIn m ws a = storedIn m' ws a := by
  induction ws generalizing m m' with
  | nil => exact h.resolve_right fun ⟨_, hx, _⟩ => List.not_mem_nil hx
  | cons w ws ih =>
    refine ih ?_
    show m.write w.1 w.2 a = m'.write w.1 w.2 a ∨ Covered ws a
    by_cases hw : w.1 ≤ a ∧ a < w.1 + w.2.length
    · left
      obtain ⟨k, rfl⟩ := Nat.exists_eq_add_of_le hw.1
      have hk : k < w.2.length := Nat.lt_of_add_lt_add_left hw.2
      rw [Mem.write_of_inside hk 0, Mem.write_of_inside hk 0]
    · rw [write_of_not_covered hw, write_of_not_covered hw]
      refine h.imp_right fun ⟨x, hx, hc⟩ => ?_
      rcases List.mem_cons.1 hx with rfl | hx
      · exact absurd hc hw
      · exact ⟨x, hx, hc⟩

/-- **Stores that are made all over again leave what they leave made once.** -/
theorem storedIn_again (m : Mem) (ws rest : List (Nat × List UInt8)) :
    storedIn m (ws ++ (ws ++ rest)) = storedIn m (ws ++ rest) := by
  funext a
  rw [storedIn_append]
  refine storedIn_congr ?_
  by_cases h : Covered ws a
  · obtain ⟨x, hx, hc⟩ := h
    exact .inr ⟨x, List.mem_append_left _ hx, hc⟩
  · exact .inl (storedIn_of_not_covered h)

/-! ## What an execution does -/

variable {s s' : Session} {α ρ γ : Type}

/-- The device is the same, but for the reply. -/
def ButOut (s t : Target) : Prop := t = s.withOut t.out

instance : IsPreorder Target ButOut where
  refl _ := rfl
  trans s t v h h' := by
    unfold ButOut at h h' ⊢
    rw [h', h]
    rfl

/-- From `t` on `m` answers what it answers from `s` on, and leaves the same device, but for `Q`, and the
same reply. -/
def Redoes (Q : Target → Target → Prop) (m : OsdM α) (s t : Target) : Prop :=
  Q s t ∧ ∀ a v, m t = some (a, v) → ∃ u, m s = some (a, u) ∧ Q u v ∧ v.reply = u.reply

section Redoes

variable {Q : Target → Target → Prop} [IsPreorder Target Q] {m : OsdM α}

theorem Redoes.refl (m : OsdM α) (s : Target) : Redoes Q m s s :=
  ⟨refl_of Q s, fun _ v h => ⟨v, h, refl_of Q v, rfl⟩⟩

theorem Redoes.trans {s t v : Target} (h : Redoes Q m s t) (h' : Redoes Q m t v) : Redoes Q m s v := by
  refine ⟨trans_of Q h.1 h'.1, fun a x hx => ?_⟩
  obtain ⟨y, hy, hxy, hr⟩ := h'.2 a x hx
  obtain ⟨z, hz, hyz, hr'⟩ := h.2 a y hy
  exact ⟨z, hz, trans_of Q hyz hxy, hr.trans hr'⟩

end Redoes

/-- A part of the additions was made already. -/
theorem Adds.redoes {m : OsdM α} (h : Adds m) {s : Target} {w : List (Nat × List UInt8)}
    (hw : ∀ a v, m s = some (a, v) → ∃ rest, v.out = s.out ++ w ++ rest) :
    Redoes ButOut m s (s.withOut (s.out ++ w)) := by
  refine ⟨rfl, fun a v hrun => ?_⟩
  obtain ⟨w', hv, hall⟩ := h.run hrun
  have hs : m s = some (a, s.withOut (s.out ++ w')) := hall s.out
  obtain ⟨rest, hrest⟩ := hw a _ hs
  refine ⟨_, hs, hv ▸ rfl, ?_⟩
  have heq : w' = w ++ rest := List.append_cancel_left (hrest.trans (List.append_assoc _ _ _))
  subst heq
  rw [hv]
  show ((s.withOut (s.out ++ w)).withOut (s.out ++ w ++ (w ++ rest))).reply = _
  have hsame : (s.withOut (s.out ++ w)).withOut (s.out ++ w ++ (w ++ rest)) =
      s.withOut (s.out ++ (w ++ (w ++ rest))) := by
    rw [List.append_assoc]
    rfl
  rw [hsame, reply_withOut, reply_withOut, storedIn_again]

namespace Session

/-- The statements are as they were. -/
structure Keeps (s s' : Session) : Prop where
  connected : s'.connected = s.connected
  tabs : s'.tabs = s.tabs
  pool : s'.pool = s.pool
  refused : s'.refused = s.refused

theorem Keeps.refl (s : Session) : Keeps s s := ⟨rfl, rfl, rfl, rfl⟩

theorem Keeps.trans {v : Session} (h : Keeps s s') (h' : Keeps s' v) : Keeps s v :=
  ⟨h'.connected.trans h.connected, h'.tabs.trans h.tabs, h'.pool.trans h.pool, h'.refused.trans h.refused⟩

theorem Sound.keeps (h : s.Sound) (hk : Keeps s s') : s'.Sound := h.of_eq hk.tabs hk.pool hk.refused hk.connected

end Session

/-- The steps of a statement do `m` once, or leave something that `m` does not mind. -/
def Performs (Q : Target → Target → Prop) (m : OsdM α) (work : SessionM (Last × α)) : Prop :=
  ∀ s, Ends work s fun r s' => s.Keeps s' ∧ s'.steps.length < s.steps.length ∧
    (r.1 = .ok → m s.target = some (r.2, s'.target)) ∧ (r.1 ≠ .ok → Redoes Q m s.target s'.target)

theorem settle_length {l rest : List (Option Verdict)} {v : Verdict} (h : settle l = some (v, rest)) :
    rest.length < l.length := by
  induction l with
  | nil => cases h
  | cons x l ih =>
    cases x with
    | none => exact Nat.lt_succ_of_lt (ih h)
    | some w =>
      cases h
      exact Nat.lt_succ_self _

theorem ends_sqlite3Step {Q : Verdict → Session → Prop}
    (h : ∀ v rest, rest.length < s.steps.length → Q v { s with steps := rest }) : Ends sqlite3Step s Q := by
  intro v s' hrun
  obtain ⟨⟨w, rest⟩, hw, heq⟩ := Option.map_eq_some_iff.1 hrun
  cases heq
  exact h w rest (settle_length hw)

/-- The change a statement makes to the tables, if no constraint forbids it. -/
def Dms.apply (st : Dms) : OsdM Unit := fun t => (st.run t.db).map fun d => ((), { t with db := d })

theorem dmsSteps_performs (st : Dms) : Performs Eq st.apply (dmsSteps st) := by
  intro s
  refine ends_bind.2 (ends_sqlite3Step fun v rest hlen => ?_)
  have hno : ∀ last : Last, last ≠ .ok → Ends (pure (last, ()) : SessionM (Last × Unit)) { s with steps := rest }
      fun r s' => s.Keeps s' ∧ s'.steps.length < s.steps.length ∧
        (r.1 = .ok → st.apply s.target = some (r.2, s'.target)) ∧
        (r.1 ≠ .ok → Redoes Eq st.apply s.target s'.target) := fun last hlast =>
    ends_pure.2 ⟨⟨rfl, rfl, rfl, rfl⟩, hlen, fun heq => absurd heq hlast, fun _ => .refl _ _⟩
  cases v with
  | schema => exact hno .schema nofun
  | fails => exact hno .error nofun
  | runs =>
    refine ends_bind.2 (ends_get.2 ?_)
    cases hrun : st.run s.target.db with
    | none => exact hno .error nofun
    | some d =>
      refine ends_bind.2 (ends_modify.2 (ends_pure.2
        ⟨⟨rfl, rfl, rfl, rfl⟩, hlen, fun _ => ?_, fun hne => absurd rfl hne⟩))
      rw [Dms.apply, hrun]
      rfl

/-- The one row of a query. -/
def answered (answer : Db → α) : OsdM α := fun t => some (answer t.db, t)

theorem querySteps_performs (init : α) (answer : Db → α) :
    Performs Eq (answered answer) (querySteps init answer) := by
  intro s
  refine ends_bind.2 (ends_sqlite3Step fun v rest hlen => ?_)
  cases v with
  | schema | fails =>
    exact ends_pure.2 ⟨⟨rfl, rfl, rfl, rfl⟩, hlen, nofun, fun _ => .refl _ _⟩
  | runs =>
    exact ends_bind.2 (ends_get.2 (ends_pure.2
      ⟨⟨rfl, rfl, rfl, rfl⟩, hlen, fun _ => rfl, fun hne => absurd rfl hne⟩))

/-- What the rows worked off so far have added is the beginning of what all of them add. -/
theorem rowSteps_ends {body : ρ → γ → OsdM (γ × Bool)} (hbody : ∀ r c, Adds (body r c)) (rows : List ρ) (c : γ) :
    Ends (rowSteps body rows c) s fun r s' => s.Keeps s' ∧ s'.steps.length < s.steps.length ∧
      ∃ w, s'.target = s.target.withOut (s.target.out ++ w) ∧
        (r.1 = .ok → eachRow body rows c s.target = some (r.2, s'.target)) ∧
        ∀ a v, eachRow body rows c s.target = some (a, v) → ∃ rest, v.out = s.target.out ++ w ++ rest := by
  induction rows generalizing s c with
  | nil =>
    refine ends_bind.2 (ends_sqlite3Step fun v rest hlen => ends_pure.2 ⟨⟨rfl, rfl, rfl, rfl⟩, hlen, [], ?_⟩)
    rw [List.append_nil]
    refine ⟨rfl, fun _ => rfl, fun a v hrun => ⟨[], ?_⟩⟩
    cases hrun
    rw [List.append_nil]
  | cons r rows ih =>
    have hnone : ∀ (rest : List (Option Verdict)) (last : Last), rest.length < s.steps.length → last ≠ .ok →
        Ends (pure (last, c) : SessionM (Last × γ)) { s with steps := rest } fun x s' =>
          s.Keeps s' ∧ s'.steps.length < s.steps.length ∧
          ∃ w, s'.target = s.target.withOut (s.target.out ++ w) ∧
            (x.1 = .ok → eachRow body (r :: rows) c s.target = some (x.2, s'.target)) ∧
            ∀ a v, eachRow body (r :: rows) c s.target = some (a, v) →
              ∃ rest, v.out = s.target.out ++ w ++ rest := by
      refine fun rest last hlen hlast => ends_pure.2 ⟨⟨rfl, rfl, rfl, rfl⟩, hlen, [], ?_⟩
      rw [List.append_nil]
      refine ⟨rfl, fun heq => absurd heq hlast, fun a v hrun => ?_⟩
      obtain ⟨w, hv, -⟩ := (adds_eachRow hbody (r :: rows) c).run hrun
      exact ⟨w, hv ▸ rfl⟩
    refine ends_bind.2 (ends_sqlite3Step fun v rest hlen => ?_)
    cases v with
    | schema => exact hnone rest .schema hlen nofun
    | fails => exact hnone rest .error hlen nofun
    | runs =>
      refine ends_bind.2 fun x s₁ hx => ?_
      obtain ⟨⟨⟨c', more⟩, t⟩, hrun, heq⟩ := Option.map_eq_some_iff.1 hx
      cases heq
      obtain ⟨w, ht, -⟩ := (hbody r c).run hrun
      subst ht
      have hfirst : eachRow body (r :: rows) c s.target =
          (if more then eachRow body rows c' else pure c') (s.target.withOut (s.target.out ++ w)) :=
        bind_of_some hrun
      rw [hfirst]
      cases more with
      | false =>
        refine ends_pure.2 ⟨⟨rfl, rfl, rfl, rfl⟩, hlen, w, rfl, fun _ => rfl, fun a v hv => ⟨[], ?_⟩⟩
        cases hv
        rw [List.append_nil]
        rfl
      | true =>
        refine (ih c').mono ?_
        rintro y s₂ ⟨hk, hlt, w', ht', hok, hpre⟩
        refine ⟨⟨hk.connected, hk.tabs, hk.pool, hk.refused⟩, Nat.lt_trans hlt hlen, w ++ w', ?_, hok, ?_⟩
        · rw [ht', ← List.append_assoc]
          rfl
        · intro a v hv
          obtain ⟨rest', hrest⟩ := hpre a v hv
          refine ⟨rest', ?_⟩
          rw [hrest, ← List.append_assoc]
          rfl

/-- The rows of a query, worked off by `body`. -/
def scanned (body : ρ → γ → OsdM (γ × Bool)) (rows : Db → List ρ) (c : γ) : OsdM γ := fun t =>
  eachRow body (rows t.db) c t

theorem scanSteps_performs {body : ρ → γ → OsdM (γ × Bool)} (hbody : ∀ r c, Adds (body r c))
    (rows : Db → List ρ) (c : γ) : Performs ButOut (scanned body rows c) (scanSteps body rows c) := by
  intro s
  refine ends_bind.2 (ends_get.2 ((rowSteps_ends hbody _ c).mono ?_))
  rintro r s' ⟨hk, hlen, w, ht, hok, hpre⟩
  refine ⟨hk, hlen, hok, fun _ => ?_⟩
  have hadds : Adds (scanned body rows c) := fun t => adds_eachRow hbody (rows t.db) c t
  rw [ht]
  exact hadds.redoes hpre

theorem Performs.map {β : Type} {Q : Target → Target → Prop} {m : OsdM α} {work : SessionM (Last × α)}
    (h : Performs Q m work) (f : α → β) : Performs Q (f <$> m) ((fun x => (x.1, f x.2)) <$> work) := by
  refine fun s => ends_map.2 ((h s).mono ?_)
  rintro ⟨last, a⟩ v ⟨hk, hlen, hdone, hredo⟩
  refine ⟨hk, hlen, fun hok => map_run.2 ⟨a, hdone hok, rfl⟩, fun hne => ⟨(hredo hne).1, fun b u hu => ?_⟩⟩
  obtain ⟨a', ha', rfl⟩ := map_run.1 hu
  obtain ⟨w, hw, hsame⟩ := (hredo hne).2 a' u ha'
  exact ⟨w, map_run.2 ⟨a', hw, rfl⟩, hsame⟩

/-! ## Functions -/

theorem ends_useStatement {p : Prepared} (h : s.Sound) {Q : Unit → Session → Prop} (hQ : Q () s) :
    Ends (useStatement p) s Q := by
  intro _ s' hrun
  unfold useStatement at hrun
  split at hrun
  · rename_i n hn hslot
    cases hrun
    have hlive : n ∈ s.pool.live := (h.tidy.live n).2 ⟨_, List.mem_of_getElem? hslot⟩
    rw [Pool.touch_of_live hlive]
    exact hQ
  · cases hrun

theorem ends_bindAll {p : Prepared} {Q : Bool → Session → Prop} (h : ∀ b l, Q b { s with calls := l }) :
    Ends (bindAll p) s Q :=
  ends_ite_of (fun _ => ends_succeeds (h _ _)) fun _ => ends_pure.2 (h true s.calls)

/-- The connection and the device are as they were; the statements may be others. -/
theorem ends_dbResetStmt (bound : Bool) (last : Last) (h : s.Sound) (hconn : s.connected = true) :
    Ends (dbResetStmt bound last) s fun ans s' => s'.Sound ∧ s.SameDevice s' ∧
      (ans = .ok → bound = true ∧ last = .ok) ∧ (ans = .again → bound = true ∧ last = .schema) ∧
      (ans = .error → bound = true → last ≠ .ok) := by
  refine ends_ite_of (fun hb => ends_pure.2 ⟨h, .refl s, nofun, nofun, fun _ hbound => ?_⟩) fun hb => ?_
  · rw [hbound] at hb
    cases hb
  have hbound : bound = true := by simpa using hb
  cases last with
  | ok => exact ends_pure.2 ⟨h, .refl s, fun _ => ⟨hbound, rfl⟩, nofun, nofun⟩
  | error => exact ends_pure.2 ⟨h, .refl s, nofun, nofun, fun _ _ => nofun⟩
  | schema =>
    have hdev : s.SameDevice s.closed := h.tidy.blames_closed.device
    refine ends_bind.2 (ends_dbFinalize fun _ => ?_)
    refine ends_call (h.finalize.initialized s.bare_closed (hdev.connected.trans hconn)) fun ret v hv =>
      ends_ite_of (fun _ => ?_) fun _ => ?_
    · exact ends_pure.2 ⟨hv.1, hdev.trans hv.2.blames.device, nofun, fun _ => ⟨hbound, rfl⟩, nofun⟩
    · exact ends_pure.2 ⟨hv.1, hdev.trans hv.2.blames.device, nofun, nofun, fun _ _ => nofun⟩

/-- What a call of a function leads to: `m` was done once, or nothing was done but for `Q`. -/
structure Settles (Q : Target → Target → Prop) (m : OsdM α) (s : Session) (r : Ret × α) (s' : Session) :
    Prop where
  sound : s'.Sound
  connected : s'.connected = true
  result :
    (r.1 = .ok ∧ ∃ t, m s.target = some (r.2, t) ∧ Q t s'.target ∧ s'.target.reply = t.reply) ∨
    (r.1 = .err .osdError ∧ Q s.target s'.target)

section Execution

variable {Q : Target → Target → Prop} [IsPreorder Target Q] {m : OsdM α} {p : Prepared} {init : α}
variable {work : SessionM (Last × α)}

/-- One execution settles the call, or leaves it to be repeated with fewer steps ahead. -/
theorem execution_ends (hwork : Performs Q m work) (h : s.Sound) (hconn : s.connected = true) :
    Ends (execution p init work) s fun o s' =>
      match o with
      | some r => Settles Q m s r s'
      | none => s'.Sound ∧ s'.connected = true ∧ s'.steps.length < s.steps.length ∧
        Redoes Q m s.target s'.target := by
  refine ends_bind.2 (ends_useStatement h (ends_bind.2 (ends_bindAll fun b l => ?_)))
  have hskip : Session.Sound { s with calls := l } := h.of_eq rfl rfl rfl rfl
  cases b with
  | false =>
    refine ends_bind.2 (ends_pure.2 (ends_call (ends_dbResetStmt false _ hskip hconn) ?_))
    rintro ans v ⟨hv, hdev, hok, hag, -⟩
    cases ans with
    | ok => exact absurd (hok rfl).1 nofun
    | again => exact absurd (hag rfl).1 nofun
    | error =>
      refine ends_pure.2 ⟨hv, hdev.connected.trans hconn, .inr ⟨rfl, ?_⟩⟩
      rw [hdev.target]
      exact refl_of Q _
  | true =>
    refine ends_call (hwork { s with calls := l }) ?_
    rintro ⟨last, a⟩ v ⟨hk, hlen, hdone, hredo⟩
    have hvs : v.Sound := hskip.keeps hk
    have hvc : v.connected = true := hk.connected.trans hconn
    refine ends_call (ends_dbResetStmt true last hvs hvc) ?_
    rintro ans u ⟨hu, hdev, hok, hag, herr⟩
    cases ans with
    | ok =>
      obtain ⟨-, rfl⟩ := hok rfl
      refine ends_pure.2 ⟨hu, hdev.connected.trans hvc, .inl ⟨rfl, u.target, ?_, refl_of Q _, rfl⟩⟩
      rw [hdev.target]
      exact hdone rfl
    | again =>
      obtain ⟨-, rfl⟩ := hag rfl
      refine ends_pure.2 ⟨hu, hdev.connected.trans hvc, ?_, ?_⟩
      · rw [hdev.steps]
        exact hlen
      · rw [hdev.target]
        exact hredo nofun
    | error =>
      refine ends_pure.2 ⟨hu, hdev.connected.trans hvc, .inr ⟨rfl, ?_⟩⟩
      rw [hdev.target]
      exact (hredo (herr rfl rfl)).1

theorem Settles.of_redoes {s₀ : Session} {r : Ret × α} (h : Settles Q m s r s')
    (hr : Redoes Q m s₀.target s.target) : Settles Q m s₀ r s' where
  sound := h.sound
  connected := h.connected
  result := by
    rcases h.result with ⟨hok, t, hrun, hq, hrep⟩ | ⟨herr, hq⟩
    · obtain ⟨u, hu, hut, hrep'⟩ := hr.2 _ _ hrun
      exact .inl ⟨hok, u, hu, trans_of Q hut hq, hrep.trans hrep'⟩
    · exact .inr ⟨herr, trans_of Q hr.1 hq⟩

theorem untilAnswered_ends (hwork : Performs Q m work) (n : ℕ) (h : s.Sound) (hconn : s.connected = true) :
    Ends (untilAnswered (execution p init work) n) s (Settles Q m s) := by
  induction n generalizing s with
  | zero => exact ends_never.2 trivial
  | succ n ih =>
    refine ends_call (execution_ends hwork h hconn) fun o v hv => ?_
    cases o with
    | some r => exact ends_pure.2 hv
    | none =>
      obtain ⟨hvs, hvc, -, hr⟩ := hv
      exact (ih hvs hvc).mono fun r u hu => hu.of_redoes hr

/-- **A call does its work once, or reports an error.** -/
theorem statement_ends (hwork : Performs Q m work) (h : s.Sound) (hconn : s.connected = true) :
    Ends (statement p init work) s (Settles Q m s) :=
  ends_bind.2 (ends_get.2 (untilAnswered_ends hwork _ h hconn))

end Execution

end OsdTarget
