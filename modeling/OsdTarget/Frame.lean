import OsdTarget.System

/-!
# What the attribute commands leave alone

A relation between states that only looks at the tables, the id cache and the data files and is
transitive holds along a whole program when each of its steps respects it.  The getters respect every
such relation, and a function of `attr.c` one that admits the row it stores.  `AttrStep K` is the
first of them: between two states at most rows of the `attr` table whose object satisfies `K`
appeared.  Only `set_cap` also changes memberships.
-/

namespace OsdTarget

open Base

/-! ## Specifications of single statements -/

section Statements

variable {env : Env} {s : Target}

/-- A statement no constraint can refuse. -/
theorem dbExecDms_ends_of {st : Dms} {d : Db} {Q : Ret → Target → Prop} (hrun : st.run s.db = some d)
    (hok : Q .ok { s with db := d }) (herr : env.dmsFails st s.db = true → Q (.err .osdError) s) :
    Ends (dbExecDms env st) s Q := by
  refine dbExecDms_ends (fun d' _ hd => ?_) (fun h => herr (h.resolve_right (by simp [hrun])))
  rw [hrun] at hd
  cases hd
  exact hok

theorem clashes_obj {r : ObjRow} {t : List ObjRow} :
    Clashes ObjRow.key r t ↔ ∃ x ∈ t, x.pid = r.pid ∧ x.oid = r.oid := by
  simp [Clashes, ObjRow.key, Prod.ext_iff]

/-- The row is inserted: the statement runs, and its key is free. -/
def Env.Inserts (env : Env) (d : Db) (r : ObjRow) : Prop :=
  env.dmsFails (.objInsert r) d = false ∧ ¬ d.Has r.pid r.oid

theorem objInsert_inserts {pid oid : UInt64} {type : ObjType} {Q : Ret → Target → Prop}
    (hok : env.Inserts s.db ⟨bindInt64 pid, bindInt64 oid, type⟩ →
      Q .ok (s.setObj (s.db.obj ++ [⟨bindInt64 pid, bindInt64 oid, type⟩])))
    (herr : ¬ env.Inserts s.db ⟨bindInt64 pid, bindInt64 oid, type⟩ → Q (.err .osdError) s) :
    Ends (objInsert env pid oid type) s Q := by
  refine dbExecDms_ends (fun d hf hd => ?_) (fun h => herr fun hins => ?_)
  · simp only [Dms.run, Option.map_eq_some_iff] at hd
    obtain ⟨t, ht, rfl⟩ := hd
    obtain ⟨hc, rfl⟩ := insertNew_eq_some.1 ht
    exact hok ⟨hf, fun h => hc (clashes_obj.2 h)⟩
  · rcases h with hf | hn
    · exact absurd (hf.symm.trans hins.1) nofun
    · rw [Dms.run, Option.map_eq_none_iff, insertNew_eq_none] at hn
      exact hins.2 (clashes_obj.1 hn)

theorem Env.fails_of_not_inserts {d : Db} {r : ObjRow} (h : ¬ env.Inserts d r) :
    env.dmsFails (.objInsert r) d = true ∨ d.Has r.pid r.oid := by
  by_cases hf : env.dmsFails (.objInsert r) d = true
  · exact .inl hf
  · exact .inr (by_contra fun hn => h ⟨Bool.eq_false_iff.2 hf, hn⟩)

theorem objInsert_ends {pid oid : UInt64} {type : ObjType} {Q : Ret → Target → Prop}
    (hok : ¬ s.db.Has (bindInt64 pid) (bindInt64 oid) →
      Q .ok (s.setObj (s.db.obj ++ [⟨bindInt64 pid, bindInt64 oid, type⟩])))
    (herr : env.dmsFails (.objInsert ⟨bindInt64 pid, bindInt64 oid, type⟩) s.db = true ∨
      s.db.Has (bindInt64 pid) (bindInt64 oid) → Q (.err .osdError) s) :
    Ends (objInsert env pid oid type) s Q :=
  objInsert_inserts (fun h => hok h.2) fun h => herr (env.fails_of_not_inserts h)

theorem objDelete_ends {pid oid : UInt64} {Q : Ret → Target → Prop}
    (hok : Q .ok (s.setObj
      (deleteWhere (fun r => r.pid = bindInt64 pid ∧ r.oid = bindInt64 oid) s.db.obj)))
    (herr : env.dmsFails (.objDelete (bindInt64 pid) (bindInt64 oid)) s.db = true →
      Q (.err .osdError) s) : Ends (objDelete env pid oid) s Q :=
  dbExecDms_ends_of rfl hok herr

theorem attrDeleteAll_ends {pid oid : UInt64} {Q : Ret → Target → Prop}
    (hok : Q .ok (s.setAttr
      (deleteWhere (fun r => r.pid = bindInt64 pid ∧ r.oid = bindInt64 oid) s.db.attr)))
    (herr : env.dmsFails (.attrDeleteAll (bindInt64 pid) (bindInt64 oid)) s.db = true →
      Q (.err .osdError) s) : Ends (attrDeleteAll env pid oid) s Q :=
  dbExecDms_ends_of rfl hok herr

theorem collDeleteOid_ends {pid oid : UInt64} {Q : Ret → Target → Prop}
    (hok : Q .ok (s.setColl
      (deleteWhere (fun r => r.pid = bindInt64 pid ∧ r.oid = bindInt64 oid) s.db.coll)))
    (herr : env.dmsFails (.collDeleteOid (bindInt64 pid) (bindInt64 oid)) s.db = true →
      Q (.err .osdError) s) : Ends (collDeleteOid env pid oid) s Q :=
  dbExecDms_ends_of rfl hok herr

theorem collDeleteCid_ends {pid cid : UInt64} {Q : Ret → Target → Prop}
    (hok : Q .ok (s.setColl
      (deleteWhere (fun r => r.pid = bindInt64 pid ∧ r.cid = bindInt64 cid) s.db.coll)))
    (herr : env.dmsFails (.collDeleteCid (bindInt64 pid) (bindInt64 cid)) s.db = true →
      Q (.err .osdError) s) : Ends (collDeleteCid env pid cid) s Q :=
  dbExecDms_ends_of rfl hok herr

/-- Presence, as the commands test it: an error of the query counts as absence. -/
theorem objIspresent_ends {pid oid : UInt64} {Q : Ret × Bool → Target → Prop}
    (hok : Q (.ok, decide (s.db.Has (bindInt64 pid) (bindInt64 oid))) s)
    (herr : Q (.err .osdError, false) s) : Ends (objIspresent env pid oid) s Q :=
  dbExecQuery_ends (fun _ => hok) (fun _ => herr)

end Statements

/-! ## The frame -/

/-- The object table, the id cache and the set of data files are unchanged. -/
structure IdStep (s s' : Target) : Prop where
  obj : s'.db.obj = s.db.obj
  ic : s'.ic = s.ic
  files : ∀ p o, (s'.files p o).isSome = (s.files p o).isSome
  rootFreed : s'.rootFreed = s.rootFreed

/-- At most rows of `attr` satisfying `K` are new, and memberships are unchanged too. -/
structure AttrStep (K : Int → Int → Prop) (s s' : Target) : Prop extends IdStep s s' where
  coll : s'.db.coll = s.db.coll
  attr : ∀ r ∈ s'.db.attr, r ∈ s.db.attr ∨ K r.pid r.oid

namespace AttrStep

variable {K : Int → Int → Prop}

/-- Changes outside the tables and the data files. -/
theorem of_eq {s s' : Target} (hdb : s'.db = s.db) (hic : s'.ic = s.ic) (hf : s'.files = s.files)
    (hr : s'.rootFreed = s.rootFreed) : AttrStep K s s' where
  obj := by rw [hdb]
  ic := hic
  files _ _ := by rw [hf]
  rootFreed := hr
  coll := by rw [hdb]
  attr _ h := .inl (hdb ▸ h)

theorem refl (s : Target) : AttrStep K s s := of_eq rfl rfl rfl rfl

theorem trans (s t v : Target) (h : AttrStep K s t) (h' : AttrStep K t v) : AttrStep K s v where
  obj := h'.obj.trans h.obj
  ic := h'.ic.trans h.ic
  files p o := (h'.files p o).trans (h.files p o)
  rootFreed := h'.rootFreed.trans h.rootFreed
  coll := h'.coll.trans h.coll
  attr r hr := (h'.attr r hr).elim (h.attr r) .inr

end AttrStep

/-! ## Relations that hold along a program -/

/-- A transitive relation that looks at the tables, the id cache, the data files and the transactions
only. -/
class Stays (R : Target → Target → Prop) : Prop where
  same : ∀ s s' : Target, s'.db = s.db → s'.ic = s.ic → s'.files = s.files →
    s'.rootFreed = s.rootFreed → s'.inTxn = s.inTxn → s'.txnCalls = s.txnCalls → R s s'
  trans : ∀ s t v : Target, R s t → R t v → R s v

theorem Stays.refl (R : Target → Target → Prop) [Stays R] (s : Target) : R s s :=
  Stays.same s s rfl rfl rfl rfl rfl rfl

/-- A relation that does not look at the transactions either. -/
class Untransacted (R : Target → Target → Prop) : Prop extends Stays R where
  txn : ∀ (s : Target) b l, R s { s with inTxn := b, txnCalls := l }

instance (K : Int → Int → Prop) : Untransacted (AttrStep K) where
  same _ _ hdb hic hf hr _ _ := .of_eq hdb hic hf hr
  trans := AttrStep.trans
  txn _ _ _ := .of_eq rfl rfl rfl rfl

/-- The bytes of a value that is given by a pointer and a length. -/
def givenBytes (val : Option Mem) (len : UInt16) : List UInt8 :=
  match val with
  | some m => m.read 0 len.toNat
  | none => []

/-- The row of an attribute. -/
def attrRow (pid oid : UInt64) (page number : UInt32) (value : List UInt8) : AttrRow :=
  ⟨bindInt64 pid, bindInt64 oid, bindInt page, bindInt number, some value⟩

/-- The row `_attr_set_attr` stores; a NULL pointer is bound as SQL NULL. -/
def storedRow (pid oid : UInt64) (page number : UInt32) (val : Option Mem) (len : UInt16) : AttrRow :=
  ⟨bindInt64 pid, bindInt64 oid, bindInt page, bindInt number, val.map fun m => m.read 0 len.toNat⟩

@[simp] theorem attrRow_value (pid oid : UInt64) (page number : UInt32) (value : List UInt8) :
    (attrRow pid oid page number value).value = value := rfl

@[simp] theorem storedRow_value (pid oid : UInt64) (page number : UInt32) (val : Option Mem)
    (len : UInt16) : (storedRow pid oid page number val len).value = givenBytes val len := by
  cases val <;> rfl

@[simp] theorem storedRow_key (pid oid : UInt64) (page number : UInt32) (val : Option Mem)
    (len : UInt16) :
    (storedRow pid oid page number val len).key = (attrRow pid oid page number []).key := rfl

/-- A value that is there is stored as it is. -/
theorem storedRow_some (pid oid : UInt64) (page number : UInt32) (m : Mem) (len : UInt16) :
    storedRow pid oid page number (some m) len = attrRow pid oid page number (m.read 0 len.toNat) := rfl

/-- The device with this row stored. -/
def Target.withAttr (s : Target) (r : AttrRow) : Target :=
  s.setAttr (insertReplace AttrRow.key r s.db.attr)

/-- The device without the attribute that has this key. -/
def Target.withoutAttr (s : Target) (k : Int × Int × Int × Int) : Target :=
  s.setAttr (deleteWhere (fun r => r.key = k) s.db.attr)

/-- `R` admits storing this row. -/
def Admits (R : Target → Target → Prop) (r : AttrRow) : Prop := ∀ s : Target, R s (s.withAttr r)

/-- `R` admits deleting the attribute with this key. -/
def AdmitsDelete (R : Target → Target → Prop) (k : Int × Int × Int × Int) : Prop :=
  ∀ s : Target, R s (s.withoutAttr k)

/-- `R` admits rewriting the content of this data file. -/
def AdmitsFile (R : Target → Target → Prop) (pid oid : UInt64) : Prop :=
  ∀ (s : Target) (c c' : List UInt8), s.files pid oid = some c → R s (s.setFile pid oid (some c'))

theorem AttrStep.admits {K : Int → Int → Prop} {r : AttrRow} (hK : K r.pid r.oid) :
    Admits (AttrStep K) r := by
  refine fun s => { AttrStep.refl (K := K) s with attr := fun x hx => ?_ }
  rcases mem_insertReplace.1 hx with h | rfl
  · exact .inl h.1
  · exact .inr hK

theorem AttrStep.admitsDelete (K : Int → Int → Prop) (k : Int × Int × Int × Int) :
    AdmitsDelete (AttrStep K) k :=
  fun s => { AttrStep.refl (K := K) s with attr := fun _ hr => .inl (mem_deleteWhere.1 hr).1 }

theorem AttrStep.admitsFile (K : Int → Int → Prop) (pid oid : UInt64) :
    AdmitsFile (AttrStep K) pid oid := by
  refine fun s c c' h => { AttrStep.refl s with files := fun p o => ?_ }
  unfold Target.setFile
  by_cases hp : p = pid ∧ o = oid
  · simp [hp, h]
  · simp [hp]

/-! ## The functions of `attr.c` -/

section Writers

variable {env : Env} {s : Target} {pid oid : UInt64} {page number : UInt32} {val : Option Mem}
  {len : UInt16}

theorem attrSetAttrRow_ends {Q : Ret → Target → Prop}
    (hok : Q .ok (s.withAttr (storedRow pid oid page number val len)))
    (herr : Q (.err .osdError) s) : Ends (attrSetAttrRow env pid oid page number val len) s Q :=
  dbExecDms_ends_of rfl hok fun _ => herr

theorem attrDeleteAttr_ends {Q : Ret → Target → Prop}
    (hok : Q .ok (s.withoutAttr (attrRow pid oid page number []).key))
    (herr : Q (.err .osdError) s) : Ends (attrDeleteAttr env pid oid page number) s Q := by
  refine dbExecDms_ends_of rfl ?_ fun _ => herr
  simpa [Target.withoutAttr, Target.setAttr, AttrRow.key, attrRow] using hok

theorem Target.files_of_lookup {s : Target} {pid oid : UInt64} {c : List UInt8}
    (h : s.lookup env pid oid = some c) : s.files pid oid = some c := by
  unfold Target.lookup at h
  split at h
  · cases h
  · exact h

/-- What `truncate` takes. -/
theorem truncates {newLen : UInt64} (hsys : env.sysFails (.truncate pid oid newLen) = false)
    (hfits : newLen.toNat < 2 ^ 63) :
    ¬ (2 ^ 63 ≤ newLen.toNat ∨ env.sysFails (.truncate pid oid newLen) = true) :=
  not_or.2 ⟨Nat.not_le.2 hfits, by rw [hsys]; exact Bool.false_ne_true⟩

theorem setLogicalLen_ends {newLen : UInt64} {Q : Ret → Target → Prop}
    (hok : ∀ c c', s.files pid oid = some c → Q .ok (s.setFile pid oid (some c')))
    (herr : Q (.err .osdError) s) : Ends (setLogicalLen env pid oid newLen) s Q := by
  unfold setLogicalLen truncateFile
  refine ends_bind.2 (ends_bind.2 (ends_get.2 ?_))
  cases h : s.lookup env pid oid with
  | none => exact ends_pure.2 (ends_ite_of (fun h => nomatch h) fun _ => ends_pure.2 herr)
  | some c =>
    refine ends_ite_of (fun _ => ends_pure.2 (ends_ite_of (fun h => nomatch h) fun _ => ends_pure.2 herr))
      fun _ => ends_bind.2 (ends_set.2 (ends_pure.2 (ends_ite_of (fun _ => ?_) fun h => absurd rfl h)))
    exact ends_pure.2 (hok c _ (Target.files_of_lookup h))

/-- The attributes that `attr_set_attr` stores as rows. -/
def Target.StoresRow (s : Target) (page number : UInt32) (len : UInt16) : Prop :=
  if page = USER_INFO_PG then number = UIAP_USERNAME
  else if page = ROOT_INFO_PG then
    number = RIAP_OSD_NAME ∨ number = RIAP_OSD_SYSTEM_ID ∧ s.ccap.cdbSrvcAct = OSD_FORMAT_OSD ∧
      len.toNat ≤ RIAP_OSD_SYSTEM_ID_LEN
  else True

instance (s : Target) (page number : UInt32) (len : UInt16) : Decidable (s.StoresRow page number len) := by
  unfold Target.StoresRow
  infer_instance

/-- `attr_set_attr` stores the row, resizes the data file, or does nothing. -/
theorem attrSetAttr_ends {Q : Ret → Target → Prop}
    (hrow : s.StoresRow page number len →
      Q .ok (s.withAttr (storedRow pid oid page number val len)))
    (hfile : page = USER_INFO_PG → number = UIAP_LOGICAL_LEN → ∀ c c', s.files pid oid = some c →
      Q .ok (s.setFile pid oid (some c')))
    (hsame : ∀ ret, (ret = .ok → ¬ s.StoresRow page number len ∧ page ≠ USER_INFO_PG ∨
      page = USER_INFO_PG ∧ number ≠ UIAP_USERNAME ∧ number ≠ UIAP_LOGICAL_LEN) → Q ret s) :
    Ends (attrSetAttr env pid oid page number val len) s Q := by
  have herr : ∀ e, Q (.err e) s := fun e => hsame _ (fun h => nomatch h)
  unfold attrSetAttr
  unfold Target.StoresRow at hrow hsame
  by_cases hui : page = USER_INFO_PG
  · rw [if_pos hui]
    rw [if_pos hui] at hrow
    subst hui
    refine ends_ite_of (fun hn => ?_) fun hn => ends_ite_of (fun hl => ?_) fun hl => ?_
    · subst hn
      exact attrSetAttrRow_ends (hrow rfl) (herr _)
    · cases val with
      | none => exact ends_never.2 trivial
      | some m => exact setLogicalLen_ends (hfile rfl hl) (herr _)
    · exact ends_pure.2 (hsame _ fun _ => .inr ⟨rfl, hn, hl⟩)
  rw [if_neg hui]
  rw [if_neg hui] at hrow hsame
  by_cases hri : page = ROOT_INFO_PG
  · rw [if_pos hri]
    rw [if_pos hri] at hrow hsame
    subst hri
    refine ends_ite_of (fun hn => ?_) fun hn => ends_ite_of (fun hl => ?_) fun hl => ?_
    · refine ends_bind.2 (ends_get.2 (ends_ite_of (fun hf => ?_) fun _ => ends_pure.2 (herr _)))
      refine ends_ite_of (fun _ => ends_pure.2 (herr _)) fun hl => ?_
      subst hn
      exact attrSetAttrRow_ends (hrow (.inr ⟨rfl, hf, by omega⟩)) (herr _)
    · subst hl
      exact attrSetAttrRow_ends (hrow (.inl rfl)) (herr _)
    · exact ends_pure.2 (hsame _ fun _ => .inl ⟨fun h => h.elim hl fun h => hn h.1, hui⟩)
  rw [if_neg hri]
  rw [if_neg hri] at hrow
  exact attrSetAttrRow_ends (hrow trivial) (herr _)

end Writers

section Respects

variable {env : Env} {R : Target → Target → Prop} [Stays R] {α β : Type}

theorem resp_pure (a : α) : Respects R (pure a : OsdM α) := respects_pure (Stays.refl R) a

theorem resp_bind {m : OsdM α} {f : α → OsdM β} (hm : Respects R m)
    (hf : ∀ a, Respects R (f a)) : Respects R (m >>= f) :=
  respects_bind Stays.trans hm hf

theorem resp_get : Respects R (get : OsdM Target) := respects_get (Stays.refl R)

omit [Stays R] in
theorem resp_never : Respects R (never : OsdM α) := fun _ => ends_never.2 trivial

theorem resp_setCcap (c : Ccap) : Respects R (setCcap c) :=
  respects_modify fun _ => Stays.same _ _ rfl rfl rfl rfl rfl rfl

theorem resp_outWrite (pos : Nat) (bytes : List UInt8) : Respects R (outWrite pos bytes) :=
  respects_modify fun _ => Stays.same _ _ rfl rfl rfl rfl rfl rfl

theorem resp_query {q : Query} {init : α} {answer : Db → α} :
    Respects R (dbExecQuery env q init answer) :=
  fun s => dbExecQuery_ends (fun _ => Stays.refl R s) (fun _ => Stays.refl R s)

section Writers

variable {pid oid : UInt64} {page number : UInt32} {val : Option Mem} {len : UInt16}

theorem resp_attrSetAttrRow (h : Admits R (storedRow pid oid page number val len)) :
    Respects R (attrSetAttrRow env pid oid page number val len) :=
  fun s => attrSetAttrRow_ends (h s) (Stays.refl R s)

theorem resp_attrSetAttr (h : Admits R (storedRow pid oid page number val len))
    (hf : page = USER_INFO_PG → AdmitsFile R pid oid) :
    Respects R (attrSetAttr env pid oid page number val len) :=
  fun s => attrSetAttr_ends (fun _ => h s) (fun hp _ => hf hp s) fun _ _ => Stays.refl R s

end Writers

theorem resp_attrGetVal (pid oid : UInt64) (page number : UInt32) (outlen : UInt64) :
    Respects R (attrGetVal env pid oid page number outlen) := by
  refine resp_bind resp_query fun ⟨ret, row⟩ => ?_
  cases ret with
  | ok =>
    cases row with
    | none => exact resp_pure _
    | some r => exact respects_ite (resp_pure _) (respects_ite (resp_pure _) (resp_pure _))
  | err e => exact resp_pure _
  | sense x => exact resp_pure _

/-! ### Packing -/

theorem resp_lePackAttr (pos : Nat) (buflen page number : UInt32) (valen : UInt16)
    (val : Option Mem) : Respects R (lePackAttr env pos buflen page number valen val) := by
  unfold lePackAttr
  split
  · exact resp_pure _
  · exact resp_bind (resp_outWrite _ _) fun _ => resp_pure _

theorem resp_leMultiobjPackAttr (pos : Nat) (buflen : UInt32) (oid : UInt64) (page number : UInt32)
    (valen : UInt16) (val : Option Mem) :
    Respects R (leMultiobjPackAttr env pos buflen oid page number valen val) := by
  refine respects_ite (resp_pure _) (resp_bind (resp_outWrite _ _) fun _ =>
    resp_bind (resp_lePackAttr _ _ _ _ _ _) fun r => ?_)
  cases r <;> exact resp_pure _

theorem resp_packAttr (listfmt : UInt8) (pos : Nat) (buflen : UInt32) (oid : UInt64)
    (page number : UInt32) (valen : UInt16) (val : Option Mem) :
    Respects R (packAttr env listfmt pos buflen oid page number valen val) :=
  respects_ite (resp_lePackAttr _ _ _ _ _ _)
    (respects_ite (resp_leMultiobjPackAttr _ _ _ _ _ _ _) (resp_pure _))

theorem resp_gatherAttrs (oid : UInt64) (listfmt : UInt8) (rows : List AttrRow) (pos : Nat)
    (outlen : UInt64) (g : Gathered) :
    Respects R (gatherAttrs env oid listfmt rows pos outlen g) := by
  induction rows generalizing pos outlen g with
  | nil => exact resp_pure _
  | cons r rows ih =>
    refine resp_bind (resp_packAttr _ _ _ _ _ _ _ _) fun res => ?_
    split
    · exact ih _ _ _
    · exact resp_pure _
    · exact resp_pure _

theorem resp_execAttrRtrvlStmt (q : Rtrvl) (pid oid : UInt64) (listfmt : UInt8) (pos : Nat)
    (outlen : UInt64) :
    Respects R (execAttrRtrvlStmt env q pid oid listfmt pos outlen) :=
  resp_bind resp_get fun _ => respects_ite (resp_pure _)
    (resp_bind (resp_gatherAttrs _ _ _ _ _ _) fun _ =>
      respects_ite (resp_pure _) (respects_ite (resp_pure _) (resp_pure _)))

theorem resp_packValue (listfmt : UInt8) (pos : Nat) (outlen oid : UInt64) (page number : UInt32)
    (len : UInt16) (val : Option Mem) :
    Respects R (packValue env listfmt pos outlen oid page number len val) := by
  refine respects_ite (resp_pure _) (resp_bind (resp_packAttr _ _ _ _ _ _ _ _) fun r => ?_)
  split <;> exact resp_pure _

theorem resp_attrGetAttr (pid oid : UInt64) (page number : UInt32) (listfmt : UInt8) (pos : Nat)
    (outlen : UInt64) :
    Respects R (attrGetAttr env pid oid page number listfmt pos outlen) := by
  have hconv : ∀ p n, Respects R (attrGetConversion env pid oid p n listfmt pos outlen) :=
    fun p n => resp_execAttrRtrvlStmt (.attr p n) pid oid listfmt pos outlen
  refine respects_ite (respects_ite (hconv _ _) (resp_bind resp_get fun s => ?_))
    (respects_ite (respects_ite (hconv _ _) (respects_ite
      (resp_bind (hconv _ _) fun r => ?_) ?_)) (resp_packValue _ _ _ _ _ _ _ _))
  · split
    · exact resp_pure _
    · exact resp_packValue _ _ _ _ _ _ _ _
  · split
    · exact resp_packValue _ _ _ _ _ _ _ _
    · exact resp_pure _
  · split
    · exact resp_pure _
    · exact resp_packValue _ _ _ _ _ _ _ _

/-! ### The getters of `osd.c` -/

theorem resp_getObjType (pid oid : UInt64) : Respects R (getObjType env pid oid) := by
  refine respects_ite (resp_pure _) (respects_ite (resp_pure _) (respects_ite
    (resp_bind resp_query fun r => ?_) (resp_pure _)))
  split <;> exact resp_pure _

/-- The two page names `lazy_init_attr` stores. -/
def lazyAttrs (pid oid : UInt64) : List AttrRow :=
  [attrRow pid oid USER_TMSTMP_PG 0 (userTmstmpPageName.read 0 40),
    attrRow pid oid USER_ATOMICS_PG 0 (userAtomicPageName.read 0 40)]

omit [Stays R] in
/-- Unless everything is asked for, `lazy_init_attr` returns at once. -/
theorem lazyInitAttr_idle {pid oid : UInt64} {page : UInt32} (hpage : page ≠ GETALLATTR_PG)
    (number : UInt32) :
    lazyInitAttr env pid oid page number = pure .ok := by
  unfold lazyInitAttr
  refine if_pos ?_
  by_cases hle : page ≤ USER_ATOMICS_PG
  · by_cases hn : number = ATTRNUM_GETALL
    · exact .inr (.inl ⟨hle, by rw [hn]; decide⟩)
    · exact .inl ⟨hpage, hn⟩
  · have hlt : USER_ATOMICS_PG < page := by
      rw [UInt32.le_iff_toNat_le] at hle
      rw [UInt32.lt_iff_toNat_lt]
      omega
    exact .inr (.inr ⟨hlt, hpage⟩)

theorem resp_lazyInitAttr {pid oid : UInt64} {page number : UInt32}
    (h : page = GETALLATTR_PG → ∀ r ∈ lazyAttrs pid oid, Admits R r) :
    Respects R (lazyInitAttr env pid oid page number) := by
  by_cases hpage : page = GETALLATTR_PG
  · have hset : ∀ p val, p ≠ USER_INFO_PG → storedRow pid oid p 0 (some val) 40 ∈
        lazyAttrs pid oid →
        Respects R (attrSetAttr env pid oid p 0 (some val) 40) :=
      fun p val hp hr => resp_attrSetAttr (h hpage _ hr) fun hui => absurd hui hp
    exact respects_ite (resp_pure _) (resp_bind (resp_attrGetVal _ _ _ _ _) fun _ =>
      respects_ite (resp_pure _) (respects_ite (resp_pure _)
        (resp_bind (hset _ _ (by decide) (List.mem_cons_self ..)) fun _ =>
          respects_ite (resp_pure _) (hset _ _ (by decide)
            (List.mem_cons_of_mem _ (List.mem_cons_self ..))))))
  · rw [lazyInitAttr_idle hpage]
    exact resp_pure _

theorem resp_getCcapAslist (number : UInt32) (pos : Nat) (outlen : UInt64) :
    Respects R (getCcapAslist env number pos outlen) := by
  refine resp_bind resp_get fun s => ?_
  split
  · exact resp_pure _
  · exact resp_bind (resp_lePackAttr _ _ _ _ _ _) fun _ => resp_pure _

theorem resp_getUtsapAslist (pid oid : UInt64) (number : UInt32) (listfmt : UInt8) (pos : Nat)
    (outlen : UInt64) :
    Respects R (getUtsapAslist env pid oid number listfmt pos outlen) := by
  refine resp_bind resp_get fun s => ?_
  split
  · exact resp_pure _
  · exact respects_ite (resp_bind (resp_leMultiobjPackAttr _ _ _ _ _ _ _) fun _ => resp_pure _)
      (resp_bind (resp_lePackAttr _ _ _ _ _ _) fun _ => resp_pure _)

theorem resp_getUiap (pid oid : UInt64) (page number : UInt32) (listfmt : UInt8) (pos : Nat)
    (outlen : UInt64) :
    Respects R (getUiap env pid oid page number listfmt pos outlen) := by
  refine resp_bind (resp_attrGetAttr _ _ _ _ _ _ _) fun r => ?_
  split <;> exact resp_pure _

theorem resp_getattrListByPage (pid oid : UInt64) (page number : UInt32) (listfmt : UInt8)
    (pos : Nat) (outlen : UInt64) :
    Respects R (getattrListByPage env pid oid page number listfmt pos outlen) := by
  have hr : ∀ q, Respects R (execAttrRtrvlStmt env q pid oid listfmt pos outlen) :=
    fun q => resp_execAttrRtrvlStmt q pid oid listfmt pos outlen
  exact respects_ite (resp_getCcapAslist _ _ _) (respects_ite (resp_getUtsapAslist _ _ _ _ _ _)
    (respects_ite (resp_getUiap _ _ _ _ _ _ _) (respects_ite (resp_attrGetAttr _ _ _ _ _ _ _)
      (respects_ite (respects_ite (hr _) (hr _)) (respects_ite (hr _) (hr _))))))

theorem resp_fillNullAttr (oid : UInt64) (page number : UInt32) (listfmt : UInt8) (pos : Nat)
    (outlen : UInt32) :
    Respects R (fillNullAttr env oid page number listfmt pos outlen) :=
  respects_ite (respects_ite (resp_leMultiobjPackAttr _ _ _ _ _ _ _) (resp_lePackAttr _ _ _ _ _ _))
    (resp_pure _)

theorem resp_getCcap (pos : Nat) (outlen : UInt64) : Respects R (getCcap pos outlen) := by
  have hw := fun p b => resp_outWrite (R := R) p b
  exact respects_ite (resp_pure _) (resp_bind resp_get fun s =>
    resp_bind (hw _ _) fun _ => resp_bind (hw _ _) fun _ => resp_bind (hw _ _) fun _ =>
    resp_bind (hw _ _) fun _ => resp_bind (hw _ _) fun _ => resp_bind (hw _ _) fun _ =>
    resp_bind (hw _ _) fun _ => resp_bind (hw _ _) fun _ => resp_pure _)

theorem resp_outTimes (l : List (Nat × UInt64)) : Respects R (outTimes l) := by
  induction l with
  | nil => exact resp_pure _
  | cons x l ih =>
    unfold outTimes
    split
    · exact resp_pure _
    · exact resp_bind (resp_outWrite _ _) fun _ => ih

theorem resp_getUtsap (pid oid : UInt64) (pos : Nat) (outlen : UInt64) :
    Respects R (getUtsap env pid oid pos outlen) := by
  have hw := fun p b => resp_outWrite (R := R) p b
  exact respects_ite (resp_pure _) (resp_bind (hw _ _) fun _ => resp_bind (hw _ _) fun _ =>
    resp_bind (hw _ _) fun _ => resp_bind resp_get fun s => respects_ite (resp_pure _)
      (resp_bind (resp_outTimes _) fun _ => respects_ite (resp_pure _) (resp_pure _)))

end Respects

end OsdTarget
