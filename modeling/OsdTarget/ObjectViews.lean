import OsdTarget.Base.Interleaving
import OsdTarget.Footprint
import OsdTarget.SetPairs

/-!
# What a command sees of the device

Two states look the same to a command on one object if they agree on the rows and the data file of that
object, and on whether the partition and the collections it uses are there.  `K` holds the ids on which the
states may differ, `U` the ids among them that are only asked for.  The functions under the commands
are gone through in turn: each does the same in two such states, and leaves two such states.
-/

namespace OsdTarget

open Base

variable {env : Env} {K U : Int → Int → Prop} {s t : Target} {pid oid : UInt64}

/-! ## States that look the same -/

/-- The states agree outside `K`: on the rows, in their order, and on the data files. -/
structure Apart (K : Int → Int → Prop) (s t : Target) : Prop extends Beside K s t where
  rootFreed : t.rootFreed = s.rootFreed

/-- During a command: so far the replies are the same, too, and of the ids in `K` those in `U` are there. -/
structure View (K U : Int → Int → Prop) (s t : Target) : Prop extends Apart K s t where
  out : t.out = s.out
  present : ∀ p o, K p o → U p o → s.db.Has p o ∧ t.db.Has p o

/-- What SQLite refuses, beside constraint violations, does not depend on the tables. -/
structure Env.Blind (env : Env) : Prop where
  dms : ∀ st d d', env.dmsFails st d = env.dmsFails st d'
  query : ∀ q d d', env.queryFails q d = env.queryFails q d'

/-- The object is one the states agree on. -/
structure InView (env : Env) (K : Int → Int → Prop) (pid oid : UInt64) : Prop where
  blind : env.Blind
  outside : ¬ K (bindInt64 pid) (bindInt64 oid)

theorem Apart.equivalence (K : Int → Int → Prop) : Equivalence (Apart K) where
  refl s := { Beside.of_eq (s := s) rfl rfl with rootFreed := rfl }
  symm h :=
    { obj := fun p hp => (h.obj p hp).symm
      attr := fun p hp => (h.attr p hp).symm
      coll := fun p hp => (h.coll p hp).symm
      files := fun p o hk => (h.files p o hk).symm
      rootFreed := h.rootFreed.symm }
  trans h h' := { Beside.trans _ _ _ h.toBeside h'.toBeside with rootFreed := h'.rootFreed.trans h.rootFreed }

theorem Apart.symm (h : Apart K s t) : Apart K t s := (Apart.equivalence K).symm h

theorem Apart.trans {v : Target} (h : Apart K s t) (h' : Apart K t v) : Apart K s v :=
  (Apart.equivalence K).trans h h'

theorem Apart.mono {K' : Int → Int → Prop} (h : Apart K s t) (hK : ∀ p o, K p o → K' p o) : Apart K' s t :=
  { h.toBeside.mono hK with rootFreed := h.rootFreed }

theorem Apart.has (h : Apart K s t) {p o : Int} (hk : ¬ K p o) : t.db.Has p o ↔ s.db.Has p o := by
  have hobj : Agrees (fun r : ObjRow => K r.pid r.oid) s.db.obj t.db.obj := h.obj
  refine hobj.exists_iff ?_
  rintro x ⟨rfl, rfl⟩
  exact hk

instance : Uncached (Apart K) where
  same _ _ hdb _ hf hr _ _ := { Beside.of_eq hdb hf with rootFreed := hr }
  trans _ _ _ := (Apart.equivalence K).trans
  ic s _ := { Beside.of_eq (s := s) rfl rfl with rootFreed := rfl }

instance : Untransacted (Apart K) where
  txn s _ _ := { Beside.of_eq (s := s) rfl rfl with rootFreed := rfl }

namespace View

/-- Changes outside the tables, the data files and the reply. -/
theorem of_eq (h : View K U s t) {s' t' : Target} (hs : s'.db = s.db ∧ s'.files = s.files)
    (ht : t'.db = t.db ∧ t'.files = t.files) (hroot : t'.rootFreed = s'.rootFreed)
    (hout : t'.out = s'.out) :
    View K U s' t' where
  obj p hp := by rw [ht.1, hs.1, h.obj p hp]
  attr p hp := by rw [ht.1, hs.1, h.attr p hp]
  coll p hp := by rw [ht.1, hs.1, h.coll p hp]
  files p o hk := by rw [ht.2, hs.2, h.files p o hk]
  rootFreed := hroot
  out := hout
  present p o hk hu := by
    rw [ht.1, hs.1]
    exact h.present p o hk hu

theorem setAttr (h : View K U s t) {l l' : List AttrRow} (hl : Agrees (fun r => K r.pid r.oid) l l') :
    View K U (s.setAttr l) (t.setAttr l') := { h with attr := hl }

theorem setColl (h : View K U s t) {l l' : List CollRow} (hl : Agrees (fun r => K r.pid r.oid) l l') :
    View K U (s.setColl l) (t.setColl l') := { h with coll := hl }

theorem setFile (h : View K U s t) (c : Option (List UInt8)) :
    View K U (s.setFile pid oid c) (t.setFile pid oid c) := by
  refine { h with files := fun p o hk => ?_ }
  unfold Target.setFile
  dsimp only
  rw [h.files p o hk]

theorem outWrite (h : View K U s t) (w : Nat × List UInt8) :
    View K U { s with out := s.out ++ [w] } { t with out := t.out ++ [w] } :=
  { h with out := by rw [h.out] }

theorem lookup (h : View K U s t) (hv : InView env K pid oid) :
    t.lookup env pid oid = s.lookup env pid oid := by
  unfold Target.lookup
  rw [h.rootFreed, h.files pid oid hv.outside]

/-- An id may be asked for if the states agree on it, or it is there in both. -/
theorem has (h : View K U s t) {p o : Int} (hk : K p o → U p o) : t.db.Has p o ↔ s.db.Has p o := by
  by_cases hKo : K p o
  · have hp := h.present p o hKo (hk hKo)
    exact iff_of_true hp.2 hp.1
  · exact h.toApart.has hKo

end View

/-! ## Statements -/

section Statements

variable {α : Type}

theorem alike_setCcap (c : Ccap) : Alike (View K U) (setCcap c) :=
  alike_modify fun _ _ h => h.of_eq ⟨rfl, rfl⟩ ⟨rfl, rfl⟩ h.rootFreed h.out

theorem alike_invalidateCache : Alike (View K U) invalidateCache :=
  alike_modify fun _ _ h => h.of_eq ⟨rfl, rfl⟩ ⟨rfl, rfl⟩ h.rootFreed h.out

theorem alike_outWrite (pos : Nat) (bytes : List UInt8) : Alike (View K U) (outWrite pos bytes) :=
  alike_modify fun _ _ h => h.outWrite _

theorem alike_query {q : Query} {init : α} {answer : Db → α} (hb : env.Blind)
    (h : ∀ s t, View K U s t → answer t.db = answer s.db) :
    Alike (View K U) (dbExecQuery env q init answer) := by
  refine alike_get fun s t hst => lockstep_ite (by rw [hb.query q s.db t.db]) (fun _ => lockstep_pure hst _)
    fun _ => ?_
  rw [h s t hst]
  exact lockstep_pure hst _

/-- A statement that both states allow or refuse, and that keeps them alike. -/
def Dms.RunsAlike (K U : Int → Int → Prop) (st : Dms) : Prop := ∀ s t, View K U s t →
  Option.Rel (fun d d' => View K U { s with db := d } { t with db := d' }) (st.run s.db) (st.run t.db)

theorem alike_dms {st : Dms} (hb : env.Blind) (h : st.RunsAlike K U) :
    Alike (View K U) (dbExecDms env st) := by
  refine alike_get fun s t hst => lockstep_ite (by rw [hb.dms st s.db t.db]) (fun _ => lockstep_pure hst _)
    fun _ => ?_
  cases hrun : st.run s.db with
  | none =>
    cases hrun' : st.run t.db with
    | none => exact lockstep_pure hst _
    | some d' => exact nomatch hrun ▸ hrun' ▸ h s t hst
  | some d =>
    cases hrun' : st.run t.db with
    | none => exact nomatch hrun ▸ hrun' ▸ h s t hst
    | some d' =>
      have hrel := h s t hst
      rw [hrun, hrun'] at hrel
      cases hrel with
      | some hview => exact lockstep_bind (lockstep_set hview) fun _ _ _ h' => lockstep_pure h' _

variable {p o : Int}

theorem runsAlike_objInsert {r : ObjRow} (hk : ¬ K r.pid r.oid) : (Dms.objInsert r).RunsAlike K U := by
  intro s t h
  have hobj : Agrees (fun r : ObjRow => K r.pid r.oid) s.db.obj t.db.obj := h.obj
  have hclash : Clashes ObjRow.key r t.db.obj ↔ Clashes ObjRow.key r s.db.obj := by
    refine hobj.exists_iff fun x hx => ?_
    obtain ⟨h1, h2⟩ := Prod.mk.inj hx
    rwa [h1, h2]
  simp only [Dms.run, insertNew, hclash]
  split
  · exact .none
  · refine .some { h with obj := hobj.append [r], present := fun p o hK hu => ?_ }
    obtain ⟨⟨x, hx, hx'⟩, y, hy, hy'⟩ := h.present p o hK hu
    exact ⟨⟨x, List.mem_append_left _ hx, hx'⟩, y, List.mem_append_left _ hy, hy'⟩

theorem runsAlike_objDelete (hk : ¬ K p o) : (Dms.objDelete p o).RunsAlike K U := by
  intro s t h
  have hobj : Agrees (fun r : ObjRow => K r.pid r.oid) s.db.obj t.db.obj := h.obj
  refine .some { h with obj := hobj.deleteWhere _, present := fun p' o' hK hu => ?_ }
  obtain ⟨⟨x, hx, rfl, rfl⟩, y, hy, hyp, hyo⟩ := h.present p' o' hK hu
  refine ⟨⟨x, mem_deleteWhere.2 ⟨hx, ?_⟩, rfl, rfl⟩, y, mem_deleteWhere.2 ⟨hy, ?_⟩, hyp, hyo⟩
  · rintro ⟨rfl, rfl⟩
    exact hk hK
  · rintro ⟨rfl, rfl⟩
    rw [hyp, hyo] at hk
    exact hk hK

theorem runsAlike_attrSet {r : AttrRow} : (Dms.attrSet r).RunsAlike K U := fun _ _ h =>
  .some (h.setAttr (Agrees.insertReplace h.attr _ _))

theorem runsAlike_attrDelete {page number : Int} :
    (Dms.attrDelete p o page number).RunsAlike K U := fun _ _ h =>
  .some (h.setAttr (Agrees.deleteWhere h.attr _))

theorem runsAlike_attrDeleteAll : (Dms.attrDeleteAll p o).RunsAlike K U := fun _ _ h =>
  .some (h.setAttr (Agrees.deleteWhere h.attr _))

theorem runsAlike_collDelete {cid : Int} : (Dms.collDelete p cid o).RunsAlike K U := fun _ _ h =>
  .some (h.setColl (Agrees.deleteWhere h.coll _))

theorem runsAlike_collDeleteOid : (Dms.collDeleteOid p o).RunsAlike K U := fun _ _ h =>
  .some (h.setColl (Agrees.deleteWhere h.coll _))

theorem runsAlike_collInsert {r : CollRow} (hk : ¬ K r.pid r.oid) : (Dms.collInsert r).RunsAlike K U := by
  intro s t h
  have hcoll : Agrees (fun r : CollRow => K r.pid r.oid) s.db.coll t.db.coll := h.coll
  have hclash : Clashes CollRow.key r t.db.coll ↔ Clashes CollRow.key r s.db.coll := by
    refine hcoll.exists_iff fun x hx => ?_
    obtain ⟨h1, h2⟩ := Prod.mk.inj hx
    rwa [h1, (Prod.mk.inj h2).2]
  simp only [Dms.run, insertColl, hclash]
  split
  · exact .none
  · exact .some (h.setColl (hcoll.insertReplace _ _))

end Statements

end OsdTarget
