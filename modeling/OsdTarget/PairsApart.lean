import OsdTarget.FailedSets
import OsdTarget.Interference

/-!
# Pairs on different objects

The pairs of a set list go from entry to entry, and for each over all objects.  What such a walk does to one
object is what its pairs alone do, whatever becomes of the others.
-/

namespace OsdTarget

open Base

variable {env : Env} {pid oid : UInt64} {indata : Mem} {s s' t : Target} {p : SetPair} {ps : List SetPair}

/-! ## Pairs on different objects -/

/-- Every id but the one of this object. -/
def Others (pid oid : UInt64) (p o : Int) : Prop := ¬ (p = bindInt64 pid ∧ o = bindInt64 oid)

/-- What an accepted pair leaves alone. -/
structure SameHolders (s t : Target) : Prop where
  obj : t.db.obj = s.db.obj
  ic : t.ic = s.ic
  ccap : t.ccap = s.ccap

theorem SameHolders.refl (s : Target) : SameHolders s s := ⟨rfl, rfl, rfl⟩

theorem SameHolders.trans {v : Target} (h : SameHolders s t) (h' : SameHolders t v) : SameHolders s v :=
  ⟨h'.obj.trans h.obj, h'.ic.trans h.ic, h'.ccap.trans h.ccap⟩

theorem PairStored.holders (h : PairStored env pid indata p s s') : SameHolders s s' := by
  cases h with
  | row => exact ⟨rfl, rfl, rfl⟩
  | resized => exact ⟨rfl, rfl, rfl⟩
  | ignored => exact .refl s
  | pointed => exact ⟨rfl, rfl, rfl⟩

/-- An embedded pair does not show in the attributes of the current command. -/
theorem PairAccepted.stored (h : PairAccepted env pid indata true p s s') :
    env.Answers pid p.1 s.db ∧ s.db.Allows pid indata p ∧ PairStored env pid indata p s s' := by
  obtain ⟨hanswers, hallows, t, hst, rfl⟩ := h
  exact ⟨hanswers, hallows, hst⟩

theorem PairStored.accepted (hst : PairStored env pid indata p s s') (hanswers : env.Answers pid p.1 s.db)
    (hallows : s.db.Allows pid indata p) : PairAccepted env pid indata true p s s' :=
  ⟨hanswers, hallows, s', hst, rfl⟩

/-- A pair changes its own object only. -/
theorem PairStored.apart {K : Int → Int → Prop} (h : PairStored env pid indata p s s')
    (hK : K (bindInt64 pid) (bindInt64 p.1)) : Apart K s s' := by
  have hadmits : AdmitsAttributes (Apart K) pid p.1 := Apart.admitsAttributes hK
  cases h with
  | row => exact hadmits.row _ _ _ s
  | resized _ c hc => exact hadmits.file s c _ (Target.files_of_lookup hc)
  | ignored => exact (Apart.equivalence K).refl s
  | pointed _ _ _ t ht => exact hadmits.point s _ _ t ht

/-- On the page of collections it is a membership that is stored. -/
theorem PairStored.points (h : PairStored env pid indata p s s') (hpage : p.2.page = USER_COLL_PG) :
    p.Points s.db pid indata := by
  cases h with
  | row h => exact absurd hpage h.1
  | resized h => exact absurd (h.1.symm.trans hpage) (by decide)
  | ignored h => exact absurd (h.1.symm.trans hpage) (by decide)
  | pointed h => exact h

section Transfer

variable {K : Int → Int → Prop}

theorem Apart.objType (h : Apart K s t) (hk : ¬ K (bindInt64 pid) (bindInt64 oid)) :
    t.db.objType pid oid = s.db.objType pid oid := by
  have hobj : Agrees (fun r : ObjRow => K r.pid r.oid) s.db.obj t.db.obj := h.obj
  unfold Db.objType Db.typeOf
  rw [hobj.find? fun r hr => ?_]
  refine decide_eq_false ?_
  rintro ⟨hp, ho⟩
  exact hk (hp ▸ ho ▸ hr)

/-- **A pair is stored alike** in states that agree on its object. -/
theorem PairStored.transfer (hb : env.Blind) (h : PairStored env pid indata p s s') (hst : Apart K s t)
    (hk : ¬ K (bindInt64 pid) (bindInt64 p.1)) (hact : t.ccap.cdbSrvcAct = s.ccap.cdbSrvcAct)
    (hpoint : p.2.page = USER_COLL_PG → t.db.Has (bindInt64 pid) (bindInt64 (getNtohll (p.val indata) 0))) :
    ∃ t', PairStored env pid indata p t t' ∧ Apart K s' t' := by
  cases h with
  | row h hdms =>
    refine ⟨_, .row (hact ▸ h) (hb.dms _ t.db s.db ▸ hdms), ?_⟩
    exact { hst with attr := Agrees.insertReplace hst.attr _ _ }
  | resized h c hc hsys =>
    have hlookup : t.lookup env pid p.1 = s.lookup env pid p.1 := by
      unfold Target.lookup
      rw [hst.rootFreed, hst.files pid p.1 hk]
    refine ⟨_, .resized h c (hlookup.trans hc) hsys, { hst with files := fun p' o' hk' => ?_ }⟩
    unfold Target.setFile
    dsimp only
    rw [hst.files p' o' hk']
  | ignored h => exact ⟨t, .ignored h, hst⟩
  | pointed h hquery hdms l hl =>
    have hcoll : Agrees (fun r : CollRow => K r.pid r.oid) s.db.coll t.db.coll := hst.coll
    have hclash : Clashes CollRow.key (p.pointer pid indata) t.db.coll ↔
        Clashes CollRow.key (p.pointer pid indata) s.db.coll := by
      refine hcoll.exists_iff fun x hx => ?_
      obtain ⟨h1, h2⟩ := Prod.mk.inj hx
      rwa [h1, (Prod.mk.inj h2).2]
    unfold insertColl at hl
    split at hl
    · cases hl
    · next hno =>
      cases hl
      refine ⟨_, .pointed ⟨h.1, h.2.1, h.2.2.1, hpoint h.1⟩ (hb.query _ t.db s.db ▸ hquery)
        (hb.dms _ t.db s.db ▸ hdms) _ (if_neg (mt hclash.1 hno)), ?_⟩
      exact { hst with coll := hcoll.insertReplace _ _ }

theorem PairAccepted.transfer (hb : env.Blind) (h : PairAccepted env pid indata true p s s')
    (hst : Apart K s t) (hk : ¬ K (bindInt64 pid) (bindInt64 p.1)) (hact : t.ccap.cdbSrvcAct = s.ccap.cdbSrvcAct)
    (hpoint : p.2.page = USER_COLL_PG → s.db.Has (bindInt64 pid) (bindInt64 (getNtohll (p.val indata) 0)) →
      t.db.Has (bindInt64 pid) (bindInt64 (getNtohll (p.val indata) 0))) :
    ∃ t', PairAccepted env pid indata true p t t' ∧ Apart K s' t' := by
  obtain ⟨hanswers, hallows, hstored⟩ := h.stored
  have htype : t.db.objType pid p.1 = s.db.objType pid p.1 := hst.objType hk
  obtain ⟨t', ht', happart⟩ := hstored.transfer hb hst hk hact fun hpage =>
    hpoint hpage (hstored.points hpage).2.2.2
  refine ⟨t', ht'.accepted ?_ ?_, happart⟩
  · exact ⟨hb.query _ t.db s.db ▸ hanswers.present, fun h => hb.query _ t.db s.db ▸ hanswers.typed h⟩
  · obtain ⟨hpresent, htyped, hsettable, hmodifiable, hgiven, hinfo, hshort⟩ := hallows
    exact ⟨(hst.has hk).2 hpresent, htype ▸ htyped, htype ▸ hsettable, hmodifiable, hgiven, hinfo, hshort⟩

end Transfer

/-! ## Walks over pairs -/

theorem runPairs_cons : runPairs env pid indata true (p :: ps) s = some (.ok, s') ↔
    ∃ t, PairAccepted env pid indata true p s t ∧ runPairs env pid indata true ps t = some (.ok, s') := by
  constructor
  · intro h
    have hend : Ends (setPair env pid indata true p >>= fun ret => if ret ≠ .ok then pure ret else
        runPairs env pid indata true ps) s fun ret v => ret = .ok →
          ∃ t, PairAccepted env pid indata true p s t ∧ runPairs env pid indata true ps t = some (.ok, v) := by
      refine ends_call setPair_inv fun ret t hret => ends_ite_of (fun hno => ends_pure.2 fun h => absurd h hno)
        fun _ => ?_
      rcases hret with ⟨hno, -⟩ | ⟨-, haccepted⟩
      · exact fun _ _ _ h => by contradiction
      · rintro _ v hv rfl
        exact ⟨t, haccepted, hv⟩
    exact hend _ _ h rfl
  · rintro ⟨t, haccepted, hrest⟩
    unfold runPairs
    exact (bind_of_some (setPair_accepted haccepted)).trans hrest

/-- What an accepted walk leaves of other objects, and of what pairs do not change. -/
theorem runPairs_apart {K : Int → Int → Prop} (h : runPairs env pid indata true ps s = some (.ok, s'))
    (hK : ∀ p ∈ ps, K (bindInt64 pid) (bindInt64 p.1)) : Apart K s s' ∧ SameHolders s s' := by
  induction ps generalizing s with
  | nil =>
    cases h
    exact ⟨(Apart.equivalence K).refl _, .refl _⟩
  | cons p ps ih =>
    obtain ⟨hp, hps⟩ := List.forall_mem_cons.1 hK
    obtain ⟨t, haccepted, hrest⟩ := runPairs_cons.1 h
    obtain ⟨-, -, hstored⟩ := haccepted.stored
    obtain ⟨happart, hsame⟩ := ih hrest hps
    exact ⟨(hstored.apart hp).trans happart, hstored.holders.trans hsame⟩

/-- Every pair of an accepted walk was accepted, while the same objects were there. -/
theorem runPairs_accepted (h : runPairs env pid indata true ps s = some (.ok, s')) :
    ∀ p ∈ ps, ∃ u u', u.db.obj = s.db.obj ∧ PairAccepted env pid indata true p u u' := by
  induction ps generalizing s with
  | nil => exact fun _ h => absurd h List.not_mem_nil
  | cons p ps ih =>
    obtain ⟨t, haccepted, hrest⟩ := runPairs_cons.1 h
    have hobj : t.db.obj = s.db.obj := haccepted.stored.2.2.holders.obj
    refine List.forall_mem_cons.2 ⟨⟨s, t, rfl, haccepted⟩, fun q hq => ?_⟩
    obtain ⟨u, u', hu, haccepted⟩ := ih hrest q hq
    exact ⟨u, u', hu.trans hobj, haccepted⟩

/-- The pointers of an accepted list name what was there before, or one of the new objects. -/
theorem runPairs_pointer (h : runPairs env pid indata true ps s = some (.ok, s')) (hp : p ∈ ps)
    (hpage : p.2.page = USER_COLL_PG) :
    p.2.len = 8 ∧ s.db.Has (bindInt64 pid) (bindInt64 (getNtohll (p.val indata) 0)) := by
  obtain ⟨u, u', hu, haccepted⟩ := runPairs_accepted h p hp
  obtain ⟨-, -, hstored⟩ := haccepted.stored
  obtain ⟨-, -, hlen, hhas⟩ := hstored.points hpage
  refine ⟨hlen, ?_⟩
  unfold Db.Has at hhas ⊢
  rwa [hu] at hhas

/-- **What a walk does to one object** it does where the other objects are different, and where none of them
is set. -/
theorem runPairs_project (hb : env.Blind) (h : runPairs env pid indata true ps s = some (.ok, s'))
    (hst : Apart (Others pid oid) s t) (hact : t.ccap.cdbSrvcAct = s.ccap.cdbSrvcAct)
    (hpoint : ∀ p ∈ ps, p.1 = oid → p.2.page = USER_COLL_PG →
      s.db.Has (bindInt64 pid) (bindInt64 (getNtohll (p.val indata) 0)) →
      t.db.Has (bindInt64 pid) (bindInt64 (getNtohll (p.val indata) 0))) :
    ∃ t', runPairs env pid indata true (ps.filter fun p => p.1 = oid) t = some (.ok, t') ∧
      Apart (Others pid oid) s' t' := by
  induction ps generalizing s t with
  | nil =>
    cases h
    exact ⟨t, rfl, hst⟩
  | cons p ps ih =>
    obtain ⟨v, haccepted, hrest⟩ := runPairs_cons.1 h
    obtain ⟨hp, hps⟩ := List.forall_mem_cons.1 hpoint
    obtain ⟨-, -, hstored⟩ := haccepted.stored
    have hsame := hstored.holders
    by_cases hoid : p.1 = oid
    · have hk : ¬ Others pid oid (bindInt64 pid) (bindInt64 p.1) := fun h => h ⟨rfl, by rw [hoid]⟩
      obtain ⟨v', haccepted', hvv'⟩ := haccepted.transfer hb hst hk hact (hp hoid)
      have hsame' := haccepted'.stored.2.2.holders
      have hpoint' : ∀ q ∈ ps, q.1 = oid → q.2.page = USER_COLL_PG →
          v.db.Has (bindInt64 pid) (bindInt64 (getNtohll (q.val indata) 0)) →
          v'.db.Has (bindInt64 pid) (bindInt64 (getNtohll (q.val indata) 0)) := by
        unfold Db.Has
        rw [hsame.obj, hsame'.obj]
        exact hps
      obtain ⟨t', hrun, happart⟩ := ih hrest hvv' (by rw [hsame'.ccap, hact, hsame.ccap]) hpoint'
      refine ⟨t', ?_, happart⟩
      rw [List.filter_cons_of_pos (by simpa using hoid)]
      exact runPairs_cons.2 ⟨v', haccepted', hrun⟩
    · have hk : Others pid oid (bindInt64 pid) (bindInt64 p.1) := fun h => hoid (bindInt64_inj.1 h.2)
      have hvt : Apart (Others pid oid) v t :=
        (hstored.apart hk).symm.trans hst
      have hpoint' : ∀ q ∈ ps, q.1 = oid → q.2.page = USER_COLL_PG →
          v.db.Has (bindInt64 pid) (bindInt64 (getNtohll (q.val indata) 0)) →
          t.db.Has (bindInt64 pid) (bindInt64 (getNtohll (q.val indata) 0)) := by
        unfold Db.Has
        rw [hsame.obj]
        exact hps
      obtain ⟨t', hrun, happart⟩ := ih hrest hvt (by rw [hact, hsame.ccap]) hpoint'
      refine ⟨t', ?_, happart⟩
      rw [List.filter_cons_of_neg (by simpa using hoid)]
      exact hrun

/-! ## The pairs of a command -/

theorem add_ofNat_inj {j k : Nat} (hj : oid.toNat + j < 2 ^ 64) (hk : oid.toNat + k < 2 ^ 64)
    (h : oid + UInt64.ofNat j = oid + UInt64.ofNat k) : j = k := by
  have hnat := congrArg UInt64.toNat h
  rw [add_ofNat_toNat hj, add_ofNat_toNat hk] at hnat
  omega

theorem mem_setPairs {n : Nat} {le : List ListEntry} :
    p ∈ setPairs oid n le ↔ p.2 ∈ le ∧ ∃ k < n, p.1 = oid + UInt64.ofNat k := by
  unfold setPairs pairsOf
  simp only [List.mem_flatMap, List.mem_map, List.mem_range]
  constructor
  · rintro ⟨e, he, k, hk, rfl⟩
    exact ⟨he, k, hk, rfl⟩
  · rintro ⟨he, k, hk, hoid⟩
    exact ⟨p.2, he, k, hk, by rw [← hoid]⟩

/-- The pairs of one of the objects are its entries. -/
theorem filter_setPairs {n k : Nat} (hk : k < n) (hfits : oid.toNat + n < 2 ^ 64) (le : List ListEntry) :
    (setPairs oid n le).filter (fun p => p.1 = oid + UInt64.ofNat k)
      = setPairs (oid + UInt64.ofNat k) 1 le := by
  induction le with
  | nil => rfl
  | cons e le ih =>
    have hone : (pairsOf oid n e).filter (fun p => p.1 = oid + UInt64.ofNat k) = [(oid + UInt64.ofNat k, e)] := by
      unfold pairsOf
      rw [List.filter_map, List.filter_congr (q := fun j => decide (j = k))]
      · rw [List.filter_eq, List.count_eq_one_of_mem List.nodup_range (List.mem_range.2 hk)]
        rfl
      · intro j hj
        refine decide_eq_decide.2 ⟨fun h => ?_, fun h => h ▸ rfl⟩
        have hj := List.mem_range.1 hj
        exact add_ofNat_inj (by omega) (by omega) h
    unfold setPairs at ih ⊢
    rw [List.flatMap_cons, List.flatMap_cons, List.filter_append, ih, hone]
    have hself : pairsOf (oid + UInt64.ofNat k) 1 e = [(oid + UInt64.ofNat k, e)] := by
      rw [pairsOf_succ]
      rfl
    rw [hself]

end OsdTarget
