import OsdTarget.DataContinuations
import OsdTarget.Membership

/-!
# CREATE USER TRACKING COLLECTION

What the copy of a collection's members leaves in the membership table, when the operation copies the
members of its source and changes nothing else, and what the command makes of the fields of its CDB.
-/

namespace OsdTarget

open Base

variable {env : Env} {s s' : Target} {pid requested source : UInt64} {cdbContLen : UInt32}

/-! ## The copy -/

/-- The object is a member, with the columns as the table holds them. -/
def Db.InCollection (d : Db) (p c o : Int) : Prop := ∃ r ∈ d.coll, r.key = (p, c, o)

/-- A run of inserts whose rows have different keys, and no replaced row the key of another one: it is
aborted exactly if some row clashes with the table it starts from. -/
theorem foldlM_insertColl {l : List CollRow} (hkeys : (l.map CollRow.key).Nodup)
    (hapart : ∀ x : CollRow, ∀ r ∈ l, ∀ y ∈ l, x.pointer = r.pointer → x.key = y.key → y = r)
    (t : List CollRow) :
    l.foldlM (fun t r => insertColl r t) t =
      if ∃ r ∈ l, Clashes CollRow.key r t then none
      else some (l.foldl (fun t r => insertReplace CollRow.pointer r t) t) := by
  induction l generalizing t with
  | nil => simp
  | cons r l ih =>
    rw [List.map_cons, List.nodup_cons] at hkeys
    have hne : ∀ y ∈ l, y.key ≠ r.key := fun y hy he => hkeys.1 (List.mem_map.2 ⟨y, hy, he⟩)
    rw [List.foldlM_cons]
    by_cases hr : Clashes CollRow.key r t
    · rw [insertColl, if_pos hr, if_pos ⟨r, List.mem_cons_self, hr⟩]
      rfl
    · -- the rows still to come clash as much after this one
      have hsame : ∀ y ∈ l, Clashes CollRow.key y (insertReplace CollRow.pointer r t) ↔
          Clashes CollRow.key y t := by
        intro y hy
        constructor
        · rintro ⟨x, hx, he⟩
          rcases mem_insertReplace.1 hx with ⟨hx, -⟩ | rfl
          · exact ⟨x, hx, he⟩
          · exact absurd he.symm (hne y hy)
        · rintro ⟨x, hx, he⟩
          refine ⟨x, mem_insertReplace.2 (.inl ⟨hx, fun hp => ?_⟩), he⟩
          have hyr := hapart x r List.mem_cons_self y (List.mem_cons_of_mem _ hy) hp he
          exact hne y hy (by rw [hyr])
      have hrest := ih hkeys.2 (fun x a ha b hb => hapart x a (List.mem_cons_of_mem _ ha) b
        (List.mem_cons_of_mem _ hb)) (insertReplace CollRow.pointer r t)
      have hclash : (∃ y ∈ l, Clashes CollRow.key y (insertReplace CollRow.pointer r t)) ↔
          ∃ y ∈ r :: l, Clashes CollRow.key y t := by
        rw [List.exists_mem_cons_iff, or_iff_right hr]
        exact exists_congr fun y => and_congr_right fun hy => hsame y hy
      rw [insertColl, if_neg hr]
      simp only [hclash] at hrest
      exact hrest

/-- The table after the copy, if it is not aborted. -/
def Db.withCopies (d : Db) (p c src : Int) : Db :=
  { d with coll := (copiedRows d p c src).foldl (fun t r => insertReplace CollRow.pointer r t) d.coll }

/-- The statement is carried out: none of the members is in the new collection yet. -/
structure Env.Copies (env : Env) (d : Db) (p c src : Int) : Prop where
  accepted : env.dmsFails (.collCopyoids p c src) d = false
  new : ∀ o, d.InCollection p src o → ¬ d.InCollection p c o

theorem mem_copiedRows {d : Db} {p c src : Int} {r : CollRow} :
    r ∈ copiedRows d p c src ↔ d.InCollection p src r.oid ∧ r = ⟨p, c, r.oid, 0⟩ := by
  simp only [copiedRows, List.mem_map, List.mem_filter, decide_eq_true_eq]
  constructor
  · rintro ⟨m, ⟨hm, hp, hc⟩, rfl⟩
    exact ⟨⟨m, hm, by simp only [CollRow.key, hp, hc]⟩, rfl⟩
  · rintro ⟨⟨m, hm, hk⟩, hr⟩
    simp only [CollRow.key, Prod.mk.injEq] at hk
    exact ⟨m, ⟨hm, hk.1, hk.2.1⟩, by rw [hk.2.2]; exact hr.symm⟩

theorem run_collCopyoids {d : Db} (hkeys : (d.coll.map CollRow.key).Nodup) (p c src : Int) :
    (Dms.collCopyoids p c src).run d =
      if ∃ r ∈ copiedRows d p c src, Clashes CollRow.key r d.coll then none
      else some (d.withCopies p c src) := by
  have hdistinct : ((copiedRows d p c src).map CollRow.key).Nodup := by
    rw [copiedRows, List.map_map]
    refine nodup_column hkeys fun r r' hr hr' he => ?_
    simp only [decide_eq_true_eq] at hr hr'
    simp only [Function.comp_apply, CollRow.key, Prod.mk.injEq, true_and] at he
    simp only [CollRow.key, hr.1, hr.2, hr'.1, hr'.2, he]
  have hapart : ∀ x : CollRow, ∀ r ∈ copiedRows d p c src, ∀ y ∈ copiedRows d p c src,
      x.pointer = r.pointer → x.key = y.key → y = r := by
    intro x r hr y hy hp hk
    rw [(mem_copiedRows.1 hr).2] at hp ⊢
    rw [(mem_copiedRows.1 hy).2] at hk ⊢
    simp only [CollRow.pointer, CollRow.key, Prod.mk.injEq] at hp hk
    rw [← hk.2.2, hp.2.1]
  simp only [Dms.run, foldlM_insertColl hdistinct hapart]
  split <;> rfl

/-- Some row the copy inserts has the key of a row that is there. -/
theorem clashes_copiedRows {d : Db} {p c src : Int} :
    (∃ r ∈ copiedRows d p c src, Clashes CollRow.key r d.coll) ↔
      ∃ o, d.InCollection p src o ∧ d.InCollection p c o := by
  constructor
  · rintro ⟨r, hr, x, hx, hk⟩
    obtain ⟨hsrc, hr⟩ := mem_copiedRows.1 hr
    refine ⟨r.oid, hsrc, x, hx, ?_⟩
    rw [hk, hr]
    rfl
  · rintro ⟨o, hsrc, x, hx, hk⟩
    exact ⟨⟨p, c, o, 0⟩, mem_copiedRows.2 ⟨hsrc, rfl⟩, x, hx, hk⟩

theorem collCopyoids_copies {cid : UInt64} {Q : Ret → Target → Prop}
    (hkeys : (s.db.coll.map CollRow.key).Nodup)
    (hok : env.Copies s.db (bindInt64 pid) (bindInt64 cid) (bindInt64 source) →
      Q .ok { s with db := s.db.withCopies (bindInt64 pid) (bindInt64 cid) (bindInt64 source) })
    (herr : ¬ env.Copies s.db (bindInt64 pid) (bindInt64 cid) (bindInt64 source) → Q (.err .osdError) s) :
    Ends (collCopyoids env pid cid source) s Q := by
  refine dbExecDms_ends (fun d hf hd => ?_) fun h => herr fun hc => ?_
  · rw [run_collCopyoids hkeys, Option.ite_none_left_eq_some, clashes_copiedRows] at hd
    obtain ⟨hnew, hd⟩ := hd
    cases hd
    exact hok ⟨hf, fun o hsrc ho => hnew ⟨o, hsrc, ho⟩⟩
  · rcases h with h | h
    · exact absurd (h.symm.trans hc.accepted) nofun
    · rw [run_collCopyoids hkeys] at h
      split at h
      · rename_i hclash
        obtain ⟨o, hsrc, ho⟩ := clashes_copiedRows.1 hclash
        exact hc.new o hsrc ho
      · cases h

/-! ## Members after the copy -/

variable {d : Db} {p c src : Int}

/-- A copy replaces the memberships of its objects that have pointer number 0. -/
theorem mem_withCopies {r : CollRow} : r ∈ (d.withCopies p c src).coll ↔
    (r ∈ d.coll ∧ ¬ (r.pid = p ∧ r.number = 0 ∧ d.InCollection p src r.oid)) ∨
      d.InCollection p src r.oid ∧ r = ⟨p, c, r.oid, 0⟩ := by
  have hinj : ∀ y ∈ copiedRows d p c src, ∀ z ∈ copiedRows d p c src, y.pointer = z.pointer → y = z := by
    intro y hy z hz he
    rw [(mem_copiedRows.1 hy).2, (mem_copiedRows.1 hz).2] at he ⊢
    simp only [CollRow.pointer, Prod.mk.injEq] at he
    rw [he.2.1]
  have hreplaced : (∀ y ∈ copiedRows d p c src, y.pointer ≠ r.pointer) ↔
      ¬ (r.pid = p ∧ r.number = 0 ∧ d.InCollection p src r.oid) := by
    constructor
    · rintro h ⟨hp, hn, hsrc⟩
      refine h ⟨p, c, r.oid, 0⟩ (mem_copiedRows.2 ⟨hsrc, rfl⟩) ?_
      simp only [CollRow.pointer, hp, hn]
    · intro h y hy he
      obtain ⟨hsrc, hrow⟩ := mem_copiedRows.1 hy
      rw [hrow] at he
      simp only [CollRow.pointer, Prod.mk.injEq] at he
      exact h ⟨he.1.symm, he.2.2.symm, he.2.1 ▸ hsrc⟩
  show r ∈ (copiedRows d p c src).foldl (fun t r => insertReplace CollRow.pointer r t) d.coll ↔ _
  rw [mem_foldl_insertReplace_of_inj hinj, hreplaced, mem_copiedRows]

theorem inCollection_withCopies {p' c' o : Int} : (d.withCopies p c src).InCollection p' c' o ↔
    (∃ r ∈ d.coll, r.key = (p', c', o) ∧ ¬ (p' = p ∧ r.number = 0 ∧ d.InCollection p src o)) ∨
      (p' = p ∧ c' = c) ∧ d.InCollection p src o := by
  constructor
  · rintro ⟨r, hr, hk⟩
    obtain ⟨hp, hc, ho⟩ : r.pid = p' ∧ r.cid = c' ∧ r.oid = o := by simpa [CollRow.key] using hk
    rcases mem_withCopies.1 hr with ⟨hr, hstays⟩ | ⟨hsrc, hrow⟩
    · rw [hp, ho] at hstays
      exact .inl ⟨r, hr, hk, hstays⟩
    · rw [hrow] at hp hc
      exact .inr ⟨⟨hp.symm, hc.symm⟩, ho ▸ hsrc⟩
  · rintro (⟨r, hr, hk, hstays⟩ | ⟨⟨rfl, rfl⟩, hsrc⟩)
    · obtain ⟨hp, -, ho⟩ : r.pid = p' ∧ r.cid = c' ∧ r.oid = o := by simpa [CollRow.key] using hk
      rw [← hp, ← ho] at hstays
      exact ⟨r, mem_withCopies.2 (.inl ⟨hr, hstays⟩), hk⟩
    · exact ⟨⟨p', c', o, 0⟩, mem_withCopies.2 (.inr ⟨hsrc, rfl⟩), rfl⟩

/-- `d'` has the members of `src` in collection `c`, and what it has in others is what `d` has. -/
structure CopiedOnly (d d' : Db) (p c src : Int) : Prop where
  copied : ∀ o, d'.InCollection p c o ↔ d.InCollection p src o
  others : ∀ p' c', ¬ (p' = p ∧ c' = c) → ∀ o, d'.InCollection p' c' o ↔ d.InCollection p' c' o

/-- Only the membership table counts. -/
theorem CopiedOnly.congr {d' d'' : Db} (h : d'.coll = d''.coll) :
    CopiedOnly d d' p c src ↔ CopiedOnly d d'' p c src := by
  have hin : ∀ p c o, d'.InCollection p c o ↔ d''.InCollection p c o := fun p c o => by
    rw [Db.InCollection, Db.InCollection, h]
  exact ⟨fun hc => ⟨fun o => (hin _ _ o).symm.trans (hc.copied o), fun p' c' hne o =>
      (hin _ _ o).symm.trans (hc.others p' c' hne o)⟩,
    fun hc => ⟨fun o => (hin _ _ o).trans (hc.copied o), fun p' c' hne o =>
      (hin _ _ o).trans (hc.others p' c' hne o)⟩⟩

/-- No membership is left of an earlier collection with the new id. -/
def Db.NoMembers (d : Db) (p c : Int) : Prop := ∀ o, ¬ d.InCollection p c o

theorem Db.noMembers_of (h : ∀ r ∈ d.coll, r.cid ≠ c) : d.NoMembers p c := by
  rintro o ⟨r, hr, hk⟩
  simp only [CollRow.key, Prod.mk.injEq] at hk
  exact h r hr hk.2.1

/-- No member of the source is in a collection by pointer number 0, as those of tracking collections
are. -/
def Db.Untracked (d : Db) (p src : Int) : Prop :=
  ∀ r ∈ d.coll, r.pid = p → r.number = 0 → ¬ d.InCollection p src r.oid

/-- The copy makes the members of the source those of the new collection. -/
theorem copied_withCopies_iff (hnew : ∀ o, d.InCollection p src o → ¬ d.InCollection p c o) :
    (∀ o, (d.withCopies p c src).InCollection p c o ↔ d.InCollection p src o) ↔ d.NoMembers p c := by
  constructor
  · intro h o ho
    have hnot : ¬ d.InCollection p src o := fun hsrc => hnew o hsrc ho
    obtain ⟨r, hr, hk⟩ := ho
    exact hnot ((h o).1 (inCollection_withCopies.2 (.inl ⟨r, hr, hk, fun hx => hnot hx.2.2⟩)))
  · intro hnone o
    rw [inCollection_withCopies]
    constructor
    · rintro (⟨r, hr, hk, -⟩ | ⟨-, hsrc⟩)
      · exact absurd ⟨r, hr, hk⟩ (hnone o)
      · exact hsrc
    · exact fun hsrc => .inr ⟨⟨rfl, rfl⟩, hsrc⟩

/-- **When the copy touches nothing else.** -/
theorem copiedOnly_withCopies_iff (hkeys : (d.coll.map CollRow.key).Nodup)
    (hnew : ∀ o, d.InCollection p src o → ¬ d.InCollection p c o) :
    CopiedOnly d (d.withCopies p c src) p c src ↔ d.NoMembers p c ∧ d.Untracked p src := by
  constructor
  · intro h
    refine ⟨(copied_withCopies_iff hnew).1 h.copied, fun r hr hp hn hsrc => ?_⟩
    have hin : d.InCollection p r.cid r.oid := ⟨r, hr, by simp only [CollRow.key, hp]⟩
    by_cases hc : r.cid = c
    · exact hnew r.oid hsrc (hc ▸ hin)
    · have hstill := (h.others p r.cid (fun hx => hc hx.2) r.oid).2 hin
      rcases inCollection_withCopies.1 hstill with ⟨r', hr', hk, hstays⟩ | ⟨hx, -⟩
      · have hk' : r'.key = r.key := by rw [hk]; simp only [CollRow.key, hp]
        rw [List.inj_on_of_nodup_map hkeys hr' hr hk'] at hstays
        exact hstays ⟨rfl, hn, hsrc⟩
      · exact hc hx.2
  · rintro ⟨hnone, htracked⟩
    refine ⟨(copied_withCopies_iff hnew).2 hnone, fun p' c' hother o => ?_⟩
    rw [inCollection_withCopies, or_iff_left fun hx => hother hx.1]
    constructor
    · rintro ⟨r, hr, hk, -⟩
      exact ⟨r, hr, hk⟩
    · rintro ⟨r, hr, hk⟩
      obtain ⟨hp, -, ho⟩ : r.pid = p' ∧ r.cid = c' ∧ r.oid = o := by simpa [CollRow.key] using hk
      refine ⟨r, hr, hk, fun ⟨he, hn, hsrc⟩ => ?_⟩
      exact htracked r hr (hp.trans he) hn (ho ▸ hsrc)

/-! ## The operation -/

/-- The tables once the collection has been filled; without a source nothing is copied. -/
def Db.filled (d : Db) (pid cid source : UInt64) : Db :=
  if source ≠ 0 then d.withCopies (bindInt64 pid) (bindInt64 cid) (bindInt64 source) else d

def Env.Fills (env : Env) (d : Db) (pid cid source : UInt64) : Prop :=
  source ≠ 0 → env.Copies d (bindInt64 pid) (bindInt64 cid) (bindInt64 source)

/-- The tests of the command pass, and there is an id to take. -/
structure Env.AdmitsTracking (env : Env) (s : Target) (pid requested source : UInt64)
    (cdbContLen : UInt32) :
    Prop extends env.AdmitsCollection s pid requested where
  sourceAsked : env.queryFails (.objIspresent (bindInt64 pid) (bindInt64 source)) s.db = false
  sourcePresent : s.db.Has (bindInt64 pid) (bindInt64 source)
  contLen : source = 0 ↔ cdbContLen = 0

theorem fillTrackingCollection_ends {cid : UInt64} {Q : Ret → Target → Prop}
    (hkeys : (s.db.coll.map CollRow.key).Nodup)
    (hno : ∀ ret ic, ret ≠ .ok → ¬ env.Fills s.db pid cid source → Q ret { s with ic })
    (hrefused : ∀ ret, ret ≠ .ok → env.Fills s.db pid cid source →
      ¬ env.Inserts (s.db.filled pid cid source) (collectionRow pid cid) →
      Q ret { s with db := s.db.filled pid cid source })
    (hok : env.Fills s.db pid cid source →
      env.Inserts (s.db.filled pid cid source) (collectionRow pid cid) →
      ∀ t : Target, t.db = { s.db.filled pid cid source with obj := s.db.obj ++ [collectionRow pid cid] } →
        t.ccap.oid = cid → t.ccap.pid = pid → Q .ok t) :
    Ends (fillTrackingCollection env pid cid requested source) s Q := by
  have hinsert : env.Fills s.db pid cid source → Ends (insertCollection env pid cid requested)
      { s with db := s.db.filled pid cid source } Q := by
    intro hf
    refine insertCollection_ends (fun hins => hok hf hins _ ?_ rfl rfl) fun ret hret hins =>
      hrefused ret hret hf hins
    unfold Db.filled
    split <;> rfl
  refine ends_ite_of (fun hsrc => ?_) fun hsrc => ?_
  · have hfilled : s.db.filled pid cid source =
        s.db.withCopies (bindInt64 pid) (bindInt64 cid) (bindInt64 source) := if_pos hsrc
    refine ends_bind.2 (collCopyoids_copies hkeys (fun hc => ?_) fun hc => ?_)
    · refine ends_ite_of (fun h => absurd rfl h) fun _ => ?_
      rw [← hfilled]
      exact hinsert fun _ => hc
    · refine ends_ite_of (fun _ => ends_bind.2 (ends_modify.2 (ends_pure.2 ?_))) fun h => absurd (by simp) h
      exact hno _ _ nofun fun hf => hc (hf hsrc)
  · have hfilled : s.db.filled pid cid source = s.db := if_neg hsrc
    have h := hinsert fun h => absurd h hsrc
    rw [hfilled] at h
    exact h

theorem osdCreateUserTrackingCollection_ends {Q : Ret → Target → Prop}
    (hrej : ∀ ret ic, ret ≠ .ok → ¬ env.AdmitsTracking s pid requested source cdbContLen →
      Q ret { s with ic })
    (hfill : ∀ ic, env.AdmitsTracking s pid requested source cdbContLen →
      Ends (fillTrackingCollection env pid (s.collectionId pid requested) requested source)
        { s with ic } Q) :
    Ends (osdCreateUserTrackingCollection env pid requested source cdbContLen) s Q := by
  have hcdb : ¬ env.AdmitsTracking s pid requested source cdbContLen →
      Ends (pure (cdbErr requested 0) : OsdM Ret) s Q := fun h => ends_pure.2 (hrej _ s.ic nofun h)
  refine ends_ite_of (fun h => hcdb fun ha => ?_) fun hpid =>
    ends_ite_of (fun h => hcdb fun ha => absurd h.2 (UInt64.not_lt.2 (ha.requested_lb h.1))) fun hlow => ?_
  · rcases h with rfl | h
    · exact absurd ha.pid_lb (by decide)
    · exact absurd h (UInt64.not_lt.2 ha.pid_lb)
  refine ends_bind.2 (dbExecQuery_ends (fun hq => ?_) fun hq => ends_ite_of
    (fun _ => hcdb fun ha => absurd (hq.symm.trans ha.asked) nofun) fun h => absurd (.inl (by simp)) h)
  refine ends_ite_of (fun h => hcdb fun ha => h.elim (absurd rfl)
    (absurd (decide_eq_true ha.partition))) fun hp => ?_
  have hpart : s.db.Has (bindInt64 pid) 0 := has_of_present hp
  refine ends_bind.2 (dbExecQuery_ends (fun hq' => ?_) fun hq' => ends_ite_of
    (fun _ => hcdb fun ha => absurd (hq'.symm.trans ha.sourceAsked) nofun) fun h =>
      absurd (.inl (by simp)) h)
  refine ends_ite_of (fun h => hcdb fun ha => h.elim (absurd rfl)
    (absurd (decide_eq_true ha.sourcePresent)))
    fun hp' => ?_
  have hsrc : s.db.Has (bindInt64 pid) (bindInt64 source) := has_of_present hp'
  refine ends_ite_of (fun h => hcdb fun ha => ?_) fun hlen => ?_
  · rcases h with ⟨h0, hl⟩ | ⟨h0, hl⟩
    · exact h0 (ha.contLen.2 hl)
    · exact hl (ha.contLen.1 h0)
  have hcont : source = 0 ↔ cdbContLen = 0 :=
    ⟨fun h => Decidable.not_not.1 fun hl => hlen (.inr ⟨h, hl⟩),
      fun hl => Decidable.not_not.1 fun h => hlen (.inl ⟨h, hl⟩)⟩
  -- every source counts as a tracking collection
  refine ends_ite_of (fun h => absurd h.2.2.1 (by simp [isTrackingColl])) fun _ => ?_
  have hlb : COLLECTION_PID_LB ≤ pid := UInt64.not_lt.1 fun h => hpid (.inr h)
  have hge : requested ≠ 0 → COLLECTION_OID_LB ≤ requested :=
    fun h0 => UInt64.not_lt.1 fun h => hlow ⟨h0, h⟩
  have hadmits : (requested = 0 → env.Chooses s pid) →
      (requested ≠ 0 → env.FindsFree s.db (bindInt64 pid) (bindInt64 requested)) →
      env.AdmitsTracking s pid requested source cdbContLen :=
    fun hc hf => ⟨⟨hlb, hge, hq, hpart, hc, hf⟩, hq', hsrc, hcont⟩
  have hcid : ∀ {ic : IdCache} (cid : UInt64), s.collectionId pid requested = cid →
      env.AdmitsTracking s pid requested source cdbContLen →
      Ends (fillTrackingCollection env pid cid requested source) { s with ic } Q :=
    fun _ hid ha => hid ▸ hfill _ ha
  refine ends_ite_of (fun h0 => ends_bind.2 (chooseId_ends (fun hc => ?_) fun hc => ?_)) fun h0 => ?_
  · exact hcid _ (if_pos h0) (hadmits (fun _ => hc) fun h => absurd h0 h)
  · exact ends_bind.2 (ends_modify.2 (ends_pure.2 (hrej _ _ nofun fun ha => hc (ha.chooses h0))))
  · refine ends_bind.2 (takeRequestedId_ends (fun hf => hcdb fun ha => hf (ha.free h0)) fun hf => ?_)
    exact hcid _ (if_neg h0) (hadmits (fun h => absurd h h0) fun _ => hf)

theorem halts_osdCreateUserTrackingCollection :
    Halts (osdCreateUserTrackingCollection env pid requested source cdbContLen) := by
  have hfill : ∀ cid, Halts (fillTrackingCollection env pid cid requested source) := fun cid =>
    halts_ite (halts_bind (halts_dbExecDms _) fun _ =>
      halts_ite (halts_bind halts_invalidateCache fun _ => halts_pure _) (halts_insertCollection _ _ _))
      (halts_insertCollection _ _ _)
  refine halts_ite (halts_pure _) (halts_ite (halts_pure _) (halts_bind (halts_dbExecQuery _ _ _) fun _ =>
    halts_ite (halts_pure _) (halts_bind (halts_dbExecQuery _ _ _) fun _ => halts_ite (halts_pure _)
      (halts_ite (halts_pure _) (halts_ite (halts_pure _)
        (halts_ite (halts_bind (halts_chooseId _ _) fun r => ?_)
        (halts_bind (halts_takeRequestedId _ _) fun _ => halts_ite (halts_pure _) (hfill _))))))))
  cases r with
  | none => exact halts_bind halts_invalidateCache fun _ => halts_pure _
  | some cid => exact hfill cid

/-! ## Copying and nothing else -/

/-- The operation returns.  If it succeeds, its collection has the members of the source and the members
of all others are as they were; otherwise the membership table is as it was. -/
def Env.CopiesOnly (env : Env) (s : Target) (pid requested source : UInt64) (cdbContLen : UInt32) : Prop :=
  ∃ ret s', osdCreateUserTrackingCollection env pid requested source cdbContLen s = some (ret, s') ∧
    (ret = .ok → CopiedOnly s.db s'.db (bindInt64 pid) (bindInt64 s'.ccap.oid) (bindInt64 source)) ∧
    (ret ≠ .ok → s'.db.coll = s.db.coll)

/-- If the copy is carried out, then either the object row is inserted and the copy touches nothing
else, or the source has no members. -/
def Env.CopySafe (env : Env) (s : Target) (pid requested source : UInt64) (cdbContLen : UInt32) : Prop :=
  let p := bindInt64 pid
  let cid := s.collectionId pid requested
  env.AdmitsTracking s pid requested source cdbContLen →
    env.Copies s.db p (bindInt64 cid) (bindInt64 source) →
    let inserts := env.Inserts (s.db.withCopies p (bindInt64 cid) (bindInt64 source))
        (collectionRow pid cid)
    (inserts → s.db.NoMembers p (bindInt64 cid) ∧ s.db.Untracked p (bindInt64 source)) ∧
      (¬ inserts → s.db.NoMembers p (bindInt64 source))

/-- A copy leaves the table as it was only if there is nothing to copy. -/
theorem withCopies_coll_eq_iff (hnew : ∀ o, d.InCollection p src o → ¬ d.InCollection p c o) :
    (d.withCopies p c src).coll = d.coll ↔ d.NoMembers p src := by
  constructor
  · intro h o ho
    have hin : (d.withCopies p c src).InCollection p c o :=
        inCollection_withCopies.2 (.inr ⟨⟨rfl, rfl⟩, ho⟩)
    rw [Db.InCollection, h] at hin
    exact hnew o ho hin
  · intro h
    have hnil : copiedRows d p c src = [] :=
      List.eq_nil_iff_forall_not_mem.2 fun r hr => h r.oid (mem_copiedRows.1 hr).1
    rw [Db.withCopies, hnil]
    rfl

/-- **`osd_create_user_tracking_collection` copies and does nothing else** in just these cases. -/
theorem trackingCollection_copiesOnly_iff (hkeys : (s.db.coll.map CollRow.key).Nodup)
    (hsource : source ≠ 0) :
    env.CopiesOnly s pid requested source cdbContLen ↔ env.CopySafe s pid requested source cdbContLen := by
  refine Ends.exists_iff ?_ halts_osdCreateUserTrackingCollection
  have hfilled : ∀ cid, s.db.filled pid cid source =
      s.db.withCopies (bindInt64 pid) (bindInt64 cid) (bindInt64 source) := fun cid => if_pos hsource
  refine osdCreateUserTrackingCollection_ends (fun ret ic hret ha => ?_) fun ic ha => ?_
  · exact iff_of_true ⟨fun h => absurd h hret, fun _ => rfl⟩ fun h => absurd h ha
  refine fillTrackingCollection_ends (s := { s with ic }) hkeys (fun ret ic hret hf => ?_)
    (fun ret hret hf hins => ?_)
    fun hf hins t hdb hcid _ => ?_
  · exact iff_of_true ⟨fun h => absurd h hret, fun _ => rfl⟩ fun _ hc => absurd (fun _ => hc) hf
  · have hcopies := hf hsource
    have hcoll : (s.db.filled pid (s.collectionId pid requested) source).coll = s.db.coll ↔
        s.db.NoMembers (bindInt64 pid) (bindInt64 source) := by
      rw [hfilled]
      exact withCopies_coll_eq_iff hcopies.new
    rw [hfilled] at hins
    constructor
    · exact fun h _ _ => ⟨fun hi => absurd hi hins, fun _ => hcoll.1 (h.2 hret)⟩
    · exact fun h => ⟨fun hok => absurd hok hret, fun _ => hcoll.2 ((h ha hcopies).2 hins)⟩
  · have hcopies := hf hsource
    rw [hfilled] at hins hdb
    have hiff := copiedOnly_withCopies_iff hkeys hcopies.new
    have hsame : CopiedOnly s.db t.db (bindInt64 pid) (bindInt64 t.ccap.oid) (bindInt64 source) ↔
        CopiedOnly s.db (s.db.withCopies (bindInt64 pid) (bindInt64 (s.collectionId pid requested))
          (bindInt64 source)) (bindInt64 pid) (bindInt64 (s.collectionId pid requested))
            (bindInt64 source) := by
      rw [hcid]
      exact CopiedOnly.congr (by rw [hdb])
    constructor
    · exact fun h _ _ => ⟨fun _ => hiff.1 (hsame.1 (h.1 rfl)), fun hno => absurd hins hno⟩
    · exact fun h => ⟨fun _ => hsame.2 (hiff.2 ((h ha hcopies).1 hins)), fun hno => absurd rfl hno⟩

/-- A collection 0x10000 with the member 0x10001. -/
def collectionWithMember : Target :=
  calmRun [.createPartition 0, .createCollection 0x10000 0, .create 0x10000 0 1, collectionPointer]

/-- The first tracking collection of a collection. -/
theorem trackingCollection_copiesOnly_first : Env.calm.CopiesOnly collectionWithMember 0x10000
    0 0x10000 1 := by
  refine (trackingCollection_copiesOnly_iff (by decide +kernel) (by decide)).2 fun _ _ =>
    ⟨fun _ => ⟨?_, ?_⟩, fun h => ?_⟩
  · exact Db.noMembers_of (by decide +kernel)
  · have hnumbers : ∀ r ∈ collectionWithMember.db.coll, r.number ≠ 0 := by decide +kernel
    exact fun r hr _ h0 => absurd h0 (hnumbers r hr)
  · exact absurd ⟨rfl, by decide +kernel⟩ h

/-- A second one takes the members away from the first. -/
theorem trackingCollection_steals :
    let s := calmRun [.createPartition 0, .createCollection 0x10000 0, .create 0x10000 0 1,
      collectionPointer,
      .createUserTrackingCollection 0x10000 0 0x10000 1]
    ¬ Env.calm.CopiesOnly s 0x10000 0 0x10000 1 := by
  intro s
  have hrun : (osdCreateUserTrackingCollection Env.calm 0x10000 0 0x10000 1 s).map
      (fun x => (x.1, x.2.ccap.oid, x.2.db.coll)) =
        some (.ok, 0x10003, [⟨65536, 65536, 65537, 1⟩, ⟨65536, 65539, 65537, 0⟩]) := by decide +kernel
  have hbefore : s.db.InCollection 65536 65538 65537 := ⟨⟨65536, 65538, 65537, 0⟩, by decide +kernel, rfl⟩
  rintro ⟨ret, s', hr, hok, -⟩
  rw [hr] at hrun
  obtain ⟨hret, hcid, hcoll⟩ : ret = .ok ∧ s'.ccap.oid = 0x10003 ∧ s'.db.coll = _ := by
    simpa using hrun
  have hcopied := hok hret
  rw [hcid] at hcopied
  obtain ⟨r, hmem, hk⟩ := (hcopied.others 65536 65538 (by decide) 65537).2 hbefore
  rw [hcoll] at hmem
  have hnot : ∀ r ∈ [(⟨65536, 65536, 65537, 1⟩ : CollRow), ⟨65536, 65539, 65537, 0⟩],
      r.key ≠ (65536, 65538, 65537) := by decide
  exact hnot r hmem hk

/-! ## Through the CDB -/

/-- The source id in the CDB. -/
def Command.sourceCid (cmd : Command) : UInt64 := getNtohll cmd.cdb 40

/-- What CREATE USER TRACKING COLLECTION is to do once it is accepted: its id is that of a new collection
with the members of the source, and the operation has got the source id and the length of the
continuation segment under these names. -/
structure Tracks (cmd : Command) (s s' : Target) : Prop where
  free : ¬ s.db.Has (bindInt64 cmd.pid) (bindInt64 cmd.oid)
  collection : s'.db.HasType (bindInt64 cmd.pid) (bindInt64 cmd.oid) .collection
  members : ∀ o, s'.db.InCollection (bindInt64 cmd.pid) (bindInt64 cmd.oid) o ↔
    s.db.InCollection (bindInt64 cmd.pid) (bindInt64 cmd.sourceCid) o
  arguments : trackingArguments cmd = (cmd.sourceCid, cmd.cdbContLen)

/-- The command is accepted with the arguments that its operation gets. -/
structure Command.Tracked (cmd : Command) (env : Env) (fuel : Nat) (s : Target) : Prop where
  segment : ∃ ds, cmd.continuation fuel = some (.ok, ds)
  admits : env.AdmitsTracking s cmd.pid cmd.oid (trackingArguments cmd).1 (trackingArguments cmd).2
  fills : env.Fills s.db cmd.pid cmd.oid (trackingArguments cmd).1
  inserts : env.Inserts (s.db.filled cmd.pid cmd.oid (trackingArguments cmd).1)
    (collectionRow cmd.pid cmd.oid)

variable {cmd : Command} {fuel : Nat}

theorem trackingArguments_eq_iff :
    trackingArguments cmd = (cmd.sourceCid, cmd.cdbContLen) ↔ cmd.sourceCid = cmd.cdbContLen.toUInt64 := by
  unfold trackingArguments
  rw [Prod.mk.injEq]
  constructor
  · exact fun h => h.1.symm
  · intro h
    refine ⟨h.symm, ?_⟩
    show cmd.sourceCid.toUInt32 = _
    rw [h]
    exact UInt32.toUInt32_toUInt64 _

theorem Db.filled_obj (d : Db) (pid cid source : UInt64) : (d.filled pid cid source).obj = d.obj := by
  unfold Db.filled
  split <;> rfl

/-- The device the accepted command leaves. -/
theorem tracks_iff (hsource : cmd.sourceCid ≠ 0)
    (hf : env.Fills s.db cmd.pid cmd.oid (trackingArguments cmd).1)
    (hins : env.Inserts (s.db.filled cmd.pid cmd.oid (trackingArguments cmd).1)
    (collectionRow cmd.pid cmd.oid))
    {t : Target} (hdb : t.db = { s.db.filled cmd.pid cmd.oid (trackingArguments cmd).1 with
      obj := s.db.obj ++ [collectionRow cmd.pid cmd.oid] }) :
    Tracks cmd s t ↔ cmd.sourceCid = cmd.cdbContLen.toUInt64 ∧
      s.db.NoMembers (bindInt64 cmd.pid) (bindInt64 cmd.oid) := by
  have hmembers : cmd.sourceCid = cmd.cdbContLen.toUInt64 →
      ((∀ o, t.db.InCollection (bindInt64 cmd.pid) (bindInt64 cmd.oid) o ↔
        s.db.InCollection (bindInt64 cmd.pid) (bindInt64 cmd.sourceCid) o) ↔
          s.db.NoMembers (bindInt64 cmd.pid) (bindInt64 cmd.oid)) := by
    intro harg
    have hfirst : (trackingArguments cmd).1 = cmd.sourceCid := harg.symm
    rw [hfirst] at hf hdb
    have hcoll : t.db.coll = (s.db.withCopies (bindInt64 cmd.pid) (bindInt64 cmd.oid)
        (bindInt64 cmd.sourceCid)).coll := by
      rw [hdb, Db.filled, if_pos hsource]
    unfold Db.InCollection at *
    rw [hcoll]
    exact copied_withCopies_iff (hf hsource).new
  constructor
  · intro h
    have harg := trackingArguments_eq_iff.1 h.arguments
    exact ⟨harg, (hmembers harg).1 h.members⟩
  · rintro ⟨harg, hnone⟩
    refine ⟨fun hhas => hins.2 ?_, ?_, (hmembers harg).2 hnone, trackingArguments_eq_iff.2 harg⟩
    · unfold Db.Has at hhas ⊢
      rwa [Db.filled_obj]
    · rw [hdb]
      exact List.mem_append_right _ (List.mem_singleton.2 rfl)

/-- A segment that is not accepted ends the command. -/
theorem execServiceAction_noContinuation (h : ¬ ∃ ds, cmd.continuation fuel = some (.ok, ds)) :
    Ends (execServiceAction env cmd fuel) s fun o _ => o.ret ≠ .ok := by
  unfold Command.continuation at h
  unfold execServiceAction
  split
  · next hlen => exact absurd ⟨[], if_pos hlen⟩ h
  · next hlen =>
    rw [if_neg hlen] at h
    split
    · exact ends_never.2 trivial
    · next ds hds => exact absurd ⟨ds, hds⟩ h
    · next ret ds hne hds =>
      refine ends_pure.2 fun hok => ?_
      have hok : ret = .ok := hok
      exact h ⟨ds, hok ▸ hds⟩

/-- **When CREATE USER TRACKING COLLECTION does what its CDB asks**: accepted, its source id and the
length of its continuation segment are the same number, and no membership is left of an earlier
collection with its id. -/
theorem trackingCommand_iff (hkeys : (s.db.coll.map CollRow.key).Nodup)
    (haction : cmd.serviceAction = .createUserTrackingCollection) (hrequested : cmd.oid ≠ 0)
    (hsource : cmd.sourceCid ≠ 0) :
    (Ends (execServiceAction env cmd fuel) s fun o t => o.ret = .ok → Tracks cmd s t) ↔
      (cmd.Tracked env fuel s → cmd.sourceCid = cmd.cdbContLen.toUInt64 ∧
        s.db.NoMembers (bindInt64 cmd.pid) (bindInt64 cmd.oid)) := by
  by_cases hseg : ∃ ds, cmd.continuation fuel = some (.ok, ds)
  · obtain ⟨ds, hds⟩ := hseg
    have hrun : execServiceAction env cmd fuel = plain (osdCreateUserTrackingCollection env cmd.pid cmd.oid
        (trackingArguments cmd).1 (trackingArguments cmd).2) := by
      rw [execServiceAction_continuation hds]
      unfold dispatch
      rw [haction]
    rw [hrun]
    refine Iff.trans ends_bind (Ends.iff_of_halts ?_ halts_osdCreateUserTrackingCollection)
    have hrejected : ∀ {ret : Ret} {t : Target}, ret ≠ .ok → ¬ cmd.Tracked env fuel s →
        (Ends (pure (Outcome.of ret 0 0) : OsdM Outcome) t (fun o t => o.ret = .ok → Tracks cmd s t) ↔
          (cmd.Tracked env fuel s → cmd.sourceCid = cmd.cdbContLen.toUInt64 ∧
            s.db.NoMembers (bindInt64 cmd.pid) (bindInt64 cmd.oid))) :=
      fun hret hno => iff_of_true (ends_pure.2 fun hok => absurd hok hret) fun h => absurd h hno
    have hcid : s.collectionId cmd.pid cmd.oid = cmd.oid := if_neg hrequested
    refine osdCreateUserTrackingCollection_ends
      (fun ret ic hret ha => hrejected hret fun h => ha h.admits) ?_
    intro ic ha
    rw [hcid]
    refine fillTrackingCollection_ends (s := { s with ic }) hkeys
      (fun ret ic hret hf => hrejected hret fun h => hf h.fills)
      (fun ret hret _ hins => hrejected hret fun h => hins h.inserts) fun hf hins t hdb _ _ => ?_
    have htracked : cmd.Tracked env fuel s := ⟨⟨ds, hds⟩, ha, hf, hins⟩
    have hiff := tracks_iff (s := s) hsource hf hins hdb
    exact ⟨fun h _ => hiff.1 (h _ _ rfl rfl), fun h => ends_pure.2 fun _ => hiff.2 (h htracked)⟩
  · refine iff_of_true ((execServiceAction_noContinuation hseg).mono fun o _ hno hok => absurd hok hno) ?_
    exact fun h => absurd h.segment hseg

/-- CREATE USER TRACKING COLLECTION of 0x20000 in the partition 0x10000. -/
def trackingCommand (source : UInt64) (contLen : UInt32) (segment : List UInt8) : Command where
  cdb := blobMem (List.replicate 8 0 ++ htons 0x8894 ++ List.replicate 6 0 ++ htonll 0x10000 ++
    htonll 0x20000 ++
    List.replicate 8 0 ++ htonll source ++ htonl contLen)
  getsetCdbfmt := GETPAGE_SETVALUE
  retrievedAttrOff := 0
  indata := blobMem segment
  inlen := contLen.toUInt64
  hasOutdata := true

/-- A segment of 0x10000 bytes with one descriptor. -/
def longSegment : List UInt8 := [1, 0, 0x88, 0x94] ++ List.replicate 36 0 ++ [0, 1, 0, 0, 0, 0, 0xff, 0xd0]

/-- The collection has its id in common with the length of the segment. -/
theorem trackingCommand_tracks :
    let cmd := trackingCommand 0x10000 0x10000 longSegment
    cmd.continuation 2 = some (.ok, [⟨SCATTER_GATHER_LIST, 65488, 40⟩]) ∧
      Ends (execServiceAction Env.calm cmd 2) collectionWithMember
        fun o t => o.ret = .ok → Tracks cmd collectionWithMember t := by
  refine ⟨by decide +kernel, (trackingCommand_iff (by decide +kernel) (by decide +kernel)
    (by decide +kernel)
    (by decide +kernel)).2 fun _ => ⟨by decide +kernel, Db.noMembers_of (by decide +kernel)⟩⟩

/-- A collection 2^32 with the member 0x10001. -/
def highCollection : Target :=
  calmRun [.createPartition 0, .createCollection 0x10000 0x100000000, .create 0x10000 0x10001 1,
    .setAttributes 0x10000 0x10001 USER_COLL_PG 1 (some (blobMem (htonll 0x100000000))) 8 true]

/-- Without a segment the command finds no source, and its collection stays empty. -/
theorem trackingCommand_empty : highCollection.db.HasType 0x10000 0x100000000 .collection ∧
    ¬ Ends (execServiceAction Env.calm (trackingCommand 0x100000000 0 []) 0) highCollection
      fun o t => o.ret = .ok → Tracks (trackingCommand 0x100000000 0 []) highCollection t := by
  refine ⟨by decide +kernel, fun h => ?_⟩
  have hrun : (execServiceAction Env.calm (trackingCommand 0x100000000 0 []) 0 highCollection).map
      (fun x => (x.1.ret, x.2.db.coll)) = some (.ok, [⟨65536, 0x100000000, 65537, 1⟩]) := by decide +kernel
  obtain ⟨⟨o, t⟩, hx, he⟩ := Option.map_eq_some_iff.1 hrun
  obtain ⟨hret, hcoll⟩ := Prod.mk.inj he
  have htracks := h o t hx hret
  have hsource : highCollection.db.InCollection 65536 0x100000000 65537 :=
    ⟨⟨65536, 0x100000000, 65537, 1⟩, by decide +kernel, rfl⟩
  have hpid : bindInt64 (trackingCommand 0x100000000 0 []).pid = 65536 := by decide +kernel
  have hcid : bindInt64 (trackingCommand 0x100000000 0 []).oid = 131072 := by decide +kernel
  have hsrc : bindInt64 (trackingCommand 0x100000000 0 []).sourceCid = 0x100000000 := by decide +kernel
  have hmembers := htracks.members 65537
  rw [hpid, hcid, hsrc] at hmembers
  obtain ⟨r, hr, hk⟩ := hmembers.2 hsource
  have hcoll : t.db.coll = [⟨65536, 0x100000000, 65537, 1⟩] := hcoll
  rw [hcoll, List.mem_singleton] at hr
  rw [hr] at hk
  exact absurd hk (by decide)

end OsdTarget
