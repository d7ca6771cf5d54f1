import OsdTarget.QueryCriteria

/-!
# What `parse_query_criteria` reads

The walk over a query list goes by the lengths of the values.  The length field of an entry is compared
with nothing but 0, and what is left of the list is compared with nothing but 0 either: an entry that
reaches past the end makes it wrap around.  So the only list the parser turns down is one with an entry
of a page that is out of range.
-/

namespace OsdTarget

open Base

/-! ## Lists -/

/-- From `p` to `stop` there are entries that fill the list, or up to an empty one. -/
inductive FilledByQces (m : Mem) (stop : Nat) : Nat → Prop
  | full : FilledByQces m stop stop
  | empty {p : Nat} : p + 4 ≤ stop → (qceAt m p).qceLen = MINQCELEN → FilledByQces m stop p
  | entry {p : Nat} : p + (qceAt m p).size ≤ stop →
      (qceAt m p).qceLen.toNat = 12 + (qceAt m p).minLen.toNat + (qceAt m p).maxLen.toNat →
      FilledByQces m stop (p + (qceAt m p).size) → FilledByQces m stop p

/-- Behind entries that fit there is one whose page is out of range. -/
inductive MeetsRefused (m : Mem) (stop : Nat) : Nat → Prop
  | here {p : Nat} : p + 8 ≤ stop → (qceAt m p).qceLen ≠ MINQCELEN → PARTITION_PG ≤ (qceAt m p).page →
      MeetsRefused m stop p
  | later {p : Nat} : p + (qceAt m p).size ≤ stop → (qceAt m p).qceLen ≠ MINQCELEN →
      (qceAt m p).page < PARTITION_PG → MeetsRefused m stop (p + (qceAt m p).size) → MeetsRefused m stop p

/-- The walk from `p` stays in front of `stop`. -/
inductive WalksInside (m : Mem) (stop : Nat) : Nat → Prop
  | full : WalksInside m stop stop
  | empty {p : Nat} : p + 4 ≤ stop → (qceAt m p).qceLen = MINQCELEN → WalksInside m stop p
  | refused {p : Nat} : p + 8 ≤ stop → (qceAt m p).qceLen ≠ MINQCELEN → PARTITION_PG ≤ (qceAt m p).page →
      WalksInside m stop p
  | entry {p : Nat} : p + (qceAt m p).size ≤ stop → (qceAt m p).qceLen ≠ MINQCELEN →
      (qceAt m p).page < PARTITION_PG → WalksInside m stop (p + (qceAt m p).size) → WalksInside m stop p

section Lists

variable {m : Mem} {stop p : Nat}

theorem Qce.le_size (q : Qce) : 16 + q.minLen.toNat + q.maxLen.toNat = q.size := by
  unfold Qce.size
  omega

theorem FilledByQces.inside (h : FilledByQces m stop p) : WalksInside m stop p := by
  induction h with
  | full => exact .full
  | empty hp hlen => exact .empty hp hlen
  | @entry p hp hlen _ ih =>
    have hsize := (qceAt m p).le_size
    have hne : (qceAt m p).qceLen ≠ MINQCELEN := by
      intro h0
      rw [h0] at hlen
      exact absurd hlen (by simp only [MINQCELEN, UInt16.reduceToNat]; omega)
    by_cases hpage : (qceAt m p).page < PARTITION_PG
    · exact .entry hp hne hpage ih
    · exact .refused (by omega) hne (UInt32.not_lt.1 hpage)

theorem MeetsRefused.inside (h : MeetsRefused m stop p) : WalksInside m stop p := by
  induction h with
  | here hp hlen hpage => exact .refused hp hlen hpage
  | later hp hlen hpage _ ih => exact .entry hp hlen hpage ih

end Lists

/-! ## The walk inside the list -/

/-- What `parse_query_criteria` has read, and the criteria it has found, lie in the list. -/
structure QueryCursor.Inside (c : QueryCursor) (stop : Nat) : Prop where
  reads : ∀ r ∈ c.reads, r.1 + r.2 ≤ stop
  values : ∀ q ∈ c.qc.entries, q.minVal + q.minLen.toNat ≤ stop ∧ q.maxVal + q.maxLen.toNat ≤ stop

section Walk

variable {m : Mem} {stop : Nat} {c : QueryCursor}

theorem QueryCursor.Inside.look (h : c.Inside stop) (q : Qce) (hp : c.cp + 4 ≤ stop) :
    (c.look q).Inside stop where
  reads := by
    refine List.forall_mem_append.2 ⟨h.reads, ?_⟩
    rw [List.forall_mem_singleton]
    exact hp
  values := by
    show ∀ q ∈ (c.qc.fill _).entries, _
    rw [QcArrays.entries_fill]
    exact h.values

theorem QueryCursor.Inside.lookPage (h : c.Inside stop) (q : Qce) (hp : c.cp + 8 ≤ stop) :
    (c.lookPage q).Inside stop where
  reads := by
    refine List.forall_mem_append.2 ⟨h.reads, ?_⟩
    rw [List.forall_mem_singleton]
    exact hp
  values := by
    show ∀ q ∈ (c.qc.fill _).entries, _
    rw [QcArrays.entries_fill]
    exact h.values

theorem QueryCursor.Inside.take (h : c.Inside stop) (hp : c.cp + (qceAt m c.cp).size ≤ stop)
    (hlt : c.qc.qcCnt.toNat < 2 ^ 30) : (c.take (qceAt m c.cp)).Inside stop := by
  have hsize := (qceAt m c.cp).le_size
  constructor
  · refine List.forall_mem_append.2 ⟨h.reads, ?_⟩
    simp only [List.forall_mem_cons, List.not_mem_nil, false_imp_iff, implies_true, and_true]
    omega
  · show ∀ q ∈ (c.qc.fill fun _ => qceAt m c.cp).count.entries, _
    rw [QcArrays.entries_count c.qc hlt]
    refine List.forall_mem_append.2 ⟨h.values, ?_⟩
    rw [List.forall_mem_singleton]
    have hmin : (qceAt m c.cp).minVal = c.cp + 14 := rfl
    have hmax : (qceAt m c.cp).maxVal = c.cp + 14 + (qceAt m c.cp).minLen.toNat + 2 := rfl
    omega

/-- The parser on a list that its walk stays inside of. -/
theorem WalksInside.run {p : Nat} (h : WalksInside m stop p) (hstop : stop < 2 ^ 32) (hcp : c.cp = p)
    (hqll : c.qll.toNat = stop - p) (hin : c.Inside stop) (hfew : 16 * c.qc.qcCnt.toNat ≤ c.cp) :
    ∃ n ret c', rounds (queryRound m) n c = some (ret, c') ∧ c'.Inside stop ∧
      (MeetsRefused m stop p → ret ≠ .ok) := by
  induction h generalizing c with
  | full =>
    have h0 : c.qll = 0 := by
      rw [← UInt32.toNat_inj, hqll, Nat.sub_self]
      rfl
    refine ⟨0, _, _, rounds_exit (queryRound_done h0), hin, ?_⟩
    intro hmeets
    cases hmeets with
    | here hp => omega
    | later hp =>
      have := (qceAt m stop).le_size
      omega
  | @empty p hp hlen =>
    subst hcp
    refine ⟨1, _, _, rounds_fail (queryRound_empty (c.qll_ne_zero hqll (by omega)) hlen), hin.look _ hp, ?_⟩
    intro hmeets
    cases hmeets with
    | here _ hne => exact absurd hlen hne
    | later _ hne => exact absurd hlen hne
  | @refused p hp hlen hpage =>
    subst hcp
    exact ⟨1, _, _, rounds_fail (queryRound_refused (c.qll_ne_zero hqll (by omega)) hlen hpage),
      (hin.look _ (by omega)).lookPage _ hp, fun _ => Ret.noConfusion⟩
  | @entry p hp hlen hpage hrest ih =>
    subst hcp
    have hsize := (qceAt m c.cp).le_size
    have hlt : c.qc.qcCnt.toNat < 2 ^ 30 := by omega
    have hpaged : ((c.look (qceAt m c.cp)).lookPage (qceAt m c.cp)).Inside stop :=
      (hin.look _ (by omega)).lookPage _ (show c.cp + 8 ≤ stop by omega)
    have hfew' : 16 * (c.after (qceAt m c.cp)).qc.qcCnt.toNat ≤ (c.after (qceAt m c.cp)).cp := by
      rw [QueryCursor.after_qc, QcArrays.count_qcCnt, QueryCursor.after_cp]
      show 16 * (c.qc.qcCnt + 1).toNat ≤ _
      rw [QcArrays.qcCnt_succ hlt]
      omega
    obtain ⟨n, ret, c', hrun, hin', hret⟩ :=
      ih (c := c.after (qceAt m c.cp)) rfl (QueryCursor.take_qll hp hqll) (hpaged.take hp hlt) hfew'
    refine ⟨n + 1, ret, c', ?_, hin', fun hmeets => hret ?_⟩
    · exact (rounds_next (queryRound_next (c.qll_ne_zero hqll (by omega)) hlen hpage)).trans hrun
    · cases hmeets with
      | here _ _ hpage' => exact absurd hpage (UInt32.not_lt.2 hpage')
      | later _ _ _ h => exact h

/-! ## What a run tells -/

/-- The four ways a run goes on from a cursor. -/
inductive RunFrom (m : Mem) (n : Nat) (c : QueryCursor) (ret : Ret) (c' : QueryCursor) : Prop
  | done : c.qll = 0 → ret = .ok → c' = c → RunFrom m n c ret c'
  | empty : c.qll ≠ 0 → (qceAt m c.cp).qceLen = MINQCELEN → ret = .ok → c' = c.look (qceAt m c.cp) →
      RunFrom m n c ret c'
  | refused : c.qll ≠ 0 → (qceAt m c.cp).qceLen ≠ MINQCELEN → PARTITION_PG ≤ (qceAt m c.cp).page →
      ret = .err .osdError → c' = (c.look (qceAt m c.cp)).lookPage (qceAt m c.cp) → RunFrom m n c ret c'
  | entry (k : Nat) : n = k + 1 → c.qll ≠ 0 → (qceAt m c.cp).qceLen ≠ MINQCELEN →
      (qceAt m c.cp).page < PARTITION_PG → rounds (queryRound m) k (c.after (qceAt m c.cp)) = some (ret, c') →
      RunFrom m n c ret c'

variable {n : Nat} {ret : Ret} {c' : QueryCursor}

theorem runFrom_of_rounds (h : rounds (queryRound m) n c = some (ret, c')) : RunFrom m n c ret c' := by
  by_cases h0 : c.qll = 0
  · rw [rounds_exit (queryRound_done h0)] at h
    cases h
    exact .done h0 rfl rfl
  cases n with
  | zero =>
    unfold rounds at h
    by_cases hlen : (qceAt m c.cp).qceLen = MINQCELEN
    · rw [queryRound_empty h0 hlen] at h
      cases h
    by_cases hpage : (qceAt m c.cp).page < PARTITION_PG
    · rw [queryRound_next h0 hlen hpage] at h
      cases h
    · rw [queryRound_refused h0 hlen (UInt32.not_lt.1 hpage)] at h
      cases h
  | succ k =>
    by_cases hlen : (qceAt m c.cp).qceLen = MINQCELEN
    · rw [rounds_fail (queryRound_empty h0 hlen)] at h
      cases h
      exact .empty h0 hlen rfl rfl
    by_cases hpage : (qceAt m c.cp).page < PARTITION_PG
    · rw [rounds_next (queryRound_next h0 hlen hpage)] at h
      exact .entry k rfl h0 hlen hpage h
    · rw [rounds_fail (queryRound_refused h0 hlen (UInt32.not_lt.1 hpage))] at h
      cases h
      exact .refused h0 hlen (UInt32.not_lt.1 hpage) rfl rfl

/-- What was read stays on record. -/
theorem mem_reads_of_rounds (h : rounds (queryRound m) n c = some (ret, c')) {r : Nat × Nat}
    (hr : r ∈ c.reads) : r ∈ c'.reads := by
  induction n using Nat.strong_induction_on generalizing c with
  | _ n ih =>
    cases runFrom_of_rounds h with
    | done _ _ hc => exact hc ▸ hr
    | empty _ _ _ hc => exact hc ▸ List.mem_append_left _ hr
    | refused _ _ _ _ hc => exact hc ▸ List.mem_append_left _ (List.mem_append_left _ hr)
    | entry k hk _ _ _ hrun =>
      exact ih k (hk ▸ Nat.lt_succ_self k) hrun
        (List.mem_append_left _ (List.mem_append_left _ (List.mem_append_left _ hr)))

/-- As long as something is left, the length of the next entry is read. -/
theorem look_mem_reads (h : rounds (queryRound m) n c = some (ret, c')) (hne : c.qll ≠ 0) :
    (c.cp + 2, 2) ∈ c'.reads := by
  have hlook : (c.cp + 2, 2) ∈ c.reads ++ [(c.cp + 2, 2)] :=
    List.mem_append_right _ (List.mem_singleton_self _)
  cases runFrom_of_rounds h with
  | done h0 => exact absurd h0 hne
  | empty _ _ _ hc => exact hc ▸ hlook
  | refused _ _ _ _ hc => exact hc ▸ List.mem_append_left _ hlook
  | entry k _ _ _ _ hrun =>
    exact mem_reads_of_rounds hrun (List.mem_append_left _ (List.mem_append_left _ hlook))

/-- An entry that reaches past the end does not use up what is left. -/
theorem QueryCursor.after_qll_ne_zero {q : Qce} (hqll : c.qll.toNat = stop - c.cp)
    (hp : stop < c.cp + q.size) : (c.after q).qll ≠ 0 := by
  have hmin := q.minLen.toNat_lt
  have hmax := q.maxLen.toNat_lt
  have hsize := q.le_size
  intro h0
  have hsum : c.qll = UInt32.ofNat (2 + q.maxLen.toNat) + UInt32.ofNat (14 + q.minLen.toNat) := by
    replace h0 : c.qll - UInt32.ofNat (14 + q.minLen.toNat) - UInt32.ofNat (2 + q.maxLen.toNat) = 0 := h0
    rw [UInt32.sub_eq_iff_eq_add, UInt32.sub_eq_iff_eq_add, UInt32.zero_add] at h0
    exact h0
  have hnat := congrArg UInt32.toNat hsum
  rw [hqll, UInt32.toNat_add, UInt32.toNat_ofNat_of_lt' (show _ < 2 ^ 32 by omega),
    UInt32.toNat_ofNat_of_lt' (show _ < 2 ^ 32 by omega), Nat.mod_eq_of_lt (show _ < 2 ^ 32 by omega)] at hnat
  omega

/-- **A run that reads nothing outside either accepts the list or has met a refused entry.** -/
theorem ok_or_meetsRefused (h : rounds (queryRound m) n c = some (ret, c'))
    (hcp : c.cp ≤ stop) (hqll : c.qll.toNat = stop - c.cp) (hin : ∀ r ∈ c'.reads, r.1 + r.2 ≤ stop) :
    ret = .ok ∨ MeetsRefused m stop c.cp := by
  induction n using Nat.strong_induction_on generalizing c with
  | _ n ih =>
    cases runFrom_of_rounds h with
    | done _ hret => exact .inl hret
    | empty _ _ hret => exact .inl hret
    | refused _ hlen hpage _ hc =>
      refine .inr (.here ?_ hlen hpage)
      exact hin (c.cp + 4, 4) (hc ▸ List.mem_append_right _ (List.mem_singleton_self _))
    | entry k hk hne hlen hpage hrun =>
      by_cases hp : c.cp + (qceAt m c.cp).size ≤ stop
      · rcases ih k (hk ▸ Nat.lt_succ_self k) hrun hp (QueryCursor.take_qll hp hqll) with hret | hmeets
        · exact .inl hret
        · exact .inr (.later hp hlen hpage hmeets)
      · -- what is left has wrapped around, and the parser looks for an entry there
        have hread := hin _ (look_mem_reads hrun (QueryCursor.after_qll_ne_zero hqll (Nat.lt_of_not_le hp)))
        have hafter := c.after_cp (qceAt m c.cp)
        omega

theorem queryCriteria_eq (m : Mem) (n p : Nat) (qll : UInt32) (es : List Criterion) :
    queryCriteria m n p qll es =
      if qll = 0 ∨ (qceAt m p).qceLen = MINQCELEN then some (some es)
      else if PARTITION_PG ≤ (qceAt m p).page then some none
      else match n with
        | 0 => none
        | k + 1 => queryCriteria m k (p + (qceAt m p).size) (qll - UInt32.ofNat (qceAt m p).size)
            (es ++ [(qceAt m p).criterion m]) := by
  have hsize : p + (qceAt m p).size = p + 14 + (qceAt m p).minLen.toNat + 2 + (qceAt m p).maxLen.toNat := by
    unfold Qce.size
    omega
  rw [hsize]
  conv_lhs => unfold queryCriteria
  rfl

/-- The criteria at a cursor, and those that are still to come. -/
theorem queryCriteria_of_rounds (h : rounds (queryRound m) n c = some (ret, c'))
    (hn : c.qc.qcCnt.toNat + n < 2 ^ 30) :
    queryCriteria m n c.cp c.qll (c.qc.entries.map (Qce.criterion m)) =
      some (if ret = .ok then some (c'.qc.entries.map (Qce.criterion m)) else none) := by
  induction n using Nat.strong_induction_on generalizing c with
  | _ n ih =>
    rw [queryCriteria_eq]
    cases runFrom_of_rounds h with
    | done h0 hret hc => rw [if_pos (.inl h0), if_pos hret, hc]
    | empty _ hlen hret hc =>
      rw [if_pos (.inr hlen), if_pos hret, hc]
      exact congrArg (fun l => some (some (l.map (Qce.criterion m)))) (QcArrays.entries_fill _ _).symm
    | refused hne hlen hpage hret =>
      rw [if_neg (not_or.2 ⟨hne, hlen⟩), if_pos hpage, if_neg (hret ▸ Ret.noConfusion)]
    | entry k hk hne hlen hpage hrun =>
      subst hk
      have hlt : c.qc.qcCnt.toNat < 2 ^ 30 := by omega
      have hcount : (c.after (qceAt m c.cp)).qc.qcCnt.toNat = c.qc.qcCnt.toNat + 1 := by
        rw [QueryCursor.after_qc, QcArrays.count_qcCnt]
        exact QcArrays.qcCnt_succ hlt
      have hmap : (c.after (qceAt m c.cp)).qc.entries.map (Qce.criterion m) =
          c.qc.entries.map (Qce.criterion m) ++ [(qceAt m c.cp).criterion m] := by
        rw [c.after_entries hlt, List.map_append, List.map_singleton]
      have hqll : (c.after (qceAt m c.cp)).qll = c.qll - UInt32.ofNat (qceAt m c.cp).size := by
        unfold Qce.size
        rw [UInt32.ofNat_add]
        show c.qll - UInt32.ofNat _ - UInt32.ofNat _ = _
        rw [UInt32.sub_eq_iff_eq_add, UInt32.sub_eq_iff_eq_add, UInt32.add_assoc, UInt32.add_comm (UInt32.ofNat _),
          UInt32.sub_add_cancel]
      have hrest := ih k (Nat.lt_succ_self k) hrun (by omega)
      rw [c.after_cp, hqll, hmap] at hrest
      rw [if_neg (not_or.2 ⟨hne, hlen⟩), if_neg (UInt32.not_le.2 hpage)]
      exact hrest

end Walk

/-! ## Safety -/

/-- What is asked of `parse_query_criteria` for a list of `qll` bytes. -/
def ParsesSafely (m : Mem) (qll : UInt32) (qc : QcArrays) : Prop :=
  ∃ fuel ret c, parseQueryCriteria m qll qc fuel = some (ret, c) ∧ c.Inside qll.toNat ∧
    (¬ FilledByQces m qll.toNat 4 → ret ≠ .ok)

/-- **The parser is safe on the lists that are well formed and on those where it meets a page out of range
in time**, and on no others. -/
theorem parseQueryCriteria_safe_iff (m : Mem) {qll : UInt32} (h8 : MINQLISTLEN ≤ qll) (garbage : Nat → Qce) :
    ParsesSafely m qll (freshQc garbage) ↔
      FilledByQces m qll.toNat 4 ∨ MeetsRefused m qll.toNat 4 := by
  have h8' : 8 ≤ qll.toNat := UInt32.le_iff_toNat_le.1 h8
  have hqll : (startQuery m qll (freshQc garbage)).qll.toNat = qll.toNat - 4 :=
    UInt32.toNat_sub_of_le _ _ (UInt32.le_iff_toNat_le.2 (show 4 ≤ qll.toNat by omega))
  have hin : (startQuery m qll (freshQc garbage)).Inside qll.toNat :=
    ⟨List.forall_mem_singleton.2 (show 0 + 1 ≤ qll.toNat by omega), List.forall_mem_nil _⟩
  constructor
  · rintro ⟨fuel, ret, c, hrun, hinside, hrejects⟩
    rcases ok_or_meetsRefused hrun (show 4 ≤ qll.toNat by omega) hqll hinside.reads with
      hret | hmeets
    · exact .inl (Classical.not_not.1 fun h => hrejects h hret)
    · exact .inr hmeets
  · intro h
    have hwalk : WalksInside m qll.toNat 4 := h.elim FilledByQces.inside MeetsRefused.inside
    obtain ⟨n, ret, c, hrun, hinside, hret⟩ := hwalk.run qll.toNat_lt rfl hqll hin (Nat.zero_le _)
    exact ⟨n, ret, c, hrun, hinside, fun hfill => hret (h.resolve_left hfill)⟩

/-- **`osd_query` goes on with what the parser has stored**, and refuses the list where the parser does. -/
theorem queryCriteria_parsed {m : Mem} {qll : UInt32} {garbage : Nat → Qce} {fuel : Nat} {ret : Ret}
    {c : QueryCursor} (h : parseQueryCriteria m qll (freshQc garbage) fuel = some (ret, c))
    (hfuel : fuel < 2 ^ 30) : queryCriteria m fuel 4 (qll - 4) [] =
      some (if ret = .ok then some (c.qc.entries.map (Qce.criterion m)) else none) :=
  queryCriteria_of_rounds h (by rw [show (startQuery m qll (freshQc garbage)).qc.qcCnt.toNat = 0 from rfl]; omega)

/-- A header and an entry of length 0. -/
theorem parseQueryCriteria_safe_empty :
    ParsesSafely (blobMem (List.replicate 8 0)) 8 (freshQc fun _ => qceAt (blobMem []) 0) :=
  (parseQueryCriteria_safe_iff _ (by decide) _).2 (.inl (.empty (by decide) (by decide)))

/-- The shortest list: a header and the first half of an entry with a length of 12. -/
def halfEntry : Mem := blobMem [0, 0, 0, 0, 0, 0, 0, 12]

/-- Its page is read behind the end. -/
theorem not_parsesSafely_half : ¬ ParsesSafely halfEntry 8 (freshQc fun _ => qceAt halfEntry 0) := by
  rintro ⟨fuel, ret, c, hrun, hinside, -⟩
  have hnext : queryRound halfEntry (startQuery halfEntry 8 (freshQc fun _ => qceAt halfEntry 0)) =
      .next ((startQuery halfEntry 8 (freshQc fun _ => qceAt halfEntry 0)).after (qceAt halfEntry 4)) :=
    queryRound_next (by decide) (by decide) (by decide)
  unfold parseQueryCriteria at hrun
  cases fuel with
  | zero =>
    unfold rounds at hrun
    rw [hnext] at hrun
    cases hrun
  | succ n =>
    rw [rounds_next hnext] at hrun
    have hpage := hinside.reads _ (mem_reads_of_rounds hrun (r := (8, 4)) (by decide))
    exact absurd hpage (by decide)

end OsdTarget
