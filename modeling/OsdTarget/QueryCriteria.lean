import OsdTarget.ServiceAction
import OsdTarget.AttributeList

/-!
# Query lists

`parse_query_criteria` with what it reads of the list and what it stores in the seven arrays of
`struct query_criteria`, which `alloc_qc` doubles.  The arrays have the same number of elements, so one
slot stands for the elements with one index; what `realloc` adds holds anything.  `realloc` is taken to
find the memory: where it does not, `alloc_qc` answers -ENOMEM and the query is refused.
-/

namespace OsdTarget

open Base

/-! ## The arrays -/

def MINQLISTLEN : UInt32 := 8
def MINQCELEN : UInt16 := 0

/-- A slot of the arrays, the values as positions in the list. -/
structure Qce where
  qceLen : UInt16
  page : UInt32
  number : UInt32
  minLen : UInt16
  minVal : Nat
  maxLen : UInt16
  maxVal : Nat
  deriving DecidableEq, Repr

/-- `struct query_criteria`, where each array has `room` elements. -/
structure QcArrays where
  queryType : UInt8
  qcCntLimit : UInt32
  qcCnt : UInt32
  room : Nat
  slots : Nat → Qce

/-- `alloc_qc` where there is memory. -/
def allocQc (qc : QcArrays) : QcArrays :=
  let limit := if qc.qcCntLimit = 0 then 16 else qc.qcCntLimit * 2
  { qc with qcCntLimit := limit, room := limit.toNat }

/-- What `osd_query` hands to the parser: arrays allocated once. -/
def freshQc (garbage : Nat → Qce) : QcArrays := allocQc ⟨0, 0, 0, 0, garbage⟩

namespace QcArrays

variable (qc : QcArrays)

/-- A store to the slot `qc_cnt`. -/
def fill (f : Qce → Qce) : QcArrays :=
  { qc with slots := Function.update qc.slots qc.qcCnt.toNat (f (qc.slots qc.qcCnt.toNat)) }

/-- `qc_cnt++` and the growth behind it. -/
def count : QcArrays :=
  let qc := { qc with qcCnt := qc.qcCnt + 1 }
  if qc.qcCnt = qc.qcCntLimit then allocQc qc else qc

/-- The slots that count. -/
def entries : List Qce := (List.range qc.qcCnt.toNat).map qc.slots

end QcArrays

/-! ## The parser -/

/-- The entry at `p`: its fields are where the lengths in front of them put them. -/
def qceAt (m : Mem) (p : Nat) : Qce :=
  let minLen := getNtohs m (p + 12)
  { qceLen := getNtohs m (p + 2)
    page := getNtohl m (p + 4)
    number := getNtohl m (p + 8)
    minLen := minLen
    minVal := p + 14
    maxLen := getNtohs m (p + 14 + minLen.toNat)
    maxVal := p + 14 + minLen.toNat + 2 }

/-- How far an entry takes the pointer on. -/
def Qce.size (q : Qce) : Nat := 14 + q.minLen.toNat + (2 + q.maxLen.toNat)

/-- The criterion with the values its pointers point to. -/
def Qce.criterion (m : Mem) (q : Qce) : Criterion :=
  ⟨q.page, q.number, m.read q.minVal q.minLen.toNat, m.read q.maxVal q.maxLen.toNat⟩

/-- The locals of `parse_query_criteria`, and what it has read: positions and lengths. -/
structure QueryCursor where
  cp : Nat
  qll : UInt32
  qc : QcArrays
  reads : List (Nat × Nat)

namespace QueryCursor

variable (c : QueryCursor)

def touch (l : List (Nat × Nat)) : QueryCursor := { c with reads := c.reads ++ l }

def fill (f : Qce → Qce) : QueryCursor := { c with qc := c.qc.fill f }

/-- The length of the entry, and the test behind it. -/
def look (q : Qce) : QueryCursor := (c.touch [(c.cp + 2, 2)]).fill fun s => { s with qceLen := q.qceLen }

/-- Its page, and the test behind that. -/
def lookPage (q : Qce) : QueryCursor := (c.touch [(c.cp + 4, 4)]).fill fun s => { s with page := q.page }

/-- The body of the loop behind its two tests. -/
def take (q : Qce) : QueryCursor :=
  let c := (c.touch [(c.cp + 8, 4), (c.cp + 12, 2), (c.cp + 14 + q.minLen.toNat, 2)]).fill fun _ => q
  { c with
    cp := c.cp + q.size
    qll := c.qll - UInt32.ofNat (14 + q.minLen.toNat) - UInt32.ofNat (2 + q.maxLen.toNat)
    qc := c.qc.count }

end QueryCursor

/-- One round of the loop. -/
def queryRound (m : Mem) (c : QueryCursor) : Round QueryCursor (Ret × QueryCursor) :=
  if c.qll = 0 then .exit (.ok, c)
  else
    let q := qceAt m c.cp
    let c := c.look q
    if q.qceLen = MINQCELEN then .fail (.ok, c)
    else
      let c := c.lookPage q
      if PARTITION_PG ≤ q.page then .fail (.err .osdError, c)
      else .next (c.take q)

/-- Behind the query list header. -/
def startQuery (m : Mem) (qll : UInt32) (qc : QcArrays) : QueryCursor where
  cp := 4
  qll := qll - 4
  qc := { qc with queryType := m 0 &&& 0xF, qcCnt := 0 }
  reads := [(0, 1)]

/-- `parse_query_criteria`, with at most `fuel` entries. -/
def parseQueryCriteria (m : Mem) (qll : UInt32) (qc : QcArrays) (fuel : Nat) : Option (Ret × QueryCursor) :=
  rounds (queryRound m) fuel (startQuery m qll qc)

/-! ## Growth -/

/-- The slot behind the last one is there, and the limit is far from wrapping around. -/
structure QcArrays.Roomy (qc : QcArrays) : Prop where
  room : qc.room = qc.qcCntLimit.toNat
  free : qc.qcCnt.toNat < qc.qcCntLimit.toNat
  bound : qc.qcCntLimit.toNat ≤ 16 + 2 * qc.qcCnt.toNat

section Growth

variable {qc : QcArrays}

theorem freshQc_roomy (garbage : Nat → Qce) (qt : UInt8) :
    QcArrays.Roomy { freshQc garbage with queryType := qt, qcCnt := 0 } :=
  ⟨rfl, (by decide : (0 : UInt32).toNat < (16 : UInt32).toNat), Nat.le_add_right 16 _⟩

theorem QcArrays.count_qcCnt (qc : QcArrays) : qc.count.qcCnt = qc.qcCnt + 1 := by
  unfold QcArrays.count
  dsimp only
  split <;> rfl

theorem QcArrays.count_slots (qc : QcArrays) : qc.count.slots = qc.slots := by
  unfold QcArrays.count
  dsimp only
  split <;> rfl

theorem QcArrays.qcCnt_succ (hlt : qc.qcCnt.toNat < 2 ^ 30) :
    (qc.qcCnt + 1).toNat = qc.qcCnt.toNat + 1 := by
  rw [UInt32.toNat_add]
  exact Nat.mod_eq_of_lt (show qc.qcCnt.toNat + 1 < 2 ^ 32 by omega)

/-- The growth step. -/
theorem QcArrays.Roomy.count (h : qc.Roomy) (hlt : qc.qcCnt.toNat < 2 ^ 30) : qc.count.Roomy := by
  have hsucc := QcArrays.qcCnt_succ hlt
  have hfree := h.free
  have hbound := h.bound
  unfold QcArrays.count
  dsimp only
  split
  next heq =>
    have hlimit : qc.qcCntLimit.toNat = qc.qcCnt.toNat + 1 := heq ▸ hsucc
    have h0 : qc.qcCntLimit ≠ 0 := by
      intro h0
      rw [h0] at hfree
      exact Nat.not_lt_zero _ hfree
    have hdouble : (qc.qcCntLimit * 2).toNat = 2 * qc.qcCntLimit.toNat := by
      rw [UInt32.toNat_mul, Nat.mul_comm]
      exact Nat.mod_eq_of_lt (show 2 * qc.qcCntLimit.toNat < 2 ^ 32 by omega)
    unfold allocQc
    rw [if_neg h0]
    exact ⟨rfl, by rw [hdouble]; dsimp only; omega, by rw [hdouble]; dsimp only; omega⟩
  next hne =>
    have hne' : qc.qcCnt.toNat + 1 ≠ qc.qcCntLimit.toNat := by
      rw [← hsucc]
      exact mt UInt32.toNat_inj.1 hne
    exact ⟨h.room, by dsimp only; omega, by dsimp only; omega⟩

theorem QcArrays.Roomy.fill (h : qc.Roomy) (f : Qce → Qce) : (qc.fill f).Roomy := ⟨h.room, h.free, h.bound⟩

/-- The slot that is being filled does not count yet. -/
theorem QcArrays.entries_fill (qc : QcArrays) (f : Qce → Qce) : (qc.fill f).entries = qc.entries :=
  List.map_congr_left fun _ hi => Function.update_of_ne (Nat.ne_of_lt (List.mem_range.1 hi)) _ _

/-- A slot filled and counted is the next entry. -/
theorem QcArrays.entries_count (qc : QcArrays) (hlt : qc.qcCnt.toNat < 2 ^ 30) (q : Qce) :
    (qc.fill fun _ => q).count.entries = qc.entries ++ [q] := by
  unfold QcArrays.entries
  rw [count_qcCnt, count_slots, show (qc.fill fun _ => q).qcCnt = qc.qcCnt from rfl, qcCnt_succ hlt, List.range_succ,
    List.map_append, List.map_singleton]
  congr 1
  · exact entries_fill qc _
  · exact congrArg (fun x => [x]) (Function.update_self _ _ _)

end Growth

/-! ## Lists of entries -/

/-- From `p` to `stop` the list holds these entries, none of which ends the loop. -/
def QcesLaid (m : Mem) : Nat → List Qce → Nat → Prop
  | p, [], stop => p = stop
  | p, q :: qs, stop => q = qceAt m p ∧ q.qceLen ≠ MINQCELEN ∧ q.page < PARTITION_PG ∧
      QcesLaid m (p + q.size) qs stop

section Laid

variable {m : Mem} {p stop : Nat} {qs : List Qce} {c : QueryCursor}

theorem QcesLaid.fits (h : QcesLaid m p qs stop) : p + 16 * qs.length ≤ stop := by
  induction qs generalizing p with
  | nil => exact Nat.le_of_eq h
  | cons q qs ih =>
    have hrest := ih h.2.2.2
    have hsize : 16 ≤ q.size := by unfold Qce.size; omega
    rw [List.length_cons]
    omega

/-- The cursor at an entry of the list, `qll` in step with `cp`. -/
structure QueryCursor.At (c : QueryCursor) (m : Mem) (qs : List Qce) (stop : Nat) : Prop where
  laid : QcesLaid m c.cp qs stop
  qll : c.qll.toNat = stop - c.cp
  roomy : c.qc.Roomy
  few : 16 * c.qc.qcCnt.toNat ≤ c.cp

theorem QueryCursor.qll_ne_zero (c : QueryCursor) (hqll : c.qll.toNat = stop - p) (hp : p < stop) :
    c.qll ≠ 0 := by
  intro h0
  rw [h0, UInt32.toNat_zero] at hqll
  omega

/-- What is left after an entry that fits. -/
theorem QueryCursor.take_qll {q : Qce} (h : c.cp + q.size ≤ stop) (hqll : c.qll.toNat = stop - c.cp) :
    (c.take q).qll.toNat = stop - (c.cp + q.size) := by
  have hlt := c.qll.toNat_lt
  have hmin := q.minLen.toNat_lt
  have hmax := q.maxLen.toNat_lt
  unfold Qce.size at h ⊢
  have h₁ : (UInt32.ofNat (14 + q.minLen.toNat)).toNat = 14 + q.minLen.toNat :=
    UInt32.toNat_ofNat_of_lt' (show _ < 2 ^ 32 by omega)
  have h₂ : (UInt32.ofNat (2 + q.maxLen.toNat)).toNat = 2 + q.maxLen.toNat :=
    UInt32.toNat_ofNat_of_lt' (show _ < 2 ^ 32 by omega)
  show (c.qll - UInt32.ofNat (14 + q.minLen.toNat) - UInt32.ofNat (2 + q.maxLen.toNat)).toNat = _
  have hfirst : (c.qll - UInt32.ofNat (14 + q.minLen.toNat)).toNat = c.qll.toNat - (14 + q.minLen.toNat) := by
    rw [UInt32.toNat_sub_of_le _ _ (UInt32.le_iff_toNat_le.2 (by omega)), h₁]
  rw [UInt32.toNat_sub_of_le _ _ (UInt32.le_iff_toNat_le.2 (by omega)), hfirst, h₂]
  omega

/-- The cursor after the entry it is at. -/
def QueryCursor.after (c : QueryCursor) (q : Qce) : QueryCursor := ((c.look q).lookPage q).take q

theorem QueryCursor.after_cp (c : QueryCursor) (q : Qce) : (c.after q).cp = c.cp + q.size := rfl

theorem QueryCursor.after_qc (c : QueryCursor) (q : Qce) :
    (c.after q).qc = (((c.look q).lookPage q).qc.fill fun _ => q).count := rfl

theorem QueryCursor.after_entries (c : QueryCursor) (hlt : c.qc.qcCnt.toNat < 2 ^ 30) (q : Qce) :
    (c.after q).qc.entries = c.qc.entries ++ [q] := by
  rw [after_qc, QcArrays.entries_count ((c.look q).lookPage q).qc hlt q]
  exact congrArg (· ++ [q]) ((QcArrays.entries_fill _ _).trans (QcArrays.entries_fill _ _))

theorem queryRound_done (h : c.qll = 0) : queryRound m c = .exit (.ok, c) := if_pos h

theorem queryRound_empty (hne : c.qll ≠ 0) (hlen : (qceAt m c.cp).qceLen = MINQCELEN) :
    queryRound m c = .fail (.ok, c.look (qceAt m c.cp)) := by
  unfold queryRound
  rw [if_neg hne]
  exact if_pos hlen

theorem queryRound_refused (hne : c.qll ≠ 0) (hlen : (qceAt m c.cp).qceLen ≠ MINQCELEN)
    (hpage : PARTITION_PG ≤ (qceAt m c.cp).page) :
    queryRound m c = .fail (.err .osdError, (c.look (qceAt m c.cp)).lookPage (qceAt m c.cp)) := by
  unfold queryRound
  rw [if_neg hne]
  dsimp only
  rw [if_neg hlen, if_pos hpage]

theorem queryRound_next (hne : c.qll ≠ 0) (hlen : (qceAt m c.cp).qceLen ≠ MINQCELEN)
    (hpage : (qceAt m c.cp).page < PARTITION_PG) :
    queryRound m c = .next (c.after (qceAt m c.cp)) := by
  unfold queryRound
  rw [if_neg hne]
  dsimp only
  rw [if_neg hlen, if_neg (UInt32.not_le.2 hpage)]
  rfl

/-- The entry the cursor is at is taken. -/
theorem QueryCursor.At.step {q : Qce} (h : c.At m (q :: qs) stop) (hstop : stop < 2 ^ 32) :
    queryRound m c = .next (c.after q) ∧ (c.after q).At m qs stop ∧
      (c.after q).qc.entries = c.qc.entries ++ [q] := by
  obtain ⟨⟨hq, hlen, hpage, hrest⟩, hqll, hroomy, hfew⟩ := h
  have hfits := hrest.fits
  have hsize : 16 ≤ q.size := by unfold Qce.size; omega
  have hlt : c.qc.qcCnt.toNat < 2 ^ 30 := by omega
  have hne : c.qll ≠ 0 := c.qll_ne_zero hqll (by omega)
  have hroomy' : ((c.look q).lookPage q).qc.Roomy := ⟨hroomy.room, hroomy.free, hroomy.bound⟩
  refine ⟨?_, ⟨hrest, ?_, ?_, ?_⟩, c.after_entries hlt q⟩
  · rw [hq] at hlen hpage ⊢
    exact queryRound_next hne hlen hpage
  · exact QueryCursor.take_qll (Nat.le_of_add_right_le hfits) hqll
  · exact (hroomy'.fill _).count hlt
  · rw [after_qc, QcArrays.count_qcCnt, after_cp]
    show 16 * (c.qc.qcCnt + 1).toNat ≤ _
    rw [QcArrays.qcCnt_succ hlt]
    omega

/-- **The parser over the entries of a list.** -/
theorem QueryCursor.At.run (h : c.At m qs stop) (hstop : stop < 2 ^ 32) :
    ∃ c', rounds (queryRound m) qs.length c = some (.ok, c') ∧ c'.qc.entries = c.qc.entries ++ qs := by
  induction qs generalizing c with
  | nil =>
    have hqll : c.qll = 0 := by
      rw [← UInt32.toNat_inj, h.qll, show c.cp = stop from h.laid, Nat.sub_self]
      rfl
    exact ⟨c, rounds_exit (queryRound_done hqll), (List.append_nil _).symm⟩
  | cons q qs ih =>
    obtain ⟨hround, hat, hentries⟩ := h.step hstop
    obtain ⟨c', hrun, hc'⟩ := ih hat
    refine ⟨c', (rounds_next hround).trans hrun, ?_⟩
    rw [hc', hentries, List.append_assoc, List.singleton_append]

/-- At every entry there is a slot for it in each array. -/
theorem QueryCursor.At.leads (h : c.At m qs stop) (hstop : stop < 2 ^ 32) {t : QueryCursor}
    (ht : Leads (queryRound m) c t) : ∃ qs', t.At m qs' stop := by
  refine ht.invariant (I := fun t => ∃ qs', t.At m qs' stop) ?_ ⟨qs, h⟩
  rintro s t ⟨qs', hs⟩ hround
  cases qs' with
  | nil =>
    have hqll : s.qll = 0 := by
      rw [← UInt32.toNat_inj, hs.qll, show s.cp = stop from hs.laid, Nat.sub_self]
      rfl
    rw [queryRound_done hqll] at hround
    cases hround
  | cons q qs' =>
    obtain ⟨hround', hat, -⟩ := hs.step hstop
    rw [hround'] at hround
    cases hround
    exact ⟨qs', hat⟩

end Laid

/-! ## Lists laid out as `set_qce` does -/

/-- The bytes `set_qce` stores behind the two reserved ones: the length, then the fields. -/
def qceBytes (e : Criterion) : List UInt8 :=
  htons (UInt16.ofNat (4 + 4 + 2 + e.min.length + 2 + e.max.length)) ++ (htonl e.page ++ (htonl e.number ++
    (htons (UInt16.ofNat e.min.length) ++ (e.min ++ (htons (UInt16.ofNat e.max.length) ++ e.max)))))

/-- `set_qce` of the tests at `cp`; it leaves the first two bytes alone. -/
def setQce (m : Mem) (cp : Nat) (e : Criterion) : Mem := m.write (cp + 2) (qceBytes e)

/-- The length of the whole entry. -/
def Criterion.size (e : Criterion) : Nat := 16 + e.min.length + e.max.length

/-- Entry behind entry from `cp` on. -/
def setQces (m : Mem) : Nat → List Criterion → Mem
  | _, [] => m
  | cp, e :: es => setQces (setQce m cp e) (cp + e.size) es

/-- What the parser should find for them. -/
def qcesOf : Nat → List Criterion → List Qce
  | _, [] => []
  | p, e :: es =>
    { qceLen := UInt16.ofNat (12 + e.min.length + e.max.length)
      page := e.page
      number := e.number
      minLen := UInt16.ofNat e.min.length
      minVal := p + 14
      maxLen := UInt16.ofNat e.max.length
      maxVal := p + 16 + e.min.length } :: qcesOf (p + e.size) es

/-- An entry that the 16-bit length can say. -/
structure Criterion.Encodes (e : Criterion) : Prop where
  page : e.page < PARTITION_PG
  len : 12 + e.min.length + e.max.length < 2 ^ 16

section SetQce

variable {m : Mem} {p : Nat} {e : Criterion} {es : List Criterion}

theorem qceBytes_length (e : Criterion) : (qceBytes e).length + 2 = e.size := by
  simp only [qceBytes, Criterion.size, List.length_append, htons_length, htonl_length]
  omega

/-- Entries are laid out from `p` on, nothing in front of it changes. -/
theorem setQces_of_lt {a : Nat} (h : a < p) : setQces m p es a = m a := by
  induction es generalizing m p with
  | nil => rfl
  | cons e es ih => exact (ih (Nat.lt_add_right _ h)).trans (Mem.write_of_lt (Nat.lt_add_right 2 h))

theorem read_setQces_cons (m : Mem) (p : Nat) (e : Criterion) (es : List Criterion) :
    (setQces m p (e :: es)).read (p + 2) (qceBytes e).length = qceBytes e := by
  have hlen := qceBytes_length e
  refine (Mem.read_congr fun a _ ha => ?_).trans (Mem.read_write_self m (p + 2) (qceBytes e))
  exact setQces_of_lt (p := p + e.size) (by omega)

/-- The fields of the entry, read back. -/
theorem qceAt_of_read (he : e.Encodes) (hread : m.read (p + 2) (qceBytes e).length = qceBytes e) :
    qceAt m p :: [] = qcesOf p [e] ∧ (qceAt m p).criterion m = e := by
  obtain ⟨hlen, hread⟩ := Mem.read_append.1 hread
  obtain ⟨hpage, hread⟩ := Mem.read_append.1 hread
  obtain ⟨hnumber, hread⟩ := Mem.read_append.1 hread
  obtain ⟨hminLen, hread⟩ := Mem.read_append.1 hread
  obtain ⟨hmin, hread⟩ := Mem.read_append.1 hread
  obtain ⟨hmaxLen, hmax⟩ := Mem.read_append.1 hread
  simp only [htons_length, htonl_length] at hlen hpage hnumber hminLen hmin hmaxLen hmax
  have hle := he.len
  have hmin' : (UInt16.ofNat e.min.length).toNat = e.min.length :=
    UInt16.toNat_ofNat_of_lt' (show _ < 2 ^ 16 by omega)
  have hmax' : (UInt16.ofNat e.max.length).toNat = e.max.length :=
    UInt16.toNat_ofNat_of_lt' (show _ < 2 ^ 16 by omega)
  have hminLen' : getNtohs m (p + 12) = UInt16.ofNat e.min.length := getNtohs_of_read hminLen
  have hqce : qceAt m p = ⟨UInt16.ofNat (12 + e.min.length + e.max.length), e.page, e.number,
      UInt16.ofNat e.min.length, p + 14, UInt16.ofNat e.max.length, p + 16 + e.min.length⟩ := by
    unfold qceAt
    rw [hminLen']
    dsimp only
    rw [hmin', getNtohs_of_read hlen, getNtohl_of_read hpage, getNtohl_of_read hnumber,
      getNtohs_of_read (show m.read (p + 14 + e.min.length) 2 = _ from hmaxLen)]
    congr 1
    · congr 1
      omega
    · omega
  refine ⟨by rw [hqce]; rfl, ?_⟩
  rw [hqce]
  unfold Qce.criterion
  dsimp only
  rw [hmin', hmax', show m.read (p + 14) e.min.length = _ from hmin,
    show p + 16 + e.min.length = p + 2 + 2 + 4 + 4 + 2 + e.min.length + 2 by omega, hmax]

/-- The layout as the parser sees it. -/
theorem qcesLaid_setQces (hes : ∀ e ∈ es, e.Encodes) :
    QcesLaid (setQces m p es) p (qcesOf p es) (p + (es.map Criterion.size).sum) ∧
      (qcesOf p es).map (Qce.criterion (setQces m p es)) = es := by
  induction es generalizing m p with
  | nil => exact ⟨rfl, rfl⟩
  | cons e es ih =>
    have he := hes e List.mem_cons_self
    obtain ⟨hqce, hcriterion⟩ := qceAt_of_read he (read_setQces_cons m p e es)
    obtain ⟨hlaid, hmap⟩ := ih (m := setQce m p e) (p := p + e.size) fun e' he' =>
      hes e' (List.mem_cons_of_mem e he')
    obtain ⟨hqce, -⟩ := List.cons_eq_cons.1 hqce
    have hle := he.len
    have hsize : (qceAt (setQces m p (e :: es)) p).size = e.size := by
      rw [hqce]
      unfold Qce.size Criterion.size
      dsimp only
      rw [UInt16.toNat_ofNat_of_lt' (show _ < 2 ^ 16 by omega),
        UInt16.toNat_ofNat_of_lt' (show _ < 2 ^ 16 by omega)]
      omega
    constructor
    · refine ⟨hqce.symm, ?_, he.page, ?_⟩
      · intro h0
        have := congrArg UInt16.toNat h0
        rw [UInt16.toNat_ofNat_of_lt' (show _ < 2 ^ 16 by omega)] at this
        exact absurd this (by simp only [MINQCELEN, UInt16.reduceToNat]; omega)
      · rw [hqce] at hsize
        rw [hsize, List.map_cons, List.sum_cons, ← Nat.add_assoc]
        exact hlaid
    · rw [hqce] at hcriterion
      exact List.cons_eq_cons.2 ⟨hcriterion, hmap⟩

end SetQce

/-- **Query criteria decode as encoded**, and every slot that is stored to is there. -/
theorem parseQueryCriteria_setQces (m : Mem) (garbage : Nat → Qce) {es : List Criterion}
    (hes : ∀ e ∈ es, e.Encodes) (hlen : 4 + (es.map Criterion.size).sum < 2 ^ 32) :
    let list := setQces m 4 es
    let qll := UInt32.ofNat (4 + (es.map Criterion.size).sum)
    (∃ c, parseQueryCriteria list qll (freshQc garbage) es.length = some (.ok, c) ∧
      c.qc.entries = qcesOf 4 es ∧ c.qc.entries.map (Qce.criterion list) = es) ∧
    ∀ c, Leads (queryRound list) (startQuery list qll (freshQc garbage)) c →
      c.qc.qcCnt < c.qc.qcCntLimit ∧ c.qc.room = c.qc.qcCntLimit.toNat := by
  intro list qll
  obtain ⟨hlaid, hmap⟩ := qcesLaid_setQces (m := m) (p := 4) hes
  have hqll : qll.toNat = 4 + (es.map Criterion.size).sum := UInt32.toNat_ofNat_of_lt' hlen
  have hat : (startQuery list qll (freshQc garbage)).At list (qcesOf 4 es)
      (4 + (es.map Criterion.size).sum) := by
    refine ⟨hlaid, ?_, freshQc_roomy _ _, ?_⟩
    · show (qll - 4).toNat = _
      rw [UInt32.toNat_sub_of_le _ _ (UInt32.le_iff_toNat_le.2 (hqll ▸ Nat.le_add_right 4 _)), hqll]
      rfl
    · exact Nat.zero_le _
  constructor
  · have hcount : (qcesOf 4 es).length = es.length := by rw [← congrArg List.length hmap, List.length_map]
    obtain ⟨c, hrun, hentries⟩ := hat.run hlen
    rw [hcount] at hrun
    replace hentries : c.qc.entries = qcesOf 4 es := hentries
    exact ⟨c, hrun, hentries, hentries ▸ hmap⟩
  · intro c hc
    obtain ⟨qs, hat'⟩ := hat.leads hlen hc
    exact ⟨UInt32.lt_iff_toNat_lt.2 hat'.roomy.free, hat'.roomy.room⟩

/-- A range on one attribute and a lower bound on another. -/
def twoCriteria : List Criterion := [⟨0x10000, 1, [1, 2], [9]⟩, ⟨0x10001, 7, [5], []⟩]

theorem parseQueryCriteria_setQces_two :
    (∃ c, parseQueryCriteria (setQces (blobMem []) 4 twoCriteria) 40
        (freshQc fun _ => qceAt (blobMem []) 0) 2 = some (.ok, c) ∧ c.qc.entries = qcesOf 4 twoCriteria ∧
      c.qc.entries.map (Qce.criterion (setQces (blobMem []) 4 twoCriteria)) = twoCriteria) ∧
    ∀ c, Leads (queryRound (setQces (blobMem []) 4 twoCriteria))
        (startQuery (setQces (blobMem []) 4 twoCriteria) 40 (freshQc fun _ => qceAt (blobMem []) 0)) c →
      c.qc.qcCnt < c.qc.qcCntLimit ∧ c.qc.room = c.qc.qcCntLimit.toNat :=
  parseQueryCriteria_setQces (blobMem []) (fun _ => qceAt (blobMem []) 0)
    (by intro e he; rcases List.mem_cons.1 he with rfl | he
        · exact ⟨by decide, by decide⟩
        · rw [List.mem_singleton.1 he]
          exact ⟨by decide, by decide⟩) (by decide)

end OsdTarget
