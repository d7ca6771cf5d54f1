import OsdTarget.Pagination

/-!
# Listing while the ids change

Between the pages of a listing other commands create and remove.  Each page is taken from the table as it
is then, so what the listing shows is the table at several times; nothing is shown twice, and what was
there at all these times is shown.
-/

namespace OsdTarget

open Base

variable {env : Env} {s s' : Target} {d : Db} {c : ListCommand} {alloc initial : UInt64} {p : ListPage}

/-! ## One page -/

/-- What a page shows of a table: from its initial id up to the id it is to be continued from. -/
structure ShowsTo (c : ListCommand) (d : Db) (initial : UInt64) (p : ListPage) : Prop where
  found : ∀ id ∈ p.ids, initial ≤ id ∧ c.Lists d (bindInt64 id)
  mem : ∀ id, initial ≤ id → (id ∈ p.ids ↔ c.Lists d (bindInt64 id) ∧ (p.contId = 0 ∨ id < p.contId))
  sorted : p.ids.Pairwise (· < ·)
  moves : p.contId ≠ 0 → initial < p.contId ∧ p.contId.toNat < 2 ^ 63

/-- A call whose query SQLite refuses gives no page. -/
theorem ListCommand.page_answered (h24 : 24 ≤ alloc.toNat) (h : c.page env alloc initial s = some (p, s')) :
    env.queryFails (c.query initial) s.db = false := by
  by_contra hq
  have hq : env.queryFails (c.query initial) s.db = true := by simpa using hq
  have h24' : (24 : UInt64) ≤ alloc := UInt64.le_iff_toNat_le.2 h24
  have h0 : alloc ≠ 0 := by
    rintro rfl
    exact absurd h24' (by decide)
  obtain ⟨headerLen, ccap, err, -, hcall⟩ := c.call_eq env initial h0 (UInt64.not_lt.2 h24')
  have hrefused : Ends (c.call env alloc initial) (s.withOut []) fun r _ => r.2 = none := by
    rw [hcall]
    refine ends_bind.2 (ends_modify.2 (ends_bind.2 (ends_modify.2 (ends_bind.2 (ends_bind.2
      (dbExecQuery_ends (fun hok => ?_) fun _ => ?_))))))
    · exact nomatch hq.symm.trans hok
    · exact ends_ite_of (fun _ => ends_pure.2 (ends_ite_of (fun _ => ends_pure.2 rfl) fun hno => absurd nofun hno))
        fun hno => absurd nofun hno
  unfold ListCommand.page at h
  cases hrun : c.call env alloc initial (s.withOut []) with
  | none =>
    rw [hrun] at h
    cases h
  | some r =>
    obtain ⟨⟨ret, used⟩, t⟩ := r
    obtain rfl : used = none := hrefused _ _ hrun
    rw [hrun] at h
    cases ret <;> cases h

/-- **A page shows what matches, from its initial id up to the id it is to be continued from.** -/
theorem ListCommand.page_shows (hd : Listable s.db) (halloc : 32 ≤ alloc.toNat)
    (hi : initial.toNat < 2 ^ 63)
    (h : c.page env alloc initial s = some (p, s')) : ShowsTo c s.db initial p := by
  have hrows : (c.rows initial s.db).length < 2 ^ 60 := c.length_rows hd
  have h24 : 24 ≤ alloc.toNat := by omega
  obtain ⟨q, t, hpage, -, hq⟩ := c.page_run h24 (c.page_answered h24 h)
    (show 16 + 8 * (c.rows initial s.db).length < 2 ^ 64 by omega)
  obtain ⟨rfl, rfl⟩ := Prod.mk.inj (Option.some.inj (hpage.symm.trans h))
  have hids : q.ids = ((c.ids s.db initial).take ((alloc.toNat - 24) / 8)).map columnInt64 := by
    rw [List.map_take]
    exact hq.ids
  have hcont : q.contId = ((((c.ids s.db initial).drop ((alloc.toNat - 24) / 8)).map columnInt64).find?
      (· ≠ 0)).getD 0 := by
    rw [List.map_drop]
    exact hq.contId
  have hroom : 1 ≤ (alloc.toNat - 24) / 8 := by omega
  generalize (alloc.toNat - 24) / 8 = k at hids hcont hroom
  have hbounds : ∀ z ∈ c.ids s.db initial, 0 ≤ z ∧ z < 2 ^ 63 := fun z hz =>
    (ListCommand.mem_ids.1 hz).1.bounds hd
  -- ids of the client and of the columns
  have hcolumn : ∀ id, id ∈ q.ids ↔ bindInt64 id ∈ (c.ids s.db initial).take k := fun id => by
    rw [hids, List.mem_map]
    constructor
    · rintro ⟨z, hz, rfl⟩
      rwa [(listedId (hbounds z (List.mem_of_mem_take hz))).1]
    · exact fun hz => ⟨_, hz, columnInt64_bindInt64 id⟩
  have hinitial : ∀ id z, z ∈ c.ids s.db initial → z = bindInt64 id → initial ≤ id := fun id z hz heq => by
    have hle := (ListCommand.mem_ids.1 hz).2
    have hto := (listedId (hbounds z hz)).2
    rw [heq, columnInt64_bindInt64] at hto
    rw [bindInt64_of_lt hi, heq] at hle
    have hb := hbounds z hz
    rw [heq] at hb
    rw [UInt64.le_iff_toNat_le]
    omega
  have hmem : ∀ id, initial ≤ id → (bindInt64 id ∈ c.ids s.db initial ↔ c.Lists s.db (bindInt64 id))
      := fun id hle => by
    rw [ListCommand.mem_ids]
    refine and_iff_left_of_imp fun hl => ?_
    have hb := hl.bounds hd
    have hto := toNat_lt_of_bindInt64 hb.1
    rw [bindInt64_of_lt hi, bindInt64_of_lt hto]
    exact Int.ofNat_le.2 (UInt64.le_iff_toNat_le.1 hle)
  have hsorted : (c.ids s.db initial).SortedLT := (c.pairwise_ids hd).sortedLT
  refine ⟨fun id hid => ?_, fun id hle => ?_, ?_, fun hne => ?_⟩
  · have hz := List.mem_of_mem_take ((hcolumn id).1 hid)
    exact ⟨hinitial id _ hz rfl, (ListCommand.mem_ids.1 hz).1⟩
  · rw [hcolumn id]
    cases hdrop : (c.ids s.db initial).drop k with
    | nil =>
      rw [List.take_of_length_le (List.drop_eq_nil_iff.1 hdrop), hmem id hle]
      rw [hdrop] at hcont
      exact (and_iff_left (.inl hcont)).symm
    | cons z rest =>
      have hz : z ∈ c.ids s.db initial := List.mem_of_mem_drop (hdrop ▸ List.mem_cons_self)
      have hne : columnInt64 z ≠ 0 := c.cont_ne_zero hd hroom hdrop
      rw [hdrop, List.map_cons, List.find?_cons_of_pos (by simpa using hne)] at hcont
      have hcont : q.contId = columnInt64 z := hcont
      rw [mem_take_iff hsorted hdrop, hmem id hle, hcont, or_iff_right hne]
      refine and_congr_right fun hl => ?_
      have hb := hl.bounds hd
      have hto := toNat_lt_of_bindInt64 hb.1
      have hzb := hbounds z hz
      rw [bindInt64_of_lt hto, UInt64.lt_iff_toNat_lt, (listedId hzb).2]
      omega
  · rw [hids, List.pairwise_map]
    refine (hsorted.pairwise.sublist (List.take_sublist k _)).imp_of_mem fun {x y} hx hy hlt => ?_
    have hx' := hbounds x (List.mem_of_mem_take hx)
    have hy' := hbounds y (List.mem_of_mem_take hy)
    rw [UInt64.lt_iff_toNat_lt, (listedId hx').2, (listedId hy').2]
    omega
  · cases hdrop : (c.ids s.db initial).drop k with
    | nil =>
      rw [hdrop] at hcont
      exact absurd hcont hne
    | cons z rest =>
      have hz : z ∈ c.ids s.db initial := List.mem_of_mem_drop (hdrop ▸ List.mem_cons_self)
      rw [hdrop, List.map_cons, List.find?_cons_of_pos (by simpa using c.cont_ne_zero hd hroom hdrop)] at hcont
      have hcont : q.contId = columnInt64 z := hcont
      -- there is room for at least one id, and it comes before
      obtain ⟨y, hy⟩ : ∃ y, y ∈ (c.ids s.db initial).take k := by
        refine List.exists_mem_of_length_pos ?_
        rw [List.length_take]
        have hlen := List.length_pos_of_mem hz
        omega
      obtain ⟨hmemy, hlt⟩ := (mem_take_iff hsorted hdrop).1 hy
      have hle := (ListCommand.mem_ids.1 hmemy).2
      have hzb := hbounds z hz
      rw [bindInt64_of_lt hi] at hle
      rw [hcont, UInt64.lt_iff_toNat_lt, (listedId hzb).2]
      omega

/-! ## Page after page -/

/-- A call of a listing: where it is made, how long its reply may be, what it finds and what it gets. -/
structure ListCall where
  env : Env
  alloc : UInt64
  found : Target
  page : ListPage

/-- Calls one after the other, each from where the page before is to be continued, up to a page that is
not to be continued.  Between them anything may happen to the device. -/
inductive Listing (c : ListCommand) : UInt64 → List ListCall → Prop
  | last {initial : UInt64} {call : ListCall} {t : Target}
    (hpage : c.page call.env call.alloc initial call.found = some (call.page, t))
    (h0 : call.page.contId = 0) :
    Listing c initial [call]
  | next {initial : UInt64} {call : ListCall} {t : Target} {calls : List ListCall}
    (hpage : c.page call.env call.alloc initial call.found = some (call.page, t))
    (hne : call.page.contId ≠ 0)
    (hrest : Listing c call.page.contId calls) : Listing c initial (call :: calls)

/-- What the client sees. -/
def listed (calls : List ListCall) : List UInt64 := calls.flatMap fun call => call.page.ids

/-- The replies have room for an id, and the tables are such that ids can be listed. -/
def ListCall.Fits (call : ListCall) : Prop := 32 ≤ call.alloc.toNat ∧ Listable call.found.db

/-- Each id from the first one on falls to a call that lists it if it finds it. -/
theorem Listing.lists {calls : List ListCall} (h : Listing c initial calls) (hi : initial.toNat < 2 ^ 63)
    (hfits : ∀ call ∈ calls, call.Fits) :
    (listed calls).Pairwise (· < ·) ∧
      (∀ call ∈ calls, ∀ id ∈ call.page.ids, initial ≤ id ∧ c.Lists call.found.db (bindInt64 id)) ∧
      ∀ id, initial ≤ id → ∃ call ∈ calls, c.Lists call.found.db (bindInt64 id) → id ∈ listed calls := by
  induction h with
  | @last initial call t hpage h0 =>
    obtain ⟨halloc, hd⟩ := hfits call (List.mem_singleton_self _)
    have hshows : ShowsTo c call.found.db initial call.page := c.page_shows hd halloc hi hpage
    have hlisted : listed [call] = call.page.ids := List.append_nil _
    rw [hlisted]
    refine ⟨hshows.sorted, fun later hlater => ?_, fun id hle => ⟨call,
      List.mem_singleton_self _, fun hl => ?_⟩⟩
    · rw [List.mem_singleton.1 hlater]
      exact hshows.found
    · exact (hshows.mem id hle).2 ⟨hl, .inl h0⟩
  | @next initial call t calls hpage hne hrest ih =>
    obtain ⟨⟨halloc, hd⟩, hrests⟩ := List.forall_mem_cons.1 hfits
    have hshows : ShowsTo c call.found.db initial call.page := c.page_shows hd halloc hi hpage
    obtain ⟨hmoves, hcont⟩ := hshows.moves hne
    obtain ⟨hsorted, hfound, hall⟩ := ih hcont hrests
    have hlisted : listed (call :: calls) = call.page.ids ++ listed calls := rfl
    rw [hlisted]
    refine ⟨List.pairwise_append.2 ⟨hshows.sorted, hsorted, fun a ha b hb => ?_⟩,
      List.forall_mem_cons.2 ⟨hshows.found, fun later hlater id hid => ?_⟩, fun id hle => ?_⟩
    · -- the later pages begin where this one ends
      obtain ⟨later, hlater, hb⟩ := List.mem_flatMap.1 hb
      have hlt : a < call.page.contId :=
        ((hshows.mem a (hshows.found a ha).1).1 ha).2.resolve_left hne
      exact UInt64.lt_of_lt_of_le hlt (hfound later hlater b hb).1
    · exact ⟨UInt64.le_trans (UInt64.le_of_lt hmoves) (hfound later hlater id hid).1,
        (hfound later hlater id hid).2⟩
    · by_cases hlt : id < call.page.contId
      · exact ⟨call, List.mem_cons_self, fun hl => List.mem_append_left _ ((hshows.mem id hle).2 ⟨hl,
          .inr hlt⟩)⟩
      · obtain ⟨later, hlater, hin⟩ := hall id (UInt64.not_lt.1 hlt)
        exact ⟨later, List.mem_cons_of_mem _ hlater, fun hl => List.mem_append_right _ (hin hl)⟩

/-- **A listing shows nothing twice, on each page only what it found, and all that it found at every call**,
whatever is created and removed between its calls. -/
theorem listing_interleaved {calls : List ListCall} (h : Listing c 0 calls)
    (hfits : ∀ call ∈ calls, call.Fits) :
    (listed calls).Pairwise (· < ·) ∧
    (∀ call ∈ calls, ∀ id ∈ call.page.ids, c.Lists call.found.db (bindInt64 id)) ∧
    ∀ id, (∀ call ∈ calls, c.Lists call.found.db (bindInt64 id)) → id ∈ listed calls := by
  obtain ⟨hsorted, hfound, hall⟩ := h.lists (show (0 : UInt64).toNat < _ by decide) hfits
  refine ⟨hsorted, fun call hcall id hid => (hfound call hcall id hid).2, fun id hthere => ?_⟩
  obtain ⟨call, hcall, hin⟩ := hall id (UInt64.le_iff_toNat_le.2 (Nat.zero_le _))
  exact hin (hthere call hcall)

/-- Between the two pages one of the three objects is removed and another is created. -/
def threeObjectsLater : Target :=
  calmRun [.createPartition 0, .create 0x10000 0 3, .remove 0x10000 0x10001, .create 0x10000 0 1]

theorem threeObjects_listable : Listable threeObjects.db :=
  ⟨by decide +kernel, by decide +kernel, by decide +kernel, by decide +kernel, by decide +kernel⟩

theorem threeObjectsLater_listable : Listable threeObjectsLater.db :=
  ⟨by decide +kernel, by decide +kernel, by decide +kernel, by decide +kernel, by decide +kernel⟩

def firstCall : ListCall := ⟨Env.calm, 40, threeObjects, ⟨0, 40, 40, 0x10002, [0x10000, 0x10001]⟩⟩

def secondCall : ListCall := ⟨Env.calm, 40, threeObjectsLater, ⟨0x10002, 40, 32, 0, [0x10002, 0x10003]⟩⟩

theorem ListCall.page_of {call : ListCall}
    (h : (c.page call.env call.alloc initial call.found).map Prod.fst = some call.page) :
    ∃ t, c.page call.env call.alloc initial call.found = some (call.page, t) := by
  obtain ⟨⟨p, t⟩, hrun, hp⟩ := Option.map_eq_some_iff.1 h
  exact ⟨t, hrun.trans (congrArg (fun q => some (q, t)) hp)⟩

theorem twoCalls_listing : Listing (.list 0x10000) 0 [firstCall, secondCall] := by
  obtain ⟨t, hfirst⟩ : ∃ t, (ListCommand.list 0x10000).page firstCall.env firstCall.alloc 0 firstCall.found =
      some (firstCall.page, t) := ListCall.page_of (by decide +kernel)
  obtain ⟨u, hsecond⟩ : ∃ u, (ListCommand.list 0x10000).page secondCall.env secondCall.alloc
      firstCall.page.contId secondCall.found = some (secondCall.page, u) :=
        ListCall.page_of (by decide +kernel)
  exact .next hfirst (by decide) (.last hsecond rfl)

theorem listing_interleaved_twoCalls : (listed [firstCall, secondCall]).Pairwise (· < ·) ∧
    (∀ call ∈ [firstCall, secondCall], ∀ id ∈ call.page.ids,
      (ListCommand.list 0x10000).Lists call.found.db (bindInt64 id)) ∧
    ∀ id, (∀ call ∈ [firstCall, secondCall], (ListCommand.list 0x10000).Lists call.found.db (bindInt64 id)) →
      id ∈ listed [firstCall, secondCall] :=
  listing_interleaved twoCalls_listing fun call hcall => by
    have hroom : 32 ≤ (40 : UInt64).toNat := by decide
    rcases List.mem_cons.1 hcall with rfl | hcall
    · exact ⟨hroom, threeObjects_listable⟩
    · rw [List.mem_singleton.1 hcall]
      exact ⟨hroom, threeObjectsLater_listable⟩

end OsdTarget
