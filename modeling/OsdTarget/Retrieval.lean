import OsdTarget.Items

/-!
# What a retrieval answers, apart from its reply

`osd_getattr_list` chooses what to answer and packs it into the reply at the same time, and the room
left decides where it stops.  Here the two are taken apart: `retrieve` runs the command without a
reply buffer and gives the items it would pack.
-/

namespace OsdTarget

open Base

/-! ## What each getter answers -/

/-- A row of table `attr` as an item. -/
def rowItem (tag : Option UInt64) (r : AttrRow) : Item :=
  ⟨tag, columnInt r.page, columnInt r.number, UInt16.ofNat r.value.length, some (blobMem r.value)⟩

/-- A computed value as the only item. -/
def valItems (tag : Option UInt64) (page number : UInt32) (v : Option (UInt16 × Mem)) :
    Option (List Item) :=
  v.map fun v => [⟨tag, page, number, v.1, some v.2⟩]

variable (env : Env)

/-- The rows of a retrieval; `none` when the query fails. -/
def rowItems (s : Target) (pid oid : UInt64) (tag : Option UInt64) (q : Rtrvl) : Option (List Item) :=
  if env.queryFails (.attrRtrvl (bindInt64 pid) (bindInt64 oid)) s.db then none
  else some ((q.rows s.db (bindInt64 pid) (bindInt64 oid)).map (rowItem tag))

/-- `attr_get_attr`: `none` for an error, no items for `-ENOENT`. -/
def attrItems (s : Target) (pid oid : UInt64) (page number : UInt32) (tag : Option UInt64) :
    Option (List Item) :=
  if page = USER_INFO_PG then
    if number = UIAP_USERNAME then rowItems env s pid oid tag (.attr USER_INFO_PG UIAP_USERNAME)
    else valItems tag page number (userInfoVal env s pid oid number)
  else if page = ROOT_INFO_PG then
    if number = RIAP_OSD_NAME then rowItems env s pid oid tag (.attr ROOT_INFO_PG RIAP_OSD_NAME)
    else if number = RIAP_OSD_SYSTEM_ID then
      match rowItems env s pid oid tag (.attr ROOT_INFO_PG 20) with
      | some [] => some [⟨tag, page, number, 20, some (blobMem defaultSystemId)⟩]
      | r => r
    else valItems tag page number (rootInfoVal env number)
  else some [⟨tag, page, number, 0, none⟩]

/-- The statement `mutiplex_getattr_list` picks. -/
def rtrvlOf (page number : UInt32) : Rtrvl :=
  if page = GETALLATTR_PG then
    if number = ATTRNUM_GETALL then .allAttrs else .forAllPages number
  else
    if number = ATTRNUM_GETALL then .pageAsList page else .attr page number

/-- The `switch` of `osd_getattr_list`: `none` for an error, no items for `-ENOENT`. -/
def pageItems (s : Target) (pid oid : UInt64) (page number : UInt32) (listfmt : UInt8) :
    Option (List Item) :=
  let tag := tagOf listfmt oid
  if page = CUR_CMD_ATTR_PG then valItems none CUR_CMD_ATTR_PG number (ccapVal s.ccap number)
  else if page = PARTITION_DIR_PG + USER_TMSTMP_PG ∨ page = USER_TMSTMP_PG then
    valItems tag USER_TMSTMP_PG number (utsapVal env s pid oid number)
  else if page = PARTITION_DIR_PG + USER_QUOTA_PG ∨ page = PARTITION_DIR_PG + USER_INFO_PG ∨
      page = USER_INFO_PG then
    -- there `-ENOENT` is an error like the others
    match attrItems env s pid oid page number tag with
    | some [] => none
    | r => r
  else if page = ROOT_INFO_PG then attrItems env s pid oid page number tag
  else rowItems env s pid oid tag (rtrvlOf page number)

/-- A single attribute, as opposed to all of a page or of a number. -/
def IsSingle (page number : UInt32) : Prop := page ≠ GETALLATTR_PG ∧ number ≠ ATTRNUM_GETALL

instance (page number : UInt32) : Decidable (IsSingle page number) :=
  inferInstanceAs (Decidable (_ ∧ _))

/-- A single attribute that is not there is answered by an entry of length 0. -/
def fillNull (tag : Option UInt64) (page number : UInt32) (items : List Item) : List Item :=
  if items = [] ∧ IsSingle page number then [⟨tag, page, number, 0, none⟩] else items

/-- `osd_getattr_list` without its reply: the items it would pack, `none` when it fails. -/
def retrieve (pid oid : UInt64) (page number : UInt32) (isembedded : Bool) (listfmt : UInt8) :
    OsdM (Option (List Item)) := do
  let objType ← getObjType env pid oid
  if objType = .illegal then
    return none
  if !isgettablePage objType page then
    return none
  if (← lazyInitAttr env pid oid page number) ≠ .ok then
    return none
  match pageItems env (← get) pid oid page number listfmt with
  | none => return none
  | some items =>
    if !isembedded then
      setCcap (fillCcap objType pid oid 0)
    return some (fillNull (tagOf listfmt oid) page number items)

/-! ## The getters pack what they answer -/

/-- A getter given `room` bytes at `pos`, whose answer is `ans`. -/
def Answers (pos room : Nat) (s : Target) (ans : Option (List Item)) (r : Ret × Option UInt32)
    (s' : Target) : Prop :=
  s'.core = s.core ∧ match ans with
  | none => r.1 ≠ .ok ∧ r.1 ≠ .err .enoent
  | some items => Emits pos (emit room items) s s' ∧
    r.2 = some (UInt32.ofNat (emit room items).length) ∧
    (r.1 = .ok ∧ items ≠ [] ∨ r.1 = .err .enoent ∧ emit room items = [])

section Getters

variable {env : Env} {s : Target} {pos : Nat} {outlen : UInt64} {listfmt : UInt8}

theorem toUInt32_toNat_of_lt (h : outlen.toNat < 2 ^ 32) : outlen.toUInt32.toNat = outlen.toNat := by
  rw [UInt64.toNat_toUInt32]
  exact Nat.mod_eq_of_lt h

theorem gatherAttrs_packs (hf : IsFormat listfmt) (oid : UInt64) (rows : List AttrRow) (pos : Nat)
    (outlen : UInt64) (g : Gathered) (hal : Aligned env pos outlen.toNat)
    (hlt : outlen.toNat < 2 ^ 32) :
    Ends (gatherAttrs env oid listfmt rows pos outlen g) s (fun g' s' => s'.core = s.core ∧
      Emits pos (emit outlen.toNat (rows.map (rowItem (tagOf listfmt oid)))) s s' ∧
      g'.len = g.len + UInt32.ofNat (emit outlen.toNat (rows.map (rowItem (tagOf listfmt oid)))).length ∧
      g'.inval = g.inval ∧
      (g'.found = true ↔ g.found = true ∨
        emit outlen.toNat (rows.map (rowItem (tagOf listfmt oid))) ≠ [])) := by
  induction rows generalizing pos outlen g s with
  | nil => exact ends_pure.2 ⟨rfl, .refl _ _, by simp [emit], rfl, by simp [emit]⟩
  | cons r rows ih =>
    have h32 := toUInt32_toNat_of_lt hlt
    set x : Item := rowItem (tagOf listfmt oid) r with hx
    refine ends_call (packAttr_packs hf (by rw [h32]; exact hal) oid (columnInt r.page)
      (columnInt r.number) (UInt16.ofNat r.value.length) (some (blobMem r.value))) ?_
    rintro ret t ⟨hcore, ht⟩
    rw [h32, show (⟨tagOf listfmt oid, columnInt r.page, columnInt r.number,
      UInt16.ofNat r.value.length, some (blobMem r.value)⟩ : Item) = x from rfl] at ht
    rcases ht with ⟨hroom, rfl, he⟩ | ⟨hroom, rfl, he⟩
    · have hlen := Item.bytes_length hal.2 hroom
      have hn : (UInt64.ofNat (x.bytes outlen.toNat).length).toNat = (x.bytes outlen.toNat).length := by
        rw [UInt64.toNat_ofNat']
        exact Nat.mod_eq_of_lt (by omega)
      have hsub : (outlen - UInt64.ofNat (x.bytes outlen.toNat).length).toNat
          = outlen.toNat - (x.bytes outlen.toNat).length := by
        rw [UInt64.toNat_sub_of_le _ _ (by rw [UInt64.le_iff_toNat_le]; omega), hn]
      have hemit : emit outlen.toNat ((r :: rows).map (rowItem (tagOf listfmt oid)))
          = x.bytes outlen.toNat ++ emit (outlen.toNat - (x.bytes outlen.toNat).length)
            (rows.map (rowItem (tagOf listfmt oid))) := by
        rw [List.map_cons, ← hx, emit, if_neg (Nat.not_lt.2 hroom)]
      refine (ih (s := t) _ _ _ ⟨?_, ?_⟩ ?_).mono ?_
      · have := hal.1
        show (env.outAddr + (pos + (x.bytes outlen.toNat).length)) % 8 = 0
        omega
      · show (outlen - UInt64.ofNat (x.bytes outlen.toNat).length).toNat % 8 = 0
        have := hal.2
        omega
      · show (outlen - UInt64.ofNat (x.bytes outlen.toNat).length).toNat < 2 ^ 32
        omega
      · rintro g' s' ⟨hc, hem, hl, hi, hfound⟩
        rw [hsub] at hem hl hfound
        rw [hemit]
        refine ⟨hc.trans hcore, he.append hem, ?_, hi, ?_⟩
        · rw [hl, List.length_append, UInt32.ofNat_add, UInt32.add_assoc]
        · have hne : x.bytes outlen.toNat ++ emit (outlen.toNat - (x.bytes outlen.toNat).length)
              (rows.map (rowItem (tagOf listfmt oid))) ≠ [] := by
            intro hnil
            have := congrArg List.length hnil
            rw [List.length_append, List.length_nil] at this
            omega
          exact ⟨fun _ => .inr hne, fun _ => hfound.2 (.inl rfl)⟩
    · have hemit : emit outlen.toNat ((r :: rows).map (rowItem (tagOf listfmt oid))) = [] := by
        rw [List.map_cons, ← hx, emit, if_pos hroom]
      rw [hemit]
      exact ends_pure.2 ⟨hcore, he, by simp, rfl, by simp⟩

theorem execAttrRtrvlStmt_answers (hf : IsFormat listfmt) (hal : Aligned env pos outlen.toNat)
    (hlt : outlen.toNat < 2 ^ 32) (q : Rtrvl) (pid oid : UInt64) :
    Ends (execAttrRtrvlStmt env q pid oid listfmt pos outlen) s
      (Answers pos outlen.toNat s (rowItems env s pid oid (tagOf listfmt oid) q)) := by
  unfold execAttrRtrvlStmt rowItems
  refine ends_bind.2 (ends_get.2 ?_)
  by_cases hq : env.queryFails (.attrRtrvl (bindInt64 pid) (bindInt64 oid)) s.db = true
  · rw [if_pos hq, if_pos hq]
    exact ends_pure.2 ⟨rfl, by simp, by simp⟩
  · rw [if_neg hq, if_neg hq]
    refine ends_call (gatherAttrs_packs hf oid _ pos outlen ⟨0, false, false⟩ hal hlt) ?_
    rintro g t ⟨hcore, he, hlen, hinval, hfound⟩
    have hg : ¬ g.inval = true := by rw [hinval]; simp
    rw [if_neg hg]
    have hlen' : g.len = UInt32.ofNat (emit outlen.toNat ((q.rows s.db (bindInt64 pid) (bindInt64 oid)).map
        (rowItem (tagOf listfmt oid)))).length := by
      rw [hlen]
      exact UInt32.zero_add _
    by_cases hfd : g.found = true
    · rw [if_pos hfd]
      refine ends_pure.2 ⟨hcore, he, by rw [hlen'], .inl ⟨rfl, ?_⟩⟩
      intro hnil
      rw [hnil] at hfound
      exact absurd (hfound.1 hfd) (by simp [emit])
    · rw [if_neg hfd]
      refine ends_pure.2 ⟨hcore, he, by rw [hlen'], .inr ⟨rfl, ?_⟩⟩
      by_contra hne
      exact hfd (hfound.2 (.inr hne))

/-- A getter that packs one item and reports its length, 0 when it does not fit. -/
theorem PacksItem.answers {room : Nat} {x : Item} {r : Except Errno Nat} {s' : Target}
    (h : PacksItem pos room x s r s') {res : Ret × Option UInt32}
    (hok : ∀ n, r = .ok n → res = (.ok, some (UInt32.ofNat n)))
    (hover : r = .error .eoverflow → res = (.ok, some 0)) : Answers pos room s (some [x]) res s' := by
  obtain ⟨hcore, ⟨hroom, hr, he⟩ | ⟨hroom, hr, he⟩⟩ := h
  · have hx : emit room [x] = x.bytes room := by rw [emit_singleton, if_neg (Nat.not_lt.2 hroom)]
    rw [hok _ hr]
    exact ⟨hcore, by rw [hx]; exact he, by rw [hx], .inl ⟨rfl, by simp⟩⟩
  · have hx : emit room [x] = [] := by rw [emit_singleton, if_pos hroom]
    rw [hover hr]
    exact ⟨hcore, by rw [hx]; exact he, by rw [hx]; rfl, .inl ⟨rfl, by simp⟩⟩

theorem packValue_answers (hf : IsFormat listfmt) (hal : Aligned env pos outlen.toNat)
    (hlt : outlen.toNat < 2 ^ 32) (oid : UInt64) (page number : UInt32) (len : UInt16)
    (val : Option Mem) : Ends (packValue env listfmt pos outlen oid page number len val) s
      (Answers pos outlen.toNat s (some [⟨tagOf listfmt oid, page, number, len, val⟩])) := by
  have h32 := toUInt32_toNat_of_lt hlt
  have hfmt : ¬ (listfmt ≠ RTRVD_SET_ATTR_LIST ∧ listfmt ≠ RTRVD_CREATE_MULTIOBJ_LIST) :=
    fun h => hf.elim h.1 h.2
  unfold packValue
  rw [if_neg hfmt]
  refine ends_call (packAttr_packs hf (by rw [h32]; exact hal) oid page number len val) fun r t h => ?_
  rw [h32] at h
  cases r with
  | ok n => exact ends_pure.2 (h.answers (fun m hm => by cases hm; rfl) (fun hm => nomatch hm))
  | error e =>
    obtain ⟨-, ⟨-, hr, -⟩ | ⟨-, hr, -⟩⟩ := id h
    · cases hr
    · cases hr
      exact ends_pure.2 (h.answers (fun m hm => nomatch hm) (fun _ => rfl))

/-- A computed value, or the error of a getter that has none. -/
theorem valItems_answers {tag : Option UInt64} {page number : UInt32} {v : Option (UInt16 × Mem)}
    {e : Ret} {m : UInt16 → Mem → OsdM (Ret × Option UInt32)} (he : e ≠ .ok ∧ e ≠ .err .enoent)
    (hm : ∀ len val, Ends (m len val) s
      (Answers pos outlen.toNat s (some [⟨tag, page, number, len, some val⟩]))) :
    Ends (match v with
      | none => pure (e, none)
      | some (len, val) => m len val) s (Answers pos outlen.toNat s (valItems tag page number v)) := by
  cases v with
  | none => exact ends_pure.2 ⟨rfl, he⟩
  | some v => exact hm v.1 v.2

/-- The id of the device: looked up under another number, a constant when it is not there. -/
theorem systemId_answers (hf : IsFormat listfmt) (hal : Aligned env pos outlen.toNat)
    (hlt : outlen.toNat < 2 ^ 32) (pid oid : UInt64) (page number : UInt32) :
    Ends (do
      match ← attrGetConversion env pid oid ROOT_INFO_PG 20 listfmt pos outlen with
      | (.err .enoent, _) =>
        packValue env listfmt pos outlen oid page number 20 (some (blobMem defaultSystemId))
      | r => return r) s (Answers pos outlen.toNat s
        (match rowItems env s pid oid (tagOf listfmt oid) (.attr ROOT_INFO_PG 20) with
          | some [] => some [⟨tagOf listfmt oid, page, number, 20, some (blobMem defaultSystemId)⟩]
          | r => r)) := by
  refine ends_call (execAttrRtrvlStmt_answers hf hal hlt (.attr ROOT_INFO_PG 20) pid oid) fun r t h => ?_
  obtain ⟨hcore, h⟩ := h
  have hpass : ∀ (r : Ret × Option UInt32) (Q : Ret × Option UInt32 → Target → Prop), Q r t →
      r.1 ≠ .err .enoent → Ends (match r with
        | (.err .enoent, _) =>
          packValue env listfmt pos outlen oid page number 20 (some (blobMem defaultSystemId))
        | r => (return r : OsdM (Ret × Option UInt32))) t Q := by
    rintro ⟨ret, used⟩ Q hQ hne
    split
    · rename_i heq
      cases heq
      exact absurd rfl hne
    · exact ends_pure.2 hQ
  cases hrows : rowItems env s pid oid (tagOf listfmt oid) (.attr ROOT_INFO_PG 20) with
  | none =>
    rw [hrows] at h
    exact hpass r _ ⟨hcore, h⟩ h.2
  | some items =>
    rw [hrows] at h
    obtain ⟨he, hused, ⟨hok, hne⟩ | ⟨hno, hnil⟩⟩ := h
    · refine hpass r _ ?_ (by rw [hok]; simp)
      cases items with
      | nil => exact absurd rfl hne
      | cons x items => exact ⟨hcore, he, hused, .inl ⟨hok, hne⟩⟩
    · obtain ⟨ret, used⟩ := r
      obtain rfl : ret = .err .enoent := hno
      rw [hnil] at he
      refine (packValue_answers hf hal hlt oid page number 20 (some (blobMem defaultSystemId))).mono ?_
      rintro r' t' ⟨hcore', he', hused', hret'⟩
      cases items with
      | nil => exact ⟨hcore'.trans hcore, he.append he', hused', hret'⟩
      | cons x items =>
        have htag : x.tag = Item.tag ⟨tagOf listfmt oid, page, number, 20,
            some (blobMem defaultSystemId)⟩ := by
          unfold rowItems at hrows
          split at hrows
          · cases hrows
          · cases hr : (Rtrvl.attr ROOT_INFO_PG 20).rows s.db (bindInt64 pid) (bindInt64 oid) with
            | nil => rw [hr] at hrows; cases hrows
            | cons r rows =>
              rw [hr, List.map_cons] at hrows
              cases hrows
              rfl
        have hlt := lt_need_of_emit_nil hnil hal.2
        have hneed : x.need = Item.need ⟨tagOf listfmt oid, page, number, 20,
            some (blobMem defaultSystemId)⟩ := congrArg (fun l => l.length + LE_MIN_ITEM_LEN) htag
        rw [emit_singleton, if_pos (hneed ▸ hlt)] at he' hused'
        refine ⟨hcore'.trans hcore, ?_, ?_, ?_⟩
        · rw [hnil]
          exact he.append he'
        · rw [hnil]
          exact hused'
        · exact hret'.imp (fun h => ⟨h.1, by simp⟩) fun h => ⟨h.1, hnil⟩

theorem attrGetAttr_answers (hf : IsFormat listfmt) (hal : Aligned env pos outlen.toNat)
    (hlt : outlen.toNat < 2 ^ 32) (pid oid : UInt64) (page number : UInt32) :
    Ends (attrGetAttr env pid oid page number listfmt pos outlen) s
      (Answers pos outlen.toNat s (attrItems env s pid oid page number (tagOf listfmt oid))) := by
  have hrows : ∀ q, Ends (execAttrRtrvlStmt env q pid oid listfmt pos outlen) s
      (Answers pos outlen.toNat s (rowItems env s pid oid (tagOf listfmt oid) q)) :=
    fun q => execAttrRtrvlStmt_answers hf hal hlt q pid oid
  have hval : ∀ len val, Ends (packValue env listfmt pos outlen oid page number len (some val)) s
      (Answers pos outlen.toNat s (some [⟨tagOf listfmt oid, page, number, len, some val⟩])) :=
    fun len val => packValue_answers hf hal hlt oid page number len (some val)
  unfold attrGetAttr attrItems
  by_cases hui : page = USER_INFO_PG
  · rw [if_pos hui, if_pos hui]
    by_cases hname : number = UIAP_USERNAME
    · rw [if_pos hname, if_pos hname]
      exact hrows _
    · rw [if_neg hname, if_neg hname]
      exact ends_bind.2 (ends_get.2 (valItems_answers (by simp) hval))
  · rw [if_neg hui, if_neg hui]
    by_cases hri : page = ROOT_INFO_PG
    · rw [if_pos hri, if_pos hri]
      by_cases hname : number = RIAP_OSD_NAME
      · rw [if_pos hname, if_pos hname]
        exact hrows _
      · rw [if_neg hname, if_neg hname]
        by_cases hid : number = RIAP_OSD_SYSTEM_ID
        · rw [if_pos hid, if_pos hid]
          exact systemId_answers hf hal hlt pid oid page number
        · rw [if_neg hid, if_neg hid]
          exact valItems_answers (by simp) hval
    · rw [if_neg hri, if_neg hri]
      exact packValue_answers hf hal hlt oid page number 0 none

/-- A getter that leaves the device alone and reports an error. -/
def Fails (s : Target) (r : Ret × Option UInt32) (s' : Target) : Prop :=
  s'.core = s.core ∧ r.1 ≠ .ok ∧ r.1 ≠ .err .enoent

theorem getCcapAslist_answers (hal : Aligned env pos outlen.toNat) (hlt : outlen.toNat < 2 ^ 32)
    (number : UInt32) : Ends (getCcapAslist env number pos outlen) s
      (Answers pos outlen.toNat s (valItems none CUR_CMD_ATTR_PG number (ccapVal s.ccap number))) := by
  have h32 := toUInt32_toNat_of_lt hlt
  refine ends_bind.2 (ends_get.2 (valItems_answers (by simp) fun len val => ?_))
  refine ends_call (lePackAttr_packs (by rw [h32]; exact hal) _ _ _ _) fun r t h => ends_pure.2 ?_
  rw [h32] at h
  exact h.answers (fun n hn => by rw [hn]; rfl) (fun hn => by rw [hn]; rfl)

theorem getUtsapAslist_answers (hf : IsFormat listfmt) (hal : Aligned env pos outlen.toNat)
    (hlt : outlen.toNat < 2 ^ 32) (pid oid : UInt64) (number : UInt32) :
    Ends (getUtsapAslist env pid oid number listfmt pos outlen) s (Answers pos outlen.toNat s
      (valItems (tagOf listfmt oid) USER_TMSTMP_PG number (utsapVal env s pid oid number))) := by
  have h32 := toUInt32_toNat_of_lt hlt
  refine ends_bind.2 (ends_get.2 (valItems_answers (by simp) fun len val => ?_))
  rcases hf with rfl | rfl
  · refine ends_call (lePackAttr_packs (by rw [h32]; exact hal) _ _ _ _) fun r t h => ends_pure.2 ?_
    rw [h32] at h
    exact h.answers (fun n hn => by rw [hn]; rfl) (fun hn => by rw [hn]; rfl)
  · refine ends_call (leMultiobjPackAttr_packs (by rw [h32]; exact hal) _ _ _ _ _) fun r t h =>
      ends_pure.2 ?_
    rw [h32] at h
    exact h.answers (fun n hn => by rw [hn]; rfl) (fun hn => by rw [hn]; rfl)

/-- `get_uiap` fails too when an attribute is not there, or is and does not fit. -/
theorem getUiap_answers (hf : IsFormat listfmt) (hal : Aligned env pos outlen.toNat)
    (hlt : outlen.toNat < 2 ^ 32) (pid oid : UInt64) (page number : UInt32) :
    Ends (getUiap env pid oid page number listfmt pos outlen) s fun r s' =>
      ∀ ans, ans = (attrItems env s pid oid page number (tagOf listfmt oid)).filter (!·.isEmpty) →
        Answers pos outlen.toNat s ans r s' ∨
          Fails s r s' ∧ ∃ items, ans = some items ∧ items ≠ [] ∧ emit outlen.toNat items = [] := by
  refine ends_call (attrGetAttr_answers hf hal hlt pid oid page number) fun r t h => ?_
  obtain ⟨ret, used⟩ := r
  obtain ⟨hcore, h⟩ := h
  by_cases hok : ret = .ok
  · subst hok
    refine ends_pure.2 fun ans hans => .inl ⟨hcore, ?_⟩
    cases hit : attrItems env s pid oid page number (tagOf listfmt oid) with
    | none =>
      rw [hit] at h
      exact absurd rfl h.1
    | some items =>
      rw [hit] at h hans
      cases items with
      | nil => exact absurd rfl (h.2.2.elim And.right fun h => nomatch h.1)
      | cons x items =>
        subst hans
        exact h
  · split
    · rename_i heq
      cases heq
      exact absurd rfl hok
    refine ends_pure.2 fun ans hans => ?_
    have hfails : ∀ u, Fails s (.err .osdError, u) t := fun _ => ⟨hcore, by simp, by simp⟩
    cases hit : attrItems env s pid oid page number (tagOf listfmt oid) with
    | none =>
      rw [hit] at hans
      subst hans
      exact .inl (hfails _)
    | some items =>
      rw [hit] at h hans
      cases items with
      | nil =>
        subst hans
        exact .inl (hfails _)
      | cons x items =>
        obtain ⟨-, -, ⟨hr, -⟩ | ⟨-, hnil⟩⟩ := h
        · exact absurd hr hok
        · exact .inr ⟨hfails _, _, hans, by simp, hnil⟩

theorem getattrListByPage_answers (hf : IsFormat listfmt) (hal : Aligned env pos outlen.toNat)
    (hlt : outlen.toNat < 2 ^ 32) (pid oid : UInt64) (page number : UInt32) :
    Ends (getattrListByPage env pid oid page number listfmt pos outlen) s fun r s' =>
      Answers pos outlen.toNat s (pageItems env s pid oid page number listfmt) r s' ∨
        Fails s r s' ∧ ∃ items, pageItems env s pid oid page number listfmt = some items ∧
          items ≠ [] ∧ emit outlen.toNat items = [] := by
  unfold getattrListByPage pageItems
  dsimp only
  by_cases hcur : page = CUR_CMD_ATTR_PG
  · rw [if_pos hcur, if_pos hcur]
    exact (getCcapAslist_answers hal hlt number).mono fun _ _ => .inl
  rw [if_neg hcur, if_neg hcur]
  by_cases hts : page = PARTITION_DIR_PG + USER_TMSTMP_PG ∨ page = USER_TMSTMP_PG
  · rw [if_pos hts, if_pos hts]
    exact (getUtsapAslist_answers hf hal hlt pid oid number).mono fun _ _ => .inl
  rw [if_neg hts, if_neg hts]
  by_cases hui : page = PARTITION_DIR_PG + USER_QUOTA_PG ∨ page = PARTITION_DIR_PG + USER_INFO_PG ∨
      page = USER_INFO_PG
  · rw [if_pos hui, if_pos hui]
    refine (getUiap_answers hf hal hlt pid oid page number).mono fun _ _ h => h _ ?_
    cases attrItems env s pid oid page number (tagOf listfmt oid) with
    | none => rfl
    | some items => cases items <;> rfl
  rw [if_neg hui, if_neg hui]
  by_cases hri : page = ROOT_INFO_PG
  · rw [if_pos hri, if_pos hri]
    exact (attrGetAttr_answers hf hal hlt pid oid page number).mono fun _ _ => .inl
  rw [if_neg hri, if_neg hri]
  have hrows : ∀ q, Ends (execAttrRtrvlStmt env q pid oid listfmt pos outlen) s
      (Answers pos outlen.toNat s (rowItems env s pid oid (tagOf listfmt oid) q)) :=
    fun q => execAttrRtrvlStmt_answers hf hal hlt q pid oid
  unfold mutiplexGetattrList rtrvlOf
  split <;> split <;> exact (hrows _).mono fun _ _ => .inl

end Getters

/-! ## `osd_getattr_list` packs what `retrieve` answers -/

section Getattr

variable {env : Env} {s t : Target} {pos : Nat} {outlen : UInt32} {listfmt : UInt8}

theorem fillNullAttr_packs (hf : IsFormat listfmt) (hal : Aligned env pos outlen.toNat) (oid : UInt64)
    (page number : UInt32) : Ends (fillNullAttr env oid page number listfmt pos outlen) s fun r s' =>
      if IsSingle page number then
        PacksItem pos outlen.toNat ⟨tagOf listfmt oid, page, number, 0, none⟩ s r s'
      else r = .ok 0 ∧ s' = s := by
  unfold fillNullAttr
  by_cases hs : IsSingle page number
  · have hs' : page ≠ GETALLATTR_PG ∧ number ≠ ATTRNUM_GETALL := hs
    rw [if_pos hs']
    simp only [if_pos hs]
    rcases hf with rfl | rfl
    · exact lePackAttr_packs hal _ _ _ _
    · exact leMultiobjPackAttr_packs hal _ _ _ _ _
  · have hs' : ¬ (page ≠ GETALLATTR_PG ∧ number ≠ ATTRNUM_GETALL) := hs
    rw [if_neg hs']
    simp only [if_neg hs]
    exact ends_pure.2 ⟨rfl, rfl⟩

/-- Every item carries the tag of the format, or none. -/
theorem pageItems_tag {s : Target} {pid oid : UInt64} {page number : UInt32} {items : List Item}
    (h : pageItems env s pid oid page number listfmt = some items) :
    ∀ x ∈ items, x.oid = none ∨ x.oid = tagOf listfmt oid := by
  have hval : ∀ {tag : Option UInt64} {p : UInt32} {v : Option (UInt16 × Mem)},
      (tag = none ∨ tag = tagOf listfmt oid) → valItems tag p number v = some items →
      ∀ x ∈ items, x.oid = none ∨ x.oid = tagOf listfmt oid := by
    intro tag p v htag hv x hx
    obtain ⟨w, -, rfl⟩ := Option.map_eq_some_iff.1 hv
    obtain rfl := List.mem_singleton.1 hx
    exact htag
  have hrow : ∀ {q : Rtrvl}, rowItems env s pid oid (tagOf listfmt oid) q = some items →
      ∀ x ∈ items, x.oid = none ∨ x.oid = tagOf listfmt oid := by
    intro q hq x hx
    unfold rowItems at hq
    split at hq
    · cases hq
    · cases hq
      obtain ⟨r, -, rfl⟩ := List.mem_map.1 hx
      exact .inr rfl
  have hattr : attrItems env s pid oid page number (tagOf listfmt oid) = some items →
      ∀ x ∈ items, x.oid = none ∨ x.oid = tagOf listfmt oid := by
    intro ha
    unfold attrItems at ha
    split at ha
    · split at ha
      · exact hrow ha
      · exact hval (.inr rfl) ha
    · split at ha
      · split at ha
        · exact hrow ha
        · split at ha
          · split at ha
            · cases ha
              intro x hx
              obtain rfl := List.mem_singleton.1 hx
              exact .inr rfl
            · exact hrow ha
          · exact hval (.inr rfl) ha
      · cases ha
        intro x hx
        obtain rfl := List.mem_singleton.1 hx
        exact .inr rfl
  unfold pageItems at h
  dsimp only at h
  split at h
  · exact hval (.inl rfl) h
  · split at h
    · exact hval (.inr rfl) h
    · split at h
      · split at h
        · cases h
        · exact hattr h
      · split at h
        · exact hattr h
        · exact hrow h

theorem retrieve_tag {s : Target} {pid oid : UInt64} {page number : UInt32} {isembedded : Bool} :
    Ends (retrieve env pid oid page number isembedded listfmt) s fun ans _ => ∀ items, ans = some items →
      ∀ x ∈ items, x.oid = none ∨ x.oid = tagOf listfmt oid := by
  have hnone : ∀ {s : Target}, Ends (pure none : OsdM (Option (List Item))) s fun ans _ =>
      ∀ items, ans = some items → ∀ x ∈ items, x.oid = none ∨ x.oid = tagOf listfmt oid :=
    ends_pure.2 fun _ h => nomatch h
  refine ends_bind.2 fun type s₁ _ => ends_ite_of (fun _ => hnone) fun _ =>
    ends_ite_of (fun _ => hnone) fun _ => ends_bind.2 fun ret s₂ _ =>
    ends_ite_of (fun _ => hnone) fun _ => ends_bind.2 (ends_get.2 ?_)
  cases hitems : pageItems env s₂ pid oid page number listfmt with
  | none => exact hnone
  | some items =>
    have hfill : ∀ x ∈ fillNull (tagOf listfmt oid) page number items,
        x.oid = none ∨ x.oid = tagOf listfmt oid := by
      unfold fillNull
      split
      · intro x hx
        obtain rfl := List.mem_singleton.1 hx
        exact .inr rfl
      · exact pageItems_tag hitems
    refine ends_ite_of (fun _ => ends_bind.2 (ends_modify.2 (ends_pure.2 ?_))) fun _ => ends_pure.2 ?_
    · intro _ h
      cases h
      exact hfill
    · intro _ h
      cases h
      exact hfill

theorem pageItems_core (s : Target) (pid oid : UInt64) (page number : UInt32) (listfmt : UInt8) :
    pageItems env s pid oid page number listfmt = pageItems env s.core pid oid page number listfmt := rfl

/-- What a retrieval with `outlen` bytes at `pos` comes to, beside the answer `ans` of `retrieve`. -/
def Retrieves (pos room : Nat) (s : Target) (ans : Option (List Item)) (t' : Target)
    (r : Ret × Option UInt32) (s' : Target) : Prop :=
  (∃ items, ans = some items ∧ r = (.ok, some (UInt32.ofNat (emit room items).length)) ∧
    Emits pos (emit room items) s s' ∧ s'.core = t'.core) ∨
  r.1 ≠ .ok ∧ (ans = none ∨ ∃ items, ans = some items ∧ items ≠ [] ∧ emit room items = [])

/-- The null entry in place of an answer that is not there, or of one that does not fit. -/
theorem fillNullAttr_emits (hf : IsFormat listfmt) (hal : Aligned env pos outlen.toNat) (oid : UInt64)
    (page number : UInt32) {items : List Item} (hnil : emit outlen.toNat items = [])
    (htag : ∀ x ∈ items, x.oid = none ∨ x.oid = tagOf listfmt oid) :
    Ends (fillNullAttr env oid page number listfmt pos outlen) s fun r s' => s'.core = s.core ∧
      Emits pos (emit outlen.toNat (fillNull (tagOf listfmt oid) page number items)) s s' ∧
      (r = .ok (emit outlen.toNat (fillNull (tagOf listfmt oid) page number items)).length ∨
        r = .error .eoverflow ∧
          emit outlen.toNat (fillNull (tagOf listfmt oid) page number items) = []) := by
  refine (fillNullAttr_packs hf hal oid page number).mono fun r s' h => ?_
  let null : Item := ⟨tagOf listfmt oid, page, number, 0, none⟩
  by_cases hs : IsSingle page number
  · rw [if_pos hs] at h
    obtain ⟨hcore, ⟨hroom, rfl, he⟩ | ⟨hroom, rfl, he⟩⟩ := h
    · have hitems : items = [] := by
        cases items with
        | nil => rfl
        | cons x items =>
          have hlt := lt_need_of_emit_nil hnil hal.2
          have hle : x.need ≤ null.need := by
            have ht : x.tag.length ≤ null.tag.length := by
              rcases htag x List.mem_cons_self with h | h
              · rw [Item.tag, h]
                exact Nat.zero_le _
              · rw [Item.tag, h]
                exact Nat.le_refl _
            unfold Item.need
            omega
          exact absurd hroom (Nat.not_le.2 (Nat.lt_of_lt_of_le hlt hle))
      have hfill : emit outlen.toNat (fillNull (tagOf listfmt oid) page number items)
          = null.bytes outlen.toNat := by
        rw [fillNull, if_pos ⟨hitems, hs⟩, emit_singleton, if_neg (Nat.not_lt.2 hroom)]
      rw [hfill]
      exact ⟨hcore, he, .inl rfl⟩
    · have hfill : emit outlen.toNat (fillNull (tagOf listfmt oid) page number items) = [] := by
        unfold fillNull
        split
        · rw [emit_singleton, if_pos hroom]
        · exact hnil
      rw [hfill]
      exact ⟨hcore, he, .inr ⟨rfl, rfl⟩⟩
  · rw [if_neg hs] at h
    obtain ⟨rfl, rfl⟩ := h
    have hfill : emit outlen.toNat (fillNull (tagOf listfmt oid) page number items) = [] := by
      rw [fillNull, if_neg fun h => hs h.2]
      exact hnil
    rw [hfill]
    exact ⟨rfl, .refl _ _, .inl rfl⟩

/-- **`osd_getattr_list` packs what `retrieve` answers**, as far as there is room. -/
theorem osdGetattrList_retrieves (hf : IsFormat listfmt) (hal : Aligned env pos outlen.toNat)
    (hst : s.core = t.core) (pid oid : UInt64) (page number : UInt32) (isembedded : Bool) :
    Ends (osdGetattrList env pid oid page number pos outlen isembedded listfmt) s fun r s' =>
      ∃ ans t', retrieve env pid oid page number isembedded listfmt t = some (ans, t') ∧
        Retrieves pos outlen.toNat s ans t' r s' := by
  have hno : ∀ {r : Ret × Option UInt32} {s' t' : Target},
      retrieve env pid oid page number isembedded listfmt t = some (none, t') → r.1 ≠ .ok →
      ∃ ans t', retrieve env pid oid page number isembedded listfmt t = some (ans, t') ∧
        Retrieves pos outlen.toNat s ans t' r s' :=
    fun h hr => ⟨none, _, h, .inr ⟨hr, .inl rfl⟩⟩
  refine ends_call ((quiet_getObjType pid oid).sim hst) ?_
  rintro type s₁ ⟨t₁, ht₁, hcore₁, hout₁⟩
  have hret₁ := bind_of_some (f := fun objType => (do
    if objType = .illegal then
      return none
    if !isgettablePage objType page then
      return none
    if (← lazyInitAttr env pid oid page number) ≠ .ok then
      return none
    match pageItems env (← get) pid oid page number listfmt with
    | none => return none
    | some items =>
      if !isembedded then
        setCcap (fillCcap objType pid oid 0)
      return some (fillNull (tagOf listfmt oid) page number items) : OsdM _)) ht₁
  change retrieve env pid oid page number isembedded listfmt t = _ at hret₁
  by_cases hill : type = .illegal
  · rw [if_pos hill] at hret₁ ⊢
    exact ends_pure.2 (hno hret₁ (by simp [cdbErr, senseBuildSdd]))
  rw [if_neg hill] at hret₁ ⊢
  by_cases hpg : (!isgettablePage type page) = true
  · rw [if_pos hpg] at hret₁ ⊢
    exact ends_pure.2 (hno hret₁ (by simp [paramListErr, senseBuildSdd]))
  rw [if_neg hpg] at hret₁ ⊢
  refine ends_call ((quiet_lazyInitAttr pid oid page number).sim hcore₁) ?_
  rintro lazy s₂ ⟨t₂, ht₂, hcore₂, hout₂⟩
  rw [bind_of_some ht₂] at hret₁
  by_cases hlazy : lazy ≠ .ok
  · rw [if_pos hlazy] at hret₁ ⊢
    exact ends_pure.2 (hno hret₁ (by simp [hwErr, senseBuildSdd]))
  rw [if_neg hlazy] at hret₁ ⊢
  rw [bind_of_some (show (get : OsdM Target) t₂ = some (t₂, t₂) from rfl), pageItems_core, ← hcore₂,
    ← pageItems_core] at hret₁
  have hlen : outlen.toUInt64.toNat = outlen.toNat := UInt32.toNat_toUInt64 outlen
  have hal' : Aligned env pos outlen.toUInt64.toNat := by rw [hlen]; exact hal
  refine ends_call (getattrListByPage_answers hf hal' (by rw [hlen]; exact outlen.toNat_lt) pid oid page
    number) ?_
  rw [hlen]
  rintro ⟨ret, used⟩ s₃ h
  dsimp only at h ⊢
  -- what follows an answer that was packed
  have hend : ∀ {items : List Item} {s₄ : Target}, s₄.core = s₂.core →
      pageItems env s₂ pid oid page number listfmt = some items →
      Emits pos (emit outlen.toNat (fillNull (tagOf listfmt oid) page number items)) s₂ s₄ →
      Ends (if (!isembedded) = true then setCcap (fillCcap type pid oid 0) >>= fun _ =>
          pure (.ok, some (UInt32.ofNat
            (emit outlen.toNat (fillNull (tagOf listfmt oid) page number items)).length))
        else pure (.ok, some (UInt32.ofNat
            (emit outlen.toNat (fillNull (tagOf listfmt oid) page number items)).length))) s₄
        fun r s' => ∃ ans t', retrieve env pid oid page number isembedded listfmt t = some (ans, t') ∧
          Retrieves pos outlen.toNat s ans t' r s' := by
    intro items s₄ hc hitems he
    rw [hitems] at hret₁
    dsimp only at hret₁
    have hs : s₂.out = s.out := hout₂.trans hout₁
    by_cases hemb : (!isembedded) = true
    · rw [if_pos hemb] at hret₁ ⊢
      refine ends_bind.2 (ends_modify.2 (ends_pure.2 ⟨_, _, hret₁, .inl ⟨_, rfl, rfl, ?_, ?_⟩⟩))
      · exact he.of_out hs.symm rfl
      · exact congrArg (fun v : Target => { v with ccap := fillCcap type pid oid 0 }) (hc.trans hcore₂)
    · rw [if_neg hemb] at hret₁ ⊢
      exact ends_pure.2 ⟨_, _, hret₁, .inl ⟨_, rfl, rfl, he.of_out hs.symm rfl, hc.trans hcore₂⟩⟩
  have hbad : (paramListErr pid oid, used).1 ≠ Ret.ok := by simp [paramListErr, senseBuildSdd]
  rcases h with ⟨hcore₃, h⟩ | ⟨⟨-, hfail⟩, items, hitems, hne, hnil⟩
  · cases hitems : pageItems env s₂ pid oid page number listfmt with
    | none =>
      rw [hitems] at h hret₁
      rw [if_pos h]
      exact ends_pure.2 (hno hret₁ hbad)
    | some items =>
      rw [hitems] at h
      obtain ⟨he, hused, ⟨hok, hne⟩ | ⟨hno', hnil⟩⟩ := h
      · obtain rfl : ret = .ok := hok
        obtain rfl : used = _ := hused
        rw [if_neg (by simp), if_neg (by simp)]
        have hfill : fillNull (tagOf listfmt oid) page number items = items := by
          rw [fillNull, if_neg fun h => hne h.1]
        have := hend hcore₃ hitems (by rw [hfill]; exact he)
        rw [hfill] at this
        exact this
      · obtain rfl : ret = .err .enoent := hno'
        rw [if_neg (by simp), if_pos rfl]
        rw [hnil] at he
        refine ends_call (fillNullAttr_emits hf hal oid page number hnil (pageItems_tag hitems)) ?_
        rintro r s₄ ⟨hcore₄, he', rfl | ⟨rfl, hnil'⟩⟩
        · exact hend (hcore₄.trans hcore₃) hitems (he.append he')
        · have := hend (hcore₄.trans hcore₃) hitems (he.append he')
          rw [hnil'] at this
          exact this
  · rw [if_pos hfail]
    have hfill : fillNull (tagOf listfmt oid) page number items = items := by
      rw [fillNull, if_neg fun h => hne h.1]
    rw [hitems] at hret₁
    dsimp only at hret₁
    by_cases hemb : (!isembedded) = true
    · rw [if_pos hemb] at hret₁
      exact ends_pure.2 ⟨_, _, hret₁, .inr ⟨hbad, .inr ⟨_, rfl, by rw [hfill]; exact hne, by
        rw [hfill]; exact hnil⟩⟩⟩
    · rw [if_neg hemb] at hret₁
      exact ends_pure.2 ⟨_, _, hret₁, .inr ⟨hbad, .inr ⟨_, rfl, by rw [hfill]; exact hne, by
        rw [hfill]; exact hnil⟩⟩⟩

end Getattr

/-! ## Retrievals return -/

section Halts

variable {env : Env} {α : Type}

theorem halts_getObjType (pid oid : UInt64) : Halts (getObjType env pid oid) := by
  refine halts_ite (halts_pure _) (halts_ite (halts_pure _) (halts_ite
    (halts_bind (halts_dbExecQuery _ _ _) fun r => ?_) (halts_pure _)))
  split <;> exact halts_pure _

theorem halts_attrGetVal (pid oid : UInt64) (page number : UInt32) (outlen : UInt64) :
    Halts (attrGetVal env pid oid page number outlen) := by
  refine halts_bind (halts_dbExecQuery _ _ _) fun ⟨ret, row⟩ => ?_
  cases ret with
  | ok =>
    cases row with
    | none => exact halts_pure _
    | some r => exact halts_ite (halts_pure _) (halts_ite (halts_pure _) (halts_pure _))
  | err e => exact halts_pure _
  | sense x => exact halts_pure _

theorem halts_truncateFile (pid oid len : UInt64) : Halts (truncateFile env pid oid len) := by
  refine halts_bind halts_get fun s => ?_
  split
  · exact halts_pure _
  · exact halts_ite (halts_pure _) (halts_bind (halts_set _) fun _ => halts_pure _)

/-- Only a NULL logical length crashes. -/
theorem halts_attrSetAttr (pid oid : UInt64) (page number : UInt32) (val : Mem) (len : UInt16) :
    Halts (attrSetAttr env pid oid page number (some val) len) := by
  have hrow : ∀ p n, Halts (attrSetAttrRow env pid oid p n (some val) len) :=
    fun _ _ => halts_dbExecDms _
  exact halts_ite (halts_ite (hrow _ _) (halts_ite (halts_bind (halts_truncateFile _ _ _) fun _ =>
      halts_ite (halts_pure _) (halts_pure _)) (halts_pure _)))
    (halts_ite (halts_ite (halts_bind halts_get fun _ =>
      halts_ite (halts_ite (halts_pure _) (hrow _ _)) (halts_pure _))
      (halts_ite (hrow _ _) (halts_pure _))) (hrow _ _))

theorem halts_lazyInitAttr (pid oid : UInt64) (page number : UInt32) :
    Halts (lazyInitAttr env pid oid page number) :=
  halts_ite (halts_pure _) (halts_bind (halts_attrGetVal _ _ _ _ _) fun _ =>
    halts_ite (halts_pure _) (halts_ite (halts_pure _)
      (halts_bind (halts_attrSetAttr _ _ _ _ _ _) fun _ =>
        halts_ite (halts_pure _) (halts_attrSetAttr _ _ _ _ _ _))))

theorem halts_retrieve (pid oid : UInt64) (page number : UInt32) (isembedded : Bool)
    (listfmt : UInt8) : Halts (retrieve env pid oid page number isembedded listfmt) := by
  refine halts_bind (halts_getObjType _ _) fun _ => halts_ite (halts_pure _) (halts_ite (halts_pure _)
    (halts_bind (halts_lazyInitAttr _ _ _ _) fun _ => halts_ite (halts_pure _)
      (halts_bind halts_get fun _ => ?_)))
  split
  · exact halts_pure _
  · exact halts_ite (halts_bind (halts_modify _) fun _ => halts_pure _) (halts_pure _)

/-! ### With a reply -/

theorem halts_outWrite (pos : Nat) (bytes : List UInt8) : Halts (outWrite pos bytes) := halts_modify _

theorem halts_lePackAttr (pos : Nat) (buflen page number : UInt32) (valen : UInt16) (val : Option Mem) :
    Halts (lePackAttr env pos buflen page number valen val) := by
  unfold lePackAttr
  split
  · exact halts_pure _
  · exact halts_bind (halts_outWrite _ _) fun _ => halts_pure _

theorem halts_leMultiobjPackAttr (pos : Nat) (buflen : UInt32) (oid : UInt64) (page number : UInt32)
    (valen : UInt16) (val : Option Mem) :
    Halts (leMultiobjPackAttr env pos buflen oid page number valen val) := by
  refine halts_ite (halts_pure _) (halts_bind (halts_outWrite _ _) fun _ =>
    halts_bind (halts_lePackAttr _ _ _ _ _ _) fun r => ?_)
  cases r <;> exact halts_pure _

theorem halts_packAttr (listfmt : UInt8) (pos : Nat) (buflen : UInt32) (oid : UInt64)
    (page number : UInt32) (valen : UInt16) (val : Option Mem) :
    Halts (packAttr env listfmt pos buflen oid page number valen val) :=
  halts_ite (halts_lePackAttr _ _ _ _ _ _)
    (halts_ite (halts_leMultiobjPackAttr _ _ _ _ _ _ _) (halts_pure _))

theorem halts_gatherAttrs (oid : UInt64) (listfmt : UInt8) (rows : List AttrRow) (pos : Nat)
    (outlen : UInt64) (g : Gathered) : Halts (gatherAttrs env oid listfmt rows pos outlen g) := by
  induction rows generalizing pos outlen g with
  | nil => exact halts_pure _
  | cons r rows ih =>
    refine halts_bind (halts_packAttr _ _ _ _ _ _ _ _) fun res => ?_
    split
    · exact ih _ _ _
    · exact halts_pure _
    · exact halts_pure _

theorem halts_execAttrRtrvlStmt (q : Rtrvl) (pid oid : UInt64) (listfmt : UInt8) (pos : Nat)
    (outlen : UInt64) : Halts (execAttrRtrvlStmt env q pid oid listfmt pos outlen) :=
  halts_bind halts_get fun _ => halts_ite (halts_pure _)
    (halts_bind (halts_gatherAttrs _ _ _ _ _ _) fun _ =>
      halts_ite (halts_pure _) (halts_ite (halts_pure _) (halts_pure _)))

theorem halts_packValue (listfmt : UInt8) (pos : Nat) (outlen oid : UInt64) (page number : UInt32)
    (len : UInt16) (val : Option Mem) :
    Halts (packValue env listfmt pos outlen oid page number len val) := by
  refine halts_ite (halts_pure _) (halts_bind (halts_packAttr _ _ _ _ _ _ _ _) fun r => ?_)
  split <;> exact halts_pure _

theorem halts_attrGetAttr (pid oid : UInt64) (page number : UInt32) (listfmt : UInt8) (pos : Nat)
    (outlen : UInt64) : Halts (attrGetAttr env pid oid page number listfmt pos outlen) := by
  have hconv : ∀ p n, Halts (attrGetConversion env pid oid p n listfmt pos outlen) :=
    fun p n => halts_execAttrRtrvlStmt (.attr p n) pid oid listfmt pos outlen
  refine halts_ite (halts_ite (hconv _ _) (halts_bind halts_get fun s => ?_))
    (halts_ite (halts_ite (hconv _ _) (halts_ite
      (halts_bind (hconv _ _) fun r => ?_) ?_)) (halts_packValue _ _ _ _ _ _ _ _))
  · split
    · exact halts_pure _
    · exact halts_packValue _ _ _ _ _ _ _ _
  · split
    · exact halts_packValue _ _ _ _ _ _ _ _
    · exact halts_pure _
  · split
    · exact halts_pure _
    · exact halts_packValue _ _ _ _ _ _ _ _

theorem halts_getattrListByPage (pid oid : UInt64) (page number : UInt32) (listfmt : UInt8)
    (pos : Nat) (outlen : UInt64) :
    Halts (getattrListByPage env pid oid page number listfmt pos outlen) := by
  have hr : ∀ q, Halts (execAttrRtrvlStmt env q pid oid listfmt pos outlen) :=
    fun q => halts_execAttrRtrvlStmt q pid oid listfmt pos outlen
  refine halts_ite (halts_bind halts_get fun s => ?_) (halts_ite (halts_bind halts_get fun s => ?_)
    (halts_ite (halts_bind (halts_attrGetAttr _ _ _ _ _ _ _) fun r => ?_)
      (halts_ite (halts_attrGetAttr _ _ _ _ _ _ _)
        (halts_ite (halts_ite (hr _) (hr _)) (halts_ite (hr _) (hr _))))))
  · split
    · exact halts_pure _
    · exact halts_bind (halts_lePackAttr _ _ _ _ _ _) fun _ => halts_pure _
  · split
    · exact halts_pure _
    · exact halts_ite (halts_bind (halts_leMultiobjPackAttr _ _ _ _ _ _ _) fun _ => halts_pure _)
        (halts_bind (halts_lePackAttr _ _ _ _ _ _) fun _ => halts_pure _)
  · split <;> exact halts_pure _

theorem halts_osdGetattrList (pid oid : UInt64) (page number : UInt32) (pos : Nat) (outlen : UInt32)
    (isembedded : Bool) (listfmt : UInt8) :
    Halts (osdGetattrList env pid oid page number pos outlen isembedded listfmt) := by
  refine halts_bind (halts_getObjType _ _) fun type => halts_ite (halts_pure _)
    (halts_ite (halts_pure _) (halts_bind (halts_lazyInitAttr _ _ _ _) fun _ =>
      halts_ite (halts_pure _) (halts_bind (halts_getattrListByPage _ _ _ _ _ _ _) fun r =>
        halts_ite (halts_pure _) ?_)))
  have hend : ∀ used, Halts (if (!isembedded) = true then
      setCcap (fillCcap type pid oid 0) >>= fun _ => pure (.ok, used)
      else pure (.ok, used) : OsdM (Ret × Option UInt32)) :=
    fun used => halts_ite (halts_bind (halts_modify _) fun _ => halts_pure _) (halts_pure _)
  dsimp only
  refine halts_ite (halts_bind (halts_ite (halts_ite (halts_leMultiobjPackAttr _ _ _ _ _ _ _)
    (halts_lePackAttr _ _ _ _ _ _)) (halts_pure _)) fun n => ?_) (hend _)
  split
  · exact hend _
  · exact hend _
  · exact halts_pure _

end Halts

end OsdTarget
