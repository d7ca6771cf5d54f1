import OsdTarget.GetList
import OsdTarget.AttributeParams
import OsdTarget.ServiceAction

/-!
# The current command attributes

The page is one record of the device.  READ, WRITE, APPEND and CLEAR fill it in before the attributes of
the command are fetched; PUNCH, the atomics and the two attribute commands do not, and show whatever is
in it.
-/

namespace OsdTarget

open Base

variable {env : Env} {s s' : Target}

/-! ## Programs that only store -/

/-- A reflexive and transitive relation that does not look at the storage. -/
class OffStorage (R : Target → Target → Prop) : Prop where
  refl : ∀ s, R s s
  trans : ∀ s t v, R s t → R t v → R s v
  db : ∀ (s : Target) d, R s { s with db := d }
  files : ∀ (s : Target) f, R s { s with files := f }
  txn : ∀ (s : Target) b l, R s { s with inTxn := b, txnCalls := l }

section OffStorage

variable {R : Target → Target → Prop} [OffStorage R] {α β : Type} {pid oid : UInt64}

theorem off_pure (a : α) : Respects R (pure a : OsdM α) := respects_pure OffStorage.refl a

theorem off_bind {m : OsdM α} {f : α → OsdM β} (hm : Respects R m) (hf : ∀ a, Respects R (f a)) :
    Respects R (m >>= f) := respects_bind OffStorage.trans hm hf

theorem off_get : Respects R (get : OsdM Target) := respects_get OffStorage.refl

theorem off_query {q : Query} {init : α} {answer : Db → α} : Respects R (dbExecQuery env q init answer) :=
  fun s => dbExecQuery_ends (fun _ => OffStorage.refl s) fun _ => OffStorage.refl s

theorem off_dms (st : Dms) : Respects R (dbExecDms env st) :=
  fun s => dbExecDms_ends (fun d _ _ => OffStorage.db s d) fun _ => OffStorage.refl s

theorem off_attrSetAttr (page number : UInt32) (val : Option Mem) (len : UInt16) :
    Respects R (attrSetAttr env pid oid page number val len) :=
  fun s => attrSetAttr_ends (fun _ => OffStorage.db s _) (fun _ _ _ _ _ => OffStorage.files s _)
    fun _ _ => OffStorage.refl s

theorem off_setLogicalLen (newLen : UInt64) : Respects R (setLogicalLen env pid oid newLen) :=
  fun s => setLogicalLen_ends (fun _ _ _ => OffStorage.files s _) (OffStorage.refl s)

theorem off_truncateFile (len : UInt64) : Respects R (truncateFile env pid oid len) := by
  refine fun t => ends_bind.2 (ends_get.2 ?_)
  split
  · exact ends_pure.2 (OffStorage.refl t)
  · exact ends_ite_of (fun _ => ends_pure.2 (OffStorage.refl t)) fun _ =>
      ends_bind.2 (ends_set.2 (ends_pure.2 (OffStorage.files t _)))

theorem off_pwriteFile (off len : UInt64) (src : Mem) :
    Respects R (pwriteFile env pid oid off len src) := by
  refine fun t => ends_bind.2 (ends_get.2 ?_)
  split
  · exact ends_ite_of (fun _ => ends_pure.2 (OffStorage.refl t)) fun _ =>
      ends_bind.2 (ends_set.2 (ends_pure.2 (OffStorage.files t _)))
  · exact ends_pure.2 (OffStorage.refl t)

theorem off_getObjType : Respects R (getObjType env pid oid) := by
  refine respects_ite (off_pure _) (respects_ite (off_pure _) (respects_ite
    (off_bind off_query fun r => ?_) (off_pure _)))
  split <;> exact off_pure _

theorem off_attrGetVal (page number : UInt32) (outlen : UInt64) :
    Respects R (attrGetVal env pid oid page number outlen) := by
  refine off_bind off_query fun ⟨ret, row⟩ => ?_
  cases ret with
  | ok =>
    cases row with
    | none => exact off_pure _
    | some r => exact respects_ite (off_pure _) (respects_ite (off_pure _) (off_pure _))
  | err e => exact off_pure _
  | sense x => exact off_pure _

theorem off_setCap (number : UInt32) (val : Option Mem) (len : UInt16) :
    Respects R (setCap env pid oid number val len) := by
  have hcid : Respects R (collGetCid env pid oid number 0) :=
    fun s => collGetCid_ends fun _ => OffStorage.refl s
  refine respects_ite (off_pure _) (respects_ite (off_bind hcid fun _ => respects_ite (off_pure _)
    (off_bind (off_dms _) fun _ => respects_ite (off_pure _) (off_pure _))) (respects_ite (off_pure _) ?_))
  split
  · exact resp_never
  · exact off_bind off_query fun _ => respects_ite (off_pure _) (off_bind (off_dms _) fun _ =>
      respects_ite (off_pure _) (off_pure _))

theorem off_storeAttribute (page number : UInt32) (val : Option Mem) (len : UInt16) :
    Respects R (storeAttribute env pid oid page number val len) := by
  have hspecial : ∀ {m : OsdM Ret} {failed : Ret}, Respects R m →
      Respects R (m >>= fun ret => if ret = .ok then pure .ok else pure failed) :=
    fun h => off_bind h fun _ => respects_ite (off_pure _) (off_pure _)
  refine respects_ite (hspecial ?_) (respects_ite (hspecial ?_) (respects_ite (hspecial (off_setCap _ _ _))
    (respects_ite (hspecial (off_dms _)) (hspecial (off_dms _)))))
  · refine respects_ite (off_dms _) (respects_ite ?_ (off_pure _))
    cases val with
    | none => exact resp_never
    | some m => exact off_setLogicalLen _
  · exact off_bind off_get fun _ => respects_ite (respects_ite (off_pure _) (respects_ite (off_pure _)
      (off_attrSetAttr _ _ _ _))) (off_attrSetAttr _ _ _ _)

/-- An embedded SET ATTRIBUTES. -/
theorem off_osdSetAttributes (page number : UInt32) (val : Option Mem) (len : UInt16) :
    Respects R (osdSetAttributes env pid oid page number val len true) :=
  off_bind off_query fun _ => respects_ite (off_pure _) (off_bind off_getObjType fun _ =>
    respects_ite (off_pure _) (respects_ite (off_pure _)
      (respects_ite (off_pure _) (respects_ite (off_pure _)
      (respects_ite (off_pure _) (respects_ite (off_pure _) (off_bind (off_storeAttribute _ _ _ _) fun _ =>
        respects_ite (off_pure _) (off_pure _))))))))

theorem off_withinTxn {m : OsdM α} (hm : Respects R m) : Respects R (withinTxn env m) :=
  off_bind (fun s => osdBeginTxn_ends fun _ => OffStorage.txn s) fun _ => off_bind hm fun _ =>
    off_bind (fun s => osdEndTxn_ends fun _ => OffStorage.txn s) fun _ => off_pure _

theorem off_setOnObjects (page number : UInt32) (val : Option Mem) (len : UInt16) (n : Nat) (i : UInt64) :
    Respects R (setOnObjects env pid page number val len true n i) := by
  induction n generalizing i with
  | zero => exact off_pure _
  | succ n ih => exact off_bind (off_osdSetAttributes _ _ _ _) fun _ => respects_ite (off_pure _) (ih _)

theorem off_setAttrListLoop (indata : Mem) (numoid : UInt16) (fuel listHdr : Nat) (listLen : UInt32) :
    Respects R (setAttrListLoop env indata pid oid true numoid fuel listHdr listLen) := by
  induction fuel generalizing listHdr listLen with
  | zero => exact respects_ite (off_pure _) resp_never
  | succ fuel ih =>
    exact respects_ite (off_pure _) (off_bind (off_setOnObjects _ _ _ _ _ _) fun _ =>
      respects_ite (off_pure _) (ih _ _))

theorem off_setAttributes (cmd : Command) (numoid : UInt32) (fuel : Nat) :
    Respects R (setAttributes env cmd pid oid numoid fuel) := by
  have hrun : ∀ {c : ParamCheck} {body : Nat → Nat → OsdM Ret}, (∀ off len, Respects R (body off len)) →
      Respects R (c.run pid oid body) := by
    intro c body h
    cases c with
    | nothing => exact off_pure _
    | reject asc => exact off_pure _
    | use off len => exact h off len
  refine respects_ite (off_pure _) (respects_ite ?_ (respects_ite ?_ (respects_ite ?_ (off_pure _))))
  · exact hrun fun _ _ => off_withinTxn (off_setOnObjects _ _ _ _ _ _)
  · exact hrun fun _ _ => off_withinTxn (off_setAttrListLoop _ _ _ _ _)
  · exact hrun fun _ _ => off_withinTxn (off_setOnObjects _ _ _ _ _ _)

theorem off_lazyInitAttr (page number : UInt32) : Respects R (lazyInitAttr env pid oid page number) :=
  respects_ite (off_pure _) (off_bind (off_attrGetVal _ _ _) fun _ => respects_ite (off_pure _)
    (respects_ite (off_pure _) (off_bind (off_attrSetAttr _ _ _ _) fun _ => respects_ite (off_pure _)
      (off_attrSetAttr _ _ _ _))))

theorem off_readAtomic (number : UInt32) : Respects R (readAtomic env pid oid number) :=
  off_bind (off_attrGetVal _ _ _) fun _ => respects_ite (off_pure _) (respects_ite (off_pure _)
    (off_bind (off_attrSetAttr _ _ _ _) fun _ => respects_ite (off_pure _) (off_pure _)))

theorem off_osdPunch (len offset : UInt64) : Respects R (osdPunch env pid oid len offset) := by
  refine respects_ite (off_pure _) (off_bind off_get fun t => ?_)
  split
  · exact off_pure _
  · refine respects_ite (off_pure _) (respects_ite (off_pure _) (respects_ite (off_pure _)
      (respects_ite (off_bind (off_truncateFile _) fun _ => respects_ite (off_pure _)
        (respects_ite (off_pure _) (off_pure _)))
          (respects_ite (off_pure _) (off_bind off_get fun t => ?_)))))
    split
    · exact off_pure _
    · exact off_bind (off_pwriteFile _ _ _) fun _ => respects_ite (off_pure _)
        (off_bind (off_truncateFile _) fun _ => respects_ite (off_pure _)
          (respects_ite (off_pure _) (off_pure _)))

end OffStorage

/-- The current command attributes are the same. -/
def SameCcap (s s' : Target) : Prop := s'.ccap = s.ccap

/-- So is the reply. -/
structure Untold (s s' : Target) : Prop where
  ccap : SameCcap s s'
  out : s'.out = s.out

instance : OffStorage Untold where
  refl _ := ⟨rfl, rfl⟩
  trans _ _ _ h h' := ⟨h'.ccap.trans h.ccap, h'.out.trans h.out⟩
  db _ _ := ⟨rfl, rfl⟩
  files _ _ := ⟨rfl, rfl⟩
  txn _ _ _ := ⟨rfl, rfl⟩

instance : OffStorage SameCcap where
  refl _ := rfl
  trans _ _ _ h h' := h'.trans h
  db _ _ := rfl
  files _ _ := rfl
  txn _ _ _ := rfl

/-! ## What the page says -/

/-- The object the page names. -/
def Ccap.Names (c : Ccap) (pid oid : UInt64) : Prop := c.objType = .userobject ∧ c.pid = pid ∧ c.oid = oid

instance (c : Ccap) (pid oid : UInt64) : Decidable (c.Names pid oid) :=
  inferInstanceAs (Decidable (_ ∧ _ ∧ _))

theorem fillCcap_names (pid oid appendOff : UInt64) :
    (fillCcap .userobject pid oid appendOff).Names pid oid :=
  ⟨rfl, rfl, rfl⟩

/-- The attributes that name a user object, with their values. -/
def objectAttributes (pid oid : UInt64) : List (UInt32 × List UInt8) :=
  [(CCAP_OBJT, [ObjType.userobject.code]), (CCAP_PID, htonll pid), (CCAP_OID, htonll oid)]

/-- The command retrieves the page as a page, into enough room. -/
structure Command.RetrievesPage (cmd : Command) : Prop where
  format : cmd.getsetCdbfmt = GETPAGE_SETVALUE
  page : getNtohl cmd.cdb 52 = CUR_CMD_ATTR_PG
  room : CCAP_TOTAL_LEN ≤ (getNtohl cmd.cdb 56).toNat

/-- The command retrieves a list, into an aligned area with room for its header. -/
structure Command.RetrievesList (env : Env) (cmd : Command) : Prop where
  format : cmd.getsetCdbfmt = GETLIST_SETLIST
  list : getattrListLen cmd ≠ 0
  room : 8 ≤ cmd.allocLen.toNat
  aligned : (env.outAddr + cmd.outbuf) % 8 = 0

/-- The page in the reply names the object. -/
structure PageNames (cmd : Command) (s' : Target) (pid oid : UInt64) : Prop where
  objType : s'.reply.read (cmd.outbuf + 40) 1 = [ObjType.userobject.code]
  pid : s'.reply.read (cmd.outbuf + 44) 8 = htonll pid
  oid : s'.reply.read (cmd.outbuf + 52) 8 = htonll oid

/-- The pairs `get_attr_list` goes over for one object: none for the last id, whose range wraps. -/
def Command.pairs (cmd : Command) (oid : UInt64) : List (UInt32 × UInt32) :=
  if createCount oid 1 = 1 then cmd.getList else []

/-- The answer to a pair of the page names the object. -/
def AnswerNames (pid oid : UInt64) (e : UInt32 × UInt32) (items : List Item) : Prop :=
  e.1 = CUR_CMD_ATTR_PG → ∀ value, (e.2, value) ∈ objectAttributes pid oid →
    items.map Item.entry = [⟨none, e.1, e.2, value⟩]

/-- The list in the reply is packed from one answer for each pair, and the answers of the page name the
object. -/
def ListNames (cmd : Command) (used : UInt32) (s' : Target) (pid oid : UInt64) : Prop :=
  ∃ answers, Replied cmd 1 (emitAll (cmd.allocLen.toNat - 8) answers) used s' ∧
    List.Forall₂ (AnswerNames pid oid) (cmd.pairs oid) answers

/-! ### As a page -/

theorem Target.reply_of_out {t : Target} (h : t.out = s.out) : t.reply = s.reply := by
  rw [Target.reply, Target.reply, h]

/-- `get_ccap` with enough room. -/
theorem getCcap_ends {pos : Nat} {outlen : UInt64} (hroom : CCAP_TOTAL_LEN ≤ outlen.toNat) :
    Ends (getCcap pos outlen) s fun _ t => t.reply.read (pos + 40) 1 = [s.ccap.objType.code] ∧
      t.reply.read (pos + 44) 8 = htonll s.ccap.pid ∧ t.reply.read (pos + 52) 8 = htonll s.ccap.oid := by
  have hread : ∀ (m : Mem) (p : Nat) (bytes : List UInt8) (n : Nat), n = bytes.length →
      (m.write p bytes).read p n = bytes := by
    rintro m p bytes n rfl
    exact Mem.read_write_self m p bytes
  refine ends_ite_of (fun h => absurd h (Nat.not_lt.2 hroom)) fun _ => ?_
  simp only [outWrite, ends_bind, ends_get, ends_modify, ends_pure, Target.reply, List.foldl_append,
    List.foldl_cons, List.foldl_nil]
  have hlen := htonll_length
  refine ⟨?_, ?_, ?_⟩
  · rw [Mem.read_write_of_disjoint (.inl (by omega)), Mem.read_write_of_disjoint (.inl (by omega)),
      Mem.read_write_of_disjoint (.inl (by omega))]
    exact hread _ _ _ _ rfl
  · rw [Mem.read_write_of_disjoint (.inl (by omega)), Mem.read_write_of_disjoint (.inl (by omega))]
    exact hread _ _ _ _ (hlen _).symm
  · rw [Mem.read_write_of_disjoint (.inl (by omega))]
    exact hread _ _ _ _ (hlen _).symm

theorem ObjType.code_inj {t t' : ObjType} (h : t.code = t'.code) : t = t' := by
  cases t <;> cases t' <;> first | rfl | exact absurd h (by decide)

/-- Fetched as a page, it names the object of the record. -/
theorem getAttributes_page {cmd : Command} {pid oid : UInt64} {used : UInt32} (h : cmd.RetrievesPage) :
    Ends (getAttributes env cmd pid oid 1 used) s fun r t =>
      r.1 = .ok → ∀ pid' oid', PageNames cmd t pid' oid' ↔ s.ccap.Names pid' oid' := by
  have hfail : ∀ {e : Ret} {n : UInt32} {t : Target}, e ≠ .ok → ((e, n) : Ret × UInt32).1 = .ok →
      ∀ pid' oid', PageNames cmd t pid' oid' ↔ s.ccap.Names pid' oid' := fun hne h => absurd h hne
  have hpage : ¬ (getNtohl cmd.cdb 52 = 0 ∨ getNtohl cmd.cdb 56 = 0) := by
    rintro (h0 | h0)
    · exact absurd (h.page.symm.trans h0) (by decide)
    · exact absurd (h0 ▸ h.room) (by decide)
  unfold getAttributes
  rw [if_neg (by decide), if_pos h.format]
  unfold getAttrPage
  rw [if_neg hpage, if_neg (fun hm => absurd hm.1 (by decide))]
  refine ends_ite_of (fun _ => ends_pure.2 (hfail nofun)) fun _ => ?_
  rw [h.page]
  have htype : Respects Untold (getObjType env pid oid) := off_getObjType
  refine ends_bind.2 (ends_call (htype s) fun type u hu => ends_ite_of (fun _ => ends_pure.2 (ends_pure.2
    (hfail nofun))) fun _ => ends_ite_of (fun _ => ends_pure.2 (ends_pure.2 (hfail nofun))) fun _ => ?_)
  refine ends_call (getCcap_ends (by rw [UInt32.toNat_toUInt64]; exact h.room)) fun r t ht => ?_
  rw [show u.ccap = s.ccap from hu.ccap] at ht
  obtain ⟨hobj, hpid, hoid⟩ := ht
  refine ends_pure.2 (ends_pure.2 fun _ pid' oid' => ⟨fun hn => ?_, fun hn => ?_⟩)
  · refine ⟨ObjType.code_inj ?_, htonll_inj ?_, htonll_inj ?_⟩
    · exact List.singleton_inj.1 (hobj.symm.trans hn.objType)
    · exact hpid.symm.trans hn.pid
    · exact hoid.symm.trans hn.oid
  · obtain ⟨h1, h2, h3⟩ := hn
    exact ⟨h1 ▸ hobj, h2 ▸ hpid, h3 ▸ hoid⟩

/-! ### As a list -/

/-- The values of the record. -/
theorem ccapVal_names {c : Ccap} {pid oid : UInt64} (h : c.Names pid oid) {number : UInt32}
    {value : List UInt8}
    (hv : (number, value) ∈ objectAttributes pid oid) {v : UInt16 × Mem} (hc : ccapVal c number = some v) :
    v.2.read 0 v.1.toNat = value := by
  obtain ⟨h1, h2, h3⟩ := h
  simp only [objectAttributes, List.mem_cons, Prod.mk.injEq, List.not_mem_nil, or_false] at hv
  rcases hv with ⟨rfl, rfl⟩ | ⟨rfl, rfl⟩ | ⟨rfl, rfl⟩
  · obtain rfl : (1, blobMem [c.objType.code]) = v := Option.some.inj hc
    rw [h1]
    exact read_blobMem [ObjType.userobject.code]
  · obtain rfl : (8, blobMem (htonll c.pid)) = v := Option.some.inj hc
    rw [h2]
    exact read_htonll pid
  · obtain rfl : (8, blobMem (htonll c.oid)) = v := Option.some.inj hc
    rw [h3]
    exact read_htonll oid

section List

variable {pid oid pid' oid' : UInt64} {listfmt : UInt8}

/-- An answer of the page is what the record holds. -/
theorem retrieve_names (hs : s.ccap.Names pid' oid') (page number : UInt32) :
    Ends (retrieve env pid oid page number true listfmt) s fun ans t => SameCcap s t ∧
      ∀ items, ans = some items → AnswerNames pid' oid' (page, number) items := by
  have hnone : ∀ {t : Target}, SameCcap s t → SameCcap s t ∧ ∀ items,
      (none : Option (List Item)) = some items →
      AnswerNames pid' oid' (page, number) items := fun ht => ⟨ht, nofun⟩
  have htype : Respects SameCcap (getObjType env pid oid) := off_getObjType
  have hlazy : Respects SameCcap (lazyInitAttr env pid oid page number) := off_lazyInitAttr _ _
  refine ends_call (htype s) fun type t ht => ends_ite_of (fun _ => ends_pure.2 (hnone ht)) fun _ =>
    ends_ite_of (fun _ => ends_pure.2 (hnone ht)) fun _ => ends_call (hlazy t) fun ret u hu => ?_
  have hsu : SameCcap s u := OffStorage.trans s t u ht hu
  refine ends_ite_of (fun _ => ends_pure.2 (hnone hsu)) fun _ => ends_bind.2 (ends_get.2 ?_)
  split
  · exact ends_pure.2 (hnone hsu)
  · rename_i items hitems
    refine ends_ite_of (fun h => absurd h (by decide)) fun _ => ends_pure.2 ⟨hsu, ?_⟩
    intro items' hitems' hpage value hvalue
    obtain rfl := Option.some.inj hitems'
    unfold pageItems at hitems
    dsimp only at hitems hpage
    rw [if_pos hpage] at hitems
    obtain ⟨v, hv, rfl⟩ := Option.map_eq_some_iff.1 hitems
    rw [show u.ccap = s.ccap from hsu] at hv
    have hval := ccapVal_names hs hvalue hv
    show [(⟨none, CUR_CMD_ATTR_PG, number, v.2.read 0 v.1.toNat⟩ : Entry)] = _
    rw [hval, ← hpage]

theorem retrieveList_names (hs : s.ccap.Names pid' oid') {numoid : UInt16}
    (hone : createCount oid numoid = 1)
    (entries : List (UInt32 × UInt32)) :
    Ends (retrieveList env pid oid true listfmt numoid entries) s fun ans _ =>
      ∀ answers, ans = some answers → List.Forall₂ (AnswerNames pid' oid') entries answers := by
  induction entries generalizing s with
  | nil =>
    refine ends_pure.2 ?_
    rintro _ ⟨⟩
    exact .nil
  | cons e entries ih =>
    unfold retrieveList
    rw [hone]
    refine ends_bind.2 (ends_call (retrieve_names hs e.1 e.2) fun ans t hnames => ?_)
    obtain ⟨ht, hans⟩ := hnames
    cases ans with
    | none =>
      refine ends_pure.2 (ends_pure.2 ?_)
      rintro _ ⟨⟩
    | some items =>
      refine ends_pure.2 (ends_call (ih (s := t) (by rwa [show t.ccap = s.ccap from ht]))
        fun rest u hrest => ?_)
      cases rest with
      | none =>
        refine ends_pure.2 ?_
        rintro _ ⟨⟩
      | some lists =>
        refine ends_pure.2 ?_
        rintro _ ⟨⟩
        exact .cons (hans items rfl) (hrest lists rfl)

/-- **Fetched as a list**, the page names the object of the record. -/
theorem getAttributes_list {cmd : Command} {used : UInt32} (h : cmd.RetrievesList env)
    (hs : s.ccap.Names pid' oid') :
    Ends (getAttributes env cmd pid oid 1 used) s fun r t => r.1 = .ok →
      ∃ answers, Replied cmd 1 (emitAll (cmd.allocLen.toNat - 8) answers) r.2 t ∧
        List.Forall₂ (AnswerNames pid' oid') (cmd.pairs oid) answers := by
  unfold getAttributes
  rw [if_neg (by decide), if_neg (by rw [h.format]; decide), if_pos h.format]
  cases hc : getAttrListCheck cmd with
  | nothing =>
    unfold getAttrListCheck at hc
    split at hc
    · cases hc
    · exact absurd (getListCheck_nothing hc) h.list
  | reject asc =>
    intro r t hrun hok
    rw [getAttrList_reject hc] at hrun
    cases hrun
    cases hok
  | use off len =>
    have huse : getListCheck cmd = .use off len := by
      unfold getAttrListCheck at hc
      split at hc
      · cases hc
      · exact hc
    obtain ⟨htaken, rfl, rfl⟩ := getListCheck_use.1 huse
    refine (getAttrList_replies used hc h.aligned h.room (and7_mod htaken.allocAligned)).mono ?_
    rintro ⟨ret, u⟩ t ⟨ans, t', hans, ⟨lists, rfl, -, hrep⟩ | ⟨hbad, -⟩⟩ hok
    · refine ⟨lists, hrep, ?_⟩
      obtain ⟨b, l, v, rfl, hrun⟩ := retrieveAnswers_eq env cmd pid oid 1 (getattrListOff cmd).toNat
        (getattrListLen cmd).toNat s
      rw [hans] at hrun
      unfold Command.pairs
      by_cases hone : createCount oid 1 = 1
      · rw [if_pos hone]
        have hs' : Target.ccap { s.core with inTxn := b, txnCalls := l } |>.Names pid' oid' := hs
        exact retrieveList_names hs' hone _ _ _ hrun.symm lists rfl
      · have hzero : createCount oid 1 = 0 := by
          unfold createCount at hone ⊢
          by_cases hlt : oid < oid + UInt16.toUInt64 1
          · exact absurd (if_pos hlt) hone
          · exact if_neg hlt
        rw [if_neg hone]
        rw [retrieveList_none hzero] at hrun
        cases hrun
        exact .nil
    · exact absurd hok hbad

end List

/-! ## Which commands fill the page in -/

/-- The commands on a user object that can retrieve the page. -/
def ServiceAction.onUserobject : ServiceAction → Bool
  | .read | .write | .append | .clear | .punch | .cas | .fa | .getAttributes | .setAttributes => true
  | _ => false

/-- Those that fill it in before attributes are fetched. -/
def ServiceAction.fillsCcap : ServiceAction → Bool
  | .read | .write | .append | .clear => true
  | _ => false

/-- The page will name the object of the command: it is filled in, or names it already. -/
def NamesOwn (cmd : Command) (s : Target) : Prop :=
  cmd.serviceAction.fillsCcap = true ∨ s.ccap.Names cmd.pid cmd.oid

/-- Whether the reply names the object of the command. -/
structure Shows (env : Env) (cmd : Command) (own : Prop) (used : UInt32) (s' : Target) : Prop where
  page : cmd.RetrievesPage → (PageNames cmd s' cmd.pid cmd.oid ↔ own)
  list : cmd.RetrievesList env → own → ListNames cmd used s' cmd.pid cmd.oid

/-- A success leaves the page filled in. -/
def Fills {α : Type} (pid oid : UInt64) (ok : α → Prop) (m : OsdM α) : Prop :=
  ∀ s, Ends m s fun a t => ok a → t.ccap.Names pid oid

section Fills

variable {α β : Type} {pid oid : UInt64} {ok : β → Prop}

theorem fills_pure {b : β} (h : ¬ ok b) : Fills pid oid ok (pure b) := fun _ =>
    ends_pure.2 fun hb => absurd hb h

theorem fills_never : Fills pid oid ok (never : OsdM β) := fun _ => ends_never.2 trivial

theorem fills_bind {m : OsdM α} {f : α → OsdM β} (hf : ∀ a, Fills pid oid ok (f a)) :
    Fills pid oid ok (m >>= f) := fun _ => ends_bind.2 fun a u _ => hf a u

theorem fills_ite {c : Prop} [Decidable c] {m n : OsdM β} (hm : Fills pid oid ok m)
    (hn : Fills pid oid ok n) :
    Fills pid oid ok (if c then m else n) := fun s => ends_ite_of (fun _ => hm s) fun _ => hn s

theorem fills_setCcap (appendOff : UInt64) {b : β} :
    Fills pid oid ok (setCcap (fillCcap .userobject pid oid appendOff) >>= fun _ => pure b) :=
  fun _ => ends_bind.2 (ends_modify.2 (ends_pure.2 fun _ => fillCcap_names _ _ _))

theorem fills_finishWrite (appendOff : UInt64) :
    Fills pid oid (· = .ok) (finishWrite env pid oid appendOff) :=
  fills_ite (fills_pure nofun) (fills_setCcap _)

theorem fills_osdWrite (len offset : UInt64) (data : Mem) (sglist : SgList) (ddt : UInt8) :
    Fills pid oid (· = .ok) (osdWrite env pid oid len offset data sglist ddt) := by
  refine fills_ite ?_ (fills_ite ?_ (fills_ite ?_ (fills_pure nofun)))
  · exact fills_ite (fills_pure nofun) (fills_bind fun _ => fills_ite (fills_pure nofun)
      (fills_bind fun _ => fills_ite (fills_pure nofun) (fills_finishWrite _)))
  · refine fills_ite (fills_pure nofun) (fills_bind fun _ =>
      fills_ite (fills_pure nofun) (fills_bind fun r => ?_))
    cases r with
    | none => exact fills_pure nofun
    | some _ => exact fills_ite fills_never (fills_finishWrite _)
  · refine fills_ite (fills_pure nofun) (fills_bind fun _ =>
      fills_ite (fills_pure nofun) (fills_bind fun r => ?_))
    cases r with
    | none => exact fills_pure nofun
    | some _ => exact fills_finishWrite _

theorem fills_contigAppend (len : UInt64) (appenddata : Option Mem) :
    Fills pid oid (· = .ok) (contigAppend env pid oid len appenddata) := by
  unfold contigAppend
  split
  · exact fills_pure nofun
  · refine fills_ite (fills_pure nofun) (fills_bind fun t => ?_)
    split
    · exact fills_pure nofun
    · exact fills_ite (fills_pure nofun) (fills_ite (fills_pure nofun) (fills_bind fun _ =>
        fills_ite (fills_pure nofun) (fills_finishWrite _)))

theorem fills_osdClear (len offset : UInt64) : Fills pid oid (· = .ok) (osdClear env pid oid len offset) :=
  fills_ite (fills_pure nofun) (fills_ite (fills_pure nofun)
    (fills_bind fun _ => fills_ite (fills_pure nofun)
    (fills_bind fun _ => fills_ite (fills_pure nofun) (fills_finishWrite _))))

/-- A read that meets the end fills the page in too. -/
theorem fills_osdReadDevice (len offset : UInt64) (sglist : Option SgList) :
    Fills pid oid (fun r => r.1 = .ok ∨ r.1.isReadPastEnd = true)
      (osdReadDevice env pid oid len offset sglist) := by
  have hcdb : ∀ n : Option UInt64, Fills pid oid (fun r => r.1 = .ok ∨ r.1.isReadPastEnd = true)
      (pure (cdbErr pid oid, n)) := fun _ => fills_pure (by rintro (h | h) <;> cases h)
  have hhw : ∀ n : Option UInt64, Fills pid oid (fun r => r.1 = .ok ∨ r.1.isReadPastEnd = true)
      (pure (hwErr pid oid, n)) := fun _ => fills_pure (by rintro (h | h) <;> cases h)
  have hset : ∀ {c : Prop} [Decidable c] {a b : Ret × Option UInt64}, Fills pid oid
      (fun r : Ret × Option UInt64 => r.1 = .ok ∨ r.1.isReadPastEnd = true)
      (setCcap (fillCcap .userobject pid oid 0) >>= fun _ => if c then pure a else pure b) :=
    fun _ => ends_bind.2 (ends_modify.2 (ends_ite_of (fun _ => ends_pure.2 fun _ => fillCcap_names _ _ _)
      fun _ => ends_pure.2 fun _ => fillCcap_names _ _ _))
  cases sglist with
  | none =>
    refine fills_ite (hcdb _) (fills_bind fun _ => fills_ite (hcdb _) (fills_bind fun t => ?_))
    split
    · exact hhw _
    · exact fills_bind fun _ => fills_ite (hhw _) (fills_ite (fills_bind fun _ => hset) hset)
  | some l =>
    refine fills_ite (hcdb _) (fills_bind fun _ => fills_ite (hcdb _) (fills_bind fun r => ?_))
    split
    · exact hhw _
    · exact fills_ite fills_never (fills_ite (hhw _) hset)

end Fills

/-! The others leave the page as it is. -/

section SameCcap

variable {pid oid : UInt64}

theorem same_outWrite (pos : Nat) (bytes : List UInt8) : Respects SameCcap (outWrite pos bytes) :=
  respects_modify fun _ => rfl

theorem same_isPresentUserobject : Respects SameCcap (isPresentUserobject env pid oid) :=
  off_bind off_query fun _ => respects_ite (off_pure _) (off_bind off_getObjType fun _ => off_pure _)

theorem same_osdCas (cmp swap : UInt64) (pos : Nat) :
    Respects SameCcap (osdCas env pid oid cmp swap pos) := by
  have hend : ∀ val, Respects SameCcap
      (outWrite pos (htonll val) >>= fun _ => pure (.ok, some 8) : OsdM (Ret × Option UInt64)) :=
    fun val => off_bind (same_outWrite _ _) fun _ => off_pure _
  refine off_bind same_isPresentUserobject fun _ => respects_ite (off_pure _)
    (off_bind (off_readAtomic _) fun val => ?_)
  cases val with
  | none => exact off_pure _
  | some val =>
    exact respects_ite (off_bind (off_attrSetAttr _ _ _ _) fun _ =>
      respects_ite (off_pure _) (hend _)) (hend _)

theorem same_osdFa (add : UInt64) (pos : Nat) : Respects SameCcap (osdFa env pid oid add pos) := by
  refine off_bind same_isPresentUserobject fun _ => respects_ite (off_pure _)
    (off_bind (off_readAtomic _) fun val => ?_)
  cases val with
  | none => exact off_pure _
  | some val =>
    exact off_bind (off_attrSetAttr _ _ _ _) fun _ => respects_ite (off_pure _)
      (off_bind (same_outWrite _ _) fun _ => off_pure _)

end SameCcap

/-! ## The handlers -/

section Handlers

variable {cmd : Command} {fuel : Nat} {used : UInt32} {own : Prop}

theorem getAttributes_shows (h : s.ccap.Names cmd.pid cmd.oid ↔ own) :
    Ends (getAttributes env cmd cmd.pid cmd.oid 1 used) s fun r t => r.1 = .ok → Shows env cmd own r.2 t :=
  fun r t hrun hok => ⟨fun hp => (getAttributes_page hp r t hrun hok _ _).trans h,
    fun hl hown => getAttributes_list hl (h.2 hown) r t hrun hok⟩

theorem applyAttributes_shows (h : s.ccap.Names cmd.pid cmd.oid ↔ own) :
    Ends (applyAttributes env cmd cmd.pid cmd.oid 1 fuel used) s fun r t => r.1 = .ok →
      Shows env cmd own r.2 t := by
  have hset : Respects SameCcap (setAttributes env cmd cmd.pid cmd.oid (1 : UInt16).toUInt32 fuel) :=
    off_setAttributes _ _ _
  refine ends_call (hset s) fun ret t ht => ends_ite_of (fun hbad => ends_pure.2 fun hok =>
    absurd hok hbad) fun _ => ?_
  exact getAttributes_shows (by rw [show t.ccap = s.ccap from ht]; exact h)

theorem withAttributes_shows {m : OsdM (Ret × Option UInt64)}
    (hm : Ends m s fun r t => r.1 = .ok → (t.ccap.Names cmd.pid cmd.oid ↔ own)) :
    Ends (withAttributes env cmd cmd.pid cmd.oid fuel m) s fun o t => o.ret = .ok →
      Shows env cmd own o.getUsed t := by
  refine ends_call hm fun r t ht => ends_ite_of (fun hbad => ends_pure.2 fun hok =>
    absurd hok hbad) fun hok => ?_
  exact ends_call (applyAttributes_shows (ht (Decidable.not_not.1 hok))) fun r u hu => ends_pure.2 hu

theorem noContinuations_shows {m : OsdM Outcome}
    (hm : Ends m s fun o t => o.ret = .ok → Shows env cmd own o.getUsed t) :
    Ends (noContinuations cmd cmd.pid cmd.oid m) s fun o t => o.ret = .ok → Shows env cmd own o.getUsed t :=
  ends_ite_of (fun _ => ends_pure.2 nofun) fun _ => hm

/-- A command that fills the page in. -/
theorem fills_own (h : cmd.serviceAction.fillsCcap = true) {m : OsdM Ret}
    (hm : Fills cmd.pid cmd.oid (· = .ok) m) :
    Ends (noOutput m) s fun r t => r.1 = .ok → (t.ccap.Names cmd.pid cmd.oid ↔ NamesOwn cmd s) :=
  ends_call (hm s) fun _ _ hn => ends_pure.2 fun hok => ⟨fun _ => .inl h, fun _ => hn hok⟩

/-- A command that does not. -/
theorem same_own (h : cmd.serviceAction.fillsCcap = false) {t : Target} (ht : SameCcap s t) :
    t.ccap.Names cmd.pid cmd.oid ↔ NamesOwn cmd s := by
  rw [show t.ccap = s.ccap from ht]
  exact ⟨.inr, fun hn => hn.resolve_left (by rw [h]; decide)⟩

theorem atomic_shows {m : OsdM (Ret × Option UInt64)} (h : cmd.serviceAction.fillsCcap = false)
    (hm : Respects SameCcap m) :
    Ends (if ¬ atomicArguments cmd then pure (.of (cdbErr cmd.pid cmd.oid) 0 0)
      else withAttributes env cmd cmd.pid cmd.oid fuel m) s
      fun o t => o.ret = .ok → Shows env cmd (NamesOwn cmd s) o.getUsed t :=
  ends_ite_of (fun _ => ends_pure.2 nofun) fun _ =>
    withAttributes_shows ((hm s).mono fun _ _ ht _ => same_own h ht)

theorem cdbRead_shows (h : cmd.serviceAction.fillsCcap = true) (ds : List ContDescriptor) :
    Ends (cdbRead env cmd ds fuel) s fun o t => o.ret = .ok →
      Shows env cmd (NamesOwn cmd s) o.getUsed t := by
  refine ends_ite_of (fun _ => ends_pure.2 nofun) fun _ =>
    ends_call (fills_osdReadDevice _ _ _ s) fun r t ht => ?_
  refine ends_ite_of (fun hbad => ends_pure.2 fun hok => absurd hok hbad.1) fun hgood => ?_
  have hread : r.1 = .ok ∨ r.1.isReadPastEnd = true := by
    by_contra hno
    exact hgood ⟨fun hok => hno (.inl hok), fun hend => hno (.inr hend)⟩
  have hown : t.ccap.Names cmd.pid cmd.oid ↔ NamesOwn cmd s := ⟨fun _ => .inl h, fun _ => ht hread⟩
  refine ends_call (applyAttributes_shows hown) fun r' u hu => ends_ite_of (fun hbad => ?_) fun hok => ?_
  · exact ends_pure.2 fun hok => absurd hok hbad
  · exact ends_pure.2 fun _ => hu (Decidable.not_not.1 hok)

/-- OSD_GET_ATTRIBUTES: what is set afterwards does not show. -/
theorem execGetAttributes_shows (h : cmd.serviceAction.fillsCcap = false) :
    Ends (execGetAttributes env cmd fuel) s
      fun o t => o.ret = .ok → Shows env cmd (NamesOwn cmd s) o.getUsed t := by
  have hset : Respects Untold (setAttributes env cmd cmd.pid cmd.oid 1 fuel) := off_setAttributes _ _ _
  refine ends_call (getAttributes_shows (same_own h (OffStorage.refl s))) fun r t ht =>
    ends_ite_of (fun hbad => ends_pure.2 fun hok => absurd hok hbad) fun hok => ?_
  refine ends_call (hset t) fun ret u hu => ends_pure.2 fun _ => ?_
  have hreply : u.reply = t.reply := Target.reply_of_out hu.out
  obtain ⟨hpage, hlist⟩ := ht (Decidable.not_not.1 hok)
  refine ⟨fun hp => ?_, fun hl hown => ?_⟩
  · rw [← hpage hp]
    exact ⟨fun hn => ⟨hreply ▸ hn.objType, hreply ▸ hn.pid, hreply ▸ hn.oid⟩,
      fun hn => ⟨hreply ▸ hn.objType, hreply ▸ hn.pid, hreply ▸ hn.oid⟩⟩
  · obtain ⟨answers, hrep, hall⟩ := hlist hl hown
    exact ⟨answers, ⟨hreply ▸ hrep.format, hreply ▸ hrep.length, hreply ▸ hrep.content, hrep.used⟩, hall⟩

theorem dispatch_shows (hobj : cmd.serviceAction.onUserobject = true) (ds : List ContDescriptor) :
    Ends (dispatch env cmd ds fuel) s
      fun o t => o.ret = .ok → Shows env cmd (NamesOwn cmd s) o.getUsed t := by
  unfold dispatch
  cases hact : cmd.serviceAction <;> rw [hact] at hobj <;> try exact absurd hobj (by decide)
  case read => exact cdbRead_shows (by rw [hact]; rfl) ds
  case write =>
    refine ends_ite_of (fun _ => ends_pure.2 nofun) fun _ => ?_
    refine ends_call (withAttributes_shows (fills_own (by rw [hact]; rfl) (fills_osdWrite _ _ _ _ _)))
      fun o t ht => ends_pure.2 ?_
    unfold Outcome.afterTest
    split <;> exact ht
  case append =>
    exact ends_ite_of (fun _ => ends_pure.2 nofun) fun _ => noContinuations_shows
      (withAttributes_shows (fills_own (by rw [hact]; rfl) (fills_contigAppend _ _)))
  case clear =>
    exact noContinuations_shows (withAttributes_shows (fills_own (by rw [hact]; rfl) (fills_osdClear _ _)))
  case punch =>
    have hpunch : Respects SameCcap (osdPunch env cmd.pid cmd.oid (getNtohll cmd.cdb 32)
        (getNtohll cmd.cdb 40)) :=
      off_osdPunch _ _
    exact noContinuations_shows (withAttributes_shows (ends_call (hpunch s) fun _ _ ht =>
      ends_pure.2 fun _ => same_own (by rw [hact]; rfl) ht))
  case cas => exact atomic_shows (by rw [hact]; rfl) (same_osdCas _ _ _)
  case fa => exact atomic_shows (by rw [hact]; rfl) (same_osdFa _ _)
  case getAttributes => exact noContinuations_shows (execGetAttributes_shows (by rw [hact]; rfl))
  case setAttributes =>
    refine noContinuations_shows (ends_call (applyAttributes_shows (same_own (by rw [hact]; rfl)
      (OffStorage.refl s))) fun r t ht => ends_pure.2 ht)

end Handlers

/-! ## Runs of commands -/

/-- **The current command attributes describe the current command** exactly when it is one of the four
that fill them in, or they name its object already.  This is so after every run: a page in the reply
names the object of the command exactly then, and a list does then. -/
theorem currentCommand_shows (rs : List Invocation) (r : Invocation) (s : Target)
    (hobj : r.cmd.serviceAction.onUserobject = true) :
    Ends (execAll rs) s fun _ t => Ends r.exec t fun o u => o.ret = .ok →
      Shows r.env r.cmd (NamesOwn r.cmd t) o.getUsed u := by
  intro _ t _
  unfold Invocation.exec execServiceAction
  refine ends_ite_of (fun _ => dispatch_shows hobj _) fun _ => ?_
  split
  · exact ends_never.2 trivial
  · exact dispatch_shows hobj _
  · rename_i ret ds hne _
    exact ends_pure.2 fun hok => absurd hok hne

/-- A command of this action on (0x10000, 0x10000) that retrieves the page. -/
def pageCommand (action : UInt16) : Command where
  cdb := blobMem (List.replicate 8 0 ++ htons action ++ List.replicate 6 0 ++ htonll 0x10000 ++
    htonll 0x10000 ++
    List.replicate 20 0 ++ htonl CUR_CMD_ATTR_PG ++ htonl 68)
  getsetCdbfmt := GETPAGE_SETVALUE
  retrievedAttrOff := 0
  indata _ := 0
  inlen := 0
  hasOutdata := true

theorem pageCommand_retrieves (action : UInt16)
    (h : getNtohl (pageCommand action).cdb 52 = CUR_CMD_ATTR_PG ∧
    getNtohl (pageCommand action).cdb 56 = 68) : (pageCommand action).RetrievesPage :=
  ⟨rfl, h.1, by rw [h.2]; decide⟩

/-- CLEAR of an object that was not the last one created. -/
theorem currentCommand_shows_clear : ∃ o u,
    (Invocation.mk Env.calm (pageCommand 0x8889) 0).exec twoObjects = some (o, u) ∧ o.ret = .ok ∧
      PageNames (pageCommand 0x8889) u 0x10000 0x10000 := by
  have hret : ((Invocation.mk Env.calm (pageCommand 0x8889) 0).exec twoObjects).map (fun p => p.1.ret)
      = some .ok := by decide +kernel
  obtain ⟨⟨o, u⟩, hrun, hok⟩ := Option.map_eq_some_iff.1 hret
  have hshows := currentCommand_shows [] ⟨Env.calm, pageCommand 0x8889, 0⟩ twoObjects (by decide +kernel)
    [] twoObjects rfl o u hrun hok
  exact ⟨o, u, hrun, hok, (hshows.page (pageCommand_retrieves _ (by decide +kernel))).2
    (.inl (by decide +kernel))⟩

/-- PUNCH of that object shows the one created last. -/
theorem punch_shows_other : ∃ o u,
    (Invocation.mk Env.calm (pageCommand 0x8884) 0).exec twoObjects = some (o, u) ∧ o.ret = .ok ∧
      (pageCommand 0x8884).RetrievesPage ∧ (pageCommand 0x8884).pid = 0x10000 ∧
      (pageCommand 0x8884).oid = 0x10000 ∧ ¬ PageNames (pageCommand 0x8884) u 0x10000 0x10000 := by
  have hret : ((Invocation.mk Env.calm (pageCommand 0x8884) 0).exec twoObjects).map
      (fun p => (p.1.ret, p.2.reply.read 52 8)) = some (.ok, htonll 0x10001) := by decide +kernel
  obtain ⟨⟨o, u⟩, hrun, heq⟩ := Option.map_eq_some_iff.1 hret
  rw [Prod.mk.injEq] at heq
  refine ⟨o, u, hrun, heq.1, pageCommand_retrieves _ (by decide +kernel), by
    decide +kernel, by decide +kernel,
    fun hn => ?_⟩
  have hoid : u.reply.read 52 8 = htonll 0x10000 := hn.oid
  exact absurd (htonll_inj (heq.2.symm.trans hoid)) (by decide)

end OsdTarget
