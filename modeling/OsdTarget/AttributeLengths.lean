import OsdTarget.NullValues
import OsdTarget.SetMembers
import OsdTarget.CreateAndWrite

/-!
# Lengths of attributes

SET ATTRIBUTES carries values in three formats, with lengths of 32 bits, of 16 bits, and of 16 bits of
which at most 18 are used.  All of them end in the 16-bit parameter of `osd_set_attributes`, and the tests
of that function see nothing else.
-/

namespace OsdTarget

open Base

variable {env : Env} {s t : Target} {pid oid : UInt64} {page number : UInt32}

/-! ## What a command asks for -/

/-- The pages that `osd_set_attributes` and the retrievals treat like any other. -/
def UserPage (page : UInt32) : Prop :=
  page ≠ 0 ∧ page ≠ USER_INFO_PG ∧ page ≠ ROOT_INFO_PG ∧ page ≠ USER_COLL_PG ∧ page ≠ USER_TMSTMP_PG ∧
    page ≠ USER_ATOMICS_PG

instance (page : UInt32) : Decidable (UserPage page) := inferInstanceAs (Decidable (_ ∧ _))

/-- The memory the values are in: in the field format the CDB itself. -/
def Command.valueBuf (cmd : Command) : Mem :=
  if cmd.getsetCdbfmt = GETFIELD_SETVALUE then cmd.cdb else cmd.indata

/-- The call of the value format. -/
def Command.valueEntry (cmd : Command) : ListEntry :=
  ⟨getNtohl cmd.cdb 64, getNtohl cmd.cdb 68, UInt16.ofNat (getNtohl cmd.cdb 72).toNat,
    (getNtohoffset cmd.cdb 76).toNat⟩

/-- It passes a NULL pointer on: the value format without data-in, and offset 0. -/
def Command.GivesNull (cmd : Command) : Prop :=
  cmd.getsetCdbfmt = GETPAGE_SETVALUE ∧ cmd.hasIndata = false ∧ (getNtohoffset cmd.cdb 76).toNat = 0

instance (cmd : Command) : Decidable cmd.GivesNull := inferInstanceAs (Decidable (_ ∧ _))

/-- The entries of the calls of `osd_set_attributes`, and whether there is an end to them; `none` when
there are no calls. -/
def Command.setCalls (cmd : Command) (fuel : Nat) : Option (List ListEntry × Bool) :=
  if cmd.getsetCdbfmt = GETPAGE_SETVALUE then match setAttrValueCheck cmd with
    | .use _ _ => some ([cmd.valueEntry], true)
    | _ => none
  else if cmd.getsetCdbfmt = GETLIST_SETLIST then match setListCheck cmd with
    | .use off len => some (visitEntries cmd.indata fuel (off + 8) (UInt32.ofNat len - 8))
    | _ => none
  else if cmd.getsetCdbfmt = GETFIELD_SETVALUE then match setOneAttrValueCheck cmd with
    | .use off len => some ([⟨getNtohl cmd.cdb 52, getNtohl cmd.cdb 56, UInt16.ofNat len, off⟩], true)
    | _ => none
  else none

/-- The attributes the command asks to set, with values of the length its field says. -/
def Command.requested (cmd : Command) (fuel : Nat) : List SetEntry :=
  if cmd.getsetCdbfmt = GETPAGE_SETVALUE then
    [⟨getNtohl cmd.cdb 64, getNtohl cmd.cdb 68,
      cmd.indata.read (getNtohoffset cmd.cdb 76).toNat (getNtohl cmd.cdb 72).toNat⟩]
  else if cmd.getsetCdbfmt = GETLIST_SETLIST then
    match cmd.setCalls fuel with
    | some calls => calls.1.map (ListEntry.setEntry cmd.indata)
    | none => []
  else if cmd.getsetCdbfmt = GETFIELD_SETVALUE then
    [⟨getNtohl cmd.cdb 52, getNtohl cmd.cdb 56, cmd.cdb.read 62 (getNtohs cmd.cdb 60).toNat⟩]
  else []

/-- The walk over a set list ends. -/
def Command.SetListEnds (cmd : Command) (fuel : Nat) : Prop :=
  ∀ calls, cmd.setCalls fuel = some calls → calls.2 = true

/-- The value of an attribute once the entries are set, the last one for it counting. -/
def supplied (es : List SetEntry) (page number : UInt32) (old : Option (List UInt8)) :
    Option (List UInt8) :=
  es.foldl (fun v e => if e.page = page ∧ e.number = number then some e.value else v) old

/-- An attribute has the value; where that is no bytes, it may be not defined instead. -/
def HasBytes (found value : Option (List UInt8)) : Prop :=
  found = value ∨ found = none ∧ value = some []

/-- The command fails and leaves the attribute as it was, or the attribute has exactly the bytes supplied
for it; a length above the limit is rejected. -/
structure StoresAsAsked (es : List SetEntry) (pid oid : UInt64) (s : Target) (ret : Ret) (s' : Target) :
    Prop where
  stored : ret = .ok → ∀ page number, UserPage page →
    HasBytes (s'.db.attribute pid oid page number)
      (supplied es page number (s.db.attribute pid oid page number))
  others : ret = .ok → ∀ page number, UserPage page → (∀ e ∈ es, ¬ (e.page = page ∧ e.number = number)) →
    s'.db.attribute pid oid page number = s.db.attribute pid oid page number
  failed : ret ≠ .ok → ∀ page number, UserPage page →
    s'.db.attribute pid oid page number = s.db.attribute pid oid page number ∨
      ∃ e ∈ es, e.page = page ∧ e.number = number ∧
        HasBytes (s'.db.attribute pid oid page number) (some e.value)
  long : (∃ e ∈ es, UserPage e.page ∧ ATTR_LEN_UB < e.value.length) → ret ≠ .ok

/-- A NULL pointer is not for an information page, where it may be followed. -/
def Command.NullUnread (cmd : Command) : Prop :=
  cmd.GivesNull → getNtohl cmd.cdb 64 ≠ USER_INFO_PG ∧ getNtohl cmd.cdb 64 ≠ ROOT_INFO_PG

/-- `set_attributes` does as asked, and comes to an end when its walk does and no NULL pointer is
followed. -/
def KeepsLengths (env : Env) (cmd : Command) (pid oid : UInt64) (fuel : Nat) (s : Target) : Prop :=
  Ends (setAttributes env cmd pid oid 1 fuel) s (StoresAsAsked (cmd.requested fuel) pid oid s) ∧
    (cmd.SetListEnds fuel → cmd.NullUnread → ∃ r, setAttributes env cmd pid oid 1 fuel s = some r)

/-! ## Values after a list -/

section Supplied

variable {es : List SetEntry} {old : Option (List UInt8)}

theorem supplied_append (es es' : List SetEntry) (page number : UInt32) (old : Option (List UInt8)) :
    supplied (es ++ es') page number old = supplied es' page number (supplied es page number old) :=
  List.foldl_append

/-- Either no entry is about the attribute, or its value is that of one that is. -/
theorem supplied_cases (es : List SetEntry) (page number : UInt32) (old : Option (List UInt8)) :
    supplied es page number old = old ∧ (∀ e ∈ es, ¬ (e.page = page ∧ e.number = number)) ∨
      ∃ e ∈ es, e.page = page ∧ e.number = number ∧ supplied es page number old = some e.value := by
  induction es using List.reverseRecOn with
  | nil => exact .inl ⟨rfl, nofun⟩
  | append_singleton es e ih =>
    rw [supplied_append]
    by_cases he : e.page = page ∧ e.number = number
    · exact .inr ⟨e, by simp, he.1, he.2, if_pos he⟩
    · have hlast : supplied [e] page number (supplied es page number old) = supplied es page number old :=
        if_neg he
      rw [hlast]
      rcases ih with ⟨hold, hno⟩ | ⟨e', hmem, hp, hn, hval⟩
      · refine .inl ⟨hold, fun e' hmem => ?_⟩
        rcases List.mem_append.1 hmem with hmem | hmem
        · exact hno e' hmem
        · rwa [List.mem_singleton.1 hmem]
      · exact .inr ⟨e', List.mem_append_left _ hmem, hp, hn, hval⟩

/-- Entries about other attributes do not count. -/
theorem supplied_of_other (h : ∀ e ∈ es, ¬ (e.page = page ∧ e.number = number)) :
    supplied es page number old = old := by
  rcases supplied_cases es page number old with ⟨hold, -⟩ | ⟨e, hmem, hp, hn, -⟩
  · exact hold
  · exact absurd ⟨hp, hn⟩ (h e hmem)

theorem supplied_of_page (h : ∀ e ∈ es, e.page ≠ page) : supplied es page number old = old :=
  supplied_of_other fun e he ha => h e he ha.1

end Supplied

/-! ## One call -/

/-- The value is that of the rows with the key of the attribute. -/
theorem attribute_of_agrees {k : Int × Int × Int × Int}
    (h : Agrees (fun r : AttrRow => r.key = k) s.db.attr t.db.attr)
    (hne : (attrRow pid oid page number []).key ≠ k) :
    t.db.attribute pid oid page number = s.db.attribute pid oid page number :=
  congrArg (Option.map AttrRow.value) (h.find? fun _ hx => decide_eq_false fun hx' => hne (hx'.symm.trans hx))

/-- Rows of different attributes have different keys. -/
theorem attrRow_key_ne {page' number' : UInt32} (h : ¬ (page' = page ∧ number' = number)) :
    (attrRow pid oid page' number' []).key ≠ (attrRow pid oid page number []).key := fun hk => by
  have hrows : (SetEntry.row pid oid ⟨page', number', []⟩).key = (SetEntry.row pid oid ⟨page, number, []⟩).key :=
    hk
  exact h (SetEntry.row_key.1 hrows).2

/-- What the table answers after a row of the object was stored. -/
theorem attribute_withAttr (e : SetEntry) (page number : UInt32) :
    (s.withAttr (e.row pid oid)).db.attribute pid oid page number
      = supplied [e] page number (s.db.attribute pid oid page number) := by
  have hkey : ∀ {x : SetEntry}, (x.row pid oid).key
      = (bindInt64 pid, bindInt64 oid, bindInt x.page, bindInt x.number) := rfl
  show _ = if e.page = page ∧ e.number = number then some e.value else _
  unfold Db.attribute
  by_cases he : e.page = page ∧ e.number = number
  · obtain ⟨rfl, rfl⟩ := he
    rw [if_pos ⟨rfl, rfl⟩, ← hkey]
    show ((insertReplace AttrRow.key (e.row pid oid) s.db.attr).find? _).map _ = _
    rw [find?_insertReplace]
    rfl
  · rw [if_neg he]
    exact attribute_of_agrees (fun _ hp => filter_insertReplace fun x hx => hp x hx)
      (attrRow_key_ne fun h => he ⟨h.1.symm, h.2.symm⟩)

/-- An accepted pair stores its value, and nothing else on the pages of users. -/
theorem PairStored.attribute {mem : Mem} {e : ListEntry} (h : PairStored env pid mem (oid, e) s t)
    (hpage : UserPage page) : t.db.attribute pid oid page number
      = supplied [e.setEntry mem] page number (s.db.attribute pid oid page number) := by
  obtain ⟨h0, hui, hri, hcap, -⟩ := hpage
  have hother : ∀ {p : UInt32}, e.page = p → p ≠ page →
      supplied [e.setEntry mem] page number (s.db.attribute pid oid page number)
        = s.db.attribute pid oid page number := fun hp hne =>
    supplied_of_page fun x hx => by
      rw [List.mem_singleton.1 hx]
      show e.page ≠ page
      rwa [hp]
  cases h with
  | row h hdms =>
    have hrow : SetPair.row pid mem (oid, e) = (e.setEntry mem).row pid oid := by
      show attrRow pid oid e.page e.number ((mem.shift e.cval).read 0 e.len.toNat) = _
      rw [Mem.read_shift]
      rfl
    rw [hrow]
    exact attribute_withAttr _ _ _
  | resized h => exact (hother h.1 hui.symm).symm
  | ignored h => exact (hother h.1 hri.symm).symm
  | pointed h => exact (hother h.1 hcap.symm).symm

/-! ## The calls of a command -/

/-- The calls, as `set_attributes` makes them inside its transaction, and what it answers after them. -/
def runCalls (env : Env) (cmd : Command) (pid oid : UInt64) (es : List ListEntry) (ended : Bool) :
    OsdM Ret := do
  let ret ← runPairs env pid cmd.valueBuf true (setPairs oid (createCount oid 1) es)
  if ret ≠ .ok then
    return ret
  if ended then return .ok else never

/-- One entry, set as a list of its own. -/
theorem setOnObjects_calls (env : Env) (pid oid : UInt64) (mem : Mem) (e : ListEntry) (n : Nat) :
    setOnObjects env pid e.page e.number (mem.shift e.cval) e.len true n oid = (do
      let ret ← runPairs env pid mem true (setPairs oid n [e])
      if ret ≠ .ok then
        return ret
      if true then return .ok else never) := by
  have hpairs : setPairs oid n [e] = pairsOf oid n e := List.flatMap_singleton _ _
  rw [hpairs, setOnObjects_eq]
  conv_lhs => rw [← bind_pure (runPairs env pid mem true (pairsOf oid n e))]
  refine bind_congr fun ret => ?_
  by_cases hret : ret = .ok
  · rw [hret, if_neg (not_not.2 rfl), if_pos rfl]
  · rw [if_pos hret]

/-- What the function of a format does before and after the calls: the tests, and a transaction. -/
def Command.SetsBy (cmd : Command) (env : Env) (pid oid : UInt64) (fuel : Nat) (x : OsdM Ret) : Prop :=
  (∃ ret, x = pure ret ∧ cmd.setCalls fuel = none ∧
    ∀ e ∈ cmd.requested fuel, (ret = .ok ↔ e.page = 0 ∧ cmd.getsetCdbfmt ≠ GETLIST_SETLIST)) ∨
  (cmd.GivesNull ∧ cmd.setCalls fuel = some ([cmd.valueEntry], true) ∧
    x = withinTxn env (setOnObjects env pid cmd.valueEntry.page cmd.valueEntry.number none
      cmd.valueEntry.len true (createCount oid 1) oid)) ∨
  ∃ es ended, ¬ cmd.GivesNull ∧ cmd.setCalls fuel = some (es, ended) ∧
    x = withinTxn env (runCalls env cmd pid oid es ended)

section Calls

variable (env : Env) {cmd : Command} (pid oid : UInt64) (fuel : Nat)

theorem setAttrValue_calls (hvalue : cmd.getsetCdbfmt = GETPAGE_SETVALUE) :
    cmd.SetsBy env pid oid fuel (setAttrValue env cmd pid oid true 1) := by
  have hbuf : cmd.valueBuf = cmd.indata := if_neg (by rw [hvalue]; decide)
  unfold Command.SetsBy Command.setCalls Command.requested setAttrValue setAttrValueCheck
  rw [if_pos hvalue, if_pos hvalue]
  by_cases h0 : getNtohl cmd.cdb 64 = 0
  · rw [if_pos h0]
    refine .inl ⟨_, rfl, rfl, fun e he => iff_of_true rfl ⟨?_, ?_⟩⟩
    · rw [List.mem_singleton.1 he]
      exact h0
    · rw [hvalue]
      decide
  · rw [if_neg h0]
    by_cases hnull : cmd.hasIndata = false ∧ (getNtohoffset cmd.cdb 76).toNat = 0
    · have hptr : cmd.indataAt (getNtohoffset cmd.cdb 76).toNat = none := if_pos hnull
      refine .inr (.inl ⟨⟨hvalue, hnull⟩, rfl, congrArg (withinTxn env) ?_⟩)
      rw [hptr]
      rfl
    · have hptr : cmd.indataAt (getNtohoffset cmd.cdb 76).toNat = some _ := if_neg hnull
      refine .inr (.inr ⟨_, true, fun h => hnull h.2, rfl, congrArg (withinTxn env) ?_⟩)
      rw [runCalls, hbuf, hptr]
      exact setOnObjects_calls env pid oid _ cmd.valueEntry _

theorem setAttrList_calls (hlist : cmd.getsetCdbfmt = GETLIST_SETLIST) :
    cmd.SetsBy env pid oid fuel (setAttrList env cmd pid oid true 1 fuel) := by
  have hvalue : cmd.getsetCdbfmt ≠ GETPAGE_SETVALUE := by
    rw [hlist]
    decide
  have hgiven : ¬ cmd.GivesNull := fun h => hvalue h.1
  have hbuf : cmd.valueBuf = cmd.indata := if_neg (by rw [hlist]; decide)
  have hcalls : cmd.setCalls fuel = match setListCheck cmd with
      | .use off len => some (visitEntries cmd.indata fuel (off + 8) (UInt32.ofNat len - 8))
      | _ => none := by
    unfold Command.setCalls
    rw [if_neg hvalue, if_pos hlist]
  unfold Command.SetsBy Command.requested setAttrList
  rw [if_neg hvalue, if_pos hlist, hcalls]
  cases setListCheck cmd with
  | nothing | reject _ =>
    -- a list that is not walked has no entry
    exact .inl ⟨_, rfl, rfl, fun e he => absurd he List.not_mem_nil⟩
  | use off len =>
    refine .inr (.inr ⟨_, _, hgiven, rfl, congrArg (withinTxn env) ?_⟩)
    rw [runCalls, hbuf]
    exact setAttrListLoop_eq _ _ _ _ _

theorem setOneAttrValue_calls (hfield : cmd.getsetCdbfmt = GETFIELD_SETVALUE) :
    cmd.SetsBy env pid oid fuel (setOneAttrValue env cmd pid oid true 1) := by
  have hvalue : cmd.getsetCdbfmt ≠ GETPAGE_SETVALUE := by
    rw [hfield]
    decide
  have hlist : cmd.getsetCdbfmt ≠ GETLIST_SETLIST := by
    rw [hfield]
    decide
  have hgiven : ¬ cmd.GivesNull := fun h => hvalue h.1
  have hbuf : cmd.valueBuf = cmd.cdb := if_pos hfield
  have hrefused : ∀ {asc : UInt16}, getNtohl cmd.cdb 52 ≠ 0 →
      ∀ e ∈ [(⟨getNtohl cmd.cdb 52, getNtohl cmd.cdb 56,
        cmd.cdb.read 62 (getNtohs cmd.cdb 60).toNat⟩ : SetEntry)],
      (senseBuildSdd OSD_SSK_ILLEGAL_REQUEST asc pid oid = .ok ↔
        e.page = 0 ∧ cmd.getsetCdbfmt ≠ GETLIST_SETLIST) := fun h0 e he => by
    refine iff_of_false nofun fun h => h0 ?_
    rw [List.mem_singleton.1 he] at h
    exact h.1
  unfold Command.SetsBy Command.setCalls Command.requested setOneAttrValue setOneAttrValueCheck
  rw [if_neg hvalue, if_neg hvalue, if_neg hlist, if_neg hlist, if_pos hfield, if_pos hfield]
  dsimp only
  by_cases h0 : getNtohl cmd.cdb 52 = 0
  · rw [if_pos h0]
    refine .inl ⟨_, rfl, rfl, fun e he => iff_of_true rfl ⟨?_, hlist⟩⟩
    rw [List.mem_singleton.1 he]
    exact h0
  rw [if_neg h0]
  by_cases h18 : 18 < getNtohs cmd.cdb 60
  · rw [if_pos h18]
    exact .inl ⟨_, rfl, rfl, hrefused h0⟩
  rw [if_neg h18]
  by_cases hff : getNtohl cmd.cdb 52 = 0xFFFFFFFF ∨ getNtohl cmd.cdb 56 = 0xFFFFFFFF
  · rw [if_pos hff]
    exact .inl ⟨_, rfl, rfl, hrefused h0⟩
  · rw [if_neg hff]
    refine .inr (.inr ⟨_, true, hgiven, rfl, congrArg (withinTxn env) ?_⟩)
    rw [runCalls, hbuf]
    exact setOnObjects_calls env pid oid _ ⟨_, _, _, _⟩ _

end Calls

theorem setAttributes_calls (env : Env) (cmd : Command) (pid oid : UInt64) (fuel : Nat) :
    cmd.SetsBy env pid oid fuel (setAttributes env cmd pid oid 1 fuel) := by
  have hone : setAttributes env cmd pid oid 1 fuel =
      if cmd.getsetCdbfmt = GETPAGE_SETVALUE then setAttrValue env cmd pid oid true 1
      else if cmd.getsetCdbfmt = GETLIST_SETLIST then setAttrList env cmd pid oid true 1 fuel
      else if cmd.getsetCdbfmt = GETFIELD_SETVALUE then setOneAttrValue env cmd pid oid true 1
      else pure (cdbErr pid oid) := if_neg (by decide)
  rw [hone]
  split_ifs with hvalue hlist hfield
  · exact setAttrValue_calls env pid oid fuel hvalue
  · exact setAttrList_calls env pid oid fuel hlist
  · exact setOneAttrValue_calls env pid oid fuel hfield
  · unfold Command.SetsBy Command.setCalls Command.requested
    rw [if_neg hvalue, if_neg hvalue, if_neg hlist, if_neg hlist, if_neg hfield, if_neg hfield]
    exact .inl ⟨_, rfl, rfl, fun e he => absurd he List.not_mem_nil⟩

/-- **The calls of one command**, on one object: those that are made set their entries, in order, and
they are all made unless one is refused. -/
theorem runPairs_stores {mem : Mem} {isembedded : Bool} (es : List ListEntry) :
    Ends (runPairs env pid mem isembedded (es.map fun e => (oid, e))) s fun ret s' =>
      ∃ done rest, es = done ++ rest ∧ (ret = .ok ↔ rest = []) ∧
        (∀ page number, UserPage page → s'.db.attribute pid oid page number
          = supplied (done.map (ListEntry.setEntry mem)) page number (s.db.attribute pid oid page number)) ∧
        ∀ e ∈ done, e.len ≠ 0 ∧ e.len.toNat ≤ ATTR_LEN_UB := by
  induction es generalizing s with
  | nil => exact ends_pure.2 ⟨[], [], rfl, ⟨fun _ => rfl, fun _ => rfl⟩, fun _ _ _ => rfl, nofun⟩
  | cons e es ih =>
    refine ends_call setPair_inv fun ret v h => ?_
    rcases h with ⟨hno, rfl⟩ | ⟨rfl, -, hallows, u, hst, rfl⟩
    · refine ends_ite_of (fun _ => ends_pure.2 ?_) fun h => absurd hno h
      exact ⟨[], e :: es, rfl, iff_of_false hno nofun, fun _ _ _ => rfl, nofun⟩
    · refine ends_ite_of (fun h => absurd rfl h) fun _ => ih.mono fun ret s' h => ?_
      obtain ⟨done, rest, rfl, hret, hattr, hlen⟩ := h
      refine ⟨e :: done, rest, rfl, hret, fun page number hp => ?_, ?_⟩
      · rw [hattr page number hp, Target.shown_db, hst.attribute hp]
        rfl
      · exact List.forall_mem_cons.2 ⟨⟨hallows.given, hallows.short⟩, hlen⟩

/-! ## Requests and calls -/

/-- The length field of the value format does not fit into the parameter. -/
def Command.Narrows (cmd : Command) : Prop :=
  cmd.getsetCdbfmt = GETPAGE_SETVALUE ∧ 2 ^ 16 ≤ (getNtohl cmd.cdb 72).toNat

/-- The tests of `osd_set_attributes` admit the pair, and the database stores its row. -/
def Target.Takes (s : Target) (env : Env) (pid : UInt64) (mem : Mem) (p : SetPair) : Prop :=
  env.Answers pid p.1 s.db ∧ s.db.Allows pid mem p ∧ env.dmsFails (.attrSet (p.row pid mem)) s.db = false

/-- They admit the call of the value format. -/
def Target.TakesValue (s : Target) (env : Env) (pid oid : UInt64) (cmd : Command) : Prop :=
  if cmd.GivesNull then
    s.db.TakesNull env pid oid cmd.valueEntry.page cmd.valueEntry.number cmd.valueEntry.len
  else s.Takes env pid cmd.indata (oid, cmd.valueEntry)

theorem setPairs_one (oid : UInt64) (es : List ListEntry) :
    setPairs oid 1 es = es.map fun e => (oid, e) := by
  have hone : ∀ e, pairsOf oid 1 e = [(oid, e)] := fun e => by
    rw [pairsOf_succ]
    rfl
  induction es with
  | nil => rfl
  | cons e es ih =>
    show pairsOf oid 1 e ++ setPairs oid 1 es = _
    rw [hone, ih]
    rfl

theorem setPairs_zero (oid : UInt64) (es : List ListEntry) : setPairs oid 0 es = [] :=
  List.flatMap_eq_nil_iff.2 fun _ _ => rfl

theorem setEntry_length (mem : Mem) (e : ListEntry) : (e.setEntry mem).value.length = e.len.toNat :=
  Mem.read_length _ _ _

theorem setCalls_value {cmd : Command} {fuel : Nat} (hf : cmd.getsetCdbfmt = GETPAGE_SETVALUE)
    {calls : List ListEntry × Bool} (h : cmd.setCalls fuel = some calls) : calls = ([cmd.valueEntry], true) := by
  unfold Command.setCalls setAttrValueCheck at h
  rw [if_pos hf] at h
  split_ifs at h
  exact (Option.some.inj h).symm

theorem setCalls_of_value {cmd : Command} {fuel : Nat} (hf : cmd.getsetCdbfmt = GETPAGE_SETVALUE)
    (h0 : getNtohl cmd.cdb 64 ≠ 0) : cmd.setCalls fuel = some ([cmd.valueEntry], true) := by
  unfold Command.setCalls setAttrValueCheck
  rw [if_pos hf, if_neg h0]

theorem requested_value {cmd : Command} {fuel : Nat} (hf : cmd.getsetCdbfmt = GETPAGE_SETVALUE) :
    cmd.requested fuel = [⟨getNtohl cmd.cdb 64, getNtohl cmd.cdb 68,
      cmd.indata.read (getNtohoffset cmd.cdb 76).toNat (getNtohl cmd.cdb 72).toNat⟩] := if_pos hf

/-- The calls pass on what is requested, unless the length is narrowed. -/
theorem requested_eq {cmd : Command} {fuel : Nat} {calls : List ListEntry × Bool}
    (h : cmd.setCalls fuel = some calls) (hwide : ¬ cmd.Narrows) :
    cmd.requested fuel = calls.1.map (ListEntry.setEntry cmd.valueBuf) := by
  by_cases hvalue : cmd.getsetCdbfmt = GETPAGE_SETVALUE
  · have hshort : (getNtohl cmd.cdb 72).toNat < 2 ^ 16 := Nat.not_le.1 fun hle => hwide ⟨hvalue, hle⟩
    have hbuf : cmd.valueBuf = cmd.indata := if_neg (by rw [hvalue]; decide)
    rw [requested_value hvalue, setCalls_value hvalue h, hbuf]
    show _ = [SetEntry.mk _ _ (cmd.indata.read _ (UInt16.ofNat (getNtohl cmd.cdb 72).toNat).toNat)]
    rw [UInt16.toNat_ofNat_of_lt' hshort]
    rfl
  by_cases hlist : cmd.getsetCdbfmt = GETLIST_SETLIST
  · have hbuf : cmd.valueBuf = cmd.indata := if_neg (by rw [hlist]; decide)
    unfold Command.requested
    rw [if_neg hvalue, if_pos hlist, h, hbuf]
  by_cases hfield : cmd.getsetCdbfmt = GETFIELD_SETVALUE
  · have hbuf : cmd.valueBuf = cmd.cdb := if_pos hfield
    unfold Command.setCalls setOneAttrValueCheck at h
    rw [if_neg hvalue, if_neg hlist, if_pos hfield] at h
    dsimp only at h
    split_ifs at h
    cases h
    unfold Command.requested
    rw [if_neg hvalue, if_neg hlist, if_pos hfield, hbuf]
    show _ = [SetEntry.mk _ _ (cmd.cdb.read _ (UInt16.ofNat (getNtohs cmd.cdb 60).toNat).toNat)]
    rw [UInt16.ofNat_toNat]
  · unfold Command.setCalls at h
    rw [if_neg hvalue, if_neg hlist, if_neg hfield] at h
    cases h

/-- A pair on a page of users is accepted exactly when it is taken. -/
theorem setPair_takes {mem : Mem} {isembedded : Bool} {e : ListEntry} (hpage : UserPage e.page) :
    Ends (setPair env pid mem isembedded (oid, e)) s fun ret t =>
      (ret = .ok ↔ s.Takes env pid mem (oid, e)) ∧ (ret ≠ .ok → t = s) ∧
        (ret = .ok → ∀ page number, UserPage page → t.db.attribute pid oid page number
          = supplied [e.setEntry mem] page number (s.db.attribute pid oid page number)) := by
  by_cases htakes : s.Takes env pid mem (oid, e)
  · obtain ⟨hanswers, hallows, hdms⟩ := htakes
    have hrow : SetPair.StoresRow (oid, e) (s.ccap.cdbSrvcAct = OSD_FORMAT_OSD) :=
      ⟨hpage.2.2.2.1, fun h => absurd h hpage.2.1, fun h => absurd h hpage.2.2.1⟩
    have hstored : PairStored env pid mem (oid, e) s _ := .row hrow hdms
    refine (ends_of_run (setPair_accepted ⟨hanswers, hallows, _, hstored, rfl⟩)).2 ?_
    refine ⟨iff_of_true rfl ⟨hanswers, hallows, hdms⟩, fun h => absurd rfl h, fun _ page number hp => ?_⟩
    rw [Target.shown_db, hstored.attribute hp]
  · refine setPair_inv.mono fun ret t h => ?_
    rcases h with ⟨hno, rfl⟩ | ⟨-, hanswers, hallows, u, hst, -⟩
    · exact ⟨iff_of_false hno htakes, fun _ => rfl, fun h => absurd h hno⟩
    · refine absurd ⟨hanswers, hallows, ?_⟩ htakes
      cases hst with
      | row _ hdms => exact hdms
      | resized h => exact absurd h.1 hpage.2.1
      | ignored h => exact absurd h.1 hpage.2.2.1
      | pointed h => exact absurd h.1 hpage.2.2.2.1

/-- Entries set in order, up to one that is refused. -/
theorem storesAsAsked_of_done {done rest : List SetEntry} {ret : Ret} (hret : ret = .ok → rest = [])
    (hattr : ∀ page number, UserPage page → t.db.attribute pid oid page number
      = supplied done page number (s.db.attribute pid oid page number))
    (hlen : ∀ e ∈ done, e.value.length ≤ ATTR_LEN_UB) : StoresAsAsked (done ++ rest) pid oid s ret t where
  stored hok page number hp := by
    rw [hret hok, List.append_nil]
    exact .inl (hattr page number hp)
  others hok page number hp hno := by
    rw [hattr page number hp]
    exact supplied_of_other fun e he => hno e (List.mem_append_left _ he)
  failed _ page number hp := by
    rw [hattr page number hp]
    rcases supplied_cases done page number (s.db.attribute pid oid page number) with ⟨hold, -⟩ |
      ⟨e, hmem, hpg, hn, hval⟩
    · exact .inl hold
    · exact .inr ⟨e, List.mem_append_left _ hmem, hpg, hn, .inl hval⟩
  long h hok := by
    obtain ⟨e, hmem, -, hlong⟩ := h
    rw [hret hok, List.append_nil] at hmem
    exact absurd (hlen e hmem) (Nat.not_le.2 hlong)

/-- Nothing happens to the attributes of users, and where that is a success none was asked for. -/
theorem storesAsAsked_of_nothing {es : List SetEntry} {ret : Ret}
    (h : ret = .ok → ∀ e ∈ es, ¬ UserPage e.page)
    (hsame : ∀ page number, UserPage page →
      t.db.attribute pid oid page number = s.db.attribute pid oid page number) :
    StoresAsAsked es pid oid s ret t where
  stored hok page number hp := by
    rw [supplied_of_page fun e he hpg => h hok e he (by rwa [hpg])]
    exact .inl (hsame page number hp)
  others _ page number hp _ := hsame page number hp
  failed _ page number hp := .inl (hsame page number hp)
  long := fun ⟨e, he, hp, _⟩ hok => h hok e he hp

/-- Entries on other pages may come and go. -/
theorem StoresAsAsked.of_other {es es' : List SetEntry} {ret : Ret} (h : StoresAsAsked es pid oid s ret t)
    (hes : ∀ e ∈ es, ¬ UserPage e.page) (hes' : ∀ e ∈ es', ¬ UserPage e.page) :
    StoresAsAsked es' pid oid s ret t := by
  refine storesAsAsked_of_nothing (fun _ => hes') fun page number hp => ?_
  have hno : ∀ e ∈ es, ¬ (e.page = page ∧ e.number = number) := fun e he ha =>
    hes e he (show UserPage e.page by rwa [ha.1])
  by_cases hok : ret = .ok
  · exact h.others hok page number hp hno
  · rcases h.failed hok page number hp with hold | ⟨e, hmem, hpg, hn, -⟩
    · exact hold
    · exact absurd ⟨hpg, hn⟩ (hno e hmem)

/-! ## The retrieval after it -/

/-- The attributes on the pages of users are as they were. -/
def SameUserPages (s s' : Target) : Prop :=
  ∀ pid oid page number, UserPage page →
    s'.db.attribute pid oid page number = s.db.attribute pid oid page number

instance : Untransacted SameUserPages where
  same _ _ hdb _ _ _ _ _ _ _ _ _ _ := by rw [hdb]
  trans _ _ _ h h' pid oid page number hp := (h' pid oid page number hp).trans (h pid oid page number hp)
  txn _ _ _ _ _ _ _ _ := rfl

/-- The names a retrieval of everything may store are on pages of the standard. -/
theorem sameUserPages_admits {r : AttrRow} (hr : r ∈ lazyAttrs pid oid) : Admits SameUserPages r := by
  intro s pid' oid' page number hp
  have hpages : ∀ {p : UInt32}, p ≠ page → bindInt p ≠ bindInt page := fun {p} hne h =>
    hne (by rw [← columnInt_bindInt p, h, columnInt_bindInt])
  have hne : r.page ≠ bindInt page := by
    simp only [lazyAttrs, List.mem_cons, List.not_mem_nil, or_false] at hr
    rcases hr with rfl | rfl
    · exact hpages hp.2.2.2.2.1.symm
    · exact hpages hp.2.2.2.2.2.symm
  exact attribute_of_agrees (fun _ hq => filter_insertReplace fun x hx => hq x hx) fun hk =>
    hne (congrArg (fun k => k.2.2.1) hk).symm

section Retrieval

variable {R : Target → Target → Prop} [Untransacted R]

/-- A retrieval stores nothing but these names. -/
theorem resp_getAttributes (hR : ∀ i, ∀ r ∈ lazyAttrs pid i, Admits R r) (cmd : Command) (oid : UInt64)
    (numoid : UInt16) (used : UInt32) : Respects R (getAttributes env cmd pid oid numoid used) := by
  have hobjects : ∀ page number listfmt n i c,
      Respects R (getFromObjects env pid page number true listfmt n i c) := by
    intro page number listfmt n
    induction n with
    | zero => exact fun _ _ => resp_pure _
    | succ n ih =>
      exact fun i c => resp_bind (fun _ => osdGetattrList_stays fun _ _ => hR i) fun _ =>
        respects_ite (resp_pure _) (ih _ _)
  have hloop : ∀ listfmt l c, Respects R (getAttrListLoop env pid oid true listfmt numoid l c) := by
    intro listfmt l
    induction l with
    | nil => exact fun _ => resp_pure _
    | cons e l ih =>
      exact fun c => resp_bind (hobjects _ _ _ _ _ _) fun _ => respects_ite (resp_pure _) (ih _)
  refine respects_ite (resp_pure _) (respects_ite ?_ (respects_ite ?_ (respects_ite (resp_pure _)
    (resp_pure _))))
  · refine respects_ite (resp_pure _) (respects_ite (resp_pure _) (respects_ite (resp_pure _) ?_))
    exact resp_bind (fun _ => osdGetattrPage_stays fun _ _ => hR oid) fun _ => resp_pure _
  · unfold getAttrList
    split
    · exact resp_pure _
    · exact resp_pure _
    · refine resp_bind (resp_outWrite _ _) fun _ => resp_bind (resp_outWrite _ _) fun _ =>
        resp_bind (resp_withinTxn (resp_bind (hloop _ _ _) fun r => ?_)) fun _ => resp_pure _
      exact respects_ite (resp_bind (resp_outWrite _ _) fun _ => resp_pure _) (resp_pure _)

end Retrieval

/-- Once the attributes are set, the retrieval may fail, but they stay. -/
theorem StoresAsAsked.of_same {es : List SetEntry} {u : Target} (h : StoresAsAsked es pid oid s .ok t)
    (hsame : SameUserPages t u) (ret : Ret) : StoresAsAsked es pid oid s ret u where
  stored _ page number hp := by
    rw [hsame pid oid page number hp]
    exact h.stored rfl page number hp
  others _ page number hp hno := (hsame pid oid page number hp).trans (h.others rfl page number hp hno)
  failed _ page number hp := by
    rw [hsame pid oid page number hp]
    have hstored := h.stored rfl page number hp
    rcases supplied_cases es page number (s.db.attribute pid oid page number) with ⟨-, hno⟩ |
      ⟨e, hmem, hpg, hn, hval⟩
    · exact .inl (h.others rfl page number hp hno)
    · exact .inr ⟨e, hmem, hpg, hn, hval ▸ hstored⟩
  long hlong := absurd rfl (h.long hlong)

/-! ## When lengths are kept -/

theorem halts_runPairs {mem : Mem} {isembedded : Bool} (ps : List SetPair) :
    Halts (runPairs env pid mem isembedded ps) := by
  induction ps with
  | nil => exact halts_pure _
  | cons p ps ih =>
    exact halts_bind (halts_osdSetAttributes _ _ _ _) fun _ => halts_ite (halts_pure _) ih

/-- The attributes the command asks to set have their values already. -/
def Target.Holds (s : Target) (pid oid : UInt64) (es : List SetEntry) : Prop :=
  (∀ page number, UserPage page → HasBytes (s.db.attribute pid oid page number)
    (supplied es page number (s.db.attribute pid oid page number))) ∧
  ∀ e ∈ es, UserPage e.page → e.value.length ≤ ATTR_LEN_UB

/-- The loops over the objects make no call for the last id; a call of the value format with a length of
more than 16 bits is refused. -/
def Command.SetsInFull (cmd : Command) (env : Env) (pid oid : UInt64) (fuel : Nat) (s : Target) : Prop :=
  if oid + 1 = 0 then
    ∀ calls, cmd.setCalls fuel = some calls → calls.2 = true → s.Holds pid oid (cmd.requested fuel)
  else cmd.Narrows → UserPage (getNtohl cmd.cdb 64) → ¬ s.TakesValue env pid oid cmd

theorem setOnObjects_one (val : Option Mem) (len : UInt16) :
    setOnObjects env pid page number val len true 1 oid
      = osdSetAttributes env pid oid page number val len true := by
  conv_rhs => rw [← bind_pure (osdSetAttributes env pid oid page number val len true)]
  refine bind_congr fun ret => ?_
  by_cases hret : ret = .ok
  · rw [hret, if_neg (not_not.2 rfl)]
    rfl
  · rw [if_pos hret]

theorem halts_setAttributes {cmd : Command} {fuel : Nat} (hends : cmd.SetListEnds fuel)
    (hnull : oid + 1 ≠ 0 → cmd.NullUnread) : Halts (setAttributes env cmd pid oid 1 fuel) := by
  rcases setAttributes_calls env cmd pid oid fuel with ⟨ret, hret, -⟩ | ⟨hgives, -, hrun⟩ |
    ⟨es, ended, -, hcalls, hrun⟩
  · rw [hret]
    exact halts_pure _
  · rw [hrun, createCount_one]
    refine halts_withinTxn ?_
    by_cases hlast : oid + 1 = 0
    · rw [if_pos hlast]
      exact halts_pure _
    · have hpage := hnull hlast hgives
      rw [if_neg hlast, setOnObjects_one]
      exact halts_osdSetAttributes_null hpage.1 hpage.2
  · obtain rfl : ended = true := hends _ hcalls
    rw [hrun]
    refine halts_withinTxn (halts_bind (halts_runPairs _) fun _ => halts_ite (halts_pure _) ?_)
    rw [if_pos rfl]
    exact halts_pure _

/-- The calls in their transaction: what holds after them holds of the command. -/
theorem ends_setAttributes {cmd : Command} {fuel : Nat} {es : List ListEntry} {ended : Bool}
    {Q : Ret → Target → Prop}
    (hrun : setAttributes env cmd pid oid 1 fuel = withinTxn env (runCalls env cmd pid oid es ended))
    (h : ∀ b l, Ends (runPairs env pid cmd.valueBuf true (setPairs oid (createCount oid 1) es))
      { s with inTxn := b, txnCalls := l } fun ret t => (ret = .ok → ended = true) →
        ∀ b l, Q ret { t with inTxn := b, txnCalls := l }) :
    Ends (setAttributes env cmd pid oid 1 fuel) s Q := by
  rw [hrun]
  refine withinTxn_ends fun b l => ends_call (h b l) fun ret t hQ => ?_
  refine ends_ite_of (fun hno => ends_pure.2 fun b l => hQ (fun hok => absurd hok hno) b l) fun hok => ?_
  obtain rfl : ret = .ok := not_not.1 hok
  cases ended with
  | true => exact ends_pure.2 fun b l => hQ (fun _ => rfl) b l
  | false => exact nofun

/-- **What the calls make of the requests** where each is called with the length it has. -/
theorem runPairs_asAsked {cmd : Command} {fuel : Nat} {es : List ListEntry} {ended : Bool}
    (hone : oid + 1 ≠ 0) (hcalls : cmd.setCalls fuel = some (es, ended))
    (hrun : setAttributes env cmd pid oid 1 fuel = withinTxn env (runCalls env cmd pid oid es ended))
    (hwide : cmd.Narrows → ¬ UserPage (getNtohl cmd.cdb 64)) :
    Ends (setAttributes env cmd pid oid 1 fuel) s (StoresAsAsked (cmd.requested fuel) pid oid s) := by
  have hcalled : Ends (setAttributes env cmd pid oid 1 fuel) s
      (StoresAsAsked (es.map (ListEntry.setEntry cmd.valueBuf)) pid oid s) := by
    refine ends_setAttributes hrun fun b l => ?_
    rw [createCount_one, if_neg hone, setPairs_one]
    refine (runPairs_stores es).mono fun ret t h _ b' l' => ?_
    obtain ⟨done, rest, rfl, hret, hattr, hlen⟩ := h
    rw [List.map_append]
    refine storesAsAsked_of_done (fun hok => by rw [hret.1 hok]; rfl) hattr fun e he => ?_
    obtain ⟨x, hx, rfl⟩ := List.mem_map.1 he
    rw [setEntry_length]
    exact (hlen x hx).2
  by_cases hnarrow : cmd.Narrows
  · refine hcalled.mono fun ret t h => h.of_other ?_ ?_
    · obtain ⟨rfl, -⟩ := Prod.ext_iff.1 (setCalls_value hnarrow.1 hcalls)
      intro e he
      rw [List.mem_singleton.1 he]
      exact hwide hnarrow
    · intro e he
      rw [requested_value hnarrow.1] at he
      rw [List.mem_singleton.1 he]
      exact hwide hnarrow
  · rw [requested_eq hcalls hnarrow]
    exact hcalled

/-- A call of the value format with a length it cannot pass on. -/
theorem runPairs_narrows {cmd : Command} {fuel : Nat} {es : List ListEntry} {ended : Bool}
    (hone : oid + 1 ≠ 0) (hcalls : cmd.setCalls fuel = some (es, ended))
    (hrun : setAttributes env cmd pid oid 1 fuel = withinTxn env (runCalls env cmd pid oid es ended))
    (hnarrow : cmd.Narrows) (hpage : UserPage (getNtohl cmd.cdb 64)) :
    Ends (setAttributes env cmd pid oid 1 fuel) s fun ret t =>
      StoresAsAsked (cmd.requested fuel) pid oid s ret t ↔
        ¬ s.Takes env pid cmd.indata (oid, cmd.valueEntry) := by
  have hbuf : cmd.valueBuf = cmd.indata := if_neg (by rw [hnarrow.1]; decide)
  have hreq : cmd.requested fuel = _ := requested_value hnarrow.1
  obtain ⟨rfl, rfl⟩ := Prod.ext_iff.1 (setCalls_value hnarrow.1 hcalls)
  refine ends_setAttributes hrun fun b l => ?_
  rw [createCount_one, if_neg hone, setPairs_one, hbuf]
  refine ends_call (setPair_takes (e := cmd.valueEntry) hpage) fun ret t h => ?_
  obtain ⟨htakes, hsame, -⟩ := h
  by_cases hok : ret = .ok
  · -- the length asked for is above the limit
    refine ends_ite_of (fun hno => absurd hok hno) fun _ => ends_pure.2 fun _ b' l' => ?_
    refine iff_of_false (fun hall => hall.long ⟨_, hreq ▸ List.mem_cons_self, hpage, ?_⟩ rfl)
      (not_not.2 (htakes.1 hok))
    rw [Mem.read_length]
    exact Nat.lt_of_lt_of_le (by decide) hnarrow.2
  · refine ends_ite_of (fun _ => ends_pure.2 fun _ b' l' => ?_) fun h => absurd (not_not.1 h) hok
    obtain rfl := hsame hok
    exact iff_of_true (storesAsAsked_of_nothing (fun h => absurd h hok) fun _ _ _ => rfl) fun htaken =>
      hok (htakes.2 htaken)

/-! ## A NULL pointer -/

/-- Of the attributes of the object only the one that is deleted has changed. -/
theorem attribute_erased (hcap : page ≠ USER_COLL_PG) {page' number' : UInt32} :
    (s.erased pid oid page number).db.attribute pid oid page' number'
      = if page' = page ∧ number' = number then none else s.db.attribute pid oid page' number' := by
  rw [Target.erased, if_neg hcap]
  by_cases hsame : page' = page ∧ number' = number
  · obtain ⟨rfl, rfl⟩ := hsame
    rw [if_pos ⟨rfl, rfl⟩]
    refine Option.map_eq_none_iff.2 (List.find?_eq_none.2 fun x hx => ?_)
    rw [decide_eq_true_eq]
    exact (mem_deleteWhere.1 hx).2
  · rw [if_neg hsame]
    exact attribute_of_agrees (fun _ hq => filter_deleteWhere fun x hx => hq x hx) (attrRow_key_ne hsame)

/-- The attribute that is deleted was to have a value of no bytes. -/
theorem storesAsAsked_of_erased (hattr : ∀ page' number', t.db.attribute pid oid page' number'
    = if page' = page ∧ number' = number then none else s.db.attribute pid oid page' number') :
    StoresAsAsked [⟨page, number, []⟩] pid oid s .ok t where
  stored _ page' number' _ := by
    rw [hattr]
    show HasBytes _ (if page = page' ∧ number = number' then some [] else _)
    by_cases hsame : page' = page ∧ number' = number
    · rw [if_pos hsame, if_pos ⟨hsame.1.symm, hsame.2.symm⟩]
      exact .inr ⟨rfl, rfl⟩
    · rw [if_neg hsame, if_neg fun h => hsame ⟨h.1.symm, h.2.symm⟩]
      exact .inl rfl
  others _ page' number' _ hno := by
    rw [hattr]
    exact if_neg fun h => hno _ List.mem_cons_self ⟨h.1.symm, h.2.symm⟩
  failed h := absurd rfl h
  long := fun ⟨_, he, _, hlen⟩ => by
    rw [List.mem_singleton.1 he] at hlen
    exact absurd hlen (Nat.not_lt_zero _)

/-- A call for one page leaves the attributes of the others. -/
theorem Stored.attribute_of_page {val : Option Mem} {len : UInt16} {page' number' : UInt32}
    (h : Stored pid oid page number val len s t) (hne : page' ≠ page) :
    t.db.attribute pid oid page' number' = s.db.attribute pid oid page' number' := by
  have hkey : (attrRow pid oid page' number' []).key ≠ (attrRow pid oid page number []).key :=
    attrRow_key_ne fun h => hne h.1
  cases h with
  | row => exact attribute_of_agrees (fun _ hp => filter_insertReplace fun x hx => hp x hx) hkey
  | deleted => exact attribute_of_agrees (fun _ hp => filter_deleteWhere fun x hx => hp x hx) hkey
  | resized | ignored | pointed | unpointed => rfl

/-- **What a NULL pointer makes of the request**: without a value there is none of any length. -/
theorem setAttributes_null {cmd : Command} {fuel : Nat} (hone : oid + 1 ≠ 0) (hgives : cmd.GivesNull)
    (hrun : setAttributes env cmd pid oid 1 fuel = withinTxn env (setOnObjects env pid cmd.valueEntry.page
      cmd.valueEntry.number none cmd.valueEntry.len true (createCount oid 1) oid)) :
    Ends (setAttributes env cmd pid oid 1 fuel) s fun ret t =>
      StoresAsAsked (cmd.requested fuel) pid oid s ret t ↔
        (cmd.Narrows → UserPage (getNtohl cmd.cdb 64) →
          ¬ s.db.TakesNull env pid oid cmd.valueEntry.page cmd.valueEntry.number cmd.valueEntry.len) := by
  have hreq : cmd.requested fuel = _ := requested_value hgives.1
  rw [hrun, createCount_one, if_neg hone, setOnObjects_one, hreq]
  refine withinTxn_ends fun b l => ?_
  by_cases hpage : UserPage (getNtohl cmd.cdb 64)
  · refine (osdSetAttributes_null hpage.2.1 hpage.2.2.1).mono fun ret t h b' l' => ?_
    rcases h with ⟨rfl, htakes, rfl⟩ | ⟨hno, hrefused, rfl⟩
    · by_cases hnarrow : cmd.Narrows
      · -- the length asked for is above the limit
        refine iff_of_false (fun hall => hall.long ⟨_, List.mem_cons_self, hpage, ?_⟩ rfl)
          fun h => h hnarrow hpage htakes
        rw [Mem.read_length]
        exact Nat.lt_of_lt_of_le (by decide) hnarrow.2
      · refine iff_of_true ?_ fun h => absurd h hnarrow
        have hzero : (getNtohl cmd.cdb 72).toNat = 0 := by
          have hlen := congrArg UInt16.toNat htakes.empty
          have hshort : (getNtohl cmd.cdb 72).toNat < 2 ^ 16 := Nat.not_le.1 fun h => hnarrow ⟨hgives.1, h⟩
          rwa [show cmd.valueEntry.len.toNat = (getNtohl cmd.cdb 72).toNat from
            UInt16.toNat_ofNat_of_lt' hshort] at hlen
        rw [hzero]
        exact storesAsAsked_of_erased fun _ _ => attribute_erased hpage.2.2.2.1
    · exact iff_of_true (storesAsAsked_of_nothing (fun h => absurd h hno) fun _ _ _ => rfl)
        fun _ _ => hrefused
  · refine osdSetAttributes_stores.mono fun ret t h b' l' => ?_
    refine iff_of_true (storesAsAsked_of_nothing (fun _ e he => ?_) fun page number hp => ?_)
      fun _ h => absurd h hpage
    · rwa [List.mem_singleton.1 he]
    · rcases h with ⟨-, rfl⟩ | ⟨-, type, u, c, -, hst, rfl⟩
      · rfl
      · exact hst.attribute_of_page fun h => hpage (by rwa [h] at hp)

/-- No call is made for the last id. -/
theorem setAttributes_last {cmd : Command} {fuel : Nat} {es : List ListEntry} {ended : Bool}
    (hlast : oid + 1 = 0) (hcalls : cmd.setCalls fuel = some (es, ended)) :
    Ends (setAttributes env cmd pid oid 1 fuel) s fun ret t =>
      ended = true ∧ ret = .ok ∧ t.db = s.db ∧ t.files = s.files := by
  rcases setAttributes_calls env cmd pid oid fuel with ⟨_, -, hnone, -⟩ | ⟨-, hcalls', hrun⟩ |
    ⟨es', ended', -, hcalls', hrun⟩
  · rw [hcalls] at hnone
    cases hnone
  · rw [hcalls] at hcalls'
    cases hcalls'
    rw [hrun, createCount_one, if_pos hlast]
    exact withinTxn_ends fun b l => ends_pure.2 fun _ _ => ⟨rfl, rfl, rfl, rfl⟩
  · rw [hcalls] at hcalls'
    cases hcalls'
    refine ends_setAttributes hrun fun b l => ?_
    rw [createCount_one, if_pos hlast, setPairs_zero]
    exact ends_pure.2 fun hended _ _ => ⟨hended rfl, rfl, rfl, rfl⟩

/-- What is asked for of any other id is done, unless the value format narrows a length that is taken. -/
theorem setAttributes_called {cmd : Command} {fuel : Nat} {calls : List ListEntry × Bool}
    (hone : oid + 1 ≠ 0) (hcalls : cmd.setCalls fuel = some calls) :
    Ends (setAttributes env cmd pid oid 1 fuel) s fun ret t =>
      StoresAsAsked (cmd.requested fuel) pid oid s ret t ↔
        (cmd.Narrows → UserPage (getNtohl cmd.cdb 64) → ¬ s.TakesValue env pid oid cmd) := by
  unfold Target.TakesValue
  rcases setAttributes_calls env cmd pid oid fuel with ⟨_, -, hnone, -⟩ | ⟨hgives, -, hrun⟩ |
    ⟨es, ended, hgives, hcalls', hrun⟩
  · rw [hcalls] at hnone
    cases hnone
  · rw [if_pos hgives]
    exact setAttributes_null hone hgives hrun
  · rw [if_neg hgives]
    by_cases hnarrow : cmd.Narrows ∧ UserPage (getNtohl cmd.cdb 64)
    · refine (runPairs_narrows hone hcalls' hrun hnarrow.1 hnarrow.2).mono fun ret t h => h.trans ?_
      exact ⟨fun h _ _ => h, fun h => h hnarrow.1 hnarrow.2⟩
    · refine (runPairs_asAsked hone hcalls' hrun fun hn hp => hnarrow ⟨hn, hp⟩).mono fun ret t h => ?_
      exact iff_of_true h fun hn hp => absurd ⟨hn, hp⟩ hnarrow

/-- Without a call the command fails, or the attributes to be set are on no page of users. -/
theorem setAttributes_idle {cmd : Command} {fuel : Nat} (hcalls : cmd.setCalls fuel = none) :
    Ends (setAttributes env cmd pid oid 1 fuel) s (StoresAsAsked (cmd.requested fuel) pid oid s) := by
  rcases setAttributes_calls env cmd pid oid fuel with ⟨ret, hret, -, hnone⟩ | ⟨-, hcalls', -⟩ |
    ⟨es, ended, -, hcalls', -⟩
  · rw [hret]
    exact ends_pure.2 (storesAsAsked_of_nothing (fun hok e he hp => hp.1 ((hnone e he).1 hok).1)
      fun _ _ _ => rfl)
  · rw [hcalls] at hcalls'
    cases hcalls'
  · rw [hcalls] at hcalls'
    cases hcalls'

/-- A state that nothing was stored in is as asked when it held everything before. -/
theorem Target.Holds.storesAsAsked {es : List SetEntry} (h : s.Holds pid oid es) (hdb : t.db = s.db) :
    StoresAsAsked es pid oid s .ok t where
  stored _ page number hp := by
    rw [hdb]
    exact h.1 page number hp
  others _ _ _ _ _ := by rw [hdb]
  failed hno := absurd rfl hno
  long := fun ⟨e, he, hp, hlen⟩ => absurd (h.2 e he hp) (Nat.not_le.2 hlen)

theorem Command.SetsInFull.stores {cmd : Command} {fuel : Nat} (h : cmd.SetsInFull env pid oid fuel s) :
    Ends (setAttributes env cmd pid oid 1 fuel) s (StoresAsAsked (cmd.requested fuel) pid oid s) := by
  unfold Command.SetsInFull at h
  cases hcalls : cmd.setCalls fuel with
  | none => exact setAttributes_idle hcalls
  | some calls =>
    by_cases hlast : oid + 1 = 0
    · rw [if_pos hlast] at h
      refine (setAttributes_last hlast hcalls).mono fun ret t ht => ?_
      obtain ⟨hended, rfl, hdb, -⟩ := ht
      exact (h _ hcalls hended).storesAsAsked hdb
    · rw [if_neg hlast] at h
      exact (setAttributes_called hlast hcalls).mono fun ret t ht => ht.2 h

/-- The last id: the command ends without a call, so the attributes had their values. -/
theorem holds_of_stores {cmd : Command} {fuel : Nat} {calls : List ListEntry × Bool} (hlast : oid + 1 = 0)
    (hcalls : cmd.setCalls fuel = some calls) (hended : calls.2 = true)
    (hall : Ends (setAttributes env cmd pid oid 1 fuel) s (StoresAsAsked (cmd.requested fuel) pid oid s)) :
    s.Holds pid oid (cmd.requested fuel) := by
  have hends : cmd.SetListEnds fuel := fun calls' h' => by
    rw [hcalls] at h'
    cases h'
    exact hended
  have hhalts : Halts (setAttributes env cmd pid oid 1 fuel) :=
    halts_setAttributes hends fun h => absurd hlast h
  obtain ⟨ret, t, hret, -, rfl, hdb, -⟩ := (setAttributes_last hlast hcalls).of_halts hhalts
  have hasked := hall _ _ hret
  refine ⟨fun page number hp => ?_, fun e he hp => Nat.not_lt.1 fun hlen => ?_⟩
  · rw [← hdb]
    exact hdb ▸ hasked.stored rfl page number hp
  · exact hasked.long ⟨e, he, hp, hlen⟩ rfl

theorem setsInFull_of_stores {cmd : Command} {fuel : Nat}
    (hall : Ends (setAttributes env cmd pid oid 1 fuel) s (StoresAsAsked (cmd.requested fuel) pid oid s)) :
    cmd.SetsInFull env pid oid fuel s := by
  unfold Command.SetsInFull
  by_cases hlast : oid + 1 = 0
  · rw [if_pos hlast]
    exact fun calls hcalls hended => holds_of_stores hlast hcalls hended hall
  · rw [if_neg hlast]
    intro hnarrow hpage
    have hends : cmd.SetListEnds fuel := fun calls h => by rw [setCalls_value hnarrow.1 h]
    have hhalts : Halts (setAttributes env cmd pid oid 1 fuel) :=
      halts_setAttributes hends fun _ _ => ⟨hpage.2.1, hpage.2.2.1⟩
    obtain ⟨ret, t, hret, hiff⟩ :=
      (setAttributes_called hlast (setCalls_of_value hnarrow.1 hpage.1)).of_halts hhalts
    exact hiff.1 (hall _ _ hret) hnarrow hpage

/-- Attribute 1 of the first page of users, with a length of 2^16 + 8 in the value format. -/
def wideValue : Command where
  cdb := blobMem (List.replicate 64 0 ++ htonl 0x10000 ++ htonl 1 ++ htonl 0x10008)
  getsetCdbfmt := GETPAGE_SETVALUE
  retrievedAttrOff := 0
  indata := blobMem (List.replicate 8 7)
  inlen := 0x10008
  hasOutdata := false

end OsdTarget
