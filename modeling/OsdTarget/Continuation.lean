import OsdTarget.ListEntry
import OsdTarget.Base.Rounds

/-!
# CDB continuation segments

`parse_cdb_continuation_segment` of `cdb.c`: a chain of descriptors, each with a header that says how
long it is.  The size of a descriptor is computed in 32 bits before it is compared with what is left
of the segment.  It wraps around in two cases: a descriptor of 2^32 - 8 bytes then has size 0, and one
of 2^32 bytes has the size of its header alone.
-/

namespace OsdTarget

open Base

/-! ## Headers -/

def NO_MORE_DESCRIPTORS : UInt16 := 0x0000
def SCATTER_GATHER_LIST : UInt16 := 0x0001
def QUERY_LIST : UInt16 := 0x0002
def COPY_USER_OBJECT_SOURCE : UInt16 := 0x0101
def EXTENSION_CAPABILITIES : UInt16 := 0xFFEE

/-- `struct cdb_continuation_descriptor_header`, its pad length cut to three bits. -/
structure DescHdr where
  type : UInt16
  padLength : UInt8
  length : UInt32

/-- The header at an offset of the segment. -/
def descHdr (cdbCont : Mem) (off : Nat) : DescHdr where
  type := getNtohs cdbCont off
  padLength := cdbCont (off + 3) &&& 0x7
  length := getNtohl cdbCont (off + 4)

/-- `desc_len`: length, pad and header, in 32 bits. -/
def DescHdr.descLen (h : DescHdr) : UInt32 := h.length + h.padLength.toUInt32 + 8

/-- The tests a descriptor must pass: its size is a multiple of 8 and fits, its type is known, and the
two list types have no pad. -/
def DescHdr.accepted (h : DescHdr) (off : Nat) (cdbContLen : UInt32) : Bool :=
  if (h.length + h.padLength.toUInt32) % 8 ≠ 0 then false
  else if off + h.descLen.toNat > cdbContLen.toNat then false
  else if h.type = NO_MORE_DESCRIPTORS then true
  else if h.type = SCATTER_GATHER_LIST then h.padLength = 0
  else if h.type = QUERY_LIST then h.padLength = 0
  else false

/-- `struct cdb_continuation_descriptor`, with the offset of its header for the pointers into the
segment. -/
structure ContDescriptor where
  type : UInt16
  length : UInt32
  hdr : Nat
  deriving DecidableEq, Repr

/-- `sglist.num_entries` and `sglist.entries`; the latter are after the header. -/
def ContDescriptor.numEntries (d : ContDescriptor) : Nat := d.length.toNat / 16
def ContDescriptor.entries (d : ContDescriptor) : Nat := d.hdr + 8

/-! ## The parser -/

/-- One round of the loop at `cdb_cont`; the descriptor is recorded before it is tested. -/
def contRound (indata : Mem) (cdbContLen : UInt32) (err : Ret) :
    Nat × List ContDescriptor → Round (Nat × List ContDescriptor) (Ret × List ContDescriptor)
  | (off, descriptors) =>
    if cdbContLen.toNat ≤ off then .exit (.ok, descriptors)
    else
      let h := descHdr indata off
      let descriptors := descriptors ++ [⟨h.type, h.length, off⟩]
      if h.accepted off cdbContLen then .next (off + h.descLen.toNat, descriptors)
      else .fail (err, descriptors)

/-- The tests in front of the loop. -/
def contChecks (indata : Mem) (cdbContLen : UInt32) (action : UInt16) : Bool :=
  if cdbContLen % 8 ≠ 0 ∨ cdbContLen < 48 then false
  else if getNtohs indata 2 ≠ action then false
  else indata 0 = 1

/-- The parser, with at most `n` rounds of its loop. -/
def parseCdbContinuationSegment (indata : Mem) (cdbContLen : UInt32) (action : UInt16)
    (pid oid : UInt64) (n : Nat) : Option (Ret × List ContDescriptor) :=
  let err := senseBuildSdd OSD_SSK_ILLEGAL_REQUEST OSD_ASC_INVALID_FIELD_IN_CDB pid oid
  if contChecks indata cdbContLen action then rounds (contRound indata cdbContLen err) n (40, [])
  else some (err, [])

/-! ## What is asked of it -/

/-- The bytes the descriptor claims, its header and its pad included. -/
def DescHdr.extent (h : DescHdr) : Nat := 8 + h.length.toNat + h.padLength.toNat

/-- The descriptors lie one after the other from `off` on and end before `len`, entries included. -/
def LieWithin (indata : Mem) (len : Nat) : Nat → List ContDescriptor → Prop
  | _, [] => True
  | off, d :: ds =>
    let extent := (descHdr indata off).extent
    d.hdr = off ∧ off + extent ≤ len ∧
      (d.type = SCATTER_GATHER_LIST → d.entries + 16 * d.numEntries ≤ len) ∧
      LieWithin indata len (off + extent) ds

/-- The parser ends within one round for each 8 bytes, and what it accepts lies inside. -/
def ParsesBounded (indata : Mem) (cdbContLen : UInt32) (action : UInt16) (pid oid : UInt64) : Prop :=
  ∃ ret descriptors, parseCdbContinuationSegment indata cdbContLen action pid oid
      (cdbContLen.toNat / 8) = some (ret, descriptors) ∧
    (ret = .ok → LieWithin indata cdbContLen.toNat 40 descriptors)

/-- The walk goes on from the header at `off` to the one at `off'`. -/
def NextHeader (indata : Mem) (cdbContLen : UInt32) (off off' : Nat) : Prop :=
  off < cdbContLen.toNat ∧ (descHdr indata off).accepted off cdbContLen = true ∧
    off' = off + (descHdr indata off).descLen.toNat

/-- The walk comes to a header at `off`. -/
def Visits (indata : Mem) (cdbContLen : UInt32) (off : Nat) : Prop :=
  Relation.ReflTransGen (NextHeader indata cdbContLen) 40 off ∧ off < cdbContLen.toNat

/-- No size that matters wraps around: none to 0, and none to that of a header unless the walk comes
to a header that is rejected anyway. -/
def SizesFit (indata : Mem) (cdbContLen : UInt32) : Prop :=
  ∀ off, Visits indata cdbContLen off → (descHdr indata off).accepted off cdbContLen = true →
    (descHdr indata off).extent ≠ 2 ^ 32 ∧
      ((descHdr indata off).extent = 2 ^ 32 + 8 → ∃ off', Visits indata cdbContLen off' ∧
        (descHdr indata off').accepted off' cdbContLen = false)

/-! ## Sizes -/

section

variable {indata : Mem} {cdbContLen : UInt32} {off : Nat}

theorem descHdr_padLength_le (indata : Mem) (off : Nat) : (descHdr indata off).padLength.toNat ≤ 7 := by
  show (indata (off + 3) &&& 0x7).toNat ≤ 7
  rw [UInt8.toNat_and]
  exact Nat.and_le_right

/-- The size the parser computes is the extent, cut to 32 bits. -/
theorem DescHdr.descLen_toNat (h : DescHdr) : h.descLen.toNat = h.extent % 2 ^ 32 := by
  unfold DescHdr.descLen DescHdr.extent
  rw [UInt32.toNat_add, UInt32.toNat_add, UInt8.toNat_toUInt32]
  show ((h.length.toNat + h.padLength.toNat) % 2 ^ 32 + 8) % 2 ^ 32 = _
  omega

/-- What passing the tests says about the extent. -/
theorem accepted_extent (h : (descHdr indata off).accepted off cdbContLen = true) :
    (descHdr indata off).extent % 8 = 0 ∧
      off + (descHdr indata off).descLen.toNat ≤ cdbContLen.toNat := by
  unfold DescHdr.accepted at h
  split at h
  · cases h
  · rename_i hmod
    split at h
    · cases h
    · rename_i hfit
      refine ⟨?_, Nat.le_of_not_lt hfit⟩
      have hmod : (((descHdr indata off).length + (descHdr indata off).padLength.toUInt32) % 8).toNat
          = 0 := by
        rw [Decidable.not_not.1 hmod]
        rfl
      rw [UInt32.toNat_mod, UInt32.toNat_add, UInt8.toNat_toUInt32] at hmod
      have hmod : ((descHdr indata off).length.toNat + (descHdr indata off).padLength.toNat) % 2 ^ 32 % 8
          = 0 := hmod
      unfold DescHdr.extent
      omega

/-- Apart from the two extents that wrap around, the size is the extent. -/
theorem accepted_cases (h : (descHdr indata off).accepted off cdbContLen = true) :
    (descHdr indata off).extent = 2 ^ 32 ∨ (descHdr indata off).extent = 2 ^ 32 + 8 ∨
      (descHdr indata off).extent < 2 ^ 32 ∧
        (descHdr indata off).descLen.toNat = (descHdr indata off).extent := by
  have hmod := (accepted_extent h).1
  have hpad := descHdr_padLength_le indata off
  have hlen := (descHdr indata off).length.toNat_lt
  have hsize := (descHdr indata off).descLen_toNat
  have hext : (descHdr indata off).extent
      = 8 + (descHdr indata off).length.toNat + (descHdr indata off).padLength.toNat := rfl
  omega

/-! ## The walk of the loop -/

variable {err : Ret} {descriptors : List ContDescriptor} {n : Nat}

theorem contRound_exit (h : cdbContLen.toNat ≤ off) :
    contRound indata cdbContLen err (off, descriptors) = .exit (.ok, descriptors) := if_pos h

theorem contRound_next (h : off < cdbContLen.toNat)
    (hacc : (descHdr indata off).accepted off cdbContLen = true) :
    contRound indata cdbContLen err (off, descriptors) = .next (off + (descHdr indata off).descLen.toNat,
      descriptors ++ [⟨(descHdr indata off).type, (descHdr indata off).length, off⟩]) := by
  show (if cdbContLen.toNat ≤ off then _ else _) = _
  rw [if_neg (Nat.not_le.2 h)]
  exact if_pos hacc

theorem contRound_fail (h : off < cdbContLen.toNat)
    (hacc : (descHdr indata off).accepted off cdbContLen = false) :
    contRound indata cdbContLen err (off, descriptors) = .fail (err,
      descriptors ++ [⟨(descHdr indata off).type, (descHdr indata off).length, off⟩]) := by
  show (if cdbContLen.toNat ≤ off then _ else _) = _
  rw [if_neg (Nat.not_le.2 h)]
  exact if_neg (by rw [hacc]; exact Bool.false_ne_true)

/-- The loop goes where the headers lead. -/
theorem leads_of_reaches {off' : Nat}
    (h : Relation.ReflTransGen (NextHeader indata cdbContLen) off off') :
    ∃ descriptors', Leads (contRound indata cdbContLen err) (off, descriptors) (off', descriptors') := by
  induction h with
  | refl => exact ⟨descriptors, .refl⟩
  | tail _ hnext ih =>
    obtain ⟨ds, hds⟩ := ih
    obtain ⟨hlt, hacc, rfl⟩ := hnext
    exact ⟨_, hds.tail (contRound_next hlt hacc)⟩

theorem reaches_of_leads {a b : Nat × List ContDescriptor}
    (h : Leads (contRound indata cdbContLen err) a b) :
    Relation.ReflTransGen (NextHeader indata cdbContLen) a.1 b.1 := by
  induction h with
  | refl => exact .refl
  | @tail c d _ hstep ih =>
    refine ih.tail ?_
    obtain ⟨o, ds⟩ := c
    by_cases hlt : o < cdbContLen.toNat
    · cases hacc : (descHdr indata o).accepted o cdbContLen with
      | true =>
        rw [contRound_next hlt hacc] at hstep
        cases hstep
        exact ⟨hlt, hacc, rfl⟩
      | false =>
        rw [contRound_fail hlt hacc] at hstep
        cases hstep
    · rw [contRound_exit (Nat.le_of_not_lt hlt)] at hstep
      cases hstep

/-- **What an accepting run says.**  Every header it came to was accepted, and the descriptors lie
within the segment exactly if none of these headers wrapped around. -/
theorem rounds_ok {out : List ContDescriptor}
    (h : rounds (contRound indata cdbContLen err) n (off, descriptors) = some (.ok, out))
    (herr : err ≠ .ok) : ∃ ds, out = descriptors ++ ds ∧
      (∀ off', Relation.ReflTransGen (NextHeader indata cdbContLen) off off' → off' < cdbContLen.toNat →
        (descHdr indata off').accepted off' cdbContLen = true) ∧
      ((∀ off', Relation.ReflTransGen (NextHeader indata cdbContLen) off off' →
          off' < cdbContLen.toNat → (descHdr indata off').extent < 2 ^ 32) ↔
        LieWithin indata cdbContLen.toNat off ds) := by
  induction n generalizing off descriptors with
  | zero =>
    by_cases hlt : off < cdbContLen.toNat
    · cases hacc : (descHdr indata off).accepted off cdbContLen with
      | true => simp [rounds, contRound_next hlt hacc] at h
      | false => simp [rounds, contRound_fail hlt hacc] at h
    · rw [rounds_exit (contRound_exit (Nat.le_of_not_lt hlt))] at h
      obtain rfl : descriptors = out := by simpa using h
      have hstop : ∀ off', Relation.ReflTransGen (NextHeader indata cdbContLen) off off' →
          ¬ off' < cdbContLen.toNat := by
        intro off' hr
        rcases hr.cases_head with rfl | ⟨c, hc, -⟩
        · exact hlt
        · exact absurd hc.1 hlt
      exact ⟨[], by simp, fun off' hr hl => absurd hl (hstop off' hr),
        fun _ => trivial, fun _ off' hr hl => absurd hl (hstop off' hr)⟩
  | succ n ih =>
    by_cases hlt : off < cdbContLen.toNat
    · cases hacc : (descHdr indata off).accepted off cdbContLen with
      | true =>
        rw [rounds_next (contRound_next hlt hacc)] at h
        obtain ⟨ds, hout, hall, hiff⟩ := ih h
        refine ⟨⟨(descHdr indata off).type, (descHdr indata off).length, off⟩ :: ds, by simp [hout],
          fun off' hr hl => ?_, ?_⟩
        · rcases hr.cases_head with rfl | ⟨c, ⟨-, -, rfl⟩, hr⟩
          · exact hacc
          · exact hall off' hr hl
        · have hfit := (accepted_extent hacc).2
          have hsize := (descHdr indata off).descLen_toNat
          have hlen := cdbContLen.toNat_lt
          constructor
          · intro hsmall
            have hext := hsmall off .refl hlt
            have hdesc : (descHdr indata off).descLen.toNat = (descHdr indata off).extent := by omega
            rw [hdesc] at hfit hiff
            refine ⟨rfl, hfit, fun _ => ?_, hiff.1 fun off' hr hl => hsmall off' (.head ?_ hr) hl⟩
            · have hval : (descHdr indata off).extent
                  = 8 + (descHdr indata off).length.toNat + (descHdr indata off).padLength.toNat := rfl
              show off + 8 + 16 * ((descHdr indata off).length.toNat / 16) ≤ cdbContLen.toNat
              omega
            · exact ⟨hlt, hacc, by rw [hdesc]⟩
          · rintro ⟨-, hend, -, hrest⟩ off' hr hl
            have hext : (descHdr indata off).extent < 2 ^ 32 := by omega
            have hdesc : (descHdr indata off).descLen.toNat = (descHdr indata off).extent := by omega
            rw [hdesc] at hiff
            rcases hr.cases_head with rfl | ⟨c, ⟨-, -, rfl⟩, hr⟩
            · exact hext
            · rw [hdesc] at hr
              exact hiff.2 hrest off' hr hl
      | false =>
        rw [rounds_fail (contRound_fail hlt hacc)] at h
        exact absurd (congrArg Prod.fst (Option.some.inj h)) herr
    · have hexit : contRound indata cdbContLen err (off, descriptors) = .exit (.ok, descriptors) :=
        contRound_exit (Nat.le_of_not_lt hlt)
      rw [rounds_exit hexit] at h
      have hzero : rounds (contRound indata cdbContLen err) n (off, descriptors) = some (.ok, out) := by
        rw [rounds_exit hexit, h]
      exact ih hzero

/-! ## When the parser is total and bounded -/

/-- With sizes that fit, one round for each 8 bytes is enough. -/
theorem rounds_enough (hmod : cdbContLen.toNat % 8 = 0) (hfit : SizesFit indata cdbContLen) :
    ∃ r, rounds (contRound indata cdbContLen err) (cdbContLen.toNat / 8) (40, []) = some r := by
  let I : Nat × List ContDescriptor → Prop := fun s => s.1 % 8 = 0 ∧
    Relation.ReflTransGen (NextHeader indata cdbContLen) 40 s.1
  let μ : Nat × List ContDescriptor → Nat := fun s => (cdbContLen.toNat - s.1) / 8
  refine rounds_total (I := I) (μ := μ) ?_ ?_ ⟨rfl, .refl⟩ (Nat.div_le_div_right (Nat.sub_le _ _))
  · rintro ⟨off, ds⟩ t ⟨h8, hr⟩ hstep
    by_cases hlt : off < cdbContLen.toNat
    · cases hacc : (descHdr indata off).accepted off cdbContLen with
      | true =>
        rw [contRound_next hlt hacc] at hstep
        cases hstep
        obtain ⟨hext, hend⟩ := accepted_extent hacc
        have hne := (hfit off ⟨hr, hlt⟩ hacc).1
        have hsize := (descHdr indata off).descLen_toNat
        have hval : 8 ≤ (descHdr indata off).extent := by
          unfold DescHdr.extent
          omega
        have hcases := accepted_cases hacc
        refine ⟨⟨?_, hr.tail ⟨hlt, hacc, rfl⟩⟩, ?_⟩
        · show (off + (descHdr indata off).descLen.toNat) % 8 = 0
          have h8 : off % 8 = 0 := h8
          omega
        · show (cdbContLen.toNat - (off + (descHdr indata off).descLen.toNat)) / 8
            < (cdbContLen.toNat - off) / 8
          omega
      | false =>
        rw [contRound_fail hlt hacc] at hstep
        cases hstep
    · rw [contRound_exit (Nat.le_of_not_lt hlt)] at hstep
      cases hstep
  · rintro ⟨off, ds⟩ r ⟨h8, -⟩ hstep
    by_cases hlt : off < cdbContLen.toNat
    · show 0 < (cdbContLen.toNat - off) / 8
      have h8 : off % 8 = 0 := h8
      omega
    · rw [contRound_exit (Nat.le_of_not_lt hlt)] at hstep
      cases hstep

/-- A header with extent 2^32 holds the loop for ever. -/
theorem rounds_stuck (hvis : Visits indata cdbContLen off)
    (hacc : (descHdr indata off).accepted off cdbContLen = true)
    (hext : (descHdr indata off).extent = 2 ^ 32) (n : Nat) :
    rounds (contRound indata cdbContLen err) n (40, []) = none := by
  obtain ⟨ds, hleads⟩ : ∃ ds, Leads (contRound indata cdbContLen err) (40, []) (off, ds) :=
    leads_of_reaches hvis.1
  refine rounds_none_of_leads hleads (fun n => ?_) n
  refine rounds_diverges (I := fun s => s.1 = off) ?_ rfl n
  rintro ⟨o, ds⟩ rfl
  refine ⟨_, contRound_next hvis.2 hacc, ?_⟩
  show o + (descHdr indata o).descLen.toNat = o
  rw [DescHdr.descLen_toNat, hext]
  rfl

/-- A run that comes to no rejected header accepts. -/
theorem rounds_accepts {r : Ret × List ContDescriptor}
    (h : rounds (contRound indata cdbContLen err) n (40, []) = some r)
    (hall : ∀ off, Visits indata cdbContLen off → (descHdr indata off).accepted off cdbContLen = true) :
    r.1 = .ok := by
  obtain ⟨⟨off, ds⟩, hleads, hend⟩ := rounds_some h
  have hr := reaches_of_leads hleads
  by_cases hlt : off < cdbContLen.toNat
  · rw [contRound_next hlt (hall off ⟨hr, hlt⟩)] at hend
    rcases hend with hend | hend <;> cases hend
  · rw [contRound_exit (Nat.le_of_not_lt hlt)] at hend
    rcases hend with hend | hend <;> cases hend
    rfl

end

/-- **The parser is total and bounded exactly when the sizes fit.** -/
theorem parsesBounded_iff (indata : Mem) (cdbContLen : UInt32) (action : UInt16) (pid oid : UInt64) :
    ParsesBounded indata cdbContLen action pid oid ↔
      (contChecks indata cdbContLen action = true → SizesFit indata cdbContLen) := by
  let err := senseBuildSdd OSD_SSK_ILLEGAL_REQUEST OSD_ASC_INVALID_FIELD_IN_CDB pid oid
  have herr : err ≠ .ok := nofun
  unfold ParsesBounded parseCdbContinuationSegment
  dsimp only
  by_cases hchk : contChecks indata cdbContLen action = true
  · rw [if_pos hchk]
    have hmod : cdbContLen.toNat % 8 = 0 := by
      unfold contChecks at hchk
      split at hchk
      · cases hchk
      · rename_i hbad
        have hz : cdbContLen % 8 = 0 := Decidable.not_not.1 fun h => hbad (.inl h)
        have hz := congrArg UInt32.toNat hz
        rwa [UInt32.toNat_mod] at hz
    constructor
    · rintro ⟨ret, ds, hrun, hok⟩ - off hvis hacc
      refine ⟨fun hext => ?_, fun hext => ?_⟩
      · rw [rounds_stuck hvis hacc hext] at hrun
        cases hrun
      · -- if every header were accepted, the descriptors would lie within
        by_contra hno
        have hall : ∀ o, Visits indata cdbContLen o →
            (descHdr indata o).accepted o cdbContLen = true := by
          intro o ho
          by_contra hrej
          exact hno ⟨o, ho, by simpa using hrej⟩
        have hret : ret = .ok := rounds_accepts hrun hall
        rw [hret] at hrun
        obtain ⟨ds', rfl, -, hiff⟩ := rounds_ok hrun herr
        have hlt := hiff.2 (hok hret) off hvis.1 hvis.2
        omega
    · intro hfit
      have hfit := hfit hchk
      obtain ⟨⟨ret, ds⟩, hrun⟩ : ∃ r, rounds (contRound indata cdbContLen err) (cdbContLen.toNat / 8)
          (40, []) = some r := rounds_enough hmod hfit
      refine ⟨ret, ds, hrun, ?_⟩
      rintro rfl
      obtain ⟨ds', rfl, hall, hiff⟩ := rounds_ok hrun herr
      refine hiff.1 fun off hr hlt => ?_
      have hacc := hall off hr hlt
      obtain ⟨hne, hover⟩ := hfit off ⟨hr, hlt⟩ hacc
      rcases accepted_cases hacc with h | h | h
      · exact absurd h hne
      · obtain ⟨o, ho, hrej⟩ := hover h
        rw [hall o ho.1 ho.2] at hrej
        cases hrej
      · exact h.1
  · rw [if_neg hchk]
    exact ⟨fun _ h => absurd h hchk, fun _ => ⟨err, [], rfl, fun h => absurd h herr⟩⟩

/-- A scatter/gather descriptor that claims 2^32 - 8 bytes. -/
def endlessSegment : Mem := blobMem ([1, 0, 0x88, 0x85] ++ List.replicate 36 0 ++
  [0, 1, 0, 0, 0xFF, 0xFF, 0xFF, 0xF8])

/-- Six rounds for 48 bytes do not suffice; no number does. -/
theorem parse_endless :
    ¬ ∀ (indata : Mem) (cdbContLen : UInt32) (action : UInt16) (pid oid : UInt64),
      ParsesBounded indata cdbContLen action pid oid := by
  intro h
  obtain ⟨ret, ds, hrun, -⟩ := h endlessSegment 48 0x8885 0x10000 0x10000
  have hnone : parseCdbContinuationSegment endlessSegment 48 0x8885 0x10000 0x10000
      ((48 : UInt32).toNat / 8) = none := by decide +kernel
  rw [hnone] at hrun
  cases hrun

end OsdTarget
