import OsdTarget.FileNames

/-!
# Names of data files in every build

`get_dfile_name` has one branch for each build, and callers give it a buffer of `MAXNAMELEN` bytes.
`setup_root_paths` refuses root paths above `MAXROOTLEN` bytes.  Characters are bytes here.
-/

namespace OsdTarget

open Base

def MAXNAMELEN : Nat := 256
def MAXROOTLEN : Nat := 200

/-- The branch under `PVFS_OSD_INTEGRATED`: `%s/%08llx/bstreams/%.8llu/%08llx.bstream`. -/
def pvfsDfileName (root : List Char) (pid oid : UInt64) : List Char :=
  root ++ '/' :: (padded 8 (numeral 16 pid.toNat) ++ "/bstreams/".toList ++
    padded 8 (numeral 10 (oid % 64).toNat) ++ '/' :: (padded 8 (numeral 16 oid.toNat) ++ ".bstream".toList))

/-- The branch under `__PANASAS_OSDSIM__`: `%s/%s/%llu` and `/%llu/data`. -/
def osdsimDfileName (root : List Char) (pid oid : UInt64) : List Char :=
  let dir := root ++ '/' :: dfiles ++ '/' :: numeral 10 pid.toNat
  if oid = 0 then dir else dir ++ '/' :: (numeral 10 oid.toNat ++ "/data".toList)

/-- The branch under `__PANASAS_OSD__`: `%s/%s/%llu` and `/%llu`. -/
def panasasDfileName (root : List Char) (pid oid : UInt64) : List Char :=
  let dir := root ++ '/' :: dfiles
  if oid = 0 then dir ++ '/' :: numeral 10 pid.toNat
  else if pid = 0 then dir
  else dir ++ '/' :: numeral 10 pid.toNat ++ '/' :: numeral 10 oid.toNat

/-- The builds, by the macro that `get_dfile_name` asks for. -/
inductive Build where
  | pvfsOsdIntegrated
  | panasasOsdsim
  | panasasOsd
  | other
  deriving DecidableEq, Repr

/-- `get_dfile_name` as each build has it. -/
def Build.dfileName : Build → List Char → UInt64 → UInt64 → List Char
  | .pvfsOsdIntegrated => pvfsDfileName
  | .panasasOsdsim => osdsimDfileName
  | .panasasOsd => panasasDfileName
  | .other => getDfileName

/-- The names of two objects are two names, and the buffer takes each, with its NUL. -/
structure Build.NamesFit (b : Build) (root : List Char) (pid oid pid' oid' : UInt64) : Prop where
  inj : b.dfileName root pid oid = b.dfileName root pid' oid' → pid = pid' ∧ oid = oid'
  fits : (b.dfileName root pid oid).length + 1 ≤ MAXNAMELEN
  fits' : (b.dfileName root pid' oid').length + 1 ≤ MAXNAMELEN

/-- The columns `%08llx` takes. -/
def hexColumns (n : UInt64) : Nat := max 8 (Nat.log 16 n.toNat + 1)

/-- The root path leaves room for the two ids in the longer names of PVFS. -/
def Build.LeavesRoom (b : Build) (root : List Char) (pid oid : UInt64) : Prop :=
  b = .pvfsOsdIntegrated → root.length + hexColumns pid + hexColumns oid ≤ 227

variable {root : List Char} {pid oid pid' oid' : UInt64} {b n : Nat}

/-! ## Lengths -/

theorem length_hexColumns (n : UInt64) : (padded 8 (numeral 16 n.toNat)).length = hexColumns n := by
  rw [length_padded, length_numeral (by decide), hexColumns]

theorem length_decimal_le (n : UInt64) : (numeral 10 n.toNat).length ≤ 20 :=
  length_numeral_le (by decide) (by decide) (Nat.lt_trans n.toNat_lt (by decide))

theorem length_hexadecimal_le (n : UInt64) : (numeral 16 n.toNat).length ≤ 16 :=
  length_numeral_le (by decide) (by decide) n.toNat_lt

/-- The directory of PVFS that a file is in: `oid % 64` in eight columns. -/
theorem length_slot (oid : UInt64) : (padded 8 (numeral 10 (oid % 64).toNat)).length = 8 := by
  rw [length_padded]
  refine Nat.max_eq_left (length_numeral_le (by decide) (by decide) ?_)
  rw [UInt64.toNat_mod]
  exact Nat.lt_trans (Nat.mod_lt _ (by decide)) (by decide)

theorem length_pvfsDfileName :
    (pvfsDfileName root pid oid).length = root.length + hexColumns pid + hexColumns oid + 28 := by
  unfold pvfsDfileName
  simp only [List.length_append, List.length_cons, length_hexColumns, length_slot]
  have h1 : "/bstreams/".toList.length = 10 := rfl
  have h2 : ".bstream".toList.length = 8 := rfl
  omega

theorem length_osdsimDfileName (h0 : oid ≠ 0) : (osdsimDfileName root pid oid).length ≤ root.length + 54 := by
  have hp := length_decimal_le pid
  have ho := length_decimal_le oid
  have h1 : dfiles.length = 6 := rfl
  have h2 : "/data".toList.length = 5 := rfl
  unfold osdsimDfileName
  rw [if_neg h0]
  simp only [List.length_append, List.length_cons]
  omega

theorem length_panasasDfileName (hp0 : pid ≠ 0) (h0 : oid ≠ 0) :
    (panasasDfileName root pid oid).length ≤ root.length + 49 := by
  have hp := length_decimal_le pid
  have ho := length_decimal_le oid
  have h1 : dfiles.length = 6 := rfl
  unfold panasasDfileName
  rw [if_neg h0, if_neg hp0]
  simp only [List.length_append, List.length_cons]
  omega

theorem length_getDfileName (h0 : oid ≠ 0) : (getDfileName root pid oid).length ≤ root.length + 44 := by
  have hp := length_hexadecimal_le pid
  have ho := length_hexadecimal_le oid
  have h1 : dfiles.length = 6 := rfl
  unfold getDfileName
  rw [if_neg h0]
  simp only [List.length_append, List.length_cons, List.length_nil, length_subdir]
  omega

/-! ## Two objects, two names -/

theorem slash_ne_digit : ∀ d < 16, '/' ≠ d.digitChar := by decide

theorem slash_not_mem_numeral (hb : 1 < b) (h16 : b ≤ 16) : '/' ∉ numeral b n := by
  intro h
  obtain ⟨d, hd, hslash⟩ := mem_numeral hb h
  exact slash_ne_digit d (by omega) hslash

theorem slash_not_mem_padded {width : Nat} (hb : 1 < b) (h16 : b ≤ 16) : '/' ∉ padded width (numeral b n) := by
  intro h
  obtain ⟨d, hd, hslash⟩ := mem_padded_numeral hb h
  exact slash_ne_digit d (by omega) hslash

theorem pvfsDfileName_inj (h : pvfsDfileName root pid oid = pvfsDfileName root pid' oid') :
    pid = pid' ∧ oid = oid' := by
  unfold pvfsDfileName at h
  have hstreams : "/bstreams/".toList = '/' :: "bstreams/".toList := rfl
  simp only [hstreams, List.append_assoc, List.cons_append] at h
  have htail := (List.cons.inj (List.append_cancel_left h)).2
  obtain ⟨hpid, hrest⟩ := append_sep_inj (slash_not_mem_padded (by decide) (by decide))
    (slash_not_mem_padded (by decide) (by decide)) htail
  obtain ⟨-, hfile⟩ := append_sep_inj (slash_not_mem_padded (by decide) (by decide))
    (slash_not_mem_padded (by decide) (by decide)) (List.append_cancel_left hrest)
  exact ⟨UInt64.toNat_inj.1 (padded_numeral_inj (by decide) (by decide) hpid),
    UInt64.toNat_inj.1 (padded_numeral_inj (by decide) (by decide) (List.append_cancel_right hfile))⟩

/-- Decimal ids with a slash between them, and one end for all names. -/
theorem decimal_ids_inj {dir tail : List Char}
    (h : dir ++ '/' :: numeral 10 pid.toNat ++ '/' :: (numeral 10 oid.toNat ++ tail)
      = dir ++ '/' :: numeral 10 pid'.toNat ++ '/' :: (numeral 10 oid'.toNat ++ tail)) :
    pid = pid' ∧ oid = oid' := by
  simp only [List.append_assoc, List.cons_append] at h
  have hids := (List.cons.inj (List.append_cancel_left h)).2
  obtain ⟨hpid, hoid⟩ := append_sep_inj (slash_not_mem_numeral (by decide) (by decide))
    (slash_not_mem_numeral (by decide) (by decide)) hids
  exact ⟨UInt64.toNat_inj.1 (numeral_inj (by decide) (by decide) hpid),
    UInt64.toNat_inj.1 (numeral_inj (by decide) (by decide) (List.append_cancel_right hoid))⟩

theorem osdsimDfileName_inj (h0 : oid ≠ 0) (h0' : oid' ≠ 0)
    (h : osdsimDfileName root pid oid = osdsimDfileName root pid' oid') : pid = pid' ∧ oid = oid' := by
  unfold osdsimDfileName at h
  rw [if_neg h0, if_neg h0'] at h
  exact decimal_ids_inj h

theorem panasasDfileName_inj (hp0 : pid ≠ 0) (h0 : oid ≠ 0) (hp0' : pid' ≠ 0) (h0' : oid' ≠ 0)
    (h : panasasDfileName root pid oid = panasasDfileName root pid' oid') : pid = pid' ∧ oid = oid' := by
  unfold panasasDfileName at h
  rw [if_neg h0, if_neg h0', if_neg hp0, if_neg hp0'] at h
  rw [← List.append_nil (numeral 10 oid.toNat), ← List.append_nil (numeral 10 oid'.toNat)] at h
  exact decimal_ids_inj h

/-! ## Every build -/

theorem ne_zero_of_lb {id : UInt64} (h : 0x10000 ≤ id) : id ≠ 0 := by
  rintro rfl
  exact absurd h (by decide)

/-- **Data file names are apart and fit the buffer**, in PVFS as far as the root path leaves room. -/
theorem dfileName_fits_iff (build : Build) (hroot : root.length ≤ MAXROOTLEN) (hpid : 0x10000 ≤ pid)
    (hoid : 0x10000 ≤ oid) (hpid' : 0x10000 ≤ pid') (hoid' : 0x10000 ≤ oid') :
    build.NamesFit root pid oid pid' oid' ↔
      build.LeavesRoom root pid oid ∧ build.LeavesRoom root pid' oid' := by
  have h0 := ne_zero_of_lb hoid
  have h0' := ne_zero_of_lb hoid'
  unfold MAXROOTLEN at hroot
  -- the builds whose names are shorter always have room
  have hshort : ∀ k ≤ 55, build ≠ .pvfsOsdIntegrated →
      (build.dfileName root pid oid = build.dfileName root pid' oid' → pid = pid' ∧ oid = oid') →
      (build.dfileName root pid oid).length ≤ root.length + k →
      (build.dfileName root pid' oid').length ≤ root.length + k →
      (build.NamesFit root pid oid pid' oid' ↔
        build.LeavesRoom root pid oid ∧ build.LeavesRoom root pid' oid') := by
    intro k hk hother hinj hlen hlen'
    refine iff_of_true ⟨hinj, ?_, ?_⟩ ⟨fun h => absurd h hother, fun h => absurd h hother⟩
    · unfold MAXNAMELEN
      omega
    · unfold MAXNAMELEN
      omega
  cases build with
  | pvfsOsdIntegrated =>
    have hfits : ∀ pid oid, (Build.dfileName .pvfsOsdIntegrated root pid oid).length + 1 ≤ MAXNAMELEN ↔
        Build.LeavesRoom .pvfsOsdIntegrated root pid oid := by
      intro pid oid
      have hlen : (Build.dfileName .pvfsOsdIntegrated root pid oid).length = _ := length_pvfsDfileName
      rw [hlen, Build.LeavesRoom, MAXNAMELEN]
      constructor
      · intro h _
        omega
      · intro h
        have := h rfl
        omega
    constructor
    · exact fun h => ⟨(hfits _ _).1 h.fits, (hfits _ _).1 h.fits'⟩
    · exact fun h => ⟨pvfsDfileName_inj, (hfits _ _).2 h.1, (hfits _ _).2 h.2⟩
  | panasasOsdsim =>
    exact hshort 54 (by decide) (by decide) (osdsimDfileName_inj h0 h0') (length_osdsimDfileName h0)
      (length_osdsimDfileName h0')
  | panasasOsd =>
    have hp0 := ne_zero_of_lb hpid
    have hp0' := ne_zero_of_lb hpid'
    exact hshort 49 (by decide) (by decide) (panasasDfileName_inj hp0 h0 hp0' h0')
      (length_panasasDfileName hp0 h0) (length_panasasDfileName hp0' h0')
  | other =>
    exact hshort 44 (by decide) (by decide) (getDfileName_inj h0 h0') (length_getDfileName h0)
      (length_getDfileName h0')

/-- Two objects of a PVFS build with a short root path. -/
theorem dfileName_fits_iff_short :
    Build.NamesFit .pvfsOsdIntegrated "/osd".toList 0x10000 0x10000 0x10000 0x10001 :=
  (dfileName_fits_iff .pvfsOsdIntegrated (by decide) (by decide) (by decide) (by decide) (by decide)).2
    ⟨fun _ => by decide, fun _ => by decide⟩

/-- A root path of 200 bytes that `setup_root_paths` takes, and ids of 16 digits: the PVFS name of 260 bytes
and its NUL do not fit. -/
theorem dfileName_overruns : ¬ ∀ (build : Build) (root : List Char) (pid oid pid' oid' : UInt64),
    root.length ≤ MAXROOTLEN → 0x10000 ≤ pid → 0x10000 ≤ oid → 0x10000 ≤ pid' → 0x10000 ≤ oid' →
    build.NamesFit root pid oid pid' oid' := by
  intro h
  have hfits := (h .pvfsOsdIntegrated (List.replicate 200 'r') 0xffffffffffffffff 0xfffffffffffffffe
    0xffffffffffffffff 0xffffffffffffffff List.length_replicate.le (by decide) (by decide) (by decide)
    (by decide)).fits
  have hlen : (Build.dfileName .pvfsOsdIntegrated (List.replicate 200 'r') 0xffffffffffffffff
      0xfffffffffffffffe).length = _ := length_pvfsDfileName
  rw [hlen, List.length_replicate] at hfits
  exact absurd hfits (by decide)

end OsdTarget
