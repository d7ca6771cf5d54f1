import OsdTarget.Io
import OsdTarget.Base.Numerals

/-!
# Names of data files

`get_dfile_name` of `osd.h`.  The rest of the model keeps data files by (pid, oid); that is the same
as keeping them by name, since the names of two user objects differ.
-/

namespace OsdTarget

open Base

/-- `dfiles` of `osd.h`. -/
def dfiles : List Char := "dfiles".toList

/-- `get_dfile_name`: `%s/%s/%02x` and, for an object that is not a partition, `/%llx.%llx`. -/
def getDfileName (root : List Char) (pid oid : UInt64) : List Char :=
  let dir := root ++ ['/'] ++ dfiles ++ ['/'] ++ padded 2 (numeral 16 (oid &&& 0xFF).toNat)
  if oid = 0 then dir else dir ++ ['/'] ++ (numeral 16 pid.toNat ++ '.' :: numeral 16 oid.toNat)

/-- No hexadecimal digit is a dot. -/
theorem dot_not_mem_numeral (n : Nat) : '.' ∉ numeral 16 n := by
  intro h
  obtain ⟨d, hd, hdot⟩ := mem_numeral (by decide) h
  have hno : ∀ d < 16, '.' ≠ d.digitChar := by decide
  exact hno d hd hdot

theorem length_subdir (oid : UInt64) : (padded 2 (numeral 16 (oid &&& 0xFF).toNat)).length = 2 := by
  rw [length_padded]
  refine Nat.max_eq_left (length_numeral_le (by decide) (by decide) ?_)
  rw [UInt64.toNat_and]
  exact Nat.lt_of_le_of_lt Nat.and_le_right (by decide)

/-- **Two objects have two file names.** -/
theorem getDfileName_inj {root : List Char} {pid oid pid' oid' : UInt64} (h0 : oid ≠ 0) (h0' : oid' ≠ 0)
    (h : getDfileName root pid oid = getDfileName root pid' oid') : pid = pid' ∧ oid = oid' := by
  unfold getDfileName at h
  rw [if_neg h0, if_neg h0'] at h
  have hdirs : (root ++ ['/'] ++ dfiles ++ ['/'] ++
      padded 2 (numeral 16 (oid &&& 0xFF).toNat) ++ ['/']).length
      = (root ++ ['/'] ++ dfiles ++ ['/'] ++ padded 2 (numeral 16 (oid' &&& 0xFF).toNat) ++
        ['/']).length := by
    simp only [List.length_append, length_subdir]
  obtain ⟨hpid, hoid⟩ := append_sep_inj (dot_not_mem_numeral _) (dot_not_mem_numeral _)
      (List.append_inj h hdirs).2
  exact ⟨UInt64.toNat_inj.1 (numeral_inj (by decide) (by decide) hpid),
    UInt64.toNat_inj.1 (numeral_inj (by decide) (by decide) hoid)⟩

theorem ne_zero_of_isUserobjectId {pid oid : UInt64} (h : isUserobjectId pid oid = true) : oid ≠ 0 := by
  rintro rfl
  rw [isUserobjectId, Bool.and_eq_true] at h
  exact absurd h.2 (by decide)

/-! ## The data files by name -/

/-- A directory: what the file of a name holds. -/
abbrev Directory := List Char → Option (List UInt8)

/-- The directory holds the data files of user objects, each under its name. -/
def Directory.Holds (dir : Directory) (root : List Char) (s : Target) : Prop :=
  ∀ pid oid, isUserobjectId pid oid = true → dir (getDfileName root pid oid) = s.files pid oid

variable {dir : Directory} {root : List Char} {s t : Target}

/-- A change of the file of that name is a change of the file of that object. -/
theorem Directory.Holds.setFile (h : dir.Holds root s) {pid oid : UInt64}
    (hid : isUserobjectId pid oid = true)
    (c : Option (List UInt8)) :
    Directory.Holds (Function.update dir (getDfileName root pid oid) c) root (s.setFile pid oid c) := by
  intro p o hpo
  by_cases heq : p = pid ∧ o = oid
  · obtain ⟨rfl, rfl⟩ := heq
    rw [Function.update_self]
    exact (if_pos ⟨rfl, rfl⟩).symm
  · have hne : getDfileName root p o ≠ getDfileName root pid oid := fun hname =>
      heq (getDfileName_inj (ne_zero_of_isUserobjectId hpo) (ne_zero_of_isUserobjectId hid) hname)
    rw [Function.update_of_ne hne, h p o hpo]
    exact (if_neg heq).symm

open Classical in
/-- Where the files of other objects are the same, all other names of the directory are. -/
theorem Directory.Holds.move (h : dir.Holds root s) {K : UInt64 → UInt64 → Prop}
    (hfiles : ∀ pid oid, ¬ K pid oid → t.files pid oid = s.files pid oid) :
    ∃ dir' : Directory, dir'.Holds root t ∧
      ∀ path, (∀ pid oid, K pid oid → path ≠ getDfileName root pid oid) → dir' path = dir path := by
  refine ⟨fun path => if h : ∃ q : UInt64 × UInt64, isUserobjectId q.1 q.2 = true ∧ K q.1 q.2 ∧
    path = getDfileName root q.1 q.2 then t.files h.choose.1 h.choose.2 else dir path, ?_, ?_⟩
  · intro pid oid hid
    dsimp only
    split
    · next hq =>
      obtain ⟨hid', -, hname⟩ := hq.choose_spec
      obtain ⟨hp, ho⟩ := getDfileName_inj (ne_zero_of_isUserobjectId hid)
          (ne_zero_of_isUserobjectId hid') hname
      rw [← hp, ← ho]
    · next hq =>
      rw [h pid oid hid, hfiles pid oid fun hK => hq ⟨(pid, oid), hid, hK, rfl⟩]
  · intro path hpath
    exact dif_neg fun ⟨q, _, hK, hname⟩ => hpath q.1 q.2 hK hname

end OsdTarget
