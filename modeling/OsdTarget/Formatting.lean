import OsdTarget.System
import OsdTarget.Base.Lockstep

/-!
# FORMAT OSD

What `osd_format_osd` leaves when it succeeds, against a device that `osd_open` has just made: the tables,
the id cache and the current command attributes are the same, but the root path has been freed, and data
files stay where the database file was not found.
-/

namespace OsdTarget

open Base

variable {env : Env} {s t : Target}

/-- The device is as `osd_open` leaves it on an empty directory, its root path alive. -/
def LikeFresh (s : Target) : Prop :=
  ∃ f, Fresh f ∧ s.db = f.db ∧ s.files = (fun _ _ => none) ∧ s.ic = f.ic ∧ s.ccap = f.ccap ∧
    s.rootFreed = false

/-- The data files FORMAT leaves: without a database file it does not empty the directories. -/
def Target.keptFiles (env : Env) (s : Target) : UInt64 → UInt64 → Option (List UInt8) :=
  if s.dbStatFails env ∧ ¬ (s.rootFreed && env.rootGarbled) = true then s.files else fun _ _ => none

/-! ## Initialising takes no notice of the files -/

/-- The state with the files of another one, and its records of the current command. -/
def Target.beside (t u : Target) : Target := { t with files := u.files, out := u.out, txnCalls := u.txnCalls }

def IsBeside (u s t : Target) : Prop := t = s.beside u

theorem IsBeside.self (u s : Target) : IsBeside u s (s.beside u) := rfl

section

variable {u : Target}

theorem dbExecDms_beside (st : Dms) :
    Lockstep (IsBeside u) (dbExecDms env st) (dbExecDms env st) s (s.beside u) := by
  refine lockstep_get (lockstep_ite Iff.rfl (fun _ => lockstep_pure (.self u s) _) fun _ => ?_)
  rw [show (s.beside u).db = s.db from rfl]
  cases st.run s.db with
  | none => exact lockstep_pure (.self u s) _
  | some d => exact lockstep_bind (lockstep_set (.self u { s with db := d })) fun _ _ _ h => lockstep_pure h _

theorem setInitAttrs_beside (l : List (UInt32 × UInt32 × String)) :
    Lockstep (IsBeside u) (setInitAttrs env l) (setInitAttrs env l) s (s.beside u) := by
  induction l generalizing s with
  | nil => exact lockstep_pure (.self u s) _
  | cons x l ih =>
    refine lockstep_bind (dbExecDms_beside _) ?_
    rintro ret s - rfl
    exact lockstep_ite Iff.rfl (fun _ => lockstep_pure (.self u s) _) fun _ => ih

theorem osdInitializeDb_beside :
    Lockstep (IsBeside u) (osdInitializeDb env) (osdInitializeDb env) s (s.beside u) := by
  refine lockstep_bind (lockstep_modify (IsBeside.self u { s with ccap := Ccap.zero, ic := IdCache.zero })) ?_
  rintro - s - rfl
  refine lockstep_bind (dbExecDms_beside _) ?_
  rintro ret s - rfl
  refine lockstep_ite Iff.rfl (fun _ => lockstep_pure (.self u s)
    _) fun _ => lockstep_bind (setInitAttrs_beside _) ?_
  rintro ret s - rfl
  refine lockstep_ite Iff.rfl (fun _ => lockstep_pure (.self u s)
    _) fun _ => lockstep_bind (setInitAttrs_beside _) ?_
  rintro ret s - rfl
  exact lockstep_ite Iff.rfl (fun _ => lockstep_pure (.self u s) _) fun _ => dbExecDms_beside _

end

/-! ## What FORMAT leaves -/

/-- `osd_open`, when it succeeds. -/
theorem osdOpen_fresh : Ends (osdOpen env) s fun ret s' => ret = .ok → ∃ f, Fresh f ∧
    s' = { f with files := if s.rootFreed && env.rootGarbled then fun _ _ => none else s.files, out := s.out,
                  txnCalls := s.txnCalls } := by
  let u : Target := { s with files := if s.rootFreed && env.rootGarbled then fun _ _ => none else s.files }
  refine ends_bind.2 (ends_get.2 (ends_bind.2 (ends_set.2 (ends_ite_of (fun _ => ?_) fun _ => ?_))))
  · exact ends_bind.2 (ends_modify.2 (ends_pure.2 nofun))
  · intro ret s' hrun hret
    subst hret
    have hback : Lockstep (IsBeside Target.blank) (osdInitializeDb env) (osdInitializeDb env)
        (Target.blank.beside u)
        ((Target.blank.beside u).beside Target.blank) := osdInitializeDb_beside
    obtain ⟨f, hf, rfl⟩ := hback.run hrun
    refine ⟨s'.beside Target.blank, ⟨env, hf⟩, ?_⟩
    have hthere : Lockstep (IsBeside u) (osdInitializeDb env) (osdInitializeDb env) Target.blank
        (Target.blank.beside u) := osdInitializeDb_beside
    obtain ⟨v, hv, rfl⟩ := hthere.run hf
    exact (Prod.mk.inj (Option.some.inj (hrun.symm.trans hv))).2

/-- **What `osd_format_osd` leaves when it succeeds.** -/
theorem osdFormatOsd_leaves : Ends (osdFormatOsd env) s fun ret s' => ret = .ok → ∃ f, Fresh f ∧
    s' = { f with files := s.keptFiles env, ccap := Ccap.zero, rootFreed := true, out := s.out,
                  txnCalls := s.txnCalls } := by
  have hreopen : ∀ t : Target, t.rootFreed = s.rootFreed → t.out = s.out → t.txnCalls = s.txnCalls →
      Ends (osdOpen env >>= fun ret =>
        if ret ≠ .ok then pure (senseBuildSdd OSD_SSK_HARDWARE_ERROR OSD_ASC_SYSTEM_RESOURCE_FAILURE 0 0)
        else setCcap Ccap.zero >>= fun _ => pure .ok) t fun ret s' => ret = .ok → ∃ f, Fresh f ∧
          s' = { f with files := if s.rootFreed && env.rootGarbled then fun _ _ => none else t.files,
                        ccap := Ccap.zero, out := s.out, txnCalls := s.txnCalls } := by
    intro t hroot hout htxn
    refine ends_call osdOpen_fresh fun ret t' h => ends_ite_of (fun _ => ends_pure.2 nofun) fun hok => ?_
    obtain ⟨f, hf, rfl⟩ := h (not_not.1 hok)
    rw [hroot, hout, htxn]
    exact ends_bind.2 (ends_modify.2 (ends_pure.2 fun _ => ⟨f, hf, rfl⟩))
  have hformat : Ends (formatOsd env) s fun ret s' => ret = .ok → ∃ f, Fresh f ∧
      s' = { f with files := s.keptFiles env, ccap := Ccap.zero, out := s.out, txnCalls := s.txnCalls } := by
    refine ends_bind.2 (ends_get.2 (ends_ite_of (fun hstat => ?_) fun hstat => ?_))
    · refine (hreopen s rfl rfl rfl).mono fun ret s' h hret => ?_
      obtain ⟨f, hf, rfl⟩ := h hret
      refine ⟨f, hf, ?_⟩
      unfold Target.keptFiles
      by_cases hroot : (s.rootFreed && env.rootGarbled) = true
      · rw [if_pos hroot, if_neg fun h => h.2 hroot]
      · rw [if_neg hroot, if_pos ⟨hstat, hroot⟩]
    · have hkept : s.keptFiles env = fun _ _ => none := if_neg fun h => hstat h.1
      split
      · exact ends_bind.2 (ends_set.2 (ends_pure.2 nofun))
      · exact ends_bind.2 (ends_set.2 (ends_pure.2 nofun))
      · exact ends_bind.2 (ends_set.2 (ends_pure.2 nofun))
      · refine ends_bind.2 (ends_set.2 ?_)
        refine (hreopen { s with files := fun _ _ => none } rfl rfl rfl).mono fun ret s' h hret => ?_
        obtain ⟨f, hf, rfl⟩ := h hret
        refine ⟨f, hf, ?_⟩
        rw [hkept]
        split <;> rfl
  refine ends_call hformat fun ret t h => ends_bind.2 (ends_modify.2 (ends_pure.2 fun hret => ?_))
  obtain ⟨f, hf, rfl⟩ := h hret
  exact ⟨f, hf, rfl⟩

/-- **A formatted device is never like a fresh one**: apart from data files that stay, the root path is
what is different. -/
theorem osdFormatOsd_not_likeFresh {env : Env} {s s' : Target} (hrun : osdFormatOsd env s = some (.ok,
    s')) :
    ¬ LikeFresh s' ∧ s'.rootFreed = true ∧ s'.files = s.keptFiles env ∧
      ∃ f, Fresh f ∧ s'.db = f.db ∧ s'.ic = f.ic ∧ s'.ccap = Ccap.zero := by
  obtain ⟨f, hf, rfl⟩ := osdFormatOsd_leaves .ok s' hrun rfl
  refine ⟨?_, rfl, rfl, f, hf, rfl, rfl, rfl⟩
  rintro ⟨-, -, -, -, -, -, hroot⟩
  cases hroot

/-- FORMAT of a device that has just been made. -/
theorem osdFormatOsd_not_likeFresh_fresh : ∃ s', osdFormatOsd Env.calm Target.fresh = some (.ok, s') ∧
    ¬ LikeFresh s' := by
  have hok : (osdFormatOsd Env.calm Target.fresh).map Prod.fst = some .ok := by decide +kernel
  obtain ⟨⟨ret, s'⟩, hrun, rfl⟩ := Option.map_eq_some_iff.1 hok
  exact ⟨s', hrun, (osdFormatOsd_not_likeFresh hrun).1⟩

/-- Its root path is gone. -/
theorem formatted_not_likeFresh : ¬ ∀ (env : Env) (s s' : Target), Reachable (fun _ _ _ => True) s →
    osdFormatOsd env s = some (.ok, s') → LikeFresh s' := by
  intro h
  have hfreed : (osdFormatOsd Env.calm Target.fresh).map (fun r => (r.1, r.2.rootFreed))
      = some (.ok, true) := by
    decide +kernel
  obtain ⟨⟨ret, s'⟩, hrun, heq⟩ := Option.map_eq_some_iff.1 hfreed
  obtain ⟨rfl, hroot⟩ := Prod.mk.inj heq
  obtain ⟨f, -, -, -, -, -, halive⟩ := h Env.calm Target.fresh s' (.start fresh_fresh) hrun
  rw [halive] at hroot
  cases hroot

end OsdTarget
