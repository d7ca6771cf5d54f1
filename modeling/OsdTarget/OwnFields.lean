import OsdTarget.ServiceAction

/-!
# CDB bytes 48 to 51

READ MAP keeps its map type in these bytes, LIST and LIST COLLECTION their list identifier.  Before any
handler sees them `exec_service_action` reads them as the length of a continuation segment.
-/

namespace OsdTarget

open Base

variable {env : Env} {cmd : Command} {fuel : Nat}

/-! ## What stands before the handler -/

/-- The service actions with fields of their own in bytes 48 to 51. -/
def ServiceAction.HasOwnFields (a : ServiceAction) : Prop := a ∈ [.readMap, .list, .listCollection]

instance : DecidablePred ServiceAction.HasOwnFields := fun a => inferInstanceAs (Decidable (a ∈ _))

/-- Their handlers. -/
def Command.ownHandler (env : Env) (fuel : Nat) (cmd : Command) : OsdM Outcome :=
  match cmd.serviceAction with
  | .readMap => cdbReadMap env cmd fuel
  | .list => cdbList env cmd
  | .listCollection => execListCollection env cmd fuel
  | _ => return .of osdErrorUnimplemented 0 0

/-- How `exec_service_action` comes to the handler, for any parser of segments and any handler. -/
def Command.reach (cmd : Command) (parse : Command → Option (Ret × List ContDescriptor))
    (handler : OsdM Outcome) :
    OsdM Outcome :=
  let guarded := if cmd.serviceAction = .readMap then noContinuations cmd cmd.pid cmd.oid
      handler else handler
  if cmd.cdbContLen = 0 then guarded
  else match parse cmd with
    | none => never
    | some (.ok, _) => guarded
    | some (ret, _) => return .of ret 0 0

/-- The parser of the source. -/
def Command.parseSegment (fuel : Nat) (cmd : Command) : Option (Ret × List ContDescriptor) :=
  parseCdbContinuationSegment cmd.indata cmd.cdbContLen cmd.action cmd.pid cmd.oid fuel

/-- The handler gets the command as it was sent: whatever a parser would make of data-in. -/
def Command.Reaches (cmd : Command) : Prop := ∀ parse handler, cmd.reach parse handler = handler

/-- Data-in starts like a continuation segment for the service action. -/
def Command.HasSegment (cmd : Command) : Prop := cmd.indata 0 = 1 ∧ getNtohs cmd.indata 2 = cmd.action

/-! ## When the handler is reached -/

/-- `exec_service_action` comes to the handlers this way. -/
theorem execServiceAction_reach (h : cmd.serviceAction.HasOwnFields) :
    execServiceAction env cmd fuel = cmd.reach (Command.parseSegment fuel) (cmd.ownHandler env fuel) := by
  have hdispatch : ∀ ds, dispatch env cmd ds fuel = if cmd.serviceAction = .readMap then
      noContinuations cmd cmd.pid cmd.oid (cmd.ownHandler env fuel) else cmd.ownHandler env fuel := by
    intro ds
    unfold dispatch Command.ownHandler
    cases hact : cmd.serviceAction <;> rw [hact] at h
    case readMap => exact (if_pos rfl).symm
    case list => exact (if_neg nofun).symm
    case listCollection => exact (if_neg nofun).symm
    all_goals exact absurd h (by decide)
  unfold execServiceAction Command.reach Command.parseSegment
  dsimp only
  rw [hdispatch]
  cases parseCdbContinuationSegment cmd.indata cmd.cdbContLen cmd.action cmd.pid cmd.oid fuel with
  | none => rfl
  | some r =>
    obtain ⟨ret, ds⟩ := r
    cases ret with
    | ok =>
      dsimp only
      rw [hdispatch]
    | err e => rfl
    | sense x => rfl

theorem reach_zero (h : cmd.cdbContLen = 0) : cmd.Reaches := by
  intro parse handler
  unfold Command.reach
  rw [if_pos h]
  have hguard : noContinuations cmd cmd.pid cmd.oid handler = handler := by
    unfold noContinuations
    rw [if_neg (fun hne => hne h)]
  rw [hguard, ite_self]

theorem reach_nonzero (h : cmd.cdbContLen ≠ 0) : ¬ cmd.Reaches := by
  intro hreaches
  have hrefused := congrFun (hreaches (fun _ => some (.err .osdError, [])) (pure (.of .ok 0 0)))
      (calmRun [])
  unfold Command.reach at hrefused
  rw [if_neg h] at hrefused
  have hret : Ret.err .osdError = .ok := congrArg (fun x => x.1.ret) (Option.some.inj hrefused)
  cases hret

/-- Data-in that is no segment is refused as one. -/
theorem reach_refused (h : cmd.cdbContLen ≠ 0) (hno : ¬ cmd.HasSegment) (handler : OsdM Outcome) :
    cmd.reach (Command.parseSegment fuel) handler = pure (.of (cdbErr cmd.pid cmd.oid) 0 0) := by
  have hchecks : contChecks cmd.indata cmd.cdbContLen cmd.action = false := by
    unfold contChecks
    split
    · rfl
    · split
      · rfl
      · next haction => exact decide_eq_false fun hformat => hno ⟨hformat, not_not.1 haction⟩
  have hparse : Command.parseSegment fuel cmd = some (cdbErr cmd.pid cmd.oid, []) := by
    unfold Command.parseSegment parseCdbContinuationSegment
    rw [hchecks]
    rfl
  unfold Command.reach
  rw [if_neg h, hparse]
  rfl

/-- **The three commands reach their handlers with their fields as sent exactly when bytes 48 to 51 are
zero.**  With other values data-in is taken for a continuation segment, and the command is refused unless it
looks like one. -/
theorem execServiceAction_reaches_iff (env : Env) (cmd : Command) (fuel : Nat)
    (h : cmd.serviceAction.HasOwnFields) :
    execServiceAction env cmd fuel = cmd.reach (Command.parseSegment fuel) (cmd.ownHandler env fuel) ∧
    (cmd.Reaches ↔ getNtohl cmd.cdb 48 = 0) ∧
    (getNtohl cmd.cdb 48 ≠ 0 → ¬ cmd.HasSegment →
      execServiceAction env cmd fuel = pure (.of (cdbErr cmd.pid cmd.oid) 0 0)) := by
  refine ⟨execServiceAction_reach h, ⟨fun hreaches => ?_, reach_zero⟩, fun hlen hno => ?_⟩
  · by_contra hlen
    exact reach_nonzero hlen hreaches
  · rw [execServiceAction_reach h]
    exact reach_refused hlen hno _

/-- A command of one of the three on (0x10000, 0x10000) with an allocation length of 64 and no data-in. -/
def bareOwn (action : UInt16) (field : UInt32) : Command where
  cdb := blobMem (List.replicate 8 0 ++ htons action ++ [0, 0x30, 0, 0, 0, 0] ++ htonll 0x10000 ++
    htonll 0x10000 ++
    htonll 64 ++ htonll 0 ++ htonl field)
  getsetCdbfmt := GETLIST_SETLIST
  retrievedAttrOff := 0
  indata := fun _ => 0
  inlen := 0
  hasOutdata := true
  hasIndata := false

theorem execServiceAction_reaches_list :
    (bareOwn 0x8883 0).Reaches ∧ ¬ (bareOwn 0x8883 1).Reaches :=
  ⟨(execServiceAction_reaches_iff .calm (bareOwn 0x8883 0) 0 (by decide +kernel)).2.1.2 (by decide +kernel),
    fun h => absurd ((execServiceAction_reaches_iff .calm (bareOwn 0x8883 1) 0 (by decide +kernel)).2.1.1 h)
      (by decide +kernel)⟩

/-- READ MAP of an existing object with the one map type that is implemented, and LIST with a list
identifier: both are refused, where their handlers answer. -/
theorem execServiceAction_misreads :
    (¬ ∀ (env : Env) (cmd : Command) (fuel : Nat), cmd.serviceAction.HasOwnFields → ¬ cmd.HasSegment →
      execServiceAction env cmd fuel = cmd.ownHandler env fuel) ∧
    let s := calmRun [.createPartition 0, .create 0x10000 0 1]
    (execServiceAction .calm (bareOwn 0x88b1 0x10000) 0 s).map (fun r => r.1.ret) =
      some (cdbErr 0x10000 0x10000) ∧
    ((bareOwn 0x88b1 0x10000).ownHandler .calm 0 s).map (fun r => r.1.ret) = some .ok ∧
    (execServiceAction .calm (bareOwn 0x8883 1) 0 s).map (fun r => r.1.ret) =
      some (cdbErr 0x10000 0x10000) ∧
    ((bareOwn 0x8883 1).ownHandler .calm 0 s).map (fun r => r.1.ret) = some .ok := by
  have hrefused : (execServiceAction .calm (bareOwn 0x88b1 0x10000) 0
      (calmRun [.createPartition 0, .create 0x10000 0 1])).map (fun r => r.1.ret) =
        some (cdbErr 0x10000 0x10000) := by
    decide +kernel
  have hhandled : ((bareOwn 0x88b1 0x10000).ownHandler .calm 0
      (calmRun [.createPartition 0, .create 0x10000 0 1])).map (fun r => r.1.ret) = some .ok := by
    decide +kernel
  refine ⟨fun h => ?_, hrefused, hhandled, by decide +kernel, by decide +kernel⟩
  have hno : ¬ (bareOwn 0x88b1 0x10000).HasSegment := fun hs => absurd hs.1 (by decide)
  rw [h .calm _ 0 (by decide +kernel) hno, hhandled] at hrefused
  exact absurd hrefused (by decide)

end OsdTarget
