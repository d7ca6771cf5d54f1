import OsdTarget.ServiceAction

/-!
# Sense data

The blocks that `osd-sense.c` writes into a sense buffer, and what `osdemu_cmd_submit` makes of the buffer
of a command.  A block is a header of 8 bytes, which says how much follows it, and its descriptors.
-/

namespace OsdTarget

open Base

/-! ## `osd-sense.c` -/

def OSD_MAX_SENSE : Nat := 252

/-- `ASC` and `ASCQ`. -/
def ascOf (code : UInt16) : UInt8 := ((code &&& 0xFF00) >>> 8).toUInt8
def ascqOf (code : UInt16) : UInt8 := (code &&& 0x00FF).toUInt8

/-- `sense_header_build`: what it writes into `len` bytes that were 0. -/
def senseHeaderBuild (len : Nat) (key : UInt8) (code : UInt16) (additionalLen : UInt8) : List UInt8 :=
  if len < 8 then [] else [0x72, key, ascOf code, ascqOf code, 0, 0, 0, additionalLen]

/-- `sense_info_build`. -/
def senseInfoBuild (len : Nat) (notInitFuncs completedFuncs : UInt32) (pid oid : UInt64) : List UInt8 :=
  if len < 32 then []
  else [0x6, 0x1e, 0, 0, 0, 0, 0, 0] ++ htonl notInitFuncs ++ htonl completedFuncs ++
    htonll pid ++ htonll oid

/-- `sense_csi_build`. -/
def senseCsiBuild (len : Nat) (csi : UInt64) : List UInt8 :=
  if len < 12 then [] else [0x1, 0xa, 0, 0] ++ htonll csi

/-- The block: that of `sense_basic_build` and `sense_build_sdd`, or that of `sense_build_sdd_csi`. -/
def Sense.bytes (x : Sense) : List UInt8 :=
  let nifunc := 0x303010b0
  match x.csi with
  | none => senseHeaderBuild OSD_MAX_SENSE x.key x.code 32 ++
    senseInfoBuild (OSD_MAX_SENSE - 8) nifunc 0 x.pid x.oid
  | some csi => senseHeaderBuild OSD_MAX_SENSE x.key x.code 44 ++
      senseInfoBuild (OSD_MAX_SENSE - 8) nifunc 0 x.pid x.oid ++ senseCsiBuild (OSD_MAX_SENSE - 40) csi

/-- The number behind a negative status. -/
def Errno.code : Errno → Nat
  | .osdError => 1
  | .enoent => 2
  | .eio => 5
  | .enomem => 12
  | .eexist => 17
  | .einval => 22
  | .eoverflow => 75

/-- The `int` itself. -/
def Ret.senselen : Ret → Int
  | .ok => 0
  | .err e => -e.code
  | .sense x => x.bytes.length

/-- `cmd->sense`, which starts as zeros.  Behind the block built last, what a longer one left is not
kept. -/
def Outcome.senseBuf (o : Outcome) : List UInt8 :=
  let block := match o.sense with
    | none => []
    | some x => x.bytes
  block ++ List.replicate (OSD_MAX_SENSE - block.length) 0

/-! ## Complete blocks -/

/-- One complete block in descriptor format. -/
structure IsSenseBlock (b : List UInt8) : Prop where
  format : b[0]? = some 0x72
  key : ∃ k, b[1]? = some k ∧ k ≠ 0
  length : ∃ n, b[7]? = some n ∧ b.length = 8 + n.toNat

/-- The status is not negative, and the sense data it announces are there. -/
structure Outcome.Agrees (o : Outcome) : Prop where
  nonneg : 0 ≤ o.ret.senselen
  complete : 0 < o.ret.senselen → IsSenseBlock (o.senseBuf.take o.ret.senselen.toNat)

theorem Sense.bytes_length (x : Sense) : x.bytes.length = if x.csi.isSome then 52 else 40 := by
  unfold Sense.bytes
  cases x.csi <;> rfl

/-- **What is built is one block**, as long as the key says something. -/
theorem Sense.isSenseBlock {x : Sense} (hkey : x.key ≠ 0) : IsSenseBlock x.bytes := by
  unfold Sense.bytes
  cases x.csi with
  | none => exact ⟨rfl, ⟨x.key, rfl, hkey⟩, 32, rfl, rfl⟩
  | some csi => exact ⟨rfl, ⟨x.key, rfl, hkey⟩, 44, rfl, rfl⟩

theorem Errno.code_pos (e : Errno) : 0 < e.code := by
  cases e <;> decide

theorem Ret.senselen_nonneg {ret : Ret} : 0 ≤ ret.senselen ↔ ∀ e, ret ≠ .err e := by
  cases ret with
  | ok => exact ⟨nofun, fun _ => Int.le_refl 0⟩
  | sense x => exact ⟨nofun, fun _ => Int.natCast_nonneg _⟩
  | err e =>
    constructor
    · intro h
      have hpos := e.code_pos
      have h : (0 : Int) ≤ -(e.code : Int) := h
      omega
    · exact fun h => absurd rfl (h e)

theorem Outcome.agrees_ok {o : Outcome} (h : o.ret = .ok) : o.Agrees := by
  refine ⟨?_, fun hpos => ?_⟩
  · rw [h]
    exact Int.le_refl 0
  · rw [h] at hpos
    exact absurd hpos (Int.lt_irrefl 0)

/-- The block in the buffer is as long as the status says, and has a key. -/
theorem Outcome.agrees_sense {o : Outcome} {x y : Sense} (hret : o.ret = .sense x)
    (hsense : o.sense = some y)
    (hkey : y.key ≠ 0) (hlen : x.csi.isSome = y.csi.isSome) : o.Agrees := by
  have hlen : x.bytes.length = y.bytes.length := by rw [x.bytes_length, y.bytes_length, hlen]
  refine ⟨?_, fun _ => ?_⟩
  · rw [hret]
    exact Int.natCast_nonneg _
  · have hbuf : o.senseBuf = y.bytes ++ List.replicate (OSD_MAX_SENSE - y.bytes.length) 0 := by
      unfold Outcome.senseBuf
      rw [hsense]
    have htake : o.ret.senselen.toNat = y.bytes.length := by
      rw [hret, ← hlen]
      rfl
    rw [hbuf, htake, List.take_left]
    exact Sense.isSenseBlock hkey

/-- Nothing was built. -/
theorem Outcome.not_agrees_unbuilt {o : Outcome} {x : Sense} (hret : o.ret = .sense x)
    (hsense : o.sense = none) :
    ¬ o.Agrees := by
  intro h
  have hlen := x.bytes_length
  have hpos : (0 : Int) < o.ret.senselen := by
    rw [hret]
    refine Int.natCast_pos.2 ?_
    split at hlen <;> omega
  have hformat := (h.complete hpos).format
  have htake : o.ret.senselen.toNat = x.bytes.length := by
    rw [hret]
    rfl
  have hbuf : o.senseBuf = List.replicate OSD_MAX_SENSE 0 := by
    unfold Outcome.senseBuf
    rw [hsense]
    rfl
  rw [htake, hbuf, List.take_replicate] at hformat
  split at hlen <;> rw [hlen] at hformat <;> exact absurd hformat (by decide)

end OsdTarget
