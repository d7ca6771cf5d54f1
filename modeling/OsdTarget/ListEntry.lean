import OsdTarget.Target

/-!
# `list-entry.c`

Packing one attribute into the reply in list entry format.  A function gets the position of its
output in the reply buffer in place of a pointer, and what it writes is recorded in `Target.out`.
-/

namespace OsdTarget

open Base

/-- `LE_PAGE_OFF`, `LE_NUMBER_OFF`, `LE_LEN_OFF` and `LE_VAL_OFF` of the packed `struct list_entry`. -/
def LE_PAGE_OFF : Nat := 0
def LE_NUMBER_OFF : Nat := 4
def LE_LEN_OFF : Nat := 14
def LE_VAL_OFF : Nat := 16
def LE_MIN_ITEM_LEN : Nat := LE_VAL_OFF

/-- `MLE_PAGE_OFF` and `MLE_MIN_ITEM_LEN`, the latter computed from the single-object layout. -/
def MLE_PAGE_OFF : Nat := 8
def MLE_MIN_ITEM_LEN : Nat := (LE_VAL_OFF + 7) / 8 * 8

def roundup8 (x : Nat) : Nat := (x + 7) / 8 * 8

/-- The memory of a C string literal, its terminating NUL included. -/
def cString (s : String) : Mem := fun i => (s.toList.map fun c => UInt8.ofNat c.toNat).getD i 0

/-- The memory of a byte string. -/
def blobMem (l : List UInt8) : Mem := fun i => l.getD i 0

theorem read_blobMem (l : List UInt8) : (blobMem l).read 0 l.length = l := by
  apply List.ext_getElem (by simp)
  intro i h1 h2
  simp [Mem.read, blobMem, h2]

theorem read_htonll (x : UInt64) : (blobMem (htonll x)).read 0 8 = htonll x :=
  htonll_length x ▸ read_blobMem (htonll x)

theorem htonll_inj {x y : UInt64} (h : htonll x = htonll y) : x = y := by
  rw [← getNtohll_of_read (read_htonll x), h, getNtohll_of_read (read_htonll y)]

/-- Store bytes in the reply buffer. -/
def outWrite (pos : Nat) (bytes : List UInt8) : OsdM Unit :=
  modify fun s => { s with out := s.out ++ [(pos, bytes)] }

/-- The bytes `le_pack_attr` stores for one attribute, into a buffer of `buflen` bytes. -/
def leBytes (buflen : Nat) (page number : UInt32) (valen : UInt16) (val : Option Mem) : List UInt8 :=
  let stored := match val with
    | some _ => if valen.toNat > buflen - LE_VAL_OFF then buflen - LE_VAL_OFF else valen.toNat
    | none => 0
  let value := match val with
    | some m => m.read 0 stored
    | none => []
  let len := stored + LE_VAL_OFF
  htonl page ++ htonl number ++ List.replicate 6 0 ++ htons valen ++ value ++
    List.replicate (roundup8 len - len) 0

/-- `le_pack_attr` at address `addr`: the bytes it stores there, which are as many as it returns. -/
def lePackAttrAt (addr : Nat) (buflen page number : UInt32) (valen : UInt16) (val : Option Mem) :
    Except Errno (List UInt8) :=
  if buflen.toNat % 8 ≠ 0 ∨ addr % 8 ≠ 0 then .error .einval
  else if buflen.toNat < LE_MIN_ITEM_LEN then .error .eoverflow
  else .ok (leBytes buflen.toNat page number valen val)

variable (env : Env)

/-- `le_pack_attr` at position `pos` of the reply; a positive return value is the length stored. -/
def lePackAttr (pos : Nat) (buflen page number : UInt32) (valen : UInt16) (val : Option Mem) :
    OsdM (Except Errno Nat) := do
  match lePackAttrAt (env.outAddr + pos) buflen page number valen val with
  | .error e => return .error e
  | .ok bytes =>
    outWrite pos bytes
    return .ok bytes.length

/-- `le_multiobj_pack_attr`: an object id in front of the entry. -/
def leMultiobjPackAttr (pos : Nat) (buflen : UInt32) (oid : UInt64) (page number : UInt32)
    (valen : UInt16) (val : Option Mem) : OsdM (Except Errno Nat) := do
  if buflen.toNat < MLE_MIN_ITEM_LEN then
    return .error .eoverflow
  outWrite pos (htonll oid)
  match ← lePackAttr env (pos + 8) (buflen - 8) page number valen val with
  | .error e => return .error e
  | .ok ret => return .ok (MLE_PAGE_OFF + ret)

/-- The two formats a retrieved attribute is packed in. -/
def packAttr (listfmt : UInt8) (pos : Nat) (buflen : UInt32) (oid : UInt64) (page number : UInt32)
    (valen : UInt16) (val : Option Mem) : OsdM (Except Errno Nat) :=
  if listfmt = RTRVD_SET_ATTR_LIST then lePackAttr env pos buflen page number valen val
  else if listfmt = RTRVD_CREATE_MULTIOBJ_LIST then
    leMultiobjPackAttr env pos buflen oid page number valen val
  else return .error .einval

theorem roundup8_spec (n : Nat) : roundup8 n % 8 = 0 ∧ n ≤ roundup8 n ∧ roundup8 n < n + 8 := by
  unfold roundup8
  omega

theorem leBytes_length (buflen : Nat) (page number : UInt32) (valen : UInt16) (val : Option Mem) :
    (leBytes buflen page number valen val).length = roundup8 (LE_VAL_OFF +
      if val.isSome then min valen.toNat (buflen - LE_VAL_OFF) else 0) := by
  have hr := fun n => roundup8_spec n
  cases val with
  | none => simp [leBytes, LE_VAL_OFF, roundup8]
  | some m =>
    simp only [leBytes, List.length_append, htonl_length, List.length_replicate, htons_length,
      Mem.read_length, Option.isSome_some, if_true]
    by_cases h : valen.toNat > buflen - LE_VAL_OFF
    · have h1 := hr (buflen - LE_VAL_OFF + LE_VAL_OFF)
      rw [if_pos h, Nat.min_eq_right (by omega), Nat.add_comm LE_VAL_OFF]
      unfold LE_VAL_OFF at *
      omega
    · have h1 := hr (valen.toNat + LE_VAL_OFF)
      rw [if_neg h, Nat.min_eq_left (by omega), Nat.add_comm LE_VAL_OFF]
      unfold LE_VAL_OFF at *
      omega

end OsdTarget
