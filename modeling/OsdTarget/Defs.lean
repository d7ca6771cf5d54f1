import OsdTarget.Base.Bytes

/-!
# Constants and wire types of the OSD target

The names and values of `osd-util/osd-defs.h`, `osd-util/osd-sense.h` and `osd-target/osd-types.h`
that the modelled code uses.  Fixed-width C integers are Lean's `UIntN`; object types, which the
source stores in a byte, are an enumeration.
-/

namespace OsdTarget

open Base

/-! ## Object identifiers and types -/

def ROOT_PID : UInt64 := 0
def ROOT_OID : UInt64 := 0
def PARTITION_PID_LB : UInt64 := 0x10000
def PARTITION_OID : UInt64 := 0
def OBJECT_PID_LB : UInt64 := 0x10000
def OBJECT_OID_LB : UInt64 := OBJECT_PID_LB
def COLLECTION_PID_LB : UInt64 := OBJECT_PID_LB
def COLLECTION_OID_LB : UInt64 := COLLECTION_PID_LB
def USEROBJECT_PID_LB : UInt64 := OBJECT_PID_LB
def USEROBJECT_OID_LB : UInt64 := USEROBJECT_PID_LB
def TRACKING_COLLECTION_OID_LB : UInt64 := 0x0001
def LINKED_COLLECTION_OID_LB : UInt64 := OBJECT_PID_LB

/-- The object types of `osd-defs.h`; `illegal` is the value 0, which no row holds. -/
inductive ObjType
  | illegal | root | partition | collection | userobject
  deriving DecidableEq, Repr

/-- The byte the source uses for a type. -/
def ObjType.code : ObjType → UInt8
  | .illegal => 0x00
  | .root => 0x01
  | .partition => 0x02
  | .collection => 0x40
  | .userobject => 0x80

/-! ## Attribute pages and numbers -/

def USEROBJECT_PG : UInt32 := 0x0
def PARTITION_PG : UInt32 := 0x30000000
def COLLECTION_PG : UInt32 := 0x60000000
def ROOT_PG : UInt32 := 0x90000000
def RESERVED_PG : UInt32 := 0xC0000000
def ANY_PG : UInt32 := 0xF0000000
def CUR_CMD_ATTR_PG : UInt32 := 0xFFFFFFFE
def GETALLATTR_PG : UInt32 := 0xFFFFFFFF

def STD_PG_LB : UInt32 := 0x0
def STD_PG_UB : UInt32 := 0x7F
def RSRV_PG_LB : UInt32 := 0x80
def RSRV_PG_UB : UInt32 := 0x7FFF
def LUN_PG_LB : UInt32 := 0x10000
def LUN_PG_UB : UInt32 := 0x1FFFFFFF
def VEND_PG_UB : UInt32 := 0x2FFFFFFF

def ATTRNUM_INFO : UInt32 := 0x0
def ATTRNUM_UNMODIFIABLE : UInt32 := 0xFFFFFFFF
def ATTRNUM_GETALL : UInt32 := ATTRNUM_UNMODIFIABLE

def PARTITION_DIR_PG : UInt32 := PARTITION_PG + 0x0
def USER_INFO_PG : UInt32 := 0x1
def ROOT_INFO_PG : UInt32 := ROOT_PG + 0x1
def USER_QUOTA_PG : UInt32 := 0x2
def USER_TMSTMP_PG : UInt32 := 0x3
def USER_COLL_PG : UInt32 := 0x4
def USER_ATOMICS_PG : UInt32 := 0x6

def ATTR_PAGE_ID_LEN : Nat := 40
def ATTR_LEN_UB : Nat := 0xFFFE

def UIAP_PID : UInt32 := 0x1
def UIAP_OID : UInt32 := 0x2
def UIAP_USERNAME : UInt32 := 0x9
def PARTITION_CAPACITY_QUOTA : UInt32 := 0x10001
def UIAP_USED_CAPACITY : UInt32 := 0x81
def UIAP_LOGICAL_LEN : UInt32 := 0x82

def RIAP_OSD_SYSTEM_ID : UInt32 := 0x3
def RIAP_VENDOR_IDENTIFICATION : UInt32 := 0x4
def RIAP_PRODUCT_IDENTIFICATION : UInt32 := 0x5
def RIAP_PRODUCT_MODEL : UInt32 := 0x6
def RIAP_PRODUCT_REVISION_LEVEL : UInt32 := 0x7
def RIAP_PRODUCT_SERIAL_NUMBER : UInt32 := 0x8
def RIAP_OSD_NAME : UInt32 := 0x9
def RIAP_TOTAL_CAPACITY : UInt32 := 0x80
def RIAP_USED_CAPACITY : UInt32 := 0x81
def RIAP_NUMBER_OF_PARTITIONS : UInt32 := 0xC0
def RIAP_CLOCK : UInt32 := 0x100
def RIAP_OSD_SYSTEM_ID_LEN : Nat := 20

def UCAP_COLL_PTR_LB : UInt32 := 0x1
def UCAP_COLL_PTR_UB : UInt32 := 0xFFFFFF00

def UAP_CAS : UInt32 := 0x1
def UAP_FA : UInt32 := 0x2

def CCAP_RICV : UInt32 := 0x1
def CCAP_OBJT : UInt32 := 0x2
def CCAP_PID : UInt32 := 0x3
def CCAP_OID : UInt32 := 0x4
def CCAP_APPADDR : UInt32 := 0x5
def CCAP_TOTAL_LEN : Nat := 68

def UTSAP_CTIME : UInt32 := 0x1
def UTSAP_ATTR_ATIME : UInt32 := 0x2
def UTSAP_ATTR_MTIME : UInt32 := 0x3
def UTSAP_DATA_ATIME : UInt32 := 0x4
def UTSAP_DATA_MTIME : UInt32 := 0x5
def UTSAP_TOTAL_LEN : Nat := 38

/-! ## List formats, service actions, sense codes -/

def RTRVD_SET_ATTR_LIST : UInt8 := 0x09
def RTRVD_CREATE_MULTIOBJ_LIST : UInt8 := 0x0F

def OSD_FORMAT_OSD : UInt16 := 0x8881

def DDT_CONTIG : UInt8 := 0x0
def DDT_SGL : UInt8 := 0x1
def DDT_VEC : UInt8 := 0x2

def OSD_SSK_RECOVERED_ERROR : UInt8 := 0x01
def OSD_SSK_HARDWARE_ERROR : UInt8 := 0x04
def OSD_SSK_ILLEGAL_REQUEST : UInt8 := 0x05

def OSD_ASC_INVALID_FIELD_IN_CDB : UInt16 := 0x2400
def OSD_ASC_INVALID_FIELD_IN_PARAM_LIST : UInt16 := 0x2600
def OSD_ASC_PARAMETER_LIST_LENGTH_ERROR : UInt16 := 0x1A00
def OSD_ASC_PART_OR_COLL_CONTAINS_USER_OBJECTS : UInt16 := 0x2C0A
def OSD_ASC_READ_PAST_END_OF_USER_OBJECT : UInt16 := 0x3B17
def OSD_ASC_SYSTEM_RESOURCE_FAILURE : UInt16 := 0x5500

/-! ## Return values -/

/-- The negative codes the modelled functions return: `OSD_ERROR` and some `-errno` values. -/
inductive Errno
  | osdError | einval | enoent | eio | enomem | eoverflow | eexist
  deriving DecidableEq, Repr

/-- What the `sense_build_*` helpers were given: they fill the sense buffer and return its length. -/
structure Sense where
  key : UInt8
  code : UInt16
  pid : UInt64
  oid : UInt64
  csi : Option UInt64 := none
  deriving DecidableEq, Repr

/-- The `int` a function returns: `OSD_OK`, a negative code, or the positive length of the sense
data it has just built. -/
inductive Ret
  | ok
  | err (e : Errno)
  | sense (x : Sense)
  deriving DecidableEq, Repr

def senseBuildSdd (key : UInt8) (code : UInt16) (pid oid : UInt64) : Ret :=
  .sense { key, code, pid, oid }

def senseBuildSddCsi (key : UInt8) (code : UInt16) (pid oid csi : UInt64) : Ret :=
  .sense { key, code, pid, oid, csi := some csi }

/-- `osd_error_unimplemented` and `osd_error_bad_cdb` build the same sense data. -/
def osdErrorUnimplemented : Ret := .sense { key := OSD_SSK_ILLEGAL_REQUEST, code := 0, pid := 0, oid := 0 }

/-! ## Integers in memory -/

/-- `get_ntohs`, `get_ntohl`, `get_ntohll`: big-endian reads. -/
def getNtohs (m : Mem) (off : Nat) : UInt16 := UInt16.ofNat (beNat (m.read off 2))
def getNtohl (m : Mem) (off : Nat) : UInt32 := UInt32.ofNat (beNat (m.read off 4))
def getNtohll (m : Mem) (off : Nat) : UInt64 := UInt64.ofNat (beNat (m.read off 8))

/-- `set_htons`, `set_htonl`, `set_htonll`: the bytes they store. -/
def htons (x : UInt16) : List UInt8 := natBe 2 x.toNat
def htonl (x : UInt32) : List UInt8 := natBe 4 x.toNat
def htonll (x : UInt64) : List UInt8 := natBe 8 x.toNat

@[simp] theorem htons_length (x : UInt16) : (htons x).length = 2 := natBe_length 2 _
@[simp] theorem htonl_length (x : UInt32) : (htonl x).length = 4 := natBe_length 4 _
@[simp] theorem htonll_length (x : UInt64) : (htonll x).length = 8 := natBe_length 8 _

theorem getNtohs_of_read {m : Mem} {off : Nat} {x : UInt16} (h : m.read off 2 = htons x) :
    getNtohs m off = x := by
  have hx := x.toNat_lt
  simp only [getNtohs, h, htons, beNat_natBe]
  rw [Nat.mod_eq_of_lt (by omega), UInt16.ofNat_toNat]

theorem getNtohl_of_read {m : Mem} {off : Nat} {x : UInt32} (h : m.read off 4 = htonl x) :
    getNtohl m off = x := by
  have hx := x.toNat_lt
  simp only [getNtohl, h, htonl, beNat_natBe]
  rw [Nat.mod_eq_of_lt (by omega), UInt32.ofNat_toNat]

theorem getNtohll_of_read {m : Mem} {off : Nat} {x : UInt64} (h : m.read off 8 = htonll x) :
    getNtohll m off = x := by
  have hx := x.toNat_lt
  simp only [getNtohll, h, htonll, beNat_natBe]
  rw [Nat.mod_eq_of_lt (by omega), UInt64.ofNat_toNat]

/-- The bytes of a 64-bit variable as the host keeps it in memory. -/
def hostBytes (bigEndian : Bool) (x : UInt64) : List UInt8 :=
  if bigEndian then htonll x else (htonll x).reverse

@[simp] theorem hostBytes_length (b : Bool) (x : UInt64) : (hostBytes b x).length = 8 := by
  cases b <;> simp [hostBytes]

end OsdTarget
