import OsdTarget.Attributes
import OsdTarget.Base.Ascending
import Mathlib.Data.List.Dedup

/-!
# QUERY

`mtq_run_query` of `mtq.c`: a statement put together from one SELECT for each criterion, and the loop
that packs its rows.  The table names it prints are those of the schema.
-/

namespace OsdTarget

open Base

variable (env : Env)

/-! ## The statement -/

/-- One entry of `struct query_criteria`; a bound of length 0 is left out of the statement. -/
structure Criterion where
  page : UInt32
  number : UInt32
  min : List UInt8
  max : List UInt8
  deriving DecidableEq, Repr

/-- `struct query_criteria`. -/
structure QueryCriteria where
  queryType : UInt8
  entries : List Criterion

/-- `AND attr.page = … AND attr.number = … AND ? <= attr.value AND attr.value <= ?`; a comparison with
NULL is not true. -/
def Criterion.Where (c : Criterion) (r : AttrRow) : Prop :=
  r.page = sqlLiteral c.page.toNat ∧ r.number = sqlLiteral c.number.toNat ∧
    (c.min = [] ∨ ∃ v ∈ r.blob, c.min ≤ v) ∧ (c.max = [] ∨ ∃ v ∈ r.blob, v ≤ c.max)

instance (c : Criterion) : DecidablePred c.Where := fun r =>
  inferInstanceAs (Decidable (r.page = _ ∧ r.number = _ ∧ (_ ∨ _) ∧ (_ ∨ _)))

/-- `select_stmt` with a condition behind it; it does not compare the partitions of the two tables. -/
def selectOids (d : Db) (pid cid : UInt64) (cond : AttrRow → Prop) [DecidablePred cond] : List Int :=
  d.coll.flatMap fun coll => (d.attr.filter fun attr =>
    coll.pid = coll.pid ∧ coll.oid = attr.oid ∧ coll.pid = sqlLiteral pid.toNat ∧
      coll.cid = sqlLiteral cid.toNat ∧ cond attr).map AttrRow.oid

/-- `UNION` for type 0, `INTERSECT` for type 1. -/
def setOp (queryType : UInt8) (l₁ l₂ : List Int) : List Int :=
  if queryType = 0 then l₁ ++ l₂ else l₁.filter (· ∈ l₂)

/-- The rows of the statement, `GROUP BY attr.oid ORDER BY 1`. -/
def queryRows (d : Db) (pid cid : UInt64) (qc : QueryCriteria) : List Int :=
  ascending (match qc.entries with
    | [] => selectOids d pid cid fun _ => True
    | c :: cs => cs.foldl (fun l (c : Criterion) => setOp qc.queryType l (selectOids d pid cid c.Where))
        (selectOids d pid cid c.Where)).dedup

/-! ## The result -/

def ML_ODL_OFF : UInt64 := 13

/-- The loop over the rows: `p`, `len` and `*used_outlen`.  The space that is left is computed in 64
bits. -/
def queryLoop (allocLen : UInt32) : List UInt64 → Nat → UInt64 → UInt64 → OsdM (UInt64 × UInt64)
  | [], _, len, used => return (len, used)
  | id :: ids, p, len, used => do
    let used' ←
      if 8 < allocLen.toUInt64 - len then do
        outWrite p (htonll id)
        pure (used + 8)
      else pure used
    queryLoop allocLen ids (p + 8) (if len ≠ 0 - 1 ∧ len < len + 8 then len + 8 else 0 - 1) used'

/-- The rows into the reply, the length in front of them: `*used_outlen`. -/
def queryResults (allocLen : UInt32) (ids : List UInt64) : OsdM UInt64 := do
  let (len, used) ← queryLoop allocLen ids ML_ODL_OFF.toNat (ML_ODL_OFF - 8) ML_ODL_OFF
  outWrite 0 (htonll len)
  return used

/-- `mtq_run_query`: the status and `*used_outlen`, `none` when it is left alone. -/
def mtqRunQuery (pid cid : UInt64) (qc : QueryCriteria) (allocLen : UInt32) :
    OsdM (Ret × Option UInt64) := do
  if qc.queryType ≠ 0 ∧ qc.queryType ≠ 1 then
    return (.err .einval, none)
  let (ret, ids) ← dbExecQuery env (.runQuery (bindInt64 pid) (bindInt64 cid)) []
    fun d => (queryRows d pid cid qc).map columnInt64
  if ret ≠ .ok then
    return (.err .eio, none)
  let used ← queryResults allocLen ids
  return (.ok, some used)

end OsdTarget
