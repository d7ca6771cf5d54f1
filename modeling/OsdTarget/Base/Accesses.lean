import Mathlib.Logic.Function.Basic
import Mathlib.Tactic.Common

/-!
# Banks of registers

A read-modify-write access finds a value in its register and leaves an updated one.  `serve` is what
a bank answers to a sequence of accesses, `bankAfter` the bank they leave; every other register keeps
its value by the definition of `Function.update`.
-/

namespace OsdTarget.Base

variable {κ V : Type} [DecidableEq κ]

/-- A read-modify-write access. -/
structure Access (κ V : Type) where
  register : κ
  update : V → V

/-- The bank after one access. -/
def Access.apply (bank : κ → V) (a : Access κ V) : κ → V :=
  Function.update bank a.register (a.update (bank a.register))

/-- The bank after accesses served in turn. -/
def bankAfter (bank : κ → V) (l : List (Access κ V)) : κ → V := l.foldl Access.apply bank

/-- The value each access finds, served in turn. -/
def serve (bank : κ → V) : List (Access κ V) → List V
  | [] => []
  | a :: l => bank a.register :: serve (a.apply bank) l

theorem Access.apply_register (bank : κ → V) (a : Access κ V) :
    a.apply bank a.register = a.update (bank a.register) := Function.update_self ..

theorem Access.apply_of_ne {bank : κ → V} {a : Access κ V} {r : κ} (h : r ≠ a.register) :
    a.apply bank r = bank r := Function.update_of_ne h ..

end OsdTarget.Base
