import Mathlib.Order.Basic
import Mathlib.Tactic.Common

namespace EnvelopeLite.CheckedArith

/-- Unsigned addition that reports overflow past the largest value `M`. -/
def checkedAdd (M a b : Nat) : Option Nat := if a + b ≤ M then some (a + b) else none

def checkedMul (M a b : Nat) : Option Nat := if a * b ≤ M then some (a * b) else none

def checkedDiv (a b : Nat) : Option Nat := if b = 0 then none else some (a / b)

def saturatingAdd (M a b : Nat) : Nat := min (a + b) M

@[simp] theorem checkedAdd_eq_some_iff {M a b c : Nat} :
    checkedAdd M a b = some c ↔ a + b ≤ M ∧ a + b = c := by
  simp [checkedAdd]

@[simp] theorem checkedMul_eq_some_iff {M a b c : Nat} :
    checkedMul M a b = some c ↔ a * b ≤ M ∧ a * b = c := by
  simp [checkedMul]

theorem checkedMul_getD (M a b : Nat) : (checkedMul M a b).getD M = min (a * b) M := by
  unfold checkedMul
  split <;> simp <;> omega

/-- Rounding up to whole groups of `g` and then scaling by `m`, with overflow at
either step answered by the largest value, saturates the exact result: a sum that
overflows already has at least `M` as its scaled quotient. -/
theorem roundUp_getD (M n r g m : Nat) (hover : M < n + r → M ≤ (n + r) / g * m) :
    (((checkedAdd M n r).map (· / g)).bind (checkedMul M · m)).getD M =
      min ((n + r) / g * m) M := by
  by_cases h : n + r ≤ M
  · simp only [checkedAdd, h, if_true, Option.map_some, Option.bind_some]
    exact checkedMul_getD M _ _
  · have hm := hover (by omega)
    simp only [checkedAdd, h, if_false, Option.map_none, Option.bind_none, Option.getD_none]
    omega

/-- The first whole multiple of `g` above `n`, again saturating at `M`. -/
theorem nextMultiple_getD (M n g : Nat) (hg : 1 < g) :
    (((checkedDiv n g).bind (checkedAdd M · 1)).bind (checkedMul M · g)).getD M =
      min ((n / g + 1) * g) M := by
  have hpos : g ≠ 0 := by omega
  simp only [checkedDiv, hpos, if_false, Option.bind_some]
  by_cases h : n / g + 1 ≤ M
  · simp only [checkedAdd, h, if_true, Option.bind_some]
    exact checkedMul_getD M _ _
  · have hlt : n < (n / g + 1) * g := by
      rw [Nat.mul_comm]
      exact Nat.lt_mul_div_succ n (by omega)
    have hle : n / g ≤ n := Nat.div_le_self n g
    have hmul : n / g + 1 ≤ (n / g + 1) * g := Nat.le_mul_of_pos_right _ (by omega)
    simp only [checkedAdd, h, if_false, Option.bind_none, Option.getD_none]
    omega

end EnvelopeLite.CheckedArith
