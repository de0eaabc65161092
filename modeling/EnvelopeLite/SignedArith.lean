import Mathlib.Algebra.Group.Int.Defs
import Mathlib.Order.Basic
import Mathlib.Tactic.Common

namespace EnvelopeLite.SignedArith

/-- The values of a signed integer of `w` bits. -/
def InRange (w : Nat) (n : Int) : Prop := -2 ^ (w - 1) ≤ n ∧ n < 2 ^ (w - 1)

instance (w : Nat) (n : Int) : Decidable (InRange w n) := inferInstanceAs (Decidable (_ ∧ _))

def checked (w : Nat) (n : Int) : Option Int := if InRange w n then some n else none

def add (w : Nat) (a b : Int) : Option Int := checked w (a + b)

def sub (w : Nat) (a b : Int) : Option Int := checked w (a - b)

def mul (w : Nat) (a b : Int) : Option Int := checked w (a * b)

/-- Division truncates towards zero. Besides a zero divisor, it overflows for the
smallest value divided by minus one. -/
def div (w : Nat) (a b : Int) : Option Int := if b = 0 then none else checked w (a.tdiv b)

variable {w : Nat} {a b : Int}

theorem bind_of_eq_some {α β : Type} {x : Option α} {f : α → Option β} {v : α} {r : Option β}
    (hx : x = some v) (hf : f v = r) : x >>= f = r := by
  rw [hx]
  exact hf

theorem checked_of_bounds (hlo : -2 ^ (w - 1) ≤ a) (hhi : a < 2 ^ (w - 1)) :
    checked w a = some a := if_pos ⟨hlo, hhi⟩

theorem add_of_bounds (hlo : -2 ^ (w - 1) ≤ a + b) (hhi : a + b < 2 ^ (w - 1)) :
    add w a b = some (a + b) := checked_of_bounds hlo hhi

theorem sub_of_bounds (hlo : -2 ^ (w - 1) ≤ a - b) (hhi : a - b < 2 ^ (w - 1)) :
    sub w a b = some (a - b) := checked_of_bounds hlo hhi

theorem mul_of_bounds (hlo : -2 ^ (w - 1) ≤ a * b) (hhi : a * b < 2 ^ (w - 1)) :
    mul w a b = some (a * b) := checked_of_bounds hlo hhi

theorem div_of_nonneg (hb : 0 < b) (ha : 0 ≤ a) (hhi : a < 2 ^ (w - 1)) :
    div w a b = some (a / b) := by
  have hle : a / b ≤ a := Int.ediv_le_self b ha
  have hpos : 0 ≤ a / b := Int.ediv_nonneg ha (Int.le_of_lt hb)
  rw [div, if_neg (Int.ne_of_gt hb), Int.tdiv_eq_ediv_of_nonneg ha]
  exact checked_of_bounds (by omega) (by omega)

/-- A negative dividend that is lowered by one less than the divisor truncates to
the quotient rounded down. -/
theorem tdiv_sub_eq_ediv (hb : 0 < b) (ha : a < 0) : (a - (b - 1)).tdiv b = a / b := by
  have hflip : (b - 1 - a) / b = -(a / b) := by
    have hmod := Int.emod_nonneg a (Int.ne_of_gt hb)
    have hlt := Int.emod_lt_of_pos a hb
    refine ((Int.ediv_emod_unique (r := b - 1 - a % b) hb).mpr ⟨?_, by omega, by omega⟩).1
    have hdef := Int.emod_add_mul_ediv a b
    rw [Int.mul_neg]
    omega
  have hneg : a - (b - 1) = -(b - 1 - a) := by omega
  rw [hneg, Int.neg_tdiv, Int.tdiv_eq_ediv_of_nonneg (by omega), hflip, Int.neg_neg]

theorem div_of_neg (hb : 0 < b) (ha : a < 0) (hlo : -2 ^ (w - 1) ≤ a) :
    div w (a - (b - 1)) b = some (a / b) := by
  have hneg : a / b < 0 := Int.ediv_neg_of_neg_of_pos ha hb
  have hle : a ≤ a / b := by
    have hmul : a * b ≤ a * 1 := Int.mul_le_mul_of_nonpos_left (by omega) hb
    rw [Int.mul_one] at hmul
    exact Int.le_ediv_of_mul_le hb hmul
  rw [div, if_neg (Int.ne_of_gt hb), tdiv_sub_eq_ediv hb ha]
  exact checked_of_bounds (by omega) (by omega)

end EnvelopeLite.SignedArith
