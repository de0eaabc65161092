import Mathlib.Data.Char
import Mathlib.Data.Nat.Digits.Defs

namespace EnvelopeLite.Numerals

def zeroPadded (b w n : Nat) : List Char := (Nat.toDigits b n).leftpad w '0'

/-- The sign of a negative number counts as one of the `w` characters. -/
def signedPadded (b w : Nat) (n : Int) : List Char :=
  if n < 0 then '-' :: zeroPadded b (w - 1) n.natAbs else zeroPadded b w n.natAbs

variable {b w n m : Nat}

section Digits

theorem length_zeroPadded (hb : 1 < b) (hw : 0 < w) (hn : n < b ^ w) :
    (zeroPadded b w n).length = w := by
  have hlen := (Nat.length_toDigits_le_iff hb hw).mpr hn
  rw [zeroPadded, List.length_leftpad]
  omega

theorem digitChar_lt_iff {d e : Nat} (hd : d < 16) (he : e < 16) :
    d.digitChar < e.digitChar ↔ d < e := by
  have hall : ∀ d < 16, ∀ e < 16, d.digitChar < e.digitChar ↔ d < e := by decide
  exact hall d hd e he

theorem zeroPadded_one (hn : n < b) : zeroPadded b 1 n = [n.digitChar] := by
  rw [zeroPadded, Nat.toDigits_of_lt_base hn]
  rfl

theorem zeroPadded_succ (hb : 1 < b) (hw : 0 < w) (n : Nat) :
    zeroPadded b (w + 1) n = zeroPadded b w (n / b) ++ [(n % b).digitChar] := by
  unfold zeroPadded List.leftpad
  by_cases hlt : n < b
  · obtain ⟨k, rfl⟩ : ∃ k, w = k + 1 := ⟨w - 1, by omega⟩
    rw [Nat.toDigits_of_lt_base hlt, Nat.div_eq_of_lt hlt, Nat.mod_eq_of_lt hlt,
      Nat.toDigits_zero, List.length_singleton, List.length_singleton]
    simp [List.replicate_succ']
  · rw [Nat.toDigits_of_base_le hb (by omega), List.length_append, List.length_singleton,
      Nat.add_sub_add_right, List.append_assoc]

end Digits

section Order

theorem append_lt_append_iff {α : Type} [LT α] {a a' r r' : List α} (h : a.length = a'.length) :
    a ++ r < a' ++ r' ↔ a < a' ∨ a = a' ∧ r < r' := by
  induction a generalizing a' with
  | nil =>
    obtain rfl : a' = [] := List.length_eq_zero_iff.mp h.symm
    simp
  | cons x a ih =>
    obtain ⟨y, a', rfl⟩ : ∃ y l, a' = y :: l := List.exists_cons_of_length_eq_add_one h.symm
    rw [List.cons_append, List.cons_append, List.cons_lt_cons_iff, List.cons_lt_cons_iff,
      ih (Nat.succ.inj h), List.cons.injEq]
    tauto

theorem lt_iff_div_mod_lt (b n m : Nat) :
    n < m ↔ n / b < m / b ∨ n / b = m / b ∧ n % b < m % b := by
  have hn := Nat.div_add_mod n b
  have hm := Nat.div_add_mod m b
  constructor
  · intro h
    obtain hlt | heq := Nat.lt_or_eq_of_le (Nat.div_le_div_right (c := b) (Nat.le_of_lt h))
    · exact .inl hlt
    · rw [heq] at hn
      exact .inr ⟨heq, by omega⟩
  · rintro (h | ⟨heq, h⟩)
    · exact Nat.lt_of_div_lt_div h
    · rw [heq] at hn
      omega

theorem eq_iff_of_lt_iff (f : Nat → List Char) (hlt : f n < f m ↔ n < m)
    (hgt : f m < f n ↔ m < n) : f n = f m ↔ n = m := by
  refine ⟨fun h => ?_, congrArg f⟩
  rw [h] at hlt hgt
  simp only [List.lt_irrefl, false_iff, not_lt] at hlt hgt
  exact Nat.le_antisymm hgt hlt

/-- Numerals of one width are ordered as the numbers are. -/
theorem zeroPadded_lt_iff (hb : 1 < b) (hb16 : b ≤ 16) (hw : 0 < w) (hn : n < b ^ w)
    (hm : m < b ^ w) : zeroPadded b w n < zeroPadded b w m ↔ n < m := by
  induction w, hw using Nat.le_induction generalizing n m with
  | base =>
    have hn1 : n < b := by simpa using hn
    have hm1 : m < b := by simpa using hm
    rw [zeroPadded_one hn1, zeroPadded_one hm1, List.cons_lt_cons_iff,
      digitChar_lt_iff (by omega) (by omega)]
    simp
  | succ w hw ih =>
    have hn' : n / b < b ^ w := Nat.div_lt_of_lt_mul (by rwa [Nat.pow_succ'] at hn)
    have hm' : m / b < b ^ w := Nat.div_lt_of_lt_mul (by rwa [Nat.pow_succ'] at hm)
    have hnd : n % b < b := Nat.mod_lt n (by omega)
    have hmd : m % b < b := Nat.mod_lt m (by omega)
    have hlen : (zeroPadded b w (n / b)).length = (zeroPadded b w (m / b)).length := by
      rw [length_zeroPadded hb hw hn', length_zeroPadded hb hw hm']
    have heq : zeroPadded b w (n / b) = zeroPadded b w (m / b) ↔ n / b = m / b :=
      eq_iff_of_lt_iff (zeroPadded b w) (ih hn' hm') (ih hm' hn')
    rw [zeroPadded_succ hb hw, zeroPadded_succ hb hw, append_lt_append_iff hlen, ih hn' hm', heq,
      List.cons_lt_cons_iff, digitChar_lt_iff (by omega) (by omega), lt_iff_div_mod_lt b n m]
    simp

theorem zeroPadded_inj (hb : 1 < b) (hb16 : b ≤ 16) (hw : 0 < w) (hn : n < b ^ w)
    (hm : m < b ^ w) : zeroPadded b w n = zeroPadded b w m ↔ n = m :=
  eq_iff_of_lt_iff (zeroPadded b w) (zeroPadded_lt_iff hb hb16 hw hn hm)
    (zeroPadded_lt_iff hb hb16 hw hm hn)

end Order

section Reading

variable {isSeparator : Char → Bool}

end Reading

end EnvelopeLite.Numerals
