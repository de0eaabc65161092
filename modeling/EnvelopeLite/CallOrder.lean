import EnvelopeLite.CallTrace

namespace EnvelopeLite.CallOrder

open EnvelopeLite.CallTrace

variable {E ε α β : Type} {G : List E → E → Prop}

/-- Each call of a log is allowed by the calls that were made before it. -/
def Guarded (G : List E → E → Prop) : List E → List E → Prop
  | _, [] => True
  | before, e :: log => G before e ∧ Guarded G (before ++ [e]) log

@[simp] theorem guarded_nil {before : List E} : Guarded G before [] := trivial

@[simp] theorem guarded_cons {before log : List E} {e : E} :
    Guarded G before (e :: log) ↔ G before e ∧ Guarded G (before ++ [e]) log := Iff.rfl

theorem guarded_append {before l m : List E} :
    Guarded G before (l ++ m) ↔ Guarded G before l ∧ Guarded G (before ++ l) m := by
  induction l generalizing before with
  | nil => simp
  | cons e l ih =>
    rw [List.cons_append, guarded_cons, guarded_cons, ih, and_assoc, List.append_assoc,
      List.singleton_append]

theorem Guarded.of_eq_append {before log : List E} (h : Guarded G before log) {pre post : List E}
    {e : E} (he : log = pre ++ e :: post) : G (before ++ pre) e := by
  rw [he, guarded_append, guarded_cons] at h
  exact h.2.1

theorem guarded_bind {before : List E} {x : Traced E ε α} {f : α → Traced E ε β} :
    Guarded G before (x >>= f).log ↔ Guarded G before x.log ∧
      ∀ a, x.outcome = .ok a → Guarded G (before ++ x.log) (f a).log := by
  cases h : x.outcome with
  | ok a => simp [Traced.bind_ok h, guarded_append]
  | err e => simp [Traced.bind_err h]
  | panic => simp [Traced.bind_panic h]

/-- A kind of call that is only allowed when none came before is made at most once. -/
theorem Guarded.countP_le_one {p : E → Bool}
    (hfirst : ∀ before e, G before e → p e = true → ∀ d ∈ before, p d = false)
    {before log : List E} (h : Guarded G before log) (hbefore : before.countP p ≤ 1) :
    (before ++ log).countP p ≤ 1 := by
  induction log generalizing before with
  | nil => simpa using hbefore
  | cons e log ih =>
    obtain ⟨he, hlog⟩ := h
    have hstep : (before ++ [e]).countP p ≤ 1 := by
      rw [List.countP_append]
      by_cases hp : p e = true
      · have hnone : before.countP p = 0 := by
          rw [List.countP_eq_zero]
          intro d hd
          rw [hfirst before e he hp d hd]
          exact Bool.false_ne_true
        rw [hnone]
        simp [hp]
      · simpa [hp] using hbefore
    have hrest := ih hlog hstep
    rwa [List.append_assoc] at hrest

end EnvelopeLite.CallOrder
