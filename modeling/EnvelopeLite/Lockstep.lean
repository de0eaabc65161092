import EnvelopeLite.Common

namespace EnvelopeLite.Lockstep

open EnvelopeLite.Common

variable {ε α β α' β' γ : Type} {R : α → β → Prop} {S : α' → β' → Prop}

/-- Two computations fail with the same error or give related values. -/
def InStep (R : α → β → Prop) : Except ε α → Except ε β → Prop
  | .ok a, .ok b => R a b
  | .error e, .error e' => e = e'
  | _, _ => False

theorem InStep.bind {x : Except ε α} {y : Except ε β} {f : α → Except ε α'}
    {g : β → Except ε β'} (h : InStep R x y) (hrest : ∀ a b, R a b → InStep S (f a) (g b)) :
    InStep S (x >>= f) (y >>= g) := by
  cases x with
  | error e =>
    cases y with
    | error e' => exact h
    | ok b => exact h.elim
  | ok a =>
    cases y with
    | error e => exact h.elim
    | ok b => exact hrest a b h

theorem inStep_foldlM {f : α → γ → Except ε α} {g : β → γ → Except ε β}
    (hstep : ∀ a b c, R a b → InStep R (f a c) (g b c)) :
    ∀ (l : List γ) (a : α) (b : β), R a b → InStep R (l.foldlM f a) (l.foldlM g b) := by
  intro l
  induction l with
  | nil =>
    intro a b h
    exact h
  | cons c l ih =>
    intro a b h
    rw [List.foldlM_cons, List.foldlM_cons]
    exact (hstep a b c h).bind ih

theorem InStep.eq {x y : Except ε α} (h : InStep (fun a b => a = b) x y) : x = y := by
  cases x with
  | error e =>
    cases y with
    | error e' => exact congrArg Except.error h
    | ok b => exact h.elim
  | ok a =>
    cases y with
    | error e => exact h.elim
    | ok b => exact congrArg Except.ok h

end EnvelopeLite.Lockstep
