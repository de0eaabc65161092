import EnvelopeLite.Common

namespace EnvelopeLite.Slots

open EnvelopeLite.Common

section Writing

variable {σ κ ω : Type} [DecidableEq κ] {key : ω → κ} {write : σ → ω → σ}
variable {slot : σ → κ → Option ω}

def lastWrite (key : ω → κ) (k : κ) (writes : List ω) : Option ω :=
  (writes.filter fun w => key w = k).getLast?

theorem lastWrite_cons (k : κ) (w : ω) (writes : List ω) (before : Option ω) :
    (lastWrite key k (w :: writes)).or before =
      (lastWrite key k writes).or (if key w = k then some w else before) := by
  by_cases hk : key w = k
  · have hkept : (w :: writes).filter (fun w => key w = k) =
        w :: writes.filter (fun w => key w = k) := List.filter_cons_of_pos (by simpa using hk)
    rw [lastWrite, hkept, List.getLast?_cons, lastWrite, if_pos hk]
    cases (writes.filter fun w => key w = k).getLast? <;> rfl
  · have hdropped : (w :: writes).filter (fun w => key w = k) =
        writes.filter (fun w => key w = k) := List.filter_cons_of_neg (by simpa using hk)
    rw [lastWrite, hdropped, lastWrite, if_neg hk]

/-- If a write replaces what is in its slot and leaves the others alone, then after
several writes each slot has the last that went to it. -/
theorem slot_foldl (hwrite : ∀ s w k, slot (write s w) k = if key w = k then some w else slot s k)
    (writes : List ω) (s : σ) (k : κ) :
    slot (writes.foldl write s) k = (lastWrite key k writes).or (slot s k) := by
  induction writes generalizing s with
  | nil => rfl
  | cons w writes ih => rw [List.foldl_cons, ih, hwrite, lastWrite_cons]

end Writing

section Checking

variable {ε α β : Type} {x : Except ε α} {f : α → Except ε β} {checks : List (ε × Bool)}

def firstFailed (checks : List (ε × Bool)) : Option ε :=
  (checks.find? fun c => !c.2).map Prod.fst

/-- The computation makes the checks in this order: it ends with the error of the first
that fails, and succeeds if none does. -/
def RunsChecks (checks : List (ε × Bool)) (x : Except ε α) : Prop :=
  match firstFailed checks with
  | some e => x = .error e
  | none => ∃ a, x = .ok a

theorem runsChecks_ok (a : α) : RunsChecks [] (.ok a : Except ε α) := ⟨a, rfl⟩

theorem runsChecks_bind {e : ε} {passed : Bool} (hfail : passed = false → x = .error e)
    (hpass : passed = true → ∃ a, x = .ok a)
    (hrest : ∀ a, x = .ok a → RunsChecks checks (f a)) :
    RunsChecks ((e, passed) :: checks) (x >>= f) := by
  cases passed with
  | false =>
    rw [hfail rfl]
    rfl
  | true =>
    obtain ⟨a, rfl⟩ := hpass rfl
    exact hrest a rfl

theorem RunsChecks.error_iff (h : RunsChecks checks x) {e : ε} :
    x = .error e ↔ firstFailed checks = some e := by
  rw [RunsChecks] at h
  cases hfirst : firstFailed checks with
  | some e' =>
    rw [hfirst] at h
    rw [h, Except.error.injEq, Option.some.injEq]
  | none =>
    rw [hfirst] at h
    obtain ⟨a, rfl⟩ := h
    simp

theorem RunsChecks.exists_ok_iff (h : RunsChecks checks x) :
    (∃ a, x = .ok a) ↔ ∀ c ∈ checks, c.2 = true := by
  have hnone : firstFailed checks = none ↔ ∀ c ∈ checks, c.2 = true := by
    simp [firstFailed]
  rw [← hnone]
  rw [RunsChecks] at h
  cases hfirst : firstFailed checks with
  | some e =>
    rw [hfirst] at h
    rw [h]
    simp
  | none =>
    rw [hfirst] at h
    simpa using h

end Checking

end EnvelopeLite.Slots
