import Mathlib.Data.List.Basic

namespace EnvelopeLite.CallTrace

variable {E ε α β : Type}

/-- How a call ends: with a value, with an error it reports, or by a panic. -/
inductive Outcome (ε α : Type)
  | ok (a : α)
  | err (e : ε)
  | panic
  deriving DecidableEq, Repr

def Outcome.toOption : Outcome ε α → Option α
  | .ok a => some a
  | .err _ => none
  | .panic => none

theorem Outcome.eq_ok_get {o : Outcome ε α} (h : o.toOption.isSome = true) :
    o = .ok (o.toOption.get h) := by
  cases o with
  | ok a => rfl
  | err e => cases h
  | panic => cases h

theorem Outcome.exists_ok_of_isSome {o : Outcome ε α} (h : o.toOption.isSome = true) :
    ∃ a, o = .ok a :=
  ⟨_, Outcome.eq_ok_get h⟩

/-- A computation together with the record of the external calls it makes. The
record is kept on every way out, so that what ran before a failure can be seen. -/
structure Traced (E ε α : Type) where
  log : List E
  outcome : Outcome ε α

def Traced.bind (x : Traced E ε α) (f : α → Traced E ε β) : Traced E ε β :=
  match x.outcome with
  | .ok a => ⟨x.log ++ (f a).log, (f a).outcome⟩
  | .err e => ⟨x.log, .err e⟩
  | .panic => ⟨x.log, .panic⟩

instance : Monad (Traced E ε) where
  pure a := ⟨[], .ok a⟩
  bind := Traced.bind

def Traced.relabel {F : Type} (f : E → F) (x : Traced E ε α) : Traced F ε α :=
  ⟨x.log.map f, x.outcome⟩

def call (e : E) (a : α) : Traced E ε α := ⟨[e], .ok a⟩

def fail (e : ε) : Traced E ε α := ⟨[], .err e⟩

def abort : Traced E ε α := ⟨[], .panic⟩

def ensure (c : Prop) [Decidable c] (e : ε) : Traced E ε Unit := if c then pure () else fail e

def orFail : Option α → ε → Traced E ε α
  | some a, _ => pure a
  | none, e => fail e

/-- A missing value that the source has no error for. -/
def orAbort : Option α → Traced E ε α
  | some a => pure a
  | none => abort

def ofExcept : Except ε α → Traced E ε α
  | .ok a => pure a
  | .error e => fail e

theorem Traced.bind_ok {x : Traced E ε α} {a : α} (h : x.outcome = .ok a)
    (f : α → Traced E ε β) : x >>= f = ⟨x.log ++ (f a).log, (f a).outcome⟩ := by
  change Traced.bind x f = _
  simp only [Traced.bind, h]

theorem Traced.bind_err {x : Traced E ε α} {e : ε} (h : x.outcome = .err e)
    (f : α → Traced E ε β) : x >>= f = ⟨x.log, .err e⟩ := by
  change Traced.bind x f = _
  simp only [Traced.bind, h]

theorem Traced.bind_panic {x : Traced E ε α} (h : x.outcome = .panic)
    (f : α → Traced E ε β) : x >>= f = ⟨x.log, .panic⟩ := by
  change Traced.bind x f = _
  simp only [Traced.bind, h]

theorem Traced.bind_congr {x : Traced E ε α} {f g : α → Traced E ε β}
    (h : ∀ a, x.outcome = .ok a → f a = g a) : x >>= f = x >>= g := by
  cases hx : x.outcome with
  | ok a => rw [bind_ok hx, bind_ok hx, h a hx]
  | err e => rw [bind_err hx, bind_err hx]
  | panic => rw [bind_panic hx, bind_panic hx]

theorem Traced.bind_assoc {γ : Type} (x : Traced E ε α) (f : α → Traced E ε β)
    (g : β → Traced E ε γ) : x >>= f >>= g = x >>= fun a => f a >>= g := by
  obtain ⟨l, o⟩ := x
  cases o with
  | ok a =>
    rw [Traced.bind_ok (x := ⟨l, .ok a⟩) rfl f, Traced.bind_ok (x := ⟨l, .ok a⟩) rfl]
    obtain ⟨m, r⟩ := f a
    cases r with
    | ok b =>
      rw [Traced.bind_ok (x := ⟨l ++ m, .ok b⟩) rfl, Traced.bind_ok (x := ⟨m, .ok b⟩) rfl]
      simp only [List.append_assoc]
    | err e => rfl
    | panic => rfl
  | err e => rfl
  | panic => rfl

instance : LawfulMonad (Traced E ε) := LawfulMonad.mk' _
  (by
    intro α x
    obtain ⟨l, o⟩ := x
    cases o <;> simp [Functor.map, Traced.bind])
  (by intros; rfl)
  Traced.bind_assoc

theorem ofExcept_ok (a : α) : (ofExcept (.ok a) : Traced E ε α) = pure a := rfl

theorem ofExcept_error (e : ε) : (ofExcept (.error e) : Traced E ε α) = fail e := rfl

theorem ofExcept_bind {x : Except ε α} {f : α → Except ε β} :
    (ofExcept (x >>= f) : Traced E ε β) = ofExcept x >>= fun a => ofExcept (f a) := by
  cases x <;> rfl

theorem fail_bind (e : ε) (f : α → Traced E ε β) : fail e >>= f = fail e := rfl

theorem ensure_pos {c : Prop} [Decidable c] (h : c) (e : ε) :
    (ensure c e : Traced E ε Unit) = pure () := if_pos h

theorem ensure_neg {c : Prop} [Decidable c] (h : ¬ c) (e : ε) :
    (ensure c e : Traced E ε Unit) = fail e := if_neg h

section Outcomes

@[simp] theorem bind_ok_iff {x : Traced E ε α} {f : α → Traced E ε β} {b : β} :
    (x >>= f).outcome = .ok b ↔ ∃ a, x.outcome = .ok a ∧ (f a).outcome = .ok b := by
  cases h : x.outcome with
  | ok a => simp [Traced.bind_ok h]
  | err e => simp [Traced.bind_err h]
  | panic => simp [Traced.bind_panic h]

theorem bind_err_iff {x : Traced E ε α} {f : α → Traced E ε β} {e : ε} :
    (x >>= f).outcome = .err e ↔
      x.outcome = .err e ∨ ∃ a, x.outcome = .ok a ∧ (f a).outcome = .err e := by
  cases h : x.outcome with
  | ok a => simp [Traced.bind_ok h]
  | err e => simp [Traced.bind_err h]
  | panic => simp [Traced.bind_panic h]

theorem bind_outcome_congr {x : Traced E ε α} {f g : α → Traced E ε β}
    (h : ∀ a, x.outcome = .ok a → (f a).outcome = (g a).outcome) :
    (x >>= f).outcome = (x >>= g).outcome := by
  cases hx : x.outcome with
  | ok a => simpa [Traced.bind_ok hx] using h a hx
  | err e => simp [Traced.bind_err hx]
  | panic => simp [Traced.bind_panic hx]

@[simp] theorem pure_ok_iff {a b : α} :
    (pure a : Traced E ε α).outcome = .ok b ↔ a = b := by
  change Outcome.ok a = Outcome.ok b ↔ a = b
  simp

@[simp] theorem map_ok_iff {x : Traced E ε α} {f : α → β} {b : β} :
    (f <$> x).outcome = .ok b ↔ ∃ a, x.outcome = .ok a ∧ f a = b := by
  rw [← bind_pure_comp, bind_ok_iff]
  simp only [pure_ok_iff]

@[simp] theorem call_ok_iff {e : E} {a b : α} :
    (call e a : Traced E ε α).outcome = .ok b ↔ a = b := by
  simp [call]

@[simp] theorem fail_ok_iff {e : ε} {b : α} : (fail e : Traced E ε α).outcome = .ok b ↔ False := by
  simp [fail]

@[simp] theorem ensure_ok_iff {c : Prop} [Decidable c] {e : ε} {u : Unit} :
    (ensure c e : Traced E ε Unit).outcome = .ok u ↔ c := by
  by_cases h : c <;> simp [ensure, h]

@[simp] theorem ite_ok_iff {c : Prop} [Decidable c] {e : ε} {a b : α} :
    (if c then pure a else fail e : Traced E ε α).outcome = .ok b ↔ c ∧ a = b := by
  by_cases h : c <;> simp [h]

@[simp] theorem orFail_ok_iff {o : Option α} {e : ε} {b : α} :
    (orFail o e : Traced E ε α).outcome = .ok b ↔ o = some b := by
  cases o <;> simp [orFail]

@[simp] theorem ofExcept_ok_iff {r : Except ε α} {b : α} :
    (ofExcept r : Traced E ε α).outcome = .ok b ↔ r = .ok b := by
  cases r <;> simp [ofExcept]

theorem ofExcept_err_iff {r : Except ε α} {e : ε} :
    (ofExcept r : Traced E ε α).outcome = .err e ↔ r = .error e := by
  cases r <;> simp [ofExcept_ok, ofExcept_error, fail]

end Outcomes

section Endings

/-- The computation does not panic, each value it can return satisfies `Q` and
each error it can report satisfies `S`. -/
def Ends (x : Traced E ε α) (Q : α → Prop) (S : ε → Prop) : Prop :=
  match x.outcome with
  | .ok a => Q a
  | .err e => S e
  | .panic => False

variable {Q : α → Prop} {S : ε → Prop}

@[simp] theorem ends_bind {x : Traced E ε α} {f : α → Traced E ε β} {R : β → Prop} :
    Ends (x >>= f) R S ↔ Ends x (fun a => Ends (f a) R S) S := by
  cases h : x.outcome with
  | ok a => simp [Ends, Traced.bind_ok h, h]
  | err e => simp [Ends, Traced.bind_err h, h]
  | panic => simp [Ends, Traced.bind_panic h, h]

@[simp] theorem ends_pure {a : α} : Ends (pure a : Traced E ε α) Q S ↔ Q a := Iff.rfl

@[simp] theorem ends_map {x : Traced E ε α} {f : α → β} {R : β → Prop} :
    Ends (f <$> x) R S ↔ Ends x (fun a => R (f a)) S := by
  rw [← bind_pure_comp, ends_bind]
  rfl

@[simp] theorem ends_call {e : E} {a : α} : Ends (call e a : Traced E ε α) Q S ↔ Q a := Iff.rfl

@[simp] theorem ends_fail {e : ε} : Ends (fail e : Traced E ε α) Q S ↔ S e := Iff.rfl

@[simp] theorem ends_ensure {c : Prop} [Decidable c] {e : ε} {R : Unit → Prop} :
    Ends (ensure c e : Traced E ε Unit) R S ↔ (c → R ()) ∧ (¬ c → S e) := by
  by_cases h : c <;> simp [ensure, h]

@[simp] theorem ends_ite {c : Prop} [Decidable c] {x y : Traced E ε α} :
    Ends (if c then x else y) Q S ↔ (c → Ends x Q S) ∧ (¬ c → Ends y Q S) := by
  by_cases h : c <;> simp [h]

@[simp] theorem ends_orFail {o : Option α} {e : ε} :
    Ends (orFail o e : Traced E ε α) Q S ↔ (∀ a, o = some a → Q a) ∧ (o = none → S e) := by
  cases o <;> simp [orFail]

@[simp] theorem ends_ofExcept {r : Except ε α} :
    Ends (ofExcept r : Traced E ε α) Q S ↔
      (∀ a, r = .ok a → Q a) ∧ (∀ e, r = .error e → S e) := by
  cases r <;> simp [ofExcept]

theorem ends_ofExcept_mapError {ε' : Type} {r : Except ε' α} {e : ε} (hq : ∀ a, Q a) (hs : S e) :
    Ends (ofExcept (r.mapError fun _ => e) : Traced E ε α) Q S := by
  cases r with
  | ok a => exact hq a
  | error e' => exact hs

theorem Ends.mono {x : Traced E ε α} {Q' : α → Prop} {S' : ε → Prop} (h : Ends x Q S)
    (hq : ∀ a, Q a → Q' a) (hs : ∀ e, S e → S' e) : Ends x Q' S' := by
  unfold Ends at h ⊢
  cases hx : x.outcome with
  | ok a =>
    simp only [hx] at h
    exact hq a h
  | err e =>
    simp only [hx] at h
    exact hs e h
  | panic => simp only [hx] at h

theorem Ends.ne_panic {x : Traced E ε α} (h : Ends x Q S) : x.outcome ≠ .panic := by
  intro hx
  unfold Ends at h
  rw [hx] at h
  exact h

theorem Ends.exists_err {x : Traced E ε α} (h : Ends x Q S) (hok : ∀ a, x.outcome ≠ .ok a) :
    ∃ e, x.outcome = .err e ∧ S e := by
  unfold Ends at h
  cases hx : x.outcome with
  | ok a => exact absurd hx (hok a)
  | err e =>
    simp only [hx] at h
    exact ⟨e, rfl, h⟩
  | panic => simp only [hx] at h

/-- Two computations that know a single error and return the same values end the
same way on every input. -/
theorem Ends.outcome_eq {x y : Traced E ε α} {e : ε} (hx : Ends x (fun _ => True) (· = e))
    (hy : Ends y (fun _ => True) (· = e)) (h : ∀ a, x.outcome = .ok a ↔ y.outcome = .ok a) :
    x.outcome = y.outcome := by
  unfold Ends at hx hy
  cases hxo : x.outcome with
  | ok a => exact ((h a).mp hxo).symm
  | err d =>
    cases hyo : y.outcome with
    | ok a => exact absurd ((h a).mpr hyo) (by simp [hxo])
    | err d' =>
      simp only [hxo] at hx
      simp only [hyo] at hy
      rw [hx, hy]
    | panic => simp only [hyo] at hy
  | panic => simp only [hxo] at hx

end Endings

section Logs

@[simp] theorem mem_log_bind {x : Traced E ε α} {f : α → Traced E ε β} {e : E} :
    e ∈ (x >>= f).log ↔ e ∈ x.log ∨ ∃ a, x.outcome = .ok a ∧ e ∈ (f a).log := by
  cases h : x.outcome with
  | ok a => simp [Traced.bind_ok h]
  | err e => simp [Traced.bind_err h]
  | panic => simp [Traced.bind_panic h]

theorem exists_mem_log_of_ok {x : Traced E ε α} {f : α → Traced E ε β} {b : β} {R : E → Prop}
    (h : (x >>= f).outcome = .ok b)
    (hf : ∀ a, x.outcome = .ok a → (f a).outcome = .ok b → ∃ e ∈ (f a).log, R e) :
    ∃ e ∈ (x >>= f).log, R e := by
  obtain ⟨a, hx, hfa⟩ := bind_ok_iff.mp h
  obtain ⟨e, he, hr⟩ := hf a hx hfa
  exact ⟨e, mem_log_bind.mpr (.inr ⟨a, hx, he⟩), hr⟩

theorem log_bind_of_not_ok {x : Traced E ε α} {f : α → Traced E ε β}
    (h : ∀ a, x.outcome ≠ .ok a) : (x >>= f).log = x.log := by
  cases hx : x.outcome with
  | ok a => exact absurd hx (h a)
  | err e => rw [Traced.bind_err hx]
  | panic => rw [Traced.bind_panic hx]

theorem log_bind_of_silent {x : Traced E ε α} {f : α → Traced E ε β} (h : ∀ a, (f a).log = []) :
    (x >>= f).log = x.log := by
  cases hx : x.outcome with
  | ok a => rw [Traced.bind_ok hx, h, List.append_nil]
  | err e => rw [Traced.bind_err hx]
  | panic => rw [Traced.bind_panic hx]

theorem log_ite {c : Prop} [Decidable c] {x y : Traced E ε α} :
    (if c then x else y).log = if c then x.log else y.log := by
  split <;> rfl

theorem log_call_bind {e : E} {a : α} {f : α → Traced E ε β} :
    (call e a >>= f).log = e :: (f a).log := rfl

@[simp] theorem log_map {x : Traced E ε α} {f : α → β} : (f <$> x).log = x.log := by
  rw [← bind_pure_comp]
  cases hx : x.outcome with
  | ok a => rw [Traced.bind_ok hx]; exact List.append_nil _
  | err e => rw [Traced.bind_err hx]
  | panic => rw [Traced.bind_panic hx]

@[simp] theorem log_pure {a : α} : (pure a : Traced E ε α).log = [] := rfl

@[simp] theorem log_call {e : E} {a : α} : (call e a : Traced E ε α).log = [e] := rfl

@[simp] theorem log_fail {e : ε} : (fail e : Traced E ε α).log = [] := rfl

@[simp] theorem log_ensure {c : Prop} [Decidable c] {e : ε} :
    (ensure c e : Traced E ε Unit).log = [] := by
  by_cases h : c <;> simp [ensure, h]

@[simp] theorem log_orFail {o : Option α} {e : ε} : (orFail o e : Traced E ε α).log = [] := by
  cases o <;> rfl

@[simp] theorem log_orAbort {o : Option α} : (orAbort o : Traced E ε α).log = [] := by
  cases o <;> rfl

@[simp] theorem log_ofExcept {r : Except ε α} : (ofExcept r : Traced E ε α).log = [] := by
  cases r <;> rfl

/-- Every call on record satisfies `R`. -/
def Emits (x : Traced E ε α) (R : E → Prop) : Prop := ∀ e ∈ x.log, R e

variable {R : E → Prop}

@[simp] theorem emits_bind {x : Traced E ε α} {f : α → Traced E ε β} :
    Emits (x >>= f) R ↔ Emits x R ∧ ∀ a, x.outcome = .ok a → Emits (f a) R := by
  cases h : x.outcome with
  | ok a =>
    rw [Emits, Traced.bind_ok h]
    simp only [List.forall_mem_append, Outcome.ok.injEq, forall_eq']
    rfl
  | err e =>
    rw [Emits, Traced.bind_err h]
    simp [Emits]
  | panic =>
    rw [Emits, Traced.bind_panic h]
    simp [Emits]

@[simp] theorem emits_call {e : E} {a : α} : Emits (call e a : Traced E ε α) R ↔ R e := by
  simp [Emits]

theorem emits_of_log_eq_nil {x : Traced E ε α} (h : x.log = []) : Emits x R := by
  simp [Emits, h]

@[simp] theorem emits_pure {a : α} : Emits (pure a : Traced E ε α) R :=
  emits_of_log_eq_nil log_pure

@[simp] theorem emits_fail {e : ε} : Emits (fail e : Traced E ε α) R :=
  emits_of_log_eq_nil log_fail

@[simp] theorem emits_ensure {c : Prop} [Decidable c] {e : ε} :
    Emits (ensure c e : Traced E ε Unit) R :=
  emits_of_log_eq_nil log_ensure

@[simp] theorem emits_orFail {o : Option α} {e : ε} : Emits (orFail o e : Traced E ε α) R :=
  emits_of_log_eq_nil log_orFail

@[simp] theorem emits_ofExcept {r : Except ε α} : Emits (ofExcept r : Traced E ε α) R :=
  emits_of_log_eq_nil log_ofExcept

@[simp] theorem emits_map {x : Traced E ε α} {f : α → β} : Emits (f <$> x) R ↔ Emits x R := by
  rw [Emits, log_map, Emits]

end Logs

section Moving

variable {x : Traced E ε α} {f : α → Traced E ε β} {e : E}

/-- A call whose answer is known can be made before what comes before it. -/
theorem outcome_bind_call : (x >>= fun a => call e () >>= fun _ => f a).outcome =
    (x >>= f).outcome :=
  bind_outcome_congr fun _ _ => rfl

theorem log_bind_call {b : β} (h : (x >>= f).outcome = .ok b) :
    (e :: (x >>= f).log).Perm (x >>= fun a => call e () >>= fun _ => f a).log := by
  obtain ⟨a, ha, -⟩ := bind_ok_iff.mp h
  rw [Traced.bind_ok ha, Traced.bind_ok ha]
  exact List.perm_middle.symm

end Moving

end EnvelopeLite.CallTrace
