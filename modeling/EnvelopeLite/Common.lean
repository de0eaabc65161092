import EnvelopeLite.ByteFields
import EnvelopeLite.CheckedArith
import Mathlib.Data.List.Forall2

namespace EnvelopeLite.Common

/-- The compilation target. The crate's default limit of 16 MiB is a `usize`
constant, so it only compiles where `usize` has more than 24 bits. -/
structure Target where
  usizeBits : Nat
  wide : 24 < usizeBits

def Target.usizeMax (T : Target) : Nat := 2 ^ T.usizeBits - 1

theorem Target.le_usizeMax (T : Target) : 2 ^ 25 - 1 ≤ T.usizeMax := by
  have h : 2 ^ 25 ≤ 2 ^ T.usizeBits := Nat.pow_le_pow_right (by omega) T.wide
  unfold Target.usizeMax
  omega

/-- The largest size of an allocation. -/
def Target.isizeMax (T : Target) : Nat := 2 ^ (T.usizeBits - 1) - 1

theorem Target.usizeMax_eq (T : Target) : T.usizeMax = 2 * T.isizeMax + 1 := by
  have hbits : T.usizeBits = T.usizeBits - 1 + 1 := by
    have hw := T.wide
    omega
  have hpow : 2 ^ T.usizeBits = 2 * 2 ^ (T.usizeBits - 1) := by
    rw [hbits, Nat.pow_succ, Nat.mul_comm, Nat.add_sub_cancel]
  have hpos : 0 < 2 ^ (T.usizeBits - 1) := Nat.two_pow_pos _
  rw [usizeMax, isizeMax, hpow]
  omega

theorem Target.add_le_usizeMax (T : Target) {n k : Nat} (hn : n ≤ T.isizeMax) (hk : k ≤ 2 ^ 24) :
    n + k ≤ T.usizeMax := by
  have hmin := T.le_usizeMax
  have hmax := T.usizeMax_eq
  omega

inductive Error
  | configuration (field : String)
  | messageTooLarge (limit : Nat)
  | serialization
  | encryption
  | authenticationContext
  | invalidHeader
  | headerConflict
  | protocolAdapter
  | invalidEnvelope
  deriving DecidableEq, Repr

inductive AdapterErrorKind
  | invalidMapping
  | missingField
  | duplicateField
  | invalidField
  deriving DecidableEq, Repr

structure AdapterError where
  kind : AdapterErrorKind
  deriving DecidableEq, Repr

abbrev AdapterResult (α : Type) := Except AdapterError α

def okOr {ε α : Type} : Option α → ε → Except ε α
  | some a, _ => .ok a
  | none, e => .error e

@[simp] theorem okOr_ok_iff {ε α : Type} {o : Option α} {e : ε} {a : α} :
    okOr o e = .ok a ↔ o = some a := by
  cases o <;> simp [okOr]

@[simp] theorem mapError_ok_iff {ε ε' α : Type} {f : ε → ε'} {r : Except ε α} {a : α} :
    r.mapError f = .ok a ↔ r = .ok a := by
  cases r <;> simp [Except.mapError]

theorem ok_bind {ε α β : Type} (a : α) (f : α → Except ε β) : Except.ok a >>= f = f a := rfl

theorem error_bind {ε α β : Type} (e : ε) (f : α → Except ε β) :
    Except.error e >>= f = .error e := rfl

theorem bind_eq_ok_iff {ε α β : Type} {x : Except ε α} {f : α → Except ε β} {b : β} :
    x >>= f = .ok b ↔ ∃ a, x = .ok a ∧ f a = .ok b := by
  cases x <;> simp [Bind.bind, Except.bind]

theorem bind_eq_error_iff {ε α β : Type} {x : Except ε α} {f : α → Except ε β} {e : ε} :
    x >>= f = .error e ↔ x = .error e ∨ ∃ a, x = .ok a ∧ f a = .error e := by
  cases x <;> simp [Bind.bind, Except.bind]

theorem ite_error_ok_iff {ε α : Type} {c : Prop} [Decidable c] {e : ε} {x : Except ε α} {a : α} :
    (if c then .error e else x) = .ok a ↔ ¬ c ∧ x = .ok a := by
  by_cases h : c <;> simp [h]

/-- A result with one possible error fails exactly when it has no value. -/
theorem eq_error_iff_of_unique {ε α : Type} {r : Except ε α} {x e : ε} {A : Prop}
    (hok : (∃ a, r = .ok a) ↔ A) (hunique : ∀ e, r = .error e → e = x) :
    r = .error e ↔ e = x ∧ ¬ A := by
  rw [← hok]
  cases r with
  | ok a => simp
  | error d =>
    obtain rfl := hunique d rfl
    simp [eq_comm]

section OneError

variable {ε α β : Type} {d : ε}

theorem okOr_unique {o : Option α} : ∀ e, okOr o d = .error e → e = d := by
  cases o with
  | none => exact fun e h => (Except.error.inj h).symm
  | some a => nofun

theorem mapError_unique {ε' : Type} {r : Except ε' α} :
    ∀ e, r.mapError (fun _ => d) = .error e → e = d := by
  cases r with
  | error e' => exact fun e h => (Except.error.inj h).symm
  | ok a => nofun

theorem ite_unique {c : Prop} [Decidable c] {x : Except ε α} (hx : ∀ e, x = .error e → e = d) :
    ∀ e, (if c then .error d else x) = .error e → e = d := by
  by_cases h : c
  · simp [h, eq_comm]
  · simpa [h] using hx

theorem bind_unique {x : Except ε α} {f : α → Except ε β} (hx : ∀ e, x = .error e → e = d)
    (hf : ∀ a e, f a = .error e → e = d) : ∀ e, x >>= f = .error e → e = d := by
  intro e h
  obtain h | ⟨a, -, h⟩ := bind_eq_error_iff.mp h
  · exact hx e h
  · exact hf a e h

end OneError

/-- A loop that fails has failed at one of its items, after the ones before it. -/
theorem exists_error_of_foldlM {ε σ β : Type} {f : σ → β → Except ε σ} {l : List β} {s : σ} {e : ε}
    (h : l.foldlM f s = .error e) :
    ∃ before b after s', l = before ++ b :: after ∧ before.foldlM f s = .ok s' ∧
      f s' b = .error e := by
  induction l generalizing s with
  | nil => cases h
  | cons b l ih =>
    rw [List.foldlM_cons, bind_eq_error_iff] at h
    obtain h | ⟨s', hs', h⟩ := h
    · exact ⟨[], b, l, s, rfl, rfl, h⟩
    · obtain ⟨before, b', after, r, rfl, hr, herror⟩ := ih h
      refine ⟨b :: before, b', after, r, rfl, ?_, herror⟩
      rw [List.foldlM_cons, hs', ok_bind, hr]

theorem map_eq_ok_iff {ε α β : Type} {f : α → β} {x : Except ε α} {b : β} :
    x.map f = .ok b ↔ ∃ a, x = .ok a ∧ f a = b := by
  cases x <;> simp [Except.map]

theorem map_injective {ε α β : Type} {f : α → β} (hf : Function.Injective f) :
    Function.Injective (Except.map f : Except ε α → Except ε β) := by
  intro x y h
  cases x with
  | error e =>
    cases y with
    | error e' => exact congrArg Except.error (Except.error.inj h)
    | ok b => cases h
  | ok a =>
    cases y with
    | error e' => cases h
    | ok b => rw [hf (Except.ok.inj h)]

theorem mapM_ok_iff {ε α β : Type} {f : α → Except ε β} {l : List α} {r : List β} :
    l.mapM f = .ok r ↔ List.Forall₂ (fun a b => f a = .ok b) l r := by
  induction l generalizing r with
  | nil =>
    rw [List.mapM_nil, List.forall₂_nil_left_iff, eq_comm]
    exact Except.ok.injEq r [] ▸ Iff.rfl
  | cons a l ih =>
    simp only [List.mapM_cons, bind_eq_ok_iff, ih, List.forall₂_cons_left_iff]
    constructor
    · rintro ⟨b, hb, bs, hbs, ⟨⟩⟩
      exact ⟨b, bs, hb, hbs, rfl⟩
    · rintro ⟨b, bs, hb, hbs, rfl⟩
      exact ⟨b, hb, bs, hbs, rfl⟩

theorem exists_ok_of_mem_mapM {ε α β : Type} {f : α → Except ε β} {l : List α} {r : List β}
    (h : l.mapM f = .ok r) {b : β} (hb : b ∈ r) : ∃ a ∈ l, f a = .ok b := by
  have hall := mapM_ok_iff.mp h
  clear h
  induction hall with
  | nil => cases hb
  | cons hab _ ih =>
    obtain rfl | hb := List.mem_cons.mp hb
    · exact ⟨_, List.mem_cons_self, hab⟩
    · obtain ⟨a, ha, hf⟩ := ih hb
      exact ⟨a, List.mem_cons_of_mem _ ha, hf⟩

def u64TryFrom (n : Nat) : Option Nat := if n < 2 ^ 64 then some n else none

@[simp] theorem u64TryFrom_eq_some_iff {n m : Nat} :
    u64TryFrom n = some m ↔ n < 2 ^ 64 ∧ n = m := by
  simp [u64TryFrom]

end EnvelopeLite.Common
