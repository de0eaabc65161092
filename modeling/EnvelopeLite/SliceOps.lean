import EnvelopeLite.CallTrace
import EnvelopeLite.ByteFields

namespace EnvelopeLite.SliceOps

open EnvelopeLite.CallTrace EnvelopeLite.ByteFields

variable {E ε : Type}

def index (b : Bytes) (i : Nat) : Traced E ε UInt8 :=
  match b[i]? with
  | some x => pure x
  | none => abort

/-- `split_at` and `split_off`: both panic past the end. -/
def splitAt (b : Bytes) (i : Nat) : Traced E ε (Bytes × Bytes) :=
  if i ≤ b.length then pure (b.take i, b.drop i) else abort

def sliceFrom (b : Bytes) (i : Nat) : Traced E ε Bytes :=
  if i ≤ b.length then pure (b.drop i) else abort

def arrayTryFrom (n : Nat) (b : Bytes) : Option (FixedBytes n) :=
  if h : b.length = n then some ⟨b, h⟩ else none

def checkedSub (a b : Nat) : Traced E ε Nat := if b ≤ a then pure (a - b) else abort

def boundedAdd (M a b : Nat) : Traced E ε Nat := if a + b ≤ M then pure (a + b) else abort

/-- `copy_from_slice` into an array of `n` bytes, which panics on any other length. -/
def copyFromSlice (n : Nat) (b : Bytes) : Traced E ε (FixedBytes n) :=
  if h : b.length = n then pure ⟨b, h⟩ else abort

section InBounds

theorem splitAt_of_le {b : Bytes} {i : Nat} (h : i ≤ b.length) :
    (splitAt b i : Traced E ε (Bytes × Bytes)) = pure (b.take i, b.drop i) := if_pos h

theorem sliceFrom_of_le {b : Bytes} {i : Nat} (h : i ≤ b.length) :
    (sliceFrom b i : Traced E ε Bytes) = pure (b.drop i) := if_pos h

theorem checkedSub_of_le {a b : Nat} (h : b ≤ a) :
    (checkedSub a b : Traced E ε Nat) = pure (a - b) := if_pos h

end InBounds

theorem arrayTryFrom_eq_some_iff {n : Nat} {b : Bytes} {r : FixedBytes n} :
    arrayTryFrom n b = some r ↔ b = r.1 := by
  by_cases h : b.length = n
  · rw [arrayTryFrom, dif_pos h, Option.some.injEq, Subtype.ext_iff]
  · rw [arrayTryFrom, dif_neg h]
    refine ⟨nofun, ?_⟩
    rintro rfl
    exact absurd r.2 h

theorem arrayTryFrom_eq_none_iff {n : Nat} {b : Bytes} :
    arrayTryFrom n b = none ↔ b.length ≠ n := by
  by_cases h : b.length = n
  · simp [arrayTryFrom, h]
  · simp [arrayTryFrom, h]

section Outcomes

@[simp] theorem abort_ok_iff {α : Type} {a : α} :
    (abort : Traced E ε α).outcome = .ok a ↔ False := by
  simp [abort]

@[simp] theorem index_ok_iff {b : Bytes} {i : Nat} {x : UInt8} :
    (index b i : Traced E ε UInt8).outcome = .ok x ↔ b[i]? = some x := by
  unfold index
  cases b[i]? <;> simp

@[simp] theorem splitAt_ok_iff {b : Bytes} {i : Nat} {r : Bytes × Bytes} :
    (splitAt b i : Traced E ε (Bytes × Bytes)).outcome = .ok r ↔
      i ≤ b.length ∧ (b.take i, b.drop i) = r := by
  by_cases h : i ≤ b.length <;> simp [splitAt, h]

@[simp] theorem checkedSub_ok_iff {a b c : Nat} :
    (checkedSub a b : Traced E ε Nat).outcome = .ok c ↔ b ≤ a ∧ a - b = c := by
  by_cases h : b ≤ a <;> simp [checkedSub, h]

@[simp] theorem boundedAdd_ok_iff {M a b c : Nat} :
    (boundedAdd M a b : Traced E ε Nat).outcome = .ok c ↔ a + b ≤ M ∧ a + b = c := by
  by_cases h : a + b ≤ M <;> simp [boundedAdd, h]

@[simp] theorem copyFromSlice_ok_iff {n : Nat} {b : Bytes} {r : FixedBytes n} :
    (copyFromSlice n b : Traced E ε (FixedBytes n)).outcome = .ok r ↔ b = r.1 := by
  by_cases h : b.length = n
  · simp [copyFromSlice, h, Subtype.ext_iff]
  · simp only [copyFromSlice, h, dite_false, abort_ok_iff, false_iff]
    rintro rfl
    exact h r.2

end Outcomes

section Endings

variable {S : ε → Prop}

@[simp] theorem ends_abort {α : Type} {Q : α → Prop} :
    Ends (abort : Traced E ε α) Q S ↔ False := Iff.rfl

@[simp] theorem ends_index {b : Bytes} {i : Nat} {Q : UInt8 → Prop} :
    Ends (index b i : Traced E ε UInt8) Q S ↔ ∃ x, b[i]? = some x ∧ Q x := by
  unfold index
  cases b[i]? <;> simp

@[simp] theorem ends_splitAt {b : Bytes} {i : Nat} {Q : Bytes × Bytes → Prop} :
    Ends (splitAt b i : Traced E ε (Bytes × Bytes)) Q S ↔
      i ≤ b.length ∧ Q (b.take i, b.drop i) := by
  by_cases h : i ≤ b.length <;> simp [splitAt, h]

@[simp] theorem ends_checkedSub {a b : Nat} {Q : Nat → Prop} :
    Ends (checkedSub a b : Traced E ε Nat) Q S ↔ b ≤ a ∧ Q (a - b) := by
  by_cases h : b ≤ a <;> simp [checkedSub, h]

@[simp] theorem ends_boundedAdd {M a b : Nat} {Q : Nat → Prop} :
    Ends (boundedAdd M a b : Traced E ε Nat) Q S ↔ a + b ≤ M ∧ Q (a + b) := by
  by_cases h : a + b ≤ M <;> simp [boundedAdd, h]

@[simp] theorem ends_copyFromSlice {n : Nat} {b : Bytes} {Q : FixedBytes n → Prop} :
    Ends (copyFromSlice n b : Traced E ε (FixedBytes n)) Q S ↔ ∃ h : b.length = n, Q ⟨b, h⟩ := by
  by_cases h : b.length = n <;> simp [copyFromSlice, h]

end Endings

section Logs

@[simp] theorem log_abort {α : Type} : (abort : Traced E ε α).log = [] := rfl

@[simp] theorem log_index {b : Bytes} {i : Nat} : (index b i : Traced E ε UInt8).log = [] := by
  unfold index
  cases b[i]? <;> rfl

@[simp] theorem log_splitAt {b : Bytes} {i : Nat} :
    (splitAt b i : Traced E ε (Bytes × Bytes)).log = [] := by
  by_cases h : i ≤ b.length <;> simp [splitAt, h]

@[simp] theorem log_checkedSub {a b : Nat} : (checkedSub a b : Traced E ε Nat).log = [] := by
  by_cases h : b ≤ a <;> simp [checkedSub, h]

@[simp] theorem log_boundedAdd {M a b : Nat} : (boundedAdd M a b : Traced E ε Nat).log = [] := by
  by_cases h : a + b ≤ M <;> simp [boundedAdd, h]

@[simp] theorem log_copyFromSlice {n : Nat} {b : Bytes} :
    (copyFromSlice n b : Traced E ε (FixedBytes n)).log = [] := by
  by_cases h : b.length = n <;> simp [copyFromSlice, h]

end Logs

end EnvelopeLite.SliceOps
