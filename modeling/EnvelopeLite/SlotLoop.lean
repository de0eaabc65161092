import Mathlib.Data.List.Basic
import Mathlib.Logic.Function.Basic

namespace EnvelopeLite.SlotLoop

variable {β κ ν ε : Type} [DecidableEq κ] (target : β → Option κ) (value : β → ν) (duplicate : ε)

/-- One turn of a loop that puts each item into the slot it belongs to. An item
without a slot is skipped, and a slot that is filled twice ends the loop. -/
def fill (found : κ → Option ν) (item : β) : Except ε (κ → Option ν) :=
  match target item with
  | none => .ok found
  | some k =>
    if (found k).isSome then .error duplicate
    else .ok (Function.update found k (some (value item)))

def valuesAt (k : κ) (items : List β) : List ν :=
  (items.filter (fun item => target item == some k)).map value

/-- All values that a slot has seen: the one it holds, and those still to come. -/
def seen (found : κ → Option ν) (items : List β) (k : κ) : List ν :=
  (found k).toList ++ valuesAt target value k items

variable {target value duplicate}

theorem seen_of_no_slot {found : κ → Option ν} {item : β} {items : List β}
    (h : target item = none) : seen target value found (item :: items) =
      seen target value found items := by
  funext k
  simp [seen, valuesAt, h]

theorem seen_update {found : κ → Option ν} {item : β} {items : List β} {k : κ}
    (h : target item = some k) (hk : found k = none) :
    seen target value (Function.update found k (some (value item))) items =
      seen target value found (item :: items) := by
  funext j
  by_cases hj : j = k
  · subst hj
    simp [seen, valuesAt, h, hk]
  · have hskip : ¬ (target item == some j) = true := by
      rw [h, beq_iff_eq, Option.some.injEq]
      exact fun he => hj he.symm
    have hfilter : (item :: items).filter (fun i => target i == some j) =
        items.filter (fun i => target i == some j) := List.filter_cons_of_neg hskip
    rw [seen, seen, valuesAt, valuesAt, Function.update_of_ne hj, hfilter]

theorem two_le_length_seen {found : κ → Option ν} {item : β} {items : List β} {k : κ}
    (h : target item = some k) (hk : (found k).isSome = true) :
    2 ≤ (seen target value found (item :: items) k).length := by
  obtain ⟨v, hv⟩ := Option.isSome_iff_exists.mp hk
  simp [seen, valuesAt, h, hv]

theorem foldlM_fill_ok {found : κ → Option ν} {items : List β}
    (h : ∀ k, (seen target value found items k).length ≤ 1) :
    items.foldlM (fill target value duplicate) found =
      .ok (fun k => (seen target value found items k).head?) := by
  induction items generalizing found with
  | nil =>
    have hfound : (fun k => (seen target value found [] k).head?) = found := by
      funext k
      cases hk : found k <;> simp [seen, valuesAt, hk]
    rw [hfound]
    rfl
  | cons item items ih =>
    cases ht : target item with
    | none =>
      rw [seen_of_no_slot ht] at h ⊢
      rw [List.foldlM_cons, fill, ht]
      exact ih h
    | some k =>
      cases hk : found k with
      | some v =>
        have hsome : (found k).isSome = true := by rw [hk]; rfl
        have htwo : 2 ≤ (seen target value found (item :: items) k).length :=
          two_le_length_seen ht hsome
        have hone := h k
        omega
      | none =>
        rw [List.foldlM_cons, fill, ht]
        simp only [hk, Option.isSome_none, Bool.false_eq_true, if_false]
        rw [← seen_update ht hk] at h ⊢
        exact ih h

theorem foldlM_fill_error {found : κ → Option ν} {items : List β} {k : κ}
    (h : 2 ≤ (seen target value found items k).length) :
    items.foldlM (fill target value duplicate) found = .error duplicate := by
  induction items generalizing found with
  | nil =>
    cases hk : found k <;> simp [seen, valuesAt, hk] at h
  | cons item items ih =>
    rw [List.foldlM_cons, fill]
    cases ht : target item with
    | none =>
      rw [seen_of_no_slot ht] at h
      exact ih h
    | some j =>
      cases hj : found j with
      | some v =>
        simp only [hj, Option.isSome_some, if_true]
        rfl
      | none =>
        simp only [hj, Option.isSome_none, Bool.false_eq_true, if_false]
        rw [← seen_update ht hj] at h
        exact ih h

end EnvelopeLite.SlotLoop
