import Mathlib.Data.List.Nodup
import Mathlib.Logic.Equiv.Defs

namespace EnvelopeLite.KeyedLists

variable {α κ : Type} {key : α → κ} {l m : List α}

def UniqueKeys (key : α → κ) (l : List α) : Prop := (l.map key).Nodup

theorem uniqueKeys_nil : UniqueKeys key [] := List.nodup_nil

theorem uniqueKeys_append : UniqueKeys key (l ++ m) ↔
    UniqueKeys key l ∧ UniqueKeys key m ∧ ∀ a ∈ l, ∀ b ∈ m, key a ≠ key b := by
  simp only [UniqueKeys, List.map_append, List.nodup_append, List.forall_mem_map]

theorem uniqueKeys_concat {a : α} : UniqueKeys key (l ++ [a]) ↔
    UniqueKeys key l ∧ ∀ b ∈ l, key b ≠ key a := by
  have hone : UniqueKeys key [a] := List.nodup_singleton (key a)
  rw [uniqueKeys_append]
  simp only [hone, true_and, List.mem_singleton, forall_eq]

theorem UniqueKeys.eq_of_mem {a b : α} (h : UniqueKeys key l) (ha : a ∈ l) (hb : b ∈ l)
    (hkey : key a = key b) : a = b :=
  List.inj_on_of_nodup_map h ha hb hkey

theorem find?_eq_some_of_mem [DecidableEq κ] {a : α} {k : κ} (h : UniqueKeys key l) (ha : a ∈ l)
    (hk : key a = k) : l.find? (fun b => key b == k) = some a := by
  induction l with
  | nil => cases ha
  | cons b l ih =>
    have hcons : key b ∉ l.map key ∧ UniqueKeys key l := List.nodup_cons.mp h
    obtain rfl | hl := List.mem_cons.mp ha
    · rw [List.find?_cons_of_pos (by simpa using hk)]
    · have hne : key b ≠ k := by
        rintro rfl
        exact hcons.1 (hk ▸ List.mem_map_of_mem hl)
      rw [List.find?_cons_of_neg (by simpa using hne)]
      exact ih hcons.2 hl

section Insertion

variable {σ β ε : Type} (items : σ ≃ List α) (encode : α → β) {step : σ → β → Except ε σ}

/-- A loop that decodes each item and adds it at the end, and stops at the first
key that is already there, succeeds exactly when all keys are different. -/
theorem foldlM_insert_ok_iff
    (hstep : ∀ s b s', step s b = .ok s' ↔
      ∃ a, encode a = b ∧ (∀ c ∈ items s, key c ≠ key a) ∧ items s' = items s ++ [a])
    (bs : List β) (s r : σ) (hs : UniqueKeys key (items s)) :
    bs.foldlM step s = .ok r ↔
      ∃ as, as.map encode = bs ∧ items r = items s ++ as ∧ UniqueKeys key (items r) := by
  induction bs generalizing s with
  | nil =>
    simp only [List.foldlM_nil, List.map_eq_nil_iff, exists_eq_left, List.append_nil]
    constructor
    · rintro ⟨⟩
      exact ⟨rfl, hs⟩
    · rintro ⟨hr, -⟩
      rw [items.injective hr]
      rfl
  | cons b bs ih =>
    rw [List.foldlM_cons]
    constructor
    · intro h
      cases hb : step s b with
      | error e => rw [hb] at h; cases h
      | ok s' =>
        rw [hb] at h
        obtain ⟨a, rfl, hfresh, hs'⟩ := (hstep s b s').mp hb
        have hunique : UniqueKeys key (items s') := by
          rw [hs']
          exact uniqueKeys_concat.mpr ⟨hs, hfresh⟩
        obtain ⟨as, rfl, hr, hur⟩ := (ih s' hunique).mp h
        refine ⟨a :: as, rfl, ?_, hur⟩
        rw [hr, hs', List.append_assoc, List.singleton_append]
    · rintro ⟨as, has, hr, hur⟩
      obtain ⟨a, as, rfl, rfl, rfl⟩ := List.map_eq_cons_iff.mp has
      have hsplit : items r = (items s ++ [a]) ++ as := by
        rw [hr, List.append_assoc, List.singleton_append]
      have hunique : UniqueKeys key (items s ++ [a]) := by
        rw [hsplit] at hur
        exact (uniqueKeys_append.mp hur).1
      have hitems : items (items.symm (items s ++ [a])) = items s ++ [a] :=
        items.apply_symm_apply _
      have hb : step s (encode a) = .ok (items.symm (items s ++ [a])) :=
        (hstep _ _ _).mpr ⟨a, rfl, (uniqueKeys_concat.mp hunique).2, hitems⟩
      rw [hb]
      refine (ih _ (by rwa [hitems])).mpr ⟨as, rfl, ?_, hur⟩
      rw [hitems, hsplit]

end Insertion

end EnvelopeLite.KeyedLists
