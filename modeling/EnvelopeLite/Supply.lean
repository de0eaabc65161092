import EnvelopeLite.CallTrace
import Mathlib.Data.List.Nodup

namespace EnvelopeLite.Supply

open EnvelopeLite.CallTrace

variable {E ε α β : Type}

/-- A computation that takes from a supply. It is given the place where the supply
stands, and it leaves the supply at another place on every way out. -/
@[ext] structure Drawing (E ε α : Type) where
  run : Nat → Traced E ε α × Nat

namespace Drawing

def traced (x : Drawing E ε α) (place : Nat) : Traced E ε α := (x.run place).1

def next (x : Drawing E ε α) (place : Nat) : Nat := (x.run place).2

def bind (x : Drawing E ε α) (f : α → Drawing E ε β) : Drawing E ε β where
  run place :=
    (x.traced place >>= fun a => (f a).traced (x.next place),
      match (x.traced place).outcome with
      | .ok a => (f a).next (x.next place)
      | _ => x.next place)

end Drawing

instance : Monad (Drawing E ε) where
  pure a := ⟨fun place => (pure a, place)⟩
  bind := Drawing.bind

def lift (x : Traced E ε α) : Drawing E ε α := ⟨fun place => (x, place)⟩

/-- A computation that is given its answers by the place where the supply stands, and
that takes one answer with each call of a kind. -/
def draws (uses : E → Bool) (f : Nat → Traced E ε α) : Drawing E ε α :=
  ⟨fun place => (f place, place + (f place).log.countP uses)⟩

namespace Drawing

@[simp] theorem traced_pure (a : α) (place : Nat) :
    (pure a : Drawing E ε α).traced place = pure a := rfl

@[simp] theorem next_pure (a : α) (place : Nat) :
    (pure a : Drawing E ε α).next place = place := rfl

theorem traced_bind (x : Drawing E ε α) (f : α → Drawing E ε β) (place : Nat) :
    (x >>= f).traced place = x.traced place >>= fun a => (f a).traced (x.next place) := rfl

theorem next_bind_ok {x : Drawing E ε α} {place : Nat} {a : α}
    (h : (x.traced place).outcome = .ok a) (f : α → Drawing E ε β) :
    (x >>= f).next place = (f a).next (x.next place) := by
  change (Drawing.bind x f).next place = _
  simp only [Drawing.bind, Drawing.next, h]

theorem next_bind_of_not_ok {x : Drawing E ε α} {place : Nat}
    (h : ∀ a, (x.traced place).outcome ≠ .ok a) (f : α → Drawing E ε β) :
    (x >>= f).next place = x.next place := by
  change (Drawing.bind x f).next place = _
  cases hx : (x.traced place).outcome with
  | ok a => exact absurd hx (h a)
  | err e => simp only [Drawing.bind, Drawing.next, hx]
  | panic => simp only [Drawing.bind, Drawing.next, hx]

/-- Computations are equal if they do the same from every place. -/
theorem ext_of_traced_next {x y : Drawing E ε α} (ht : ∀ place, x.traced place = y.traced place)
    (hn : ∀ place, x.next place = y.next place) : x = y := by
  apply Drawing.ext
  funext place
  exact Prod.ext (ht place) (hn place)

theorem bind_unit (x : Drawing E ε α) : x >>= pure = x := by
  apply ext_of_traced_next <;> intro place
  · rw [traced_bind]
    simp only [traced_pure, bind_pure]
  · by_cases hx : ∃ a, (x.traced place).outcome = .ok a
    · obtain ⟨a, ha⟩ := hx
      rw [next_bind_ok ha, next_pure]
    · rw [next_bind_of_not_ok (not_exists.mp hx)]

theorem bind_assoc {γ : Type} (x : Drawing E ε α) (f : α → Drawing E ε β)
    (g : β → Drawing E ε γ) : x >>= f >>= g = x >>= fun a => f a >>= g := by
  apply ext_of_traced_next <;> intro place
  · rw [traced_bind, traced_bind, traced_bind, Traced.bind_assoc]
    apply Traced.bind_congr
    intro a ha
    rw [traced_bind, next_bind_ok ha]
  · by_cases hx : ∃ a, (x.traced place).outcome = .ok a
    · obtain ⟨a, ha⟩ := hx
      rw [next_bind_ok ha]
      by_cases hf : ∃ b, ((f a).traced (x.next place)).outcome = .ok b
      · obtain ⟨b, hb⟩ := hf
        rw [next_bind_ok hb, next_bind_ok (bind_ok_iff.mpr ⟨a, ha, hb⟩), next_bind_ok ha]
      · have hxf : ∀ b, ((x >>= f).traced place).outcome ≠ .ok b := by
          intro b h
          obtain ⟨a', ha', hb⟩ := bind_ok_iff.mp h
          cases ha.symm.trans ha'
          exact hf ⟨b, hb⟩
        rw [next_bind_of_not_ok hxf, next_bind_ok ha,
          next_bind_of_not_ok (not_exists.mp hf)]
    · have hnot := not_exists.mp hx
      have hxf : ∀ b, ((x >>= f).traced place).outcome ≠ .ok b := by
        intro b h
        obtain ⟨a, ha, -⟩ := bind_ok_iff.mp h
        exact hnot a ha
      rw [next_bind_of_not_ok hxf, next_bind_of_not_ok hnot, next_bind_of_not_ok hnot]

end Drawing

instance : LawfulMonad (Drawing E ε) := LawfulMonad.mk' _
  (fun x => Drawing.bind_unit x)
  (by intros; rfl)
  Drawing.bind_assoc

namespace Drawing

@[simp] theorem traced_map (f : α → β) (x : Drawing E ε α) (place : Nat) :
    (f <$> x).traced place = f <$> x.traced place := rfl

@[simp] theorem next_map (f : α → β) (x : Drawing E ε α) (place : Nat) :
    (f <$> x).next place = x.next place := by
  by_cases hx : ∃ a, (x.traced place).outcome = .ok a
  · obtain ⟨a, ha⟩ := hx
    exact next_bind_ok ha _
  · exact next_bind_of_not_ok (not_exists.mp hx) _

end Drawing

theorem lift_pure (a : α) : lift (pure a : Traced E ε α) = pure a := rfl

section Silence

variable {uses : E → Bool} {x : Traced E ε α}

theorem filter_log_of_silent (hx : Emits x (uses · = false)) : x.log.filter uses = [] := by
  rw [List.filter_eq_nil_iff]
  intro e he
  simp [hx e he]

theorem countP_log_of_silent (hx : Emits x (uses · = false)) : x.log.countP uses = 0 := by
  rw [List.countP_eq_length_filter, filter_log_of_silent hx, List.length_nil]

end Silence

section Following

variable (uses : E → Bool)

/-- From a place on, the computation does what `y` does, and it takes from the supply
as often as `y` has it on record. -/
structure Follows (x : Drawing E ε α) (place : Nat) (y : Traced E ε α) : Prop where
  traced_eq : x.traced place = y
  next_eq : x.next place = place + y.log.countP uses

variable {uses}

theorem follows_draws (f : Nat → Traced E ε α) (place : Nat) :
    Follows uses (draws uses f) place (f place) :=
  ⟨rfl, rfl⟩

theorem follows_lift {x : Traced E ε α} (h : Emits x (uses · = false)) (place : Nat) :
    Follows uses (lift x) place x := by
  refine ⟨rfl, ?_⟩
  rw [countP_log_of_silent h]
  rfl

theorem follows_bind {x : Drawing E ε α} {y : Traced E ε α} {f : α → Drawing E ε β}
    {g : α → Traced E ε β} {place : Nat} (hx : Follows uses x place y)
    (hf : ∀ a, y.outcome = .ok a → Follows uses (f a) (place + y.log.countP uses) (g a)) :
    Follows uses (x >>= f) place (y >>= g) := by
  obtain ⟨rfl, hnext⟩ := hx
  cases hx : (x.traced place).outcome with
  | ok a =>
    obtain ⟨ht, hn⟩ := hf a hx
    rw [← hnext] at ht hn
    refine ⟨?_, ?_⟩
    · rw [Drawing.traced_bind, Traced.bind_ok hx, Traced.bind_ok hx, ht]
    · rw [Drawing.next_bind_ok hx, hn, hnext, Traced.bind_ok hx, List.countP_append, Nat.add_assoc]
  | err e =>
    refine ⟨?_, ?_⟩
    · rw [Drawing.traced_bind, Traced.bind_err hx, Traced.bind_err hx]
    · rw [Drawing.next_bind_of_not_ok (by simp [hx]), hnext, Traced.bind_err hx]
  | panic =>
    refine ⟨?_, ?_⟩
    · rw [Drawing.traced_bind, Traced.bind_panic hx, Traced.bind_panic hx]
    · rw [Drawing.next_bind_of_not_ok (by simp [hx]), hnext, Traced.bind_panic hx]

theorem follows_map {x : Drawing E ε α} {y : Traced E ε α} {place : Nat} (f : α → β)
    (h : Follows uses x place y) : Follows uses (f <$> x) place (f <$> y) := by
  refine ⟨?_, ?_⟩
  · rw [Drawing.traced_map, h.traced_eq]
  · rw [Drawing.next_map, h.next_eq, log_map]

theorem follows_lift_bind {y : Traced E ε α} {f : α → Drawing E ε β} {g : α → Traced E ε β}
    {place : Nat} (hy : Emits y (uses · = false))
    (hf : ∀ a, y.outcome = .ok a → Follows uses (f a) place (g a)) :
    Follows uses (lift y >>= f) place (y >>= g) := by
  refine follows_bind (follows_lift hy place) fun a ha => ?_
  rw [countP_log_of_silent hy]
  exact hf a ha

end Following

section Order

variable {uses : E → Bool} {x : Traced E ε α} {f : α → Traced E ε β} {l : List E}

theorem filter_log_bind_silent (hf : ∀ a, Emits (f a) (uses · = false)) :
    (x >>= f).log.filter uses = x.log.filter uses := by
  cases hx : x.outcome with
  | ok a => rw [Traced.bind_ok hx, List.filter_append, filter_log_of_silent (hf a), List.append_nil]
  | err e => rw [Traced.bind_err hx]
  | panic => rw [Traced.bind_panic hx]

theorem prefix_silent_bind (hx : Emits x (uses · = false))
    (hf : ∀ a, x.outcome = .ok a → (f a).log.filter uses <+: l) :
    (x >>= f).log.filter uses <+: l := by
  cases h : x.outcome with
  | ok a =>
    rw [Traced.bind_ok h, List.filter_append, filter_log_of_silent hx, List.nil_append]
    exact hf a h
  | err e =>
    rw [Traced.bind_err h, filter_log_of_silent hx]
    exact List.nil_prefix
  | panic =>
    rw [Traced.bind_panic h, filter_log_of_silent hx]
    exact List.nil_prefix

theorem prefix_call_bind {e : E} {a : α} (he : uses e = true)
    (hf : (f a).log.filter uses <+: l) : (call e a >>= f).log.filter uses <+: e :: l := by
  rw [log_call_bind, List.filter_cons_of_pos he]
  exact (List.prefix_cons_inj e).mpr hf

end Order

section Taken

variable {value : Nat → Option α} {first middle last : Nat} {l m : List α}

/-- The values stand in the supply at places from `first` on and before `last`, in the
order of the list. -/
def Taken (value : Nat → Option α) (first last : Nat) (l : List α) : Prop :=
  ∃ places : List Nat, places.Pairwise (· < ·) ∧
    (∀ place ∈ places, first ≤ place ∧ place < last) ∧ places.map value = l.map some

theorem taken_nil : Taken value first last [] := ⟨[], by simp⟩

theorem taken_singleton {a : α} (h : value first = some a) (hlt : first < last) :
    Taken value first last [a] :=
  ⟨[first], by simp [h, hlt]⟩

theorem taken_toList (place : Nat) : Taken value place (place + 1) (value place).toList := by
  cases h : value place with
  | none => exact taken_nil
  | some a => exact taken_singleton h (Nat.lt_succ_self place)

theorem Taken.append (hl : Taken value first middle l) (hm : Taken value middle last m)
    (hle : first ≤ middle) (hle' : middle ≤ last) : Taken value first last (l ++ m) := by
  obtain ⟨places, hsorted, hrange, hvalues⟩ := hl
  obtain ⟨places', hsorted', hrange', hvalues'⟩ := hm
  refine ⟨places ++ places', ?_, ?_, ?_⟩
  · refine List.pairwise_append.mpr ⟨hsorted, hsorted', fun i hi j hj => ?_⟩
    exact Nat.lt_of_lt_of_le (hrange i hi).2 (hrange' j hj).1
  · intro place hplace
    obtain h | h := List.mem_append.mp hplace
    · exact ⟨(hrange place h).1, Nat.lt_of_lt_of_le (hrange place h).2 hle'⟩
    · exact ⟨Nat.le_trans hle (hrange' place h).1, (hrange' place h).2⟩
  · rw [List.map_append, List.map_append, hvalues, hvalues']

theorem Taken.exists_place {a : α} (h : Taken value first last l) (ha : a ∈ l) :
    ∃ place < last, value place = some a := by
  obtain ⟨places, -, hrange, hvalues⟩ := h
  have hmem : some a ∈ places.map value := by
    rw [hvalues]
    exact List.mem_map_of_mem ha
  obtain ⟨place, hplace, hvalue⟩ := List.mem_map.mp hmem
  exact ⟨place, (hrange place hplace).2, hvalue⟩

theorem Taken.nodup (h : Taken value first last l)
    (hvalue : ∀ i < last, ∀ j < last, ∀ a, value i = some a → value j = some a → i = j) :
    l.Nodup := by
  obtain ⟨places, hsorted, hrange, hvalues⟩ := h
  have hsome : (l.map some).Nodup := by
    rw [← hvalues]
    refine List.pairwise_map.mpr (hsorted.imp_of_mem fun {i j} hi hj hlt heq => ?_)
    obtain ⟨a, -, ha⟩ := List.mem_map.mp (hvalues ▸ List.mem_map_of_mem hi)
    exact absurd (hvalue i (hrange i hi).2 j (hrange j hj).2 a ha.symm (heq ▸ ha.symm))
      (Nat.ne_of_lt hlt)
  exact List.Nodup.of_map some hsome

end Taken

end EnvelopeLite.Supply
