import Mathlib.Data.List.Induction

namespace EnvelopeLite.InPlace

variable {σ ε α β ι : Type}

/-- A method on a mutable receiver that may fail. The state after a failure is kept, so
that a half-made change would be seen. -/
def Update (σ ε α : Type) := σ → Except ε α × σ

def Update.bind (x : Update σ ε α) (f : α → Update σ ε β) : Update σ ε β := fun s =>
  match x s with
  | (.ok a, s') => f a s'
  | (.error e, s') => (.error e, s')

instance : Monad (Update σ ε) where
  pure a := fun s => (.ok a, s)
  bind := Update.bind

def receiver : Update σ ε σ := fun s => (.ok s, s)

def assign (s : σ) : Update σ ε Unit := fun _ => (.ok (), s)

def check (r : Except ε α) : Update σ ε α := fun s => (r, s)

/-- The update that stores a next state if there is one, and nothing otherwise. -/
def commit (r : Except ε σ) (s : σ) : Except ε Unit × σ :=
  match r with
  | .ok s' => (.ok (), s')
  | .error e => (.error e, s)

theorem receiver_bind (f : σ → Update σ ε α) (s : σ) : (receiver >>= f) s = f s s := rfl

theorem check_bind_ok (a : α) (f : α → Update σ ε β) (s : σ) :
    (check (.ok a) >>= f) s = f a s := rfl

theorem commit_ok_iff {r : Except ε σ} {s s' : σ} :
    commit r s = (.ok (), s') ↔ r = .ok s' := by
  cases r <;> simp [commit]

theorem commit_fst_error_iff {r : Except ε σ} {s : σ} {e : ε} :
    (commit r s).1 = .error e ↔ r = .error e := by
  cases r <;> simp [commit]

theorem commit_snd_of_error {r : Except ε σ} {s s' : σ} {e : ε}
    (h : commit r s = (.error e, s')) : s' = s := by
  cases r <;> simp_all [commit]

section Runs

variable (step : ι → Update σ ε Unit)

def runAll (ops : List ι) (s : σ) : σ := ops.foldl (fun s op => (step op s).2) s

theorem runAll_invariant {step : ι → Update σ ε Unit} {I : σ → Prop}
    (hstep : ∀ op s, I s → I (step op s).2) {ops : List ι} {s : σ} (hs : I s) :
    I (runAll step ops s) := by
  induction ops generalizing s with
  | nil => exact hs
  | cons op ops ih => exact ih (hstep op s hs)

end Runs

section Setters

variable {apply : σ → ι → σ}

/-- A field that calls overwrite holds what the last of them gave. -/
theorem foldl_overwrite (get : σ → Option α) {given : ι → Option α}
    (hstep : ∀ s call, get (apply s call) = (given call).or (get s)) (calls : List ι) (s : σ) :
    get (calls.foldl apply s) = (calls.filterMap given).getLast?.or (get s) := by
  induction calls using List.reverseRecOn with
  | nil => rfl
  | append_singleton calls call ih =>
    rw [List.foldl_append, List.foldl_cons, List.foldl_nil, hstep, ih, List.filterMap_append,
      List.getLast?_append]
    cases hc : given call <;> simp [hc]

/-- A list that calls push to holds what all of them gave, in their order. -/
theorem foldl_push (get : σ → List α) {given : ι → Option α}
    (hstep : ∀ s call, get (apply s call) = get s ++ (given call).toList) (calls : List ι) (s : σ) :
    get (calls.foldl apply s) = get s ++ calls.filterMap given := by
  induction calls using List.reverseRecOn with
  | nil => exact (List.append_nil _).symm
  | append_singleton calls call ih =>
    rw [List.foldl_append, List.foldl_cons, List.foldl_nil, hstep, ih, List.filterMap_append,
      List.append_assoc]
    cases hc : given call <;> simp [hc]

theorem foldl_raise (get : σ → Bool) {raises : ι → Bool}
    (hstep : ∀ s call, get (apply s call) = (get s || raises call)) (calls : List ι) (s : σ) :
    get (calls.foldl apply s) = (get s || calls.any raises) := by
  induction calls using List.reverseRecOn with
  | nil => exact (Bool.or_false _).symm
  | append_singleton calls call ih =>
    rw [List.foldl_append, List.foldl_cons, List.foldl_nil, hstep, ih, List.any_append, Bool.or_assoc]
    simp

end Setters

end EnvelopeLite.InPlace
