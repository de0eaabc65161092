import Mathlib.Data.List.Basic

namespace EnvelopeLite.SignedRuns

variable {S M : Type}

/-- A signer signs a statement, a verifier accepts one, or neither happens. -/
inductive Step (S : Type)
  | sign (s : S)
  | accept (s : S)
  | idle

/-- Runs with the newest step first. `Encodes s m` holds when the message `m` is what
is signed for the statement `s`; a verifier accepts a statement only on a message
that a signer has signed before. -/
inductive Run (Encodes : S → M → Prop) : List (Step S) → Prop
  | start : Run Encodes []
  | sign {past : List (Step S)} (s : S) : Run Encodes past → Run Encodes (.sign s :: past)
  | accept {past : List (Step S)} {s t : S} {m : M} : Run Encodes past → Encodes s m → Encodes t m →
      .sign t ∈ past → Run Encodes (.accept s :: past)
  | idle {past : List (Step S)} : Run Encodes past → Run Encodes (.idle :: past)

def Agrees (run : List (Step S)) : Prop :=
  ∀ later s past, run = later ++ .accept s :: past → .sign s ∈ past

theorem agrees_nil : Agrees ([] : List (Step S)) := by
  intro later s past h
  simp at h

theorem agrees_cons {step : Step S} {past : List (Step S)} (h : Agrees past)
    (hstep : ∀ s, step = .accept s → .sign s ∈ past) : Agrees (step :: past) := by
  intro later s earlier heq
  cases later with
  | nil =>
    obtain ⟨rfl, rfl⟩ := List.cons.inj heq
    exact hstep s rfl
  | cons _ later =>
    obtain ⟨-, htail⟩ := List.cons.inj heq
    exact h later s earlier htail

variable {Encodes : S → M → Prop}

/-- Where a message is signed for one statement only, verifiers agree with signers. -/
theorem Run.agrees (hencodes : ∀ s t m, Encodes s m → Encodes t m → s = t)
    {run : List (Step S)} (h : Run Encodes run) : Agrees run := by
  induction h with
  | start => exact agrees_nil
  | sign s _ ih =>
    apply agrees_cons ih
    intro t ht
    cases ht
  | accept _ hs ht hmem ih =>
    apply agrees_cons ih
    intro u hu
    cases hu
    rwa [hencodes _ _ _ hs ht]
  | idle _ ih =>
    apply agrees_cons ih
    intro t ht
    cases ht

section Actions

variable {A : Type} {step : A → Step S} {past : List A}

theorem Run.accept_of_mem {s t : S} {m : M} (h : Run Encodes (past.map step)) (hs : Encodes s m)
    (ht : Encodes t m) {earlier : A} (hmem : earlier ∈ past) (hstep : step earlier = .sign t) :
    Run Encodes (.accept s :: past.map step) := by
  apply Run.accept h hs ht
  rw [← hstep]
  exact List.mem_map_of_mem hmem

theorem Run.exists_signed (hencodes : ∀ s t m, Encodes s m → Encodes t m → s = t) (later : List A)
    {action : A} {s : S} (h : Run Encodes ((later ++ action :: past).map step))
    (haccept : step action = .accept s) : ∃ earlier ∈ past, step earlier = .sign s := by
  have hsigned : .sign s ∈ past.map step := by
    apply h.agrees hencodes (later.map step)
    rw [List.map_append, List.map_cons, haccept]
  exact List.mem_map.mp hsigned

end Actions

end EnvelopeLite.SignedRuns
