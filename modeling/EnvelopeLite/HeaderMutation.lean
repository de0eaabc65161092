import EnvelopeLite.InPlace
import EnvelopeLite.Message

namespace EnvelopeLite.HeaderMutation

open EnvelopeLite.Common EnvelopeLite.Header EnvelopeLite.InPlace EnvelopeLite.KeyedLists
open EnvelopeLite.Message EnvelopeLite.Text

abbrev Method := Update HeaderCollection Error Unit

def insertTyped (name : HeaderName) (value : HeaderValue) : Method := do
  let self ← receiver
  check (if self.entries.any (fun e => e.1 == name) then .error .headerConflict else .ok ())
  assign ⟨self.entries ++ [(name, value)]⟩

def insert (name value : String) : Method := do
  let name ← check (HeaderName.new name)
  let value ← check (HeaderValue.new value)
  insertTyped name value

def appendChecked (other : HeaderCollection) : Method := do
  let self ← receiver
  check self.revalidate
  check other.revalidate
  check (if other.entries.any (fun candidate => self.entries.any (fun e => e.1 == candidate.1))
    then .error .headerConflict else .ok ())
  assign ⟨self.entries ++ other.entries⟩

section Commits

theorem insertTyped_eq (name : HeaderName) (value : HeaderValue) (c : HeaderCollection) :
    insertTyped name value c = commit (c.insertTyped name value) c := by
  rw [insertTyped, receiver_bind, HeaderCollection.insertTyped]
  split <;> rfl

/-- Each method computes its whole result before it touches the collection. -/
theorem insert_eq (name value : String) (c : HeaderCollection) :
    insert name value c = commit (c.insert name value) c := by
  rw [insert, HeaderCollection.insert]
  cases HeaderName.new name with
  | error e => rfl
  | ok name =>
    rw [check_bind_ok, ok_bind]
    cases HeaderValue.new value with
    | error e => rfl
    | ok value =>
      rw [check_bind_ok, ok_bind]
      exact insertTyped_eq name value c

theorem appendChecked_eq (other c : HeaderCollection) :
    appendChecked other c = commit (c.appendChecked other) c := by
  rw [appendChecked, receiver_bind, HeaderCollection.appendChecked]
  -- the assignment comes last, so that every failing check returns the receiver as it was
  cases c.revalidate with
  | error e => rfl
  | ok _ =>
    rw [check_bind_ok, ok_bind]
    cases other.revalidate with
    | error e => rfl
    | ok _ =>
      rw [check_bind_ok, ok_bind]
      split <;> rfl

end Commits

inductive Operation
  | insert (name value : String)
  | appendChecked (other : HeaderCollection)

namespace Operation

def run : Operation → Method
  | .insert name value => HeaderMutation.insert name value
  | .appendChecked other => HeaderMutation.appendChecked other

/-- The headers that an operation adds if it succeeds, in the casing they came in. -/
def added : Operation → List (String × String)
  | .insert name value => [(name, value)]
  | .appendChecked other => other.entries.map Entry.texts

def next (c : HeaderCollection) : Operation → Except Error HeaderCollection
  | .insert name value => c.insert name value
  | .appendChecked other => c.appendChecked other

theorem run_eq (op : Operation) (c : HeaderCollection) : op.run c = commit (op.next c) c := by
  cases op with
  | insert name value => exact insert_eq name value c
  | appendChecked other => exact appendChecked_eq other c

variable {op : Operation} {c r : HeaderCollection}

theorem next_ok (h : op.next c = .ok r) :
    ∃ entries : List Entry, entries.map Entry.texts = op.added ∧
      r.entries = c.entries ++ entries ∧ (c.Distinct → r.Distinct) := by
  cases op with
  | insert name value =>
    obtain ⟨e, he, hfresh, hr⟩ := HeaderCollection.insert_ok_iff (h := (name, value)).mp h
    refine ⟨[e], congrArg (fun t => [t]) he, hr, fun hc => ?_⟩
    rw [HeaderCollection.Distinct, hr]
    exact uniqueKeys_concat.mpr ⟨hc, hfresh⟩
  | appendChecked other =>
    obtain ⟨hr, hd⟩ := HeaderCollection.appendChecked_ok_iff.mp h
    exact ⟨other.entries, rfl, hr, fun _ => hd⟩

theorem distinct_run (op : Operation) (c : HeaderCollection) (hc : c.Distinct) :
    (op.run c).2.Distinct := by
  rw [run_eq]
  cases h : op.next c with
  | ok r => exact (next_ok h).choose_spec.2.2 hc
  | error e => exact hc

end Operation

def reached (ops : List Operation) : HeaderCollection := runAll Operation.run ops {}

theorem distinct_reached (ops : List Operation) : (reached ops).Distinct :=
  runAll_invariant Operation.distinct_run uniqueKeys_nil

section Failures

variable {c other : HeaderCollection}

def Present (c : HeaderCollection) (name : String) : Prop :=
  ∃ e ∈ c.entries, eqIgnoreAsciiCase e.1.asStr name = true

theorem insert_error_iff {name value : String} {e : Error} :
    ((Operation.insert name value).run c).1 = .error e ↔
      (e = .invalidHeader ∧ ¬ (isToken name = true ∧ isHeaderText value = true)) ∨
      (e = .headerConflict ∧ (isToken name = true ∧ isHeaderText value = true) ∧
        Present c name) := by
  have hpresent : (∃ d ∈ c.entries, d.canonical = toAsciiLowercase name) ↔ Present c name := by
    simp only [Present, eqIgnoreAsciiCase_iff, Entry.canonical, HeaderName.canonical_eq]
    rfl
  rw [Operation.run_eq, commit_fst_error_iff, ← hpresent]
  exact HeaderCollection.insert_error_iff

theorem appendChecked_error_iff (hc : c.Distinct) (hother : other.Distinct) {e : Error} :
    ((Operation.appendChecked other).run c).1 = .error e ↔
      e = .headerConflict ∧ ∃ a ∈ c.entries, ∃ b ∈ other.entries,
        eqIgnoreAsciiCase a.1.asStr b.1.asStr = true := by
  have hleft : NamesApart c.entries := namesApart_iff.mpr hc
  have hright : NamesApart other.entries := namesApart_iff.mpr hother
  have herror : c.appendChecked other = .error e ↔
      e = .headerConflict ∧ ¬ NamesApart (c.entries ++ other.entries) := by
    rw [namesApart_iff]
    exact HeaderCollection.appendChecked_error_iff
  rw [Operation.run_eq, commit_fst_error_iff, Operation.next, herror, namesApart_append,
    and_iff_right hleft, and_iff_right hright, not_not]

end Failures

theorem header_collections_stay_distinct_and_atomic :
    (∀ ops, let c := reached ops
      (∀ e ∈ c.entries, e.1.asStr ≠ "" ∧ isToken e.1.asStr = true ∧
        isHeaderText (HeaderValue.asStr e.2) = true) ∧
      NamesApart c.entries ∧
      c.revalidate = .ok () ∧ HeaderCollection.fromTypedPairs c.intoPairs = .ok c ∧
      (∀ name value, c.get name = some value ↔
        ∃ e ∈ c.entries, eqIgnoreAsciiCase e.1.asStr name = true ∧ e.2 = value) ∧
      (∀ name, ∀ a ∈ c.entries, ∀ b ∈ c.entries, eqIgnoreAsciiCase a.1.asStr name = true →
        eqIgnoreAsciiCase b.1.asStr name = true → a = b) ∧
      (∀ name : HeaderName, c.get name.asStr =
        (c.entries.find? (fun e => e.1 == name)).map (·.2)) ∧
      ∀ ops', let other := reached ops'
        ∀ e, ((Operation.appendChecked other).run c).1 = .error e ↔
          e = .headerConflict ∧ ∃ a ∈ c.entries, ∃ b ∈ other.entries,
            eqIgnoreAsciiCase a.1.asStr b.1.asStr = true) ∧
    (∀ (op : Operation) (c c' : HeaderCollection),
      (op.run c = (.ok (), c') → ∃ entries : List Entry,
        entries.map Entry.texts = op.added ∧ c'.entries = c.entries ++ entries) ∧
      ∀ e, op.run c = (.error e, c') → c' = c) ∧
    (∀ name value c, let result := ((Operation.insert name value).run c).1
      (result = .error .invalidHeader ↔ ¬ (isToken name = true ∧ isHeaderText value = true)) ∧
      (isToken name = true ∧ isHeaderText value = true →
        (result = .error .headerConflict ↔ Present c name)) ∧
      ∀ e, result = .error e → e = .invalidHeader ∨ e = .headerConflict) ∧
    ∀ headers body, (∃ parts, RequestParts.new headers body = .ok parts) ↔
      (∀ h ∈ headers, isToken h.1 = true ∧ isHeaderText h.2 = true) ∧
        UniqueKeys (fun h => toAsciiLowercase h.1) headers := by
  refine ⟨fun ops => ?_, fun op c c' => ⟨?_, ?_⟩, fun name value c => ⟨?_, ?_, ?_⟩,
    fun headers body => RequestParts.exists_new_ok_iff⟩
  · have hd := distinct_reached ops
    refine ⟨?_, namesApart_iff.mpr hd, ?_, ?_, ?_, ?_, ?_, ?_⟩
    · exact fun e _ => ⟨e.1.asStr_ne_empty, e.1.token, e.2.2⟩
    · exact HeaderCollection.revalidate_ok_iff.mpr hd
    · exact HeaderCollection.fromTypedPairs_ok_iff.mpr ⟨rfl, hd⟩
    · exact fun name value => HeaderCollection.get_eq_some_iff hd
    · intro name a ha b hb hna hnb
      apply hd.eq_of_mem ha hb
      rw [Entry.canonical_eq_iff, eqIgnoreAsciiCase_iff, eqIgnoreAsciiCase_iff.mp hna,
        eqIgnoreAsciiCase_iff.mp hnb]
    · exact HeaderCollection.get_asStr _
    · exact fun ops' e => appendChecked_error_iff hd (distinct_reached ops')
  · intro h
    rw [Operation.run_eq, commit_ok_iff] at h
    obtain ⟨entries, hadded, hentries, -⟩ := Operation.next_ok h
    exact ⟨entries, hadded, hentries⟩
  · intro e h
    rw [Operation.run_eq] at h
    exact commit_snd_of_error h
  · simp [insert_error_iff]
  · intro hlegal
    simp [insert_error_iff, hlegal]
  · intro e h
    exact (insert_error_iff.mp h).imp And.left And.left

end EnvelopeLite.HeaderMutation
