import Mathlib
import EnvelopeLite.Adapter
import EnvelopeLite.Lockstep

namespace EnvelopeLite.NameSets

open EnvelopeLite.Adapter EnvelopeLite.Common EnvelopeLite.Header EnvelopeLite.Lockstep
open EnvelopeLite.Text

section Names

/-- `Ord` for header names. Texts are compared byte by byte. -/
def cmp : HeaderName → HeaderName → Ordering := compareOn fun name => utf8 name.canonical

theorem cmp_eq_iff {a b : HeaderName} : cmp a b = .eq ↔ (a == b) = true := by
  rw [HeaderName.beq_iff, cmp, compareOn, Std.compare_eq_iff_eq]
  exact ⟨utf8_inj, congrArg utf8⟩

theorem beq_iff_eqIgnoreAsciiCase {a b : HeaderName} :
    (a == b) = true ↔ eqIgnoreAsciiCase a.asStr b.asStr = true := by
  rw [HeaderName.beq_iff, eqIgnoreAsciiCase_iff, a.canonical_eq, b.canonical_eq]
  rfl

instance : EquivBEq HeaderName where
  rfl := HeaderName.beq_iff.mpr rfl
  symm h := HeaderName.beq_iff.mpr (HeaderName.beq_iff.mp h).symm
  trans h h' := HeaderName.beq_iff.mpr ((HeaderName.beq_iff.mp h).trans (HeaderName.beq_iff.mp h'))

end Names

variable (hasher : String → UInt64)

abbrev hash : Hashable HeaderName := ⟨fun name => hasher name.canonical⟩

theorem lawfulHashable : @LawfulHashable HeaderName _ (hash hasher) :=
  @LawfulHashable.mk HeaderName _ (hash hasher) fun _ _ h =>
    congrArg hasher (HeaderName.beq_iff.mp h)

abbrev NameSet := @Std.HashSet HeaderName _ (hash hasher)

/-- `insert_mapping` on the hash set that the source uses. -/
def insertMapping (names : NameSet hasher) (name : HeaderName) : AdapterResult (NameSet hasher) :=
  let inserted := names.containsThenInsert name
  if inserted.1 then .error ⟨.invalidMapping⟩ else .ok inserted.2

def validateCollisions (m : HeaderMapping) : AdapterResult Unit := do
  let requestNames ← m.staticRequestHeaders.foldlM (fun names h => insertMapping hasher names h.1) ∅
  let requestNames ← m.mappedRequestNames.foldlM (insertMapping hasher) requestNames
  let _ ← m.requestCipher.names.foldlM (insertMapping hasher) requestNames
  let responseNames ← m.mappedResponseNames.foldlM (insertMapping hasher) ∅
  let responseNames ← m.responseCipher.names.foldlM (insertMapping hasher) responseNames
  if m.authentication = .contextBound then
    let _ ← insertMapping hasher responseNames m.requestIdHeader
  .ok ()

def SameNames (names : NameSet hasher) (list : List HeaderName) : Prop :=
  ∀ name, names.contains name = list.any fun n => n == name

variable {hasher}

theorem sameNames_empty : SameNames hasher ∅ [] := by
  intro name
  rw [Std.HashSet.contains_empty, List.any_nil]

theorem SameNames.insert {names : NameSet hasher} {list : List HeaderName}
    (h : SameNames hasher names list) (name : HeaderName) :
    SameNames hasher (names.insert name) (list ++ [name]) := by
  have := lawfulHashable hasher
  intro other
  rw [Std.HashSet.contains_insert, h other, List.any_append, List.any_cons, List.any_nil,
    Bool.or_false, Bool.or_comm]

theorem inStep_insertMapping (names : NameSet hasher) (list : List HeaderName) (name : HeaderName)
    (h : SameNames hasher names list) :
    InStep (SameNames hasher) (insertMapping hasher names name)
      (Adapter.insertMapping list name) := by
  rw [insertMapping, Adapter.insertMapping, Std.HashSet.containsThenInsert_fst,
    Std.HashSet.containsThenInsert_snd, h name]
  split
  · rfl
  · exact h.insert name

theorem validateCollisions_eq (m : HeaderMapping) :
    validateCollisions hasher m = m.validateCollisions := by
  have hinsert := @inStep_insertMapping hasher
  have hloop := inStep_foldlM hinsert
  have hstatic := inStep_foldlM fun names list (h : Entry) => hinsert names list h.1
  apply InStep.eq
  refine (hstatic m.staticRequestHeaders _ _ sameNames_empty).bind fun _ _ hrequest => ?_
  refine (hloop m.mappedRequestNames _ _ hrequest).bind fun _ _ hrequest => ?_
  refine (hloop m.requestCipher.names _ _ hrequest).bind fun _ _ _ => ?_
  refine (hloop m.mappedResponseNames _ _ sameNames_empty).bind fun _ _ hresponse => ?_
  refine (hloop m.responseCipher.names _ _ hresponse).bind fun _ _ hresponse => ?_
  by_cases hbound : m.authentication = .contextBound
  · rw [if_pos hbound, if_pos hbound]
    exact (hinsert _ _ m.requestIdHeader hresponse).bind fun _ _ _ => rfl
  · rw [if_neg hbound, if_neg hbound]
    exact rfl

/-- The comparisons of header names are one: equality up to ASCII case, an order that is
total and agrees with it, and a hash that agrees with it whatever the hasher. A hash set
finds the collisions of a schema exactly as a search through a list does. -/
theorem name_collisions_do_not_depend_on_the_hash (hasher : String → UInt64) :
    (∀ a b : HeaderName, (a == b) = true ↔ eqIgnoreAsciiCase a.asStr b.asStr = true) ∧
    (∀ a b, cmp a b = .eq ↔ (a == b) = true) ∧
    (∀ a b, (cmp a b).swap = cmp b a) ∧
    (∀ a b c, (cmp a b).isLE = true → (cmp b c).isLE = true → (cmp a c).isLE = true) ∧
    (∀ a b : HeaderName, (a == b) = true → (hash hasher).hash a = (hash hasher).hash b) ∧
    ∀ m, validateCollisions hasher m = m.validateCollisions := by
  have htrans : Std.TransCmp cmp := inferInstanceAs (Std.TransCmp (compareOn _))
  refine ⟨fun _ _ => beq_iff_eqIgnoreAsciiCase, fun _ _ => cmp_eq_iff, ?_, ?_, ?_,
    validateCollisions_eq⟩
  · intro a b
    exact htrans.eq_swap.symm
  · intro a b c
    exact htrans.isLE_trans
  · exact (lawfulHashable hasher).hash_eq

end EnvelopeLite.NameSets
