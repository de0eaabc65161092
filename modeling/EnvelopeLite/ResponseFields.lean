import EnvelopeLite.Adapter
import EnvelopeLite.SlotLoop
import Mathlib.Data.List.Pairwise

namespace EnvelopeLite.ResponseFields

open EnvelopeLite.Adapter EnvelopeLite.Adapter.HeaderSchema EnvelopeLite.Common
open EnvelopeLite.Header EnvelopeLite.KeyedLists EnvelopeLite.Message
open EnvelopeLite.SlotLoop EnvelopeLite.Text

def valuesOf (response : ResponseParts) (name : HeaderName) : List String :=
  (response.headers.filter (fun h => eqIgnoreAsciiCase h.1 name.asStr)).map Prod.snd

def fields : List ResponseField :=
  [.signature, .wrappedSessionKey, .remoteSigningCertificateId, .cipher, .requestId]

variable (schema : HeaderSchema)

/-- The name under which a response carries a field, if it is carried in a header. -/
def fieldName : ResponseField → Option HeaderName
  | .signature => some schema.responseSignatureHeader
  | .wrappedSessionKey => some schema.responseWrappedKeyHeader
  | .remoteSigningCertificateId => some schema.responseRemoteSigningCertificateHeader
  | .cipher => match schema.responseCipher with
    | .body => none
    | .header name => some name
  | .requestId => if schema.authentication = .contextBound then some schema.requestIdHeader else none

/-- The branch condition of the response loop for a field. -/
def Matches (name : String) (field : ResponseField) : Prop :=
  ∃ n, fieldName schema field = some n ∧ eqIgnoreAsciiCase name n.asStr = true

section Branches

variable {schema}

theorem mem_fields (field : ResponseField) : field ∈ fields := by
  cases field <;> decide

theorem responseNames_eq : schema.responseNames = fields.filterMap (fieldName schema) := by
  cases hc : schema.responseCipher <;> cases ha : schema.authentication <;>
    simp [HeaderMapping.responseNames, HeaderMapping.mappedResponseNames, CipherLocation.names,
      fields, fieldName, hc, ha]

theorem mem_responseNames_iff {name : HeaderName} :
    name ∈ schema.responseNames ↔ ∃ field, fieldName schema field = some name := by
  rw [responseNames_eq, List.mem_filterMap]
  constructor
  · rintro ⟨field, -, h⟩
    exact ⟨field, h⟩
  · rintro ⟨field, h⟩
    exact ⟨field, mem_fields field, h⟩

theorem fieldName_inj {f g : ResponseField} {n m : HeaderName} (hf : fieldName schema f = some n)
    (hg : fieldName schema g = some m) (hnm : n.canonical = m.canonical) : f = g := by
  have hunique := (HeaderMapping.validateCollisions_ok_iff.mp schema.collision_free).2
  rw [responseNames_eq, UniqueKeys, List.Nodup, List.pairwise_map, List.pairwise_filterMap]
    at hunique
  by_contra hne
  have hsymm : Std.Symm (fun a b => ∀ x, fieldName schema a = some x →
      ∀ y, fieldName schema b = some y → x.canonical ≠ y.canonical) :=
    ⟨fun a b h x hx y hy he => h y hy x hx he.symm⟩
  exact hunique.forall (mem_fields f) (mem_fields g) hne n hf m hg hnm

theorem Matches.unique {name : String} {f g : ResponseField} (hf : Matches schema name f)
    (hg : Matches schema name g) : f = g := by
  obtain ⟨n, hn, hname⟩ := hf
  obtain ⟨m, hm, hname'⟩ := hg
  apply fieldName_inj hn hm
  rw [n.canonical_eq, m.canonical_eq]
  exact (eqIgnoreAsciiCase_iff.mp hname).symm.trans (eqIgnoreAsciiCase_iff.mp hname')

theorem matches_of_target {name : String} {field : ResponseField}
    (h : schema.target name = some field) : Matches schema name field := by
  unfold target at h
  split at h
  · next hs =>
    cases h
    exact ⟨_, rfl, hs⟩
  split at h
  · next hw =>
    cases h
    exact ⟨_, rfl, hw⟩
  split at h
  · next hr =>
    cases h
    exact ⟨_, rfl, hr⟩
  split at h
  · next hi =>
    cases h
    exact ⟨_, if_pos hi.1, hi.2⟩
  split at h
  · next cipherHeader hc =>
    split at h
    · next hname =>
      cases h
      exact ⟨cipherHeader, by rw [fieldName, hc], hname⟩
    · cases h
  · cases h

theorem not_matches_of_target_eq_none {name : String} (h : schema.target name = none)
    (field : ResponseField) : ¬ Matches schema name field := by
  unfold target at h
  split_ifs at h with hs hw hr hi
  rintro ⟨n, hn, hname⟩
  cases field with
  | signature => cases hn; exact hs hname
  | wrappedSessionKey => cases hn; exact hw hname
  | remoteSigningCertificateId => cases hn; exact hr hname
  | requestId =>
    simp only [fieldName] at hn
    split at hn
    · next ha => cases hn; exact hi ⟨ha, hname⟩
    · cases hn
  | cipher =>
    simp only [fieldName] at hn
    split at hn
    · cases hn
    · next name hc =>
      cases hn
      rw [hc] at h
      simp only [hname, if_true] at h
      cases h

/-- The order of the branches is immaterial: a field is chosen exactly when its
own condition holds. -/
theorem target_eq_some_iff {name : String} {field : ResponseField} :
    schema.target name = some field ↔ Matches schema name field := by
  constructor
  · exact matches_of_target
  · intro h
    cases ht : schema.target name with
    | none => exact absurd h (not_matches_of_target_eq_none ht field)
    | some g => rw [(matches_of_target ht).unique h]

end Branches

section Captured

variable {schema} {response : ResponseParts}

theorem capture_eq : schema.capture =
    fill (fun h => schema.target h.1) Prod.snd (⟨.duplicateField⟩ : AdapterError) := by
  funext found h
  rw [capture, fill]
  cases schema.target h.1 <;> rfl

theorem valuesAt_eq (field : ResponseField) :
    valuesAt (fun h => schema.target h.1) Prod.snd field response.headers =
      ((fieldName schema field).map (valuesOf response)).getD [] := by
  cases hn : fieldName schema field with
  | none =>
    have hnone : ∀ h : String × String, ¬ (schema.target h.1 == some field) = true := by
      intro h ht
      obtain ⟨n, hn', -⟩ := target_eq_some_iff.mp (beq_iff_eq.mp ht)
      rw [hn] at hn'
      cases hn'
    simp [valuesAt, hnone]
  | some n =>
    have hsame : (fun h : String × String => schema.target h.1 == some field) =
        fun h => eqIgnoreAsciiCase h.1 n.asStr := by
      funext h
      rw [Bool.eq_iff_iff, beq_iff_eq, target_eq_some_iff, Matches, hn]
      simp only [Option.some.injEq, exists_eq_left']
    rw [valuesAt, hsame]
    rfl

/-- What the loop has found when no mapped name occurred twice. -/
def captured (schema : HeaderSchema) (response : ResponseParts) (field : ResponseField) :
    Option String :=
  (fieldName schema field).bind (fun name => (valuesOf response name).head?)

theorem foldlM_capture_ok
    (h : ¬ ∃ name ∈ schema.responseNames, 2 ≤ (valuesOf response name).length) :
    response.headers.foldlM schema.capture (fun _ => none) = .ok (captured schema response) := by
  have hseen : ∀ field, seen (fun h => schema.target h.1) Prod.snd (fun _ => none)
      response.headers field = ((fieldName schema field).map (valuesOf response)).getD [] :=
    fun field => valuesAt_eq field
  have hone : ∀ field, (seen (fun h => schema.target h.1) Prod.snd (fun _ => none)
      response.headers field).length ≤ 1 := by
    intro field
    rw [hseen]
    cases hn : fieldName schema field with
    | none => exact Nat.zero_le 1
    | some n =>
      have hmem := mem_responseNames_iff.mpr ⟨field, hn⟩
      have hle : ¬ 2 ≤ (valuesOf response n).length := fun htwo => h ⟨n, hmem, htwo⟩
      change (valuesOf response n).length ≤ 1
      omega
  rw [capture_eq, foldlM_fill_ok hone]
  congr 1
  funext field
  rw [hseen, captured]
  cases fieldName schema field <;> rfl

theorem foldlM_capture_error {name : HeaderName} (hname : name ∈ schema.responseNames)
    (h : 2 ≤ (valuesOf response name).length) :
    response.headers.foldlM schema.capture (fun _ => none) = .error ⟨.duplicateField⟩ := by
  obtain ⟨field, hfield⟩ := mem_responseNames_iff.mp hname
  have hseen : 2 ≤ (seen (fun h => schema.target h.1) Prod.snd (fun _ => none)
      response.headers field).length := by
    change 2 ≤ (valuesAt (fun h => schema.target h.1) Prod.snd field response.headers).length
    rw [valuesAt_eq, hfield]
    exact h
  rw [capture_eq]
  exact foldlM_fill_error hseen

end Captured

end EnvelopeLite.ResponseFields
