import EnvelopeLite.Auth
import EnvelopeLite.Text

namespace EnvelopeLite.HeaderContext

open EnvelopeLite.ByteFields EnvelopeLite.Common EnvelopeLite.Auth EnvelopeLite.Text

def headerContextVersion : UInt8 := 0x01

def headerContextRequest : UInt8 := 0x01

def headerContextResponse : UInt8 := 0x02

def requireExactTrim (value : String) : AdapterResult String :=
  if trim value = "" ∨ value ≠ trim value then .error ⟨.invalidField⟩ else .ok value

def pushLengthPrefixed (buffer : Bytes) (value : String) : AdapterResult Bytes := do
  let length ← okOr (u64TryFrom value.utf8ByteSize) ⟨.invalidField⟩
  .ok (buffer ++ beBytes 8 length ++ utf8 value)

def boundContext (bytes : Bytes) : AdapterResult AuthenticationContext :=
  (AuthenticationContext.contextBound bytes).mapError (fun _ => ⟨.invalidField⟩)

def encodeRequestContext (operation requestId : String) : AdapterResult AuthenticationContext := do
  let operation ← requireExactTrim operation
  let requestId ← requireExactTrim requestId
  let bytes := [headerContextVersion, headerContextRequest]
  let bytes ← pushLengthPrefixed bytes operation
  let bytes ← pushLengthPrefixed bytes requestId
  boundContext bytes

def encodeResponseContext (requestId : String) : AdapterResult AuthenticationContext := do
  let requestId ← requireExactTrim requestId
  let bytes := [headerContextVersion, headerContextResponse]
  let bytes ← pushLengthPrefixed bytes requestId
  boundContext bytes

def ExactTrim (value : String) : Prop := trim value ≠ "" ∧ value = trim value

@[simp] theorem requireExactTrim_ok_iff {value result : String} :
    requireExactTrim value = .ok result ↔ ExactTrim value ∧ value = result := by
  have hn : ¬ (trim value = "" ∨ value ≠ trim value) ↔ ExactTrim value := by
    rw [not_or, not_not]
    rfl
  by_cases h : trim value = "" ∨ value ≠ trim value
  · have hv : ¬ ExactTrim value := fun hv => hn.mpr hv h
    simp only [requireExactTrim, if_pos h, reduceCtorEq, hv, false_and]
  · simp only [requireExactTrim, if_neg h, Except.ok.injEq, hn.mp h, true_and]

@[simp] theorem pushLengthPrefixed_ok_iff {buffer result : Bytes} {value : String} :
    pushLengthPrefixed buffer value = .ok result ↔
      value.utf8ByteSize < 2 ^ 64 ∧ buffer ++ field 8 (utf8 value) = result := by
  simp only [pushLengthPrefixed, bind_eq_ok_iff, okOr_ok_iff, u64TryFrom_eq_some_iff,
    Except.ok.injEq, List.append_assoc, field, length_utf8]
  constructor
  · rintro ⟨n, ⟨hlt, rfl⟩, hr⟩
    exact ⟨hlt, hr⟩
  · rintro ⟨hlt, hr⟩
    exact ⟨_, ⟨hlt, rfl⟩, hr⟩

@[simp] theorem boundContext_ok_iff {bytes : Bytes} {context : AuthenticationContext} :
    boundContext bytes = .ok context ↔ context.kind = .bound bytes := by
  rw [boundContext, mapError_ok_iff, AuthenticationContext.contextBound_ok_iff]

/-- What a header-mapped message binds: the direction it travels in, and the
values of its operation and request-id headers. -/
inductive BoundFields
  | request (operation requestId : String)
  | response (requestId : String)
  deriving DecidableEq, Repr

namespace BoundFields

def values : BoundFields → List String
  | .request operation requestId => [operation, requestId]
  | .response requestId => [requestId]

def direction : BoundFields → UInt8
  | .request _ _ => headerContextRequest
  | .response _ => headerContextResponse

def encode : BoundFields → AdapterResult AuthenticationContext
  | .request operation requestId => encodeRequestContext operation requestId
  | .response requestId => encodeResponseContext requestId

def bytes (m : BoundFields) : Bytes :=
  headerContextVersion :: m.direction :: fields 8 (m.values.map utf8)

/-- Both encoders follow one rule: every value is exactly trimmed, and the
context is the direction followed by the length-prefixed values. -/
theorem encode_ok_iff {m : BoundFields} {context : AuthenticationContext} :
    m.encode = .ok context ↔
      (∀ v ∈ m.values, ExactTrim v ∧ v.utf8ByteSize < 2 ^ 64) ∧ context.kind = .bound m.bytes := by
  cases m with
  | request operation requestId =>
    simp only [encode, encodeRequestContext, bind_eq_ok_iff, requireExactTrim_ok_iff,
      pushLengthPrefixed_ok_iff, boundContext_ok_iff, values, bytes, direction]
    constructor
    · rintro ⟨_, ⟨ho, rfl⟩, _, ⟨hi, rfl⟩, _, ⟨hol, rfl⟩, _, ⟨hil, rfl⟩, hk⟩
      exact ⟨by simpa using ⟨⟨ho, hol⟩, hi, hil⟩, by simpa using hk⟩
    · rintro ⟨hv, hk⟩
      obtain ⟨ho, hol⟩ := hv operation (by simp)
      obtain ⟨hi, hil⟩ := hv requestId (by simp)
      exact ⟨_, ⟨ho, rfl⟩, _, ⟨hi, rfl⟩, _, ⟨hol, rfl⟩, _, ⟨hil, rfl⟩, by simpa using hk⟩
  | response requestId =>
    simp only [encode, encodeResponseContext, bind_eq_ok_iff, requireExactTrim_ok_iff,
      pushLengthPrefixed_ok_iff, boundContext_ok_iff, values, bytes, direction]
    constructor
    · rintro ⟨_, ⟨hi, rfl⟩, _, ⟨hil, rfl⟩, hk⟩
      exact ⟨by simpa using ⟨hi, hil⟩, by simpa using hk⟩
    · rintro ⟨hv, hk⟩
      obtain ⟨hi, hil⟩ := hv requestId (by simp)
      exact ⟨_, ⟨hi, rfl⟩, _, ⟨hil, rfl⟩, by simpa using hk⟩

theorem eq_of_direction_values {m m' : BoundFields} (hd : m.direction = m'.direction)
    (hv : m.values = m'.values) : m = m' := by
  cases m <;> cases m' <;>
    simp_all [direction, values, headerContextRequest, headerContextResponse]

theorem length_values_eq {m m' : BoundFields} (hd : m.direction = m'.direction) :
    m.values.length = m'.values.length := by
  cases m <;> cases m' <;>
    simp_all [direction, values, headerContextRequest, headerContextResponse]

theorem bytes_inj {m m' : BoundFields} (hv : ∀ v ∈ m.values, v.utf8ByteSize < 2 ^ 64)
    (hv' : ∀ v ∈ m'.values, v.utf8ByteSize < 2 ^ 64) (h : m.bytes = m'.bytes) : m = m' := by
  have h256 : (256 : Nat) ^ 8 = 2 ^ 64 := by norm_num
  simp only [bytes, List.cons.injEq, true_and] at h
  obtain ⟨hd, hf⟩ := h
  have hm : m.values.map utf8 = m'.values.map utf8 := by
    apply fields_inj (by simpa using length_values_eq hd) ?_ ?_ hf
    · intro b hb
      obtain ⟨v, hm, rfl⟩ := List.mem_map.mp hb
      rw [length_utf8, h256]
      exact hv v hm
    · intro b hb
      obtain ⟨v, hm, rfl⟩ := List.mem_map.mp hb
      rw [length_utf8, h256]
      exact hv' v hm
  exact eq_of_direction_values hd (List.map_injective_iff.mpr (fun _ _ => utf8_inj) hm)

theorem encode_inj {m m' : BoundFields} {context : AuthenticationContext}
    (h : m.encode = .ok context) (h' : m'.encode = .ok context) : m = m' := by
  obtain ⟨hv, hk⟩ := encode_ok_iff.mp h
  obtain ⟨hv', hk'⟩ := encode_ok_iff.mp h'
  have hb : m.bytes = m'.bytes := by
    rw [hk] at hk'
    simpa using hk'
  exact bytes_inj (fun v hm => (hv v hm).2) (fun v hm => (hv' v hm).2) hb

theorem exists_encode_iff {m : BoundFields} (hv : ∀ v ∈ m.values, v.utf8ByteSize < 2 ^ 64) :
    (∃ context, m.encode = .ok context) ↔ ∀ v ∈ m.values, ExactTrim v := by
  constructor
  · rintro ⟨context, h⟩ v hm
    exact ((encode_ok_iff.mp h).1 v hm).1
  · intro h
    exact ⟨⟨.bound m.bytes, by simp [bytes]⟩,
      encode_ok_iff.mpr ⟨fun v hm => ⟨h v hm, hv v hm⟩, rfl⟩⟩

end BoundFields

/-- The version-1 header contexts keep direction, operation and request id apart,
and so do the transcripts built on them. A string's length is a 64-bit number at
most, so the encoders fail only on blank or untrimmed values. -/
theorem header_context_injective (T T' : Target) :
    (∀ op op' id id' context, encodeRequestContext op id = .ok context →
      encodeRequestContext op' id' = .ok context → op = op' ∧ id = id') ∧
    (∀ id id' context, encodeResponseContext id = .ok context →
      encodeResponseContext id' = .ok context → id = id') ∧
    (∀ op id id' context, encodeRequestContext op id = .ok context →
      encodeResponseContext id' ≠ .ok context) ∧
    (∀ (m m' : BoundFields) (d d' p p' input : Bytes) (context context' : AuthenticationContext),
      m.encode = .ok context → m'.encode = .ok context' →
      (AuthenticationMode.contextBound d).authenticationInput T context p = .ok input →
      (AuthenticationMode.contextBound d').authenticationInput T' context' p' = .ok input →
      m = m' ∧ d = d' ∧ p = p') ∧
    (∀ op id : String, op.utf8ByteSize < 2 ^ 64 → id.utf8ByteSize < 2 ^ 64 →
      ((∃ context, encodeRequestContext op id = .ok context) ↔ ExactTrim op ∧ ExactTrim id)) ∧
    (∀ id : String, id.utf8ByteSize < 2 ^ 64 →
      ((∃ context, encodeResponseContext id = .ok context) ↔ ExactTrim id)) := by
  refine ⟨?_, ?_, ?_, ?_, ?_, ?_⟩
  · intro op op' id id' context h h'
    have hm : BoundFields.request op id = .request op' id' := BoundFields.encode_inj h h'
    simpa using hm
  · intro id id' context h h'
    have hm : BoundFields.response id = .response id' := BoundFields.encode_inj h h'
    simpa using hm
  · intro op id id' context h h'
    have hm : BoundFields.request op id = .response id' := BoundFields.encode_inj h h'
    simp at hm
  · intro m m' d d' p p' input context context' hm hm' h h'
    obtain ⟨c, hk, hr, ht⟩ := authenticationInput_contextBound h
    obtain ⟨c', hk', hr', ht'⟩ := authenticationInput_contextBound h'
    obtain ⟨hd, rfl, hp⟩ := hr.transcript_inj hr' (ht.trans ht'.symm)
    have hc : context = context' := AuthenticationContext.ext (hk.trans hk'.symm)
    subst hc
    exact ⟨BoundFields.encode_inj hm hm', hd, hp⟩
  · intro op id ho hi
    have h := BoundFields.exists_encode_iff (m := .request op id)
      (by simpa [BoundFields.values] using ⟨ho, hi⟩)
    simpa [BoundFields.values, BoundFields.encode] using h
  · intro id hi
    have h := BoundFields.exists_encode_iff (m := .response id)
      (by simpa [BoundFields.values] using hi)
    simpa [BoundFields.values, BoundFields.encode] using h

theorem delimiter_tuples_are_separated :
    ∃ c c' : AuthenticationContext, encodeRequestContext "a&b" "c" = .ok c ∧
      encodeRequestContext "a" "b&c" = .ok c' ∧ c ≠ c' := by
  obtain ⟨hinj, -, -, -, hsome, -⟩ := header_context_injective ⟨64, by decide⟩ ⟨64, by decide⟩
  obtain ⟨c, hc⟩ := (hsome "a&b" "c" (by decide) (by decide)).mpr (by unfold ExactTrim; decide)
  obtain ⟨c', hc'⟩ := (hsome "a" "b&c" (by decide) (by decide)).mpr (by unfold ExactTrim; decide)
  refine ⟨c, c', hc, hc', ?_⟩
  rintro rfl
  exact absurd (hinj _ _ _ _ _ hc hc').1 (by decide)

end EnvelopeLite.HeaderContext
