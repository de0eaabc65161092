import EnvelopeLite.HeaderContext
import EnvelopeLite.Message

namespace EnvelopeLite.Adapter

open EnvelopeLite.Auth EnvelopeLite.Common EnvelopeLite.Config EnvelopeLite.Header
open EnvelopeLite.HeaderContext EnvelopeLite.KeyedLists EnvelopeLite.Message
open EnvelopeLite.Primitives EnvelopeLite.Text

inductive AdapterAuthentication
  | legacyPlaintext
  | contextBound
  deriving DecidableEq, Repr

/-- The adapter trait. An adapter is any record of these functions, so nothing is
known about its results but their types. -/
structure ProtocolAdapter where
  requestAuthenticationContext : ClientIdentity → ProtocolRequestContext →
    AdapterResult AuthenticationContext
  buildRequest : ClientIdentity → ProtocolRequestContext → SecureEnvelope →
    AdapterResult RequestParts
  parseResponse : ResponseParts → AdapterResult ParsedResponse
  pinnedAuthentication : Option AdapterAuthentication := none

inductive CipherLocation
  | body
  | header (name : HeaderName)

namespace CipherLocation

def names : CipherLocation → List HeaderName
  | .body => []
  | .header name => [name]

end CipherLocation

inductive HeaderAuthentication
  | legacy
  | contextBound
  deriving DecidableEq, Repr

/-- The mapping that a schema consists of, before its collisions are checked. -/
structure HeaderMapping where
  staticRequestHeaders : List Entry
  localIdentityHeader : HeaderName
  operationHeader : HeaderName
  requestIdHeader : HeaderName
  requestTimeHeader : HeaderName
  apiVersionHeader : HeaderName
  localCertificateHeader : HeaderName
  remoteSigningCertificateHeader : HeaderName
  remoteEncryptionCertificateHeader : HeaderName
  requestSignatureHeader : HeaderName
  requestWrappedKeyHeader : HeaderName
  requestCipher : CipherLocation
  responseSignatureHeader : HeaderName
  responseWrappedKeyHeader : HeaderName
  responseRemoteSigningCertificateHeader : HeaderName
  responseCipher : CipherLocation
  authentication : HeaderAuthentication

/-- The set of names seen so far is kept as a list. -/
def insertMapping (names : List HeaderName) (name : HeaderName) :
    AdapterResult (List HeaderName) :=
  if names.any (fun n => n == name) then .error ⟨.invalidMapping⟩ else .ok (names ++ [name])

namespace HeaderMapping

def mappedRequestNames (m : HeaderMapping) : List HeaderName :=
  [m.localIdentityHeader, m.operationHeader, m.requestIdHeader, m.requestTimeHeader,
    m.apiVersionHeader, m.localCertificateHeader, m.remoteSigningCertificateHeader,
    m.remoteEncryptionCertificateHeader, m.requestSignatureHeader, m.requestWrappedKeyHeader]

def mappedResponseNames (m : HeaderMapping) : List HeaderName :=
  [m.responseSignatureHeader, m.responseWrappedKeyHeader,
    m.responseRemoteSigningCertificateHeader]

def validateCollisions (m : HeaderMapping) : AdapterResult Unit := do
  let requestNames ← m.staticRequestHeaders.foldlM (fun names h => insertMapping names h.1) []
  let requestNames ← m.mappedRequestNames.foldlM insertMapping requestNames
  let _ ← m.requestCipher.names.foldlM insertMapping requestNames
  let responseNames ← m.mappedResponseNames.foldlM insertMapping []
  let responseNames ← m.responseCipher.names.foldlM insertMapping responseNames
  if m.authentication = .contextBound then
    let _ ← insertMapping responseNames m.requestIdHeader
  .ok ()

def requestNames (m : HeaderMapping) : List HeaderName :=
  m.staticRequestHeaders.map Prod.fst ++ m.mappedRequestNames ++ m.requestCipher.names

def responseNames (m : HeaderMapping) : List HeaderName :=
  m.mappedResponseNames ++ m.responseCipher.names ++
    if m.authentication = .contextBound then [m.requestIdHeader] else []

end HeaderMapping

theorem insertMapping_ok_iff {names r : List HeaderName} {name : HeaderName} :
    insertMapping names name = .ok r ↔
      (∀ n ∈ names, n.canonical ≠ name.canonical) ∧ r = names ++ [name] := by
  by_cases h : names.any (fun n => n == name) = true
  · have hfound : ¬ ∀ n ∈ names, n.canonical ≠ name.canonical := HeaderName.any_beq_iff.mp h
    simp only [insertMapping, if_pos h, reduceCtorEq, hfound, false_and]
  · have hfresh : ∀ n ∈ names, n.canonical ≠ name.canonical :=
      not_not.mp (mt HeaderName.any_beq_iff.mpr h)
    rw [insertMapping, if_neg h, Except.ok.injEq, and_iff_right hfresh]
    exact eq_comm

theorem foldlM_insertMapping_ok_iff {names : List HeaderName} {r : List HeaderName} :
    names.foldlM insertMapping [] = .ok r ↔ r = names ∧ UniqueKeys HeaderName.canonical names := by
  have hstep : ∀ s b s', insertMapping s b = .ok s' ↔ ∃ a, id a = b ∧
      (∀ n ∈ Equiv.refl (List HeaderName) s, n.canonical ≠ a.canonical) ∧
        Equiv.refl (List HeaderName) s' = Equiv.refl (List HeaderName) s ++ [a] := by
    intro s b s'
    simp only [id_eq, exists_eq_left]
    exact insertMapping_ok_iff
  rw [foldlM_insert_ok_iff (Equiv.refl _) id hstep names [] r uniqueKeys_nil]
  simp only [List.map_id, exists_eq_left, Equiv.refl_apply, List.nil_append]
  constructor
  · rintro ⟨rfl, hr⟩
    exact ⟨rfl, hr⟩
  · rintro ⟨rfl, hr⟩
    exact ⟨rfl, hr⟩

/-- The collision check passes exactly when the names of each direction are
distinct up to ASCII case. -/
theorem HeaderMapping.validateCollisions_ok_iff {m : HeaderMapping} {u : Unit} :
    m.validateCollisions = .ok u ↔
      UniqueKeys HeaderName.canonical m.requestNames ∧
        UniqueKeys HeaderName.canonical m.responseNames := by
  have hchecks : m.validateCollisions = (do
      let _ ← m.requestNames.foldlM insertMapping []
      let _ ← m.responseNames.foldlM insertMapping []
      .ok ()) := by
    simp only [validateCollisions, requestNames, responseNames, List.foldlM_append,
      List.foldlM_map, bind_assoc]
    split
    · simp only [List.foldlM_cons, List.foldlM_nil, bind_assoc, pure_bind]
    · simp only [List.foldlM_nil, pure_bind]
  simp only [hchecks, bind_eq_ok_iff, foldlM_insertMapping_ok_iff, and_true]
  constructor
  · rintro ⟨_, ⟨-, hrequest⟩, _, -, hresponse⟩
    exact ⟨hrequest, hresponse⟩
  · rintro ⟨hrequest, hresponse⟩
    exact ⟨_, ⟨rfl, hrequest⟩, _, rfl, hresponse⟩

/-- A schema as the builder returns it: its fields are private to the crate. -/
structure HeaderSchema extends HeaderMapping where
  static_ne_nil : staticRequestHeaders ≠ []
  static_nonblank : ∀ e ∈ staticRequestHeaders, trim (HeaderValue.asStr e.2) ≠ ""
  collision_free : toHeaderMapping.validateCollisions = .ok ()

structure HeaderSchemaBuilder where
  staticRequestHeaders : List (String × String) := []
  localIdentityHeader : Option String := none
  operationHeader : Option String := none
  requestIdHeader : Option String := none
  requestTimeHeader : Option String := none
  apiVersionHeader : Option String := none
  localCertificateHeader : Option String := none
  remoteSigningCertificateHeader : Option String := none
  remoteEncryptionCertificateHeader : Option String := none
  requestSignatureHeader : Option String := none
  requestWrappedKeyHeader : Option String := none
  requestCipher : Option CipherLocation := none
  responseSignatureHeader : Option String := none
  responseWrappedKeyHeader : Option String := none
  responseRemoteSigningCertificateHeader : Option String := none
  responseCipher : Option CipherLocation := none
  legacyAuthentication : Bool := false
  contextBoundAuthentication : Bool := false

def requiredHeader (value : Option String) : AdapterResult HeaderName := do
  let value ← okOr value ⟨.missingField⟩
  (HeaderName.new value).mapError (fun _ => ⟨.invalidMapping⟩)

def staticHeader (h : String × String) : AdapterResult Entry :=
  if trim h.2 = "" then .error ⟨.invalidMapping⟩
  else do
    let name ← (HeaderName.new h.1).mapError (fun _ => ⟨.invalidMapping⟩)
    let value ← (HeaderValue.new h.2).mapError (fun _ => ⟨.invalidMapping⟩)
    .ok (name, value)

theorem staticHeader_ok_iff {h : String × String} {e : Entry} :
    staticHeader h = .ok e ↔ e.texts = h ∧ trim (HeaderValue.asStr e.2) ≠ "" := by
  unfold staticHeader
  split
  · next hblank =>
    simp only [reduceCtorEq, false_iff, not_and, not_not]
    rintro rfl
    exact hblank
  · next hblank =>
    simp only [bind_eq_ok_iff, mapError_ok_iff, HeaderName.new_ok_iff, HeaderValue.new_ok_iff,
      Except.ok.injEq]
    constructor
    · rintro ⟨name, hn, value, hv, rfl⟩
      exact ⟨Prod.ext hn hv, by rwa [hv]⟩
    · rintro ⟨rfl, -⟩
      exact ⟨e.1, rfl, e.2, rfl, rfl⟩

namespace HeaderSchemaBuilder

/-- Everything that `build` does before it looks for collisions. -/
def mapping (b : HeaderSchemaBuilder) : AdapterResult HeaderMapping :=
  if b.staticRequestHeaders.isEmpty || b.requestCipher.isNone || b.responseCipher.isNone then
    .error ⟨.missingField⟩
  else if b.legacyAuthentication && b.contextBoundAuthentication then .error ⟨.invalidMapping⟩
  else if !b.legacyAuthentication && !b.contextBoundAuthentication then .error ⟨.missingField⟩
  else do
    .ok {
      staticRequestHeaders := ← b.staticRequestHeaders.mapM staticHeader
      localIdentityHeader := ← requiredHeader b.localIdentityHeader
      operationHeader := ← requiredHeader b.operationHeader
      requestIdHeader := ← requiredHeader b.requestIdHeader
      requestTimeHeader := ← requiredHeader b.requestTimeHeader
      apiVersionHeader := ← requiredHeader b.apiVersionHeader
      localCertificateHeader := ← requiredHeader b.localCertificateHeader
      remoteSigningCertificateHeader := ← requiredHeader b.remoteSigningCertificateHeader
      remoteEncryptionCertificateHeader := ← requiredHeader b.remoteEncryptionCertificateHeader
      requestSignatureHeader := ← requiredHeader b.requestSignatureHeader
      requestWrappedKeyHeader := ← requiredHeader b.requestWrappedKeyHeader
      requestCipher := ← okOr b.requestCipher ⟨.missingField⟩
      responseSignatureHeader := ← requiredHeader b.responseSignatureHeader
      responseWrappedKeyHeader := ← requiredHeader b.responseWrappedKeyHeader
      responseRemoteSigningCertificateHeader :=
        ← requiredHeader b.responseRemoteSigningCertificateHeader
      responseCipher := ← okOr b.responseCipher ⟨.missingField⟩
      authentication := if b.contextBoundAuthentication then .contextBound else .legacy }

theorem static_of_mapping {b : HeaderSchemaBuilder} {m : HeaderMapping} (h : b.mapping = .ok m) :
    m.staticRequestHeaders ≠ [] ∧
      ∀ e ∈ m.staticRequestHeaders, trim (HeaderValue.asStr e.2) ≠ "" := by
  simp only [mapping, ite_error_ok_iff, bind_eq_ok_iff, Except.ok.injEq] at h
  obtain ⟨hset, -, -, statics, hstatics, _, -, _, -, _, -, _, -, _, -, _, -, _, -, _, -, _, -,
    _, -, _, -, _, -, _, -, _, -, _, -, rfl⟩ := h
  refine ⟨?_, fun e he => ?_⟩
  · rintro rfl
    have hnil := List.forall₂_nil_right_iff.mp (mapM_ok_iff.mp hstatics)
    simp [hnil] at hset
  · obtain ⟨h, -, hh⟩ := exists_ok_of_mem_mapM hstatics he
    exact (staticHeader_ok_iff.mp hh).2

def build (b : HeaderSchemaBuilder) : AdapterResult HeaderSchema :=
  match hm : b.mapping with
  | .error e => .error e
  | .ok m =>
    match hc : m.validateCollisions with
    | .error e => .error e
    | .ok _ => .ok ⟨m, (static_of_mapping hm).1, (static_of_mapping hm).2, hc⟩

end HeaderSchemaBuilder

def pair (name : HeaderName) (value : String) : String × String := (name.asStr, value)

def validateNonempty (value : String) : AdapterResult Unit :=
  if trim value = "" then .error ⟨.invalidField⟩ else .ok ()

def trimmedNonempty (value : String) : AdapterResult String :=
  if trim value = "" then .error ⟨.invalidField⟩ else .ok (trim value)

def requiredResponseHeader (value : Option String) : AdapterResult String := do
  let value ← okOr value ⟨.missingField⟩
  let _ ← (HeaderValue.new value).mapError (fun _ => AdapterError.mk .invalidField)
  trimmedNonempty value

namespace HeaderSchema

variable (schema : HeaderSchema)

def requestAuthenticationContext (_ : ClientIdentity) (context : ProtocolRequestContext) :
    AdapterResult AuthenticationContext :=
  match schema.authentication with
  | .legacy => .ok .legacy
  | .contextBound => encodeRequestContext context.operation.1 context.metadata.requestId.1

def pinnedAuthentication : AdapterAuthentication :=
  match schema.authentication with
  | .legacy => .legacyPlaintext
  | .contextBound => .contextBound

def mappedHeaders (identity : ClientIdentity) (context : ProtocolRequestContext)
    (envelope : SecureEnvelope) : List (String × String) :=
  [pair schema.localIdentityHeader identity.localIdentityId.1,
    pair schema.operationHeader context.operation.1,
    pair schema.requestIdHeader context.metadata.requestId.1,
    pair schema.requestTimeHeader context.metadata.requestTime.1,
    pair schema.apiVersionHeader identity.apiVersion.1,
    pair schema.localCertificateHeader identity.localCertificateId.1,
    pair schema.remoteSigningCertificateHeader identity.expectedRemoteSigningCertificateId.1,
    pair schema.remoteEncryptionCertificateHeader identity.remoteEncryptionCertificateId.1,
    pair schema.requestSignatureHeader envelope.signature,
    pair schema.requestWrappedKeyHeader envelope.wrappedSessionKey]

def cipherHeaders (envelope : SecureEnvelope) : List (String × String) :=
  match schema.requestCipher with
  | .body => []
  | .header name => [pair name envelope.cipher]

def requestBody (envelope : SecureEnvelope) : String :=
  match schema.requestCipher with
  | .body => envelope.cipher
  | .header _ => ""

def buildRequest (identity : ClientIdentity) (context : ProtocolRequestContext)
    (envelope : SecureEnvelope) : AdapterResult RequestParts := do
  validateNonempty envelope.signature
  validateNonempty envelope.wrappedSessionKey
  validateNonempty envelope.cipher
  (RequestParts.new
    (schema.staticRequestHeaders.map Entry.texts ++
      schema.mappedHeaders identity context envelope ++ schema.cipherHeaders envelope)
    (schema.requestBody envelope)).mapError (fun _ => ⟨.invalidField⟩)

inductive ResponseField
  | signature
  | wrappedSessionKey
  | remoteSigningCertificateId
  | requestId
  | cipher
  deriving DecidableEq, Repr

def target (name : String) : Option ResponseField :=
  if eqIgnoreAsciiCase name schema.responseSignatureHeader.asStr then some .signature
  else if eqIgnoreAsciiCase name schema.responseWrappedKeyHeader.asStr then
    some .wrappedSessionKey
  else if eqIgnoreAsciiCase name schema.responseRemoteSigningCertificateHeader.asStr then
    some .remoteSigningCertificateId
  else if schema.authentication = .contextBound ∧
      eqIgnoreAsciiCase name schema.requestIdHeader.asStr then some .requestId
  else match schema.responseCipher with
    | .header cipherHeader =>
      if eqIgnoreAsciiCase name cipherHeader.asStr then some .cipher else none
    | .body => none

/-- One turn of the loop over the response headers. -/
def capture (found : ResponseField → Option String) (h : String × String) :
    AdapterResult (ResponseField → Option String) :=
  match schema.target h.1 with
  | none => .ok found
  | some field =>
    if (found field).isSome then .error ⟨.duplicateField⟩
    else .ok (Function.update found field (some h.2))

def responseContext (requestId : Option String) : AdapterResult AuthenticationContext :=
  match schema.authentication with
  | .legacy => .ok .legacy
  | .contextBound => do
    let value ← okOr requestId ⟨.missingField⟩
    let _ ← (HeaderValue.new value).mapError (fun _ => AdapterError.mk .invalidField)
    encodeResponseContext value

def responseCipherText (found : Option String) (body : String) : AdapterResult String :=
  match schema.responseCipher with
  | .body => trimmedNonempty body
  | .header _ => requiredResponseHeader found

def parseResponse (response : ResponseParts) : AdapterResult ParsedResponse := do
  let found ← response.headers.foldlM schema.capture (fun _ => none)
  let signature ← requiredResponseHeader (found .signature)
  let wrappedSessionKey ← requiredResponseHeader (found .wrappedSessionKey)
  let remoteSigningCertificateId ← requiredResponseHeader (found .remoteSigningCertificateId)
  let cipher ← schema.responseCipherText (found .cipher) response.body
  let authenticationContext ← schema.responseContext (found .requestId)
  ParsedResponse.new ⟨cipher, wrappedSessionKey, signature⟩ remoteSigningCertificateId
    authenticationContext

end HeaderSchema

def headerProtocolAdapter (schema : HeaderSchema) : ProtocolAdapter where
  requestAuthenticationContext := schema.requestAuthenticationContext
  buildRequest := schema.buildRequest
  parseResponse := schema.parseResponse
  pinnedAuthentication := some schema.pinnedAuthentication

namespace HeaderSchema

def emitted (schema : HeaderSchema) (identity : ClientIdentity) (context : ProtocolRequestContext)
    (envelope : SecureEnvelope) : List (String × String) :=
  schema.staticRequestHeaders.map Entry.texts ++ schema.mappedHeaders identity context envelope ++
    schema.cipherHeaders envelope

variable {schema : HeaderSchema} {identity : ClientIdentity} {context : ProtocolRequestContext}
variable {envelope : SecureEnvelope} {parts : RequestParts}

theorem map_fst_emitted : (schema.emitted identity context envelope).map Prod.fst =
    schema.requestNames.map HeaderName.asStr := by
  have hcipher : (schema.cipherHeaders envelope).map Prod.fst =
      schema.requestCipher.names.map HeaderName.asStr := by
    cases hc : schema.requestCipher <;> simp only [cipherHeaders, hc] <;> rfl
  rw [emitted, HeaderMapping.requestNames]
  simp only [List.map_append, List.map_map, hcipher]
  rfl

theorem uniqueKeys_emitted :
    UniqueKeys (fun h => toAsciiLowercase h.1) (schema.emitted identity context envelope) := by
  have hunique := (HeaderMapping.validateCollisions_ok_iff.mp schema.collision_free).1
  have hkeys : (fun h : String × String => toAsciiLowercase h.1) = toAsciiLowercase ∘ Prod.fst :=
    rfl
  rw [UniqueKeys, hkeys, ← List.map_map, map_fst_emitted]
  exact uniqueKeys_asStr.mp hunique

theorem isToken_of_mem_emitted {h : String × String}
    (hh : h ∈ schema.emitted identity context envelope) : isToken h.1 = true := by
  have hname : h.1 ∈ schema.requestNames.map HeaderName.asStr := by
    rw [← map_fst_emitted]
    exact List.mem_map_of_mem hh
  obtain ⟨name, -, hname⟩ := List.mem_map.mp hname
  rw [← hname]
  exact name.token

theorem validateNonempty_ok_iff {value : String} {u : Unit} :
    validateNonempty value = .ok u ↔ trim value ≠ "" := by
  unfold validateNonempty
  split <;> simp_all

theorem buildRequest_ok_iff : schema.buildRequest identity context envelope = .ok parts ↔
    (trim envelope.signature ≠ "" ∧ trim envelope.wrappedSessionKey ≠ "" ∧
      trim envelope.cipher ≠ "") ∧
    RequestParts.new (schema.emitted identity context envelope) (schema.requestBody envelope) =
      .ok parts := by
  simp only [buildRequest, bind_eq_ok_iff, mapError_ok_iff, validateNonempty_ok_iff, exists_const]
  constructor
  · rintro ⟨hs, hw, hc, hnew⟩
    exact ⟨⟨hs, hw, hc⟩, hnew⟩
  · rintro ⟨⟨hs, hw, hc⟩, hnew⟩
    exact ⟨hs, hw, hc, hnew⟩

theorem buildRequest_error {e : AdapterError}
    (h : schema.buildRequest identity context envelope = .error e) : e = ⟨.invalidField⟩ := by
  have hempty : ∀ value, validateNonempty value = .error e → e = ⟨.invalidField⟩ := by
    intro value he
    unfold validateNonempty at he
    split at he <;> cases he
    rfl
  simp only [buildRequest, bind_eq_error_iff] at h
  obtain h | ⟨-, -, h | ⟨-, -, h | ⟨-, -, h⟩⟩⟩ := h
  · exact hempty _ h
  · exact hempty _ h
  · exact hempty _ h
  · cases hnew : RequestParts.new _ (schema.requestBody envelope) with
    | ok parts => rw [hnew] at h; cases h
    | error _ => rw [hnew] at h; cases h; rfl

end HeaderSchema

theorem HeaderSchema.buildRequest_ok {schema : HeaderSchema} {identity : ClientIdentity}
    {context : ProtocolRequestContext} {envelope : SecureEnvelope} {parts : RequestParts}
    (h : schema.buildRequest identity context envelope = .ok parts) :
    parts.headers.entries.map Entry.texts = schema.staticRequestHeaders.map Entry.texts ++
        schema.mappedHeaders identity context envelope ++ schema.cipherHeaders envelope ∧
      parts.body = schema.requestBody envelope := by
  obtain ⟨hheaders, -, hbody⟩ := RequestParts.new_ok_iff.mp (buildRequest_ok_iff.mp h).2
  exact ⟨hheaders, hbody⟩

end EnvelopeLite.Adapter
