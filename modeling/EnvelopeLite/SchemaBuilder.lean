import EnvelopeLite.InPlace
import EnvelopeLite.ResponseFields

namespace EnvelopeLite.SchemaBuilder

open EnvelopeLite.Adapter EnvelopeLite.Common EnvelopeLite.Header EnvelopeLite.InPlace
open EnvelopeLite.KeyedLists EnvelopeLite.Message EnvelopeLite.ResponseFields EnvelopeLite.Text

/-- The thirteen builder methods that map a value to a header name. -/
inductive MappedHeader
  | localIdentityHeader
  | operationHeader
  | requestIdHeader
  | requestTimeHeader
  | apiVersionHeader
  | localCertificateHeader
  | remoteSigningCertificateHeader
  | remoteEncryptionCertificateHeader
  | requestSignatureHeader
  | requestWrappedKeyHeader
  | responseSignatureHeader
  | responseWrappedKeyHeader
  | responseRemoteSigningCertificateHeader
  deriving DecidableEq, Repr

def requestHeaders : List MappedHeader :=
  [.localIdentityHeader, .operationHeader, .requestIdHeader, .requestTimeHeader,
    .apiVersionHeader, .localCertificateHeader, .remoteSigningCertificateHeader,
    .remoteEncryptionCertificateHeader, .requestSignatureHeader, .requestWrappedKeyHeader]

def responseHeaders : List MappedHeader :=
  [.responseSignatureHeader, .responseWrappedKeyHeader, .responseRemoteSigningCertificateHeader]

section Fields

def mapHeader (b : HeaderSchemaBuilder) (name : String) : MappedHeader → HeaderSchemaBuilder
  | .localIdentityHeader => { b with localIdentityHeader := some name }
  | .operationHeader => { b with operationHeader := some name }
  | .requestIdHeader => { b with requestIdHeader := some name }
  | .requestTimeHeader => { b with requestTimeHeader := some name }
  | .apiVersionHeader => { b with apiVersionHeader := some name }
  | .localCertificateHeader => { b with localCertificateHeader := some name }
  | .remoteSigningCertificateHeader => { b with remoteSigningCertificateHeader := some name }
  | .remoteEncryptionCertificateHeader => { b with remoteEncryptionCertificateHeader := some name }
  | .requestSignatureHeader => { b with requestSignatureHeader := some name }
  | .requestWrappedKeyHeader => { b with requestWrappedKeyHeader := some name }
  | .responseSignatureHeader => { b with responseSignatureHeader := some name }
  | .responseWrappedKeyHeader => { b with responseWrappedKeyHeader := some name }
  | .responseRemoteSigningCertificateHeader =>
    { b with responseRemoteSigningCertificateHeader := some name }

def given (b : HeaderSchemaBuilder) : MappedHeader → Option String
  | .localIdentityHeader => b.localIdentityHeader
  | .operationHeader => b.operationHeader
  | .requestIdHeader => b.requestIdHeader
  | .requestTimeHeader => b.requestTimeHeader
  | .apiVersionHeader => b.apiVersionHeader
  | .localCertificateHeader => b.localCertificateHeader
  | .remoteSigningCertificateHeader => b.remoteSigningCertificateHeader
  | .remoteEncryptionCertificateHeader => b.remoteEncryptionCertificateHeader
  | .requestSignatureHeader => b.requestSignatureHeader
  | .requestWrappedKeyHeader => b.requestWrappedKeyHeader
  | .responseSignatureHeader => b.responseSignatureHeader
  | .responseWrappedKeyHeader => b.responseWrappedKeyHeader
  | .responseRemoteSigningCertificateHeader => b.responseRemoteSigningCertificateHeader

def mapped (m : HeaderMapping) : MappedHeader → HeaderName
  | .localIdentityHeader => m.localIdentityHeader
  | .operationHeader => m.operationHeader
  | .requestIdHeader => m.requestIdHeader
  | .requestTimeHeader => m.requestTimeHeader
  | .apiVersionHeader => m.apiVersionHeader
  | .localCertificateHeader => m.localCertificateHeader
  | .remoteSigningCertificateHeader => m.remoteSigningCertificateHeader
  | .remoteEncryptionCertificateHeader => m.remoteEncryptionCertificateHeader
  | .requestSignatureHeader => m.requestSignatureHeader
  | .requestWrappedKeyHeader => m.requestWrappedKeyHeader
  | .responseSignatureHeader => m.responseSignatureHeader
  | .responseWrappedKeyHeader => m.responseWrappedKeyHeader
  | .responseRemoteSigningCertificateHeader => m.responseRemoteSigningCertificateHeader

def mappingOf (statics : List Entry) (name : MappedHeader → HeaderName)
    (requestCipher responseCipher : CipherLocation) (authentication : HeaderAuthentication) :
    HeaderMapping where
  staticRequestHeaders := statics
  localIdentityHeader := name .localIdentityHeader
  operationHeader := name .operationHeader
  requestIdHeader := name .requestIdHeader
  requestTimeHeader := name .requestTimeHeader
  apiVersionHeader := name .apiVersionHeader
  localCertificateHeader := name .localCertificateHeader
  remoteSigningCertificateHeader := name .remoteSigningCertificateHeader
  remoteEncryptionCertificateHeader := name .remoteEncryptionCertificateHeader
  requestSignatureHeader := name .requestSignatureHeader
  requestWrappedKeyHeader := name .requestWrappedKeyHeader
  requestCipher := requestCipher
  responseSignatureHeader := name .responseSignatureHeader
  responseWrappedKeyHeader := name .responseWrappedKeyHeader
  responseRemoteSigningCertificateHeader := name .responseRemoteSigningCertificateHeader
  responseCipher := responseCipher
  authentication := authentication

theorem given_mapHeader (b : HeaderSchemaBuilder) (name : String) (header which : MappedHeader) :
    given (mapHeader b name header) which =
      if header = which then some name else given b which := by
  by_cases h : header = which
  · subst h
    cases header <;> rfl
  · rw [if_neg h]
    cases header <;> cases which <;> first | rfl | exact absurd rfl h

section Frame

variable {b : HeaderSchemaBuilder} {name : String} {header : MappedHeader}

theorem mapHeader_statics :
    (mapHeader b name header).staticRequestHeaders = b.staticRequestHeaders := by
  cases header <;> rfl

theorem mapHeader_requestCipher : (mapHeader b name header).requestCipher = b.requestCipher := by
  cases header <;> rfl

theorem mapHeader_responseCipher :
    (mapHeader b name header).responseCipher = b.responseCipher := by
  cases header <;> rfl

theorem mapHeader_legacy :
    (mapHeader b name header).legacyAuthentication = b.legacyAuthentication := by
  cases header <;> rfl

theorem mapHeader_contextBound :
    (mapHeader b name header).contextBoundAuthentication = b.contextBoundAuthentication := by
  cases header <;> rfl

end Frame

theorem mapped_mappingOf {statics : List Entry} {name : MappedHeader → HeaderName}
    {request response : CipherLocation} {authentication : HeaderAuthentication}
    (header : MappedHeader) :
    mapped (mappingOf statics name request response authentication) header = name header := by
  cases header <;> rfl

end Fields

inductive BuilderCall
  | staticRequestHeader (name value : String)
  | mapHeader (header : MappedHeader) (name : String)
  | requestCipher (location : CipherLocation)
  | responseCipher (location : CipherLocation)
  | legacyAuthentication
  | contextBoundAuthentication

namespace BuilderCall

def apply (b : HeaderSchemaBuilder) : BuilderCall → HeaderSchemaBuilder
  | .staticRequestHeader name value =>
    { b with staticRequestHeaders := b.staticRequestHeaders ++ [(name, value)] }
  | .mapHeader header name => SchemaBuilder.mapHeader b name header
  | .requestCipher location => { b with requestCipher := some location }
  | .responseCipher location => { b with responseCipher := some location }
  | .legacyAuthentication => { b with legacyAuthentication := true }
  | .contextBoundAuthentication => { b with contextBoundAuthentication := true }

def static? : BuilderCall → Option (String × String)
  | .staticRequestHeader name value => some (name, value)
  | _ => none

def name? (which : MappedHeader) : BuilderCall → Option String
  | .mapHeader header name => if header = which then some name else none
  | _ => none

def requestCipher? : BuilderCall → Option CipherLocation
  | .requestCipher location => some location
  | _ => none

def responseCipher? : BuilderCall → Option CipherLocation
  | .responseCipher location => some location
  | _ => none

def isLegacy : BuilderCall → Bool
  | .legacyAuthentication => true
  | _ => false

def isContextBound : BuilderCall → Bool
  | .contextBoundAuthentication => true
  | _ => false

end BuilderCall

def built (calls : List BuilderCall) : HeaderSchemaBuilder := calls.foldl BuilderCall.apply {}

section Calls

def statics (calls : List BuilderCall) : List (String × String) :=
  calls.filterMap BuilderCall.static?

def nameOf (calls : List BuilderCall) (header : MappedHeader) : Option String :=
  (calls.filterMap (BuilderCall.name? header)).getLast?

def requestCipherOf (calls : List BuilderCall) : Option CipherLocation :=
  (calls.filterMap BuilderCall.requestCipher?).getLast?

def responseCipherOf (calls : List BuilderCall) : Option CipherLocation :=
  (calls.filterMap BuilderCall.responseCipher?).getLast?

def legacyCalled (calls : List BuilderCall) : Bool := calls.any BuilderCall.isLegacy

def contextBoundCalled (calls : List BuilderCall) : Bool := calls.any BuilderCall.isContextBound

variable (calls : List BuilderCall)

theorem built_statics : (built calls).staticRequestHeaders = statics calls := by
  apply foldl_push HeaderSchemaBuilder.staticRequestHeaders
  intro b call
  cases call with
  | staticRequestHeader name value => rfl
  | mapHeader header name => rw [BuilderCall.apply, mapHeader_statics]; exact (List.append_nil _).symm
  | _ => exact (List.append_nil _).symm

theorem given_built (header : MappedHeader) : given (built calls) header = nameOf calls header := by
  have hstep : ∀ b call, given (BuilderCall.apply b call) header =
      (BuilderCall.name? header call).or (given b header) := by
    intro b call
    cases call with
    | mapHeader which name =>
      rw [BuilderCall.apply, given_mapHeader, BuilderCall.name?]
      split <;> rfl
    | _ => cases header <;> rfl
  have hnone : given {} header = none := by cases header <;> rfl
  have h := foldl_overwrite (fun b => given b header) hstep calls {}
  rwa [hnone, Option.or_none] at h

theorem built_requestCipher : (built calls).requestCipher = requestCipherOf calls := by
  have hstep : ∀ b call, (BuilderCall.apply b call).requestCipher =
      (BuilderCall.requestCipher? call).or b.requestCipher := by
    intro b call
    cases call with
    | mapHeader header name => exact mapHeader_requestCipher
    | _ => rfl
  have h := foldl_overwrite HeaderSchemaBuilder.requestCipher hstep calls {}
  rwa [Option.or_none] at h

theorem built_responseCipher : (built calls).responseCipher = responseCipherOf calls := by
  have hstep : ∀ b call, (BuilderCall.apply b call).responseCipher =
      (BuilderCall.responseCipher? call).or b.responseCipher := by
    intro b call
    cases call with
    | mapHeader header name => exact mapHeader_responseCipher
    | _ => rfl
  have h := foldl_overwrite HeaderSchemaBuilder.responseCipher hstep calls {}
  rwa [Option.or_none] at h

theorem built_legacy : (built calls).legacyAuthentication = legacyCalled calls := by
  have hstep : ∀ b call, (BuilderCall.apply b call).legacyAuthentication =
      (b.legacyAuthentication || BuilderCall.isLegacy call) := by
    intro b call
    cases call with
    | mapHeader header name =>
      rw [BuilderCall.apply, mapHeader_legacy]
      exact (Bool.or_false _).symm
    | legacyAuthentication => exact (Bool.or_true _).symm
    | _ => exact (Bool.or_false _).symm
  exact foldl_raise HeaderSchemaBuilder.legacyAuthentication hstep calls {}

theorem built_contextBound :
    (built calls).contextBoundAuthentication = contextBoundCalled calls := by
  have hstep : ∀ b call, (BuilderCall.apply b call).contextBoundAuthentication =
      (b.contextBoundAuthentication || BuilderCall.isContextBound call) := by
    intro b call
    cases call with
    | mapHeader header name =>
      rw [BuilderCall.apply, mapHeader_contextBound]
      exact (Bool.or_false _).symm
    | contextBoundAuthentication => exact (Bool.or_true _).symm
    | _ => exact (Bool.or_false _).symm
  exact foldl_raise HeaderSchemaBuilder.contextBoundAuthentication hstep calls {}

end Calls

section Building

theorem requiredHeader_ok_iff {value : Option String} {name : HeaderName} :
    requiredHeader value = .ok name ↔ value = some name.asStr := by
  simp only [requiredHeader, bind_eq_ok_iff, okOr_ok_iff, mapError_ok_iff, HeaderName.new_ok_iff]
  constructor
  · rintro ⟨text, hvalue, rfl⟩
    exact hvalue
  · intro h
    exact ⟨_, h, rfl⟩

theorem mapM_staticHeader_ok_iff {headers : List (String × String)} {entries : List Entry} :
    headers.mapM staticHeader = .ok entries ↔ entries.map Entry.texts = headers ∧
      ∀ e ∈ entries, trim (HeaderValue.asStr e.2) ≠ "" := by
  rw [mapM_ok_iff]
  simp only [staticHeader_ok_iff]
  constructor
  · intro h
    induction h with
    | nil => simp
    | cons hhead _ ih =>
      exact ⟨congrArg₂ List.cons hhead.1 ih.1, List.forall_mem_cons.mpr ⟨hhead.2, ih.2⟩⟩
  · rintro ⟨rfl, hblank⟩
    induction entries with
    | nil => exact .nil
    | cons e entries ih =>
      exact .cons ⟨rfl, hblank e List.mem_cons_self⟩
        (ih fun d hd => hblank d (List.mem_cons_of_mem _ hd))

variable {b : HeaderSchemaBuilder} {m : HeaderMapping}

/-- What `build` has checked when it comes to the collisions. -/
structure Mapped (b : HeaderSchemaBuilder) (m : HeaderMapping) : Prop where
  statics_ne_nil : b.staticRequestHeaders ≠ []
  statics_eq : m.staticRequestHeaders.map Entry.texts = b.staticRequestHeaders
  statics_nonblank : ∀ e ∈ m.staticRequestHeaders, trim (HeaderValue.asStr e.2) ≠ ""
  given_eq : ∀ header, given b header = some (mapped m header).asStr
  requestCipher_eq : b.requestCipher = some m.requestCipher
  responseCipher_eq : b.responseCipher = some m.responseCipher
  legacy_eq : b.legacyAuthentication = decide (m.authentication = .legacy)
  contextBound_eq : b.contextBoundAuthentication = decide (m.authentication = .contextBound)

theorem mapping_ok_iff : b.mapping = .ok m ↔ Mapped b m := by
  simp only [HeaderSchemaBuilder.mapping, ite_error_ok_iff, bind_eq_ok_iff,
    mapM_staticHeader_ok_iff, requiredHeader_ok_iff, okOr_ok_iff, Except.ok.injEq]
  constructor
  · rintro ⟨hset, hboth, hnone, statics, ⟨hstatics, hblank⟩, n1, h1, n2, h2, n3, h3, n4, h4, n5,
      h5, n6, h6, n7, h7, n8, h8, n9, h9, n10, h10, request, hrequest, n11, h11, n12, h12, n13,
      h13, response, hresponse, rfl⟩
    refine ⟨?_, hstatics, hblank, ?_, hrequest, hresponse, ?_, ?_⟩
    · intro hnil
      simp [hnil] at hset
    · intro header
      cases header <;> assumption
    · cases hl : b.legacyAuthentication <;> cases hc : b.contextBoundAuthentication <;> simp_all
    · cases hc : b.contextBoundAuthentication <;> rfl
  · intro h
    have hkind : (if b.contextBoundAuthentication = true then .contextBound else .legacy) =
        m.authentication := by
      rw [h.contextBound_eq]
      cases m.authentication <;> rfl
    refine ⟨?_, ?_, ?_, _, ⟨h.statics_eq, h.statics_nonblank⟩, _, h.given_eq .localIdentityHeader,
      _, h.given_eq .operationHeader, _, h.given_eq .requestIdHeader,
      _, h.given_eq .requestTimeHeader, _, h.given_eq .apiVersionHeader,
      _, h.given_eq .localCertificateHeader, _, h.given_eq .remoteSigningCertificateHeader,
      _, h.given_eq .remoteEncryptionCertificateHeader, _, h.given_eq .requestSignatureHeader,
      _, h.given_eq .requestWrappedKeyHeader, _, h.requestCipher_eq,
      _, h.given_eq .responseSignatureHeader, _, h.given_eq .responseWrappedKeyHeader,
      _, h.given_eq .responseRemoteSigningCertificateHeader, _, h.responseCipher_eq, ?_⟩
    · simp [h.statics_ne_nil, h.requestCipher_eq, h.responseCipher_eq]
    · rw [h.legacy_eq, h.contextBound_eq]
      cases m.authentication <;> decide
    · rw [h.legacy_eq, h.contextBound_eq]
      cases m.authentication <;> decide
    · rw [hkind]
      rfl

theorem build_of_mapping (hm : b.mapping = .ok m) (hc : m.validateCollisions = .ok ()) :
    b.build = .ok ⟨m, (HeaderSchemaBuilder.static_of_mapping hm).1,
      (HeaderSchemaBuilder.static_of_mapping hm).2, hc⟩ := by
  unfold HeaderSchemaBuilder.build
  split
  · next e he => rw [hm] at he; cases he
  · next m' hm' =>
    obtain rfl : m = m' := Except.ok.inj (hm.symm.trans hm')
    split
    · next e he => rw [hc] at he; cases he
    · rfl

theorem mapping_of_build {schema : HeaderSchema} (h : b.build = .ok schema) :
    b.mapping = .ok schema.toHeaderMapping := by
  unfold HeaderSchemaBuilder.build at h
  split at h
  · cases h
  · next m hm =>
    split at h
    · cases h
    · cases h
      exact hm

theorem exists_build_iff : (∃ schema, b.build = .ok schema) ↔
    ∃ m, Mapped b m ∧ UniqueKeys HeaderName.canonical m.requestNames ∧
      UniqueKeys HeaderName.canonical m.responseNames := by
  simp only [← mapping_ok_iff]
  constructor
  · rintro ⟨schema, h⟩
    exact ⟨_, mapping_of_build h, HeaderMapping.validateCollisions_ok_iff.mp schema.collision_free⟩
  · rintro ⟨m, hm, hunique⟩
    exact ⟨_, build_of_mapping hm (HeaderMapping.validateCollisions_ok_iff.mpr hunique)⟩

end Building

section Names

def cipherNames (location : Option CipherLocation) : List String :=
  (location.toList.flatMap CipherLocation.names).map HeaderName.asStr

/-- The names that requests would carry, in the order of emission. -/
def requestNames (calls : List BuilderCall) : List String :=
  (statics calls).map Prod.fst ++ requestHeaders.filterMap (nameOf calls) ++
    cipherNames (requestCipherOf calls)

/-- The names that would be looked for in responses. The request id is one of them
only if it is authenticated. -/
def responseNames (calls : List BuilderCall) : List String :=
  responseHeaders.filterMap (nameOf calls) ++ cipherNames (responseCipherOf calls) ++
    if contextBoundCalled calls then (nameOf calls .requestIdHeader).toList else []

/-- A complete schema in which no name of one direction is used twice. -/
structure Unambiguous (calls : List BuilderCall) : Prop where
  static_added : statics calls ≠ []
  names_set : ∀ header, ∃ name, nameOf calls header = some name ∧ isToken name = true
  requestCipher_set : (requestCipherOf calls).isSome
  responseCipher_set : (responseCipherOf calls).isSome
  one_kind : legacyCalled calls ≠ contextBoundCalled calls
  statics_legal : ∀ h ∈ statics calls,
    isToken h.1 = true ∧ trim h.2 ≠ "" ∧ isHeaderText h.2 = true
  request_distinct : UniqueKeys toAsciiLowercase (requestNames calls)
  response_distinct : UniqueKeys toAsciiLowercase (responseNames calls)

variable {calls : List BuilderCall} {m : HeaderMapping}

theorem Mapped.nameOf_eq (h : Mapped (built calls) m) :
    nameOf calls = fun header => some (mapped m header).asStr := by
  funext header
  rw [← given_built, h.given_eq]

theorem Mapped.requestNames_eq (h : Mapped (built calls) m) :
    requestNames calls = m.requestNames.map HeaderName.asStr := by
  have hstatics : (statics calls).map Prod.fst =
      (m.staticRequestHeaders.map Prod.fst).map HeaderName.asStr := by
    rw [← built_statics, ← h.statics_eq, List.map_map, List.map_map]
    rfl
  have hcipher : requestCipherOf calls = some m.requestCipher := by
    rw [← built_requestCipher, h.requestCipher_eq]
  rw [requestNames, h.nameOf_eq, hstatics, hcipher, HeaderMapping.requestNames]
  simp only [List.map_append, List.append_assoc]
  congr 2
  simp [cipherNames]

theorem Mapped.responseNames_eq (h : Mapped (built calls) m) :
    responseNames calls = m.responseNames.map HeaderName.asStr := by
  have hcipher : responseCipherOf calls = some m.responseCipher := by
    rw [← built_responseCipher, h.responseCipher_eq]
  have hkind : contextBoundCalled calls = decide (m.authentication = .contextBound) := by
    rw [← built_contextBound, h.contextBound_eq]
  rw [responseNames, h.nameOf_eq, hcipher, hkind, HeaderMapping.responseNames]
  cases m.authentication <;>
    simp [cipherNames, responseHeaders, mapped, HeaderMapping.mappedResponseNames]

theorem Mapped.unambiguous (h : Mapped (built calls) m)
    (hrequest : UniqueKeys HeaderName.canonical m.requestNames)
    (hresponse : UniqueKeys HeaderName.canonical m.responseNames) : Unambiguous calls where
  static_added := by
    rw [← built_statics]
    exact h.statics_ne_nil
  names_set := by
    intro header
    refine ⟨(mapped m header).asStr, ?_, (mapped m header).token⟩
    rw [h.nameOf_eq]
  requestCipher_set := by
    rw [← built_requestCipher, h.requestCipher_eq]
    rfl
  responseCipher_set := by
    rw [← built_responseCipher, h.responseCipher_eq]
    rfl
  one_kind := by
    rw [← built_legacy, ← built_contextBound, h.legacy_eq, h.contextBound_eq]
    cases m.authentication <;> decide
  statics_legal := by
    intro t ht
    rw [← built_statics, ← h.statics_eq] at ht
    obtain ⟨e, he, rfl⟩ := List.mem_map.mp ht
    exact ⟨e.1.token, h.statics_nonblank e he, e.2.2⟩
  request_distinct := by
    rw [h.requestNames_eq]
    exact uniqueKeys_asStr.mp hrequest
  response_distinct := by
    rw [h.responseNames_eq]
    exact uniqueKeys_asStr.mp hresponse

theorem Unambiguous.exists_mapped (h : Unambiguous calls) : ∃ m, Mapped (built calls) m := by
  choose name hname htoken using h.names_set
  obtain ⟨request, hrequest⟩ := Option.isSome_iff_exists.mp h.requestCipher_set
  obtain ⟨response, hresponse⟩ := Option.isSome_iff_exists.mp h.responseCipher_set
  obtain ⟨entries, hentries⟩ := exists_entries fun t ht =>
    ⟨(h.statics_legal t ht).1, (h.statics_legal t ht).2.2⟩
  -- the last name given for each value is the one that `build` reads
  let names (header : MappedHeader) : HeaderName := ⟨name header, _, htoken header, rfl⟩
  let kind : HeaderAuthentication := if contextBoundCalled calls then .contextBound else .legacy
  refine ⟨mappingOf entries names request response kind, ?_, ?_, ?_, ?_, ?_, ?_, ?_, ?_⟩
  · rw [built_statics]
    exact h.static_added
  · rw [built_statics]
    exact hentries
  · intro e he
    have hmem : e.texts ∈ statics calls := by
      rw [← hentries]
      exact List.mem_map_of_mem he
    exact (h.statics_legal e.texts hmem).2.1
  · intro header
    rw [given_built, mapped_mappingOf, hname]
    rfl
  · rw [built_requestCipher]
    exact hrequest
  · rw [built_responseCipher]
    exact hresponse
  · have hone := h.one_kind
    rw [built_legacy]
    change legacyCalled calls = decide (kind = .legacy)
    cases hl : legacyCalled calls <;> cases hc : contextBoundCalled calls <;> simp_all [kind]
  · rw [built_contextBound]
    change contextBoundCalled calls = decide (kind = .contextBound)
    cases hc : contextBoundCalled calls <;> simp [kind, hc]

theorem exists_schema_iff : (∃ schema, (built calls).build = .ok schema) ↔ Unambiguous calls := by
  rw [exists_build_iff]
  constructor
  · rintro ⟨m, hm, hrequest, hresponse⟩
    exact hm.unambiguous hrequest hresponse
  · intro h
    obtain ⟨m, hm⟩ := h.exists_mapped
    have hrequest := h.request_distinct
    have hresponse := h.response_distinct
    rw [hm.requestNames_eq] at hrequest
    rw [hm.responseNames_eq] at hresponse
    exact ⟨m, hm, uniqueKeys_asStr.mpr hrequest, uniqueKeys_asStr.mpr hresponse⟩

end Names

section Schemas

def kindCall : HeaderAuthentication → BuilderCall
  | .legacy => .legacyAuthentication
  | .contextBound => .contextBoundAuthentication

def callsFor (m : HeaderMapping) : List BuilderCall :=
  m.staticRequestHeaders.map (fun e => .staticRequestHeader e.1.asStr (HeaderValue.asStr e.2)) ++
    (requestHeaders ++ responseHeaders).map (fun h => .mapHeader h (mapped m h).asStr) ++
    [.requestCipher m.requestCipher, .responseCipher m.responseCipher, kindCall m.authentication]

theorem filterMap_callsFor (m : HeaderMapping) {α : Type} {given : BuilderCall → Option α}
    (hstatic : ∀ name value, given (.staticRequestHeader name value) = none) :
    (callsFor m).filterMap given =
      (requestHeaders ++ responseHeaders).filterMap
        (fun h => given (.mapHeader h (mapped m h).asStr)) ++
      [.requestCipher m.requestCipher, .responseCipher m.responseCipher,
        kindCall m.authentication].filterMap given := by
  have hskip : (m.staticRequestHeaders.map fun e => BuilderCall.staticRequestHeader e.1.asStr
      (HeaderValue.asStr e.2)).filterMap given = [] := by
    rw [List.filterMap_map, List.filterMap_eq_nil_iff]
    exact fun e _ => hstatic _ _
  rw [callsFor, List.filterMap_append, List.filterMap_append, hskip, List.filterMap_map]
  rfl

theorem statics_callsFor (m : HeaderMapping) :
    statics (callsFor m) = m.staticRequestHeaders.map Entry.texts := by
  have hstatics : (m.staticRequestHeaders.map fun e => BuilderCall.staticRequestHeader e.1.asStr
      (HeaderValue.asStr e.2)).filterMap BuilderCall.static? =
        m.staticRequestHeaders.map Entry.texts := by
    rw [List.filterMap_map]
    exact congrFun List.filterMap_eq_map m.staticRequestHeaders
  rw [statics, callsFor, List.filterMap_append, List.filterMap_append, hstatics, List.append_assoc]
  cases m.authentication <;> exact List.append_nil _

theorem nameOf_callsFor (m : HeaderMapping) (header : MappedHeader) :
    nameOf (callsFor m) header = some (mapped m header).asStr := by
  rw [nameOf, filterMap_callsFor m fun _ _ => rfl]
  cases m.authentication <;> cases header <;> rfl

theorem mapped_built_callsFor (schema : HeaderSchema) :
    Mapped (built (callsFor schema.toHeaderMapping)) schema.toHeaderMapping where
  statics_ne_nil := by
    rw [built_statics, statics_callsFor]
    simpa using schema.static_ne_nil
  statics_eq := by rw [built_statics, statics_callsFor]
  statics_nonblank := schema.static_nonblank
  given_eq := by
    intro header
    rw [given_built, nameOf_callsFor]
  requestCipher_eq := by
    rw [built_requestCipher, requestCipherOf, filterMap_callsFor _ fun _ _ => rfl]
    cases schema.authentication <;> rfl
  responseCipher_eq := by
    rw [built_responseCipher, responseCipherOf, filterMap_callsFor _ fun _ _ => rfl]
    cases schema.authentication <;> rfl
  legacy_eq := by
    rw [built_legacy, legacyCalled]
    cases hk : schema.authentication <;> simp [callsFor, BuilderCall.isLegacy, kindCall, hk]
  contextBound_eq := by
    rw [built_contextBound, contextBoundCalled]
    cases hk : schema.authentication <;> simp [callsFor, BuilderCall.isContextBound, kindCall, hk]

/-- The invariants carried by a schema are exactly what the builder checks: every
schema is returned for some sequence of calls. -/
theorem exists_calls (schema : HeaderSchema) : ∃ calls, (built calls).build = .ok schema := by
  have hm := mapping_ok_iff.mpr (mapped_built_callsFor schema)
  exact ⟨callsFor schema.toHeaderMapping, build_of_mapping hm schema.collision_free⟩

end Schemas

section Branches

variable {schema : HeaderSchema} {name : String}

def branchHolds (schema : HeaderSchema) (name : String) (field : HeaderSchema.ResponseField) : Bool :=
  (fieldName schema field).any fun n => eqIgnoreAsciiCase name n.asStr

theorem branchHolds_iff {field : HeaderSchema.ResponseField} :
    branchHolds schema name field = true ↔ Matches schema name field := by
  rw [branchHolds, Option.any_eq_true]
  rfl

/-- The chain finds the same branch in whatever order it tries them. -/
theorem find?_branchHolds_eq_target {order : List HeaderSchema.ResponseField}
    (hall : ∀ field, field ∈ order) :
    order.find? (branchHolds schema name) = schema.target name := by
  cases ht : schema.target name with
  | none =>
    rw [List.find?_eq_none]
    intro field _ hfield
    exact not_matches_of_target_eq_none ht field (branchHolds_iff.mp hfield)
  | some field =>
    have hfield := matches_of_target ht
    cases hfind : order.find? (branchHolds schema name) with
    | none =>
      rw [List.find?_eq_none] at hfind
      exact absurd (branchHolds_iff.mpr hfield) (hfind field (hall field))
    | some other =>
      have hother := branchHolds_iff.mp (List.find?_some hfind)
      rw [hother.unique hfield]

end Branches

theorem builder_accepts_exactly_the_unambiguous_schemas (calls : List BuilderCall) :
    ((∃ schema, (built calls).build = .ok schema) ↔ Unambiguous calls) ∧
    ∀ schema, (built calls).build = .ok schema →
      (∀ identity context envelope, RequestParts.new (schema.emitted identity context envelope)
        (schema.requestBody envelope) ≠ .error .headerConflict) ∧
      (∀ name f g, branchHolds schema name f = true → branchHolds schema name g = true → f = g) ∧
      ∀ name (order : List HeaderSchema.ResponseField), (∀ field, field ∈ order) →
        order.find? (branchHolds schema name) = schema.target name := by
  refine ⟨exists_schema_iff, fun schema _ => ⟨?_, ?_, ?_⟩⟩
  · exact fun _ _ _ => RequestParts.new_ne_conflict HeaderSchema.uniqueKeys_emitted
  · exact fun name f g hf hg => (branchHolds_iff.mp hf).unique (branchHolds_iff.mp hg)
  · exact fun name order hall => find?_branchHolds_eq_target hall

end EnvelopeLite.SchemaBuilder
