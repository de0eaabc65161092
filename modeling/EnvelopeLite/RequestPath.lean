import EnvelopeLite.Client
import EnvelopeLite.RoundTrip

namespace EnvelopeLite.RequestPath

open EnvelopeLite.Adapter EnvelopeLite.Auth EnvelopeLite.ByteFields EnvelopeLite.CallTrace
open EnvelopeLite.Client EnvelopeLite.Common EnvelopeLite.Config EnvelopeLite.EnvelopeCrypto
open EnvelopeLite.EnvelopeCrypto.OpenPath EnvelopeLite.Header EnvelopeLite.HeaderContext
open EnvelopeLite.Message EnvelopeLite.Peers EnvelopeLite.Primitives EnvelopeLite.RoundTrip
open EnvelopeLite.ReferencePrimitives EnvelopeLite.Text

def receivedCipher (schema : HeaderSchema) (parts : RequestParts) : Option String :=
  match schema.requestCipher with
  | .body => some parts.body
  | .header name => parts.header name.asStr

/-- What a peer does with a request: it reads the envelope from the mapped places,
and rebuilds the context from the operation and the request id that it received. -/
def receiveRequest (P : Platform) (config : ClientConfig P.toTarget) (keys : KeyMaterial P)
    (schema : HeaderSchema) (parts : RequestParts) : Run P Bytes := do
  let signature ← orFail (parts.header schema.requestSignatureHeader.asStr) .protocolAdapter
  let wrapped ← orFail (parts.header schema.requestWrappedKeyHeader.asStr) .protocolAdapter
  let cipher ← orFail (receivedCipher schema parts) .protocolAdapter
  let operation ← orFail (parts.header schema.operationHeader.asStr) .protocolAdapter
  let requestId ← orFail (parts.header schema.requestIdHeader.asStr) .protocolAdapter
  let context ← ofExcept ((encodeRequestContext operation requestId).mapError
    (fun _ => Error.protocolAdapter))
  openEnvelope P config keys ⟨cipher, wrapped, signature⟩ context

variable {P : Platform} {schema : HeaderSchema}

theorem receiveRequest_outcome {receiver : ClientConfig P.toTarget} {keys : KeyMaterial P}
    {identity : ClientIdentity} {protocol : ProtocolRequestContext} {envelope : SecureEnvelope}
    {context : AuthenticationContext} {parts : RequestParts}
    (hcontext : encodeRequestContext protocol.operation.1 protocol.metadata.requestId.1 =
      .ok context)
    (hbody : parts.body = schema.requestBody envelope)
    (hlookup : ∀ h ∈ schema.mappedHeaders identity protocol envelope ++
      schema.cipherHeaders envelope, parts.header h.1 = some h.2) {p : Bytes}
    (hopen : (openEnvelope P receiver keys envelope context).outcome = .ok p) :
    (receiveRequest P receiver keys schema parts).outcome = .ok p := by
  have hmapped : ∀ name value, pair name value ∈ schema.mappedHeaders identity protocol envelope →
      parts.header name.asStr = some value :=
    fun name value hmem => hlookup (pair name value) (List.mem_append_left _ hmem)
  have hsignature := hmapped schema.requestSignatureHeader envelope.signature
    (by simp [HeaderSchema.mappedHeaders])
  have hwrapped := hmapped schema.requestWrappedKeyHeader envelope.wrappedSessionKey
    (by simp [HeaderSchema.mappedHeaders])
  have hoperation := hmapped schema.operationHeader protocol.operation.1
    (by simp [HeaderSchema.mappedHeaders])
  have hrequestId := hmapped schema.requestIdHeader protocol.metadata.requestId.1
    (by simp [HeaderSchema.mappedHeaders])
  have hcipher : receivedCipher schema parts = some envelope.cipher := by
    cases hlocation : schema.requestCipher with
    | body =>
      rw [receivedCipher, hlocation, hbody, HeaderSchema.requestBody, hlocation]
    | header name =>
      have hmem : pair name envelope.cipher ∈ schema.cipherHeaders envelope := by
        rw [HeaderSchema.cipherHeaders, hlocation]
        exact List.mem_singleton_self _
      rw [receivedCipher, hlocation]
      exact hlookup (pair name envelope.cipher) (List.mem_append_right _ hmem)
  simp only [receiveRequest, bind_ok_iff, orFail_ok_iff, ofExcept_ok_iff, mapError_ok_iff]
  exact ⟨_, hsignature, _, hwrapped, _, hcipher, _, hoperation, _, hrequestId, _, hcontext, hopen⟩

/-- A request through the header adapter carries the sealed envelope, and every
header of the schema is found in it under any casing of its name. -/
theorem buildRequest_emits {client : SecureClient P}
    (hadapter : client.adapter = headerProtocolAdapter schema) {random : Randomness P} {p : Bytes}
    {request : RequestContext} {parts : RequestParts}
    (hrequest : (client.buildRequest random p request).outcome = .ok parts) :
    ∃ context envelope,
      schema.requestAuthenticationContext client.config.identity request.protocol =
        .ok context ∧
      (client.sealEnvelope random p context).outcome = .ok envelope ∧
      parts.headers.entries.map Entry.texts =
        schema.emitted client.config.identity request.protocol envelope ++
          request.additionalHeaders.entries.map Entry.texts ∧
      parts.body = schema.requestBody envelope ∧
      ∀ h ∈ schema.emitted client.config.identity request.protocol envelope,
        ∀ name, eqIgnoreAsciiCase h.1 name = true → parts.header name = some h.2 := by
  obtain ⟨context, envelope, emitted, hcontext, hseal, hemitted, hentries, hdistinct, hbody⟩ :=
    SecureClient.buildRequest_ok hrequest
  rw [hadapter] at hcontext hemitted
  obtain ⟨htexts, hemittedBody⟩ := HeaderSchema.buildRequest_ok hemitted
  have hheaders : parts.headers.entries.map Entry.texts =
      schema.emitted client.config.identity request.protocol envelope ++
        request.additionalHeaders.entries.map Entry.texts := by
    rw [hentries, List.map_append, htexts]
    rfl
  refine ⟨context, envelope, hcontext, hseal, hheaders, hbody.trans hemittedBody, ?_⟩
  intro h hmem name hname
  apply RequestParts.header_of_mem hdistinct ?_ hname
  rw [hheaders]
  exact List.mem_append_left _ hmem

theorem sampleCipherName_token : isToken "X-Cipher" = true := by decide

def sampleBuilder : HeaderSchemaBuilder where
  staticRequestHeaders := [("X-Protocol", "demo")]
  localIdentityHeader := "X-Identity"
  operationHeader := "X-Operation"
  requestIdHeader := "X-Request-Id"
  requestTimeHeader := "X-Request-Time"
  apiVersionHeader := "X-Api-Version"
  localCertificateHeader := "X-Certificate"
  remoteSigningCertificateHeader := "X-Remote-Signing"
  remoteEncryptionCertificateHeader := "X-Remote-Encryption"
  requestSignatureHeader := "X-Signature"
  requestWrappedKeyHeader := "X-Wrapped-Key"
  requestCipher := some (.header ⟨"X-Cipher", _, sampleCipherName_token, rfl⟩)
  responseSignatureHeader := "X-Signature"
  responseWrappedKeyHeader := "X-Wrapped-Key"
  responseRemoteSigningCertificateHeader := "X-Remote-Signing"
  responseCipher := some .body
  contextBoundAuthentication := true

theorem sampleBuilder_builds : sampleBuilder.build.toOption.isSome = true := by
  decide +kernel

def sampleSchema : HeaderSchema := sampleBuilder.build.toOption.get sampleBuilder_builds

def sampleContextResult : Except Error RequestContext := do
  let metadata ← RequestMetadata.new "request-1" "2026-07-12-01.02.03.123456"
  let headers ← HeaderCollection.fromPairs [("X-Trace", "trace-1")]
  RequestContext.fromParts "transfer" metadata headers.entries

theorem sampleContextResult_ok : sampleContextResult.toOption.isSome = true := by
  decide +kernel

def sampleRequest : RequestContext := sampleContextResult.toOption.get sampleContextResult_ok

theorem sampleSchema_pin : ∀ pinned ∈ (headerProtocolAdapter sampleSchema).pinnedAuthentication,
    authenticationMatchesPin sampleCcm.authenticationMode pinned = true := by
  decide +kernel

theorem sampleSchema_authentication : sampleSchema.authentication = .contextBound := by
  decide +kernel

def sampleClient : SecureClient (reference checksumSignature) :=
  ⟨sampleCcm, sampleKeys _, headerProtocolAdapter sampleSchema, sampleSchema_pin⟩

end EnvelopeLite.RequestPath
