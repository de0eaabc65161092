import EnvelopeLite.Placement
import EnvelopeLite.ResponseGrammar

namespace EnvelopeLite.ResponsePath

open EnvelopeLite.Adapter EnvelopeLite.Auth EnvelopeLite.ByteFields EnvelopeLite.CallTrace
open EnvelopeLite.Client EnvelopeLite.Common EnvelopeLite.Config EnvelopeLite.EnvelopeCrypto
open EnvelopeLite.EnvelopeCrypto.SealPath EnvelopeLite.Header EnvelopeLite.HeaderContext
open EnvelopeLite.Message EnvelopeLite.Peers EnvelopeLite.Placement EnvelopeLite.Primitives
open EnvelopeLite.ReferencePrimitives EnvelopeLite.RequestPath EnvelopeLite.ResponseFields
open EnvelopeLite.ResponseGrammar EnvelopeLite.RoundTrip EnvelopeLite.Text

section Opening

variable {P : Platform} {client : SecureClient P} {schema : HeaderSchema}
variable {response : ResponseParts}

theorem parseResponse_ok_iff {parsed : ParsedResponse} :
    schema.parseResponse response = .ok parsed ↔
      grammar schema response = .ok parsed.intoParts := by
  rw [← parseResponse_map_eq_grammar, map_eq_ok_iff]
  constructor
  · intro h
    exact ⟨parsed, h, rfl⟩
  · rintro ⟨a, ha, hparts⟩
    rw [ha, ParsedResponse.intoParts_injective hparts]

theorem openResponse_ok_iff (hadapter : client.adapter = headerProtocolAdapter schema)
    {p : Bytes} :
    (client.openResponse response).outcome = .ok p ↔ ∃ envelope context,
      grammar schema response =
        .ok (envelope, client.config.identity.expectedRemoteSigningCertificateId.1, context) ∧
      (client.openEnvelope envelope context).outcome = .ok p := by
  have hparse : client.adapter.parseResponse = schema.parseResponse := by
    rw [hadapter]
    rfl
  simp only [SecureClient.openResponse, hparse, bind_ok_iff, ofExcept_ok_iff, mapError_ok_iff,
    ensure_ok_iff, parseResponse_ok_iff]
  constructor
  · rintro ⟨parsed, hgrammar, -, hclaim, hopen⟩
    refine ⟨parsed.envelope, parsed.authenticationContext, ?_, hopen⟩
    rw [hgrammar, ← hclaim]
    rfl
  · rintro ⟨envelope, context, hgrammar, hopen⟩
    exact ⟨⟨envelope, _, context⟩, hgrammar, (), rfl, hopen⟩

end Opening

/-- The response has the fields of an envelope, a certificate claim and, where the
schema binds it, a request id in the mapped places. Names may have any casing,
headers any order, and headers under other names do not matter. -/
structure Carries (schema : HeaderSchema) (response : ResponseParts) (envelope : SecureEnvelope)
    (certificate requestId : String) : Prop where
  signature : valuesOf response schema.responseSignatureHeader = [envelope.signature]
  wrapped : valuesOf response schema.responseWrappedKeyHeader = [envelope.wrappedSessionKey]
  certificate : valuesOf response schema.responseRemoteSigningCertificateHeader = [certificate]
  cipher_body : schema.responseCipher = .body → response.body = envelope.cipher
  cipher_header : ∀ name, schema.responseCipher = .header name →
    valuesOf response name = [envelope.cipher]
  requestId : schema.authentication = .contextBound →
    valuesOf response schema.requestIdHeader = [requestId]

def AnswersUnder (schema : HeaderSchema) (requestId : String) (context : AuthenticationContext) :
    Prop :=
  match schema.authentication with
  | .legacy => context = .legacy
  | .contextBound => isHeaderText requestId = true ∧ encodeResponseContext requestId = .ok context

section Grammar

variable {schema : HeaderSchema} {response : ResponseParts} {envelope : SecureEnvelope}
variable {certificate requestId : String} {context : AuthenticationContext}

theorem headerValue_placeable {s : String} (h : Placeable s) : headerValue [s] = .ok s :=
  headerValue_ok_iff.mpr ⟨s, rfl, h.legal, h.trim_ne_empty, h.trimmed⟩

theorem Carries.no_duplicate (h : Carries schema response envelope certificate requestId) :
    ¬ ∃ name ∈ schema.responseNames, 2 ≤ (valuesOf response name).length := by
  rintro ⟨name, hname, htwo⟩
  obtain ⟨field, hfield⟩ := mem_responseNames_iff.mp hname
  have hone : ∃ value, valuesOf response name = [value] := by
    cases field with
    | signature => cases hfield; exact ⟨_, h.signature⟩
    | wrappedSessionKey => cases hfield; exact ⟨_, h.wrapped⟩
    | remoteSigningCertificateId => cases hfield; exact ⟨_, h.certificate⟩
    | requestId =>
      obtain ⟨ha, rfl⟩ : schema.authentication = .contextBound ∧ schema.requestIdHeader = name := by
        simpa [fieldName] using hfield
      exact ⟨_, h.requestId ha⟩
    | cipher =>
      cases hc : schema.responseCipher with
      | body => simp [fieldName, hc] at hfield
      | header cipherName =>
        obtain rfl : cipherName = name := by simpa [fieldName, hc] using hfield
        exact ⟨_, h.cipher_header cipherName hc⟩
  obtain ⟨value, hvalue⟩ := hone
  rw [hvalue] at htwo
  exact absurd htwo (by simp)

theorem Carries.cipherField_eq (h : Carries schema response envelope certificate requestId)
    (hcipher : Placeable envelope.cipher) : cipherField schema response = .ok envelope.cipher := by
  cases hc : schema.responseCipher with
  | body =>
    simp only [cipherField, hc, h.cipher_body hc, bodyValue, hcipher.trimmed]
    exact if_pos hcipher.nonempty
  | header name =>
    simp only [cipherField, hc, h.cipher_header name hc]
    exact headerValue_placeable hcipher

theorem Carries.contextField_eq (h : Carries schema response envelope certificate requestId)
    (hcontext : AnswersUnder schema requestId context) :
    contextField schema response = .ok context := by
  unfold AnswersUnder at hcontext
  cases ha : schema.authentication with
  | legacy =>
    simp only [ha] at hcontext
    simp only [contextField, ha, hcontext]
  | contextBound =>
    simp only [ha] at hcontext
    obtain ⟨hlegal, hencode⟩ := hcontext
    rw [encodeResponseContext_eq] at hencode
    simp only [contextField, ha, h.requestId ha, requestIdContext, hlegal, true_and]
    exact hencode

/-- Of a response with placeable texts only the certificate claim is in question. -/
theorem Carries.grammar_eq (h : Carries schema response envelope certificate requestId)
    (hsignature : Placeable envelope.signature) (hwrapped : Placeable envelope.wrappedSessionKey)
    (hcipher : Placeable envelope.cipher) (hcontext : AnswersUnder schema requestId context) :
    grammar schema response =
      (headerValue [certificate]).map (fun claim => (envelope, claim, context)) := by
  rw [grammar, if_neg h.no_duplicate, checkedFields, h.signature, h.wrapped, h.certificate,
    headerValue_placeable hsignature, headerValue_placeable hwrapped, h.cipherField_eq hcipher,
    h.contextField_eq hcontext]
  cases headerValue [certificate] <;> rfl

end Grammar

/-- A correct response is opened exactly when the configured certificate id is one
that a header can carry unchanged. -/
theorem correct_response_opens_iff_claim_is_placeable (P : Platform) (laws : RoundTripLaws P)
    (texts : EnvelopeTextLaws P) (client : SecureClient P) (schema : HeaderSchema)
    (hadapter : client.adapter = headerProtocolAdapter schema) (peer : ClientConfig P.toTarget)
    (peerKeys : KeyMaterial P) (hm : Matched P peer peerKeys client.config client.keys)
    (random : Randomness P) (p : Bytes) (context : AuthenticationContext)
    (envelope : SecureEnvelope)
    (hseal : (sealEnvelope P peer peerKeys random p context).outcome = .ok envelope)
    (hp : p.length ≤ client.config.maxPlaintextBytes.1) (requestId : String)
    (hcontext : AnswersUnder schema requestId context) (response : ResponseParts)
    (hcarries : Carries schema response envelope
      client.config.identity.expectedRemoteSigningCertificateId.1 requestId) :
    (client.openResponse response).outcome = .ok p ↔
      isHeaderText client.config.identity.expectedRemoteSigningCertificateId.1 = true ∧
        trim client.config.identity.expectedRemoteSigningCertificateId.1 =
          client.config.identity.expectedRemoteSigningCertificateId.1 := by
  obtain ⟨hsignature, hwrapped, hcipher⟩ := placeable_of_sealed laws.base64 laws.cbc texts hseal
  have hopen : (client.openEnvelope envelope context).outcome = .ok p :=
    open_ok_of_within_limit laws hm hseal hp
  have hgrammar := hcarries.grammar_eq hsignature hwrapped hcipher hcontext
  rw [openResponse_ok_iff hadapter, hgrammar]
  constructor
  · rintro ⟨envelope', context', hparsed, -⟩
    obtain ⟨claim, hclaim, hparts⟩ := map_eq_ok_iff.mp hparsed
    obtain ⟨-, rfl, -⟩ : envelope = envelope' ∧ claim = _ ∧ context = context' := by
      simpa using hparts
    obtain ⟨value, hvalue, hlegal, -, htrim⟩ := headerValue_ok_iff.mp hclaim
    cases hvalue
    exact ⟨hlegal, htrim⟩
  · rintro ⟨hlegal, htrim⟩
    have hblank := trim_ne_empty_of_lineSafe
      client.config.identity.expectedRemoteSigningCertificateId.2
    refine ⟨envelope, context, ?_, hopen⟩
    rw [headerValue_ok_iff.mpr ⟨_, rfl, hlegal, hblank, htrim⟩]
    rfl

section Samples

def sampleResponseContext : AuthenticationContext := responseContextOf "request-1"

theorem sampleAnswer_sealed : (sealEnvelope (reference checksumSignature) sampleCcm (sampleKeys _)
    (sampleRandomness _) [1, 2, 3] sampleResponseContext).outcome.toOption.isSome = true := by
  decide +kernel

def sampleAnswer : SecureEnvelope :=
  (sealEnvelope (reference checksumSignature) sampleCcm (sampleKeys _) (sampleRandomness _)
    [1, 2, 3] sampleResponseContext).outcome.toOption.get sampleAnswer_sealed

def sampleResponse (certificate : String) : ResponseParts where
  headers := [("x-trace", "trace-1"), ("X-REQUEST-ID", "request-1"),
    ("x-wrapped-key", sampleAnswer.wrappedSessionKey), ("x-remote-signing", certificate),
    ("x-signature", sampleAnswer.signature)]
  body := sampleAnswer.cipher

theorem sampleAnswer_eq : (sealEnvelope (reference checksumSignature) sampleCcm (sampleKeys _)
    (sampleRandomness _) [1, 2, 3] sampleResponseContext).outcome = .ok sampleAnswer :=
  Outcome.eq_ok_get sampleAnswer_sealed

theorem sampleSchema_responseCipher : sampleSchema.responseCipher = .body := by
  have hnone : sampleSchema.responseCipher.names.isEmpty = true := by decide +kernel
  cases hc : sampleSchema.responseCipher with
  | body => rfl
  | header name => rw [hc] at hnone; cases hnone

theorem sampleSchema_answersUnder :
    AnswersUnder sampleSchema "request-1" sampleResponseContext := by
  rw [AnswersUnder, sampleSchema_authentication]
  decide +kernel

theorem sampleResponse_values : ∀ certificate ∈ ["id", " id"],
    valuesOf (sampleResponse certificate) sampleSchema.responseSignatureHeader =
      [sampleAnswer.signature] ∧
    valuesOf (sampleResponse certificate) sampleSchema.responseWrappedKeyHeader =
      [sampleAnswer.wrappedSessionKey] ∧
    valuesOf (sampleResponse certificate) sampleSchema.responseRemoteSigningCertificateHeader =
      [certificate] ∧
    valuesOf (sampleResponse certificate) sampleSchema.requestIdHeader = ["request-1"] := by
  decide +kernel

theorem sampleResponse_carries {certificate : String} (h : certificate ∈ ["id", " id"]) :
    Carries sampleSchema (sampleResponse certificate) sampleAnswer certificate "request-1" := by
  obtain ⟨hsignature, hwrapped, hcertificate, hrequestId⟩ := sampleResponse_values certificate h
  refine ⟨hsignature, hwrapped, hcertificate, fun _ => rfl, ?_, fun _ => hrequestId⟩
  intro name hname
  rw [sampleSchema_responseCipher] at hname
  cases hname

theorem sampleResponse_opens :
    (sampleClient.openResponse (sampleResponse "id")).outcome = .ok [1, 2, 3] := by
  rw [correct_response_opens_iff_claim_is_placeable (reference checksumSignature) reference_laws
    reference_texts sampleClient sampleSchema rfl sampleCcm (sampleKeys _) sampleCcm_matched
    (sampleRandomness _) [1, 2, 3] sampleResponseContext sampleAnswer sampleAnswer_eq (by decide)
    "request-1" sampleSchema_answersUnder (sampleResponse "id")
    (sampleResponse_carries (by decide))]
  decide

def paddedClient : SecureClient (reference checksumSignature) :=
  { sampleClient with config := { sampleCcm with
      identity := { sampleCcm.identity with
        expectedRemoteSigningCertificateId := ⟨" id", by decide⟩ } } }

/-- Even the verbatim claim is trimmed before it is compared, and then differs. -/
theorem padded_claim_is_refused :
    paddedClient.config.identity.expectedRemoteSigningCertificateId.1 = " id" ∧
    Matched (reference checksumSignature) sampleCcm (sampleKeys _) paddedClient.config
      paddedClient.keys ∧
    (sealEnvelope (reference checksumSignature) sampleCcm (sampleKeys _) (sampleRandomness _)
      [1, 2, 3] sampleResponseContext).outcome = .ok sampleAnswer ∧
    AnswersUnder sampleSchema "request-1" sampleResponseContext ∧
    Carries sampleSchema (sampleResponse " id") sampleAnswer " id" "request-1" ∧
    (paddedClient.openResponse (sampleResponse " id")).outcome = .err .protocolAdapter := by
  refine ⟨rfl, ⟨⟨⟨rfl, rfl⟩, rfl, rfl⟩, rfl, fun _ => rfl⟩, sampleAnswer_eq,
    sampleSchema_answersUnder, sampleResponse_carries (by decide), ?_⟩
  decide +kernel

end Samples

end EnvelopeLite.ResponsePath
