import EnvelopeLite.Adapter
import EnvelopeLite.EnvelopeCrypto.OpenPath
import EnvelopeLite.EnvelopeCrypto.SealPath

namespace EnvelopeLite.Client

open EnvelopeLite.Adapter EnvelopeLite.Auth EnvelopeLite.ByteFields EnvelopeLite.CallTrace
open EnvelopeLite.Common EnvelopeLite.Config EnvelopeLite.EnvelopeCrypto
open EnvelopeLite.Header EnvelopeLite.Message EnvelopeLite.Primitives

def authenticationMatchesPin (mode : AuthenticationMode) (pinned : AdapterAuthentication) : Bool :=
  match mode, pinned with
  | .legacyPlaintext, .legacyPlaintext => true
  | .contextBound _, .contextBound => true
  | _, _ => false

/-- A client agrees with whatever its adapter pins. -/
structure SecureClient (P : Platform) where
  config : ClientConfig P.toTarget
  keys : KeyMaterial P
  adapter : ProtocolAdapter
  pin_matches : ∀ pinned ∈ adapter.pinnedAuthentication,
    authenticationMatchesPin config.authenticationMode pinned = true

namespace SecureClient

variable {P : Platform}

def new (config : ClientConfig P.toTarget) (keys : KeyMaterial P) (adapter : ProtocolAdapter) :
    Except Error (SecureClient P) :=
  if h : ∀ pinned ∈ adapter.pinnedAuthentication,
      authenticationMatchesPin config.authenticationMode pinned = true then
    .ok ⟨config, keys, adapter, h⟩
  else .error .authenticationContext

variable (client : SecureClient P)

def sealEnvelope (random : Randomness P) (plaintext : Bytes) (context : AuthenticationContext) :
    Run P SecureEnvelope :=
  SealPath.sealEnvelope P client.config client.keys random plaintext context

def openEnvelope (envelope : SecureEnvelope) (context : AuthenticationContext) : Run P Bytes :=
  OpenPath.openEnvelope P client.config client.keys envelope context

def buildRequest (random : Randomness P) (plaintext : Bytes) (request : RequestContext) :
    Run P RequestParts := do
  let context ← ofExcept ((client.adapter.requestAuthenticationContext client.config.identity
    request.protocol).mapError (fun _ => Error.protocolAdapter))
  let envelope ← client.sealEnvelope random plaintext context
  let parts ← ofExcept ((client.adapter.buildRequest client.config.identity request.protocol
    envelope).mapError (fun _ => Error.protocolAdapter))
  ofExcept parts.validate
  ofExcept (parts.appendChecked request.additionalHeaders)

def openResponse (response : ResponseParts) : Run P Bytes := do
  let parsed ← ofExcept ((client.adapter.parseResponse response).mapError
    (fun _ => Error.protocolAdapter))
  ensure (parsed.remoteSigningCertificateId.1 =
    client.config.identity.expectedRemoteSigningCertificateId.1) .protocolAdapter
  client.openEnvelope parsed.envelope parsed.authenticationContext

theorem ends_openResponse (response : ResponseParts) :
    Ends (client.openResponse response) (fun _ => True)
      (fun e => e = .protocolAdapter ∨ e = .messageTooLarge client.config.maxPlaintextBytes.1 ∨
        e = .invalidEnvelope) := by
  rw [openResponse, ends_bind]
  apply ends_ofExcept_mapError ?_ (.inl rfl)
  intro parsed
  rw [ends_bind, ends_ensure]
  refine ⟨fun _ => ?_, fun _ => .inl rfl⟩
  apply (OpenPath.ends_openEnvelope client.config client.keys parsed.envelope
    parsed.authenticationContext).mono (fun _ _ => trivial)
  rintro e rfl
  split
  · exact .inr (.inl rfl)
  · exact .inr (.inr rfl)

theorem ends_buildRequest {random : Randomness P} {p : Bytes} {request : RequestContext}
    {S : Error → Prop}
    (hseal : ∀ context, client.adapter.requestAuthenticationContext client.config.identity
      request.protocol = .ok context →
      Ends (client.sealEnvelope random p context) (fun _ => True) S)
    (hadapter : S .protocolAdapter) (hconflict : S .headerConflict) :
    Ends (client.buildRequest random p request) (fun _ => True) S := by
  rw [buildRequest, ends_bind]
  cases hcontext : client.adapter.requestAuthenticationContext client.config.identity
      request.protocol with
  | error e => exact hadapter
  | ok context =>
    rw [Except.mapError, ofExcept_ok, ends_pure, ends_bind]
    apply (hseal context hcontext).mono ?_ (fun _ h => h)
    intro envelope _
    rw [ends_bind]
    apply ends_ofExcept_mapError ?_ hadapter
    intro parts
    rw [ends_bind, ends_ofExcept]
    refine ⟨fun _ _ => ends_ofExcept.mpr ⟨fun _ _ => trivial, ?_⟩, ?_⟩
    · intro e he
      rw [(RequestParts.appendChecked_error_iff.mp he).1]
      exact hconflict
    · intro e he
      rw [(HeaderCollection.revalidate_error_iff.mp he).1]
      exact hconflict

theorem openResponse_eq_fail {response : ResponseParts} {e : AdapterError}
    (h : client.adapter.parseResponse response = .error e) :
    client.openResponse response = fail .protocolAdapter := by
  rw [openResponse, h]
  rfl

/-- A parsed response is opened if it claims the expected certificate. -/
theorem openResponse_eq_ite {response : ResponseParts} {parsed : ParsedResponse}
    (h : client.adapter.parseResponse response = .ok parsed) :
    client.openResponse response =
      if parsed.remoteSigningCertificateId.1 =
          client.config.identity.expectedRemoteSigningCertificateId.1 then
        client.openEnvelope parsed.envelope parsed.authenticationContext
      else fail .protocolAdapter := by
  rw [openResponse, h, Except.mapError, ofExcept_ok, pure_bind]
  by_cases hclaim : parsed.remoteSigningCertificateId.1 =
      client.config.identity.expectedRemoteSigningCertificateId.1
  · rw [if_pos hclaim, ensure_pos hclaim, pure_bind]
  · rw [if_neg hclaim, ensure_neg hclaim, fail_bind]

variable {client}

theorem mode_of_schema {schema : HeaderSchema}
    (hadapter : client.adapter = headerProtocolAdapter schema) :
    (schema.authentication = .legacy ∧
      client.config.authenticationMode = .legacyPlaintext) ∨
    (schema.authentication = .contextBound ∧
      ∃ d, client.config.authenticationMode = .contextBound d) := by
  have hpinned : schema.pinnedAuthentication ∈ client.adapter.pinnedAuthentication := by
    rw [hadapter]
    rfl
  have hpin := client.pin_matches _ hpinned
  cases ha : schema.authentication with
  | legacy =>
    simp only [HeaderSchema.pinnedAuthentication, ha] at hpin
    cases hm : client.config.authenticationMode with
    | legacyPlaintext => exact .inl ⟨rfl, rfl⟩
    | contextBound d => rw [hm] at hpin; cases hpin
  | contextBound =>
    simp only [HeaderSchema.pinnedAuthentication, ha] at hpin
    cases hm : client.config.authenticationMode with
    | legacyPlaintext => rw [hm] at hpin; cases hpin
    | contextBound d => exact .inr ⟨rfl, d, rfl⟩

theorem exists_domain {schema : HeaderSchema}
    (hadapter : client.adapter = headerProtocolAdapter schema)
    (hbound : schema.authentication = .contextBound) :
    ∃ d, client.config.authenticationMode = .contextBound d := by
  obtain ⟨hlegacy, -⟩ | ⟨-, hmode⟩ := mode_of_schema hadapter
  · rw [hbound] at hlegacy
    cases hlegacy
  · exact hmode

/-- Building a request makes no other calls than those of its sealing. -/
theorem mem_log_buildRequest {random : Randomness P} {p : Bytes} {request : RequestContext}
    {c : P.Call} : c ∈ (client.buildRequest random p request).log ↔ ∃ context,
      client.adapter.requestAuthenticationContext client.config.identity request.protocol =
        .ok context ∧ c ∈ (client.sealEnvelope random p context).log := by
  simp [buildRequest]

theorem log_buildRequest {random : Randomness P} {p : Bytes} {request : RequestContext}
    {context : AuthenticationContext}
    (h : client.adapter.requestAuthenticationContext client.config.identity request.protocol =
      .ok context) :
    (client.buildRequest random p request).log = (client.sealEnvelope random p context).log := by
  rw [buildRequest, h, Except.mapError, ofExcept_ok, pure_bind]
  apply log_bind_of_silent
  intro envelope
  rw [List.eq_nil_iff_forall_not_mem]
  simp

theorem emits_openResponse {response : ResponseParts} {R : P.Call → Prop}
    (h : ∀ parsed, client.adapter.parseResponse response = .ok parsed →
      Emits (client.openEnvelope parsed.envelope parsed.authenticationContext) R) :
    Emits (client.openResponse response) R := by
  simp only [openResponse, emits_bind, emits_ofExcept, emits_ensure, ofExcept_ok_iff,
    mapError_ok_iff, true_and]
  exact fun parsed hparsed _ _ => h parsed hparsed

theorem openResponse_ok {response : ResponseParts} {p : Bytes}
    (h : (client.openResponse response).outcome = .ok p) :
    ∃ parsed, client.adapter.parseResponse response = .ok parsed ∧
      client.openResponse response =
        client.openEnvelope parsed.envelope parsed.authenticationContext := by
  obtain ⟨parsed, hparsed, -⟩ := bind_ok_iff.mp h
  rw [ofExcept_ok_iff, mapError_ok_iff] at hparsed
  have heq := client.openResponse_eq_ite hparsed
  refine ⟨parsed, hparsed, ?_⟩
  split at heq
  · exact heq
  · rw [heq] at h
    cases h

/-- A request is what the adapter emitted for the sealed envelope, followed by the
caller's headers; no two names in it are equal up to ASCII case. -/
theorem buildRequest_ok {random : Randomness P} {p : Bytes} {request : RequestContext}
    {parts : RequestParts} (h : (client.buildRequest random p request).outcome = .ok parts) :
    ∃ context envelope emitted,
      client.adapter.requestAuthenticationContext client.config.identity request.protocol =
        .ok context ∧
      (client.sealEnvelope random p context).outcome = .ok envelope ∧
      client.adapter.buildRequest client.config.identity request.protocol envelope =
        .ok emitted ∧
      parts.headers.entries = emitted.headers.entries ++ request.additionalHeaders.entries ∧
      parts.headers.Distinct ∧ parts.body = emitted.body := by
  simp only [buildRequest, bind_ok_iff, ofExcept_ok_iff, mapError_ok_iff,
    RequestParts.appendChecked_ok_iff] at h
  obtain ⟨context, hcontext, envelope, hseal, emitted, hemitted, -, -, hparts⟩ := h
  exact ⟨context, envelope, emitted, hcontext, hseal, hemitted, hparts⟩

end SecureClient

end EnvelopeLite.Client
