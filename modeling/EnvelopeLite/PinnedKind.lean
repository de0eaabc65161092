import EnvelopeLite.Client
import EnvelopeLite.SealOutcomes

namespace EnvelopeLite.PinnedKind

open EnvelopeLite.Adapter EnvelopeLite.Auth EnvelopeLite.ByteFields EnvelopeLite.CallTrace
open EnvelopeLite.Client EnvelopeLite.Common EnvelopeLite.Config EnvelopeLite.EnvelopeCrypto
open EnvelopeLite.HeaderContext EnvelopeLite.Message EnvelopeLite.Primitives
open EnvelopeLite.SealOutcomes EnvelopeLite.Text

/-- Some run of the adapter, for a request or on a response, yields the context. -/
inductive Provides (adapter : ProtocolAdapter) (context : AuthenticationContext) : Prop
  | request {identity : ClientIdentity} {protocol : ProtocolRequestContext}
      (h : adapter.requestAuthenticationContext identity protocol = .ok context)
  | response {response : ResponseParts} {parsed : ParsedResponse}
      (h : adapter.parseResponse response = .ok parsed)
      (context_eq : parsed.authenticationContext = context)

variable {schema : HeaderSchema} {context : AuthenticationContext} {mode : AuthenticationMode}

section Kinds

def UsesKind (schema : HeaderSchema) (context : AuthenticationContext) : Prop :=
  match schema.authentication with
  | .legacy => context.kind = .legacy
  | .contextBound => ∃ bytes, context.kind = .bound bytes

theorem usesKind_of_bound {m : BoundFields} (h : m.encode = .ok context)
    (hbound : schema.authentication = .contextBound) : UsesKind schema context := by
  rw [UsesKind, hbound]
  exact ⟨m.bytes, (BoundFields.encode_ok_iff.mp h).2⟩

theorem usesKind_of_legacy (h : Except.ok .legacy = (.ok context : AdapterResult _))
    (hlegacy : schema.authentication = .legacy) : UsesKind schema context := by
  cases h
  rw [UsesKind, hlegacy]
  rfl

theorem usesKind_of_responseContext {requestId : Option String}
    (h : schema.responseContext requestId = .ok context) : UsesKind schema context := by
  cases hauth : schema.authentication with
  | legacy =>
    rw [HeaderSchema.responseContext, hauth] at h
    exact usesKind_of_legacy h hauth
  | contextBound =>
    simp only [HeaderSchema.responseContext, hauth, bind_eq_ok_iff] at h
    obtain ⟨value, -, -, -, h⟩ := h
    exact usesKind_of_bound (m := .response value) h hauth

/-- Requests and responses draw their context from the same field of the schema. -/
theorem Provides.usesKind (h : Provides (headerProtocolAdapter schema) context) :
    UsesKind schema context := by
  cases h with
  | @request identity protocol h =>
    change schema.requestAuthenticationContext identity protocol = .ok context at h
    cases hauth : schema.authentication with
    | legacy =>
      rw [HeaderSchema.requestAuthenticationContext, hauth] at h
      exact usesKind_of_legacy h hauth
    | contextBound =>
      rw [HeaderSchema.requestAuthenticationContext, hauth] at h
      exact usesKind_of_bound
        (m := .request protocol.operation.1 protocol.metadata.requestId.1) h hauth
  | @response response parsed h context_eq =>
    change schema.parseResponse response = .ok parsed at h
    simp only [HeaderSchema.parseResponse, bind_eq_ok_iff, ParsedResponse.new_ok_iff] at h
    obtain ⟨found, -, _, -, _, -, _, -, _, -, context', hcontext, hparts⟩ := h
    have hsame : parsed.authenticationContext = context' := congrArg (fun t => t.2.2) hparts
    obtain rfl : context' = context := hsame.symm.trans context_eq
    exact usesKind_of_responseContext hcontext

theorem UsesKind.accepts_iff (h : UsesKind schema context) : mode.Accepts context.kind ↔
    authenticationMatchesPin mode schema.pinnedAuthentication = true := by
  cases hauth : schema.authentication with
  | legacy =>
    rw [UsesKind, hauth] at h
    rw [h, HeaderSchema.pinnedAuthentication, hauth]
    cases mode <;> simp [AuthenticationMode.Accepts, authenticationMatchesPin]
  | contextBound =>
    rw [UsesKind, hauth] at h
    obtain ⟨bytes, hkind⟩ := h
    rw [hkind, HeaderSchema.pinnedAuthentication, hauth]
    cases mode <;> simp [AuthenticationMode.Accepts, authenticationMatchesPin]

theorem exactTrim_id : ExactTrim "id" := by unfold ExactTrim; decide

theorem exists_provides (schema : HeaderSchema) :
    ∃ context, Provides (headerProtocolAdapter schema) context := by
  let line : LineSafe := ⟨"id", by decide⟩
  let identity : ClientIdentity := ⟨line, line, line, line, line⟩
  let protocol : ProtocolRequestContext := ⟨line, line, line⟩
  have hyields : ∃ context, schema.requestAuthenticationContext identity protocol = .ok context := by
    cases hauth : schema.authentication with
    | legacy =>
      rw [HeaderSchema.requestAuthenticationContext, hauth]
      exact ⟨_, rfl⟩
    | contextBound =>
      rw [HeaderSchema.requestAuthenticationContext, hauth]
      apply (BoundFields.exists_encode_iff (m := .request "id" "id") ?_).mpr
      · simp [BoundFields.values, exactTrim_id]
      · simp [BoundFields.values]
        decide
  obtain ⟨context, h⟩ := hyields
  exact ⟨context, @Provides.request _ _ identity protocol h⟩

end Kinds

section Clients

variable {P : Platform} {config : ClientConfig P.toTarget} {keys : KeyMaterial P}
variable {adapter : ProtocolAdapter} {client : SecureClient P}

theorem new_ok (h : SecureClient.new config keys adapter = .ok client) :
    client.config = config ∧ client.keys = keys ∧ client.adapter = adapter := by
  unfold SecureClient.new at h
  split at h
  · cases h
    exact ⟨rfl, rfl, rfl⟩
  · cases h

theorem new_error_iff : SecureClient.new config keys (headerProtocolAdapter schema) =
    .error .authenticationContext ↔
      ¬ authenticationMatchesPin config.authenticationMode schema.pinnedAuthentication = true := by
  have hpins : (∀ pinned ∈ (headerProtocolAdapter schema).pinnedAuthentication,
      authenticationMatchesPin config.authenticationMode pinned = true) ↔
      authenticationMatchesPin config.authenticationMode schema.pinnedAuthentication = true := by
    simp [headerProtocolAdapter]
  rw [← hpins]
  unfold SecureClient.new
  split <;> simp_all

/-- A schema's contexts are all of one kind, so one of the wrong kind means that the
pin does not match. -/
theorem new_error_iff_provides : SecureClient.new config keys (headerProtocolAdapter schema) =
    .error .authenticationContext ↔
      ∃ context, Provides (headerProtocolAdapter schema) context ∧
        ¬ config.authenticationMode.Accepts context.kind := by
  rw [new_error_iff]
  constructor
  · intro hpin
    -- every schema serves some request, and a pin that does not match refuses its context
    obtain ⟨context, hprovides⟩ := exists_provides schema
    exact ⟨context, hprovides, fun h => hpin (hprovides.usesKind.accepts_iff.mp h)⟩
  · rintro ⟨context, hprovides, hkind⟩ hpin
    exact hkind (hprovides.usesKind.accepts_iff.mpr hpin)

theorem accepts_of_provides
    (hnew : SecureClient.new config keys (headerProtocolAdapter schema) = .ok client)
    (hprovides : Provides (headerProtocolAdapter schema) context) :
    config.authenticationMode.Accepts context.kind := by
  by_contra hkind
  rw [new_error_iff_provides.mpr ⟨context, hprovides, hkind⟩] at hnew
  cases hnew

theorem ends_sealEnvelope_of_accepts {random : Randomness P} {p : Bytes}
    (haccepts : config.authenticationMode.Accepts context.kind)
    (hfits : LengthsFit P.toTarget config.authenticationMode context p)
    (halloc : OutputsAllocatable P config keys random p) :
    Ends (SealPath.sealEnvelope P config keys random p context) (fun _ => True)
      (fun e => e = .messageTooLarge config.maxPlaintextBytes.1 ∨ e = .encryption) := by
  by_cases hlimit : p.length ≤ config.maxPlaintextBytes.1
  · apply (ends_sealEnvelope hlimit haccepts hfits halloc).mono (fun _ h => h)
    exact fun e h => .inr h.1
  · rw [sealEnvelope_of_too_long (not_le.mp hlimit)]
    exact .inl rfl

end Clients

theorem pinned_client_never_meets_the_wrong_kind (P : Platform) (config : ClientConfig P.toTarget)
    (keys : KeyMaterial P) (schema : HeaderSchema) :
    let adapter := headerProtocolAdapter schema
    let mode := config.authenticationMode
    let limit := config.maxPlaintextBytes.1
    (∀ client : SecureClient P, SecureClient.new config keys adapter = .ok client →
      (∀ context, Provides adapter context → mode.Accepts context.kind ∧
        ∀ p, LengthsFit P.toTarget mode context p →
          (∃ input, mode.authenticationInput P.toTarget context p = .ok input) ∧
          ∀ header, ∃ aad, mode.aeadAad P.toTarget context header = .ok aad) ∧
      (∀ (random : Randomness P) (p : Bytes) (request : RequestContext),
        (∀ context, adapter.requestAuthenticationContext config.identity request.protocol =
          .ok context → LengthsFit P.toTarget mode context p) →
        OutputsAllocatable P config keys random p →
        Ends (client.buildRequest random p request) (fun _ => True)
          (fun e => e ∈ [.protocolAdapter, .messageTooLarge limit, .encryption,
            .headerConflict])) ∧
      ∀ response, Ends (client.openResponse response) (fun _ => True)
        (fun e => e ∈ [.protocolAdapter, .messageTooLarge limit, .invalidEnvelope])) ∧
    (SecureClient.new config keys adapter = .error .authenticationContext ↔
      ∃ context, Provides adapter context ∧ ¬ mode.Accepts context.kind) := by
  intro adapter mode limit
  refine ⟨fun client hnew => ⟨?_, ?_, ?_⟩, new_error_iff_provides⟩
  · intro context hprovides
    have haccepts : mode.Accepts context.kind := accepts_of_provides hnew hprovides
    refine ⟨haccepts, fun p hfits => ⟨?_, ?_⟩⟩
    · exact authenticationInput_of_accepts config.mode_valid haccepts hfits
    · exact aeadAad_of_accepts config.mode_valid haccepts hfits
  · intro random p request hfits halloc
    obtain ⟨rfl, rfl, hadapter⟩ := new_ok hnew
    apply client.ends_buildRequest ?_ (by simp) (by simp)
    intro context hcontext
    rw [hadapter] at hcontext
    have haccepts := accepts_of_provides hnew (.request hcontext)
    apply (ends_sealEnvelope_of_accepts haccepts (hfits context hcontext) halloc).mono
      (fun _ h => h)
    rintro e (rfl | rfl)
    · simp [limit]
    · simp
  · intro response
    obtain ⟨rfl, -, -⟩ := new_ok hnew
    apply (client.ends_openResponse response).mono (fun _ h => h)
    rintro e (rfl | rfl | rfl)
    · simp
    · simp [limit]
    · simp

end EnvelopeLite.PinnedKind
