import EnvelopeLite.ResponsePath

namespace EnvelopeLite.ResponseBinding

open EnvelopeLite.Adapter EnvelopeLite.Auth EnvelopeLite.ByteFields EnvelopeLite.CallTrace
open EnvelopeLite.Client EnvelopeLite.Common EnvelopeLite.Config EnvelopeLite.EnvelopeCrypto
open EnvelopeLite.EnvelopeCrypto.OpenPath EnvelopeLite.EnvelopeCrypto.SealPath
open EnvelopeLite.Header EnvelopeLite.HeaderContext EnvelopeLite.Message EnvelopeLite.Primitives
open EnvelopeLite.ReferencePrimitives EnvelopeLite.RequestPath EnvelopeLite.ResponseFields
open EnvelopeLite.ResponseGrammar EnvelopeLite.ResponsePath EnvelopeLite.Text

/-- For one key and signer ID a signature verifies for at most one byte string,
and one made by signing verifies, under any key and ID, only for what was signed. -/
structure SignatureUniqueness (P : Platform) : Prop where
  verify_unique : ∀ pk id s m m', P.verifyWithId pk id m s = true →
    P.verifyWithId pk id m' s = true → m' = m
  verify_signed : ∀ sk id m r s pk id' m', P.signWithId sk id m r = some s →
    P.verifyWithId pk id' m' s = true → m' = m

def CarriesSignature (P : Platform) (schema : HeaderSchema) (response : ResponseParts)
    (signature : Bytes) : Prop :=
  ∃ value ∈ valuesOf response schema.responseSignatureHeader,
    P.base64Decode (trim value) = some signature

section Accepted

variable {P : Platform} {client : SecureClient P} {schema : HeaderSchema}
variable {response response' : ResponseParts} {p q : Bytes}

/-- What a client has found in a context-bound response that it accepts. -/
structure BoundAcceptance (client : SecureClient P) (schema : HeaderSchema)
    (response : ResponseParts) (p : Bytes) where
  domain : Bytes
  value : String
  signature : Bytes
  requestId : String
  context : AuthenticationContext
  input : Bytes
  mode_eq : client.config.authenticationMode = .contextBound domain
  signature_value : valuesOf response schema.responseSignatureHeader = [value]
  decode_signature : P.base64Decode (trim value) = some signature
  requestId_value : valuesOf response schema.requestIdHeader = [requestId]
  context_eq : encodeResponseContext requestId = .ok context
  input_eq : (AuthenticationMode.contextBound domain).authenticationInput P.toTarget context p =
    .ok input
  verified : P.verifyWithId client.keys.remoteVerification client.config.expectedRemoteSignerId.1
    input signature = true

theorem eq_singleton_of_head? {l : List String} {a : String} (hone : ¬ 2 ≤ l.length)
    (h : l.head? = some a) : l = [a] := by
  match l, h with
  | [_], h => exact congrArg (fun b => [b]) (Option.some.inj h)
  | _ :: _ :: l, _ => exact absurd (Nat.le_add_left 2 l.length) hone

section Grammar

variable {envelope : SecureEnvelope} {certificate : String} {context : AuthenticationContext}

theorem checkedFields_of_grammar
    (h : grammar schema response = .ok (envelope, certificate, context)) :
    checkedFields schema response = .ok (envelope, certificate, context) := by
  rw [grammar] at h
  split at h
  · cases h
  · exact h

theorem valuesOf_eq_singleton (field : HeaderSchema.ResponseField) {name : HeaderName}
    {value : String} (h : grammar schema response = .ok (envelope, certificate, context))
    (hfield : fieldName schema field = some name)
    (hvalue : (valuesOf response name).head? = some value) : valuesOf response name = [value] := by
  apply eq_singleton_of_head? ?_ hvalue
  intro htwo
  rw [grammar, if_pos ⟨name, mem_responseNames_iff.mpr ⟨field, hfield⟩, htwo⟩] at h
  cases h

/-- The context of a response is that of the only request id in it. -/
theorem requestId_of_grammar (hbound : schema.authentication = .contextBound)
    (h : grammar schema response = .ok (envelope, certificate, context)) :
    ∃ requestId, valuesOf response schema.requestIdHeader = [requestId] ∧
      encodeResponseContext requestId = .ok context := by
  have hfields := checkedFields_of_grammar h
  simp only [checkedFields, contextField, hbound, bind_eq_ok_iff, Except.ok.injEq,
    Prod.mk.injEq] at hfields
  obtain ⟨_, -, _, -, _, -, _, -, context', hcontext, -, -, rfl⟩ := hfields
  cases hids : valuesOf response schema.requestIdHeader with
  | nil => rw [hids] at hcontext; cases hcontext
  | cons requestId rest =>
    have hone : valuesOf response schema.requestIdHeader = [requestId] :=
      valuesOf_eq_singleton .requestId h (if_pos hbound) (by rw [hids]; rfl)
    refine ⟨requestId, hids.symm.trans hone, ?_⟩
    rw [hids, requestIdContext] at hcontext
    rw [encodeResponseContext_eq]
    split at hcontext
    · next hlegal => rwa [if_pos hlegal.2]
    · cases hcontext

end Grammar

theorem exists_boundAcceptance (hadapter : client.adapter = headerProtocolAdapter schema)
    (hbound : schema.authentication = .contextBound)
    (h : (client.openResponse response).outcome = .ok p) :
    Nonempty (BoundAcceptance client schema response p) := by
  obtain ⟨domain, hmode⟩ := SecureClient.exists_domain hadapter hbound
  obtain ⟨envelope, context, hgrammar, hopen⟩ := (openResponse_ok_iff hadapter).mp h
  obtain ⟨a⟩ := openEnvelope_ok_iff.mp hopen
  have hinput := a.input_eq
  rw [hmode] at hinput
  obtain ⟨requestId, hrequestId, hencoded⟩ := requestId_of_grammar hbound hgrammar
  have hfields := checkedFields_of_grammar hgrammar
  simp only [checkedFields, bind_eq_ok_iff, headerValue_ok_iff, Except.ok.injEq,
    Prod.mk.injEq] at hfields
  obtain ⟨signature, ⟨value, hvalue, -, -, rfl⟩, _, -, _, -, _, -, _, -, rfl, -, -⟩ := hfields
  exact ⟨⟨domain, value, a.signature, requestId, context, a.input, hmode,
    valuesOf_eq_singleton .signature hgrammar rfl hvalue, a.decode_signature, hrequestId, hencoded,
    hinput, a.verified⟩⟩

theorem BoundAcceptance.signature_eq (a : BoundAcceptance client schema response p)
    {signature : Bytes} (h : CarriesSignature P schema response signature) :
    a.signature = signature := by
  obtain ⟨value, hvalue, hdecode⟩ := h
  rw [a.signature_value, List.mem_singleton] at hvalue
  rw [hvalue, a.decode_signature] at hdecode
  exact Option.some.inj hdecode

theorem BoundAcceptance.requestId_eq (sm2 : SignatureUniqueness P)
    (a : BoundAcceptance client schema response p)
    (b : BoundAcceptance client schema response' q) (hsame : b.signature = a.signature) :
    valuesOf response' schema.requestIdHeader = valuesOf response schema.requestIdHeader := by
  have hverified := b.verified
  rw [hsame] at hverified
  have hinput : b.input = a.input := sm2.verify_unique _ _ _ _ _ a.verified hverified
  have hb := b.input_eq
  rw [hinput] at hb
  obtain ⟨-, hcontext, -⟩ := contextBound_input_inj hb a.input_eq
  have hcontext_eq := b.context_eq
  rw [hcontext] at hcontext_eq
  have hfields : BoundFields.response b.requestId = .response a.requestId :=
    BoundFields.encode_inj hcontext_eq a.context_eq
  rw [b.requestId_value, a.requestId_value, BoundFields.response.inj hfields]

/-- What was signed for a request is never what an accepted response is verified for. -/
theorem BoundAcceptance.not_signed_for_request (sm2 : SignatureUniqueness P)
    (a : BoundAcceptance client schema response p) {sender : ClientConfig P.toTarget}
    {senderKeys : KeyMaterial P} {random : Randomness P} {context : AuthenticationContext}
    {envelope : SecureEnvelope} {d : Bytes} {operation requestId : String}
    (s : Sealing P sender senderKeys random q context envelope)
    (hmode : sender.authenticationMode = .contextBound d)
    (hcontext : encodeRequestContext operation requestId = .ok context) :
    a.signature ≠ s.signature := by
  intro hsame
  have hverified := a.verified
  rw [hsame] at hverified
  have hinput : a.input = s.input := sm2.verify_signed _ _ _ _ _ _ _ _ s.sign_eq hverified
  have hs := s.input_eq
  rw [hmode, ← hinput] at hs
  obtain ⟨-, rfl, -⟩ := contextBound_input_inj hs a.input_eq
  have hfields : BoundFields.request operation requestId = .response a.requestId :=
    BoundFields.encode_inj hcontext a.context_eq
  cases hfields

end Accepted

theorem request_id_and_direction_are_authenticated (P : Platform) (base64 : Base64Laws P)
    (sm2 : SignatureUniqueness P) (client : SecureClient P) (schema : HeaderSchema)
    (hadapter : client.adapter = headerProtocolAdapter schema)
    (hbound : schema.authentication = .contextBound) :
    (∀ response p signature response', (client.openResponse response).outcome = .ok p →
      CarriesSignature P schema response signature →
      CarriesSignature P schema response' signature →
      valuesOf response' schema.requestIdHeader ≠ valuesOf response schema.requestIdHeader →
      ∃ e, (client.openResponse response').outcome = .err e) ∧
    ∀ (peer : SecureClient P) (peerSchema : HeaderSchema),
      peer.adapter = headerProtocolAdapter peerSchema →
      peerSchema.authentication = .contextBound →
      ∀ random p request parts text signature,
        (peer.buildRequest random p request).outcome = .ok parts →
        parts.header peerSchema.requestSignatureHeader.asStr = some text →
        P.base64Decode text = some signature →
        ∀ response, CarriesSignature P schema response signature →
          ∃ e, (client.openResponse response).outcome = .err e := by
  have hrejected : ∀ response, (∀ q, (client.openResponse response).outcome ≠ .ok q) →
      ∃ e, (client.openResponse response).outcome = .err e := by
    intro response hnot
    obtain ⟨e, he, -⟩ := (client.ends_openResponse response).exists_err hnot
    exact ⟨e, he⟩
  refine ⟨?_, ?_⟩
  · intro response p signature response' hopen hcarries hcarries' hne
    apply hrejected
    intro q hopen'
    obtain ⟨a⟩ := exists_boundAcceptance hadapter hbound hopen
    obtain ⟨b⟩ := exists_boundAcceptance hadapter hbound hopen'
    have hsame : b.signature = a.signature :=
      (b.signature_eq hcarries').trans (a.signature_eq hcarries).symm
    exact hne (a.requestId_eq sm2 b hsame)
  · intro peer peerSchema hpeer hpeerBound random p request parts text signature hrequest htext
      hdecode response hcarries
    apply hrejected
    intro q hopen
    obtain ⟨a⟩ := exists_boundAcceptance hadapter hbound hopen
    obtain ⟨context, envelope, hcontext, hseal, -, -, hfound⟩ := buildRequest_emits hpeer hrequest
    obtain ⟨s⟩ := sealEnvelope_ok_iff.mp hseal
    obtain ⟨d, hmode⟩ := SecureClient.exists_domain hpeer hpeerBound
    rw [HeaderSchema.requestAuthenticationContext, hpeerBound] at hcontext
    have hemitted : parts.header peerSchema.requestSignatureHeader.asStr =
        some envelope.signature := by
      refine hfound (pair peerSchema.requestSignatureHeader envelope.signature) ?_ _
        (eqIgnoreAsciiCase_iff.mpr rfl)
      simp [HeaderSchema.emitted, HeaderSchema.mappedHeaders]
    obtain rfl : envelope.signature = text := Option.some.inj (hemitted.symm.trans htext)
    have hsame : a.signature = s.signature := by
      rw [s.signature_eq, base64.decode_encode] at hdecode
      exact (a.signature_eq hcarries).trans (Option.some.inj hdecode).symm
    exact a.not_signed_for_request sm2 s hmode hcontext hsame

section Samples

theorem recoverable_uniqueness : SignatureUniqueness (reference recoverableSignature) where
  verify_unique := by
    intro pk id s m m' h h'
    have hs := of_decide_eq_true h
    have hs' := of_decide_eq_true h'
    exact (List.cons.inj (hs'.symm.trans hs)).2
  verify_signed := by
    intro sk id m r s pk id' m' hs hv
    obtain rfl := Option.some.inj hs
    exact (List.cons.inj (of_decide_eq_true hv)).2.symm

def recoverableClient : SecureClient (reference recoverableSignature) :=
  ⟨sampleCcm, sampleKeys _, headerProtocolAdapter sampleSchema, sampleSchema_pin⟩

theorem recoverableAnswer_sealed : (sealEnvelope (reference recoverableSignature) sampleCcm
    (sampleKeys _) (sampleRandomness _) [1, 2, 3]
    sampleResponseContext).outcome.toOption.isSome = true := by
  decide +kernel

def recoverableAnswer : SecureEnvelope :=
  (sealEnvelope (reference recoverableSignature) sampleCcm (sampleKeys _) (sampleRandomness _)
    [1, 2, 3] sampleResponseContext).outcome.toOption.get recoverableAnswer_sealed

def answerUnder (requestId : String) : ResponseParts where
  headers := [("x-signature", recoverableAnswer.signature),
    ("x-wrapped-key", recoverableAnswer.wrappedSessionKey), ("x-remote-signing", "id"),
    ("x-request-id", requestId)]
  body := recoverableAnswer.cipher

theorem answerUnder_signature : ∀ requestId ∈ ["request-1", "request-2"],
    recoverableAnswer.signature ∈
      valuesOf (answerUnder requestId) sampleSchema.responseSignatureHeader := by
  decide +kernel

theorem answerUnder_opened :
    (recoverableClient.openResponse (answerUnder "request-1")).outcome = .ok [1, 2, 3] := by
  decide +kernel

theorem answer_is_refused_under_another_id :
    (recoverableClient.openResponse (answerUnder "request-1")).outcome = .ok [1, 2, 3] ∧
      ∃ e, (recoverableClient.openResponse (answerUnder "request-2")).outcome = .err e := by
  obtain ⟨signature, hsignature⟩ : ∃ s, (reference recoverableSignature).base64Decode
      (trim recoverableAnswer.signature) = some s :=
    Option.isSome_iff_exists.mp (by decide +kernel)
  have hcarries : ∀ requestId ∈ ["request-1", "request-2"], CarriesSignature _ sampleSchema
      (answerUnder requestId) signature :=
    fun requestId hid => ⟨_, answerUnder_signature requestId hid, hsignature⟩
  refine ⟨answerUnder_opened, ?_⟩
  apply (request_id_and_direction_are_authenticated (reference recoverableSignature)
    reference_base64 recoverable_uniqueness recoverableClient sampleSchema rfl
    sampleSchema_authentication).1
    (answerUnder "request-1") [1, 2, 3] signature _ answerUnder_opened (hcarries _ (by decide))
    (hcarries _ (by decide))
  decide +kernel

end Samples

end EnvelopeLite.ResponseBinding
