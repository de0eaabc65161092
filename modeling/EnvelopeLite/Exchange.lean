import EnvelopeLite.Agreement
import EnvelopeLite.ResponseBinding

namespace EnvelopeLite.Exchange

open EnvelopeLite.Adapter EnvelopeLite.Auth EnvelopeLite.ByteFields EnvelopeLite.CallTrace
open EnvelopeLite.Client EnvelopeLite.Common EnvelopeLite.Config EnvelopeLite.EnvelopeCrypto
open EnvelopeLite.EnvelopeCrypto.OpenPath EnvelopeLite.EnvelopeCrypto.SealPath
open EnvelopeLite.Header EnvelopeLite.HeaderContext EnvelopeLite.Message EnvelopeLite.Peers
open EnvelopeLite.Primitives
open EnvelopeLite.ReferencePrimitives EnvelopeLite.RequestPath EnvelopeLite.ResponseBinding
open EnvelopeLite.ResponseFields EnvelopeLite.ResponseGrammar EnvelopeLite.ResponsePath
open EnvelopeLite.Text

/-- What a peer does to answer a request: it seals under the response context of
the request id. -/
def answerRequest (P : Platform) (config : ClientConfig P.toTarget) (keys : KeyMaterial P)
    (random : Randomness P) (requestId : String) (plaintext : Bytes) : Run P SecureEnvelope := do
  let context ← ofExcept ((encodeResponseContext requestId).mapError
    (fun _ => Error.protocolAdapter))
  sealEnvelope P config keys random plaintext context

/-- A client over the header adapter and its peer. Both are context bound in one domain,
and each of them verifies under the key and the signer ID that the other signs with. -/
structure Parties (P : Platform) where
  client : SecureClient P
  schema : HeaderSchema
  peer : ClientConfig P.toTarget
  peerKeys : KeyMaterial P
  domain : Bytes
  adapter_eq : client.adapter = headerProtocolAdapter schema
  bound : schema.authentication = .contextBound
  client_mode : client.config.authenticationMode = .contextBound domain
  peer_mode : peer.authenticationMode = .contextBound domain
  peer_expects : ExpectsSigner P client.config client.keys peer peerKeys
  client_expects : ExpectsSigner P peer peerKeys client.config client.keys

/-- The client builds requests and is given responses; the peer is given requests and
answers request ids. What is given to either is up to the network. -/
inductive Action (P : Platform)
  | request (random : Randomness P) (plaintext : Bytes) (request : RequestContext)
  | receive (parts : RequestParts)
  | answer (requestId : String) (random : Randomness P) (plaintext : Bytes)
  | response (response : ResponseParts)

variable {P : Platform} (parties : Parties P)

namespace Parties

def receive (parts : RequestParts) : Run P Bytes :=
  receiveRequest P parties.peer parties.peerKeys parties.schema parts

def answer (requestId : String) (random : Randomness P) (plaintext : Bytes) :
    Run P SecureEnvelope :=
  answerRequest P parties.peer parties.peerKeys random requestId plaintext

def log : Action P → List P.Call
  | .request random plaintext request =>
    (parties.client.buildRequest random plaintext request).log
  | .receive parts => (parties.receive parts).log
  | .answer requestId random plaintext => (parties.answer requestId random plaintext).log
  | .response response => (parties.client.openResponse response).log

def Signs (key : P.PrivateKey) (signerId : SignerId) (message : Bytes) (action : Action P) : Prop :=
  ∃ signature, .signWithId key signerId.1 message (some signature) ∈ parties.log action

structure Accepts (parts : RequestParts) (operation requestId : String) (plaintext : Bytes) :
    Prop where
  operation_eq : parts.header parties.schema.operationHeader.asStr = some operation
  requestId_eq : parts.header parties.schema.requestIdHeader.asStr = some requestId
  opened : (parties.receive parts).outcome = .ok plaintext

/-- The rule of a peer that answers only the ids of requests that it has accepted. -/
def AnswersAccepted : List (Action P) → Prop
  | [] => True
  | .answer requestId _ _ :: past => (∃ parts operation plaintext, .receive parts ∈ past ∧
      parties.Accepts parts operation requestId plaintext) ∧ AnswersAccepted past
  | _ :: past => AnswersAccepted past

def SignedBefore (past : List (Action P)) (key : P.PrivateKey) (signerId : SignerId)
    (signature : Bytes) : Prop :=
  ∀ message, P.verifyWithId (P.publicKey key) signerId.1 message signature = true →
    ∃ earlier ∈ past, parties.Signs key signerId message earlier

/-- Unforgeability of what the network hands to the peer and to the client. -/
def Unforged (past : List (Action P)) : Action P → Prop
  | .receive parts => ∀ text signature,
      parts.header parties.schema.requestSignatureHeader.asStr = some text →
      P.base64Decode text = some signature →
      parties.SignedBefore past parties.client.keys.localSigning parties.client.config.localSignerId
        signature
  | .response response => ∀ signature, CarriesSignature P parties.schema response signature →
      parties.SignedBefore past parties.peerKeys.localSigning parties.peer.localSignerId signature
  | _ => True

/-- Histories with the newest action first. -/
inductive History : List (Action P) → Prop
  | start : History []
  | step {past : List (Action P)} (action : Action P) : History past →
      parties.Unforged past action → History (action :: past)

theorem History.of_append {parties : Parties P} (later : List (Action P)) {past : List (Action P)}
    (h : parties.History (later ++ past)) : parties.History past := by
  induction later with
  | nil => exact h
  | cons action later ih =>
    apply ih
    cases h with
    | step _ hpast _ => exact hpast

theorem AnswersAccepted.of_append {parties : Parties P} (later : List (Action P))
    {past : List (Action P)} (h : parties.AnswersAccepted (later ++ past)) :
    parties.AnswersAccepted past := by
  induction later with
  | nil => exact h
  | cons action later ih =>
    apply ih
    cases action with
    | answer requestId random plaintext => exact h.2
    | _ => exact h

end Parties

/-- What a signature is about: a domain, the fields that a header context binds, and
a plaintext. -/
@[ext] structure Statement where
  domain : Bytes
  fields : BoundFields
  plaintext : Bytes

def Encodes (T : Target) (s : Statement) (message : Bytes) : Prop :=
  ∃ context, s.fields.encode = .ok context ∧
    Agreement.Encodes T ⟨s.domain, context, s.plaintext⟩ message

theorem encodes_unique {T : Target} (s t : Statement) (m : Bytes) (hs : Encodes T s m)
    (ht : Encodes T t m) : s = t := by
  obtain ⟨context, hfields, hs⟩ := hs
  obtain ⟨context', hfields', ht⟩ := ht
  obtain ⟨hdomain, rfl, hplaintext⟩ := Agreement.Statement.mk.inj
    (Agreement.encodes_unique _ _ m hs ht)
  exact Statement.ext hdomain (BoundFields.encode_inj hfields hfields') hplaintext

namespace Parties

def SignsFor (key : P.PrivateKey) (signerId : SignerId) (s : Statement) (action : Action P) :
    Prop :=
  ∃ message, Encodes P.toTarget s message ∧ parties.Signs key signerId message action

def step (action : Action P) : SignedRuns.Step Statement :=
  match action with
  | .request _ plaintext request =>
    if (parties.log action).any isSignature then
      .sign ⟨parties.domain, .request request.protocol.operation.1
        request.protocol.metadata.requestId.1, plaintext⟩
    else .idle
  | .receive parts =>
    match (parties.receive parts).outcome with
    | .ok plaintext =>
      .accept ⟨parties.domain,
        .request ((parts.header parties.schema.operationHeader.asStr).getD "")
          ((parts.header parties.schema.requestIdHeader.asStr).getD ""), plaintext⟩
    | _ => .idle
  | .answer requestId _ plaintext =>
    if (parties.log action).any isSignature then
      .sign ⟨parties.domain, .response requestId, plaintext⟩
    else .idle
  | .response response =>
    match (parties.client.openResponse response).outcome with
    | .ok plaintext =>
      .accept ⟨parties.domain,
        .response ((valuesOf response parties.schema.requestIdHeader).headD ""), plaintext⟩
    | _ => .idle

end Parties

theorem encodes_of_signature {config : ClientConfig P.toTarget} {keys : KeyMaterial P}
    {random : Randomness P} {p domain : Bytes} {context : AuthenticationContext}
    (fields : BoundFields) {c : P.Call} (hmode : config.authenticationMode = .contextBound domain)
    (hfields : fields.encode = .ok context)
    (hmem : c ∈ (sealEnvelope P config keys random p context).log) (hc : isSignature c = true) :
    ∃ message signature, Encodes P.toTarget ⟨domain, fields, p⟩ message ∧
      c = .signWithId keys.localSigning config.localSignerId.1 message (some signature) := by
  obtain ⟨message, signature, hinput, rfl⟩ := eq_signWithId_of_mem hmem hc
  rw [hmode] at hinput
  exact ⟨message, signature, ⟨context, hfields, hinput⟩, rfl⟩

theorem emits_openEnvelope_unsigned (config : ClientConfig P.toTarget) (keys : KeyMaterial P)
    (envelope : SecureEnvelope) (context : AuthenticationContext) :
    Emits (openEnvelope P config keys envelope context) (isSignature · = false) :=
  emits_openEnvelope_of (fun _ _ => rfl) (fun _ _ => rfl) (fun _ _ => rfl) (fun _ _ => rfl)
    (fun _ _ _ _ _ => rfl) (fun _ _ _ => rfl)

theorem receiveRequest_ok {config : ClientConfig P.toTarget} {keys : KeyMaterial P}
    {schema : HeaderSchema} {parts : RequestParts} {p : Bytes}
    (h : (receiveRequest P config keys schema parts).outcome = .ok p) :
    ∃ operation requestId envelope context,
      parts.header schema.operationHeader.asStr = some operation ∧
      parts.header schema.requestIdHeader.asStr = some requestId ∧
      parts.header schema.requestSignatureHeader.asStr = some envelope.signature ∧
      encodeRequestContext operation requestId = .ok context ∧
      (openEnvelope P config keys envelope context).outcome = .ok p := by
  simp only [receiveRequest, bind_ok_iff, orFail_ok_iff, ofExcept_ok_iff, mapError_ok_iff] at h
  obtain ⟨signature, hs, wrapped, -, cipher, -, operation, ho, requestId, hi, context, hcontext,
    hopen⟩ := h
  exact ⟨operation, requestId, ⟨cipher, wrapped, signature⟩, context, ho, hi, hs, hcontext, hopen⟩

namespace Parties

variable {parties}

theorem requestAuthenticationContext_eq (protocol : ProtocolRequestContext) :
    parties.client.adapter.requestAuthenticationContext parties.client.config.identity protocol =
      encodeRequestContext protocol.operation.1 protocol.metadata.requestId.1 := by
  rw [parties.adapter_eq]
  change parties.schema.requestAuthenticationContext parties.client.config.identity protocol = _
  rw [HeaderSchema.requestAuthenticationContext, parties.bound]

theorem mem_log_answer {requestId : String} {random : Randomness P} {p : Bytes} {c : P.Call} :
    c ∈ (parties.answer requestId random p).log ↔ ∃ context,
      encodeResponseContext requestId = .ok context ∧
      c ∈ (sealEnvelope P parties.peer parties.peerKeys random p context).log := by
  simp [answer, answerRequest]

theorem unsigned_receive (parts : RequestParts) :
    Emits (parties.receive parts) (isSignature · = false) := by
  simp only [receive, receiveRequest, emits_bind, emits_orFail, emits_ofExcept,
    emits_openEnvelope_unsigned, implies_true, and_self]

theorem unsigned_openResponse (response : ResponseParts) :
    Emits (parties.client.openResponse response) (isSignature · = false) :=
  SecureClient.emits_openResponse fun _ _ => emits_openEnvelope_unsigned _ _ _ _

theorem request_signs {random : Randomness P} {p : Bytes} {request : RequestContext} {c : P.Call}
    (hmem : c ∈ parties.log (.request random p request)) (hc : isSignature c = true) :
    ∃ message signature, Encodes P.toTarget ⟨parties.domain,
        .request request.protocol.operation.1 request.protocol.metadata.requestId.1, p⟩ message ∧
      c = .signWithId parties.client.keys.localSigning parties.client.config.localSignerId.1 message
        (some signature) := by
  obtain ⟨context, hcontext, hseal⟩ := SecureClient.mem_log_buildRequest.mp hmem
  rw [requestAuthenticationContext_eq] at hcontext
  exact encodes_of_signature (.request _ _) parties.client_mode hcontext hseal hc

theorem answer_signs {requestId : String} {random : Randomness P} {p : Bytes} {c : P.Call}
    (hmem : c ∈ parties.log (.answer requestId random p)) (hc : isSignature c = true) :
    ∃ message signature,
      Encodes P.toTarget ⟨parties.domain, .response requestId, p⟩ message ∧
      c = .signWithId parties.peerKeys.localSigning parties.peer.localSignerId.1 message
        (some signature) := by
  obtain ⟨context, hcontext, hseal⟩ := mem_log_answer.mp hmem
  exact encodes_of_signature (.response _) parties.peer_mode hcontext hseal hc

theorem Signs.step_eq {key : P.PrivateKey} {signerId : SignerId} {message : Bytes}
    {action : Action P} (h : parties.Signs key signerId message action) :
    ∃ s, Encodes P.toTarget s message ∧ parties.step action = .sign s := by
  obtain ⟨signature, hmem⟩ := h
  have hany : (parties.log action).any isSignature = true := List.any_eq_true.mpr ⟨_, hmem, rfl⟩
  cases action with
  | request random plaintext request =>
    obtain ⟨_, _, hencodes, hcall⟩ := request_signs hmem rfl
    injection hcall with _ _ hmessage
    rw [hmessage]
    exact ⟨_, hencodes, if_pos hany⟩
  | receive parts => cases unsigned_receive parts _ hmem
  | answer requestId random plaintext =>
    obtain ⟨_, _, hencodes, hcall⟩ := answer_signs hmem rfl
    injection hcall with _ _ hmessage
    rw [hmessage]
    exact ⟨_, hencodes, if_pos hany⟩
  | response response => cases unsigned_openResponse response _ hmem

theorem Accepts.of_ok {parts : RequestParts} {p : Bytes}
    (h : (parties.receive parts).outcome = .ok p) :
    ∃ operation requestId, parties.Accepts parts operation requestId p := by
  obtain ⟨operation, requestId, _, _, ho, hi, -⟩ := receiveRequest_ok h
  exact ⟨operation, requestId, ho, hi, h⟩

theorem Accepts.step_eq {parts : RequestParts} {operation requestId : String} {p : Bytes}
    (h : parties.Accepts parts operation requestId p) : parties.step (.receive parts) =
      .accept ⟨parties.domain, .request operation requestId, p⟩ := by
  simp only [step, h.opened, h.operation_eq, h.requestId_eq, Option.getD_some]

theorem Accepts.signed_before {past : List (Action P)} {parts : RequestParts}
    {operation requestId : String} {p : Bytes} (h : parties.Accepts parts operation requestId p)
    (hunforged : parties.Unforged past (.receive parts)) :
    ∃ message, Encodes P.toTarget ⟨parties.domain, .request operation requestId, p⟩ message ∧
      ∃ earlier ∈ past, parties.Signs parties.client.keys.localSigning
        parties.client.config.localSignerId message earlier := by
  obtain ⟨operation', requestId', envelope, context, ho, hi, hs, hcontext, hopen⟩ :=
    receiveRequest_ok h.opened
  obtain rfl : operation = operation' := Option.some.inj (h.operation_eq.symm.trans ho)
  obtain rfl : requestId = requestId' := Option.some.inj (h.requestId_eq.symm.trans hi)
  obtain ⟨accepted⟩ := openEnvelope_ok_iff.mp hopen
  have hinput := accepted.input_eq
  have hverified := accepted.verified
  rw [parties.peer_mode] at hinput
  rw [parties.peer_expects.verification, parties.peer_expects.signer] at hverified
  exact ⟨accepted.input, ⟨context, hcontext, hinput⟩,
    hunforged _ _ hs accepted.decode_signature _ hverified⟩

theorem exists_response {response : ResponseParts} {p : Bytes}
    (h : (parties.client.openResponse response).outcome = .ok p) :
    Nonempty (BoundAcceptance parties.client parties.schema response p) :=
  exists_boundAcceptance parties.adapter_eq parties.bound h

theorem step_response {response : ResponseParts} {p : Bytes}
    (accepted : BoundAcceptance parties.client parties.schema response p)
    (h : (parties.client.openResponse response).outcome = .ok p) :
    parties.step (.response response) =
      .accept ⟨parties.domain, .response accepted.requestId, p⟩ := by
  simp only [step, h, accepted.requestId_value, List.headD_cons]

theorem response_signed_before {past : List (Action P)} {response : ResponseParts} {p : Bytes}
    (accepted : BoundAcceptance parties.client parties.schema response p)
    (hunforged : parties.Unforged past (.response response)) :
    ∃ message, Encodes P.toTarget ⟨parties.domain, .response accepted.requestId, p⟩ message ∧
      ∃ earlier ∈ past,
        parties.Signs parties.peerKeys.localSigning parties.peer.localSignerId message earlier := by
  have hdomain : accepted.domain = parties.domain :=
    AuthenticationMode.contextBound.inj (accepted.mode_eq.symm.trans parties.client_mode)
  have hinput := accepted.input_eq
  have hverified := accepted.verified
  rw [hdomain] at hinput
  rw [parties.client_expects.verification, parties.client_expects.signer] at hverified
  have hcarries : CarriesSignature P parties.schema response accepted.signature := by
    refine ⟨accepted.value, ?_, accepted.decode_signature⟩
    rw [accepted.signature_value]
    exact List.mem_singleton_self _
  exact ⟨accepted.input, ⟨accepted.context, accepted.context_eq, hinput⟩,
    hunforged _ hcarries _ hverified⟩

theorem run_step {past : List (Action P)} {action : Action P}
    (hrun : SignedRuns.Run (Encodes P.toTarget) (past.map parties.step))
    (hunforged : parties.Unforged past action) :
    SignedRuns.Run (Encodes P.toTarget) (parties.step action :: past.map parties.step) := by
  have haccept : ∀ s message key signerId, Encodes P.toTarget s message →
      (∃ earlier ∈ past, parties.Signs key signerId message earlier) →
      SignedRuns.Run (Encodes P.toTarget) (.accept s :: past.map parties.step) := by
    rintro s message key signerId hs ⟨earlier, hmem, hsigns⟩
    obtain ⟨t, ht, hstep⟩ := hsigns.step_eq
    exact hrun.accept_of_mem hs ht hmem hstep
  -- The parties' own actions only sign; what was not forged matters to what they are given.
  cases action with
  | request random plaintext request =>
    rw [step]
    split
    · exact .sign _ hrun
    · exact .idle hrun
  | receive parts =>
    cases hout : (parties.receive parts).outcome with
    | ok plaintext =>
      obtain ⟨operation, requestId, haccepts⟩ := Accepts.of_ok hout
      obtain ⟨message, hencodes, hsigned⟩ := haccepts.signed_before hunforged
      rw [haccepts.step_eq]
      exact haccept _ message _ _ hencodes hsigned
    | err e => simpa only [step, hout] using .idle hrun
    | panic => simpa only [step, hout] using .idle hrun
  | answer requestId random plaintext =>
    rw [step]
    split
    · exact .sign _ hrun
    · exact .idle hrun
  | response response =>
    cases hout : (parties.client.openResponse response).outcome with
    | ok plaintext =>
      obtain ⟨accepted⟩ := exists_response hout
      obtain ⟨message, hencodes, hsigned⟩ := response_signed_before accepted hunforged
      rw [step_response accepted hout]
      exact haccept _ message _ _ hencodes hsigned
    | err e => simpa only [step, hout] using .idle hrun
    | panic => simpa only [step, hout] using .idle hrun

theorem History.refines {history : List (Action P)} (h : parties.History history) :
    SignedRuns.Run (Encodes P.toTarget) (history.map parties.step) := by
  induction h with
  | start => exact .start
  | step action _ hunforged ih => exact run_step ih hunforged

theorem History.signed_before {action : Action P} {past : List (Action P)} {s : Statement}
    (h : parties.History (action :: past)) (haccept : parties.step action = .accept s) :
    ∃ earlier ∈ past, parties.step earlier = .sign s :=
  h.refines.exists_signed encodes_unique [] haccept

theorem eq_request_of_step {action : Action P} {domain p : Bytes} {operation requestId : String}
    (h : parties.step action = .sign ⟨domain, .request operation requestId, p⟩) :
    ∃ random request, action = .request random p request ∧
      parties.SignsFor parties.client.keys.localSigning parties.client.config.localSignerId
        ⟨domain, .request operation requestId, p⟩ action ∧
      request.protocol.operation.1 = operation ∧
      request.protocol.metadata.requestId.1 = requestId := by
  cases action with
  | request random plaintext request =>
    rw [step] at h
    split at h
    · next hany =>
      cases h
      obtain ⟨c, hmem, hc⟩ := List.any_eq_true.mp hany
      obtain ⟨message, signature, hencodes, rfl⟩ := request_signs hmem hc
      exact ⟨random, request, rfl, ⟨message, hencodes, signature, hmem⟩, rfl, rfl⟩
    · cases h
  | receive parts => rw [step] at h; split at h <;> cases h
  | answer requestId random plaintext => rw [step] at h; split at h <;> cases h
  | response response => rw [step] at h; split at h <;> cases h

theorem eq_answer_of_step {action : Action P} {domain p : Bytes} {requestId : String}
    (h : parties.step action = .sign ⟨domain, .response requestId, p⟩) :
    ∃ random, action = .answer requestId random p ∧
      parties.SignsFor parties.peerKeys.localSigning parties.peer.localSignerId
        ⟨domain, .response requestId, p⟩ action := by
  cases action with
  | request random plaintext request => rw [step] at h; split at h <;> cases h
  | receive parts => rw [step] at h; split at h <;> cases h
  | answer requestId random plaintext =>
    rw [step] at h
    split at h
    · next hany =>
      cases h
      obtain ⟨c, hmem, hc⟩ := List.any_eq_true.mp hany
      obtain ⟨message, signature, hencodes, rfl⟩ := answer_signs hmem hc
      exact ⟨random, rfl, message, hencodes, signature, hmem⟩
    · cases h
  | response response => rw [step] at h; split at h <;> cases h

theorem History.request_before {parts : RequestParts} {past : List (Action P)}
    {operation requestId : String} {p : Bytes} (h : parties.History (.receive parts :: past))
    (haccepts : parties.Accepts parts operation requestId p) :
    ∃ random request, .request random p request ∈ past ∧
      parties.SignsFor parties.client.keys.localSigning parties.client.config.localSignerId
        ⟨parties.domain, .request operation requestId, p⟩ (.request random p request) ∧
      request.protocol.operation.1 = operation ∧
      request.protocol.metadata.requestId.1 = requestId := by
  obtain ⟨action, hmem, hstep⟩ := h.signed_before haccepts.step_eq
  obtain ⟨random, request, rfl, hsigned, ho, hi⟩ := eq_request_of_step hstep
  exact ⟨random, request, hmem, hsigned, ho, hi⟩

end Parties

/-- Whatever the client accepts as a response, the peer has signed for the request id
that it echoes. A peer that keeps to its rule had accepted a request with that id
before, which the client had signed with the operation and the plaintext received. -/
theorem accepted_response_answers_a_request (P : Platform) (parties : Parties P)
    (history later past : List (Action P)) (h : parties.History history)
    (response : ResponseParts) (p : Bytes) (hsplit : history = later ++ .response response :: past)
    (hok : (parties.client.openResponse response).outcome = .ok p) :
    ∃ requestId, valuesOf response parties.schema.requestIdHeader = [requestId] ∧
      ∃ random newer older, past = newer ++ .answer requestId random p :: older ∧
        parties.SignsFor parties.peerKeys.localSigning parties.peer.localSignerId
          ⟨parties.domain, .response requestId, p⟩ (.answer requestId random p) ∧
        (parties.AnswersAccepted history →
          ∃ parts operation q newer' older', older = newer' ++ .receive parts :: older' ∧
            parties.Accepts parts operation requestId q ∧
            ∃ random' request, .request random' q request ∈ older' ∧
              parties.SignsFor parties.client.keys.localSigning parties.client.config.localSignerId
                ⟨parties.domain, .request operation requestId, q⟩ (.request random' q request) ∧
              request.protocol.operation.1 = operation ∧
              request.protocol.metadata.requestId.1 = requestId) := by
  subst hsplit
  have hresponse := h.of_append later
  obtain ⟨accepted⟩ := Parties.exists_response hok
  obtain ⟨action, hmem, hstep⟩ := hresponse.signed_before (Parties.step_response accepted hok)
  obtain ⟨random, rfl, hsigned⟩ := Parties.eq_answer_of_step hstep
  obtain ⟨newer, older, rfl⟩ := List.append_of_mem hmem
  refine ⟨accepted.requestId, accepted.requestId_value, random, newer, older, rfl, hsigned, ?_⟩
  intro hrule
  -- The rule is used at the answer, so that the receipt it gives is older than the answer.
  have hanswer : parties.AnswersAccepted (.answer accepted.requestId random p :: older) := by
    apply Parties.AnswersAccepted.of_append (later ++ .response response :: newer)
    simpa using hrule
  obtain ⟨⟨parts, operation, q, hreceived, haccepts⟩, -⟩ := hanswer
  obtain ⟨newer', older', rfl⟩ := List.append_of_mem hreceived
  have hreceive : parties.History (.receive parts :: older') := by
    apply Parties.History.of_append (later ++ .response response :: newer ++
      .answer accepted.requestId random p :: newer')
    simpa using h
  exact ⟨parts, operation, q, newer', older', rfl, haccepts, hreceive.request_before haccepts⟩

section Samples

def sampleParties : Parties (reference recoverableSignature) where
  client := recoverableClient
  schema := sampleSchema
  peer := sampleCcm
  peerKeys := sampleKeys _
  domain := [1]
  adapter_eq := rfl
  bound := sampleSchema_authentication
  client_mode := rfl
  peer_mode := Agreement.sampleReceiver.mode_eq
  peer_expects := ⟨rfl, rfl⟩
  client_expects := ⟨rfl, rfl⟩

def sampleMessage (fields : BoundFields) : Bytes := transcript [1] fields.bytes [1, 2, 3]

def sampleRequestFields : BoundFields := .request "transfer" "request-1"

def sampleRequestContext : AuthenticationContext :=
  ⟨.bound sampleRequestFields.bytes, by simp [BoundFields.bytes]⟩

theorem sampleRequest_context : recoverableClient.adapter.requestAuthenticationContext
    recoverableClient.config.identity sampleRequest.protocol = .ok sampleRequestContext := by
  decide +kernel

theorem sampleRequest_sealed : (sealEnvelope (reference recoverableSignature) sampleCcm
    (sampleKeys _) (sampleRandomness _) [1, 2, 3]
    sampleRequestContext).outcome.toOption.isSome = true := by
  decide +kernel

def sampleSealed : SecureEnvelope :=
  (sealEnvelope (reference recoverableSignature) sampleCcm (sampleKeys _) (sampleRandomness _)
    [1, 2, 3] sampleRequestContext).outcome.toOption.get sampleRequest_sealed

theorem sampleParts_headers : (HeaderCollection.fromPairs [
    ("x-operation", "transfer"), ("x-request-id", "request-1"),
    ("x-signature", sampleSealed.signature), ("x-wrapped-key", sampleSealed.wrappedSessionKey),
    ("x-cipher", sampleSealed.cipher)]).toOption.isSome = true := by
  decide +kernel

def sampleParts : RequestParts where
  headers := (HeaderCollection.fromPairs [
    ("x-operation", "transfer"), ("x-request-id", "request-1"),
    ("x-signature", sampleSealed.signature), ("x-wrapped-key", sampleSealed.wrappedSessionKey),
    ("x-cipher", sampleSealed.cipher)]).toOption.get sampleParts_headers
  body := ""

def samplePast : List (Action (reference recoverableSignature)) :=
  [.answer "request-1" (sampleRandomness _) [1, 2, 3], .receive sampleParts,
    .request (sampleRandomness _) [1, 2, 3] sampleRequest]

theorem sampleParts_read :
    sampleParts.header sampleParties.schema.requestSignatureHeader.asStr =
      some (Base64.encode (7 :: sampleMessage sampleRequestFields)) ∧
    sampleParts.header sampleParties.schema.operationHeader.asStr = some "transfer" ∧
    sampleParts.header sampleParties.schema.requestIdHeader.asStr = some "request-1" ∧
    (sampleParties.receive sampleParts).outcome = .ok [1, 2, 3] := by
  decide +kernel

theorem answerUnder_signatures :
    valuesOf (answerUnder "request-1") sampleParties.schema.responseSignatureHeader =
      [Base64.encode (7 :: sampleMessage (.response "request-1"))] ∧
    trim (Base64.encode (7 :: sampleMessage (.response "request-1"))) =
      Base64.encode (7 :: sampleMessage (.response "request-1")) := by
  decide +kernel

theorem sampleRequest_signs : sampleParties.Signs (7 : UInt8) sampleSignerId
    (sampleMessage sampleRequestFields)
    (.request (sampleRandomness _) [1, 2, 3] sampleRequest) := by
  refine ⟨7 :: sampleMessage sampleRequestFields, ?_⟩
  refine SecureClient.mem_log_buildRequest.mpr ⟨sampleRequestContext, sampleRequest_context, ?_⟩
  decide +kernel

theorem sampleAnswer_signs : sampleParties.Signs (7 : UInt8) sampleSignerId
    (sampleMessage (.response "request-1"))
    (.answer "request-1" (sampleRandomness _) [1, 2, 3]) :=
  ⟨7 :: sampleMessage (.response "request-1"), by decide +kernel⟩

theorem sampleParties_signedBefore {past : List (Action (reference recoverableSignature))}
    {message : Bytes} (h : ∃ earlier ∈ past,
      sampleParties.Signs (7 : UInt8) sampleSignerId message earlier) :
    sampleParties.SignedBefore past (7 : UInt8) sampleSignerId (7 :: message) := by
  intro message' hverified
  have hsame : 7 :: message = 7 :: message' := of_decide_eq_true hverified
  rwa [← (List.cons.inj hsame).2]

theorem samplePast_history : sampleParties.History samplePast := by
  refine .step _ (.step _ (.step _ .start trivial) ?_) trivial
  intro text signature htext hdecode
  rw [← Option.some.inj (sampleParts_read.1.symm.trans htext)] at hdecode
  rw [← Option.some.inj ((reference_base64.decode_encode _).symm.trans hdecode)]
  exact sampleParties_signedBefore ⟨_, List.mem_singleton_self _, sampleRequest_signs⟩

theorem sampleHistory :
    sampleParties.History (.response (answerUnder "request-1") :: samplePast) := by
  refine .step _ samplePast_history ?_
  rintro signature ⟨value, hvalue, hdecode⟩
  rw [answerUnder_signatures.1] at hvalue
  rw [List.mem_singleton.mp hvalue, answerUnder_signatures.2] at hdecode
  rw [← Option.some.inj ((reference_base64.decode_encode _).symm.trans hdecode)]
  exact sampleParties_signedBefore ⟨_, List.mem_cons_self, sampleAnswer_signs⟩

theorem sample_response_answers_a_request :
    sampleParties.History (.response (answerUnder "request-1") :: samplePast) ∧
    ∃ requestId random newer older, samplePast =
        newer ++ .answer requestId random [1, 2, 3] :: older ∧
      ∃ parts operation q newer' older', older = newer' ++ .receive parts :: older' ∧
        sampleParties.Accepts parts operation requestId q ∧
        ∃ random' request, .request random' q request ∈ older' := by
  obtain ⟨-, hoperation, hid, hreceived⟩ := sampleParts_read
  have hrule : sampleParties.AnswersAccepted (.response (answerUnder "request-1") :: samplePast) :=
    ⟨⟨sampleParts, "transfer", [1, 2, 3], List.mem_cons_self, ⟨hoperation, hid, hreceived⟩⟩,
      trivial⟩
  obtain ⟨requestId, -, random, newer, older, hanswer, -, hrest⟩ :=
    accepted_response_answers_a_request _ sampleParties _ [] _ sampleHistory _ _ rfl
      answerUnder_opened
  obtain ⟨parts, operation, q, newer', older', hreceive, haccepts, random', request, hrequest, -⟩ :=
    hrest hrule
  exact ⟨sampleHistory, requestId, random, newer, older, hanswer, parts, operation, q, newer',
    older', hreceive, haccepts, random', request, hrequest⟩

end Samples

end EnvelopeLite.Exchange
