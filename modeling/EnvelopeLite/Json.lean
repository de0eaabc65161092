import EnvelopeLite.Exchange
import EnvelopeLite.Freshness

namespace EnvelopeLite.Json

open EnvelopeLite.Adapter EnvelopeLite.Auth EnvelopeLite.ByteFields EnvelopeLite.CallTrace
open EnvelopeLite.Client EnvelopeLite.Common EnvelopeLite.Config EnvelopeLite.EnvelopeCrypto
open EnvelopeLite.EnvelopeCrypto.SealPath EnvelopeLite.Exchange EnvelopeLite.Header
open EnvelopeLite.HeaderContext EnvelopeLite.Message EnvelopeLite.Peers EnvelopeLite.Primitives
open EnvelopeLite.RandomSource EnvelopeLite.ReferencePrimitives EnvelopeLite.Request
open EnvelopeLite.RequestPath EnvelopeLite.ResponsePath EnvelopeLite.RoundTrip
open EnvelopeLite.Placement EnvelopeLite.Supply EnvelopeLite.Text
open EnvelopeLite.Timestamp

variable {P : Platform} {T U : Type}

section Requests

variable (codec : JsonCodec T) (source : Source P) (client : SecureClient P)

def buildJsonRequest (value : T) (request : RequestContext) : Draw P RequestParts := do
  let plaintext ← lift (ofExcept (serializeJson codec value))
  source.buildRequest client plaintext request

def fluentJson (operation : String) (calls : List RequestCall) (sinceEpoch : Option Duration)
    (value : T) : Draw P RequestParts := do
  let builder ← lift (ofExcept (calls.foldlM RequestBuilder.apply (request client operation)))
  builder.json codec source sinceEpoch value

def explicitJson (operation : String) (calls : List RequestCall) (sinceEpoch : Option Duration)
    (value : T) : Draw P RequestParts := do
  let builder ← lift (ofExcept
    (calls.foldlM RequestContextBuilder.apply (RequestContextBuilder.new operation)))
  let context ← builder.build source sinceEpoch
  buildJsonRequest codec source client value context

variable {codec source client}

theorem fluentJson_eq_fluentRequest {operation : String} {calls : List RequestCall}
    {sinceEpoch : Option Duration} {value : T} {plaintext : Bytes}
    (h : codec.toWriter value = some plaintext) :
    fluentJson codec source client operation calls sinceEpoch value =
      fluentRequest source client operation calls sinceEpoch plaintext := by
  have hplaintext : serializeJson codec value = .ok plaintext := okOr_ok_iff.mpr h
  simp only [fluentJson, fluentRequest, RequestBuilder.json, RequestBuilder.bytes, hplaintext,
    ofExcept_ok, lift_pure, pure_bind]

theorem fluentJson_eq_explicitJson (operation : String) (calls : List RequestCall)
    (sinceEpoch : Option Duration) (value : T) :
    fluentJson codec source client operation calls sinceEpoch value =
      explicitJson codec source client operation calls sinceEpoch value := by
  have hchain := RequestBuilder.foldlM_ofContextBuilder client calls
    (RequestContextBuilder.new operation)
  change calls.foldlM RequestBuilder.apply (request client operation) = _ at hchain
  rw [fluentJson, explicitJson, hchain]
  cases calls.foldlM RequestContextBuilder.apply (RequestContextBuilder.new operation) with
  | error e => rfl
  | ok b =>
    change (RequestBuilder.ofContextBuilder client b).json codec source sinceEpoch value =
      b.build source sinceEpoch >>= buildJsonRequest codec source client value
    simp only [RequestBuilder.json, RequestBuilder.intoContext, RequestContextBuilder.build,
      RequestBuilder.ofContextBuilder, bind_assoc, pure_bind]
    rfl

theorem buildJsonRequest_of_none {value : T} (h : codec.toWriter value = none)
    (context : RequestContext) :
    buildJsonRequest codec source client value context = lift (fail .serialization) := by
  rw [buildJsonRequest, serializeJson, h]
  rfl

theorem follows_build (source : Source P) (b : RequestContextBuilder)
    (sinceEpoch : Option Duration) (place : Nat) :
    ∃ x, Follows usesSource (b.build source sinceEpoch) place x ∧
      x.log = if b.metadata.isNone then [.fillRandom 16] else [] := by
  cases hmetadata : b.metadata with
  | some metadata =>
    have hbuild : b.build source sinceEpoch = lift (ofExcept
        (RequestContext.fromParts b.operation metadata b.additionalHeaders.intoPairs)) := by
      rw [RequestContextBuilder.build, hmetadata, metadataOrGenerate, pure_bind]
    rw [hbuild]
    exact ⟨_, follows_lift emits_ofExcept place, log_ofExcept⟩
  | none =>
    refine ⟨Metadata.generate P (source.bytes place 16) sinceEpoch >>= fun metadata => ofExcept
      (RequestContext.fromParts b.operation metadata b.additionalHeaders.intoPairs), ?_, ?_⟩
    · rw [RequestContextBuilder.build, hmetadata]
      exact follows_bind (follows_generate sinceEpoch) fun _ _ => follows_lift emits_ofExcept _
    · rw [log_bind_of_silent fun _ => log_ofExcept, log_generate]
      rfl

end Requests

/-- A JSON request is the request for the bytes that its value is written as, on both
ways to build it. A value that cannot be written gives no request, and nothing is drawn,
wrapped or signed for it but the request id. -/
theorem json_request_is_the_byte_request (P : Platform) (T : Type) (codec : JsonCodec T)
    (source : Source P) (client : SecureClient P) (operation : String)
    (calls : List RequestCall) (sinceEpoch : Option Duration) (value : T) :
    let json := fluentJson codec source client operation calls sinceEpoch value
    json = explicitJson codec source client operation calls sinceEpoch value ∧
    (∀ plaintext, codec.toWriter value = some plaintext →
      json = fluentRequest source client operation calls sinceEpoch plaintext) ∧
    (codec.toWriter value = none → ∀ place,
      let drawn : List P.Call :=
        if (lastMetadata calls).isNone && (HeaderCollection.fromPairs (headerTexts calls)).isOk
        then [.fillRandom 16] else []
      (∀ parts, (json.traced place).outcome ≠ .ok parts) ∧ (json.traced place).log = drawn ∧
      json.next place = place + drawn.length) := by
  intro json
  have hexplicit : json = explicitJson codec source client operation calls sinceEpoch value :=
    fluentJson_eq_explicitJson operation calls sinceEpoch value
  refine ⟨hexplicit, fun plaintext h => fluentJson_eq_fluentRequest h, fun hnone place => ?_⟩
  have hchain := RequestContextBuilder.foldlM_apply calls (RequestContextBuilder.new operation)
  change _ = HeaderCollection.fromPairs (headerTexts calls) >>= _ at hchain
  rw [hexplicit, explicitJson, hchain]
  cases HeaderCollection.fromPairs (headerTexts calls) with
  | error e =>
    rw [Except.isOk, Except.toBool, Bool.and_false]
    refine ⟨fun parts hok => ?_, rfl, rfl⟩
    cases hok
  | ok headers =>
    simp only [ok_bind, ofExcept_ok, lift_pure, pure_bind, buildJsonRequest_of_none hnone,
      RequestContextBuilder.new, Option.or_none, Except.isOk, Except.toBool, Bool.and_true]
    obtain ⟨x, hfollows, hlog⟩ := follows_build source ⟨operation, lastMetadata calls, headers⟩
      sinceEpoch place
    have hrefused : Follows usesSource (_ >>= fun _ => lift (fail .serialization)) place
        (x >>= fun _ => fail .serialization : Run P RequestParts) :=
      follows_bind hfollows fun _ _ => follows_lift emits_fail _
    rw [hrefused.traced_eq, hrefused.next_eq, log_bind_of_silent fun _ => log_fail, hlog]
    refine ⟨fun parts hok => ?_, rfl, ?_⟩
    · obtain ⟨_, -, hok⟩ := bind_ok_iff.mp hok
      cases hok
    · split <;> rfl

/-- What is on record while a JSON response is opened: the calls of opening it, and
`serde_json::from_slice` on a plaintext. -/
inductive JsonCall (P : Platform)
  | primitive (call : P.Call)
  | fromSlice (plaintext : Bytes)

def openJsonResponse (codec : JsonCodec T) (client : SecureClient P) (response : ResponseParts) :
    Traced (JsonCall P) Error T := do
  let plaintext ← (client.openResponse response).relabel .primitive
  let value ← call (.fromSlice plaintext) (codec.fromSlice plaintext)
  orFail value .serialization

section Responses

variable {codec : JsonCodec T} {client : SecureClient P} {response : ResponseParts}

theorem openJsonResponse_of_ok {p : Bytes}
    (h : (client.openResponse response).outcome = .ok p) :
    openJsonResponse codec client response =
      ⟨(client.openResponse response).log.map .primitive ++ [.fromSlice p],
        (orFail (codec.fromSlice p) Error.serialization : Run P T).outcome⟩ := by
  have hopened : ((client.openResponse response).relabel JsonCall.primitive).outcome = .ok p := h
  rw [openJsonResponse, Traced.bind_ok hopened]
  cases codec.fromSlice p <;> rfl

theorem openJsonResponse_of_err {e : Error}
    (h : (client.openResponse response).outcome = .err e) :
    openJsonResponse codec client response =
      ⟨(client.openResponse response).log.map .primitive, .err e⟩ := by
  have hrefused : ((client.openResponse response).relabel JsonCall.primitive).outcome = .err e := h
  rw [openJsonResponse, Traced.bind_err hrefused]
  rfl

theorem openJsonResponse_ok_iff {value : T} :
    (openJsonResponse codec client response).outcome = .ok value ↔
      ∃ p, (client.openResponse response).outcome = .ok p ∧ codec.fromSlice p = some value := by
  simp only [openJsonResponse, bind_ok_iff, call_ok_iff, orFail_ok_iff]
  constructor
  · rintro ⟨p, hp, _, rfl, hvalue⟩
    exact ⟨p, hp, hvalue⟩
  · rintro ⟨p, hp, hvalue⟩
    exact ⟨p, hp, _, rfl, hvalue⟩

theorem openJsonResponse_serialization_iff :
    (openJsonResponse codec client response).outcome = .err .serialization ↔
      ∃ p, (client.openResponse response).outcome = .ok p ∧ codec.fromSlice p = none := by
  have hends := client.ends_openResponse response
  cases hopened : (client.openResponse response).outcome with
  | ok p =>
    rw [openJsonResponse_of_ok hopened]
    cases hvalue : codec.fromSlice p <;> simp [orFail, fail, hvalue]
  | err e =>
    rw [openJsonResponse_of_err hopened]
    rw [Ends, hopened] at hends
    obtain rfl | rfl | rfl := hends <;> simp
  | panic => exact absurd hopened hends.ne_panic

theorem opened_of_fromSlice {p : Bytes}
    (h : .fromSlice p ∈ (openJsonResponse codec client response).log) :
    ∃ q, (client.openResponse response).outcome = .ok q ∧
      (openJsonResponse codec client response).log =
        (client.openResponse response).log.map .primitive ++ [.fromSlice q] := by
  cases hopened : (client.openResponse response).outcome with
  | ok q =>
    refine ⟨q, rfl, ?_⟩
    rw [openJsonResponse_of_ok hopened]
  | err e =>
    rw [openJsonResponse_of_err hopened] at h
    obtain ⟨c, -, hc⟩ := List.mem_map.mp h
    cases hc
  | panic => exact absurd hopened (client.ends_openResponse response).ne_panic

theorem verified_of_openResponse_ok {p : Bytes}
    (h : (client.openResponse response).outcome = .ok p) :
    ∃ parsed input signature, client.adapter.parseResponse response = .ok parsed ∧
      P.base64Decode parsed.envelope.signature = some signature ∧
      client.config.authenticationMode.authenticationInput P.toTarget
        parsed.authenticationContext p = .ok input ∧
      P.verifyWithId client.keys.remoteVerification client.config.expectedRemoteSignerId.1 input
        signature = true ∧
      .verifyWithId client.keys.remoteVerification client.config.expectedRemoteSignerId.1 input
        signature true ∈ (client.openResponse response).log := by
  obtain ⟨parsed, hparsed, heq⟩ := SecureClient.openResponse_ok h
  rw [heq] at h ⊢
  obtain ⟨input, signature, hverified⟩ := OpenPath.verified_mem_log_of_ok h
  exact ⟨parsed, input, signature, hparsed, hverified⟩

end Responses

/-- The plaintext is parsed at most once and after everything else, it is the plaintext
whose signature has been verified, and only such a plaintext makes the error that says
that it is not JSON. Every other error is that of opening the response. -/
theorem json_is_parsed_after_verification (P : Platform) (T : Type) (codec : JsonCodec T)
    (client : SecureClient P) (response : ResponseParts) :
    let opened := client.openResponse response
    let run := openJsonResponse codec client response
    (∀ p, .fromSlice p ∈ run.log →
      run.log = opened.log.map .primitive ++ [.fromSlice p] ∧ opened.outcome = .ok p ∧
      ∃ parsed input signature, client.adapter.parseResponse response = .ok parsed ∧
        P.base64Decode parsed.envelope.signature = some signature ∧
        client.config.authenticationMode.authenticationInput P.toTarget
          parsed.authenticationContext p = .ok input ∧
        P.verifyWithId client.keys.remoteVerification client.config.expectedRemoteSignerId.1 input
          signature = true ∧
        .verifyWithId client.keys.remoteVerification client.config.expectedRemoteSignerId.1 input
          signature true ∈ opened.log) ∧
    (∀ value, run.outcome = .ok value ↔
      ∃ p, opened.outcome = .ok p ∧ codec.fromSlice p = some value) ∧
    (run.outcome = .err .serialization ↔
      ∃ p, opened.outcome = .ok p ∧ codec.fromSlice p = none) ∧
    ∀ e, opened.outcome = .err e →
      run.outcome = .err e ∧ run.log = opened.log.map .primitive := by
  intro opened run
  refine ⟨?_, fun value => openJsonResponse_ok_iff, ?_, ?_⟩
  · intro p hparsed
    obtain ⟨q, hq, hlog⟩ := opened_of_fromSlice hparsed
    rw [hlog, List.mem_append, List.mem_singleton] at hparsed
    obtain hprimitive | hlast := hparsed
    · obtain ⟨c, -, hc⟩ := List.mem_map.mp hprimitive
      cases hc
    · cases hlast
      exact ⟨hlog, hq, verified_of_openResponse_ok hq⟩
  · exact openJsonResponse_serialization_iff
  · intro e he
    have hrun : run = _ := openJsonResponse_of_err he
    rw [hrun]
    exact ⟨rfl, rfl⟩

section Exchange

/-- The value is written as these bytes, and they are read as the value. -/
structure Represents (codec : JsonCodec T) (value : T) (p : Bytes) : Prop where
  writes : codec.toWriter value = some p
  reads : codec.fromSlice p = some value

def receiveJson (codec : JsonCodec T) (config : ClientConfig P.toTarget) (keys : KeyMaterial P)
    (schema : HeaderSchema) (parts : RequestParts) : Run P T := do
  let plaintext ← receiveRequest P config keys schema parts
  orFail (codec.fromSlice plaintext) .serialization

def answerJson (codec : JsonCodec T) (config : ClientConfig P.toTarget) (keys : KeyMaterial P)
    (random : Randomness P) (requestId : String) (value : T) : Run P SecureEnvelope := do
  let plaintext ← ofExcept (serializeJson codec value)
  answerRequest P config keys random requestId plaintext

theorem answerJson_eq {codec : JsonCodec T} {config : ClientConfig P.toTarget}
    {keys : KeyMaterial P} {random : Randomness P} {requestId : String} {value : T} {p : Bytes}
    {context : AuthenticationContext} (hvalue : codec.toWriter value = some p)
    (hcontext : encodeResponseContext requestId = .ok context) :
    answerJson codec config keys random requestId value =
      sealEnvelope P config keys random p context := by
  have hwritten : serializeJson codec value = .ok p := okOr_ok_iff.mpr hvalue
  rw [answerJson, hwritten, ofExcept_ok, pure_bind, answerRequest, hcontext, Except.mapError,
    ofExcept_ok, pure_bind]

variable {client : SecureClient P} {schema : HeaderSchema}

/-- A request id that a request was bound to can be answered. -/
theorem answersUnder_of_encodeRequestContext {operation requestId : String}
    {context : AuthenticationContext} (hbound : schema.authentication = .contextBound)
    (hencode : encodeRequestContext operation requestId = .ok context)
    (hlegal : isHeaderText requestId = true) :
    ∃ context', encodeResponseContext requestId = .ok context' ∧
      AnswersUnder schema requestId context' := by
  have hfields : (BoundFields.request operation requestId).encode = .ok context := hencode
  obtain ⟨htrim, hsize⟩ := (BoundFields.encode_ok_iff.mp hfields).1 requestId
    (by simp [BoundFields.values])
  obtain ⟨context', hcontext⟩ := (BoundFields.exists_encode_iff (m := .response requestId)
    (by simpa [BoundFields.values] using hsize)).mpr (by simpa [BoundFields.values] using htrim)
  refine ⟨context', hcontext, ?_⟩
  rw [AnswersUnder, hbound]
  exact ⟨hlegal, hcontext⟩

theorem openResponse_of_carries (laws : RoundTripLaws P) (texts : EnvelopeTextLaws P)
    (hadapter : client.adapter = headerProtocolAdapter schema) {peer : ClientConfig P.toTarget}
    {peerKeys : KeyMaterial P} (hm : Matched P peer peerKeys client.config client.keys)
    {random : Randomness P} {p : Bytes} {context : AuthenticationContext}
    {envelope : SecureEnvelope}
    (hseal : (sealEnvelope P peer peerKeys random p context).outcome = .ok envelope)
    (hp : p.length ≤ client.config.maxPlaintextBytes.1) {requestId : String}
    (hcontext : AnswersUnder schema requestId context) {response : ResponseParts}
    (hclaim : Placeable client.config.identity.expectedRemoteSigningCertificateId.1)
    (hcarries : Carries schema response envelope
      client.config.identity.expectedRemoteSigningCertificateId.1 requestId) :
    (client.openResponse response).outcome = .ok p := by
  obtain ⟨hsignature, hwrapped, hcipher⟩ := placeable_of_sealed laws.base64 laws.cbc texts hseal
  have hgrammar := hcarries.grammar_eq hsignature hwrapped hcipher hcontext
  rw [headerValue_placeable hclaim] at hgrammar
  exact (openResponse_ok_iff hadapter).mpr
    ⟨envelope, context, hgrammar, open_ok_of_within_limit laws hm hseal hp⟩

theorem isHeaderText_of_header {parts : RequestParts} {name value : String}
    (h : parts.header name = some value) : isHeaderText value = true := by
  rw [RequestParts.header, Option.map_eq_some_iff] at h
  obtain ⟨headerValue, -, rfl⟩ := h
  exact headerValue.2

theorem received_of_buildRequest (laws : RoundTripLaws P)
    (hadapter : client.adapter = headerProtocolAdapter schema)
    (hbound : schema.authentication = .contextBound) {peer : ClientConfig P.toTarget}
    {peerKeys : KeyMaterial P} (hm : Matched P client.config client.keys peer peerKeys)
    {random : Randomness P} {p : Bytes} (hp : p.length ≤ peer.maxPlaintextBytes.1)
    {request : RequestContext} {parts : RequestParts}
    (h : (client.buildRequest random p request).outcome = .ok parts) :
    parts.header schema.operationHeader.asStr = some request.protocol.operation.1 ∧
    parts.header schema.requestIdHeader.asStr = some request.protocol.metadata.requestId.1 ∧
    (∃ context, encodeRequestContext request.protocol.operation.1
      request.protocol.metadata.requestId.1 = .ok context) ∧
    (receiveRequest P peer peerKeys schema parts).outcome = .ok p := by
  obtain ⟨context, envelope, hcontext, hseal, -, hbody, hfound⟩ := buildRequest_emits hadapter h
  rw [HeaderSchema.requestAuthenticationContext, hbound] at hcontext
  have hlookup : ∀ h ∈ schema.mappedHeaders client.config.identity request.protocol envelope ++
      schema.cipherHeaders envelope, parts.header h.1 = some h.2 := by
    intro h hmem
    apply hfound h ?_ h.1 (eqIgnoreAsciiCase_iff.mpr rfl)
    rw [HeaderSchema.emitted, List.append_assoc]
    exact List.mem_append_right _ hmem
  refine ⟨?_, ?_, ⟨context, hcontext⟩, ?_⟩
  · apply hlookup (pair schema.operationHeader request.protocol.operation.1)
    simp [HeaderSchema.mappedHeaders]
  · apply hlookup (pair schema.requestIdHeader request.protocol.metadata.requestId.1)
    simp [HeaderSchema.mappedHeaders]
  · exact receiveRequest_outcome hcontext hbody hlookup (open_ok_of_within_limit laws hm hseal hp)

end Exchange

/-- A JSON request that the client has built is read by the matching peer as the value
it was built from, and the peer can answer under the id in it. However the answer is
placed in a response, the client reads it as the value that the peer answered. -/
theorem json_exchange_completes (P : Platform) (laws : RoundTripLaws P)
    (texts : EnvelopeTextLaws P) (client : SecureClient P) (schema : HeaderSchema)
    (hadapter : client.adapter = headerProtocolAdapter schema)
    (hbound : schema.authentication = .contextBound)
    (hclaim : Placeable client.config.identity.expectedRemoteSigningCertificateId.1)
    (peer : ClientConfig P.toTarget) (peerKeys : KeyMaterial P)
    (hthere : Matched P client.config client.keys peer peerKeys)
    (hback : Matched P peer peerKeys client.config client.keys) (T U : Type)
    (codec : JsonCodec T) (codec' : JsonCodec U) (value : T) (value' : U) (p p' : Bytes)
    (hvalue : Represents codec value p) (hvalue' : Represents codec' value' p')
    (hp : p.length ≤ peer.maxPlaintextBytes.1)
    (hp' : p'.length ≤ client.config.maxPlaintextBytes.1) (source : Source P) (place : Nat)
    (operation : String) (calls : List RequestCall) (sinceEpoch : Option Duration)
    (parts : RequestParts)
    (hrequest : ((fluentJson codec source client operation calls sinceEpoch value).traced
      place).outcome = .ok parts) :
    parts.header schema.operationHeader.asStr = some operation ∧
    (receiveJson codec peer peerKeys schema parts).outcome = .ok value ∧
    ∃ requestId context, parts.header schema.requestIdHeader.asStr = some requestId ∧
      (∀ random, answerJson codec' peer peerKeys random requestId value' =
        sealEnvelope P peer peerKeys random p' context) ∧
      ∀ random envelope response,
        (answerJson codec' peer peerKeys random requestId value').outcome = .ok envelope →
        Carries schema response envelope
          client.config.identity.expectedRemoteSigningCertificateId.1 requestId →
        (openJsonResponse codec' client response).outcome = .ok value' := by
  rw [fluentJson_eq_fluentRequest hvalue.writes] at hrequest
  obtain ⟨random, request, rfl, hbuilt⟩ := fluentRequest_ok hrequest
  obtain ⟨hoperation, hrequestId, ⟨context, hcontext⟩, hreceived⟩ :=
    received_of_buildRequest laws hadapter hbound hthere hp hbuilt
  obtain ⟨context', hencode, hanswers⟩ := answersUnder_of_encodeRequestContext hbound hcontext
    (isHeaderText_of_header hrequestId)
  refine ⟨hoperation, ?_, _, context', hrequestId,
    fun random => answerJson_eq hvalue'.writes hencode, ?_⟩
  · rw [receiveJson, bind_ok_iff]
    exact ⟨p, hreceived, orFail_ok_iff.mpr hvalue.reads⟩
  · intro random envelope response hsealed hcarries
    rw [answerJson_eq hvalue'.writes hencode] at hsealed
    exact openJsonResponse_ok_iff.mpr ⟨p', openResponse_of_carries laws texts hadapter hback hsealed
      hp' hanswers hclaim hcarries, hvalue'.reads⟩

section Samples

def verbatim : JsonCodec Bytes := ⟨some, some⟩

def sampleCalls : List RequestCall :=
  [.header "X-Trace" "trace-1",
    .metadata ⟨⟨"request-1", by decide⟩, ⟨"2026-07-12-01.02.03.123456", by decide⟩⟩]

theorem sampleJson_requestId :
    ((fluentJson verbatim Freshness.sampleSource sampleClient "transfer" sampleCalls none
      [1, 2, 3]).traced 0).outcome.toOption.map
        (fun parts => parts.header sampleSchema.requestIdHeader.asStr) =
      some (some "request-1") := by
  decide +kernel

theorem sample_json_exchange_completes :
    ∃ parts, ((fluentJson verbatim Freshness.sampleSource sampleClient "transfer" sampleCalls none
        [1, 2, 3]).traced 0).outcome = .ok parts ∧
      (receiveJson verbatim sampleCcm (sampleKeys checksumSignature) sampleSchema
        parts).outcome = .ok [1, 2, 3] ∧
      (openJsonResponse verbatim sampleClient (sampleResponse "id")).outcome = .ok [1, 2, 3] := by
  obtain ⟨parts, hparts, hid⟩ := Option.map_eq_some_iff.mp sampleJson_requestId
  have hok := Outcome.eq_ok_get (Option.isSome_iff_exists.mpr ⟨parts, hparts⟩)
  simp only [hparts, Option.get_some] at hok
  obtain ⟨-, hreceived, requestId, context, hrequestId, -, hopens⟩ :=
    json_exchange_completes (reference checksumSignature) reference_laws reference_texts
      sampleClient sampleSchema rfl sampleSchema_authentication ⟨by decide, by decide, by decide⟩
      sampleCcm (sampleKeys _) sampleCcm_matched sampleCcm_matched Bytes Bytes verbatim verbatim
      [1, 2, 3] [1, 2, 3] [1, 2, 3] [1, 2, 3] ⟨rfl, rfl⟩ ⟨rfl, rfl⟩ (by decide) (by decide)
      Freshness.sampleSource 0 "transfer" sampleCalls none parts hok
  obtain rfl : requestId = "request-1" := Option.some.inj (hrequestId.symm.trans hid)
  refine ⟨parts, hok, hreceived, ?_⟩
  apply hopens (sampleRandomness _) sampleAnswer _ ?_ (sampleResponse_carries (by decide))
  have hencode : encodeResponseContext "request-1" = .ok sampleResponseContext := by
    decide +kernel
  exact (congrArg Traced.outcome (answerJson_eq rfl hencode)).trans sampleAnswer_eq

end Samples

end EnvelopeLite.Json
