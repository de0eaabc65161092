import EnvelopeLite.RandomSource

namespace EnvelopeLite.Request

open EnvelopeLite.ByteFields EnvelopeLite.CallTrace EnvelopeLite.Client EnvelopeLite.Common
open EnvelopeLite.Header EnvelopeLite.Message EnvelopeLite.Primitives EnvelopeLite.RandomSource
open EnvelopeLite.Supply EnvelopeLite.Text EnvelopeLite.Timestamp

variable {P : Platform}

def metadataOrGenerate (source : Source P) (sinceEpoch : Option Duration)
    (metadata : Option RequestMetadata) : Draw P RequestMetadata :=
  match metadata with
  | some metadata => pure metadata
  | none => source.generate sinceEpoch

structure RequestContextBuilder where
  operation : String
  metadata : Option RequestMetadata
  additionalHeaders : HeaderCollection

namespace RequestContextBuilder

def new (operation : String) : RequestContextBuilder := ⟨operation, none, {}⟩

def setMetadata (b : RequestContextBuilder) (metadata : RequestMetadata) :
    RequestContextBuilder :=
  { b with metadata := some metadata }

def header (b : RequestContextBuilder) (name value : String) :
    Except Error RequestContextBuilder := do
  let additionalHeaders ← b.additionalHeaders.insert name value
  .ok { b with additionalHeaders := additionalHeaders }

def build (b : RequestContextBuilder) (source : Source P) (sinceEpoch : Option Duration) :
    Draw P RequestContext := do
  let metadata ← metadataOrGenerate source sinceEpoch b.metadata
  lift (ofExcept (RequestContext.fromParts b.operation metadata b.additionalHeaders.intoPairs))

end RequestContextBuilder

structure JsonCodec (T : Type) where
  toWriter : T → Option Bytes
  fromSlice : Bytes → Option T

def serializeJson {T : Type} (codec : JsonCodec T) (value : T) : Except Error Bytes :=
  okOr (codec.toWriter value) .serialization

structure RequestBuilder (P : Platform) where
  client : SecureClient P
  operation : String
  metadata : Option RequestMetadata
  headers : HeaderCollection

namespace RequestBuilder

def new (client : SecureClient P) (operation : String) : RequestBuilder P :=
  ⟨client, operation, none, {}⟩

def setMetadata (b : RequestBuilder P) (metadata : RequestMetadata) : RequestBuilder P :=
  { b with metadata := some metadata }

def header (b : RequestBuilder P) (name value : String) : Except Error (RequestBuilder P) := do
  let headers ← b.headers.insert name value
  .ok { b with headers := headers }

def intoContext (b : RequestBuilder P) (source : Source P) (sinceEpoch : Option Duration) :
    Draw P (SecureClient P × RequestContext) := do
  let metadata ← metadataOrGenerate source sinceEpoch b.metadata
  let context ← lift (ofExcept
    (RequestContext.fromParts b.operation metadata b.headers.intoPairs))
  pure (b.client, context)

def bytes (b : RequestBuilder P) (source : Source P) (sinceEpoch : Option Duration)
    (plaintext : Bytes) : Draw P RequestParts := do
  let (client, context) ← b.intoContext source sinceEpoch
  source.buildRequest client plaintext context

def json {T : Type} (codec : JsonCodec T) (b : RequestBuilder P) (source : Source P)
    (sinceEpoch : Option Duration) (value : T) : Draw P RequestParts := do
  let (client, context) ← b.intoContext source sinceEpoch
  let plaintext ← lift (ofExcept (serializeJson codec value))
  source.buildRequest client plaintext context

end RequestBuilder

def request (client : SecureClient P) (operation : String) : RequestBuilder P :=
  RequestBuilder.new client operation

inductive RequestCall
  | metadata (metadata : RequestMetadata)
  | header (name value : String)

namespace RequestCall

def givenMetadata : RequestCall → Option RequestMetadata
  | .metadata m => some m
  | .header _ _ => none

def givenHeader : RequestCall → Option (String × String)
  | .metadata _ => none
  | .header name value => some (name, value)

end RequestCall

def RequestContextBuilder.apply (b : RequestContextBuilder) :
    RequestCall → Except Error RequestContextBuilder
  | .metadata metadata => .ok (b.setMetadata metadata)
  | .header name value => b.header name value

def RequestBuilder.apply (b : RequestBuilder P) : RequestCall → Except Error (RequestBuilder P)
  | .metadata metadata => .ok (b.setMetadata metadata)
  | .header name value => b.header name value

def lastMetadata (calls : List RequestCall) : Option RequestMetadata :=
  (calls.filterMap RequestCall.givenMetadata).getLast?

def headerTexts (calls : List RequestCall) : List (String × String) :=
  calls.filterMap RequestCall.givenHeader

section Chains

theorem lastMetadata_cons_metadata (metadata : RequestMetadata) (calls : List RequestCall)
    (before : Option RequestMetadata) :
    (lastMetadata (.metadata metadata :: calls)).or before =
      (lastMetadata calls).or (some metadata) := by
  have hcons : (RequestCall.metadata metadata :: calls).filterMap RequestCall.givenMetadata =
      metadata :: calls.filterMap RequestCall.givenMetadata := rfl
  rw [lastMetadata, hcons, List.getLast?_cons, lastMetadata]
  cases (calls.filterMap RequestCall.givenMetadata).getLast? <;> rfl

/-- A chain is its header insertions, and then its last metadata. -/
theorem RequestContextBuilder.foldlM_apply (calls : List RequestCall)
    (b : RequestContextBuilder) :
    calls.foldlM RequestContextBuilder.apply b = (do
      let headers ← (headerTexts calls).foldlM (fun c h => c.insert h.1 h.2) b.additionalHeaders
      .ok ⟨b.operation, (lastMetadata calls).or b.metadata, headers⟩) := by
  induction calls generalizing b with
  | nil => rfl
  | cons call calls ih =>
    cases call with
    | metadata metadata =>
      rw [List.foldlM_cons, lastMetadata_cons_metadata]
      change calls.foldlM RequestContextBuilder.apply (b.setMetadata metadata) = _
      rw [ih]
      rfl
    | header name value =>
      rw [List.foldlM_cons]
      change ((b.additionalHeaders.insert name value >>= fun headers =>
        Except.ok { b with additionalHeaders := headers }) >>= fun b' =>
          calls.foldlM RequestContextBuilder.apply b') = _
      have htexts : headerTexts (.header name value :: calls) = (name, value) :: headerTexts calls :=
        rfl
      rw [htexts, List.foldlM_cons, bind_assoc, bind_assoc]
      congr 1
      funext headers
      exact ih { b with additionalHeaders := headers }

/-- A fluent request is the client beside a context builder. -/
def RequestBuilder.ofContextBuilder (client : SecureClient P) (b : RequestContextBuilder) :
    RequestBuilder P :=
  ⟨client, b.operation, b.metadata, b.additionalHeaders⟩

theorem RequestBuilder.apply_ofContextBuilder (client : SecureClient P) (b : RequestContextBuilder)
    (call : RequestCall) :
    (RequestBuilder.ofContextBuilder client b).apply call =
      (b.apply call).map (RequestBuilder.ofContextBuilder client) := by
  cases call with
  | metadata metadata => rfl
  | header name value =>
    simp only [RequestBuilder.apply, RequestContextBuilder.apply, RequestBuilder.header,
      RequestContextBuilder.header, RequestBuilder.ofContextBuilder]
    cases b.additionalHeaders.insert name value <;> rfl

theorem RequestBuilder.foldlM_ofContextBuilder (client : SecureClient P) (calls : List RequestCall)
    (b : RequestContextBuilder) :
    calls.foldlM RequestBuilder.apply (RequestBuilder.ofContextBuilder client b) =
      (calls.foldlM RequestContextBuilder.apply b).map
        (RequestBuilder.ofContextBuilder client) := by
  induction calls generalizing b with
  | nil => rfl
  | cons call calls ih =>
    rw [List.foldlM_cons, List.foldlM_cons, RequestBuilder.apply_ofContextBuilder]
    cases hb : b.apply call with
    | error e => rfl
    | ok b' => exact ih b'

theorem RequestBuilder.bytes_ofContextBuilder (client : SecureClient P) (b : RequestContextBuilder)
    (source : Source P) (sinceEpoch : Option Duration) (plaintext : Bytes) :
    (RequestBuilder.ofContextBuilder client b).bytes source sinceEpoch plaintext =
      b.build source sinceEpoch >>= source.buildRequest client plaintext := by
  simp only [RequestBuilder.bytes, RequestBuilder.intoContext, RequestContextBuilder.build,
    RequestBuilder.ofContextBuilder, bind_assoc, pure_bind]

end Chains

theorem metadata_of_fromParts {operation : String} {metadata : RequestMetadata}
    {headers : List Entry} {context : RequestContext}
    (h : RequestContext.fromParts operation metadata headers = .ok context) :
    context.protocol.metadata = metadata := by
  unfold RequestContext.fromParts at h
  split at h
  · cases h
  · simp only [bind_eq_ok_iff, ProtocolRequestContext.new, Except.ok.injEq] at h
    obtain ⟨-, -, protocol, ⟨_, -, rfl⟩, rfl⟩ := h
    rfl

theorem operation_of_fromParts {operation : String} {metadata : RequestMetadata}
    {headers : List Entry} {context : RequestContext}
    (h : RequestContext.fromParts operation metadata headers = .ok context) :
    context.protocol.operation.1 = operation := by
  unfold RequestContext.fromParts at h
  split at h
  · cases h
  · simp only [bind_eq_ok_iff, ProtocolRequestContext.new, validateContextValue,
      validateLine_ok_iff, Except.ok.injEq] at h
    obtain ⟨-, -, protocol, ⟨_, hoperation, rfl⟩, rfl⟩ := h
    exact hoperation.symm

/-- A chain that starts at `SecureClient::request` and ends with `bytes`. -/
def fluentRequest (source : Source P) (client : SecureClient P) (operation : String)
    (calls : List RequestCall) (sinceEpoch : Option Duration) (plaintext : Bytes) :
    Draw P RequestParts := do
  let builder ← lift (ofExcept (calls.foldlM RequestBuilder.apply (request client operation)))
  builder.bytes source sinceEpoch plaintext

/-- The same chain on `RequestContext::builder`, and then `SecureClient::build_request`. -/
def explicitRequest (source : Source P) (client : SecureClient P) (operation : String)
    (calls : List RequestCall) (sinceEpoch : Option Duration) (plaintext : Bytes) :
    Draw P RequestParts := do
  let builder ← lift (ofExcept
    (calls.foldlM RequestContextBuilder.apply (RequestContextBuilder.new operation)))
  let context ← builder.build source sinceEpoch
  source.buildRequest client plaintext context

theorem fluentRequest_eq (source : Source P) (client : SecureClient P) (operation : String)
    (calls : List RequestCall) (sinceEpoch : Option Duration) (plaintext : Bytes) :
    fluentRequest source client operation calls sinceEpoch plaintext =
      explicitRequest source client operation calls sinceEpoch plaintext := by
  have hchain := RequestBuilder.foldlM_ofContextBuilder client calls
    (RequestContextBuilder.new operation)
  change calls.foldlM RequestBuilder.apply (request client operation) = _ at hchain
  rw [fluentRequest, explicitRequest, hchain]
  cases calls.foldlM RequestContextBuilder.apply (RequestContextBuilder.new operation) with
  | error e => rfl
  | ok b => exact RequestBuilder.bytes_ofContextBuilder client b source sinceEpoch plaintext

def resolvedRequest (source : Source P) (client : SecureClient P) (operation : String)
    (metadata : Option RequestMetadata) (headers : HeaderCollection)
    (sinceEpoch : Option Duration) (plaintext : Bytes) : Draw P RequestParts := do
  let metadata ← metadataOrGenerate source sinceEpoch metadata
  let context ← lift (ofExcept (RequestContext.fromParts operation metadata headers.intoPairs))
  source.buildRequest client plaintext context

theorem explicitRequest_eq (source : Source P) (client : SecureClient P) (operation : String)
    (calls : List RequestCall) (sinceEpoch : Option Duration) (plaintext : Bytes) :
    explicitRequest source client operation calls sinceEpoch plaintext =
      lift (ofExcept (HeaderCollection.fromPairs (headerTexts calls))) >>= fun headers =>
        resolvedRequest source client operation (lastMetadata calls) headers sinceEpoch
          plaintext := by
  rw [explicitRequest, RequestContextBuilder.foldlM_apply]
  change lift (ofExcept (HeaderCollection.fromPairs (headerTexts calls) >>= _)) >>= _ = _
  cases HeaderCollection.fromPairs (headerTexts calls) with
  | error e => rfl
  | ok headers =>
    rw [ok_bind]
    simp only [ofExcept_ok, lift_pure, pure_bind, RequestContextBuilder.build, resolvedRequest,
      RequestContextBuilder.new, Option.or_none, bind_assoc]

theorem fluentRequest_ok {source : Source P} {client : SecureClient P} {operation : String}
    {calls : List RequestCall} {sinceEpoch : Option Duration} {plaintext : Bytes} {place : Nat}
    {parts : RequestParts}
    (h : ((fluentRequest source client operation calls sinceEpoch plaintext).traced
      place).outcome = .ok parts) :
    ∃ random request, request.protocol.operation.1 = operation ∧
      (client.buildRequest random plaintext request).outcome = .ok parts := by
  rw [fluentRequest_eq, explicitRequest_eq, Drawing.traced_bind, bind_ok_iff] at h
  obtain ⟨headers, -, h⟩ := h
  rw [resolvedRequest, Drawing.traced_bind, bind_ok_iff] at h
  obtain ⟨metadata, -, h⟩ := h
  rw [Drawing.traced_bind, bind_ok_iff] at h
  obtain ⟨context, hcontext, hbuilt⟩ := h
  exact ⟨_, context, operation_of_fromParts (ofExcept_ok_iff.mp hcontext), hbuilt⟩

/-- A fluent request does what the explicit path does, for every chain of calls: the
headers are inserted in the order of the calls, the last metadata counts, and the first
header that is refused ends the chain before anything is drawn, sealed or signed. -/
theorem fluent_request_is_the_explicit_path (P : Platform) (source : Source P)
    (client : SecureClient P) (operation : String) (calls : List RequestCall)
    (sinceEpoch : Option Duration) (plaintext : Bytes) :
    let fluent := fluentRequest source client operation calls sinceEpoch plaintext
    fluent = explicitRequest source client operation calls sinceEpoch plaintext ∧
    (∀ headers, HeaderCollection.fromPairs (headerTexts calls) = .ok headers →
      headers.entries.map Entry.texts = headerTexts calls ∧
      fluent = resolvedRequest source client operation (lastMetadata calls) headers sinceEpoch
        plaintext) ∧
    ∀ e, HeaderCollection.fromPairs (headerTexts calls) = .error e →
      (∀ place, fluent.traced place = fail e ∧ fluent.next place = place) ∧
      ∃ before name value after headers,
        headerTexts calls = before ++ (name, value) :: after ∧
        HeaderCollection.fromPairs before = .ok headers ∧
        headers.insert name value = .error e := by
  intro fluent
  have hexplicit : fluent = explicitRequest source client operation calls sinceEpoch plaintext :=
    fluentRequest_eq source client operation calls sinceEpoch plaintext
  have hresolved := hexplicit.trans
    (explicitRequest_eq source client operation calls sinceEpoch plaintext)
  refine ⟨hexplicit, ?_, ?_⟩
  · intro headers hheaders
    refine ⟨(HeaderCollection.fromPairs_ok_iff.mp hheaders).1, ?_⟩
    rw [hresolved, hheaders, ofExcept_ok, lift_pure, pure_bind]
  · intro e he
    refine ⟨fun place => ?_, ?_⟩
    · rw [hresolved, he]
      exact ⟨rfl, rfl⟩
    · obtain ⟨before, ⟨name, value⟩, after, headers, htexts, hbefore, herror⟩ :=
        exists_error_of_foldlM he
      exact ⟨before, name, value, after, headers, htexts, hbefore, herror⟩

end EnvelopeLite.Request
