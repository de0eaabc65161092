import EnvelopeLite.Request
import EnvelopeLite.RequestPath

namespace EnvelopeLite.Freshness

open EnvelopeLite.Adapter EnvelopeLite.Auth EnvelopeLite.ByteFields EnvelopeLite.CallTrace
open EnvelopeLite.Client EnvelopeLite.Common EnvelopeLite.Config EnvelopeLite.EnvelopeCrypto
open EnvelopeLite.Header EnvelopeLite.Message EnvelopeLite.Metadata EnvelopeLite.Primitives
open EnvelopeLite.RandomSource EnvelopeLite.ReferencePrimitives EnvelopeLite.Request
open EnvelopeLite.RequestPath EnvelopeLite.Supply
open EnvelopeLite.Text EnvelopeLite.Timestamp

variable {P : Platform}

inductive ClientOperation
  | generate (sinceEpoch : Option Duration)
  | sealing (plaintext : Bytes) (context : AuthenticationContext)
  | buildRequest (plaintext : Bytes) (request : RequestContext)
  | fluentRequest (operation : String) (calls : List RequestCall) (sinceEpoch : Option Duration)
      (plaintext : Bytes)
  | openResponse (response : ResponseParts)

inductive Result
  | metadata (metadata : RequestMetadata)
  | envelope (envelope : SecureEnvelope)
  | parts (parts : RequestParts)
  | plaintext (plaintext : Bytes)

variable (source : Source P)

def drawnText (place : Nat) : Option String := (source.bytes place 16).map requestId

/-- No two requests for 16 bytes get the same answer. -/
def Distinct : Prop :=
  ∀ i j random, source.bytes i 16 = some random → source.bytes j 16 = some random → i = j

def hexText (bytes : Bytes) : String := bytes.foldl (fun id byte => id ++ hexByte byte) ""

def wrappedKey : P.Call → Option String
  | .sm2Encrypt message _ => some (hexText message)
  | _ => none

namespace ClientOperation

def run (client : SecureClient P) : ClientOperation → Draw P Result
  | .generate sinceEpoch => Result.metadata <$> source.generate sinceEpoch
  | .sealing plaintext context =>
    Result.envelope <$> source.sealEnvelope client.config client.keys plaintext context
  | .buildRequest plaintext request =>
    Result.parts <$> source.buildRequest client plaintext request
  | .fluentRequest operation calls sinceEpoch plaintext =>
    Result.parts <$> Request.fluentRequest source client operation calls sinceEpoch plaintext
  | .openResponse response => Result.plaintext <$> lift (client.openResponse response)

/-- The request id that an operation makes up of its first draw, whether or not a later
step fails. A fluent request gets there if its headers are accepted and none of its calls
has given metadata. -/
def madeUpId (place : Nat) : ClientOperation → Option String
  | .generate _ => drawnText source place
  | .fluentRequest _ calls _ _ =>
    if (lastMetadata calls).isNone && (HeaderCollection.fromPairs (headerTexts calls)).isOk then
      drawnText source place else none
  | _ => none

/-- A result in which a request id can be seen that the operation was not given. -/
def ShowsId (client : SecureClient P) : ClientOperation → Result → String → Prop
  | .generate _, .metadata metadata, id => metadata.requestId.1 = id
  | .fluentRequest _ calls _ _, .parts parts, id => lastMetadata calls = none ∧
      ∃ schema, client.adapter = headerProtocolAdapter schema ∧
        parts.header schema.requestIdHeader.asStr = some id
  | _, _, _ => False

end ClientOperation

section Keys

variable {source} {client : SecureClient P} {config : ClientConfig P.toTarget}
variable {keys : KeyMaterial P} {random : Randomness P} {p : Bytes}
variable {context : AuthenticationContext}

def WrapsDrawnKey (random : Randomness P) (log : List P.Call) : Prop :=
  log.filterMap wrappedKey = [] ∨
    ∃ key, random.sessionKey = some key ∧ log.filterMap wrappedKey = [hexText key.1]

theorem filterMap_wrappedKey (log : List P.Call) :
    (log.filter usesSource).filterMap wrappedKey = log.filterMap wrappedKey := by
  rw [List.filterMap_filter]
  congr 1
  funext c
  cases c <;> rfl

theorem wrapsDrawnKey_drawCalls (config : ClientConfig P.toTarget) (keys : KeyMaterial P)
    (random : Randomness P) (p : Bytes) (context : AuthenticationContext) :
    WrapsDrawnKey random (drawCalls config keys random p context) := by
  cases hkey : random.sessionKey with
  | none =>
    left
    cases hmode : config.envelopeMode <;> simp only [drawCalls, hkey, hmode] <;> rfl
  | some key =>
    cases hinput : config.authenticationMode.authenticationInput P.toTarget context p with
    | error e =>
      left
      cases hmode : config.envelopeMode <;> simp only [drawCalls, hkey, hinput, hmode] <;> rfl
    | ok input =>
      right
      refine ⟨key, hkey, ?_⟩
      cases hmode : config.envelopeMode <;> simp only [drawCalls, hkey, hinput, hmode] <;> rfl

theorem wrapsDrawnKey_sealEnvelope : WrapsDrawnKey random
    (SealPath.sealEnvelope P config keys random p context).log := by
  have hprefix := (sealEnvelope_draws_in_order config keys random p context).filterMap wrappedKey
  rw [filterMap_wrappedKey] at hprefix
  obtain hnone | ⟨key, hkey, hcalls⟩ := wrapsDrawnKey_drawCalls config keys random p context
  · rw [hnone, List.prefix_nil] at hprefix
    exact .inl hprefix
  · rw [hcalls, List.prefix_cons_iff] at hprefix
    obtain hnone | ⟨rest, hrest, hnil⟩ := hprefix
    · exact .inl hnone
    · rw [List.prefix_nil.mp hnil] at hrest
      exact .inr ⟨key, hkey, hrest⟩

theorem wrapsDrawnKey_buildRequest {request : RequestContext} :
    WrapsDrawnKey random (client.buildRequest random p request).log := by
  cases hcontext : client.adapter.requestAuthenticationContext client.config.identity
      request.protocol with
  | error e =>
    left
    rw [SecureClient.buildRequest, hcontext]
    rfl
  | ok context =>
    rw [SecureClient.log_buildRequest hcontext]
    exact wrapsDrawnKey_sealEnvelope

theorem taken_wrappedKeys {log : List P.Call} {place : Nat}
    (hkey : random.sessionKey = source.bytes place 16) (h : WrapsDrawnKey random log) :
    Taken (drawnText source) place (place + log.countP usesSource) (log.filterMap wrappedKey) := by
  obtain hnone | ⟨key, hdrawn, hkeys⟩ := h
  · rw [hnone]
    exact taken_nil
  · have hmem : hexText key.1 ∈ (log.filter usesSource).filterMap wrappedKey := by
      rw [filterMap_wrappedKey, hkeys]
      exact List.mem_singleton_self _
    obtain ⟨c, hc, -⟩ := List.mem_filterMap.mp hmem
    have hcount : 0 < log.countP usesSource :=
      List.countP_pos_iff.mpr ⟨c, (List.mem_filter.mp hc).1, (List.mem_filter.mp hc).2⟩
    rw [hkeys]
    apply taken_singleton
    · rw [drawnText, ← hkey, hdrawn]
      rfl
    · omega

end Keys

section Operations

variable {source} {client : SecureClient P} {place : Nat}

theorem generate_ok {random : Option (FixedBytes 16)} {sinceEpoch : Option Duration}
    {metadata : RequestMetadata}
    (h : (Metadata.generate P random sinceEpoch).outcome = .ok metadata) :
    random.map requestId = some metadata.requestId.1 := by
  simp only [Metadata.generate, bind_ok_iff, call_ok_iff, orFail_ok_iff, ofExcept_ok_iff] at h
  obtain ⟨_, rfl, drawn, rfl, _, -, time, -, hnew⟩ := h
  simp only [RequestMetadata.new, bind_eq_ok_iff, validateContextValue, validateLine_ok_iff,
    Except.ok.injEq] at hnew
  obtain ⟨_, hid, _, -, rfl⟩ := hnew
  exact congrArg some hid

theorem requestId_of_buildRequest {schema : HeaderSchema}
    (hadapter : client.adapter = headerProtocolAdapter schema) {random : Randomness P} {p : Bytes}
    {request : RequestContext} {parts : RequestParts}
    (h : (client.buildRequest random p request).outcome = .ok parts) :
    parts.header schema.requestIdHeader.asStr = some request.protocol.metadata.requestId.1 := by
  obtain ⟨context, envelope, -, -, -, -, hfound⟩ := buildRequest_emits hadapter h
  refine hfound (pair schema.requestIdHeader request.protocol.metadata.requestId.1) ?_ _
    (eqIgnoreAsciiCase_iff.mpr rfl)
  simp [HeaderSchema.emitted, HeaderSchema.mappedHeaders]

/-- The operation follows a record whose random values stand in the source from the
place where it started to the place where it ended. -/
def SpendsInOrder (source : Source P) (client : SecureClient P) (operation : ClientOperation)
    (place : Nat) : Prop :=
  ∃ y, Follows usesSource (operation.run source client) place y ∧
    Taken (drawnText source) place (place + y.log.countP usesSource)
      ((operation.madeUpId source place).toList ++ y.log.filterMap wrappedKey)

theorem spendsInOrder_generate (sinceEpoch : Option Duration) :
    SpendsInOrder source client (.generate sinceEpoch) place := by
  refine ⟨_, follows_map _ (follows_generate sinceEpoch), ?_⟩
  rw [log_map, log_generate]
  change Taken (drawnText source) place (place + 1) ((drawnText source place).toList ++ [])
  rw [List.append_nil]
  exact taken_toList place

theorem spendsInOrder_of_keys {α : Type} {operation : ClientOperation} {f : α → Result}
    {x : Draw P α} {y : Run P α} {random : Randomness P}
    (hrun : operation.run source client = f <$> x) (hid : operation.madeUpId source place = none)
    (hfollows : Follows usesSource x place y) (hkey : random.sessionKey = source.bytes place 16)
    (hwraps : WrapsDrawnKey random y.log) : SpendsInOrder source client operation place := by
  refine ⟨f <$> y, ?_, ?_⟩
  · rw [hrun]
    exact follows_map f hfollows
  · rw [hid, log_map]
    exact taken_wrappedKeys hkey hwraps

/-- A fluent request that makes up its id draws the id before the session key. -/
theorem follows_resolvedRequest (source : Source P) (client : SecureClient P) (place : Nat)
    (operation : String) (headers : HeaderCollection) (sinceEpoch : Option Duration) (p : Bytes) :
    Follows usesSource (resolvedRequest source client operation none headers sinceEpoch p) place
      (Metadata.generate P (source.bytes place 16) sinceEpoch >>= fun metadata =>
        ofExcept (RequestContext.fromParts operation metadata headers.intoPairs) >>= fun context =>
          client.buildRequest (source.randomness client.config.envelopeMode (place + 1)) p
            context) := by
  refine follows_bind (follows_generate sinceEpoch) fun metadata _ => ?_
  rw [log_generate]
  exact follows_lift_bind emits_ofExcept fun context _ => follows_buildRequest client p context

theorem wrapsDrawnKey_placed {random : Randomness P} {operation : String} {p : Bytes}
    {metadata : RequestMetadata} {headers : HeaderCollection} :
    WrapsDrawnKey random
      (ofExcept (RequestContext.fromParts operation metadata headers.intoPairs) >>=
        fun context => client.buildRequest random p context : Run P RequestParts).log := by
  cases RequestContext.fromParts operation metadata headers.intoPairs with
  | error e => exact .inl rfl
  | ok context => exact wrapsDrawnKey_buildRequest

theorem taken_resolvedRequest {random : Randomness P} {sinceEpoch : Option Duration}
    {f : RequestMetadata → Run P RequestParts}
    {y : Run P RequestParts} (hy : y = Metadata.generate P (source.bytes place 16) sinceEpoch >>= f)
    (hkey : random.sessionKey = source.bytes (place + 1) 16)
    (hf : ∀ metadata, WrapsDrawnKey random (f metadata).log) :
    Taken (drawnText source) place (place + y.log.countP usesSource)
      ((drawnText source place).toList ++ y.log.filterMap wrappedKey) := by
  have hrest : ∃ rest, y.log = .fillRandom 16 :: rest ∧ WrapsDrawnKey random rest := by
    -- Without metadata the request ends there, and the draw of the id is its only call.
    by_cases hgenerated : ∃ metadata,
        (Metadata.generate P (source.bytes place 16) sinceEpoch).outcome = .ok metadata
    · obtain ⟨metadata, hmetadata⟩ := hgenerated
      refine ⟨(f metadata).log, ?_, hf metadata⟩
      rw [hy, Traced.bind_ok hmetadata, log_generate]
      rfl
    · refine ⟨[], ?_, .inl rfl⟩
      rw [hy, log_bind_of_not_ok (not_exists.mp hgenerated), log_generate]
  obtain ⟨rest, hlog, hwraps⟩ := hrest
  have hcount : place + y.log.countP usesSource = place + 1 + rest.countP usesSource := by
    rw [hlog, List.countP_cons_of_pos rfl]
    omega
  have hkeys : y.log.filterMap wrappedKey = rest.filterMap wrappedKey := by
    rw [hlog]
    rfl
  rw [hcount, hkeys]
  exact (taken_toList place).append (taken_wrappedKeys hkey hwraps) (Nat.le_succ place)
    (Nat.le_add_right _ _)

theorem spendsInOrder_fluentRequest (operation : String) (calls : List RequestCall)
    (sinceEpoch : Option Duration) (p : Bytes) :
    SpendsInOrder source client (.fluentRequest operation calls sinceEpoch p) place := by
  have hrun := (fluentRequest_eq source client operation calls sinceEpoch p).trans
    (explicitRequest_eq source client operation calls sinceEpoch p)
  cases hheaders : HeaderCollection.fromPairs (headerTexts calls) with
  | error e =>
    rw [hheaders] at hrun
    refine ⟨Result.parts <$> fail e, ?_, ?_⟩
    · rw [ClientOperation.run, hrun]
      exact ⟨rfl, rfl⟩
    · rw [ClientOperation.madeUpId, hheaders, Except.isOk, Except.toBool, Bool.and_false]
      exact taken_nil
  | ok headers =>
    rw [hheaders, ofExcept_ok, lift_pure, pure_bind] at hrun
    cases hlast : lastMetadata calls with
    | none =>
      have hfollows := follows_map Result.parts
        (follows_resolvedRequest source client place operation headers sinceEpoch p)
      rw [← hlast, ← hrun] at hfollows
      refine ⟨_, hfollows, ?_⟩
      have hid : (ClientOperation.fluentRequest operation calls sinceEpoch p).madeUpId source
          place = drawnText source place := by
        rw [ClientOperation.madeUpId, hlast, hheaders]
        rfl
      rw [hid, log_map]
      exact taken_resolvedRequest rfl (source.sessionKey_randomness _ _)
        fun _ => wrapsDrawnKey_placed
    | some metadata =>
      have hbuild : resolvedRequest source client operation (some metadata) headers sinceEpoch p =
          lift (ofExcept (RequestContext.fromParts operation metadata headers.intoPairs)) >>=
            source.buildRequest client p := by
        rw [resolvedRequest, metadataOrGenerate, pure_bind]
      rw [hlast, hbuild] at hrun
      have hparts : (ClientOperation.fluentRequest operation calls sinceEpoch p).run source client =
          Result.parts <$> _ := congrArg (Result.parts <$> ·) hrun
      have hid : (ClientOperation.fluentRequest operation calls sinceEpoch p).madeUpId source
          place = none := by
        rw [ClientOperation.madeUpId, hlast]
        rfl
      exact spendsInOrder_of_keys hparts hid
        (follows_lift_bind emits_ofExcept fun context _ => follows_buildRequest client p context)
        (source.sessionKey_randomness client.config.envelopeMode place) wrapsDrawnKey_placed

theorem emits_openResponse_of (response : ResponseParts) {R : P.Call → Prop}
    (hdecode : ∀ value r, R (.base64Decode value r))
    (hunwrap : ∀ wrapped r, R (.sm2Decrypt wrapped r))
    (hcbc : ∀ cipher r, R (.cbcDecrypt cipher r)) (hgcm : ∀ c r, R (.gcmDecrypt c r))
    (hccm : ∀ c r, R (.ccmDecrypt c r)) (hverify : ∀ key id m s v, R (.verifyWithId key id m s v)) :
    Emits (client.openResponse response) R := by
  apply SecureClient.emits_openResponse
  intro parsed _
  exact OpenPath.emits_openEnvelope_of hdecode hunwrap hcbc hgcm (fun _ _ _ _ _ => hccm _ _)
    (fun _ _ _ => hverify _ _ _ _ _)

theorem spendsInOrder_openResponse (response : ResponseParts) :
    SpendsInOrder source client (.openResponse response) place := by
  have hunused : Emits (client.openResponse response) (usesSource · = false) :=
    emits_openResponse_of response (fun _ _ => rfl) (fun _ _ => rfl) (fun _ _ => rfl)
      (fun _ _ => rfl) (fun _ _ => rfl) (fun _ _ _ _ _ => rfl)
  refine ⟨_, follows_map _ (follows_lift hunused place), ?_⟩
  rw [log_map, ← filterMap_wrappedKey, filter_log_of_silent hunused]
  exact taken_nil

theorem spendsInOrder (operation : ClientOperation) :
    SpendsInOrder source client operation place := by
  cases operation with
  | generate sinceEpoch => exact spendsInOrder_generate sinceEpoch
  | sealing p context =>
    exact spendsInOrder_of_keys rfl rfl (follows_sealEnvelope client.config client.keys p context)
      (source.sessionKey_randomness client.config.envelopeMode place) wrapsDrawnKey_sealEnvelope
  | buildRequest p request =>
    exact spendsInOrder_of_keys rfl rfl (follows_buildRequest client p request)
      (source.sessionKey_randomness client.config.envelopeMode place) wrapsDrawnKey_buildRequest
  | fluentRequest operation calls sinceEpoch p =>
    exact spendsInOrder_fluentRequest operation calls sinceEpoch p
  | openResponse response => exact spendsInOrder_openResponse response

theorem madeUpId_of_fluentRequest {operation : String} {calls : List RequestCall}
    {sinceEpoch : Option Duration} {p : Bytes} {parts : RequestParts} {schema : HeaderSchema}
    (hadapter : client.adapter = headerProtocolAdapter schema) (hlast : lastMetadata calls = none)
    (h : ((Request.fluentRequest source client operation calls sinceEpoch p).traced place).outcome =
      .ok parts) :
    (ClientOperation.fluentRequest operation calls sinceEpoch p).madeUpId source place =
      parts.header schema.requestIdHeader.asStr := by
  rw [fluentRequest_eq, explicitRequest_eq, hlast, Drawing.traced_bind, bind_ok_iff] at h
  obtain ⟨headers, hheaders, h⟩ := h
  have hfollows := follows_resolvedRequest source client place operation headers sinceEpoch p
  change ((resolvedRequest source client operation none headers sinceEpoch p).traced place).outcome =
    _ at h
  rw [hfollows.traced_eq, bind_ok_iff] at h
  obtain ⟨metadata, hmetadata, h⟩ := h
  obtain ⟨context, hcontext, hbuilt⟩ := bind_ok_iff.mp h
  rw [requestId_of_buildRequest hadapter hbuilt,
    metadata_of_fromParts (ofExcept_ok_iff.mp hcontext), ClientOperation.madeUpId, hlast,
    ofExcept_ok_iff.mp hheaders]
  exact generate_ok hmetadata

theorem madeUpId_of_showsId {operation : ClientOperation} {result : Result} {id : String}
    (hok : ((operation.run source client).traced place).outcome = .ok result)
    (hshows : operation.ShowsId client result id) : operation.madeUpId source place = some id := by
  cases operation with
  | generate sinceEpoch =>
    cases result with
    | metadata metadata =>
      obtain ⟨metadata', hgenerated, hsame⟩ := map_ok_iff.mp hok
      cases hsame
      have hid : metadata.requestId.1 = id := hshows
      rw [← hid]
      exact generate_ok hgenerated
    | _ => exact hshows.elim
  | fluentRequest operation calls sinceEpoch p =>
    cases result with
    | parts parts =>
      obtain ⟨hlast, schema, hadapter, hid⟩ := hshows
      obtain ⟨parts', hbuilt, hsame⟩ := map_ok_iff.mp hok
      cases hsame
      rw [← hid]
      exact madeUpId_of_fluentRequest hadapter hlast hbuilt
    | _ => exact hshows.elim
  | _ => cases result <;> exact hshows.elim

end Operations

def along (places : Nat → Nat) : Source P where
  bytes i := source.bytes (places i)
  coins i := source.coins (places i)

/-- An operation of one of the clients of a process, with the places of the source at
which its requests are answered. -/
structure Step (P : Platform) where
  client : SecureClient P
  operation : ClientOperation
  places : Nat → Nat

namespace Step

variable (step : Step P)

def run : Draw P Result := step.operation.run (along source step.places) step.client

/-- The random values that the step gives out: a request id that it makes up and the
session keys that it wraps. -/
def spends : List String :=
  (step.operation.madeUpId (along source step.places) 0).toList ++
    ((step.run source).traced 0).log.filterMap wrappedKey

def requests : Nat := (step.run source).next 0

end Step

/-- The steps run at the same time or one after the other, and each answer of the
source goes to one request of one step. -/
structure Interleaved (steps : List (Step P)) : Prop where
  own : ∀ step ∈ steps, ∀ i < step.requests source, ∀ j < step.requests source,
    step.places i = step.places j → i = j
  apart : steps.Pairwise fun step other => ∀ i < step.requests source,
    ∀ j < other.requests source, step.places i ≠ other.places j

section Interleavings

variable {source}

theorem Step.taken_spends (step : Step P) :
    Taken (fun i => drawnText source (step.places i)) 0 (step.requests source)
      (step.spends source) := by
  have hspends : SpendsInOrder (along source step.places) step.client step.operation 0 :=
    spendsInOrder step.operation
  obtain ⟨y, ⟨htraced, hnext⟩, htaken⟩ := hspends
  rw [← hnext, ← htraced] at htaken
  exact htaken

theorem place_eq_of_drawnText (hdistinct : Distinct source) {i j : Nat} {text : String}
    (hi : drawnText source i = some text) (hj : drawnText source j = some text) : i = j := by
  rw [drawnText, Option.map_eq_some_iff] at hi hj
  obtain ⟨random, hrandom, rfl⟩ := hi
  obtain ⟨random', hrandom', hsame⟩ := hj
  cases requestId_injective hsame
  exact hdistinct i j _ hrandom hrandom'

end Interleavings

/-- The request ids that the clients of a process make up and the session keys that they
wrap are all different, however their operations are interleaved, and counting those that
fail on the way. A made-up id that a result shows is one of those counted. -/
theorem spent_values_never_repeat (hdistinct : Distinct source) (steps : List (Step P))
    (hinterleaved : Interleaved source steps) :
    (steps.flatMap (Step.spends source)).Nodup ∧
    ∀ step ∈ steps, ∀ result id, ((step.run source).traced 0).outcome = .ok result →
      step.operation.ShowsId step.client result id → id ∈ step.spends source := by
  constructor
  · rw [List.nodup_flatMap]
    constructor
    · intro step hstep
      apply step.taken_spends.nodup
      intro i hi j hj text htext htext'
      exact hinterleaved.own step hstep i hi j hj (place_eq_of_drawnText hdistinct htext htext')
    · apply hinterleaved.apart.imp
      intro step other hapart text htext htext'
      obtain ⟨i, hi, hdrawn⟩ := step.taken_spends.exists_place htext
      obtain ⟨j, hj, hdrawn'⟩ := other.taken_spends.exists_place htext'
      exact hapart i hi j hj (place_eq_of_drawnText hdistinct hdrawn hdrawn')
  · intro step _ result id hok hshows
    rw [Step.spends, madeUpId_of_showsId hok hshows]
    exact List.mem_cons_self

section Samples

def sampleSource : Source (reference checksumSignature) where
  bytes place n :=
    if place < 256 then some ⟨List.replicate n (UInt8.ofNat place), List.length_replicate⟩ else none
  coins _ := ()

theorem sampleSource_distinct : Distinct sampleSource := by
  intro i j random hi hj
  simp only [sampleSource, Option.ite_none_right_eq_some, Option.some.injEq] at hi hj
  obtain ⟨hlt, rfl⟩ := hi
  obtain ⟨hlt', hsame⟩ := hj
  have hbytes : UInt8.ofNat j = UInt8.ofNat i :=
    (List.replicate_inj.mp (congrArg Subtype.val hsame)).2.resolve_left (by decide)
  have hvalue := congrArg UInt8.toNat hbytes
  rw [UInt8.toNat_ofNat_of_lt' hlt', UInt8.toNat_ofNat_of_lt' hlt] at hvalue
  exact hvalue.symm

def sampleStep (thread : Nat) (operation : ClientOperation) : Step (reference checksumSignature) :=
  ⟨sampleClient, operation, fun i => 4 * i + thread⟩

def sampleInstant : Duration := ⟨0, 0, by decide, by decide⟩

/-- Two threads make up an id, and two seal. The plaintext of one is too long, so that it
spends nothing. -/
def sampleSteps : List (Step (reference checksumSignature)) :=
  [sampleStep 0 (.generate (some sampleInstant)), sampleStep 1 (.sealing [1, 2, 3] sampleContext),
    sampleStep 2 (.sealing (List.replicate 65 0) sampleContext),
    sampleStep 3 (.generate (some sampleInstant))]

theorem sampleSteps_interleaved : Interleaved sampleSource sampleSteps := by
  constructor
  · intro step hstep i _ j _ hsame
    obtain rfl | rfl | rfl | rfl : step = _ ∨ step = _ ∨ step = _ ∨ step = _ := by
      simpa [sampleSteps] using hstep
    all_goals
      simp only [sampleStep] at hsame
      omega
  · simp only [sampleSteps, List.pairwise_cons, List.mem_cons, List.not_mem_nil, or_false,
      forall_eq_or_imp, forall_eq, sampleStep]
    refine ⟨⟨?_, ?_, ?_⟩, ⟨?_, ?_⟩, ?_, by simp⟩ <;> intro i _ j _ <;> omega

theorem sample_spent_values_differ :
    Distinct sampleSource ∧ Interleaved sampleSource sampleSteps ∧
    (sampleSteps.flatMap (Step.spends sampleSource)).length = 3 ∧
    (sampleSteps.flatMap (Step.spends sampleSource)).Nodup :=
  ⟨sampleSource_distinct, sampleSteps_interleaved, by decide +kernel,
    (spent_values_never_repeat sampleSource sampleSource_distinct sampleSteps
      sampleSteps_interleaved).1⟩

end Samples

end EnvelopeLite.Freshness
