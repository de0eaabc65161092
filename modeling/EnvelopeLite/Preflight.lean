import EnvelopeLite.CallerHeaders
import EnvelopeLite.Placement

namespace EnvelopeLite.Preflight

open EnvelopeLite.Adapter EnvelopeLite.Auth EnvelopeLite.ByteFields EnvelopeLite.CallTrace
open EnvelopeLite.CallerHeaders EnvelopeLite.Client EnvelopeLite.Common EnvelopeLite.Config
open EnvelopeLite.Header EnvelopeLite.KeyedLists EnvelopeLite.Message EnvelopeLite.Placement
open EnvelopeLite.Primitives EnvelopeLite.ReferencePrimitives EnvelopeLite.RequestPath
open EnvelopeLite.Text

def placed (schema : HeaderSchema) (identity : ClientIdentity) (request : RequestContext)
    (envelope : SecureEnvelope) : Except Error RequestParts := do
  let parts ← (schema.buildRequest identity request.protocol envelope).mapError
    (fun _ => Error.protocolAdapter)
  parts.validate
  parts.appendChecked request.additionalHeaders

def overlaps (schema : HeaderSchema) (request : RequestContext) : Bool :=
  schema.requestNames.any fun name => request.additionalHeaders.entries.any fun e => name == e.1

/-- What can be told of a request before anything is sealed: the source finds the same
errors, but looks for them after the plaintext has been encrypted and signed. -/
def preflight (schema : HeaderSchema) (identity : ClientIdentity) (request : RequestContext) :
    Except Error Unit :=
  if ¬ (placedValues identity request.protocol).all isHeaderText then .error .protocolAdapter
  else if overlaps schema request then .error .headerConflict
  else .ok ()

section Placing

variable {schema : HeaderSchema} {identity : ClientIdentity} {request : RequestContext}
variable {envelope : SecureEnvelope} {emitted : RequestParts}

theorem names_of_emitted
    (hemitted : schema.buildRequest identity request.protocol envelope = .ok emitted) :
    emitted.headers.entries.map Prod.fst = schema.requestNames := by
  have htexts : emitted.headers.entries.map Entry.texts =
      schema.emitted identity request.protocol envelope :=
    (HeaderSchema.buildRequest_ok hemitted).1
  apply HeaderName.asStr_injective.list_map
  rw [← HeaderSchema.map_fst_emitted, ← htexts, List.map_map, List.map_map]
  rfl

theorem uniqueKeys_merged_iff
    (hemitted : schema.buildRequest identity request.protocol envelope = .ok emitted)
    (hdistinct : emitted.headers.Distinct) :
    UniqueKeys Entry.canonical (emitted.headers.entries ++ request.additionalHeaders.entries) ↔
      overlaps schema request = false := by
  have hfound : overlaps schema request = true ↔
      ∃ a ∈ emitted.headers.entries, ∃ b ∈ request.additionalHeaders.entries,
        eqIgnoreAsciiCase a.1.asStr b.1.asStr = true := by
    simp only [overlaps, ← names_of_emitted hemitted, List.any_map, List.any_eq_true,
      Function.comp_apply, HeaderName.beq_iff, ← Entry.canonical_eq_iff]
    rfl
  rw [← namesApart_iff, namesApart_merged_iff, and_iff_right (namesApart_iff.mpr hdistinct),
    ← hfound, Bool.not_eq_true]

theorem placed_of_placeable (schema : HeaderSchema) (identity : ClientIdentity)
    (request : RequestContext) (hsignature : Placeable envelope.signature)
    (hwrapped : Placeable envelope.wrappedSessionKey) (hcipher : Placeable envelope.cipher) :
    (∀ e, preflight schema identity request = .error e →
      placed schema identity request envelope = .error e) ∧
    (preflight schema identity request = .ok () →
      ∃ parts, placed schema identity request envelope = .ok parts ∧
        parts.headers.entries.map Entry.texts =
          schema.emitted identity request.protocol envelope ++
            request.additionalHeaders.entries.map Entry.texts ∧
        parts.body = schema.requestBody envelope) := by
  have hlegal : (∃ parts, schema.buildRequest identity request.protocol envelope = .ok parts) ↔
      (placedValues identity request.protocol).all isHeaderText = true := by
    rw [exists_buildRequest_ok_iff schema hsignature hwrapped hcipher, List.all_eq_true]
  cases hbuild : schema.buildRequest identity request.protocol envelope with
  | error e =>
    have hillegal : ¬ (placedValues identity request.protocol).all isHeaderText = true := by
      rw [← hlegal, hbuild]
      rintro ⟨parts, ⟨⟩⟩
    rw [preflight, if_pos hillegal, placed, hbuild]
    refine ⟨?_, nofun⟩
    rintro e ⟨⟩
    rfl
  | ok emitted =>
    have hvalues := hlegal.mp ⟨emitted, hbuild⟩
    obtain ⟨htexts, hdistinct, hbody⟩ :=
      RequestParts.new_ok_iff.mp (HeaderSchema.buildRequest_ok_iff.mp hbuild).2
    have hvalid : emitted.validate = .ok () := HeaderCollection.revalidate_ok_iff.mpr hdistinct
    have hplaced : placed schema identity request envelope =
        emitted.appendChecked request.additionalHeaders := by
      rw [placed, hbuild, Except.mapError, ok_bind, hvalid, ok_bind]
    have hmerged := uniqueKeys_merged_iff hbuild hdistinct
    rw [preflight, if_neg (not_not.mpr hvalues), hplaced]
    cases hoverlaps : overlaps schema request with
    | true =>
      refine ⟨?_, nofun⟩
      rintro e ⟨⟩
      rw [RequestParts.appendChecked_error_iff, hmerged, hoverlaps]
      exact ⟨rfl, Bool.noConfusion⟩
    | false =>
      refine ⟨nofun, fun _ => ?_⟩
      refine ⟨⟨⟨emitted.headers.entries ++ request.additionalHeaders.entries⟩, emitted.body⟩,
        RequestParts.appendChecked_ok_iff.mpr ⟨rfl, hmerged.mpr hoverlaps, rfl⟩, ?_, hbody⟩
      rw [List.map_append, htexts]

end Placing

section Requests

variable {P : Platform} {client : SecureClient P} {schema : HeaderSchema}
variable {random : Randomness P} {p : Bytes} {request : RequestContext}

theorem buildRequest_eq_placed (hadapter : client.adapter = headerProtocolAdapter schema)
    {context : AuthenticationContext}
    (hcontext : schema.requestAuthenticationContext client.config.identity request.protocol =
      .ok context) :
    client.buildRequest random p request = client.sealEnvelope random p context >>= fun envelope =>
      ofExcept (placed schema client.config.identity request envelope) := by
  have hcontext' : client.adapter.requestAuthenticationContext client.config.identity
      request.protocol = .ok context := by
    rw [hadapter]
    exact hcontext
  rw [SecureClient.buildRequest, hcontext', Except.mapError, ofExcept_ok, pure_bind, hadapter]
  simp only [placed, ofExcept_bind]
  rfl

end Requests

/-- Whether a request is refused for its values or for the caller's headers is decided
before anything is sealed, whatever the plaintext and the random bytes. The source looks
later, so that a refused request has cost an encryption and a signature. -/
theorem refusals_are_decided_before_sealing (P : Platform) (base64 : Base64Laws P)
    (cbc : CbcLaws P) (texts : EnvelopeTextLaws P) (client : SecureClient P)
    (schema : HeaderSchema) (hadapter : client.adapter = headerProtocolAdapter schema)
    (random : Randomness P) (p : Bytes) (request : RequestContext) :
    let identity := client.config.identity
    let result := client.buildRequest random p request
    (∀ e, schema.requestAuthenticationContext identity request.protocol = .error e →
      result = fail .protocolAdapter) ∧
    ∀ context, schema.requestAuthenticationContext identity request.protocol = .ok context →
      let sealing := client.sealEnvelope random p context
      result.log = sealing.log ∧
      (∀ e, sealing.outcome = .err e → result.outcome = .err e) ∧
      ∀ envelope, sealing.outcome = .ok envelope →
        (∀ e, preflight schema identity request = .error e → result.outcome = .err e) ∧
        (preflight schema identity request = .ok () →
          ∃ parts, result.outcome = .ok parts ∧
            parts.headers.entries.map Entry.texts =
              schema.emitted identity request.protocol envelope ++
                request.additionalHeaders.entries.map Entry.texts ∧
            parts.body = schema.requestBody envelope) := by
  intro identity result
  refine ⟨fun e herror => ?_, fun context hcontext => ?_⟩
  · have herror' : client.adapter.requestAuthenticationContext client.config.identity
        request.protocol = .error e := by
      rw [hadapter]
      exact herror
    change client.buildRequest random p request = _
    rw [SecureClient.buildRequest, herror', Except.mapError, ofExcept_error, fail_bind]
  · intro sealing
    have hresult : result = sealing >>= fun envelope =>
        ofExcept (placed schema identity request envelope) :=
      buildRequest_eq_placed hadapter hcontext
    refine ⟨?_, fun e herr => ?_, fun envelope hok => ?_⟩
    · rw [hresult]
      exact log_bind_of_silent fun _ => log_ofExcept
    · rw [hresult, Traced.bind_err herr]
    · obtain ⟨hsignature, hwrapped, hcipher⟩ := placeable_of_sealed base64 cbc texts hok
      obtain ⟨hrefused, hplaced⟩ := placed_of_placeable schema identity request hsignature hwrapped
        hcipher
      rw [hresult, Traced.bind_ok hok]
      refine ⟨fun e he => ofExcept_err_iff.mpr (hrefused e he), fun hready => ?_⟩
      obtain ⟨parts, hparts, hcontents⟩ := hplaced hready
      exact ⟨parts, ofExcept_ok_iff.mpr hparts, hcontents⟩

section Samples

def overlappingResult : Except Error RequestContext := do
  let metadata ← RequestMetadata.new "request-1" "2026-07-12-01.02.03.123456"
  let headers ← HeaderCollection.fromPairs [("x-signature", "mine")]
  RequestContext.fromParts "transfer" metadata headers.entries

theorem overlappingResult_ok : overlappingResult.toOption.isSome = true := by
  decide +kernel

def overlappingRequest : RequestContext := overlappingResult.toOption.get overlappingResult_ok

theorem overlapping_sealed : ∃ context envelope,
    sampleSchema.requestAuthenticationContext sampleCcm.identity overlappingRequest.protocol =
      .ok context ∧
    (sampleClient.sealEnvelope (sampleRandomness _) [1, 2, 3] context).outcome = .ok envelope := by
  obtain ⟨envelope, henvelope⟩ := Outcome.exists_ok_of_isSome
    (show (ofExcept ((sampleSchema.requestAuthenticationContext sampleCcm.identity
      overlappingRequest.protocol).mapError fun _ => Error.protocolAdapter) >>= fun context =>
        sampleClient.sealEnvelope (sampleRandomness _) [1, 2, 3] context).outcome.toOption.isSome =
          true by decide +kernel)
  simp only [bind_ok_iff, ofExcept_ok_iff, mapError_ok_iff] at henvelope
  obtain ⟨context, hcontext, hseal⟩ := henvelope
  exact ⟨context, envelope, hcontext, hseal⟩

theorem overlapping_request_is_refused :
    (sampleClient.buildRequest (sampleRandomness _) [1, 2, 3] overlappingRequest).outcome =
      .err .headerConflict := by
  obtain ⟨context, envelope, hcontext, hseal⟩ := overlapping_sealed
  have hconflict : preflight sampleSchema sampleCcm.identity overlappingRequest =
      .error .headerConflict := by
    decide +kernel
  have hdecided := (refusals_are_decided_before_sealing (reference checksumSignature)
    reference_base64 reference_cbc reference_texts sampleClient sampleSchema rfl
    (sampleRandomness _) [1, 2, 3] overlappingRequest).2 context hcontext
  exact (hdecided.2.2 envelope hseal).1 _ hconflict

end Samples

end EnvelopeLite.Preflight
