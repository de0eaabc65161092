import EnvelopeLite.Client

namespace EnvelopeLite.CallerHeaders

open EnvelopeLite.Adapter EnvelopeLite.Auth EnvelopeLite.ByteFields EnvelopeLite.CallTrace
open EnvelopeLite.Client EnvelopeLite.Common EnvelopeLite.Header EnvelopeLite.KeyedLists
open EnvelopeLite.Message EnvelopeLite.Primitives EnvelopeLite.Text

variable {P : Platform} {client : SecureClient P} {random : Randomness P} {p : Bytes}

/-- The adapter gave a context, the plaintext was sealed under it, and the adapter made
these parts of the envelope. The caller's headers have no part in it. -/
def Emitted (client : SecureClient P) (random : Randomness P) (p : Bytes)
    (protocol : ProtocolRequestContext) (emitted : RequestParts) : Prop :=
  ∃ context envelope,
    client.adapter.requestAuthenticationContext client.config.identity protocol = .ok context ∧
    (client.sealEnvelope random p context).outcome = .ok envelope ∧
    client.adapter.buildRequest client.config.identity protocol envelope = .ok emitted

section Merging

variable {request : RequestContext} {emitted parts : RequestParts}

theorem Emitted.outcome_eq (h : Emitted client random p request.protocol emitted) :
    (client.buildRequest random p request).outcome =
      (ofExcept emitted.validate >>= fun _ =>
        ofExcept (emitted.appendChecked request.additionalHeaders) : Run P RequestParts).outcome := by
  obtain ⟨context, envelope, hcontext, hseal, hemitted⟩ := h
  rw [SecureClient.buildRequest, hcontext, Except.mapError, ofExcept_ok, pure_bind,
    Traced.bind_ok hseal, hemitted]
  rfl

/-- The caller's own names are apart already, so that only the adapter's names and
those of both lists together can coincide. -/
theorem namesApart_merged_iff :
    NamesApart (emitted.headers.entries ++ request.additionalHeaders.entries) ↔
      NamesApart emitted.headers.entries ∧
        ¬ ∃ a ∈ emitted.headers.entries, ∃ b ∈ request.additionalHeaders.entries,
          eqIgnoreAsciiCase a.1.asStr b.1.asStr = true := by
  have hcaller : NamesApart request.additionalHeaders.entries := namesApart_iff.mpr request.distinct
  rw [namesApart_append, and_iff_right hcaller]

theorem Emitted.ok_iff (h : Emitted client random p request.protocol emitted) :
    (client.buildRequest random p request).outcome = .ok parts ↔
      parts.headers.entries = emitted.headers.entries ++ request.additionalHeaders.entries ∧
      NamesApart parts.headers.entries ∧ parts.body = emitted.body := by
  rw [h.outcome_eq, bind_ok_iff]
  simp only [ofExcept_ok_iff, RequestParts.validate, HeaderCollection.revalidate_ok_iff,
    RequestParts.appendChecked_ok_iff, namesApart_iff]
  constructor
  · rintro ⟨-, -, hparts⟩
    exact hparts
  · intro hparts
    refine ⟨(), ?_, hparts⟩
    have hmerged : UniqueKeys Entry.canonical parts.headers.entries := hparts.2.1
    rw [hparts.1] at hmerged
    exact (uniqueKeys_append.mp hmerged).1

theorem Emitted.conflict_iff (h : Emitted client random p request.protocol emitted) :
    (client.buildRequest random p request).outcome = .err .headerConflict ↔
      ¬ NamesApart (emitted.headers.entries ++ request.additionalHeaders.entries) := by
  rw [h.outcome_eq, bind_err_iff, namesApart_iff]
  simp only [ofExcept_err_iff, ofExcept_ok_iff, RequestParts.validate,
    HeaderCollection.revalidate_ok_iff, HeaderCollection.revalidate_error_iff,
    RequestParts.appendChecked_error_iff, true_and, exists_const]
  -- names that the adapter repeats are found by `validate`, the others by `appendChecked`
  constructor
  · rintro (hemitted | ⟨-, hmerged⟩)
    · exact fun hmerged => hemitted (uniqueKeys_append.mp hmerged).1
    · exact hmerged
  · intro hmerged
    by_cases hemitted : emitted.headers.Distinct
    · exact .inr ⟨hemitted, hmerged⟩
    · exact .inl hemitted

end Merging

/-- Two clients that differ in their adapters only, and whose adapters answer alike
for the identity, the protocol part of a request and the envelope sealed for it. -/
structure AnswerAlike (client client' : SecureClient P) (random : Randomness P) (p : Bytes)
    (protocol : ProtocolRequestContext) : Prop where
  config_eq : client'.config = client.config
  keys_eq : client'.keys = client.keys
  context_eq : client'.adapter.requestAuthenticationContext client.config.identity protocol =
    client.adapter.requestAuthenticationContext client.config.identity protocol
  parts_eq : ∀ context envelope,
    client.adapter.requestAuthenticationContext client.config.identity protocol = .ok context →
    (client.sealEnvelope random p context).outcome = .ok envelope →
    client'.adapter.buildRequest client.config.identity protocol envelope =
      client.adapter.buildRequest client.config.identity protocol envelope

theorem AnswerAlike.buildRequest_eq {client' : SecureClient P} {request : RequestContext}
    (h : AnswerAlike client client' random p request.protocol) :
    client'.buildRequest random p request = client.buildRequest random p request := by
  have hseal : ∀ context, client'.sealEnvelope random p context =
      client.sealEnvelope random p context := by
    intro context
    rw [SecureClient.sealEnvelope, SecureClient.sealEnvelope, h.config_eq, h.keys_eq]
  rw [SecureClient.buildRequest, SecureClient.buildRequest, h.config_eq, h.context_eq]
  apply Traced.bind_congr
  intro context hcontext
  rw [hseal]
  apply Traced.bind_congr
  intro envelope henvelope
  rw [h.parts_eq context envelope (mapError_ok_iff.mp (ofExcept_ok_iff.mp hcontext)) henvelope]

theorem caller_headers_are_additive (P : Platform) (client : SecureClient P)
    (random : Randomness P) (p : Bytes) (request : RequestContext) :
    (∀ parts, (client.buildRequest random p request).outcome = .ok parts →
      ∃ emitted, Emitted client random p request.protocol emitted ∧
        NamesApart emitted.headers.entries ∧
        parts.headers.entries = emitted.headers.entries ++ request.additionalHeaders.entries ∧
        NamesApart parts.headers.entries ∧
        (∀ e ∈ parts.headers.entries,
          isToken e.1.asStr = true ∧ isHeaderText (HeaderValue.asStr e.2) = true) ∧
        parts.body = emitted.body ∧
        ∀ e ∈ emitted.headers.entries, ∀ name, eqIgnoreAsciiCase e.1.asStr name = true →
          parts.header name = some (HeaderValue.asStr e.2)) ∧
    (∀ emitted, Emitted client random p request.protocol emitted →
      ((client.buildRequest random p request).outcome = .err .headerConflict ↔
        ¬ NamesApart emitted.headers.entries ∨
          ∃ a ∈ emitted.headers.entries, ∃ b ∈ request.additionalHeaders.entries,
            eqIgnoreAsciiCase a.1.asStr b.1.asStr = true) ∧
      ((∃ parts, (client.buildRequest random p request).outcome = .ok parts) ∨
        (client.buildRequest random p request).outcome = .err .headerConflict)) ∧
    ∀ client', AnswerAlike client client' random p request.protocol →
      client'.buildRequest random p request = client.buildRequest random p request := by
  refine ⟨?_, ?_, fun client' h => h.buildRequest_eq⟩
  · intro parts hparts
    obtain ⟨context, envelope, emitted, hcontext, hseal, hbuild, -⟩ :=
      SecureClient.buildRequest_ok hparts
    have hemitted : Emitted client random p request.protocol emitted :=
      ⟨context, envelope, hcontext, hseal, hbuild⟩
    obtain ⟨hentries, hapart, hbody⟩ := hemitted.ok_iff.mp hparts
    have hmerged : NamesApart (emitted.headers.entries ++ request.additionalHeaders.entries) := by
      rwa [← hentries]
    refine ⟨emitted, hemitted, (namesApart_merged_iff.mp hmerged).1, hentries, hapart, ?_, hbody, ?_⟩
    · exact fun e _ => ⟨e.1.token, e.2.2⟩
    · intro e he name hname
      apply RequestParts.header_of_mem (h := e.texts) (namesApart_iff.mp hapart) ?_ hname
      rw [hentries, List.map_append]
      exact List.mem_append_left _ (List.mem_map_of_mem he)
  · intro emitted hemitted
    refine ⟨?_, ?_⟩
    · rw [hemitted.conflict_iff, namesApart_merged_iff, not_and_or, not_not]
    · by_cases hmerged :
          NamesApart (emitted.headers.entries ++ request.additionalHeaders.entries)
      · exact .inl ⟨⟨⟨_⟩, emitted.body⟩, hemitted.ok_iff.mpr ⟨rfl, hmerged, rfl⟩⟩
      · exact .inr (hemitted.conflict_iff.mpr hmerged)

end EnvelopeLite.CallerHeaders
