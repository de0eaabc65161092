import EnvelopeLite.RequestPath

namespace EnvelopeLite.Redaction

open EnvelopeLite.Adapter EnvelopeLite.ByteFields EnvelopeLite.CallTrace EnvelopeLite.Client
open EnvelopeLite.Config EnvelopeLite.EnvelopeCrypto.Frame EnvelopeLite.EnvelopeCrypto.SealPath
open EnvelopeLite.Header EnvelopeLite.Message EnvelopeLite.Primitives
open EnvelopeLite.ReferencePrimitives EnvelopeLite.RequestPath EnvelopeLite.SizeBounds
open EnvelopeLite.Text

/-- What a `Debug` implementation hands to the formatter. -/
inductive DebugValue
  | number (n : Nat)
  | texts (values : List String)

structure DebugStruct where
  name : String
  fields : List (String × DebugValue)

def debug (parts : RequestParts) : DebugStruct :=
  let headerNames := parts.headers.entries.map fun e => e.1.asStr
  ⟨"RequestParts", [("header_count", .number headerNames.length),
    ("header_names", .texts headerNames), ("body_len", .number parts.body.utf8ByteSize)]⟩

section Lengths

def framedLength : EnvelopeMode → Nat → Nat
  | .legacyCbc, n => (n / 16 + 1) * 16
  | .aead _, n => n + 30

variable {P : Platform}

theorem length_of_encryptsTo (lengths : PayloadLengths P) {mode : EnvelopeMode} {p payload : Bytes}
    (h : EncryptsTo P mode p payload) : payload.length = framedLength mode p.length := by
  cases h with
  | cbc hmode key iv =>
    rw [hmode]
    exact lengths.cbc key iv p
  | aead hmode hencrypts =>
    rw [hmode, length_frameBytes, lengths.aead _ _ _ _ _ _ _ hencrypts]
    rfl

theorem size_of_sealed_cipher (lengths : PayloadLengths P) (base64 : Base64Laws P)
    {config : ClientConfig P.toTarget} {keys : KeyMaterial P} {random : Randomness P} {p : Bytes}
    {context : Auth.AuthenticationContext} {envelope : SecureEnvelope}
    (h : (sealEnvelope P config keys random p context).outcome = .ok envelope) :
    envelope.cipher.utf8ByteSize = 4 * ((framedLength config.envelopeMode p.length + 2) / 3) := by
  obtain ⟨s⟩ := sealEnvelope_ok_iff.mp h
  rw [s.cipher_eq, base64.length_encode, length_of_encryptsTo lengths (.of_seals s.seals)]

end Lengths

def shown (schema : HeaderSchema) (mode : EnvelopeMode) (callerNames : List String)
    (plaintextLength : Nat) : DebugStruct :=
  let headerNames := schema.requestNames.map HeaderName.asStr ++ callerNames
  let bodyLength := match schema.requestCipher with
    | .body => 4 * ((framedLength mode plaintextLength + 2) / 3)
    | .header _ => 0
  ⟨"RequestParts", [("header_count", .number headerNames.length),
    ("header_names", .texts headerNames), ("body_len", .number bodyLength)]⟩

/-- The `Debug` output of a request is a function of the schema, the envelope mode, the
names of the caller's headers and the length of the plaintext. It is the same for every
plaintext of one length, and for all operations, identities, header values and keys. -/
theorem debug_output_shows_names_and_lengths (P : Platform) (lengths : PayloadLengths P)
    (base64 : Base64Laws P) (client : SecureClient P) (schema : HeaderSchema)
    (hadapter : client.adapter = headerProtocolAdapter schema) (random : Randomness P) (p : Bytes)
    (request : RequestContext) (parts : RequestParts)
    (hparts : (client.buildRequest random p request).outcome = .ok parts) :
    debug parts = shown schema client.config.envelopeMode
      (request.additionalHeaders.entries.map fun e => e.1.asStr) p.length := by
  obtain ⟨context, envelope, -, hseal, hheaders, hbody, -⟩ := buildRequest_emits hadapter hparts
  have hnames : (parts.headers.entries.map fun e => e.1.asStr) =
      schema.requestNames.map HeaderName.asStr ++
        request.additionalHeaders.entries.map fun e => e.1.asStr := by
    have hfirst := congrArg (List.map Prod.fst) hheaders
    rw [List.map_append, HeaderSchema.map_fst_emitted, List.map_map, List.map_map] at hfirst
    exact hfirst
  have hlength : parts.body.utf8ByteSize = match schema.requestCipher with
      | .body => 4 * ((framedLength client.config.envelopeMode p.length + 2) / 3)
      | .header _ => 0 := by
    rw [hbody, HeaderSchema.requestBody]
    cases schema.requestCipher with
    | body => exact size_of_sealed_cipher lengths base64 hseal
    | header name => rfl
  rw [debug, shown, hnames, hlength]

theorem sampleRequest_debug :
    ∃ parts,
      (sampleClient.buildRequest (sampleRandomness _) [1, 2, 3] sampleRequest).outcome =
        .ok parts ∧
      debug parts = shown sampleSchema (.aead .sm4Ccm) ["X-Trace"] 3 := by
  obtain ⟨parts, hparts⟩ : ∃ parts,
      (sampleClient.buildRequest (sampleRandomness _) [1, 2, 3] sampleRequest).outcome =
        .ok parts := Outcome.exists_ok_of_isSome (by decide +kernel)
  have hcaller : (sampleRequest.additionalHeaders.entries.map fun e => e.1.asStr) = ["X-Trace"] := by
    decide +kernel
  refine ⟨parts, hparts, ?_⟩
  rw [← hcaller]
  exact debug_output_shows_names_and_lengths (reference checksumSignature) (.of_laws reference_laws)
    reference_base64 sampleClient sampleSchema rfl _ _ _ parts hparts

end EnvelopeLite.Redaction
