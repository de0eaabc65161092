import EnvelopeLite.Header
import EnvelopeLite.Primitives

namespace EnvelopeLite.Message

open EnvelopeLite.Auth EnvelopeLite.Common EnvelopeLite.Header EnvelopeLite.KeyedLists
open EnvelopeLite.Primitives EnvelopeLite.Text

def validateContextValue (value : String) : Except Error LineSafe :=
  validateLine .invalidHeader value

structure RequestMetadata where
  requestId : LineSafe
  requestTime : LineSafe

def RequestMetadata.new (requestId requestTime : String) : Except Error RequestMetadata := do
  .ok {
    requestId := ← validateContextValue requestId
    requestTime := ← validateContextValue requestTime }

structure ProtocolRequestContext where
  operation : LineSafe
  metadata : RequestMetadata

def ProtocolRequestContext.new (operation : String) (metadata : RequestMetadata) :
    Except Error ProtocolRequestContext := do
  .ok { operation := ← validateContextValue operation, metadata := metadata }

/-- A request context with the caller's own headers, which an adapter never sees. -/
structure RequestContext where
  protocol : ProtocolRequestContext
  additionalHeaders : HeaderCollection
  distinct : additionalHeaders.Distinct

def RequestContext.fromParts (operation : String) (metadata : RequestMetadata)
    (additionalHeaders : List Entry) : Except Error RequestContext :=
  match h : HeaderCollection.fromTypedPairs additionalHeaders with
  | .error e => .error e
  | .ok headers => do
    headers.revalidate
    let protocol ← ProtocolRequestContext.new operation metadata
    .ok ⟨protocol, headers, (HeaderCollection.fromTypedPairs_ok_iff.mp h).2⟩

structure RequestParts where
  headers : HeaderCollection
  body : String

namespace RequestParts

def appendChecked (parts : RequestParts) (headers : HeaderCollection) :
    Except Error RequestParts := do
  let headers ← parts.headers.appendChecked headers
  .ok { parts with headers := headers }

def validate (parts : RequestParts) : Except Error Unit := parts.headers.revalidate

def new (headers : List (String × String)) (body : String) : Except Error RequestParts := do
  let incoming ← HeaderCollection.fromPairs headers
  let parts ← appendChecked ⟨{}, body⟩ incoming
  parts.validate
  .ok parts

def header (parts : RequestParts) (name : String) : Option String :=
  (parts.headers.get name).map HeaderValue.asStr

theorem appendChecked_ok_iff {parts r : RequestParts} {headers : HeaderCollection} :
    parts.appendChecked headers = .ok r ↔
      r.headers.entries = parts.headers.entries ++ headers.entries ∧ r.headers.Distinct ∧
        r.body = parts.body := by
  simp only [appendChecked, bind_eq_ok_iff, HeaderCollection.appendChecked_ok_iff,
    Except.ok.injEq]
  constructor
  · rintro ⟨c, ⟨hc, hd⟩, rfl⟩
    exact ⟨hc, hd, rfl⟩
  · rintro ⟨hc, hd, hb⟩
    refine ⟨r.headers, ⟨hc, hd⟩, ?_⟩
    rw [← hb]

theorem appendChecked_error_iff {parts : RequestParts} {headers : HeaderCollection} {e : Error} :
    parts.appendChecked headers = .error e ↔ e = .headerConflict ∧
      ¬ UniqueKeys Entry.canonical (parts.headers.entries ++ headers.entries) := by
  simp only [appendChecked, bind_eq_error_iff, HeaderCollection.appendChecked_error_iff,
    reduceCtorEq, and_false, exists_false, or_false]

theorem new_ok_iff {headers : List (String × String)} {body : String} {parts : RequestParts} :
    new headers body = .ok parts ↔
      parts.headers.entries.map Entry.texts = headers ∧ parts.headers.Distinct ∧
        parts.body = body := by
  simp only [new, bind_eq_ok_iff, HeaderCollection.fromPairs_ok_iff, appendChecked_ok_iff,
    List.nil_append, validate, HeaderCollection.revalidate_ok_iff, Except.ok.injEq]
  constructor
  · rintro ⟨c, ⟨hc, -⟩, r, ⟨hr, hd, hb⟩, -, -, rfl⟩
    exact ⟨by rw [hr, hc], hd, hb⟩
  · rintro ⟨htexts, hd, hb⟩
    exact ⟨parts.headers, ⟨htexts, hd⟩, parts, ⟨rfl, hd, hb⟩, (), hd, rfl⟩

/-- Exactly the lists of legal headers with distinct names make request parts. -/
theorem exists_new_ok_iff {headers : List (String × String)} {body : String} :
    (∃ parts, new headers body = .ok parts) ↔
      (∀ h ∈ headers, isToken h.1 = true ∧ isHeaderText h.2 = true) ∧
        UniqueKeys (fun h => toAsciiLowercase h.1) headers := by
  simp only [new_ok_iff]
  constructor
  · rintro ⟨parts, rfl, hd, -⟩
    refine ⟨?_, uniqueKeys_texts.mp hd⟩
    intro h hh
    obtain ⟨e, -, rfl⟩ := List.mem_map.mp hh
    exact ⟨e.1.token, e.2.2⟩
  · rintro ⟨hlegal, hunique⟩
    obtain ⟨entries, rfl⟩ := exists_entries hlegal
    exact ⟨⟨⟨entries⟩, body⟩, rfl, uniqueKeys_texts.mpr hunique, rfl⟩

theorem new_ne_conflict {headers : List (String × String)} {body : String}
    (hunique : UniqueKeys (fun h => toAsciiLowercase h.1) headers) :
    new headers body ≠ .error .headerConflict := by
  intro h
  simp only [new, bind_eq_error_iff, reduceCtorEq, and_false, exists_false, or_false] at h
  obtain h | ⟨incoming, hincoming, h⟩ := h
  · cases HeaderCollection.fromPairs_error hunique h
  · have hd := (HeaderCollection.fromPairs_ok_iff.mp hincoming).2
    obtain h | ⟨parts, hparts, h⟩ := h
    · exact (appendChecked_error_iff.mp h).2 hd
    · exact (HeaderCollection.revalidate_error_iff.mp h).2 (appendChecked_ok_iff.mp hparts).2.1

theorem header_of_mem {parts : RequestParts} (hd : parts.headers.Distinct)
    {h : String × String} (hmem : h ∈ parts.headers.entries.map Entry.texts) {name : String}
    (hname : eqIgnoreAsciiCase h.1 name = true) : parts.header name = some h.2 := by
  obtain ⟨e, he, rfl⟩ := List.mem_map.mp hmem
  rw [header, HeaderCollection.get_eq_some_of_mem hd he hname]
  rfl

end RequestParts

/-- Raw inbound parts: any strings, in any order, with any duplicates. -/
structure ResponseParts where
  headers : List (String × String)
  body : String

@[ext] structure ParsedResponse where
  envelope : SecureEnvelope
  remoteSigningCertificateId : LineSafe
  authenticationContext : AuthenticationContext

def ParsedResponse.new (envelope : SecureEnvelope) (remoteSigningCertificateId : String)
    (authenticationContext : AuthenticationContext) : AdapterResult ParsedResponse := do
  .ok {
    envelope := envelope
    remoteSigningCertificateId := ← validateLine ⟨.invalidField⟩ remoteSigningCertificateId
    authenticationContext := authenticationContext }

def ParsedResponse.intoParts (parsed : ParsedResponse) :
    SecureEnvelope × String × AuthenticationContext :=
  (parsed.envelope, parsed.remoteSigningCertificateId.1, parsed.authenticationContext)

theorem ParsedResponse.intoParts_injective : Function.Injective ParsedResponse.intoParts := by
  intro a b h
  have henvelope : a.envelope = b.envelope := congrArg Prod.fst h
  have hid : a.remoteSigningCertificateId.1 = b.remoteSigningCertificateId.1 :=
    congrArg (fun t => t.2.1) h
  have hcontext : a.authenticationContext = b.authenticationContext :=
    congrArg (fun t => t.2.2) h
  exact ParsedResponse.ext henvelope (Subtype.ext hid) hcontext

theorem ParsedResponse.new_ok_iff {envelope : SecureEnvelope} {certificate : String}
    {context : AuthenticationContext} {parsed : ParsedResponse} :
    ParsedResponse.new envelope certificate context = .ok parsed ↔
      parsed.intoParts = (envelope, certificate, context) := by
  simp only [ParsedResponse.new, bind_eq_ok_iff, validateLine_ok_iff, Except.ok.injEq]
  constructor
  · rintro ⟨v, rfl, rfl⟩
    rfl
  · intro h
    obtain ⟨rfl, rfl, rfl⟩ : parsed.envelope = envelope ∧
        parsed.remoteSigningCertificateId.1 = certificate ∧
        parsed.authenticationContext = context := by
      simpa [ParsedResponse.intoParts] using h
    exact ⟨_, rfl, rfl⟩

end EnvelopeLite.Message
