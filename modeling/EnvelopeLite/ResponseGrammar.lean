import EnvelopeLite.ResponseFields

namespace EnvelopeLite.ResponseGrammar

open EnvelopeLite.Adapter EnvelopeLite.Adapter.HeaderSchema EnvelopeLite.Auth EnvelopeLite.Common
open EnvelopeLite.Header EnvelopeLite.HeaderContext EnvelopeLite.Message EnvelopeLite.Primitives
open EnvelopeLite.ResponseFields EnvelopeLite.Text

variable (schema : HeaderSchema)

def headerValue : List String → AdapterResult String
  | [] => .error ⟨.missingField⟩
  | value :: _ =>
    if isHeaderText value = true ∧ trim value ≠ "" then .ok (trim value)
    else .error ⟨.invalidField⟩

def bodyValue (body : String) : AdapterResult String :=
  if trim body ≠ "" then .ok (trim body) else .error ⟨.invalidField⟩

def responseContextOf (requestId : String) : AuthenticationContext :=
  ⟨.bound (BoundFields.response requestId).bytes, by simp [BoundFields.bytes]⟩

/-- A request id is taken as it stands. The length of every Rust string fits
`u64`, so that the last condition only matters to strings that cannot exist. -/
def requestIdContext : List String → AdapterResult AuthenticationContext
  | [] => .error ⟨.missingField⟩
  | value :: _ =>
    if isHeaderText value = true ∧ trim value ≠ "" ∧ value = trim value ∧
        value.utf8ByteSize < 2 ^ 64 then .ok (responseContextOf value)
    else .error ⟨.invalidField⟩

def cipherField (response : ResponseParts) : AdapterResult String :=
  match schema.responseCipher with
  | .body => bodyValue response.body
  | .header name => headerValue (valuesOf response name)

def contextField (response : ResponseParts) : AdapterResult AuthenticationContext :=
  match schema.authentication with
  | .legacy => .ok .legacy
  | .contextBound => requestIdContext (valuesOf response schema.requestIdHeader)

def checkedFields (response : ResponseParts) :
    AdapterResult (SecureEnvelope × String × AuthenticationContext) := do
  let signature ← headerValue (valuesOf response schema.responseSignatureHeader)
  let wrapped ← headerValue (valuesOf response schema.responseWrappedKeyHeader)
  let certificate ← headerValue (valuesOf response schema.responseRemoteSigningCertificateHeader)
  let cipher ← cipherField schema response
  let context ← contextField schema response
  .ok (⟨cipher, wrapped, signature⟩, certificate, context)

/-- The meaning of a response, which looks at the headers only through the values
that each mapped name has. -/
def grammar (response : ResponseParts) :
    AdapterResult (SecureEnvelope × String × AuthenticationContext) :=
  if ∃ name ∈ schema.responseNames, 2 ≤ (valuesOf response name).length then
    .error ⟨.duplicateField⟩
  else checkedFields schema response

section Fields

theorem requiredResponseHeader_head? (values : List String) :
    requiredResponseHeader values.head? = headerValue values := by
  cases values with
  | nil => rfl
  | cons value values =>
    rw [List.head?_cons, requiredResponseHeader, okOr, ok_bind, headerValue]
    by_cases htext : isHeaderText value = true
    · have hnew : HeaderValue.new value = .ok ⟨value, htext⟩ := HeaderValue.new_ok_iff.mpr rfl
      rw [hnew, Except.mapError, ok_bind, trimmedNonempty]
      by_cases hblank : trim value = ""
      · rw [if_pos hblank, if_neg (fun h => h.2 hblank)]
      · rw [if_neg hblank, if_pos ⟨htext, hblank⟩]
    · rw [HeaderValue.new, dif_neg htext, if_neg (fun h => htext h.1), Except.mapError, error_bind]

theorem trimmedNonempty_eq (body : String) : trimmedNonempty body = bodyValue body := by
  rw [trimmedNonempty, bodyValue, ite_not]

theorem encodeResponseContext_eq (value : String) : encodeResponseContext value =
    if trim value ≠ "" ∧ value = trim value ∧ value.utf8ByteSize < 2 ^ 64
      then .ok (responseContextOf value) else .error ⟨.invalidField⟩ := by
  split
  · next h =>
    have hencode : (BoundFields.response value).encode = .ok (responseContextOf value) := by
      rw [BoundFields.encode_ok_iff]
      refine ⟨?_, rfl⟩
      simp only [BoundFields.values, List.forall_mem_singleton]
      exact ⟨⟨h.1, h.2.1⟩, h.2.2⟩
    exact hencode
  · next h =>
    by_cases htrim : trim value = "" ∨ value ≠ trim value
    · rw [encodeResponseContext, requireExactTrim, if_pos htrim]
      rfl
    · have hlong : ¬ value.utf8ByteSize < 2 ^ 64 := by
        rw [not_or, not_not] at htrim
        exact fun hlt => h ⟨htrim.1, htrim.2, hlt⟩
      have hpush : ∀ buffer, pushLengthPrefixed buffer value = .error ⟨.invalidField⟩ := by
        intro buffer
        rw [pushLengthPrefixed, u64TryFrom, if_neg hlong]
        rfl
      simp only [encodeResponseContext, requireExactTrim, if_neg htrim, ok_bind, hpush]
      rfl

theorem responseContext_eq {schema : HeaderSchema} {response : ResponseParts} :
    schema.responseContext (captured schema response .requestId) =
      contextField schema response := by
  cases ha : schema.authentication with
  | legacy => simp only [responseContext, contextField, ha]
  | contextBound =>
    have hfound : captured schema response .requestId =
        (valuesOf response schema.requestIdHeader).head? := by
      rw [captured, fieldName, if_pos ha]
      rfl
    simp only [responseContext, contextField, ha, hfound]
    cases valuesOf response schema.requestIdHeader with
    | nil => rfl
    | cons value values =>
      rw [List.head?_cons, okOr, ok_bind, requestIdContext, encodeResponseContext_eq]
      by_cases htext : isHeaderText value = true
      · have hnew : HeaderValue.new value = .ok ⟨value, htext⟩ := HeaderValue.new_ok_iff.mpr rfl
        rw [hnew]
        simp only [htext, true_and]
        rfl
      · have hillegal : ¬ (isHeaderText value = true ∧ trim value ≠ "" ∧ value = trim value ∧
            value.utf8ByteSize < 2 ^ 64) := fun h => htext h.1
        rw [HeaderValue.new, dif_neg htext, if_neg hillegal]
        rfl

theorem responseCipherText_eq {schema : HeaderSchema} {response : ResponseParts} :
    schema.responseCipherText (captured schema response .cipher) response.body =
      cipherField schema response := by
  cases hc : schema.responseCipher with
  | body =>
    simp only [responseCipherText, cipherField, hc]
    exact trimmedNonempty_eq response.body
  | header name =>
    have hfound : captured schema response .cipher = (valuesOf response name).head? := by
      simp only [captured, fieldName, hc]
      rfl
    simp only [responseCipherText, cipherField, hc, hfound]
    exact requiredResponseHeader_head? _

end Fields

section Checks

variable {schema} {response : ResponseParts}

theorem headerValue_ok_iff {values : List String} {result : String} :
    headerValue values = .ok result ↔ ∃ value, values.head? = some value ∧
      isHeaderText value = true ∧ trim value ≠ "" ∧ trim value = result := by
  cases values with
  | nil => simp [headerValue]
  | cons value values =>
    simp only [headerValue, List.head?_cons, Option.some.injEq, exists_eq_left']
    split
    · next h => simp [h.1, h.2]
    · next h =>
      simp only [reduceCtorEq, false_iff]
      exact fun hv => h ⟨hv.1, hv.2.1⟩

theorem lineSafe_of_headerValue_ok {values : List String} {certificate : String}
    (h : headerValue values = .ok certificate) : lineSafe certificate = true := by
  obtain ⟨value, -, htext, hblank, rfl⟩ := headerValue_ok_iff.mp h
  have hcontrol : ∀ c ∈ (trim value).toList, ¬ (c == '\r' || c == '\n') = true := by
    intro c hc hcr
    have hallowed : isDisallowedValueCharacter c = false := by
      rw [isHeaderText, Bool.not_eq_true', List.any_eq_false] at htext
      exact Bool.not_eq_true _ ▸ htext c (mem_of_mem_trim hc)
    obtain rfl | rfl : c = '\r' ∨ c = '\n' := by simpa using hcr
    · exact absurd hallowed (by decide)
    · exact absurd hallowed (by decide)
  have hany : (trim value).toList.any (fun c => c == '\r' || c == '\n') = false :=
    List.any_eq_false.mpr hcontrol
  rw [lineSafe, hany, trim_trim]
  simpa using hblank

theorem exists_parsed_of_lineSafe {certificate : String} (h : lineSafe certificate = true)
    (envelope : SecureEnvelope) (context : AuthenticationContext) :
    ∃ parsed, ParsedResponse.new envelope certificate context = .ok parsed :=
  ⟨⟨envelope, ⟨certificate, h⟩, context⟩, ParsedResponse.new_ok_iff.mpr rfl⟩

/-- Without a duplicate the parser returns what the checks give. -/
theorem parseResponse_map_of_no_duplicate
    (h : ¬ ∃ name ∈ schema.responseNames, 2 ≤ (valuesOf response name).length) :
    (schema.parseResponse response).map ParsedResponse.intoParts =
      checkedFields schema response := by
  have hsignature : requiredResponseHeader (captured schema response .signature) =
      headerValue (valuesOf response schema.responseSignatureHeader) :=
    requiredResponseHeader_head? _
  have hwrapped : requiredResponseHeader (captured schema response .wrappedSessionKey) =
      headerValue (valuesOf response schema.responseWrappedKeyHeader) :=
    requiredResponseHeader_head? _
  have hcertificate : requiredResponseHeader
      (captured schema response .remoteSigningCertificateId) =
      headerValue (valuesOf response schema.responseRemoteSigningCertificateHeader) :=
    requiredResponseHeader_head? _
  rw [parseResponse, foldlM_capture_ok h, ok_bind, checkedFields, hsignature, hwrapped,
    hcertificate, responseCipherText_eq, responseContext_eq]
  cases headerValue (valuesOf response schema.responseSignatureHeader) with
  | error e => rfl
  | ok signature =>
    cases headerValue (valuesOf response schema.responseWrappedKeyHeader) with
    | error e => rfl
    | ok wrapped =>
      cases hc : headerValue (valuesOf response schema.responseRemoteSigningCertificateHeader) with
      | error e => rfl
      | ok certificate =>
        cases cipherField schema response with
        | error e => rfl
        | ok cipher =>
          cases contextField schema response with
          | error e => rfl
          | ok context =>
            obtain ⟨parsed, hparsed⟩ := exists_parsed_of_lineSafe (lineSafe_of_headerValue_ok hc)
              ⟨cipher, wrapped, signature⟩ context
            simp only [ok_bind, hparsed]
            exact congrArg Except.ok (ParsedResponse.new_ok_iff.mp hparsed)

theorem parseResponse_map_eq_grammar :
    (schema.parseResponse response).map ParsedResponse.intoParts = grammar schema response := by
  unfold grammar
  split
  · next h =>
    obtain ⟨name, hname, htwo⟩ := h
    rw [parseResponse, foldlM_capture_error hname htwo]
    rfl
  · next h => exact parseResponse_map_of_no_duplicate h

theorem headerValue_ne_duplicate (values : List String) :
    headerValue values ≠ .error ⟨.duplicateField⟩ := by
  cases values with
  | nil => simp [headerValue]
  | cons value values =>
    rw [headerValue]
    split <;> simp

theorem cipherField_ne_duplicate : cipherField schema response ≠ .error ⟨.duplicateField⟩ := by
  unfold cipherField
  split
  · unfold bodyValue
    split <;> simp
  · exact headerValue_ne_duplicate _

theorem contextField_ne_duplicate : contextField schema response ≠ .error ⟨.duplicateField⟩ := by
  unfold contextField
  split
  · simp
  · cases valuesOf response schema.requestIdHeader with
    | nil => simp [requestIdContext]
    | cons value values =>
      rw [requestIdContext]
      split <;> simp

theorem checkedFields_ne_duplicate :
    checkedFields schema response ≠ .error ⟨.duplicateField⟩ := by
  intro h
  simp only [checkedFields, bind_eq_error_iff, headerValue_ne_duplicate, cipherField_ne_duplicate,
    contextField_ne_duplicate, reduceCtorEq, and_false, exists_false, or_false] at h

theorem grammar_eq_duplicate_iff : grammar schema response = .error ⟨.duplicateField⟩ ↔
    ∃ name ∈ schema.responseNames, 2 ≤ (valuesOf response name).length := by
  by_cases h : ∃ name ∈ schema.responseNames, 2 ≤ (valuesOf response name).length
  · rw [grammar, if_pos h]
    exact iff_of_true rfl h
  · rw [grammar, if_neg h]
    exact iff_of_false checkedFields_ne_duplicate h

end Checks

/-- The headers that matter, with their names in lower case. -/
def recognizedHeaders (response : ResponseParts) : List (String × String) :=
  (response.headers.filter
    (fun h => schema.responseNames.any (fun n => eqIgnoreAsciiCase h.1 n.asStr))).map
    (fun h => (toAsciiLowercase h.1, h.2))

section Order

variable {schema} {response response' : ResponseParts}

theorem valuesOf_eq_recognized {name : HeaderName} (hname : name ∈ schema.responseNames) :
    valuesOf response name =
      ((recognizedHeaders schema response).filter (fun h => h.1 == name.canonical)).map Prod.snd := by
  have hfilter : ∀ h : String × String,
      (eqIgnoreAsciiCase h.1 name.asStr &&
        schema.responseNames.any (fun n => eqIgnoreAsciiCase h.1 n.asStr)) =
      eqIgnoreAsciiCase h.1 name.asStr := by
    intro h
    cases hc : eqIgnoreAsciiCase h.1 name.asStr with
    | false => rfl
    | true =>
      rw [Bool.true_and]
      exact List.any_eq_true.mpr ⟨name, hname, hc⟩
  have hkey : ((fun h : String × String => h.1 == name.canonical) ∘
      fun h : String × String => (toAsciiLowercase h.1, h.2)) =
        fun h => eqIgnoreAsciiCase h.1 name.asStr := by
    funext h
    simp only [Function.comp_apply, name.canonical_eq]
    rfl
  rw [valuesOf, recognizedHeaders, List.filter_map, List.map_map, hkey, List.filter_filter]
  simp only [hfilter]
  rfl

theorem valuesOf_perm
    (h : (recognizedHeaders schema response').Perm (recognizedHeaders schema response))
    {name : HeaderName} (hname : name ∈ schema.responseNames) :
    (valuesOf response' name).Perm (valuesOf response name) := by
  rw [valuesOf_eq_recognized hname, valuesOf_eq_recognized hname]
  exact (h.filter _).map _

theorem eq_of_perm_of_length_le_one {l m : List String} (h : l.Perm m) (hm : m.length ≤ 1) :
    l = m := by
  match m, hm with
  | [], _ => exact h.eq_nil
  | [a], _ => exact List.perm_singleton.mp h

theorem checkedFields_congr
    (hvalues : ∀ name ∈ schema.responseNames, valuesOf response' name = valuesOf response name)
    (hbody : schema.responseCipher = .body → response'.body = response.body) :
    checkedFields schema response' = checkedFields schema response := by
  have hnamed : ∀ field name, fieldName schema field = some name →
      valuesOf response' name = valuesOf response name :=
    fun field name h => hvalues name (mem_responseNames_iff.mpr ⟨field, h⟩)
  have hcipher : cipherField schema response' = cipherField schema response := by
    cases hc : schema.responseCipher with
    | body => simp only [cipherField, hc, hbody hc]
    | header name =>
      have hname : fieldName schema .cipher = some name := by simp only [fieldName, hc]
      simp only [cipherField, hc, hnamed .cipher name hname]
  have hcontext : contextField schema response' = contextField schema response := by
    cases ha : schema.authentication with
    | legacy => simp only [contextField, ha]
    | contextBound =>
      have hname : fieldName schema .requestId = some schema.requestIdHeader := if_pos ha
      simp only [contextField, ha, hnamed .requestId _ hname]
  rw [checkedFields, checkedFields, hnamed .signature _ rfl, hnamed .wrappedSessionKey _ rfl,
    hnamed .remoteSigningCertificateId _ rfl, hcipher, hcontext]

/-- Only the mapped headers matter, and neither their order nor their casing. -/
theorem grammar_congr
    (h : (recognizedHeaders schema response').Perm (recognizedHeaders schema response))
    (hbody : schema.responseCipher = .body → response'.body = response.body) :
    grammar schema response' = grammar schema response := by
  have hlength : ∀ name ∈ schema.responseNames,
      (valuesOf response' name).length = (valuesOf response name).length :=
    fun name hname => (valuesOf_perm h hname).length_eq
  by_cases hdup : ∃ name ∈ schema.responseNames, 2 ≤ (valuesOf response name).length
  · have hdup' : ∃ name ∈ schema.responseNames, 2 ≤ (valuesOf response' name).length := by
      obtain ⟨name, hname, htwo⟩ := hdup
      exact ⟨name, hname, by rwa [hlength name hname]⟩
    rw [grammar, grammar, if_pos hdup, if_pos hdup']
  · have hdup' : ¬ ∃ name ∈ schema.responseNames, 2 ≤ (valuesOf response' name).length := by
      rintro ⟨name, hname, htwo⟩
      exact hdup ⟨name, hname, by rwa [← hlength name hname]⟩
    have hvalues : ∀ name ∈ schema.responseNames,
        valuesOf response' name = valuesOf response name := by
      intro name hname
      have hone : ¬ 2 ≤ (valuesOf response name).length := fun htwo => hdup ⟨name, hname, htwo⟩
      exact eq_of_perm_of_length_le_one (valuesOf_perm h hname) (by omega)
    rw [grammar, grammar, if_neg hdup, if_neg hdup']
    exact checkedFields_congr hvalues hbody

end Order

theorem parse_response_accepts_exactly_its_grammar (schema : HeaderSchema)
    (response : ResponseParts) :
    (schema.parseResponse response = .error ⟨.duplicateField⟩ ↔
      ∃ name ∈ schema.responseNames, 2 ≤ (valuesOf response name).length) ∧
    (schema.parseResponse response).map ParsedResponse.intoParts = grammar schema response ∧
    (∀ value certificate envelope context, requiredResponseHeader value = .ok certificate →
      ∃ parsed, ParsedResponse.new envelope certificate context = .ok parsed) ∧
    ∀ response' : ResponseParts,
      (recognizedHeaders schema response').Perm (recognizedHeaders schema response) →
      (schema.responseCipher = .body → response'.body = response.body) →
      schema.parseResponse response' = schema.parseResponse response := by
  have hmap : ∀ r : ResponseParts,
      (schema.parseResponse r).map ParsedResponse.intoParts = grammar schema r :=
    fun r => parseResponse_map_eq_grammar
  refine ⟨?_, hmap response, ?_, ?_⟩
  · rw [← grammar_eq_duplicate_iff, ← hmap response]
    cases schema.parseResponse response <;> simp [Except.map]
  · intro value certificate envelope context h
    have hvalue : headerValue value.toList = .ok certificate := by
      rw [← requiredResponseHeader_head?, ← h]
      cases value <;> rfl
    exact exists_parsed_of_lineSafe (lineSafe_of_headerValue_ok hvalue) envelope context
  · intro response' hperm hbody
    have hsame : (schema.parseResponse response').map ParsedResponse.intoParts =
        (schema.parseResponse response).map ParsedResponse.intoParts := by
      rw [hmap, hmap, grammar_congr hperm hbody]
    exact map_injective ParsedResponse.intoParts_injective hsame

end EnvelopeLite.ResponseGrammar
