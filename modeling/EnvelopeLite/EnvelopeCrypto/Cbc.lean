import EnvelopeLite.EnvelopeCrypto.Shared

namespace EnvelopeLite.EnvelopeCrypto.Cbc

open EnvelopeLite.Auth EnvelopeLite.ByteFields EnvelopeLite.CallTrace EnvelopeLite.CheckedArith
open EnvelopeLite.Common EnvelopeLite.Config EnvelopeLite.Primitives EnvelopeLite.SliceOps

variable (P : Platform)

def sm4BlockBytes : Nat := 16

/-- The single place where opening performs an SM2 verification. -/
def verifyTranscript (keys : KeyMaterial P) (config : ClientConfig P.toTarget)
    (transcript signature : Bytes) : Run P Bool :=
  let signerId := config.expectedRemoteSignerId.1
  let verified := P.verifyWithId keys.remoteVerification signerId transcript signature
  call (.verifyWithId keys.remoteVerification signerId transcript signature verified) verified

def sealEnvelope (config : ClientConfig P.toTarget) (keys : KeyMaterial P) (random : Randomness P)
    (plaintext : Bytes) (context : AuthenticationContext) : Run P SecureEnvelope := do
  let authenticationInput ← ofExcept
    (config.authenticationMode.authenticationInput P.toTarget context plaintext)
  let sessionKey ← generateSessionKey P random
  let cipher ← call (.cbcEncrypt plaintext) (P.cbcEncrypt sessionKey config.iv plaintext)
  let (wrappedSessionKey, signature) ←
    wrapAndSign P config keys random sessionKey authenticationInput
  pure {
    cipher := ← encodeBase64 P cipher
    wrappedSessionKey := ← encodeBase64 P wrappedSessionKey
    signature := ← encodeBase64 P signature }

def paddedCipherLen (T : Target) (plaintextLimit : Nat) : Nat :=
  (((checkedDiv plaintextLimit sm4BlockBytes).bind (checkedAdd T.usizeMax · 1)).bind
    (checkedMul T.usizeMax · sm4BlockBytes)).getD T.usizeMax

/-- Failed decryption, an oversized plaintext and a failed authentication input
are remembered in flags; verification runs all the same, on substitute data. -/
def openEnvelope (config : ClientConfig P.toTarget) (keys : KeyMaterial P)
    (envelope : SecureEnvelope) (context : AuthenticationContext) : Run P Bytes := do
  let plaintextLimit := config.maxPlaintextBytes.1
  let maxCipherBytes := paddedCipherLen P.toTarget plaintextLimit
  let maxCipherBase64Bytes := base64Len P.toTarget maxCipherBytes
  ensure (¬ envelope.cipher.utf8ByteSize > maxCipherBase64Bytes) (.messageTooLarge plaintextLimit)
  ensure (¬ (envelope.wrappedSessionKey.utf8ByteSize > maxAuxiliaryBase64Bytes ∨
    envelope.signature.utf8ByteSize > maxAuxiliaryBase64Bytes)) .invalidEnvelope
  let cipher ← decodeBase64 P envelope.cipher
  ensure (¬ cipher.length > maxCipherBytes) .invalidEnvelope
  let wrappedSessionKey ← decodeBase64 P envelope.wrappedSessionKey
  let signature ← decodeBase64 P envelope.signature
  let sessionKey ← unwrapSessionKey P keys wrappedSessionKey
  let decrypted := P.cbcDecrypt sessionKey config.iv cipher
  let decrypted ← call (.cbcDecrypt cipher decrypted) decrypted
  let paddingOk := decrypted.isSome
  -- From here on the ciphertext stands in for a plaintext that was not found.
  let plaintext := decrypted.getD cipher
  let lengthOk := decide (plaintext.length ≤ plaintextLimit)
  let authenticationInput :=
    config.authenticationMode.authenticationInput P.toTarget context plaintext
  let inputOk := authenticationInput.isOk
  let transcript := authenticationInput.toOption.getD []
  let verified ← verifyTranscript P keys config transcript signature
  if paddingOk && lengthOk && inputOk && verified then pure plaintext else fail .invalidEnvelope

def unwrapParts (config : ClientConfig P.toTarget) (keys : KeyMaterial P)
    (envelope : SecureEnvelope) : Run P (Bytes × Bytes × SessionKey) := do
  let plaintextLimit := config.maxPlaintextBytes.1
  let maxCipherBytes := paddedCipherLen P.toTarget plaintextLimit
  ensure (¬ envelope.cipher.utf8ByteSize > base64Len P.toTarget maxCipherBytes)
    (.messageTooLarge plaintextLimit)
  ensure (¬ (envelope.wrappedSessionKey.utf8ByteSize > maxAuxiliaryBase64Bytes ∨
    envelope.signature.utf8ByteSize > maxAuxiliaryBase64Bytes)) .invalidEnvelope
  let cipher ← decodeBase64 P envelope.cipher
  ensure (¬ cipher.length > maxCipherBytes) .invalidEnvelope
  let wrappedSessionKey ← decodeBase64 P envelope.wrappedSessionKey
  let signature ← decodeBase64 P envelope.signature
  let sessionKey ← unwrapSessionKey P keys wrappedSessionKey
  pure (cipher, signature, sessionKey)

def decryptAndVerify (config : ClientConfig P.toTarget) (keys : KeyMaterial P)
    (context : AuthenticationContext) (cipher signature : Bytes) (sessionKey : SessionKey) :
    Run P Bytes := do
  let decrypted := P.cbcDecrypt sessionKey config.iv cipher
  let decrypted ← call (.cbcDecrypt cipher decrypted) decrypted
  let plaintext := decrypted.getD cipher
  let input := config.authenticationMode.authenticationInput P.toTarget context plaintext
  let verified ← verifyTranscript P keys config (input.toOption.getD []) signature
  if decrypted.isSome && decide (plaintext.length ≤ config.maxPlaintextBytes.1) && input.isOk &&
    verified then pure plaintext else fail .invalidEnvelope

variable {P}

theorem openEnvelope_eq (config : ClientConfig P.toTarget) (keys : KeyMaterial P)
    (envelope : SecureEnvelope) (context : AuthenticationContext) :
    openEnvelope P config keys envelope context = unwrapParts P config keys envelope >>=
      fun r => decryptAndVerify P config keys context r.1 r.2.1 r.2.2 := by
  simp only [openEnvelope, unwrapParts, decryptAndVerify, bind_assoc, pure_bind]

theorem paddedCipherLen_eq (T : Target) (n : Nat) :
    paddedCipherLen T n = min ((n / 16 + 1) * 16) T.usizeMax :=
  nextMultiple_getD T.usizeMax n 16 (by omega)

theorem unwrapParts_ok_iff {config : ClientConfig P.toTarget} {keys : KeyMaterial P}
    {envelope : SecureEnvelope} {cipher signature : Bytes} {key : SessionKey} :
    (unwrapParts P config keys envelope).outcome = .ok (cipher, signature, key) ↔
      envelope.cipher.utf8ByteSize ≤
        base64Len P.toTarget (paddedCipherLen P.toTarget config.maxPlaintextBytes.1) ∧
      envelope.wrappedSessionKey.utf8ByteSize ≤ maxAuxiliaryBase64Bytes ∧
      envelope.signature.utf8ByteSize ≤ maxAuxiliaryBase64Bytes ∧
      P.base64Decode envelope.cipher = some cipher ∧
      cipher.length ≤ paddedCipherLen P.toTarget config.maxPlaintextBytes.1 ∧
      P.base64Decode envelope.signature = some signature ∧
      ∃ wrapped, P.base64Decode envelope.wrappedSessionKey = some wrapped ∧
        P.sm2Decrypt keys.localDecryption wrapped = some key.1 := by
  simp only [unwrapParts, bind_ok_iff, ensure_ok_iff, decodeBase64_ok_iff,
    unwrapSessionKey_ok_iff, pure_ok_iff, not_or, not_lt]
  constructor
  · rintro ⟨-, hc, -, ⟨hw, hs⟩, c, hdc, -, hcl, w, hdw, s, hds, k, hk, he⟩
    obtain ⟨rfl, rfl, rfl⟩ : c = cipher ∧ s = signature ∧ k = key := by simpa using he
    exact ⟨hc, hw, hs, hdc, hcl, hds, w, hdw, hk⟩
  · rintro ⟨hc, hw, hs, hdc, hcl, hds, w, hdw, hk⟩
    exact ⟨(), hc, (), ⟨hw, hs⟩, _, hdc, (), hcl, w, hdw, _, hds, _, hk, rfl⟩

theorem decryptAndVerify_ok_iff {config : ClientConfig P.toTarget} {keys : KeyMaterial P}
    {context : AuthenticationContext} {cipher signature p : Bytes} {key : SessionKey} :
    (decryptAndVerify P config keys context cipher signature key).outcome = .ok p ↔
      P.cbcDecrypt key config.iv cipher = some p ∧ p.length ≤ config.maxPlaintextBytes.1 ∧
      ∃ input, config.authenticationMode.authenticationInput P.toTarget context p = .ok input ∧
        P.verifyWithId keys.remoteVerification config.expectedRemoteSignerId.1 input signature =
          true := by
  simp only [decryptAndVerify, verifyTranscript, bind_ok_iff, call_ok_iff, exists_eq_left',
    ite_ok_iff]
  cases hd : P.cbcDecrypt key config.iv cipher with
  | none => simp
  | some q =>
    cases hi : config.authenticationMode.authenticationInput P.toTarget context q with
    | error e =>
      simp only [Option.getD_some, hi, Except.isOk, Except.toBool, Bool.and_false, Bool.false_and,
        Bool.false_eq_true, false_and, Option.some.injEq, false_iff]
      rintro ⟨rfl, -, input, hin, -⟩
      rw [hi] at hin
      cases hin
    | ok input =>
      simp only [Option.getD_some, hi, Except.isOk, Except.toBool, Except.toOption,
        Option.isSome_some, Bool.true_and, Bool.and_true, Bool.and_eq_true, decide_eq_true_eq,
        Option.some.injEq]
      constructor
      · rintro ⟨⟨hl, hv⟩, rfl⟩
        exact ⟨rfl, hl, input, hi, hv⟩
      · rintro ⟨rfl, hl, input', hi', hv⟩
        obtain rfl : input = input' := by simpa [hi] using hi'
        exact ⟨⟨hl, hv⟩, rfl⟩

theorem ends_decryptAndVerify {config : ClientConfig P.toTarget} {keys : KeyMaterial P}
    {context : AuthenticationContext} {cipher signature : Bytes} {key : SessionKey}
    {Q : Bytes → Prop} {S : Error → Prop} (hq : ∀ p, Q p) (hs : S .invalidEnvelope) :
    Ends (decryptAndVerify P config keys context cipher signature key) Q S := by
  simp [decryptAndVerify, verifyTranscript, hq, hs]

theorem ends_openEnvelope {config : ClientConfig P.toTarget} {keys : KeyMaterial P}
    {envelope : SecureEnvelope} {context : AuthenticationContext} {Q : Bytes → Prop}
    {S : Error → Prop} (bound : Nat)
    (hbound : bound = base64Len P.toTarget
      (paddedCipherLen P.toTarget config.maxPlaintextBytes.1))
    (hq : envelope.cipher.utf8ByteSize ≤ bound → ∀ p, Q p)
    (htoo : bound < envelope.cipher.utf8ByteSize → S (.messageTooLarge config.maxPlaintextBytes.1))
    (hs : envelope.cipher.utf8ByteSize ≤ bound → S .invalidEnvelope) :
    Ends (openEnvelope P config keys envelope context) Q S := by
  subst hbound
  simp only [openEnvelope_eq, unwrapParts, ends_bind, ends_ensure, not_lt]
  refine ⟨fun hc => ⟨fun _ => ?_, fun _ => hs hc⟩, fun hc => htoo (by omega)⟩
  refine ends_decodeBase64 (fun cipher => ⟨fun _ => ?_, fun _ => hs hc⟩) (hs hc)
  refine ends_decodeBase64 (fun wrapped => ?_) (hs hc)
  refine ends_decodeBase64 (fun signature => ?_) (hs hc)
  refine ends_unwrapSessionKey (fun key => ?_) (hs hc)
  rw [ends_pure]
  exact ends_decryptAndVerify (hq hc) (hs hc)

/-- The checks up to the session key, in terms of the primitives only. -/
def earlyChecks (P : Platform) (config : ClientConfig P.toTarget) (keys : KeyMaterial P)
    (envelope : SecureEnvelope) : Except Error (Bytes × Bytes × SessionKey) := do
  let limit := config.maxPlaintextBytes.1
  let maxCipherBytes := paddedCipherLen P.toTarget limit
  if envelope.cipher.utf8ByteSize > base64Len P.toTarget maxCipherBytes then
    .error (.messageTooLarge limit)
  else if envelope.wrappedSessionKey.utf8ByteSize > maxAuxiliaryBase64Bytes ∨
      envelope.signature.utf8ByteSize > maxAuxiliaryBase64Bytes then .error .invalidEnvelope
  else do
    let cipher ← okOr (P.base64Decode envelope.cipher) .invalidEnvelope
    if cipher.length > maxCipherBytes then .error .invalidEnvelope
    else do
      let wrapped ← okOr (P.base64Decode envelope.wrappedSessionKey) .invalidEnvelope
      let signature ← okOr (P.base64Decode envelope.signature) .invalidEnvelope
      let unwrapped ← okOr (P.sm2Decrypt keys.localDecryption wrapped) .invalidEnvelope
      let key ← okOr (arrayTryFrom 16 unwrapped) .invalidEnvelope
      .ok (cipher, signature, key)

/-- The plain pipeline, which reports every failure as soon as it is known. -/
def openEarlyReturn (P : Platform) (config : ClientConfig P.toTarget) (keys : KeyMaterial P)
    (envelope : SecureEnvelope) (context : AuthenticationContext) : Except Error Bytes := do
  let (cipher, signature, key) ← earlyChecks P config keys envelope
  let plaintext ← okOr (P.cbcDecrypt key config.iv cipher) .invalidEnvelope
  if plaintext.length > config.maxPlaintextBytes.1 then .error .invalidEnvelope
  else do
    let transcript ←
      (config.authenticationMode.authenticationInput P.toTarget context plaintext).mapError
        (fun _ => .invalidEnvelope)
    if P.verifyWithId keys.remoteVerification config.expectedRemoteSignerId.1 transcript signature
    then .ok plaintext else .error .invalidEnvelope

def isVerification : P.Call → Bool
  | .verifyWithId _ _ _ _ _ => true
  | _ => false

/-- Some SM2 decryption of the run answered with a key of 16 bytes. -/
def SessionKeyUnwrapped (log : List P.Call) : Prop :=
  ∃ wrapped key, .sm2Decrypt wrapped (some key) ∈ log ∧ key.length = sessionKeyBytes

theorem earlyChecks_ok_iff {config : ClientConfig P.toTarget} {keys : KeyMaterial P}
    {envelope : SecureEnvelope} {parts : Bytes × Bytes × SessionKey} :
    earlyChecks P config keys envelope = .ok parts ↔
      (unwrapParts P config keys envelope).outcome = .ok parts := by
  obtain ⟨cipher, signature, key⟩ := parts
  simp only [unwrapParts_ok_iff, earlyChecks, ite_error_ok_iff, bind_eq_ok_iff, okOr_ok_iff,
    arrayTryFrom_eq_some_iff, Except.ok.injEq, not_or, not_lt]
  constructor
  · rintro ⟨hc, ⟨hw, hs⟩, c, hdc, hcl, w, hdw, s, hds, u, hu, k, rfl, he⟩
    obtain ⟨rfl, rfl, rfl⟩ : c = cipher ∧ s = signature ∧ k = key := by simpa using he
    exact ⟨hc, hw, hs, hdc, hcl, hds, w, hdw, hu⟩
  · rintro ⟨hc, hw, hs, hdc, hcl, hds, w, hdw, hk⟩
    exact ⟨hc, ⟨hw, hs⟩, _, hdc, hcl, w, hdw, _, hds, _, hk, key, rfl, rfl⟩

def refusal (config : ClientConfig P.toTarget) (envelope : SecureEnvelope) : Error :=
  if base64Len P.toTarget (paddedCipherLen P.toTarget config.maxPlaintextBytes.1) <
      envelope.cipher.utf8ByteSize then .messageTooLarge config.maxPlaintextBytes.1
  else .invalidEnvelope

theorem earlyChecks_error (config : ClientConfig P.toTarget) (keys : KeyMaterial P)
    (envelope : SecureEnvelope) :
    ∀ e, earlyChecks P config keys envelope = .error e → e = refusal config envelope := by
  by_cases hlarge : base64Len P.toTarget (paddedCipherLen P.toTarget config.maxPlaintextBytes.1) <
      envelope.cipher.utf8ByteSize
  · rw [refusal, if_pos hlarge, earlyChecks, if_pos hlarge]
    exact fun e h => (Except.error.inj h).symm
  · rw [refusal, if_neg hlarge, earlyChecks, if_neg hlarge]
    refine ite_unique (bind_unique okOr_unique fun cipher => ite_unique ?_)
    refine bind_unique okOr_unique fun wrapped => bind_unique okOr_unique fun signature => ?_
    exact bind_unique okOr_unique fun unwrapped => bind_unique okOr_unique fun key => nofun

theorem openEarlyReturn_error (config : ClientConfig P.toTarget) (keys : KeyMaterial P)
    (envelope : SecureEnvelope) (context : AuthenticationContext) :
    ∀ e, openEarlyReturn P config keys envelope context = .error e →
      e = refusal config envelope := by
  intro e h
  obtain h | ⟨⟨cipher, signature, key⟩, hparts, h⟩ := bind_eq_error_iff.mp h
  · exact earlyChecks_error config keys envelope e h
  · have hfits := (unwrapParts_ok_iff.mp (earlyChecks_ok_iff.mp hparts)).1
    rw [refusal, if_neg (by omega)]
    refine bind_unique okOr_unique (fun plaintext => ?_) e h
    refine ite_unique (bind_unique mapError_unique fun transcript e h => ?_)
    split at h
    · cases h
    · exact (Except.error.inj h).symm

theorem openEarlyReturn_ok_iff {config : ClientConfig P.toTarget} {keys : KeyMaterial P}
    {envelope : SecureEnvelope} {context : AuthenticationContext} {p : Bytes} :
    openEarlyReturn P config keys envelope context = .ok p ↔
      (openEnvelope P config keys envelope context).outcome = .ok p := by
  rw [openEnvelope_eq, bind_ok_iff, openEarlyReturn, bind_eq_ok_iff]
  refine exists_congr fun parts => and_congr earlyChecks_ok_iff ?_
  rw [decryptAndVerify_ok_iff]
  simp only [bind_eq_ok_iff, okOr_ok_iff, mapError_ok_iff, ite_error_ok_iff, not_lt]
  constructor
  · rintro ⟨q, hd, hl, input, hi, h⟩
    split at h
    · next hv =>
      obtain rfl := Except.ok.inj h
      exact ⟨hd, hl, input, hi, hv⟩
    · cases h
  · rintro ⟨hd, hl, input, hi, hv⟩
    exact ⟨p, hd, hl, input, hi, if_pos hv⟩

theorem openEnvelope_outcome_eq (config : ClientConfig P.toTarget) (keys : KeyMaterial P)
    (envelope : SecureEnvelope) (context : AuthenticationContext) :
    (openEnvelope P config keys envelope context).outcome =
      (ofExcept (openEarlyReturn P config keys envelope context) : Run P Bytes).outcome := by
  apply Ends.outcome_eq (e := refusal config envelope)
  · apply ends_openEnvelope _ rfl
    · exact fun _ _ => trivial
    · exact fun hlarge => (if_pos hlarge).symm
    · exact fun hfits => (if_neg (by omega)).symm
  · rw [ends_ofExcept]
    exact ⟨fun _ _ => trivial, openEarlyReturn_error config keys envelope context⟩
  · intro p
    rw [ofExcept_ok_iff, openEarlyReturn_ok_iff]

/-- Before the session key is unwrapped only Base64 and one SM2 decryption run, and
that decryption is the last check of this part. -/
theorem mem_log_unwrapParts {config : ClientConfig P.toTarget} {keys : KeyMaterial P}
    {envelope : SecureEnvelope} {c : P.Call} (hc : c ∈ (unwrapParts P config keys envelope).log) :
    (∃ value result, c = .base64Decode value result) ∨
      ∃ wrapped, c = .sm2Decrypt wrapped (P.sm2Decrypt keys.localDecryption wrapped) ∧
        ∀ key : SessionKey, P.sm2Decrypt keys.localDecryption wrapped = some key.1 →
          ∃ parts, (unwrapParts P config keys envelope).outcome = .ok parts := by
  simp only [unwrapParts, mem_log_bind, log_ensure, log_decodeBase64, log_unwrapSessionKey,
    log_pure, List.not_mem_nil, List.mem_singleton, false_or, or_false, and_false, exists_false,
    ensure_ok_iff, decodeBase64_ok_iff, not_or, not_lt] at hc
  rcases hc with ⟨-, hcl, -, ⟨hwl, hsl⟩, rfl | ⟨cipher, hdc, -, hl, rfl | ⟨wrapped, hdw, hc⟩⟩⟩
  · exact .inl ⟨_, _, rfl⟩
  · exact .inl ⟨_, _, rfl⟩
  rcases hc with rfl | ⟨signature, hds, rfl⟩
  · exact .inl ⟨_, _, rfl⟩
  · refine .inr ⟨wrapped, rfl, fun key hk => ⟨(cipher, signature, key), ?_⟩⟩
    exact unwrapParts_ok_iff.mpr ⟨hcl, hwl, hsl, hdc, hl, hds, wrapped, hdw, hk⟩

theorem verifications_unwrapParts (config : ClientConfig P.toTarget) (keys : KeyMaterial P)
    (envelope : SecureEnvelope) :
    (unwrapParts P config keys envelope).log.filter isVerification = [] := by
  rw [List.filter_eq_nil_iff]
  intro c hc
  obtain ⟨_, _, rfl⟩ | ⟨_, rfl, -⟩ := mem_log_unwrapParts hc <;> simp [isVerification]

theorem log_decryptAndVerify (config : ClientConfig P.toTarget) (keys : KeyMaterial P)
    (context : AuthenticationContext) (cipher signature : Bytes) (key : SessionKey) :
    let plaintext := (P.cbcDecrypt key config.iv cipher).getD cipher
    let input := config.authenticationMode.authenticationInput P.toTarget context plaintext
    let transcript := input.toOption.getD []
    (decryptAndVerify P config keys context cipher signature key).log =
      [.cbcDecrypt cipher (P.cbcDecrypt key config.iv cipher),
        .verifyWithId keys.remoteVerification config.expectedRemoteSignerId.1 transcript signature
          (P.verifyWithId keys.remoteVerification config.expectedRemoteSignerId.1 transcript
            signature)] := by
  simp only [decryptAndVerify, verifyTranscript, log_call_bind, log_ite, log_pure, log_fail,
    ite_self]

theorem emits_openEnvelope_of {config : ClientConfig P.toTarget} {keys : KeyMaterial P}
    {envelope : SecureEnvelope} {context : AuthenticationContext} {R : P.Call → Prop}
    (hdecode : ∀ value r, R (.base64Decode value r))
    (hunwrap : ∀ wrapped r, R (.sm2Decrypt wrapped r))
    (hcbc : ∀ cipher r, R (.cbcDecrypt cipher r))
    (hverify : ∀ input signature, P.base64Decode envelope.signature = some signature →
      R (.verifyWithId keys.remoteVerification config.expectedRemoteSignerId.1 input signature
        (P.verifyWithId keys.remoteVerification config.expectedRemoteSignerId.1 input
          signature))) :
    Emits (openEnvelope P config keys envelope context) R := by
  rw [openEnvelope_eq, emits_bind]
  constructor
  · intro c hc
    obtain ⟨value, r, rfl⟩ | ⟨wrapped, rfl, -⟩ := mem_log_unwrapParts hc
    · exact hdecode value r
    · exact hunwrap wrapped _
  · rintro ⟨cipher, signature, key⟩ hparts
    have hsignature := (unwrapParts_ok_iff.mp hparts).2.2.2.2.2.1
    rw [Emits, log_decryptAndVerify]
    simp only [List.forall_mem_cons]
    exact ⟨hcbc _ _, hverify _ _ hsignature, by simp⟩

theorem verified_mem_log_of_ok {config : ClientConfig P.toTarget} {keys : KeyMaterial P}
    {envelope : SecureEnvelope} {context : AuthenticationContext} {p : Bytes}
    (h : (openEnvelope P config keys envelope context).outcome = .ok p) :
    ∃ input signature, P.base64Decode envelope.signature = some signature ∧
      config.authenticationMode.authenticationInput P.toTarget context p = .ok input ∧
      P.verifyWithId keys.remoteVerification config.expectedRemoteSignerId.1 input signature =
        true ∧
      .verifyWithId keys.remoteVerification config.expectedRemoteSignerId.1 input signature true ∈
        (openEnvelope P config keys envelope context).log := by
  rw [openEnvelope_eq] at h ⊢
  obtain ⟨⟨cipher, signature, key⟩, hparts, h⟩ := bind_ok_iff.mp h
  obtain ⟨hd, -, input, hi, hv⟩ := decryptAndVerify_ok_iff.mp h
  have hsignature := (unwrapParts_ok_iff.mp hparts).2.2.2.2.2.1
  refine ⟨input, signature, hsignature, hi, hv, mem_log_bind.mpr (.inr ⟨_, hparts, ?_⟩)⟩
  rw [log_decryptAndVerify, hd, Option.getD_some, hi]
  simp [Except.toOption, hv]

theorem sm2Decrypt_mem_log_unwrapParts {config : ClientConfig P.toTarget} {keys : KeyMaterial P}
    {envelope : SecureEnvelope} {cipher wrapped signature : Bytes}
    (hcipher : envelope.cipher.utf8ByteSize ≤
      base64Len P.toTarget (paddedCipherLen P.toTarget config.maxPlaintextBytes.1))
    (hwrapped : envelope.wrappedSessionKey.utf8ByteSize ≤ maxAuxiliaryBase64Bytes)
    (hsignature : envelope.signature.utf8ByteSize ≤ maxAuxiliaryBase64Bytes)
    (hdc : P.base64Decode envelope.cipher = some cipher)
    (hlength : cipher.length ≤ paddedCipherLen P.toTarget config.maxPlaintextBytes.1)
    (hdw : P.base64Decode envelope.wrappedSessionKey = some wrapped)
    (hds : P.base64Decode envelope.signature = some signature) :
    .sm2Decrypt wrapped (P.sm2Decrypt keys.localDecryption wrapped) ∈
      (unwrapParts P config keys envelope).log := by
  simp only [unwrapParts, mem_log_bind, log_ensure, log_decodeBase64, log_unwrapSessionKey,
    List.not_mem_nil, List.mem_singleton, false_or, ensure_ok_iff, decodeBase64_ok_iff,
    not_or, not_lt]
  exact ⟨(), hcipher, (), ⟨hwrapped, hsignature⟩, .inr ⟨cipher, hdc, (), hlength, .inr
    ⟨wrapped, hdw, .inr ⟨signature, hds, .inl rfl⟩⟩⟩⟩

theorem sessionKeyUnwrapped_of_ok {config : ClientConfig P.toTarget} {keys : KeyMaterial P}
    {envelope : SecureEnvelope} {parts : Bytes × Bytes × SessionKey}
    (h : (unwrapParts P config keys envelope).outcome = .ok parts) :
    SessionKeyUnwrapped (unwrapParts P config keys envelope).log := by
  obtain ⟨cipher, signature, key⟩ := parts
  obtain ⟨hcl, hwl, hsl, hdc, hl, hds, wrapped, hdw, hk⟩ := unwrapParts_ok_iff.mp h
  refine ⟨wrapped, key.1, ?_, key.2⟩
  rw [← hk]
  exact sm2Decrypt_mem_log_unwrapParts hcl hwl hsl hdc hl hdw hds

theorem sessionKeyUnwrapped_openEnvelope_iff (config : ClientConfig P.toTarget)
    (keys : KeyMaterial P) (envelope : SecureEnvelope) (context : AuthenticationContext) :
    SessionKeyUnwrapped (openEnvelope P config keys envelope context).log ↔
      ∃ parts, (unwrapParts P config keys envelope).outcome = .ok parts := by
  rw [openEnvelope_eq]
  constructor
  · rintro ⟨wrapped, key, hmem, hlen⟩
    rw [mem_log_bind] at hmem
    obtain hmem | ⟨parts, hparts, -⟩ := hmem
    · obtain ⟨_, _, he⟩ | ⟨_, he, hok⟩ := mem_log_unwrapParts hmem
      · cases he
      · injection he with hw hk
        exact hok ⟨key, hlen⟩ hk.symm
    · exact ⟨parts, hparts⟩
  · rintro ⟨parts, hparts⟩
    obtain ⟨wrapped, key, hmem, hlen⟩ := sessionKeyUnwrapped_of_ok hparts
    exact ⟨wrapped, key, mem_log_bind.mpr (.inl hmem), hlen⟩

theorem cost_equalized_open_refines_early_return (P : Platform) (config : ClientConfig P.toTarget)
    (keys : KeyMaterial P) (envelope : SecureEnvelope) (context : AuthenticationContext) :
    let run := openEnvelope P config keys envelope context
    let signerId := config.expectedRemoteSignerId.1
    run.outcome =
        (ofExcept (openEarlyReturn P config keys envelope context) : Run P Bytes).outcome ∧
      (∀ cipher signature key, earlyChecks P config keys envelope = .ok (cipher, signature, key) →
        let plaintext := (P.cbcDecrypt key config.iv cipher).getD cipher
        let input := config.authenticationMode.authenticationInput P.toTarget context plaintext
        let transcript := input.toOption.getD []
        run.log.filter isVerification =
          [.verifyWithId keys.remoteVerification signerId transcript signature
            (P.verifyWithId keys.remoteVerification signerId transcript signature)]) ∧
      (SessionKeyUnwrapped run.log ↔ ∃ parts, earlyChecks P config keys envelope = .ok parts) ∧
      (¬ SessionKeyUnwrapped run.log → run.log.filter isVerification = []) := by
  intro run signerId
  have hbefore := verifications_unwrapParts config keys envelope
  have hrun : run = unwrapParts P config keys envelope >>= _ :=
    openEnvelope_eq config keys envelope context
  have hunwrapped := sessionKeyUnwrapped_openEnvelope_iff config keys envelope context
  refine ⟨openEnvelope_outcome_eq config keys envelope context, ?_, ?_, ?_⟩
  · intro cipher signature key hparts
    rw [hrun, Traced.bind_ok (earlyChecks_ok_iff.mp hparts), log_decryptAndVerify,
      List.filter_append, hbefore]
    rfl
  · simpa only [earlyChecks_ok_iff] using hunwrapped
  · intro hno
    rw [hunwrapped] at hno
    rw [hrun, log_bind_of_not_ok (fun parts hparts => hno ⟨parts, hparts⟩), hbefore]

end EnvelopeLite.EnvelopeCrypto.Cbc
