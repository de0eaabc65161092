import EnvelopeLite.ReferencePrimitives

namespace EnvelopeLite.SealOutcomes

open EnvelopeLite.Auth EnvelopeLite.ByteFields EnvelopeLite.CallTrace EnvelopeLite.CheckedArith
open EnvelopeLite.Common EnvelopeLite.Config EnvelopeLite.EnvelopeCrypto
open EnvelopeLite.EnvelopeCrypto.Frame EnvelopeLite.EnvelopeCrypto.OpenPath
open EnvelopeLite.EnvelopeCrypto.SealPath EnvelopeLite.Primitives EnvelopeLite.ReferencePrimitives

variable (P : Platform)

/-- What the primitives return while a plaintext is sealed are Rust vectors, and no
allocation is larger than `isize::MAX` bytes. -/
structure OutputsAllocatable (config : ClientConfig P.toTarget) (keys : KeyMaterial P)
    (random : Randomness P) (p : Bytes) : Prop where
  cbc : ∀ key, (P.cbcEncrypt key config.iv p).length ≤ P.isizeMax
  gcm : ∀ key nonce aad ciphertext tag,
    P.gcmEncrypt key nonce aad p = some (ciphertext, tag) → ciphertext.length ≤ P.isizeMax
  ccm : ∀ key nonce aad joined,
    P.ccmEncrypt key nonce aad p tagBytes = some joined → joined.length ≤ P.isizeMax
  wrapped : ∀ (key : SessionKey) wrapped,
    P.sm2Encrypt keys.remoteEncryption key.1 random.wrap = some wrapped →
    wrapped.length ≤ P.isizeMax
  signature : ∀ input signature,
    P.signWithId keys.localSigning config.localSignerId.1 input random.sign = some signature →
    signature.length ≤ P.isizeMax

structure AeadArguments (config : ClientConfig P.toTarget) (random : Randomness P)
    (context : AuthenticationContext) (algorithm : AeadAlgorithm) (key : SessionKey)
    (nonce : Nonce) (aad : Bytes) : Prop where
  mode : config.envelopeMode = .aead algorithm
  key_eq : random.sessionKey = some key
  nonce_eq : random.nonce = some nonce
  aad_eq : config.authenticationMode.aeadAad P.toTarget context (frameHeader algorithm nonce) =
    .ok aad

/-- A random source or a primitive gives no answer, or CCM one that is too short to
hold its tag. -/
inductive StepFails (config : ClientConfig P.toTarget) (keys : KeyMaterial P)
    (random : Randomness P) (p : Bytes) (context : AuthenticationContext) : Prop
  | sessionKey (h : random.sessionKey = none)
  | nonce {algorithm : AeadAlgorithm} (mode : config.envelopeMode = .aead algorithm)
      (h : random.nonce = none)
  | gcm {key : SessionKey} {nonce : Nonce} {aad : Bytes}
      (arguments : AeadArguments P config random context .sm4Gcm key nonce aad)
      (h : P.gcmEncrypt key nonce.1 aad p = none)
  | ccm {key : SessionKey} {nonce : Nonce} {aad : Bytes}
      (arguments : AeadArguments P config random context .sm4Ccm key nonce aad)
      (h : P.ccmEncrypt key nonce.1 aad p tagBytes = none)
  | ccmShort {key : SessionKey} {nonce : Nonce} {aad joined : Bytes}
      (arguments : AeadArguments P config random context .sm4Ccm key nonce aad)
      (h : P.ccmEncrypt key nonce.1 aad p tagBytes = some joined)
      (short : joined.length < tagBytes)
  | wrap {key : SessionKey} (key_eq : random.sessionKey = some key)
      (h : P.sm2Encrypt keys.remoteEncryption key.1 random.wrap = none)
  | sign {input : Bytes}
      (input_eq : config.authenticationMode.authenticationInput P.toTarget context p = .ok input)
      (h : P.signWithId keys.localSigning config.localSignerId.1 input random.sign = none)

variable {P} {config : ClientConfig P.toTarget} {keys : KeyMaterial P} {random : Randomness P}
variable {p : Bytes} {context : AuthenticationContext}

section Refusals

theorem sealEnvelope_of_too_long (h : config.maxPlaintextBytes.1 < p.length) :
    sealEnvelope P config keys random p context =
      fail (.messageTooLarge config.maxPlaintextBytes.1) := by
  rw [sealEnvelope, ensure_neg (not_not.mpr h), fail_bind]

theorem sealEnvelope_of_not_accepts (hlimit : p.length ≤ config.maxPlaintextBytes.1)
    (h : ¬ config.authenticationMode.Accepts context.kind) :
    sealEnvelope P config keys random p context = fail .authenticationContext := by
  have hinput := authenticationInput_of_not_accepts (T := P.toTarget) (p := p) config.mode_valid h
  rw [sealEnvelope, ensure_pos (not_lt.mpr hlimit), pure_bind]
  cases config.envelopeMode with
  | legacyCbc => rw [Cbc.sealEnvelope, hinput, ofExcept_error, fail_bind]
  | aead algorithm => simp only [Aead.sealEnvelope, hinput, ofExcept_error, fail_bind]

end Refusals

section Steps

variable {algorithm : AeadAlgorithm} {key : SessionKey} {nonce : Nonce} {aad : Bytes}

theorem length_encrypted_le (alloc : OutputsAllocatable P config keys random p)
    {ciphertext : Bytes} {tag : Tag}
    (h : Aead.encrypted P algorithm key nonce.1 aad p = some (ciphertext, tag)) :
    ciphertext.length ≤ P.isizeMax := by
  cases algorithm with
  | sm4Gcm => exact alloc.gcm _ _ _ _ _ h
  | sm4Ccm =>
    have hlength := alloc.ccm _ _ _ _ (Aead.encrypted_ccm_iff.mp h)
    rw [List.length_append] at hlength
    omega

/-- The length check of the source cannot fail on a ciphertext that exists. -/
theorem frameLen_eq {ciphertext : Bytes} (h : ciphertext.length ≤ P.isizeMax) :
    checkedAdd P.usizeMax frameOverheadBytes ciphertext.length =
      some (frameOverheadBytes + ciphertext.length) := by
  rw [checkedAdd_eq_some_iff, Nat.add_comm]
  exact ⟨P.add_le_usizeMax h (by decide), rfl⟩

theorem stepFails_of_not_encrypted
    (arguments : AeadArguments P config random context algorithm key nonce aad)
    (h : Aead.encrypted P algorithm key nonce.1 aad p = none) :
    StepFails P config keys random p context := by
  cases algorithm with
  | sm4Gcm => exact .gcm arguments h
  | sm4Ccm =>
    cases hj : P.ccmEncrypt key nonce.1 aad p tagBytes with
    | none => exact .ccm arguments hj
    | some joined =>
      rw [Aead.encrypted, hj, Option.bind_some, Aead.detachTag_eq_none_iff] at h
      exact .ccmShort arguments hj h

theorem StepFails.not_sealing (h : StepFails P config keys random p context)
    {envelope : SecureEnvelope} (s : Sealing P config keys random p context envelope) : False := by
  have hencrypted : ∀ {algorithm key nonce aad},
      AeadArguments P config random context algorithm key nonce aad →
      ∃ r, Aead.encrypted P algorithm key nonce.1 aad p = some r := by
    intro algorithm key nonce aad arguments
    obtain ⟨nonce', aad', ciphertext, tag, -, hn, ha, he, -⟩ := s.seals.of_aead arguments.mode
    obtain rfl : nonce' = nonce := Option.some.inj (hn.symm.trans arguments.nonce_eq)
    obtain rfl : aad' = aad := Except.ok.inj (ha.symm.trans arguments.aad_eq)
    obtain rfl : s.key = key := Option.some.inj (s.key_eq.symm.trans arguments.key_eq)
    exact ⟨_, he⟩
  cases h with
  | sessionKey h => cases s.key_eq.symm.trans h
  | nonce mode h =>
    obtain ⟨nonce, -, -, -, -, hn, -⟩ := s.seals.of_aead mode
    cases hn.symm.trans h
  | gcm arguments h =>
    obtain ⟨r, hr⟩ := hencrypted arguments
    cases hr.symm.trans h
  | ccm arguments h =>
    obtain ⟨r, hr⟩ := hencrypted arguments
    rw [Aead.encrypted, h] at hr
    cases hr
  | ccmShort arguments h short =>
    obtain ⟨r, hr⟩ := hencrypted arguments
    rw [Aead.encrypted, h, Option.bind_some, Aead.detachTag_eq_none_iff.mpr short] at hr
    cases hr
  | wrap hkey h =>
    obtain rfl := Option.some.inj (s.key_eq.symm.trans hkey)
    cases s.wrap_eq.symm.trans h
  | sign hinput h =>
    obtain rfl := Except.ok.inj (s.input_eq.symm.trans hinput)
    cases s.sign_eq.symm.trans h

end Steps

section Endings

theorem ends_wrapAndSign {key : SessionKey} {input payload : Bytes}
    (alloc : OutputsAllocatable P config keys random p) (hkey : random.sessionKey = some key)
    (hinput : config.authenticationMode.authenticationInput P.toTarget context p = .ok input)
    (hpayload : payload.length ≤ P.isizeMax + 30) :
    Ends (wrapAndSign P config keys random key input)
      (fun r => EncodedFits P.toTarget payload ∧ EncodedFits P.toTarget r.1 ∧
        EncodedFits P.toTarget r.2)
      (fun e => e = .encryption ∧ StepFails P config keys random p context) := by
  simp only [wrapAndSign, ends_bind, ends_call, ends_orFail, ends_pure]
  refine ⟨fun wrapped hw => ⟨fun signature hs => ⟨?_, ?_, ?_⟩, ?_⟩, ?_⟩
  · exact encodedFits_of_le_isizeMax hpayload
  · exact encodedFits_of_le_isizeMax (Nat.le_add_right_of_le (alloc.wrapped _ _ hw))
  · exact encodedFits_of_le_isizeMax (Nat.le_add_right_of_le (alloc.signature _ _ hs))
  · exact fun h => ⟨trivial, .sign hinput h⟩
  · exact fun h => ⟨trivial, .wrap hkey h⟩

theorem ends_sealEnvelope (hlimit : p.length ≤ config.maxPlaintextBytes.1)
    (haccepts : config.authenticationMode.Accepts context.kind)
    (hfits : LengthsFit P.toTarget config.authenticationMode context p)
    (alloc : OutputsAllocatable P config keys random p) :
    Ends (sealEnvelope P config keys random p context) (fun _ => True)
      (fun e => e = .encryption ∧ StepFails P config keys random p context) := by
  obtain ⟨input, hinput⟩ := authenticationInput_of_accepts config.mode_valid haccepts hfits
  rw [sealEnvelope, ensure_pos (not_lt.mpr hlimit), pure_bind]
  cases hmode : config.envelopeMode with
  | legacyCbc =>
    simp only [Cbc.sealEnvelope, hinput, ofExcept_ok, pure_bind, generateSessionKey, ends_bind,
      ends_call, ends_orFail, ends_encodeBase64, ends_pure, and_true]
    refine ⟨fun key hkey => ?_, fun h => ⟨trivial, .sessionKey h⟩⟩
    exact ends_wrapAndSign alloc hkey hinput (Nat.le_add_right_of_le (alloc.cbc key))
  | aead algorithm =>
    simp only [Aead.sealEnvelope, hinput, ofExcept_ok, pure_bind, generateSessionKey, ends_bind,
      ends_call, ends_orFail, ends_encodeBase64, ends_pure, and_true]
    refine ⟨fun key hkey => ⟨fun nonce hnonce => ?_, fun h => ⟨trivial, .nonce hmode h⟩⟩,
      fun h => ⟨trivial, .sessionKey h⟩⟩
    obtain ⟨aad, haad⟩ := aeadAad_of_accepts config.mode_valid haccepts hfits
      (frameHeader algorithm nonce)
    have arguments : AeadArguments P config random context algorithm key nonce aad :=
      ⟨hmode, hkey, hnonce, haad⟩
    rw [haad, ofExcept_ok, ends_pure]
    apply Aead.ends_aeadEncrypt
    · rintro ⟨ciphertext, tag⟩ hr
      have hciphertext := length_encrypted_le alloc hr
      have hframe := frameLen_eq hciphertext
      simp only [hframe, Option.some.injEq, forall_eq', reduceCtorEq, false_implies, and_true]
      refine ends_wrapAndSign alloc hkey hinput ?_
      change (frameBytes algorithm nonce ciphertext tag).length ≤ _
      rw [length_frameBytes]
      exact Nat.add_le_add_right hciphertext _
    · exact fun h => ⟨rfl, stepFails_of_not_encrypted arguments h⟩

/-- The three ways in which sealing ends: the plaintext is too long, the context is of
the wrong kind, or the steps decide. -/
theorem sealEnvelope_cases
    (hfits : LengthsFit P.toTarget config.authenticationMode context p)
    (alloc : OutputsAllocatable P config keys random p) :
    (config.maxPlaintextBytes.1 < p.length ∧ sealEnvelope P config keys random p context =
      fail (.messageTooLarge config.maxPlaintextBytes.1)) ∨
    (p.length ≤ config.maxPlaintextBytes.1 ∧ ¬ config.authenticationMode.Accepts context.kind ∧
      sealEnvelope P config keys random p context = fail .authenticationContext) ∨
    (p.length ≤ config.maxPlaintextBytes.1 ∧ config.authenticationMode.Accepts context.kind ∧
      ((∃ envelope, (sealEnvelope P config keys random p context).outcome = .ok envelope ∧
        ¬ StepFails P config keys random p context) ∨
      ((sealEnvelope P config keys random p context).outcome = .err .encryption ∧
        StepFails P config keys random p context))) := by
  by_cases hlimit : p.length ≤ config.maxPlaintextBytes.1
  · right
    by_cases haccepts : config.authenticationMode.Accepts context.kind
    · right
      refine ⟨hlimit, haccepts, ?_⟩
      by_cases hok : ∃ envelope,
          (sealEnvelope P config keys random p context).outcome = .ok envelope
      · obtain ⟨envelope, henvelope⟩ := hok
        obtain ⟨s⟩ := sealEnvelope_ok_iff.mp henvelope
        exact .inl ⟨envelope, henvelope, fun h => h.not_sealing s⟩
      · have hends := ends_sealEnvelope hlimit haccepts hfits alloc
        obtain ⟨e, he, rfl, hfails⟩ := hends.exists_err (not_exists.mp hok)
        exact .inr ⟨he, hfails⟩
    · exact .inl ⟨hlimit, haccepts, sealEnvelope_of_not_accepts hlimit haccepts⟩
  · exact .inl ⟨not_le.mp hlimit, sealEnvelope_of_too_long (not_le.mp hlimit)⟩

end Endings

section Limits

/-- What the primitives demand of their arguments: CCM with a nonce of 12 bytes has
three bytes for the length, and SM2 hashes the length of a signer ID in 16 bits. -/
def WithinLimits : P.Call → Prop
  | .ccmEncrypt plaintext => plaintext.length ≤ 2 ^ 24 - 1
  | .ccmDecrypt joined _ => joined.length ≤ 2 ^ 24 - 1 + tagBytes
  | .signWithId _ signerId _ _ => 8 * signerId.length < 2 ^ 16
  | .verifyWithId _ signerId _ _ _ => 8 * signerId.length < 2 ^ 16
  | _ => True

theorem signerId_bits (id : SignerId) : 8 * id.1.length < 2 ^ 16 := by
  have hlength : id.1.length ≤ 65535 / 8 := id.2.2
  omega

theorem emits_sealEnvelope_withinLimits :
    Emits (sealEnvelope P config keys random p context) WithinLimits := by
  apply emits_sealEnvelope_of
  · exact fun _ => trivial
  · trivial
  · trivial
  · exact fun hmode hlimit => hlimit.trans (config.limit_accepted.2 hmode)
  · exact fun _ _ => trivial
  · exact fun _ _ _ => signerId_bits config.localSignerId

theorem emits_openEnvelope_withinLimits {envelope : SecureEnvelope} :
    Emits (openEnvelope P config keys envelope context) WithinLimits := by
  apply emits_openEnvelope_of
  · exact fun _ _ => trivial
  · exact fun _ _ => trivial
  · exact fun _ _ => trivial
  · exact fun _ _ => trivial
  · intro hmode ciphertext tag r hlimit
    have hmax : ciphertext.length ≤ 2 ^ 24 - 1 := hlimit.trans (config.limit_accepted.2 hmode)
    change (ciphertext ++ tag.1).length ≤ 2 ^ 24 - 1 + 16
    rw [List.length_append, tag.2]
    exact Nat.add_le_add_right hmax _
  · exact fun _ _ _ => signerId_bits config.expectedRemoteSignerId

end Limits

section Iv

/-- Two configurations that the AEAD pipelines should not tell apart. The envelope mode
is left free, since a configuration for an AEAD mode has no IV to differ in. -/
structure AgreeOffIv {T : Target} (config config' : ClientConfig T) : Prop where
  identity : config.identity = config'.identity
  localSignerId : config.localSignerId = config'.localSignerId
  expectedRemoteSignerId : config.expectedRemoteSignerId = config'.expectedRemoteSignerId
  authenticationMode : config.authenticationMode = config'.authenticationMode
  maxPlaintextBytes : config.maxPlaintextBytes = config'.maxPlaintextBytes

variable {config' : ClientConfig P.toTarget} {algorithm : AeadAlgorithm}

theorem AgreeOffIv.aead_sealEnvelope_eq (h : AgreeOffIv config config') :
    Aead.sealEnvelope P config keys random p context algorithm =
      Aead.sealEnvelope P config' keys random p context algorithm := by
  simp only [Aead.sealEnvelope, wrapAndSign, h.localSignerId, h.authenticationMode]

theorem AgreeOffIv.aead_openEnvelope_eq (h : AgreeOffIv config config')
    {envelope : SecureEnvelope} :
    Aead.openEnvelope P config keys envelope context algorithm =
      Aead.openEnvelope P config' keys envelope context algorithm := by
  simp only [Aead.openEnvelope, h.expectedRemoteSignerId, h.authenticationMode,
    h.maxPlaintextBytes]

end Iv

section Samples

theorem reference_outputsAllocatable {config : ClientConfig sampleTarget}
    {keys : KeyMaterial (reference checksumSignature)}
    {random : Randomness (reference checksumSignature)} (hshort : p.length ≤ 64) :
    OutputsAllocatable (reference checksumSignature) config keys random p where
  cbc := by
    intro key
    change (pad p).length ≤ 2 ^ 63 - 1
    rw [length_pad]
    omega
  gcm := by
    intro key nonce aad ciphertext tag h
    obtain ⟨rfl, -⟩ := Prod.mk.inj (Option.some.inj h)
    change p.length ≤ 2 ^ 63 - 1
    omega
  ccm := by
    intro key nonce aad joined h
    obtain rfl := Option.some.inj h
    change (p ++ (checksumTag key nonce aad p).1).length ≤ 2 ^ 63 - 1
    rw [List.length_append, (checksumTag key nonce aad p).2]
    omega
  wrapped := by
    intro key wrapped h
    obtain rfl := Option.some.inj h
    change key.1.length + 1 ≤ 2 ^ 63 - 1
    rw [key.2]
    decide
  signature := by
    intro input signature h
    obtain rfl := Option.some.inj h
    change 1 ≤ 2 ^ 63 - 1
    decide

theorem sampleCcm_lengthsFit :
    LengthsFit sampleTarget sampleCcm.authenticationMode sampleContext [1, 2, 3] := by
  intro d c hd hc
  obtain rfl : [1] = d := by simpa [sampleCcm, sampleConfig] using hd
  obtain rfl : [4] = c := by simpa [sampleContext] using hc
  exact ⟨⟨by decide, by decide, by decide, by decide⟩, ⟨by decide, by decide, by decide⟩⟩

end Samples

theorem seal_failures_are_classified (P : Platform) (config : ClientConfig P.toTarget)
    (keys : KeyMaterial P) (random : Randomness P) (p : Bytes) (context : AuthenticationContext)
    (hfits : LengthsFit P.toTarget config.authenticationMode context p)
    (halloc : OutputsAllocatable P config keys random p) :
    let run := sealEnvelope P config keys random p context
    let limit := config.maxPlaintextBytes.1
    (∀ n, run.outcome = .err (.messageTooLarge n) ↔ n = limit ∧ limit < p.length) ∧
    (p.length ≤ limit → (run.outcome = .err .authenticationContext ↔
      ¬ config.authenticationMode.Accepts context.kind)) ∧
    (p.length ≤ limit → config.authenticationMode.Accepts context.kind →
      ((∃ envelope, run.outcome = .ok envelope) ∨ run.outcome = .err .encryption) ∧
      (run.outcome = .err .encryption ↔ StepFails P config keys random p context)) ∧
    (∀ field, run.outcome ≠ .err (.configuration field)) ∧ run.outcome ≠ .err .invalidEnvelope ∧
    (limit < p.length ∨ ¬ config.authenticationMode.Accepts context.kind → run.log = []) ∧
    Emits run WithinLimits ∧
    (∀ envelope context', Emits (openEnvelope P config keys envelope context') WithinLimits) ∧
    ∀ config' algorithm, AgreeOffIv config config' →
      Aead.sealEnvelope P config keys random p context algorithm =
        Aead.sealEnvelope P config' keys random p context algorithm ∧
      ∀ envelope context', Aead.openEnvelope P config keys envelope context' algorithm =
        Aead.openEnvelope P config' keys envelope context' algorithm := by
  intro run limit
  have hiv : ∀ config' algorithm, AgreeOffIv config config' →
      Aead.sealEnvelope P config keys random p context algorithm =
        Aead.sealEnvelope P config' keys random p context algorithm ∧
      ∀ envelope context', Aead.openEnvelope P config keys envelope context' algorithm =
        Aead.openEnvelope P config' keys envelope context' algorithm :=
    fun _ _ h => ⟨h.aead_sealEnvelope_eq, fun _ _ => h.aead_openEnvelope_eq⟩
  have hseals : Emits run WithinLimits := emits_sealEnvelope_withinLimits
  have hopens : ∀ envelope context',
      Emits (openEnvelope P config keys envelope context') WithinLimits :=
    fun _ _ => emits_openEnvelope_withinLimits
  obtain ⟨hlong, hrun⟩ | ⟨hshort, hkind, hrun⟩ | ⟨hshort, hkind, hrun⟩ :
      _ ∨ _ ∨ _ := sealEnvelope_cases hfits halloc
  · have houtcome : run.outcome = .err (.messageTooLarge limit) := congrArg Traced.outcome hrun
    have hnot : ¬ p.length ≤ limit := not_le.mpr hlong
    refine ⟨fun n => ?_, fun h => absurd h hnot, fun h => absurd h hnot, fun field => ?_, ?_,
      fun _ => congrArg Traced.log hrun, hseals, hopens, hiv⟩
    · rw [houtcome, Outcome.err.injEq, Error.messageTooLarge.injEq, eq_comm]
      exact (and_iff_left hlong).symm
    · simp [houtcome]
    · simp [houtcome]
  · have houtcome : run.outcome = .err .authenticationContext := congrArg Traced.outcome hrun
    refine ⟨fun n => ?_, fun _ => iff_of_true houtcome hkind, fun _ h => absurd h hkind,
      fun field => ?_, ?_, fun _ => congrArg Traced.log hrun, hseals, hopens, hiv⟩
    · simp [houtcome, limit, hshort]
    · simp [houtcome]
    · simp [houtcome]
  · have hnone : limit < p.length ∨ ¬ config.authenticationMode.Accepts context.kind →
        run.log = [] := fun h => h.elim (absurd hshort ∘ not_le.mpr) (absurd hkind)
    obtain ⟨envelope, houtcome, hsteps⟩ | ⟨houtcome, hsteps⟩ := hrun
    · have houtcome : run.outcome = .ok envelope := houtcome
      refine ⟨fun n => ?_, fun _ => ?_, fun _ _ => ⟨.inl ⟨envelope, houtcome⟩, ?_⟩, fun field => ?_,
        ?_, hnone, hseals, hopens, hiv⟩
      · simp [houtcome, limit, hshort]
      · simp [houtcome, hkind]
      · simp [houtcome, hsteps]
      · simp [houtcome]
      · simp [houtcome]
    · have houtcome : run.outcome = .err .encryption := houtcome
      refine ⟨fun n => ?_, fun _ => ?_, fun _ _ => ⟨.inr houtcome, iff_of_true houtcome hsteps⟩,
        fun field => ?_, ?_, hnone, hseals, hopens, hiv⟩
      · simp [houtcome, limit, hshort]
      · simp [houtcome, hkind]
      · simp [houtcome]
      · simp [houtcome]

theorem sampleCcm_sealing_is_classified :
    let run := sealEnvelope (reference checksumSignature) sampleCcm (sampleKeys _)
      (sampleRandomness _) [1, 2, 3] sampleContext
    run.outcome ≠ .err .authenticationContext ∧
      ((∃ envelope, run.outcome = .ok envelope) ∨ run.outcome = .err .encryption) := by
  intro run
  have hclassified := seal_failures_are_classified (reference checksumSignature) sampleCcm
    (sampleKeys _) (sampleRandomness _) [1, 2, 3] sampleContext sampleCcm_lengthsFit
    (reference_outputsAllocatable (by decide))
  have hlimit : [1, 2, 3].length ≤ sampleCcm.maxPlaintextBytes.1 := by decide
  have hkind : sampleCcm.authenticationMode.Accepts sampleContext.kind := trivial
  have hcontext := hclassified.2.1 hlimit
  exact ⟨fun h => hcontext.mp h hkind, (hclassified.2.2.1 hlimit hkind).1⟩

end EnvelopeLite.SealOutcomes
