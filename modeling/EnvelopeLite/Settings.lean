import EnvelopeLite.EnvelopeCrypto.OpenPath
import EnvelopeLite.EnvelopeCrypto.SealPath
import EnvelopeLite.Slots

namespace EnvelopeLite.Settings

open EnvelopeLite.Auth EnvelopeLite.ByteFields EnvelopeLite.CallTrace EnvelopeLite.Common
open EnvelopeLite.Config EnvelopeLite.Config.ClientConfigBuilder EnvelopeLite.EnvelopeCrypto
open EnvelopeLite.EnvelopeCrypto.OpenPath EnvelopeLite.EnvelopeCrypto.SealPath
open EnvelopeLite.Primitives EnvelopeLite.Slots EnvelopeLite.Text

variable {T : Target}

inductive Field
  | localIdentityId
  | apiVersion
  | localCertificateId
  | expectedRemoteSigningCertificateId
  | remoteEncryptionCertificateId
  | localSignerId
  | expectedRemoteSignerId
  | authenticationMode
  | iv
  | envelopeMode
  | maxPlaintextBytes
  deriving DecidableEq, Repr

inductive Setting (T : Target)
  | localIdentityId (value : String)
  | apiVersion (value : String)
  | localCertificateId (value : String)
  | expectedRemoteSigningCertificateId (value : String)
  | remoteEncryptionCertificateId (value : String)
  | localSignerId (value : Bytes)
  | expectedRemoteSignerId (value : Bytes)
  | authenticationMode (value : AuthenticationMode)
  | iv (value : FixedBytes 16)
  | envelopeMode (value : EnvelopeMode)
  | maxPlaintextBytes (value : Usize T)

namespace Setting

def field : Setting T → Field
  | .localIdentityId _ => .localIdentityId
  | .apiVersion _ => .apiVersion
  | .localCertificateId _ => .localCertificateId
  | .expectedRemoteSigningCertificateId _ => .expectedRemoteSigningCertificateId
  | .remoteEncryptionCertificateId _ => .remoteEncryptionCertificateId
  | .localSignerId _ => .localSignerId
  | .expectedRemoteSignerId _ => .expectedRemoteSignerId
  | .authenticationMode _ => .authenticationMode
  | .iv _ => .iv
  | .envelopeMode _ => .envelopeMode
  | .maxPlaintextBytes _ => .maxPlaintextBytes

def apply (b : ClientConfigBuilder T) : Setting T → ClientConfigBuilder T
  | .localIdentityId value => { b with localIdentityId := some value }
  | .apiVersion value => { b with apiVersion := some value }
  | .localCertificateId value => { b with localCertificateId := some value }
  | .expectedRemoteSigningCertificateId value =>
    { b with expectedRemoteSigningCertificateId := some value }
  | .remoteEncryptionCertificateId value => { b with remoteEncryptionCertificateId := some value }
  | .localSignerId value => { b with localSignerId := some value }
  | .expectedRemoteSignerId value => { b with expectedRemoteSignerId := some value }
  | .authenticationMode value => { b with authenticationMode := some value }
  | .iv value => { b with iv := some value }
  | .envelopeMode value => { b with envelopeMode := some value }
  | .maxPlaintextBytes value => { b with maxPlaintextBytes := some value }

end Setting

def builderOf (settings : List (Setting T)) : ClientConfigBuilder T :=
  settings.foldl Setting.apply {}

section Slots

/-- The setting that a builder has for a field. -/
def slot (b : ClientConfigBuilder T) : Field → Option (Setting T)
  | .localIdentityId => b.localIdentityId.map .localIdentityId
  | .apiVersion => b.apiVersion.map .apiVersion
  | .localCertificateId => b.localCertificateId.map .localCertificateId
  | .expectedRemoteSigningCertificateId =>
    b.expectedRemoteSigningCertificateId.map .expectedRemoteSigningCertificateId
  | .remoteEncryptionCertificateId =>
    b.remoteEncryptionCertificateId.map .remoteEncryptionCertificateId
  | .localSignerId => b.localSignerId.map .localSignerId
  | .expectedRemoteSignerId => b.expectedRemoteSignerId.map .expectedRemoteSignerId
  | .authenticationMode => b.authenticationMode.map .authenticationMode
  | .iv => b.iv.map .iv
  | .envelopeMode => b.envelopeMode.map .envelopeMode
  | .maxPlaintextBytes => b.maxPlaintextBytes.map .maxPlaintextBytes

theorem slot_apply (b : ClientConfigBuilder T) (setting : Setting T) (field : Field) :
    slot (setting.apply b) field = if setting.field = field then some setting else slot b field := by
  cases setting <;> cases field <;> rfl

theorem slot_builderOf (settings : List (Setting T)) (field : Field) :
    slot (builderOf settings) field = lastWrite Setting.field field settings := by
  have hslot := slot_foldl slot_apply settings {} field
  have hempty : slot ({} : ClientConfigBuilder T) field = none := by cases field <;> rfl
  rw [hempty, Option.or_none] at hslot
  exact hslot

theorem ext_of_slot {b b' : ClientConfigBuilder T} (h : ∀ field, slot b field = slot b' field) :
    b = b' := by
  have hinj : ∀ {α : Type} {f : α → Setting T} {o o' : Option α}, Function.Injective f →
      o.map f = o'.map f → o = o' := fun hf heq => Option.map_injective hf heq
  obtain ⟨_, _, _, _, _, _, _, _, _, _, _⟩ := b
  obtain ⟨_, _, _, _, _, _, _, _, _, _, _⟩ := b'
  congr 1
  · exact hinj (fun _ _ => Setting.localIdentityId.inj) (h .localIdentityId)
  · exact hinj (fun _ _ => Setting.apiVersion.inj) (h .apiVersion)
  · exact hinj (fun _ _ => Setting.localCertificateId.inj) (h .localCertificateId)
  · exact hinj (fun _ _ => Setting.expectedRemoteSigningCertificateId.inj)
      (h .expectedRemoteSigningCertificateId)
  · exact hinj (fun _ _ => Setting.remoteEncryptionCertificateId.inj)
      (h .remoteEncryptionCertificateId)
  · exact hinj (fun _ _ => Setting.localSignerId.inj) (h .localSignerId)
  · exact hinj (fun _ _ => Setting.expectedRemoteSignerId.inj) (h .expectedRemoteSignerId)
  · exact hinj (fun _ _ => Setting.authenticationMode.inj) (h .authenticationMode)
  · exact hinj (fun _ _ => Setting.iv.inj) (h .iv)
  · exact hinj (fun _ _ => Setting.envelopeMode.inj) (h .envelopeMode)
  · exact hinj (fun _ _ => Setting.maxPlaintextBytes.inj) (h .maxPlaintextBytes)

end Slots

section Checks

def signerIdAccepted (value : Bytes) : Bool := value ≠ [] ∧ value.length ≤ maxSignerIdBytes

/-- The limit if one is set; the defaults need no check. -/
def limitAccepted (mode : Option EnvelopeMode) (limit : Usize T) : Bool :=
  0 < limit.1 ∧ (mode = some (.aead .sm4Ccm) → limit.1 ≤ sm4CcmMaxPlaintextBytes)

/-- What is asked of a builder, and the field that is named if it is not so. -/
def checks (b : ClientConfigBuilder T) : List (Error × Bool) := [
  (.configuration "local_identity_id", b.localIdentityId.any lineSafe),
  (.configuration "api_version", b.apiVersion.any lineSafe),
  (.configuration "local_certificate_id", b.localCertificateId.any lineSafe),
  (.configuration "expected_remote_signing_certificate_id",
    b.expectedRemoteSigningCertificateId.any lineSafe),
  (.configuration "remote_encryption_certificate_id",
    b.remoteEncryptionCertificateId.any lineSafe),
  (.configuration "local_signer_id", b.localSignerId.any signerIdAccepted),
  (.configuration "expected_remote_signer_id", b.expectedRemoteSignerId.any signerIdAccepted),
  (.configuration "envelope_mode", b.envelopeMode.isSome),
  (.configuration "iv", b.iv.isSome ↔ b.envelopeMode = some .legacyCbc),
  (.configuration "authentication_mode", b.authenticationMode.isSome),
  (.configuration "domain_separator", b.authenticationMode ≠ some (.contextBound [])),
  (.configuration "max_plaintext_bytes",
    b.maxPlaintextBytes.all (limitAccepted b.envelopeMode))]

variable {α : Type} {rest : List (Error × Bool)}

theorem runsChecks_headerValue {value : Option String} {field : String}
    {f : LineSafe → Except Error α} (hrest : ∀ v, value = some v.1 → RunsChecks rest (f v)) :
    RunsChecks ((.configuration field, value.any lineSafe) :: rest)
      (requiredHeaderValue value field >>= f) := by
  cases value with
  | none => rfl
  | some value =>
    rw [requiredHeaderValue, okOr, ok_bind, validateHeaderValue, Option.any_some]
    refine runsChecks_bind (fun hunsafe => ?_) (fun hsafe => ?_) fun v hv => ?_
    · rw [validateLine, dif_neg (Bool.eq_false_iff.mp hunsafe)]
    · exact ⟨⟨value, hsafe⟩, validateLine_ok_iff.mpr rfl⟩
    · exact hrest v (congrArg some (validateLine_ok_iff.mp hv))

theorem runsChecks_signerId {value : Option Bytes} {field : String}
    {f : SignerId → Except Error α} (hrest : ∀ v, value = some v.1 → RunsChecks rest (f v)) :
    RunsChecks ((.configuration field, value.any signerIdAccepted) :: rest)
      (requiredSignerId value field >>= f) := by
  cases value with
  | none => rfl
  | some value =>
    have haccepted : signerIdAccepted value = true ↔
        ¬ (value = [] ∨ maxSignerIdBytes < value.length) := by
      rw [signerIdAccepted, decide_eq_true_iff, not_or, not_lt]
    by_cases h : value = [] ∨ maxSignerIdBytes < value.length
    · have hfails : requiredSignerId (some value) field = .error (.configuration field) := dif_pos h
      rw [hfails]
      refine runsChecks_bind (fun _ => rfl) (fun htrue => absurd h (haccepted.mp htrue)) ?_
      intro v hv
      cases hv
    · have hok : requiredSignerId (some value) field =
          .ok ⟨value, by simpa [not_or] using h⟩ := dif_neg h
      rw [hok]
      refine runsChecks_bind (fun hfalse => ?_) (fun _ => ⟨_, rfl⟩) ?_
      · exact absurd (haccepted.mpr h) (Bool.eq_false_iff.mp hfalse)
      · rintro v ⟨⟩
        exact hrest _ rfl

theorem runsChecks_present {β : Type} {value : Option β} {e : Error} {f : β → Except Error α}
    (hrest : ∀ v, value = some v → RunsChecks rest (f v)) :
    RunsChecks ((e, value.isSome) :: rest) (okOr value e >>= f) := by
  cases value with
  | none => rfl
  | some value => exact hrest value rfl

theorem runsChecks_iv {mode : EnvelopeMode} {iv : Option (FixedBytes 16)}
    {f : {v : FixedBytes 16 // mode ≠ .legacyCbc → v = zeroIv} → Except Error α}
    (hrest : ∀ v, RunsChecks rest (f v)) :
    RunsChecks ((.configuration "iv", iv.isSome ↔ some mode = some .legacyCbc) :: rest)
      (resolveIv mode iv >>= f) := by
  cases mode with
  | legacyCbc =>
    cases iv with
    | none => rfl
    | some iv => exact hrest _
  | aead algorithm =>
    cases iv with
    | none => exact hrest _
    | some iv => rfl

theorem runsChecks_mode {mode : AuthenticationMode}
    {f : {m : AuthenticationMode // m ≠ .contextBound []} → Except Error α}
    (hrest : ∀ m, RunsChecks rest (f m)) :
    RunsChecks ((.configuration "domain_separator",
      some mode ≠ some (.contextBound [])) :: rest) (resolveMode mode >>= f) := by
  refine runsChecks_bind (fun hfalse => ?_) (fun htrue => ?_) fun m _ => hrest m
  · obtain rfl : mode = .contextBound [] := by simpa using hfalse
    rfl
  · have hvalid : mode ≠ .contextBound [] := by simpa using htrue
    exact ⟨_, resolveMode_ok mode hvalid⟩

def defaultLimit (T : Target) (mode : EnvelopeMode) : Usize T :=
  if mode = .aead .sm4Ccm then sm4CcmDefaultMaxPlaintextBytes T else defaultMaxPlaintextBytes T

theorem limitAccepted_default (mode : EnvelopeMode) :
    LimitAccepted mode (defaultLimit T mode).1 := by
  have hdefault : 0 < 16 * 1024 * 1024 := by decide
  have hccmDefault : 0 < 64 * 1024 ∧ 64 * 1024 ≤ sm4CcmMaxPlaintextBytes := by decide
  rw [defaultLimit, LimitAccepted]
  by_cases hccm : mode = .aead .sm4Ccm
  · rw [if_pos hccm]
    exact ⟨hccmDefault.1, fun _ => hccmDefault.2⟩
  · rw [if_neg hccm]
    exact ⟨hdefault, fun h => absurd h hccm⟩

theorem resolveLimit_eq (mode : EnvelopeMode) (limit : Option (Usize T)) :
    resolveLimit mode limit = resolveLimit mode (some (limit.getD (defaultLimit T mode))) := by
  cases limit <;> rfl

theorem resolveLimit_error {mode : EnvelopeMode} {limit : Usize T}
    (h : ¬ LimitAccepted mode limit.1) :
    resolveLimit mode (some limit) = .error (.configuration "max_plaintext_bytes") := by
  apply dif_pos
  by_contra hn
  simp only [Option.getD_some, not_or, not_and, not_lt] at hn
  exact h ⟨Nat.pos_of_ne_zero hn.1, hn.2⟩

theorem runsChecks_limit {mode : EnvelopeMode} {limit : Option (Usize T)}
    {f : {n : Usize T // LimitAccepted mode n.1} → Except Error α}
    (hrest : ∀ n, RunsChecks rest (f n)) :
    RunsChecks ((.configuration "max_plaintext_bytes",
      limit.all (limitAccepted (some mode))) :: rest) (resolveLimit mode limit >>= f) := by
  rw [resolveLimit_eq]
  have haccepted : limit.all (limitAccepted (some mode)) = true ↔
      LimitAccepted mode (limit.getD (defaultLimit T mode)).1 := by
    cases limit with
    | none => exact ⟨fun _ => limitAccepted_default mode, fun _ => rfl⟩
    | some limit =>
      rw [Option.all_some, limitAccepted, decide_eq_true_iff, Option.some.injEq]
      rfl
  refine runsChecks_bind (fun hfalse => ?_) (fun htrue => ?_) fun n _ => hrest n
  · exact resolveLimit_error fun h => Bool.eq_false_iff.mp hfalse (haccepted.mpr h)
  · exact ⟨_, resolveLimit_some mode _ (haccepted.mp htrue)⟩

theorem runsChecks_build (b : ClientConfigBuilder T) : RunsChecks (checks b) b.build := by
  unfold checks build
  refine runsChecks_headerValue fun _ _ => ?_
  refine runsChecks_headerValue fun _ _ => ?_
  refine runsChecks_headerValue fun _ _ => ?_
  refine runsChecks_headerValue fun _ _ => ?_
  refine runsChecks_headerValue fun _ _ => ?_
  refine runsChecks_signerId fun _ _ => ?_
  refine runsChecks_signerId fun _ _ => ?_
  refine runsChecks_present fun mode hmode => ?_
  rw [hmode]
  refine runsChecks_iv fun _ => ?_
  refine runsChecks_present fun authentication hauthentication => ?_
  rw [hauthentication]
  refine runsChecks_mode fun _ => ?_
  refine runsChecks_limit fun _ => ?_
  exact runsChecks_ok _

end Checks

section Values

def configSlot (config : ClientConfig T) : Field → Option (Setting T)
  | .localIdentityId => some (.localIdentityId config.identity.localIdentityId.1)
  | .apiVersion => some (.apiVersion config.identity.apiVersion.1)
  | .localCertificateId => some (.localCertificateId config.identity.localCertificateId.1)
  | .expectedRemoteSigningCertificateId => some (.expectedRemoteSigningCertificateId
      config.identity.expectedRemoteSigningCertificateId.1)
  | .remoteEncryptionCertificateId =>
    some (.remoteEncryptionCertificateId config.identity.remoteEncryptionCertificateId.1)
  | .localSignerId => some (.localSignerId config.localSignerId.1)
  | .expectedRemoteSignerId => some (.expectedRemoteSignerId config.expectedRemoteSignerId.1)
  | .authenticationMode => some (.authenticationMode config.authenticationMode)
  | .iv => if config.envelopeMode = .legacyCbc then some (.iv config.iv) else none
  | .envelopeMode => some (.envelopeMode config.envelopeMode)
  | .maxPlaintextBytes => some (.maxPlaintextBytes config.maxPlaintextBytes)

theorem requiredHeaderValue_ok {value : Option String} {field : String} {v : LineSafe}
    (h : requiredHeaderValue value field = .ok v) : value = some v.1 := by
  rw [requiredHeaderValue, bind_eq_ok_iff] at h
  obtain ⟨value', hvalue, hline⟩ := h
  rw [okOr_ok_iff] at hvalue
  rw [hvalue, validateLine_ok_iff.mp hline]

theorem requiredSignerId_ok {value : Option Bytes} {field : String} {v : SignerId}
    (h : requiredSignerId value field = .ok v) : value = some v.1 := by
  rw [requiredSignerId, bind_eq_ok_iff] at h
  obtain ⟨value', hvalue, hline⟩ := h
  rw [okOr_ok_iff] at hvalue
  split at hline
  · cases hline
  · cases hline
    exact hvalue

theorem resolveIv_ok {mode : EnvelopeMode} {iv : Option (FixedBytes 16)}
    {v : {v : FixedBytes 16 // mode ≠ .legacyCbc → v = zeroIv}} (h : resolveIv mode iv = .ok v) :
    iv = if mode = .legacyCbc then some v.1 else none := by
  cases mode with
  | legacyCbc =>
    rw [resolveIv, bind_eq_ok_iff] at h
    obtain ⟨iv', hiv, hv⟩ := h
    cases hv
    exact okOr_ok_iff.mp hiv
  | aead algorithm =>
    cases iv with
    | none => rfl
    | some iv => cases h

theorem resolveMode_eq {mode : AuthenticationMode}
    {m : {m : AuthenticationMode // m ≠ .contextBound []}} (h : resolveMode mode = .ok m) :
    mode = m.1 := by
  unfold resolveMode at h
  split at h
  · cases h
    rfl
  · cases h

theorem resolveLimit_ok {mode : EnvelopeMode} {limit : Option (Usize T)}
    {n : {n : Usize T // LimitAccepted mode n.1}} (h : resolveLimit mode limit = .ok n) :
    n.1 = limit.getD (defaultLimit T mode) := by
  rw [resolveLimit_eq] at h
  by_cases haccepted : LimitAccepted mode (limit.getD (defaultLimit T mode)).1
  · rw [resolveLimit_some mode _ haccepted] at h
    cases h
    rfl
  · rw [resolveLimit_error haccepted] at h
    cases h

theorem slots_of_build {b : ClientConfigBuilder T} {config : ClientConfig T}
    (h : b.build = .ok config) :
    (∀ field ≠ .maxPlaintextBytes, configSlot config field = slot b field) ∧
    config.maxPlaintextBytes = b.maxPlaintextBytes.getD (defaultLimit T config.envelopeMode) := by
  simp only [build, bind_eq_ok_iff] at h
  obtain ⟨_, hlocalId, _, hversion, _, hlocalCertificate, _, hsigning, _, hencryption, _, hlocalSigner,
    _, hremoteSigner, mode, hmode, iv, hiv, _, hgiven, authentication, hauthentication, _, hlimit,
    hconfig⟩ := h
  cases hconfig
  refine ⟨fun field hfield => ?_, resolveLimit_ok hlimit⟩
  cases field with
  | localIdentityId => rw [slot, requiredHeaderValue_ok hlocalId]; rfl
  | apiVersion => rw [slot, requiredHeaderValue_ok hversion]; rfl
  | localCertificateId => rw [slot, requiredHeaderValue_ok hlocalCertificate]; rfl
  | expectedRemoteSigningCertificateId => rw [slot, requiredHeaderValue_ok hsigning]; rfl
  | remoteEncryptionCertificateId => rw [slot, requiredHeaderValue_ok hencryption]; rfl
  | localSignerId => rw [slot, requiredSignerId_ok hlocalSigner]; rfl
  | expectedRemoteSignerId => rw [slot, requiredSignerId_ok hremoteSigner]; rfl
  | authenticationMode =>
    rw [slot, okOr_ok_iff.mp hgiven, resolveMode_eq hauthentication]
    rfl
  | iv =>
    rw [slot, resolveIv_ok hiv, configSlot]
    by_cases hcbc : mode = .legacyCbc
    · rw [if_pos hcbc, if_pos hcbc]
      rfl
    · rw [if_neg hcbc, if_neg hcbc]
      rfl
  | envelopeMode => rw [slot, okOr_ok_iff.mp hmode]; rfl
  | maxPlaintextBytes => exact absurd rfl hfield

end Values

/-- Of the calls of the setters only the last on each field counts. `build` names the
first field in its own order that is missing or refused, and a configuration has the last
settings as they were given, with a default for the limit only. -/
theorem configuration_has_the_last_settings (T : Target) (settings : List (Setting T)) :
    let b := builderOf settings
    (∀ settings', (∀ field, lastWrite Setting.field field settings' =
        lastWrite Setting.field field settings) → (builderOf settings').build = b.build) ∧
    (∀ e, b.build = .error e ↔ firstFailed (checks b) = some e) ∧
    ((∃ config, b.build = .ok config) ↔ ∀ check ∈ checks b, check.2 = true) ∧
    ∀ config, b.build = .ok config →
      (∀ field ≠ .maxPlaintextBytes,
        configSlot config field = lastWrite Setting.field field settings) ∧
      configSlot config .maxPlaintextBytes =
        (lastWrite Setting.field .maxPlaintextBytes settings).or
          (some (.maxPlaintextBytes (defaultLimit T config.envelopeMode))) := by
  intro b
  have hruns := runsChecks_build b
  refine ⟨?_, fun e => hruns.error_iff, hruns.exists_ok_iff, ?_⟩
  · intro settings' hsame
    have hbuilder : builderOf settings' = b := by
      apply ext_of_slot
      intro field
      rw [slot_builderOf, slot_builderOf, hsame]
    rw [hbuilder]
  · intro config hconfig
    obtain ⟨hslots, hlimit⟩ := slots_of_build hconfig
    refine ⟨fun field hfield => ?_, ?_⟩
    · rw [hslots field hfield, slot_builderOf]
    · rw [← slot_builderOf, configSlot, hlimit, slot]
      cases b.maxPlaintextBytes <;> rfl

section WithoutAead

theorem limitAccepted_legacyCbc {n : Nat} (h : n ≠ 0) : LimitAccepted .legacyCbc n :=
  ⟨Nat.pos_of_ne_zero h, nofun⟩

theorem iv_inert_legacyCbc (iv : FixedBytes 16) :
    EnvelopeMode.legacyCbc ≠ .legacyCbc → iv = zeroIv :=
  fun hmode => absurd rfl hmode

/-- `build` as it is compiled without the feature `aead`. The mode that a configuration
then does not have is written as the compatibility mode. -/
def buildWithoutAead (b : ClientConfigBuilder T) : Except Error (ClientConfig T) := do
  let identity : ClientIdentity := {
    localIdentityId := ← requiredHeaderValue b.localIdentityId "local_identity_id"
    apiVersion := ← requiredHeaderValue b.apiVersion "api_version"
    localCertificateId := ← requiredHeaderValue b.localCertificateId "local_certificate_id"
    expectedRemoteSigningCertificateId := ← requiredHeaderValue
      b.expectedRemoteSigningCertificateId "expected_remote_signing_certificate_id"
    remoteEncryptionCertificateId := ← requiredHeaderValue b.remoteEncryptionCertificateId
      "remote_encryption_certificate_id" }
  let localSignerId ← requiredSignerId b.localSignerId "local_signer_id"
  let expectedRemoteSignerId ← requiredSignerId b.expectedRemoteSignerId
    "expected_remote_signer_id"
  let iv ← okOr b.iv (.configuration "iv")
  let authenticationMode ← okOr b.authenticationMode (.configuration "authentication_mode")
  let authenticationMode ← resolveMode authenticationMode
  let max := b.maxPlaintextBytes.getD (defaultMaxPlaintextBytes T)
  if h : max.1 = 0 then .error (.configuration "max_plaintext_bytes")
  else .ok {
    identity := identity
    localSignerId := localSignerId
    expectedRemoteSignerId := expectedRemoteSignerId
    authenticationMode := authenticationMode.1
    iv := iv
    envelopeMode := .legacyCbc
    maxPlaintextBytes := max
    mode_valid := fun hempty => authenticationMode.2 hempty
    iv_inert := iv_inert_legacyCbc iv
    limit_accepted := limitAccepted_legacyCbc h }

variable (P : Platform)

def sealWithoutAead (config : ClientConfig P.toTarget) (keys : KeyMaterial P)
    (random : Randomness P) (plaintext : Bytes) (context : AuthenticationContext) :
    Run P SecureEnvelope := do
  let plaintextLimit := config.maxPlaintextBytes.1
  ensure (¬ plaintext.length > plaintextLimit) (.messageTooLarge plaintextLimit)
  Cbc.sealEnvelope P config keys random plaintext context

def openWithoutAead (config : ClientConfig P.toTarget) (keys : KeyMaterial P)
    (envelope : SecureEnvelope) (context : AuthenticationContext) : Run P Bytes :=
  Cbc.openEnvelope P config keys envelope context

theorem resolveIv_legacyCbc (iv : Option (FixedBytes 16)) :
    resolveIv .legacyCbc iv =
      okOr iv (.configuration "iv") >>= fun iv => .ok ⟨iv, iv_inert_legacyCbc iv⟩ := rfl

theorem resolveLimit_legacyCbc (limit : Option (Usize T)) :
    resolveLimit .legacyCbc limit =
      let max := limit.getD (defaultMaxPlaintextBytes T)
      if h : max.1 = 0 then .error (.configuration "max_plaintext_bytes")
      else .ok ⟨max, limitAccepted_legacyCbc h⟩ := by
  have hdefault : defaultLimit T .legacyCbc = defaultMaxPlaintextBytes T := if_neg nofun
  rw [resolveLimit_eq, hdefault]
  by_cases h : (limit.getD (defaultMaxPlaintextBytes T)).1 = 0
  · rw [dif_pos h]
    exact resolveLimit_error fun haccepted => Nat.ne_of_gt haccepted.1 h
  · rw [dif_neg h]
    exact resolveLimit_some _ _ _

theorem buildWithoutAead_eq (b : ClientConfigBuilder T) :
    buildWithoutAead b = { b with envelopeMode := some .legacyCbc }.build := by
  have hmode : ∀ e : Error, okOr (some EnvelopeMode.legacyCbc) e = .ok .legacyCbc := fun _ => rfl
  unfold buildWithoutAead build
  simp only [hmode, resolveIv_legacyCbc, resolveLimit_legacyCbc, bind_assoc, ok_bind]
  iterate 10 refine bind_congr (m := Except Error) fun _ => ?_
  split <;> rfl

/-- The feature adds modes and takes nothing away: what is compiled without it is what the
compatibility mode does with it, in the configurations that are built and in every call of
the primitives on the way to an envelope and back. -/
theorem aead_feature_keeps_the_compatibility_mode (P : Platform)
    (settings : List (Setting P.toTarget)) :
    buildWithoutAead (builderOf settings) =
      (builderOf (settings ++ [.envelopeMode .legacyCbc])).build ∧
    ∀ config, buildWithoutAead (builderOf settings) = .ok config →
      (∀ keys random plaintext context,
        sealWithoutAead P config keys random plaintext context =
          sealEnvelope P config keys random plaintext context) ∧
      ∀ keys envelope context,
        openWithoutAead P config keys envelope context =
          openEnvelope P config keys envelope context := by
  have hset : builderOf (settings ++ [.envelopeMode .legacyCbc]) =
      { builderOf settings with envelopeMode := some .legacyCbc } := by
    rw [builderOf, List.foldl_append]
    rfl
  have hbuild : buildWithoutAead (builderOf settings) =
      (builderOf (settings ++ [.envelopeMode .legacyCbc])).build := by
    rw [hset, buildWithoutAead_eq]
  refine ⟨hbuild, fun config hconfig => ?_⟩
  have hmode : config.envelopeMode = .legacyCbc := by
    rw [hbuild] at hconfig
    have hslot := (slots_of_build hconfig).1 .envelopeMode (by decide)
    rw [hset] at hslot
    exact Setting.envelopeMode.inj (Option.some.inj hslot)
  refine ⟨fun keys random plaintext context => ?_, fun keys envelope context => ?_⟩
  · rw [sealEnvelope, hmode]
    rfl
  · rw [openEnvelope, hmode]
    rfl

end WithoutAead

end EnvelopeLite.Settings
