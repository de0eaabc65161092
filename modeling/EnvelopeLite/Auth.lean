import EnvelopeLite.Common

namespace EnvelopeLite.Auth

open EnvelopeLite.ByteFields EnvelopeLite.CheckedArith EnvelopeLite.Common

def transcriptVersion : UInt8 := 1

def transcriptLengthBytes : Nat := 3 * 8

/-- The bytes of `gmcrypto-envelope-lite/aead-aad/v1`. -/
def aeadAadLabel : Bytes :=
  [0x67, 0x6d, 0x63, 0x72, 0x79, 0x70, 0x74, 0x6f, 0x2d, 0x65, 0x6e, 0x76, 0x65, 0x6c, 0x6f,
    0x70, 0x65, 0x2d, 0x6c, 0x69, 0x74, 0x65, 0x2f, 0x61, 0x65, 0x61, 0x64, 0x2d, 0x61, 0x61,
    0x64, 0x2f, 0x76, 0x31]

example : "gmcrypto-envelope-lite/aead-aad/v1".toUTF8.data.toList = aeadAadLabel := by decide

inductive AuthenticationMode
  | legacyPlaintext
  | contextBound (domainSeparator : Bytes)
  deriving DecidableEq, Repr

inductive ContextKind
  | legacy
  | bound (bytes : Bytes)
  deriving DecidableEq, Repr

/-- Only the two constructors below build a context, so bound bytes are never
empty and a legacy marker is never mistaken for them. -/
@[ext] structure AuthenticationContext where
  kind : ContextKind
  nonempty : kind ≠ .bound []
  deriving DecidableEq

namespace AuthenticationContext

def legacy : AuthenticationContext := ⟨.legacy, by simp⟩

def contextBound (bytes : Bytes) : Except Error AuthenticationContext :=
  if h : bytes = [] then .error .authenticationContext
  else .ok ⟨.bound bytes, by simpa using h⟩

theorem contextBound_ok_iff {bytes : Bytes} {context : AuthenticationContext} :
    contextBound bytes = .ok context ↔ context.kind = .bound bytes := by
  unfold contextBound
  split
  · next h =>
    simp only [reduceCtorEq, false_iff]
    intro hk
    exact context.nonempty (by rw [hk, h])
  · next h =>
    rw [Except.ok.injEq, AuthenticationContext.ext_iff]
    exact eq_comm

end AuthenticationContext

def pushField (target value : Bytes) : Except Error Bytes := do
  let length ← okOr (u64TryFrom value.length) .authenticationContext
  .ok (target ++ beBytes 8 length ++ value)

theorem pushField_ok_iff {target value result : Bytes} :
    pushField target value = .ok result ↔
      value.length < 2 ^ 64 ∧ target ++ field 8 value = result := by
  simp only [pushField, bind_eq_ok_iff, okOr_ok_iff, u64TryFrom_eq_some_iff, Except.ok.injEq,
    List.append_assoc, field]
  constructor
  · rintro ⟨n, ⟨hlt, rfl⟩, hr⟩
    exact ⟨hlt, hr⟩
  · rintro ⟨hlt, hr⟩
    exact ⟨_, ⟨hlt, rfl⟩, hr⟩

namespace AuthenticationMode

def validate : AuthenticationMode → Except Error Unit
  | .contextBound domainSeparator =>
    if domainSeparator = [] then .error (.configuration "domain_separator") else .ok ()
  | .legacyPlaintext => .ok ()

/-- The exact bytes that are signed or verified. -/
def authenticationInput (T : Target) (mode : AuthenticationMode) (context : AuthenticationContext)
    (plaintext : Bytes) : Except Error Bytes := do
  mode.validate
  match mode, context.kind with
  | .legacyPlaintext, .legacy => .ok plaintext
  | .contextBound domainSeparator, .bound context => do
    -- `Vec::with_capacity` panics above `isize::MAX`. Inputs that long are left out of the
    -- model: a standing bound is that no allocation is larger than `Target.isizeMax`.
    let _capacity ← okOr ((((checkedAdd T.usizeMax 1 transcriptLengthBytes).bind
      (checkedAdd T.usizeMax · domainSeparator.length)).bind
      (checkedAdd T.usizeMax · context.length)).bind
      (checkedAdd T.usizeMax · plaintext.length)) .authenticationContext
    let input := [transcriptVersion]
    let input ← pushField input domainSeparator
    let input ← pushField input context
    pushField input plaintext
  | _, _ => .error .authenticationContext

/-- Domain separator and protocol context as the additional data carries them;
in legacy mode both fields are present but empty. -/
def aadFields : AuthenticationMode → ContextKind → Except Error (Bytes × Bytes)
  | .legacyPlaintext, .legacy => .ok ([], [])
  | .contextBound domainSeparator, .bound bound => .ok (domainSeparator, bound)
  | _, _ => .error .authenticationContext

def aeadAad (T : Target) (mode : AuthenticationMode) (context : AuthenticationContext)
    (frameHeader : FixedBytes 14) : Except Error Bytes := do
  mode.validate
  let (domainSeparator, protocolContext) ← aadFields mode context.kind
  -- The standing bound on allocations applies here as in `authenticationInput`.
  let _capacity ← okOr ((((checkedAdd T.usizeMax (4 * 8) aeadAadLabel.length).bind
    (checkedAdd T.usizeMax · frameHeader.1.length)).bind
    (checkedAdd T.usizeMax · domainSeparator.length)).bind
    (checkedAdd T.usizeMax · protocolContext.length)) .authenticationContext
  let aad := []
  let aad ← pushField aad aeadAadLabel
  let aad ← pushField aad frameHeader.1
  let aad ← pushField aad domainSeparator
  pushField aad protocolContext

end AuthenticationMode

open AuthenticationMode

def transcript (domainSeparator context plaintext : Bytes) : Bytes :=
  transcriptVersion :: fields 8 [domainSeparator, context, plaintext]

def aadBytes (frameHeader domainSeparator protocolContext : Bytes) : Bytes :=
  fields 8 [aeadAadLabel, frameHeader, domainSeparator, protocolContext]

@[simp] theorem validate_ok_iff {mode : AuthenticationMode} {u : Unit} :
    mode.validate = .ok u ↔ mode ≠ .contextBound [] := by
  cases mode with
  | legacyPlaintext => simp [validate]
  | contextBound d => by_cases h : d = [] <;> simp [validate, h]

/-- The sizes at which a transcript can be formed: the whole fits `usize` and
each length fits its 64-bit prefix. -/
structure Representable (T : Target) (domainSeparator context plaintext : Bytes) : Prop where
  capacity : 1 + transcriptLengthBytes + domainSeparator.length + context.length +
    plaintext.length ≤ T.usizeMax
  domain_lt : domainSeparator.length < 2 ^ 64
  context_lt : context.length < 2 ^ 64
  plaintext_lt : plaintext.length < 2 ^ 64

theorem authenticationInput_ok_iff {T : Target} {mode : AuthenticationMode}
    {context : AuthenticationContext} {plaintext input : Bytes} :
    mode.authenticationInput T context plaintext = .ok input ↔
      (mode = .legacyPlaintext ∧ context.kind = .legacy ∧ plaintext = input) ∨
      ∃ d c, mode = .contextBound d ∧ context.kind = .bound c ∧ d ≠ [] ∧
        Representable T d c plaintext ∧ transcript d c plaintext = input := by
  unfold authenticationInput
  rw [bind_eq_ok_iff]
  cases mode with
  | legacyPlaintext =>
    cases hk : context.kind <;> simp [validate]
  | contextBound d =>
    cases hk : context.kind with
    | legacy => simp
    | bound c =>
      simp only [validate_ok_iff, bind_eq_ok_iff, okOr_ok_iff, Option.bind_eq_some_iff,
        checkedAdd_eq_some_iff, pushField_ok_iff]
      constructor
      · rintro ⟨-, hd, -, ⟨-, ⟨-, ⟨-, ⟨-, rfl⟩, -, rfl⟩, -, rfl⟩, hle, -⟩,
          -, ⟨hd', rfl⟩, -, ⟨hc', rfl⟩, hp', rfl⟩
        exact .inr ⟨d, c, rfl, rfl, by simpa using hd, ⟨hle, hd', hc', hp'⟩, by simp [transcript]⟩
      · rintro (⟨h, -⟩ | ⟨d', c', hd, hc, hne, ⟨hle, hd', hc', hp'⟩, rfl⟩)
        · simp at h
        · obtain rfl : d = d' := by simpa using hd
          obtain rfl : c = c' := by simpa using hc
          exact ⟨(), by simpa using hne, _, ⟨_, ⟨_, ⟨_, ⟨by omega, rfl⟩, by omega, rfl⟩,
            by omega, rfl⟩, hle, rfl⟩, _, ⟨hd', rfl⟩, _, ⟨hc', rfl⟩, hp', by simp [transcript]⟩

structure AadRepresentable (T : Target) (domainSeparator context : Bytes) : Prop where
  capacity : 4 * 8 + aeadAadLabel.length + 14 + domainSeparator.length + context.length ≤
    T.usizeMax
  domain_lt : domainSeparator.length < 2 ^ 64
  context_lt : context.length < 2 ^ 64

theorem aeadAad_ok_iff {T : Target} {mode : AuthenticationMode} {context : AuthenticationContext}
    {header : FixedBytes 14} {aad : Bytes} :
    mode.aeadAad T context header = .ok aad ↔
      ∃ d c, aadFields mode context.kind = .ok (d, c) ∧ mode ≠ .contextBound [] ∧
        AadRepresentable T d c ∧ aad = aadBytes header.1 d c := by
  have hh := header.2
  have hlabel : aeadAadLabel.length = 34 := rfl
  unfold aeadAad
  simp only [bind_eq_ok_iff, validate_ok_iff, pushField_ok_iff, okOr_ok_iff, Prod.exists,
    Option.bind_eq_some_iff, checkedAdd_eq_some_iff]
  constructor
  · rintro ⟨-, hv, d, c, hm, -, ⟨-, ⟨-, ⟨-, ⟨-, rfl⟩, -, rfl⟩, -, rfl⟩, hle, -⟩, -, ⟨-, rfl⟩, -,
      ⟨-, rfl⟩, -, ⟨hd, rfl⟩, hc, rfl⟩
    exact ⟨d, c, hm, hv, ⟨by omega, hd, hc⟩, by simp [aadBytes]⟩
  · rintro ⟨d, c, hm, hv, ⟨hle, hd, hc⟩, rfl⟩
    exact ⟨(), hv, d, c, hm, _, ⟨_, ⟨_, ⟨_, ⟨by omega, rfl⟩, by omega, rfl⟩, by omega, rfl⟩,
      by omega, rfl⟩, _, ⟨by omega, rfl⟩, _, ⟨by omega, rfl⟩, _, ⟨hd, rfl⟩, hc,
      by simp [aadBytes]⟩

theorem aeadAad_ok {T : Target} {mode : AuthenticationMode} {context : AuthenticationContext}
    {header : FixedBytes 14} {aad : Bytes} (h : mode.aeadAad T context header = .ok aad) :
    ∃ d c, aadFields mode context.kind = .ok (d, c) ∧ mode ≠ .contextBound [] ∧
      d.length < 2 ^ 64 ∧ c.length < 2 ^ 64 ∧ aad = aadBytes header.1 d c := by
  obtain ⟨d, c, hm, hv, hsizes, haad⟩ := aeadAad_ok_iff.mp h
  exact ⟨d, c, hm, hv, hsizes.domain_lt, hsizes.context_lt, haad⟩

/-- The kind of context that a mode requires. -/
def AuthenticationMode.Accepts : AuthenticationMode → ContextKind → Prop
  | .legacyPlaintext, .legacy => True
  | .contextBound _, .bound _ => True
  | _, _ => False

/-- The transcript and the additional data of a bound context can be formed: they
fit `usize`, and each field fits its 64-bit length. A legacy message has neither
a domain nor a context that could overflow. -/
def LengthsFit (T : Target) (mode : AuthenticationMode) (context : AuthenticationContext)
    (plaintext : Bytes) : Prop :=
  ∀ d c, mode = .contextBound d → context.kind = .bound c →
    Representable T d c plaintext ∧ AadRepresentable T d c

section Kinds

variable {T : Target} {mode : AuthenticationMode} {context : AuthenticationContext} {p : Bytes}

theorem authenticationInput_of_accepts (hm : mode ≠ .contextBound [])
    (ha : mode.Accepts context.kind) (hf : LengthsFit T mode context p) :
    ∃ input, mode.authenticationInput T context p = .ok input := by
  simp only [authenticationInput_ok_iff]
  cases hk : context.kind with
  | legacy =>
    cases mode with
    | legacyPlaintext => exact ⟨p, .inl ⟨rfl, rfl, rfl⟩⟩
    | contextBound d => rw [hk] at ha; exact ha.elim
  | bound c =>
    cases mode with
    | legacyPlaintext => rw [hk] at ha; exact ha.elim
    | contextBound d =>
      have hd : d ≠ [] := by simpa using hm
      exact ⟨_, .inr ⟨d, c, rfl, rfl, hd, (hf d c rfl hk).1, rfl⟩⟩

theorem aeadAad_of_accepts (hm : mode ≠ .contextBound []) (ha : mode.Accepts context.kind)
    (hf : LengthsFit T mode context p) (header : FixedBytes 14) :
    ∃ aad, mode.aeadAad T context header = .ok aad := by
  simp only [aeadAad_ok_iff]
  cases hk : context.kind with
  | legacy =>
    cases mode with
    | legacyPlaintext =>
      have hM := T.le_usizeMax
      have hlabel : aeadAadLabel.length = 34 := rfl
      have hsizes : AadRepresentable T [] [] :=
        ⟨by simp only [hlabel, List.length_nil]; omega, by simp, by simp⟩
      exact ⟨_, [], [], rfl, hm, hsizes, rfl⟩
    | contextBound d => rw [hk] at ha; exact ha.elim
  | bound c =>
    cases mode with
    | legacyPlaintext => rw [hk] at ha; exact ha.elim
    | contextBound d => exact ⟨_, d, c, rfl, hm, (hf d c rfl hk).2, rfl⟩

theorem authenticationInput_of_not_accepts (hm : mode ≠ .contextBound [])
    (ha : ¬ mode.Accepts context.kind) :
    mode.authenticationInput T context p = .error .authenticationContext := by
  have hvalid : mode.validate = .ok () := validate_ok_iff.mpr hm
  unfold authenticationInput
  rw [hvalid, ok_bind]
  cases hk : context.kind with
  | legacy =>
    cases mode with
    | legacyPlaintext => rw [hk] at ha; exact absurd trivial ha
    | contextBound d => rfl
  | bound c =>
    cases mode with
    | legacyPlaintext => rfl
    | contextBound d => rw [hk] at ha; exact absurd trivial ha

end Kinds

/-- The two empty fields of legacy mode cannot be mistaken for a domain and a
context, since neither of those is ever empty. -/
theorem aadFields_inj {mode mode' : AuthenticationMode} {context context' : AuthenticationContext}
    {d c : Bytes} (hm : mode ≠ .contextBound []) (hm' : mode' ≠ .contextBound [])
    (h : aadFields mode context.kind = .ok (d, c))
    (h' : aadFields mode' context'.kind = .ok (d, c)) : mode = mode' ∧ context = context' := by
  rw [AuthenticationContext.ext_iff]
  cases mode <;> cases mode' <;> cases hk : context.kind <;> cases hk' : context'.kind <;>
    simp_all [aadFields]

theorem label_header_lt (header : FixedBytes 14) {d c : Bytes} (hd : d.length < 2 ^ 64)
    (hc : c.length < 2 ^ 64) : ∀ v ∈ [aeadAadLabel, header.1, d, c], v.length < 256 ^ 8 := by
  have hp : (256 : Nat) ^ 8 = 2 ^ 64 := by norm_num
  have hh := header.2
  simp only [List.mem_cons, List.not_mem_nil, or_false, forall_eq_or_imp, forall_eq, hp]
  exact ⟨by simp [aeadAadLabel], by omega, hd, hc⟩

theorem aadBytes_inj {header header' : FixedBytes 14} {d d' c c' : Bytes}
    (hd : d.length < 2 ^ 64) (hc : c.length < 2 ^ 64) (hd' : d'.length < 2 ^ 64)
    (hc' : c'.length < 2 ^ 64) (h : aadBytes header.1 d c = aadBytes header'.1 d' c') :
    header = header' ∧ d = d' ∧ c = c' := by
  have hf := fields_inj (by rfl) (label_header_lt header hd hc) (label_header_lt header' hd' hc') h
  simp only [List.cons.injEq, and_true, true_and] at hf
  exact ⟨Subtype.ext hf.1, hf.2⟩

theorem Representable.transcript_inj {T T' : Target} {d d' c c' p p' : Bytes}
    (hr : Representable T d c p) (hr' : Representable T' d' c' p')
    (h : transcript d c p = transcript d' c' p') : d = d' ∧ c = c' ∧ p = p' := by
  have h256 : (256 : Nat) ^ 8 = 2 ^ 64 := by norm_num
  have hf : [d, c, p] = [d', c', p'] := by
    apply fields_inj (by rfl) ?_ ?_ (List.tail_eq_of_cons_eq h)
    · simp only [List.mem_cons, List.not_mem_nil, or_false, forall_eq_or_imp, forall_eq, h256]
      exact ⟨hr.domain_lt, hr.context_lt, hr.plaintext_lt⟩
    · simp only [List.mem_cons, List.not_mem_nil, or_false, forall_eq_or_imp, forall_eq, h256]
      exact ⟨hr'.domain_lt, hr'.context_lt, hr'.plaintext_lt⟩
  simpa using hf

/-- Additional data starts with the high byte of a small length, a transcript
with the version byte. -/
theorem aadBytes_ne_transcript (header d c d' c' p : Bytes) :
    aadBytes header d c ≠ transcript d' c' p := by
  intro h
  have hh := congrArg List.head? h
  simp [aadBytes, transcript, transcriptVersion, field, aeadAadLabel, beBytes] at hh

theorem authenticationInput_contextBound {T : Target} {d p input : Bytes}
    {context : AuthenticationContext}
    (h : (contextBound d).authenticationInput T context p = .ok input) :
    ∃ c, context.kind = .bound c ∧ Representable T d c p ∧ transcript d c p = input := by
  obtain ⟨h, -⟩ | ⟨d', c, hd, hc, -, hr, ht⟩ := authenticationInput_ok_iff.mp h
  · simp at h
  · obtain rfl : d = d' := by simpa using hd
    exact ⟨c, hc, hr, ht⟩

theorem contextBound_input_inj {T T' : Target} {d d' p p' input : Bytes}
    {context context' : AuthenticationContext}
    (h : (contextBound d).authenticationInput T context p = .ok input)
    (h' : (contextBound d').authenticationInput T' context' p' = .ok input) :
    d = d' ∧ context = context' ∧ p = p' := by
  obtain ⟨c, hk, hr, ht⟩ := authenticationInput_contextBound h
  obtain ⟨c', hk', hr', ht'⟩ := authenticationInput_contextBound h'
  obtain ⟨hd, rfl, hp⟩ := hr.transcript_inj hr' (ht.trans ht'.symm)
  exact ⟨hd, AuthenticationContext.ext (hk.trans hk'.symm), hp⟩

theorem authenticationInput_inj {T T' : Target} {mode : AuthenticationMode} {p p' input : Bytes}
    {context context' : AuthenticationContext}
    (h : mode.authenticationInput T context p = .ok input)
    (h' : mode.authenticationInput T' context' p' = .ok input) :
    context = context' ∧ p = p' := by
  cases mode with
  | legacyPlaintext =>
    obtain ⟨-, hk, rfl⟩ | ⟨_, _, hd, -⟩ := authenticationInput_ok_iff.mp h
    · obtain ⟨-, hk', rfl⟩ | ⟨_, _, hd, -⟩ := authenticationInput_ok_iff.mp h'
      · exact ⟨AuthenticationContext.ext (hk.trans hk'.symm), rfl⟩
      · cases hd
    · cases hd
  | contextBound d => exact (contextBound_input_inj h h').2

/-- Signer and verifier may run on different targets. A transcript determines its
domain, context and plaintext, additional data determines its mode, context and
frame header, and the two kinds of byte strings never meet. -/
theorem signed_bytes_unambiguous (T T' : Target) :
    (∀ (d c p : Bytes) (context : AuthenticationContext), d ≠ [] → context.kind = .bound c →
      Representable T d c p →
      (contextBound d).authenticationInput T context p = .ok (transcript d c p)) ∧
    (∀ (d d' p p' input : Bytes) (context context' : AuthenticationContext),
      (contextBound d).authenticationInput T context p = .ok input →
      (contextBound d').authenticationInput T' context' p' = .ok input →
      d = d' ∧ context = context' ∧ p = p') ∧
    (∀ (mode mode' : AuthenticationMode) (context context' : AuthenticationContext)
      (header header' : FixedBytes 14) (aad : Bytes),
      mode.aeadAad T context header = .ok aad → mode'.aeadAad T' context' header' = .ok aad →
      mode = mode' ∧ context = context' ∧ header = header') ∧
    (∀ (mode : AuthenticationMode) (context context' : AuthenticationContext)
      (header : FixedBytes 14) (d p aad : Bytes), mode.aeadAad T context header = .ok aad →
      (contextBound d).authenticationInput T' context' p ≠ .ok aad) := by
  refine ⟨?_, ?_, ?_, ?_⟩
  · intro d c p context hd hk hr
    exact authenticationInput_ok_iff.mpr (.inr ⟨d, c, rfl, hk, hd, hr, rfl⟩)
  · intro d d' p p' input context context' h h'
    exact contextBound_input_inj h h'
  · intro mode mode' context context' header header' aad h h'
    obtain ⟨d, c, hf, hm, hd, hc, ha⟩ := aeadAad_ok h
    obtain ⟨d', c', hf', hm', hd', hc', ha'⟩ := aeadAad_ok h'
    obtain ⟨hh, rfl, rfl⟩ := aadBytes_inj hd hc hd' hc' (ha.symm.trans ha')
    obtain ⟨hmode, hcontext⟩ := aadFields_inj hm hm' hf hf'
    exact ⟨hmode, hcontext, hh⟩
  · intro mode context context' header d p aad h h'
    obtain ⟨d', c', -, -, -, -, ha⟩ := aeadAad_ok h
    obtain ⟨c, -, -, ht⟩ := authenticationInput_contextBound h'
    exact aadBytes_ne_transcript header.1 d' c' d c p (ha.symm.trans ht.symm)

theorem shifted_boundary_changes_input :
    ∃ t t' : Bytes,
      (contextBound [1]).authenticationInput ⟨64, by decide⟩ ⟨.bound [2, 3], by decide⟩ [4] =
        .ok t ∧
      (contextBound [1, 2]).authenticationInput ⟨64, by decide⟩ ⟨.bound [3], by decide⟩ [4] =
        .ok t' ∧ t ≠ t' := by
  obtain ⟨hsome, hinj, -⟩ := signed_bytes_unambiguous ⟨64, by decide⟩ ⟨64, by decide⟩
  have h := hsome [1] [2, 3] [4] ⟨.bound [2, 3], by decide⟩ (by decide) rfl
    ⟨by decide, by decide, by decide, by decide⟩
  have h' := hsome [1, 2] [3] [4] ⟨.bound [3], by decide⟩ (by decide) rfl
    ⟨by decide, by decide, by decide, by decide⟩
  refine ⟨_, _, h, h', fun he => ?_⟩
  have hd := (hinj _ _ _ _ _ _ _ h (h'.trans (by rw [he]))).1
  exact absurd hd (by decide)

end EnvelopeLite.Auth
