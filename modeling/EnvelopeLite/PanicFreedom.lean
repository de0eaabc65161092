import EnvelopeLite.EnvelopeCrypto.OpenPath

namespace EnvelopeLite.PanicFreedom

open EnvelopeLite.CallTrace EnvelopeLite.Common EnvelopeLite.Config EnvelopeLite.EnvelopeCrypto
open EnvelopeLite.EnvelopeCrypto.Frame EnvelopeLite.Primitives

theorem no_panic_is_reachable_from_envelopes (P : Platform) :
    (∀ config keys envelope context,
      (Cbc.openEnvelope P config keys envelope context).outcome ≠ .panic ∧
      ∀ algorithm, config.envelopeMode = .aead algorithm →
        (Aead.openEnvelope P config keys envelope context algorithm).outcome ≠ .panic) ∧
    (∀ keys wrapped, (unwrapSessionKey P keys wrapped).outcome ≠ .panic) ∧
    (∀ algorithm key nonce aad plaintext,
      (Aead.aeadEncrypt P algorithm key nonce aad plaintext).outcome ≠ .panic) ∧
    (∀ algorithm key nonce aad ciphertext tag, ciphertext.length ≤ P.isizeMax →
      (Aead.aeadDecrypt P algorithm key nonce aad ciphertext tag).outcome ≠ .panic) ∧
    ∀ joined, (Aead.splitCiphertextAndTag P joined).outcome ≠ .panic ∧
      ((Aead.splitCiphertextAndTag P joined).outcome = .ok none → joined.length < tagBytes) := by
  -- Errors are not restricted: a panic is the only ending to be excluded.
  have hany {α : Type} {x : Run P α} (h : Ends x (fun _ => True) (fun _ => True)) :
      x.outcome ≠ .panic := h.ne_panic
  refine ⟨fun config keys envelope context => ⟨hany ?_, fun algorithm hmode => hany ?_⟩,
    fun keys wrapped => hany ?_, fun algorithm key nonce aad plaintext => hany ?_,
    fun algorithm key nonce aad ciphertext tag halloc => hany ?_, fun joined => ⟨hany ?_, ?_⟩⟩
  · exact Cbc.ends_openEnvelope _ rfl (fun _ _ => trivial) (fun _ => trivial) (fun _ => trivial)
  · exact Aead.ends_openEnvelope _ hmode rfl (fun _ _ => trivial) (fun _ => trivial)
      (fun _ => trivial)
  · exact ends_unwrapSessionKey (fun _ => trivial) trivial
  · exact Aead.ends_aeadEncrypt (fun _ _ => trivial) (fun _ => trivial)
  · exact Aead.ends_aeadDecrypt (fun _ => P.add_le_usizeMax halloc (by decide)) (fun _ => trivial)
      trivial
  · rw [Aead.splitCiphertextAndTag_eq, ends_pure]
    trivial
  · rw [Aead.splitCiphertextAndTag_eq, pure_ok_iff]
    exact Aead.detachTag_eq_none_iff.mp

end EnvelopeLite.PanicFreedom
