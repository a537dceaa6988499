import DeviceUplink.Proofs.Crypto.Sealing

/-!
# Nothing else is opened

What opens under a key is exactly what can be sealed under it, octet for octet, so that every other
text is refused. A server therefore takes over a session key only from a text that wraps this very
key for it, and only after the device has signed the whole of that text.
-/

namespace DeviceUplink

namespace Sealing

theorem eq_encrypt_of_decrypt {key nonce text plain : Bytes}
    (h : decrypt key nonce text = some plain) : text = encrypt key nonce plain := by
  simp only [decrypt] at h
  split at h
  · cases h
  · split at h
    · next hTag =>
      obtain rfl := Option.some.inj h
      rw [encrypt, ChaCha20.apply_apply, ← hTag, List.take_append_drop]
    · cases h

end Sealing

theorem Ed25519.length_of_verify {key message signature : Bytes}
    (h : verify key message signature = true) : signature.length = 64 := by
  simp only [verify] at h
  split at h
  · cases h
  · split at h
    · next hShape => exact hShape.1
    · cases h

namespace Suite

/-- The text is a nonce and what the plain text is encrypted to with it. -/
def Seals (suite : Suite) (key plain text : Bytes) : Prop :=
  ∃ nonce : Bytes, nonce.length = nonceSize ∧ text = nonce ++ suite.encrypt key nonce plain

/-- The text is an ephemeral key, a nonce and the session key, which is encrypted under the digest
of the label, what the secret and the ephemeral key agree on, and both public keys. -/
def Wraps (suite : Suite) (secret sessionKey text : Bytes) : Prop :=
  sessionKey.length = sessionKeySize ∧ ∃ ephemeral nonce : Bytes,
    ephemeral.length = agreementKeySize ∧ nonce.length = nonceSize ∧
      text = ephemeral ++ nonce ++ suite.encrypt
        (suite.digest (wrapLabel ++ suite.agree secret ephemeral ++ ephemeral
          ++ suite.agreementKey secret)) nonce sessionKey

def wrappingKeyOf (suite : Suite) (secret wrapped : Bytes) : Bytes :=
  suite.wrappingKey (suite.agree secret (wrapped.take agreementKeySize))
    (wrapped.take agreementKeySize) (suite.agreementKey secret)

/-- Nothing decrypts but what was encrypted, and nothing verifies but whole signatures. -/
structure IsExact (suite : Suite) : Prop extends suite.IsLawful where
  eq_encrypt_of_decrypt : ∀ {key nonce text plain},
    suite.decrypt key nonce text = some plain → text = suite.encrypt key nonce plain
  length_of_verify : ∀ {key message signature},
    suite.verify key message signature = true → signature.length = 64

theorem isExact_standard : standard.IsExact where
  toIsLawful := isLawful_standard
  eq_encrypt_of_decrypt := Sealing.eq_encrypt_of_decrypt
  length_of_verify := Ed25519.length_of_verify

theorem openWith_cases (suite : Suite) (key text : Bytes) :
    (∃ plain, suite.openWith key text = .ok plain) ∨
      suite.openWith key text = .error .decrypt := by
  unfold openWith
  split
  · exact .inr rfl
  · split
    · exact .inl ⟨_, rfl⟩
    · exact .inr rfl

theorem accept_of_not_verify (suite : Suite) {secret wrapped signature deviceKey : Bytes}
    (hVerify : suite.verify deviceKey wrapped signature = false) :
    PeerSession.accept suite secret wrapped signature deviceKey =
      .error (if suite.isSignatureKey deviceKey = true then .signature
        else .invalidKey .device) := by
  rw [PeerSession.accept, hVerify]
  split
  · rfl
  · rfl

namespace IsExact

variable {suite : Suite} (h : suite.IsExact) {key plain text : Bytes}

include h

theorem seals_of_openWith (hOpened : suite.openWith key text = .ok plain) :
    text = suite.sealWith key (text.take nonceSize) plain ∧
      (text.take nonceSize).length = nonceSize := by
  unfold openWith at hOpened
  split at hOpened
  · cases hOpened
  · next hLong =>
    have hNonce : (text.take nonceSize).length = nonceSize := by
      rw [List.length_take]
      omega
    split at hOpened
    · next hDecrypt =>
      obtain rfl := Except.ok.inj hOpened
      refine ⟨?_, hNonce⟩
      rw [sealWith, ← h.eq_encrypt_of_decrypt hDecrypt, List.take_append_drop]
    · cases hOpened

theorem openWith_eq_ok_iff : suite.openWith key text = .ok plain ↔ suite.Seals key plain text := by
  constructor
  · intro hOpened
    obtain ⟨hText, hNonce⟩ := h.seals_of_openWith hOpened
    exact ⟨_, hNonce, hText⟩
  · rintro ⟨nonce, hNonce, rfl⟩
    exact h.openWith_sealWith hNonce key plain

theorem openWith_eq_error_iff {error : CryptoError} :
    suite.openWith key text = .error error ↔
      error = .decrypt ∧ ∀ plain, ¬ suite.Seals key plain text := by
  constructor
  · intro hRefused
    refine ⟨?_, fun plain hSeals => ?_⟩
    · rcases suite.openWith_cases key text with ⟨plain, hOpened⟩ | hDecrypt
      · rw [hOpened] at hRefused
        cases hRefused
      · rw [hDecrypt] at hRefused
        exact (Except.error.inj hRefused).symm
    · rw [h.openWith_eq_ok_iff.mpr hSeals] at hRefused
      cases hRefused
  · rintro ⟨rfl, hNothing⟩
    rcases suite.openWith_cases key text with ⟨plain, hOpened⟩ | hDecrypt
    · exact absurd (h.openWith_eq_ok_iff.mp hOpened) (hNothing plain)
    · exact hDecrypt

theorem length_of_seals (hSeals : suite.Seals key plain text) :
    text.length = nonceSize + plain.length + Sealing.tagSize := by
  obtain ⟨nonce, hNonce, rfl⟩ := hSeals
  rw [List.length_append, h.length_encrypt, hNonce, Nat.add_assoc]

variable {secret sessionKey wrapped signature deviceKey : Bytes}

/-- The wrapping key comes from the front of the text, so a text wraps a key in one way only. -/
theorem wraps_iff :
    suite.Wraps secret sessionKey wrapped ↔
      wrapped.length = wrappedKeySize ∧
        suite.Seals (suite.wrappingKeyOf secret wrapped) sessionKey
          (wrapped.drop agreementKeySize) := by
  constructor
  · rintro ⟨hKey, ephemeral, nonce, hEphemeral, hNonce, rfl⟩
    constructor
    · simp only [List.length_append, h.length_encrypt, hEphemeral, hNonce, hKey]
      rfl
    · rw [List.append_assoc, wrappingKeyOf, List.take_left' hEphemeral,
        List.drop_left' hEphemeral]
      exact ⟨nonce, hNonce, rfl⟩
  · rintro ⟨hSize, hSeals⟩
    have hRest := h.length_of_seals hSeals
    rw [List.length_drop, hSize, wrappedKeySize] at hRest
    obtain ⟨nonce, hNonce, hText⟩ := hSeals
    refine ⟨by omega, wrapped.take agreementKeySize, nonce, ?_, hNonce, ?_⟩
    · rw [List.length_take, hSize]
      rfl
    · rw [wrappingKeyOf, wrappingKey] at hText
      rw [List.append_assoc, ← hText, List.take_append_drop]

theorem accept_of_verify (hVerify : suite.verify deviceKey wrapped signature = true) :
    PeerSession.accept suite secret wrapped signature deviceKey =
      if wrapped.length = wrappedKeySize then
        (suite.openWith (suite.wrappingKeyOf secret wrapped)
          (wrapped.drop agreementKeySize)).map PeerSession.mk
      else .error .decrypt := by
  rw [PeerSession.accept, if_pos (h.isSignatureKey_of_verify _ _ _ hVerify), if_pos hVerify]
  rfl

/-- What a device has signed is looked into, and nothing comes of it but the key that it wraps. -/
theorem accept_of_verify_eq_ok_iff
    (hVerify : suite.verify deviceKey wrapped signature = true) :
    PeerSession.accept suite secret wrapped signature deviceKey = .ok { key := sessionKey } ↔
      suite.Wraps secret sessionKey wrapped := by
  rw [h.accept_of_verify hVerify, h.wraps_iff, ← h.openWith_eq_ok_iff]
  split
  · next hSize =>
    cases suite.openWith (suite.wrappingKeyOf secret wrapped) (wrapped.drop agreementKeySize) <;>
      simp [Except.map, hSize]
  · next hSize => simp [hSize]

theorem accept_of_verify_eq_error_iff
    (hVerify : suite.verify deviceKey wrapped signature = true) {error : CryptoError} :
    PeerSession.accept suite secret wrapped signature deviceKey = .error error ↔
      error = .decrypt ∧ ∀ key, ¬ suite.Wraps secret key wrapped := by
  rw [h.accept_of_verify hVerify]
  simp only [h.wraps_iff]
  split
  · next hSize =>
    have hRefused : suite.openWith (suite.wrappingKeyOf secret wrapped)
          (wrapped.drop agreementKeySize) = .error error ↔
        error = .decrypt ∧ ∀ plain, ¬ suite.Seals (suite.wrappingKeyOf secret wrapped) plain
          (wrapped.drop agreementKeySize) :=
      h.openWith_eq_error_iff
    cases hOpened : suite.openWith (suite.wrappingKeyOf secret wrapped)
        (wrapped.drop agreementKeySize) with
    | ok plain =>
      rw [hOpened] at hRefused
      simpa [Except.map, hSize] using hRefused
    | error refusal =>
      rw [hOpened] at hRefused
      simpa [Except.map, hSize] using hRefused
  · next hSize => simp [hSize, eq_comm]

end IsExact

/-- Under every key, the texts that open are a nonce of twelve octets and what the plain text is
encrypted to with it, and no others; whatever else there is, short or damaged, does not decrypt. So
sealing adds 28 octets and is undone by opening, and what has opened is sealed again to the same
octets with the nonce that it brought along. -/
theorem opens_exactly_what_is_sealed (key : Bytes) :
    (∀ text plain, standard.openWith key text = .ok plain ↔
      ∃ nonce : Bytes, nonce.length = 12 ∧ text = nonce ++ Sealing.encrypt key nonce plain) ∧
    (∀ text error, standard.openWith key text = .error error ↔ error = .decrypt ∧
      ∀ plain nonce : Bytes, nonce.length = 12 → text ≠ nonce ++ Sealing.encrypt key nonce plain) ∧
    (∀ text, text.length < 28 → standard.openWith key text = .error .decrypt) ∧
    (∀ nonce plain : Bytes, nonce.length = 12 →
      (standard.sealWith key nonce plain).length = plain.length + 28 ∧
        standard.openWith key (standard.sealWith key nonce plain) = .ok plain) ∧
    ∀ text plain, standard.openWith key text = .ok plain →
      standard.sealWith key (text.take 12) plain = text := by
  have hExact := isExact_standard
  refine ⟨fun text plain => hExact.openWith_eq_ok_iff, ?_, ?_, ?_, ?_⟩
  · intro text error
    rw [hExact.openWith_eq_error_iff]
    apply and_congr_right
    rintro -
    constructor
    · rintro hNothing plain nonce hNonce rfl
      exact hNothing plain ⟨nonce, hNonce, rfl⟩
    · rintro hNothing plain ⟨nonce, hNonce, hText⟩
      exact hNothing plain nonce hNonce hText
  · intro text hShort
    exact if_pos hShort
  · intro nonce plain hNonce
    constructor
    · rw [hExact.length_sealWith, hNonce, Sealing.tagSize]
      omega
    · exact hExact.openWith_sealWith hNonce key plain
  · intro text plain hOpened
    exact (hExact.seals_of_openWith hOpened).1.symm

end Suite

/-- A server takes over a key just when the device's key is a point of the curve, the signature has
64 octets and verifies over the whole wrapped key, and the wrapped key is an ephemeral key, a nonce
and the 32 octets of the session key, encrypted under the digest of what both sides share. In all
other cases it fails, and the first of these that does not hold is what it fails with; a signed text
that wraps no key for this server does not decrypt. -/
theorem PeerSession.accepts_exactly_signed_wrappings (secret wrapped signature deviceKey : Bytes) :
    let accepted := accept Suite.standard secret wrapped signature deviceKey
    let isPoint := Ed25519.isPublicKey deviceKey = true
    let isSigned := signature.length = 64 ∧ Ed25519.verify deviceKey wrapped signature = true
    let wraps (key : Bytes) := key.length = 32 ∧ ∃ ephemeral nonce : Bytes,
      ephemeral.length = 32 ∧ nonce.length = 12 ∧
        wrapped = ephemeral ++ nonce ++ Sealing.encrypt
          (Sha2.sha256 (Suite.wrapLabel ++ X25519.agree secret ephemeral ++ ephemeral
            ++ X25519.publicKey secret)) nonce key
    (∀ key, accepted = .ok { key } ↔ isPoint ∧ isSigned ∧ wraps key) ∧
      ∀ error, accepted = .error error ↔
        error = .invalidKey .device ∧ ¬ isPoint ∨
          error = .signature ∧ isPoint ∧ ¬ isSigned ∨
          error = .decrypt ∧ isPoint ∧ isSigned ∧ ∀ key, ¬ wraps key := by
  intro accepted isPoint isSigned wraps
  have hExact := Suite.isExact_standard
  have hSigned : isSigned ↔ Ed25519.verify deviceKey wrapped signature = true :=
    ⟨And.right, fun hVerify => ⟨Ed25519.length_of_verify hVerify, hVerify⟩⟩
  rw [hSigned]
  cases hVerify : Ed25519.verify deviceKey wrapped signature with
  | true =>
    have hPoint : isPoint := Ed25519.isPublicKey_of_verify hVerify
    constructor
    · intro key
      rw [and_iff_right hPoint, and_iff_right rfl]
      exact hExact.accept_of_verify_eq_ok_iff hVerify
    · intro error
      simp only [hPoint, not_true_eq_false, and_false, true_and, false_or]
      exact hExact.accept_of_verify_eq_error_iff hVerify
  | false =>
    have hRefused : accepted =
        .error (if Ed25519.isPublicKey deviceKey = true then .signature else .invalidKey .device) :=
      Suite.standard.accept_of_not_verify hVerify
    constructor
    · intro key
      simp [hRefused]
    · intro error
      rw [hRefused, Except.error.injEq]
      by_cases hPoint : Ed25519.isPublicKey deviceKey = true
      · simp [isPoint, hPoint, eq_comm]
      · simp [isPoint, hPoint, eq_comm]

end DeviceUplink
