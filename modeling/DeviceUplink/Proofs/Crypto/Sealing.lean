import DeviceUplink.Crypto.Session

/-!
# What is sealed is opened

The key stream applied twice gives the data back, and the tag that opening computes is the one that
sealing has put there. So whoever has the key of a session opens what is sealed under it, and a
server has the key of every session that is wrapped for it and signed.
-/

namespace DeviceUplink

namespace ChaCha20

/-- The equation of the definition, which holds of empty data as well. -/
theorem apply_eq (key nonce : Bytes) (counter : UInt32) (data : Bytes) :
    apply key nonce counter data =
      List.zipWith (· ^^^ ·) (data.take 64) (block key nonce counter)
        ++ apply key nonce (counter + 1) (data.drop 64) := by
  cases data with
  | nil => simp [apply]
  | cons => rw [apply, dif_neg (List.cons_ne_nil _ _)]

theorem zipWith_xor_cancel {data stream : Bytes} (h : data.length ≤ stream.length) :
    List.zipWith (· ^^^ ·) (List.zipWith (· ^^^ ·) data stream) stream = data := by
  induction data generalizing stream with
  | nil => rfl
  | cons byte rest ih =>
    cases stream with
    | nil => cases h
    | cons mask more =>
      have hRest := ih (Nat.le_of_succ_le_succ h)
      simp only [List.zipWith_cons_cons, hRest, UInt8.xor_assoc, UInt8.xor_self, UInt8.xor_zero]

/-- Only the last block is short, so the blocks of the outcome are those of the data. -/
theorem blocks_apply (key nonce : Bytes) (counter : UInt32) (data : Bytes) :
    (apply key nonce counter data).take 64 =
        List.zipWith (· ^^^ ·) (data.take 64) (block key nonce counter) ∧
      (apply key nonce counter data).drop 64 = apply key nonce (counter + 1) (data.drop 64) := by
  have hFirst : (List.zipWith (· ^^^ ·) (data.take 64) (block key nonce counter)).length =
      min 64 data.length := by
    rw [List.length_zipWith, length_block, List.length_take]
    omega
  rw [apply_eq key nonce counter data]
  rcases Nat.le_total 64 data.length with hLong | hShort
  · rw [Nat.min_eq_left hLong] at hFirst
    exact ⟨List.take_left' hFirst, List.drop_left' hFirst⟩
  · have hNone : apply key nonce (counter + 1) (data.drop 64) = [] := by
      rw [List.drop_of_length_le hShort, apply, dif_pos rfl]
    have hAll : (List.zipWith (· ^^^ ·) (data.take 64) (block key nonce counter)).length ≤ 64 := by
      omega
    rw [hNone, List.append_nil]
    exact ⟨List.take_of_length_le hAll, List.drop_of_length_le hAll⟩

theorem apply_apply (key nonce : Bytes) (counter : UInt32) (data : Bytes) :
    apply key nonce counter (apply key nonce counter data) = data := by
  induction counter, data using apply.induct with
  | case1 => simp [apply]
  | case2 counter data _ ih =>
    obtain ⟨hFirst, hRest⟩ := blocks_apply key nonce counter data
    have hBlock : (data.take 64).length ≤ (block key nonce counter).length := by
      rw [length_block, List.length_take]
      exact Nat.min_le_left _ _
    rw [apply_eq, hFirst, hRest, ih, zipWith_xor_cancel hBlock, List.take_append_drop]

end ChaCha20

theorem Sealing.decrypt_encrypt (key nonce plain : Bytes) :
    decrypt key nonce (encrypt key nonce plain) = some plain := by
  have hSize := length_encrypt key nonce plain
  have hText : (encrypt key nonce plain).length - tagSize =
      (ChaCha20.apply key nonce 1 plain).length := by
    rw [hSize, Nat.add_sub_cancel, ChaCha20.length_apply]
  have hEnough : ¬ (encrypt key nonce plain).length < tagSize := by
    rw [hSize]
    omega
  rw [decrypt, if_neg hEnough, hText]
  simp only [encrypt, List.take_left, List.drop_left, if_true, ChaCha20.apply_apply]

namespace Suite

/-- The owners of two secrets share the same, whichever of them computes it. -/
def Agrees (suite : Suite) (first second : Bytes) : Prop :=
  suite.agree first (suite.agreementKey second) = suite.agree second (suite.agreementKey first)

/-- What a seed signs of a message, its own key verifies. -/
def Vouches (suite : Suite) (seed message : Bytes) : Prop :=
  suite.verify (suite.signatureKey seed) message (suite.sign seed message) = true

/-- The laws that do not need the theory of the curves. -/
structure IsLawful (suite : Suite) : Prop where
  length_agreementKey : ∀ secret, (suite.agreementKey secret).length = agreementKeySize
  length_encrypt : ∀ key nonce plain,
    (suite.encrypt key nonce plain).length = plain.length + Sealing.tagSize
  decrypt_encrypt : ∀ key nonce plain,
    suite.decrypt key nonce (suite.encrypt key nonce plain) = some plain
  isSignatureKey_of_verify : ∀ key message signature,
    suite.verify key message signature = true → suite.isSignatureKey key = true

end Suite

theorem Ed25519.isPublicKey_of_verify {key message signature : Bytes}
    (h : verify key message signature = true) : isPublicKey key = true := by
  unfold verify at h
  rw [isPublicKey]
  cases hPoint : Point.ofBytes? key with
  | none =>
    rw [hPoint] at h
    cases h
  | some point => rfl

namespace Suite

theorem isLawful_standard : standard.IsLawful where
  length_agreementKey secret := X25519.length_agree secret X25519.basePoint
  length_encrypt := Sealing.length_encrypt
  decrypt_encrypt := Sealing.decrypt_encrypt
  isSignatureKey_of_verify _ _ _ := Ed25519.isPublicKey_of_verify

namespace IsLawful

variable {suite : Suite} {nonce : Bytes} (h : suite.IsLawful)

include h

theorem length_sealWith (key plain : Bytes) :
    (suite.sealWith key nonce plain).length = nonce.length + plain.length + Sealing.tagSize := by
  rw [sealWith, List.length_append, h.length_encrypt, Nat.add_assoc]

theorem openWith_sealWith (hNonce : nonce.length = nonceSize) (key plain : Bytes) :
    suite.openWith key (suite.sealWith key nonce plain) = .ok plain := by
  have hEnough : ¬ (suite.sealWith key nonce plain).length < nonceSize + Sealing.tagSize := by
    rw [h.length_sealWith, hNonce]
    omega
  rw [openWith, if_neg hEnough, sealWith, List.take_left' hNonce, List.drop_left' hNonce,
    h.decrypt_encrypt]

theorem length_wrapKey (hNonce : nonce.length = nonceSize) {session : CryptoSession}
    (hKey : session.key.length = sessionKeySize) (ephemeral : Bytes) :
    (session.wrapKey suite ephemeral nonce).length = wrappedKeySize := by
  simp only [CryptoSession.wrapKey, List.length_append, h.length_agreementKey, h.length_sealWith,
    hNonce, hKey]
  rfl

/-- The owner of the destination takes over the very key that was wrapped. -/
theorem accept_wrapKey (hNonce : nonce.length = nonceSize) {session : CryptoSession}
    (hKey : session.key.length = sessionKeySize) {ephemeral secret deviceKey signature : Bytes}
    (hDestination : session.destination = suite.agreementKey secret)
    (hAgrees : suite.Agrees ephemeral secret)
    (hVerify : suite.verify deviceKey (session.wrapKey suite ephemeral nonce) signature = true) :
    PeerSession.accept suite secret (session.wrapKey suite ephemeral nonce) signature deviceKey =
      .ok { key := session.key } := by
  have hSize := h.length_wrapKey hNonce hKey ephemeral
  have hEphemeral := h.length_agreementKey ephemeral
  rw [PeerSession.accept, if_pos (h.isSignatureKey_of_verify _ _ _ hVerify), if_pos hVerify,
    if_pos hSize]
  simp only [CryptoSession.wrapKey, hDestination, List.take_left' hEphemeral,
    List.drop_left' hEphemeral]
  rw [Agrees] at hAgrees
  rw [hAgrees, h.openWith_sealWith hNonce]
  rfl

end IsLawful

end Suite

end DeviceUplink
