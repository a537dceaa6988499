import DeviceUplink.Channel.Handshake
import DeviceUplink.Proofs.Crypto.Sealing
import DeviceUplink.Proofs.Frame.RoundTrip

/-!
# The session that a CONNECT opens

Whatever is drawn for a session, the server that it is for reads its CONNECT from the wire as it was
sent, and finds the session key and the first request in it. From then on the two sides open what
they seal for each other.
-/

namespace DeviceUplink

structure Fresh.IsSized (fresh : Fresh) : Prop where
  sessionKey : fresh.sessionKey.length = sessionKeySize
  wrapNonce : fresh.wrapNonce.length = nonceSize
  payloadNonce : fresh.payloadNonce.length = nonceSize

namespace CryptoSession

def towards (secret seed key : Bytes) : CryptoSession :=
  { key, destination := X25519.publicKey secret, seed }

theorem new_towards (secret seed key : Bytes) :
    new Suite.standard (X25519.publicKey secret) seed (Ed25519.publicKey seed) key =
      .ok (towards secret seed key) := by
  have hSize : (X25519.publicKey secret).length = agreementKeySize :=
    X25519.length_agree secret X25519.basePoint
  rw [new, if_neg (not_not_intro hSize)]
  exact if_neg (not_not_intro rfl)

end CryptoSession

theorem Assembler.feedAll_of_encode {f : Frame} {bytes : Bytes} (hBytes : f.encode = .ok bytes)
    (hFlags : f.hasKnownFlags = true) {limit : Nat}
    (hLimit : f.body.length ≤ min limit RemainingLength.maxValue) {pieces : List Bytes}
    (hPieces : pieces.flatten = bytes) :
    (Assembler.ofLimit limit).feedAll pieces = (.ok [f], Assembler.ofLimit limit) := by
  have hEncodings : [f].mapM Frame.encode = .ok [bytes] := by
    rw [List.mapM_cons, hBytes]
    rfl
  have hReads : Frame.Reads (ofLimit limit).limit [bytes].flatten [f] none [] :=
    Frame.reads_encodings hEncodings (by simpa using ⟨hFlags, hLimit⟩)
  have hFlatten : [bytes].flatten = pieces.flatten := by simp [hPieces]
  rw [hFlatten] at hReads
  exact (yields_of_reads rfl hReads).ok rfl

namespace Connect

section Size

variable {session : CryptoSession} {fresh : Fresh} (hKey : session.key.length = sessionKeySize)
  (hWrap : fresh.wrapNonce.length = nonceSize) (hPayload : fresh.payloadNonce.length = nonceSize)
  (keepAlive : UInt16)

include hKey hWrap hPayload

theorem sizes_ofSession (request : Bytes) :
    let connect := ofSession Suite.standard session keepAlive fresh request
    connect.sessionKey.length = 92 ∧ connect.signature.length = 64 ∧
      connect.payload.length = request.length + 28 := by
  refine ⟨?_, Ed25519.length_sign _ _, ?_⟩
  · exact Suite.isLawful_standard.length_wrapKey hWrap hKey fresh.ephemeral
  · rw [ofSession, CryptoSession.encrypt, Suite.isLawful_standard.length_sealWith, hPayload,
      nonceSize, Sealing.tagSize]
    omega

theorem length_body_ofSession (request : Bytes) :
    (Frame.connect (ofSession Suite.standard session keepAlive fresh request)).body.length =
      request.length + 195 := by
  obtain ⟨hWrapped, hSignature, hSealed⟩ := sizes_ofSession hKey hWrap hPayload keepAlive request
  rw [Frame.length_body, Frame.bodyLength, hWrapped, hSignature, hSealed]
  omega

theorem isEncodable_ofSession {request : Bytes} (hRequest : request.length + 195 ≤ 268435455) :
    (Frame.connect (ofSession Suite.standard session keepAlive fresh request)).IsEncodable where
  size := by rwa [length_body_ofSession hKey hWrap hPayload]
  fields := by
    obtain ⟨hWrapped, hSignature, _⟩ := sizes_ofSession hKey hWrap hPayload keepAlive request
    intro c hConnect
    cases hConnect
    rw [hWrapped, hSignature]
    decide

end Size

/-- A device with its own keys opens a session with the owner of a secret. The server reads the
CONNECT as it was sent from any pieces of its octets, takes over the session key, and finds what the
multiplexer has compiled for all that the channel carries. What either side then seals the other
opens. Of the curves no more is used than that the two sides agree and that the signature of the
wrapped key verifies. -/
theorem handshake_hands_over_session {seed secret request : Bytes} {fresh : Fresh}
    {supported : DirectionMap} {multiplexer : DirectionMap → Compiled} {limit : Nat}
    (keepAlive : UInt16)
    (hFresh : fresh.IsSized) (hCompiled : multiplexer supported = .ok request)
    (hSize : request.length + 195 ≤ min limit 268435455)
    (hAgrees : Suite.standard.Agrees fresh.ephemeral secret)
    (hVouches : Suite.standard.Vouches seed
      ((CryptoSession.towards secret seed fresh.sessionKey).wrapKey Suite.standard fresh.ephemeral
        fresh.wrapNonce)) :
    let session := CryptoSession.towards secret seed fresh.sessionKey
    let peer : PeerSession := { key := fresh.sessionKey }
    CryptoSession.new Suite.standard (X25519.publicKey secret) seed (Ed25519.publicKey seed)
        fresh.sessionKey = .ok session ∧
      ∃ connect bytes,
        ofCompiled Suite.standard session keepAlive fresh (multiplexer supported) = .ok connect ∧
        connect.keepAlive = keepAlive ∧ connect.protocolId = platformProtocolId ∧
        (Frame.connect connect).encode = .ok bytes ∧
        (∀ pieces : List Bytes, pieces.flatten = bytes →
          (Assembler.ofLimit limit).feedAll pieces =
            (.ok [.connect connect], Assembler.ofLimit limit)) ∧
        PeerSession.accept Suite.standard secret connect.sessionKey connect.signature
            (Ed25519.publicKey seed) = .ok peer ∧
        peer.decrypt Suite.standard connect.payload = .ok request ∧
        ∀ nonce plain : Bytes, nonce.length = nonceSize →
          peer.decrypt Suite.standard (session.encrypt Suite.standard nonce plain) = .ok plain ∧
          session.decrypt Suite.standard (peer.encrypt Suite.standard nonce plain) = .ok plain := by
  intro session peer
  have hLawful := Suite.isLawful_standard
  obtain ⟨hLimit, hLargest⟩ := Nat.le_min.mp hSize
  have hKey : session.key.length = sessionKeySize := hFresh.sessionKey
  obtain ⟨_, hWrap, hPayload⟩ := hFresh
  have hLength := length_body_ofSession hKey hWrap hPayload keepAlive request
  have hEncodable := isEncodable_ofSession hKey hWrap hPayload keepAlive hLargest
  -- From here on only the lengths of the frame matter, and not what its fields are made of.
  generalize hConnect : ofSession Suite.standard session keepAlive fresh request = connect
    at hLength hEncodable
  have hBytes := Frame.encode_of_isEncodable hEncodable
  refine ⟨CryptoSession.new_towards secret seed fresh.sessionKey, connect, _, ?_, ?_, ?_, hBytes,
    ?_, ?_, ?_, ?_⟩
  · rw [hCompiled, ofCompiled, hConnect]
  · rw [← hConnect]
    rfl
  · rw [← hConnect]
    rfl
  · intro pieces hPieces
    exact Assembler.feedAll_of_encode hBytes rfl (by rwa [hLength]) hPieces
  · rw [← hConnect]
    exact hLawful.accept_wrapKey hWrap hKey rfl hAgrees hVouches
  · rw [← hConnect]
    exact hLawful.openWith_sealWith hPayload fresh.sessionKey request
  · intro nonce plain hNonce
    have hOpened := hLawful.openWith_sealWith hNonce fresh.sessionKey plain
    exact ⟨hOpened, hOpened⟩

/-- The session of an operations channel whose keys are all repetitions of one octet. -/
theorem operations_session_handed_over :
    let seed : Bytes := List.replicate 32 9
    let secret : Bytes := List.replicate 32 1
    let fresh : Fresh :=
      { sessionKey := List.replicate 32 3
        ephemeral := List.replicate 32 2
        wrapNonce := List.replicate 12 4
        payloadNonce := List.replicate 12 5 }
    let multiplexer : DirectionMap → Compiled := fun directions =>
      .ok [directions.toList.length.toUInt8]
    let session := CryptoSession.towards secret seed fresh.sessionKey
    let wrapped := session.wrapKey Suite.standard fresh.ephemeral fresh.wrapNonce
    fresh.IsSized ∧ Suite.standard.Agrees fresh.ephemeral secret ∧
      Suite.standard.Vouches seed wrapped ∧
      ∃ (connect : Connect) (bytes : Bytes),
        ofCompiled Suite.standard session 200 fresh (multiplexer .operations) = .ok connect ∧
        (Assembler.ofLimit Assembler.defaultLimit).feedAll [bytes.take 100, [], bytes.drop 100] =
          (.ok [.connect connect], Assembler.ofLimit Assembler.defaultLimit) ∧
        PeerSession.accept Suite.standard secret connect.sessionKey connect.signature
            (Ed25519.publicKey seed) = .ok { key := fresh.sessionKey } ∧
        ({ key := fresh.sessionKey } : PeerSession).decrypt Suite.standard connect.payload =
          .ok [6] := by
  intro seed secret fresh multiplexer session wrapped
  have hFresh : fresh.IsSized := ⟨rfl, rfl, rfl⟩
  have hAgrees : Suite.standard.Agrees fresh.ephemeral secret := by
    unfold Suite.Agrees
    decide +kernel
  have hVouches : Suite.standard.Vouches seed wrapped := by
    unfold Suite.Vouches
    decide +kernel
  have hCompiled : multiplexer .operations = .ok [6] := rfl
  have hSize : [(6 : UInt8)].length + 195 ≤ min Assembler.defaultLimit 268435455 := by decide
  obtain ⟨_, connect, bytes, hConnect, _, _, _, hPieces, hAccept, hOpened, _⟩ :=
    handshake_hands_over_session 200 hFresh hCompiled hSize hAgrees hVouches
  refine ⟨hFresh, hAgrees, hVouches, connect, bytes, hConnect, hPieces _ ?_, hAccept, hOpened⟩
  simp

end Connect

end DeviceUplink
