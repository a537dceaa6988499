import DeviceUplink.Channel.Error
import DeviceUplink.Crypto.Session
import DeviceUplink.Transport

/-!
# The handshake

The CONNECT frame that opens a session: the session key, wrapped for the server and signed by the
device, and the first request for everything the channel carries, already sealed.
-/

namespace DeviceUplink

/-- What is drawn at random for one session. -/
structure Fresh where
  sessionKey : Bytes
  /-- The agreement secret under which the session key is wrapped. -/
  ephemeral : Bytes
  wrapNonce : Bytes
  payloadNonce : Bytes

/-- The answer of a multiplexer: a request, or the causes of its failure. -/
abbrev Compiled := Except (List String) Bytes

namespace Connect

def ofSession (suite : Suite) (session : CryptoSession) (keepAlive : UInt16) (fresh : Fresh)
    (request : Bytes) : Connect :=
  let wrapped := session.wrapKey suite fresh.ephemeral fresh.wrapNonce
  { keepAlive
    protocolId := platformProtocolId
    sessionKey := wrapped
    signature := session.sign suite wrapped
    payload := session.encrypt suite fresh.payloadNonce request }

/-- The frame for a session whose first request compiled to this. -/
def ofCompiled (suite : Suite) (session : CryptoSession) (keepAlive : UInt16) (fresh : Fresh)
    (compiled : Compiled) : Except ChannelError Connect :=
  match compiled with
  | .error causes => .error (.multiplexer causes)
  | .ok request => .ok (ofSession suite session keepAlive fresh request)

end Connect

end DeviceUplink
