import DeviceUplink.Crypto.Error
import DeviceUplink.Frame.Basic

/-!
# Channel errors

Why a connection cannot be opened or used.
-/

namespace DeviceUplink

/-- What has to be bound to a channel before it can open a session. -/
inductive Binding
  | server
  | multiplexer
  | cryptoSession
deriving DecidableEq, Repr

namespace Binding

def name : Binding → String
  | server => "server"
  | multiplexer => "multiplexer"
  | cryptoSession => "crypto session"

end Binding

inductive ChannelError
  | socket (reason : String)
  | frame (error : FrameError)
  | crypto (error : CryptoError)
  /-- No request was compiled; the causes, the outermost first. -/
  | multiplexer (causes : List String)
  | endOfStream
  | connectTimeout (address : String)
  | notBound (missing : Binding)
  | notConnected
deriving DecidableEq

namespace ChannelError

def message : ChannelError → String
  | socket reason => "io error: " ++ reason
  | frame error => "wire error: " ++ error.message
  | crypto error => "crypto error: " ++ error.message
  | multiplexer causes => "multiplexer error: " ++ ": ".intercalate causes
  | endOfStream => "end of stream"
  | connectTimeout address => "connect to " ++ address ++ " timed out"
  | notBound missing => missing.name ++ " is not set"
  | notConnected => "channel is not connected"

end ChannelError

end DeviceUplink
