/-!
# Reachability

What a probe of a well-known address says of the network: the network counts as reachable until the
first attempt has failed, and after that as the latest attempt ended.
-/

namespace DeviceUplink

structure Reachability where
  isReachable : Bool := true
deriving DecidableEq, Repr

namespace Reachability

def record (_ : Reachability) (succeeded : Bool) : Reachability :=
  { isReachable := succeeded }

/-- After all these attempts, the earliest first. -/
def after (attempts : List Bool) : Reachability :=
  attempts.foldl record {}

end Reachability

end DeviceUplink
