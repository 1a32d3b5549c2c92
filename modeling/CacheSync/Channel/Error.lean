/-!
# Channel errors

Only a lost connection is worth another try; the other errors are final.
-/

namespace CacheSync

inductive ChannelError where
  | connectivity (reason : String)
  | notActive
  | closed
  | rejected (reason : String)
  deriving DecidableEq

namespace ChannelError

/-- The name of an error without its circumstances. -/
def kind : ChannelError → String
  | .connectivity _ => "Connectivity"
  | .notActive => "NotActive"
  | .closed => "Closed"
  | .rejected _ => "Rejected"

def message : ChannelError → String
  | .connectivity reason => "channel connectivity lost: " ++ reason
  | .notActive => "channel is not active"
  | .closed => "channel is closed"
  | .rejected reason => "channel rejected the message: " ++ reason

def isConnectivity : ChannelError → Bool
  | .connectivity _ => true
  | _ => false

def unreachable : ChannelError :=
  .connectivity "loopback hub unreachable"

end ChannelError
end CacheSync
