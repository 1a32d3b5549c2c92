import CacheSync.Channel.Basic
import CacheSync.Config.Error
import CacheSync.Recovery.Call
import CacheSync.Wire.Message

/-!
# Errors of a node

Starting and stopping a node, and sending an event, may fail.  Failures to send are counted by
the node and told to nobody but a caller of the producer itself.
-/

namespace CacheSync

/-- Why a node cannot be built, started or stopped. -/
inductive BusError where
  | alreadyStarted
  | notStarted
  | alreadyStopped
  | config (error : ConfigError)
  | channel (error : ChannelError)
  deriving DecidableEq

namespace BusError

/-- The name of an error; that of an error inside it follows behind a point. -/
def kind : BusError → String
  | .alreadyStarted => "AlreadyStarted"
  | .notStarted => "NotStarted"
  | .alreadyStopped => "AlreadyStopped"
  | .config error => "Config." ++ error.kind
  | .channel error => "Channel." ++ error.kind

def message : BusError → String
  | .alreadyStarted => "cache bus is already started"
  | .notStarted => "cache bus is not started"
  | .alreadyStopped => "cache bus is already stopped"
  | .config error => error.message
  | .channel error => "message channel failed to activate: " ++ error.message

end BusError

/-- How a call ends that starts or stops a node. -/
inductive BusOutcome where
  | done
  | failed (error : BusError)
  /-- The thread of the caller has ended in a call of the channel. -/
  | crashed
  deriving DecidableEq

/-- What a channel that fails while a node is started means to the caller. -/
def BusOutcome.ofFault : CallFault → BusOutcome
  | .error error => .failed (.channel error)
  | .crash => .crashed

/-- Why an event is not sent. -/
inductive ProduceError where
  | encode (error : Wire.CodecError)
  | channel (error : ChannelError)
  | notRecoverable (attempts : UInt32) (elapsed : Duration) (lastError : String)
  | cancelled
  | closed
  deriving DecidableEq

namespace ProduceError

/-- What a recovery that ends without success means to the sender. -/
def ofRecovery : RecoveryError → ProduceError
  | .cancelled => .cancelled
  | .notRecoverable attempts elapsed lastError => .notRecoverable attempts elapsed lastError

/-- The name of an error; that of an error inside it follows behind a point. -/
def kind : ProduceError → String
  | .encode error => "Encode." ++ error.kind
  | .channel error => "Channel." ++ error.kind
  | .notRecoverable attempts elapsed lastError =>
      RecoveryError.kind (.notRecoverable attempts elapsed lastError)
  | .cancelled => "Cancelled"
  | .closed => "Closed"

def message : ProduceError → String
  | .encode error => error.message
  | .channel error => error.message
  | .notRecoverable attempts elapsed lastError =>
      RecoveryError.message (.notRecoverable attempts elapsed lastError)
  | .cancelled => "producer was cancelled by shutdown"
  | .closed => "producer is closed"

end ProduceError
end CacheSync
