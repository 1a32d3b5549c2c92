/-!
# The two sides of a node

A node sends through its producer and receives through its consumer.
-/

namespace CacheSync

/-- The sending or the receiving side of a node. -/
inductive Side where
  | producer
  | consumer
  deriving DecidableEq

namespace Side

def name : Side → String
  | .producer => "producer"
  | .consumer => "consumer"

def other : Side → Side
  | .producer => .consumer
  | .consumer => .producer

end Side
end CacheSync
