import CacheSync.Node.Basic

/-!
# Demands on a node

All that may be asked of a node, or happen to it, is a `Demand`.  A stop is two of them, as its
workers take their time to end.
-/

namespace CacheSync

/-- What may be asked of a node, or happen to it. -/
inductive Demand where
  | register
  | start (member : Member) (hub : Hub Member Member)
  /-- Begin to stop. -/
  | stop
  /-- Finish the stop that has begun, now that the workers have ended, unless the channel
  crashes. -/
  | finish (member : Member) (hub : Hub Member Member)
  | create (cache : String)
  /-- Somebody puts a listener on a cache. -/
  | listen (cache : String) (audience : Audience)
  /-- Somebody takes a listener off a cache. -/
  | unlisten (cache : String) (id : Nat)
  | operate (cache : String) (guarded : Bool) (call : StoreCall) (clock : Clock)
  | receive (body : List UInt8) (clock : Clock)
  | hear (event : Event) (clock : Clock)
  /-- Work of the threads: everything may become another's but what is configured, how far the node
  has come in its life, the caches and the registrations. -/
  | tend (other : Node)

namespace Node

def onStore (node : Node) (cache : String) (change : Store → Store) : Node :=
  match node.core.shelf.store? cache with
  | none => node
  | some store =>
      { node with core := { node.core with shelf := node.core.shelf.setStore (change store) } }

/-- A node after a demand, met or refused. -/
def meet (node : Node) : Demand → Node
  | .register => node.register.1
  | .start member hub => (node.start member hub).1
  | .stop => node.beginStop.toOption.getD node
  | .finish member hub => (node.finishStop member hub).1
  | .create cache => { node with core := { node.core with shelf := node.core.shelf.create cache } }
  | .listen cache audience => node.onStore cache fun store => (store.listen audience).1
  | .unlisten cache id => node.onStore cache fun store => (store.unlisten id).1
  | .operate cache guarded call clock =>
      { node with core :=
          ((node.core.operate cache guarded call clock).map (·.core)).getD node.core }
  | .receive body clock => { node with core := (node.core.receive body clock).core }
  | .hear event clock => { node with core := node.core.overhear event clock }
  | .tend other =>
      { other with
        core := { other.core with
          config := node.core.config
          lifecycle := node.core.lifecycle
          shelf := { node.core.shelf with guards := other.core.shelf.guards } }
        registrations := node.registrations }

end Node
end CacheSync
