import CacheSync.Channel.Error
import CacheSync.Channel.Hub
import CacheSync.Health
import CacheSync.Table

/-!
# Channels

A channel is one member's access to a hub.  It must be activated before it sends, it may lose and
regain its connection, and once closed it stays closed.

Faults are part of the description of a channel: calls that always fail, and a script of what
happens to the sends to come.  A send may also be held at a gate until the gate is opened.
-/

namespace CacheSync

/-- The calls of a channel. -/
inductive ChannelCall where
  | activate
  | send
  | subscribe
  | resetSender
  | close
  deriving DecidableEq

namespace ChannelCall

def name : ChannelCall → String
  | .activate => "activate"
  | .send => "send"
  | .subscribe => "subscribe"
  | .resetSender => "reset_sender"
  | .close => "close"

def all : List ChannelCall :=
  [.activate, .send, .subscribe, .resetSender, .close]

def ofName? (name : String) : Option ChannelCall :=
  all.find? (·.name == name)

end ChannelCall

/-- How a call fails. -/
inductive CallFault where
  | error (error : ChannelError)
  /-- The calling thread ends. -/
  | crash
  deriving DecidableEq

namespace CallFault

/-- The fault that a word stands for; any other word is the reason of a rejection. -/
def ofText (text : String) : CallFault :=
  if text = "inactive" then .error .notActive
  else if text = "closed" then .error .closed
  else if text = "panic" then .crash
  else if text.startsWith "lost:" then
    .error (.connectivity (String.ofList (text.toList.drop "lost:".length)))
  else .error (.rejected text)

end CallFault

/-- What happens to a send. -/
inductive SendFate where
  /-- It is carried out. -/
  | proceed
  /-- It waits for the gate, and is then carried out. -/
  | hold
  | fail (fault : CallFault)
  deriving DecidableEq

namespace SendFate

def ofText (text : String) : SendFate :=
  if text = "ok" then .proceed
  else if text = "gate" then .hold
  else .fail (.ofText text)

end SendFate

structure Channel where
  active : Bool
  closed : Bool
  connected : Bool
  /-- How many messages were handed to the hub. -/
  sent : Nat
  /-- The calls that always fail. -/
  faults : Table ChannelCall CallFault
  /-- The fates of the sends to come; those after the last proceed. -/
  script : List SendFate
  gateOpen : Bool
  /-- The calls made, the latest first. -/
  calls : List ChannelCall

namespace Channel

/-- A connected channel that is not active yet and has the given faults. -/
def new (faults : Table ChannelCall CallFault) (script : List SendFate) : Channel :=
  ⟨false, false, true, 0, faults, script, false, []⟩

/-- A channel without faults. -/
def plain : Channel :=
  new .empty []

/-! ## What a call does when it does not fail by fault -/

def activate (channel : Channel) : Except ChannelError Channel :=
  if channel.closed then .error .closed else .ok { channel with active := true }

def ready (channel : Channel) : Except ChannelError Unit :=
  if channel.closed then .error .closed
  else if !channel.active then .error .notActive
  else if !channel.connected then .error .unreachable
  else .ok ()

def open? (channel : Channel) : Except ChannelError Unit :=
  if channel.closed then .error .closed else .ok ()

def countSent (channel : Channel) : Channel :=
  { channel with sent := channel.sent + 1 }

def close (channel : Channel) : Channel :=
  { channel with closed := true, active := false }

def setConnected (channel : Channel) (connected : Bool) : Channel :=
  { channel with connected := connected }

def health (channel : Channel) : ComponentHealth :=
  if channel.closed then .down "loopback channel closed"
  else if !channel.active then .ofStatus .upNotReady
  else if !channel.connected then ComponentHealth.up.withNote .warning "loopback hub unreachable"
  else .up

/-! ## Faults -/

def log (channel : Channel) (call : ChannelCall) : Channel :=
  { channel with calls := call :: channel.calls }

def extendScript (channel : Channel) (fates : List SendFate) : Channel :=
  { channel with script := channel.script ++ fates }

def openGate (channel : Channel) : Channel :=
  { channel with gateOpen := true }

def nextFate (channel : Channel) : Channel × SendFate :=
  match channel.faults.get? .send with
  | some fault => (channel, .fail fault)
  | none =>
      match channel.script with
      | [] => (channel, .proceed)
      | fate :: rest => ({ channel with script := rest }, fate)

end Channel

/-! ## A hub with plain inboxes -/

/-- A hub whose members subscribe inboxes. -/
structure Medium where
  members : Table String Channel
  hub : Hub String String

namespace Medium

def empty : Medium :=
  ⟨.empty, .empty⟩

def channel (medium : Medium) (member : String) : Channel :=
  (medium.members.get? member).getD .plain

def setChannel (medium : Medium) (member : String) (channel : Channel) : Medium :=
  { medium with members := medium.members.insert member channel }

def activate (medium : Medium) (member : String) : Except ChannelError Medium :=
  (medium.channel member).activate.map (medium.setChannel member)

def subscribe (medium : Medium) (member inbox : String) : Except ChannelError Medium :=
  (medium.channel member).open?.map fun _ => { medium with hub := medium.hub.subscribe member inbox }

/-- Send a message.  The answer lists the inboxes it went to, in order. -/
def send (medium : Medium) (member : String) : Except ChannelError (Medium × List String) :=
  (medium.channel member).ready.map fun _ =>
    (medium.setChannel member (medium.channel member).countSent, medium.hub.targets member)

def close (medium : Medium) (member : String) : Medium :=
  { medium.setChannel member (medium.channel member).close with hub := medium.hub.leave member }

end Medium
end CacheSync
