import CacheSync.Cluster.Basic

/-!
# Steps of a sending

A sending calls the channel of its node.  A lost connection begins a recovery, every attempt of
which calls the channel again; any other failure of the first call ends the sending.  Once the
channel takes the message it goes to the subscribers of all other members, and only when the last
of them has it does the sending succeed.
-/

namespace CacheSync.Cluster

/-- What comes of one step of a sending. -/
inductive SendStep where
  | moved (after : Cluster) (sending : Sending)
  /-- It waits for the gate, for room in a ring, or between two attempts. -/
  | blocked
  | done (after : Cluster) (result : Except ProduceError Unit)
  | crashed (after : Cluster)

def recoverWith (cluster : Cluster) (index : Nat) (node : Node) (step : RecoveryStep) : Cluster :=
  cluster.setNode index ({ node with recoveries := step.recoveries }.markAll step.marks)

def afterRecovery (cluster : Cluster) (sending : Sending) (call : RecoveryCall)
    (stage : SendStage) : SendStep :=
  match call.phase with
  | .ended (some error) => .done cluster (.error (.ofRecovery error))
  | _ => .moved cluster { sending with recovery := some call, stage := stage }

/-- The channel did not take the message. -/
def sendFailed (cluster : Cluster) (index : Nat) (node : Node) (sending : Sending)
    (message : Message) (error : ChannelError) : SendStep :=
  match sending.recovery with
  | none =>
      if error.isConnectivity then
        let (recoveries, call) := node.recoveries.enter .producer cluster.clock
        .moved (cluster.setNode index { node with recoveries := recoveries })
          { sending with recovery := some call, stage := .recovering message }
      else .done (cluster.setNode index node) (.error (.channel error))
  | some call =>
      match call.phase with
      | .attempting course =>
          let draw := node.recoveries.settings.middleDraw
          let step := node.recoveries.fail call course error.message draw cluster.clock
          (cluster.recoverWith index node step).afterRecovery sending step.call
            (.recovering message)
      | _ => .done (cluster.setNode index node) (.error (.channel error))

/-- The channel takes the message, if it can. -/
def transmit (cluster : Cluster) (index : Nat) (node : Node) (sending : Sending)
    (message : Message) : SendStep :=
  match node.channel.ready with
  | .error error => cluster.sendFailed index node sending message error
  | .ok () =>
      .moved (cluster.setNode index node)
        (sending.atStage (.spreading ⟨message, cluster.hub.targets (.node index), false⟩))

def callChannel (cluster : Cluster) (index : Nat) (node : Node) (sending : Sending)
    (message : Message) : SendStep :=
  let (channel, fate) := (node.channel.log .send).nextFate
  let called : Node := { node with channel := channel }
  match fate with
  | .proceed => cluster.transmit index called sending message
  | .hold => .moved (cluster.setNode index called) (sending.atStage (.held message))
  | .fail (.error error) => cluster.sendFailed index called sending message error
  | .fail .crash => .crashed (cluster.setNode index called)

def sendSucceeded (cluster : Cluster) (index : Nat) (node : Node) (sending : Sending) : SendStep :=
  let counted : Node := { node with channel := node.channel.countSent }
  let recovered : Node :=
    match sending.recovery with
    | none => counted
    | some call =>
        let step := counted.recoveries.succeed call cluster.clock
        { counted with recoveries := step.recoveries }.markAll step.marks
  .done (cluster.setNode index (recovered.markAll (Sending.sentMarks sending.job))) (.ok ())

/-- Clean up before the first attempt.  How that goes does not matter. -/
def resetSender (cluster : Cluster) (index : Nat) (node : Node) (sending : Sending)
    (message : Message) (call : RecoveryCall) : SendStep :=
  let logged := node.log .resetSender
  match node.channel.faults.get? .resetSender with
  | some .crash => .crashed (cluster.setNode index logged)
  | _ =>
      let cleaned := logged.recoveries.cleaned call cluster.clock
      .moved (cluster.setNode index logged)
        { sending with recovery := some cleaned, stage := .recovering message }

def recoverStep (cluster : Cluster) (index : Nat) (node : Node) (sending : Sending)
    (message : Message) (call : RecoveryCall) : SendStep :=
  match call.phase with
  | .cleaning => cluster.resetSender index node sending message call
  | .deciding course =>
      let step := node.recoveries.decide call course cluster.clock
      (cluster.recoverWith index node step).afterRecovery sending step.call (.calling message)
  | .waiting course wake =>
      if node.recoveries.mayWake wake cluster.clock then
        let step := node.recoveries.wake call course cluster.clock
        (cluster.recoverWith index node step).afterRecovery sending step.call (.recovering message)
      else .blocked
  | .attempting _ => .moved cluster (sending.atStage (.calling message))
  | .ended _ => .blocked

def sendStepAt (cluster : Cluster) (index : Nat) (node : Node) (sending : Sending) : SendStep :=
  match sending.stage with
  | .encoding =>
      let job := sending.job
      match node.core.codec.encode job.event job.config.policy.includesValues with
      | .error error => .done cluster (.error (.encode error))
      | .ok body => .moved cluster (sending.atStage (.calling ⟨job.hash, body⟩))
  | .calling message => cluster.callChannel index node sending message
  | .held message =>
      if node.channel.gateOpen then cluster.transmit index node sending message else .blocked
  | .spreading spread =>
      match cluster.spreadStep spread with
      | .moved after spread => .moved after (sending.atStage (.spreading spread))
      | .blocked => .blocked
      | .done after => after.sendSucceeded index node sending
      | .crashed after => .crashed after
  | .recovering message =>
      match sending.recovery with
      | none => .blocked
      | some call => cluster.recoverStep index node sending message call

def sendStep (cluster : Cluster) (index : Nat) (sending : Sending) : SendStep :=
  match cluster.node? index with
  | none => .blocked
  | some node => cluster.sendStepAt index node sending

end CacheSync.Cluster
