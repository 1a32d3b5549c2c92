import CacheSync.Side

/-!
# Health

Each part of a node reports a status and notes.  A started node is broken as soon as one of its
parts is, and a part made of workers breaks when as many of them have failed for good as its
threshold allows.
-/

namespace CacheSync

inductive HealthStatus where
  /-- Not running. -/
  | down
  /-- Running, but not ready to serve. -/
  | upNotReady
  /-- Running normally. -/
  | upOk
  /-- Running, but impaired for good. -/
  | upFatalBroken
  deriving DecidableEq

namespace HealthStatus

def name : HealthStatus → String
  | .down => "DOWN"
  | .upNotReady => "UP_NOT_READY"
  | .upOk => "UP_OK"
  | .upFatalBroken => "UP_FATAL_BROKEN"

def all : List HealthStatus :=
  [.down, .upNotReady, .upOk, .upFatalBroken]

def ofName? (name : String) : Option HealthStatus :=
  all.find? (·.name == name)

def isBroken : HealthStatus → Bool
  | .down => true
  | .upFatalBroken => true
  | _ => false

end HealthStatus

inductive Severity where
  | info
  | warning
  | critical
  deriving DecidableEq

namespace Severity

def name : Severity → String
  | .info => "info"
  | .warning => "warning"
  | .critical => "critical"

def all : List Severity :=
  [.info, .warning, .critical]

def ofName? (name : String) : Option Severity :=
  all.find? (·.name == name)

end Severity

structure HealthNote where
  severity : Severity
  message : String
  deriving DecidableEq

/-- The health of one part. -/
structure ComponentHealth where
  status : HealthStatus
  notes : List HealthNote
  deriving DecidableEq

namespace ComponentHealth

def ofStatus (status : HealthStatus) : ComponentHealth :=
  ⟨status, []⟩

def up : ComponentHealth :=
  ofStatus .upOk

def withNote (health : ComponentHealth) (severity : Severity) (message : String) :
    ComponentHealth :=
  { health with notes := health.notes ++ [⟨severity, message⟩] }

def down (message : String) : ComponentHealth :=
  (ofStatus .down).withNote .critical message

/-- Add a note if it applies. -/
def noteIf (health : ComponentHealth) (applies : Bool) (severity : Severity) (message : String) :
    ComponentHealth :=
  if applies then health.withNote severity message else health

@[simp]
theorem status_withNote (health : ComponentHealth) (severity : Severity) (message : String) :
    (health.withNote severity message).status = health.status := rfl

@[simp]
theorem status_noteIf (health : ComponentHealth) (applies : Bool) (severity : Severity)
    (message : String) : (health.noteIf applies severity message).status = health.status := by
  unfold noteIf
  split <;> rfl

end ComponentHealth

def aggregateHealth (started : Bool) (components : List ComponentHealth) : HealthStatus :=
  if !started then .down
  else if components.any (·.status.isBroken) then .upFatalBroken
  else .upOk

def workerHealth (side : Side) (failed threshold : Nat) : ComponentHealth :=
  let failures := toString failed ++ " " ++ side.name ++ " worker(s) failed permanently"
  if threshold ≤ failed then
    (ComponentHealth.ofStatus .upFatalBroken).withNote .critical
      (failures ++ " (threshold " ++ toString threshold ++ ")")
  else if 0 < failed then ComponentHealth.up.withNote .warning failures
  else .up

/-- The health of a node: that of the whole, and that of each named part. -/
structure NodeHealth where
  status : HealthStatus
  components : List (String × ComponentHealth)

namespace NodeHealth

def ofComponents (started : Bool) (components : List (String × ComponentHealth)) : NodeHealth :=
  ⟨aggregateHealth started (components.map (·.2)), components⟩

def component? (health : NodeHealth) (name : String) : Option ComponentHealth :=
  (health.components.find? (·.1 == name)).map (·.2)

end NodeHealth
end CacheSync
