import CacheSync.Config.Bus
import CacheSync.Settings.Draft
import CacheSync.Settings.Environment
import CacheSync.Settings.Error
import CacheSync.Settings.Level
import CacheSync.Toml.Reader

/-!
# Settings

The settings of a node come from up to three sources: a file in the working directory, a file
that is named, and the environment.  A later source overrides an earlier one, setting by setting.
`Settings.load` reads the sources, and checks the configuration that they describe.
-/

namespace CacheSync

/-- The form of log lines. -/
inductive LogFormat where
  | json
  | compact
  deriving DecidableEq

def LogFormat.name : LogFormat → String
  | .json => "json"
  | .compact => "compact"

structure Settings where
  level : Level
  format : LogFormat
  bus : BusConfig

/-! ## From drafts to settings -/

namespace Draft

def Logging.chosenLevel (draft : Logging) : Except LoadError Level :=
  match draft.level with
  | none => .ok .info
  | some text =>
      match Level.ofText? text with
      | some level => .ok level
      | none => .error .unknownLevel

def Logging.format (draft : Logging) : LogFormat :=
  if draft.json.getD false then .json else .compact

/-- The parameters of timestamp comparison, where those not given have their defaults. -/
def Comparison.complete (draft : Comparison) : CacheSync.Comparison where
  probableCount := draft.probableCount.getD CacheSync.Comparison.default.probableCount
  expiration :=
    (draft.expirationSeconds.map Duration.ofSeconds).getD CacheSync.Comparison.default.expiration

namespace Cache

/-- The name of a cache, which must not be blank.  `index` is its place in the list of caches. -/
def givenName (index : Nat) (draft : Cache) : Except LoadError String :=
  match draft.name with
  | none => .error (.unnamedCache index)
  | some name => if Text.trim name = "" then .error (.unnamedCache index) else .ok name

def givenPolicy (name : String) (draft : Cache) : Except LoadError Policy :=
  match draft.policy with
  | none => .error (.untypedCache name)
  | some text => (Policy.ofText text).mapError fun reason => .unknownType name reason

/-- The parameters of timestamp comparison, which are there if it is asked for. -/
def givenComparison (name : String) (draft : Cache) :
    Except LoadError (Option CacheSync.Comparison) :=
  if draft.usesTimestamps then
    match draft.comparison with
    | none => .error (.bus (.missingTimestamp name))
    | some comparison => .ok (some comparison.complete)
  else .ok none

def build (index : Nat) (draft : Cache) : Except LoadError CacheConfig := do
  let name ← draft.givenName index
  let policy ← draft.givenPolicy name
  let comparison ← draft.givenComparison name
  (CacheDefinition.build ⟨name, policy, draft.aliases, comparison⟩).mapError .bus

end Cache

def Dispatch.build (side : Side) (draft : Dispatch) : Except LoadError CacheSync.Dispatch :=
  match draft.mode.map Text.trim with
  | none => .ok .direct
  | some mode =>
      if mode = "sync" then .ok .direct
      else if mode = "striped" then
        .ok (.striped (draft.stripes.getD CacheSync.Dispatch.defaultStripes)
          (draft.capacity.getD CacheSync.Dispatch.defaultCapacity))
      else .error (.unknownMode side mode)

def Recovery.complete (draft : Recovery) : RecoverySettings where
  initialBackoff :=
    (draft.initialBackoffMillis.map .ofMillis).getD RecoverySettings.default.initialBackoff
  multiplier := draft.multiplier.getD RecoverySettings.default.multiplier
  maxBackoff := (draft.maxBackoffMillis.map .ofMillis).getD RecoverySettings.default.maxBackoff
  window := (draft.windowSeconds.map .ofSeconds).getD RecoverySettings.default.window
  jitter := draft.jitter.getD RecoverySettings.default.jitter

def Cleanup.complete (draft : Cleanup) : CleanupSettings where
  background := draft.background.getD CleanupSettings.default.background
  interval := (draft.intervalSeconds.map .ofSeconds).getD CleanupSettings.default.interval

def buildCaches (draft : Draft) : Except LoadError (List CacheConfig) :=
  draft.caches.zipIdx.mapM fun (cache, index) => cache.build index

def build (draft : Draft) : Except LoadError Settings := do
  let level ← draft.logging.chosenLevel
  let caches ← draft.buildCaches
  let producer ← draft.producer.build .producer
  let consumer ← draft.consumer.build .consumer
  let bus ← (BusDefinition.build {
    caches := caches
    producer := producer
    consumer := consumer
    recovery := draft.recovery.complete
    cleanup := draft.timestamps.complete
    threshold := draft.health.threshold.getD BusDefinition.default.threshold }).mapError .bus
  .ok ⟨level, draft.logging.format, bus⟩

end Draft

/-! ## Sources -/

/-- A file that settings are read from. -/
inductive SettingsFile where
  /-- No file is asked for. -/
  | absent
  /-- A file is asked for that does not exist. -/
  | missing
  | found (text : String)

def SettingsFile.layer? : SettingsFile → Option (List (String × Setting))
  | .absent => some []
  | .missing => none
  | .found text => (Toml.readDocument? text).map Setting.ofMembers

/-- Where settings come from, the last source the strongest. -/
structure SettingsSources where
  /-- The file in the working directory. -/
  workingFile : SettingsFile
  /-- The file that is named. -/
  namedFile : SettingsFile
  /-- The variables of the environment. -/
  environment : List (String × String)

namespace SettingsSources

def merged? (sources : SettingsSources) : Option Setting := do
  let working ← sources.workingFile.layer?
  let named ← sources.namedFile.layer?
  let layers := [working, named, Setting.Environment.layer sources.environment]
  some (layers.foldl (fun base layer => base.overlay layer) (.table []))

end SettingsSources

/-- Load settings from their sources.  All settings must be of the right kind before any of them
is checked for its meaning. -/
def Settings.load (sources : SettingsSources) : Except LoadError Settings :=
  match sources.merged?.bind Draft.ofSetting? with
  | none => .error .unreadable
  | some draft => draft.build

end CacheSync
