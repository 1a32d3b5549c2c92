import CacheSync.Config.Error
import CacheSync.Time.Duration

/-!
# Recovery settings

A lost connection is tried again after growing waits, until a time window has passed.  Each wait
is lengthened by a random part of itself, so that the nodes do not all come back at once.
-/

namespace CacheSync

structure RecoverySettings where
  initialBackoff : Duration
  /-- The factor from one wait to the next. -/
  multiplier : Binary64
  maxBackoff : Duration
  /-- The time after which recovery gives up. -/
  window : Duration
  /-- The largest random part of a wait. -/
  jitter : Binary64
  deriving DecidableEq

namespace RecoverySettings

def default : RecoverySettings where
  initialBackoff := .ofMillis 100
  multiplier := .ofNat 3
  maxBackoff := .ofSeconds 10
  window := .ofSeconds 60
  jitter := .ofDecimal false 2 (-1)

def flaw? (settings : RecoverySettings) : Option RecoveryFlaw :=
  if settings.initialBackoff.isZero then some .noBackoff
  else if settings.maxBackoff.nanos < settings.initialBackoff.nanos then some .maxBelowInitial
  else if !settings.multiplier.isFinite || !(Binary64.ofNat 1).le settings.multiplier then
    some .badMultiplier
  else if !((Binary64.zero false).le settings.jitter && settings.jitter.le (Binary64.ofNat 1)) then
    some .badJitter
  else if settings.window.isZero then some .noWindow
  else none

def check (settings : RecoverySettings) : Except ConfigError Unit :=
  match settings.flaw? with
  | some flaw => .error (.invalidRecovery flaw)
  | none => .ok ()

/-- The wait after a wait, without its random part. -/
def nextBackoff (settings : RecoverySettings) (current : Duration) : Duration :=
  (current.scale settings.multiplier).shorter settings.maxBackoff

def jittered (settings : RecoverySettings) (draw : Binary64.Ratio) (wait : Duration) : Duration :=
  if settings.jitter.isNaN || settings.jitter.isZero || settings.jitter.negative then wait
  else wait.scaleBy ⟨draw.den + draw.num, draw.den⟩

def middleDraw (settings : RecoverySettings) : Binary64.Ratio :=
  if settings.jitter.isFinite then settings.jitter.toRatio.div (.ofNat 2) else .ofNat 0

/-- Factors in settings are written without an exponent part from `0.0001` to below `1e16`. -/
def factorLayout : Decimal.Layout where
  least := -4
  greatest := 15
  signedExponent := false

end RecoverySettings
end CacheSync
