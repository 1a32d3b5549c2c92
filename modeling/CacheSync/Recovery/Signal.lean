import CacheSync.Time.Clock

/-!
# The shutdown signal

A signal is triggered once and stays so.  A thread may wait for it, for a limited time.
-/

namespace CacheSync

structure ShutdownSignal where
  triggered : Bool
  deriving DecidableEq

/-- How a wait for the signal ended. -/
structure SignalWait where
  /-- Whether the signal ended it. -/
  fired : Bool
  /-- How long it lasted. -/
  elapsed : Duration
  deriving DecidableEq

namespace ShutdownSignal

def new : ShutdownSignal :=
  ⟨false⟩

def trigger (_ : ShutdownSignal) : ShutdownSignal :=
  ⟨true⟩

/-- The time that a call takes although it need not wait. -/
def callTime : Duration :=
  ⟨1000⟩

/-- Wait for the signal, at most a time limit.  `alarm` is how long after the start somebody else
triggers it, which happens sooner or later in any case. -/
def wait (signal : ShutdownSignal) (limit : Duration) (alarm : Option Duration) :
    ShutdownSignal × SignalWait :=
  if signal.triggered then (signal, ⟨true, callTime⟩)
  else
    match alarm with
    | none => (signal, ⟨false, limit⟩)
    | some alarm =>
        (signal.trigger,
          if alarm.nanos < limit.nanos then ⟨true, alarm⟩ else ⟨false, limit⟩)

end ShutdownSignal
end CacheSync
