import CanGui.Common.Words
/-!
# TIC12400 — recovery

Three failed services in a row take the device offline; it is initialised
again after a delay that doubles with each failed attempt.
-/

namespace CanGui

namespace Tic

def recoveryFailureThreshold : UInt32 := 3
def recoveryInitialDelayMs : UInt32 := 500
def recoveryMaxDelayMs : UInt32 := 8000

structure RecoveryState where
  consecutiveFailures : UInt32 := 0
  offlineEvents : UInt32 := 0
  reinitializationAttempts : UInt32 := 0
  reinitializationSuccesses : UInt32 := 0
  retryStartedTick : UInt32 := 0
  retryDelayMs : UInt32 := 0
  reinitializationPending : Bool := false
  deriving DecidableEq, Repr

namespace RecoveryState

def schedule (state : RecoveryState) (now delayMs : UInt32) : RecoveryState :=
  { state with
    retryStartedTick := now
    retryDelayMs := delayMs
    reinitializationPending := true }

def recordInitialResult (state : RecoveryState) (now : UInt32) (succeeded : Bool) : RecoveryState :=
  let state := { state with consecutiveFailures := 0 }
  if succeeded then
    { state with reinitializationPending := false, retryDelayMs := 0 }
  else
    schedule { state with offlineEvents := state.offlineEvents + 1 } now recoveryInitialDelayMs

/-- The flag says whether the device went offline. -/
def recordServiceResult (state : RecoveryState) (now : UInt32) (succeeded : Bool) :
    Bool × RecoveryState :=
  if succeeded then
    (false, { state with consecutiveFailures := 0 })
  else
    let state :=
      if state.consecutiveFailures < 0xFFFFFFFF then
        { state with consecutiveFailures := state.consecutiveFailures + 1 }
      else
        state
    if state.reinitializationPending || state.consecutiveFailures < recoveryFailureThreshold then
      (false, state)
    else
      (true,
        schedule { state with offlineEvents := state.offlineEvents + 1 } now recoveryInitialDelayMs)

def shouldReinitialize (state : RecoveryState) (now : UInt32) : Bool :=
  state.reinitializationPending && now - state.retryStartedTick ≥ state.retryDelayMs

def recordReinitializationResult (state : RecoveryState) (now : UInt32) (succeeded : Bool) :
    RecoveryState :=
  let state := { state with reinitializationAttempts := state.reinitializationAttempts + 1 }
  if succeeded then
    { state with
      reinitializationSuccesses := state.reinitializationSuccesses + 1
      consecutiveFailures := 0
      reinitializationPending := false
      retryDelayMs := 0 }
  else
    let nextDelay :=
      if state.retryDelayMs < recoveryInitialDelayMs then recoveryInitialDelayMs
      else if state.retryDelayMs < recoveryMaxDelayMs then
        if state.retryDelayMs * 2 > recoveryMaxDelayMs then recoveryMaxDelayMs
        else state.retryDelayMs * 2
      else
        state.retryDelayMs
    schedule state now nextDelay

end RecoveryState

end Tic

end CanGui
