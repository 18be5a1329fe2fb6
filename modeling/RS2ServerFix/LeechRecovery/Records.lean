import RS2ServerFix.LeechRecovery.Owner

namespace RS2ServerFix.LeechRecovery

open Reporting Lib

def RecoveryReason.critical (reason : RecoveryReason) : Bool :=
  reason = .nativeException || reason = .inverseUnavailable || reason = .publishedIdentityChanged

def RecoveryValue.existingNativeFault (v : RecoveryValue) : Bool :=
  v.flags.exceptionObserved || v.reason = .publishedIdentityChanged || v.outcome = .nativeUnwind

namespace Recovery

def setFlags (r : Recovery) (f : Flags → Flags) : Recovery :=
  { r with value := { r.value with flags := f r.value.flags } }

def log (r : Recovery) (event : Event) : Recovery := { r with history := event :: r.history }

def terminate (r : Recovery) (reason : RecoveryReason) (outcome : RecoveryOutcome) (restart wasRetryable : Bool) :
    Recovery :=
  let r' := if restart then r.setFlags fun f => { f with restartRequired := true } else r
  if r.terminal then
    if (wasRetryable && restart) || reason = .nativeException ||
        (reason = .inverseUnavailable && !r.value.flags.exceptionObserved) then
      { r' with value := { r'.value with reason := reason, outcome := outcome } }
    else r'
  else { r' with terminal := true, finalPending := true, value := { r'.value with reason := reason, outcome := outcome } }

def fault (r : Recovery) (reason : RecoveryReason) (outcome : RecoveryOutcome) (restart : Bool) : Recovery :=
  let existing := r.value.existingNativeFault
  let wasRetryable := r.value.flags.preflightRetryable
  let r := r.log (.fault reason outcome restart)
  let r :=
    if restart || reason.critical || existing then
      { r.setFlags fun f => { f with preflightRetryable := false } with finalPending := r.finalPending || wasRetryable }
    else r
  if r.value.flags.publishedLocally && !reason.critical && !existing then
    let r :=
      if r.value.flags.metadataCoherent then r else r.setFlags fun f => { f with metadataUnverified := true }
    r.terminate (if reason = .attemptTimeout then .metadataTimeout else reason) .publishedNotDelivered false
      wasRetryable
  else r.terminate reason outcome restart wasRetryable

def queue (r : Recovery) (event : RecoveryEvent) : Recovery × Bool :=
  if r.pendingRecords.length = 9 then (r.fault .quotaUnavailable .mechanicsFailed true, false)
  else
    let copy := { r.value with event := event, recordSequence := 0 }
    ({ r with pendingRecords := r.pendingRecords ++ [copy] }.log (.queued copy), true)

def transition (r : Recovery) (phase : RecoveryPhase) (qpc : Nat) : Recovery × Bool :=
  if r.value.phase = phase then (r, true)
  else if r.value.transitionSequence = uint64Max then (r.fault .quotaUnavailable .mechanicsFailed true, false)
  else
    { r with
      value := { r.value with phase := phase, transitionSequence := r.value.transitionSequence + 1, qpc := qpc }
    }.queue .transition

def timingCopy (r : Recovery) : Recovery :=
  if r.callbackTiming.phase = .completeValid then
    { r with value := { r.value with
        callbackOwnTicks := r.callbackTiming.ticks, flags := { r.value.flags with callbackOwnTimingValid := true } } }
  else
    { r with value := { r.value with
        callbackOwnTicks := 0, flags := { r.value.flags with callbackOwnTimingValid := false } } }

/-- The status wire takes a valid payload while its sequence word has room. -/
def publishRecoveryStatus (r : Recovery) (v : RecoveryValue) : Recovery × Bool :=
  if !v.payload.recoveryPayloadValid ∨ r.ownerSequence < 2 ∨ r.ownerSequence % 2 = 1 ∨
      uint64Max - 2 < r.ownerSequence then (r.log (.published v false), false)
  else ({ r with ownerSequence := r.ownerSequence + 2 }.log (.published v true), true)

def publish (r : Recovery) : Recovery × Bool :=
  let r := r.timingCopy
  let (r, published) := r.publishRecoveryStatus { r.value with event := .none }
  if !published ∧ r.prepared then (r.fault .recordingUnavailable .recordingUnavailable r.cancelEntered, published)
  else (r, published)

end Recovery

def act {α : Type} (f : Recovery → Recovery × α) : Rec α := do
  let r ← Act.get
  Act.modify fun r => (f r).1
  pure (f r).2

def fault (reason : RecoveryReason) (outcome : RecoveryOutcome) (restart : Bool) : Rec Unit :=
  Act.modify fun r => r.fault reason outcome restart

def queue (event : RecoveryEvent) : Rec Bool := act fun r => r.queue event

def transition (phase : RecoveryPhase) (qpc : Nat) : Rec Bool := act fun r => r.transition phase qpc

def publish : Rec Bool := act Recovery.publish

/-- A record that may be emitted while the transport is paused. -/
def RecoveryValue.pausedAllowed (v : RecoveryValue) : Bool :=
  v.phase = .failed && v.flags.restartRequired && (v.event = .transition || v.event = .final)

def emitRecoveryRuntimeRecord (record : RecoveryValue) : Rec (Option UInt64) := do
  let (sequence : Option UInt64) ← Act.query (Question.emit record)
  Act.modify fun r => r.log (.recorded record sequence.isSome)
  if sequence.isSome then
    Act.modify fun r => { r with recoveryQuota := { r.recoveryQuota with remaining := r.recoveryQuota.remaining - 1 } }
  pure sequence

def flushRecords : List RecoveryValue → Rec Bool
  | [] => do
      Act.modify fun r => { r with pendingRead := 0, pendingRecords := [] }
      publish
  | record :: rest => do
      let r ← Act.get
      if !r.recoveryQuota.active ∨ r.recoveryQuota.remaining = 0 then pure false
      else if r.transport = .paused ∧ !record.pausedAllowed then
        Act.modify fun r => { r with pendingRead := r.pendingRead + 1 }.log (.suppressed record)
        flushRecords rest
      else
        let clock ← runtimeClock
        match clock with
        | none => pure false
        | some now =>
            let r ← Act.get
            if now.val < r.lastEmissionQpc then pure false
            else
              let emitted ← emitRecoveryRuntimeRecord record
              match emitted with
              | none => pure false
              | some sequence =>
                  Act.modify fun r =>
                    { r with
                      lastEmissionQpc := now.val
                      value := { r.value with recordSequence := sequence }
                      qualifyingRecordSequence :=
                        if record.phase = .qualifying then sequence.toNat else r.qualifyingRecordSequence
                      pendingRead := r.pendingRead + 1 }
                  flushRecords rest

def flush : Rec Bool := do
  let r ← Act.get
  flushRecords (r.pendingRecords.drop r.pendingRead)

end RS2ServerFix.LeechRecovery
