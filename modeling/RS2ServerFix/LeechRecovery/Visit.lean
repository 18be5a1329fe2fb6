import RS2ServerFix.LeechRecovery.Service

namespace RS2ServerFix.LeechRecovery

open Reporting Lib

def RecoveryValue.rearmed (v : RecoveryValue) : RecoveryValue :=
  { RecoveryValue.zero with
    flags := { Flags.zero with permissionEnabled := true }
    operationSequence := v.operationSequence
    transitionSequence := v.transitionSequence
    ownerThreadId := v.ownerThreadId
    phase := .armed }

/-- A visit to a rejection that may be asked for again; the visit ends here
unless a request is there. -/
def serviceRetryable : Rec (Option Bool) := do
  let foreign ← foreignFault
  if foreign then
    fault .callbackInvalid .mechanicsFailed true
    finishTerminal
    pure (some true)
  else
    let serving ← holds .controlServing
    if !serving then
      Act.modify fun r =>
        { r.setFlags fun f => { f with preflightRetryable := false } with finalPending := true }
      setValue fun v => { v with reason := .controlWorkerUnavailable }
      finishTerminal
      pure (some true)
    else
      let next ← readLatchedControl
      match next with
      | none => pure (some false)
      | some _ =>
          Act.modify fun r =>
            { r with
              value := r.value.rearmed
              requested := false, terminal := false, finalPending := false, qualifyingRecordSequence := 0 }
          pure none

/-- The request of a new operation; whether the visit ends with it. -/
def serviceRequest (now : Nat) : Rec Bool := do
  let request ← readLatchedControl
  Act.modify fun r => { r with requested := true }
  match request with
  | none =>
      fault .invalidRequest .mechanicsFailed false
      pure false
  | some origin =>
      let r ← Act.get
      if r.value.operationSequence = uint64Max then
        fault .invalidRequest .mechanicsFailed false
        finishTerminal
        pure true
      else
        let (epoch : UInt64) ← Act.query Question.sourceEpoch
        let (lifecycle : UInt64) ← Act.query Question.idleLifecycle
        Act.modify fun r =>
          { r with value := { r.value with
              operationSequence := r.value.operationSequence + 1
              sourceEpoch := epoch
              sdkEpoch := lifecycle
              flags := { r.value.flags with
                consoleRequested := r.value.flags.consoleRequested || decide (origin = RequestOrigin.serverAdminConsole) } }
          }.log (.operation origin)
        let r ← Act.get
        if r.frequency ≤ 0 ∨ qpcMax / kAttemptSeconds < r.frequency.toNat ∨
            qpcMax - r.frequency.toNat * kAttemptSeconds < now then
          fault .clockFault .mechanicsFailed false
        else
          setValue fun v =>
            { v with
              overallDeadlineQpc := now + r.frequency.toNat * kAttemptSeconds
              finishDeadlineQpc := now + r.frequency.toNat * kFinishSeconds }
          let _ ← transition .requested now
        pure false

def serviceEnd : Rec Bool := do
  let r ← Act.get
  if r.terminal then finishTerminal
  else
    let _ ← flush
    let _ ← publish
  pure true

def flushOne : Rec Unit := do
  let reserved ← reserveCapture 1
  if !reserved then fault .quotaUnavailable .mechanicsFailed false
  else
    let flushed ← flush
    if !flushed then fault .recordingUnavailable .recordingUnavailable false
    releaseCapture

def serviceRequested (now : Nat) : Rec Bool := do
  let reserved ← reserveCapture 1
  if !reserved then
    fault .quotaUnavailable .mechanicsFailed false
    finishTerminal
    pure true
  else
    let written ← flush
    releaseCapture
    if !written then
      fault .recordingUnavailable .recordingUnavailable false
      finishTerminal
      pure true
    else
      let _ ← transition .qualifying now
      flushOne
      let r ← Act.get
      if r.terminal then finishTerminal
      pure true

section Visit

variable (inner : Occurrence → Rec Unit)

/-- The guards of the native side and, once all is quiet, the recipe. -/
def qualify (capture : Capture) : Rec Unit := do
  let reason ← preflight capture
  let r ← Act.get
  if reason ≠ .none then fault reason .mechanicsFailed false
  else if kRecoveryMetadataMemberLimit < r.source.outer.pi then fault .metadataCountLimit .mechanicsFailed false
  else
    let (before : RecoveryNativeSnapshot) ← Act.query Question.nativeSnapshot
    if nativeGuardReason before r.oldHeartbeat ≠ .snapshotGuardPassed then
      fault (nativeGuardReason before r.oldHeartbeat) .mechanicsFailed false
    else
      let (prints : UInt64 × UInt64) ← Act.query Question.fingerprints
      setValue fun v => { v with oldSdkFingerprint := prints.1, oldCacheFingerprint := prints.2 }
      let quiet ← holds .quiescent <&&> holds .loggerLease <&&> runtimeCaptureAdmission <&&> lease 3 true false <&&>
        reserveCapture 9
      if quiet then submitFinish inner

def serviceQualifying (capture : Capture) (now : Nat) : Rec Bool := do
  let r ← Act.get
  if r.value.finishDeadlineQpc ≤ now then
    fault .finishTimeout .mechanicsFailed false
    finishTerminal
    pure true
  else
    let (observed : UInt64) ← Act.query Question.observedSequence
    if r.qualifyingRecordSequence = 0 ∨ observed.toNat < r.qualifyingRecordSequence then pure true
    else
      qualify inner capture
      serviceEnd

def serviceFinishSubmitted (now : Nat) : Rec Bool := do
  let r ← Act.get
  if r.value.finishDeadlineQpc ≤ now then fault .finishTimeout .mechanicsFailed true
  else
    let leased ← lease 3 true false
    let r ← Act.get
    if !leased then fault .lifecycleChanged .mechanicsFailed true
    else if r.finishObserved ∧ r.finishTrue ∧ r.enqueueReturned ∧ r.value.callbackId = r.finishId then
      let _ ← transition .finishAccepted now
  serviceEnd

def serviceFinishAccepted (capture : Capture) (now : Nat) : Rec Bool := do
  let r ← Act.get
  if r.value.finishDeadlineQpc ≤ now then fault .finishTimeout .mechanicsFailed true
  else if !recoveryPumpHeadroomAvailable capture then fault .nativeProfileMismatch .mechanicsFailed true
  else recreate inner
  serviceEnd

def servicePublish (now : Nat) : Rec Unit := do
  let changed ← lease 3 false false <&&> holds .sessionChanged
  if !changed then fault .createFailed .mechanicsFailed true
  else
    let adopted ← holds .cacheMatches <&&> holds .freshHeartbeat
    if adopted then
      let (prints : UInt64 × UInt64) ← Act.query Question.fingerprints
      setValue fun v => { v with newSdkFingerprint := prints.1, newCacheFingerprint := prints.2 }
      Act.modify fun r =>
        { r.setFlags fun f => { f with publishedLocally := true } with
          metadataDeadlineQpc :=
            min (now + r.frequency.toNat * kMetadataSeconds) (r.value.overallDeadlineQpc - r.frequency.toNat) }
      setStage .publish
      Act.modify Recovery.timingCopy
      let _ ← transition .published now
      Act.modify fun r => { r with bindingSuspended := false }

def serviceRecreating (now : Nat) : Rec Bool := do
  let r ← Act.get
  if r.createReturned then servicePublish now
  serviceEnd

def servicePublished (capture : Capture) (now : Nat) : Rec Bool := do
  let served ← serviceMetadata inner capture now
  if !served then pure false else serviceEnd

def servicePhase (capture : Capture) (now : Nat) : Rec Bool := do
  let r ← Act.get
  match r.value.phase with
  | .requested => serviceRequested now
  | .qualifying => serviceQualifying inner capture now
  | .finishSubmitted => serviceFinishSubmitted now
  | .finishAccepted => serviceFinishAccepted inner capture now
  | .recreating => serviceRecreating now
  | .published => servicePublished inner capture now
  | _ => serviceEnd

def serviceAttempt (capture : Capture) (now : Nat) : Rec Bool := do
  let r ← Act.get
  if !r.terminal ∧ r.value.overallDeadlineQpc ≤ now then fault .attemptTimeout .mechanicsFailed r.cancelEntered
  let r ← Act.get
  if r.terminal then
    finishTerminal
    pure true
  else
    let admitted ← runtimeCaptureAdmission
    if !admitted then
      fault .recordingUnavailable .recordingUnavailable r.cancelEntered
      finishTerminal
      pure true
    else servicePhase inner capture now

def serviceNormal (capture : Capture) (now : Nat) : Rec Bool := do
  let r ← Act.get
  let ended ← if r.terminal ∧ r.value.flags.preflightRetryable then serviceRetryable else pure none
  match ended with
  | some result => pure result
  | none =>
      let r ← Act.get
      if r.requested ∧ !r.terminal then setValue fun v => { v with qpc := now }
      let foreign ← foreignFault
      if foreign then fault .callbackInvalid .mechanicsFailed true
      let finished ← if !r.requested then serviceRequest now else pure false
      if finished then pure true else serviceAttempt inner capture now

/-- One visit of the owner. `true` keeps it from the ordinary management. -/
def serviceLeechRecovery (capture : Capture) (qpc : Int) : Rec Bool := do
  let r ← Act.get
  if !r.prepared then pure false
  else if capture.classification ≠ .normalPump ∨ capture.truncated ∨ qpc < 0 ∨ r.pumpDepth ≠ 1 ∨ r.builderDepth ≠ 0 ∨
      r.timingDepth ≠ 1 then
    serviceAbnormal qpc
    pure false
  else serviceNormal inner capture qpc.toNat

def refreshedClock : Rec (Option Qpc) := do
  let clock ← runtimeClock
  if clock.isNone then recoveryOwnerClockFault
  pure clock

def noFilter (_ : UInt32) : Rec Unit := pure ()

/-- The services of a visit beside the recovery; `none` once the clock fails. -/
def serviceOthers (capture : Capture) (now : Qpc) : Rec (Option Qpc) := do
  let normal := decide (capture.classification = .normalPump)
  let console ← pure (normal && !capture.truncated) <&&> holds .consoleDue
  let now ← if console then do
      let _ ← native inner noFilter .console
      refreshedClock
    else pure (some now)
  match now with
  | none => pure none
  | some now =>
      let transport ← pure normal <&&> holds .transportDue
      if !transport then pure (some now)
      else
        let _ ← native inner noFilter .logService
        let now ← refreshedClock
        let (state : TransportState) ← Act.query Question.refresh
        if now.isSome then Act.modify fun r => { r with transport := state }
        pure now

def afterPump (topLevel : Bool) : Rec Unit := do
  let r ← Act.get
  if topLevel ∧ r.pumpDepth = 1 then
    let now ← refreshedClock
    match now with
    | none => pure ()
    | some now =>
        let due ← recoveryServiceDue
        let (capture : Capture) ← Act.query Question.capture
        let now ← serviceOthers inner capture now
        match now with
        | none => pure ()
        | some now =>
            if due then
              let _ ← serviceLeechRecovery inner capture now.val

def pumpEntry : Rec Unit := do
  let r ← Act.get
  Act.modify fun r => { r with pumpDepth := r.pumpDepth + 1, timingDepth := r.timingDepth + 1 }
  (do
    let _ ← native inner noFilter .pump
    afterPump inner (r.timingDepth = 0) : Rec Unit).cleaned fun _ =>
      Act.modify fun r => { r with pumpDepth := r.pumpDepth - 1, timingDepth := r.timingDepth - 1 }

def builderEntry : Rec Unit := do
  Act.modify fun r => { r with builderDepth := r.builderDepth + 1, timingDepth := r.timingDepth + 1 }
  (do
    let _ ← native inner noFilter .builder : Rec Unit).cleaned fun _ =>
      Act.modify fun r => { r with builderDepth := r.builderDepth - 1, timingDepth := r.timingDepth - 1 }

end Visit

/-- What the owner thread runs when it is come into, nested at most so deep. -/
def occur : Nat → Occurrence → Rec Unit
  | 0, _ => pure ()
  | depth + 1, .pump => pumpEntry (occur depth)
  | depth + 1, .builder => builderEntry (occur depth)
  | _ + 1, .finishSuccess result id => finishObservation result id false
  | _ + 1, .finishError _ id => finishObservation .null id true
  | depth + 1, .createSuccess id => createSuccess (occur depth) id
  | _ + 1, .resumed _ => pure ()

def controlReason : ControlResult → RecoveryReason
  | .disabled => .permissionDisabled
  | .missing => .controlConfigMissing
  | .invalidConfig => .controlConfigInvalid
  | .invalidIdentity => .controlIdentityMismatch
  | .invalidPath => .controlPathRejected
  | .securityRejected => .controlSecurityRejected
  | .readFailure | .pendingWrite => .controlReadFailure
  | .endpointUnavailable => .controlEndpointUnavailable
  | _ => .controlWorkerUnavailable

def prepareLeechRecovery (ownerThreadId : UInt32) : Rec Unit := do
  setValue fun v => { v with ownerThreadId := ownerThreadId, reason := .permissionDisabled }
  let (control : ControlResult) ← Act.query Question.initializeControl
  if control ≠ .ready then
    setValue fun v => { v with reason := controlReason control }
    let _ ← publish
  else
    let profiled ← holds .nativeProfile
    if !profiled then
      setValue fun v => { v with reason := .nativeProfileMismatch }
      let _ ← publish
    else Act.modify fun r => { r with prepared := true }

def armLeechRecovery : Rec Unit := do
  let r ← Act.get
  if r.prepared then
    let started ← holds .startControl
    if !started then
      Act.modify fun r => { r with prepared := false }
      setValue fun v => { v with reason := .controlWorkerUnavailable }
      let _ ← publish
    else
      let clock ← pureClock
      Act.modify fun r =>
        { r with
          controlStarted := true
          value := { r.value with
            flags := { Flags.zero with permissionEnabled := true }
            phase := .armed, transitionSequence := 1, reason := .none, qpc := clock.getD 0 } }
      let _ ← publish

end RS2ServerFix.LeechRecovery
