import RS2ServerFix.LeechRecovery.Metadata

namespace RS2ServerFix.LeechRecovery

open Reporting Lib

def kFinishSeconds : Nat := 60
def kAttemptSeconds : Nat := 120

namespace Recovery

def target (r : Recovery) : RecoveryPhase :=
  if r.value.flags.publishedLocally && !r.value.flags.restartRequired then .observed
  else if r.cancelEntered || r.value.flags.restartRequired then .failed
  else .rejected

/-- A rejection without any native step, which may be asked for again. -/
def retryablePreflight (r : Recovery) : Bool :=
  if r.schema ≠ 2 ∨ r.recipeEntered ∨ r.cancelEntered ∨ r.bindEntered ∨ r.bindCompleted ∨ r.createInstalled ∨
      r.callbackDepth ≠ 0 ∨ r.metadataHeadOwned ∨ r.holder ≠ 0 ∨ r.value.nativeStage ≠ .none ∨
      r.value.resourcePhase ≠ .none ∨ r.value.exceptionCode ≠ 0 ∨ r.foreignFault ∨ r.value.flags.recipeEntered ∨
      r.value.flags.exceptionObserved ∨ r.value.flags.restartRequired ∨ r.value.flags.publishedLocally then false
  else
    r.terminal && decide (r.value.phase = .rejected) &&
      (decide (r.value.outcome = .mechanicsFailed) || decide (r.value.outcome = .recordingUnavailable)) &&
      decide (r.value.operationSequence ≠ 0) && decide (r.value.operationSequence ≠ uint64Max) &&
      decide (r.value.transitionSequence ≠ uint64Max) && decide (r.value.reason ≠ .invalidRequest) &&
      decide (r.value.reason ≠ .clockFault)

end Recovery

def foreignFault : Rec Bool := do
  let seen ← holds .foreignThread
  Act.modify fun r => { r with foreignFault := r.foreignFault || seen }
  let r ← Act.get
  pure r.foreignFault

/-- The latch, which others fill while it is empty. -/
def readLatch : Rec RequestOrigin := do
  let (claim : RequestOrigin) ← Act.query Question.claim
  Act.modify fun r => { r with latched := if r.latched = .none then claim else r.latched }
  let r ← Act.get
  pure r.latched

def readLatchedControl : Rec (Option RequestOrigin) := do
  let selected ← readLatch
  let r ← Act.get
  match selected with
  | .none => pure none
  | .pipe => pure (some .pipe)
  | .serverAdminConsole =>
      let available ← holds .consoleAvailable
      pure (if available ∧ r.schema = 2 then some .serverAdminConsole else none)

def releasePreflightClaim : Rec Bool := do
  let r ← Act.get
  let ready ← pure (decide (r.schema = 2)) <&&> holds .controlReady
  if !ready then pure false
  else
    let origin ← readLatch
    if origin = .none then pure false
    else
      Act.modify fun r => { r with latched := .none }.log (.released origin r.value r.holder)
      pure true

/-- Ordinary binding resumes after a clean rejection only. -/
def resumeBinding : Rec Unit := do
  let r ← Act.get
  if !r.cancelEntered ∧ !r.value.flags.restartRequired then
    let safe ← holds .safeOwner
    if safe then
      let (phase : Task.TaskPhase) ← Act.query Question.taskPhase
      if phase ≠ .inert then Act.modify fun r => { r with bindingSuspended := false }

def finishQueue : Rec Unit := do
  Act.modify Recovery.timingCopy
  let r ← Act.get
  if r.value.phase ≠ r.target then
    Act.modify fun r => r.setFlags fun f => { f with terminal := true }
    let _ ← transition r.target r.value.qpc
  let r ← Act.get
  let recordable ← pure r.exceptionPending <&&> runtimeCaptureAdmission
  if recordable then
    let _ ← queue .exception
    Act.modify fun r => { r with exceptionPending := false }
  let r ← Act.get
  if r.finalPending then
    let _ ← queue .final
    Act.modify fun r => { r with finalPending := false }

def finishFlush : Rec Bool := do
  let r ← Act.get
  let due ← pure (!r.recoveryQuota.active && decide (r.pendingRead < r.pendingRecords.length)) <&&>
    runtimeCaptureAdmission
  if due then
    let _ ← reserveCapture (r.pendingRecords.length - r.pendingRead)
  let flushed ← flush
  if flushed then pure true
  else
    let running ← holds .runtimeAdmission <&&> (do
      let stopping ← holds .stopping
      pure !stopping)
    if !running then
      Act.modify fun r =>
        { r with
          pendingRead := 0, pendingRecords := []
          history := (r.pendingRecords.drop r.pendingRead).reverse.map Event.suppressed ++ r.history }
    let _ ← publish
    pure false

/-- A recorded preflight rejection gives its claim back. -/
def finishRelease (flushed : Bool) : Rec Unit := do
  let admitted ← pure flushed <&&> runtimeCaptureAdmission
  let r ← Act.get
  if admitted ∧ !r.bindingSuspended then
    let _ ← foreignFault
    let r ← Act.get
    let released ← pure r.retryablePreflight <&&> releasePreflightClaim
    if released then
      Act.modify fun r => r.setFlags fun f => { f with preflightRetryable := true }
      let _ ← publish

def finishTerminal : Rec Unit := do
  finishQueue
  let flushed ← finishFlush
  releaseCapture
  resumeBinding
  finishRelease flushed

def recoveryServiceDue : Rec Bool := do
  let r ← Act.get
  if !r.prepared ∨ !r.controlStarted then pure false
  else
    let foreign ← pure r.value.flags.preflightRetryable <&&> foreignFault
    if foreign then pure true
    else if r.requested ∧ !r.value.flags.preflightRetryable then
      pure (!r.terminal || r.finalPending || decide (r.pendingRecords ≠ []))
    else
      let failed ← holds .controlFailed
      let latch ← readLatch
      pure (decide (latch ≠ .none) || failed)

def abnormalDeadlines (qpc : Int) : Rec Unit := do
  let r ← Act.get
  if !r.terminal then
    if qpc < 0 then fault .clockFault .mechanicsFailed r.cancelEntered
    else if r.value.overallDeadlineQpc ≤ qpc.toNat then fault .attemptTimeout .mechanicsFailed r.cancelEntered
    else if (r.value.phase = .qualifying ∨ r.value.phase = .finishSubmitted ∨ r.value.phase = .finishAccepted) ∧
        r.value.finishDeadlineQpc ≤ qpc.toNat then
      fault .finishTimeout .mechanicsFailed r.cancelEntered

/-- The terminal phase without a record of it; what was queued is given up. -/
def Recovery.abandon (r : Recovery) : Recovery :=
  let phase := r.target
  let value :=
    if r.value.phase = phase then r.value
    else
      { r.value with
        phase := phase
        transitionSequence :=
          if r.value.transitionSequence = uint64Max then uint64Max else r.value.transitionSequence + 1 }
  { r with
    value := { value with flags := { value.flags with terminal := true } }
    pendingRead := 0, pendingRecords := []
    finalPending := !r.recipeEntered && decide (phase = .rejected)
    history := (r.pendingRecords.drop r.pendingRead).reverse.map Event.discarded ++ r.history }

def serviceAbnormal (qpc : Int) : Rec Unit := do
  let r ← Act.get
  if r.requested ∧ r.pumpDepth = 1 ∧ r.builderDepth = 0 ∧ r.timingDepth = 1 ∧ r.callbackDepth = 0 then
    if !r.terminal ∧ 0 ≤ qpc then setValue fun v => { v with qpc := qpc.toNat }
    let foreign ← foreignFault
    if foreign then fault .callbackInvalid .mechanicsFailed true
    abnormalDeadlines qpc
    let r ← Act.get
    if r.terminal then
      Act.modify Recovery.abandon
      let _ ← publish
      releaseCapture
      resumeBinding

def populationReason (r : Recovery) : RecoveryReason :=
  if r.schema = 1 then
    if r.source.bots ≠ 0 then .botsUnsupported
    else if r.source.humans = 2 then .none
    else .populationUnsupported
  else if r.schema = 2 ∧ r.mode = .observe ∧ r.source.maximum ≠ 0 ∧ r.source.maximum ≤ 64 then .none
  else .populationUnsupported

def heartbeatReason (t : Task.TaskSnapshot) : RecoveryReason :=
  if t.state ≠ 2 then .heartbeatStateUnsupported
  else if !t.schedule.valid then .heartbeatScheduleInvalid
  else if t.schedule.interval ≠ 30000 then .heartbeatIntervalUnsupported
  else if t.schedule.errors < 0 then .heartbeatErrors
  else if t.schedule.throttles < 0 then .heartbeatThrottled
  else if 1 < t.schedule.expedite then .heartbeatExpedited
  else if t.schedule.intervalOverride ≠ 0 ∨ t.schedule.retryOverride ≠ 0 then .heartbeatOverridesUnsupported
  else if t.schedule.retryLimit ≠ 3 then .heartbeatRetryUnsupported
  else .none

def preflight (capture : Capture) : Rec RecoveryReason := do
  if !recoveryPumpHeadroomAvailable capture then pure .pumpHeadroomUnavailable
  else
    let (source : Except Reason RecoverySource) ← Act.query Question.runtimeSource
    match source with
    | .error reason =>
        pure (if reason = .spectatorsPresent then .spectatorsPresent
          else if reason = .unsupportedCounts then .countsInvalid
          else .sourceUnavailable)
    | .ok source =>
        Act.modify fun r => { r with source := source }
        let r ← Act.get
        if populationReason r ≠ .none then pure (populationReason r)
        else
          let (task : Except Reason Task.TaskSnapshot) ← Act.query Question.runtimeTask
          match task with
          | .error _ => pure .heartbeatUnavailable
          | .ok task =>
              Act.modify fun r => { r with oldHeartbeat := task }
              pure (heartbeatReason task)

def nativeSnapshotGuardReason : RecoveryNativeResult → RecoveryReason
  | .ready => .snapshotGuardPassed
  | .invalidContext => .guardSnapshotInvalidContext
  | .unreadable => .guardSnapshotUnreadable
  | .changed => .guardSnapshotChanged
  | .budget => .guardSnapshotBudget
  | .shape => .guardSnapshotShape
  | .alias => .guardSnapshotAlias
  | .descriptor => .guardSnapshotDescriptor
  | .pool => .guardSnapshotPool
  | .readiness => .guardSnapshotReadiness
  | .hook => .guardSnapshotHook
  | .allocator => .guardSnapshotAllocator
  | .import => .guardSnapshotImport
  | .provenance => .guardSnapshotProvenance

def nativeGuardReason (before : RecoveryNativeSnapshot) (heartbeat : Task.TaskSnapshot) : RecoveryReason :=
  if before.read ≠ .ready then nativeSnapshotGuardReason before.read
  else if before.ready ≠ .ready then .guardReadiness
  else if before.standalone ≠ 3 then .guardStandalone
  else if before.sessionSize = 0 then .guardSession
  else if 0xffffffff - 3 ≤ before.issuedId then .guardIssuedId
  else if before.finishFirstFree ≠ .ready then .guardFinishFree
  else if before.createFirstFree ≠ .ready then .guardCreateFree
  else if 128 ≤ heartbeat.identity.slot ∨ 16 ≤ heartbeat.identity.holder % 65536 then .guardHeartbeatSlot
  else if heartbeat.identity.holder / 65536 ≠ before.heartbeatType then .guardHeartbeatType
  else if before.heartbeatId ≠ heartbeat.identity.id then .guardHeartbeatId
  else if before.genericId ≠ heartbeat.identity.id then .guardGenericId
  else if before.genericHolder ≠ heartbeat.identity.holder then .guardGenericHolder
  else if before.heartbeatReferences ≠ 1 then .guardHeartbeatReferences
  else .snapshotGuardPassed

end RS2ServerFix.LeechRecovery
