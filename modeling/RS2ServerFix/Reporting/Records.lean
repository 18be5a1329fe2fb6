import RS2ServerFix.Lib.Slots
import RS2ServerFix.Reporting.Status

namespace RS2ServerFix.Reporting

open Lib

structure ReportHeader where
  sequence : UInt64
  qpc : UInt64
  sourceEpoch : UInt64
  bindingEpoch : UInt64
  kind : UInt32
  reason : UInt32
  flags : UInt32
  threadId : UInt32
  deriving DecidableEq, Repr, Inhabited

structure ReportStatePayload where
  phase : UInt64
  requestSequence : UInt64
  witnessSequence : UInt64
  buildSequence : UInt64
  pendingSinceQpc : UInt64
  freshSinceQpc : UInt64
  qualificationFlags : UInt64
  nativeTaskState : UInt64
  mode : UInt32
  classification : UInt32
  pi : UInt32
  bots : UInt32
  maximum : UInt32
  pending : UInt32
  fresh : UInt32
  bound : UInt32
  clientQualificationMs : UInt64
  nativeScheduleValid : UInt64
  nativeScheduleAnchorBits : UInt64
  nativeErrorsBits : UInt64
  nativeThrottlesBits : UInt64
  nativeExpedite : UInt64
  nativeRetryLimit : UInt64
  nativeIntervalUnits : UInt64
  nativeIntervalOverrideBits : UInt64
  nativeRetryOverrideBits : UInt64
  nativeDelayUnits : UInt64
  nativeTier : UInt64
  reserved : Vector UInt64 2
  deriving DecidableEq, Repr, Inhabited

structure ReportRequestPayload where
  requestSequence : UInt64
  witnessSequence : UInt64
  stagedQpc : UInt64
  previousSampleQpc : UInt64
  observedQpc : UInt64
  freshSinceQpc : UInt64
  sourceAgeTicks : UInt64
  pi : UInt32
  bots : UInt32
  maximum : UInt32
  stagedBots : UInt32
  humanPlayers : UInt32
  worldBots : UInt32
  classification : UInt32
  pending : UInt32
  reserved : Vector UInt64 15
  deriving DecidableEq, Repr, Inhabited

structure ReportBuilderPayload where
  buildSequence : UInt64
  requestSequence : UInt64
  witnessSequence : UInt64
  sourceAgeTicks : UInt64
  probeElapsedTicks : UInt64
  classificationElapsedTicks : UInt64
  originalElapsedTicks : UInt64
  entryQpc : UInt64
  returnQpc : UInt64
  pi : UInt32
  bots : UInt32
  maximum : UInt32
  classification : UInt32
  selected : UInt32
  result : UInt32
  pending : UInt32
  fresh : UInt32
  preparedValid : UInt32
  preparedMismatchMask : UInt32
  preparedMaximum : UInt32
  preparedMembers : UInt32
  preparedPi : UInt32
  preparedBots : UInt32
  preparedJsonMaximum : UInt32
  preparedJsonBytes : UInt32
  preparedDirtyValid : UInt32
  preparedDirtyAtEntry : UInt32
  reserved : Vector UInt64 8
  deriving DecidableEq, Repr, Inhabited

structure ReportDurationSummary where
  calls : UInt64
  elapsedTicks : UInt64
  maximumTicks : UInt64
  overFiveMilliseconds : UInt64
  deriving DecidableEq, Repr, Inhabited

structure ReportAnchorPayload where
  normalAttempts : UInt64
  fullSelected : UInt64
  selectedTrue : UInt64
  normalReturns : UInt64
  falseReturns : UInt64
  nativeUnwinds : UInt64
  requestSequence : UInt64
  witnessSequence : UInt64
  buildSequence : UInt64
  distinctSelectedWitnesses : UInt64
  durations : Vector ReportDurationSummary 4
  deriving DecidableEq, Repr, Inhabited

structure ReportTransportSummaryPayload where
  anchorSequence : UInt64
  nativeSubmitCalls : UInt64
  nativeSubmitElapsedTicks : UInt64
  nativeSubmitMaximumTicks : UInt64
  nativeSubmitOverFiveMilliseconds : UInt64
  forwardedPumpWithoutCapture : UInt64
  forwardedBuilderWithoutCapture : UInt64
  transportState : UInt64
  transportReason : UInt64
  pauseEpoch : UInt64
  pauseBoundarySequence : UInt64
  submittedSequence : UInt64
  observedSequence : UInt64
  timingAccountedThroughQpc : UInt64
  generatedSequence : UInt64
  reserved : Vector UInt64 11
  deriving DecidableEq, Repr, Inhabited

structure ReportControlPayload where
  event : UInt64
  transportState : UInt64
  transportReason : UInt64
  pauseEpoch : UInt64
  pauseBoundarySequence : UInt64
  abandonedPendingRequest : UInt64
  abandonedWitness : UInt64
  lastRequestQpc : UInt64
  generatedBefore : UInt64
  submittedBefore : UInt64
  observedBefore : UInt64
  forwardedPumpWithoutCapture : UInt64
  forwardedBuilderWithoutCapture : UInt64
  timingAccountedThroughQpc : UInt64
  reserved : Vector UInt64 12
  deriving DecidableEq, Repr, Inhabited

structure ReportRecoveryPayload where
  phase : UInt64
  event : UInt64
  reason : UInt64
  outcome : UInt64
  flags : UInt64
  operationSequence : UInt64
  transitionSequence : UInt64
  qpc : UInt64
  sourceEpoch : UInt64
  sdkEpoch : UInt64
  ownerThreadId : UInt64
  resourcePhase : UInt64
  nativeStage : UInt64
  exceptionCode : UInt64
  requestId : UInt64
  callbackId : UInt64
  callbackResult : UInt64
  apiReturnedId : UInt64
  oldSdkFingerprint : UInt64
  newSdkFingerprint : UInt64
  oldCacheFingerprint : UInt64
  newCacheFingerprint : UInt64
  finishDeadlineQpc : UInt64
  overallDeadlineQpc : UInt64
  recordSequence : UInt64
  callbackOwnTicks : UInt64
  deriving DecidableEq, Repr, Inhabited

inductive RecordKindV3
  | state | request | witness | builderEnter | builderReturn | builderUnwind
  | anchor | transportSummary | control | recovery
  deriving DecidableEq, Repr

def RecordKindV3.code (k : RecordKindV3) : UInt32 := (k.ctorIdx + 1).toUInt32

def recordKindCount : UInt32 := 11

def RecordKindV3.ofCode (kind : UInt32) : Option RecordKindV3 :=
  [.state, .request, .witness, .builderEnter, .builderReturn, .builderUnwind, .anchor, .transportSummary,
    .control, .recovery].find? (fun k : RecordKindV3 => k.code = kind)

/-- The union of the source: the kind of the header says which member is the
active one, and the others are whatever the storage held. -/
structure ReportPayloadV3 where
  state : ReportStatePayload
  request : ReportRequestPayload
  builder : ReportBuilderPayload
  anchor : ReportAnchorPayload
  transport : ReportTransportSummaryPayload
  control : ReportControlPayload
  recovery : ReportRecoveryPayload
  deriving DecidableEq, Repr, Inhabited

structure ReportRecordV3 where
  header : ReportHeader
  payload : ReportPayloadV3
  deriving DecidableEq, Repr, Inhabited

namespace RecoveryFlags

def permissionEnabled : UInt64 := (1 : UInt64) <<< 0
def terminal : UInt64 := (1 : UInt64) <<< 9
def createCallbackObserved : UInt64 := (1 : UInt64) <<< 11
def createForwardEntered : UInt64 := (1 : UInt64) <<< 12
def createForwardNormalCompleted : UInt64 := (1 : UInt64) <<< 13
def callbackOwnTimingValid : UInt64 := (1 : UInt64) <<< 14
def publishedLocally : UInt64 := (1 : UInt64) <<< 15
def metadataAttempted : UInt64 := (1 : UInt64) <<< 16
def metadataCoherent : UInt64 := (1 : UInt64) <<< 17
def metadataUnverified : UInt64 := (1 : UInt64) <<< 18
def metadataDirtyAfter : UInt64 := (1 : UInt64) <<< 19
def consoleRequested : UInt64 := (1 : UInt64) <<< 20
def preflightRetryable : UInt64 := (1 : UInt64) <<< 21
def known : UInt64 := 0x3fffff

end RecoveryFlags

def recoveryPhaseRequested : UInt64 := 2
def recoveryPhaseRejected : UInt64 := 10
def recoveryOutcomeMechanicsFailed : UInt64 := 1
def recoveryOutcomeRecordingUnavailable : UInt64 := 4

namespace ReportRecoveryPayload

variable (p : ReportRecoveryPayload)

def flagged (mask : UInt64) : Bool := p.flags &&& mask ≠ 0

def inRange : Bool :=
  p.phase < 11 && p.event < 4 && p.reason < 83 && p.outcome < 10 && p.resourcePhase < 5 &&
    p.nativeStage < 22 && p.callbackResult < 6 && p.flags &&& ~~~RecoveryFlags.known = 0 &&
    p.ownerThreadId ≤ 0xffffffff && p.exceptionCode ≤ 0xffffffff && p.requestId ≤ 0xffffffff &&
    p.callbackId ≤ 0xffffffff && p.apiReturnedId ≤ 0xffffffff && p.qpc ≤ 0x7fffffffffffffff &&
    p.finishDeadlineQpc ≤ 0x7fffffffffffffff && p.overallDeadlineQpc ≤ 0x7fffffffffffffff &&
    p.callbackOwnTicks ≤ 0x7fffffffffffffff

def flagsConsistent : Bool :=
  let metadata := RecoveryFlags.metadataAttempted ||| RecoveryFlags.metadataCoherent |||
    RecoveryFlags.metadataUnverified ||| RecoveryFlags.metadataDirtyAfter
  (if p.flagged RecoveryFlags.callbackOwnTimingValid then p.flagged RecoveryFlags.createCallbackObserved
    else p.callbackOwnTicks = 0) &&
  (!p.flagged RecoveryFlags.createForwardNormalCompleted || p.flagged RecoveryFlags.createForwardEntered) &&
  (!p.flagged RecoveryFlags.createForwardEntered || p.flagged RecoveryFlags.createCallbackObserved) &&
  (!p.flagged metadata || p.flagged RecoveryFlags.publishedLocally) &&
  !(p.flagged RecoveryFlags.metadataCoherent && p.flagged RecoveryFlags.metadataUnverified) &&
  (!p.flagged RecoveryFlags.metadataDirtyAfter || p.flagged RecoveryFlags.metadataAttempted) &&
  (!p.flagged RecoveryFlags.consoleRequested || p.operationSequence ≠ 0)

def retryConsistent : Bool :=
  let required := RecoveryFlags.permissionEnabled ||| RecoveryFlags.terminal
  let allowed := required ||| RecoveryFlags.consoleRequested ||| RecoveryFlags.preflightRetryable
  p.phase = recoveryPhaseRejected && p.operationSequence ≠ 0 &&
    (p.outcome = recoveryOutcomeMechanicsFailed || p.outcome = recoveryOutcomeRecordingUnavailable) &&
    p.flags &&& ~~~allowed = 0 && p.flags &&& required = required && p.nativeStage = 0 &&
    p.resourcePhase = 0 && p.exceptionCode = 0 && p.requestId = 0 && p.callbackId = 0 &&
    p.callbackResult = 0 && p.apiReturnedId = 0

def recoveryPayloadValid : Bool :=
  p.inRange && p.flagsConsistent && (!p.flagged RecoveryFlags.preflightRetryable || p.retryConsistent)

end ReportRecoveryPayload

def validHeader (h : ReportHeader) : Bool :=
  h.sequence = 0 && 1 ≤ h.kind && h.kind < recordKindCount && h.reason < kReasonCount.toUInt32

def validRecovery (r : ReportRecordV3) : Bool :=
  if r.header.kind = RecordKindV3.recovery.code then
    r.header.reason = 0 && r.header.flags = 0 && r.payload.recovery.recordSequence = 0 &&
      r.payload.recovery.recoveryPayloadValid
  else true

def canonicalState (a : ReportStatePayload) : ReportStatePayload :=
  let b : ReportStatePayload :=
    { (default : ReportStatePayload) with
      phase := a.phase, requestSequence := a.requestSequence, witnessSequence := a.witnessSequence
      buildSequence := a.buildSequence, pendingSinceQpc := a.pendingSinceQpc, freshSinceQpc := a.freshSinceQpc
      qualificationFlags := a.qualificationFlags, nativeTaskState := a.nativeTaskState, mode := a.mode
      classification := a.classification, pi := a.pi, bots := a.bots, maximum := a.maximum
      pending := a.pending, fresh := a.fresh, bound := a.bound, clientQualificationMs := a.clientQualificationMs }
  if a.nativeScheduleValid = 1 then
    { b with
      nativeScheduleValid := 1, nativeScheduleAnchorBits := a.nativeScheduleAnchorBits
      nativeErrorsBits := a.nativeErrorsBits, nativeThrottlesBits := a.nativeThrottlesBits
      nativeExpedite := a.nativeExpedite, nativeRetryLimit := a.nativeRetryLimit
      nativeIntervalUnits := a.nativeIntervalUnits, nativeIntervalOverrideBits := a.nativeIntervalOverrideBits
      nativeRetryOverrideBits := a.nativeRetryOverrideBits, nativeDelayUnits := a.nativeDelayUnits
      nativeTier := a.nativeTier }
  else b

def kJsonBytes : UInt32 := 65536

def canonicalBuilder (a : ReportBuilderPayload) : ReportBuilderPayload :=
  let b : ReportBuilderPayload :=
    { (default : ReportBuilderPayload) with
      buildSequence := a.buildSequence, requestSequence := a.requestSequence
      witnessSequence := a.witnessSequence, sourceAgeTicks := a.sourceAgeTicks
      probeElapsedTicks := a.probeElapsedTicks, classificationElapsedTicks := a.classificationElapsedTicks
      originalElapsedTicks := a.originalElapsedTicks, entryQpc := a.entryQpc, returnQpc := a.returnQpc
      pi := a.pi, bots := a.bots, maximum := a.maximum, classification := a.classification
      selected := a.selected, result := a.result, pending := a.pending, fresh := a.fresh }
  let b :=
    if a.preparedValid = 1 ∧ a.preparedMismatchMask ≤ 31 ∧ a.preparedMembers ≤ 4096 ∧
        0 < a.preparedJsonBytes ∧ a.preparedJsonBytes ≤ kJsonBytes then
      { b with
        preparedValid := 1, preparedMismatchMask := a.preparedMismatchMask
        preparedMaximum := a.preparedMaximum, preparedMembers := a.preparedMembers
        preparedPi := a.preparedPi, preparedBots := a.preparedBots
        preparedJsonMaximum := a.preparedJsonMaximum, preparedJsonBytes := a.preparedJsonBytes }
    else b
  if a.preparedDirtyValid = 1 ∧ a.preparedDirtyAtEntry ≤ 1 then
    { b with preparedDirtyValid := 1, preparedDirtyAtEntry := a.preparedDirtyAtEntry }
  else b

def canonicalPayload (a : ReportPayloadV3) : RecordKindV3 → ReportPayloadV3
  | .state => { (default : ReportPayloadV3) with state := canonicalState a.state }
  | .request | .witness =>
      { (default : ReportPayloadV3) with request := { a.request with reserved := default } }
  | .builderEnter | .builderReturn | .builderUnwind =>
      { (default : ReportPayloadV3) with builder := canonicalBuilder a.builder }
  | .anchor => { (default : ReportPayloadV3) with anchor := a.anchor }
  | .transportSummary =>
      { (default : ReportPayloadV3) with transport := { a.transport with reserved := default } }
  | .control => { (default : ReportPayloadV3) with control := { a.control with reserved := default } }
  | .recovery => { (default : ReportPayloadV3) with recovery := a.recovery }

def canonicalRecord (a : ReportRecordV3) (sequence : UInt64) (owner : UInt32) : ReportRecordV3 :=
  ⟨{ a.header with sequence := sequence, threadId := owner },
    ((RecordKindV3.ofCode a.header.kind).map (canonicalPayload a.payload)).getD default⟩

def kReportRecordCapacity : Nat := 256

instance capacity_neZero : NeZero 256 := ⟨by decide⟩
def kReportBatchLimit : Nat := 32

structure ReportRingV3 where
  ownerThreadId : UInt32
  ready : Bool
  reportWriteSequence : Nat
  reportReadSequence : Nat
  slots : Slots 256 ReportRecordV3

def initializeReportRing (ownerThreadId : UInt32) : ReportRingV3 := ⟨ownerThreadId, true, 0, 0, .fill default⟩

inductive ReportWriteResult
  | accepted
  | stopping
  | revoked
  | unavailable
  | lost
  deriving DecidableEq, Repr

inductive ReportReadResult
  | record (r : ReportRecordV3)
  | empty
  | unavailable
  | lost
  deriving DecidableEq, Repr

def admission (status : StatusWords) : ReportWriteResult :=
  if status.stopping then .stopping
  else if statusRevoked status then .revoked
  else .accepted

/-- `thread` is the calling thread. The last component is the accepted
sequence, zero on every refusal. -/
def enqueueReport (status : StatusWords) (ring : ReportRingV3) (thread : UInt32) (input : ReportRecordV3) :
    StatusWords × ReportRingV3 × ReportWriteResult × Nat :=
  if !ring.ready then (status, ring, .unavailable, 0)
  else if thread ≠ ring.ownerThreadId then (revokeStatus status .foreignThread, ring, .revoked, 0)
  else if admission status ≠ .accepted then (status, ring, admission status, 0)
  else
    let written := ring.reportWriteSequence
    let read := ring.reportReadSequence
    if !validHeader input.header ∨ !validRecovery input then (loseStatus status .recordLoss, ring, .lost, 0)
    else if written < read ∨ kReportRecordCapacity < written - read then
      (loseStatus status .recordLoss, ring, .lost, 0)
    else if written = uint64Max then (loseStatus status .counterOverflow, ring, .lost, 0)
    else if written - read = kReportRecordCapacity then (loseStatus status .recordLoss, ring, .lost, 0)
    else
      let record := canonicalRecord input (written + 1).toUInt64 ring.ownerThreadId
      (status, { ring with slots := ring.slots.set written record, reportWriteSequence := written + 1 },
        .accepted, written + 1)

def slotReadable (ring : ReportRingV3) (read : Nat) (slot : ReportRecordV3) : Bool :=
  slot.header.sequence.toNat = read + 1 && 1 ≤ slot.header.kind && slot.header.kind < recordKindCount &&
    slot.header.reason < kReasonCount.toUInt32 && slot.header.threadId = ring.ownerThreadId && validRecovery slot

def dequeueReport (status : StatusWords) (ring : ReportRingV3) : StatusWords × ReportRingV3 × ReportReadResult :=
  if !ring.ready then (status, ring, .unavailable)
  else
    let read := ring.reportReadSequence
    let written := ring.reportWriteSequence
    if written < read ∨ kReportRecordCapacity < written - read then
      (loseStatus status .recordLoss, ring, .lost)
    else if read = written then (status, ring, .empty)
    else
      let slot := ring.slots.get read
      if !slotReadable ring read slot then (loseStatus status .recordLoss, ring, .lost)
      else
        (status, { ring with slots := ring.slots.set read default, reportReadSequence := read + 1 }, .record slot)

end RS2ServerFix.Reporting
