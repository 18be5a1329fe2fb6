import RS2ServerFix.LeechRecovery.Value
import RS2ServerFix.Reporting.Status
import RS2ServerFix.Snapshot.RecoveryStatus

namespace RS2ServerFix.Console

open Reporting Snapshot
open LeechRecovery (RecoveryPhase)

inductive ConsoleState
  | waitingLogger
  | paused
  | ready
  | disabled
  deriving DecidableEq, Repr

structure ConsoleNotice where
  state : ConsoleState
  transportReason : Bool
  reason : UInt64
  epoch : UInt64
  ownerTransition : UInt64
  workerCondition : UInt64
  sourceQpc : UInt64
  deriving DecidableEq, Repr

inductive ReportPhase
  | uninitialized | initializing | rejected | prepared | awaitingInit | observing | repairing | stopping | faulted
  | waitingLogger | paused
  deriving DecidableEq, Repr

def ReportPhase.word (p : ReportPhase) : UInt64 := p.ctorIdx.toUInt64

def transportWord (s : TransportState) : UInt64 := s.value.toUInt64

structure StatusOwner where
  phase : UInt64
  reason : UInt64
  ownerThreadId : UInt64
  sourceEpoch : UInt64
  bindingEpoch : UInt64
  lastOwnerQpc : UInt64
  readyQpc : UInt64
  builderBound : UInt64
  deriving DecidableEq, Repr

structure OwnerTransport where
  state : UInt64
  reason : UInt64
  startupSubmitted : UInt64
  actualRepairAdmitted : UInt64
  pauseEpoch : UInt64
  transitionSequence : UInt64
  transitionQpc : UInt64
  deriving DecidableEq, Repr

structure WorkerTransport where
  startupObserved : UInt64
  pauseReason : UInt64
  pauseConditionSequence : UInt64
  pauseConditionQpc : UInt64
  deriving DecidableEq, Repr

/-- The words that the worker compares once more before it writes. -/
inductive StatusWord
  | workerPauseReason | fatalTransportReason | revokeReasons | lossReasons | ownerSequence | workerSequence
  deriving DecidableEq, Repr

structure StatusWire where
  header : Snapshot.StatusHeader
  words : StatusWord → UInt64
  stopping : UInt64
  owner : StatusOwner
  ownerTransport : OwnerTransport
  worker : WorkerTransport

structure StatusSnapshot where
  wire : StatusWire
  headerAvailable : Bool
  coreAvailable : Bool
  logIdentityAvailable : Bool
  workerPauseChanged : Bool

def kReasons : UInt64 := kReasonCount.toUInt64

def snapshotCurrentlyReady (snapshot : StatusSnapshot) (now frequency : UInt64) : Bool :=
  let wire := snapshot.wire
  let owner := wire.owner
  let transport := wire.ownerTransport
  if !snapshot.coreAvailable || !snapshot.headerAvailable || !snapshot.logIdentityAvailable ||
      snapshot.workerPauseChanged || wire.words .revokeReasons ≠ 0 || wire.words .lossReasons ≠ 0 ||
      wire.stopping ≠ 0 || wire.words .fatalTransportReason ≠ 0 || wire.words .workerPauseReason ≠ 0 ||
      wire.worker.pauseReason ≠ 0 || wire.header.pid = 0 || wire.header.processCreation = 0 ||
      wire.header.validity ≠ Snapshot.completeHeaderIdentity || frequency = 0 || 0x7fffffffffffffff / 45 < frequency ||
      wire.header.qpcFrequency ≠ frequency || now = 0 || owner.lastOwnerQpc = 0 || now < owner.lastOwnerQpc ||
      2 * frequency < now - owner.lastOwnerQpc || owner.readyQpc = 0 || now < owner.readyQpc ||
      owner.ownerThreadId = 0 || owner.sourceEpoch = 0 || owner.bindingEpoch = 0 || owner.builderBound ≠ 1 ||
      transport.state ≠ transportWord .running || transport.reason ≠ 0 || transport.startupSubmitted ≠ 1 ||
      wire.worker.startupObserved ≠ 1 then false
  else if !anyByte wire.header.runId || wire.header.hostDigest.all (· = 0) then false
  else if wire.header.configuredMode = 2 then
    owner.phase = ReportPhase.observing.word && transport.actualRepairAdmitted = 0
  else if wire.header.configuredMode = 3 then
    owner.phase = ReportPhase.repairing.word && transport.actualRepairAdmitted = 1
  else false

def disabledReason (bits ownerReason : UInt64) : UInt64 :=
  if ownerReason = 0 || kReasons ≤ ownerReason || (bits ≠ 0 && bits &&& ((1 : UInt64) <<< ownerReason) = 0) then
    match (List.range kReasonCount).find? fun bit => bit ≠ 0 && bits &&& ((1 : UInt64) <<< bit.toUInt64) ≠ 0 with
    | some bit => bit.toUInt64
    | none => Reason.statusUnavailable.value.toUInt64
  else ownerReason

def selectReportingConsoleNotice (snapshot : StatusSnapshot) (now : UInt64) : Option ConsoleNotice :=
  if !snapshot.coreAvailable || !snapshot.headerAvailable || now = 0 then none
  else
    let w := snapshot.wire
    let t := w.ownerTransport
    if w.stopping ≠ 0 || t.state = transportWord .stopping then none
    else
      let sourceQpc := if t.transitionQpc ≠ 0 then t.transitionQpc else w.owner.lastOwnerQpc
      let sourceQpc := if sourceQpc = 0 then now else sourceQpc
      let n : ConsoleNotice :=
        ⟨.waitingLogger, false, 0, t.pauseEpoch, t.transitionSequence, w.worker.pauseConditionSequence, sourceQpc⟩
      let fatal := w.words .fatalTransportReason
      if fatal ≠ 0 || w.words .revokeReasons ≠ 0 || w.words .lossReasons ≠ 0 || t.state = transportWord .faulted ||
          w.owner.phase = ReportPhase.rejected.word || w.owner.phase = ReportPhase.faulted.word then
        some { n with
          state := .disabled
          transportReason := fatal ≠ 0
          reason := if fatal ≠ 0 then fatal
            else disabledReason (w.words .revokeReasons ||| w.words .lossReasons) w.owner.reason }
      else
        let gate := w.words .workerPauseReason
        let waiting : ConsoleState := if w.owner.readyQpc ≠ 0 then .paused else .waitingLogger
        -- The worker closes its gate before it publishes the condition.
        let workerReason := if gate ≠ 0 then gate else w.worker.pauseReason
        let reason := if workerReason ≠ 0 then workerReason else t.reason
        if reason ≠ 0 || snapshot.workerPauseChanged || t.state = transportWord .waitingLogger ||
            t.state = transportWord .paused then
          let n := { n with
            state := waiting
            transportReason := true
            reason := if reason ≠ 0 then reason else TransportReason.awaitingLogger.value.toUInt64 }
          if workerReason ≠ 0 && w.worker.pauseReason = workerReason && w.worker.pauseConditionQpc ≠ 0 then
            some { n with sourceQpc := w.worker.pauseConditionQpc }
          else if workerReason ≠ 0 && gate ≠ w.worker.pauseReason then
            some { n with workerCondition := 0, sourceQpc := now }
          else some n
        else if snapshotCurrentlyReady snapshot now w.header.qpcFrequency then
          some { n with
            state := .ready
            transportReason := true
            sourceQpc := if n.ownerTransition = 0 then w.owner.readyQpc else n.sourceQpc }
        else
          some { n with
            state := waiting
            reason := if w.owner.reason ≠ 0 then w.owner.reason else Reason.sourceUnavailable.value.toUInt64 }

def same (a b : ConsoleNotice) : Bool :=
  a.state = b.state && a.transportReason = b.transportReason && a.reason = b.reason && a.epoch = b.epoch &&
    a.ownerTransition = b.ownerTransition && a.workerCondition = b.workerCondition

def restartRequiredFlag : UInt64 := (1 : UInt64) <<< 2
def exceptionObservedFlag : UInt64 := (1 : UInt64) <<< 8
def noticeFlags : UInt64 := restartRequiredFlag ||| RecoveryFlags.terminal ||| exceptionObservedFlag

structure RecoveryNotice where
  pid : UInt32
  runId : UInt64 × UInt64
  ownerSequence : UInt64
  payload : ReportRecoveryPayload
  deriving DecidableEq, Repr

def sameRecovery (a b : RecoveryNotice) : Bool :=
  let x := a.payload
  let y := b.payload
  a.pid = b.pid && a.runId = b.runId && x.operationSequence = y.operationSequence &&
    x.transitionSequence = y.transitionSequence && x.phase = y.phase && x.reason = y.reason &&
    x.flags &&& noticeFlags = y.flags &&& noticeFlags

def recoveryTerminalNotice (wire : RecoveryNotice) : Bool :=
  wire.payload.flags &&& noticeFlags ≠ 0 || wire.payload.phase = RecoveryPhase.failed.ctorIdx.toUInt64 ||
    wire.payload.phase = RecoveryPhase.rejected.ctorIdx.toUInt64

/-- A status to report at all: anything but a disabled recovery with no reason and no flag. -/
def recoverySelectable (wire : RecoveryNotice) : Bool :=
  wire.payload.phase ≠ RecoveryPhase.disabled.ctorIdx.toUInt64 || wire.payload.reason ≠ 0 || wire.payload.flags ≠ 0

end RS2ServerFix.Console
