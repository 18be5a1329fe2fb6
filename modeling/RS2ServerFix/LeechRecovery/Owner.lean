import RS2ServerFix.LeechRecovery.Timing
import RS2ServerFix.Lib.Act
import RS2ServerFix.NativeLog.Submission
import RS2ServerFix.Task.Binding

namespace RS2ServerFix.LeechRecovery

open Reporting Lib

inductive RequestOrigin
  | none | pipe | serverAdminConsole
  deriving DecidableEq, Repr

structure CaptureReservation where
  remaining : Nat
  active : Bool
  deriving DecidableEq, Repr

structure RecoverySource where
  humans : Nat
  bots : Nat
  maximum : Nat
  outer : NativeCounts
  deriving DecidableEq, Repr

/-- What happened, newest first. -/
inductive Event
  | fault (reason : RecoveryReason) (outcome : RecoveryOutcome) (restart : Bool)
  | queued (v : RecoveryValue)
  | discarded (v : RecoveryValue)
  | suppressed (v : RecoveryValue)
  | recorded (v : RecoveryValue) (accepted : Bool)
  | published (v : RecoveryValue) (accepted : Bool)
  | operation (origin : RequestOrigin)
  | recipe
  | cancelled
  | released (origin : RequestOrigin) (v : RecoveryValue) (holder : UInt32)
  deriving DecidableEq, Repr

/-- The sidecar of the recovery with what it reads and writes of the runtime.
The history is kept for the statements alone. -/
structure Recovery where
  schema : Nat
  mode : Mode
  frequency : Int
  pumpDepth : Nat
  builderDepth : Nat
  timingDepth : Nat
  transport : TransportState
  bindingSuspended : Bool
  recoveryQuota : CaptureReservation
  ownerSequence : Nat
  latched : RequestOrigin
  value : RecoveryValue
  pendingRecords : List RecoveryValue
  pendingRead : Nat
  source : RecoverySource
  oldHeartbeat : Task.TaskSnapshot
  callbackTiming : PrimaryCallbackTiming
  holder : UInt32
  finishId : UInt32
  createSlot : Nat
  createId : UInt32
  createHolder : UInt32
  finishSlot : Nat
  finishType : Nat
  callbackDepth : Nat
  lastEmissionQpc : Nat
  qualifyingRecordSequence : Nat
  metadataDeadlineQpc : Nat
  metadataLastProbeQpc : Nat
  foreignFault : Bool
  prepared : Bool
  controlStarted : Bool
  requested : Bool
  terminal : Bool
  finalPending : Bool
  finishObserved : Bool
  finishTrue : Bool
  enqueueReturned : Bool
  cancelEntered : Bool
  createInstalled : Bool
  createForwarded : Bool
  createReturned : Bool
  exceptionPending : Bool
  resourceReleaseAttempted : Bool
  bindEntered : Bool
  bindCompleted : Bool
  recipeEntered : Bool
  metadataHeadOwned : Bool
  metadataDestructorEntered : Bool
  metadataUpdateReturned : Bool
  haveMetadataProbe : Bool
  history : List Event
  deriving DecidableEq, Repr

/-- A reading of the performance counter that did not fail. -/
abbrev Qpc := Fin (qpcMax + 1)

inductive Condition
  | runtimeAdmission
  | captureWords
  | stopping
  | safeOwner
  | loggerLease
  | foreignThread
  | controlServing
  | controlReady
  | controlFailed
  | consoleAvailable
  | nativeProfile
  | nativeLease (standalone : Nat)
  | sameSession
  | samePublishedSession
  | finishInverse (bound : Bool)
  | finishTypeLeased
  | finishFirstFree
  | requestResolved
  | heartbeatRetired
  | taskRetired
  | heartbeatCancelled
  | createFirstFree
  | heartbeatFirstFree
  | issuedIdFree
  | sessionEmpty
  | guardWritable
  | guardWritten
  | createTaskRead
  | createTaskMatches
  | createFramesCaptured
  | createResultRead
  | createSlotSafe
  | sessionChanged
  | cacheMatches
  | freshHeartbeat
  | metadataProfile
  | metadataTask
  | metadataCallsKnown
  | metadataMembers
  | quiescent
  | consoleDue
  | transportDue
  | startControl
  deriving DecidableEq, Repr

inductive NativeCall
  | finishType | initHolder | finishAllocate | bindHolder | resolveHolder | copyString | cancel
  | enqueueFinish | finishRelease | releaseHolder | cleanup | start | create | createSuccess
  | metadataHead | metadataFill | metadataUpdate | metadataDestroy | pump | builder | logService | console
  deriving DecidableEq, Repr

inductive FinishByte
  | null
  | unreadable
  | byte (b : UInt8)
  deriving DecidableEq, Repr

/-- What the owner thread can come into from the native side. -/
inductive Occurrence
  | pump
  | builder
  | finishSuccess (result : FinishByte) (id : UInt32)
  | finishError (code id : UInt32)
  | createSuccess (id : UInt32)
  | resumed (code : UInt32)
  deriving DecidableEq, Repr

structure NativeAnswer where
  occurrences : List Occurrence
  outcome : Except UInt32 UInt32

inductive RecoveryNativeResult
  | ready | invalidContext | unreadable | changed | budget | shape | alias | descriptor | pool | readiness | hook
  | allocator | import | provenance
  deriving DecidableEq, Repr

structure RecoveryNativeSnapshot where
  read : RecoveryNativeResult
  ready : RecoveryNativeResult
  standalone : Nat
  sessionSize : Nat
  issuedId : Nat
  finishFirstFree : RecoveryNativeResult
  createFirstFree : RecoveryNativeResult
  heartbeatType : Nat
  heartbeatId : Nat
  genericId : Nat
  genericHolder : Nat
  heartbeatReferences : Int
  deriving DecidableEq, Repr

structure RecoveryMetadataCache where
  counts : NativeCounts
  countdownBits : Nat
  registrationChanged : Bool
  fullDirty : Bool
  deriving DecidableEq, Repr

structure PreparedDiagnostic where
  membersCount : Nat
  mismatchMask : Nat
  valid : Bool
  deriving DecidableEq, Repr

structure MetadataView where
  counts : NativeCounts
  prepared : PreparedDiagnostic
  cached : RecoveryMetadataCache
  deriving DecidableEq, Repr

structure Capture where
  classification : NativeLog.CallerClass
  count : Nat
  truncated : Bool
  deriving DecidableEq, Repr

inductive ControlResult
  | uninitialized | disabled | ready | missing | invalidConfig | invalidIdentity | invalidPath
  | securityRejected | readFailure | invalidRequest | latched | stopped | workerFailure | pendingWrite
  | endpointUnavailable | alreadyClaimed
  deriving DecidableEq, Repr

inductive Question
  | holds (c : Condition)
  | reserve (amount : Nat)
  | emit (v : RecoveryValue)
  | runtimeClock
  | pureClock
  | idleLifecycle
  | sourceEpoch
  | observedSequence
  | claim
  | runtimeSource
  | runtimeTask
  | taskPhase
  | nativeSnapshot
  | changedOnlyCreate (installed : Bool)
  | fingerprints
  | metadataInputs
  | capture
  | refresh
  | initializeControl
  | native (call : NativeCall)
  deriving DecidableEq, Repr

def Answer : Question → Type
  | .holds _ | .reserve _ => Bool
  | .emit _ => Option UInt64
  | .runtimeClock | .pureClock => Option Qpc
  | .idleLifecycle | .sourceEpoch | .observedSequence => UInt64
  | .claim => RequestOrigin
  | .runtimeSource => Except Reason RecoverySource
  | .runtimeTask => Except Reason Task.TaskSnapshot
  | .taskPhase => Task.TaskPhase
  | .nativeSnapshot => RecoveryNativeSnapshot
  | .changedOnlyCreate _ => Option (Nat × UInt32 × UInt32)
  | .fingerprints => UInt64 × UInt64
  | .metadataInputs => MetadataView
  | .capture => Capture
  | .refresh => TransportState
  | .initializeControl => ControlResult
  | .native _ => NativeAnswer

/-- A program of the owner thread; a raise is a native exception. -/
abbrev Rec (α : Type) := Act Question Answer Recovery UInt32 α

def holds (c : Condition) : Rec Bool := Act.query (Question.holds c)

def runtimeClock : Rec (Option Qpc) := Act.query Question.runtimeClock

/-- The performance counter alone, zero counting as a failure. -/
def pureClock : Rec (Option Nat) := do
  let (reading : Option Qpc) ← Act.query Question.pureClock
  pure ((reading.map Fin.val).filter fun q => 0 < q)

def runtimeCaptureAdmission : Rec Bool := do
  let admitted ← holds .runtimeAdmission
  let r ← Act.get
  if !admitted || r.transport ≠ .running then pure false else holds .captureWords

def reserveCapture (amount : Nat) : Rec Bool := do
  let r ← Act.get
  if r.recoveryQuota.active ∨ amount = 0 ∨ 9 < amount then pure false
  else
    let (granted : Bool) ← Act.query (Question.reserve amount)
    if !granted then pure false
    else
      Act.modify fun r => { r with recoveryQuota := ⟨amount, true⟩ }
      pure true

def releaseCapture : Rec Unit := Act.modify fun r => { r with recoveryQuota := ⟨0, false⟩ }

def setValue (f : RecoveryValue → RecoveryValue) : Rec Unit := Act.modify fun r => { r with value := f r.value }

def setStage (stage : NativeStage) : Rec Unit := setValue fun v => { v with nativeStage := stage }

end RS2ServerFix.LeechRecovery
