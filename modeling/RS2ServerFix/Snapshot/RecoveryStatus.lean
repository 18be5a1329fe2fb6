import RS2ServerFix.Lib.Seqlock
import RS2ServerFix.Reporting.Records

namespace RS2ServerFix.Snapshot

open Reporting Lib

structure StatusHeader where
  magic : UInt64
  schema : UInt32
  bytes : UInt32
  artifactVersion : UInt32
  configuredMode : UInt32
  pid : UInt32
  validity : UInt32
  processCreation : UInt64
  qpcFrequency : UInt64
  /-- Sixteen bytes, as the two words they fill. -/
  runId : UInt64 × UInt64
  hostDigest : Vector UInt8 32
  reserved : Vector UInt64 4
  deriving DecidableEq, Repr

def kStatusMagic : UInt64 := 0x3154505232535255
def kStatusSchemaV3 : UInt32 := 3
def statusWireV3Bytes : UInt32 := 3896
def kReportingArtifactVersionV3 : UInt32 := 0x00070100
def kRecoveryArtifactVersion : UInt32 := 0x00070100
def completeHeaderIdentity : UInt32 := 31
def kRecoveryStatusSchemaV1 : UInt32 := 1
def recoveryStatusWireBytes : UInt32 := 256

def anyByte (runId : UInt64 × UInt64) : Bool := runId.1 ||| runId.2 ≠ 0

def reportingIdentityValidV3 (h : StatusHeader) : Bool :=
  h.magic = kStatusMagic && h.schema = kStatusSchemaV3 && h.bytes = statusWireV3Bytes &&
    h.artifactVersion = kReportingArtifactVersionV3 && h.artifactVersion = kRecoveryArtifactVersion &&
    h.configuredMode ≤ 3 && h.validity = completeHeaderIdentity && h.pid ≠ 0 && h.processCreation ≠ 0 &&
    h.qpcFrequency ≠ 0 && h.qpcFrequency ≤ 0x7fffffffffffffff / 45 && anyByte h.runId &&
    h.hostDigest.any (· ≠ 0) && h.reserved.all (· = 0)

/-- The members before the ready word: two pairs that fill a word each, and the
two words of the run. -/
structure RecoveryHeader where
  schema : UInt32
  bytes : UInt32
  artifactVersion : UInt32
  pid : UInt32
  runId : UInt64 × UInt64
  deriving DecidableEq, Repr

structure RecoveryStatusWire where
  header : RecoveryHeader
  headerReady : UInt64
  ownerSequence : UInt64
  payload : Nat → UInt64

def payloadWords : Nat := 26

namespace ReportRecoveryPayload

def words (p : ReportRecoveryPayload) : List UInt64 :=
  [p.phase, p.event, p.reason, p.outcome, p.flags, p.operationSequence, p.transitionSequence, p.qpc, p.sourceEpoch,
    p.sdkEpoch, p.ownerThreadId, p.resourcePhase, p.nativeStage, p.exceptionCode, p.requestId, p.callbackId,
    p.callbackResult, p.apiReturnedId, p.oldSdkFingerprint, p.newSdkFingerprint, p.oldCacheFingerprint,
    p.newCacheFingerprint, p.finishDeadlineQpc, p.overallDeadlineQpc, p.recordSequence, p.callbackOwnTicks]

def word (p : ReportRecoveryPayload) (i : Nat) : UInt64 := (words p).getD i 0

def ofWords (w : Nat → UInt64) : ReportRecoveryPayload :=
  ⟨w 0, w 1, w 2, w 3, w 4, w 5, w 6, w 7, w 8, w 9, w 10, w 11, w 12, w 13, w 14, w 15, w 16, w 17, w 18, w 19, w 20,
    w 21, w 22, w 23, w 24, w 25⟩

def zero : ReportRecoveryPayload := ofWords fun _ => 0

@[simp] theorem ofWords_word (p : ReportRecoveryPayload) : ofWords (word p) = p := rfl

theorem ofWords_congr {w w' : Nat → UInt64} (h : ∀ i < payloadWords, w i = w' i) : ofWords w = ofWords w' := by
  simp only [ofWords, ReportRecoveryPayload.mk.injEq]
  simp only [payloadWords] at h
  exact ⟨h 0 (by omega), h 1 (by omega), h 2 (by omega), h 3 (by omega), h 4 (by omega), h 5 (by omega), h 6 (by omega),
    h 7 (by omega), h 8 (by omega), h 9 (by omega), h 10 (by omega), h 11 (by omega), h 12 (by omega), h 13 (by omega),
    h 14 (by omega), h 15 (by omega), h 16 (by omega), h 17 (by omega), h 18 (by omega), h 19 (by omega),
    h 20 (by omega), h 21 (by omega), h 22 (by omega), h 23 (by omega), h 24 (by omega), h 25 (by omega)⟩

end ReportRecoveryPayload

/-- The wire, and beside it the identity it was initialized with and what was
published so far, the last one first. The programs read the wire only. -/
structure RecoveryShared where
  wire : RecoveryStatusWire
  identity : Option StatusHeader
  published : List ReportRecoveryPayload

def RecoveryShared.zero : RecoveryShared := ⟨⟨⟨0, 0, 0, 0, 0, 0⟩, 0, 0, fun _ => 0⟩, none, []⟩

def recoveryBlock : Seqlock RecoveryShared where
  sequence := fun s => s.wire.ownerSequence
  word := fun i s => s.wire.payload i
  history := fun s => s.published.map ReportRecoveryPayload.word

abbrev WireProg := Prog RecoveryShared

def storeHeader (f : RecoveryHeader → RecoveryHeader) : WireProg Unit :=
  .modify fun s => { s with wire := { s.wire with header := f s.wire.header } }

def storeReady (value : UInt64) : WireProg Unit :=
  .modify fun s => { s with wire := { s.wire with headerReady := value } }

def storeSequence (value : UInt64) : WireProg Unit :=
  .modify fun s => { s with wire := { s.wire with ownerSequence := value } }

/-- The store that makes a payload readable. -/
def storePublished (value : UInt64) (payload : ReportRecoveryPayload) : WireProg Unit :=
  .modify fun s => { s with wire := { s.wire with ownerSequence := value }, published := payload :: s.published }

def storeWords (i : Nat) : List UInt64 → WireProg Unit
  | [] => .done ()
  | value :: rest => do
      Prog.modify fun s => { s with wire := { s.wire with payload := Function.update s.wire.payload i value } }
      storeWords (i + 1) rest

def storePayload (payload : ReportRecoveryPayload) : WireProg Unit :=
  storeWords 0 (ReportRecoveryPayload.words payload)

def initializeRecoveryStatus (identity : StatusHeader) : WireProg Bool := do
  if !reportingIdentityValidV3 identity then return false
  let entered ← Prog.act fun s => if s.wire.headerReady = 0 then
      (true, { s with wire := { s.wire with headerReady := 2 }, identity := some identity }) else (false, s)
  if !entered then return false
  storeHeader fun h => { h with schema := kRecoveryStatusSchemaV1 }
  storeHeader fun h => { h with bytes := recoveryStatusWireBytes }
  storeHeader fun h => { h with artifactVersion := kRecoveryArtifactVersion }
  storeHeader fun h => { h with pid := identity.pid }
  storeHeader fun h => { h with runId := (identity.runId.1, h.runId.2) }
  storeHeader fun h => { h with runId := (h.runId.1, identity.runId.2) }
  storeSequence 1
  storePayload ReportRecoveryPayload.zero
  storePublished 2 ReportRecoveryPayload.zero
  storeReady 1
  return true

def recoveryHeaderValid (h : RecoveryHeader) : Bool :=
  h.schema = kRecoveryStatusSchemaV1 && h.bytes = recoveryStatusWireBytes &&
    h.artifactVersion = kRecoveryArtifactVersion && h.pid ≠ 0 && anyByte h.runId

def loadHeader : WireProg RecoveryHeader := do
  let first ← Prog.read fun s => (s.wire.header.schema, s.wire.header.bytes)
  let second ← Prog.read fun s => (s.wire.header.artifactVersion, s.wire.header.pid)
  let third ← Prog.read fun s => s.wire.header.runId.1
  let fourth ← Prog.read fun s => s.wire.header.runId.2
  return ⟨first.1, first.2, second.1, second.2, third, fourth⟩

def publishRecoveryStatus (payload : ReportRecoveryPayload) : WireProg Bool := do
  if !payload.recoveryPayloadValid then return false
  let ready ← Prog.read fun s => s.wire.headerReady
  if ready ≠ 1 then return false
  let header ← loadHeader
  if !recoveryHeaderValid header then return false
  let before ← Prog.read fun s => s.wire.ownerSequence
  if before < 2 || before % 2 = 1 || 0xfffffffffffffffd < before then return false
  storeSequence (before + 1)
  storePayload payload
  storePublished (before + 2) payload
  return true

inductive RecoverySnapshotResult
  | coherent | busy | unavailable | invalid | readFailure
  deriving DecidableEq, Repr

/-- What a reader returns; the members of the wire are those of its copy. -/
structure RecoveryStatusSnapshot where
  result : RecoverySnapshotResult
  attempts : Nat
  header : RecoveryHeader
  headerReady : UInt64
  ownerSequence : UInt64
  payload : ReportRecoveryPayload
  deriving DecidableEq

def RecoveryStatusSnapshot.failed (result : RecoverySnapshotResult) (attempts : Nat) : RecoveryStatusSnapshot :=
  ⟨result, attempts, ⟨0, 0, 0, 0, 0, 0⟩, 0, 0, ReportRecoveryPayload.zero⟩

inductive RecoveryRead
  | readyBefore | header | before | payload | after | headerAfter | readyAfter
  deriving DecidableEq, Repr

section Reader

-- The reads that fail, of each attempt.
variable (fails : Nat → RecoveryRead → Bool)

/-- One read of the source: it fails, and the reader gives up, or it is made. -/
def attemptRead {α : Type} (attempt : Nat) (which : RecoveryRead) (p : WireProg α)
    (next : α → WireProg RecoveryStatusSnapshot) : WireProg RecoveryStatusSnapshot :=
  if fails attempt which then .done (.failed .readFailure attempt) else p.bind next

/-- The attempts from `attempt` on, `left` of them. `seen` is the header of the
attempts before, and `highest` the last sequence that one of them met. -/
def readRecoveryAttempts : Nat → Nat → Option RecoveryHeader → UInt64 → WireProg RecoveryStatusSnapshot
  | 0, attempt, seen, _ => .done (.failed (if seen.isSome then .busy else .unavailable) (attempt - 1))
  | left + 1, attempt, seen, highest =>
      attemptRead fails attempt .readyBefore (.read fun s => s.wire.headerReady) fun readyBefore =>
      if 2 < readyBefore || (seen.isSome && readyBefore ≠ 1) then .done (.failed .invalid attempt)
      else if readyBefore ≠ 1 then readRecoveryAttempts left (attempt + 1) seen highest
      else
        attemptRead fails attempt .header loadHeader fun copy =>
        attemptRead fails attempt .before (.read fun s => s.wire.ownerSequence) fun before =>
        if !recoveryHeaderValid copy || seen.any (copy ≠ ·) || before = 0 || before < highest then
          .done (.failed .invalid attempt)
        else if before % 2 = 1 then readRecoveryAttempts left (attempt + 1) (some copy) before
        else
          attemptRead fails attempt .payload (Seqlock.loadWords recoveryBlock.word payloadWords 0 fun _ => 0) fun words =>
          attemptRead fails attempt .after (.read fun s => s.wire.ownerSequence) fun after =>
          attemptRead fails attempt .headerAfter loadHeader fun headerAfter =>
          attemptRead fails attempt .readyAfter (.read fun s => s.wire.headerReady) fun readyAfter =>
          if readyAfter ≠ 1 || copy ≠ headerAfter || after < before then .done (.failed .invalid attempt)
          else if before ≠ after || after % 2 = 1 then readRecoveryAttempts left (attempt + 1) (some copy) after
          else
            let payload := ReportRecoveryPayload.ofWords words
            if !payload.recoveryPayloadValid then .done (.failed .invalid attempt)
            else .done ⟨.coherent, attempt, copy, 1, after, payload⟩

def readRecoveryStatusSnapshot : WireProg RecoveryStatusSnapshot := readRecoveryAttempts fails 3 1 none 0

end Reader

inductive RecoveryParty
  | initializer | publisher | reader (i : Nat)
  deriving DecidableEq, Repr

inductive RecoveryReturn
  | initialized (identity : StatusHeader) (done : Bool)
  | published (payload : ReportRecoveryPayload) (done : Bool)
  | read (snapshot : RecoveryStatusSnapshot)

def RecoveryReturn.snapshot? : RecoveryReturn → Option RecoveryStatusSnapshot
  | .read snapshot => some snapshot
  | _ => none

inductive RecoveryCall : RecoveryParty → WireProg RecoveryReturn → Prop
  | start (identity : StatusHeader) :
      RecoveryCall .initializer ((initializeRecoveryStatus identity).bind fun done => .done (.initialized identity done))
  | publish (payload : ReportRecoveryPayload) :
      RecoveryCall .publisher ((publishRecoveryStatus payload).bind fun done => .done (.published payload done))
  | read (i : Nat) (fails : Nat → RecoveryRead → Bool) :
      RecoveryCall (.reader i) ((readRecoveryStatusSnapshot fails).bind fun snapshot => .done (.read snapshot))

end RS2ServerFix.Snapshot
