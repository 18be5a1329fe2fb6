import RS2ServerFix.Console.Notice
import RS2ServerFix.Lib.Act

namespace RS2ServerFix.Console

open Reporting Snapshot Lib

def errorSuccess : UInt64 := 0
def errorInvalidData : UInt64 := 13
def errorWriteFault : UInt64 := 29
def errorRetry : UInt64 := 1237

inductive WorkerState
  | prepared
  | polling
  | writing
  | finished
  deriving DecidableEq, Repr

structure ConsoleDiagnostics where
  attempts : Nat
  written : Nat
  failures : Nat
  lastError : UInt64
  lastAttemptQpc : UInt64
  lastNoticeEpoch : UInt64
  skippedTransitions : Nat
  workerState : WorkerState
  deriving DecidableEq, Repr

structure NoticeChannel where
  haveSelection : Bool
  pending : Bool
  pendingAttempted : Bool
  deriving DecidableEq, Repr

/-- The reading a cycle begins with, the attempt before it and the readings before it. -/
structure CycleStart where
  ticks : UInt64
  lastAttempt : Option UInt64
  earlierMs : List UInt64
  earlierQpc : List UInt64
  deriving DecidableEq, Repr

structure ConsoleAttempt where
  start : CycleStart
  /-- The readings of the cycle after its start, in their order. -/
  ms : UInt64
  firstQpc : UInt64
  snapshotQpc : UInt64
  qpc : UInt64
  /-- The pending notices, each with whether it is terminal or a fault. -/
  normal : Option Bool
  recovery : Option Bool
  useRecovery : Bool
  deriving DecidableEq, Repr

/-- Newest first. -/
structure ConsoleJournal where
  starts : List CycleStart
  attempts : List ConsoleAttempt
  msReadings : List UInt64
  qpcReadings : List UInt64
  published : List ConsoleDiagnostics
  selected : Nat
  /-- Selections attempted at least once. -/
  attempted : Nat
  /-- Selections that could not be formatted and were never attempted. -/
  dropped : Nat
  deriving DecidableEq, Repr

structure ReportingConsole where
  /-- Whether a recovery status was attached, which is settled before the worker is armed. -/
  recovery : Bool
  diagnostics : ConsoleDiagnostics
  latest : ConsoleNotice
  latestRecovery : RecoveryNotice
  lastAttemptMs : UInt64
  lastClockMs : UInt64
  lastClockQpc : UInt64
  haveAttempt : Bool
  haveClock : Bool
  everReady : Bool
  haveNormalAttempt : Bool
  normalChannel : NoticeChannel
  recoveryChannel : NoticeChannel
  journal : ConsoleJournal
  deriving DecidableEq, Repr

inductive SnapshotFailure
  | unpublished | busy | readFailure | invalid
  deriving DecidableEq, Repr

inductive NoticeEvent
  | initial | paused | resumed | disabled
  deriving DecidableEq, Repr

inductive Question
  | stop
  | stopping
  | armed
  | ticks
  | qpc
  | reportingIdentity
  | recoveryStatus (identity : Snapshot.StatusHeader)
  | statusSnapshot
  | statusWord (word : StatusWord)
  | formatNotice (header : Snapshot.StatusHeader) (notice : ConsoleNotice) (event : NoticeEvent)
  | formatRecovery (wire : RecoveryNotice)
  | getStdOutput
  | write (line : List UInt8)
  | headerReady
  | startPublication (input : ConsoleDiagnostics)

structure WriteAnswer where
  ok : Bool
  written : Nat
  error : UInt64

def Answer : Question → Type
  | .stop | .stopping | .armed | .headerReady | .startPublication _ => Bool
  | .ticks | .statusWord _ => UInt64
  | .qpc => Option UInt64
  | .reportingIdentity => Option Snapshot.StatusHeader
  | .recoveryStatus _ => Option RecoveryNotice
  | .statusSnapshot => Except SnapshotFailure StatusSnapshot
  | .formatNotice _ _ _ | .formatRecovery _ => Option (List UInt8)
  | .getStdOutput => Bool × UInt64
  | .write _ => WriteAnswer

/-- Part of a cycle. A raise leaves the cycle with the value that it returns. -/
abbrev Cycle (α : Type) : Type := Act Question Answer ReportingConsole Bool α

def ask (q : Question) : Cycle (Answer q) := Act.query q

def returns {α : Type} (value : Bool) : Cycle α := Act.raise value

def note (f : ConsoleJournal → ConsoleJournal) : Cycle Unit := Act.modify fun c => { c with journal := f c.journal }

def diagnose (f : ConsoleDiagnostics → ConsoleDiagnostics) : Cycle Unit :=
  Act.modify fun c => { c with diagnostics := f c.diagnostics }

def stopped : Cycle Bool := do
  let stop : Bool ← ask .stop
  if stop then return true
  ask .stopping

def countersRefused (input : ConsoleDiagnostics) : Bool :=
  input.attempts < input.written || input.attempts < input.failures || input.attempts - input.failures < input.written

def publishConsole : Cycle Bool := do
  let c ← Act.get
  note fun j => { j with published := c.diagnostics :: j.published }
  let ready : Bool ← ask .headerReady
  if !ready || countersRefused c.diagnostics then return false
  ask (.startPublication c.diagnostics)

def finish {α : Type} : Cycle α := do
  diagnose fun d => { d with workerState := .finished }
  let _ ← publishConsole
  returns false

def publishOrFinish {α : Type} : Cycle α := do
  if ← publishConsole then returns true
  finish

def fail (error : UInt64) : Cycle Unit := diagnose fun d => { d with lastError := error }

def add (value : Nat) : Option Nat := if uint64Max - value < 1 then none else some (value + 1)

def addOrFinish (value : Nat) (store : Nat → ConsoleDiagnostics → ConsoleDiagnostics) : Cycle Unit :=
  match add value with
  | some value => diagnose (store value)
  | none => do
      diagnose (store uint64Max)
      finish

def beginCycle : Cycle UInt64 := do
  if ← stopped then finish
  let armed : Bool ← ask .armed
  if !armed then returns true
  diagnose fun d => { d with workerState := .polling }
  let ticks : UInt64 ← ask .ticks
  let c ← Act.get
  if c.haveClock && ticks < c.lastClockMs then
    fail errorInvalidData
    finish
  note fun j => { j with
    starts := ⟨ticks, j.attempts.head?.map (·.ms), j.msReadings, j.qpcReadings⟩ :: j.starts
    msReadings := ticks :: j.msReadings }
  Act.modify fun c => { c with lastClockMs := ticks, haveClock := true }
  return ticks

/-- A selection on a channel; one that was never attempted is superseded. -/
def selectOn (channel : ReportingConsole → NoticeChannel) (store : NoticeChannel → ReportingConsole → ReportingConsole) :
    Cycle Unit := do
  let c ← Act.get
  if (channel c).pending && !(channel c).pendingAttempted then
    addOrFinish c.diagnostics.skippedTransitions fun value d => { d with skippedTransitions := value }
  note fun j => { j with selected := j.selected + 1 }
  Act.modify (store ⟨true, true, false⟩)

def storeNormal (channel : NoticeChannel) (c : ReportingConsole) : ReportingConsole := { c with normalChannel := channel }

def storeRecovery (channel : NoticeChannel) (c : ReportingConsole) : ReportingConsole :=
  { c with recoveryChannel := channel }

def readRecovery : Cycle (Option (Snapshot.StatusHeader × RecoveryNotice)) := do
  let c ← Act.get
  if !c.recovery then return none
  match ← ask .reportingIdentity with
  | none => return none
  | some identity =>
      match ← ask (.recoveryStatus identity) with
      | none => return none
      | some wire => return if recoverySelectable wire then some (identity, wire) else none

def selectRecovery : Cycle (Option (Snapshot.StatusHeader × RecoveryNotice)) := do
  match ← readRecovery with
  | none => return none
  | some (identity, wire) =>
      let c ← Act.get
      if !c.recoveryChannel.haveSelection || !sameRecovery c.latestRecovery wire then
        selectOn (·.recoveryChannel) storeRecovery
      Act.modify fun c => { c with latestRecovery := wire }
      return some (identity, wire)

def readQpc : Cycle UInt64 := do
  let reading ← ask .qpc
  let c ← Act.get
  match reading with
  | none =>
      fail errorInvalidData
      publishOrFinish
  | some qpc =>
      if qpc = 0 then
        fail errorInvalidData
        publishOrFinish
      else if qpc < c.lastClockQpc then
        fail errorInvalidData
        finish
      else
        note fun j => { j with qpcReadings := qpc :: j.qpcReadings }
        Act.modify fun c => { c with lastClockQpc := qpc }
        return qpc

def selectNormal (sampled : Except SnapshotFailure StatusSnapshot) (qpc : UInt64) :
    Cycle (Option (StatusSnapshot × ConsoleNotice)) := do
  match sampled with
  | .error failure =>
      fail (if failure = .busy then errorRetry else errorInvalidData)
      return none
  | .ok snapshot =>
      match selectReportingConsoleNotice snapshot qpc with
      | none =>
          fail errorInvalidData
          return none
      | some notice =>
          let c ← Act.get
          if !c.normalChannel.haveSelection || !same c.latest notice then
            selectOn (·.normalChannel) storeNormal
            Act.modify fun c => { c with latest := notice }
          return some (snapshot, notice)

inductive Chosen
  | recovery (identity : Snapshot.StatusHeader) (wire : RecoveryNotice)
  | normal (snapshot : StatusSnapshot) (notice : ConsoleNotice)

def Chosen.useRecovery : Chosen → Bool
  | .recovery _ _ => true
  | .normal _ _ => false

def normalTerminal (notice : ConsoleNotice) : Bool := notice.state = .disabled

def chooseNotice (normal : Option (StatusSnapshot × ConsoleNotice)) (recovery : Option (Snapshot.StatusHeader × RecoveryNotice)) :
    Option Chosen :=
  match normal, recovery with
  | none, none => none
  | some (snapshot, notice), none => some (.normal snapshot notice)
  | none, some (identity, wire) => some (.recovery identity wire)
  | some (snapshot, notice), some (identity, wire) =>
      if (recoveryTerminalNotice wire && !normalTerminal notice) ||
          (recoveryTerminalNotice wire == normalTerminal notice && notice.sourceQpc ≤ wire.payload.qpc) then
        some (.recovery identity wire)
      else some (.normal snapshot notice)

def noticeEvent (notice : ConsoleNotice) (c : ReportingConsole) : NoticeEvent :=
  match notice.state with
  | .disabled => .disabled
  | .ready => if c.everReady then .resumed else .initial
  | _ => if c.haveNormalAttempt then .paused else .initial

def format (chosen : Chosen) : Cycle (Option (List UInt8)) := do
  let c ← Act.get
  match chosen with
  | .recovery _ wire => ask (.formatRecovery wire)
  | .normal snapshot notice => ask (.formatNotice snapshot.wire.header notice (noticeEvent notice c))

def channelOf (chosen : Chosen) (c : ReportingConsole) : NoticeChannel :=
  if chosen.useRecovery then c.recoveryChannel else c.normalChannel

def storeChannel (chosen : Chosen) (channel : NoticeChannel) (c : ReportingConsole) : ReportingConsole :=
  if chosen.useRecovery then storeRecovery channel c else storeNormal channel c

def dropNotice (chosen : Chosen) : Cycle Unit := do
  let c ← Act.get
  if !(channelOf chosen c).pendingAttempted then note fun j => { j with dropped := j.dropped + 1 }
  Act.modify fun c => storeChannel chosen { channelOf chosen c with pending := false } c

def statusWords : List StatusWord :=
  [.workerPauseReason, .fatalTransportReason, .revokeReasons, .lossReasons, .ownerSequence, .workerSequence]

def wordsUnchanged (wire : StatusWire) : List StatusWord → Cycle Bool
  | [] => return true
  | word :: rest => do
      let now : UInt64 ← ask (.statusWord word)
      if now ≠ wire.words word then return false
      wordsUnchanged wire rest

def stillCurrent (chosen : Chosen) : Cycle Bool := do
  match chosen with
  | .recovery identity wire =>
      match ← ask .reportingIdentity with
      | none => return false
      | some now =>
          if now ≠ identity then return false
          match ← ask (.recoveryStatus now) with
          | none => return false
          | some current => return current.ownerSequence = wire.ownerSequence
  | .normal snapshot _ => wordsUnchanged snapshot.wire statusWords

def tooSoon (c : ReportingConsole) (ticks : UInt64) : Bool := c.haveAttempt && ticks - c.lastAttemptMs < 1000

def attemptTicks (ticks : UInt64) : Cycle UInt64 := do
  let now : UInt64 ← ask .ticks
  let c ← Act.get
  if now < ticks || tooSoon c now then
    fail errorInvalidData
    publishOrFinish
  return now

def noticeEpoch : Chosen → UInt64
  | .recovery _ wire => wire.payload.transitionSequence
  | .normal _ notice => notice.epoch

/-- The attempt is accounted for before the write that may block. -/
def recordAttempt (chosen : Chosen) (attempt : ConsoleAttempt) : Cycle Unit := do
  let c ← Act.get
  if c.diagnostics.attempts = uint64Max then finish
  note fun j => { j with
    attempts := attempt :: j.attempts
    msReadings := attempt.ms :: j.msReadings
    attempted := if (channelOf chosen c).pendingAttempted then j.attempted else j.attempted + 1 }
  diagnose fun d => { d with
    attempts := d.attempts + 1
    lastAttemptQpc := attempt.qpc
    lastNoticeEpoch := noticeEpoch chosen
    workerState := .writing }
  Act.modify fun c => { c with
    lastAttemptMs := attempt.ms
    haveAttempt := true
    haveNormalAttempt := c.haveNormalAttempt || !chosen.useRecovery }
  Act.modify fun c => storeChannel chosen { channelOf chosen c with pendingAttempted := true } c
  if !(← publishConsole) then finish

def writeLine (handle : Bool × UInt64) (line : List UInt8) : Cycle (Bool × UInt64) := do
  if !handle.1 then return (false, handle.2)
  let answer ← ask (.write line)
  return (answer.ok && answer.written = line.length, answer.error)

/-- A notice that was written is no longer pending; one that was not stays for another attempt. -/
def countOutcome (chosen : Chosen) (ok : Bool) : Cycle Unit := do
  let c ← Act.get
  if ok then
    addOrFinish c.diagnostics.written fun value d => { d with written := value }
    Act.modify fun c => storeChannel chosen { channelOf chosen c with pending := false } c
  else addOrFinish c.diagnostics.failures fun value d => { d with failures := value }

def Chosen.becomesReady : Chosen → Bool
  | .recovery _ _ => false
  | .normal _ notice => notice.state = .ready

def closeAttempt (chosen : Chosen) (ok : Bool) (error : UInt64) : Cycle Bool := do
  fail (if ok then errorSuccess else if error ≠ 0 then error else errorWriteFault)
  Act.modify fun c => { c with everReady := c.everReady || (ok && chosen.becomesReady) }
  diagnose fun d => { d with workerState := .polling }
  if !(← publishConsole) then finish
  if ← stopped then finish
  return true

def reportNotice (ticks firstQpc qpc : UInt64) (normal : Option (StatusSnapshot × ConsoleNotice))
    (recovery : Option (Snapshot.StatusHeader × RecoveryNotice)) : Cycle Bool := do
  let c ← Act.get
  let normal := if c.normalChannel.pending then normal else none
  let recovery := if c.recoveryChannel.pending then recovery else none
  match chooseNotice normal recovery with
  | none => publishOrFinish
  | some chosen =>
      if tooSoon c ticks then publishOrFinish
      match ← format chosen with
      | none =>
          fail errorInvalidData
          dropNotice chosen
          publishOrFinish
      | some line =>
          let handle ← ask .getStdOutput
          if ← stopped then finish
          if !(← stillCurrent chosen) then publishOrFinish
          let ms ← attemptTicks ticks
          let attemptQpc ← readQpc
          let c ← Act.get
          recordAttempt chosen ⟨c.journal.starts.headD ⟨0, none, [], []⟩, ms, firstQpc, qpc, attemptQpc,
            normal.map (normalTerminal ·.2), recovery.map (recoveryTerminalNotice ·.2), chosen.useRecovery⟩
          let (ok, error) ← writeLine handle line
          countOutcome chosen ok
          closeAttempt chosen ok error

/-- One iteration of the worker; `false` is its end. -/
def cycleReportingConsole : Cycle Bool := do
  let ticks ← beginCycle
  let recovery ← selectRecovery
  let firstQpc ← readQpc
  let sampled ← ask .statusSnapshot
  let qpc ← readQpc
  let normal ← selectNormal sampled qpc
  reportNotice ticks firstQpc qpc normal recovery

end RS2ServerFix.Console
