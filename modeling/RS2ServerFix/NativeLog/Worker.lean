import RS2ServerFix.Lib.Interference
import RS2ServerFix.NativeLog.PipelineRuns

namespace RS2ServerFix.NativeLog

open Reporting Lib

variable {κ : Type}

structure WorkerTransport where
  startupObserved : Bool
  preparedSequence : Nat
  observedSequence : Nat
  lastReceiptQpc : Nat
  readerOffset : Nat
  partialBytes : Nat
  ledgerDepth : Nat
  readyDepth : Nat
  ringReadSequence : Nat
  readCycles : Nat
  readBytes : Nat
  formatCalls : Nat
  formatTicks : Nat
  receiptTicks : Nat
  pauseReason : TransportReason
  pauseConditionSequence : Nat
  pauseConditionQpc : Nat
  lastReadError : Nat
  matchedAwaitingSubmitSequence : Nat
  deriving DecidableEq, Repr

def WorkerTransport.zero : WorkerTransport := ⟨false, 0, 0, 0, 0, 0, 0, 0, 0, 0, 0, 0, 0, 0, .none, 0, 0, 0, 0⟩

structure NativeReceiptWorker where
  initialized : Bool
  qualifiedEpoch : Nat
  handle : Bool
  frequency : Nat
  scanner : ReceiptScanner
  counters : WorkerTransport
  lastClock : Nat
  lastCycle : Nat
  receiptWaitSequence : Nat
  receiptWaitStartedQpc : Nat
  haveCycle : Bool
  clockFailed : Bool
  receiptWaitActive : Bool
  deriving DecidableEq, Repr

/-- What the clock and the log file are at a moment. The log holds the bytes
behind the first cursor; a read gives at most `readLimit` of them. -/
structure WorkerSurroundings where
  clock : Option Nat
  log : List UInt8
  maximumSize : Nat
  readFault : TransportReason
  readLimit : Nat
  lastError : Nat
  torn : Bool

/-- The two parties with the worker block of the status wire. `texts` are the
messages in the order they were prepared. -/
structure WorkerWorld (κ : Type) where
  native : NativeSystem κ
  worker : NativeReceiptWorker
  workerSequence : Nat
  published : WorkerTransport
  around : WorkerSurroundings
  start : Nat
  texts : List (List UInt8)

def NativeReadyFrame.text (f : NativeReadyFrame) : List UInt8 := (f.message.take f.chars).map UInt16.toUInt8

def newTexts (before after : NativePipeline κ) : List (List UInt8) :=
  (List.range' before.readyWrite (after.readyWrite - before.readyWrite)).map fun ticket => (after.ready.get ticket).text

namespace WorkerWorld

variable (w : WorkerWorld κ)

abbrev channel : NativeChannel κ := w.native.channel

abbrev pipeline : NativePipeline κ := w.native.channel.pipeline

def setChannel (c : NativeChannel κ) : WorkerWorld κ := { w with native := { w.native with channel := c } }

def setStatus (status : StatusWords) : WorkerWorld κ := w.setChannel { w.channel with status := status }

def lose (reason : Reason) : WorkerWorld κ := w.setStatus (loseStatus w.channel.status reason)

def setWorker (v : NativeReceiptWorker) : WorkerWorld κ := { w with worker := v }

def setCounters (v : WorkerTransport) : WorkerWorld κ := w.setWorker { w.worker with counters := v }

end WorkerWorld

abbrev WorkerProg (κ α : Type) := Prog (WorkerWorld κ) α

def sampleClock : WorkerProg κ (Option Nat) := .act fun w =>
  let failed := (w.setWorker { w.worker with clockFailed := true }).setStatus
    (revokeStatus w.channel.status .clockFailed)
  match w.around.clock with
  | none => (none, failed)
  | some out =>
      if w.worker.clockFailed ∨ out = 0 ∨ out < w.worker.lastClock then (none, failed)
      else (some out, w.setWorker { w.worker with lastClock := out })

def addCounter (get : WorkerTransport → Nat) (set : WorkerTransport → Nat → WorkerTransport) (amount : Nat) :
    WorkerProg κ Bool := .act fun w =>
  let value := get w.worker.counters
  if uint64Max - value < amount then (false, w.lose .counterOverflow)
  else (true, w.setCounters (set w.worker.counters (value + amount)))

def addReadCycles : WorkerProg κ Bool := addCounter (·.readCycles) (fun c v => { c with readCycles := v }) 1

def addFormatCalls (amount : Nat) : WorkerProg κ Bool :=
  addCounter (·.formatCalls) (fun c v => { c with formatCalls := v }) amount

def addFormatTicks (amount : Nat) : WorkerProg κ Bool :=
  addCounter (·.formatTicks) (fun c v => { c with formatTicks := v }) amount

def addReadBytes (amount : Nat) : WorkerProg κ Bool :=
  addCounter (·.readBytes) (fun c v => { c with readBytes := v }) amount

def addReceiptTicks (amount : Nat) : WorkerProg κ Bool :=
  addCounter (·.receiptTicks) (fun c v => { c with receiptTicks := v }) amount

def addPauseCondition : WorkerProg κ Bool :=
  addCounter (·.pauseConditionSequence) (fun c v => { c with pauseConditionSequence := v }) 1

/-- A coherent copy of the owner's blocks, unless the owner keeps on writing. -/
def readOwner : WorkerProg κ (Option OwnerSnapshotV3) := .read fun w =>
  if w.around.torn then none else w.native.published.getLast?

def refreshed (w : WorkerWorld κ) : WorkerTransport :=
  let p := w.pipeline
  if p.initialized then
    { w.worker.counters with
      startupObserved := p.startupObserved, preparedSequence := p.preparedSequence
      observedSequence := p.observedSequence, readerOffset := w.worker.scanner.offset
      partialBytes := w.worker.scanner.line.length, ledgerDepth := p.ledgerWrite - p.ledgerRead
      readyDepth := p.readyWrite - p.readyRead, ringReadSequence := w.channel.ring.reportReadSequence
      matchedAwaitingSubmitSequence := if p.heldMatch then (p.ledger.get p.ledgerRead).sequence else 0 }
  else w.worker.counters

def storePauseReason (reason : TransportReason) : WorkerProg κ Unit := .modify fun w =>
  w.setStatus { w.channel.status with workerPauseReason := reason.value }

def storeWorkerStep (input : WorkerTransport) (owner : OwnerSnapshotV3) (w : WorkerWorld κ) : Bool × WorkerWorld κ :=
  if owner.submittedSequence < input.observedSequence ∨ input.preparedSequence < input.observedSequence ∨
      input.observedSequence < w.published.observedSequence ∨
      input.preparedSequence < w.published.preparedSequence then (false, w.lose .recordLoss)
  else if w.workerSequence % 2 = 1 ∨ uint64Max - 2 < w.workerSequence then
    (false, w.setStatus (revokeStatus w.channel.status .counterOverflow))
  else
    (true, { w with
      workerSequence := w.workerSequence + 2
      published := { input with preparedSequence := min input.preparedSequence owner.generatedSequence } })

def storeWorker (input : WorkerTransport) (owner : OwnerSnapshotV3) : WorkerProg κ Bool :=
  .act (storeWorkerStep input owner)

/-- The worker gate, closed before any adverse publication. -/
def storeAdverse (reason : TransportReason) : WorkerProg κ Unit :=
  if reason ≠ .none then storePauseReason reason else pure ()

/-- The gate is cleared only after the state without a condition is visible. -/
def storeCoherent (input : WorkerTransport) : WorkerProg κ Unit := do
  match ← readOwner with
  | none => pure ()
  | some owner =>
      let stored ← storeWorker input owner
      if stored ∧ input.pauseReason = .none then storePauseReason .none

def publishWorker (input : WorkerTransport) : WorkerProg κ Unit := do
  if TransportReason.sameFileRequalification.value < input.pauseReason.value then
    .modify fun w => w.setStatus (revokeStatus w.channel.status .statusUnavailable)
  else
    storeAdverse input.pauseReason
    storeCoherent input

def publish : WorkerProg κ Unit := do
  let counters ← .act fun w => (refreshed w, w.setCounters (refreshed w))
  publishWorker counters

def changePause (reason : TransportReason) (qpc : Nat) : WorkerProg κ Unit := do
  if ← addPauseCondition then
    .modify fun w => w.setCounters { w.worker.counters with pauseConditionQpc := qpc, pauseReason := reason }
    publish

def pause (reason : TransportReason) (qpc : Nat) : WorkerProg κ Unit := do
  if TransportReason.receiptGap.value ≤ reason.value then
    .modify fun w => w.setStatus (latchTransportFault w.channel.status reason).1
    publish
  else
    let before ← .read fun w => w.worker.counters.pauseReason
    if before ≠ reason then
      storeAdverse reason
      changePause reason qpc
    else publish

def acknowledgeStep (owner : OwnerSnapshotV3) (qpc : Nat) (w : WorkerWorld κ) : Bool × WorkerWorld κ :=
  match acknowledgeNativeReceipt w.channel owner with
  | (c, false) => (false, w.setChannel c)
  | (c, true) =>
      let w := w.setChannel c
      match resumeReceiptScanner w.worker.scanner with
      | (_, false) => (false, w.lose .recordLoss)
      | (scanner, true) =>
          (true, w.setWorker { w.worker with
            scanner := scanner, counters := { w.worker.counters with lastReceiptQpc := qpc } })

def acknowledgeHeld (owner : OwnerSnapshotV3) (qpc : Nat) : WorkerProg κ Bool := .act (acknowledgeStep owner qpc)

def ack (qpc : Nat) : WorkerProg κ Bool := do
  let held ← .read fun w => w.pipeline.heldMatch
  if !held then pure true
  else
    match ← readOwner with
    | none => pure false
    | some owner => acknowledgeHeld owner qpc

def frontSubmitted (owner : OwnerSnapshotV3) (front : Nat) : Bool :=
  if front ≠ 0 then decide (front ≤ owner.submittedSequence) else owner.startupSubmitted

/-- The wait for the receipt of the front entry starts with the first copy of
the owner's blocks that shows it submitted. -/
def frontAgeStep (owner : OwnerSnapshotV3) (now : Nat) (w : WorkerWorld κ) : TransportReason × WorkerWorld κ :=
  let front := (w.pipeline.ledger.get w.pipeline.ledgerRead).sequence
  let v := w.worker
  if !frontSubmitted owner front then (.none, w.setWorker { v with receiptWaitActive := false })
  else
    let v := if !v.receiptWaitActive ∨ v.receiptWaitSequence ≠ front then
      { v with receiptWaitActive := true, receiptWaitSequence := front, receiptWaitStartedQpc := now } else v
    (if v.receiptWaitStartedQpc ≤ now ∧ 30 ≤ (now - v.receiptWaitStartedQpc) / v.frequency then .receiptOverdue
      else .none, w.setWorker v)

def frontAge (owner : OwnerSnapshotV3) (now : Nat) : WorkerProg κ TransportReason := .act (frontAgeStep owner now)

def receiptAge (now : Nat) : WorkerProg κ TransportReason := do
  let idle ← .act fun w =>
    if w.pipeline.ledgerRead = w.pipeline.ledgerWrite then
      (true, w.setWorker { w.worker with receiptWaitActive := false })
    else (false, w)
  if idle then pure .none
  else
    match ← readOwner with
    | none => .read fun w => w.worker.counters.pauseReason
    | some owner => frontAge owner now

def int64Max : Nat := 9223372036854775807
def kNativeReadCycleBytes : Nat := 256 * 1024
def kReadBufferBytes : Nat := 64 * 1024

def readLog (wanted : Nat) : WorkerProg κ (TransportReason × List UInt8) := .act fun w =>
  let offset := w.worker.scanner.offset
  let a := w.around
  (if int64Max < offset then (.receiptUnavailable, [])
    else if a.readFault ≠ .none then (a.readFault, [])
    else (.none, (a.log.drop (offset - w.start)).take (min wanted a.readLimit)),
    w.setCounters { w.worker.counters with lastReadError := a.lastError })

def scanBytesStep (ops : NativeHashOps κ) (bytes : List UInt8) (w : WorkerWorld κ) :
    ReceiptScanResult × WorkerWorld κ :=
  match scanReceiptChunk (pipelineMatchOps ops) w.worker.scanner w.channel bytes with
  | (scanner, c, result) => (result, (w.setChannel c).setWorker { w.worker with scanner := scanner })

def scanStep (ops : NativeHashOps κ) (bytes : List UInt8) : WorkerProg κ ReceiptScanResult :=
  .act (scanBytesStep ops bytes)

inductive LoopEnd
  | stop (reason : TransportReason)
  | abort
  deriving DecidableEq, Repr

/-- The scanning loop over the bytes just read. Every round that goes on takes
a byte at least, so their number bounds the rounds. -/
def scanBytes (ops : NativeHashOps κ) : Nat → List UInt8 → WorkerProg κ LoopEnd
  | 0, _ => pure (.stop .none)
  | fuel + 1, bytes =>
      if bytes = [] then pure (.stop .none)
      else do
        let scan ← scanStep ops bytes
        let rest := bytes.drop scan.consumed
        match scan.disposition with
        | .gap => pure (.stop .receiptGap)
        | .corrupt => pure (.stop .receiptCorrupt)
        | .awaitingSubmission =>
            match ← sampleClock with
            | none => pure .abort
            | some qpc =>
                if ← ack qpc then scanBytes ops fuel rest else pure (.stop .none)
        | _ => if scan.consumed = 0 then pure (.stop .receiptCorrupt) else scanBytes ops fuel rest

/-- The reading loop; every round that goes on spends some of the budget. -/
def readLoop (ops : NativeHashOps κ) : Nat → Nat → WorkerProg κ (LoopEnd × Nat)
  | 0, budget => pure (.stop .none, budget)
  | fuel + 1, budget =>
      if budget = 0 then pure (.stop .none, budget)
      else do
        let got ← readLog (min budget kReadBufferBytes)
        if got.1 ≠ .none then pure (.stop got.1, budget)
        else if got.2 = [] then pure (.stop .none, budget)
        else
          if ← addReadBytes got.2.length then
            match ← scanBytes ops got.2.length got.2 with
            | .abort => pure (.abort, budget - got.2.length)
            | .stop reason =>
                let awaiting ← .read fun w => w.worker.scanner.awaitingSubmission
                if reason ≠ .none ∨ awaiting then pure (.stop reason, budget - got.2.length)
                else readLoop ops fuel (budget - got.2.length)
          else pure (.abort, budget)

def prepareStep (ops : NativeHashOps κ) (qpc : Nat) (w : WorkerWorld κ) : Bool × WorkerWorld κ :=
  match prepareNativeFrames ops w.channel qpc with
  | (c, ok) => (ok, { w.setChannel c with texts := w.texts ++ newTexts w.pipeline c.pipeline })

def prepareOpen (ops : NativeHashOps κ) (qpc : Nat) : WorkerProg κ Bool := do
  let revoked ← .read fun w => statusRevoked w.channel.status
  if revoked then pure true else .act (prepareStep ops qpc)

def finishCycle (reason : TransportReason) (budget afterFormat : Nat) : WorkerProg κ Unit := do
  match ← sampleClock with
  | none => pure ()
  | some stop =>
      if ← addReceiptTicks (stop - afterFormat) then
        if reason ≠ .none then pause reason stop
        else
          let behind ← .read fun w => decide (budget = 0 ∧ w.worker.scanner.offset < w.around.maximumSize)
          if behind then pause .readerBehind stop
          else
            let age ← receiptAge stop
            pause age stop

def receiveCycle (ops : NativeHashOps κ) (afterFormat : Nat) : WorkerProg κ Unit := do
  if ← ack afterFormat then
    match ← readLoop ops kNativeReadCycleBytes kNativeReadCycleBytes with
    | (.abort, _) => pure ()
    | (.stop reason, budget) => finishCycle reason budget afterFormat
  else
    let age ← receiptAge afterFormat
    pause age afterFormat

def formatCycle (ops : NativeHashOps κ) (start : Nat) : WorkerProg κ Unit := do
  let before ← .read fun w => w.pipeline.preparedSequence
  if ← prepareOpen ops start then
    match ← sampleClock with
    | none => pure ()
    | some afterFormat =>
        let after ← .read fun w => w.pipeline.preparedSequence
        if ← addFormatCalls (after - before) then
          if ← addFormatTicks (afterFormat - start) then receiveCycle ops afterFormat
  else publish

def cycleDue (v : NativeReceiptWorker) (now : Nat) : Bool :=
  let interval := v.frequency / 4 + if v.frequency % 4 ≠ 0 then 1 else 0
  !v.haveCycle || decide (interval ≤ now - v.lastCycle)

def cycleNativeReceipts (ops : NativeHashOps κ) : WorkerProg κ Unit := do
  let v ← .read fun w => w.worker
  if !v.initialized ∨ v.qualifiedEpoch = 0 ∨ !v.handle ∨ v.clockFailed then pure ()
  else
    match ← sampleClock with
    | none => pure ()
    | some start =>
        if cycleDue v start then
          .modify fun w => w.setWorker { w.worker with haveCycle := true, lastCycle := start }
          if ← addReadCycles then formatCycle ops start

end RS2ServerFix.NativeLog
