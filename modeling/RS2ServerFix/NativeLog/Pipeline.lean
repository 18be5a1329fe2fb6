import RS2ServerFix.NativeLog.Receipts
import RS2ServerFix.Reporting.Format

namespace RS2ServerFix.NativeLog

open Reporting Lib

variable {κ : Type}

/-- The digest provider with its context; it may fail. -/
structure NativeHashOps (κ : Type) where
  digest : κ → List UInt8 → κ × Option Sha256Digest

inductive LedgerState
  | empty
  | reserved
  | scalar
  | ready
  | matched
  deriving DecidableEq, Repr

/-- The union of a ledger home, cleared to an all zero record. -/
inductive LedgerBody
  | scalar (r : ReportRecordV3)
  | digest (d : Sha256Digest)
  deriving DecidableEq, Repr

structure NativeLedgerEntry where
  sequence : Nat
  preparedQpc : Nat
  messageBytes : Nat
  state : LedgerState
  body : LedgerBody
  deriving DecidableEq, Repr

def NativeLedgerEntry.clear : NativeLedgerEntry := ⟨0, 0, 0, .empty, .scalar default⟩

structure NativeReadyFrame where
  ticket : Nat
  sequence : Nat
  ledgerIndex : Nat
  chars : Nat
  message : List UInt16
  deriving DecidableEq, Repr

def NativeReadyFrame.clear : NativeReadyFrame := ⟨0, 0, 0, 0, []⟩

structure RecoveryDetailState where
  recoveryDetail : Bool
  terminalDetailSeen : Bool
  builderDetailActive : Bool
  builderDetail : Bool
  builderPostBoundary : Bool
  detailBoundaryPairs : Nat
  detailBuildSequence : UInt64
  detailSourceEpoch : UInt64
  detailBindingEpoch : UInt64
  detailOverallDeadlineQpc : UInt64
  deriving DecidableEq, Repr

def RecoveryDetailState.clear : RecoveryDetailState := ⟨false, false, false, false, false, 0, 0, 0, 0, 0⟩

def kNativeLedgerCapacity : Nat := 256
def kNativeReadyCapacity : Nat := 8

instance ready_neZero : NeZero 8 := ⟨by decide⟩

structure NativePipeline (κ : Type) where
  hashContext : κ
  format : NativeFormatContext
  readyWrite : Nat
  readyRead : Nat
  ledgerRead : Nat
  ledgerWrite : Nat
  nextFormat : Nat
  preparedSequence : Nat
  observedSequence : Nat
  startupObserved : Bool
  heldMatch : Bool
  initialized : Bool
  detail : RecoveryDetailState
  bootstrap : List UInt8
  ledger : Slots 256 NativeLedgerEntry
  ready : Slots 8 NativeReadyFrame

def NativePipeline.zeroed (hashContext : κ) (format : NativeFormatContext) : NativePipeline κ :=
  ⟨hashContext, format, 0, 0, 0, 0, 0, 0, 0, false, false, false, .clear, [], .fill .clear, .fill .clear⟩

/-- The memory the owner and the worker share: the status words, the report
ring and the pipeline with its ready queue. -/
structure NativeChannel (κ : Type) where
  status : StatusWords
  ring : ReportRingV3
  pipeline : NativePipeline κ

namespace NativeChannel

variable (c : NativeChannel κ)

def lose (reason : Reason) : NativeChannel κ := { c with status := loseStatus c.status reason }

def setEntry (ticket : Nat) (e : NativeLedgerEntry) : NativeChannel κ :=
  { c with pipeline := { c.pipeline with ledger := c.pipeline.ledger.set ticket e } }

end NativeChannel

def queueStateValid (p : NativePipeline κ) : Bool :=
  decide (p.readyRead ≤ p.readyWrite) && decide (p.readyWrite - p.readyRead ≤ kNativeReadyCapacity)

def ledgerValid (p : NativePipeline κ) : Bool :=
  decide (p.ledgerRead ≤ p.nextFormat) && decide (p.nextFormat ≤ p.ledgerWrite) &&
    decide (p.ledgerWrite - p.ledgerRead ≤ kNativeLedgerCapacity)

def recoveryDetail (config : ConfigV3) (s : RecoveryDetailState) (record : ReportRecordV3) :
    Bool × RecoveryDetailState :=
  if config.diagnostics ≠ .operational then (false, s)
  else
    match RecordKindV3.ofCode record.header.kind with
    | some .recovery =>
        let r := record.payload.recovery
        let s :=
          if r.phase = recoveryPhaseRequested then
            { s with
              recoveryDetail := true, terminalDetailSeen := false, detailBoundaryPairs := 0
              detailOverallDeadlineQpc := r.overallDeadlineQpc, builderPostBoundary := false }
          else s
        (true, if s.recoveryDetail && r.flagged RecoveryFlags.terminal then { s with terminalDetailSeen := true } else s)
    | some .builderEnter =>
        let pastDeadline := s.detailOverallDeadlineQpc ≠ 0 && s.detailOverallDeadlineQpc ≤ record.header.qpc
        (s.recoveryDetail,
          { s with
            builderDetailActive := true, builderDetail := s.recoveryDetail
            builderPostBoundary := s.recoveryDetail && (s.terminalDetailSeen || pastDeadline)
            detailBuildSequence := record.payload.builder.buildSequence
            detailSourceEpoch := record.header.sourceEpoch, detailBindingEpoch := record.header.bindingEpoch })
    | some .builderReturn | some .builderUnwind =>
        let matching := s.builderDetailActive && s.detailBuildSequence = record.payload.builder.buildSequence &&
          s.detailSourceEpoch = record.header.sourceEpoch && s.detailBindingEpoch = record.header.bindingEpoch
        if matching then
          let pairs := if s.builderPostBoundary then s.detailBoundaryPairs + 1 else s.detailBoundaryPairs
          (s.builderDetail,
            { s with
              builderDetailActive := false, detailBoundaryPairs := pairs
              recoveryDetail := s.recoveryDetail && !(s.builderPostBoundary && 4 ≤ pairs) })
        else (false, s)
    | _ => (s.recoveryDetail, s)

def initializeNativePipeline (c : NativeChannel κ) (context : NativeFormatContext) (hashContext : κ) (qpc : Nat) :
    NativeChannel κ × TransportReason :=
  if c.pipeline.initialized ∨ qpc = 0 ∨ !c.ring.ready then (c, .profileUnsafe)
  else
    match prepareNativeBootstrap context (kMessageLimit + 1) (kMessageLimit + 1) with
    | none => (c, .framingUnsupported)
    | some (text, wide) =>
        let p := c.pipeline
        ({ c with pipeline :=
            { p with
              hashContext := hashContext, format := context, readyWrite := 1, readyRead := 0
              ledgerRead := 0, ledgerWrite := 1, nextFormat := 1, preparedSequence := 0
              observedSequence := 0, startupObserved := false, heldMatch := false, initialized := true
              bootstrap := text
              ledger := p.ledger.set 0 { NativeLedgerEntry.clear with
                preparedQpc := qpc, messageBytes := text.length, state := .ready }
              ready := p.ready.set 0 ⟨1, 0, 0, text.length, wide⟩ } }, .none)

def storeDrained (c : NativeChannel κ) (ring : ReportRingV3) (r : ReportRecordV3) : NativeChannel κ :=
  let p := c.pipeline
  let entry := { p.ledger.get p.ledgerWrite with
    sequence := r.header.sequence.toNat, state := .scalar, body := .scalar r }
  { c with ring := ring, pipeline :=
    { p with ledger := p.ledger.set p.ledgerWrite entry, ledgerWrite := p.ledgerWrite + 1 } }

/-- The first loop of the preparation: at most `count` records leave the ring,
each into a ledger home reserved before it. -/
def drainReports : Nat → NativeChannel κ → NativeChannel κ × Bool
  | 0, c => (c, true)
  | count + 1, c =>
      let p := c.pipeline
      if kNativeLedgerCapacity ≤ p.ledgerWrite - p.ledgerRead then (c, true)
      else if p.ledgerWrite = uint64Max then (c.lose .counterOverflow, false)
      else
        let entry := p.ledger.get p.ledgerWrite
        if entry.state ≠ .empty then (c.lose .recordLoss, false)
        else
          match dequeueReport c.status c.ring with
          | (status, ring, .record r) => drainReports count (storeDrained { c with status := status } ring r)
          | (status, ring, .empty) =>
              ({ c with status := status, ring := ring }.setEntry p.ledgerWrite .clear, true)
          | (status, ring, _) =>
              (({ c with status := status, ring := ring }.setEntry p.ledgerWrite .clear).lose .recordLoss, false)

inductive FormatStep (κ : Type)
  | full (c : NativeChannel κ)
  | lost (c : NativeChannel κ)
  | next (c : NativeChannel κ)

/-- The text and the digest of a drained record; they fail together. -/
def renderRecord (ops : NativeHashOps κ) (p : NativePipeline κ) (r : ReportRecordV3) :
    NativePipeline κ × Option (List UInt8 × List UInt16 × Sha256Digest) :=
  let detail := recoveryDetail p.format.config p.detail r
  let p := { p with detail := detail.2 }
  match formatNativeRecord p.format r (kMessageLimit + 1) detail.1 with
  | none => (p, none)
  | some text =>
      let digest := ops.digest p.hashContext text
      ({ p with hashContext := digest.1 },
        digest.2.bind fun d => (prepareMessage text (kMessageLimit + 1)).map fun wide => (text, wide, d))

def storeFormatted (c : NativeChannel κ) (p : NativePipeline κ) (qpc : Nat) (text : List UInt8) (wide : List UInt16)
    (digest : Sha256Digest) : NativeChannel κ :=
  let sequence := (p.ledger.get p.nextFormat).sequence
  { c with pipeline :=
    { p with
      ready := p.ready.set p.readyWrite
        ⟨p.readyWrite + 1, sequence, p.nextFormat % kNativeLedgerCapacity, text.length, wide⟩
      ledger := p.ledger.set p.nextFormat ⟨sequence, qpc, text.length, .ready, .digest digest⟩
      preparedSequence := sequence
      nextFormat := p.nextFormat + 1
      readyWrite := p.readyWrite + 1 } }

def formatNext (ops : NativeHashOps κ) (c : NativeChannel κ) (qpc : Nat) : FormatStep κ :=
  let p := c.pipeline
  if !queueStateValid p then .lost (c.lose .recordLoss)
  else if p.readyWrite - p.readyRead = kNativeReadyCapacity then .full c
  else if p.readyWrite = uint64Max then .lost (c.lose .counterOverflow)
  else
    let entry := p.ledger.get p.nextFormat
    match entry.state, entry.body with
    | .scalar, .scalar r =>
        if p.preparedSequence = uint64Max ∨ entry.sequence ≠ p.preparedSequence + 1 then
          .lost (c.lose .recordLoss)
        else
          match renderRecord ops p r with
          | (p, none) => .lost ({ c with pipeline := p }.lose .recordLoss)
          | (p, some (text, wide, digest)) => .next (storeFormatted c p qpc text wide digest)
    | _, _ => .lost (c.lose .recordLoss)

/-- `count` bounds the rounds left: each takes one drained record. -/
def formatReports (ops : NativeHashOps κ) (qpc : Nat) : Nat → NativeChannel κ → NativeChannel κ × Bool
  | 0, c => (c, true)
  | count + 1, c =>
      match formatNext ops c qpc with
      | .full c => (c, true)
      | .lost c => (c, false)
      | .next c => formatReports ops qpc count c

def prepareNativeFrames (ops : NativeHashOps κ) (c : NativeChannel κ) (qpc : Nat) : NativeChannel κ × Bool :=
  if !c.pipeline.initialized ∨ qpc = 0 then (c, false)
  else if !ledgerValid c.pipeline then (c.lose .recordLoss, false)
  else
    match drainReports kReportBatchLimit c with
    | (c, false) => (c, false)
    | (c, true) => formatReports ops qpc (c.pipeline.ledgerWrite - c.pipeline.nextFormat) c

def peekNativeFrame (c : NativeChannel κ) : NativeChannel κ × Option NativeReadyFrame :=
  let p := c.pipeline
  if !p.initialized then (c, none)
  else if !queueStateValid p then (c.lose .recordLoss, none)
  else if p.readyWrite = p.readyRead then (c, none)
  else
    let slot := p.ready.get p.readyRead
    if slot.ticket ≠ p.readyRead + 1 ∨ kNativeLedgerCapacity ≤ slot.ledgerIndex ∨
        !validMessage slot.message slot.chars then (c.lose .recordLoss, none)
    else (c, some slot)

def releaseNativeFrame (c : NativeChannel κ) (ticket : Nat) : NativeChannel κ × Bool :=
  match peekNativeFrame c with
  | (c, none) => (c.lose .recordLoss, false)
  | (c, some slot) =>
      if slot.ticket ≠ ticket then (c.lose .recordLoss, false)
      else ({ c with pipeline := { c.pipeline with readyRead := ticket } }, true)

def entryMatches (p : NativePipeline κ) (e : NativeLedgerEntry) (bytes : List UInt8) (digest : Sha256Digest) : Bool :=
  e.state = .ready && e.messageBytes = bytes.length &&
    if e.sequence ≠ 0 then decide (e.body = .digest digest)
    else decide (bytes.length = p.bootstrap.length) && decide (bytes = p.bootstrap)

def matchingTicket (p : NativePipeline κ) (bytes : List UInt8) (digest : Sha256Digest) : Option Nat :=
  (List.range' p.ledgerRead (p.nextFormat - p.ledgerRead)).find? fun ticket =>
    entryMatches p (p.ledger.get ticket) bytes digest

def matchNativeReceipt (ops : NativeHashOps κ) (c : NativeChannel κ) (bytes : List UInt8) :
    ReceiptDisposition × NativeChannel κ :=
  let p := c.pipeline
  if !p.initialized ∨ p.heldMatch ∨ !ledgerValid p ∨ p.ledgerRead = p.nextFormat then (.corrupt, c)
  else
    let digest := ops.digest p.hashContext bytes
    let c := { c with pipeline := { p with hashContext := digest.1 } }
    match digest.2 with
    | none => (.corrupt, c.lose .recordLoss)
    | some digest =>
        match matchingTicket p bytes digest with
        | none => (.corrupt, c)
        | some ticket =>
            if ticket ≠ p.ledgerRead then (.gap, c)
            else
              let c := c.setEntry ticket { p.ledger.get ticket with state := .matched }
              (.awaitingSubmission, { c with pipeline := { c.pipeline with heldMatch := true } })

structure OwnerSnapshotV3 where
  sequence : Nat
  startupSubmitted : Bool
  submittedSequence : Nat
  generatedSequence : Nat
  deriving DecidableEq, Repr

def acknowledgeNativeReceipt (c : NativeChannel κ) (owner : OwnerSnapshotV3) : NativeChannel κ × Bool :=
  let p := c.pipeline
  if !p.heldMatch ∨ !ledgerValid p ∨ owner.sequence < 2 ∨ owner.sequence % 2 = 1 then (c, false)
  else
    let entry := p.ledger.get p.ledgerRead
    let release (c : NativeChannel κ) : NativeChannel κ :=
      let c := c.setEntry p.ledgerRead .clear
      { c with pipeline := { c.pipeline with ledgerRead := p.ledgerRead + 1, heldMatch := false } }
    if entry.state ≠ .matched then (c.lose .recordLoss, false)
    else if entry.sequence = 0 then
      if !owner.startupSubmitted then (c, false)
      else (release { c with pipeline := { p with startupObserved := true } }, true)
    else if owner.submittedSequence < entry.sequence then (c, false)
    else if !p.startupObserved ∨ p.observedSequence = uint64Max ∨ entry.sequence ≠ p.observedSequence + 1 then
      (c.lose .recordLoss, false)
    else (release { c with pipeline := { p with observedSequence := entry.sequence } }, true)

def pipelineMatchOps (ops : NativeHashOps κ) : ReceiptMatchOps (NativeChannel κ) := ⟨matchNativeReceipt ops⟩

end RS2ServerFix.NativeLog
