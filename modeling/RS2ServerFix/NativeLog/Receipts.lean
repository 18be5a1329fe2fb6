import RS2ServerFix.NativeLog.Framing
import RS2ServerFix.Reporting.Types

namespace RS2ServerFix.NativeLog

variable {σ : Type}

inductive ReceiptDisposition
  | ignored
  | accepted
  | awaitingSubmission
  | gap
  | corrupt
  deriving DecidableEq, Repr

/-- The match callback with its context: every call takes the context to a
disposition and the context of the next call. -/
structure ReceiptMatchOps (σ : Type) where
  onMessage : σ → List UInt8 → ReceiptDisposition × σ

/-- `line` holds the carried bytes, so its length is the source's `carry`. -/
structure ReceiptScanner where
  offset : Nat
  prefixMode : PrefixMode
  runId : List UInt8
  line : List UInt8
  skipInitialSuffix : Bool
  oversized : Bool
  awaitingSubmission : Bool
  failed : Bool
  deriving DecidableEq, Repr

structure ReceiptScanResult where
  consumed : Nat
  disposition : ReceiptDisposition
  deriving DecidableEq, Repr

def initializeReceiptScanner (initialEOF : Nat) (boundary : Bool) (mode : PrefixMode)
    (runId : List UInt8) : ReceiptScanner :=
  ⟨initialEOF, mode, runId, [], !boundary, false, false, false⟩

def lineDisposition (ops : ReceiptMatchOps σ) (s : ReceiptScanner) (m : σ) : ReceiptDisposition × σ :=
  let view := inspectLine s.line s.prefixMode (!s.oversized)
  let selected := view.messageOffset ≠ 0 ∧ belongsToRun (s.line.drop view.messageOffset) s.runId = true
  if s.oversized then
    -- A kept head of this size is past the native prefix and the marker.
    (if selected then .corrupt else .ignored, m)
  else if selected ∧ view.kind = .malformed then (.corrupt, m)
  else if selected ∧ view.kind = .frame then
    ops.onMessage m ((s.line.drop view.messageOffset).take view.messageBytes)
  else (.ignored, m)

def carryByte (s : ReceiptScanner) (c : UInt8) : ReceiptScanner :=
  if s.line.length < kLineLimit then { s with line := s.line ++ [c] } else { s with oversized := true }

/-- One byte of the scanning loop, up to the choice of whether to go on. -/
def scanByte (ops : ReceiptMatchOps σ) (s : ReceiptScanner) (m : σ) (c : UInt8) :
    ReceiptScanner × σ × ReceiptDisposition :=
  let s := { s with offset := s.offset + 1 }
  if s.skipInitialSuffix then
    ({ s with skipInitialSuffix := decide (c ≠ lineFeed) }, m, .ignored)
  else
    let s := carryByte s c
    if c ≠ lineFeed then (s, m, .ignored)
    else
      let d := lineDisposition ops s m
      ({ s with line := [], oversized := false }, d.2, d.1)

def scanLoop (ops : ReceiptMatchOps σ) :
    List UInt8 → ReceiptScanner → σ → ReceiptScanResult → ReceiptScanner × σ × ReceiptScanResult
  | [], s, m, r => (s, m, r)
  | c :: bytes, s, m, r =>
      if s.offset = uint64Max then ({ s with failed := true }, m, { r with disposition := .corrupt })
      else
        match scanByte ops s m c with
        | (s, m, .ignored) => scanLoop ops bytes s m ⟨r.consumed + 1, r.disposition⟩
        | (s, m, .accepted) => scanLoop ops bytes s m ⟨r.consumed + 1, .accepted⟩
        | (s, m, .awaitingSubmission) =>
            ({ s with awaitingSubmission := true }, m, ⟨r.consumed + 1, .awaitingSubmission⟩)
        | (s, m, .gap) => ({ s with failed := true }, m, ⟨r.consumed + 1, .gap⟩)
        | (s, m, .corrupt) => ({ s with failed := true }, m, ⟨r.consumed + 1, .corrupt⟩)

def scanReceiptChunk (ops : ReceiptMatchOps σ) (s : ReceiptScanner) (m : σ) (bytes : List UInt8) :
    ReceiptScanner × σ × ReceiptScanResult :=
  if s.failed then (s, m, ⟨0, .corrupt⟩)
  else if s.awaitingSubmission then (s, m, ⟨0, .awaitingSubmission⟩)
  else if kLineLimit < s.line.length then ({ s with failed := true }, m, ⟨0, .corrupt⟩)
  else scanLoop ops bytes s m ⟨0, .ignored⟩

def resumeReceiptScanner (s : ReceiptScanner) : ReceiptScanner × Bool :=
  if s.failed ∨ ¬ s.awaitingSubmission ∨ s.line ≠ [] ∨ s.oversized then (s, false)
  else ({ s with awaitingSubmission := false }, true)

end RS2ServerFix.NativeLog
