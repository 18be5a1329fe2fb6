import RS2ServerFix.Reporting.Types

namespace RS2ServerFix.Reporting

inductive TransportReason
  | none | awaitingLogger | categorySuppressed | forceFlushMissing | framingUnsupported
  | sinkUnsupported | fileManagerUnsupported | receiptUnavailable | readerBehind | receiptOverdue
  | creditPressure | sameFileRequalification | receiptGap | receiptCorrupt | fileIdentityChanged
  | fileTruncated | profileUnsafe | nativeLogException
  deriving DecidableEq, Repr

inductive TransportState
  | waitingLogger
  | running
  | paused
  | faulted
  | stopping
  deriving DecidableEq, Repr

def Reason.value (r : Reason) : Nat := r.ctorIdx
def TransportReason.value (r : TransportReason) : Nat := r.ctorIdx
def TransportState.value (s : TransportState) : Nat := s.ctorIdx

def kReasonCount : Nat := 59

structure StatusWords where
  revokeReasons : UInt64
  lossReasons : UInt64
  stopping : Bool
  stoppedQpc : Nat
  workerPauseReason : Nat
  fatalTransportReason : Nat
  deriving DecidableEq, Repr

def StatusWords.clear : StatusWords := ⟨0, 0, false, 0, 0, 0⟩

def reasonMask (reason : Reason) : UInt64 :=
  (1 : UInt64) <<< (if reason = .none then Reason.statusUnavailable.value else reason.value).toUInt64

def revokeStatus (s : StatusWords) (reason : Reason) : StatusWords :=
  { s with revokeReasons := s.revokeReasons ||| reasonMask reason }

def loseStatus (s : StatusWords) (reason : Reason) : StatusWords :=
  revokeStatus { s with lossReasons := s.lossReasons ||| reasonMask reason } reason

def statusRevoked (s : StatusWords) : Bool :=
  s.revokeReasons ≠ 0 || s.lossReasons ≠ 0 || s.stopping || s.fatalTransportReason ≠ 0

def latchTransportFault (s : StatusWords) (reason : TransportReason) : StatusWords × Bool :=
  if reason.value < TransportReason.receiptGap.value then (s, false)
  else
    let s := if s.fatalTransportReason = 0 then { s with fatalTransportReason := reason.value } else s
    if reason.value ≤ TransportReason.fileTruncated.value then (loseStatus s .recordLoss, true)
    else (revokeStatus s (if reason = .profileUnsafe then .profileMismatch else .nativeUnwind), true)

end RS2ServerFix.Reporting
