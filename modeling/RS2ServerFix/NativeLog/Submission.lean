import RS2ServerFix.Lib.Interference
import RS2ServerFix.NativeLog.Pipeline

namespace RS2ServerFix.NativeLog

open Reporting Lib

variable {κ : Type}

inductive CallerClass
  | unknown
  | normalPump
  | normalBuilder
  | knownSpin
  | shutdownDrain
  | truncated
  deriving DecidableEq, Repr

structure NativeLogSnapshot where
  redirector : Nat
  file : Nat
  archive : Nat
  archiveHandle : Nat
  sinks : List Nat
  sinkVtables : List Nat
  inheritedFallbacks : List Nat
  sinkCount : Nat
  pathChars : Nat
  prefixMode : Nat
  path : List UInt16
  deriving DecidableEq, Repr

structure OwnerCounters where
  startupSubmitted : Bool
  submittedSequence : Nat
  generatedSequence : Nat
  qualifiedSinkEpoch : Nat
  nativeSubmitCalls : Nat
  nativeSubmitElapsedTicks : Nat
  nativeSubmitMaximumTicks : Nat
  nativeSubmitOverFiveMilliseconds : Nat
  lastNativeSubmitQpc : Nat
  submitWindowStartQpc : Nat
  submitWindowCount : Nat
  deriving DecidableEq, Repr

structure NativeLogService where
  attached : Bool
  frequency : Nat
  snapshot : NativeLogSnapshot
  epoch : Nat
  lastClock : Nat
  lastService : Nat
  submittedAt : Slots 8 Nat
  submittedHead : Nat
  submittedCount : Nat
  haveClock : Bool
  haveService : Bool
  haveSnapshot : Bool

structure TransportWords where
  stop : Bool
  qualifiedEpoch : Nat
  logIdentityReady : Bool
  startupObserved : Bool
  deriving DecidableEq, Repr

structure LogCall where
  caller : CallerClass
  topLevel : Bool
  owner : Bool
  now : Nat
  deriving DecidableEq, Repr

/-- What the outside answers at a moment: the clock, the probe of the logger,
the mailbox, the native call, and the next visit. -/
structure LogSurroundings where
  clock : Option Nat
  snapshot : TransportReason × NativeLogSnapshot
  requestTaken : Bool
  raises : Bool
  call : LogCall

/-- A frame handed to the native logger, with what was known at its last
status check and what became of the call. -/
structure Handed where
  sequence : Nat
  ticket : Nat
  observed : Bool
  opened : Bool
  returned : Bool
  deriving DecidableEq, Repr

/-- The service with the channel and the words around it. `observedOnce` and
`openAtCheck` remember what was seen, `handed` is the history of the calls. -/
structure LogWorld (κ : Type) where
  channel : NativeChannel κ
  service : NativeLogService
  counters : OwnerCounters
  transport : TransportWords
  around : LogSurroundings
  observedOnce : Bool
  openAtCheck : Bool
  handed : List Handed

namespace LogWorld

variable (w : LogWorld κ)

def setStatus (status : StatusWords) : LogWorld κ := { w with channel := { w.channel with status := status } }

def revoke (reason : Reason) : LogWorld κ := w.setStatus (revokeStatus w.channel.status reason)

def setService (s : NativeLogService) : LogWorld κ := { w with service := s }

def setCounters (c : OwnerCounters) : LogWorld κ := { w with counters := c }

def submittedFrames : Nat := if w.counters.startupSubmitted then w.counters.submittedSequence + 1 else 0

end LogWorld

abbrev LogProg (κ α : Type) := Prog (LogWorld κ) α

def sample : LogProg κ (Option Nat) := .act fun w =>
  match w.around.clock with
  | none => (none, w.revoke .clockFailed)
  | some now =>
      if now = 0 ∨ (w.service.haveClock ∧ now < w.service.lastClock) then (none, w.revoke .clockFailed)
      else (some now, w.setService { w.service with lastClock := now, haveClock := true })

def addSubmit (get : OwnerCounters → Nat) (set : OwnerCounters → Nat → OwnerCounters) (delta : Nat) :
    LogProg κ Bool := .act fun w =>
  if uint64Max - get w.counters < delta then (false, w.revoke .counterOverflow)
  else (true, w.setCounters (set w.counters (get w.counters + delta)))

def nativeTransportQualifiedEpoch (w : LogWorld κ) : Nat :=
  if !w.transport.stop && !w.channel.status.stopping then w.transport.qualifiedEpoch else 0

def qualifyEpoch : LogProg κ TransportReason := .act fun w =>
  if nativeTransportQualifiedEpoch w ≠ w.service.epoch then
    (if w.counters.startupSubmitted then .sameFileRequalification else .awaitingLogger,
      w.setCounters { w.counters with qualifiedSinkEpoch := 0 })
  else (.none, w.setCounters { w.counters with qualifiedSinkEpoch := w.service.epoch })

def requestEpoch (current : NativeLogSnapshot) : LogProg κ Bool := .act fun w =>
  if !w.around.requestTaken then (false, w)
  else
    (true, (w.setService { w.service with
      snapshot := current, haveSnapshot := true, epoch := w.service.epoch + 1 }).setCounters
        { w.counters with qualifiedSinkEpoch := 0 })

def qualify : LogProg κ TransportReason := do
  let (reason, current) ← .read fun w => w.around.snapshot
  if reason ≠ .none then
    .modify fun w =>
      let w := w.setCounters { w.counters with qualifiedSinkEpoch := 0 }
      if TransportReason.receiptGap.value ≤ reason.value then w.setStatus (latchTransportFault w.channel.status reason).1
      else w
    pure reason
  else
    let s ← .read fun w => w.service
    if !s.haveSnapshot ∨ current ≠ s.snapshot then
      if s.epoch = uint64Max then
        .modify fun w => w.revoke .counterOverflow
        pure .profileUnsafe
      else if ← requestEpoch current then qualifyEpoch
      else pure .awaitingLogger
    else qualifyEpoch

/-- The submissions of the window that are a second old leave it, unless one
of them lies ahead of the clock. -/
def expireWindow (now : Nat) : Nat → NativeLogService → Bool × NativeLogService
  | 0, s => (true, { s with submittedCount := 0 })
  | count + 1, s =>
      let oldest := s.submittedAt.get s.submittedHead
      if now < oldest then (false, { s with submittedCount := count + 1 })
      else if now - oldest < s.frequency then (true, { s with submittedCount := count + 1 })
      else expireWindow now count { s with submittedHead := (s.submittedHead + 1) % 8 }

def rateAllows (now : Nat) : LogProg κ Bool := .act fun w =>
  if 8 < w.service.submittedCount ∨ 8 ≤ w.service.submittedHead then (false, w.revoke .statusUnavailable)
  else
    match expireWindow now w.service.submittedCount w.service with
    | (false, s) => (false, (w.setService s).revoke .clockFailed)
    | (true, s) =>
        (decide (s.submittedCount < 8), (w.setService s).setCounters { w.counters with
          submitWindowStartQpc := if s.submittedCount ≠ 0 then s.submittedAt.get s.submittedHead else now
          submitWindowCount := s.submittedCount })

def noteSubmission (start : Nat) : LogProg κ Unit := .modify fun w =>
  let s := { w.service with
    submittedAt := w.service.submittedAt.set (w.service.submittedHead + w.service.submittedCount) start
    submittedCount := w.service.submittedCount + 1 }
  (w.setService s).setCounters { w.counters with
    submitWindowCount := s.submittedCount, submitWindowStartQpc := s.submittedAt.get s.submittedHead }

def nativeTransportFrame (epoch : Nat) : LogProg κ (Option NativeReadyFrame) := .act fun w =>
  if epoch = 0 ∨ w.transport.stop ∨ statusRevoked w.channel.status ∨ w.transport.qualifiedEpoch ≠ epoch ∨
      !w.transport.logIdentityReady then (none, w)
  else
    match peekNativeFrame w.channel with
    | (c, none) => (none, { w with channel := c })
    | (c, some frame) =>
        (if frame.sequence ≠ 0 ∧ !w.transport.startupObserved then none else some frame, { w with channel := c })

def nativeTransportReturned (ticket : Nat) : LogProg κ Bool := .act fun w =>
  match releaseNativeFrame w.channel ticket with
  | (c, released) => (released, { w with channel := c })

def nextToSubmit (c : OwnerCounters) (frame : NativeReadyFrame) : Bool :=
  validMessage frame.message frame.chars &&
    if frame.sequence = 0 then !c.startupSubmitted
    else c.startupSubmitted && decide (c.submittedSequence ≠ uint64Max) &&
      decide (frame.sequence = c.submittedSequence + 1) && decide (frame.sequence ≤ c.generatedSequence)

def checkOpen : LogProg κ Bool := .act fun w =>
  (!statusRevoked w.channel.status, { w with openAtCheck := !statusRevoked w.channel.status })

def invokeEnter (frame : NativeReadyFrame) : LogProg κ Unit := .modify fun w =>
  { w with handed := w.handed ++ [⟨frame.sequence, frame.ticket, w.observedOnce, w.openAtCheck, false⟩] }

def markReturned (handed : List Handed) : List Handed :=
  handed.dropLast ++ (handed.getLast?.map fun h => { h with returned := true }).toList

/-- The native call comes back, normally or with an exception on its way. -/
def invokeLeave : LogProg κ Bool := .act fun w =>
  if w.around.raises then (false, w.setStatus (latchTransportFault w.channel.status .nativeLogException).1)
  else (true, { w with handed := markReturned w.handed })

def recordSubmission (frame : NativeReadyFrame) : LogProg κ Unit := .modify fun w =>
  w.setCounters (if frame.sequence ≠ 0 then { w.counters with submittedSequence := frame.sequence }
    else { w.counters with startupSubmitted := true })

structure NativeServiceResult where
  reason : TransportReason
  qualified : Bool
  submitted : Nat
  deriving DecidableEq, Repr

inductive RoundEnd
  | again (result : NativeServiceResult)
  | stop (result : NativeServiceResult)
  | raised
  deriving DecidableEq, Repr

def countLongCall (elapsed : Nat) : LogProg κ Bool := do
  let frequency ← .read fun w => w.service.frequency
  if frequency / 200 < elapsed then
    addSubmit (·.nativeSubmitOverFiveMilliseconds) (fun c v => { c with nativeSubmitOverFiveMilliseconds := v }) 1
  else pure true

def accountCall (start : Nat) : LogProg κ Bool := do
  match ← sample with
  | none => pure false
  | some stop =>
      let elapsed := stop - start
      if ← addSubmit (·.nativeSubmitElapsedTicks) (fun c v => { c with nativeSubmitElapsedTicks := v }) elapsed then
        .modify fun w => w.setCounters { w.counters with
          nativeSubmitMaximumTicks := max w.counters.nativeSubmitMaximumTicks elapsed }
        if ← countLongCall elapsed then
          .modify fun w => w.setCounters { w.counters with lastNativeSubmitQpc := stop }
          pure true
        else pure false
      else pure false

def invokeFrame (frame : NativeReadyFrame) (start : Nat) (result : NativeServiceResult) : LogProg κ RoundEnd := do
  invokeEnter frame
  if ← invokeLeave then
    recordSubmission frame
    let result := { result with submitted := result.submitted + 1 }
    if ← nativeTransportReturned frame.ticket then
      if ← accountCall start then pure (.again result) else pure (.stop result)
    else
      .modify fun w => w.setStatus (loseStatus w.channel.status .recordLoss)
      pure (.stop result)
  else pure .raised

def admitFrame (frame : NativeReadyFrame) (result : NativeServiceResult) : LogProg κ RoundEnd := do
  match ← sample with
  | none => pure (.stop result)
  | some start =>
      if ← rateAllows start then
        if ← checkOpen then
          if ← addSubmit (·.nativeSubmitCalls) (fun c v => { c with nativeSubmitCalls := v }) 1 then
            noteSubmission start
            invokeFrame frame start result
          else pure (.stop result)
        else pure (.stop result)
      else pure (.stop result)

def requalifyFrame (frame : NativeReadyFrame) (result : NativeServiceResult) : LogProg κ RoundEnd := do
  let epoch ← .read fun w => w.service.epoch
  let reason ← qualify
  let (after, revoked) ← .read fun w => (w.service.epoch, statusRevoked w.channel.status)
  if reason ≠ .none ∨ after ≠ epoch ∨ revoked then
    pure (.stop ⟨if reason = .none ∧ after ≠ epoch then .sameFileRequalification else reason, false, result.submitted⟩)
  else admitFrame frame { result with reason := reason }

def submitRound (result : NativeServiceResult) : LogProg κ RoundEnd := do
  let epoch ← .read fun w => w.service.epoch
  match ← nativeTransportFrame epoch with
  | none => pure (.stop result)
  | some frame =>
      let early ← .read fun w => decide (frame.sequence ≠ 0) && !w.transport.startupObserved
      if early then pure (.stop result)
      else
        let next ← .read fun w => nextToSubmit w.counters frame
        if next then requalifyFrame frame result
        else
          .modify fun w => w.setStatus (loseStatus w.channel.status .recordLoss)
          pure (.stop result)

/-- The rounds of one visit; `none` when an exception goes on to the caller. -/
def submitRounds : Nat → NativeServiceResult → LogProg κ (Option NativeServiceResult)
  | 0, result => pure (some result)
  | count + 1, result => do
      match ← submitRound result with
      | .again result => submitRounds count result
      | .stop result => pure (some result)
      | .raised => pure none

def nativeLogServiceDue (w : LogWorld κ) : Bool :=
  let s := w.service
  let call := w.around.call
  if !s.attached ∨ s.frequency = 0 ∨ !call.owner ∨ statusRevoked w.channel.status ∨ call.now = 0 then false
  else
    let interval := s.frequency / 4 + if s.frequency % 4 ≠ 0 then 1 else 0
    !s.haveService || decide (call.now < s.lastService) || decide (interval ≤ call.now - s.lastService)

def beginService : LogProg κ Bool := .act fun w =>
  let call := w.around.call
  if !call.topLevel ∨ call.caller ≠ .normalPump ∨ !nativeLogServiceDue w then (false, w)
  else if w.service.haveClock ∧ call.now < w.service.lastClock then (false, w.revoke .clockFailed)
  else (true, w.setService { w.service with
    lastClock := call.now, haveClock := true, lastService := call.now, haveService := true })

def serviceNativeLog : LogProg κ (Option NativeServiceResult) := do
  if ← beginService then
    let reason ← qualify
    let revoked ← .read fun w => statusRevoked w.channel.status
    if reason ≠ .none ∨ revoked then pure (some ⟨reason, false, 0⟩)
    else
      match ← submitRounds 2 ⟨.none, true, 0⟩ with
      | none => pure none
      | some result =>
          let revoked ← .read fun w => statusRevoked w.channel.status
          pure (some { result with qualified := result.qualified && !revoked })
  else pure (some ⟨.none, false, 0⟩)

end RS2ServerFix.NativeLog
