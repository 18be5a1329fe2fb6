import RS2ServerFix.Lib.Crew
import RS2ServerFix.Lib.Latch
import RS2ServerFix.Control.Request

namespace RS2ServerFix.Control

open Lib
open LeechRecovery (ControlResult RequestOrigin)

inductive ConsoleRegistration
  | notRegistered | available | unavailable
  deriving DecidableEq, Repr

structure ControlState where
  enabled : Bool
  consoleRequested : Bool
  scope : ControlScope
  identity : ControlRequest

inductive PipeRead
  | message (bytes : List UInt8)
  | moreData
  | failed

/-- One access to a shared word, or one call whose outcome the surroundings decide. -/
inductive ControlOp
  | readStop
  | setStop
  | readStarted
  | readResult
  | setResult (result : ControlResult)
  | readRegistration
  | compareExchangeLatched (value comparand : RequestOrigin)
  | resetEvent
  | connectPipe
  | readPipe
  | authenticatePeer
  | disconnectPipe
  | foreignFault
  | pending
  | usableCapture
  | attempt
  | recorded
  | untouched
  | operation (origin : RequestOrigin)

def ControlOp.Answer : ControlOp → Type
  | .readResult => ControlResult
  | .readRegistration => ConsoleRegistration
  | .compareExchangeLatched _ _ => RequestOrigin
  | .readPipe => PipeRead
  | .setStop | .setResult _ | .operation _ => Unit
  | _ => Bool

abbrev Thread (α : Type) := Ask ControlOp ControlOp.Answer α

def readStop : Thread Bool := Ask.query ControlOp.readStop

def running : Thread Bool := do
  let stop ← readStop
  pure (!stop)

def readStarted : Thread Bool := Ask.query ControlOp.readStarted

def readResult : Thread ControlResult := Ask.query ControlOp.readResult

def resultReady : Thread Bool := do
  let result ← readResult
  pure (decide (result = .ready))

def readConsoleRegistration : Thread ConsoleRegistration := Ask.query ControlOp.readRegistration

def compareExchangeLatched (value comparand : RequestOrigin) : Thread RequestOrigin :=
  Ask.query (ControlOp.compareExchangeLatched value comparand)

/-- An exchange of nothing for nothing only reads. -/
def readLatched : Thread RequestOrigin := compareExchangeLatched .none .none

section Control

variable (c : ControlState)

def consoleAdmitted : Thread Bool :=
  if c.consoleRequested then do
    let registration ← readConsoleRegistration
    pure (decide (registration = .available) && c.scope.schema == 2)
  else pure false

def originAdmitted : RequestOrigin → Thread Bool
  | .pipe => pure true
  | .serverAdminConsole => consoleAdmitted c
  | .none => pure false

def claimControl (origin : RequestOrigin) : Thread Bool := do
  let serving ← pure c.enabled <&&> readStarted <&&> running <&&> resultReady
  let admitted ← pure (serving && validIdentity c.identity && validScope c.scope) <&&> originAdmitted c origin
  if admitted then
    let previous ← compareExchangeLatched origin .none
    pure (decide (previous = .none))
  else pure false

def claimConsoleControlRequest : Thread Bool := claimControl c .serverAdminConsole

def stoppedOr (result : ControlResult) : Thread ControlResult := do
  let stop ← readStop
  pure (if stop then .stopped else result)

def receiveMessage (bytes : List UInt8) : Thread ControlResult := do
  let result := ((parseControlRequest bytes c.identity (some c.scope)).map Prod.fst).getD .invalidRequest
  if result ≠ .ready then pure result
  else
    let claimed ← claimControl c .pipe
    if claimed then pure .latched
    else
      let stop ← readStop
      if stop then pure .stopped
      else if c.scope.schema = 2 then pure .alreadyClaimed
      else
        -- the legacy scope tells a claimed latch from a request that was refused
        let latched ← readLatched
        pure (if latched ≠ .none then .alreadyClaimed else .invalidRequest)

def receiveRead : PipeRead → Thread ControlResult
  | .failed => stoppedOr .readFailure
  | .moreData => stoppedOr .invalidRequest
  | .message bytes => do
      let stop ← readStop
      if stop then pure .stopped
      else
        let (accepted : Bool) ← Ask.query ControlOp.authenticatePeer
        if !accepted then pure .securityRejected else receiveMessage c bytes

def receivePipe : Thread ControlResult := do
  let (reset : Bool) ← Ask.query ControlOp.resetEvent
  if !reset then pure .workerFailure
  else
    let (connected : Bool) ← Ask.query ControlOp.connectPipe
    if !connected then stoppedOr .readFailure
    else
      let (reset : Bool) ← Ask.query ControlOp.resetEvent
      if !reset then pure .workerFailure
      else
        let (read : PipeRead) ← Ask.query ControlOp.readPipe
        receiveRead c read

structure OwnerState where
  requested : Bool
  terminal : Bool
  preflightRetryable : Bool
  operationSequence : Nat
  deriving DecidableEq, Repr

/-- Where a thread stands between two of its programs. -/
inductive Report
  | looping
  | exited (result : ControlResult)
  | console (claimed : Bool)
  | owner (o : OwnerState)
  deriving DecidableEq, Repr

def workerExit (result : ControlResult) : Thread Report := do
  let result ← stoppedOr result
  let _ ← Ask.query (ControlOp.setResult result)
  pure (.exited result)

def workerNext (result : ControlResult) : Thread Report := do
  let (disconnected : Bool) ← Ask.query ControlOp.disconnectPipe
  if !disconnected then workerExit .workerFailure
  else if c.scope.schema ≠ 2 ∨ result ≠ .latched ∧ result ≠ .alreadyClaimed then workerExit result
  else
    let stop ← readStop
    if stop then workerExit result else pure .looping

def workerTurn : Thread Report := do
  let result ← receivePipe c
  workerNext c result

def consoleTurn : Thread Report := do
  let claimed ← claimConsoleControlRequest c
  pure (.console claimed)

def readLatchedControl : Thread (Option RequestOrigin) := do
  let selected ← readLatched
  let admitted ← pure (validIdentity c.identity && validScope c.scope) <&&> originAdmitted c selected
  pure (if admitted then some selected else none)

def releasePreflightClaim : Thread Bool := do
  let serving ← pure (c.scope.schema == 2 && c.enabled) <&&> readStarted <&&> running <&&> resultReady
  if !serving then pure false
  else
    let origin ← readLatched
    if origin = .none then pure false
    else
      let previous ← compareExchangeLatched .none origin
      pure (decide (previous = origin))

/-- The end of an attempt. Its records, its admission and its native side are
the surroundings' to say. -/
def finishTerminal (o : OwnerState) : Thread OwnerState := do
  let (recorded : Bool) ← Ask.query ControlOp.recorded
  let (untouched : Bool) ← Ask.query ControlOp.untouched
  let retryable := recorded && untouched && c.scope.schema == 2 && o.terminal && o.operationSequence != 0 &&
    o.operationSequence != uint64Max
  let released ← pure retryable <&&> releasePreflightClaim c
  pure (if released then { o with preflightRetryable := true } else o)

/-- What is left of a visit once its request is in service, a fault found
earlier in the visit included. -/
def serviceAttempt (o : OwnerState) : Thread OwnerState := do
  let (terminal : Bool) ← Ask.query ControlOp.attempt
  let o := { o with terminal := o.terminal || terminal }
  if o.terminal then finishTerminal c o else pure o

def serviceRequest (o : OwnerState) : Thread OwnerState := do
  let request ← readLatchedControl c
  match request with
  | none => serviceAttempt c { o with requested := true, terminal := true }
  | some origin =>
      if o.operationSequence = uint64Max then finishTerminal c { o with requested := true, terminal := true }
      else
        let _ ← Ask.query (ControlOp.operation origin)
        serviceAttempt c { o with requested := true, operationSequence := o.operationSequence + 1 }

def serviceOpen (o : OwnerState) : Thread OwnerState :=
  if o.requested then serviceAttempt c o else serviceRequest c o

def serviceRetryable (o : OwnerState) : Thread OwnerState := do
  let (foreign : Bool) ← Ask.query ControlOp.foreignFault
  if foreign then finishTerminal c o
  else
    let serving ← running <&&> resultReady
    if !serving then finishTerminal c { o with preflightRetryable := false }
    else
      let next ← readLatchedControl c
      match next with
      | none => pure o
      | some _ => serviceOpen c { o with requested := false, terminal := false, preflightRetryable := false }

def serviceLeechRecovery (o : OwnerState) : Thread OwnerState := do
  let (usable : Bool) ← Ask.query ControlOp.usableCapture
  if !usable then
    let (terminal : Bool) ← Ask.query ControlOp.attempt
    pure { o with terminal := o.terminal || o.requested && terminal }
  else if o.terminal ∧ o.preflightRetryable then serviceRetryable c o
  else serviceOpen c o

def recoveryServiceDue (o : OwnerState) : Thread Bool := do
  let (foreign : Bool) ← pure o.preflightRetryable <&&> Ask.query ControlOp.foreignFault
  if foreign then pure true
  else if o.requested ∧ !o.preflightRetryable then
    let (pending : Bool) ← Ask.query ControlOp.pending
    pure (!o.terminal || pending)
  else
    let result ← readResult
    let latched ← readLatched
    pure (decide (latched ≠ .none) || !(result = .ready || result = .missing || result = .pendingWrite))

def ownerVisit (o : OwnerState) : Thread Report := do
  let due ← recoveryServiceDue o
  if due then
    let next ← serviceLeechRecovery c o
    pure (.owner next)
  else pure (.owner o)

def stopControl (o : OwnerState) : Thread Report := do
  let _ ← Ask.query ControlOp.setStop
  pure (.owner o)

end Control

inductive Party
  | worker | console | owner
  deriving DecidableEq, Repr

/-- The shared words. The history of the latch is kept for the statements alone. -/
structure ControlWords where
  stop : Bool
  started : Bool
  result : ControlResult
  consoleRegistration : ConsoleRegistration
  latched : RequestOrigin
  history : List (LatchEvent RequestOrigin)

namespace ControlWords

def armed (registration : ConsoleRegistration) : ControlWords := ⟨false, true, .ready, registration, .none, []⟩

def exchanged (value comparand : RequestOrigin) : List (LatchEvent RequestOrigin) :=
  if value = comparand then [] else if comparand = .none then [.claimed value] else [.released comparand]

def compareExchange (s : ControlWords) (value comparand : RequestOrigin) : ControlWords :=
  if s.latched = comparand then { s with latched := value, history := exchanged value comparand ++ s.history } else s

end ControlWords

def responds (_ : Party) : Responds ControlOp ControlOp.Answer ControlWords
  | .readStop, s, answer, t => answer = s.stop ∧ t = s
  | .setStop, s, _, t => t = { s with stop := true }
  | .readStarted, s, answer, t => answer = s.started ∧ t = s
  | .readResult, s, answer, t => answer = s.result ∧ t = s
  | .setResult result, s, _, t => t = { s with result := result }
  | .readRegistration, s, answer, t => answer = s.consoleRegistration ∧ t = s
  | .compareExchangeLatched value comparand, s, answer, t =>
      answer = s.latched ∧ t = s.compareExchange value comparand
  | .operation origin, s, _, t => t = { s with history := .operation origin :: s.history }
  | _, s, _, t => t = s

/-- What each thread goes on with. -/
inductive Starts (c : ControlState) : Party → Report → Thread Report → ControlWords → ControlWords → Prop
  | worker (s : ControlWords) : Starts c .worker .looping (workerTurn c) s s
  | console (claimed : Bool) (s : ControlWords) : Starts c .console (.console claimed) (consoleTurn c) s s
  | visit (o : OwnerState) (s : ControlWords) : Starts c .owner (.owner o) (ownerVisit c o) s s
  | stop (o : OwnerState) (s : ControlWords) : Starts c .owner (.owner o) (stopControl o) s s

def outside (s t : ControlWords) : Prop := ∃ registration, t = { s with consoleRegistration := registration }

def resting : Party → Thread Report
  | .worker => .done .looping
  | .console => .done (.console false)
  | .owner => .done (.owner ⟨false, false, false, 0⟩)

end RS2ServerFix.Control
