import RS2ServerFix.Lib.Circular
import RS2ServerFix.Lib.Crew
import RS2ServerFix.Reporting.Types

namespace RS2ServerFix.Observer.Log

open Lib

def kQueueCapacity : Nat := 4096
def kBatchCount : Nat := 256
def kEventBytes : Nat := 1024
def kAnchorBytes : Nat := 8192
def kMetadataBytes : Nat := 128 * 1024
def kFooterReserve : Nat := kAnchorBytes
def int64Max : Nat := 2 ^ 63 - 1

def errorSuccess : Nat := 0
def errorInvalidData : Nat := 13
def errorGenFailure : Nat := 31
def errorWriteFault : Nat := 29
def errorInsufficientBuffer : Nat := 122
def errorFileTooLarge : Nat := 223

inductive WriterStatus
  | prepared | recording | failed | truncated | stopped
  deriving DecidableEq, Repr

structure Event where
  steamId : Nat
  flags : Nat
  deriving DecidableEq, Repr

def hasSteamId (e : Event) : Bool := e.flags &&& 1 ≠ 0

def noEvent : Event := ⟨0, 0⟩

structure QueuedEvent where
  event : Event
  sequence : Nat
  deriving DecidableEq, Repr

inductive Counter
  | bytesWritten | eventsWritten | droppedContention | droppedFull | abandoned
  deriving DecidableEq, Repr

inductive RecordKind
  | startup
  | event (queued : QueuedEvent)
  | anchor
  | footer
  deriving DecidableEq, Repr

def capacity : RecordKind → Nat
  | .startup => kMetadataBytes
  | .event _ => kEventBytes
  | .anchor => kAnchorBytes
  | .footer => kAnchorBytes

structure WriteAnswer where
  ok : Bool
  written : Nat
  error : Nat
  deriving DecidableEq, Repr

structure Written where
  kind : RecordKind
  length : Nat
  answer : WriteAnswer
  deriving DecidableEq, Repr

/-- The steps of the writer that others can come between. -/
inductive Op
  | status
  | setStatus (status : WriterStatus)
  | setError (error : Nat)
  | armed
  | stop
  | setDepth
  | read (counter : Counter)
  | add (counter : Counter) (delta : Nat)
  | tryAcquire
  | acquire
  | release
  | full
  | enqueue (event : Event)
  | takeBatch
  | text (kind : RecordKind)
  | token (id : Nat)
  | write (kind : RecordKind) (length : Nat)
  | flush
  | tick
  | bindings
  | entered
  | notice (index : Nat)

def Op.Answer : Op → Type
  | .status => WriterStatus
  | .armed | .stop | .tryAcquire | .full | .token _ | .bindings | .entered => Bool
  | .read _ | .text _ | .tick => Nat
  | .takeBatch => List QueuedEvent
  | .write _ _ => WriteAnswer
  | .flush => Bool × Nat
  | .setStatus _ | .setError _ | .setDepth | .add _ _ | .acquire | .release | .enqueue _ | .notice _ => Unit

inductive Mode
  | running
  | abandoning (terminal : Bool)
  | exited
  deriving DecidableEq, Repr

structure Keeping where
  mode : Mode
  started : Bool
  footerWritten : Bool
  partialTail : Bool
  closed : Bool
  lastAnchor : Nat
  lastFlush : Nat
  noticedBound : Bool
  noticedCalls : Bool
  deriving DecidableEq, Repr

abbrev Work (α : Type) : Type := Act Op Op.Answer Keeping Empty α

def status : Work WriterStatus := Act.query Op.status
def setStatus (s : WriterStatus) : Work Unit := Act.query (Op.setStatus s)
def add (counter : Counter) (delta : Nat) : Work Unit := Act.query (Op.add counter delta)
def readCounter (counter : Counter) : Work Nat := Act.query (Op.read counter)

def publishLocked (event : Event) : Work Unit := do
  let lockedStatus ← status
  if lockedStatus ≠ .prepared ∧ lockedStatus ≠ .recording then
    let _ : Unit ← Act.query Op.release
    add .abandoned 1
  else
    let full : Bool ← Act.query Op.full
    if full then
      let _ : Unit ← Act.query Op.release
      add .droppedFull 1
    else
      let _ : Unit ← Act.query (Op.enqueue event)
      let _ : Unit ← Act.query Op.setDepth
      let _ : Unit ← Act.query Op.release
      return ()

def publish (event : Event) : Work Unit := do
  let s ← status
  if s ≠ .prepared ∧ s ≠ .recording then add .abandoned 1
  else
    let acquired : Bool ← Act.query Op.tryAcquire
    if acquired then publishLocked event else add .droppedContention 1

def takeBatch : Work (List QueuedEvent) := do
  let _ : Unit ← Act.query Op.acquire
  let batch : List QueuedEvent ← Act.query Op.takeBatch
  let _ : Unit ← Act.query Op.setDepth
  let _ : Unit ← Act.query Op.release
  return batch

def exchangeFailure (s : WriterStatus) (error : Nat) : Work Unit := do
  let _ : Unit ← Act.query (Op.setError error)
  setStatus s

def fail (s : WriterStatus) (error : Nat) : Work Unit := do
  let first ← status
  if first = .recording then exchangeFailure s error
  else
    let second ← status
    if second = .prepared then exchangeFailure s error else return ()

section Writing

variable (limit : Nat)

def recordCap (kind : RecordKind) : Nat := limit - if kind = .footer then 0 else kFooterReserve

def settle (length : Nat) (answer : WriteAnswer) : Work Bool :=
  if length < answer.written then do
    fail .failed errorInvalidData
    Act.modify fun k => { k with partialTail := true }
    return false
  else do
    add .bytesWritten answer.written
    if !answer.ok ∨ answer.written ≠ length then
      Act.modify fun k => { k with partialTail := answer.written ≠ 0 && answer.written ≠ length }
      fail .failed (if answer.error ≠ 0 then answer.error else errorWriteFault)
      return false
    else return true

def writeRecord (kind : RecordKind) (length : Nat) : Work Bool := do
  let used ← readCounter .bytesWritten
  if recordCap limit kind < length ∨ recordCap limit kind - length < used then
    if kind ≠ .footer then
      fail .truncated errorFileTooLarge
      return false
    else return false
  else
    let answer : WriteAnswer ← Act.query (Op.write kind length)
    settle length answer

/-- A record is formatted into a buffer that is to have room for a zero after it. -/
def formatted (kind : RecordKind) : Work Bool := do
  let length : Nat ← Act.query (Op.text kind)
  if capacity kind ≤ length then
    fail .failed errorInsufficientBuffer
    return false
  else writeRecord limit kind length

def startup : Work Bool := formatted limit .startup

def anchor (footer : Bool) : Work Bool := formatted limit (if footer then .footer else .anchor)

def formatEvent (queued : QueuedEvent) : Work Bool :=
  if hasSteamId queued.event then do
    let token : Bool ← Act.query (Op.token queued.event.steamId)
    if token then formatted limit (.event queued)
    else
      fail .failed errorGenFailure
      return false
  else formatted limit (.event queued)

def notice (index : Nat) : Work Unit := Act.query (Op.notice index)

def closeResources : Work Unit := Act.modify fun k => { k with closed := true }

def terminalRest : Work Unit := do
  let k ← Act.get
  if !k.footerWritten ∧ !k.partialTail ∧ k.started then
    Act.modify fun k => { k with footerWritten := true }
    let _ ← anchor limit true
    let _ ← status
    let _ ← status
    notice 3
    closeResources
  else
    let _ ← status
    let _ ← status
    notice 3
    closeResources

def exitThread : Work Unit := Act.modify fun k => { k with mode := .exited }

def abandonRound (terminal : Bool) : Work Unit := do
  let batch ← takeBatch
  if batch = [] then
    if terminal then terminalRest limit else closeResources
    exitThread
  else add .abandoned batch.length

def goTerminal : Work Unit := Act.modify fun k => { k with mode := .abandoning true }

/-- The events of a batch up to one that fails: those that are left then. -/
def formatEvents : List QueuedEvent → Work Nat
  | [] => return 0
  | queued :: rest => do
      if ← formatEvent limit queued then
        add .eventsWritten 1
        formatEvents rest
      else return rest.length + 1

def batches : Nat → Work Unit
  | 0 => return ()
  | left + 1 => do
      let s ← status
      if s = .recording then
        let batch ← takeBatch
        if batch = [] then return ()
        else
          let remaining ← formatEvents limit batch
          add .abandoned remaining
          batches left
      else return ()

def since (now before : Nat) : Nat := (now + 2 ^ 64 - before) % 2 ^ 64

def pumpCalls (entered : Bool) : Work Unit := do
  let k ← Act.get
  if !k.noticedCalls ∧ entered then
    Act.modify fun k => { k with noticedCalls := true }
    notice 2

def pumpNotices : Work Unit := do
  let bindings : Bool ← Act.query Op.bindings
  let entered : Bool ← Act.query Op.entered
  let k ← Act.get
  if !k.noticedBound ∧ bindings then
    Act.modify fun k => { k with noticedBound := true }
    notice 1
    pumpCalls entered
  else pumpCalls entered

def pumpFlush (now : Nat) : Work Unit := do
  let k ← Act.get
  if 1000 ≤ since now k.lastFlush then
    Act.modify fun k => { k with lastFlush := now }
    let (ok, error) ← (Act.query Op.flush : Work (Bool × Nat))
    if ok then pumpNotices
    else
      fail .failed (if error ≠ 0 then error else errorWriteFault)
      goTerminal
  else pumpNotices

def pumpAnchor : Work Unit := do
  let now : Nat ← Act.query Op.tick
  let k ← Act.get
  if 1000 ≤ since now k.lastAnchor then
    Act.modify fun k => { k with lastAnchor := now }
    if ← anchor limit false then pumpFlush now else goTerminal
  else pumpFlush now

def pumpBatches : Work Unit := do
  batches limit 4
  let s ← status
  if s ≠ .recording then goTerminal else pumpAnchor limit

def pump : Work Unit := do
  let k ← Act.get
  let armed : Bool ← Act.query Op.armed
  if k.closed ∨ !armed then return ()
  else if k.started then pumpBatches limit
  else
    Act.modify fun k => { k with started := true }
    setStatus .recording
    if ← startup limit then
      notice 0
      pumpBatches limit
    else goTerminal

def threadRound : Work Unit := do
  let stop : Bool ← Act.query Op.stop
  if stop then
    setStatus .stopped
    Act.modify fun k => { k with mode := .abandoning false }
  else
    let armed : Bool ← Act.query Op.armed
    if armed then pump limit
    else return ()

def round (k : Keeping) : Work Unit :=
  match k.mode with
  | .running => threadRound limit
  | .abandoning terminal => abandonRound limit terminal
  | .exited => return ()

end Writing

end RS2ServerFix.Observer.Log
