import RS2ServerFix.Task.Reading

namespace RS2ServerFix.Task

open Reporting Lib

inductive TaskPhase
  | empty | preparing | armed | retired | inert
  deriving DecidableEq, Repr

structure TaskEpoch where
  source : Nat
  binding : Nat
  deriving DecidableEq, Repr

structure TaskBinding where
  phase : TaskPhase
  fault : Reason
  original : Nat
  wrapper : Nat
  epoch : TaskEpoch
  identity : TaskIdentity
  lastIdentity : TaskIdentity
  lastNativeCounter : Nat
  lastBoundId : Nat
  haveCounter : Bool
  haveHistory : Bool
  haveIdentity : Bool
  continuingTask : Bool
  inverseAttempted : Bool
  stranded : Bool
  deriving DecidableEq, Repr

structure TaskReturn where
  reason : Reason
  output : Option TaskSnapshot
  state : TaskBinding
  deriving DecidableEq, Repr

def initializeTaskBinding (original wrapper : Nat) : TaskBinding :=
  let state : TaskBinding := ⟨.empty, .none, original, wrapper, ⟨0, 0⟩, .zero, .zero, 0, 0, false, false, false,
    false, false, false⟩
  if original = 0 ∨ wrapper = 0 ∨ original = wrapper then { state with fault := .preparationFailed, phase := .inert }
  else state

def counter (state : TaskBinding) (snapshot : TaskSnapshot) : Bool × TaskBinding :=
  if snapshot.nativeCounter = 0 ∨ snapshot.nativeCounter < snapshot.identity.id ∨
      (state.haveCounter ∧ snapshot.nativeCounter < state.lastNativeCounter) then (false, state)
  else (true, { state with haveCounter := true, lastNativeCounter := snapshot.nativeCounter })

def history (state : TaskBinding) (snapshot : TaskSnapshot) : Bool × TaskBinding :=
  match counter state snapshot with
  | (false, state') => (false, state')
  | (true, state') =>
      if !state.haveHistory then (true, state')
      else if snapshot.identity.id = state.lastBoundId then
        (state.continuingTask && decide (snapshot.identity = state.lastIdentity), state')
      else
        (decide (state.lastBoundId < snapshot.identity.id) &&
          (!state.haveCounter || decide (state.lastNativeCounter < snapshot.identity.id)), state')

def exchange (address expected desired : Nat) : TaskAsk ExchangeAnswer :=
  Ask.query (TaskQuestion.exchange address expected desired)

def inverseExchange (access : TaskAccess) (slot : Nat) (state : TaskBinding) : TaskAsk TaskBinding := do
  let _ ← exchange (slot + kBuilderOffset) state.wrapper state.original
  match ← (dataRead access (slot + kBuilderOffset) 8 true).run with
  | none => pure { state with inverseAttempted := true }
  | some current => pure { state with inverseAttempted := true, stranded := field current 0 8 = state.wrapper }

def inverse (state : TaskBinding) (access : TaskAccess) (layout : TaskLayout) : TaskAsk TaskBinding := do
  let state := { state with inverseAttempted := false, stranded := state.haveIdentity }
  if !state.haveIdentity then pure state
  else if ← owner access then
    match access.compareExchange, slotAddress access layout state.identity.slot with
    | true, some slot =>
        match ← (dataRead access (slot + kBuilderOffset) 8 true).run with
        | none => pure state
        | some current =>
            if field current 0 8 ≠ state.wrapper then pure { state with stranded := false }
            else if ← dataRange access (slot + kBuilderOffset) 8 true true then
              if ← owner access then inverseExchange access slot state
              else pure state
            else pure state
    | _, _ => pure state
  else pure state

def fault (state : TaskBinding) (access : TaskAccess) (layout : TaskLayout) (reason : Reason)
    (undo : Bool) : TaskAsk TaskReturn := do
  let state := { state with phase := .inert, fault := if state.fault = .none then reason else state.fault }
  if undo then
    let state ← inverse state access layout
    pure ⟨state.fault, none, state⟩
  else pure ⟨state.fault, none, state⟩

def originalMatches (state : TaskBinding) (access : TaskAccess) (layout : TaskLayout) : Bool :=
  decide (address access layout.builderRva 1 = some state.original) && decide (state.wrapper ≠ 0) &&
    decide (state.wrapper ≠ state.original)

def refused (reason : Reason) (state : TaskBinding) : TaskAsk TaskReturn := pure ⟨reason, none, state⟩

def boundHistory (state : TaskBinding) : Bool :=
  state.haveIdentity && state.haveHistory && state.haveCounter && !state.continuingTask &&
    decide (state.lastNativeCounter ≠ 0) && decide (state.lastBoundId ≠ 0) &&
    decide (state.identity.id = state.lastBoundId) && decide (state.identity = state.lastIdentity)

def readBoundTask (state : TaskBinding) (access : TaskAccess) (layout : TaskLayout) : TaskAsk TaskReturn := do
  let entry ← entryReason access
  if entry ≠ .none then refused entry state
  else if state.phase = .inert then refused state.fault state
  else if state.phase ≠ .armed then refused .taskNotReady state
  else if !originalMatches state access layout then refused .profileMismatch state
  else if !boundHistory state then refused .taskMismatch state
  else
    match ← (readTask access layout (some state.identity) state.lastNativeCounter).run with
    | .error reason => if reason = .taskReused then fault state access layout reason true else refused reason state
    | .ok current =>
        if current.identity ≠ state.identity then refused .taskMismatch state
        else
          match counter state current with
          | (false, state) => fault state access layout .taskReused true
          | (true, state) => pure ⟨.none, some current, state⟩

def installCheck (state : TaskBinding) (access : TaskAccess) (layout : TaskLayout) (before : TaskSnapshot) :
    TaskAsk TaskReturn := do
  match ← (readSelectedTask access layout).run with
  | .error _ => fault state access layout .postcheckFailed true
  | .ok after =>
      if !sameSnapshot { before with builder := state.wrapper } after ∨ !queued after.state then
        fault state access layout .postcheckFailed true
      else
        match ← (taskOwned access).run with
        | none => fault state access layout .postcheckFailed true
        | some _ =>
            pure ⟨.none, some after,
              { state with
                phase := .armed, lastIdentity := after.identity, lastBoundId := after.identity.id
                haveHistory := true, continuingTask := false }⟩

def installExchange (state : TaskBinding) (access : TaskAccess) (layout : TaskLayout) (before : TaskSnapshot)
    (slot : Nat) : TaskAsk TaskReturn := do
  match ← (taskOwned access).run with
  | none => fault state access layout .installFailed true
  | some _ =>
      let answer ← exchange (slot + kBuilderOffset) state.original state.wrapper
      if !answer.ok ∨ answer.observed ≠ state.original then fault state access layout .installFailed true
      else installCheck state access layout before

/-- The part of an installation behind the history: it may still refuse. -/
def installAdmitted (state : TaskBinding) (access : TaskAccess) (layout : TaskLayout) (epoch : TaskEpoch)
    (before : TaskSnapshot) : TaskAsk TaskReturn := do
  match slotAddress access layout before.identity.slot with
  | none => refused .writeFault state
  | some slot =>
      if ← dataRange access (slot + kBuilderOffset) 8 true true then
        if ← admitted access then
          installExchange
            { state with
              identity := before.identity, epoch := epoch, haveIdentity := true, inverseAttempted := false
              stranded := false, phase := .preparing } access layout before slot
        else refused .lifecycleCrossing state
      else refused .writeFault state

def installSelected (state : TaskBinding) (access : TaskAccess) (layout : TaskLayout) (epoch : TaskEpoch)
    (before : TaskSnapshot) : TaskAsk TaskReturn :=
  if !queued before.state then refused .taskNotReady state
  else if before.builder = state.wrapper then
    fault { state with identity := before.identity, haveIdentity := true } access layout .strandedWrapper true
  else if before.builder ≠ state.original then refused .builderChanged state
  else
    match history state before with
    | (false, state) => fault state access layout .taskReused true
    | (true, state) =>
        if state.haveHistory ∧ before.identity ≠ state.lastIdentity ∧ epoch.binding ≤ state.epoch.binding then
          fault state access layout .sourceLifetime true
        else installAdmitted state access layout epoch before

def installTaskBinding (state : TaskBinding) (access : TaskAccess) (layout : TaskLayout) (epoch : TaskEpoch) :
    TaskAsk TaskReturn := do
  let entry ← entryReason access
  if entry ≠ .none then refused entry state
  else if state.phase = .inert then refused state.fault state
  else if state.phase = .armed then refused .taskNotReady state
  else if state.phase = .preparing then fault state access layout .reentry true
  else if epoch.source = 0 ∨ epoch.binding = 0 ∨ !layoutValid access layout ∨ !originalMatches state access layout ∨
      !access.compareExchange then refused .profileMismatch state
  else if epoch.source < state.epoch.source ∨ epoch.binding < state.epoch.binding then
    fault state access layout .sourceLifetime true
  else
    match ← (readSelectedTask access layout).run with
    | .error reason => if reason = .taskReused then fault state access layout reason true else refused reason state
    | .ok before => installSelected state access layout epoch before

/-- A refused reading of the bound task, checked against the full selection. -/
def classifyMismatch (state : TaskBinding) (access : TaskAccess) (layout : TaskLayout) : TaskAsk TaskReturn := do
  match ← (readSelectedTask access layout).run with
  | .error reason =>
      if reason = .taskReused then fault state access layout .taskReused true else refused .taskMismatch state
  | .ok changed =>
      if changed.nativeCounter < state.lastNativeCounter ∨ changed.identity ≠ state.identity then
        fault state access layout .taskReused true
      else refused .taskMismatch state

def validateRead (read : TaskReturn) (access : TaskAccess) (layout : TaskLayout) : TaskAsk TaskReturn :=
  match read.output with
  | none =>
      if read.reason = .taskMismatch ∧ read.state.phase = .armed then classifyMismatch read.state access layout
      else refused read.reason read.state
  | some current =>
      if current.identity ≠ read.state.identity then fault read.state access layout .taskReused true
      else if !queued current.state then refused .taskNotReady read.state
      else if current.builder ≠ read.state.wrapper then fault read.state access layout .builderChanged true
      else pure ⟨.none, some current, read.state⟩

def validateBuilderTask (state : TaskBinding) (access : TaskAccess) (layout : TaskLayout) (epoch : TaskEpoch)
    (borrowedHolder : Nat) : TaskAsk TaskReturn := do
  let entry ← entryReason access
  if entry ≠ .none then refused entry state
  else if state.phase = .inert then refused state.fault state
  else if state.phase ≠ .armed then refused .taskNotReady state
  else if epoch ≠ state.epoch then refused .sourceLifetime state
  else if !originalMatches state access layout then refused .profileMismatch state
  else if ← admitted access then
    match ← (dataRead access borrowedHolder 4 false).run with
    | none => refused .holderMismatch state
    | some holder =>
        if field holder 0 4 ≠ state.identity.holder then refused .holderMismatch state
        else
          let read ← readBoundTask state access layout
          validateRead read access layout
  else refused .lifecycleCrossing state

/-- A retirement without an identity looks whether the task goes on. -/
def retireUnbound (state : TaskBinding) (access : TaskAccess) (layout : TaskLayout) : TaskAsk TaskReturn := do
  if state.continuingTask then
    let current ← (slotRead access layout state.lastIdentity.slot).run
    let continues := current.any fun c =>
      decide (c.state ≠ 0) && decide (c.identity = state.lastIdentity) && decide (c.builder = state.original)
    pure ⟨.none, none, { state with phase := .retired, continuingTask := continues }⟩
  else pure ⟨.none, none, { state with phase := .retired }⟩

def restoreExchange (state : TaskBinding) (access : TaskAccess) (slot : Nat) : TaskAsk Bool := do
  if ← owner access then
    if access.compareExchange then
      let answer ← exchange (slot + kBuilderOffset) state.wrapper state.original
      pure (answer.ok && decide (answer.observed = state.wrapper))
    else pure false
  else pure false

def retireExchange (state : TaskBinding) (access : TaskAccess) (layout : TaskLayout) (slot : Nat)
    (current : TaskSnapshot) : TaskAsk TaskReturn := do
  let ok ← restoreExchange state access slot
  let after ← (slotRead access layout state.identity.slot).run
  let state := { state with stranded := after.all fun a => decide (a.builder = state.wrapper) }
  let restored := ok && after.any fun a =>
    decide (current.identity = a.identity) && decide (current.state = a.state) && decide (a.builder = state.original)
  if !restored then fault state access layout .postcheckFailed false
  else if ← owner access then
    pure ⟨.none, none, { state with haveIdentity := false, continuingTask := true }⟩
  else fault state access layout .postcheckFailed false

def retireOwned (state : TaskBinding) (access : TaskAccess) (layout : TaskLayout) (current : TaskSnapshot) :
    TaskAsk TaskReturn := do
  if current.identity ≠ state.identity then fault state access layout .strandedWrapper true
  else if current.state = 4 ∨ current.state = 5 then refused .taskNotReady state
  else if !queued current.state then fault state access layout .taskMismatch true
  else
    match slotAddress access layout state.identity.slot with
    | none => fault state access layout .writeFault true
    | some slot =>
        if ← dataRange access (slot + kBuilderOffset) 8 true true then
          retireExchange { state with phase := .retired, inverseAttempted := true } access layout slot current
        else fault state access layout .writeFault true

def retireTaskBinding (state : TaskBinding) (access : TaskAccess) (layout : TaskLayout) (reason : Reason) :
    TaskAsk TaskReturn := do
  let entry ← entryReason access
  if entry ≠ .none then refused entry state
  else if state.phase = .inert then refused state.fault state
  else if reason ≠ .none then fault state access layout reason true
  else if !state.haveIdentity then retireUnbound state access layout
  else if !originalMatches state access layout then fault state access layout .profileMismatch true
  else
    match ← (slotRead access layout state.identity.slot).run with
    | none => fault state access layout .taskMismatch true
    | some current =>
        if current.builder ≠ state.wrapper then
          if current.state ≠ 0 ∧ current.identity.id = state.identity.id then
            fault state access layout .builderChanged true
          else
            pure ⟨.none, none, { state with phase := .retired, haveIdentity := false, continuingTask := false }⟩
        else retireOwned state access layout current

end RS2ServerFix.Task
