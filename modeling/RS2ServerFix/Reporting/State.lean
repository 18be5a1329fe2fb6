import RS2ServerFix.Reporting.Types

namespace RS2ServerFix.Reporting

abbrev Float32Bits := UInt32

def Float32Bits.finite (v : Float32Bits) : Bool := (v >>> 23) &&& 0xff ≠ 0xff

/-- The order of the finite values; the two zeros share a place. -/
def Float32Bits.order (v : Float32Bits) : Int :=
  if v >>> 31 = 0 then (v.toNat : Int) else -((v &&& 0x7fffffff).toNat : Int)

structure ProducerSample where
  qpc : Int
  outer : NativeCounts
  gameBots : Nat
  timer : Float32Bits
  requested : Bool
  dirty : Bool
  deriving DecidableEq, Repr

structure PendingRequest where
  sequence : Nat
  sourceEpoch : Nat
  bindingEpoch : Nat
  stagedQpc : Int
  previousSetQpc : Int
  bots : Nat
  maximum : Nat
  previousTimer : Float32Bits
  active : Bool
  previousSet : Bool
  deriving DecidableEq, Repr

structure FreshTuple where
  counts : NativeCounts
  witness : Nat
  request : Nat
  sourceEpoch : Nat
  bindingEpoch : Nat
  lowerBoundQpc : Int
  valid : Bool
  deriving DecidableEq, Repr

def PendingRequest.empty : PendingRequest := ⟨0, 0, 0, 0, 0, 0, 0, 0, false, false⟩
def FreshTuple.empty : FreshTuple := ⟨⟨0, 0, 0⟩, 0, 0, 0, 0, 0, false⟩

structure ProducerState where
  mode : Mode
  fault : Reason
  frequency : Int
  lastQpc : Int
  lastRequestQpc : Int
  sourceEpoch : Nat
  bindingEpoch : Nat
  requestSequence : Nat
  witnessSequence : Nat
  haveClock : Bool
  haveRequest : Bool
  epochReady : Bool
  pending : PendingRequest
  fresh : FreshTuple
  deriving DecidableEq, Repr

namespace ProducerState

variable (s : ProducerState)

def faulted (reason : Reason) : ProducerState :=
  { s with fault := if s.fault = .none then reason else s.fault, pending := .empty, fresh := .empty }

def clock (now : Int) : ProducerState × Reason :=
  if s.fault ≠ .none then (s, s.fault)
  else if s.frequency ≤ 0 ∨ now < 0 ∨ (s.haveClock ∧ now < s.lastQpc) then
    (s.faulted .clockFailed, (s.faulted .clockFailed).fault)
  else ({ s with lastQpc := now, haveClock := true }, .none)

end ProducerState

def timer (v : Float32Bits) : Bool := v.finite && 0 ≤ v.order

def expirePending (s : ProducerState) (now : Int) : Option ProducerState :=
  if s.pending.active then do
    let age ← int64 (now - s.pending.stagedQpc)
    let limit ← int64 (s.frequency * kFreshnessSeconds)
    pure (if limit ≤ age then { s with pending := .empty } else s)
  else some s

def supported (counts : NativeCounts) (bots : Nat) : Bool :=
  counts.maximum ≤ 255 && bots ≤ counts.maximum && counts.bots ≤ counts.maximum

def initializeProducer (mode : Mode) (frequency : Int) : ProducerState × Reason :=
  let s : ProducerState := ⟨mode, .none, 0, 0, 0, 0, 0, 0, 0, false, false, false, .empty, .empty⟩
  if frequency ≤ 0 ∨ int64Max / kFreshnessSeconds < frequency then (s.faulted .clockFailed, .clockFailed)
  else
    let s := { s with frequency := frequency }
    if mode ≠ .observe ∧ mode ≠ .repair then (s.faulted .configDisabled, .configDisabled) else (s, .none)

def invalidateProducer (s : ProducerState) : ProducerState :=
  { s with pending := .empty, fresh := .empty, epochReady := false }

def setProducerEpoch (s : ProducerState) (source binding : Nat) : ProducerState × Reason :=
  if s.fault ≠ .none then (s, s.fault)
  else if source = 0 ∨ binding = 0 then (invalidateProducer s, .sourceUnavailable)
  else if source < s.sourceEpoch ∨ binding < s.bindingEpoch then
    (s.faulted .lifecycleCrossing, (s.faulted .lifecycleCrossing).fault)
  else
    let s := if source ≠ s.sourceEpoch ∨ binding ≠ s.bindingEpoch then invalidateProducer s else s
    ({ s with sourceEpoch := source, bindingEpoch := binding, epochReady := true }, .none)

def requestEarly (s : ProducerState) (now : Int) : Option Bool :=
  if s.haveRequest then do
    let age ← int64 (now - s.lastRequestQpc)
    let floor ← int64 (s.frequency * kRequestFloorSeconds)
    pure (decide (age < floor))
  else some false

def stageFloor (s : ProducerState) (now : Int) : Option (ProducerState × Reason) :=
  if s.pending.active then some (s, .pending)
  else do
    let early ← requestEarly s now
    if early then pure (s, .requestFloor)
    else if s.requestSequence = uint64Max then
      pure (s.faulted .counterOverflow, (s.faulted .counterOverflow).fault)
    else pure (s, .none)

def canStageRequest (s : ProducerState) (now : Int) : Option (ProducerState × Reason) :=
  match s.clock now with
  | (s, .none) =>
      if s.mode ≠ .repair then some (s, .configDisabled)
      else if !s.epochReady ∨ s.sourceEpoch = 0 ∨ s.bindingEpoch = 0 then some (s, .sourceUnavailable)
      else do
        let s ← expirePending s now
        stageFloor s now
  | r => some r

def stagedState (s : ProducerState) (stagedQpc : Int) (bots maximum : Nat) : ProducerState :=
  { s with
    haveRequest := true
    lastRequestQpc := stagedQpc
    requestSequence := s.requestSequence + 1
    pending := ⟨s.requestSequence + 1, s.sourceEpoch, s.bindingEpoch, stagedQpc, 0, bots, maximum, 0, true, false⟩ }

def sampleSet (s : ProducerState) (sample : ProducerSample) : ProducerState :=
  { s with pending :=
      { s.pending with previousSet := true, previousSetQpc := sample.qpc, previousTimer := sample.timer } }

def readBackStaged (s : ProducerState) (readBack : ProducerSample) (readBackValid : Bool) :
    Option (ProducerState × Reason) :=
  match s.clock readBack.qpc with
  | (s, .none) => do
      let s ← expirePending s readBack.qpc
      if !s.pending.active then pure (s, .freshnessExpired)
      else if !readBackValid ∨ !readBack.requested ∨ !timer readBack.timer then pure (s, .producerAmbiguous)
      else pure (sampleSet s readBack, .none)
  | r => some r

def recordStagedRequest (s : ProducerState) (stagedQpc : Int) (bots maximum : Nat)
    (readBack : ProducerSample) (readBackValid : Bool) : Option (ProducerState × Reason) := do
  match ← canStageRequest s stagedQpc with
  | (s, .none) =>
      if 255 < maximum ∨ maximum < bots then
        pure (s.faulted .unsupportedCounts, (s.faulted .unsupportedCounts).fault)
      else readBackStaged (stagedState s stagedQpc bots maximum) readBack readBackValid
  | r => pure r

def consumed (previous : PendingRequest) (sample : ProducerSample) : Bool :=
  previous.previousSet && !sample.dirty && decide (sample.timer.order < previous.previousTimer.order) &&
    supported sample.outer sample.gameBots && decide (previous.maximum = sample.outer.maximum) &&
    decide (previous.bots = sample.outer.bots) && decide (previous.bots = sample.gameBots)

/-- The request is clear: its claim ends whether or not it was consumed. -/
def retirePending (s : ProducerState) (sample : ProducerSample) : ProducerState × Reason :=
  let previous := s.pending
  let s := { s with pending := .empty, fresh := .empty }
  if !consumed previous sample then (s, .producerAmbiguous)
  else if s.witnessSequence = uint64Max then
    (s.faulted .counterOverflow, (s.faulted .counterOverflow).fault)
  else
    ({ s with
        witnessSequence := s.witnessSequence + 1
        fresh := ⟨sample.outer, s.witnessSequence + 1, previous.sequence, s.sourceEpoch, s.bindingEpoch,
          previous.previousSetQpc, true⟩ }, .none)

def observePending (s : ProducerState) (sample : ProducerSample) : ProducerState × Reason :=
  if s.pending.sourceEpoch ≠ s.sourceEpoch ∨ s.pending.bindingEpoch ≠ s.bindingEpoch then
    (invalidateProducer s, .sourceLifetime)
  else if !timer sample.timer then (invalidateProducer s, .producerAmbiguous)
  else if sample.requested then (sampleSet s sample, .pending)
  else retirePending s sample

def observeProducer (s : ProducerState) (sample : ProducerSample) : Option (ProducerState × Reason) :=
  match s.clock sample.qpc with
  | (s, .none) => do
      let hadPending := s.pending.active
      let s ← expirePending s sample.qpc
      if !s.pending.active then pure (s, if hadPending then .freshnessExpired else .none)
      else pure (observePending s sample)
  | r => some r

def readFreshTuple (s : ProducerState) (now : Int) (currentOuter : NativeCounts) (gameBots : Nat) :
    Option (ProducerState × Reason × FreshTuple) :=
  match s.clock now with
  | (s, .none) =>
      if s.mode ≠ .repair ∨ !s.fresh.valid then some (s, .freshnessExpired, .empty)
      else if s.fresh.sourceEpoch ≠ s.sourceEpoch ∨ s.fresh.bindingEpoch ≠ s.bindingEpoch then
        some (invalidateProducer s, .sourceLifetime, .empty)
      else do
        let age ← int64 (now - s.fresh.lowerBoundQpc)
        let limit ← int64 (s.frequency * kFreshnessSeconds)
        if limit < age then pure ({ s with fresh := .empty }, .freshnessExpired, .empty)
        else if !supported currentOuter gameBots ∨ currentOuter ≠ s.fresh.counts ∨
            gameBots ≠ s.fresh.counts.bots then pure (s, .preparedMismatch, .empty)
        else pure (s, .none, s.fresh)
  | (s, r) => some (s, r, .empty)

end RS2ServerFix.Reporting
