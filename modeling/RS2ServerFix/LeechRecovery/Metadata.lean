import RS2ServerFix.LeechRecovery.Recipes

namespace RS2ServerFix.LeechRecovery

open Reporting Lib

def kRecoveryMetadataMemberLimit : Nat := 256
def kMetadataSeconds : Nat := 65
def kManagementHz : Nat := 4
def preparedMembersDiffer : Nat := 2

def recoveryPumpHeadroomAvailable (capture : Capture) : Bool :=
  !capture.truncated && decide (capture.classification = .normalPump) && decide (3 ≤ capture.count) &&
    decide (capture.count ≤ 32) && decide (capture.count - 3 ≤ 8)

def completeMetadata (r : Recovery) (now : Nat) (reason : RecoveryReason) (coherent : Bool) : Recovery :=
  let r := { r with value := { r.value with
    reason := reason
    outcome := .publishedNotDelivered
    flags := { r.value.flags with
      terminal := true
      metadataCoherent := r.value.flags.metadataCoherent || coherent
      metadataUnverified := !coherent } } }
  { (r.transition .observed now).1 with terminal := true, finalPending := true }

/-- The readings that a step of the metadata needs, and whether they hold. -/
def metadataInputs : Rec (Option MetadataView) := do
  let leased ← lease 3 false true <&&> holds .metadataProfile
  if !leased then pure none
  else
    let (phase : Task.TaskPhase) ← Act.query Question.taskPhase
    let bound ← pure (decide (phase = .armed)) <&&> holds .metadataTask
    if !bound then pure none
    else
      let (view : MetadataView) ← Act.query Question.metadataInputs
      let clock ← runtimeClock
      match clock with
      | none =>
          recoveryOwnerClockFault
          pure none
      | some now =>
          setValue fun v => { v with qpc := now.val }
          let r ← Act.get
          if r.value.overallDeadlineQpc ≤ now.val ∨ !view.prepared.valid then pure none else pure (some view)

def stableMetadataGate (view : MetadataView) (allowBots : Bool) : Bool :=
  let source := view.counts
  decide (source.pi ≠ 0) && decide (source.pi ≤ kRecoveryMetadataMemberLimit) &&
    (allowBots || decide (source.bots = 0)) && decide (source.maximum ≠ 0) && decide (source.maximum ≤ 64) &&
    decide (source = view.cached.counts) && decide (view.cached.countdownBits = 0) &&
    !view.cached.registrationChanged && view.prepared.valid &&
    decide (view.prepared.mismatchMask = preparedMembersDiffer) && decide (view.prepared.membersCount = 0)

section Metadata

variable (inner : Occurrence → Rec Unit)

def restoreBody (expected : NativeCounts) : Rec Unit := do
  setStage .metadataConstruct
  let head ← native inner (observeFailure false) .metadataHead
  if head ≠ 0 then
    Act.modify fun r => { r with metadataHeadOwned := true }
    setStage .metadataFill
    let _ ← native inner (observeFailure false) .metadataFill
    let inputs ← metadataInputs
    let r ← Act.get
    match inputs.filter fun view => decide (view.counts = expected) && stableMetadataGate view (decide (r.schema = 2)) &&
        decide (r.value.qpc < r.metadataDeadlineQpc) with
    | none => pure ()
    | some _ =>
        setStage .metadataUpdate
        Act.modify fun r => r.setFlags fun f => { f with metadataAttempted := true }
        let _ ← native inner (observeFailure false) .metadataUpdate
        Act.modify fun r => { r with metadataUpdateReturned := true }

def restoreCleanup : Rec Unit := do
  let r ← Act.get
  if r.metadataHeadOwned ∧ !r.metadataDestructorEntered then
    let undone ← holds .safeOwner <&&> holds .nativeProfile <&&> holds .metadataProfile
    if !undone then fault .inverseUnavailable .nativeUnwind true
    else
      Act.modify fun r => { r with metadataDestructorEntered := true }
      setStage .metadataDestroy
      let _ ← native inner (observeFailure false) .metadataDestroy
      Act.modify fun r => { r with metadataHeadOwned := false }

def restoreMetadata (expected : NativeCounts) : Rec Unit := do
  Act.modify fun r =>
    { r with metadataHeadOwned := false, metadataDestructorEntered := false, metadataUpdateReturned := false }
  ((restoreBody inner expected).filtered (observeFailure false)).cleaned fun _ =>
    (restoreCleanup inner).filtered (observeFailure false)

def complete (now : Nat) (reason : RecoveryReason) (coherent : Bool) : Rec Bool := do
  Act.modify fun r => completeMetadata r now reason coherent
  pure true

def postpone (reason : RecoveryReason) : Rec Bool := do
  setValue fun v => { v with reason := reason }
  let _ ← publish
  pure false

def verifyMetadata : Rec Bool := do
  let r ← Act.get
  if r.terminal then pure true
  else if !r.metadataUpdateReturned then
    if !r.metadataDestructorEntered then complete r.value.qpc .metadataUnavailable false
    else if r.metadataDeadlineQpc ≤ r.value.qpc then complete r.value.qpc .metadataTimeout false
    else postpone .metadataCountsNotReady
  else
    setStage .metadataVerify
    let inputs ← metadataInputs
    let r ← Act.get
    if r.terminal then pure true
    else
      match inputs with
      | none => complete r.value.qpc .metadataUnverified false
      | some view =>
          if view.cached.fullDirty then
            Act.modify fun r => r.setFlags fun f => { f with metadataDirtyAfter := true }
          if view.prepared.mismatchMask = 0 then complete r.value.qpc .none true
          else complete r.value.qpc .metadataUnverified false

def probeMetadata (capture : Capture) (now : Nat) : Rec Bool := do
  let inputs ← metadataInputs
  let r ← Act.get
  match inputs with
  | none => if r.terminal then pure true else postpone .metadataUnavailable
  | some view =>
      if view.prepared.mismatchMask = 0 then complete now .none true
      else if kRecoveryMetadataMemberLimit < view.counts.pi then complete now .metadataCountLimit false
      else if !stableMetadataGate view (decide (r.schema = 2)) ∨
          !recoveryPumpHeadroomAvailable { capture with truncated := false } then
        postpone .metadataCountsNotReady
      else if r.metadataDeadlineQpc ≤ r.value.qpc then complete r.value.qpc .metadataTimeout false
      else
        let known ← holds .metadataCallsKnown
        if !known then complete now .metadataUnavailable false
        else
          let members ← holds .metadataMembers
          if !members then complete now .metadataRandomUnavailable false
          else
            restoreMetadata inner view.counts
            verifyMetadata

def serviceMetadata (capture : Capture) (now : Nat) : Rec Bool := do
  let r ← Act.get
  if r.metadataDeadlineQpc ≤ now then complete now .metadataTimeout false
  else
    let same ← sameSourceEpoch <&&> sameLifecycle
    if !same then complete now .metadataUnavailable false
    else if r.haveMetadataProbe ∧ r.metadataLastProbeQpc ≤ now ∧
        now - r.metadataLastProbeQpc < r.frequency.toNat / kManagementHz then
      pure false
    else
      Act.modify fun r => { r with haveMetadataProbe := true, metadataLastProbeQpc := now }
      probeMetadata inner capture now

end Metadata

end RS2ServerFix.LeechRecovery
