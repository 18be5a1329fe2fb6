import RS2ServerFix.LeechRecovery.Records

namespace RS2ServerFix.LeechRecovery

open Reporting Lib

/-- A call into the native side. `inner` is what the owner thread runs when the
call comes back into it, `filter` what an exception meets on its way. -/
def native (inner : Occurrence → Rec Unit) (filter : UInt32 → Rec Unit) (call : NativeCall) : Rec UInt32 := do
  let (answer : NativeAnswer) ← Act.query (Question.native call)
  Act.each (fun occurrence =>
    match occurrence with
    | .resumed code => filter code
    | other => inner other) answer.occurrences
  match answer.outcome with
  | .error code => Act.raise code
  | .ok value => pure value

def observeFailure (callback : Bool) (code : UInt32) : Rec Unit := do
  if callback then
    let clock ← pureClock
    Act.modify fun r => { r with callbackTiming := r.callbackTiming.beginFilter clock }
  Act.modify fun r =>
    { r.setFlags fun f => { f with exceptionObserved := true, recipeNormalCompleted := false } with
      exceptionPending := true }
  setValue fun v => { v with exceptionCode := code }
  fault .nativeException .nativeUnwind true
  if callback then
    let clock ← pureClock
    Act.modify fun r => { r with callbackTiming := r.callbackTiming.endFilter clock }

def recoveryOwnerClockFault : Rec Unit := do
  let r ← Act.get
  if r.prepared ∧ r.requested ∧ !r.terminal then
    fault .clockFault .mechanicsFailed r.cancelEntered
    if r.callbackDepth = 0 then releaseCapture

def sameLifecycle : Rec Bool := do
  let (lifecycle : UInt64) ← Act.query Question.idleLifecycle
  let r ← Act.get
  pure (lifecycle = r.value.sdkEpoch)

def sameSourceEpoch : Rec Bool := do
  let (epoch : UInt64) ← Act.query Question.sourceEpoch
  let r ← Act.get
  pure (epoch = r.value.sourceEpoch)

def leaseRead (standalone : Nat) : Rec Bool := do
  let r ← Act.get
  if r.terminal then pure false
  else
    runtimeCaptureAdmission <&&> sameLifecycle <&&> sameSourceEpoch <&&> holds .loggerLease <&&>
      runtimeCaptureAdmission <&&> pure (r.schema ≠ 2 || r.mode = .observe) <&&> holds (.nativeLease standalone)

def leaseClock : Rec Bool := do
  let clock ← runtimeClock
  match clock with
  | none =>
      recoveryOwnerClockFault
      pure false
  | some now =>
      let r ← Act.get
      if r.value.overallDeadlineQpc ≤ now.val ∨ (!r.createInstalled ∧ r.value.finishDeadlineQpc ≤ now.val) then
        pure false
      else
        setValue fun v => { v with qpc := now.val }
        runtimeCaptureAdmission

def lease (standalone : Nat) (oldSession publishedSession : Bool) : Rec Bool := do
  let leased ← leaseRead standalone <&&> (if oldSession then holds .sameSession else pure true)
  if !leased then pure false
  else
    let same ← if publishedSession then holds .samePublishedSession else pure true
    if !same then
      fault .publishedIdentityChanged .mechanicsFailed true
      pure false
    else leaseClock

def inverse : Rec Bool := do
  let r ← Act.get
  if r.bindEntered ∧ !r.bindCompleted then pure false
  else
    let bound := r.value.resourcePhase = .boundLocal || r.value.resourcePhase = .enqueueEntered
    holds .safeOwner <&&> sameLifecycle <&&> holds .nativeProfile <&&> holds (.finishInverse bound) <&&>
      holds .safeOwner

section Recipes

variable (inner : Occurrence → Rec Unit)

def releaseOwned : Rec Unit := do
  let r ← Act.get
  let phase := r.value.resourcePhase
  if phase = .none ∨ phase = .localReleased ∨ r.resourceReleaseAttempted then pure ()
  else
    let undone ← inverse
    if !undone then fault .inverseUnavailable .nativeUnwind true
    else
      Act.modify fun r => { r with resourceReleaseAttempted := true }
      setStage .localRelease
      if phase = .allocatedUnbound then
        let _ ← native inner (observeFailure false) .finishRelease
      else
        let holder ← native inner (observeFailure false) .releaseHolder
        Act.modify fun r => { r with holder := holder }
      setValue fun v => { v with resourcePhase := .localReleased }

def FinishByte.result : FinishByte → CallbackResult
  | .null => .null
  | .unreadable => .unreadable
  | .byte b => if b = 1 then .true else if b = 0 then .false else .invalid

def finishObservation (result : FinishByte) (id : UInt32) (errorCall : Bool) : Rec Unit := do
  let r ← Act.get
  if r.terminal ∨ r.value.phase ≠ .finishSubmitted then pure ()
  else
    let same ← sameLifecycle
    if r.finishObserved ∨ id = 0 ∨ (r.finishId ≠ 0 ∧ id ≠ r.finishId) ∨ !same then
      fault .callbackInvalid .mechanicsFailed true
    else
      Act.modify fun r => { r.setFlags fun f => { f with callbackObserved := true } with finishObserved := true }
      setValue fun v => { v with callbackId := id }
      let clock ← pureClock
      match clock.filter fun qpc => r.value.qpc ≤ qpc with
      | none => fault .clockFault .mechanicsFailed true
      | some qpc =>
          setValue fun v => { v with qpc := qpc }
          if r.value.finishDeadlineQpc ≤ qpc ∨ r.value.overallDeadlineQpc ≤ qpc then
            fault .finishTimeout .mechanicsFailed true
          else if errorCall then fault .finishRejected .mechanicsFailed true
          else
            setValue fun v => { v with callbackResult := result.result }
            Act.modify fun r => { r with finishTrue := result.result = .true }
            if result.result ≠ .true then fault .finishRejected .mechanicsFailed true

/-- Everything the callback asks for before it lets the native one through. -/
def createSafe (claimed : Bool) : Rec Bool := do
  let captured ← holds .createFramesCaptured
  let r ← Act.get
  if !claimed ∨ !captured ∨ r.pumpDepth ≠ 0 ∨ r.builderDepth ≠ 0 ∨ r.timingDepth ≠ 0 ∨ r.callbackDepth ≠ 1 then
    pure false
  else
    lease 2 false false <&&> holds .sessionEmpty <&&> holds .createResultRead <&&> holds .createSlotSafe <&&>
      holds .heartbeatFirstFree <&&> runtimeCaptureAdmission

def createForward (claimed : Bool) : Rec Unit := do
  setStage .createGuard
  let safe ← createSafe claimed
  let r ← Act.get
  if !safe ∨ r.createForwarded then fault .callbackInvalid .mechanicsFailed true
  else
    Act.modify fun r =>
      { r.setFlags fun f => { f with createForwardEntered := true, recipeNormalCompleted := false } with
        createForwarded := true }
    setStage .createForward
    let clock ← pureClock
    Act.modify fun r => { r with callbackTiming := r.callbackTiming.enterNative clock }
    let _ ← native inner (observeFailure true) .createSuccess
    let clock ← pureClock
    Act.modify fun r => { r with callbackTiming := r.callbackTiming.leaveNative clock }
    Act.modify fun r =>
      { r.setFlags fun f => { f with createForwardNormalCompleted := true, recipeNormalCompleted := true } with
        createReturned := true }

def createCleanup (abnormal : Bool) : Rec Unit := do
  if abnormal then
    let clock ← pureClock
    Act.modify fun r => { r with callbackTiming := r.callbackTiming.beginUnwind clock, createReturned := false }
  Act.modify fun r => { r with callbackDepth := r.callbackDepth - 1 }
  let clock ← pureClock
  Act.modify fun r => { r with callbackTiming := r.callbackTiming.finalize clock }

def createSuccess (id : UInt32) : Rec Unit := do
  let r ← Act.get
  if r.terminal ∨ !r.createInstalled ∨ r.value.phase ≠ .recreating ∨ id ≠ r.createId ∨ id = 0 then pure ()
  else if r.callbackDepth ≠ 0 then
    Act.modify fun r => { r with callbackTiming := r.callbackTiming.invalidate }
    fault .callbackInvalid .mechanicsFailed true
  else
    let attributed ← pure (decide (r.createSlot < 128)) <&&> holds .createTaskRead <&&> holds .createTaskMatches
    if !attributed then fault .callbackInvalid .mechanicsFailed true
    else
      Act.modify fun r => { r with callbackDepth := r.callbackDepth + 1 }
      let clock ← pureClock
      let claimed ← act fun r => ({ r with callbackTiming := (r.callbackTiming.claim clock).1 },
        (r.callbackTiming.claim clock).2)
      Act.modify fun r => r.setFlags fun f => { f with createCallbackObserved := true }
      setValue fun v => { v with callbackId := id }
      ((createForward inner claimed).filtered (observeFailure true)).cleaned createCleanup

def changedOnlyCreate (installed : Bool) : Rec Bool := do
  let (found : Option (Nat × UInt32 × UInt32)) ← Act.query (Question.changedOnlyCreate installed)
  match found with
  | none => pure false
  | some (slot, id, holder) =>
      let r ← Act.get
      if installed ∧ (slot ≠ r.createSlot ∨ id ≠ r.createId ∨ holder ≠ r.createHolder) then pure false
      else
        Act.modify fun r => { r with createSlot := slot, createId := id, createHolder := holder }
        pure true

def installCreateGuard : Rec Bool := do
  let ready ← changedOnlyCreate false <&&> holds .guardWritable
  if !ready then pure false
  else
    Act.modify fun r => { r with callbackTiming := .zero }
    setStage .guardInstall
    let installed ← holds .guardWritten <&&> lease 2 false false <&&> changedOnlyCreate true
    if !installed then pure false
    else
      Act.modify fun r =>
        { r.setFlags fun f => { f with createGuardInstalled := true, attributionValid := true } with
          createInstalled := true }
      let r ← Act.get
      setValue fun v => { v with requestId := r.createId }
      pure true

def submitAcquire : Rec Bool := do
  setStage .descriptor
  let leased ← lease 3 true false
  if !leased then
    fault .descriptorUnavailable .mechanicsFailed false
    pure false
  else
    let type ← native inner (observeFailure false) .finishType
    Act.modify fun r => { r with finishType := type.toNat % 65536 }
    let typed ← holds .finishTypeLeased <&&> pure (type.toNat % 65536 ≠ 0 && decide (type.toNat % 65536 < 256)) <&&>
      lease 3 true false <&&> holds .finishFirstFree
    if !typed then
      fault .requestPoolUnavailable .mechanicsFailed false
      pure false
    else
      let holder ← native inner (observeFailure false) .initHolder
      Act.modify fun r => { r with holder := holder }
      if holder ≠ 0 then
        fault .descriptorUnavailable .mechanicsFailed false
        pure false
      else
        setStage .allocate
        let slot ← native inner (observeFailure false) .finishAllocate
        Act.modify fun r => { r with finishSlot := slot.toNat % 65536 }
        if 16 ≤ slot.toNat % 65536 then
          fault .requestPoolUnavailable .mechanicsFailed false
          pure false
        else
          setValue fun v => { v with resourcePhase := .allocatedUnbound }
          let leased ← lease 3 true false
          if !leased then
            fault .sourceChanged .mechanicsFailed false
            pure false
          else pure true

def submitBind : Rec Bool := do
  setStage .bind
  Act.modify fun r => { r with bindEntered := true }
  let holder ← native inner (observeFailure false) .bindHolder
  Act.modify fun r => { r with holder := holder, bindCompleted := true }
  setValue fun v => { v with resourcePhase := .boundLocal }
  let r ← Act.get
  let bound ← pure (decide (r.holder.toNat = r.finishType * 65536 + r.finishSlot)) <&&> lease 3 true false
  if !bound then
    fault .descriptorUnavailable .mechanicsFailed true
    pure false
  else
    let _ ← native inner (observeFailure false) .resolveHolder
    let resolved ← holds .requestResolved <&&> lease 3 true false
    if !resolved then
      fault .descriptorUnavailable .mechanicsFailed true
      pure false
    else
      setStage .copy
      let _ ← native inner (observeFailure false) .copyString
      let leased ← lease 3 true false
      if !leased then
        fault .sourceChanged .mechanicsFailed false
        pure false
      else pure true

def submitRetire : Rec Bool := do
  Act.modify fun r => { r with bindingSuspended := true }
  setStage .retire
  let retired ← holds .taskRetired <&&> lease 3 true false
  if !retired then
    let (phase : Task.TaskPhase) ← Act.query Question.taskPhase
    fault .retirementFailed .mechanicsFailed (phase = .inert)
    pure false
  else
    let same ← holds .heartbeatRetired
    if !same then
      fault .heartbeatUnavailable .mechanicsFailed false
      pure false
    else pure true

def submitCancel : Rec Bool := do
  setStage .cancel
  Act.modify fun r => { r with cancelEntered := true }.log .cancelled
  let _ ← native inner (observeFailure false) .cancel
  let cancelled ← lease 3 true false <&&> holds .heartbeatCancelled
  if !cancelled then
    fault .lifecycleChanged .mechanicsFailed true
    pure false
  else
    Act.modify fun r => r.setFlags fun f => { f with cancellationCompleted := true }
    let r ← Act.get
    transition .finishSubmitted r.value.qpc

def submitEnqueue : Rec Unit := do
  setStage .enqueue
  setValue fun v => { v with resourcePhase := .enqueueEntered }
  let id ← native inner (observeFailure false) .enqueueFinish
  Act.modify fun r => { r with enqueueReturned := true }
  setValue fun v => { v with apiReturnedId := id }
  let r ← Act.get
  if (id ≠ 0 ∧ r.finishObserved ∧ id ≠ r.value.callbackId) ∨ (id = 0 ∧ !r.finishObserved) then
    fault .finishEnqueueFailed .mechanicsFailed true
  else
    let finishId := if id ≠ 0 then id else r.value.callbackId
    Act.modify fun r => { r with finishId := finishId }
    setValue fun v => { v with requestId := finishId }
    if finishId = 0 then fault .callbackInvalid .mechanicsFailed true
    else
      Act.modify fun r => r.setFlags fun f => { f with attributionValid := true, recipeNormalCompleted := true }

def submitBody : Rec Unit := do
  let acquired ← submitAcquire inner <&&> submitBind inner <&&> submitRetire <&&> submitCancel inner
  if acquired then submitEnqueue inner

def submitCleanup (abnormal : Bool) : Rec Unit := do
  releaseOwned inner
  if abnormal then releaseCapture

def submitFinish : Rec Unit := do
  Act.modify fun r => { r.setFlags fun f => { f with recipeEntered := true } with recipeEntered := true }.log .recipe
  ((submitBody inner).filtered (observeFailure false)).cleaned fun abnormal =>
    (submitCleanup inner abnormal).filtered (observeFailure false)

def recreateBody : Rec Unit := do
  let ready ← lease 3 true false <&&> holds .createFirstFree <&&> holds .heartbeatFirstFree <&&> holds .issuedIdFree
  if !ready then fault .requestPoolUnavailable .mechanicsFailed true
  else
    setValue fun v =>
      { v with requestId := 0, callbackId := 0, apiReturnedId := 0, flags := { v.flags with attributionValid := false } }
    let r ← Act.get
    let moved ← transition .recreating r.value.qpc
    if moved then
      setStage .cleanup
      let _ ← native inner (observeFailure false) .cleanup
      let cleaned ← lease 0 false false <&&> holds .sessionEmpty <&&> holds .createFirstFree
      if !cleaned then fault .lifecycleChanged .mechanicsFailed true
      else
        setStage .start
        let _ ← native inner (observeFailure false) .start
        let started ← lease 1 false false <&&> holds .sessionEmpty <&&> holds .createFirstFree
        if !started then fault .createFailed .clearedCacheNoSession true
        else
          setStage .create
          let _ ← native inner (observeFailure false) .create
          let created ← lease 2 false false <&&> holds .sessionEmpty <&&> installCreateGuard
          if !created then fault .createFailed .clearedCacheNoSession true
          else Act.modify fun r => r.setFlags fun f => { f with recipeNormalCompleted := true }

def recreate : Rec Unit := do
  Act.modify fun r => r.setFlags fun f => { f with recipeNormalCompleted := false }
  ((recreateBody inner).filtered (observeFailure false)).cleaned fun abnormal => do
    if abnormal then releaseCapture

end Recipes

end RS2ServerFix.LeechRecovery
