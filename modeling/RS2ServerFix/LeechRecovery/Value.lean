import RS2ServerFix.Reporting.Records

namespace RS2ServerFix.LeechRecovery

open Reporting

def qpcMax : Nat := 0x7fffffffffffffff

inductive RecoveryPhase
  | disabled | armed | requested | qualifying | finishSubmitted | finishAccepted | recreating | published
  | observed | failed | rejected
  deriving DecidableEq, Repr

inductive RecoveryEvent
  | none | transition | final | exception
  deriving DecidableEq, Repr

inductive RecoveryReason
  | none | permissionDisabled | invalidRequest | sourceUnavailable | sourceChanged | spectatorsPresent
  | countsInvalid | nativeProfileMismatch | lifecycleChanged | kernelChanged | heartbeatUnavailable
  | scheduleUnsupported | descriptorUnavailable | requestPoolUnavailable | genericPoolUnavailable
  | recordingNotQuiescent | quotaUnavailable | retirementFailed | recordingUnavailable | finishEnqueueFailed
  | callbackInvalid | finishRejected | finishTimeout | attemptTimeout | createFailed | cacheClearedNoSession
  | clockFault | nativeException | inverseUnavailable | controlWorkerUnavailable | bindingNotReady
  | controlConfigMissing | controlConfigInvalid | controlIdentityMismatch | controlPathRejected
  | controlSecurityRejected | controlReadFailure | controlEndpointUnavailable | guardSnapshotInvalidContext
  | guardSnapshotUnreadable | guardSnapshotChanged | guardSnapshotBudget | guardSnapshotShape
  | guardSnapshotAlias | guardSnapshotDescriptor | guardSnapshotPool | guardSnapshotReadiness
  | guardSnapshotHook | guardSnapshotAllocator | guardSnapshotImport | guardSnapshotProvenance
  | guardReadiness | guardStandalone | guardSession | guardIssuedId | guardFinishFree | guardCreateFree
  | guardHeartbeatSlot | guardHeartbeatType | guardHeartbeatId | guardGenericId | guardGenericHolder
  | guardHeartbeatReferences | snapshotGuardPassed | metadataUnavailable | metadataTimeout
  | metadataCountsNotReady | metadataUnsupportedState | metadataRandomUnavailable | metadataUnverified
  | publishedIdentityChanged | metadataCountLimit | pumpHeadroomUnavailable | botsUnsupported
  | populationUnsupported | heartbeatStateUnsupported | heartbeatScheduleInvalid | heartbeatErrors
  | heartbeatThrottled | heartbeatExpedited | heartbeatIntervalUnsupported | heartbeatOverridesUnsupported
  | heartbeatRetryUnsupported
  deriving DecidableEq, Repr

inductive RecoveryOutcome
  | none | mechanicsFailed | clearedCacheNoSession | nativeUnwind | recordingUnavailable
  | publishedNotDelivered | deliveredSelectionUnknown | adoptedCountUnrepaired | repairedObserved
  | inconclusive
  deriving DecidableEq, Repr

inductive ResourcePhase
  | none | allocatedUnbound | boundLocal | enqueueEntered | localReleased
  deriving DecidableEq, Repr

inductive NativeStage
  | none | descriptor | allocate | bind | copy | retire | cancel | enqueue | localRelease | cleanup | create
  | publish | rebind | start | guardInstall | createGuard | createForward | metadataConstruct | metadataFill
  | metadataUpdate | metadataDestroy | metadataVerify
  deriving DecidableEq, Repr

inductive CallbackResult
  | notObserved | true | false | null | unreadable | invalid
  deriving DecidableEq, Repr

structure Flags where
  permissionEnabled : Bool
  cancellationCompleted : Bool
  restartRequired : Bool
  callbackObserved : Bool
  attributionValid : Bool
  deliveryReceiptObserved : Bool
  recipeEntered : Bool
  recipeNormalCompleted : Bool
  exceptionObserved : Bool
  terminal : Bool
  createGuardInstalled : Bool
  createCallbackObserved : Bool
  createForwardEntered : Bool
  createForwardNormalCompleted : Bool
  callbackOwnTimingValid : Bool
  publishedLocally : Bool
  metadataAttempted : Bool
  metadataCoherent : Bool
  metadataUnverified : Bool
  metadataDirtyAfter : Bool
  consoleRequested : Bool
  preflightRetryable : Bool
  deriving DecidableEq, Repr

namespace Flags

def bits (f : Flags) : List Bool :=
  [f.permissionEnabled, f.cancellationCompleted, f.restartRequired, f.callbackObserved, f.attributionValid,
    f.deliveryReceiptObserved, f.recipeEntered, f.recipeNormalCompleted, f.exceptionObserved, f.terminal,
    f.createGuardInstalled, f.createCallbackObserved, f.createForwardEntered, f.createForwardNormalCompleted,
    f.callbackOwnTimingValid, f.publishedLocally, f.metadataAttempted, f.metadataCoherent, f.metadataUnverified,
    f.metadataDirtyAfter, f.consoleRequested, f.preflightRetryable]

def word (f : Flags) : UInt64 := .ofBitVec ((BitVec.ofBoolListLE f.bits).setWidth 64)

def zero : Flags :=
  ⟨false, false, false, false, false, false, false, false, false, false, false, false, false, false, false, false,
    false, false, false, false, false, false⟩

theorem getLsbD_word (f : Flags) (i : Nat) (h : i < 64) : f.word.toBitVec.getLsbD i = f.bits.getD i false := by
  simp only [word, BitVec.getLsbD_setWidth, BitVec.getLsbD_ofBoolListLE, h, decide_true, Bool.true_and]

theorem getD_bits_of_le (f : Flags) {i : Nat} (h : 22 ≤ i) : f.bits.getD i false = false := by
  rw [List.getD_eq_getElem?_getD, List.getElem?_eq_none h]
  rfl

theorem word_and_eq_zero (f : Flags) (mask : UInt64) :
    f.word &&& mask = 0 ↔ ∀ i < 22, mask.toBitVec.getLsbD i = true → f.bits.getD i false = false := by
  rw [← UInt64.toBitVec_inj, UInt64.toBitVec_and]
  constructor
  · intro h i hi hm
    have hbit := congrArg (BitVec.getLsbD · i) h
    simp only [BitVec.getLsbD_and, getLsbD_word f i (by omega), hm, Bool.and_true] at hbit
    rw [hbit]
    exact BitVec.getLsbD_zero
  · intro h
    apply BitVec.eq_of_getLsbD_eq
    intro i hi
    rw [BitVec.getLsbD_and, getLsbD_word f i hi]
    cases hm : mask.toBitVec.getLsbD i with
    | false =>
        rw [Bool.and_false]
        exact BitVec.getLsbD_zero.symm
    | true =>
        rw [Bool.and_true]
        by_cases hlt : i < 22
        · rw [h i hlt hm]
          exact BitVec.getLsbD_zero.symm
        · rw [f.getD_bits_of_le (Nat.le_of_not_lt hlt)]
          exact BitVec.getLsbD_zero.symm

theorem word_and_eq_self (f : Flags) (mask : UInt64) :
    f.word &&& mask = mask ↔ ∀ i < 64, mask.toBitVec.getLsbD i = true → f.bits.getD i false = true := by
  rw [← UInt64.toBitVec_inj, UInt64.toBitVec_and]
  constructor
  · intro h i hi hm
    have hbit := congrArg (BitVec.getLsbD · i) h
    simpa only [BitVec.getLsbD_and, getLsbD_word f i hi, hm, Bool.and_true] using hbit
  · intro h
    apply BitVec.eq_of_getLsbD_eq
    intro i hi
    rw [BitVec.getLsbD_and, getLsbD_word f i hi]
    cases hm : mask.toBitVec.getLsbD i with
    | false => exact Bool.and_false _
    | true => rw [h i hi hm, Bool.and_true]

theorem word_bit (f : Flags) (i : Fin 22) :
    decide (f.word &&& ((1 : UInt64) <<< i.val.toUInt64) ≠ 0) = f.bits.getD i.val false := by
  have hmask : ∀ i j : Fin 22, ((1 : UInt64) <<< i.val.toUInt64).toBitVec.getLsbD j.val = decide (i = j) := by decide
  cases hb : f.bits.getD i.val false with
  | true =>
      apply decide_eq_true
      intro h
      have := (f.word_and_eq_zero _).mp h i.val i.isLt ((hmask i i).trans (decide_eq_true rfl))
      rw [hb] at this
      cases this
  | false =>
      apply decide_eq_false
      refine not_not_intro ((f.word_and_eq_zero _).mpr fun j hj hm => ?_)
      have hij : i = ⟨j, hj⟩ := of_decide_eq_true ((hmask i ⟨j, hj⟩).symm.trans hm)
      have hval : i.val = j := congrArg Fin.val hij
      rwa [hval] at hb

end Flags

/-- The owner's side of a payload: the same members, each at the type of the
values it takes. -/
structure RecoveryValue where
  phase : RecoveryPhase
  event : RecoveryEvent
  reason : RecoveryReason
  outcome : RecoveryOutcome
  flags : Flags
  operationSequence : Nat
  transitionSequence : Nat
  qpc : Nat
  sourceEpoch : UInt64
  sdkEpoch : UInt64
  ownerThreadId : UInt32
  resourcePhase : ResourcePhase
  nativeStage : NativeStage
  exceptionCode : UInt32
  requestId : UInt32
  callbackId : UInt32
  callbackResult : CallbackResult
  apiReturnedId : UInt32
  oldSdkFingerprint : UInt64
  newSdkFingerprint : UInt64
  oldCacheFingerprint : UInt64
  newCacheFingerprint : UInt64
  finishDeadlineQpc : Nat
  overallDeadlineQpc : Nat
  recordSequence : UInt64
  callbackOwnTicks : Nat
  deriving DecidableEq, Repr

namespace RecoveryValue

def zero : RecoveryValue :=
  ⟨.disabled, .none, .none, .none, .zero, 0, 0, 0, 0, 0, 0, .none, .none, 0, 0, 0, .notObserved, 0, 0, 0, 0, 0, 0, 0,
    0, 0⟩

def payload (v : RecoveryValue) : ReportRecoveryPayload where
  phase := v.phase.ctorIdx.toUInt64
  event := v.event.ctorIdx.toUInt64
  reason := v.reason.ctorIdx.toUInt64
  outcome := v.outcome.ctorIdx.toUInt64
  flags := v.flags.word
  operationSequence := v.operationSequence.toUInt64
  transitionSequence := v.transitionSequence.toUInt64
  qpc := v.qpc.toUInt64
  sourceEpoch := v.sourceEpoch
  sdkEpoch := v.sdkEpoch
  ownerThreadId := v.ownerThreadId.toUInt64
  resourcePhase := v.resourcePhase.ctorIdx.toUInt64
  nativeStage := v.nativeStage.ctorIdx.toUInt64
  exceptionCode := v.exceptionCode.toUInt64
  requestId := v.requestId.toUInt64
  callbackId := v.callbackId.toUInt64
  callbackResult := v.callbackResult.ctorIdx.toUInt64
  apiReturnedId := v.apiReturnedId.toUInt64
  oldSdkFingerprint := v.oldSdkFingerprint
  newSdkFingerprint := v.newSdkFingerprint
  oldCacheFingerprint := v.oldCacheFingerprint
  newCacheFingerprint := v.newCacheFingerprint
  finishDeadlineQpc := v.finishDeadlineQpc.toUInt64
  overallDeadlineQpc := v.overallDeadlineQpc.toUInt64
  recordSequence := v.recordSequence
  callbackOwnTicks := v.callbackOwnTicks.toUInt64

/-- What the payload check asks of a value beside the ranges that its types
already have. -/
structure Valid (v : RecoveryValue) : Prop where
  operation : v.operationSequence ≤ uint64Max
  qpc : v.qpc ≤ qpcMax
  finishDeadline : v.finishDeadlineQpc ≤ qpcMax
  overallDeadline : v.overallDeadlineQpc ≤ qpcMax
  ticks : v.callbackOwnTicks ≤ qpcMax
  timed : v.flags.callbackOwnTimingValid = true → v.flags.createCallbackObserved = true
  untimed : v.flags.callbackOwnTimingValid = false → v.callbackOwnTicks = 0
  completed : v.flags.createForwardNormalCompleted = true → v.flags.createForwardEntered = true
  forwarded : v.flags.createForwardEntered = true → v.flags.createCallbackObserved = true
  attempted : v.flags.metadataAttempted = true → v.flags.publishedLocally = true
  coherent : v.flags.metadataCoherent = true → v.flags.publishedLocally = true
  unverified : v.flags.metadataUnverified = true → v.flags.publishedLocally = true
  exclusive : v.flags.metadataCoherent = true → v.flags.metadataUnverified = false
  dirtyAfter : v.flags.metadataDirtyAfter = true → v.flags.metadataAttempted = true
  console : v.flags.consoleRequested = true → v.operationSequence ≠ 0
  retryable : v.flags.preflightRetryable = true →
    v.phase = .rejected ∧ v.operationSequence ≠ 0 ∧
      (v.outcome = .mechanicsFailed ∨ v.outcome = .recordingUnavailable) ∧
      v.flags = { Flags.zero with
        permissionEnabled := true, terminal := true, consoleRequested := v.flags.consoleRequested
        preflightRetryable := true } ∧
      v.nativeStage = .none ∧ v.resourcePhase = .none ∧ v.exceptionCode = 0 ∧ v.requestId = 0 ∧
      v.callbackId = 0 ∧ v.callbackResult = .notObserved ∧ v.apiReturnedId = 0

variable {v : RecoveryValue}

theorem toNat_toUInt64 {n : Nat} (hn : n ≤ uint64Max) : n.toUInt64.toNat = n := by
  apply UInt64.toNat_ofNat_of_lt'
  exact Nat.lt_succ_of_le hn

theorem toUInt64_le_iff {n m : Nat} (hn : n ≤ uint64Max) (hm : m ≤ uint64Max) :
    n.toUInt64 ≤ m.toUInt64 ↔ n ≤ m := by
  rw [UInt64.le_iff_toNat_le, toNat_toUInt64 hn, toNat_toUInt64 hm]

theorem toUInt64_eq_iff {n m : Nat} (hn : n ≤ uint64Max) (hm : m ≤ uint64Max) :
    n.toUInt64 = m.toUInt64 ↔ n = m := by
  rw [← UInt64.toNat_inj, toNat_toUInt64 hn, toNat_toUInt64 hm]

theorem inRange_payload (h : v.Valid) : v.payload.inRange = true := by
  have hphase : v.phase.ctorIdx.toUInt64 < 11 := by cases v.phase <;> decide
  have hevent : v.event.ctorIdx.toUInt64 < 4 := by cases v.event <;> decide
  have hreason : v.reason.ctorIdx.toUInt64 < 83 := by cases v.reason <;> decide
  have houtcome : v.outcome.ctorIdx.toUInt64 < 10 := by cases v.outcome <;> decide
  have hresource : v.resourcePhase.ctorIdx.toUInt64 < 5 := by cases v.resourcePhase <;> decide
  have hstage : v.nativeStage.ctorIdx.toUInt64 < 22 := by cases v.nativeStage <;> decide
  have hresult : v.callbackResult.ctorIdx.toUInt64 < 6 := by cases v.callbackResult <;> decide
  have hflags : v.flags.word &&& ~~~RecoveryFlags.known = 0 := by
    rw [Flags.word_and_eq_zero]
    intro i hi hm
    have hknown : ∀ i < 22, (~~~RecoveryFlags.known).toBitVec.getLsbD i = false := by decide
    rw [hknown i hi] at hm
    cases hm
  have hmax : qpcMax ≤ uint64Max := by decide
  have hword : ∀ n : UInt32, n.toUInt64 ≤ 0xffffffff := fun n => by
    rw [UInt64.le_iff_toNat_le, UInt32.toNat_toUInt64]
    exact Nat.le_of_lt_succ n.toNat_lt
  have hint : ∀ n : Nat, n ≤ qpcMax → n.toUInt64 ≤ 0x7fffffffffffffff := fun n hn =>
    (toUInt64_le_iff (hn.trans hmax) hmax).mpr hn
  simp only [ReportRecoveryPayload.inRange, payload, hphase, hevent, hreason, houtcome, hresource, hstage, hresult,
    hflags, hword, hint _ h.qpc, hint _ h.finishDeadline, hint _ h.overallDeadline, hint _ h.ticks, decide_true,
    Bool.and_self]

theorem flagged_payload (v : RecoveryValue) (i : Fin 22) :
    v.payload.flagged ((1 : UInt64) <<< i.val.toUInt64) = v.flags.bits.getD i.val false := v.flags.word_bit i

theorem flagsConsistent_payload (h : v.Valid) : v.payload.flagsConsistent = true := by
  have hmetadata : v.flags.publishedLocally = false → v.payload.flagged (RecoveryFlags.metadataAttempted |||
      RecoveryFlags.metadataCoherent ||| RecoveryFlags.metadataUnverified ||| RecoveryFlags.metadataDirtyAfter) =
        false := by
    intro hp
    apply decide_eq_false
    refine not_not_intro ((v.flags.word_and_eq_zero _).mpr fun i hi hm => ?_)
    have hmask : ∀ i < 22, (RecoveryFlags.metadataAttempted ||| RecoveryFlags.metadataCoherent |||
        RecoveryFlags.metadataUnverified ||| RecoveryFlags.metadataDirtyAfter).toBitVec.getLsbD i = true →
          i = 16 ∨ i = 17 ∨ i = 18 ∨ i = 19 := by decide
    have hone : ∀ b : Bool, (b = true → v.flags.publishedLocally = true) → b = false := fun b hb => by
      cases b with
      | false => rfl
      | true => exact absurd (hb rfl) (by rw [hp]; exact Bool.noConfusion)
    rcases hmask i hi hm with rfl | rfl | rfl | rfl
    · exact hone _ h.attempted
    · exact hone _ h.coherent
    · exact hone _ h.unverified
    · exact hone _ fun hd => h.attempted (h.dirtyAfter hd)
  have htiming : v.payload.flagged RecoveryFlags.callbackOwnTimingValid = v.flags.callbackOwnTimingValid := v.flagged_payload 14
  have hcallback : v.payload.flagged RecoveryFlags.createCallbackObserved = v.flags.createCallbackObserved := v.flagged_payload 11
  have hentered : v.payload.flagged RecoveryFlags.createForwardEntered = v.flags.createForwardEntered := v.flagged_payload 12
  have hcompleted : v.payload.flagged RecoveryFlags.createForwardNormalCompleted = v.flags.createForwardNormalCompleted := v.flagged_payload 13
  have hpublished : v.payload.flagged RecoveryFlags.publishedLocally = v.flags.publishedLocally := v.flagged_payload 15
  have hattempted : v.payload.flagged RecoveryFlags.metadataAttempted = v.flags.metadataAttempted := v.flagged_payload 16
  have hcoherent : v.payload.flagged RecoveryFlags.metadataCoherent = v.flags.metadataCoherent := v.flagged_payload 17
  have hunverified : v.payload.flagged RecoveryFlags.metadataUnverified = v.flags.metadataUnverified := v.flagged_payload 18
  have hdirty : v.payload.flagged RecoveryFlags.metadataDirtyAfter = v.flags.metadataDirtyAfter := v.flagged_payload 19
  have hconsole : v.payload.flagged RecoveryFlags.consoleRequested = v.flags.consoleRequested := v.flagged_payload 20
  have himp : ∀ {a b : Bool}, (a = true → b = true) → (!a || b) = true := fun {a b} hab => by
    cases a with
    | false => rfl
    | true => exact hab rfl
  simp only [ReportRecoveryPayload.flagsConsistent, htiming, hcallback, hentered, hcompleted, hpublished, hattempted,
    hcoherent, hunverified, hdirty, hconsole, Bool.and_eq_true]
  refine ⟨⟨⟨⟨⟨⟨?_, himp h.completed⟩, himp h.forwarded⟩, ?_⟩, ?_⟩, himp h.dirtyAfter⟩, himp ?_⟩
  · cases ht : v.flags.callbackOwnTimingValid with
    | true => exact h.timed ht
    | false =>
        apply decide_eq_true
        exact (toUInt64_eq_iff (h.ticks.trans (by decide)) (by decide)).mpr (h.untimed ht)
  · cases hp : v.flags.publishedLocally with
    | true => exact Bool.or_true _
    | false =>
        rw [hmetadata hp]
        rfl
  · cases hc : v.flags.metadataCoherent with
    | false => rfl
    | true =>
        rw [h.exclusive hc]
        rfl
  · intro hc
    apply decide_eq_true
    intro hz
    exact h.console hc ((toUInt64_eq_iff h.operation (Nat.zero_le _)).mp hz)

theorem retryConsistent_payload (h : v.Valid) (hr : v.flags.preflightRetryable = true) :
    v.payload.retryConsistent = true := by
  obtain ⟨hphase, hoperation, houtcome, hflags, hstage, hresource, hexception, hrequest, hcallback, hresult,
    hreturned⟩ := h.retryable hr
  have hword : v.payload.outcome = recoveryOutcomeMechanicsFailed ∨
      v.payload.outcome = recoveryOutcomeRecordingUnavailable := by
    rcases houtcome with ho | ho
    · exact .inl (congrArg (fun o : RecoveryOutcome => o.ctorIdx.toUInt64) ho)
    · exact .inr (congrArg (fun o : RecoveryOutcome => o.ctorIdx.toUInt64) ho)
  have hop : v.payload.operationSequence ≠ 0 := fun hz =>
    hoperation ((toUInt64_eq_iff h.operation (Nat.zero_le _)).mp hz)
  have hmask : ∀ c : Bool, (let f := { Flags.zero with
        permissionEnabled := true, terminal := true, consoleRequested := c, preflightRetryable := true }
      f.word &&& ~~~(RecoveryFlags.permissionEnabled ||| RecoveryFlags.terminal ||| RecoveryFlags.consoleRequested |||
        RecoveryFlags.preflightRetryable) = 0 ∧
      f.word &&& (RecoveryFlags.permissionEnabled ||| RecoveryFlags.terminal) =
        RecoveryFlags.permissionEnabled ||| RecoveryFlags.terminal) := by decide
  have hbits := hmask v.flags.consoleRequested
  rw [← hflags] at hbits
  simp only [ReportRecoveryPayload.retryConsistent, Bool.and_eq_true, Bool.or_eq_true, decide_eq_true_eq]
  refine ⟨⟨⟨⟨⟨⟨⟨⟨⟨⟨⟨?_, hop⟩, hword⟩, hbits.1⟩, hbits.2⟩, ?_⟩, ?_⟩, ?_⟩, ?_⟩, ?_⟩, ?_⟩, ?_⟩
  · exact congrArg (fun p : RecoveryPhase => p.ctorIdx.toUInt64) hphase
  · exact congrArg (fun p : NativeStage => p.ctorIdx.toUInt64) hstage
  · exact congrArg (fun p : ResourcePhase => p.ctorIdx.toUInt64) hresource
  · exact congrArg UInt32.toUInt64 hexception
  · exact congrArg UInt32.toUInt64 hrequest
  · exact congrArg UInt32.toUInt64 hcallback
  · exact congrArg (fun p : CallbackResult => p.ctorIdx.toUInt64) hresult
  · exact congrArg UInt32.toUInt64 hreturned

/-- A valid value has valid words. -/
theorem recoveryPayloadValid_payload (h : v.Valid) : v.payload.recoveryPayloadValid = true := by
  have hretry : v.payload.flagged RecoveryFlags.preflightRetryable = v.flags.preflightRetryable :=
    v.flagged_payload 21
  rw [ReportRecoveryPayload.recoveryPayloadValid, inRange_payload h, flagsConsistent_payload h, hretry]
  cases hr : v.flags.preflightRetryable with
  | false => rfl
  | true =>
      rw [retryConsistent_payload h hr]
      rfl

end RecoveryValue

end RS2ServerFix.LeechRecovery
