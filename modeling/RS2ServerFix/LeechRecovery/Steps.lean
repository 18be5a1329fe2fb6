import RS2ServerFix.LeechRecovery.Invariant

namespace RS2ServerFix.LeechRecovery

open Reporting Lib

variable {r r' r'' : Recovery}

section History

variable {faults before : List Event}

theorem mem_faults (hf : ∀ e ∈ faults, Event.isFault e = true) {e : Event} (he : Event.isFault e = false) :
    e ∈ faults ++ before ↔ e ∈ before := by
  rw [List.mem_append, or_iff_right]
  intro hm
  rw [hf e hm] at he
  cases he

theorem noCritical_of_cons {e : Event} (h : NoCritical (e :: before)) : NoCritical before :=
  fun reason outcome restart hm => h reason outcome restart (List.mem_cons_of_mem _ hm)

end History

/-- An update of fields that the invariant does not read, or does not read once
the recipe is entered. -/
structure Touched (r r' : Recovery) : Prop where
  phase : r'.value.phase = r.value.phase
  reason : r'.value.reason = r.value.reason
  outcome : r'.value.outcome = r.value.outcome
  operation : r'.value.operationSequence = r.value.operationSequence
  transition : r'.value.transitionSequence = r.value.transitionSequence
  qpc : r.value.qpc ≤ qpcMax → r'.value.qpc ≤ qpcMax
  finishDeadline : r.value.finishDeadlineQpc ≤ qpcMax → r'.value.finishDeadlineQpc ≤ qpcMax
  overallDeadline : r.value.overallDeadlineQpc ≤ qpcMax → r'.value.overallDeadlineQpc ≤ qpcMax
  own : r'.value.callbackOwnTicks = r.value.callbackOwnTicks
  permission : r'.value.flags.permissionEnabled = r.value.flags.permissionEnabled
  restart : r'.value.flags.restartRequired = r.value.flags.restartRequired
  ended : r'.value.flags.terminal = r.value.flags.terminal
  exception : r'.value.flags.exceptionObserved = r.value.flags.exceptionObserved
  published : r'.value.flags.publishedLocally = r.value.flags.publishedLocally
  timed : r'.value.flags.callbackOwnTimingValid = r.value.flags.callbackOwnTimingValid
  coherent : r'.value.flags.metadataCoherent = r.value.flags.metadataCoherent
  unverified : r'.value.flags.metadataUnverified = r.value.flags.metadataUnverified
  console : r'.value.flags.consoleRequested = r.value.flags.consoleRequested
  retryable : r'.value.flags.preflightRetryable = r.value.flags.preflightRetryable
  callback : r.value.flags.createCallbackObserved = true → r'.value.flags.createCallbackObserved = true
  forward : r.value.flags.createForwardEntered = true → r'.value.flags.createForwardEntered = true
  attempted : r.value.flags.metadataAttempted = true → r'.value.flags.metadataAttempted = true
  completed : r'.value.flags.createForwardNormalCompleted = true →
    r.value.flags.createForwardNormalCompleted = true ∨ r'.value.flags.createForwardEntered = true
  forwarded : r'.value.flags.createForwardEntered = true →
    r.value.flags.createForwardEntered = true ∨ r'.value.flags.createCallbackObserved = true
  attempts : r'.value.flags.metadataAttempted = true →
    r.value.flags.metadataAttempted = true ∨ r'.value.flags.publishedLocally = true
  dirty : r'.value.flags.metadataDirtyAfter = true →
    r.value.flags.metadataDirtyAfter = true ∨ r'.value.flags.metadataAttempted = true
  ticks : r.callbackTiming.ticks ≤ qpcMax → r'.callbackTiming.ticks ≤ qpcMax
  measured : r'.callbackTiming.phase = .completeValid →
    r.callbackTiming.phase = .completeValid ∨ r'.value.flags.createCallbackObserved = true
  updated : r'.metadataUpdateReturned = true →
    r.metadataUpdateReturned = true ∨ r'.value.flags.metadataAttempted = true
  installed : r.createInstalled = true → r'.createInstalled = true
  native : r.recipeEntered = true ∨
    (r'.value.flags = r.value.flags ∧ r'.value.nativeStage = r.value.nativeStage ∧
      r'.value.resourcePhase = r.value.resourcePhase ∧ r'.value.exceptionCode = r.value.exceptionCode ∧
      r'.value.requestId = r.value.requestId ∧ r'.value.callbackId = r.value.callbackId ∧
      r'.value.callbackResult = r.value.callbackResult ∧ r'.value.apiReturnedId = r.value.apiReturnedId ∧
      r'.callbackTiming.phase = r.callbackTiming.phase ∧ r'.createInstalled = r.createInstalled ∧
      r'.metadataUpdateReturned = r.metadataUpdateReturned ∧ r'.bindEntered = r.bindEntered ∧
      r'.bindCompleted = r.bindCompleted ∧ r'.resourceReleaseAttempted = r.resourceReleaseAttempted)
  word : r'.ownerSequence = r.ownerSequence
  requested : r'.requested = r.requested
  recipe : r'.recipeEntered = r.recipeEntered
  cancel : r'.cancelEntered = r.cancelEntered
  terminal : r'.terminal = r.terminal
  final : r'.finalPending = r.finalPending
  pending : r'.pendingRecords = r.pendingRecords
  read : r'.pendingRead = r.pendingRead
  started : r'.controlStarted = r.controlStarted
  prepared : r'.prepared = r.prepared
  pump : r'.pumpDepth = r.pumpDepth
  transport : r'.transport = r.transport
  quota : r'.recoveryQuota.active = true → r.recoveryQuota.active = true
  history : r'.history = r.history

namespace Touched

theorem refl (r : Recovery) : Touched r r where
  phase := rfl
  reason := rfl
  outcome := rfl
  operation := rfl
  transition := rfl
  qpc := id
  finishDeadline := id
  overallDeadline := id
  own := rfl
  permission := rfl
  restart := rfl
  ended := rfl
  exception := rfl
  published := rfl
  timed := rfl
  coherent := rfl
  unverified := rfl
  console := rfl
  retryable := rfl
  callback := id
  forward := id
  attempted := id
  completed := .inl
  forwarded := .inl
  attempts := .inl
  dirty := .inl
  ticks := id
  measured := .inl
  updated := .inl
  installed := id
  native := .inr ⟨rfl, rfl, rfl, rfl, rfl, rfl, rfl, rfl, rfl, rfl, rfl, rfl, rfl, rfl⟩
  word := rfl
  requested := rfl
  recipe := rfl
  cancel := rfl
  terminal := rfl
  final := rfl
  pending := rfl
  read := rfl
  started := rfl
  prepared := rfl
  pump := rfl
  transport := rfl
  quota := id
  history := rfl

theorem kept (h : Touched r r') : Kept r r' where
  phase := h.phase
  transition := h.transition
  word := h.word
  operation := h.operation
  requested := h.requested
  recipe := h.recipe
  cancel := h.cancel
  published := h.published
  coherent := h.coherent
  pending := h.pending
  read := h.read
  started := h.started
  prepared := h.prepared
  pump := h.pump
  transport := h.transport
  terminal := h.terminal.trans
  restart := h.restart.trans
  installed := h.installed
  callback := h.callback
  forward := h.forward
  attempted := h.attempted
  retryable := h.retryable.symm.trans
  quota := h.quota
  final := fun _ _ => h.final
  history := ⟨[], h.history, fun _ he => by cases he⟩

theorem pristine (h : Touched r r') (hp : r.recipeEntered = false → Pristine r) (hr : r'.recipeEntered = false) :
    Pristine r' := by
  have hr' : r.recipeEntered = false := h.recipe.symm.trans hr
  have hp := hp hr'
  rcases h.native with hn | ⟨hflags, hstage, hresource, hexception, hrequest, hid, hresult, hreturned, htiming,
    hinstalled, hupdated, hentered, hcompleted, hattempted⟩
  · rw [hr'] at hn
    cases hn
  · exact {
      phase := by rw [h.phase]; exact hp.phase
      flags := by rw [hflags]; exact hp.flags
      stage := hstage.trans hp.stage
      resource := hresource.trans hp.resource
      exceptionCode := hexception.trans hp.exceptionCode
      requestId := hrequest.trans hp.requestId
      callbackId := hid.trans hp.callbackId
      callbackResult := hresult.trans hp.callbackResult
      apiReturnedId := hreturned.trans hp.apiReturnedId
      timing := htiming.trans hp.timing
      cancelEntered := h.cancel.trans hp.cancelEntered
      createInstalled := hinstalled.trans hp.createInstalled
      updated := hupdated.trans hp.updated
      bindEntered := hentered.trans hp.bindEntered
      bindCompleted := hcompleted.trans hp.bindCompleted
      releaseAttempted := hattempted.trans hp.releaseAttempted }

theorem valid (h : Touched r r') (hc : Core r) : r'.value.Valid where
  operation := by rw [h.operation]; exact hc.valid.operation
  qpc := h.qpc hc.valid.qpc
  finishDeadline := h.finishDeadline hc.valid.finishDeadline
  overallDeadline := h.overallDeadline hc.valid.overallDeadline
  ticks := by rw [h.own]; exact hc.valid.ticks
  timed := by
    rw [h.timed]
    exact h.callback ∘ hc.valid.timed
  untimed := by
    rw [h.timed, h.own]
    exact hc.valid.untimed
  completed := by
    intro hn
    rcases h.completed hn with hn | hn
    · exact h.forward (hc.valid.completed hn)
    · exact hn
  forwarded := by
    intro hn
    rcases h.forwarded hn with hn | hn
    · exact h.callback (hc.valid.forwarded hn)
    · exact hn
  attempted := by
    intro hn
    rcases h.attempts hn with hn | hn
    · exact h.published.trans (hc.valid.attempted hn)
    · exact hn
  coherent := by
    rw [h.coherent, h.published]
    exact hc.valid.coherent
  unverified := by
    rw [h.unverified, h.published]
    exact hc.valid.unverified
  exclusive := by
    rw [h.coherent, h.unverified]
    exact hc.valid.exclusive
  dirtyAfter := by
    intro hn
    rcases h.dirty hn with hn | hn
    · exact h.attempted (hc.valid.dirtyAfter hn)
    · exact hn
  console := by
    rw [h.console, h.operation]
    exact hc.valid.console
  retryable := by
    rw [h.retryable]
    intro hn
    have hrecipe := (hc.retryable hn).recipe
    have hp := h.pristine hc.pristine (h.recipe.trans hrecipe)
    obtain ⟨hphase, hoperation, houtcome, hflags, -⟩ := hc.valid.retryable hn
    have hf : r'.value.flags = r.value.flags := by
      rcases h.native with hn | hn
      · rw [hrecipe] at hn
        cases hn
      · exact hn.1
    rw [h.phase, h.operation, h.outcome, hf]
    exact ⟨hphase, hoperation, houtcome, hflags, hp.stage, hp.resource, hp.exceptionCode, hp.requestId, hp.callbackId,
      hp.callbackResult, hp.apiReturnedId⟩

theorem core (h : Touched r r') (hc : Core r) : Core r' where
  valid := h.valid hc
  records := by rw [h.pending]; exact hc.records
  read := by rw [h.pending, h.read]; exact hc.read
  ticks := h.ticks hc.ticks
  measured := by
    intro hn
    rcases h.measured hn with hn | hn
    · exact h.callback (hc.measured hn)
    · exact hn
  updated := by
    intro hn
    rcases h.updated hn with hn | hn
    · exact h.attempted (hc.updated hn)
    · exact hn
  pristine := h.pristine hc.pristine
  armed := by
    rw [h.started, h.permission, h.transition]
    exact hc.armed
  started := by
    rw [h.started, h.requested]
    exact hc.started
  unrequested := by
    rw [h.requested, h.phase, h.recipe, h.history]
    exact hc.unrequested
  recipe := by
    rw [h.recipe, h.phase]
    exact hc.recipe
  served := by
    rw [h.phase, h.operation]
    exact hc.served
  late := by
    rw [h.phase, h.cancel]
    exact hc.late
  rejected := by
    rw [h.phase, h.ended, h.terminal, h.transition, h.cancel]
    exact hc.rejected
  failed := by
    rw [h.phase, h.restart, h.cancel, h.published]
    exact hc.failed
  published := by
    rw [h.phase, h.published]
    exact hc.published
  adopted := by
    rw [h.published, h.cancel]
    exact hc.adopted
  restart := by
    rw [h.restart, h.terminal]
    exact hc.restart
  policy := by
    rw [h.cancel, h.terminal, h.published, h.restart]
    exact hc.policy
  reason := by
    rw [h.terminal, h.published, h.reason]
    exact hc.reason
  calm := by
    rw [h.history, RecoveryValue.existingNativeFault, h.exception, h.reason, h.outcome, h.published, h.restart,
      h.terminal]
    exact hc.calm
  retryable := by
    rw [h.retryable]
    intro hn
    have hr := hc.retryable hn
    exact {
      terminal := h.terminal.trans hr.terminal
      requested := h.requested.trans hr.requested
      recipe := h.recipe.trans hr.recipe
      restart := h.restart.trans hr.restart
      pending := h.pending.trans hr.pending
      reason := by rw [h.reason]; exact hr.reason
      operation := by rw [h.operation]; exact hr.operation
      idle := by rw [h.history]; exact hr.idle }
  operations := by
    rw [h.operation, h.history, h.recipe]
    exact hc.operations
  counted := by
    rw [h.history, h.operation]
    exact hc.counted
  recipes := by
    rw [h.history, h.recipe]
    exact hc.recipes
  ledger := by
    rw [h.history, h.pending, h.read]
    exact hc.ledger
  refused := by
    rw [h.history, h.word]
    exact hc.refused
  sound := by
    rw [h.history]
    exact hc.sound

end Touched

end RS2ServerFix.LeechRecovery
