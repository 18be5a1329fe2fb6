import RS2ServerFix.LeechRecovery.Helper
import RS2ServerFix.LeechRecovery.Visit

namespace RS2ServerFix.LeechRecovery

open Reporting Lib

def RecoveryPhase.early : RecoveryPhase → Bool
  | .disabled | .armed | .requested | .qualifying | .rejected | .failed => true
  | _ => false

def RecoveryPhase.late : RecoveryPhase → Bool
  | .finishSubmitted | .finishAccepted | .recreating | .published | .observed => true
  | _ => false

def RecoveryPhase.unrequested : RecoveryPhase → Bool
  | .disabled | .armed => true
  | _ => false

def idle : List Event → Bool
  | [] => true
  | .operation _ :: _ => false
  | .released _ _ _ :: _ => true
  | _ :: rest => idle rest

def Event.isOperation : Event → Bool
  | .operation _ => true
  | _ => false

def Event.isFault : Event → Bool
  | .fault _ _ _ => true
  | _ => false

def Event.queuedRecord : Event → Option RecoveryValue
  | .queued v => some v
  | _ => none

def Event.leftRecord : Event → Option RecoveryValue
  | .recorded v true | .suppressed v | .discarded v => some v
  | _ => none

def queuedOf (history : List Event) : List RecoveryValue := (history.filterMap Event.queuedRecord).reverse

def leftOf (history : List Event) : List RecoveryValue := (history.filterMap Event.leftRecord).reverse

/-- What is asked of an event after these. -/
def Event.Follows : Event → List Event → Prop
  | .recorded v _, _ => v.Valid
  | .published v _, before => v.Valid ∧
      (v.flags.preflightRetryable = true → helperRetry v.payload = true) ∧
      (helperInitial v.payload = true ∨ helperRetry v.payload = true →
        .recipe ∉ before ∧ idle before = true ∧ v.flags.restartRequired = false)
  | .operation _, before => .recipe ∉ before ∧ idle before = true
  | .recipe, before => .recipe ∉ before
  | .released _ v holder, before =>
      .recipe ∉ before ∧ holder = 0 ∧ v.resourcePhase = .none ∧ v.nativeStage = .none ∧ v.phase = .rejected ∧
        v.flags.terminal = true ∧ v.flags.restartRequired = false ∧ v.flags.exceptionObserved = false ∧
        queuedOf before = leftOf before ∧ ∀ w, .suppressed w ∉ before
  | _, _ => True

def Sound : List Event → Prop
  | [] => True
  | event :: before => event.Follows before ∧ Sound before

/-- No native exception, unavailable inverse or changed identity so far. -/
def NoCritical (history : List Event) : Prop :=
  ∀ reason outcome restart, .fault reason outcome restart ∈ history → reason.critical = false

structure Pristine (r : Recovery) : Prop where
  phase : r.value.phase.early = true
  flags : r.value.flags = { Flags.zero with
    permissionEnabled := r.value.flags.permissionEnabled
    restartRequired := r.value.flags.restartRequired
    terminal := r.value.flags.terminal
    consoleRequested := r.value.flags.consoleRequested
    preflightRetryable := r.value.flags.preflightRetryable }
  stage : r.value.nativeStage = .none
  resource : r.value.resourcePhase = .none
  exceptionCode : r.value.exceptionCode = 0
  requestId : r.value.requestId = 0
  callbackId : r.value.callbackId = 0
  callbackResult : r.value.callbackResult = .notObserved
  apiReturnedId : r.value.apiReturnedId = 0
  timing : r.callbackTiming.phase = .notEntered
  cancelEntered : r.cancelEntered = false
  createInstalled : r.createInstalled = false
  updated : r.metadataUpdateReturned = false
  bindEntered : r.bindEntered = false
  bindCompleted : r.bindCompleted = false
  releaseAttempted : r.resourceReleaseAttempted = false

structure Retryable (r : Recovery) : Prop where
  terminal : r.terminal = true
  requested : r.requested = true
  recipe : r.recipeEntered = false
  restart : r.value.flags.restartRequired = false
  pending : r.pendingRecords = []
  reason : r.value.reason ≠ .none ∧ r.value.reason ≠ .invalidRequest ∧ r.value.reason ≠ .clockFault
  operation : r.value.operationSequence < uint64Max
  idle : idle r.history = true

/-- What holds wherever the owner thread calls into the native side. -/
structure Core (r : Recovery) : Prop where
  valid : r.value.Valid
  records : ∀ v ∈ r.pendingRecords, v.Valid
  read : r.pendingRead ≤ r.pendingRecords.length
  ticks : r.callbackTiming.ticks ≤ qpcMax
  measured : r.callbackTiming.phase = .completeValid → r.value.flags.createCallbackObserved = true
  updated : r.metadataUpdateReturned = true → r.value.flags.metadataAttempted = true
  pristine : r.recipeEntered = false → Pristine r
  armed : r.controlStarted = true → r.value.flags.permissionEnabled = true ∧ 1 ≤ r.value.transitionSequence
  started : r.requested = true → r.controlStarted = true
  unrequested : r.requested = false → r.value.phase.unrequested = true ∧ r.recipeEntered = false ∧
    idle r.history = true
  recipe : r.recipeEntered = true → r.value.phase.unrequested = false ∧ r.value.phase ≠ .requested
  served : r.value.phase = .requested ∨ r.value.phase = .qualifying → r.value.operationSequence ≠ 0
  late : r.value.phase.late = true → r.cancelEntered = true
  rejected : r.value.phase = .rejected → r.value.flags.terminal = true ∧ r.terminal = true ∧
    2 ≤ r.value.transitionSequence ∧ r.cancelEntered = false
  failed : r.value.phase = .failed → r.value.flags.restartRequired = true ∨
    (r.cancelEntered = true ∧ r.value.flags.publishedLocally = false)
  published : r.value.phase = .published ∨ r.value.phase = .observed → r.value.flags.publishedLocally = true
  adopted : r.value.flags.publishedLocally = true → r.cancelEntered = true
  restart : r.value.flags.restartRequired = true → r.terminal = true
  policy : r.cancelEntered = true → r.terminal = true → r.value.flags.publishedLocally = false →
    r.value.flags.restartRequired = true
  reason : r.terminal = true → r.value.flags.publishedLocally = false → r.value.reason ≠ .none
  calm : NoCritical r.history → r.value.existingNativeFault = false ∧
    (r.value.flags.publishedLocally = true → r.value.flags.restartRequired = false ∧
      (r.terminal = true → r.value.outcome = .publishedNotDelivered))
  retryable : r.value.flags.preflightRetryable = true → Retryable r
  operations : r.value.operationSequence = 0 → idle r.history = true ∧ r.recipeEntered = false
  counted : r.history.countP Event.isOperation = r.value.operationSequence
  recipes : .recipe ∈ r.history ↔ r.recipeEntered = true
  ledger : queuedOf r.history = leftOf r.history ++ r.pendingRecords.drop r.pendingRead
  refused : ∀ v, .published v false ∈ r.history → uint64Max - 2 < r.ownerSequence
  sound : Sound r.history

/-- How far the transitions may be ahead of half the status word. -/
def RecoveryPhase.budget : RecoveryPhase → Nat
  | .disabled | .armed => 2
  | .requested | .qualifying => 4
  | .rejected | .finishSubmitted => 6
  | .finishAccepted => 8
  | .recreating => 10
  | .published => 12
  | .observed => 14
  | .failed => 16

def budget (r : Recovery) : Nat := if r.value.flags.preflightRetryable then 2 else r.value.phase.budget

/-- Every retry publishes at least twice, so that the status word is spent long
before the transitions are. -/
structure Counter (extra : Nat) (r : Recovery) : Prop where
  transitions : 2 * r.value.transitionSequence ≤
    r.ownerSequence + extra + if uint64Max - 2 < r.ownerSequence then 2 else 0
  even : r.ownerSequence % 2 = 0
  started : 2 ≤ r.ownerSequence
  room : r.ownerSequence ≤ uint64Max

theorem budget_le (r : Recovery) : 2 ≤ budget r ∧ budget r ≤ 16 := by
  unfold budget
  split
  · exact ⟨le_rfl, by decide⟩
  · cases r.value.phase <;> decide

theorem budget_of_unretryable {r : Recovery} (h : r.value.flags.preflightRetryable = false) :
    budget r = r.value.phase.budget := by rw [budget, h, if_neg Bool.false_ne_true]

namespace Counter

variable {r r' : Recovery} {extra extra' : Nat}

theorem lt (h : Counter extra r) (he : extra ≤ 16) : r.value.transitionSequence < uint64Max := by
  have htransitions := h.transitions
  have hroom := h.room
  have hmax : uint64Max = 18446744073709551615 := rfl
  split at htransitions <;> omega

theorem step (h : Counter extra r) (hw : r'.ownerSequence = r.ownerSequence)
    (ht : 2 * r'.value.transitionSequence + extra ≤ 2 * r.value.transitionSequence + extra') : Counter extra' r' := by
  have htransitions := h.transitions
  refine ⟨?_, ?_, ?_, ?_⟩
  · rw [hw]
    omega
  · rw [hw]
    exact h.even
  · rw [hw]
    exact h.started
  · rw [hw]
    exact h.room

theorem publish (h : Counter extra r) (ht : r'.value.transitionSequence = r.value.transitionSequence)
    (hw : r'.ownerSequence = r.ownerSequence + 2) (hroom : r.ownerSequence ≤ uint64Max - 2) (he : extra ≤ extra' + 2) :
    Counter extra' r' := by
  have htransitions := h.transitions
  have heven := h.even
  have hmax : uint64Max = 18446744073709551615 := rfl
  rw [if_neg (Nat.not_lt.mpr hroom)] at htransitions
  refine ⟨?_, ?_, ?_, ?_⟩
  · rw [ht, hw]
    omega
  · omega
  · omega
  · omega

end Counter

/-- What the owner thread may do while a native call of a visit runs. -/
structure Kept (r r' : Recovery) : Prop where
  phase : r'.value.phase = r.value.phase
  transition : r'.value.transitionSequence = r.value.transitionSequence
  word : r'.ownerSequence = r.ownerSequence
  operation : r'.value.operationSequence = r.value.operationSequence
  requested : r'.requested = r.requested
  recipe : r'.recipeEntered = r.recipeEntered
  cancel : r'.cancelEntered = r.cancelEntered
  published : r'.value.flags.publishedLocally = r.value.flags.publishedLocally
  coherent : r'.value.flags.metadataCoherent = r.value.flags.metadataCoherent
  pending : r'.pendingRecords = r.pendingRecords
  read : r'.pendingRead = r.pendingRead
  started : r'.controlStarted = r.controlStarted
  prepared : r'.prepared = r.prepared
  pump : r'.pumpDepth = r.pumpDepth
  transport : r'.transport = r.transport
  terminal : r.terminal = true → r'.terminal = true
  restart : r.value.flags.restartRequired = true → r'.value.flags.restartRequired = true
  installed : r.createInstalled = true → r'.createInstalled = true
  callback : r.value.flags.createCallbackObserved = true → r'.value.flags.createCallbackObserved = true
  forward : r.value.flags.createForwardEntered = true → r'.value.flags.createForwardEntered = true
  attempted : r.value.flags.metadataAttempted = true → r'.value.flags.metadataAttempted = true
  retryable : r'.value.flags.preflightRetryable = true → r.value.flags.preflightRetryable = true
  quota : r'.recoveryQuota.active = true → r.recoveryQuota.active = true
  final : r.terminal = true → r.value.flags.preflightRetryable = false → r'.finalPending = r.finalPending
  history : ∃ faults, r'.history = faults ++ r.history ∧ ∀ e ∈ faults, Event.isFault e = true

/-- What no occurrence on the owner thread takes back. -/
structure Mono (r r' : Recovery) : Prop where
  recipe : r.recipeEntered = true → r'.recipeEntered = true
  cancel : r.cancelEntered = true → r'.cancelEntered = true
  published : r.value.flags.publishedLocally = true → r'.value.flags.publishedLocally = true
  restart : r.value.flags.restartRequired = true → r'.value.flags.restartRequired = true
  callback : r.value.flags.createCallbackObserved = true → r'.value.flags.createCallbackObserved = true
  forward : r.value.flags.createForwardEntered = true → r'.value.flags.createForwardEntered = true
  installed : r.createInstalled = true → r'.createInstalled = true
  started : r.controlStarted = true → r'.controlStarted = true
  operation : r.recipeEntered = true → r'.value.operationSequence = r.value.operationSequence
  pump : r'.pumpDepth = r.pumpDepth
  history : r.history <:+ r'.history

variable {r r' r'' : Recovery}

namespace Kept

theorem refl (r : Recovery) : Kept r r where
  phase := rfl
  transition := rfl
  word := rfl
  operation := rfl
  requested := rfl
  recipe := rfl
  cancel := rfl
  published := rfl
  coherent := rfl
  pending := rfl
  read := rfl
  started := rfl
  prepared := rfl
  pump := rfl
  transport := rfl
  terminal := id
  restart := id
  installed := id
  callback := id
  forward := id
  attempted := id
  retryable := id
  quota := id
  final := fun _ _ => rfl
  history := ⟨[], rfl, fun _ he => by cases he⟩

theorem unretryable (h : Kept r r') (hr : r.value.flags.preflightRetryable = false) :
    r'.value.flags.preflightRetryable = false := by
  cases hc : r'.value.flags.preflightRetryable with
  | false => rfl
  | true => exact absurd (h.retryable hc) (by rw [hr]; exact Bool.noConfusion)

theorem trans (h : Kept r r') (h' : Kept r' r'') : Kept r r'' where
  phase := h'.phase.trans h.phase
  transition := h'.transition.trans h.transition
  word := h'.word.trans h.word
  operation := h'.operation.trans h.operation
  requested := h'.requested.trans h.requested
  recipe := h'.recipe.trans h.recipe
  cancel := h'.cancel.trans h.cancel
  published := h'.published.trans h.published
  coherent := h'.coherent.trans h.coherent
  pending := h'.pending.trans h.pending
  read := h'.read.trans h.read
  started := h'.started.trans h.started
  prepared := h'.prepared.trans h.prepared
  pump := h'.pump.trans h.pump
  transport := h'.transport.trans h.transport
  terminal := h'.terminal ∘ h.terminal
  restart := h'.restart ∘ h.restart
  installed := h'.installed ∘ h.installed
  callback := h'.callback ∘ h.callback
  forward := h'.forward ∘ h.forward
  attempted := h'.attempted ∘ h.attempted
  retryable := h.retryable ∘ h'.retryable
  quota := h.quota ∘ h'.quota
  final := fun ht hr => (h'.final (h.terminal ht) (h.unretryable hr)).trans (h.final ht hr)
  history := by
    obtain ⟨faults, he, hf⟩ := h.history
    obtain ⟨faults', he', hf'⟩ := h'.history
    refine ⟨faults' ++ faults, by rw [he', he, List.append_assoc], fun e hm => ?_⟩
    rcases List.mem_append.mp hm with hm | hm
    · exact hf' e hm
    · exact hf e hm

theorem mono (h : Kept r r') : Mono r r' where
  recipe := h.recipe.trans
  cancel := h.cancel.trans
  published := h.published.trans
  restart := h.restart
  callback := h.callback
  forward := h.forward
  installed := h.installed
  started := h.started.trans
  operation := fun _ => h.operation
  pump := h.pump
  history := by
    obtain ⟨faults, he, -⟩ := h.history
    exact ⟨faults, he.symm⟩

theorem budget_le (h : Kept r r') : budget r ≤ budget r' := by
  cases hr : r.value.flags.preflightRetryable with
  | true =>
      rw [budget, hr, if_pos rfl]
      exact (LeechRecovery.budget_le r').1
  | false => rw [budget_of_unretryable hr, budget_of_unretryable (h.unretryable hr), h.phase]

theorem counter (h : Kept r r') (hc : Counter (budget r) r) : Counter (budget r') r' := by
  apply hc.step h.word
  rw [h.transition]
  exact Nat.add_le_add_left h.budget_le _

end Kept

namespace Mono

theorem refl (r : Recovery) : Mono r r where
  recipe := id
  cancel := id
  published := id
  restart := id
  callback := id
  forward := id
  installed := id
  started := id
  operation := fun _ => rfl
  pump := rfl
  history := List.suffix_rfl

theorem trans (h : Mono r r') (h' : Mono r' r'') : Mono r r'' where
  recipe := h'.recipe ∘ h.recipe
  cancel := h'.cancel ∘ h.cancel
  published := h'.published ∘ h.published
  restart := h'.restart ∘ h.restart
  callback := h'.callback ∘ h.callback
  forward := h'.forward ∘ h.forward
  installed := h'.installed ∘ h.installed
  started := h'.started ∘ h.started
  operation := fun hr => (h'.operation (h.recipe hr)).trans (h.operation hr)
  pump := h'.pump.trans h.pump
  history := h.history.trans h'.history

end Mono

end RS2ServerFix.LeechRecovery
