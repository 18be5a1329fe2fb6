import RS2ServerFix.LeechRecovery.Faults

namespace RS2ServerFix.LeechRecovery

open Reporting Lib

variable {r r' r'' : Recovery}

def Event.isRecord : Event → Bool
  | .fault _ _ _ | .queued _ | .discarded _ | .suppressed _ | .recorded _ _ | .published _ _ => true
  | _ => false

/-- What the bookkeeping of a visit leaves as it is: its phase, its records and
the status word may move. -/
structure Moved (r r' : Recovery) : Prop where
  operation : r'.value.operationSequence = r.value.operationSequence
  requested : r'.requested = r.requested
  recipe : r'.recipeEntered = r.recipeEntered
  cancel : r'.cancelEntered = r.cancelEntered
  published : r'.value.flags.publishedLocally = r.value.flags.publishedLocally
  started : r'.controlStarted = r.controlStarted
  prepared : r'.prepared = r.prepared
  pump : r'.pumpDepth = r.pumpDepth
  transport : r'.transport = r.transport
  terminal : r.terminal = true → r'.terminal = true
  restart : r.value.flags.restartRequired = true → r'.value.flags.restartRequired = true
  installed : r.createInstalled = true → r'.createInstalled = true
  callback : r.value.flags.createCallbackObserved = true → r'.value.flags.createCallbackObserved = true
  forward : r.value.flags.createForwardEntered = true → r'.value.flags.createForwardEntered = true
  retryable : r'.value.flags.preflightRetryable = true → r.value.flags.preflightRetryable = true
  quota : r'.recoveryQuota.active = true → r.recoveryQuota.active = true
  history : ∃ events, r'.history = events ++ r.history ∧ ∀ e ∈ events, Event.isRecord e = true

namespace Moved

theorem refl (r : Recovery) : Moved r r where
  operation := rfl
  requested := rfl
  recipe := rfl
  cancel := rfl
  published := rfl
  started := rfl
  prepared := rfl
  pump := rfl
  transport := rfl
  terminal := id
  restart := id
  installed := id
  callback := id
  forward := id
  retryable := id
  quota := id
  history := ⟨[], rfl, fun _ he => by cases he⟩

theorem trans (h : Moved r r') (h' : Moved r' r'') : Moved r r'' where
  operation := h'.operation.trans h.operation
  requested := h'.requested.trans h.requested
  recipe := h'.recipe.trans h.recipe
  cancel := h'.cancel.trans h.cancel
  published := h'.published.trans h.published
  started := h'.started.trans h.started
  prepared := h'.prepared.trans h.prepared
  pump := h'.pump.trans h.pump
  transport := h'.transport.trans h.transport
  terminal := h'.terminal ∘ h.terminal
  restart := h'.restart ∘ h.restart
  installed := h'.installed ∘ h.installed
  callback := h'.callback ∘ h.callback
  forward := h'.forward ∘ h.forward
  retryable := h.retryable ∘ h'.retryable
  quota := h.quota ∘ h'.quota
  history := by
    obtain ⟨events, he, hf⟩ := h.history
    obtain ⟨events', he', hf'⟩ := h'.history
    refine ⟨events' ++ events, by rw [he', he, List.append_assoc], fun e hm => ?_⟩
    rcases List.mem_append.mp hm with hm | hm
    · exact hf' e hm
    · exact hf e hm

theorem mono (h : Moved r r') : Mono r r' where
  recipe := h.recipe.trans
  cancel := h.cancel.trans
  published := h.published.trans
  restart := h.restart
  callback := h.callback
  forward := h.forward
  installed := h.installed
  started := h.started.trans
  operation := fun _ => h.operation
  pump := h.pump
  history := by
    obtain ⟨events, he, -⟩ := h.history
    exact ⟨events, he.symm⟩

theorem unretryable (h : Moved r r') (hr : r.value.flags.preflightRetryable = false) :
    r'.value.flags.preflightRetryable = false := by
  cases hc : r'.value.flags.preflightRetryable with
  | false => rfl
  | true => exact absurd (h.retryable hc) (by rw [hr]; exact Bool.noConfusion)

end Moved

theorem Kept.moved (h : Kept r r') : Moved r r' where
  operation := h.operation
  requested := h.requested
  recipe := h.recipe
  cancel := h.cancel
  published := h.published
  started := h.started
  prepared := h.prepared
  pump := h.pump
  transport := h.transport
  terminal := h.terminal
  restart := h.restart
  installed := h.installed
  callback := h.callback
  forward := h.forward
  retryable := h.retryable
  quota := h.quota
  history := by
    obtain ⟨faults, he, hf⟩ := h.history
    refine ⟨faults, he, fun e hm => ?_⟩
    cases e with
    | fault _ _ _ => rfl
    | _ => cases hf _ hm

namespace Recovery

def excepted (r : Recovery) (code : UInt32) : Recovery :=
  { r with
    exceptionPending := true
    value := { r.value with
      exceptionCode := code
      flags := { r.value.flags with exceptionObserved := true, recipeNormalCompleted := false } } }

theorem fault_excepted (r : Recovery) (code : UInt32) :
    (r.excepted code).fault .nativeException .nativeUnwind true =
      (r.fault .nativeException .nativeUnwind true).excepted code := by
  have hcritical : RecoveryReason.nativeException.critical = true := by decide
  simp only [fault, terminate, hcritical, Bool.or_true, Bool.true_or, Bool.not_true, Bool.and_false, Bool.false_and,
    Bool.and_true, Bool.false_eq_true, if_true, if_false, log, setFlags, decide_true]
  cases ht : r.terminal with
  | true => simp only [excepted, ht, if_true]
  | false => simp only [excepted, ht, Bool.false_eq_true, if_false]

end Recovery

theorem Core.excepted (h : Core r) (hr : r.recipeEntered = true) (hn : ¬NoCritical r.history) (code : UInt32) :
    Core (r.excepted code) := by
  have hretry : r.value.flags.preflightRetryable = true → False := fun hf =>
    by cases (hr.symm.trans (h.retryable hf).recipe : true = false)
  have hv := h.valid
  exact { h with
    valid := { hv with retryable := fun hf => (hretry hf).elim }
    pristine := fun hp => by cases (hr.symm.trans hp : true = false)
    calm := fun hc => absurd hc hn
    retryable := fun hf => (hretry hf).elim }

theorem Core.excepted_fault (h : Core r) (hr : r.recipeEntered = true) (code : UInt32) :
    Core ((r.excepted code).fault .nativeException .nativeUnwind true) := by
  have hk := h.fault_kept .nativeException .nativeUnwind true
  rw [Recovery.fault_excepted]
  apply Core.excepted
  · exact h.fault { named := by decide, unwound := by decide, policy := fun _ => .inr rfl }
  · exact hk.recipe.trans hr
  · intro hn
    obtain ⟨_, _, _, _, _, _, he⟩ := (h.fault_faulted .nativeException .nativeUnwind true).shape
    have := hn .nativeException .nativeUnwind true (by rw [he]; exact List.mem_cons_self ..)
    cases this

theorem Core.excepted_kept (h : Core r) (code : UInt32) :
    Kept r ((r.excepted code).fault .nativeException .nativeUnwind true) := by
  rw [Recovery.fault_excepted]
  exact (h.fault_kept .nativeException .nativeUnwind true).trans { Kept.refl _ with }

/-- A member of the queue: what it holds of the value, before it is numbered. -/
def RecoveryValue.queuedAs (v : RecoveryValue) (event : RecoveryEvent) : RecoveryValue :=
  { v with event := event, recordSequence := 0 }

theorem RecoveryValue.valid_queuedAs {v : RecoveryValue} (h : v.Valid) (event : RecoveryEvent) :
    (v.queuedAs event).Valid := { h with }

structure Queued (r r' : Recovery) (event : RecoveryEvent) (good : Bool) : Prop where
  moved : Moved r r'
  phase : r'.value.phase = r.value.phase
  transition : r'.value.transitionSequence = r.value.transitionSequence
  word : r'.ownerSequence = r.ownerSequence
  coherent : r'.value.flags.metadataCoherent = r.value.flags.metadataCoherent
  same : good = true → r'.value = r.value ∧ r'.terminal = r.terminal
  ended : good = false → r'.terminal = true
  history : ∃ e, r'.history = e :: r.history ∧ (e = .queued (r.value.queuedAs event) ∨ Event.isFault e = true)

theorem Core.queue (h : Core r) (hr : r.value.flags.preflightRetryable = false) (event : RecoveryEvent) :
    Core (r.queue event).1 ∧ Queued r (r.queue event).1 event (r.queue event).2 := by
  unfold Recovery.queue
  split
  · have hk := h.fault_kept .quotaUnavailable .mechanicsFailed true
    refine ⟨h.fault { named := by decide, unwound := by decide, policy := fun _ => .inr rfl }, hk.moved, hk.phase, hk.transition, hk.word, hk.coherent,
      fun hn => (by cases hn), fun _ => h.fault_terminal .., ?_⟩
    obtain ⟨_, _, _, _, _, _, he⟩ := (h.fault_faulted .quotaUnavailable .mechanicsFailed true).shape
    exact ⟨_, by rw [he], .inr rfl⟩
  · constructor
    · refine { h with
        records := ?_
        read := ?_
        pristine := fun hn => { h.pristine hn with }
        calm := fun hn => h.calm (noCritical_of_cons hn)
        retryable := fun hn => by cases (hr.symm.trans hn : false = true)
        counted := ?_
        recipes := ?_
        ledger := ?_
        refused := ?_
        sound := ⟨trivial, h.sound⟩ }
      · intro v hv
        rcases List.mem_append.mp hv with hv | hv
        · exact h.records v hv
        · rw [List.mem_singleton.mp hv]
          exact RecoveryValue.valid_queuedAs h.valid event
      · change r.pendingRead ≤ (r.pendingRecords ++ _).length
        rw [List.length_append]
        exact h.read.trans (Nat.le_add_right _ _)
      · exact (List.countP_cons_of_neg Bool.false_ne_true).trans h.counted
      · exact (List.mem_cons.trans (or_iff_right fun hn : Event.recipe = .queued (r.value.queuedAs event) =>
          by cases hn)).trans h.recipes
      · change (r.value.queuedAs event :: r.history.filterMap Event.queuedRecord).reverse =
          leftOf r.history ++ (r.pendingRecords ++ [r.value.queuedAs event]).drop r.pendingRead
        rw [List.reverse_cons, List.drop_append_of_le_length h.read, ← List.append_assoc]
        exact congrArg (· ++ _) h.ledger
      · intro v hv
        rcases List.mem_cons.mp hv with hv | hv
        · cases hv
        · exact h.refused v hv
    · refine ⟨{ Moved.refl _ with history := ?_ }, rfl, rfl, rfl, rfl, fun _ => ⟨rfl, rfl⟩, fun hn => (by cases hn), _, rfl, .inl rfl⟩
      exact ⟨[_], rfl, fun e he => by rw [List.mem_singleton.mp he]; rfl⟩

theorem Queued.suppressed {event : RecoveryEvent} {good : Bool} (h : Queued r r' event good) {w : RecoveryValue}
    (hw : .suppressed w ∈ r'.history) : .suppressed w ∈ r.history := by
  obtain ⟨e, hh, hkind⟩ := h.history
  rw [hh] at hw
  rcases List.mem_cons.mp hw with hw | hw
  · rcases hkind with hk | hk
    · rw [hk] at hw
      cases hw
    · rw [← hw] at hk
      cases hk
  · exact hw

structure Enters (r : Recovery) (phase : RecoveryPhase) : Prop where
  requested : r.requested = true
  asked : phase.unrequested = false
  early : r.recipeEntered = false → phase.early = true
  recipe : r.recipeEntered = true → phase ≠ .requested
  served : phase = .requested ∨ phase = .qualifying → r.value.operationSequence ≠ 0
  late : phase.late = true → r.cancelEntered = true
  rejected : phase = .rejected → r.value.flags.terminal = true ∧ r.terminal = true ∧ r.cancelEntered = false
  failed : phase = .failed → r.value.flags.restartRequired = true ∨
    (r.cancelEntered = true ∧ r.value.flags.publishedLocally = false)
  published : phase = .published ∨ phase = .observed → r.value.flags.publishedLocally = true

namespace Recovery

def entered (r : Recovery) (phase : RecoveryPhase) (qpc : Nat) : Recovery :=
  { r with
    value := { r.value with phase := phase, transitionSequence := r.value.transitionSequence + 1, qpc := qpc } }

theorem transition_eq {phase : RecoveryPhase} (qpc : Nat) (hp : r.value.phase ≠ phase)
    (ht : r.value.transitionSequence < uint64Max) :
    r.transition phase qpc = (r.entered phase qpc).queue .transition := by
  unfold transition
  rw [if_neg hp, if_neg (Nat.ne_of_lt ht)]
  rfl

end Recovery

theorem Core.entered (h : Core r) {phase : RecoveryPhase} {qpc : Nat} (he : Enters r phase)
    (hr : r.value.flags.preflightRetryable = false) (hq : qpc ≤ qpcMax) : Core (r.entered phase qpc) := by
  have hv := h.valid
  exact { h with
    valid := { hv with qpc := hq, retryable := fun hf => by cases (hr.symm.trans hf : false = true) }
    pristine := fun hn => { h.pristine hn with phase := he.early hn }
    armed := fun hn => ⟨(h.armed hn).1, Nat.le_succ_of_le (h.armed hn).2⟩
    unrequested := fun hn => by cases (he.requested.symm.trans hn : true = false)
    recipe := fun hn => ⟨he.asked, he.recipe hn⟩
    served := he.served
    late := he.late
    rejected := fun hn =>
      ⟨(he.rejected hn).1, (he.rejected hn).2.1, Nat.succ_le_succ (h.armed (h.started he.requested)).2,
        (he.rejected hn).2.2⟩
    failed := he.failed
    published := he.published
    retryable := fun hf => by cases (hr.symm.trans hf : false = true) }

structure Transited (r r' : Recovery) (goal : RecoveryPhase) (good : Bool) : Prop where
  moved : Moved r r'
  phase : r'.value.phase = goal
  transition : r'.value.transitionSequence =
    r.value.transitionSequence + if r.value.phase = goal then 0 else 1
  word : r'.ownerSequence = r.ownerSequence
  coherent : r'.value.flags.metadataCoherent = r.value.flags.metadataCoherent
  same : good = true → r'.value.flags = r.value.flags ∧ r'.value.outcome = r.value.outcome ∧ r'.terminal = r.terminal
  ended : good = false → r'.terminal = true
  suppressed : ∀ w, .suppressed w ∈ r'.history → .suppressed w ∈ r.history

theorem Core.transition (h : Core r) {phase : RecoveryPhase} {qpc : Nat} (he : Enters r phase)
    (hr : r.value.flags.preflightRetryable = false) (hq : qpc ≤ qpcMax)
    (ht : r.value.transitionSequence < uint64Max) :
    Core (r.transition phase qpc).1 ∧ Transited r (r.transition phase qpc).1 phase (r.transition phase qpc).2 := by
  by_cases hp : r.value.phase = phase
  · have heq : r.transition phase qpc = (r, true) := if_pos hp
    rw [heq]
    exact ⟨h, .refl r, hp, by rw [if_pos hp]; rfl, rfl, rfl, fun _ => ⟨rfl, rfl, rfl⟩, fun hn => (by cases hn),
      fun _ => id⟩
  · rw [Recovery.transition_eq qpc hp ht]
    obtain ⟨hcore, hq⟩ := (h.entered he hr hq).queue (r := r.entered phase qpc) hr .transition
    have hmoved : Moved r (r.entered phase qpc) := { Moved.refl _ with }
    refine ⟨hcore, hmoved.trans hq.moved, hq.phase, ?_, hq.word, hq.coherent, fun hg => ?_, hq.ended,
      fun _ => hq.suppressed⟩
    · rw [hq.transition, if_neg hp]
      rfl
    · obtain ⟨hv, hterminal⟩ := hq.same hg
      rw [hv]
      exact ⟨rfl, rfl, hterminal⟩

theorem Transited.counter {phase : RecoveryPhase} {good : Bool} (h : Transited r r' phase good)
    (hr : r.value.flags.preflightRetryable = false) (hc : Counter (budget r) r)
    (hb : r.value.phase ≠ phase → r.value.phase.budget + 2 ≤ phase.budget) : Counter (budget r') r' := by
  apply hc.step h.word
  rw [h.transition, budget_of_unretryable hr, budget_of_unretryable (h.moved.unretryable hr), h.phase]
  split
  · rename_i hp
    rw [hp]
    rfl
  · rename_i hp
    have := hb hp
    omega

theorem Core.ended (h : Core r) (hr : r.value.flags.preflightRetryable = false) :
    Core (r.setFlags fun f => { f with terminal := true }) := by
  have hv := h.valid
  exact { h with
    valid := { hv with retryable := fun hf => by cases (hr.symm.trans hf : false = true) }
    pristine := fun hn =>
      { h.pristine hn with
        flags := by
          change { r.value.flags with terminal := true } = _
          rw [(h.pristine hn).flags]
          rfl }
    rejected := fun hn => ⟨rfl, (h.rejected hn).2⟩
    retryable := fun hf => by cases (hr.symm.trans hf : false = true) }

/-- A terminal attempt may enter its last phase. -/
theorem Core.enters_target (h : Core r) (hq : r.requested = true) (ht : r.terminal = true)
    (hf : r.value.flags.terminal = true) : Enters r r.target := by
  have hpublished : r.recipeEntered = false → r.value.flags.publishedLocally = false := fun hn => by
    rw [(h.pristine hn).flags]
    rfl
  unfold Recovery.target
  split
  · rename_i hc
    obtain ⟨hlocal, -⟩ := Bool.and_eq_true_iff.mp hc
    exact {
      requested := hq
      asked := rfl
      early := fun hn => by cases ((hpublished hn).symm.trans hlocal : false = true)
      recipe := fun _ => by decide
      served := fun hn => by rcases hn with hn | hn <;> cases hn
      late := fun _ => h.adopted hlocal
      rejected := fun hn => by cases hn
      failed := fun hn => by cases hn
      published := fun _ => hlocal }
  · rename_i hc
    split
    · rename_i hor
      refine {
        requested := hq
        asked := rfl
        early := fun _ => rfl
        recipe := fun _ => by decide
        served := fun hn => by rcases hn with hn | hn <;> cases hn
        late := fun hn => by cases hn
        rejected := fun hn => by cases hn
        failed := fun _ => ?_
        published := fun hn => by rcases hn with hn | hn <;> cases hn }
      cases hrestart : r.value.flags.restartRequired with
      | true => exact .inl rfl
      | false =>
          rw [hrestart, Bool.or_false] at hor
          rw [hrestart, Bool.not_false, Bool.and_true] at hc
          exact .inr ⟨hor, Bool.eq_false_iff.mpr hc⟩
    · rename_i hor
      exact {
        requested := hq
        asked := rfl
        early := fun _ => rfl
        recipe := fun _ => by decide
        served := fun hn => by rcases hn with hn | hn <;> cases hn
        late := fun hn => by cases hn
        rejected := fun _ => ⟨hf, ht, (Bool.or_eq_false_iff.mp (Bool.eq_false_iff.mpr hor)).1⟩
        failed := fun hn => by cases hn
        published := fun hn => by rcases hn with hn | hn <;> cases hn }

theorem Core.timingCopy (h : Core r) : Core r.timingCopy := by
  have hv := h.valid
  unfold Recovery.timingCopy
  split
  · rename_i hp
    have hrecipe : r.recipeEntered = true := by
      cases hr : r.recipeEntered with
      | true => rfl
      | false =>
          rw [(h.pristine hr).timing] at hp
          cases hp
    have hretry : r.value.flags.preflightRetryable = true → False := fun hf =>
      by cases (hrecipe.symm.trans (h.retryable hf).recipe : true = false)
    exact { h with
      valid := { hv with
        ticks := h.ticks
        timed := fun _ => h.measured hp
        untimed := fun hn => by cases hn
        retryable := fun hf => (hretry hf).elim }
      pristine := fun hn => by cases (hrecipe.symm.trans hn : true = false)
      retryable := fun hf => (hretry hf).elim }
  · have hflags : r.recipeEntered = false →
        { r.value.flags with callbackOwnTimingValid := false } = r.value.flags := fun hn => by
      rw [(h.pristine hn).flags]
      rfl
    exact { h with
      valid := { hv with
        ticks := Nat.zero_le _
        timed := fun hn => by cases hn
        untimed := fun _ => rfl
        retryable := fun hf => by
          dsimp only
          rw [hflags (h.retryable hf).recipe]
          exact hv.retryable hf }
      pristine := fun hn =>
        { h.pristine hn with
          flags := by
            change { r.value.flags with callbackOwnTimingValid := false } = _
            rw [hflags hn]
            exact (h.pristine hn).flags }
      retryable := fun hf => { h.retryable hf with } }

theorem Recovery.timingCopy_kept (r : Recovery) : Kept r r.timingCopy := by
  unfold Recovery.timingCopy
  split
  · exact { Kept.refl _ with }
  · exact { Kept.refl _ with }

structure Published (r r' : Recovery) (taken : Bool) : Prop where
  moved : Moved r r'
  phase : r'.value.phase = r.value.phase
  transition : r'.value.transitionSequence = r.value.transitionSequence
  coherent : r'.value.flags.metadataCoherent = r.value.flags.metadataCoherent
  pending : r'.pendingRecords = r.pendingRecords
  read : r'.pendingRead = r.pendingRead
  final : r.terminal = true → r.value.flags.preflightRetryable = false → r'.finalPending = r.finalPending
  good : taken = true → r'.ownerSequence = r.ownerSequence + 2 ∧ r.ownerSequence ≤ uint64Max - 2 ∧
    r'.value.flags.preflightRetryable = r.value.flags.preflightRetryable
  refused : taken = false → r'.ownerSequence = r.ownerSequence ∧ uint64Max - 2 < r.ownerSequence
  suppressed : ∀ w, .suppressed w ∈ r'.history → .suppressed w ∈ r.history

/-- What a publication shows is valid and, where the helper takes it for
admissible, rightly so. -/
theorem Core.published_follows (h : Core r) (ht : r.value.transitionSequence < uint64Max) (good : Bool) :
    Event.Follows (.published { r.value with event := .none } good) r.history := by
  have hv : ({ r.value with event := .none } : RecoveryValue).Valid := { h.valid with }
  refine ⟨hv, fun hf => ?_, fun hadmissible => ?_⟩
  · have hre := h.retryable hf
    have hphase := (hv.retryable hf).1
    exact RecoveryValue.helperRetry_payload hv hf hre.operation (h.rejected hphase).2.2.1 ht hre.reason
  · rcases hadmissible with hi | hi
    · have hzero := RecoveryValue.operation_of_helperInitial hi hv.operation
      obtain ⟨hidle, hrecipe⟩ := h.operations hzero
      refine ⟨fun hm => ?_, hidle, RecoveryValue.restart_of_helperInitial hi⟩
      rw [h.recipes, hrecipe] at hm
      cases hm
    · have hre := h.retryable (RecoveryValue.retryable_of_helperRetry hi)
      refine ⟨fun hm => ?_, hre.idle, hre.restart⟩
      rw [h.recipes, hre.recipe] at hm
      cases hm

theorem Recovery.publishRecoveryStatus_eq {extra : Nat} {v : RecoveryValue} (hv : v.Valid) (hc : Counter extra r) :
    r.publishRecoveryStatus v =
      if uint64Max - 2 < r.ownerSequence then (r.log (.published v false), false)
      else ({ r with ownerSequence := r.ownerSequence + 2 }.log (.published v true), true) := by
  have hvalid := RecoveryValue.recoveryPayloadValid_payload hv
  have hstarted : ¬r.ownerSequence < 2 := Nat.not_lt.mpr hc.started
  have heven : ¬r.ownerSequence % 2 = 1 := by rw [hc.even]; decide
  unfold Recovery.publishRecoveryStatus
  simp only [hvalid, hstarted, heven, Bool.not_true, Bool.false_eq_true, false_or]

theorem Core.logged_published (h : Core r) (ht : r.value.transitionSequence < uint64Max) (good : Bool) (word : Nat)
    (hw : r.ownerSequence ≤ word) (hg : good = false → uint64Max - 2 < word) :
    Core ({ r with ownerSequence := word }.log (.published { r.value with event := .none } good)) := by
  have hv := h.valid
  refine { h with
    valid := { hv with }
    pristine := fun hn => { h.pristine hn with }
    calm := fun hn => h.calm (noCritical_of_cons hn)
    retryable := fun hf => { h.retryable hf with }
    counted := (List.countP_cons_of_neg Bool.false_ne_true).trans h.counted
    recipes := ?_
    refused := ?_
    sound := ⟨h.published_follows ht good, h.sound⟩ }
  · exact (List.mem_cons.trans (or_iff_right fun hn : Event.recipe = .published { r.value with event := .none } good =>
      by cases hn)).trans h.recipes
  · intro v hm
    rcases List.mem_cons.mp hm with hm | hm
    · exact hg (Event.published.inj hm).2.symm
    · exact Nat.lt_of_lt_of_le (h.refused v hm) hw

theorem Core.publish {extra : Nat} (h : Core r) (hc : Counter extra r) (he : extra ≤ 16) :
    Core r.publish.1 ∧ Published r r.publish.1 r.publish.2 := by
  have hk := r.timingCopy_kept
  have ht := h.timingCopy
  have hc' : Counter extra r.timingCopy := hc.step hk.word (by rw [hk.transition])
  have hretry : r.timingCopy.value.flags.preflightRetryable = r.value.flags.preflightRetryable := by
    unfold Recovery.timingCopy
    split <;> rfl
  have hfinal : r.timingCopy.finalPending = r.finalPending := by
    unfold Recovery.timingCopy
    split <;> rfl
  have hv : ({ r.timingCopy.value with event := .none } : RecoveryValue).Valid := { ht.valid with }
  have hone : ∀ {t : Recovery} {e : Event}, Event.isRecord e = true → t.history = e :: r.timingCopy.history →
      ∃ events, t.history = events ++ r.timingCopy.history ∧ ∀ e ∈ events, Event.isRecord e = true :=
    fun hi hh => ⟨[_], hh, fun e he => by rw [List.mem_singleton.mp he]; exact hi⟩
  have hpast : ∀ w, .suppressed w ∈ r.timingCopy.history → .suppressed w ∈ r.history := by
    unfold Recovery.timingCopy
    split <;> exact fun _ => id
  have hskip : ∀ {e : Event} {l : List Event} (w), Event.isFault e = true ∨ (∃ v b, e = .published v b) →
      .suppressed w ∈ e :: l → .suppressed w ∈ l := by
    intro e l w hkind hm
    rcases List.mem_cons.mp hm with hm | hm
    · rcases hkind with hk | ⟨v, b, hk⟩
      · rw [← hm] at hk
        cases hk
      · rw [hk] at hm
        cases hm
    · exact hm
  have hdef : r.publish = (fun p : Recovery × Bool =>
      if !p.2 ∧ p.1.prepared then (p.1.fault .recordingUnavailable .recordingUnavailable p.1.cancelEntered, p.2)
      else (p.1, p.2)) (r.timingCopy.publishRecoveryStatus { r.timingCopy.value with event := .none }) := rfl
  rw [hdef, Recovery.publishRecoveryStatus_eq hv hc']
  split
  · rename_i hfull
    have hcore := ht.logged_published (hc'.lt he) false r.timingCopy.ownerSequence le_rfl fun _ => hfull
    have hmoved : Moved r (r.timingCopy.log (.published { r.timingCopy.value with event := .none } false)) :=
      hk.moved.trans { Moved.refl _ with history := hone rfl rfl }
    dsimp only
    split
    · have hf := Core.fault_kept (r := r.timingCopy.log _) hcore .recordingUnavailable .recordingUnavailable
        (r.timingCopy.log (.published { r.timingCopy.value with event := .none } false)).cancelEntered
      refine ⟨hcore.fault { named := by decide, unwound := by decide, policy := .inr }, hmoved.trans hf.moved, ?_, ?_, ?_, ?_, ?_, ?_, fun hn => (by cases hn), ?_, ?_⟩
      · exact hf.phase.trans hk.phase
      · exact hf.transition.trans hk.transition
      · exact hf.coherent.trans hk.coherent
      · exact hf.pending.trans hk.pending
      · exact hf.read.trans hk.read
      · exact fun hterminal hr => (hf.final (hk.terminal hterminal) (hretry.trans hr)).trans hfinal
      · exact fun _ => ⟨hf.word.trans hk.word, hk.word ▸ hfull⟩
      · intro w hw
        obtain ⟨faults, hh, hfaults⟩ := hf.history
        rw [hh, mem_faults hfaults rfl] at hw
        exact hpast w (hskip w (.inr ⟨_, _, rfl⟩) hw)
    · refine ⟨hcore, hmoved, hk.phase, hk.transition, hk.coherent, hk.pending, hk.read, fun _ _ => hfinal,
        fun hn => (by cases hn), fun _ => ⟨hk.word, hk.word ▸ hfull⟩, fun w hw => ?_⟩
      exact hpast w (hskip w (.inr ⟨_, _, rfl⟩) hw)
  · rename_i hroom
    have hcore := ht.logged_published (hc'.lt he) true (r.timingCopy.ownerSequence + 2) (Nat.le_add_right _ _)
      fun hn => by cases hn
    refine ⟨hcore, hk.moved.trans { Moved.refl _ with history := hone rfl rfl }, hk.phase, hk.transition, hk.coherent, hk.pending, hk.read,
      fun _ _ => hfinal, fun _ => ⟨congrArg (· + 2) hk.word, ?_, hretry⟩, fun hn => (by cases hn), fun w hw => ?_⟩
    · exact Nat.le_of_not_lt (hk.word ▸ hroom)
    · exact hpast w (hskip w (.inr ⟨_, _, rfl⟩) hw)

/-- The queue is emptied, each of its records under a mark. -/
def Recovery.dropped (r : Recovery) (mark : RecoveryValue → Event) (final : Bool) : Recovery :=
  { r with
    pendingRead := 0, pendingRecords := [], finalPending := final
    history := (r.pendingRecords.drop r.pendingRead).reverse.map mark ++ r.history }

def GivenUp (mark : RecoveryValue → Event) : Prop := mark = Event.discarded ∨ mark = Event.suppressed

section Dropped

variable {mark : RecoveryValue → Event} {l : List RecoveryValue} {before : List Event}

theorem GivenUp.idle (hm : GivenUp mark) : idle (l.map mark ++ before) = idle before := by
  induction l with
  | nil => rfl
  | cons v rest ih =>
      rcases hm with rfl | rfl
      · exact ih
      · exact ih

theorem GivenUp.countP (hm : GivenUp mark) :
    (l.map mark ++ before).countP Event.isOperation = before.countP Event.isOperation := by
  induction l with
  | nil => rfl
  | cons v rest ih =>
      rcases hm with rfl | rfl
      · exact (List.countP_cons_of_neg Bool.false_ne_true).trans ih
      · exact (List.countP_cons_of_neg Bool.false_ne_true).trans ih

theorem GivenUp.queuedOf (hm : GivenUp mark) : queuedOf (l.map mark ++ before) = queuedOf before := by
  induction l with
  | nil => rfl
  | cons v rest ih =>
      rcases hm with rfl | rfl
      · exact ih
      · exact ih

theorem GivenUp.leftOf (hm : GivenUp mark) : leftOf (l.map mark ++ before) = leftOf before ++ l.reverse := by
  induction l with
  | nil => exact (List.append_nil _).symm
  | cons v rest ih =>
      rw [List.reverse_cons, ← List.append_assoc, ← ih]
      rcases hm with rfl | rfl
      · exact List.reverse_cons
      · exact List.reverse_cons

theorem GivenUp.sound (hm : GivenUp mark) (h : Sound before) : Sound (l.map mark ++ before) := by
  induction l with
  | nil => exact h
  | cons v rest ih =>
      rcases hm with rfl | rfl
      · exact ⟨trivial, ih⟩
      · exact ⟨trivial, ih⟩

theorem GivenUp.mem (hm : GivenUp mark) {e : Event} (he : ∀ v, e ≠ .discarded v ∧ e ≠ .suppressed v) :
    e ∈ l.map mark ++ before ↔ e ∈ before := by
  rw [List.mem_append, or_iff_right]
  rw [List.mem_map]
  rintro ⟨v, -, hv⟩
  rcases hm with rfl | rfl
  · exact (he v).1 hv.symm
  · exact (he v).2 hv.symm

end Dropped

theorem Core.dropped (h : Core r) (hr : r.value.flags.preflightRetryable = false) {mark : RecoveryValue → Event}
    (hm : GivenUp mark) (final : Bool) : Core (r.dropped mark final) := by
  refine { h with
    records := fun v hv => by cases hv
    read := le_rfl
    pristine := fun hn => { h.pristine hn with }
    unrequested := fun hn => ?_
    calm := fun hn => h.calm fun a b c hc => hn a b c (List.mem_append_right _ hc)
    retryable := fun hn => by cases (hr.symm.trans hn : false = true)
    operations := fun hn => ?_
    counted := hm.countP.trans h.counted
    recipes := (hm.mem (e := .recipe) fun v => ⟨fun hn => (by cases hn), fun hn => by cases hn⟩).trans h.recipes
    ledger := ?_
    refused := fun v hv => ?_
    sound := hm.sound h.sound }
  · obtain ⟨hphase, hrecipe, hidle⟩ := h.unrequested hn
    exact ⟨hphase, hrecipe, hm.idle.trans hidle⟩
  · obtain ⟨hidle, hrecipe⟩ := h.operations hn
    exact ⟨hm.idle.trans hidle, hrecipe⟩
  · change queuedOf (_ ++ _) = leftOf (_ ++ _) ++ []
    rw [hm.queuedOf, hm.leftOf, List.reverse_reverse, List.append_nil]
    exact h.ledger
  · exact h.refused v ((hm.mem (e := .published v false) fun w => ⟨fun hn => (by cases hn), fun hn => by cases hn⟩).mp hv)

theorem Recovery.dropped_moved (r : Recovery) {mark : RecoveryValue → Event} (hm : GivenUp mark) (final : Bool) :
    Moved r (r.dropped mark final) := by
  refine { Moved.refl _ with history := ⟨_, rfl, fun e he => ?_⟩ }
  obtain ⟨v, -, rfl⟩ := List.mem_map.mp he
  rcases hm with rfl | rfl
  · rfl
  · rfl

/-- What is left after a visit gave its attempt up. -/
structure Abandoned (r r' : Recovery) : Prop where
  moved : Moved r r'
  phase : r'.value.phase = r.target
  transition : r'.value.transitionSequence = r.value.transitionSequence + if r.value.phase = r.target then 0 else 1
  word : r'.ownerSequence = r.ownerSequence
  coherent : r'.value.flags.metadataCoherent = r.value.flags.metadataCoherent
  suppressed : ∀ w, .suppressed w ∈ r'.history → .suppressed w ∈ r.history

theorem Recovery.abandon_eq (r : Recovery) (ht : r.value.transitionSequence < uint64Max) :
    r.abandon =
      (if r.value.phase = r.target then r.setFlags fun f => { f with terminal := true }
      else (r.setFlags fun f => { f with terminal := true }).entered r.target r.value.qpc).dropped Event.discarded
        (!r.recipeEntered && decide (r.target = .rejected)) := by
  by_cases hp : r.value.phase = r.target
  · simp only [Recovery.abandon, if_pos hp, dropped, setFlags]
  · simp only [Recovery.abandon, if_neg hp, dropped, setFlags, entered, if_neg (Nat.ne_of_lt ht)]

theorem Core.abandon (h : Core r) (hq : r.requested = true) (ht : r.terminal = true)
    (hr : r.value.flags.preflightRetryable = false) (hlt : r.value.transitionSequence < uint64Max) :
    Core r.abandon ∧ Abandoned r r.abandon := by
  have hended := h.ended hr
  have hmark : GivenUp Event.discarded := .inl rfl
  have hcond : Core (if r.value.phase = r.target then r.setFlags fun f => { f with terminal := true }
      else (r.setFlags fun f => { f with terminal := true }).entered r.target r.value.qpc) := by
    split
    · exact hended
    · exact hended.entered (hended.enters_target hq ht rfl) hr h.valid.qpc
  have hpast : ∀ (t : Recovery) (final : Bool) (w), t.history = r.history →
      .suppressed w ∈ (t.dropped Event.discarded final).history → .suppressed w ∈ r.history := by
    intro t final w hh hm
    rcases List.mem_append.mp hm with hm | hm
    · obtain ⟨_, -, hm⟩ := List.mem_map.mp hm
      cases hm
    · rwa [← hh]
  rw [Recovery.abandon_eq r hlt]
  refine ⟨hcond.dropped ?_ hmark _, ?_⟩
  · split
    · exact hr
    · exact hr
  · split
    · rename_i hp
      have hmoved : Moved r (r.setFlags fun f => { f with terminal := true }) := { Moved.refl _ with }
      exact ⟨hmoved.trans (Recovery.dropped_moved _ hmark _), hp, (if_pos hp).symm ▸ rfl, rfl, rfl,
        fun w => hpast _ _ w rfl⟩
    · rename_i hp
      have hmoved : Moved r ((r.setFlags fun f => { f with terminal := true }).entered r.target r.value.qpc) := { Moved.refl _ with }
      exact ⟨hmoved.trans (Recovery.dropped_moved _ hmark _), rfl, (if_neg hp).symm ▸ rfl, rfl, rfl,
        fun w => hpast _ _ w rfl⟩

def Recovery.decided (r : Recovery) (reason : RecoveryReason) (coherent : Bool) : Recovery :=
  { r with value := { r.value with
    reason := reason
    outcome := .publishedNotDelivered
    flags := { r.value.flags with
      terminal := true
      metadataCoherent := r.value.flags.metadataCoherent || coherent
      metadataUnverified := !coherent } } }

theorem Core.recipe_of_late (h : Core r) (hp : r.value.phase.early = false) : r.recipeEntered = true := by
  cases hr : r.recipeEntered with
  | true => rfl
  | false => cases (hp.symm.trans (h.pristine hr).phase : false = true)

theorem Core.requested_of_phase (h : Core r) (hp : r.value.phase.unrequested = false) : r.requested = true := by
  cases hr : r.requested with
  | true => rfl
  | false => cases (hp.symm.trans (h.unrequested hr).1 : false = true)

theorem Core.unretryable_of_phase (h : Core r) (hp : r.value.phase ≠ .rejected) :
    r.value.flags.preflightRetryable = false := by
  cases hr : r.value.flags.preflightRetryable with
  | false => rfl
  | true => exact absurd (h.valid.retryable hr).1 hp

theorem Core.decided (h : Core r) {reason : RecoveryReason} (hp : r.value.phase = .published)
    (hcoherent : r.value.flags.metadataCoherent = false) (hreason : reason ≠ .publishedIdentityChanged)
    (coherent : Bool) : Core (r.decided reason coherent) := by
  have hv := h.valid
  have hpub : r.value.flags.publishedLocally = true := h.published (.inl hp)
  have hrecipe : r.recipeEntered = true := h.recipe_of_late (by rw [hp]; rfl)
  have hr : r.value.flags.preflightRetryable = false := h.unretryable_of_phase (by rw [hp]; decide)
  refine { h with
    valid := { hv with
      coherent := fun _ => hpub
      unverified := fun _ => hpub
      exclusive := ?_
      retryable := fun hf => by cases (hr.symm.trans hf : false = true) }
    pristine := fun hn => by cases (hrecipe.symm.trans hn : true = false)
    rejected := fun hn => by cases (hp.symm.trans hn : RecoveryPhase.published = .rejected)
    reason := fun _ hn => by cases (hpub.symm.trans hn : true = false)
    calm := ?_
    retryable := fun hf => by cases (hr.symm.trans hf : false = true) }
  · intro hn
    change (r.value.flags.metadataCoherent || coherent) = true at hn
    rw [hcoherent, Bool.false_or] at hn
    change (!coherent) = false
    rw [hn]
    rfl
  · intro hn
    obtain ⟨hexisting, hlocal⟩ := h.calm hn
    refine ⟨?_, fun _ => ⟨(hlocal hpub).1, fun _ => rfl⟩⟩
    simp only [RecoveryValue.existingNativeFault, Bool.or_eq_false_iff, decide_eq_false_iff_not] at hexisting ⊢
    exact ⟨⟨hexisting.1.1, hreason⟩, fun hn => by cases (hn : RecoveryOutcome.publishedNotDelivered = .nativeUnwind)⟩

structure Completed (r r' : Recovery) : Prop where
  moved : Moved r r'
  phase : r'.value.phase = .observed
  transition : r'.value.transitionSequence = r.value.transitionSequence + 1
  word : r'.ownerSequence = r.ownerSequence
  terminal : r'.terminal = true
  suppressed : ∀ w, .suppressed w ∈ r'.history → .suppressed w ∈ r.history

theorem Core.completeMetadata (h : Core r) {reason : RecoveryReason} {now : Nat} (hp : r.value.phase = .published)
    (hcoherent : r.value.flags.metadataCoherent = false) (hreason : reason ≠ .publishedIdentityChanged)
    (coherent : Bool) (hq : now ≤ qpcMax) (ht : r.value.transitionSequence < uint64Max) :
    Core (completeMetadata r now reason coherent) ∧ Completed r (completeMetadata r now reason coherent) := by
  have hd := h.decided hp hcoherent hreason coherent
  have hr : r.value.flags.preflightRetryable = false := h.unretryable_of_phase (by rw [hp]; decide)
  have hpub : r.value.flags.publishedLocally = true := h.published (.inl hp)
  have henters : Enters (r.decided reason coherent) .observed := {
    requested := h.requested_of_phase (by rw [hp]; rfl)
    asked := rfl
    early := fun hn => by cases ((h.recipe_of_late (by rw [hp]; rfl)).symm.trans hn : true = false)
    recipe := fun _ => by decide
    served := fun hn => by rcases hn with hn | hn <;> cases hn
    late := fun _ => h.adopted hpub
    rejected := fun hn => by cases hn
    failed := fun hn => by cases hn
    published := fun _ => hpub }
  obtain ⟨hc, hm⟩ := hd.transition henters hr hq ht
  have hlocal := hm.moved.published.trans hpub
  have hout : NoCritical ((r.decided reason coherent).transition .observed now).1.history →
      ((r.decided reason coherent).transition .observed now).1.value.outcome = .publishedNotDelivered := by
    intro hn
    cases hg : ((r.decided reason coherent).transition .observed now).2 with
    | true => exact (hm.same hg).2.1
    | false => exact ((hc.calm hn).2 hlocal).2 (hm.ended hg)
  have hretry := hm.moved.unretryable hr
  refine ⟨{ hc with
    pristine := fun hn => { hc.pristine hn with }
    rejected := fun hn => by cases (hm.phase.symm.trans hn : RecoveryPhase.observed = .rejected)
    restart := fun _ => rfl
    policy := fun _ _ hn => by cases (hlocal.symm.trans hn : true = false)
    reason := fun _ hn => by cases (hlocal.symm.trans hn : true = false)
    calm := fun hn => ⟨(hc.calm hn).1, fun hl => ⟨((hc.calm hn).2 hl).1, fun _ => hout hn⟩⟩
    retryable := fun hf => by cases (hretry.symm.trans hf : false = true) }, ?_⟩
  have hdone : Moved ((r.decided reason coherent).transition .observed now).1
      (LeechRecovery.completeMetadata r now reason coherent) := { Moved.refl _ with terminal := fun _ => rfl }
  have hfirst : Moved r (r.decided reason coherent) := { Moved.refl _ with }
  refine ⟨(hfirst.trans hm.moved).trans hdone, hm.phase, ?_, hm.word, rfl, hm.suppressed⟩
  have hne : ¬(r.decided reason coherent).value.phase = .observed := fun hn =>
    by cases (hp.symm.trans hn : RecoveryPhase.published = .observed)
  have htransition := hm.transition
  rw [if_neg hne] at htransition
  exact htransition

end RS2ServerFix.LeechRecovery
