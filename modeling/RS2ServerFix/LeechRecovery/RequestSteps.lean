import RS2ServerFix.LeechRecovery.PhaseSteps

namespace RS2ServerFix.LeechRecovery

open Reporting Lib Act

variable {r r' : Recovery}

theorem Ended.kept (h : Ended r) (hc : Core r') (hk : Kept r r') : Ended r' :=
  ⟨hc, hk.counter h.counter, hk.rest h.rest, hk.pump.trans h.pump⟩

theorem ended : Context Ended Kept := ⟨fun _ h => h.core, fun _ _ h => h.kept, fun _ _ => id⟩

/-- What a due visit finds beside it. -/
structure Ready (r : Recovery) : Prop where
  suppressed : ∀ w, .suppressed w ∈ r.history → r.recipeEntered = true
  started : r.controlStarted = true

theorem Kept.ready (h : Kept r r') (hr : Ready r) : Ready r' :=
  ⟨fun w hw => h.recipe.trans (hr.suppressed w (h.suppressed.mp hw)), h.started.trans hr.started⟩

def Due (r : Recovery) : Prop := Ended r ∧ Ready r

theorem due : Context Due Kept := ended.and fun _ _ hk => hk.ready

def Begun (r : Recovery) : Prop := (Arrived r ∧ Free r) ∧ Ready r

theorem begun : Context Begun Kept := by
  have hc : Context (fun r => Arrived r ∧ Free r) Kept :=
    Context.and ⟨fun _ h => h.core, fun _ _ h => h.kept, fun _ _ => id⟩ fun _ _ hk => hk.unreserved
  exact hc.and fun _ _ hk => hk.ready

theorem Due.begun (h : Due r) (hr : r.value.flags.preflightRetryable = false) : Begun r := by
  refine ⟨⟨?_, h.1.rest.quota⟩, h.2⟩
  exact {
    core := h.1.core
    counter := h.1.counter
    settled := h.1.rest.settled
    coherent := h.1.rest.coherent
    pump := h.1.pump
    unretryable := hr
    quota := fun hn ha => by cases ((h.1.rest.quota hn).symm.trans ha : false = true)
    suppressed := h.2.suppressed }

theorem Begun.ended (h : Begun r) : Ended r where
  core := h.1.1.core
  counter := h.1.1.counter
  rest := {
    settled := h.1.1.settled
    coherent := h.1.1.coherent
    quota := h.1.2
    suppressed := fun w hw => .inl (h.1.1.suppressed w hw) }
  pump := h.1.1.pump

theorem Begun.pause (h : Begun r) (hr : r.requested = true) : Pause r := ⟨⟨h.1.1, hr⟩, h.1.2⟩

def Recovery.unserved (r : Recovery) : Recovery :=
  { r with
    finalPending := true
    value := { r.value with
      flags := { r.value.flags with preflightRetryable := false }, reason := .controlWorkerUnavailable } }

theorem Core.unserved (h : Core r) (hr : r.value.flags.preflightRetryable = true) : Core r.unserved := by
  have hv := h.valid
  have hre := h.retryable hr
  exact { h with
    valid := { hv with retryable := fun hn => by cases hn }
    pristine := fun hn =>
      { h.pristine hn with
        flags := by
          change { r.value.flags with preflightRetryable := false } = _
          rw [(h.pristine hn).flags]
          rfl }
    reason := fun _ _ hn => by cases hn
    calm := fun hn => by
      obtain ⟨hexisting, hlocal⟩ := h.calm hn
      refine ⟨?_, hlocal⟩
      simp only [RecoveryValue.existingNativeFault, Bool.or_eq_false_iff, decide_eq_false_iff_not] at hexisting ⊢
      exact ⟨⟨hexisting.1.1, fun hn => by cases hn⟩, hexisting.2⟩
    retryable := fun hn => by cases hn }

def Recovery.rearmed (r : Recovery) : Recovery :=
  { r with
    value := r.value.rearmed
    requested := false, terminal := false, finalPending := false, qualifyingRecordSequence := 0 }

theorem Core.rearmed (h : Core r) (hr : r.value.flags.preflightRetryable = true) : Core r.rearmed := by
  have hre := h.retryable hr
  have hp := h.pristine hre.recipe
  have hstarted := h.started hre.requested
  have hphase := (h.valid.retryable hr).1
  exact { h with
    valid := {
      operation := h.valid.operation
      qpc := Nat.zero_le _
      finishDeadline := Nat.zero_le _
      overallDeadline := Nat.zero_le _
      ticks := Nat.zero_le _
      timed := fun hn => by cases hn
      untimed := fun _ => rfl
      completed := fun hn => by cases hn
      forwarded := fun hn => by cases hn
      attempted := fun hn => by cases hn
      coherent := fun hn => by cases hn
      unverified := fun hn => by cases hn
      exclusive := fun hn => by cases hn
      dirtyAfter := fun hn => by cases hn
      console := fun hn => by cases hn
      retryable := fun hn => by cases hn }
    measured := fun hn => by cases (hp.timing.symm.trans hn : PrimaryCallbackTimingPhase.notEntered = .completeValid)
    updated := fun hn => by cases (hp.updated.symm.trans hn : false = true)
    pristine := fun _ => {
      phase := rfl
      flags := rfl
      stage := rfl
      resource := rfl
      exceptionCode := rfl
      requestId := rfl
      callbackId := rfl
      callbackResult := rfl
      apiReturnedId := rfl
      timing := hp.timing
      cancelEntered := hp.cancelEntered
      createInstalled := hp.createInstalled
      updated := hp.updated
      bindEntered := hp.bindEntered
      bindCompleted := hp.bindCompleted
      releaseAttempted := hp.releaseAttempted }
    armed := fun _ => ⟨rfl, (h.armed hstarted).2⟩
    started := fun hn => by cases hn
    unrequested := fun _ => ⟨rfl, hre.recipe, hre.idle⟩
    recipe := fun hn => by cases (hre.recipe.symm.trans hn : false = true)
    served := fun hn => by rcases hn with hn | hn <;> cases hn
    late := fun hn => by cases hn
    rejected := fun hn => by cases hn
    failed := fun hn => by cases hn
    published := fun hn => by rcases hn with hn | hn <;> cases hn
    adopted := fun hn => by cases hn
    restart := fun hn => by cases hn
    policy := fun _ hn => by cases hn
    reason := fun hn => by cases hn
    calm := fun _ => ⟨rfl, fun hn => by cases hn⟩
    retryable := fun hn => by cases hn }

theorem foreignFault_ends (s : Recovery) :
    foreignFault.Ends (fun _ t => ∃ seen, t = { s with foreignFault := seen }) (fun _ => False) s := by
  apply (holds_still _).bindEnds
  intro seen
  exact ⟨_, rfl⟩

theorem readLatchedControl_ends (s : Recovery) :
    readLatchedControl.Ends (fun _ t => ∃ latched, t = { s with latched := latched }) (fun _ => False) s := by
  apply Ends.bind
  apply (Still.query _).bindEnds
  intro (claim : RequestOrigin)
  apply Ends.bind
  apply Ends.modify
  apply Ends.getBind
  apply Ends.done
  apply Ends.getBind
  generalize (if s.latched = .none then claim else s.latched) = selected
  cases selected with
  | none => exact ⟨_, rfl⟩
  | pipe => exact ⟨_, rfl⟩
  | serverAdminConsole =>
      apply (holds_still _).bindEnds
      exact fun _ => ⟨_, rfl⟩

/-- A released rejection has the least budget there is. -/
theorem Due.counter {s t : Recovery} (hs : Due s) (hr : s.value.flags.preflightRetryable = true)
    (hw : t.ownerSequence = s.ownerSequence) (ht : t.value.transitionSequence = s.value.transitionSequence) :
    Counter (budget t) t := by
  apply hs.1.counter.step hw
  rw [ht, budget, hr, if_pos rfl]
  exact Nat.add_le_add_left (budget_le t).1 _

theorem Due.foreign {s : Recovery} (hs : Due s) (hr : s.value.flags.preflightRetryable = true) :
    Ending (s.fault .callbackInvalid .mechanicsFailed true) ∧ Mono s (s.fault .callbackInvalid .mechanicsFailed true) := by
  have hf : (fault .callbackInvalid .mechanicsFailed true).StaysAt Due Kept s :=
    due.fault_at hs { named := by decide, unwound := by decide, policy := fun _ => .inr rfl }
  have hclear : (s.fault .callbackInvalid .mechanicsFailed true).value.flags.preflightRetryable = false := by
    apply Bool.eq_false_iff.mpr
    intro hn
    cases ((hs.1.core.fault_faulted .callbackInvalid .mechanicsFailed true).retryable hn).2.1
  have hpause := (hf.1.begun hclear).pause (hf.2.requested.trans (hs.1.core.retryable hr).requested)
  exact ⟨⟨hpause.1, hs.1.core.fault_terminal ..⟩, hf.2.mono⟩

theorem Due.unserved {s : Recovery} (hs : Due s) (hr : s.value.flags.preflightRetryable = true) :
    Ending s.unserved ∧ Mono s s.unserved := by
  have hre := hs.1.core.retryable hr
  have hdue : Due s.unserved :=
    ⟨⟨hs.1.core.unserved hr, hs.counter hr rfl rfl, { hs.1.rest with
      suppressed := fun w hw => .inl (hs.2.suppressed w hw) }, hs.1.pump⟩, hs.2.suppressed, hs.2.started⟩
  exact ⟨⟨((hdue.begun rfl).pause hre.requested).1, hre.terminal⟩, { Mono.refl _ with }⟩

theorem Due.rearmed {s : Recovery} (hs : Due s) (hr : s.value.flags.preflightRetryable = true) :
    Begun s.rearmed ∧ Mono s s.rearmed := by
  have hre := hs.1.core.retryable hr
  have hdue : Due s.rearmed := by
    refine ⟨⟨hs.1.core.rearmed hr, hs.counter hr rfl rfl, ?_, hs.1.pump⟩, hs.2.suppressed, hs.2.started⟩
    exact {
      settled := fun hn => by cases (hre.recipe.symm.trans hn : false = true)
      coherent := fun hn => by cases hn
      quota := hs.1.rest.quota
      suppressed := fun w hw => .inl (hs.2.suppressed w hw) }
  have hpristine := hs.1.core.pristine hre.recipe
  have hflag : ∀ f : Flags → Bool, f { Flags.zero with
      permissionEnabled := s.value.flags.permissionEnabled
      restartRequired := s.value.flags.restartRequired
      terminal := s.value.flags.terminal
      consoleRequested := s.value.flags.consoleRequested
      preflightRetryable := s.value.flags.preflightRetryable } = false → f s.value.flags = true → False := by
    intro f hf hn
    rw [hpristine.flags, hf] at hn
    cases hn
  refine ⟨hdue.begun rfl, ?_⟩
  exact { Mono.refl _ with
    published := fun hn => (hflag Flags.publishedLocally rfl hn).elim
    restart := fun hn => by cases (hre.restart.symm.trans hn : false = true)
    callback := fun hn => (hflag Flags.createCallbackObserved rfl hn).elim
    forward := fun hn => (hflag Flags.createForwardEntered rfl hn).elim }

/-- A rejection that may be asked for again ends its visit, or starts anew. -/
theorem serviceRetryable_ends {s : Recovery} (hs : Due s) (hr : s.value.flags.preflightRetryable = true) :
    serviceRetryable.Ends (fun ended t => Mono s t ∧ (ended ≠ none → Ended t) ∧ (ended = none → Begun t))
      (fun t => Ended t ∧ Mono s t) s := by
  have hclosed : ∀ {t : Recovery}, Ending t → Mono s t → Ends (do
      finishTerminal
      pure (some true) : Rec (Option Bool))
      (fun ended u => Mono s u ∧ (ended ≠ none → Ended u) ∧ (ended = none → Begun u))
      (fun u => Ended u ∧ Mono s u) t := by
    intro t ht hm
    apply Ends.bind
    exact ((finishTerminal_closes ht).after hm).mono (fun _ u hu => ⟨hu.2, fun _ => hu.1, fun hn => by cases hn⟩)
      fun _ => id
  apply Ends.bind
  refine (foreignFault_ends s).mono (fun foreign t ht => ?_) fun _ => False.elim
  obtain ⟨seen, rfl⟩ := ht
  have htouch : Touched s { s with foreignFault := seen } := { Touched.refl _ with }
  have hs' := due.kept _ _ hs (htouch.core hs.1.core) htouch.kept
  apply Ends.ite
  · intro _
    obtain ⟨hending, hm⟩ := hs'.foreign hr
    apply Ends.bind
    apply Ends.modify
    exact hclosed hending (htouch.kept.mono.trans hm)
  · intro _
    apply (holds_still _).bindEnds
    intro serving
    apply Ends.ite
    · intro _
      obtain ⟨hending, hm⟩ := hs'.unserved hr
      apply Ends.bind
      apply Ends.modify
      apply Ends.bind
      apply Ends.modify
      exact hclosed hending (htouch.kept.mono.trans hm)
    · intro _
      apply Ends.bind
      refine (readLatchedControl_ends _).mono (fun next t ht => ?_) fun _ => False.elim
      obtain ⟨latched, rfl⟩ := ht
      have hlatch : Touched s { s with foreignFault := seen, latched := latched } := { Touched.refl _ with }
      have ht := due.kept _ _ hs (hlatch.core hs.1.core) hlatch.kept
      cases next with
      | none => exact ⟨hlatch.kept.mono, fun _ => ht.1, fun hn => by cases hn⟩
      | some origin =>
          obtain ⟨hbegun, hm⟩ := ht.rearmed hr
          apply Ends.bind
          apply Ends.modify
          exact ⟨hlatch.kept.mono.trans hm, fun hn => absurd rfl hn, fun _ => hbegun⟩

theorem Begun.asked (h : Begun r) :
    Pause { r with requested := true } := by
  have hc := h.1.1.core
  refine ⟨⟨?_, rfl⟩, h.1.2⟩
  exact { h.1.1 with
    core := { hc with
      pristine := fun hn => { hc.pristine hn with }
      started := fun _ => h.2.started
      unrequested := fun hn => by cases hn
      retryable := fun hn => by cases (h.1.1.unretryable.symm.trans hn : false = true) }
    counter := h.1.1.counter.step rfl le_rfl }

def Recovery.operated (r : Recovery) (epoch lifecycle : UInt64) (origin : RequestOrigin) : Recovery :=
  { r with value := { r.value with
      operationSequence := r.value.operationSequence + 1
      sourceEpoch := epoch
      sdkEpoch := lifecycle
      flags := { r.value.flags with
        consoleRequested := r.value.flags.consoleRequested || decide (origin = RequestOrigin.serverAdminConsole) } }
  }.log (.operation origin)

theorem Core.operated (h : Core r) (hq : r.requested = true) (hr : r.value.flags.preflightRetryable = false)
    (hp : r.value.phase.unrequested = true) (hidle : idle r.history = true)
    (hmax : r.value.operationSequence < uint64Max) (epoch lifecycle : UInt64) (origin : RequestOrigin) :
    Core (r.operated epoch lifecycle origin) := by
  have hv := h.valid
  have hrecipe : r.recipeEntered = false := by
    apply Bool.eq_false_iff.mpr
    intro hn
    cases (hp.symm.trans (h.recipe hn).1 : true = false)
  have hno : .recipe ∉ r.history := by
    intro hn
    cases (hrecipe.symm.trans (h.recipes.mp hn) : false = true)
  exact { h with
    valid := { hv with
      operation := hmax
      console := fun _ => Nat.succ_ne_zero _
      retryable := fun hn => by cases (hr.symm.trans hn : false = true) }
    pristine := fun hn =>
      { h.pristine hn with
        flags := by
          change { r.value.flags with
            consoleRequested := r.value.flags.consoleRequested || decide (origin = RequestOrigin.serverAdminConsole) } = _
          rw [(h.pristine hn).flags]
          rfl }
    unrequested := fun hn => by cases (hq.symm.trans hn : true = false)
    served := fun _ => Nat.succ_ne_zero _
    calm := fun hn => h.calm (noCritical_of_cons hn)
    retryable := fun hn => by cases (hr.symm.trans hn : false = true)
    operations := fun hn => absurd hn (Nat.succ_ne_zero _)
    counted := (List.countP_cons_of_pos rfl).trans (congrArg Nat.succ h.counted)
    recipes := (List.mem_cons.trans (or_iff_right fun hn : Event.recipe = .operation origin => by cases hn)).trans
      h.recipes
    refused := fun v hv => h.refused v ((List.mem_cons.mp hv).resolve_left fun hn => by cases hn)
    sound := ⟨⟨hno, hidle⟩, h.sound⟩ }

theorem Pause.requests {s : Recovery} (hs : Pause s) (hr : s.recipeEntered = false)
    (hp : s.value.phase.unrequested = true) (ho : s.value.operationSequence ≠ 0) {now : Nat} (hnow : now ≤ qpcMax) :
    Pause (s.transition .requested now).1 ∧ Mono s (s.transition .requested now).1 := by
  have henters : Enters s .requested := {
    requested := hs.1.2
    asked := rfl
    early := fun _ => rfl
    recipe := fun hn => by cases (hr.symm.trans hn : false = true)
    served := fun _ => ho
    late := fun hn => by cases hn
    rejected := fun hn => by cases hn
    failed := fun hn => by cases hn
    published := fun hn => by rcases hn with hn | hn <;> cases hn }
  obtain ⟨hc, ht⟩ := hs.1.1.core.transition henters hs.1.1.unretryable hnow (hs.1.1.counter.lt (budget_le s).2)
  have hbudget : s.value.phase.budget + 2 ≤ RecoveryPhase.requested.budget := by
    cases hq : s.value.phase with
    | disabled | armed => decide
    | _ =>
        rw [hq] at hp
        cases hp
  have hcount := ht.counter hs.1.1.unretryable hs.1.1.counter fun _ => hbudget
  have hm := ht.moved
  refine ⟨⟨hs.1.moved hc hcount hm ?_ ?_ fun w hw => .inl (ht.suppressed w hw), hm.unreserved hs.2⟩, hm.mono⟩
  · exact fun hn => by cases ((hm.recipe.trans hr).symm.trans hn : false = true)
  · rw [ht.coherent]
    exact hm.terminal ∘ hs.1.1.coherent

theorem Pause.fault_stays {s : Recovery} (hs : Pause s) (hr : s.recipeEntered = false) {reason : RecoveryReason}
    (hn : reason ≠ .none) : (fault reason .mechanicsFailed false).StaysAt Pause Mono s := by
  apply pause.fault_at hs
  refine { named := hn, unwound := .inr (by decide), policy := fun hc => ?_ }
  cases ((hs.1.1.core.pristine hr).cancelEntered.symm.trans hc : false = true)

theorem Pause.operated {s : Recovery} (hs : Pause s) (hp : s.value.phase.unrequested = true)
    (hr : s.recipeEntered = false) (hidle : idle s.history = true) (hmax : s.value.operationSequence < uint64Max)
    (epoch lifecycle : UInt64) (origin : RequestOrigin) :
    Pause (s.operated epoch lifecycle origin) ∧ Mono s (s.operated epoch lifecycle origin) := by
  have hcore := hs.1.1.core.operated hs.1.2 hs.1.1.unretryable hp hidle hmax epoch lifecycle origin
  refine ⟨⟨⟨{ hs.1.1 with core := hcore, counter := ?_, suppressed := fun w hw => ?_ }, hs.1.2⟩, hs.2⟩, ?_⟩
  · exact hs.1.1.counter.step rfl le_rfl
  · exact hs.1.1.suppressed w ((List.mem_cons.mp hw).resolve_left fun hn => by cases hn)
  · exact { Mono.refl _ with
      operation := fun hn => by cases (hr.symm.trans hn : false = true)
      history := List.suffix_cons .. }

/-- The deadlines that the source admits do not pass the end of the clock. -/
theorem deadlines_fit {frequency : Int} {now : Nat} (h : ¬(frequency ≤ 0 ∨ qpcMax / kAttemptSeconds < frequency.toNat ∨
      qpcMax - frequency.toNat * kAttemptSeconds < now)) :
    now + frequency.toNat * kAttemptSeconds ≤ qpcMax ∧ now + frequency.toNat * kFinishSeconds ≤ qpcMax := by
  have hno : ¬(frequency ≤ 0 ∨ qpcMax / 120 < frequency.toNat ∨ qpcMax - frequency.toNat * 120 < now) := h
  change now + frequency.toNat * 120 ≤ qpcMax ∧ now + frequency.toNat * 60 ≤ qpcMax
  have hmul : frequency.toNat * 120 ≤ qpcMax := by
    have hdiv := Nat.div_mul_le_self qpcMax 120
    omega
  omega

def Recovery.timed (r : Recovery) (now : Nat) : Recovery :=
  { r with value := { r.value with
      overallDeadlineQpc := now + r.frequency.toNat * kAttemptSeconds
      finishDeadlineQpc := now + r.frequency.toNat * kFinishSeconds } }

theorem Pause.timed {s : Recovery} (hs : Pause s) {now : Nat}
    (hfit : now + s.frequency.toNat * kAttemptSeconds ≤ qpcMax ∧ now + s.frequency.toNat * kFinishSeconds ≤ qpcMax) :
    Pause (s.timed now) ∧ Mono s (s.timed now) := by
  have htouch : Touched s (s.timed now) :=
    { Touched.refl _ with finishDeadline := fun _ => hfit.2, overallDeadline := fun _ => hfit.1 }
  exact ⟨pause.kept _ _ hs (htouch.core hs.1.1.core) htouch.kept, htouch.kept.mono⟩

theorem serviceRequest_ends {s : Recovery} (hs : Begun s) (hq : s.requested = false) {now : Nat} (hnow : now ≤ qpcMax) :
    (serviceRequest now).Ends (fun finished t => Mono s t ∧ (finished = true → Ended t) ∧ (finished = false → Pause t))
      (fun t => Ended t ∧ Mono s t) s := by
  apply Ends.bind
  refine (readLatchedControl_ends s).mono (fun request t ht => ?_) fun _ => False.elim
  obtain ⟨latched, rfl⟩ := ht
  have htouch : Touched s { s with latched := latched } := { Touched.refl _ with }
  have hb := begun.kept _ _ hs (htouch.core hs.1.1.core) htouch.kept
  obtain ⟨hphase, hrecipe, hidle⟩ := hb.1.1.core.unrequested hq
  have hpause := hb.asked
  have hmono : Mono s { s with latched := latched, requested := true } := { Mono.refl _ with }
  have hinvalid := hpause.fault_stays hrecipe (show RecoveryReason.invalidRequest ≠ .none by decide)
  apply Ends.bind
  apply Ends.modify
  cases request with
  | none => exact ⟨hmono.trans hinvalid.2, fun hn => (by cases hn), fun _ => hinvalid.1⟩
  | some origin =>
      apply Ends.getBind
      apply Ends.ite
      · intro _
        apply Ends.bind
        apply Ends.modify
        apply Ends.bind
        exact ((finishTerminal_closes ⟨hinvalid.1.1, hpause.1.1.core.fault_terminal ..⟩).after
          (hmono.trans hinvalid.2)).mono (fun _ t ht => ⟨ht.2, fun _ => ht.1, fun hn => by cases hn⟩) fun _ => id
      · intro hmax
        apply (Still.query _).bindEnds
        intro epoch
        apply (Still.query _).bindEnds
        intro lifecycle
        have hlt : s.value.operationSequence < uint64Max := Nat.lt_of_le_of_ne hb.1.1.core.valid.operation hmax
        obtain ⟨hserved, hstep⟩ := hpause.operated hphase hrecipe hidle hlt epoch lifecycle origin
        apply Ends.bind
        apply Ends.modify
        apply Ends.getBind
        apply Ends.ite
        · intro _
          have hclock := hserved.fault_stays hrecipe (show RecoveryReason.clockFault ≠ .none by decide)
          exact ⟨(hmono.trans hstep).trans hclock.2, fun hn => (by cases hn), fun _ => hclock.1⟩
        · intro hclock
          obtain ⟨htimed, hset⟩ := hserved.timed (deadlines_fit hclock)
          have hgo := htimed.requests hrecipe hphase (Nat.succ_ne_zero _) hnow
          apply Ends.bind
          apply Ends.modify
          apply Ends.bind
          apply Ends.bind
          apply Ends.get
          apply Ends.bind
          apply Ends.modify
          apply Ends.done
          exact ⟨((hmono.trans hstep).trans hset).trans hgo.2, fun hn => (by cases hn), fun _ => hgo.1⟩

section Normal

variable {inner : Occurrence → Rec Unit}

theorem serviceAsked_closes (h : Inner inner) (capture : Capture) {s : Recovery} (hs : Begun s) {now : Nat}
    (hnow : now ≤ qpcMax) (requested : Bool) (hq : s.requested = requested) : Closes (do
      let finished ← if !requested then serviceRequest now else pure false
      if finished then pure true else serviceAttempt inner capture now : Rec Bool) s := by
  cases requested with
  | true => exact serviceAttempt_closes h capture (hs.pause hq) hnow
  | false =>
      apply Ends.bind
      refine (serviceRequest_ends hs hq hnow).mono (fun finished t ht => ?_) fun _ => id
      obtain ⟨hm, hover, hpause⟩ := ht
      apply Ends.ite
      · exact fun ho => ⟨hover ho, hm⟩
      · exact fun ho => (serviceAttempt_closes h capture (hpause (Bool.eq_false_iff.mpr ho)) hnow).after hm

theorem serviceNormal_closes (h : Inner inner) (capture : Capture) {s : Recovery} (hs : Due s) {now : Nat}
    (hnow : now ≤ qpcMax) : Closes (serviceNormal inner capture now) s := by
  have hforeign : ∀ (requested : Bool) t, Begun t → t.requested = requested → Mono s t → Ends (do
      let foreign ← foreignFault
      if foreign then fault .callbackInvalid .mechanicsFailed true
      let finished ← if !requested then serviceRequest now else pure false
      if finished then pure true else serviceAttempt inner capture now : Rec Bool)
      (fun _ u => Ended u ∧ Mono s u) (fun u => Ended u ∧ Mono s u) t := by
    intro requested t ht hq hm
    apply StaysAt.bindEnds (begun.frame foreignFault_frame t ht)
    · exact fun u hu hk => ⟨hu.ended, hm.trans hk.mono⟩
    intro foreign u hu hk
    apply Ends.ite
    · intro _
      have hf : (fault .callbackInvalid .mechanicsFailed true).StaysAt Begun Kept u :=
        begun.fault_restart (by decide) (.inr (by decide)) u hu
      apply Ends.bind
      apply Ends.modify
      exact (serviceAsked_closes h capture hf.1 hnow requested ((hk.trans hf.2).requested.trans hq)).after
        (hm.trans (hk.trans hf.2).mono)
    · exact fun _ => (serviceAsked_closes h capture hu hnow requested (hk.requested.trans hq)).after (hm.trans hk.mono)
  have hgo : ∀ t, Begun t → Mono s t → Ends (do
      let r ← Act.get
      if r.requested ∧ !r.terminal then setValue fun v => { v with qpc := now }
      let foreign ← foreignFault
      if foreign then fault .callbackInvalid .mechanicsFailed true
      let finished ← if !r.requested then serviceRequest now else pure false
      if finished then pure true else serviceAttempt inner capture now : Rec Bool)
      (fun _ u => Ended u ∧ Mono s u) (fun u => Ended u ∧ Mono s u) t := by
    intro t ht hm
    apply Ends.getBind
    apply Ends.ite
    · intro _
      have htouch : Touched t { t with value := { t.value with qpc := now } } := { Touched.refl _ with qpc := fun _ => hnow }
      apply Ends.bind
      apply Ends.modify
      exact hforeign _ _ (begun.kept _ _ ht (htouch.core ht.1.1.core) htouch.kept) rfl (hm.trans htouch.kept.mono)
    · exact fun _ => hforeign _ t ht rfl hm
  apply Ends.getBind
  apply Ends.ite
  · rintro ⟨-, hr⟩
    apply Ends.bind
    refine (serviceRetryable_ends hs hr).mono (fun ended t ht => ?_) fun _ => id
    obtain ⟨hm, hended, hbegun⟩ := ht
    cases ended with
    | none => exact hgo t (hbegun rfl) hm
    | some result => exact ⟨hended (fun hn => by cases hn), hm⟩
  · intro hn
    have hr : s.value.flags.preflightRetryable = false := by
      apply Bool.eq_false_iff.mpr
      intro hr
      exact hn ⟨(hs.1.core.retryable hr).terminal, hr⟩
    exact hgo s (hs.begun hr) (.refl s)

end Normal

theorem abnormalDeadlines_frame (qpc : Int) : Stays Core Kept (abnormalDeadlines qpc) := by
  apply Stays.getBind
  intro s hs
  have hfault : ∀ reason, reason ≠ RecoveryReason.none →
      (fault reason .mechanicsFailed s.cancelEntered).StaysAt Core Kept s := fun reason hn =>
    LeechRecovery.fault_at hs { named := hn, unwound := .inr (by decide), policy := .inr }
  apply Ends.ite
  · intro _
    apply Ends.ite
    · exact fun _ => hfault _ (by decide)
    · intro _
      apply Ends.ite
      · exact fun _ => hfault _ (by decide)
      · intro _
        apply Ends.ite
        · exact fun _ => hfault _ (by decide)
        · exact fun _ => Stays.done () s hs
  · exact fun _ => Stays.done () s hs

theorem Published.counted {taken : Bool} (h : Published r r' taken) (hc : Counter (budget r) r) :
    Counter (budget r') r' := by
  cases hr : r.value.flags.preflightRetryable with
  | false => exact (h.counter hr hc).1
  | true =>
      rw [budget, hr, if_pos rfl] at hc
      have hle := (budget_le r').1
      cases taken with
      | true =>
          obtain ⟨hw, hroom, -⟩ := h.good rfl
          exact hc.publish h.transition hw hroom (by omega)
      | false =>
          apply hc.step (h.refused rfl).1
          rw [h.transition]
          omega

theorem Core.abandon_retryable (h : Core r) (hr : r.value.flags.preflightRetryable = true) :
    Core r.abandon ∧ r.abandon = { r with pendingRead := 0, finalPending := true } := by
  have hre := h.retryable hr
  have hphase := (h.valid.retryable hr).1
  have hpristine := h.pristine hre.recipe
  have hlocal : r.value.flags.publishedLocally = false := by
    rw [hpristine.flags]
    rfl
  have htarget : r.target = .rejected := by
    unfold Recovery.target
    rw [hlocal, hpristine.cancelEntered, hre.restart]
    rfl
  have hflags : ({ r.value.flags with terminal := true } : Flags) = r.value.flags := by
    rw [← (h.rejected hphase).1]
  have heq : r.abandon = { r with pendingRead := 0, finalPending := true } := by
    simp only [Recovery.abandon, htarget, hphase, if_true, hflags, hre.recipe, hre.pending, List.drop_nil,
      List.reverse_nil, List.map_nil, List.nil_append, Bool.not_false, Bool.true_and, decide_true]
    rw [← hre.pending, ← hphase, ← hre.recipe]
  refine ⟨?_, heq⟩
  rw [heq]
  exact { h with
    read := Nat.zero_le _
    pristine := fun hn => { h.pristine hn with }
    retryable := fun hn => { h.retryable hn with }
    ledger := by
      have hledger := h.ledger
      rw [hre.pending, List.drop_nil] at hledger
      rw [hre.pending]
      exact hledger }

/-- An attempt that is over, in a visit that gives up what it queued. -/
theorem abandon_ends {s : Recovery} (hs : Due s) (hq : s.requested = true) (ht : s.terminal = true) :
    Core s.abandon ∧ Counter (budget s.abandon) s.abandon ∧ Moved s s.abandon ∧
      ∀ w, .suppressed w ∈ s.abandon.history → .suppressed w ∈ s.history := by
  cases hr : s.value.flags.preflightRetryable with
  | false =>
      obtain ⟨hc, ha⟩ := hs.1.core.abandon hq ht hr (hs.1.counter.lt (budget_le s).2)
      refine ⟨hc, ?_, ha.moved, ha.suppressed⟩
      apply hs.1.counter.step ha.word
      have hbudget := hs.1.core.target_budget
      rw [ha.transition, budget_of_unretryable hr, budget_of_unretryable (ha.moved.unretryable hr), ha.phase]
      split
      · rename_i hp
        rw [hp]
        exact le_rfl
      · rename_i hp
        have := hbudget hp
        omega
  | true =>
      obtain ⟨hc, heq⟩ := hs.1.core.abandon_retryable hr
      rw [heq] at hc ⊢
      exact ⟨hc, hs.1.counter.step rfl le_rfl, { Moved.refl _ with }, fun _ => id⟩

/-- An attempt that is over gives up what it has queued. -/
theorem giveUp_closes {s : Recovery} (hs : Due s) (hq : s.requested = true) : Closes (do
    let r ← Act.get
    if r.terminal then
      Act.modify Recovery.abandon
      let _ ← publish
      releaseCapture
      resumeBinding : Rec Unit) s := by
  apply Ends.getBind
  apply Ends.ite
  · intro hterminal
    obtain ⟨hc, hcount, hmoved, hpast⟩ := abandon_ends hs hq hterminal
    obtain ⟨hcore, hp⟩ := hc.publish hcount (budget_le _).2
    have hall := hmoved.trans hp.moved
    have hreleased := releaseCapture_frame _ hcore
    have hterminal' := hall.terminal hterminal
    have hended : Ended { s.abandon.publish.1 with recoveryQuota := ⟨0, false⟩ } := {
      core := hreleased.1
      counter := (hp.counted hcount).step rfl le_rfl
      rest := {
        settled := fun _ _ => hterminal'
        coherent := fun _ => hterminal'
        quota := fun _ => rfl
        suppressed := fun w hw => .inl (hall.recipe.trans (hs.2.suppressed w (hpast w (hp.suppressed w hw)))) }
      pump := hall.pump.trans hs.1.pump }
    apply Ends.bind
    apply Ends.modify
    apply Ends.bind
    apply Ends.bind
    apply Ends.get
    apply Ends.bind
    apply Ends.modify
    apply Ends.done
    apply Ends.bind
    apply Ends.modify
    exact (ended.frame resumeBinding_frame _ hended).mono
      (fun _ u hu => ⟨hu.1, hall.mono.trans (hreleased.2.trans hu.2).mono⟩)
      fun u hu => ⟨hu.1, hall.mono.trans (hreleased.2.trans hu.2).mono⟩
  · exact fun _ => ⟨hs.1, .refl s⟩

theorem abnormalRest_closes {s : Recovery} (hs : Due s) (hq : s.requested = true) (qpc : Int) : Closes (do
    abnormalDeadlines qpc
    let r ← Act.get
    if r.terminal then
      Act.modify Recovery.abandon
      let _ ← publish
      releaseCapture
      resumeBinding : Rec Unit) s := by
  apply StaysAt.bindEnds (due.frame (abnormalDeadlines_frame qpc) s hs)
  · exact fun v hv hk => ⟨hv.1, hk.mono⟩
  · exact fun _ v hv hk => (giveUp_closes hv (hk.requested.trans hq)).after hk.mono

theorem abnormalWatch_closes {s : Recovery} (hs : Due s) (hq : s.requested = true) (qpc : Int) : Closes (do
    let foreign ← foreignFault
    if foreign then fault .callbackInvalid .mechanicsFailed true
    abnormalDeadlines qpc
    let r ← Act.get
    if r.terminal then
      Act.modify Recovery.abandon
      let _ ← publish
      releaseCapture
      resumeBinding : Rec Unit) s := by
  apply StaysAt.bindEnds (due.frame foreignFault_frame s hs)
  · exact fun u hu hk => ⟨hu.1, hk.mono⟩
  intro foreign u hu hk
  apply Ends.ite
  · intro _
    have hf : (fault .callbackInvalid .mechanicsFailed true).StaysAt Due Kept u :=
      due.fault_restart (by decide) (.inr (by decide)) u hu
    apply Ends.bind
    apply Ends.modify
    exact (abnormalRest_closes hf.1 ((hk.trans hf.2).requested.trans hq) qpc).after (hk.trans hf.2).mono
  · exact fun _ => (abnormalRest_closes hu (hk.requested.trans hq) qpc).after hk.mono

/-- A visit that cannot be served only watches the deadlines. -/
theorem serviceAbnormal_closes {s : Recovery} (hs : Due s) (qpc : Int) (hnow : qpc ≤ qpcMax) :
    Closes (serviceAbnormal qpc) s := by
  apply Ends.getBind
  apply Ends.ite
  · rintro ⟨hq, -⟩
    apply Ends.ite
    · intro _
      have htouch : Touched s { s with value := { s.value with qpc := qpc.toNat } } :=
        { Touched.refl _ with qpc := fun _ => Int.toNat_le.mpr hnow }
      apply Ends.bind
      apply Ends.modify
      exact (abnormalWatch_closes (due.kept _ _ hs (htouch.core hs.1.core) htouch.kept) hq qpc).after htouch.kept.mono
    · exact fun _ => abnormalWatch_closes hs hq qpc
  · exact fun _ => ⟨hs.1, .refl s⟩

/-- One visit. -/
theorem serviceLeechRecovery_closes {inner : Occurrence → Rec Unit} (h : Inner inner) (capture : Capture)
    {s : Recovery} (hs : Due s) (qpc : Int) (hnow : qpc ≤ qpcMax) :
    Closes (serviceLeechRecovery inner capture qpc) s := by
  apply Ends.getBind
  apply Ends.ite
  · exact fun _ => ⟨hs.1, .refl s⟩
  intro _
  apply Ends.ite
  · intro _
    apply Ends.bind
    exact serviceAbnormal_closes hs qpc hnow
  · intro _
    exact serviceNormal_closes h capture hs (Int.toNat_le.mpr hnow)

end RS2ServerFix.LeechRecovery
