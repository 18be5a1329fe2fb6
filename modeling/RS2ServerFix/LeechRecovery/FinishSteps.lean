import RS2ServerFix.LeechRecovery.RecordSteps

namespace RS2ServerFix.LeechRecovery

open Reporting Lib Act

variable {r r' : Recovery}

theorem runtimeCaptureAdmission_ends (s : Recovery) :
    runtimeCaptureAdmission.Ends (fun b t => t = s ∧ (b = true → s.transport = .running)) (fun _ => False) s := by
  apply (holds_still _).bindEnds
  intro admitted
  apply Ends.getBind
  apply Ends.ite
  · exact fun _ => ⟨rfl, fun hn => by cases hn⟩
  · intro hn
    have hrunning : s.transport = .running := by
      by_contra hc
      exact hn (Bool.or_eq_true_iff.mpr (.inr (decide_eq_true hc)))
    exact (holds_still _).ends fun _ => ⟨rfl, fun _ => hrunning⟩

theorem reserveCapture_ends (amount : Nat) (s : Recovery) :
    (reserveCapture amount).Ends (fun b t => t = if b then { s with recoveryQuota := ⟨amount, true⟩ } else s)
      (fun _ => False) s := by
  apply Ends.getBind
  apply Ends.ite
  · exact fun _ => rfl
  · intro _
    apply (Still.query _).bindEnds
    intro granted
    apply Ends.ite
    · exact fun _ => rfl
    · exact fun _ => rfl

theorem Visit.reserved (h : Visit r) (hr : r.recipeEntered = false → r.transport = .running) (amount : Nat) :
    Visit { r with recoveryQuota := ⟨amount, true⟩ } := by
  have hc := h.1.core
  exact ⟨{ h.1 with
    core := { hc with
      pristine := fun hn => { hc.pristine hn with }
      retryable := fun hn => by cases (h.1.unretryable.symm.trans hn : false = true) }
    counter := h.1.counter.step rfl le_rfl
    quota := fun hn _ => hr hn }, h.2⟩

theorem reserveCapture_visit (amount : Nat) {s : Recovery} (hs : Visit s)
    (hr : s.recipeEntered = false → s.transport = .running) :
    (reserveCapture amount).Ends (fun _ t => Visit t ∧ ∃ quota, t = { s with recoveryQuota := quota })
      (fun _ => False) s := by
  refine (reserveCapture_ends amount s).mono (fun granted t ht => ?_) fun _ => id
  subst ht
  cases granted with
  | false => exact ⟨hs, s.recoveryQuota, rfl⟩
  | true => exact ⟨hs.reserved hr amount, _, rfl⟩

theorem Core.target_budget (h : Core r) (hp : r.value.phase ≠ r.target) :
    r.value.phase.budget + 2 ≤ r.target.budget := by
  have hlate := h.late
  have hfailed := h.failed
  have hpublished := h.published
  revert hp
  unfold Recovery.target
  split
  · rename_i hc
    obtain ⟨hl, hn⟩ := Bool.and_eq_true_iff.mp hc
    have hrestart : r.value.flags.restartRequired = false := by simpa only [Bool.not_eq_true'] using hn
    intro hp
    cases hq : r.value.phase with
    | failed =>
        rcases hfailed hq with hf | ⟨-, hf⟩
        · cases (hrestart.symm.trans hf : false = true)
        · cases (hl.symm.trans hf : true = false)
    | observed => exact absurd hq hp
    | _ => decide
  · rename_i hc
    split
    · intro hp
      cases hq : r.value.phase with
      | failed => exact absurd hq hp
      | _ => decide
    · rename_i hor
      obtain ⟨hcancel, hrestart⟩ := Bool.or_eq_false_iff.mp (Bool.eq_false_iff.mpr hor)
      have hno : r.value.phase.late = false := by
        cases hq : r.value.phase.late with
        | false => rfl
        | true => cases (hcancel.symm.trans (hlate hq) : false = true)
      intro hp
      cases hq : r.value.phase with
      | failed =>
          rcases hfailed hq with hf | ⟨hf, -⟩
          · cases (hrestart.symm.trans hf : false = true)
          · cases (hcancel.symm.trans hf : false = true)
      | rejected => exact absurd hq hp
      | disabled | armed | requested | qualifying => decide
      | _ =>
          rw [hq] at hno
          cases hno

def Ending (r : Recovery) : Prop := Visit r ∧ r.terminal = true

theorem ending : Context Ending Mono := visit.and fun _ _ hk => hk.terminal

theorem Ending.queue (h : Ending r) (event : RecoveryEvent) :
    Ending (r.queue event).1 ∧ Queued r (r.queue event).1 event (r.queue event).2 := by
  obtain ⟨hc, hq⟩ := h.1.1.core.queue h.1.1.unretryable event
  have hb : budget (r.queue event).1 = budget r := by
    rw [budget_of_unretryable h.1.1.unretryable, budget_of_unretryable (hq.moved.unretryable h.1.1.unretryable), hq.phase]
  have hcount : Counter (budget (r.queue event).1) (r.queue event).1 := by
    rw [hb]
    exact h.1.1.counter.step hq.word (by rw [hq.transition])
  have hterminal := hq.moved.terminal h.2
  exact ⟨⟨h.1.moved hc hcount hq.moved (fun _ _ => hterminal) (fun _ => hterminal) fun w hw => .inl (hq.suppressed hw),
    hterminal⟩, hq⟩

theorem Recovery.timingCopy_target (r : Recovery) : r.timingCopy.target = r.target := by
  unfold Recovery.timingCopy
  split
  · rfl
  · rfl

theorem Ending.retarget (h : Ending r) : Ending ((r.setFlags fun f => { f with terminal := true }).transition
      r.target r.value.qpc).1 ∧ Moved r ((r.setFlags fun f => { f with terminal := true }).transition r.target
      r.value.qpc).1 ∧ ((r.setFlags fun f => { f with terminal := true }).transition r.target r.value.qpc).1.value.phase =
      r.target := by
  have hr := h.1.1.unretryable
  have hended := h.1.1.core.ended hr
  have hlt := h.1.1.counter.lt (budget_le r).2
  obtain ⟨hc, ht⟩ := hended.transition (hended.enters_target h.1.2 h.2 rfl) hr h.1.1.core.valid.qpc hlt
  have hsame : Moved r (r.setFlags fun f => { f with terminal := true }) := { Moved.refl r with }
  have hmoved := hsame.trans ht.moved
  have hterminal := ht.moved.terminal h.2
  have hcount := ht.counter hr (h.1.1.counter.step rfl le_rfl) h.1.1.core.target_budget
  exact ⟨⟨h.1.moved hc hcount hmoved (fun _ _ => hterminal) (fun _ => hterminal) fun w hw => .inl (ht.suppressed w hw),
    hterminal⟩, hmoved, ht.phase⟩

theorem Ending.recorded (h : Ending r) (event : RecoveryEvent) {f : Recovery → Recovery}
    (hf : ∀ t, Ending t → Ending (f t) ∧ Moved t (f t) ∧ (f t).value.phase = t.value.phase) :
    Ending (f (r.queue event).1) ∧ Moved r (f (r.queue event).1) ∧ (f (r.queue event).1).value.phase = r.value.phase := by
  obtain ⟨he, hq⟩ := h.queue event
  obtain ⟨hf1, hf2, hf3⟩ := hf _ he
  exact ⟨hf1, hq.moved.trans hf2, hf3.trans hq.phase⟩

theorem Ending.settled (h : Ending r) : Ending { r with finalPending := false } := by
  have hc := h.1.1.core
  exact ⟨⟨{ h.1.1 with
    core := { hc with
      pristine := fun hn => { hc.pristine hn with }
      retryable := fun hn => by cases (h.1.1.unretryable.symm.trans hn : false = true) }
    counter := h.1.1.counter.step rfl le_rfl }, h.1.2⟩, h.2⟩

/-- The records of an end: the attempt is in its last phase. -/
theorem finishQueue_ends {s : Recovery} (hs : Ending s) :
    finishQueue.Ends (fun _ t => Ending t ∧ Moved s t ∧ t.value.phase = s.target ∧ t.finalPending = false)
      (fun _ => False) s := by
  have hfinal : ∀ t, Ending t → Moved s t → t.value.phase = s.target →
      Ends (do
        let r ← Act.get
        if r.finalPending then
          let _ ← queue .final
          Act.modify fun r => { r with finalPending := false } : Rec Unit)
        (fun _ t => Ending t ∧ Moved s t ∧ t.value.phase = s.target ∧ t.finalPending = false) (fun _ => False) t := by
    intro t ht hm hp
    apply Ends.getBind
    apply Ends.ite
    · intro _
      obtain ⟨h1, h2, h3⟩ := ht.recorded .final (f := fun t => { t with finalPending := false })
        fun t ht => ⟨ht.settled, { Moved.refl _ with }, rfl⟩
      exact ⟨h1, hm.trans h2, h3.trans hp, rfl⟩
    · exact fun hn => ⟨ht, hm, hp, Bool.eq_false_iff.mpr hn⟩
  have hrecords : ∀ t, Ending t → Moved s t → t.value.phase = s.target →
      Ends (do
        let r ← Act.get
        let recordable ← pure r.exceptionPending <&&> runtimeCaptureAdmission
        if recordable then
          let _ ← queue .exception
          Act.modify fun r => { r with exceptionPending := false }
        let r ← Act.get
        if r.finalPending then
          let _ ← queue .final
          Act.modify fun r => { r with finalPending := false } : Rec Unit)
        (fun _ t => Ending t ∧ Moved s t ∧ t.value.phase = s.target ∧ t.finalPending = false) (fun _ => False) t := by
    intro t ht hm hp
    apply Ends.getBind
    apply Still.bindEnds ((Still.done _).both runtimeCaptureAdmission_still)
    intro recordable
    apply Ends.ite
    · intro _
      obtain ⟨h1, h2, h3⟩ := ht.recorded .exception (f := fun t => { t with exceptionPending := false }) fun t ht => by
        have htouch : Touched t { t with exceptionPending := false } := { Touched.refl _ with }
        exact ⟨ending.kept _ _ ht (htouch.core ht.1.1.core) htouch.kept, htouch.kept.moved, rfl⟩
      exact hfinal _ h1 (hm.trans h2) (h3.trans hp)
    · exact fun _ => hfinal t ht hm hp
  have hcopy := s.timingCopy_kept
  have hending : Ending s.timingCopy := ending.kept _ _ hs hs.1.1.core.timingCopy hcopy
  apply Ends.bind
  apply Ends.modify
  apply Ends.getBind
  apply Ends.ite
  · intro _
    obtain ⟨h1, h2, h3⟩ := hending.retarget
    exact hrecords _ h1 (hcopy.moved.trans h2) (h3.trans s.timingCopy_target)
  · intro hn
    exact hrecords _ hending hcopy.moved ((not_not.mp hn).trans s.timingCopy_target)

/-- An attempt whose last records were asked for. -/
structure Closing (r : Recovery) : Prop where
  core : Core r
  counter : Counter (budget r) r
  pump : r.pumpDepth = 1
  requested : r.requested = true
  terminal : r.terminal = true
  final : r.finalPending = false
  unretryable : r.value.flags.preflightRetryable = false
  suppressed : ∀ w, .suppressed w ∈ r.history → r.recipeEntered = true ∨ r.pendingRecords = []

structure Clean (r : Recovery) : Prop where
  pending : r.pendingRecords = []
  ahead : Ahead r
  suppressed : ∀ w, .suppressed w ∈ r.history → r.recipeEntered = true

theorem closing : Context Closing Mono where
  core _ h := h.core
  kept s t h hc hk := {
    core := hc
    counter := hk.counter h.counter
    pump := hk.pump.trans h.pump
    requested := hk.requested.trans h.requested
    terminal := hk.terminal h.terminal
    final := (hk.final h.terminal h.unretryable).trans h.final
    unretryable := hk.unretryable h.unretryable
    suppressed := fun w hw => by
      rw [hk.recipe, hk.pending]
      exact h.suppressed w (hk.suppressed.mp hw) }
  rel _ _ := Kept.mono

theorem Kept.clean (h : Kept r r') (hc : Clean r) (hr : r.value.flags.preflightRetryable = false) : Clean r' where
  pending := h.pending.trans hc.pending
  ahead := by
    have ha := hc.ahead
    rw [Ahead, budget_of_unretryable hr] at ha
    rw [Ahead, budget_of_unretryable (h.unretryable hr), h.phase, h.transition, h.word]
    exact ha
  suppressed := fun w hw => h.recipe.trans (hc.suppressed w (h.suppressed.mp hw))

theorem Ending.closing (h : Ending r) (hf : r.finalPending = false) : Closing r where
  core := h.1.1.core
  counter := h.1.1.counter
  pump := h.1.1.pump
  requested := h.1.2
  terminal := h.2
  final := hf
  unretryable := h.1.1.unretryable
  suppressed := fun w hw => .inl (h.1.1.suppressed w hw)

theorem Closing.publish (h : Closing r) : Closing r.publish.1 ∧ Published r r.publish.1 r.publish.2 := by
  obtain ⟨hc, hp⟩ := h.core.publish h.counter (budget_le r).2
  refine ⟨?_, hp⟩
  exact {
    core := hc
    counter := (hp.counter h.unretryable h.counter).1
    pump := hp.moved.pump.trans h.pump
    requested := hp.moved.requested.trans h.requested
    terminal := hp.moved.terminal h.terminal
    final := (hp.final h.terminal h.unretryable).trans h.final
    unretryable := hp.moved.unretryable h.unretryable
    suppressed := fun w hw => by
      rw [hp.moved.recipe, hp.pending]
      exact h.suppressed w (hp.suppressed w hw) }

theorem Closing.stopped (h : Closing r) :
    Closing (r.dropped Event.suppressed r.finalPending) ∧ Moved r (r.dropped Event.suppressed r.finalPending) := by
  have hm := r.dropped_moved (.inr rfl : GivenUp Event.suppressed) r.finalPending
  refine ⟨?_, hm⟩
  exact { h with
    core := h.core.dropped h.unretryable (.inr rfl) _
    counter := h.counter.step rfl le_rfl
    suppressed := fun _ _ => .inr rfl }

theorem finishFlush_ends {s : Recovery} (hs : Ending s) (hf : s.finalPending = false) :
    finishFlush.Ends (fun good t => (Closing t ∧ Mono s t ∧ t.value.phase = s.value.phase) ∧ (good = true → Clean t))
      (fun _ => False) s := by
  have hgo : ∀ t, Ending t → t.finalPending = false → Mono s t → t.value.phase = s.value.phase → Ends (do
      let flushed ← flush
      if flushed then pure true
      else
        let running ← holds .runtimeAdmission <&&> (do
          let stopping ← holds .stopping
          pure !stopping)
        if !running then
          Act.modify fun r =>
            { r with
              pendingRead := 0, pendingRecords := []
              history := (r.pendingRecords.drop r.pendingRead).reverse.map Event.suppressed ++ r.history }
        let _ ← publish
        pure false)
      (fun good u => (Closing u ∧ Mono s u ∧ u.value.phase = s.value.phase) ∧ (good = true → Clean u))
      (fun _ => False) t := by
    intro t ht hft hm hp
    apply Ends.bind
    refine (flush_ends ht.1).mono (fun good u hu => ?_) fun _ => id
    have hending : Ending u := ⟨hu.visit, hu.moved.terminal ht.2⟩
    have hclosing := hending.closing ((hu.final ht.2).trans hft)
    have hmono := hm.trans hu.moved.mono
    have hphase := hu.phase.trans hp
    apply Ends.ite
    · rintro rfl
      exact ⟨⟨hclosing, hmono, hphase⟩, fun _ => ⟨hu.pending rfl, hu.ahead rfl, hu.visit.1.suppressed⟩⟩
    · intro _
      apply Still.bindEnds ((holds_still _).both ((holds_still _).bind fun _ => Still.done _))
      intro running
      apply Ends.ite
      · intro _
        obtain ⟨hd, hdm⟩ := hclosing.stopped
        obtain ⟨hc, hpub⟩ := hd.publish
        exact ⟨⟨hc, hmono.trans (hdm.trans hpub.moved).mono, hpub.phase.trans hphase⟩, fun hn => by cases hn⟩
      · intro _
        obtain ⟨hc, hpub⟩ := hclosing.publish
        exact ⟨⟨hc, hmono.trans hpub.moved.mono, hpub.phase.trans hphase⟩, fun hn => by cases hn⟩
  apply Ends.getBind
  apply Ends.bind
  apply Still.bothEnds (Still.done _)
  · refine (runtimeCaptureAdmission_ends s).mono (fun due t ht => ?_) fun _ => id
    obtain ⟨rfl, hrunning⟩ := ht
    apply Ends.ite
    · intro hdue
      apply Ends.bind
      refine (reserveCapture_visit _ hs.1 fun _ => hrunning hdue).mono (fun _ u hu => ?_) fun _ => id
      obtain ⟨hv, quota, rfl⟩ := hu
      exact hgo _ ⟨hv, hs.2⟩ hf { Mono.refl _ with } rfl
    · exact fun _ => hgo t hs hf (.refl t) rfl
  · exact hgo s hs hf (.refl s) rfl

/-- Between two visits. -/
structure Ended (r : Recovery) : Prop where
  core : Core r
  counter : Counter (budget r) r
  rest : Rest r
  pump : r.pumpDepth = 1

theorem Closing.ended (h : Closing r) (hq : r.recipeEntered = false → r.recoveryQuota.active = false) : Ended r where
  core := h.core
  counter := h.counter
  rest := {
    settled := fun _ _ => h.terminal
    coherent := fun _ => h.terminal
    quota := hq
    suppressed := fun w hw => (h.suppressed w hw).imp_right fun hp =>
      ⟨h.requested, h.terminal, h.final, hp, h.unretryable⟩ }
  pump := h.pump

/-- What a preflight that may be asked for again has left as it was. -/
structure Again (r : Recovery) : Prop where
  recipe : r.recipeEntered = false
  holder : r.holder = 0
  stage : r.value.nativeStage = .none
  resource : r.value.resourcePhase = .none
  exception : r.value.flags.exceptionObserved = false
  restart : r.value.flags.restartRequired = false
  published : r.value.flags.publishedLocally = false
  phase : r.value.phase = .rejected
  outcome : r.value.outcome = .mechanicsFailed ∨ r.value.outcome = .recordingUnavailable
  operation : r.value.operationSequence ≠ 0 ∧ r.value.operationSequence ≠ uint64Max
  reason : r.value.reason ≠ .invalidRequest ∧ r.value.reason ≠ .clockFault

theorem Recovery.again_of_retryablePreflight (h : r.retryablePreflight = true) : Again r := by
  unfold Recovery.retryablePreflight at h
  split at h
  · cases h
  · rename_i hn
    simp only [not_or, Bool.not_eq_true, ne_eq, Decidable.not_not] at hn
    simp only [Bool.and_eq_true, Bool.or_eq_true, decide_eq_true_eq] at h
    obtain ⟨-, hrecipe, -, -, -, -, -, -, hholder, hstage, hresource, -, -, -, hexception, hrestart, hpublished⟩ := hn
    obtain ⟨⟨⟨⟨⟨⟨⟨-, hphase⟩, houtcome⟩, hzero⟩, hmax⟩, -⟩, hinvalid⟩, hclock⟩ := h
    exact ⟨hrecipe, hholder, hstage, hresource, hexception, hrestart, hpublished, hphase, houtcome, ⟨hzero, hmax⟩,
      hinvalid, hclock⟩

theorem Core.released (h : Core r) (ha : Again r) (hclean : Clean r) (origin latched : RequestOrigin) :
    Core ({ r with latched := latched }.log (.released origin r.value r.holder)) := by
  have hidle : idle (.released origin r.value r.holder :: r.history) = true := rfl
  have hflags := h.rejected ha.phase
  have hrequested : r.requested = true := h.requested_of_phase (by rw [ha.phase]; rfl)
  have hretry : r.value.flags.preflightRetryable = true → Retryable r := h.retryable
  refine { h with
    pristine := fun hn => { h.pristine hn with }
    unrequested := fun hn => by cases (hrequested.symm.trans hn : true = false)
    calm := fun hn => h.calm (noCritical_of_cons hn)
    retryable := fun hn => { hretry hn with idle := hidle }
    operations := fun hn => ⟨hidle, (h.operations hn).2⟩
    counted := (List.countP_cons_of_neg Bool.false_ne_true).trans h.counted
    recipes := (List.mem_cons.trans (or_iff_right fun hn : Event.recipe = .released origin r.value r.holder =>
      by cases hn)).trans h.recipes
    refused := fun w hw => h.refused w ((List.mem_cons.mp hw).resolve_left fun hn => by cases hn)
    sound := ⟨⟨fun hn => ?_, ha.holder, ha.resource, ha.stage, ha.phase, hflags.1, ha.restart, ha.exception, ?_,
      fun w hw => ?_⟩, h.sound⟩ }
  · cases (ha.recipe.symm.trans (h.recipes.mp hn) : false = true)
  · rw [h.ledger, hclean.pending, List.drop_nil, List.append_nil]
  · cases (ha.recipe.symm.trans (hclean.suppressed w hw) : false = true)

theorem Core.retried (h : Core r) (ha : Again r) (hp : r.pendingRecords = []) (hidle : idle r.history = true) :
    Core (r.setFlags fun f => { f with preflightRetryable := true }) := by
  have hv := h.valid
  have hpr := h.pristine ha.recipe
  have hrejected := h.rejected ha.phase
  have hrequested : r.requested = true := h.requested_of_phase (by rw [ha.phase]; rfl)
  have hpermission := (h.armed (h.started hrequested)).1
  have hflags : ({ r.value.flags with preflightRetryable := true } : Flags) = { Flags.zero with
      permissionEnabled := true, terminal := true, consoleRequested := r.value.flags.consoleRequested
      preflightRetryable := true } := by
    rw [hpr.flags, hpermission, ha.restart, hrejected.1]
    rfl
  exact { h with
    valid := { hv with
      retryable := fun _ => ⟨ha.phase, ha.operation.1, ha.outcome, hflags, hpr.stage, hpr.resource, hpr.exceptionCode,
        hpr.requestId, hpr.callbackId, hpr.callbackResult, hpr.apiReturnedId⟩ }
    pristine := fun hn =>
      { h.pristine hn with
        flags := by
          change { r.value.flags with preflightRetryable := true } = _
          rw [(h.pristine hn).flags]
          rfl }
    retryable := fun _ => {
      terminal := hrejected.2.1
      requested := hrequested
      recipe := ha.recipe
      restart := ha.restart
      pending := hp
      reason := ⟨h.reason hrejected.2.1 ha.published, ha.reason.1, ha.reason.2⟩
      operation := Nat.lt_of_le_of_ne hv.operation ha.operation.2
      idle := hidle } }

/-- The two steps of a release that come before its publication. -/
def Recovery.givenBack (r : Recovery) (origin : RequestOrigin) : Recovery :=
  ({ r with latched := .none }.log (.released origin r.value r.holder)).setFlags
    fun f => { f with preflightRetryable := true }

theorem Published.released {taken : Bool} (h : Published r r' taken) (hc : Counter 6 r)
    (ha : 2 * r.value.transitionSequence + 2 ≤ r.ownerSequence + 6) : Counter 2 r' := by
  have heven := hc.even
  have hstarted := hc.started
  have hroom := hc.room
  cases taken with
  | true =>
      obtain ⟨hw, hlimit, -⟩ := h.good rfl
      have hmax : uint64Max = 18446744073709551615 := rfl
      refine ⟨?_, ?_, ?_, ?_⟩
      · rw [h.transition, hw]
        omega
      · omega
      · omega
      · omega
  | false =>
      obtain ⟨hw, hlimit⟩ := h.refused rfl
      rw [← hw] at hlimit heven hstarted hroom
      refine ⟨?_, heven, hstarted, hroom⟩
      rw [if_pos hlimit, h.transition, hw]
      omega

theorem released_ended (h : Closing r) (ha : Again r) (hclean : Clean r)
    (hq : r.recipeEntered = false → r.recoveryQuota.active = false) (origin : RequestOrigin) :
    Ended (r.givenBack origin).publish.1 ∧ Mono r (r.givenBack origin).publish.1 ∧
      (r.givenBack origin).publish.1.value.phase = r.value.phase := by
  have hcore : Core (r.givenBack origin) :=
    (h.core.released ha hclean origin .none).retried { ha with } hclean.pending rfl
  have hcount : Counter 6 r := by
    have := h.counter
    rwa [budget_of_unretryable h.unretryable, ha.phase] at this
  have hback : Counter 6 (r.givenBack origin) := hcount.step rfl le_rfl
  obtain ⟨hc, hp⟩ := hcore.publish hback (by decide)
  have hmono : Mono r (r.givenBack origin) := { Mono.refl _ with history := List.suffix_cons .. }
  have hahead := hclean.ahead
  rw [Ahead, budget_of_unretryable h.unretryable, ha.phase] at hahead
  refine ⟨⟨hc, ?_, ?_, hp.moved.pump.trans h.pump⟩, hmono.trans hp.moved.mono, hp.phase⟩
  · exact (hp.released hback hahead).step rfl (Nat.add_le_add_left (budget_le _).1 _)
  · exact {
      settled := fun hn => by cases ((hp.moved.recipe.trans ha.recipe).symm.trans hn : false = true)
      coherent := fun _ => hp.moved.terminal h.terminal
      quota := fun _ => by
        apply Bool.eq_false_iff.mpr
        intro hn
        cases ((hq ha.recipe).symm.trans (hp.moved.quota hn) : false = true)
      suppressed := fun w hw => .inl (hp.moved.recipe.trans (hclean.suppressed w
        ((List.mem_cons.mp (hp.suppressed w hw)).resolve_left fun hn => by cases hn))) }

theorem foreignFault_frame : Stays Core Kept foreignFault := by
  apply Stays.bind (holds_still _).stays
  intro seen
  exact Stays.bind (touch fun _ => { Touched.refl _ with }) fun _ => Stays.bind Stays.get fun _ => Stays.done _

theorem readLatch_frame : Stays Core Kept readLatch := by
  apply Stays.bind (Stays.query _)
  intro claim
  exact Stays.bind (touch fun _ => { Touched.refl _ with }) fun _ => Stays.bind Stays.get fun _ => Stays.done _

theorem resumeBinding_frame : Stays Core Kept resumeBinding := by
  apply Stays.bind Stays.get
  intro r
  apply Stays.ite
  · apply Stays.bind (holds_still _).stays
    intro safe
    apply Stays.ite
    · apply Stays.bind (Stays.query _)
      intro (phase : Task.TaskPhase)
      exact Stays.ite (touch fun _ => { Touched.refl _ with }) (Stays.done ())
    · exact Stays.done ()
  · exact Stays.done ()

/-- The release, from a rejection all of whose records were flushed. -/
theorem release_ends {s : Recovery} (hs : Closing s) (hclean : Clean s)
    (hq : s.recipeEntered = false → s.recoveryQuota.active = false) :
    Ends (do
      let released ← pure s.retryablePreflight <&&> releasePreflightClaim
      if released then
        Act.modify fun r => r.setFlags fun f => { f with preflightRetryable := true }
        let _ ← publish : Rec Unit)
      (fun _ t => Ended t ∧ Mono s t ∧ t.value.phase = s.value.phase) (fun _ => False) s := by
  have hno : Ended s ∧ Mono s s ∧ s.value.phase = s.value.phase := ⟨hs.ended hq, .refl s, rfl⟩
  apply Ends.bind
  apply Ends.both
  refine ⟨fun hagain => ?_, fun _ => Ends.ite (fun hn => by cases hn) fun _ => hno⟩
  have ha := Recovery.again_of_retryablePreflight hagain
  apply Ends.getBind
  apply Still.bindEnds ((Still.done _).both (holds_still _))
  intro ready
  apply Ends.ite
  · intro _
    apply Ends.done
    exact Ends.ite (fun hn => by cases hn) fun _ => hno
  · intro _
    apply Ends.bind
    apply (Still.query _).bindEnds
    intro (claim : RequestOrigin)
    apply Ends.bind
    apply Ends.modify
    apply Ends.getBind
    have htouch : Touched s { s with latched := if s.latched = .none then claim else s.latched } := { Touched.refl _ with }
    have hclosing := closing.kept _ _ hs (htouch.core hs.core) htouch.kept
    have hclean' := htouch.kept.clean hclean hs.unretryable
    apply Ends.done
    apply Ends.ite
    · intro _
      apply Ends.done
      exact Ends.ite (fun hn => by cases hn) fun _ => ⟨hclosing.ended hq, htouch.kept.mono, rfl⟩
    · intro _
      obtain ⟨h1, h2, h3⟩ := released_ended hclosing { ha with } hclean' hq
        (if s.latched = .none then claim else s.latched)
      exact ⟨h1, htouch.kept.mono.trans h2, h3⟩

theorem Kept.unreserved (h : Kept r r') (hq : r.recipeEntered = false → r.recoveryQuota.active = false) :
    r'.recipeEntered = false → r'.recoveryQuota.active = false := fun hr => by
  apply Bool.eq_false_iff.mpr
  intro hn
  cases ((hq (h.recipe.symm.trans hr)).symm.trans (h.quota hn) : false = true)

theorem finishRelease_ends (flushed : Bool) {s : Recovery} (hs : Closing s) (hclean : flushed = true → Clean s)
    (hq : s.recipeEntered = false → s.recoveryQuota.active = false) :
    (finishRelease flushed).Ends (fun _ t => Ended t ∧ Mono s t ∧ t.value.phase = s.value.phase)
      (fun t => Ended t ∧ Mono s t ∧ t.value.phase = s.value.phase) s := by
  have hno : Ended s ∧ Mono s s ∧ s.value.phase = s.value.phase := ⟨hs.ended hq, .refl s, rfl⟩
  apply Ends.bind
  apply Ends.both
  apply Ends.done
  refine ⟨fun hf => ?_, fun _ => Ends.getBind (Ends.ite (fun hn => by cases hn.1) fun _ => hno)⟩
  apply runtimeCaptureAdmission_still.ends
  intro admitted
  apply Ends.getBind
  apply Ends.ite
  · intro _
    apply Ends.bind
    refine (foreignFault_frame s hs.core).mono (fun _ t ht => ?_) fun t ht => ?_
    · apply Ends.getBind
      refine (release_ends (closing.kept _ _ hs ht.1 ht.2) (ht.2.clean (hclean hf) hs.unretryable)
        (ht.2.unreserved hq)).mono (fun _ u hu => ?_) fun _ => False.elim
      exact ⟨hu.1, ht.2.mono.trans hu.2.1, hu.2.2.trans ht.2.phase⟩
    · exact ⟨(closing.kept _ _ hs ht.1 ht.2).ended (ht.2.unreserved hq), ht.2.mono, ht.2.phase⟩
  · exact fun _ => hno

/-- The end of an attempt in a visit: it is in its last phase, and a clean
rejection is given back. -/
theorem finishTerminal_ends {s : Recovery} (hs : Ending s) :
    finishTerminal.Ends (fun _ t => Ended t ∧ Mono s t ∧ t.value.phase = s.target)
      (fun t => Ended t ∧ Mono s t ∧ t.value.phase = s.target) s := by
  apply Ends.bind
  refine (finishQueue_ends hs).mono (fun _ t ht => ?_) fun _ => False.elim
  obtain ⟨hending, hmoved, hphase, hfinal⟩ := ht
  apply Ends.bind
  refine (finishFlush_ends hending hfinal).mono (fun flushed u hu => ?_) fun _ => False.elim
  obtain ⟨⟨hclosing, hmono, hsame⟩, hclean⟩ := hu
  have hgo : ∀ v, Core v → Kept u v → v.recoveryQuota.active = false →
      Ends (do
        resumeBinding
        finishRelease flushed)
      (fun _ w => Ended w ∧ Mono s w ∧ w.value.phase = s.target)
      (fun w => Ended w ∧ Mono s w ∧ w.value.phase = s.target) v := by
    intro v hc hk hq
    have hbase := (hmoved.mono.trans hmono).trans hk.mono
    have hphase' := (hk.phase.trans hsame).trans hphase
    apply Ends.bind
    refine (resumeBinding_frame v hc).mono (fun _ w hw => ?_) fun w hw => ?_
    · have hclosing' := closing.kept _ _ (closing.kept _ _ hclosing hc hk) hw.1 hw.2
      refine (finishRelease_ends flushed hclosing' (fun hf => (hk.trans hw.2).clean (hclean hf) hclosing.unretryable)
        (hw.2.unreserved fun _ => hq)).mono (fun _ x hx => ?_) fun x hx => ?_
      · exact ⟨hx.1, (hbase.trans hw.2.mono).trans hx.2.1, hx.2.2.trans (hw.2.phase.trans hphase')⟩
      · exact ⟨hx.1, (hbase.trans hw.2.mono).trans hx.2.1, hx.2.2.trans (hw.2.phase.trans hphase')⟩
    · have hclosing' := closing.kept _ _ (closing.kept _ _ hclosing hc hk) hw.1 hw.2
      exact ⟨hclosing'.ended (hw.2.unreserved fun _ => hq), hbase.trans hw.2.mono, hw.2.phase.trans hphase'⟩
  have hrelease := releaseCapture_frame u hclosing.core
  exact hgo _ hrelease.1 hrelease.2 rfl

end RS2ServerFix.LeechRecovery
