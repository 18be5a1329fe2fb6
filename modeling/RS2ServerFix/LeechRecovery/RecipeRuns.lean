import RS2ServerFix.LeechRecovery.RecipeSteps

namespace RS2ServerFix.LeechRecovery

open Reporting Lib Act

theorem pureClock_gives {I : Recovery → Prop} {R : Recovery → Recovery → Prop} [IsPreorder Recovery R] :
    Gives I R pureClock fun clock _ => ∀ q ∈ clock, q ≤ qpcMax := by
  intro s hs
  apply Ends.bind
  apply Ends.query
  intro reading
  refine ⟨⟨hs, Std.Refl.refl s⟩, fun q hq => ?_⟩
  obtain ⟨hq, -⟩ := Option.mem_filter_iff.mp hq
  cases reading with
  | none => cases hq
  | some now =>
      obtain rfl := Option.some.inj hq
      exact Nat.le_of_lt_succ now.isLt

variable {r r' : Recovery}

section Callbacks

theorem called_touch {f : Recovery → Recovery} (h : ∀ s, s.recipeEntered = true → Touched s (f s)) :
    Stays Called Rel (Act.modify f : Rec Unit) := called.touch fun s hs => h s hs.2

theorem finishObservation_called (result : FinishByte) (callback : UInt32) (errorCall : Bool) :
    Stays Called Rel (finishObservation result callback errorCall) := by
  have hfault : ∀ reason : RecoveryReason, reason ≠ .none → Stays Called Rel (fault reason .mechanicsFailed true) :=
    fun reason hn => called.fault_restart hn (.inr (by decide))
  apply Stays.getBind
  intro s hs
  refine Stays.ite (Stays.done ()) ?_ s hs
  apply Stays.bind sameLifecycle_still.stays
  intro same
  apply Stays.ite (hfault _ (by decide))
  refine Stays.bind (called_touch fun s hs => { Touched.refl s with native := .inl hs }) fun _ => ?_
  refine Stays.bind (called_touch fun s hs => { Touched.refl s with native := .inl hs }) fun _ => ?_
  apply Stays.bindGives pureClock_gives
  intro clock s hs hclock
  cases hq : clock.filter fun qpc => decide (_ ≤ qpc) with
  | none => exact hfault _ (by decide) s hs
  | some qpc =>
      have hmax := hclock qpc (Option.mem_filter_iff.mp hq).1
      refine Stays.bind (called_touch fun s hs => by
        exact { Touched.refl s with native := .inl hs, qpc := fun _ => hmax }) (fun _ => ?_) s hs
      apply Stays.ite (hfault _ (by decide))
      apply Stays.ite (hfault _ (by decide))
      refine Stays.bind (called_touch fun s hs => { Touched.refl s with native := .inl hs }) fun _ => ?_
      refine Stays.bind (called_touch fun s hs => { Touched.refl s with native := .inl hs }) fun _ => ?_
      exact Stays.ite (hfault _ (by decide)) (Stays.done ())

/-- A finish callback, whenever it comes. -/
theorem finishObservation_whole (result : FinishByte) (callback : UInt32) (errorCall : Bool) :
    Stays Whole Rel (finishObservation result callback errorCall) := by
  intro s hs
  by_cases hp : s.value.phase = .finishSubmitted
  · have hcalled : Called s := ⟨hs, hs.core.recipe_of_late (by rw [hp]; rfl)⟩
    exact (finishObservation_called result callback errorCall s hcalled).weaken fun _ ht => ht.1
  · apply Ends.getBind
    exact Ends.ite (fun _ => Stays.done () s hs) fun hn => absurd (.inr hp) hn

def Observed (r : Recovery) : Prop := Called r ∧ r.value.flags.createCallbackObserved = true

theorem observed : Context Observed Rel := called.and fun _ _ hk => hk.callback

theorem observed_touch {f : Recovery → Recovery} (h : ∀ s, Observed s → Touched s (f s)) :
    Stays Observed Rel (Act.modify f : Rec Unit) := observed.touch h

theorem Observed.recipe (h : Observed r) : r.recipeEntered = true := h.1.2

theorem createSafe_frame (claimed : Bool) : Stays Core Kept (createSafe claimed) := by
  apply Stays.bind (holds_still _).stays
  intro captured
  apply Stays.bind Stays.get
  intro r
  apply Stays.ite (Stays.done false)
  exact Stays.both (lease_frame 2 false false) (Still.stays ((holds_still _).both ((holds_still _).both
    ((holds_still _).both ((holds_still _).both runtimeCaptureAdmission_still)))))

def Forwarded (r : Recovery) : Prop := Observed r ∧ r.value.flags.createForwardEntered = true

theorem forwarded : Context Forwarded Rel := observed.and fun _ _ hk => hk.forward

theorem forwarded_touch {f : Recovery → Recovery} (h : ∀ s, Forwarded s → Touched s (f s)) :
    Stays Forwarded Rel (Act.modify f : Rec Unit) := forwarded.touch h

theorem Forwarded.recipe (h : Forwarded r) : r.recipeEntered = true := h.1.recipe

section Forward

variable {inner : Occurrence → Rec Unit}

theorem Inner.observed (h : Inner inner) (o : Occurrence) : Stays Observed Rel (inner o) :=
  (h.called o).and fun _ _ _ _ hr => hr.mono.callback

theorem Inner.forwarded (h : Inner inner) (o : Occurrence) : Stays Forwarded Rel (inner o) :=
  (h.observed o).and fun _ _ _ _ hr => hr.mono.forward

theorem createNative_forwarded (h : Inner inner) :
    Stays Forwarded Rel (do
      setStage .createForward
      let clock ← pureClock
      Act.modify fun r => { r with callbackTiming := r.callbackTiming.enterNative clock }
      let _ ← native inner (observeFailure true) .createSuccess
      let clock ← pureClock
      Act.modify fun r => { r with callbackTiming := r.callbackTiming.leaveNative clock }
      Act.modify fun r =>
        { r.setFlags fun f => { f with createForwardNormalCompleted := true, recipeNormalCompleted := true } with
          createReturned := true }) := by
  have htiming : ∀ f : PrimaryCallbackTiming → PrimaryCallbackTiming, (∀ t, PrimaryCallbackTiming.Within t (f t)) →
      Stays Forwarded Rel (Act.modify fun r => { r with callbackTiming := f r.callbackTiming } : Rec Unit) := by
    intro f hf
    apply forwarded_touch
    intro s hs
    exact { Touched.refl _ with native := .inl hs.recipe, ticks := (hf _).ticks, measured := fun hn => .inl ((hf _).phase.symm.trans hn) }
  refine Stays.bind (forwarded_touch fun s hs => { Touched.refl s with native := .inl hs.recipe }) fun _ => ?_
  apply Stays.bind pureClock_still.stays
  intro clock
  apply Stays.bind (htiming (fun t => t.enterNative clock) fun t => t.enterNative_within clock)
  intro _
  apply Stays.bind
  · exact native_stays h.forwarded (LeechRecovery.forwarded.observeFailure (fun _ hs => hs.recipe) true) .createSuccess
  intro _
  apply Stays.bind pureClock_still.stays
  intro clock
  apply Stays.bind (htiming (fun t => t.leaveNative clock) fun t => t.leaveNative_within clock)
  intro _
  apply forwarded_touch
  intro s hs
  exact { Touched.refl _ with native := .inl hs.recipe, completed := fun _ => .inr hs.2 }

theorem createForward_observed (h : Inner inner) (claimed : Bool) : Stays Observed Rel (createForward inner claimed) := by
  refine Stays.bind (observed_touch fun s hs => { Touched.refl s with native := .inl hs.recipe }) fun _ => ?_
  apply Stays.bind (LeechRecovery.observed.frame (createSafe_frame claimed))
  intro safe
  apply Stays.bind Stays.get
  intro r
  apply Stays.ite (LeechRecovery.observed.fault_restart (by decide) (.inr (by decide)))
  refine Stays.bindGives (Gives.modify (fun _ t => t.value.flags.createForwardEntered = true)
    (observed_touch fun s hs => ?_) fun _ _ => rfl) fun _ s hs hf => ?_
  · exact { Touched.refl _ with
      native := .inl hs.recipe
      forward := fun _ => rfl
      forwarded := fun _ => .inr hs.2 }
  · exact (createNative_forwarded h s ⟨hs, hf⟩).weaken fun _ ht => ht.1

theorem createCleanup_observed (abnormal : Bool) : Stays Observed Rel (createCleanup abnormal) := by
  have hend : Stays Observed Rel (do
      Act.modify fun r => { r with callbackDepth := r.callbackDepth - 1 }
      let clock ← pureClock
      Act.modify fun r => { r with callbackTiming := r.callbackTiming.finalize clock }) := by
    refine Stays.bind (observed_touch fun s hs => { Touched.refl s with native := .inl hs.recipe }) fun _ => ?_
    apply Stays.bind pureClock_still.stays
    intro clock
    apply observed_touch
    intro s hs
    exact { Touched.refl _ with
      native := .inl hs.recipe
      ticks := PrimaryCallbackTiming.finalize_ticks clock
      measured := fun _ => .inr hs.2 }
  cases abnormal with
  | false => exact hend
  | true =>
      apply Stays.bind pureClock_still.stays
      intro clock
      refine Stays.bind (observed_touch fun s hs => ?_) fun _ => hend
      have hw := PrimaryCallbackTiming.beginUnwind_within s.callbackTiming clock
      exact { Touched.refl _ with native := .inl hs.recipe, ticks := hw.ticks, measured := fun hn => .inl (hw.phase.symm.trans hn) }

theorem createAttributed_called (h : Inner inner) (callback : UInt32) : Stays Called Rel (do
      Act.modify fun r => { r with callbackDepth := r.callbackDepth + 1 }
      let clock ← pureClock
      let claimed ← act fun r => ({ r with callbackTiming := (r.callbackTiming.claim clock).1 },
        (r.callbackTiming.claim clock).2)
      Act.modify fun r => r.setFlags fun f => { f with createCallbackObserved := true }
      setValue fun v => { v with callbackId := callback }
      ((createForward inner claimed).filtered (observeFailure true)).cleaned createCleanup) := by
  refine Stays.bind (called_touch fun s hs => { Touched.refl s with native := .inl hs }) fun _ => ?_
  apply Stays.bind pureClock_still.stays
  intro clock
  refine Stays.bind (Stays.bind Stays.get fun r => Stays.bind (called_touch fun s hs => ?_) fun _ => Stays.done _)
    fun claimed => ?_
  · exact { Touched.refl _ with
      native := .inl hs
      ticks := PrimaryCallbackTiming.claim_ticks clock
      measured := fun hn => .inl (PrimaryCallbackTiming.claim_phase _ clock hn) }
  refine Stays.bindGives (Gives.modify (fun _ t => t.value.flags.createCallbackObserved = true)
    (called_touch fun s hs => ?_) fun _ _ => rfl) fun _ s hs hf => ?_
  · exact { Touched.refl _ with native := .inl hs, callback := fun _ => rfl }
  have hbody : Stays Observed Rel (do
      setValue fun v => { v with callbackId := callback }
      ((createForward inner claimed).filtered (observeFailure true)).cleaned createCleanup) := by
    refine Stays.bind (observed_touch fun s hs => { Touched.refl s with native := .inl hs.recipe }) fun _ => ?_
    refine Stays.cleaned (Stays.filtered (createForward_observed h claimed) ?_) createCleanup_observed
    exact LeechRecovery.observed.observeFailure (fun _ hs => hs.recipe) true
  exact (hbody s ⟨hs, hf⟩).weaken fun _ ht => ht.1

theorem createSuccess_called (h : Inner inner) (callback : UInt32) : Stays Called Rel (createSuccess inner callback) := by
  apply Stays.bind Stays.get
  intro r
  apply Stays.ite (Stays.done ())
  apply Stays.ite
  · refine Stays.bind (called_touch fun s hs => ?_) fun _ => called.fault_restart (by decide) (.inr (by decide))
    have hw := PrimaryCallbackTiming.invalidate_within s.callbackTiming
    exact { Touched.refl _ with native := .inl hs, ticks := hw.ticks, measured := fun hn => .inl (hw.phase.symm.trans hn) }
  · apply Stays.bind (Still.stays ((Still.done _).both ((holds_still _).both (holds_still _))))
    intro attributed
    apply Stays.ite (called.fault_restart (by decide) (.inr (by decide)))
    exact createAttributed_called h callback

/-- A create callback, whenever it comes. -/
theorem createSuccess_whole (h : Inner inner) (callback : UInt32) : Stays Whole Rel (createSuccess inner callback) := by
  intro s hs
  by_cases hp : s.value.phase = .recreating
  · have hcalled : Called s := ⟨hs, hs.core.recipe_of_late (by rw [hp]; rfl)⟩
    exact (createSuccess_called h callback s hcalled).weaken fun _ ht => ht.1
  · apply Ends.getBind
    exact Ends.ite (fun _ => Stays.done () s hs) fun hn => absurd (.inr (.inr (.inl hp))) hn

end Forward

end Callbacks

section Submit

variable {inner : Occurrence → Rec Unit}

theorem busy_touch {f : Recovery → Recovery} (h : ∀ s, s.recipeEntered = true → Touched s (f s)) :
    Stays Busy Kept (Act.modify f : Rec Unit) := busy.touch fun s hs => h s hs.recipe

theorem setStage_busy (stage : NativeStage) : Stays Busy Kept (setStage stage) :=
  busy_touch fun _ hs => { Touched.refl _ with native := .inl hs }

def Fresh (r : Recovery) : Prop := Busy r ∧ r.cancelEntered = false

theorem fresh : Context Fresh Kept := busy.and fun _ _ hk => hk.cancel.trans

theorem fresh_of_busy {α : Type} {p : Rec α} (h : Stays Busy Kept p) : Stays Fresh Kept p :=
  h.and fun _ _ _ _ hk => hk.cancel.trans

theorem native_fresh (h : Inner inner) (call : NativeCall) :
    Stays Fresh Kept (native inner (observeFailure false) call) := fresh_of_busy (native_busy h call)

theorem setStage_fresh (stage : NativeStage) : Stays Fresh Kept (setStage stage) := fresh_of_busy (setStage_busy stage)

theorem fresh_touch {f : Recovery → Recovery} (h : ∀ s, s.recipeEntered = true → Touched s (f s)) :
    Stays Fresh Kept (Act.modify f : Rec Unit) := fresh_of_busy (busy_touch h)

theorem lease_fresh (standalone : Nat) (oldSession publishedSession : Bool) :
    Stays Fresh Kept (lease standalone oldSession publishedSession) := fresh.frame (lease_frame _ _ _)

def Refuses (b : Bool) (r : Recovery) : Prop := b = false → r.terminal = true

theorem fault_refuses {reason : RecoveryReason} {outcome : RecoveryOutcome} (restart : Bool) (hn : reason ≠ .none)
    (hu : reason.critical = true ∨ outcome ≠ .nativeUnwind) : Gives Fresh Kept (do
      fault reason outcome restart
      pure false : Rec Bool) Refuses := by
  intro s hs
  have hp : Proper s reason outcome restart := ⟨hn, hu, fun hc => by cases (hs.2.symm.trans hc : false = true)⟩
  exact ⟨fresh.fault_at hs hp, fun _ => hs.1.core.fault_terminal ..⟩

theorem true_refuses : Gives Fresh Kept (pure true : Rec Bool) Refuses := Gives.done fun _ _ hn => by cases hn

theorem submitAcquire_fresh (h : Inner inner) : Gives Fresh Kept (submitAcquire inner) Refuses := by
  apply Gives.bind (setStage_fresh _)
  intro _
  apply Gives.bind (lease_fresh _ _ _)
  intro leased
  apply Gives.ite (fault_refuses _ (by decide) (.inr (by decide)))
  apply Gives.bind (native_fresh h _)
  intro type
  refine Gives.bind (fresh_touch fun s hs => { Touched.refl s with native := .inl hs }) fun _ => ?_
  apply Gives.bind
  · exact Stays.both (holds_still _).stays (Stays.both (Still.done _).stays (Stays.both (lease_fresh 3 true false)
      (holds_still _).stays))
  intro typed
  apply Gives.ite (fault_refuses _ (by decide) (.inr (by decide)))
  apply Gives.bind (native_fresh h _)
  intro holder
  refine Gives.bind (fresh_touch fun s hs => { Touched.refl s with native := .inl hs }) fun _ => ?_
  apply Gives.ite (fault_refuses _ (by decide) (.inr (by decide)))
  apply Gives.bind (setStage_fresh _)
  intro _
  apply Gives.bind (native_fresh h _)
  intro slot
  refine Gives.bind (fresh_touch fun s hs => { Touched.refl s with native := .inl hs }) fun _ => ?_
  apply Gives.ite (fault_refuses _ (by decide) (.inr (by decide)))
  refine Gives.bind (fresh_touch fun s hs => { Touched.refl s with native := .inl hs }) fun _ => ?_
  apply Gives.bind (lease_fresh _ _ _)
  intro leased
  exact Gives.ite (fault_refuses _ (by decide) (.inr (by decide))) true_refuses

theorem submitBind_fresh (h : Inner inner) : Gives Fresh Kept (submitBind inner) Refuses := by
  apply Gives.bind (setStage_fresh _)
  intro _
  refine Gives.bind (fresh_touch fun s hs => { Touched.refl s with native := .inl hs }) fun _ => ?_
  apply Gives.bind (native_fresh h _)
  intro holder
  refine Gives.bind (fresh_touch fun s hs => { Touched.refl s with native := .inl hs }) fun _ => ?_
  refine Gives.bind (fresh_touch fun s hs => { Touched.refl s with native := .inl hs }) fun _ => ?_
  apply Gives.bind Stays.get
  intro r
  apply Gives.bind (Stays.both (Still.done _).stays (lease_fresh 3 true false))
  intro bound
  apply Gives.ite (fault_refuses _ (by decide) (.inr (by decide)))
  apply Gives.bind (native_fresh h _)
  intro _
  apply Gives.bind (Stays.both (holds_still _).stays (lease_fresh 3 true false))
  intro resolved
  apply Gives.ite (fault_refuses _ (by decide) (.inr (by decide)))
  apply Gives.bind (setStage_fresh _)
  intro _
  apply Gives.bind (native_fresh h _)
  intro _
  apply Gives.bind (lease_fresh _ _ _)
  intro leased
  exact Gives.ite (fault_refuses _ (by decide) (.inr (by decide))) true_refuses

theorem submitRetire_fresh : Gives Fresh Kept submitRetire fun b t => t.terminal = !b := by
  have hfault : ∀ reason restart, reason ≠ RecoveryReason.none → Gives Fresh Kept (do
      fault reason .mechanicsFailed restart
      pure false : Rec Bool) fun b t => t.terminal = !b := fun reason restart hn s hs =>
    ⟨fresh.fault_at hs ⟨hn, .inr (by decide), fun hc => by cases (hs.2.symm.trans hc : false = true)⟩,
      hs.1.core.fault_terminal ..⟩
  refine Gives.bind (fresh_touch fun s hs => { Touched.refl s with native := .inl hs }) fun _ => ?_
  apply Gives.bind (setStage_fresh _)
  intro _
  refine Gives.bindGives (Gives.both (holds_still _).stays (fresh.gives (lease_gives 3 true false))
    fun _ hn => by cases hn) fun retired s hs hretired => ?_
  apply Ends.ite
  · intro _
    exact Gives.bind (Stays.query _) (fun _ => hfault _ _ (by decide)) s hs
  · intro hn
    have hgoing : s.terminal = false := hretired (by simpa only [Bool.not_eq_true', Bool.not_eq_false] using hn)
    apply (holds_still _).bindEnds
    intro same
    apply Ends.ite
    · exact fun _ => hfault _ _ (by decide) s hs
    · exact fun _ => ⟨⟨hs, Kept.refl s⟩, hgoing⟩

theorem Core.cancelled (h : Core r) (hr : r.recipeEntered = true) (ht : r.terminal = false) :
    Core ({ r with cancelEntered := true }.log .cancelled) := by
  have hv := h.valid
  exact { h with
    valid := { hv with }
    pristine := fun hn => by cases (hr.symm.trans hn : true = false)
    late := fun _ => rfl
    rejected := fun hn => by cases (ht.symm.trans (h.rejected hn).2.1 : false = true)
    failed := fun hn => (h.failed hn).imp_right fun hf => ⟨rfl, hf.2⟩
    adopted := fun _ => rfl
    policy := fun _ hn => by cases (ht.symm.trans hn : false = true)
    calm := fun hn => h.calm (noCritical_of_cons hn)
    retryable := fun hf => by cases (hr.symm.trans (h.retryable hf).recipe : true = false)
    counted := (List.countP_cons_of_neg Bool.false_ne_true).trans h.counted
    recipes := (List.mem_cons.trans (or_iff_right fun hn : Event.recipe = .cancelled => by cases hn)).trans h.recipes
    refused := fun v hv => h.refused v ((List.mem_cons.mp hv).resolve_left fun hn => by cases hn)
    sound := ⟨trivial, h.sound⟩ }

theorem Core.requested_of_recipe (h : Core r) (hr : r.recipeEntered = true) : r.requested = true :=
  h.requested_of_phase (h.recipe hr).1

theorem Busy.unretryable (h : Busy r) : r.value.flags.preflightRetryable = false := by
  cases hf : r.value.flags.preflightRetryable with
  | false => rfl
  | true => cases (h.recipe.symm.trans (h.core.retryable hf).recipe : true = false)

theorem Busy.transition (h : Busy r) {goal : RecoveryPhase} {qpc : Nat} {failed : Recovery → Prop} (he : Enters r goal)
    (hq : qpc ≤ qpcMax) (hb : r.value.phase ≠ goal → r.value.phase.budget + 2 ≤ goal.budget) :
    (transition goal qpc).Ends (fun good t => (Busy t ∧ Mono r t) ∧ t.value.phase = goal ∧
        (good = false → t.terminal = true)) failed r := by
  obtain ⟨hcore, hm⟩ := h.core.transition he h.unretryable hq (h.counter.lt (budget_le r).2)
  refine ⟨⟨⟨hcore, hm.counter h.unretryable h.counter hb, ?_, hm.moved.recipe.trans h.recipe,
    hm.moved.pump.trans h.pump⟩, hm.moved.mono⟩, hm.phase, hm.ended⟩
  intro hn
  rw [hm.coherent] at hn
  exact hm.moved.terminal (h.coherent hn)

/-- The recipe has ended the attempt or has left its qualification. -/
def Submitted (r : Recovery) : Prop := r.terminal = true ∨ r.value.phase = .finishSubmitted

theorem Kept.submitted (h : Kept r r') (hs : Submitted r) : Submitted r' := hs.imp h.terminal h.phase.trans

def Cancelled (r : Recovery) : Prop := Busy r ∧ r.cancelEntered = true ∧ r.value.phase = .qualifying

theorem cancelled : Context Cancelled Kept :=
  busy.and fun _ _ hk hj => ⟨hk.cancel.trans hj.1, hk.phase.trans hj.2⟩

theorem cancelled_of_busy {α : Type} {p : Rec α} (h : Stays Busy Kept p) : Stays Cancelled Kept p :=
  h.and fun _ _ _ _ hk hj => ⟨hk.cancel.trans hj.1, hk.phase.trans hj.2⟩

theorem Cancelled.enters (h : Cancelled r) : Enters r .finishSubmitted where
  requested := h.1.core.requested_of_recipe h.1.recipe
  asked := rfl
  early := fun hn => by cases (h.1.recipe.symm.trans hn : true = false)
  recipe := fun _ => by decide
  served := fun hn => by rcases hn with hn | hn <;> cases hn
  late := fun _ => h.2.1
  rejected := fun hn => by cases hn
  failed := fun hn => by cases hn
  published := fun hn => by rcases hn with hn | hn <;> cases hn

theorem cancelled_ends (h : Inner inner) {s : Recovery} (hs : Cancelled s) : Ends (do
      let _ ← native inner (observeFailure false) .cancel
      let cancelled ← lease 3 true false <&&> holds .heartbeatCancelled
      if !cancelled then
        fault .lifecycleChanged .mechanicsFailed true
        pure false
      else
        Act.modify fun r => r.setFlags fun f => { f with cancellationCompleted := true }
        let r ← Act.get
        transition .finishSubmitted r.value.qpc : Rec Bool)
      (fun _ t => (Busy t ∧ Mono s t) ∧ Submitted t) (fun t => Busy t ∧ Mono s t) s := by
  apply StaysAt.bindEnds (cancelled_of_busy (native_busy h .cancel) s hs)
  · exact fun t ht hk => ⟨ht.1, hk.mono⟩
  intro _ t ht hk
  apply StaysAt.bindEnds (Stays.both (LeechRecovery.cancelled.frame (lease_frame 3 true false)) (holds_still _).stays t ht)
  · exact fun u hu hk' => ⟨hu.1, (hk.trans hk').mono⟩
  intro granted u hu hk'
  apply Ends.ite
  · intro _
    apply Ends.bind
    apply Ends.modify
    have hf : (fault .lifecycleChanged .mechanicsFailed true).StaysAt Cancelled Kept u :=
      LeechRecovery.cancelled.fault_restart (by decide) (.inr (by decide)) u hu
    exact ⟨⟨hf.1.1, ((hk.trans hk').trans hf.2).mono⟩, .inl (hu.1.core.fault_terminal ..)⟩
  · intro _
    apply Ends.bind
    apply Ends.modify
    apply Ends.getBind
    have htouch := cancelled_of_busy (busy_touch (f := fun r => r.setFlags fun f => { f with cancellationCompleted := true })
      fun s hs => { Touched.refl s with native := .inl hs }) u hu
    refine (Busy.transition htouch.1.1 htouch.1.enters htouch.1.1.core.valid.qpc fun _ => ?_).mono (fun good v hv => ?_) fun _ => id
    · rw [htouch.1.2.2]
      decide
    · exact ⟨⟨hv.1.1, ((hk.trans hk').trans htouch.2).mono.trans hv.1.2⟩, .inr hv.2.1⟩

theorem submitCancel_ends (h : Inner inner) {s : Recovery} (hs : Fresh s) (hp : s.value.phase = .qualifying)
    (ht : s.terminal = false) :
    (submitCancel inner).Ends (fun _ t => (Busy t ∧ Mono s t) ∧ Submitted t) (fun t => Busy t ∧ Mono s t) s := by
  have hstage := setStage_busy .cancel s hs.1
  have hcore := Core.cancelled (r := { s with value := { s.value with nativeStage := .cancel } }) hstage.1.core hs.1.recipe
    ht
  have hmono : Mono s ({ s with
      value := { s.value with nativeStage := .cancel }, cancelEntered := true }.log .cancelled) :=
    { Mono.refl _ with cancel := fun _ => rfl, history := List.suffix_cons .. }
  have hbusy : Cancelled ({ s with
      value := { s.value with nativeStage := .cancel }, cancelEntered := true }.log .cancelled) :=
    ⟨⟨hcore, hs.1.counter.step rfl le_rfl, hs.1.coherent, hs.1.recipe, hs.1.pump⟩, rfl, hp⟩
  apply Ends.bind
  apply Ends.modify
  apply Ends.bind
  apply Ends.modify
  exact (cancelled_ends h hbusy).mono (fun _ u hu => ⟨⟨hu.1.1, hmono.trans hu.1.2⟩, hu.2⟩)
    fun u hu => ⟨hu.1, hmono.trans hu.2⟩

theorem fault_busy {reason : RecoveryReason} {outcome : RecoveryOutcome} (hn : reason ≠ .none)
    (hu : reason.critical = true ∨ outcome ≠ .nativeUnwind) : Stays Busy Kept (fault reason outcome true) :=
  busy.fault_restart hn hu

theorem submitEnqueue_busy (h : Inner inner) : Stays Busy Kept (submitEnqueue inner) := by
  apply Stays.bind (setStage_busy _)
  intro _
  refine Stays.bind (busy_touch fun s hs => { Touched.refl s with native := .inl hs }) fun _ => ?_
  apply Stays.bind (native_busy h _)
  intro returned
  refine Stays.bind (busy_touch fun s hs => { Touched.refl s with native := .inl hs }) fun _ => ?_
  refine Stays.bind (busy_touch fun s hs => { Touched.refl s with native := .inl hs }) fun _ => ?_
  apply Stays.bind Stays.get
  intro r
  apply Stays.ite (fault_busy (by decide) (.inr (by decide)))
  refine Stays.bind (busy_touch fun s hs => { Touched.refl s with native := .inl hs }) fun _ => ?_
  refine Stays.bind (busy_touch fun s hs => { Touched.refl s with native := .inl hs }) fun _ => ?_
  apply Stays.ite (fault_busy (by decide) (.inr (by decide)))
  exact busy_touch fun s hs => { Touched.refl s with native := .inl hs }

theorem releaseOwned_busy (h : Inner inner) : Stays Busy Kept (releaseOwned inner) := by
  apply Stays.bind Stays.get
  intro r
  apply Stays.ite (Stays.done ())
  apply Stays.bind inverse_still.stays
  intro undone
  apply Stays.ite (fault_busy (by decide) (.inl (by decide)))
  refine Stays.bind (busy_touch fun s hs => { Touched.refl s with native := .inl hs }) fun _ => ?_
  apply Stays.bind (setStage_busy _)
  intro _
  have hlast : Stays Busy Kept (setValue fun v => { v with resourcePhase := .localReleased }) :=
    busy_touch fun s hs => { Touched.refl s with native := .inl hs }
  apply Stays.ite
  · exact Stays.bind (native_busy h _) fun _ => hlast
  · apply Stays.bind (native_busy h _)
    intro holder
    exact Stays.bind (busy_touch fun s hs => { Touched.refl s with native := .inl hs }) fun _ => hlast

theorem submitCleanup_busy (h : Inner inner) (abnormal : Bool) : Stays Busy Kept (submitCleanup inner abnormal) := by
  apply Stays.bind (releaseOwned_busy h)
  intro _
  cases abnormal with
  | false => exact Stays.done ()
  | true => exact busy.frame releaseCapture_frame

/-- An exception that reaches the frame of the recipe has ended the attempt. -/
theorem observeFailure_ends {s : Recovery} (hs : Busy s) (code : UInt32) {failed : Recovery → Prop} :
    (observeFailure false code).Ends (fun _ t => (Busy t ∧ Kept s t) ∧ t.terminal = true) failed s := by
  have hstay := busy.observeFailure (fun _ hs => hs.recipe) false code s hs
  refine ⟨hstay, ?_⟩
  change ((s.excepted code).fault .nativeException .nativeUnwind true).terminal = true
  rw [Recovery.fault_excepted]
  exact hs.core.fault_terminal .nativeException .nativeUnwind true

theorem submitBody_ends (h : Inner inner) {s : Recovery} (hs : Fresh s) (hp : s.value.phase = .qualifying) :
    (submitBody inner).Ends (fun _ t => (Busy t ∧ Mono s t) ∧ Submitted t) (fun t => Busy t ∧ Mono s t) s := by
  have hrefused : ∀ {t : Recovery}, Fresh t → Kept s t → Refuses false t →
      (Busy t ∧ Mono s t) ∧ Submitted t := fun ht hk hr => ⟨⟨ht.1, hk.mono⟩, .inl (hr rfl)⟩
  apply Ends.bind
  apply Ends.both
  refine (submitAcquire_fresh h s hs).mono (fun acquired t ht => ⟨fun _ => ?_, ?_⟩) fun t ht => ⟨ht.1.1, ht.2.mono⟩
  · apply Ends.both
    refine (submitBind_fresh h t ht.1.1).mono (fun bound u hu => ⟨fun _ => ?_, ?_⟩)
      fun u hu => ⟨hu.1.1, (ht.1.2.trans hu.2).mono⟩
    · apply Ends.both
      refine (submitRetire_fresh u hu.1.1).mono (fun retired v hv => ⟨?_, ?_⟩)
        fun v hv => ⟨hv.1.1, ((ht.1.2.trans hu.1.2).trans hv.2).mono⟩
      · rintro rfl
        have hk := (ht.1.2.trans hu.1.2).trans hv.1.2
        refine (submitCancel_ends h hv.1.1 (hk.phase.trans hp) hv.2).mono (fun acquired w hw => ?_)
          fun w hw => ⟨hw.1, hk.mono.trans hw.2⟩
        apply Ends.ite
        · intro _
          exact (submitEnqueue_busy h w hw.1.1).mono
            (fun _ x hx => ⟨⟨hx.1, (hk.mono.trans hw.1.2).trans hx.2.mono⟩, hx.2.submitted hw.2⟩)
            fun x hx => ⟨hx.1, (hk.mono.trans hw.1.2).trans hx.2.mono⟩
        · exact fun _ => ⟨⟨hw.1.1, hk.mono.trans hw.1.2⟩, hw.2⟩
      · rintro rfl
        exact ⟨⟨hv.1.1.1, ((ht.1.2.trans hu.1.2).trans hv.1.2).mono⟩, .inl hv.2⟩
    · rintro rfl
      exact hrefused hu.1.1 (ht.1.2.trans hu.1.2) hu.2
  · rintro rfl
    exact hrefused ht.1.1 ht.1.2 ht.2

def Recovery.begun (r : Recovery) : Recovery :=
  { r.setFlags fun f => { f with recipeEntered := true } with recipeEntered := true }.log .recipe

theorem Core.begun (h : Core r) (hr : r.recipeEntered = false) (hp : r.value.phase = .qualifying)
    (hf : r.value.flags.preflightRetryable = false) : Core r.begun := by
  have hv := h.valid
  have hrequested : r.requested = true := h.requested_of_phase (by rw [hp]; rfl)
  exact { h with
    valid := { hv with retryable := fun hn => by cases (hf.symm.trans hn : false = true) }
    pristine := fun hn => by cases hn
    unrequested := fun hn => by cases (hrequested.symm.trans hn : true = false)
    recipe := fun _ => by
      change r.value.phase.unrequested = false ∧ r.value.phase ≠ .requested
      rw [hp]
      decide
    calm := fun hn => h.calm (noCritical_of_cons hn)
    retryable := fun hn => by cases (hf.symm.trans hn : false = true)
    operations := fun hn => absurd hn (h.served (.inr hp))
    counted := (List.countP_cons_of_neg Bool.false_ne_true).trans h.counted
    recipes := ⟨fun _ => rfl, fun _ => List.mem_cons_self ..⟩
    refused := fun v hv => h.refused v ((List.mem_cons.mp hv).resolve_left fun hn => by cases hn)
    sound := ⟨fun hn => (by cases (hr.symm.trans (h.recipes.mp hn) : false = true)), h.sound⟩ }

/-- The recipe, entered from a qualification, ends the attempt or leaves it
submitted. -/
theorem submitFinish_ends (h : Inner inner) {s : Recovery} (hc : Core s) (hcount : Counter (budget s) s)
    (hcoherent : s.value.flags.metadataCoherent = true → s.terminal = true) (hr : s.recipeEntered = false)
    (hpump : s.pumpDepth = 1) (hp : s.value.phase = .qualifying) (hf : s.value.flags.preflightRetryable = false) :
    (submitFinish inner).Ends (fun _ t => (Busy t ∧ Mono s t) ∧ Submitted t)
      (fun t => (Busy t ∧ Mono s t) ∧ Submitted t) s := by
  have hfresh : Fresh s.begun :=
    ⟨⟨hc.begun hr hp hf, hcount.step rfl le_rfl, hcoherent, rfl, hpump⟩, (hc.pristine hr).cancelEntered⟩
  have hmono : Mono s s.begun :=
    { Mono.refl _ with recipe := fun _ => rfl, history := List.suffix_cons .. }
  have hcleanup : ∀ (abnormal : Bool) (t : Recovery), (Busy t ∧ Mono s t) ∧ Submitted t →
      ((submitCleanup inner abnormal).filtered (observeFailure false)).Ends (fun _ u => (Busy u ∧ Mono s u) ∧ Submitted u)
        (fun u => (Busy u ∧ Mono s u) ∧ Submitted u) t := by
    intro abnormal t ht
    have hstay := Stays.filtered (submitCleanup_busy h abnormal) (busy.observeFailure (fun _ hs => hs.recipe) false)
    exact (hstay t ht.1.1).mono (fun _ u hu => ⟨⟨hu.1, ht.1.2.trans hu.2.mono⟩, hu.2.submitted ht.2⟩)
      fun u hu => ⟨⟨hu.1, ht.1.2.trans hu.2.mono⟩, hu.2.submitted ht.2⟩
  apply Ends.bind
  apply Ends.modify
  apply Ends.cleaned
  apply Ends.filtered
  refine (submitBody_ends h hfresh hp).mono (fun _ t ht => ?_) fun t ht code => ?_
  · exact hcleanup false t ⟨⟨ht.1.1, hmono.trans ht.1.2⟩, ht.2⟩
  · refine (observeFailure_ends ht.1 code).mono (fun _ u hu => ?_) fun _ => id
    exact hcleanup true u ⟨⟨hu.1.1, hmono.trans (ht.2.trans hu.1.2.mono)⟩, .inl hu.2⟩

theorem changedOnlyCreate_busy (installed : Bool) : Stays Busy Kept (changedOnlyCreate installed) := by
  apply Stays.bind (Stays.query _)
  intro found
  cases found with
  | none => exact Stays.done false
  | some place =>
      apply Stays.bind Stays.get
      intro r
      apply Stays.ite (Stays.done false)
      exact Stays.bind (busy_touch fun s hs => { Touched.refl s with native := .inl hs }) fun _ => Stays.done true

theorem installCreateGuard_busy : Stays Busy Kept installCreateGuard := by
  apply Stays.bind (Stays.both (changedOnlyCreate_busy false) (holds_still _).stays)
  intro ready
  apply Stays.ite (Stays.done false)
  refine Stays.bind (busy_touch fun s hs => ?_) fun _ => ?_
  · exact { Touched.refl _ with native := .inl hs, ticks := fun _ => Nat.zero_le _, measured := fun hn => by cases hn }
  apply Stays.bind (setStage_busy _)
  intro _
  apply Stays.bind (Stays.both (holds_still _).stays (Stays.both (busy.frame (lease_frame 2 false false))
    (changedOnlyCreate_busy true)))
  intro installed
  apply Stays.ite (Stays.done false)
  refine Stays.bind (busy_touch fun s hs => { Touched.refl s with native := .inl hs, installed := fun _ => rfl }) fun _ => ?_
  apply Stays.bind Stays.get
  intro r
  exact Stays.bind (busy_touch fun s hs => { Touched.refl s with native := .inl hs }) fun _ => Stays.done true

def Accepted (r : Recovery) : Prop := Busy r ∧ r.value.phase = .finishAccepted

theorem accepted : Context Accepted Kept := busy.and fun _ _ hk => hk.phase.trans

theorem Accepted.enters (h : Accepted r) : Enters r .recreating where
  requested := h.1.core.requested_of_recipe h.1.recipe
  asked := rfl
  early := fun hn => by cases (h.1.recipe.symm.trans hn : true = false)
  recipe := fun _ => by decide
  served := fun hn => by rcases hn with hn | hn <;> cases hn
  late := fun _ => h.1.core.late (by rw [h.2]; rfl)
  rejected := fun hn => by cases hn
  failed := fun hn => by cases hn
  published := fun hn => by rcases hn with hn | hn <;> cases hn

/-- The cleanup, the start and the guarded create. -/
theorem recreateNative_busy (h : Inner inner) : Stays Busy Kept (do
      setStage .cleanup
      let _ ← native inner (observeFailure false) .cleanup
      let cleaned ← lease 0 false false <&&> holds .sessionEmpty <&&> holds .createFirstFree
      if !cleaned then fault .lifecycleChanged .mechanicsFailed true
      else
        setStage .start
        let _ ← native inner (observeFailure false) .start
        let started ← lease 1 false false <&&> holds .sessionEmpty <&&> holds .createFirstFree
        if !started then fault .createFailed .clearedCacheNoSession true
        else
          setStage .create
          let _ ← native inner (observeFailure false) .create
          let created ← lease 2 false false <&&> holds .sessionEmpty <&&> installCreateGuard
          if !created then fault .createFailed .clearedCacheNoSession true
          else Act.modify fun r => r.setFlags fun f => { f with recipeNormalCompleted := true } : Rec Unit) := by
  have hleased : ∀ standalone, Stays Busy Kept (lease standalone false false <&&> holds .sessionEmpty <&&>
      holds .createFirstFree) := fun standalone =>
    Stays.both (busy.frame (lease_frame standalone false false)) (Still.stays ((holds_still _).both (holds_still _)))
  apply Stays.bind (setStage_busy _)
  intro _
  apply Stays.bind (native_busy h _)
  intro _
  apply Stays.bind (hleased 0)
  intro cleaned
  apply Stays.ite (fault_busy (by decide) (.inr (by decide)))
  apply Stays.bind (setStage_busy _)
  intro _
  apply Stays.bind (native_busy h _)
  intro _
  apply Stays.bind (hleased 1)
  intro started
  apply Stays.ite (fault_busy (by decide) (.inr (by decide)))
  apply Stays.bind (setStage_busy _)
  intro _
  apply Stays.bind (native_busy h _)
  intro _
  apply Stays.bind (Stays.both (busy.frame (lease_frame 2 false false)) (Stays.both (holds_still _).stays
    installCreateGuard_busy))
  intro created
  apply Stays.ite (fault_busy (by decide) (.inr (by decide)))
  exact busy_touch fun s hs => { Touched.refl s with native := .inl hs }

def Later (r : Recovery) : Prop := Busy r ∧ r.value.phase ≠ .qualifying

theorem later_of_busy {α : Type} {p : Rec α} (h : Stays Busy Kept p) : Stays Later Kept p :=
  h.and fun _ _ _ _ hk hp => hk.phase ▸ hp

theorem recreateBody_ends (h : Inner inner) {s : Recovery} (hs : Accepted s) :
    (recreateBody inner).Ends (fun _ t => Later t ∧ Mono s t) (fun t => Later t ∧ Mono s t) s := by
  have hlater : ∀ {t : Recovery}, Accepted t → Later t := fun ht => ⟨ht.1, by rw [ht.2]; decide⟩
  apply StaysAt.bindEnds (Stays.both (accepted.frame (lease_frame 3 true false)) (Still.stays ((holds_still _).both
    ((holds_still _).both (holds_still _)))) s hs)
  · exact fun t ht hk => ⟨hlater ht, hk.mono⟩
  intro ready t ht hk
  apply Ends.ite
  · intro _
    have hf : (fault .requestPoolUnavailable .mechanicsFailed true).StaysAt Accepted Kept t :=
      accepted.fault_restart (by decide) (.inr (by decide)) t ht
    exact ⟨hlater hf.1, (hk.trans hf.2).mono⟩
  · intro _
    have htouch : Stays Accepted Kept (setValue fun v =>
        { v with requestId := 0, callbackId := 0, apiReturnedId := 0, flags := { v.flags with attributionValid := false } }) :=
      accepted.touch fun s hs => { Touched.refl s with native := .inl hs.1.recipe }
    apply StaysAt.bindEnds (htouch t ht)
    · exact fun u hu hk' => ⟨hlater hu, (hk.trans hk').mono⟩
    intro _ u hu hk'
    have hbase := (hk.trans hk').mono
    apply Ends.getBind
    apply Ends.bind
    refine (Busy.transition hu.1 hu.enters hu.1.core.valid.qpc fun _ => by rw [hu.2]; decide).mono (fun moved v hv => ?_) fun _ => id
    have hv' : Later v := ⟨hv.1.1, by rw [hv.2.1]; decide⟩
    apply Ends.ite
    · intro _
      exact (later_of_busy (recreateNative_busy h) v hv').mono
        (fun _ w hw => ⟨hw.1, (hbase.trans hv.1.2).trans hw.2.mono⟩)
        fun w hw => ⟨hw.1, (hbase.trans hv.1.2).trans hw.2.mono⟩
    · exact fun _ => ⟨hv', hbase.trans hv.1.2⟩

theorem recreate_ends (h : Inner inner) {s : Recovery} (hs : Accepted s) :
    (recreate inner).Ends (fun _ t => Later t ∧ Mono s t) (fun t => Later t ∧ Mono s t) s := by
  have hcleanup : ∀ (abnormal : Bool) (t : Recovery), Later t ∧ Mono s t →
      (do if abnormal then releaseCapture : Rec Unit).Ends (fun _ u => Later u ∧ Mono s u)
        (fun u => Later u ∧ Mono s u) t := by
    intro abnormal t ht
    have hstay : Stays Later Kept (do if abnormal then releaseCapture : Rec Unit) :=
      later_of_busy (Stays.ite (busy.frame releaseCapture_frame) (Stays.done ()))
    exact (hstay t ht.1).mono (fun _ u hu => ⟨hu.1, ht.2.trans hu.2.mono⟩) fun u hu => ⟨hu.1, ht.2.trans hu.2.mono⟩
  have hfirst : Stays Accepted Kept (Act.modify fun r => r.setFlags fun f => { f with recipeNormalCompleted := false }
      : Rec Unit) := accepted.touch fun s hs => { Touched.refl s with native := .inl hs.1.recipe }
  apply StaysAt.bindEnds (hfirst s hs)
  · exact fun t ht hk => ⟨⟨ht.1, by rw [ht.2]; decide⟩, hk.mono⟩
  intro _ t ht hk
  apply Ends.cleaned
  apply Ends.filtered
  refine (recreateBody_ends h ht).mono (fun _ u hu => hcleanup false u ⟨hu.1, hk.mono.trans hu.2⟩) fun u hu code => ?_
  have hfilter : Stays Later Kept (observeFailure false code) :=
    later_of_busy (busy.observeFailure (fun _ hs => hs.recipe) false code)
  exact (hfilter u hu.1).mono (fun _ v hv => hcleanup true v ⟨hv.1, (hk.mono.trans hu.2).trans hv.2.mono⟩)
    fun v hv => hcleanup true v ⟨hv.1, (hk.mono.trans hu.2).trans hv.2.mono⟩

end Submit

end RS2ServerFix.LeechRecovery
