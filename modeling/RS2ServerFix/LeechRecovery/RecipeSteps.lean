import RS2ServerFix.LeechRecovery.Moves

namespace RS2ServerFix.LeechRecovery

open Reporting Lib Act

instance : IsPreorder Recovery Kept where
  refl := Kept.refl
  trans _ _ _ := Kept.trans

instance : IsPreorder Recovery Mono where
  refl := Mono.refl
  trans _ _ _ := Mono.trans

section Readings

theorem holds_still (c : Condition) : Still (holds c) := Still.query _

theorem runtimeClock_still : Still runtimeClock := Still.query _

theorem pureClock_still : Still pureClock := Still.bind (Still.query _) fun _ => Still.done _

theorem runtimeCaptureAdmission_still : Still runtimeCaptureAdmission :=
  Still.bind (holds_still _) fun _ => Still.bind Still.get fun _ => Still.ite (Still.done _) (holds_still _)

theorem sameLifecycle_still : Still sameLifecycle :=
  Still.bind (Still.query _) fun _ => Still.bind Still.get fun _ => Still.done _

theorem sameSourceEpoch_still : Still sameSourceEpoch :=
  Still.bind (Still.query _) fun _ => Still.bind Still.get fun _ => Still.done _

theorem optional_still (asked : Bool) (c : Condition) : Still (if asked then holds c else pure true) :=
  Still.ite (holds_still c) (Still.done true)

theorem inverse_still : Still inverse :=
  Still.bind Still.get fun _ => Still.ite (Still.done _)
    ((holds_still _).both (sameLifecycle_still.both ((holds_still _).both ((holds_still _).both (holds_still _)))))

end Readings

section Frames

theorem touch {f : Recovery → Recovery} (h : ∀ s, Touched s (f s)) :
    Stays Core Kept (Act.modify f : Rec Unit) := Stays.modify fun s hs => ⟨(h s).core hs, (h s).kept⟩

theorem fault_at {s : Recovery} {reason : RecoveryReason} {outcome : RecoveryOutcome} {restart : Bool} (h : Core s)
    (hp : Proper s reason outcome restart) : (fault reason outcome restart).StaysAt Core Kept s :=
  ⟨h.fault hp, h.fault_kept ..⟩

theorem fault_restart {reason : RecoveryReason} {outcome : RecoveryOutcome} (hn : reason ≠ .none)
    (hu : reason.critical = true ∨ outcome ≠ .nativeUnwind) : Stays Core Kept (fault reason outcome true) :=
  fun _ hs => fault_at hs ⟨hn, hu, fun _ => .inr rfl⟩

theorem releaseCapture_frame : Stays Core Kept releaseCapture := touch fun _ => { Touched.refl _ with quota := fun hn => by cases hn }

theorem setQpc_frame (now : Qpc) : Stays Core Kept (setValue fun v => { v with qpc := now.val }) :=
  touch fun _ => { Touched.refl _ with qpc := fun _ => Nat.le_of_lt_succ now.isLt }

theorem recoveryOwnerClockFault_frame : Stays Core Kept recoveryOwnerClockFault := by
  apply Stays.getBind
  intro s hs
  apply Ends.ite
  · intro _
    apply Ends.bind
    refine (fault_at hs { named := by decide, unwound := by decide, policy := .inr }).mono (fun _ t ht => ?_) fun _ => id
    apply Ends.ite
    · exact fun _ => (releaseCapture_frame t ht.1).after ht.2
    · exact fun _ => ht
  · exact fun _ => ⟨hs, .refl s⟩

theorem leaseRead_ends (standalone : Nat) (s : Recovery) :
    (leaseRead standalone).Ends (fun b t => t = s ∧ (b = true → s.terminal = false)) (fun _ => False) s := by
  apply Ends.getBind
  apply Ends.ite
  · exact fun _ => ⟨rfl, fun hn => by cases hn⟩
  · intro hn
    exact (runtimeCaptureAdmission_still.both (sameLifecycle_still.both (sameSourceEpoch_still.both
      ((holds_still _).both (runtimeCaptureAdmission_still.both ((Still.done _).both (holds_still _))))))).ends
        fun _ => ⟨rfl, fun _ => Bool.eq_false_iff.mpr hn⟩

theorem leaseClock_ends {s : Recovery} (hs : Core s) (ht : s.terminal = false) :
    leaseClock.Ends (fun b t => (Core t ∧ Kept s t) ∧ (b = true → t.terminal = false)) (fun t => Core t ∧ Kept s t) s := by
  apply runtimeClock_still.bindEnds
  intro clock
  cases clock with
  | none =>
      apply Ends.bind
      exact (recoveryOwnerClockFault_frame s hs).mono (fun _ t hu => ⟨hu, fun hn => by cases hn⟩) fun _ => id
  | some now =>
      apply Ends.getBind
      apply Ends.ite
      · exact fun _ => ⟨⟨hs, .refl s⟩, fun hn => by cases hn⟩
      · intro _
        apply Ends.bind
        apply Ends.modify
        exact runtimeCaptureAdmission_still.ends fun _ => ⟨setQpc_frame now s hs, fun _ => ht⟩

theorem lease_gives (standalone : Nat) (oldSession publishedSession : Bool) :
    Gives Core Kept (lease standalone oldSession publishedSession) fun b t => b = true → t.terminal = false := by
  intro s hs
  apply Ends.bind
  apply Ends.both
  refine (leaseRead_ends standalone s).mono (fun leased t ht => ?_) fun _ => False.elim
  obtain ⟨rfl, hterminal⟩ := ht
  have hno : (Core t ∧ Kept t t) ∧ (false = true → t.terminal = false) := ⟨⟨hs, .refl t⟩, fun hn => by cases hn⟩
  refine ⟨fun hleased => ?_, fun _ => Ends.ite (fun _ => hno) fun hn => (hn rfl).elim⟩
  apply (optional_still _ _).ends
  intro same
  have hgo : ∀ same : Bool, Ends (if !same then do
        fault .publishedIdentityChanged .mechanicsFailed true
        pure false
      else leaseClock) (fun b u => (Core u ∧ Kept t u) ∧ (b = true → u.terminal = false)) (fun u => Core u ∧ Kept t u) t := by
    intro same
    apply Ends.ite
    · intro _
      apply Ends.bind
      exact (fault_restart (by decide) (.inl (by decide)) t hs).mono
        (fun _ u hu => ⟨hu, fun hn => by cases hn⟩) fun _ => id
    · exact fun _ => leaseClock_ends hs (hterminal hleased)
  apply Ends.ite
  · exact fun _ => hno
  · intro _
    apply Ends.ite
    · exact fun _ => (holds_still _).bindEnds hgo
    · exact fun _ => hgo true

theorem lease_frame (standalone : Nat) (oldSession publishedSession : Bool) :
    Stays Core Kept (lease standalone oldSession publishedSession) :=
  (lease_gives standalone oldSession publishedSession).stays

end Frames

/-- A condition on the owner's state that nothing takes away which a native call
may run into, with what is to be shown of a program under it. -/
structure Context (I : Recovery → Prop) (R : Recovery → Recovery → Prop) : Prop where
  core : ∀ s, I s → Core s
  kept : ∀ s t, I s → Core t → Kept s t → I t
  rel : ∀ s t, Kept s t → R s t

namespace Context

variable {α : Type} {I J : Recovery → Prop} {R : Recovery → Recovery → Prop} {p : Rec α}
  {post : α → Recovery → Prop}

theorem gives (c : Context I R) (h : Gives Core Kept p post) : Gives I R p post := fun s hs =>
  (h s (c.core s hs)).mono (fun _ t ht => ⟨⟨c.kept s t hs ht.1.1 ht.1.2, c.rel s t ht.1.2⟩, ht.2⟩)
    fun t ht => ⟨c.kept s t hs ht.1 ht.2, c.rel s t ht.2⟩

theorem frame (c : Context I R) (h : Stays Core Kept p) : Stays I R p := (c.gives h.gives).stays

theorem touch (c : Context I R) {f : Recovery → Recovery} (h : ∀ s, I s → Touched s (f s)) :
    Stays I R (Act.modify f : Rec Unit) := fun s hs =>
  ⟨c.kept s (f s) hs ((h s hs).core (c.core s hs)) (h s hs).kept, c.rel s (f s) (h s hs).kept⟩

theorem fault_at (c : Context I R) {s : Recovery} {reason : RecoveryReason} {outcome : RecoveryOutcome} {restart : Bool}
    (hs : I s) (hp : Proper s reason outcome restart) : (fault reason outcome restart).StaysAt I R s := by
  have hk := (c.core s hs).fault_kept reason outcome restart
  exact ⟨c.kept s _ hs ((c.core s hs).fault hp) hk, c.rel s _ hk⟩

theorem and (c : Context I R) (hJ : ∀ s t, Kept s t → J s → J t) : Context (fun s => I s ∧ J s) R where
  core := fun s hs => c.core s hs.1
  kept := fun s t hs ht hk => ⟨c.kept s t hs.1 ht hk, hJ s t hk hs.2⟩
  rel := c.rel

theorem fault_restart (c : Context I R) {reason : RecoveryReason} {outcome : RecoveryOutcome} (hn : reason ≠ .none)
    (hu : reason.critical = true ∨ outcome ≠ .nativeUnwind) : Stays I R (fault reason outcome true) :=
  c.frame (LeechRecovery.fault_restart hn hu)

variable [IsPreorder Recovery R]

theorem observeFailure (c : Context I R) (hr : ∀ s, I s → s.recipeEntered = true) (callback : Bool) (code : UInt32) :
    Stays I R (observeFailure callback code) := by
  have hfault : ∀ rest : Rec Unit, Stays I R rest → Stays I R (do
      Act.modify fun r =>
        { r.setFlags fun f => { f with exceptionObserved := true, recipeNormalCompleted := false } with
          exceptionPending := true }
      setValue fun v => { v with exceptionCode := code }
      fault .nativeException .nativeUnwind true
      rest) := by
    intro rest hrest s hs
    have hk := (c.core s hs).excepted_kept code
    have ht := c.kept s _ hs ((c.core s hs).excepted_fault (hr s hs) code) hk
    exact (hrest _ ht).after (c.rel s _ hk)
  have htiming : ∀ (step : PrimaryCallbackTiming → Option Nat → PrimaryCallbackTiming) (rest : Rec Unit),
      (∀ t qpc, PrimaryCallbackTiming.Within t (step t qpc)) → Stays I R rest → Stays I R (do
        let clock ← pureClock
        Act.modify fun r => { r with callbackTiming := step r.callbackTiming clock }
        rest) := by
    intro step rest hstep hrest
    apply Stays.bind pureClock_still.stays
    intro clock
    refine Stays.bind (c.touch fun s hs => ?_) fun _ => hrest
    exact { Touched.refl _ with
      native := .inl (hr s hs)
      ticks := (hstep _ _).ticks
      measured := fun hn => .inl ((hstep _ _).phase.symm.trans hn) }
  cases callback with
  | false => exact hfault _ (Stays.done ())
  | true =>
      apply htiming PrimaryCallbackTiming.beginFilter _ PrimaryCallbackTiming.beginFilter_within
      apply hfault
      exact htiming PrimaryCallbackTiming.endFilter _ PrimaryCallbackTiming.endFilter_within (Stays.done ())

end Context

/-- A native call, from what may run in it and what an exception meets. -/
theorem native_stays {I : Recovery → Prop} {R : Recovery → Recovery → Prop} [IsPreorder Recovery R]
    {inner : Occurrence → Rec Unit} {filter : UInt32 → Rec Unit} (hin : ∀ o, Stays I R (inner o))
    (hf : ∀ code, Stays I R (filter code)) (call : NativeCall) : Stays I R (native inner filter call) := by
  apply Stays.bind (Stays.query _)
  intro answer
  refine Stays.bind (Stays.each (fun o => ?_) _) fun _ => ?_
  · cases o with
    | resumed code => exact hf code
    | pump => exact hin .pump
    | builder => exact hin .builder
    | finishSuccess result id => exact hin (.finishSuccess result id)
    | finishError code id => exact hin (.finishError code id)
    | createSuccess id => exact hin (.createSuccess id)
  · cases answer.outcome with
    | error code => exact Stays.raise code
    | ok value => exact Stays.done value

/-- The attempt is over and nothing of it is left to do. -/
structure Over (r : Recovery) : Prop where
  requested : r.requested = true
  terminal : r.terminal = true
  final : r.finalPending = false
  pending : r.pendingRecords = []
  retryable : r.value.flags.preflightRetryable = false

structure Rest (r : Recovery) : Prop where
  settled : r.recipeEntered = true → r.value.phase = .qualifying → r.terminal = true
  coherent : r.value.flags.metadataCoherent = true → r.terminal = true
  quota : r.recipeEntered = false → r.recoveryQuota.active = false
  suppressed : ∀ w, .suppressed w ∈ r.history → r.recipeEntered = true ∨ Over r

theorem Kept.over (h : Kept r r') (ho : Over r) : Over r' where
  requested := h.requested.trans ho.requested
  terminal := h.terminal ho.terminal
  final := (h.final ho.terminal ho.retryable).trans ho.final
  pending := h.pending.trans ho.pending
  retryable := h.unretryable ho.retryable

theorem Kept.suppressed (h : Kept r r') {w : RecoveryValue} : .suppressed w ∈ r'.history ↔ .suppressed w ∈ r.history := by
  obtain ⟨faults, he, hf⟩ := h.history
  rw [he]
  exact mem_faults hf rfl

theorem Kept.rest (h : Kept r r') (hr : Rest r) : Rest r' where
  settled := by
    rw [h.recipe, h.phase]
    exact fun he hp => h.terminal (hr.settled he hp)
  coherent := by
    rw [h.coherent]
    exact h.terminal ∘ hr.coherent
  quota := by
    rw [h.recipe]
    intro he
    apply Bool.eq_false_iff.mpr
    intro ha
    cases ((hr.quota he).symm.trans (h.quota ha) : false = true)
  suppressed := by
    intro w hw
    rw [h.recipe]
    rcases hr.suppressed w (h.suppressed.mp hw) with hn | hn
    · exact .inl hn
    · exact .inr (h.over hn)

/-- What holds wherever the owner thread may be come into. -/
structure Whole (r : Recovery) : Prop where
  core : Core r
  counter : Counter (budget r) r
  rest : r.pumpDepth = 0 → Rest r

/-- What an occurrence on the owner thread does: inside a pump it leaves the
attempt to the visit that is under way. -/
structure Rel (r r' : Recovery) : Prop where
  mono : Mono r r'
  kept : 1 ≤ r.pumpDepth → Kept r r'

theorem Kept.rel (h : Kept r r') : Rel r r' := ⟨h.mono, fun _ => h⟩

instance : IsPreorder Recovery Rel where
  refl r := (Kept.refl r).rel
  trans _ _ _ h h' := ⟨h.mono.trans h'.mono, fun hp => (h.kept hp).trans (h'.kept (h.mono.pump ▸ hp))⟩

theorem Kept.whole (h : Kept r r') (hw : Whole r) (hc : Core r') : Whole r' :=
  ⟨hc, h.counter hw.counter, fun hp => h.rest (hw.rest (h.pump.symm.trans hp))⟩

structure Busy (r : Recovery) : Prop where
  core : Core r
  counter : Counter (budget r) r
  coherent : r.value.flags.metadataCoherent = true → r.terminal = true
  recipe : r.recipeEntered = true
  pump : r.pumpDepth = 1

def Called (r : Recovery) : Prop := Whole r ∧ r.recipeEntered = true

theorem Busy.whole (h : Busy r) : Whole r := ⟨h.core, h.counter, fun hn => by cases (h.pump.symm.trans hn : 1 = 0)⟩

theorem Busy.kept (h : Busy r) (hc : Core r') (hk : Kept r r') : Busy r' where
  core := hc
  counter := hk.counter h.counter
  coherent := by
    rw [hk.coherent]
    exact hk.terminal ∘ h.coherent
  recipe := hk.recipe.trans h.recipe
  pump := hk.pump.trans h.pump

theorem busy : Context Busy Kept := ⟨fun _ h => h.core, fun _ _ => Busy.kept, fun _ _ => id⟩

theorem called : Context Called Rel where
  core _ h := h.1.core
  kept _ _ h hc hk := ⟨hk.whole h.1 hc, hk.recipe.trans h.2⟩
  rel _ _ := Kept.rel

/-- What may come into the owner thread. -/
def Inner (inner : Occurrence → Rec Unit) : Prop := ∀ o, Stays Whole Rel (inner o)

section Inner

variable {inner : Occurrence → Rec Unit}

theorem Inner.stays {I : Recovery → Prop} (h : Inner inner) (c : Context I Kept)
    (hvisit : ∀ s, I s → Whole s ∧ s.pumpDepth = 1) (o : Occurrence) : Stays I Kept (inner o) := by
  intro s hs
  obtain ⟨hwhole, hpump⟩ := hvisit s hs
  exact (h o s hwhole).mono
    (fun _ _ ht => ⟨c.kept _ _ hs ht.1.core (ht.2.kept hpump.ge), ht.2.kept hpump.ge⟩)
    fun _ ht => ⟨c.kept _ _ hs ht.1.core (ht.2.kept hpump.ge), ht.2.kept hpump.ge⟩

theorem Inner.busy (h : Inner inner) (o : Occurrence) : Stays Busy Kept (inner o) :=
  h.stays LeechRecovery.busy (fun _ hs => ⟨hs.whole, hs.pump⟩) o

theorem Inner.called (h : Inner inner) (o : Occurrence) : Stays Called Rel (inner o) := fun s hs =>
  (h o s hs.1).mono (fun _ _ ht => ⟨⟨ht.1, ht.2.mono.recipe hs.2⟩, ht.2⟩)
    fun _ ht => ⟨⟨ht.1, ht.2.mono.recipe hs.2⟩, ht.2⟩

theorem native_busy (h : Inner inner) (call : NativeCall) :
    Stays Busy Kept (native inner (observeFailure false) call) :=
  native_stays h.busy (LeechRecovery.busy.observeFailure (fun _ hs => hs.recipe) false) call

end Inner

end RS2ServerFix.LeechRecovery
