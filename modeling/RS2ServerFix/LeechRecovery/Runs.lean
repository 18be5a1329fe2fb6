import RS2ServerFix.LeechRecovery.RequestSteps

namespace RS2ServerFix.LeechRecovery

open Reporting Lib Act

variable {r r' : Recovery}

def Recovery.within (r : Recovery) (pump builder timing : Nat) : Recovery :=
  { r with pumpDepth := pump, builderDepth := builder, timingDepth := timing }

section Depths

variable {pump builder timing : Nat}

theorem Core.within (h : Core r) : Core (r.within pump builder timing) := by
  exact { h with
    pristine := fun hn => { h.pristine hn with }
    retryable := fun hn => { h.retryable hn with } }

theorem Rest.within (h : Rest r) : Rest (r.within pump builder timing) := by
  exact { h with suppressed := fun w hw => (h.suppressed w hw).imp_right fun ho => { ho with } }

theorem Whole.within (h : Whole r) (hr : Rest r ∨ pump ≠ 0) : Whole (r.within pump builder timing) where
  core := h.core.within
  counter := h.counter.step rfl le_rfl
  rest := fun hp => (hr.resolve_right fun hn => hn hp).within

theorem Ended.whole (h : Ended r) : Whole r := ⟨h.core, h.counter, fun _ => h.rest⟩

end Depths

section Visits

variable {inner : Occurrence → Rec Unit}

theorem Inner.ended (h : Inner inner) (o : Occurrence) : Stays Ended Kept (inner o) :=
  h.stays LeechRecovery.ended (fun _ hs => ⟨hs.whole, hs.pump⟩) o

theorem native_ended (h : Inner inner) (call : NativeCall) : Stays Ended Kept (native inner noFilter call) :=
  native_stays h.ended (fun _ => Stays.done ()) call

theorem recoveryServiceDue_ends {s : Recovery} (hs : Ended s) :
    recoveryServiceDue.Ends (fun due t => (Ended t ∧ Mono s t) ∧ (due = true → Ready t))
      (fun t => Ended t ∧ Mono s t) s := by
  have hno : (Ended s ∧ Mono s s) ∧ (false = true → Ready s) := ⟨⟨hs, .refl s⟩, fun hn => by cases hn⟩
  apply Ends.getBind
  apply Ends.ite
  · exact fun _ => hno
  intro hn
  have hstarted : s.controlStarted = true := by
    simp only [not_or, Bool.not_eq_true', Bool.not_eq_false] at hn
    exact hn.2
  have hready : ¬Over s → Ready s := fun ho => ⟨fun w hw => (hs.rest.suppressed w hw).resolve_right ho, hstarted⟩
  have hlast : ∀ t, Ended t → Kept s t → ¬Over s → Ends (do
      let failed ← holds .controlFailed
      let latch ← readLatch
      pure (decide (latch ≠ .none) || failed) : Rec Bool)
      (fun due u => (Ended u ∧ Mono s u) ∧ (due = true → Ready u)) (fun u => Ended u ∧ Mono s u) t := by
    intro t ht hk ho
    apply (holds_still _).bindEnds
    intro failed
    apply StaysAt.bindEnds (ended.frame readLatch_frame t ht)
    · exact fun u hu hk' => ⟨hu, (hk.trans hk').mono⟩
    · exact fun _ u hu hk' => ⟨⟨hu, (hk.trans hk').mono⟩, fun _ => (hk.trans hk').ready (hready ho)⟩
  have hgo : ∀ (foreign : Bool) t, Ended t → Kept s t → (foreign = true → ¬Over s) → Ends (
      if foreign then pure true
      else if s.requested ∧ !s.value.flags.preflightRetryable then
        pure (!s.terminal || s.finalPending || decide (s.pendingRecords ≠ []))
      else do
        let failed ← holds .controlFailed
        let latch ← readLatch
        pure (decide (latch ≠ .none) || failed) : Rec Bool)
      (fun due u => (Ended u ∧ Mono s u) ∧ (due = true → Ready u)) (fun u => Ended u ∧ Mono s u) t := by
    intro foreign t ht hk hf
    apply Ends.ite
    · exact fun h => ⟨⟨ht, hk.mono⟩, fun _ => hk.ready (hready (hf h))⟩
    intro _
    apply Ends.ite
    · rintro ⟨-, -⟩
      refine ⟨⟨ht, hk.mono⟩, fun hdue => hk.ready (hready fun ho => ?_)⟩
      rw [ho.terminal, ho.final, ho.pending] at hdue
      cases hdue
    · intro hc
      refine hlast t ht hk fun ho => hc ⟨ho.requested, ?_⟩
      rw [ho.retryable]
      rfl
  apply Ends.bind
  apply Ends.both
  refine ⟨fun hr => ?_, fun _ => hgo false s hs (.refl s) fun hn => by cases hn⟩
  refine (ended.frame foreignFault_frame s hs).mono (fun foreign t ht => ?_) fun t ht => ⟨ht.1, ht.2.mono⟩
  exact hgo foreign t ht.1 ht.2 fun _ ho => by cases (ho.retryable.symm.trans hr : false = true)

def Serving (due : Bool) (r : Recovery) : Prop := Ended r ∧ (due = true → Ready r)

theorem serving (due : Bool) : Context (Serving due) Mono :=
  Context.and ⟨fun _ h => h.core, fun _ _ h => h.kept, fun _ _ => Kept.mono⟩ fun _ _ hk hj hd => hk.ready (hj hd)

theorem refreshedClock_frame : Stays Core Kept refreshedClock := by
  apply Stays.bind runtimeClock_still.stays
  intro clock
  apply Stays.ite
  · exact Stays.bind recoveryOwnerClockFault_frame fun _ => Stays.done clock
  · exact Stays.done clock

theorem native_serving (h : Inner inner) (due : Bool) (call : NativeCall) :
    Stays (Serving due) Mono (native inner noFilter call) := by
  have hk := (native_ended h call).and (J := fun r => due = true → Ready r) fun _ _ _ _ hk hj hd => hk.ready (hj hd)
  exact hk.imp fun _ _ _ => Kept.mono

theorem serviceOthers_serving (h : Inner inner) (due : Bool) (capture : Capture) (now : Qpc) :
    Stays (Serving due) Mono (serviceOthers inner capture now) := by
  have hclock := (serving due).frame refreshedClock_frame
  have htransport : ∀ now : Qpc, Stays (Serving due) Mono (do
      let transport ← pure (decide (capture.classification = .normalPump)) <&&> holds .transportDue
      if !transport then pure (some now)
      else
        let _ ← native inner noFilter .logService
        let now ← refreshedClock
        let state ← Act.query Question.refresh
        if now.isSome then Act.modify fun r => { r with transport := state }
        pure now : Rec (Option Qpc)) := by
    intro now
    apply Stays.bind (Still.stays ((Still.done _).both (holds_still _)))
    intro transport
    apply Stays.ite (Stays.done _)
    apply Stays.bind (native_serving h due _)
    intro _
    apply Stays.bind hclock
    intro now
    apply Stays.bind (Stays.query _)
    intro state
    apply Stays.ite
    · refine Stays.bind (Stays.modify fun s hs => ⟨⟨?_, fun hd => ?_⟩, { Mono.refl _ with }⟩) fun _ => Stays.done now
      · have hc := hs.1.core
        exact { hs.1 with
          core := { hc with
            pristine := fun hn => { hc.pristine hn with }
            retryable := fun hn => { hc.retryable hn with } }
          counter := hs.1.counter.step rfl le_rfl
          rest := { hs.1.rest with
            suppressed := fun w hw => (hs.1.rest.suppressed w hw).imp_right fun ho => { ho with } } }
      · exact ⟨(hs.2 hd).suppressed, (hs.2 hd).started⟩
    · exact Stays.done now
  apply Stays.bind (Still.stays ((Still.done _).both (holds_still _)))
  intro console
  apply Stays.ite
  · apply Stays.bind (native_serving h due _)
    intro _
    apply Stays.bind hclock
    intro now
    cases now with
    | none => exact Stays.done none
    | some now => exact htransport now
  · exact htransport now

theorem afterPump_ended (h : Inner inner) (topLevel : Bool) : Stays Ended Mono (afterPump inner topLevel) := by
  apply Stays.getBind
  intro s hs
  apply Ends.ite
  · intro _
    have hfirst := (Context.frame ⟨fun _ h => h.core, fun _ _ h => h.kept, fun _ _ => Kept.mono⟩ refreshedClock_frame :
      Stays Ended Mono refreshedClock)
    apply StaysAt.bindEnds (hfirst s hs)
    · exact fun t ht hm => ⟨ht, hm⟩
    intro now t ht hm
    cases now with
    | none => exact ⟨ht, hm⟩
    | some now =>
        apply Ends.bind
        refine (recoveryServiceDue_ends ht).mono (fun due u hu => ?_) fun u hu => ⟨hu.1, hm.trans hu.2⟩
        apply (Still.query _).bindEnds
        intro capture
        apply StaysAt.bindEnds (serviceOthers_serving h due capture now u ⟨hu.1.1, hu.2⟩)
        · exact fun v hv hm' => ⟨hv.1, (hm.trans hu.1.2).trans hm'⟩
        intro now v hv hm'
        have hbase := (hm.trans hu.1.2).trans hm'
        cases now with
        | none => exact ⟨hv.1, hbase⟩
        | some now =>
            apply Ends.ite
            · intro hdue
              apply Ends.bind
              have hnow : (now.val : Int) ≤ qpcMax := Int.ofNat_le.mpr (Nat.le_of_lt_succ now.isLt)
              exact (serviceLeechRecovery_closes h capture ⟨hv.1, hv.2 hdue⟩ _ hnow).after hbase
            · exact fun _ => ⟨hv.1, hbase⟩
  · exact fun _ => ⟨hs, .refl s⟩

theorem whole : Context Whole Rel := ⟨fun _ h => h.core, fun _ _ h hc hk => hk.whole h hc, fun _ _ => Kept.rel⟩

theorem afterPump_nested (topLevel : Bool) {s : Recovery} (hs : 2 ≤ s.pumpDepth) :
    (afterPump inner topLevel).Ends (fun _ t => t = s) (fun _ => False) s := by
  apply Ends.getBind
  apply Ends.ite
  · rintro ⟨-, hp⟩
    omega
  · exact fun _ => rfl

/-- Back out of a pump that was come into inside another one. -/
theorem Kept.without {pump builder timing builder' timing' : Nat} (h : Kept (r.within pump builder timing) r') :
    Kept r (r'.within r.pumpDepth builder' timing') := { h with pump := rfl }

theorem Mono.without {pump builder timing builder' timing' : Nat} (h : Mono (r.within pump builder timing) r') :
    Mono r (r'.within r.pumpDepth builder' timing') := { h with pump := rfl }

theorem pumpEntry_whole (h : Inner inner) : Stays Whole Rel (pumpEntry inner) := by
  intro s hs
  have hback : ∀ t : Recovery, t.pumpDepth = s.pumpDepth + 1 →
      { t with pumpDepth := t.pumpDepth - 1, timingDepth := t.timingDepth - 1 } =
        t.within s.pumpDepth t.builderDepth (t.timingDepth - 1) := by
    intro t ht
    rw [ht]
    rfl
  apply Ends.getBind
  apply Ends.bind
  apply Ends.modify
  apply Ends.cleaned
  by_cases hp : s.pumpDepth = 0
  · have hended : Ended (s.within (s.pumpDepth + 1) s.builderDepth (s.timingDepth + 1)) := by
      refine ⟨hs.core.within, hs.counter.step rfl le_rfl, (hs.rest hp).within, ?_⟩
      change s.pumpDepth + 1 = 1
      rw [hp]
    have hleave : ∀ t, Ended t ∧ Mono (s.within (s.pumpDepth + 1) s.builderDepth (s.timingDepth + 1)) t →
        Whole { t with pumpDepth := t.pumpDepth - 1, timingDepth := t.timingDepth - 1 } ∧
          Rel s { t with pumpDepth := t.pumpDepth - 1, timingDepth := t.timingDepth - 1 } := by
      intro t ht
      rw [hback t ht.2.pump]
      refine ⟨ht.1.whole.within (.inl ht.1.rest), ht.2.without, fun hn => ?_⟩
      rw [hp] at hn
      cases hn
    have hbody : Stays Ended Mono (do
        let _ ← native inner noFilter .pump
        afterPump inner (s.timingDepth = 0) : Rec Unit) := by
      apply Stays.bind ((native_ended h .pump).imp fun _ _ _ => Kept.mono)
      exact fun _ => afterPump_ended h _
    exact (hbody _ hended).mono (fun _ t ht => hleave t ht) fun t ht => hleave t ht
  · have hwhole : Whole (s.within (s.pumpDepth + 1) s.builderDepth (s.timingDepth + 1)) :=
      hs.within (.inr (Nat.succ_ne_zero _))
    have hleave : ∀ t, Whole t → Rel (s.within (s.pumpDepth + 1) s.builderDepth (s.timingDepth + 1)) t →
        Whole { t with pumpDepth := t.pumpDepth - 1, timingDepth := t.timingDepth - 1 } ∧
          Rel s { t with pumpDepth := t.pumpDepth - 1, timingDepth := t.timingDepth - 1 } := by
      intro t ht hr
      have hk := hr.kept (Nat.succ_le_succ (Nat.zero_le _))
      rw [hback t hk.pump]
      exact ⟨ht.within (.inr hp), hr.mono.without, fun _ => hk.without⟩
    apply Ends.bind
    refine (native_stays h (fun _ => Stays.done ()) .pump _ hwhole).mono (fun _ t ht => ?_) fun t ht => hleave t ht.1 ht.2
    have hdeep : 2 ≤ t.pumpDepth := by
      have hpump := ht.2.mono.pump
      change t.pumpDepth = s.pumpDepth + 1 at hpump
      omega
    refine (afterPump_nested _ hdeep).mono (fun _ u hu => ?_) fun _ => False.elim
    subst hu
    exact hleave u ht.1 ht.2

theorem builderEntry_whole (h : Inner inner) : Stays Whole Rel (builderEntry inner) := by
  refine Stays.bind (whole.touch fun _ _ => { Touched.refl _ with }) fun _ => ?_
  apply Stays.cleaned
  · exact Stays.bind (native_stays h (fun _ => Stays.done ()) .builder) fun _ => Stays.done ()
  · exact fun _ => whole.touch fun _ _ => { Touched.refl _ with }

end Visits

/-- However deep the owner thread is come into, the invariant holds. -/
theorem occur_inner (depth : Nat) : Inner (occur depth) := by
  induction depth with
  | zero => exact fun _ => Stays.done ()
  | succ depth ih =>
      intro o
      cases o with
      | pump => exact pumpEntry_whole ih
      | builder => exact builderEntry_whole ih
      | finishSuccess result callback => exact finishObservation_whole result callback false
      | finishError code callback => exact finishObservation_whole .null callback true
      | createSuccess callback => exact createSuccess_whole ih callback
      | resumed code => exact Stays.done ()

/-- The sidecar before it is prepared, with the status wire initialised. -/
def Recovery.initial (schema : Nat) (mode : Mode) (frequency : Int) (transport : TransportState) : Recovery where
  schema := schema
  mode := mode
  frequency := frequency
  pumpDepth := 0
  builderDepth := 0
  timingDepth := 0
  transport := transport
  bindingSuspended := false
  recoveryQuota := ⟨0, false⟩
  ownerSequence := 2
  latched := .none
  value := .zero
  pendingRecords := []
  pendingRead := 0
  source := ⟨0, 0, 0, ⟨0, 0, 0⟩⟩
  oldHeartbeat := ⟨.zero, 0, 0, 0, .zero⟩
  callbackTiming := .zero
  holder := 0
  finishId := 0
  createSlot := 0
  createId := 0
  createHolder := 0
  finishSlot := 0
  finishType := 0
  callbackDepth := 0
  lastEmissionQpc := 0
  qualifyingRecordSequence := 0
  metadataDeadlineQpc := 0
  metadataLastProbeQpc := 0
  foreignFault := false
  prepared := false
  controlStarted := false
  requested := false
  terminal := false
  finalPending := false
  finishObserved := false
  finishTrue := false
  enqueueReturned := false
  cancelEntered := false
  createInstalled := false
  createForwarded := false
  createReturned := false
  exceptionPending := false
  resourceReleaseAttempted := false
  bindEntered := false
  bindCompleted := false
  recipeEntered := false
  metadataHeadOwned := false
  metadataDestructorEntered := false
  metadataUpdateReturned := false
  haveMetadataProbe := false
  history := []

def RecoveryValue.starting (ownerThreadId : UInt32) (reason : RecoveryReason) (qpc : Nat) (armed : Bool) :
    RecoveryValue :=
  { RecoveryValue.zero with
    ownerThreadId := ownerThreadId
    reason := reason
    qpc := qpc
    flags := { Flags.zero with permissionEnabled := armed }
    phase := if armed then .armed else .disabled
    transitionSequence := if armed then 1 else 0 }

def Recovery.starting (r : Recovery) (ownerThreadId : UInt32) (reason : RecoveryReason) (qpc : Nat)
    (armed prepared : Bool) : Recovery :=
  { r with value := .starting ownerThreadId reason qpc armed, controlStarted := armed, prepared := prepared }

section Startup

variable {schema : Nat} {mode : Mode} {frequency : Int} {transport : TransportState} {ownerThreadId : UInt32}
  {reason : RecoveryReason} {qpc : Nat} {armed prepared : Bool}

theorem core_starting (hn : reason ≠ .publishedIdentityChanged) (hq : qpc ≤ qpcMax) :
    Core ((Recovery.initial schema mode frequency transport).starting ownerThreadId reason qpc armed prepared) where
  valid := {
    operation := Nat.zero_le _
    qpc := hq
    finishDeadline := Nat.zero_le _
    overallDeadline := Nat.zero_le _
    ticks := Nat.zero_le _
    timed := fun h => by cases h
    untimed := fun _ => rfl
    completed := fun h => by cases h
    forwarded := fun h => by cases h
    attempted := fun h => by cases h
    coherent := fun h => by cases h
    unverified := fun h => by cases h
    exclusive := fun h => by cases h
    dirtyAfter := fun h => by cases h
    console := fun h => by cases h
    retryable := fun h => by cases h }
  records := fun v hv => by cases hv
  read := le_rfl
  ticks := Nat.zero_le _
  measured := fun h => by cases h
  updated := fun h => by cases h
  pristine := fun _ => {
    phase := by cases armed <;> rfl
    flags := rfl
    stage := rfl
    resource := rfl
    exceptionCode := rfl
    requestId := rfl
    callbackId := rfl
    callbackResult := rfl
    apiReturnedId := rfl
    timing := rfl
    cancelEntered := rfl
    createInstalled := rfl
    updated := rfl
    bindEntered := rfl
    bindCompleted := rfl
    releaseAttempted := rfl }
  armed := fun h => by
    change armed = true at h
    subst h
    exact ⟨rfl, le_rfl⟩
  started := fun h => by cases h
  unrequested := fun _ => ⟨by cases armed <;> rfl, rfl, rfl⟩
  recipe := fun h => by cases h
  served := fun h => by cases armed <;> rcases h with h | h <;> cases h
  late := fun h => by cases armed <;> cases h
  rejected := fun h => by cases armed <;> cases h
  failed := fun h => by cases armed <;> cases h
  published := fun h => by cases armed <;> rcases h with h | h <;> cases h
  adopted := fun h => by cases h
  restart := fun h => by cases h
  policy := fun h => by cases h
  reason := fun h => by cases h
  calm := fun _ => ⟨by
    change (false || decide (reason = .publishedIdentityChanged) || false) = false
    rw [decide_eq_false hn]
    rfl, fun h => by cases h⟩
  retryable := fun h => by cases h
  operations := fun _ => ⟨rfl, rfl⟩
  counted := rfl
  recipes := ⟨fun h => (by cases h), fun h => by cases h⟩
  ledger := rfl
  refused := fun v hv => by cases hv
  sound := trivial

/-- Between the entries of the owner thread, no frame of it is left. -/
def Outside (r : Recovery) : Prop := Whole r ∧ r.pumpDepth = 0

theorem counter_starting :
    Counter 2 ((Recovery.initial schema mode frequency transport).starting ownerThreadId reason qpc armed prepared) where
  transitions := by
    change 2 * (if armed then 1 else 0) ≤ 2 + 2 + if uint64Max - 2 < 2 then 2 else 0
    cases armed <;> decide
  even := show 2 % 2 = 0 from rfl
  started := le_rfl
  room := show 2 ≤ uint64Max by decide

theorem budget_starting :
    budget ((Recovery.initial schema mode frequency transport).starting ownerThreadId reason qpc armed prepared) = 2 := by
  cases armed <;> rfl

theorem publish_starting (hn : reason ≠ .publishedIdentityChanged) (hq : qpc ≤ qpcMax) :
    Outside ((Recovery.initial schema mode frequency transport).starting ownerThreadId reason qpc armed
      prepared).publish.1 ∧
      ((Recovery.initial schema mode frequency transport).starting ownerThreadId reason qpc armed
        prepared).publish.1.prepared = prepared := by
  have hc : Core ((Recovery.initial schema mode frequency transport).starting ownerThreadId reason qpc armed prepared) :=
    core_starting hn hq
  obtain ⟨hcore, hp⟩ := hc.publish counter_starting (by decide)
  refine ⟨⟨⟨hcore, hp.counted (budget_starting ▸ counter_starting), fun _ => ?_⟩, hp.moved.pump⟩, hp.moved.prepared⟩
  exact {
    settled := fun h => by cases (hp.moved.recipe.symm.trans h : false = true)
    coherent := fun h => by cases (hp.coherent.symm.trans h : false = true)
    quota := fun _ => Bool.eq_false_iff.mpr fun h => by cases (hp.moved.quota h : false = true)
    suppressed := fun w hw => by cases (hp.suppressed w hw : Event.suppressed w ∈ []) }

theorem outside_starting (hn : reason ≠ .publishedIdentityChanged) (hq : qpc ≤ qpcMax) :
    Outside ((Recovery.initial schema mode frequency transport).starting ownerThreadId reason qpc armed prepared) := by
  refine ⟨⟨core_starting hn hq, budget_starting ▸ counter_starting, fun _ => ?_⟩, rfl⟩
  exact ⟨fun h => (by cases h), fun h => (by cases h), fun _ => rfl, fun w hw => by cases hw⟩

theorem controlReason_ne (control : ControlResult) : controlReason control ≠ .publishedIdentityChanged := by
  cases control <;> decide

def Prepared (r : Recovery) (ownerThreadId : UInt32) (s : Recovery) : Prop :=
  Outside s ∧ (s.prepared = true → s = r.starting ownerThreadId .permissionDisabled 0 false true)

theorem prepareLeechRecovery_ends :
    (prepareLeechRecovery ownerThreadId).Ends
      (fun _ t => Prepared (.initial schema mode frequency transport) ownerThreadId t) (fun _ => False)
      (.initial schema mode frequency transport) := by
  have hpublish : ∀ reason, reason ≠ RecoveryReason.publishedIdentityChanged →
      Prepared (.initial schema mode frequency transport) ownerThreadId
        ((Recovery.initial schema mode frequency transport).starting ownerThreadId reason 0 false false).publish.1 := by
    intro reason hn
    obtain ⟨hout, hprepared⟩ := publish_starting hn (Nat.zero_le qpcMax)
    exact ⟨hout, fun hp => by cases (hprepared.symm.trans hp : false = true)⟩
  apply Ends.bind
  apply Ends.modify
  apply (Still.query _).bindEnds
  intro (control : ControlResult)
  apply Ends.ite
  · intro _
    apply Ends.bind
    apply Ends.modify
    exact hpublish _ (controlReason_ne control)
  · intro _
    apply (holds_still _).bindEnds
    intro profiled
    apply Ends.ite
    · intro _
      apply Ends.bind
      apply Ends.modify
      exact hpublish _ (by decide)
    · intro _
      apply Ends.modify
      have hout : Outside ((Recovery.initial schema mode frequency transport).starting ownerThreadId .permissionDisabled 0
          false true) := outside_starting (by decide) (Nat.zero_le _)
      exact ⟨hout, fun _ => rfl⟩

theorem armLeechRecovery_ends {s : Recovery}
    (hs : Prepared (.initial schema mode frequency transport) ownerThreadId s) :
    armLeechRecovery.Ends (fun _ t => Outside t) (fun _ => False) s := by
  apply Ends.getBind
  apply Ends.ite
  · intro hp
    obtain rfl := hs.2 hp
    apply (holds_still _).bindEnds
    intro started
    apply Ends.ite
    · intro _
      apply Ends.bind
      apply Ends.modify
      apply Ends.bind
      apply Ends.modify
      have hout : Outside ((Recovery.initial schema mode frequency transport).starting ownerThreadId
          .controlWorkerUnavailable 0 false false).publish.1 := (publish_starting (by decide) (Nat.zero_le _)).1
      exact hout
    · intro _
      apply Ends.bind
      apply (Still.query _).bindEnds
      intro (reading : Option Qpc)
      have hq : ((reading.map Fin.val).filter fun q => 0 < q).getD 0 ≤ qpcMax := by
        cases reading with
        | none => exact Nat.zero_le _
        | some q =>
            change (Option.filter (fun q => decide (0 < q)) (some q.val)).getD 0 ≤ qpcMax
            rw [Option.filter]
            split
            · exact Nat.le_of_lt_succ q.isLt
            · exact Nat.zero_le _
      apply Ends.done
      apply Ends.bind
      apply Ends.modify
      have hout : Outside ((Recovery.initial schema mode frequency transport).starting ownerThreadId .none
          (((reading.map Fin.val).filter fun q => 0 < q).getD 0) true true).publish.1 :=
        (publish_starting (by decide) hq).1
      exact hout
  · exact fun _ => hs.1

end Startup

/-- The states of the sidecar between the entries of the owner thread, whatever
the native side answers and however the entries nest. -/
inductive Reachable (schema : Nat) (mode : Mode) (frequency : Int) (ownerThreadId : UInt32) : Recovery → Prop
  | prepared {transport : TransportState} {events : List (Sigma Answer)} {result : Except UInt32 Unit} {r : Recovery}
      (h : Yields (prepareLeechRecovery ownerThreadId (.initial schema mode frequency transport)) events (result, r)) :
      Reachable schema mode frequency ownerThreadId r
  | armed {transport : TransportState} {events : List (Sigma Answer)} {result : Except UInt32 Unit} {r : Recovery}
      (h : Yields ((prepareLeechRecovery ownerThreadId >>= fun _ => armLeechRecovery : Rec Unit)
        (.initial schema mode frequency transport)) events (result, r)) : Reachable schema mode frequency ownerThreadId r
  | entered {depth : Nat} {occurrence : Occurrence} {events : List (Sigma Answer)} {result : Except UInt32 Unit}
      {r r' : Recovery} (hr : Reachable schema mode frequency ownerThreadId r)
      (h : Yields (occur depth occurrence r) events (result, r')) : Reachable schema mode frequency ownerThreadId r'

/-- An entry of the owner thread keeps the invariant and takes nothing back. -/
theorem Outside.entered (hr : Outside r) {depth : Nat} {occurrence : Occurrence} {events : List (Sigma Answer)}
    {result : Except UInt32 Unit} (h : Yields (occur depth occurrence r) events (result, r')) :
    Outside r' ∧ Mono r r' := by
  have hstep : Whole r' ∧ Rel r r' := by
    have hall := Ask.All.yields (occur_inner depth occurrence r hr.1) h
    cases result with
    | ok _ => exact hall
    | error _ => exact hall
  exact ⟨⟨hstep.1, hstep.2.mono.pump.trans hr.2⟩, hstep.2.mono⟩

section Reachable

variable {schema : Nat} {mode : Mode} {frequency : Int} {ownerThreadId : UInt32}

theorem Reachable.outside (h : Reachable schema mode frequency ownerThreadId r) : Outside r := by
  induction h with
  | @prepared transport events result r h =>
      have hall := Ask.All.yields prepareLeechRecovery_ends h
      cases result with
      | ok _ => exact hall.1
      | error _ => exact hall.elim
  | @armed transport events result r h =>
      have hends : (prepareLeechRecovery ownerThreadId >>= fun _ => armLeechRecovery : Rec Unit).Ends
          (fun _ t => Outside t) (fun _ => False) (.initial schema mode frequency transport) :=
        Ends.bind (prepareLeechRecovery_ends.mono (fun _ t ht => armLeechRecovery_ends ht) fun _ => id)
      have hall := Ask.All.yields hends h
      cases result with
      | ok _ => exact hall
      | error _ => exact hall.elim
  | entered hr h ih => exact (ih.entered h).1

end Reachable

end RS2ServerFix.LeechRecovery
