import RS2ServerFix.LeechRecovery.FinishSteps
import RS2ServerFix.LeechRecovery.MetadataSteps

namespace RS2ServerFix.LeechRecovery

open Reporting Lib Act

variable {r r' : Recovery}

def Free (r : Recovery) : Prop := r.recipeEntered = false → r.recoveryQuota.active = false

/-- A visit at a point where it may end. -/
def Pause (r : Recovery) : Prop := Visit r ∧ Free r

theorem pause : Context Pause Mono := visit.and fun _ _ hk => hk.unreserved

theorem Moved.unreserved (h : Moved r r') (hf : Free r) : Free r' := fun hr => by
  apply Bool.eq_false_iff.mpr
  intro hn
  cases ((hf (h.recipe.symm.trans hr)).symm.trans (h.quota hn) : false = true)

theorem Pause.ended (h : Pause r) : Ended r where
  core := h.1.1.core
  counter := h.1.1.counter
  rest := {
    settled := h.1.1.settled
    coherent := h.1.1.coherent
    quota := h.2
    suppressed := fun w hw => .inl (h.1.1.suppressed w hw) }
  pump := h.1.1.pump

theorem Busy.pause (h : Busy r) (hs : r.value.phase = .qualifying → r.terminal = true) : Pause r :=
  ⟨h.visit hs, fun hn => by cases (h.recipe.symm.trans hn : true = false)⟩

theorem Later.pause (h : Later r) : Pause r := h.1.pause fun hn => absurd hn h.2

abbrev Closes {α : Type} (p : Rec α) (s : Recovery) : Prop :=
  p.Ends (fun _ t => Ended t ∧ Mono s t) (fun t => Ended t ∧ Mono s t) s

theorem Closes.after {α : Type} {p : Rec α} {s t : Recovery} (h : Closes p t) (hm : Mono s t) :
    p.Ends (fun _ u => Ended u ∧ Mono s u) (fun u => Ended u ∧ Mono s u) t :=
  h.mono (fun _ _ hu => ⟨hu.1, hm.trans hu.2⟩) fun _ hu => ⟨hu.1, hm.trans hu.2⟩

theorem finishTerminal_closes {s : Recovery} (hs : Ending s) : Closes finishTerminal s :=
  (finishTerminal_ends hs).mono (fun _ _ ht => ⟨ht.1, ht.2.1⟩) fun _ ht => ⟨ht.1, ht.2.1⟩

theorem fault_finish {s : Recovery} {reason : RecoveryReason} {outcome : RecoveryOutcome} {restart : Bool}
    (hs : Visit s) (hp : Proper s reason outcome restart) (result : Bool) : Closes (do
      fault reason outcome restart
      finishTerminal
      pure result) s := by
  have hf := visit.fault_at hs hp
  have hending : Ending (s.fault reason outcome restart) := ⟨hf.1, hs.1.core.fault_terminal ..⟩
  apply Ends.bind
  apply Ends.modify
  apply Ends.bind
  exact (finishTerminal_closes hending).after hf.2

theorem serviceEnd_closes {s : Recovery} (hs : Pause s) : Closes serviceEnd s := by
  apply Ends.getBind
  apply Ends.ite
  · intro ht
    apply Ends.bind
    exact finishTerminal_closes ⟨hs.1, ht⟩
  · intro _
    apply Ends.bind
    refine (flush_ends hs.1).mono (fun good t ht => ?_) fun _ => False.elim
    apply Ends.bind
    have hp := ht.visit.1.publish
    have hpause : Pause t.publish.1 :=
      ⟨⟨hp.1, hp.2.moved.requested.trans ht.visit.2⟩, (ht.moved.trans hp.2.moved).unreserved hs.2⟩
    exact ⟨hpause.ended, (ht.moved.trans hp.2.moved).mono⟩

section Metadata

variable {inner : Occurrence → Rec Unit}

def Probing (r : Recovery) : Prop := Busy r ∧ r.value.phase = .published

theorem probing : Context Probing Kept := busy.and fun _ _ hk => hk.phase.trans

theorem probing_of_busy {α : Type} {p : Rec α} (h : Stays Busy Kept p) : Stays Probing Kept p :=
  h.and fun _ _ _ _ hk => hk.phase.trans

theorem Probing.later (h : Probing r) : Later r := ⟨h.1, by rw [h.2]; decide⟩

theorem Probing.isLocal (h : Probing r) : Local r := ⟨h.1, h.1.core.published (.inl h.2)⟩

abbrev Looks {α : Type} (p : Rec α) (s : Recovery) : Prop :=
  p.Ends (fun _ t => Later t ∧ Mono s t) (fun t => Later t ∧ Mono s t) s

theorem Looks.after {α : Type} {p : Rec α} {s t : Recovery} (h : Looks p t) (hm : Mono s t) :
    p.Ends (fun _ u => Later u ∧ Mono s u) (fun u => Later u ∧ Mono s u) t :=
  h.mono (fun _ _ hu => ⟨hu.1, hm.trans hu.2⟩) fun _ hu => ⟨hu.1, hm.trans hu.2⟩

theorem complete_looks {s : Recovery} (hs : Probing s) (ht : s.terminal = false) {now : Nat} (hq : now ≤ qpcMax)
    {reason : RecoveryReason} (hr : reason ≠ .publishedIdentityChanged) (coherent : Bool) :
    Looks (complete now reason coherent) s := by
  have hcoherent : s.value.flags.metadataCoherent = false := by
    apply Bool.eq_false_iff.mpr
    intro hn
    cases (ht.symm.trans (hs.1.coherent hn) : false = true)
  obtain ⟨hc, hd⟩ := hs.1.core.completeMetadata hs.2 hcoherent hr coherent hq (hs.1.counter.lt (budget_le s).2)
  apply Ends.bind
  apply Ends.modify
  refine ⟨⟨⟨hc, ?_, fun _ => hd.terminal, hd.moved.recipe.trans hs.1.recipe, hd.moved.pump.trans hs.1.pump⟩, ?_⟩,
    hd.moved.mono⟩
  · apply hs.1.counter.step hd.word
    rw [hd.transition, budget_of_unretryable hs.1.unretryable,
      budget_of_unretryable (hd.moved.unretryable hs.1.unretryable), hd.phase, hs.2]
    exact (Nat.mul_add 2 _ 1 ▸ Nat.add_assoc _ 2 12 ▸ le_rfl)
  · rw [hd.phase]
    decide

theorem Core.renamed (h : Core r) (hr : r.recipeEntered = true) (hp : r.value.flags.publishedLocally = true)
    {reason : RecoveryReason} (hn : reason ≠ .publishedIdentityChanged) :
    Core { r with value := { r.value with reason := reason } } := by
  have hv := h.valid
  have hretry : r.value.flags.preflightRetryable = true → False := fun hf =>
    by cases (hr.symm.trans (h.retryable hf).recipe : true = false)
  exact { h with
    valid := { hv with }
    pristine := fun hf => by cases (hr.symm.trans hf : true = false)
    reason := fun _ hf => by cases (hp.symm.trans hf : true = false)
    calm := fun hc => by
      obtain ⟨hexisting, hlocal⟩ := h.calm hc
      refine ⟨?_, hlocal⟩
      simp only [RecoveryValue.existingNativeFault, Bool.or_eq_false_iff, decide_eq_false_iff_not] at hexisting ⊢
      exact ⟨⟨hexisting.1.1, hn⟩, hexisting.2⟩
    retryable := fun hf => (hretry hf).elim }

theorem postpone_looks {s : Recovery} (hs : Probing s) {reason : RecoveryReason}
    (hn : reason ≠ .publishedIdentityChanged) : Looks (postpone reason) s := by
  have hbusy : Busy { s with value := { s.value with reason := reason } } :=
    { hs.1 with core := hs.1.core.renamed hs.1.recipe hs.isLocal.2 hn, counter := hs.1.counter.step rfl le_rfl }
  have hvisit := hbusy.visit fun hp => by cases (hs.2.symm.trans hp : RecoveryPhase.published = .qualifying)
  obtain ⟨ha, hp⟩ := hvisit.1.publish
  apply Ends.bind
  apply Ends.modify
  have hmono : Mono s { s with value := { s.value with reason := reason } } := { Mono.refl _ with }
  refine ⟨⟨⟨ha.core, ha.counter, ha.coherent, hp.moved.recipe.trans hs.1.recipe, ha.pump⟩, ?_⟩,
    hmono.trans hp.moved.mono⟩
  rw [hp.phase]
  exact hs.later.2

theorem Probing.looks {α : Type} {s : Recovery} (hs : Probing s) (a : α) : Looks (pure a : Rec α) s :=
  ⟨hs.later, .refl s⟩

theorem Probing.qpc (h : Probing r) : r.value.qpc ≤ qpcMax := h.1.core.valid.qpc

theorem metadataInputs_looks {α : Type} {f : Option MetadataView → Rec α} {s : Recovery} (hs : Probing s)
    (hf : ∀ inputs t, Probing t → (inputs ≠ none → t.terminal = false) → Looks (f inputs) t) :
    Looks (metadataInputs >>= f) s := by
  apply Ends.bind
  refine (probing.gives metadataInputs_gives s hs).mono (fun inputs t ht => ?_) fun t ht => ⟨ht.1.later, ht.2.mono⟩
  exact (hf inputs t ht.1.1 ht.2).after ht.1.2.mono

theorem verifyMetadata_looks {s : Recovery} (hs : Probing s) : Looks verifyMetadata s := by
  apply Ends.getBind
  apply Ends.ite
  · exact fun _ => hs.looks true
  intro hterminal
  have ht : s.terminal = false := Bool.eq_false_iff.mpr hterminal
  apply Ends.ite
  · intro _
    apply Ends.ite
    · exact fun _ => complete_looks hs ht hs.qpc (by decide) false
    · intro _
      apply Ends.ite
      · exact fun _ => complete_looks hs ht hs.qpc (by decide) false
      · exact fun _ => postpone_looks hs (by decide)
  · intro hupdated
    have hreturned : s.metadataUpdateReturned = true := by
      simpa only [Bool.not_eq_true', Bool.not_eq_false] using hupdated
    have hstage := probing_of_busy (setStage_busy .metadataVerify) s hs
    apply Ends.bind
    apply Ends.modify
    apply Ends.bind
    refine (probing.gives metadataInputs_gives _ hstage.1).mono (fun inputs t ht => ?_)
      fun t ht => ⟨ht.1.later, (hstage.2.trans ht.2).mono⟩
    have hpr := ht.1.1
    have hmono := (hstage.2.trans ht.1.2).mono
    have hattempted := ht.1.2.attempted (hs.1.core.updated hreturned)
    apply Ends.getBind
    apply Ends.ite
    · exact fun _ => (hpr.looks true).after hmono
    intro hgoing
    have hg : t.terminal = false := Bool.eq_false_iff.mpr hgoing
    cases inputs with
    | none => exact (complete_looks hpr hg hpr.qpc (by decide) false).after hmono
    | some view =>
        have hend : ∀ u, Probing u → u.terminal = false → Mono s u →
            Ends (if view.prepared.mismatchMask = 0 then complete t.value.qpc .none true
              else complete t.value.qpc .metadataUnverified false)
              (fun _ v => Later v ∧ Mono s v) (fun v => Later v ∧ Mono s v) u := by
          intro u hu hug hm
          apply Ends.ite
          · exact fun _ => (complete_looks hu hug hpr.qpc (by decide) true).after hm
          · exact fun _ => (complete_looks hu hug hpr.qpc (by decide) false).after hm
        have hdirty : Touched t (t.setFlags fun f => { f with metadataDirtyAfter := true }) :=
          { Touched.refl _ with native := .inl hpr.1.recipe, dirty := fun _ => .inr hattempted }
        apply Ends.ite
        · intro _
          exact hend _ (probing.kept _ _ hpr (hdirty.core hpr.1.core) hdirty.kept) hg (hmono.trans hdirty.kept.mono)
        · exact fun _ => hend t hpr hg hmono

/-- One probe, from its readings to what they lead to. -/
theorem probeMetadata_looks (h : Inner inner) (capture : Capture) {now : Nat} (hnow : now ≤ qpcMax) {s : Recovery}
    (hs : Probing s) : Looks (probeMetadata inner capture now) s := by
  apply metadataInputs_looks hs
  intro inputs t ht hgoing
  apply Ends.getBind
  cases inputs with
  | none =>
      apply Ends.ite
      · exact fun _ => ht.looks true
      · exact fun _ => postpone_looks ht (by decide)
  | some view =>
      have hg : t.terminal = false := hgoing (fun hn => by cases hn)
      apply Ends.ite
      · exact fun _ => complete_looks ht hg hnow (by decide) true
      intro _
      apply Ends.ite
      · exact fun _ => complete_looks ht hg hnow (by decide) false
      intro _
      apply Ends.ite
      · exact fun _ => postpone_looks ht (by decide)
      intro _
      apply Ends.ite
      · exact fun _ => complete_looks ht hg ht.qpc (by decide) false
      intro _
      apply (holds_still _).bindEnds
      intro known
      apply Ends.ite
      · exact fun _ => complete_looks ht hg hnow (by decide) false
      intro _
      apply (holds_still _).bindEnds
      intro members
      apply Ends.ite
      · exact fun _ => complete_looks ht hg hnow (by decide) false
      intro _
      apply Ends.bind
      refine (restoreMetadata_local h view.counts t ht.isLocal).mono (fun _ u hu => ?_) fun u hu => ?_
      · exact (verifyMetadata_looks ⟨hu.1.1, hu.2.phase.trans ht.2⟩).after hu.2.mono
      · exact ⟨Probing.later ⟨hu.1.1, hu.2.phase.trans ht.2⟩, hu.2.mono⟩

theorem serviceMetadata_looks (h : Inner inner) (capture : Capture) {now : Nat} (hnow : now ≤ qpcMax) {s : Recovery}
    (hs : Probing s) (ht : s.terminal = false) : Looks (serviceMetadata inner capture now) s := by
  apply Ends.getBind
  apply Ends.ite
  · exact fun _ => complete_looks hs ht hnow (by decide) false
  intro _
  apply Still.bindEnds (sameSourceEpoch_still.both sameLifecycle_still)
  intro same
  apply Ends.ite
  · exact fun _ => complete_looks hs ht hnow (by decide) false
  intro _
  apply Ends.ite
  · exact fun _ => hs.looks false
  intro _
  have htouch : Touched s { s with haveMetadataProbe := true, metadataLastProbeQpc := now } := { Touched.refl _ with }
  apply Ends.bind
  apply Ends.modify
  exact (probeMetadata_looks h capture hnow (probing.kept _ _ hs (htouch.core hs.1.core) htouch.kept)).after
    htouch.kept.mono

end Metadata

/-- A request in service, while the runtime takes records. -/
structure Asking (r : Recovery) : Prop where
  pause : Pause r
  recipe : r.recipeEntered = false
  running : r.transport = .running

theorem Asking.kept (h : Asking r) (hc : Core r') (hk : Kept r r') : Asking r' :=
  ⟨LeechRecovery.pause.kept _ _ h.pause hc hk, hk.recipe.trans h.recipe, hk.transport.trans h.running⟩

theorem asking : Context Asking Kept := ⟨fun _ h => h.pause.1.1.core, fun _ _ h => h.kept, fun _ _ => id⟩

theorem Asking.cancel (h : Asking r) : r.cancelEntered = false := (h.pause.1.1.core.pristine h.recipe).cancelEntered

theorem Asking.proper (h : Asking r) {reason : RecoveryReason} {outcome : RecoveryOutcome} (restart : Bool)
    (hn : reason ≠ .none) (hu : outcome ≠ .nativeUnwind) : Proper r reason outcome restart :=
  ⟨hn, .inr hu, fun hc => by cases (h.cancel.symm.trans hc : false = true)⟩

theorem Asking.moved (h : Asking r) (hv : Visit r') (hm : Moved r r') : Asking r' :=
  ⟨⟨hv, hm.unreserved h.pause.2⟩, hm.recipe.trans h.recipe, hm.transport.trans h.running⟩

theorem asking_fault {s : Recovery} (hs : Asking s) {reason : RecoveryReason} {outcome : RecoveryOutcome}
    (hn : reason ≠ .none) (hu : outcome ≠ .nativeUnwind) (restart : Bool) :
    (fault reason outcome restart).StaysAt Asking Kept s := asking.fault_at hs (hs.proper restart hn hu)

theorem Asking.unreserved {s t : Recovery} {quota : CaptureReservation} (hs : Asking s) (hv : Visit t)
    (hm : Moved { s with recoveryQuota := quota } t) :
    Asking { t with recoveryQuota := ⟨0, false⟩ } ∧ Moved s { t with recoveryQuota := ⟨0, false⟩ } := by
  have hm' : Moved s { t with recoveryQuota := ⟨0, false⟩ } := {
    operation := hm.operation
    requested := hm.requested
    recipe := hm.recipe
    cancel := hm.cancel
    published := hm.published
    started := hm.started
    prepared := hm.prepared
    pump := hm.pump
    transport := hm.transport
    terminal := hm.terminal
    restart := hm.restart
    installed := hm.installed
    callback := hm.callback
    forward := hm.forward
    retryable := hm.retryable
    quota := fun hn => by cases hn
    history := hm.history }
  exact ⟨hs.moved (visit.frame releaseCapture_frame t hv).1 hm', hm'⟩

theorem flushOne_asking {s : Recovery} (hs : Asking s) :
    flushOne.Ends (fun _ t => Asking t ∧ Moved s t) (fun _ => False) s := by
  apply Ends.bind
  refine (reserveCapture_ends 1 s).mono (fun reserved t ht => ?_) fun _ => id
  subst ht
  cases reserved with
  | false =>
      have hf : (fault .quotaUnavailable .mechanicsFailed false).StaysAt Asking Kept s :=
        asking_fault hs (by decide) (by decide) false
      exact ⟨hf.1, hf.2.moved⟩
  | true =>
      have hv := hs.pause.1.reserved (fun _ => hs.running) 1
      apply Ends.bind
      refine (flush_ends hv).mono (fun flushed t ht => ?_) fun _ => id
      apply Ends.ite
      · intro _
        have hcancel : t.cancelEntered = false := ht.moved.cancel.trans hs.cancel
        have hf : (fault .recordingUnavailable .recordingUnavailable false).StaysAt Visit Mono t :=
          visit.fault_at ht.visit { named := by decide, unwound := by decide, policy := fun hc => by cases (hcancel.symm.trans hc : false = true) }
        have hk := ht.visit.1.core.fault_kept .recordingUnavailable .recordingUnavailable false
        exact hs.unreserved hf.1 (ht.moved.trans hk.moved)
      · exact fun _ => hs.unreserved ht.visit ht.moved

theorem Transited.counter_of_ahead {goal : RecoveryPhase} {good : Bool} (h : Transited r r' goal good)
    (hr : r.value.flags.preflightRetryable = false) (hc : Counter (budget r) r) (ha : Ahead r)
    (hb : r.value.phase.budget ≤ goal.budget) : Counter (budget r') r' := by
  have htransition := h.transition
  have hword := h.word
  rw [Ahead, budget_of_unretryable hr] at ha
  refine ⟨?_, ?_, ?_, ?_⟩
  · rw [budget_of_unretryable (h.moved.unretryable hr), h.phase, htransition, hword]
    split
    · omega
    · omega
  · rw [hword]
    exact hc.even
  · rw [hword]
    exact hc.started
  · rw [hword]
    exact hc.room

theorem Asking.qualifying {s : Recovery} (hs : Asking s) (hp : s.value.phase = .requested) (ha : Ahead s) {now : Nat}
    (hnow : now ≤ qpcMax) :
    Asking (s.transition .qualifying now).1 ∧ Moved s (s.transition .qualifying now).1 := by
  have h := hs.pause.1
  have henters : Enters s .qualifying := {
    requested := h.2
    asked := rfl
    early := fun _ => rfl
    recipe := fun _ => by decide
    served := fun _ => h.1.core.served (.inl hp)
    late := fun hn => by cases hn
    rejected := fun hn => by cases hn
    failed := fun hn => by cases hn
    published := fun hn => by rcases hn with hn | hn <;> cases hn }
  obtain ⟨hc, ht⟩ := h.1.core.transition henters h.1.unretryable hnow (h.1.counter.lt (budget_le s).2)
  have hm := ht.moved
  have hcount := ht.counter_of_ahead h.1.unretryable h.1.counter ha (by rw [hp]; decide)
  refine ⟨hs.moved (h.moved hc hcount hm ?_ ?_ fun w hw => .inl (ht.suppressed w hw)) hm, hm⟩
  · exact fun hr => by cases ((hm.recipe.trans hs.recipe).symm.trans hr : false = true)
  · rw [ht.coherent]
    exact hm.terminal ∘ h.1.coherent

theorem serviceRequested_closes {s : Recovery} (hs : Asking s) (hp : s.value.phase = .requested) {now : Nat}
    (hnow : now ≤ qpcMax) : Closes (serviceRequested now) s := by
  apply Ends.bind
  refine (reserveCapture_ends 1 s).mono (fun reserved t ht => ?_) fun _ => False.elim
  subst ht
  cases reserved with
  | false => exact fault_finish hs.pause.1 (hs.proper false (by decide) (by decide)) true
  | true =>
      have hv := hs.pause.1.reserved (fun _ => hs.running) 1
      apply Ends.bind
      refine (flush_ends hv).mono (fun written t ht => ?_) fun _ => False.elim
      obtain ⟨hasking, hm⟩ := hs.unreserved ht.visit ht.moved
      have hphase : t.value.phase = .requested := ht.phase.trans hp
      apply Ends.bind
      apply Ends.modify
      apply Ends.ite
      · intro _
        exact (fault_finish hasking.pause.1 (hasking.proper false (by decide) (by decide)) true).after hm.mono
      · intro hwritten
        have hw : written = true := by simpa only [Bool.not_eq_true', Bool.not_eq_false] using hwritten
        obtain ⟨hq, hqm⟩ := hasking.qualifying hphase (ht.ahead hw) hnow
        apply Ends.bind
        apply Ends.bind
        apply Ends.get
        apply Ends.bind
        apply Ends.modify
        apply Ends.done
        apply Ends.bind
        refine (flushOne_asking hq).mono (fun _ u hu => ?_) fun _ => False.elim
        have hmono := ((hm.trans hqm).trans hu.2).mono
        apply Ends.getBind
        apply Ends.ite
        · intro hterminal
          apply Ends.bind
          exact (finishTerminal_closes ⟨hu.1.pause.1, hterminal⟩).after hmono
        · exact fun _ => ⟨hu.1.pause.ended, hmono⟩

theorem nativeSnapshotGuardReason_ne (result : RecoveryNativeResult) : nativeSnapshotGuardReason result ≠ .none := by
  cases result <;> decide

theorem nativeGuardReason_ne (before : RecoveryNativeSnapshot) (heartbeat : Task.TaskSnapshot) :
    nativeGuardReason before heartbeat ≠ .none := by
  have hite : ∀ {p : Prop} [Decidable p] {a b : RecoveryReason}, a ≠ .none → b ≠ .none → (if p then a else b) ≠ .none := by
    intro p _ a b ha hb
    split
    · exact ha
    · exact hb
  unfold nativeGuardReason
  apply hite (nativeSnapshotGuardReason_ne _)
  repeat apply hite (by decide)
  decide

theorem preflight_frame (capture : Capture) : Stays Core Kept (preflight capture) := by
  apply Stays.ite (Stays.done _)
  apply Stays.bind (Stays.query _)
  intro source
  cases source with
  | error reason => exact Stays.done _
  | ok source =>
      refine Stays.bind (touch fun _ => { Touched.refl _ with }) fun _ => ?_
      apply Stays.bind Stays.get
      intro r
      apply Stays.ite (Stays.done _)
      apply Stays.bind (Stays.query _)
      intro task
      cases task with
      | error reason => exact Stays.done _
      | ok task => exact Stays.bind (touch fun _ => { Touched.refl _ with }) fun _ => Stays.done _

section Recipe

variable {inner : Occurrence → Rec Unit}

/-- The recipe entered out of a visit. -/
theorem submitFinish_pause (h : Inner inner) {s : Recovery} (hs : Asking s) (hp : s.value.phase = .qualifying) :
    (submitFinish inner).Ends (fun _ t => Pause t ∧ Mono s t) (fun t => Pause t ∧ Mono s t)
      { s with recoveryQuota := ⟨9, true⟩ } := by
  have hv := (hs.pause.1.reserved (fun _ => hs.running) 9).1
  have hmono : Mono s { s with recoveryQuota := ⟨9, true⟩ } := { Mono.refl _ with }
  have hpause : ∀ {t : Recovery}, Busy t → Submitted t → Pause t := fun ht hsub =>
    ht.pause fun hq => hsub.resolve_right (by rw [hq]; decide)
  exact (submitFinish_ends h hv.core hv.counter hv.coherent hs.recipe hv.pump hp hv.unretryable).mono
    (fun _ t ht => ⟨hpause ht.1.1 ht.2, hmono.trans ht.1.2⟩) fun t ht => ⟨hpause ht.1.1 ht.2, hmono.trans ht.1.2⟩

def qualifyGuards (capture : Capture) : Rec Bool := do
  let reason ← preflight capture
  let r ← Act.get
  if reason ≠ .none then do
    fault reason .mechanicsFailed false
    pure false
  else if kRecoveryMetadataMemberLimit < r.source.outer.pi then do
    fault .metadataCountLimit .mechanicsFailed false
    pure false
  else
    let (before : RecoveryNativeSnapshot) ← Act.query Question.nativeSnapshot
    if nativeGuardReason before r.oldHeartbeat ≠ .snapshotGuardPassed then do
      fault (nativeGuardReason before r.oldHeartbeat) .mechanicsFailed false
      pure false
    else
      let (prints : UInt64 × UInt64) ← Act.query Question.fingerprints
      setValue fun v => { v with oldSdkFingerprint := prints.1, oldCacheFingerprint := prints.2 }
      holds .quiescent <&&> holds .loggerLease <&&> runtimeCaptureAdmission <&&> lease 3 true false <&&>
        reserveCapture 9

theorem qualify_eq (capture : Capture) : qualify inner capture =
    qualifyGuards capture >>= fun quiet => if quiet then submitFinish inner else pure () := by
  have hrefused (p : Rec Unit) : p = (p.bind fun _ => Act.done false).bind fun quiet =>
      if quiet = true then submitFinish inner else Act.done () := by
    rw [Act.bind_bind]
    exact (Act.bind_done p).symm
  rw [qualify, qualifyGuards]
  simp only [Act.bind_def, Act.pure_def, Act.bind_bind, Act.ite_bind]
  refine congrArg _ (funext fun reason => congrArg _ (funext fun r => ?_))
  refine if_congr Iff.rfl (hrefused _) (if_congr Iff.rfl (hrefused _) ?_)
  refine congrArg _ (funext fun before => if_congr Iff.rfl (hrefused _) rfl)

/-- Where the guards leave the visit: at the entry of the recipe, or with the
request still in service. -/
def Guarded (s : Recovery) (quiet : Bool) (t : Recovery) : Prop :=
  if quiet then ∃ u, t = { u with recoveryQuota := ⟨9, true⟩ } ∧ Asking u ∧ Kept s u else Asking t ∧ Kept s t

theorem qualifyGuards_ends (capture : Capture) {s : Recovery} (hs : Asking s) :
    (qualifyGuards capture).Ends (Guarded s) (Guarded s false) s := by
  have hfault : ∀ {t : Recovery} {reason : RecoveryReason}, Asking t → Kept s t → reason ≠ .none →
      (fault reason .mechanicsFailed false >>= fun _ => pure false).Ends (Guarded s) (Guarded s false) t := by
    intro t reason ht hk hn
    have hf := asking_fault ht hn (show RecoveryOutcome.mechanicsFailed ≠ .nativeUnwind by decide) false
    apply StaysAt.bindEnds hf
    · exact fun u hu hku => ⟨hu, hk.trans hku⟩
    · exact fun _ u hu hku => ⟨hu, hk.trans hku⟩
  apply StaysAt.bindEnds (asking.frame (preflight_frame capture) s hs)
  · exact fun t ht hk => ⟨ht, hk⟩
  intro reason t ht hk
  apply Ends.getBind
  apply Ends.ite
  · exact fun hn => hfault ht hk hn
  intro _
  apply Ends.ite
  · exact fun _ => hfault ht hk (by decide)
  intro _
  apply (Still.query _).bindEnds
  intro before
  apply Ends.ite
  · exact fun _ => hfault ht hk (nativeGuardReason_ne _ _)
  intro _
  apply (Still.query _).bindEnds
  intro prints
  have htouch : Touched t { t with value := { t.value with oldSdkFingerprint := prints.1, oldCacheFingerprint := prints.2 } } :=
    { Touched.refl _ with }
  have ht' := asking.kept _ _ ht (htouch.core ht.pause.1.1.core) htouch.kept
  have hk' := hk.trans htouch.kept
  apply Ends.bind
  apply Ends.modify
  apply Still.bothEnds (holds_still _)
  · apply Still.bothEnds (holds_still _)
    · apply Still.bothEnds runtimeCaptureAdmission_still
      · apply Ends.both
        refine (asking.frame (lease_frame 3 true false) _ ht').mono (fun leased u hu => ⟨fun _ => ?_, ?_⟩)
          fun u hu => ⟨hu.1, hk'.trans hu.2⟩
        · have hku := hk'.trans hu.2
          refine (reserveCapture_ends 9 u).mono (fun granted v hv => ?_) fun _ => False.elim
          subst hv
          cases granted with
          | false => exact ⟨hu.1, hku⟩
          | true => exact ⟨u, rfl, hu.1, hku⟩
        · rintro rfl
          exact ⟨hu.1, hk'.trans hu.2⟩
      · exact ⟨ht', hk'⟩
    · exact ⟨ht', hk'⟩
  · exact ⟨ht', hk'⟩

theorem qualify_pause (h : Inner inner) (capture : Capture) {s : Recovery} (hs : Asking s)
    (hp : s.value.phase = .qualifying) :
    (qualify inner capture).Ends (fun _ t => Pause t ∧ Mono s t) (fun t => Pause t ∧ Mono s t) s := by
  rw [qualify_eq]
  apply Ends.bind
  refine (qualifyGuards_ends capture hs).mono (fun quiet t ht => ?_) fun t ht => ⟨ht.1.pause, ht.2.mono⟩
  cases quiet with
  | false => exact Ends.ite (fun hn => by cases hn) fun _ => ⟨ht.1.pause, ht.2.mono⟩
  | true =>
      obtain ⟨u, rfl, hu, hk⟩ := ht
      apply Ends.ite
      · intro _
        exact (submitFinish_pause h hu (hk.phase.trans hp)).mono (fun _ v hv => ⟨hv.1, hk.mono.trans hv.2⟩)
          fun v hv => ⟨hv.1, hk.mono.trans hv.2⟩
      · exact fun hn => absurd rfl hn

end Recipe

end RS2ServerFix.LeechRecovery
