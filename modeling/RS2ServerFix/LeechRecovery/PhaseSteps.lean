import RS2ServerFix.LeechRecovery.VisitSteps

namespace RS2ServerFix.LeechRecovery

open Reporting Lib Act

variable {r r' : Recovery}

/-- A visit at a point where it may end, in the phase it serves. -/
def PauseAt (phase : RecoveryPhase) (r : Recovery) : Prop := Pause r ∧ r.value.phase = phase

theorem pauseAt (phase : RecoveryPhase) : Context (PauseAt phase) Kept :=
  Context.and ⟨fun _ h => h.1.1.core, pause.kept, fun _ _ => id⟩ fun _ _ hk => hk.phase.trans

theorem PauseAt.busy {phase : RecoveryPhase} (h : PauseAt phase r) (hp : phase.early = false) : Busy r :=
  h.1.1.busy (h.1.1.1.core.recipe_of_late (by rw [h.2]; exact hp))

theorem serviceEnd_after {s t : Recovery} (ht : Pause t) (hm : Mono s t) :
    serviceEnd.Ends (fun _ u => Ended u ∧ Mono s u) (fun u => Ended u ∧ Mono s u) t := (serviceEnd_closes ht).after hm

theorem fault_end {s : Recovery} {phase : RecoveryPhase} (hs : PauseAt phase s) {reason : RecoveryReason}
    (hn : reason ≠ .none) : Closes (do
      fault reason .mechanicsFailed true
      serviceEnd) s := by
  have hf : (fault reason .mechanicsFailed true).StaysAt (PauseAt phase) Kept s :=
    (pauseAt phase).fault_restart hn (.inr (by decide)) s hs
  apply Ends.bind
  apply Ends.modify
  exact serviceEnd_after hf.1.1 hf.2.mono

theorem Busy.enters_finishAccepted (h : Busy r) (hp : r.value.phase = .finishSubmitted) : Enters r .finishAccepted where
  requested := h.core.requested_of_recipe h.recipe
  asked := rfl
  early := fun hn => by cases (h.recipe.symm.trans hn : true = false)
  recipe := fun _ => by decide
  served := fun hn => by rcases hn with hn | hn <;> cases hn
  late := fun _ => h.core.late (by rw [hp]; rfl)
  rejected := fun hn => by cases hn
  failed := fun hn => by cases hn
  published := fun hn => by rcases hn with hn | hn <;> cases hn

theorem serviceFinishSubmitted_closes {s : Recovery} (hs : PauseAt .finishSubmitted s) {now : Nat} (hnow : now ≤ qpcMax) :
    Closes (serviceFinishSubmitted now) s := by
  apply Ends.getBind
  apply Ends.ite
  · exact fun _ => fault_end hs (by decide)
  intro _
  apply StaysAt.bindEnds ((pauseAt _).frame (lease_frame 3 true false) s hs)
  · exact fun t ht hk => ⟨ht.1.ended, hk.mono⟩
  intro leased t ht hk
  apply Ends.getBind
  apply Ends.ite
  · exact fun _ => (fault_end ht (by decide)).after hk.mono
  intro _
  apply Ends.ite
  · intro _
    have hb := ht.busy rfl
    apply Ends.bind
    refine (Busy.transition hb (hb.enters_finishAccepted ht.2) hnow fun _ => by rw [ht.2]; decide).mono (fun _ u hu => ?_)
      fun _ => id
    exact serviceEnd_after (hu.1.1.pause fun hn => by cases (hu.2.1.symm.trans hn : RecoveryPhase.finishAccepted = _))
      (hk.mono.trans hu.1.2)
  · exact fun _ => serviceEnd_after ht.1 hk.mono

theorem Core.adopt (h : Core r) (hp : r.value.phase = .recreating) (ht : r.terminal = false) (deadline : Nat) :
    Core { r.setFlags fun f => { f with publishedLocally := true } with metadataDeadlineQpc := deadline } := by
  have hv := h.valid
  have hrecipe : r.recipeEntered = true := h.recipe_of_late (by rw [hp]; rfl)
  have hr : r.value.flags.preflightRetryable = false := h.unretryable_of_phase (by rw [hp]; decide)
  have hrestart : r.value.flags.restartRequired = false := by
    apply Bool.eq_false_iff.mpr
    intro hn
    cases (ht.symm.trans (h.restart hn) : false = true)
  exact { h with
    valid := { hv with
      attempted := fun _ => rfl
      coherent := fun _ => rfl
      unverified := fun _ => rfl
      retryable := fun hn => by cases (hr.symm.trans hn : false = true) }
    pristine := fun hn => by cases (hrecipe.symm.trans hn : true = false)
    failed := fun hn => by cases (hp.symm.trans hn : RecoveryPhase.recreating = .failed)
    published := fun _ => rfl
    adopted := fun _ => h.late (by rw [hp]; rfl)
    policy := fun _ _ hn => by cases hn
    reason := fun _ hn => by cases hn
    calm := fun hn => ⟨(h.calm hn).1, fun _ => ⟨hrestart, fun hc => by cases (ht.symm.trans hc : false = true)⟩⟩
    retryable := fun hn => by cases (hr.symm.trans hn : false = true) }

theorem Busy.enters_published (h : Busy r) (hp : r.value.flags.publishedLocally = true) : Enters r .published where
  requested := h.core.requested_of_recipe h.recipe
  asked := rfl
  early := fun hn => by cases (h.recipe.symm.trans hn : true = false)
  recipe := fun _ => by decide
  served := fun hn => by rcases hn with hn | hn <;> cases hn
  late := fun _ => h.core.adopted hp
  rejected := fun hn => by cases hn
  failed := fun hn => by cases hn
  published := fun _ => hp

theorem servicePublish_pause {s : Recovery} (hs : PauseAt .recreating s) {now : Nat} (hnow : now ≤ qpcMax) :
    (servicePublish now).Ends (fun _ t => Pause t ∧ Mono s t) (fun t => Pause t ∧ Mono s t) s := by
  apply Ends.bind
  refine ((pauseAt _).gives (lease_both_gives 3 false false (holds_still _)) s hs).mono (fun changed t ht => ?_)
    fun t ht => ⟨ht.1.1, ht.2.mono⟩
  obtain ⟨⟨ht, hk⟩, hgoing⟩ := ht
  apply Ends.ite
  · intro _
    have hf : (fault .createFailed .mechanicsFailed true).StaysAt (PauseAt .recreating) Kept t :=
      (pauseAt _).fault_restart (by decide) (.inr (by decide)) t ht
    exact ⟨hf.1.1, (hk.trans hf.2).mono⟩
  intro hchanged
  have hterminal := hgoing (by simpa only [Bool.not_eq_true', Bool.not_eq_false] using hchanged)
  apply Still.bindEnds ((holds_still _).both (holds_still _))
  intro adopted
  apply Ends.ite
  · intro _
    apply (Still.query _).bindEnds
    intro prints
    have hb := ht.busy rfl
    have hfirst := busy_touch (f := fun r =>
        { r with value := { r.value with newSdkFingerprint := prints.1, newCacheFingerprint := prints.2 } })
      (fun _ hr => { Touched.refl _ with native := .inl hr }) t hb
    have hadopt := hfirst.1.core.adopt ht.2 hterminal
      (min (now + t.frequency.toNat * kMetadataSeconds) (t.value.overallDeadlineQpc - t.frequency.toNat))
    have hb' : Busy _ := ⟨hadopt, hfirst.1.counter.step rfl le_rfl, hb.coherent, hb.recipe, hb.pump⟩
    have hstage := setStage_busy .publish _ hb'
    have hcopy := hstage.1.kept hstage.1.core.timingCopy (Recovery.timingCopy_kept _)
    have hsame : (Recovery.timingCopy _).value.phase = .recreating :=
      ((Recovery.timingCopy_kept _).phase.trans hstage.2.phase).trans ht.2
    have hlocal := ((Recovery.timingCopy_kept _).published.trans hstage.2.published).trans rfl
    apply Ends.bind
    apply Ends.modify
    apply Ends.bind
    apply Ends.modify
    apply Ends.bind
    apply Ends.modify
    apply Ends.bind
    apply Ends.modify
    apply Ends.bind
    refine (Busy.transition hcopy (hcopy.enters_published hlocal) hnow fun _ => ?_).mono (fun _ u hu => ?_) fun _ => id
    · exact (congrArg (fun p => RecoveryPhase.budget p + 2) hsame).trans_le le_rfl
    · have htouch : Touched u { u with bindingSuspended := false } := { Touched.refl _ with }
      have hpause := hu.1.1.pause fun hn => by cases (hu.2.1.symm.trans hn : RecoveryPhase.published = _)
      have hmono : Mono t _ := hfirst.2.mono.trans (Mono.trans (by exact { Mono.refl _ with published := fun _ => rfl })
        (hstage.2.mono.trans (Recovery.timingCopy_kept _).mono))
      exact ⟨pause.kept _ _ hpause (htouch.core hu.1.1.core) htouch.kept,
        ((hk.mono.trans hmono).trans hu.1.2).trans htouch.kept.mono⟩
  · exact fun _ => ⟨ht.1, hk.mono⟩

theorem serviceRecreating_closes {s : Recovery} (hs : PauseAt .recreating s) {now : Nat} (hnow : now ≤ qpcMax) :
    Closes (serviceRecreating now) s := by
  apply Ends.getBind
  apply Ends.ite
  · intro _
    apply Ends.bind
    exact (servicePublish_pause hs hnow).mono (fun _ t ht => serviceEnd_after ht.1 ht.2)
      fun t ht => ⟨ht.1.ended, ht.2⟩
  · exact fun _ => serviceEnd_after hs.1 (.refl s)

section Native

variable {inner : Occurrence → Rec Unit}

theorem serviceQualifying_closes (h : Inner inner) (capture : Capture) {s : Recovery} (hs : Asking s)
    (hp : s.value.phase = .qualifying) (now : Nat) : Closes (serviceQualifying inner capture now) s := by
  apply Ends.getBind
  apply Ends.ite
  · exact fun _ => fault_finish hs.pause.1 (hs.proper false (by decide) (by decide)) true
  intro _
  apply (Still.query _).bindEnds
  intro observed
  apply Ends.ite
  · exact fun _ => ⟨hs.pause.ended, .refl s⟩
  · intro _
    apply Ends.bind
    exact (qualify_pause h capture hs hp).mono (fun _ t ht => serviceEnd_after ht.1 ht.2) fun t ht => ⟨ht.1.ended, ht.2⟩

theorem serviceFinishAccepted_closes (h : Inner inner) (capture : Capture) {s : Recovery}
    (hs : PauseAt .finishAccepted s) (now : Nat) : Closes (serviceFinishAccepted inner capture now) s := by
  apply Ends.getBind
  apply Ends.ite
  · exact fun _ => fault_end hs (by decide)
  intro _
  apply Ends.ite
  · exact fun _ => fault_end hs (by decide)
  intro _
  apply Ends.bind
  exact (recreate_ends h ⟨hs.busy rfl, hs.2⟩).mono (fun _ t ht => serviceEnd_after ht.1.pause ht.2)
    fun t ht => ⟨ht.1.pause.ended, ht.2⟩

theorem servicePublished_closes (h : Inner inner) (capture : Capture) {s : Recovery} (hs : PauseAt .published s)
    (ht : s.terminal = false) {now : Nat} (hnow : now ≤ qpcMax) : Closes (servicePublished inner capture now) s := by
  apply Ends.bind
  refine (serviceMetadata_looks h capture hnow ⟨hs.busy rfl, hs.2⟩ ht).mono (fun served t ht => ?_)
    fun t ht => ⟨ht.1.pause.ended, ht.2⟩
  apply Ends.ite
  · exact fun _ => ⟨ht.1.pause.ended, ht.2⟩
  · exact fun _ => serviceEnd_after ht.1.pause ht.2

/-- One phase of an attempt that goes on. -/
theorem servicePhase_closes (h : Inner inner) (capture : Capture) {s : Recovery} (hs : Pause s)
    (ht : s.terminal = false) (hrun : s.transport = .running) {now : Nat} (hnow : now ≤ qpcMax) :
    Closes (servicePhase inner capture now) s := by
  have hrecipe : s.value.phase = .requested ∨ s.value.phase = .qualifying → s.recipeEntered = false := by
    intro hp
    apply Bool.eq_false_iff.mpr
    intro hr
    rcases hp with hp | hp
    · exact (hs.1.1.core.recipe hr).2 hp
    · cases (ht.symm.trans (hs.1.1.settled hr hp) : false = true)
  apply Ends.getBind
  cases hp : s.value.phase with
  | requested => exact serviceRequested_closes ⟨hs, hrecipe (.inl hp), hrun⟩ hp hnow
  | qualifying => exact serviceQualifying_closes h capture ⟨hs, hrecipe (.inr hp), hrun⟩ hp now
  | finishSubmitted => exact serviceFinishSubmitted_closes ⟨hs, hp⟩ hnow
  | finishAccepted => exact serviceFinishAccepted_closes h capture ⟨hs, hp⟩ now
  | recreating => exact serviceRecreating_closes ⟨hs, hp⟩ hnow
  | published => exact servicePublished_closes h capture ⟨hs, hp⟩ ht hnow
  | disabled | armed | observed | rejected | failed => exact serviceEnd_closes hs

theorem serviceAttempt_closes (h : Inner inner) (capture : Capture) {s : Recovery} (hs : Pause s) {now : Nat}
    (hnow : now ≤ qpcMax) : Closes (serviceAttempt inner capture now) s := by
  have hgo : ∀ t, Pause t → Mono s t → Ends (do
      let r ← Act.get
      if r.terminal then
        finishTerminal
        pure true
      else
        let admitted ← runtimeCaptureAdmission
        if !admitted then
          fault .recordingUnavailable .recordingUnavailable r.cancelEntered
          finishTerminal
          pure true
        else servicePhase inner capture now : Rec Bool)
      (fun _ u => Ended u ∧ Mono s u) (fun u => Ended u ∧ Mono s u) t := by
    intro t ht hm
    apply Ends.getBind
    apply Ends.ite
    · intro hterminal
      apply Ends.bind
      exact (finishTerminal_closes ⟨ht.1, hterminal⟩).after hm
    · intro hterminal
      apply Ends.bind
      refine (runtimeCaptureAdmission_ends t).mono (fun admitted u hu => ?_) fun _ => False.elim
      obtain ⟨rfl, hrun⟩ := hu
      apply Ends.ite
      · exact fun _ => (fault_finish ht.1 { named := by decide, unwound := by decide, policy := .inr } true).after hm
      · intro ha
        exact (servicePhase_closes h capture ht (Bool.eq_false_iff.mpr hterminal)
          (hrun (by simpa only [Bool.not_eq_true', Bool.not_eq_false] using ha)) hnow).after hm
  apply Ends.getBind
  apply Ends.ite
  · intro _
    have hf : (fault .attemptTimeout .mechanicsFailed s.cancelEntered).StaysAt Pause Mono s :=
      pause.fault_at hs { named := by decide, unwound := by decide, policy := .inr }
    apply Ends.bind
    apply Ends.modify
    exact hgo _ hf.1 hf.2
  · exact fun _ => hgo s hs (.refl s)

end Native

end RS2ServerFix.LeechRecovery
