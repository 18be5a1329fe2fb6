import RS2ServerFix.LeechRecovery.Steps

namespace RS2ServerFix.LeechRecovery

open Reporting Lib

variable {r r' : Recovery}

namespace Recovery

variable {reason : RecoveryReason} {outcome : RecoveryOutcome} {restart : Bool}

/-- All that a fault changes. -/
structure Faulted (r : Recovery) (reason : RecoveryReason) (outcome : RecoveryOutcome) (restart : Bool)
    (r' : Recovery) : Prop where
  shape : ∃ final x y a b c, r' = { r with
    terminal := true
    finalPending := final
    value := { r.value with
      reason := x, outcome := y
      flags := { r.value.flags with restartRequired := c, metadataUnverified := b, preflightRetryable := a } }
    history := .fault reason outcome restart :: r.history }
  retryable : r'.value.flags.preflightRetryable = true → r.value.flags.preflightRetryable = true ∧ restart = false ∧
    reason.critical = false
  unverified : r'.value.flags.metadataUnverified = true → r.value.flags.metadataUnverified = true ∨
    (r.value.flags.publishedLocally = true ∧ r.value.flags.metadataCoherent = false)
  restarted : r'.value.flags.restartRequired = (r.value.flags.restartRequired || (restart &&
    !(r.value.flags.publishedLocally && !reason.critical && !r.value.existingNativeFault)))
  said : (r'.value.reason = r.value.reason ∧ r'.value.outcome = r.value.outcome ∧ r.terminal = true) ∨
    (r.value.flags.preflightRetryable = true → r'.value.flags.preflightRetryable = false) ∧
      (r'.value.reason = reason ∧ r'.value.outcome = outcome ∧
          (r.value.flags.publishedLocally && !reason.critical && !r.value.existingNativeFault) = false ∨
        (r'.value.reason = reason ∨ r'.value.reason = .metadataTimeout) ∧
          r'.value.outcome = .publishedNotDelivered ∧ r.value.flags.publishedLocally = true)

theorem terminate_shape (r : Recovery) (reason : RecoveryReason) (outcome : RecoveryOutcome)
    (restart was : Bool) :
    ∃ final x y, r.terminate reason outcome restart was = { r with
        terminal := true
        finalPending := final
        value := { r.value with
          reason := x, outcome := y
          flags := { r.value.flags with restartRequired := r.value.flags.restartRequired || restart } } } ∧
      (x = r.value.reason ∧ y = r.value.outcome ∧ r.terminal = true ∨
        x = reason ∧ y = outcome ∧ (r.terminal = true → reason.critical = true ∨ restart = true)) := by
  have hflags : (if restart then r.setFlags fun f => { f with restartRequired := true } else r) =
      r.setFlags fun f => { f with restartRequired := f.restartRequired || restart } := by
    cases restart with
    | true => simp only [if_true, setFlags, Bool.or_true]
    | false => simp only [Bool.false_eq_true, if_false, setFlags, Bool.or_false]
  unfold terminate
  rw [hflags]
  cases ht : r.terminal with
  | false =>
      refine ⟨true, reason, outcome, ?_, .inr ⟨rfl, rfl, fun h => by cases h⟩⟩
      simp only [Bool.false_eq_true, if_false, setFlags]
  | true =>
      simp only [if_true]
      split
      · rename_i h
        refine ⟨r.finalPending, reason, outcome, by simp only [setFlags, ht], .inr ⟨rfl, rfl, fun _ => ?_⟩⟩
        simp only [Bool.or_eq_true, Bool.and_eq_true, decide_eq_true_eq] at h
        rcases h with (⟨_, h⟩ | rfl) | ⟨rfl, _⟩
        · exact .inr h
        · exact .inl rfl
        · exact .inl rfl
      · exact ⟨r.finalPending, r.value.reason, r.value.outcome, by simp only [setFlags, ht], .inl ⟨rfl, rfl, trivial⟩⟩

def faulting (r : Recovery) (reason : RecoveryReason) (outcome : RecoveryOutcome) (restart : Bool) : Recovery :=
  let clear := restart || reason.critical || r.value.existingNativeFault
  { r with
    finalPending := r.finalPending || (clear && r.value.flags.preflightRetryable)
    value := { r.value with
      flags := { r.value.flags with preflightRetryable := !clear && r.value.flags.preflightRetryable } }
    history := .fault reason outcome restart :: r.history }

theorem fault_eq (r : Recovery) (reason : RecoveryReason) (outcome : RecoveryOutcome) (restart : Bool) :
    r.fault reason outcome restart =
      if r.value.flags.publishedLocally && !reason.critical && !r.value.existingNativeFault then
        ((r.faulting reason outcome restart).setFlags fun f =>
            { f with metadataUnverified := f.metadataUnverified || !f.metadataCoherent }).terminate
          (if reason = .attemptTimeout then .metadataTimeout else reason) .publishedNotDelivered false
          r.value.flags.preflightRetryable
      else (r.faulting reason outcome restart).terminate reason outcome restart r.value.flags.preflightRetryable := by
  have hclear : (if restart || reason.critical || r.value.existingNativeFault then
        { (r.log (.fault reason outcome restart)).setFlags fun f => { f with preflightRetryable := false } with
          finalPending := (r.log (.fault reason outcome restart)).finalPending || r.value.flags.preflightRetryable }
      else r.log (.fault reason outcome restart)) = r.faulting reason outcome restart := by
    unfold faulting
    cases restart || reason.critical || r.value.existingNativeFault with
    | true => simp only [if_true, log, setFlags, Bool.not_true, Bool.false_and, Bool.true_and]
    | false =>
        simp only [Bool.false_eq_true, if_false, log, Bool.not_false, Bool.false_and, Bool.true_and, Bool.or_false]
  have hmark : ∀ t : Recovery, (if t.value.flags.metadataCoherent then t
      else t.setFlags fun f => { f with metadataUnverified := true }) =
      t.setFlags fun f => { f with metadataUnverified := f.metadataUnverified || !f.metadataCoherent } := by
    intro t
    simp only [setFlags]
    split
    · rename_i hc
      have hm : (t.value.flags.metadataUnverified || !t.value.flags.metadataCoherent) =
          t.value.flags.metadataUnverified := by rw [hc, Bool.not_true, Bool.or_false]
      rw [hm]
    · rename_i hc
      have hm : (t.value.flags.metadataUnverified || !t.value.flags.metadataCoherent) = true := by
        rw [Bool.eq_false_iff.mpr hc, Bool.not_false, Bool.or_true]
      rw [hm]
  unfold fault
  dsimp only
  rw [hclear, hmark]
  rfl

theorem fault_faulted (outcome : RecoveryOutcome) (restart : Bool) (reason : RecoveryReason)
    (hr : r.value.flags.preflightRetryable = true → r.terminal = true) :
    Faulted r reason outcome restart (r.fault reason outcome restart) := by
  have hclear : ∀ c : Bool, (!c && r.value.flags.preflightRetryable) = true →
      r.value.flags.preflightRetryable = true ∧ c = false := by
    intro c h
    simpa only [Bool.and_eq_true, Bool.not_eq_true', and_comm] using h
  have hsplit : (restart || reason.critical || r.value.existingNativeFault) = false →
      restart = false ∧ reason.critical = false := by
    intro h
    simp only [Bool.or_eq_false_iff] at h
    exact h.1
  rw [fault_eq]
  split
  · rename_i hlocal
    obtain ⟨final, x, y, he, hsaid⟩ := ((r.faulting reason outcome restart).setFlags fun f =>
      { f with metadataUnverified := f.metadataUnverified || !f.metadataCoherent }).terminate_shape
        (if reason = .attemptTimeout then .metadataTimeout else reason) .publishedNotDelivered false
        r.value.flags.preflightRetryable
    rw [he]
    refine ⟨⟨final, x, y, _, _, _, rfl⟩, fun h => ?_, fun h => ?_, ?_, ?_⟩
    · obtain ⟨h1, h2⟩ := hclear _ h
      exact ⟨h1, hsplit h2⟩
    · simp only [Bool.and_eq_true] at hlocal
      rcases (Bool.or_eq_true _ _).mp h with h | h
      · exact .inl h
      · exact .inr ⟨hlocal.1.1, (Bool.not_eq_true' _).mp h⟩
    · rw [hlocal, Bool.not_true, Bool.and_false]
      rfl
    · rcases hsaid with ⟨hx, hy, ht⟩ | ⟨hx, hy, ht⟩
      · exact .inl ⟨hx, hy, ht⟩
      · refine .inr ⟨fun hw => ?_, .inr ⟨?_, hy, ?_⟩⟩
        · rcases ht (hr hw) with hc | hc
          · simp only [Bool.and_eq_true, Bool.not_eq_true'] at hlocal
            split at hc
            · cases hc
            · rw [hlocal.1.2] at hc
              cases hc
          · cases hc
        · dsimp only
          rw [hx]
          split
          · exact .inr rfl
          · exact .inl rfl
        · simp only [Bool.and_eq_true] at hlocal
          exact hlocal.1.1
  · rename_i hlocal
    rw [Bool.not_eq_true] at hlocal
    obtain ⟨final, x, y, he, hsaid⟩ := (r.faulting reason outcome restart).terminate_shape reason outcome restart
      r.value.flags.preflightRetryable
    rw [he]
    refine ⟨⟨final, x, y, _, _, _, rfl⟩, fun h => ?_, .inl, ?_, ?_⟩
    · obtain ⟨h1, h2⟩ := hclear _ h
      exact ⟨h1, hsplit h2⟩
    · rw [hlocal, Bool.not_false, Bool.and_true]
      rfl
    · rcases hsaid with ⟨hx, hy, ht⟩ | ⟨hx, hy, ht⟩
      · exact .inl ⟨hx, hy, ht⟩
      · refine .inr ⟨fun hw => ?_, .inl ⟨hx, hy, hlocal⟩⟩
        have hc : (restart || reason.critical || r.value.existingNativeFault) = true := by
          rcases ht (hr hw) with hc | hc
          · rw [hc, Bool.or_true, Bool.true_or]
          · rw [hc, Bool.true_or, Bool.true_or]
        change (!(restart || reason.critical || r.value.existingNativeFault) && _) = false
        rw [hc]
        rfl

theorem Faulted.kept (h : Faulted r reason outcome restart r')
    (hfinal : r.terminal = true → r.value.flags.preflightRetryable = false → r'.finalPending = r.finalPending) :
    Kept r r' := by
  have hrestart := h.restarted
  have hretry := h.retryable
  obtain ⟨final, x, y, a, b, c, rfl⟩ := h.shape
  exact { Kept.refl _ with
    terminal := fun _ => rfl
    restart := fun hn => by rw [hrestart, hn, Bool.true_or]
    retryable := fun hn => (hretry hn).1
    final := hfinal
    history := ⟨[.fault reason outcome restart], rfl, fun e he => by rw [List.mem_singleton.mp he]; rfl⟩ }

theorem terminate_final (r : Recovery) (reason : RecoveryReason) (outcome : RecoveryOutcome) (restart was : Bool)
    (ht : r.terminal = true) : (r.terminate reason outcome restart was).finalPending = r.finalPending := by
  have hflags : (if restart then r.setFlags fun f => { f with restartRequired := true } else r).finalPending =
      r.finalPending := by
    cases restart with
    | true => rfl
    | false => rfl
  unfold terminate
  rw [if_pos ht]
  split
  · exact hflags
  · exact hflags

theorem fault_final (r : Recovery) (reason : RecoveryReason) (outcome : RecoveryOutcome) (restart : Bool)
    (ht : r.terminal = true) (hr : r.value.flags.preflightRetryable = false) :
    (r.fault reason outcome restart).finalPending = r.finalPending := by
  have hf : (r.faulting reason outcome restart).finalPending = r.finalPending := by
    unfold faulting
    dsimp only
    rw [hr, Bool.and_false, Bool.or_false]
  rw [fault_eq]
  split
  · rw [terminate_final]
    · exact hf
    · exact ht
  · rw [terminate_final]
    · exact hf
    · exact ht

end Recovery

open Recovery

/-- What every call of `fault` keeps to. -/
structure Proper (r : Recovery) (reason : RecoveryReason) (outcome : RecoveryOutcome) (restart : Bool) : Prop where
  named : reason ≠ .none
  unwound : reason.critical = true ∨ outcome ≠ .nativeUnwind
  policy : r.cancelEntered = true → r.value.flags.publishedLocally = true ∨ restart = true

section Fault

variable {reason : RecoveryReason} {outcome : RecoveryOutcome} {restart : Bool}

theorem Core.terminal_of_retryable (h : Core r) : r.value.flags.preflightRetryable = true → r.terminal = true :=
  fun hn => (h.retryable hn).terminal

theorem Core.fault_faulted (h : Core r) (reason : RecoveryReason) (outcome : RecoveryOutcome) (restart : Bool) :
    Faulted r reason outcome restart (r.fault reason outcome restart) :=
  Recovery.fault_faulted outcome restart reason h.terminal_of_retryable

theorem Core.fault_kept (h : Core r) (reason : RecoveryReason) (outcome : RecoveryOutcome) (restart : Bool) :
    Kept r (r.fault reason outcome restart) :=
  (h.fault_faulted reason outcome restart).kept (r.fault_final reason outcome restart)

theorem Core.fault_terminal (h : Core r) (reason : RecoveryReason) (outcome : RecoveryOutcome) (restart : Bool) :
    (r.fault reason outcome restart).terminal = true := by
  obtain ⟨_, _, _, _, _, _, he⟩ := (h.fault_faulted reason outcome restart).shape
  rw [he]

theorem Recovery.Faulted.said_of_retryable (h : Faulted r reason outcome restart r')
    (hn : r'.value.flags.preflightRetryable = true) :
    r'.value.reason = r.value.reason ∧ r'.value.outcome = r.value.outcome := by
  rcases h.said with ⟨hreason, houtcome, -⟩ | ⟨hclear, -⟩
  · exact ⟨hreason, houtcome⟩
  · rw [hclear (h.retryable hn).1] at hn
    cases hn

/-- Only metadata that were published locally are marked as unverified. -/
theorem Recovery.Faulted.unmarked (h : Faulted r reason outcome restart r') (hc : Core r)
    (hpublished : r.value.flags.publishedLocally = false) : r'.value.flags.metadataUnverified = false := by
  apply Bool.eq_false_iff.mpr
  intro hb
  rcases h.unverified hb with hu | ⟨hu, -⟩
  · rw [hc.valid.unverified hu] at hpublished
    cases hpublished
  · rw [hu] at hpublished
    cases hpublished

theorem Recovery.Faulted.valid (h : Faulted r reason outcome restart r') (hc : Core r) : r'.value.Valid := by
  have hretry := h.retryable
  have hunverified := h.unverified
  have hrestart := h.restarted
  have hsaid := h.said_of_retryable
  have hunmarked := h.unmarked hc
  obtain ⟨final, x, y, a, b, c, rfl⟩ := h.shape
  have hv := hc.valid
  refine {
    hv with
    unverified := ?_
    exclusive := ?_
    retryable := ?_ }
  · intro hn
    rcases hunverified hn with hn | ⟨hn, -⟩
    · exact hv.unverified hn
    · exact hn
  · intro hn
    apply Bool.eq_false_iff.mpr
    intro hb
    rcases hunverified hb with hb | ⟨-, hb⟩
    · rw [hv.exclusive hn] at hb
      cases hb
    · rw [show r.value.flags.metadataCoherent = true from hn] at hb
      cases hb
  · intro hn
    obtain ⟨hr, hfalse, -⟩ := hretry hn
    obtain ⟨hphase, hoperation, houtcome, hflags, hrest⟩ := hv.retryable hr
    refine ⟨hphase, hoperation, ?_, ?_, hrest⟩
    · rw [(hsaid hn).2]
      exact houtcome
    · have hpublished : r.value.flags.publishedLocally = false := by rw [hflags]; rfl
      have hb : b = false := hunmarked hpublished
      have hcf : c = false := by
        have hnone : r.value.flags.restartRequired = false := by rw [hflags]; rfl
        have hcc := hrestart
        rw [hnone, hfalse] at hcc
        exact hcc
      have ha : a = true := hn
      subst hb hcf ha
      rw [hflags]
      rfl

theorem Recovery.Faulted.pristine (h : Faulted r reason outcome restart r') (hc : Core r)
    (hr : r.recipeEntered = false) : Pristine r' := by
  have hpr := hc.pristine hr
  have hpublished : r.value.flags.publishedLocally = false := by rw [hpr.flags]; rfl
  have hunmarked := h.unmarked hc hpublished
  obtain ⟨final, x, y, a, b, c, rfl⟩ := h.shape
  have hb : b = false := hunmarked
  exact { hpr with
    flags := by
      rw [hb, hpr.flags]
      rfl }

theorem Recovery.Faulted.restart_of_restart (h : Faulted r reason outcome restart r')
    (hr : r.value.flags.restartRequired = true) : r'.value.flags.restartRequired = true := by
  rw [h.restarted, hr, Bool.true_or]

/-- Past the cancellation a fault before the publication asks for the restart. -/
theorem Recovery.Faulted.restart_of_cancel (h : Faulted r reason outcome restart r')
    (hp : Proper r reason outcome restart) (hcancel : r.cancelEntered = true)
    (hpub : r.value.flags.publishedLocally = false) : r'.value.flags.restartRequired = true := by
  rw [h.restarted, hpub]
  rcases hp.policy hcancel with hn | hn
  · rw [hpub] at hn
    cases hn
  · rw [hn]
    exact Bool.or_true _

theorem Recovery.Faulted.named (h : Faulted r reason outcome restart r') (hc : Core r)
    (hp : Proper r reason outcome restart) (hpub : r.value.flags.publishedLocally = false) :
    r'.value.reason ≠ .none := by
  rcases h.said with ⟨hx, -, ht⟩ | ⟨-, ⟨hx, -⟩ | ⟨-, -, hx⟩⟩
  · rw [hx]
    exact hc.reason ht hpub
  · rw [hx]
    exact hp.named
  · rw [hpub] at hx
    cases hx

theorem Recovery.Faulted.existing (h : Faulted r reason outcome restart r') (hp : Proper r reason outcome restart)
    (hcrit : reason.critical = false) (hexisting : r.value.existingNativeFault = false) :
    r'.value.existingNativeFault = false := by
  have hsaid := h.said
  have hne : reason ≠ .publishedIdentityChanged := by
    rintro rfl
    cases hcrit
  have houtcome : outcome ≠ .nativeUnwind := by
    rcases hp.unwound with ho | ho
    · rw [hcrit] at ho
      cases ho
    · exact ho
  obtain ⟨final, x, y, a, b, c, rfl⟩ := h.shape
  dsimp only at hsaid
  simp only [RecoveryValue.existingNativeFault, Bool.or_eq_false_iff, decide_eq_false_iff_not] at hexisting ⊢
  obtain ⟨⟨hobserved, hchanged⟩, hunwind⟩ := hexisting
  rcases hsaid with ⟨hx, hy, -⟩ | ⟨-, ⟨hx, hy, -⟩ | ⟨hx, hy, -⟩⟩
  · rw [hx, hy]
    exact ⟨⟨hobserved, hchanged⟩, hunwind⟩
  · rw [hx, hy]
    exact ⟨⟨hobserved, hne⟩, houtcome⟩
  · rw [hy]
    refine ⟨⟨hobserved, ?_⟩, by decide⟩
    rcases hx with hx | hx
    · rw [hx]
      exact hne
    · rw [hx]
      decide

/-- A harmless fault of a published attempt asks for no restart, and its outcome
is that of a publication that was not delivered. -/
theorem Recovery.Faulted.delivered (h : Faulted r reason outcome restart r') (hcrit : reason.critical = false)
    (hexisting : r.value.existingNativeFault = false) (hpub : r.value.flags.publishedLocally = true)
    (hnone : r.value.flags.restartRequired = false)
    (hdone : r.terminal = true → r.value.outcome = .publishedNotDelivered) :
    r'.value.flags.restartRequired = false ∧ r'.value.outcome = .publishedNotDelivered := by
  have hmark : (r.value.flags.publishedLocally && !reason.critical && !r.value.existingNativeFault) = true := by
    rw [hpub, hcrit, hexisting]
    rfl
  constructor
  · rw [h.restarted, hmark, hnone, Bool.not_true, Bool.and_false]
    rfl
  · rcases h.said with ⟨-, hy, ht⟩ | ⟨-, ⟨-, -, hx⟩ | ⟨-, hy, -⟩⟩
    · exact hy.trans (hdone ht)
    · rw [hmark] at hx
      cases hx
    · exact hy

theorem Recovery.Faulted.retried (h : Faulted r reason outcome restart r') (hc : Core r)
    (hn : r'.value.flags.preflightRetryable = true) : Retryable r' := by
  have hrestart := h.restarted
  have hsame := (h.said_of_retryable hn).1
  obtain ⟨hr, hfalse, -⟩ := h.retryable hn
  obtain ⟨final, x, y, a, b, c, rfl⟩ := h.shape
  dsimp only at hrestart hsame
  have hre := hc.retryable hr
  refine { hre with terminal := rfl, restart := ?_, reason := ?_ }
  · rw [hrestart, hre.restart, hfalse]
    rfl
  · rw [hsame]
    exact hre.reason

theorem Recovery.Faulted.core (h : Faulted r reason outcome restart r') (hc : Core r)
    (hp : Proper r reason outcome restart) : Core r' := by
  have hvalid := h.valid hc
  have hpristine := h.pristine hc
  have hkept := h.restart_of_restart
  have hcancelled := h.restart_of_cancel hp
  have hnamed := h.named hc hp
  have hexisting := h.existing hp
  have hdelivered := h.delivered
  have hretried := h.retried hc
  obtain ⟨final, x, y, a, b, c, rfl⟩ := h.shape
  refine {
    hc with
    valid := hvalid
    pristine := hpristine
    rejected := ?_
    failed := ?_
    restart := fun _ => rfl
    policy := fun hcancel _ hpub => hcancelled hcancel hpub
    reason := fun _ hpub => hnamed hpub
    calm := ?_
    retryable := hretried
    counted := ?_
    recipes := ?_
    refused := ?_
    sound := ⟨trivial, hc.sound⟩ }
  · intro hn
    obtain ⟨h1, -, h2⟩ := hc.rejected hn
    exact ⟨h1, rfl, h2⟩
  · intro hn
    exact (hc.failed hn).imp_left hkept
  · intro hn
    have hcrit : reason.critical = false := hn reason outcome restart (List.mem_cons_self ..)
    obtain ⟨hbefore, hlocal⟩ := hc.calm (noCritical_of_cons hn)
    refine ⟨hexisting hcrit hbefore, fun hpub => ?_⟩
    obtain ⟨hnone, hdone⟩ := hlocal hpub
    obtain ⟨hc', hy⟩ := hdelivered hcrit hbefore hpub hnone hdone
    exact ⟨hc', fun _ => hy⟩
  · exact (List.countP_cons_of_neg Bool.false_ne_true).trans hc.counted
  · exact (List.mem_cons.trans (or_iff_right fun hn : Event.recipe = .fault reason outcome restart =>
      by cases hn)).trans hc.recipes
  · intro v hv
    rcases List.mem_cons.mp hv with hv | hv
    · cases hv
    · exact hc.refused v hv

theorem Core.fault (h : Core r) (hp : Proper r reason outcome restart) : Core (r.fault reason outcome restart) :=
  (h.fault_faulted reason outcome restart).core h hp

end Fault

end RS2ServerFix.LeechRecovery
