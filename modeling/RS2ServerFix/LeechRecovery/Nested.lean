import RS2ServerFix.LeechRecovery.Faults
import RS2ServerFix.LeechRecovery.Visit
import RS2ServerFix.Lib.Ledger

namespace RS2ServerFix.LeechRecovery

open Reporting Lib Act

/-- What is asked below a pump. No visit is served there: the only native calls
are those that the thread came in by. -/
def Question.nested : Question → Bool
  | .native call => call = .pump || call = .builder || call = .createSuccess
  | _ => true

structure Keeps (r r' : Recovery) : Prop where
  resource : r'.value.resourcePhase = r.value.resourcePhase
  entered : r'.bindEntered = r.bindEntered
  completed : r'.bindCompleted = r.bindCompleted
  attempted : r'.resourceReleaseAttempted = r.resourceReleaseAttempted
  headOwned : r'.metadataHeadOwned = r.metadataHeadOwned
  destructorEntered : r'.metadataDestructorEntered = r.metadataDestructorEntered
  updateReturned : r'.metadataUpdateReturned = r.metadataUpdateReturned
  pump : r'.pumpDepth = r.pumpDepth
  terminal : r.terminal = true → r'.terminal = true
  restart : r.value.flags.restartRequired = true → r'.value.flags.restartRequired = true

variable {r r' : Recovery}

theorem Keeps.refl (r : Recovery) : Keeps r r := ⟨rfl, rfl, rfl, rfl, rfl, rfl, rfl, rfl, id, id⟩

theorem Keeps.trans {r'' : Recovery} (h : Keeps r r') (h' : Keeps r' r'') : Keeps r r'' where
  resource := h'.resource.trans h.resource
  entered := h'.entered.trans h.entered
  completed := h'.completed.trans h.completed
  attempted := h'.attempted.trans h.attempted
  headOwned := h'.headOwned.trans h.headOwned
  destructorEntered := h'.destructorEntered.trans h.destructorEntered
  updateReturned := h'.updateReturned.trans h.updateReturned
  pump := h'.pump.trans h.pump
  terminal := h'.terminal ∘ h.terminal
  restart := h'.restart ∘ h.restart

instance : IsPreorder Recovery Keeps where
  refl := Keeps.refl
  trans _ _ _ := Keeps.trans

def Below (r : Recovery) : Prop := r.pumpDepth ≠ 0

theorem terminate_keeps (r : Recovery) (reason : RecoveryReason) (outcome : RecoveryOutcome) (restart retryable : Bool) :
    Keeps r (r.terminate reason outcome restart retryable) ∧
      (r.terminate reason outcome restart retryable).terminal = true ∧
      (restart = true → (r.terminate reason outcome restart retryable).value.flags.restartRequired = true) := by
  have hflag : ∀ b : Bool, (if b then r.setFlags fun f => { f with restartRequired := true } else r) =
      r.setFlags fun f => { f with restartRequired := f.restartRequired || b } := by
    intro b
    cases b with
    | true => simp only [if_true, Bool.or_true]
    | false => simp only [Bool.false_eq_true, if_false, Bool.or_false, Recovery.setFlags]
  unfold Recovery.terminate
  dsimp only
  rw [hflag]
  have hkept : r.value.flags.restartRequired = true → (r.value.flags.restartRequired || restart) = true := by
    intro h
    rw [h, Bool.true_or]
  have hset : restart = true → (r.value.flags.restartRequired || restart) = true := by
    intro h
    rw [h, Bool.or_true]
  split
  · next ht =>
    split
    · exact ⟨{ Keeps.refl r with restart := hkept }, ht, hset⟩
    · exact ⟨{ Keeps.refl r with restart := hkept }, ht, hset⟩
  · exact ⟨{ Keeps.refl r with terminal := fun _ => rfl, restart := hkept }, rfl, hset⟩

theorem faulting_keeps (r : Recovery) (reason : RecoveryReason) (outcome : RecoveryOutcome) (restart : Bool) :
    Keeps r (r.faulting reason outcome restart) := { Keeps.refl r with }

theorem fault_keeps (r : Recovery) (reason : RecoveryReason) (outcome : RecoveryOutcome) (restart : Bool) :
    Keeps r (r.fault reason outcome restart) ∧ (r.fault reason outcome restart).terminal = true := by
  rw [Recovery.fault_eq]
  split
  · obtain ⟨hk, ht, -⟩ := terminate_keeps ((r.faulting reason outcome restart).setFlags fun f =>
      { f with metadataUnverified := f.metadataUnverified || !f.metadataCoherent })
      (if reason = .attemptTimeout then .metadataTimeout else reason) .publishedNotDelivered false
      r.value.flags.preflightRetryable
    refine ⟨Keeps.trans ?_ hk, ht⟩
    exact { Keeps.refl r with }
  · obtain ⟨hk, ht, -⟩ := terminate_keeps (r.faulting reason outcome restart) reason outcome restart
      r.value.flags.preflightRetryable
    exact ⟨(faulting_keeps r reason outcome restart).trans hk, ht⟩

theorem fault_critical (r : Recovery) {reason : RecoveryReason} (hc : reason.critical = true)
    (outcome : RecoveryOutcome) : (r.fault reason outcome true).value.flags.restartRequired = true := by
  rw [Recovery.fault_eq, hc, Bool.not_true, Bool.and_false, Bool.false_and, if_neg (by decide)]
  exact (terminate_keeps (r.faulting reason outcome true) reason outcome true r.value.flags.preflightRetryable).2.2 rfl

theorem queue_keeps (r : Recovery) (event : RecoveryEvent) : Keeps r (r.queue event).1 := by
  unfold Recovery.queue
  split
  · exact (fault_keeps r _ _ _).1
  · exact { Keeps.refl r with }

theorem transition_keeps (r : Recovery) (phase : RecoveryPhase) (qpc : Nat) : Keeps r (r.transition phase qpc).1 := by
  unfold Recovery.transition
  split
  · exact Keeps.refl r
  · split
    · exact (fault_keeps r _ _ _).1
    · refine Keeps.trans ?_ (queue_keeps _ _)
      exact { Keeps.refl r with }

section Quiet

variable {L : Type} {record : L → Sigma Answer → Option L}

/-- A ledger that has no entries for what is asked below a pump. -/
def Blind (record : L → Sigma Answer → Option L) : Prop :=
  ∀ q : Question, q.nested = true → ∀ l (answer : Answer q), record l ⟨q, answer⟩ = some l

abbrev Hush {α : Type} (record : L → Sigma Answer → Option L) (p : Rec α) : Prop := Quiet record Below Keeps p

theorem hush_modify {f : Recovery → Recovery} (h : ∀ s, Keeps s (f s)) : Hush record (Act.modify f : Rec Unit) :=
  Quiet.modify fun s hs => ⟨by rw [Below, (h s).pump]; exact hs, h s⟩

theorem setStage_hush (stage : NativeStage) : Hush record (setStage stage) := hush_modify fun s => { Keeps.refl s with }

theorem fault_hush (reason : RecoveryReason) (outcome : RecoveryOutcome) (restart : Bool) :
    Hush record (fault reason outcome restart) := hush_modify fun s => (fault_keeps s reason outcome restart).1

theorem transition_hush (phase : RecoveryPhase) (qpc : Nat) : Hush record (transition phase qpc) :=
  Quiet.getBind fun _ => Quiet.bind (hush_modify fun s => transition_keeps s phase qpc) fun _ => Quiet.done _

theorem releaseCapture_hush : Hush record releaseCapture := hush_modify fun s => { Keeps.refl s with }

theorem recoveryOwnerClockFault_hush : Hush record recoveryOwnerClockFault := by
  apply Quiet.getBind
  intro s
  apply Quiet.ite
  · intro _
    apply Quiet.bind (fault_hush _ _ _)
    exact fun _ => Quiet.ite (fun _ => releaseCapture_hush) fun _ => Quiet.done ()
  · exact fun _ => Quiet.done ()

theorem native_hush {inner : Occurrence → Rec Unit} (hinner : ∀ o, Hush record (inner o))
    {filter : UInt32 → Rec Unit} (hfilter : ∀ code, Hush record (filter code)) {call : NativeCall}
    (hcall : ∀ l (answer : Answer (.native call)), record l ⟨.native call, answer⟩ = some l) :
    Hush record (native inner filter call) := by
  refine Quiet.bind (Quiet.query hcall) fun answer => Quiet.bind (Quiet.each fun occurrence => ?_) fun _ => ?_
  · cases occurrence with
    | resumed code => exact hfilter code
    | _ => exact hinner _
  · cases NativeAnswer.outcome answer with
    | error code => exact Quiet.raise code
    | ok value => exact Quiet.done value

variable (hblind : Blind record)

include hblind

theorem holds_hush (c : Condition) : Hush record (holds c) := Quiet.query fun l answer => hblind _ rfl l answer

theorem runtimeClock_hush : Hush record runtimeClock := Quiet.query fun l answer => hblind _ rfl l answer

theorem pureClock_hush : Hush record pureClock :=
  Quiet.bind (Quiet.query fun l answer => hblind _ rfl l answer) fun _ => Quiet.done _

theorem runtimeCaptureAdmission_hush : Hush record runtimeCaptureAdmission := by
  apply Quiet.bind (holds_hush hblind _)
  intro admitted
  apply Quiet.getBind
  intro s
  exact Quiet.ite (fun _ => Quiet.done _) fun _ => holds_hush hblind _

theorem sameLifecycle_hush : Hush record sameLifecycle := by
  apply Quiet.bind (Quiet.query fun l answer => hblind _ rfl l answer)
  exact fun _ => Quiet.getBind fun _ => Quiet.done _

theorem sameSourceEpoch_hush : Hush record sameSourceEpoch := by
  apply Quiet.bind (Quiet.query fun l answer => hblind _ rfl l answer)
  exact fun _ => Quiet.getBind fun _ => Quiet.done _

theorem leaseRead_hush (standalone : Nat) : Hush record (leaseRead standalone) := by
  apply Quiet.getBind
  intro s
  apply Quiet.ite (fun _ => Quiet.done _)
  intro _
  exact (runtimeCaptureAdmission_hush hblind).both ((sameLifecycle_hush hblind).both ((sameSourceEpoch_hush hblind).both
    ((holds_hush hblind _).both ((runtimeCaptureAdmission_hush hblind).both ((Quiet.done _).both
      (holds_hush hblind _))))))

theorem leaseClock_hush : Hush record leaseClock := by
  apply Quiet.bind (runtimeClock_hush hblind)
  intro clock
  cases clock with
  | none => exact Quiet.bind (recoveryOwnerClockFault_hush) fun _ => Quiet.done _
  | some now =>
      apply Quiet.getBind
      intro s
      apply Quiet.ite (fun _ => Quiet.done _)
      intro _
      refine Quiet.bind (hush_modify fun s => { Keeps.refl s with }) fun _ => ?_
      exact runtimeCaptureAdmission_hush hblind

theorem lease_hush (standalone : Nat) (oldSession publishedSession : Bool) :
    Hush record (lease standalone oldSession publishedSession) := by
  apply Quiet.bind
  · exact (leaseRead_hush hblind standalone).both (Quiet.ite (fun _ => holds_hush hblind _) fun _ => Quiet.done _)
  intro leased
  apply Quiet.ite (fun _ => Quiet.done _)
  intro _
  have hrest : ∀ same : Bool, Hush record (if !same then do
        fault .publishedIdentityChanged .mechanicsFailed true
        pure false
      else leaseClock : Rec Bool) := fun same =>
    Quiet.ite (fun _ => Quiet.bind (fault_hush _ _ _) fun _ => Quiet.done _) fun _ => leaseClock_hush hblind
  exact Quiet.ite (fun _ => Quiet.bind (holds_hush hblind _) hrest) fun _ => hrest true

theorem observeFailure_hush (callback : Bool) (code : UInt32) : Hush record (observeFailure callback code) := by
  have hfault : ∀ rest : Rec Unit, Hush record rest → Hush record (do
      Act.modify fun r =>
        { r.setFlags fun f => { f with exceptionObserved := true, recipeNormalCompleted := false } with
          exceptionPending := true }
      setValue fun v => { v with exceptionCode := code }
      fault .nativeException .nativeUnwind true
      rest) := by
    intro rest hrest
    refine Quiet.bind (hush_modify fun s => { Keeps.refl s with }) fun _ => ?_
    refine Quiet.bind (hush_modify fun s => { Keeps.refl s with }) fun _ => ?_
    apply Quiet.bind (fault_hush _ _ _)
    exact fun _ => hrest
  cases callback with
  | false => exact hfault _ (Quiet.done ())
  | true =>
      apply Quiet.bind (pureClock_hush hblind)
      intro clock
      refine Quiet.bind (hush_modify fun s => { Keeps.refl s with }) fun _ => ?_
      apply hfault
      apply Quiet.bind (pureClock_hush hblind)
      exact fun clock => hush_modify fun s => { Keeps.refl s with }

theorem finishObservation_hush (result : FinishByte) (id : UInt32) (errorCall : Bool) :
    Hush record (finishObservation result id errorCall) := by
  apply Quiet.getBind
  intro s
  apply Quiet.ite (fun _ => Quiet.done _)
  intro _
  apply Quiet.bind (sameLifecycle_hush hblind)
  intro same
  apply Quiet.ite (fun _ => fault_hush _ _ _)
  intro _
  refine Quiet.bind (hush_modify fun s => { Keeps.refl s with }) fun _ => ?_
  refine Quiet.bind (hush_modify fun s => { Keeps.refl s with }) fun _ => ?_
  apply Quiet.bind (pureClock_hush hblind)
  intro clock
  cases clock.filter fun qpc => s.value.qpc ≤ qpc with
  | none => exact fault_hush _ _ _
  | some qpc =>
      refine Quiet.bind (hush_modify fun s => { Keeps.refl s with }) fun _ => ?_
      apply Quiet.ite (fun _ => fault_hush _ _ _)
      intro _
      apply Quiet.ite (fun _ => fault_hush _ _ _)
      intro _
      refine Quiet.bind (hush_modify fun s => { Keeps.refl s with }) fun _ => ?_
      refine Quiet.bind (hush_modify fun s => { Keeps.refl s with }) fun _ => ?_
      exact Quiet.ite (fun _ => fault_hush _ _ _) fun _ => Quiet.done ()

theorem createSafe_hush (claimed : Bool) : Hush record (createSafe claimed) := by
  apply Quiet.bind (holds_hush hblind _)
  intro captured
  apply Quiet.getBind
  intro s
  apply Quiet.ite (fun _ => Quiet.done _)
  intro _
  exact (lease_hush hblind _ _ _).both ((holds_hush hblind _).both ((holds_hush hblind _).both
    ((holds_hush hblind _).both ((holds_hush hblind _).both (runtimeCaptureAdmission_hush hblind)))))

theorem createCleanup_hush (abnormal : Bool) : Hush record (createCleanup abnormal) := by
  have hend : Hush record (do
      Act.modify fun r => { r with callbackDepth := r.callbackDepth - 1 }
      let clock ← pureClock
      Act.modify fun r => { r with callbackTiming := r.callbackTiming.finalize clock }) := by
    refine Quiet.bind (hush_modify fun s => { Keeps.refl s with }) fun _ => ?_
    apply Quiet.bind (pureClock_hush hblind)
    exact fun clock => hush_modify fun s => { Keeps.refl s with }
  cases abnormal with
  | false => exact hend
  | true =>
      apply Quiet.bind (pureClock_hush hblind)
      intro clock
      exact Quiet.bind (hush_modify fun s => { Keeps.refl s with }) fun _ => hend

variable {inner : Occurrence → Rec Unit} (hinner : ∀ o, Hush record (inner o))

include hinner

theorem createForward_hush (claimed : Bool) : Hush record (createForward inner claimed) := by
  apply Quiet.bind (setStage_hush _)
  intro _
  apply Quiet.bind (createSafe_hush hblind claimed)
  intro safe
  apply Quiet.getBind
  intro s
  apply Quiet.ite (fun _ => fault_hush _ _ _)
  intro _
  refine Quiet.bind (hush_modify fun s => { Keeps.refl s with }) fun _ => ?_
  apply Quiet.bind (setStage_hush _)
  intro _
  apply Quiet.bind (pureClock_hush hblind)
  intro clock
  refine Quiet.bind (hush_modify fun s => { Keeps.refl s with }) fun _ => ?_
  apply Quiet.bind (native_hush hinner (observeFailure_hush hblind true) (hblind _ rfl))
  intro _
  apply Quiet.bind (pureClock_hush hblind)
  intro clock
  exact Quiet.bind (hush_modify fun s => { Keeps.refl s with }) fun _ => hush_modify fun s => { Keeps.refl s with }

theorem createSuccess_hush (id : UInt32) : Hush record (createSuccess inner id) := by
  apply Quiet.getBind
  intro s
  apply Quiet.ite (fun _ => Quiet.done _)
  intro _
  apply Quiet.ite
  · exact fun _ => Quiet.bind (hush_modify fun s => { Keeps.refl s with }) fun _ => fault_hush _ _ _
  intro _
  apply Quiet.bind ((Quiet.done _).both ((holds_hush hblind _).both (holds_hush hblind _)))
  intro attributed
  apply Quiet.ite (fun _ => fault_hush _ _ _)
  intro _
  refine Quiet.bind (hush_modify fun s => { Keeps.refl s with }) fun _ => ?_
  apply Quiet.bind (pureClock_hush hblind)
  intro clock
  refine Quiet.bind (Quiet.getBind fun s => Quiet.bind (hush_modify fun s => { Keeps.refl s with }) fun _ =>
    Quiet.done _) fun claimed => ?_
  refine Quiet.bind (hush_modify fun s => { Keeps.refl s with }) fun _ => ?_
  refine Quiet.bind (hush_modify fun s => { Keeps.refl s with }) fun _ => ?_
  apply Quiet.cleaned
  · exact Quiet.filtered (createForward_hush hblind hinner claimed) (observeFailure_hush hblind true)
  · exact createCleanup_hush hblind

theorem builderEntry_hush : Hush record (builderEntry inner) := by
  refine Quiet.bind (hush_modify fun s => { Keeps.refl s with }) fun _ => ?_
  apply Quiet.cleaned
  · exact Quiet.bind (native_hush hinner (fun _ => Quiet.done ()) (hblind _ rfl)) fun _ => Quiet.done ()
  · exact fun _ => hush_modify fun s => { Keeps.refl s with }

/-- A pump below a pump serves nothing. -/
theorem pumpEntry_hush : Hush record (pumpEntry inner) := by
  intro l s hs
  have hback : ∀ t, Keeps { s with pumpDepth := s.pumpDepth + 1, timingDepth := s.timingDepth + 1 } t →
      Below { t with pumpDepth := t.pumpDepth - 1, timingDepth := t.timingDepth - 1 } ∧
        Keeps s { t with pumpDepth := t.pumpDepth - 1, timingDepth := t.timingDepth - 1 } := by
    intro t hk
    have hpump : t.pumpDepth - 1 = s.pumpDepth := by rw [hk.pump, Nat.add_sub_cancel]
    exact ⟨fun hn => hs (hpump.symm.trans hn), { hk with pump := hpump }⟩
  have hbelow : Below { s with pumpDepth := s.pumpDepth + 1, timingDepth := s.timingDepth + 1 } := Nat.succ_ne_zero _
  apply Logs.getBind
  apply Logs.modifyBind
  apply Logs.cleaned
  apply (native_hush hinner (fun _ => Quiet.done ()) (hblind _ rfl)).bindLogs hbelow
  · intro _ t _ hk
    apply Logs.getBind
    apply Logs.ite
    · rintro ⟨-, hone⟩
      have hpump := hk.pump
      have hne := hs
      rw [Below] at hne
      change t.pumpDepth = s.pumpDepth + 1 at hpump
      omega
    · intro _
      exact ⟨rfl, hback t hk⟩
  · intro e t _ hk
    exact ⟨rfl, hback t hk⟩

omit hinner in
theorem occur_hush (depth : Nat) (o : Occurrence) : Hush record (occur depth o) := by
  induction depth generalizing o with
  | zero => exact Quiet.done ()
  | succ depth ih =>
      cases o with
      | pump => exact pumpEntry_hush hblind ih
      | builder => exact builderEntry_hush hblind ih
      | finishSuccess result id => exact finishObservation_hush hblind result id false
      | finishError code id => exact finishObservation_hush hblind .null id true
      | createSuccess id => exact createSuccess_hush hblind ih id
      | resumed code => exact Quiet.done ()

end Quiet

end RS2ServerFix.LeechRecovery
