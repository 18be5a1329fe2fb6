import RS2ServerFix.LeechRecovery.Runs

namespace RS2ServerFix.LeechRecovery

open Reporting Lib Act

variable {r r' : Recovery} {schema : Nat} {mode : Mode} {frequency : Int} {ownerThreadId : UInt32}

theorem Sound.suffix {later earlier : List Event} (h : Sound (later ++ earlier)) : Sound earlier := by
  induction later with
  | nil => exact h
  | cons e rest ih => exact ih h.2

theorem Sound.follows {later earlier : List Event} {e : Event} (h : Sound (later ++ e :: earlier)) : e.Follows earlier :=
  h.suffix.1

theorem Sound.after {later earlier : List Event} {e e' : Event} (h : Sound (later ++ e :: earlier)) (he : e' ∈ later) :
    ∃ before, e'.Follows before ∧ e ∈ before := by
  obtain ⟨left, right, rfl⟩ := List.append_of_mem he
  rw [List.append_assoc] at h
  exact ⟨_, h.follows, List.mem_append_right _ (List.mem_cons_self ..)⟩

theorem Reachable.core (h : Reachable schema mode frequency ownerThreadId r) : Core r := h.outside.1.core

structure Surroundings where
  classification : NativeLog.CallerClass := .normalPump
  recording : Bool := true
  maximum : Nat := 64
  safeOwner : Bool := true
  missed : Nat := 0

namespace Surroundings

def holds (w : Surroundings) : Condition → Bool
  | .stopping | .foreignThread | .controlFailed | .consoleDue | .transportDue => false
  | .safeOwner => w.safeOwner
  | _ => true

def returned : NativeCall → UInt32
  | .finishType => 5
  | .finishAllocate => 3
  | .bindHolder => 327683
  | .enqueueFinish => 7
  | .metadataHead => 1
  | _ => 0

def answer (w : Surroundings) (now : Nat) : (q : Question) → Answer q
  | .holds c => w.holds c
  | .reserve _ => true
  | .emit _ => if w.recording then some (UInt64.ofNat now) else none
  | .runtimeClock => if now = w.missed then none else some (Fin.ofNat _ now)
  | .pureClock => some (Fin.ofNat _ now)
  | .idleLifecycle => (1 : UInt64)
  | .sourceEpoch => (1 : UInt64)
  | .observedSequence => (1000000 : UInt64)
  | .claim => RequestOrigin.pipe
  | .runtimeSource => Except.ok ⟨0, 0, w.maximum, ⟨1, 0, 64⟩⟩
  | .runtimeTask =>
      Except.ok ⟨.zero, 2, 0, 0, { Task.TaskSchedule.zero with interval := 30000, retryLimit := 3, valid := true }⟩
  | .taskPhase => Task.TaskPhase.armed
  | .nativeSnapshot => ⟨.ready, .ready, 3, 1, 0, .ready, .ready, 0, 0, 0, 0, 1⟩
  | .changedOnlyCreate _ => some (0, 9, 5)
  | .fingerprints => (1, 2)
  | .metadataInputs => ⟨⟨1, 0, 64⟩, ⟨0, 2, true⟩, ⟨⟨1, 0, 64⟩, 0, false, false⟩⟩
  | .capture => ⟨w.classification, 4, false⟩
  | .refresh => TransportState.running
  | .initializeControl => ControlResult.ready
  | .native call => ⟨[], .ok (returned call)⟩

def respond (w : Surroundings) (now : Nat) (q : Question) : Answer q × Nat := (w.answer now q, now + 1)

def start (w : Surroundings) : Recovery :=
  ((prepareLeechRecovery 7 >>= fun _ => armLeechRecovery : Rec Unit) (.initial 2 .observe 1000 .running)
    |>.talk w.respond 1).2.2

def enter (w : Surroundings) (now : Nat) (occurrence : Occurrence) (r : Recovery) : Recovery :=
  ((occur 1 occurrence r).talk w.respond now).2.2

theorem start_reachable (w : Surroundings) : Reachable 2 .observe 1000 7 w.start := by
  have h := Yields.talk w.respond 1 ((prepareLeechRecovery 7 >>= fun _ => armLeechRecovery : Rec Unit)
    (.initial 2 .observe 1000 .running))
  exact .armed h

theorem enter_yields (w : Surroundings) (now : Nat) (occurrence : Occurrence) (r : Recovery) :
    ∃ depth o events result, Yields (occur depth o r) events (result, w.enter now occurrence r) :=
  ⟨1, occurrence, _, _, Yields.talk w.respond now (occur 1 occurrence r)⟩

theorem enter_reachable (w : Surroundings) (now : Nat) (occurrence : Occurrence)
    (h : Reachable 2 .observe 1000 7 r) : Reachable 2 .observe 1000 7 (w.enter now occurrence r) :=
  .entered h (Yields.talk _ _ _)

end Surroundings

/-- A rejection whose records could not be written, and a visit that gave them
up before the next one released the claim. -/
def abandonedRejection : Recovery :=
  Surroundings.enter {} 4000 .pump (Surroundings.enter { classification := .knownSpin } 3000 .pump
    (Surroundings.enter { recording := false, maximum := 0 } 2000 .pump
      (Surroundings.enter {} 1000 .pump (Surroundings.start {}))))

theorem abandonedRejection_reachable : Reachable 2 .observe 1000 7 abandonedRejection :=
  Surroundings.enter_reachable _ _ _ (Surroundings.enter_reachable _ _ _ (Surroundings.enter_reachable _ _ _
    (Surroundings.enter_reachable _ _ _ (Surroundings.start_reachable _))))

/-- A claim is released although a record of its attempt was never written. -/
theorem released_unwritten : ¬∀ r, Reachable 2 .observe 1000 7 r → r.value.flags.preflightRetryable = true →
    ∀ v ∈ queuedOf r.history, .recorded v true ∈ r.history := by
  intro h
  have hrun : abandonedRejection.value.flags.preflightRetryable = true ∧
      ∃ v ∈ queuedOf abandonedRejection.history, .recorded v true ∉ abandonedRejection.history := by
    decide +kernel
  obtain ⟨hr, v, hv, hn⟩ := hrun
  exact hn (h _ abandonedRejection_reachable hr v hv)

/-- What is idle has never taken an operation, or has released the last one. -/
theorem released_of_idle {history : List Event} (h : idle history = true) :
    (∀ origin, .operation origin ∉ history) ∨ ∃ later origin v holder earlier,
      history = later ++ .released origin v holder :: earlier ∧ ∀ origin, .operation origin ∉ later := by
  induction history with
  | nil => exact .inl fun _ hn => by cases hn
  | cons e rest ih =>
      have hskip : (∀ origin, e ≠ .operation origin) → idle rest = true →
          (∀ origin, .operation origin ∉ e :: rest) ∨ ∃ later origin v holder earlier,
            e :: rest = later ++ .released origin v holder :: earlier ∧ ∀ origin, .operation origin ∉ later := by
        intro hn hr
        have hnot : ∀ {l : List Event}, (∀ origin, .operation origin ∉ l) → ∀ origin, .operation origin ∉ e :: l := by
          intro l hl origin hm
          rcases List.mem_cons.mp hm with hm | hm
          · exact hn origin hm.symm
          · exact hl origin hm
        rcases ih hr with hl | ⟨later, origin, v, holder, earlier, rfl, hl⟩
        · exact .inl (hnot hl)
        · exact .inr ⟨e :: later, origin, v, holder, earlier, rfl, hnot hl⟩
      cases e with
      | operation origin => cases h
      | released origin v holder => exact .inr ⟨[], origin, v, holder, rest, rfl, fun _ hn => by cases hn⟩
      | _ => exact hskip (fun _ hn => by cases hn) h

/-- What a released claim left behind: nothing native, and each record of it was
written or given up by a visit without a usable capture, none suppressed. -/
structure Untouched (v : RecoveryValue) (holder : UInt32) (earlier : List Event) : Prop where
  recipe : .recipe ∉ earlier
  holder : holder = 0
  resource : v.resourcePhase = .none
  stage : v.nativeStage = .none
  phase : v.phase = .rejected
  terminal : v.flags.terminal = true
  restart : v.flags.restartRequired = false
  exception : v.flags.exceptionObserved = false
  order : queuedOf earlier = leftOf earlier
  suppressed : ∀ w, .suppressed w ∉ earlier
  records : ∀ w ∈ queuedOf earlier, .recorded w true ∈ earlier ∨ .discarded w ∈ earlier

theorem Sound.untouched {later earlier : List Event} {origin : RequestOrigin} {v : RecoveryValue} {holder : UInt32}
    (h : Sound (later ++ .released origin v holder :: earlier)) : Untouched v holder earlier := by
  obtain ⟨hrecipe, hholder, hresource, hstage, hphase, hterminal, hrestart, hexception, horder, hsuppressed⟩ := h.follows
  refine ⟨hrecipe, hholder, hresource, hstage, hphase, hterminal, hrestart, hexception, horder, hsuppressed, fun w hw => ?_⟩
  rw [horder, leftOf, List.mem_reverse, List.mem_filterMap] at hw
  obtain ⟨e, he, hl⟩ := hw
  cases e with
  | suppressed w' => exact absurd he (hsuppressed w')
  | discarded w' =>
      obtain rfl := Option.some.inj hl
      exact .inr he
  | recorded w' taken =>
      cases taken with
      | true =>
          obtain rfl := Option.some.inj hl
          exact .inl he
      | false => cases hl
  | _ => cases hl

/-- The recipe is entered at most once, a claim is released for another request
only before it, and no operation is taken into service after it. -/
theorem recovery_once (h : Reachable schema mode frequency ownerThreadId r) :
    (∀ later earlier, r.history = later ++ .recipe :: earlier →
      .recipe ∉ later ∧ .recipe ∉ earlier ∧ ∀ origin, .operation origin ∉ later) ∧
      (∀ later origin v holder earlier, r.history = later ++ .released origin v holder :: earlier →
        Untouched v holder earlier) ∧
      (r.value.flags.preflightRetryable = true → r.recipeEntered = false ∧ ∃ later origin v holder earlier,
        r.history = later ++ .released origin v holder :: earlier ∧ ∀ origin, .operation origin ∉ later) ∧
      (.recipe ∈ r.history ↔ r.recipeEntered = true) ∧
      r.history.countP Event.isOperation = r.value.operationSequence ∧
      ∀ depth occurrence events result r', Yields (occur depth occurrence r) events (result, r') →
        r.recipeEntered = true →
          r'.recipeEntered = true ∧ r'.value.operationSequence = r.value.operationSequence := by
  have hc := h.core
  refine ⟨?_, ?_, ?_, hc.recipes, hc.counted, ?_⟩
  · intro later earlier heq
    have hs := heq ▸ hc.sound
    refine ⟨fun hm => ?_, hs.follows, fun origin hm => ?_⟩
    · obtain ⟨before, hf, hb⟩ := hs.after hm
      exact hf hb
    · obtain ⟨before, hf, hb⟩ := hs.after hm
      exact hf.1 hb
  · intro later origin v holder earlier heq
    exact Sound.untouched (heq ▸ hc.sound)
  · intro hr
    have hre := hc.retryable hr
    refine ⟨hre.recipe, (released_of_idle hre.idle).resolve_left fun hno => ?_⟩
    apply (hc.valid.retryable hr).2.1
    rw [← hc.counted, List.countP_eq_zero]
    intro e he hop
    cases e with
    | operation origin => exact hno origin he
    | _ => cases hop
  · intro depth occurrence events result r' hy hr
    have hm := (h.outside.entered hy).2
    exact ⟨hm.recipe hr, hm.operation hr⟩

theorem abandonedRejection_once : ∃ later origin v holder earlier,
    abandonedRejection.history = later ++ .released origin v holder :: earlier ∧ Untouched v holder earlier := by
  obtain ⟨-, hreleased, hretryable, -⟩ := recovery_once abandonedRejection_reachable
  obtain ⟨-, later, origin, v, holder, earlier, heq, -⟩ := hretryable (by decide +kernel)
  exact ⟨later, origin, v, holder, earlier, heq, hreleased later origin v holder earlier heq⟩

/-- From a state between two entries, what the end of an attempt in a visit
leaves as its phase. -/
theorem Outside.finishes (h : Outside r) (hr : r.recipeEntered = true) (ht : r.terminal = true) :
    finishTerminal.Ends (fun _ t => t.value.phase = r.target) (fun t => t.value.phase = r.target) (r.within 1 0 1) := by
  have hrest := h.1.rest h.2
  have hbusy : Busy (r.within 1 0 1) :=
    ⟨h.1.core.within, h.1.counter.step rfl le_rfl, hrest.coherent, hr, rfl⟩
  exact (finishTerminal_ends ⟨hbusy.visit (hrest.settled hr), ht⟩).mono (fun _ _ hu => hu.2.2) fun _ hu => hu.2.2

theorem Core.recipe_of_cancel (h : Core r) (hc : r.cancelEntered = true) : r.recipeEntered = true := by
  cases hr : r.recipeEntered with
  | true => rfl
  | false => cases ((h.pristine hr).cancelEntered.symm.trans hc : false = true)

def publishedSession : Recovery :=
  Surroundings.enter {} 16000 .pump (Surroundings.enter {} 15000 (.createSuccess 9) (Surroundings.enter {} 14000 .pump
    (Surroundings.enter {} 13000 .pump (Surroundings.enter {} 12000 (.finishSuccess (.byte 1) 7)
      (Surroundings.enter {} 11000 .pump (Surroundings.enter {} 10000 .pump (Surroundings.start {})))))))

theorem publishedSession_reachable : Reachable 2 .observe 1000 7 publishedSession :=
  Surroundings.enter_reachable _ _ _ (Surroundings.enter_reachable _ _ _ (Surroundings.enter_reachable _ _ _
    (Surroundings.enter_reachable _ _ _ (Surroundings.enter_reachable _ _ _ (Surroundings.enter_reachable _ _ _
      (Surroundings.enter_reachable _ _ _ (Surroundings.start_reachable _)))))))

def failedSession : Recovery := Surroundings.enter { safeOwner := false, missed := 17047 } 17000 .pump publishedSession

/-- A fault that is none of the three, after the publication and with none of
them before it, does not settle the end of the attempt: one of them may follow. -/
theorem fault_not_settled : ¬∀ r r' : Recovery, Reachable 2 .observe 1000 7 r → r.value.flags.publishedLocally = true →
    (∃ depth occurrence events result, Yields (occur depth occurrence r) events (result, r')) →
    ∀ later reason outcome restart earlier, r'.history = later ++ .fault reason outcome restart :: earlier →
      r.history <:+ earlier → reason.critical = false → NoCritical earlier → r'.finalPending = false →
        r'.value.phase = .observed ∧ r'.value.outcome = .publishedNotDelivered ∧
          r'.value.flags.restartRequired = false := by
  intro h
  have hrun : publishedSession.value.flags.publishedLocally = true ∧ failedSession.finalPending = false ∧
      failedSession.value.phase = .failed ∧
      failedSession.history = failedSession.history.take 6 ++ .fault .clockFault .mechanicsFailed true ::
        publishedSession.history ∧
      ∀ e ∈ publishedSession.history, Event.isFault e = false := by
    decide +kernel
  obtain ⟨hlocal, hfinal, hfailed, heq, hfaults⟩ := hrun
  have hno : NoCritical publishedSession.history := fun reason outcome restart hm => by cases hfaults _ hm
  have hentered : ∃ depth occurrence events result,
      Yields (occur depth occurrence publishedSession) events (result, failedSession) :=
    Surroundings.enter_yields _ _ _ _
  have hreachable := publishedSession_reachable
  generalize publishedSession = r at hreachable hlocal heq hno hentered
  generalize failedSession = r' at hfinal hfailed heq hentered
  obtain ⟨hobserved, -⟩ := h r r' hreachable hlocal hentered _ _ _ _ _ heq List.suffix_rfl (by decide) hno hfinal
  cases (hfailed.symm.trans hobserved : RecoveryPhase.failed = .observed)

/-- What the faults of an attempt come to. -/
theorem recovery_policy (h : Reachable schema mode frequency ownerThreadId r) :
    (r.cancelEntered = true → r.terminal = true → r.value.flags.publishedLocally = false →
      r.value.flags.restartRequired = true ∧
        finishTerminal.Ends (fun _ t => t.value.phase = .failed) (fun t => t.value.phase = .failed) (r.within 1 0 1)) ∧
      (∀ depth occurrence events result r', Yields (occur depth occurrence r) events (result, r') →
        (r.value.flags.restartRequired = true → r'.value.flags.restartRequired = true) ∧
          (r.value.flags.publishedLocally = true → r'.value.flags.publishedLocally = true)) ∧
      (r.value.flags.publishedLocally = true → r.terminal = true → NoCritical r.history →
        r.value.outcome = .publishedNotDelivered ∧ r.value.flags.restartRequired = false ∧
          finishTerminal.Ends (fun _ t => t.value.phase = .observed) (fun t => t.value.phase = .observed)
            (r.within 1 0 1)) := by
  have hout := h.outside
  have hc := h.core
  refine ⟨?_, ?_, ?_⟩
  · intro hcancel ht hp
    have hrestart := hc.policy hcancel ht hp
    have htarget : r.target = .failed := by
      unfold Recovery.target
      rw [hp, hcancel]
      rfl
    refine ⟨hrestart, ?_⟩
    rw [← htarget]
    exact hout.finishes (hc.recipe_of_cancel hcancel) ht
  · intro depth occurrence events result r' hy
    have hm := (hout.entered hy).2
    exact ⟨hm.restart, hm.published⟩
  · intro hp ht hn
    obtain ⟨hrestart, houtcome⟩ := (hc.calm hn).2 hp
    have htarget : r.target = .observed := by
      unfold Recovery.target
      rw [hp, hrestart]
      rfl
    refine ⟨houtcome ht, hrestart, ?_⟩
    rw [← htarget]
    exact hout.finishes (hc.recipe_of_cancel (hc.adopted hp)) ht

def observedSession : Recovery := Surroundings.enter { missed := 17001 } 17000 .pump publishedSession

theorem observedSession_reachable : Reachable 2 .observe 1000 7 observedSession :=
  Surroundings.enter_reachable _ _ _ publishedSession_reachable

theorem observedSession_policy : observedSession.value.outcome = .publishedNotDelivered ∧
    observedSession.value.flags.restartRequired = false := by
  have hrun : observedSession.value.flags.publishedLocally = true ∧ observedSession.terminal = true ∧
      ∀ e ∈ observedSession.history, e = .fault .clockFault .mechanicsFailed true ∨ Event.isFault e = false := by
    decide +kernel
  obtain ⟨hlocal, hterminal, hfaults⟩ := hrun
  obtain ⟨-, -, hpolicy⟩ := recovery_policy observedSession_reachable
  have hno : NoCritical observedSession.history := by
    intro reason outcome restart hm
    rcases hfaults _ hm with he | he
    · cases he
      rfl
    · cases he
  obtain ⟨houtcome, hrestart, -⟩ := hpolicy hlocal hterminal hno
  exact ⟨houtcome, hrestart⟩

/-- Every publication of a state that may be asked for again is admissible to
the helper, and every publication the helper takes for admissible is one. -/
theorem publication_admissible (h : Reachable schema mode frequency ownerThreadId r) {later earlier : List Event}
    {v : RecoveryValue} {taken : Bool} (heq : r.history = later ++ .published v taken :: earlier) :
    (v.flags.preflightRetryable = true → helperRetry v.payload = true ∧ v.payload.recoveryPayloadValid = true) ∧
      (helperInitial v.payload = true ∨ helperRetry v.payload = true →
        .recipe ∉ earlier ∧ v.flags.restartRequired = false ∧
          ((∀ origin, .operation origin ∉ earlier) ∨ ∃ after origin w holder before,
            earlier = after ++ .released origin w holder :: before ∧ ∀ origin, .operation origin ∉ after)) := by
  obtain ⟨hvalid, hretry, hadmissible⟩ := Sound.follows (heq ▸ h.core.sound)
  refine ⟨fun hr => ⟨hretry hr, RecoveryValue.recoveryPayloadValid_payload hvalid⟩, fun ha => ?_⟩
  obtain ⟨hrecipe, hidle, hrestart⟩ := hadmissible ha
  exact ⟨hrecipe, hrestart, released_of_idle hidle⟩

/-- The publication of a release. -/
theorem abandonedRejection_admissible :
    helperRetry ({ abandonedRejection.value with event := .none } : RecoveryValue).payload = true ∧
      .recipe ∉ abandonedRejection.history.tail := by
  have hrun : ({ abandonedRejection.value with event := .none } : RecoveryValue).flags.preflightRetryable = true ∧
      abandonedRejection.history = [] ++ .published { abandonedRejection.value with event := .none } true ::
        abandonedRejection.history.tail := by
    decide +kernel
  revert hrun
  generalize ({ abandonedRejection.value with event := .none } : RecoveryValue) = v
  rintro ⟨hr, heq⟩
  obtain ⟨hretry, hadmissible⟩ := publication_admissible abandonedRejection_reachable heq
  exact ⟨(hretry hr).1, (hadmissible (.inr (hretry hr).1)).1⟩

/-- Every value that is published or recorded has a valid shape; only the end of
the status word refuses a publication. -/
theorem values_publishable (h : Reachable schema mode frequency ownerThreadId r) :
    (∀ v taken, .published v taken ∈ r.history → v.payload.recoveryPayloadValid = true) ∧
      (∀ v taken, .recorded v taken ∈ r.history → v.payload.recoveryPayloadValid = true) ∧
      ∀ v, .published v false ∈ r.history → uint64Max - 2 < r.ownerSequence := by
  have hs := h.core.sound
  refine ⟨fun v taken hm => ?_, fun v taken hm => ?_, h.core.refused⟩
  · obtain ⟨later, earlier, heq⟩ := List.append_of_mem hm
    rw [heq] at hs
    exact RecoveryValue.recoveryPayloadValid_payload hs.follows.1
  · obtain ⟨later, earlier, heq⟩ := List.append_of_mem hm
    rw [heq] at hs
    exact RecoveryValue.recoveryPayloadValid_payload hs.follows

theorem publishedSession_publishable : ∃ v, .recorded v true ∈ publishedSession.history ∧
    v.payload.recoveryPayloadValid = true := by
  have hrun : ∃ v ∈ queuedOf publishedSession.history, .recorded v true ∈ publishedSession.history := by
    decide +kernel
  obtain ⟨v, -, hv⟩ := hrun
  exact ⟨v, hv, (values_publishable publishedSession_reachable).2.1 v true hv⟩

end RS2ServerFix.LeechRecovery
