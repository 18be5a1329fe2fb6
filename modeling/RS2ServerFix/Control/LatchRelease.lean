import RS2ServerFix.Control.LatchRules

namespace RS2ServerFix.Control

open Lib
open LeechRecovery (ControlResult RequestOrigin)

variable {c : ControlState}

def releasing (o : OwnerState) (origin : RequestOrigin) : Thread Report :=
  .ask (.compareExchangeLatched .none origin) fun (previous : RequestOrigin) =>
    .done (.owner (if previous = origin then { o with preflightRetryable := true } else o))

theorem releasing_next {o : OwnerState} {origin : RequestOrigin} {next : RequestOrigin → Thread Report}
    (h : Ask.ask (ControlOp.compareExchangeLatched .none origin) next = releasing o origin) :
    next origin = .done (.owner { o with preflightRetryable := true }) := by
  obtain rfl := eq_of_heq (Ask.ask.inj h).2
  exact congrArg (fun o => Ask.done (Report.owner o)) (if_pos rfl)

/-- Nothing but the release of a finished attempt clears the latch. -/
def Releasing : (q : ControlOp) → (q.Answer → Thread Report) → Prop
  | .compareExchangeLatched value comparand, next => value = .none → comparand ≠ .none →
      ∃ o, o.terminal = true ∧ o.operationSequence ≠ 0 ∧
        Ask.ask (.compareExchangeLatched value comparand) next = releasing o comparand
  | _, _ => True

def Quiet (q : ControlOp) : Prop := ∀ next, Releasing q next

theorem Quiet.exchange {value comparand : RequestOrigin} (h : value = .none → comparand = .none) :
    Quiet (.compareExchangeLatched value comparand) := fun _ hvalue hcomparand => absurd (h hvalue) hcomparand

theorem done_quiet {α : Type} (a : α) : (Ask.done a : Thread α).Only Quiet := trivial

theorem readLatched_quiet : readLatched.Only Quiet := Ask.Only.query (Quiet.exchange fun _ => rfl)

theorem bothQuiet {p p' : Thread Bool} (h : p.Only Quiet) (h' : p'.Only Quiet) : (p <&&> p').Only Quiet :=
  h.bind fun b => by
    cases b with
    | false => exact trivial
    | true => exact h'

theorem running_quiet : running.Only Quiet := (Ask.Only.query fun _ => trivial).bind fun _ => trivial

theorem resultReady_quiet : resultReady.Only Quiet := (Ask.Only.query fun _ => trivial).bind fun _ => trivial

theorem serving_quiet (b : Bool) : (pure b <&&> readStarted <&&> running <&&> resultReady : Thread Bool).Only Quiet :=
  bothQuiet (done_quiet _) (bothQuiet (Ask.Only.query fun _ => trivial) (bothQuiet running_quiet resultReady_quiet))

theorem originAdmitted_quiet (origin : RequestOrigin) : (originAdmitted c origin).Only Quiet := by
  cases origin with
  | none => exact trivial
  | pipe => exact trivial
  | serverAdminConsole => exact Ask.Only.ite ((Ask.Only.query fun _ => trivial).bind fun _ => trivial) trivial

theorem claimControl_quiet {origin : RequestOrigin} (ho : origin ≠ .none) : (claimControl c origin).Only Quiet := by
  apply (serving_quiet _).bind
  intro serving
  apply (bothQuiet (done_quiet _) (originAdmitted_quiet origin)).bind
  intro admitted
  apply Ask.Only.ite
  · exact (Ask.Only.query (Quiet.exchange fun h => absurd h ho)).bind fun _ => trivial
  · exact trivial

theorem receiveMessage_quiet (bytes : List UInt8) : (receiveMessage c bytes).Only Quiet := by
  apply Ask.Only.ite (done_quiet _)
  apply (claimControl_quiet (by decide)).bind
  intro claimed
  apply Ask.Only.ite (done_quiet _)
  refine Ask.Only.bind (Ask.Only.query fun _ => trivial) fun (stop : Bool) => ?_
  apply Ask.Only.ite (done_quiet _)
  apply Ask.Only.ite (done_quiet _)
  exact readLatched_quiet.bind fun _ => trivial

theorem stoppedOr_quiet (result : ControlResult) : (stoppedOr result).Only Quiet :=
  (Ask.Only.query fun _ => trivial).bind fun _ => trivial

theorem receiveRead_quiet (read : PipeRead) : (receiveRead c read).Only Quiet := by
  cases read with
  | failed => exact stoppedOr_quiet _
  | moreData => exact stoppedOr_quiet _
  | message bytes =>
      refine Ask.Only.bind (Ask.Only.query fun _ => trivial) fun (stop : Bool) => ?_
      apply Ask.Only.ite (done_quiet _)
      refine Ask.Only.bind (Ask.Only.query fun _ => trivial) fun (accepted : Bool) => ?_
      exact Ask.Only.ite (done_quiet _) (receiveMessage_quiet bytes)

theorem receivePipe_quiet : (receivePipe c).Only Quiet := by
  refine Ask.Only.bind (Ask.Only.query fun _ => trivial) fun (reset : Bool) => ?_
  apply Ask.Only.ite (done_quiet _)
  refine Ask.Only.bind (Ask.Only.query fun _ => trivial) fun (connected : Bool) => ?_
  apply Ask.Only.ite (stoppedOr_quiet _)
  refine Ask.Only.bind (Ask.Only.query fun _ => trivial) fun (again : Bool) => ?_
  apply Ask.Only.ite (done_quiet _)
  exact (Ask.Only.query fun _ => trivial).bind receiveRead_quiet

theorem workerExit_quiet (result : ControlResult) : (workerExit result).Only Quiet :=
  (stoppedOr_quiet _).bind fun _ => (Ask.Only.query fun _ => trivial).bind fun _ => trivial

theorem workerNext_quiet (result : ControlResult) : (workerNext c result).Only Quiet := by
  refine Ask.Only.bind (Ask.Only.query fun _ => trivial) fun (disconnected : Bool) => ?_
  apply Ask.Only.ite (workerExit_quiet _)
  apply Ask.Only.ite (workerExit_quiet _)
  refine Ask.Only.bind (Ask.Only.query fun _ => trivial) fun (stop : Bool) => ?_
  exact Ask.Only.ite (workerExit_quiet _) (done_quiet _)

/-- A part of the owner's visit, from here to the end of the visit. -/
def Closes (p : Thread OwnerState) : Prop := (p.bind fun next => .done (.owner next)).Every Releasing

theorem Closes.done (o : OwnerState) : Closes (.done o) := trivial

theorem Closes.bind {α : Type} {p : Thread α} {f : α → Thread OwnerState} (h : p.Only Quiet) (hf : ∀ a, Closes (f a)) :
    Closes (p.bind f) := by
  unfold Closes
  rw [Ask.bind_bind]
  exact Ask.Every.bind h hf

theorem Closes.ite {b : Prop} {_ : Decidable b} {p p' : Thread OwnerState} (h : Closes p) (h' : Closes p') :
    Closes (if b then p else p') := by
  split
  · exact h
  · exact h'

theorem releasePreflightClaim_closes {o : OwnerState} (hterminal : o.terminal = true) (hsequence : o.operationSequence ≠ 0) :
    Closes ((releasePreflightClaim c).bind fun released =>
      .done (if released then { o with preflightRetryable := true } else o)) := by
  unfold Closes
  rw [Ask.bind_bind]
  unfold releasePreflightClaim
  rw [Ask.bind_def, Ask.bind_bind]
  apply Ask.Every.bind (serving_quiet _)
  intro serving
  cases serving with
  | false => exact trivial
  | true =>
      refine ⟨Quiet.exchange (fun _ => rfl) _, fun (origin : RequestOrigin) => ?_⟩
      by_cases ho : origin = .none
      · subst ho
        exact trivial
      · change Ask.Every Releasing (((if origin = .none then Ask.done false else
          (Ask.query (ControlOp.compareExchangeLatched .none origin)).bind fun (previous : RequestOrigin) =>
            Ask.done (decide (previous = origin))) : Thread Bool).bind _)
        rw [if_neg ho]
        refine ⟨fun _ _ => ⟨o, hterminal, hsequence, ?_⟩, fun _ => trivial⟩
        unfold releasing
        congr 1
        funext (previous : RequestOrigin)
        by_cases hp : previous = origin
        · simp [hp, Ask.bind]
        · simp [hp, Ask.bind]

theorem finishTerminal_closes (o : OwnerState) : Closes (finishTerminal c o) := by
  refine Closes.bind (Ask.Only.query fun _ => trivial) fun (recorded : Bool) => ?_
  refine Closes.bind (Ask.Only.query fun _ => trivial) fun (untouched : Bool) => ?_
  change Closes ((pure (recorded && untouched && c.scope.schema == 2 && o.terminal && o.operationSequence != 0 &&
    o.operationSequence != uint64Max) <&&> releasePreflightClaim c : Thread Bool).bind fun released =>
      .done (if released then { o with preflightRetryable := true } else o))
  cases hretryable : recorded && untouched && c.scope.schema == 2 && o.terminal && o.operationSequence != 0 &&
    o.operationSequence != uint64Max with
  | false => exact Closes.done o
  | true =>
      simp only [Bool.and_eq_true, bne_iff_ne] at hretryable
      exact releasePreflightClaim_closes hretryable.1.1.2 hretryable.1.2

theorem serviceAttempt_closes (o : OwnerState) : Closes (serviceAttempt c o) := by
  refine Closes.bind (Ask.Only.query fun _ => trivial) fun (terminal : Bool) => ?_
  exact Closes.ite (finishTerminal_closes _) (Closes.done _)

theorem readLatchedControl_quiet : (readLatchedControl c).Only Quiet := by
  apply readLatched_quiet.bind
  intro selected
  apply (bothQuiet (done_quiet _) (originAdmitted_quiet selected)).bind
  exact fun _ => trivial

theorem serviceRequest_closes (o : OwnerState) : Closes (serviceRequest c o) := by
  refine Closes.bind readLatchedControl_quiet fun request => ?_
  cases request with
  | none => exact serviceAttempt_closes _
  | some origin =>
      apply Closes.ite (finishTerminal_closes _)
      exact Closes.bind (Ask.Only.query fun _ => trivial) fun _ => serviceAttempt_closes _

theorem serviceOpen_closes (o : OwnerState) : Closes (serviceOpen c o) :=
  Closes.ite (serviceAttempt_closes o) (serviceRequest_closes o)

theorem serviceRetryable_closes (o : OwnerState) : Closes (serviceRetryable c o) := by
  refine Closes.bind (Ask.Only.query fun _ => trivial) fun (foreign : Bool) => ?_
  apply Closes.ite (finishTerminal_closes o)
  refine Closes.bind (bothQuiet running_quiet resultReady_quiet) fun serving => ?_
  apply Closes.ite (finishTerminal_closes _)
  refine Closes.bind readLatchedControl_quiet fun next => ?_
  cases next with
  | none => exact Closes.done o
  | some origin => exact serviceOpen_closes _

theorem serviceLeechRecovery_closes (o : OwnerState) : Closes (serviceLeechRecovery c o) := by
  refine Closes.bind (Ask.Only.query fun _ => trivial) fun (usable : Bool) => ?_
  apply Closes.ite
  · exact Closes.bind (Ask.Only.query fun _ => trivial) fun (terminal : Bool) => Closes.done _
  · exact Closes.ite (serviceRetryable_closes o) (serviceOpen_closes o)

theorem recoveryServiceDue_quiet (o : OwnerState) : (recoveryServiceDue o).Only Quiet := by
  apply (bothQuiet (done_quiet _) (Ask.Only.query fun _ => trivial)).bind
  intro foreign
  apply Ask.Only.ite (done_quiet _)
  apply Ask.Only.ite
  · exact (Ask.Only.query fun _ => trivial).bind fun _ => trivial
  · exact (Ask.Only.query fun _ => trivial).bind fun _ => readLatched_quiet.bind fun _ => trivial

/-- Every program there is clears the latch by such a release only. -/
theorem starts_releasing {i : Party} {report : Report} {p : Thread Report} {s t : ControlWords}
    (h : Starts c i report p s t) : p.Every Releasing := by
  cases h with
  | worker =>
      rw [← Ask.bind_done (workerTurn c)]
      exact Ask.Every.bind (receivePipe_quiet.bind workerNext_quiet) fun _ => trivial
  | console => exact Ask.Every.bind (claimControl_quiet (by decide)) fun _ => trivial
  | visit o =>
      apply Ask.Every.bind (recoveryServiceDue_quiet o)
      intro due
      exact Ask.Every.ite (fun _ => serviceLeechRecovery_closes o) fun _ => trivial
  | stop o => exact ⟨trivial, fun _ => trivial⟩

end RS2ServerFix.Control
