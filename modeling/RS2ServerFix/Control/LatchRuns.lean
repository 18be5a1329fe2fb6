import RS2ServerFix.Control.LatchRelease
import RS2ServerFix.Lib.Serve

namespace RS2ServerFix.Control

open Lib
open LeechRecovery (ControlResult RequestOrigin)

variable {c : ControlState} {registration : ConsoleRegistration}

def Agreeing (ls : Party → Known) (s : ControlWords) : Prop := Agrees (ls .owner) s

theorem Agreeing.keep {ls : Party → Known} {s : ControlWords} (h : Agreeing ls s) (i : Party) :
    Agreeing (Function.update ls i (ls i)) s := by
  rw [Function.update_eq_self]
  exact h

theorem Agreeing.others {ls : Party → Known} {s : ControlWords} {i : Party} (h : Agrees (ls .owner) s) (hi : i ≠ .owner)
    (l : Known) : Agreeing (Function.update ls i l) s := by
  unfold Agreeing
  rw [Function.update_of_ne hi.symm]
  exact h

theorem Agreeing.owner {ls : Party → Known} {s : ControlWords} {l : Known} (h : Agrees l s) :
    Agreeing (Function.update ls .owner l) s := by
  unfold Agreeing
  rw [Function.update_self]
  exact h

theorem Agreeing.exchange {ls : Party → Known} {s : ControlWords} (h : Agreeing ls s) {i : Party}
    {value comparand : RequestOrigin} (hmay : may i (.compareExchangeLatched value comparand) (ls i)) :
    (value = .none → comparand ≠ .none → s.latched = comparand) ∧
      Agreeing (Function.update ls i ((ls i).exchanged value comparand s.latched)) (s.compareExchange value comparand) := by
  rcases hmay with ⟨rfl, rfl⟩ | ⟨hi, hvalue, rfl⟩ | ⟨rfl, rfl, hn, rfl⟩
  · refine ⟨fun _ hno => absurd rfl hno, ?_⟩
    rw [compareExchange_read, Known.exchanged, if_neg (not_not.mpr rfl), if_pos rfl]
    by_cases hi : i = .owner
    · subst hi
      exact Agreeing.owner (Agrees.read h)
    · exact Agreeing.others h hi _
  · exact ⟨fun hno => absurd hno hvalue, Agreeing.others (Agrees.claim h hvalue) hi _⟩
  · refine ⟨fun _ _ => Agrees.held h hn, ?_⟩
    rw [Known.exchanged, if_neg (not_not.mpr rfl), if_neg hn]
    exact Agreeing.owner (Agrees.release h hn)

theorem Agreeing.asks {ls : Party → Known} {s t : ControlWords} (h : Agreeing ls s) {i : Party} {q : ControlOp}
    {answer : q.Answer} (hmay : may i q (ls i)) (hr : responds i q s answer t) :
    ∃ l, answers q (ls i) answer l ∧ Agreeing (Function.update ls i l) t := by
  cases q with
  | compareExchangeLatched value comparand =>
      obtain ⟨rfl, rfl⟩ := hr
      obtain ⟨hanswer, hnext⟩ := h.exchange hmay
      exact ⟨_, ⟨hanswer, rfl⟩, hnext⟩
  | operation origin =>
      obtain rfl := hr
      obtain ⟨rfl, ho, rfl, hunserved⟩ := hmay
      exact ⟨_, rfl, Agreeing.owner (Agrees.operation h ho hunserved)⟩
  | readStop | readStarted | readResult | readRegistration =>
      obtain ⟨-, rfl⟩ := hr
      exact ⟨ls i, rfl, h.keep i⟩
  | setStop | setResult result =>
      obtain rfl := hr
      refine ⟨ls i, rfl, Agreeing.keep ?_ i⟩
      exact Agrees.other h rfl rfl
  | resetEvent | connectPipe | readPipe | authenticatePeer | disconnectPipe | foreignFault | pending | usableCapture
  | attempt | recorded | untouched =>
      obtain rfl := hr
      exact ⟨ls i, rfl, h.keep i⟩

theorem control_sound (c : ControlState) : Crew.Sound view Agreeing rest responds (Starts c) outside where
  asks := fun _ _ _ _ _ _ h hmay hr => h.asks hmay hr
  starts := by
    intro i report p s t ls h hrest hs
    cases hs with
    | worker =>
        exact ⟨ls .worker, h.keep _, Ask.Abides.mono (workerTurn_abiding (by decide) _) fun _ _ _ => trivial⟩
    | console =>
        exact ⟨ls .console, h.keep _, Ask.Abides.mono (consoleTurn_abiding (by decide) _) fun _ _ _ => trivial⟩
    | visit o => exact ⟨ls .owner, h.keep _, ownerVisit_abides hrest⟩
    | stop o => exact ⟨ls .owner, h.keep _, stopControl_abides hrest⟩
  outside := by
    rintro s t ls h ⟨registration, rfl⟩
    exact Agrees.other h rfl rfl

theorem going_resting (registration : ConsoleRegistration) :
    Crew.Going view Agreeing rest ⟨.armed registration, resting⟩ fun _ => ⟨.none, true, 0⟩ where
  agrees := by
    refine ⟨⟨.free, rfl, rfl, ?_, fun _ => rfl⟩, fun hn => absurd rfl hn, rfl⟩
    rintro origin b hl
    cases hl
  abides := by
    intro i
    cases i with
    | worker => exact trivial
    | console => exact trivial
    | owner => exact ⟨fun _ => rfl, fun hno => absurd hno Bool.false_ne_true, rfl⟩

/-- The turn came to an authenticated message that is a valid request. -/
def Received (c : ControlState) (events : List (Sigma ControlOp.Answer)) : Prop :=
  ∃ bytes rest, events = ⟨.resetEvent, true⟩ :: ⟨.connectPipe, true⟩ :: ⟨.resetEvent, true⟩ ::
      ⟨.readPipe, PipeRead.message bytes⟩ :: ⟨.readStop, false⟩ :: ⟨.authenticatePeer, true⟩ :: rest ∧
    (parseControlRequest bytes c.identity (some c.scope)).map Prod.fst = some .ready

section Turns

variable {bytes : List UInt8} {events : List (Sigma ControlOp.Answer)} {result : ControlResult} {report : Report}

def SawStop (events : List (Sigma ControlOp.Answer)) : Prop := ⟨.readStop, true⟩ ∈ events

theorem SawStop.left {later : List (Sigma ControlOp.Answer)} (h : SawStop events) : SawStop (events ++ later) :=
  List.mem_append_left later h

theorem SawStop.right {earlier : List (Sigma ControlOp.Answer)} (h : SawStop events) : SawStop (earlier ++ events) :=
  List.mem_append_right earlier h

/-- A valid request is latched or refused, whatever has become of the latch. -/
theorem receiveMessage_result (hschema : c.scope.schema = 2)
    (hready : (parseControlRequest bytes c.identity (some c.scope)).map Prod.fst = some .ready)
    (h : Yields (receiveMessage c bytes) events result) :
    result = .latched ∨ result = .alreadyClaimed ∨ SawStop events := by
  unfold receiveMessage at h
  rw [hready] at h
  obtain ⟨before, claimed, after, rfl, -, h⟩ := Yields.of_bind h
  cases claimed with
  | true => exact .inl (Yields.done_iff.mp h).2
  | false =>
      obtain ⟨(stop : Bool), later, rfl, hstop⟩ := Yields.of_query h
      cases stop with
      | true => exact .inr (.inr (SawStop.right (List.mem_cons_self ..)))
      | false =>
          rw [hschema] at hstop
          exact .inr (.inl (Yields.done_iff.mp hstop).2)

theorem workerNext_report (hschema : c.scope.schema = 2) (hresult : result = .latched ∨ result = .alreadyClaimed)
    (h : Yields (workerNext c result) events report) :
    report = .looping ∨ SawStop events ∨ ⟨.disconnectPipe, false⟩ ∈ events := by
  obtain ⟨(disconnected : Bool), later, rfl, hnext⟩ := Yields.of_query h
  cases disconnected with
  | false => exact .inr (.inr (List.mem_cons_self ..))
  | true =>
      have hagain : ¬(c.scope.schema ≠ 2 ∨ result ≠ .latched ∧ result ≠ .alreadyClaimed) := by
        rcases hresult with rfl | rfl
        · simp [hschema]
        · simp [hschema]
      change Yields (if c.scope.schema ≠ 2 ∨ result ≠ .latched ∧ result ≠ .alreadyClaimed then workerExit result
        else _) later report at hnext
      rw [if_neg hagain] at hnext
      obtain ⟨(stop : Bool), rest, rfl, hstop⟩ := Yields.of_query hnext
      cases stop with
      | true => exact .inr (.inl (List.mem_cons_of_mem _ (List.mem_cons_self ..)))
      | false => exact .inl (Yields.done_iff.mp hstop).2

/-- A turn with a valid request does not end the accept loop but for a stop or a pipe that fails. -/
theorem workerTurn_report (hschema : c.scope.schema = 2) (hreceived : Received c events)
    (h : Yields (workerTurn c) events report) :
    report = .looping ∨ SawStop events ∨ ⟨.disconnectPipe, false⟩ ∈ events := by
  obtain ⟨bytes, rest, rfl, hready⟩ := hreceived
  have hmessage : Yields ((receiveMessage c bytes).bind (workerNext c)) rest report := by
    change Yields (.ask ControlOp.resetEvent _) _ _ at h
    cases h with
    | ask _ h =>
        change Yields (.ask ControlOp.connectPipe _) _ _ at h
        cases h with
        | ask _ h =>
            change Yields (.ask ControlOp.resetEvent _) _ _ at h
            cases h with
            | ask _ h =>
                change Yields (.ask ControlOp.readPipe _) _ _ at h
                cases h with
                | ask _ h =>
                    change Yields (.ask ControlOp.readStop _) _ _ at h
                    cases h with
                    | ask _ h =>
                        change Yields (.ask ControlOp.authenticatePeer _) _ _ at h
                        cases h with
                        | ask _ h => exact h
  obtain ⟨before, result, after, rfl, hbefore, hafter⟩ := Yields.of_bind hmessage
  have hlater : ∀ {e : Sigma ControlOp.Answer}, e ∈ before ++ after → e ∈ ⟨.resetEvent, true⟩ :: ⟨.connectPipe, true⟩ ::
      ⟨.resetEvent, true⟩ :: ⟨.readPipe, PipeRead.message bytes⟩ :: ⟨.readStop, false⟩ ::
      (⟨.authenticatePeer, true⟩ : Sigma ControlOp.Answer) :: (before ++ after) := by
    intro e he
    exact List.mem_append_right [_, _, _, _, _, _] he
  have hgo : result = .latched ∨ result = .alreadyClaimed → report = .looping ∨ SawStop (before ++ after) ∨
      ⟨.disconnectPipe, false⟩ ∈ before ++ after := by
    intro hresult
    rcases workerNext_report hschema hresult hafter with hl | hs | hd
    · exact .inl hl
    · exact .inr (.inl hs.right)
    · exact .inr (.inr (List.mem_append_right before hd))
  have hall : report = .looping ∨ SawStop (before ++ after) ∨ ⟨.disconnectPipe, false⟩ ∈ before ++ after := by
    rcases receiveMessage_result hschema hready hbefore with hr | hr | hs
    · exact hgo (.inl hr)
    · exact hgo (.inr hr)
    · exact .inr (.inl hs.left)
  exact hall.imp_right (Or.imp hlater hlater)

end Turns

/-- The history of the latch is one of claims that are each served at most once
and given back by the owner, before another one. -/
theorem control_latch_protocol {x : Crew Party ControlOp ControlOp.Answer ControlWords Report}
    (h : Crew.Run responds (Starts c) outside ⟨.armed registration, resting⟩ x) :
    (∃ l, Latch.replay x.state.history = some l ∧ latchOrigin l = x.state.latched) ∧
      Latch.claims x.state.history = Latch.releases x.state.history + (if x.state.latched = .none then 0 else 1) ∧
      Latch.operations x.state.history ≤ Latch.claims x.state.history ∧
      (∀ o, x.program .owner = .done (.owner o) → o.operationSequence = Latch.operations x.state.history) ∧
      (∀ y, Crew.Step responds (Starts c) outside x y → x.state.latched ≠ .none → y.state.latched ≠ x.state.latched →
        y.state.latched = .none ∧ ∃ o, o.terminal = true ∧ o.operationSequence ≠ 0 ∧
          x.program .owner = releasing o x.state.latched ∧
          y.program .owner = .done (.owner { o with preflightRetryable := true })) ∧
      (c.scope.schema = 2 → ∀ events report, Yields (workerTurn c) events report → Received c events →
        report = .looping ∨ SawStop events ∨ ⟨.disconnectPipe, false⟩ ∈ events) := by
  obtain ⟨ls, hgoing⟩ := (going_resting registration).run (control_sound c) h
  have hreleasing : ∀ i, (x.program i).Every Releasing :=
    h.every (fun _ _ _ _ _ => starts_releasing) fun i => by cases i <;> exact trivial
  obtain ⟨l, hreplay, horigin, htaken, -⟩ := Agrees.latch hgoing.agrees
  obtain ⟨hclaims, hoperations⟩ := Latch.replay_counts hreplay
  have houtstanding : l.outstanding = if x.state.latched = .none then 0 else 1 := by
    rw [← horigin]
    cases l with
    | free => rfl
    | taken origin served => exact (if_neg (htaken origin served rfl)).symm
  have hserved : l.served.toNat ≤ l.outstanding := by
    cases l with
    | free => exact Nat.le_refl 0
    | taken origin served => exact Bool.toNat_le served
  refine ⟨⟨l, hreplay, horigin⟩, houtstanding ▸ hclaims, by omega, ?_, ?_,
    fun hschema events report hy hr => workerTurn_report hschema hr hy⟩
  · intro o ho
    have hrest := hgoing.abides .owner
    rw [ho] at hrest
    have hserves : Serves o (ls .owner) := hrest
    exact hserves.operations.trans (Agrees.operations hgoing.agrees).symm
  · intro y hs hheld hchanged
    cases hs with
    | @asks i q next answer t hp ha =>
        have habides := hgoing.abides i
        rw [hp] at habides
        cases q with
        | compareExchangeLatched value comparand =>
            obtain ⟨hanswer, rfl⟩ := ha
            unfold ControlWords.compareExchange at hchanged ⊢
            split
            · next hsame =>
                rcases habides.1 with ⟨-, rfl⟩ | ⟨-, -, rfl⟩ | ⟨rfl, rfl, hno, -⟩
                · exact absurd hsame hheld
                · exact absurd hsame hheld
                · subst hsame
                  have hpoint := hreleasing .owner
                  rw [hp] at hpoint
                  obtain ⟨o, hterminal, hsequence, hrelease⟩ := hpoint.1 rfl hno
                  refine ⟨rfl, o, hterminal, hsequence, hp.trans hrelease, ?_⟩
                  rw [hanswer]
                  exact (Function.update_self Party.owner _ x.program).trans (releasing_next hrelease)
            · next hother => exact absurd (by rw [if_neg hother]) hchanged
        | readStop | readStarted | readResult | readRegistration =>
            obtain ⟨-, rfl⟩ := ha
            exact absurd rfl hchanged
        | _ =>
            obtain rfl := ha
            exact absurd rfl hchanged
    | starts hp hst => cases hst <;> exact absurd rfl hchanged
    | outside ho =>
        obtain ⟨registration, rfl⟩ := ho
        exact absurd rfl hchanged

section Sample

def obliging (s : ControlWords) : (q : ControlOp) → q.Answer × ControlWords
  | .readStop => (s.stop, s)
  | .setStop => ((), { s with stop := true })
  | .readStarted => (s.started, s)
  | .readResult => (s.result, s)
  | .setResult result => ((), { s with result := result })
  | .readRegistration => (s.consoleRegistration, s)
  | .compareExchangeLatched value comparand => (s.latched, s.compareExchange value comparand)
  | .readPipe => (.failed, s)
  | .operation origin => ((), { s with history := .operation origin :: s.history })
  | .resetEvent | .connectPipe | .authenticatePeer | .disconnectPipe | .foreignFault | .pending | .usableCapture
  | .attempt | .recorded | .untouched => (true, s)

theorem obliging_responds (i : Party) (s : ControlWords) (q : ControlOp) :
    responds i q s (obliging s q).1 (obliging s q).2 := by
  cases q with
  | readStop | readStarted | readResult | readRegistration | compareExchangeLatched => exact ⟨rfl, rfl⟩
  | _ => rfl

def sampleControl : ControlState := ⟨true, true, ⟨2, kTrainingRoot⟩, ⟨7, Vector.replicate 16 1⟩⟩

theorem sampleControl_valid :
    (validIdentity sampleControl.identity && validScope sampleControl.scope) = true := by decide +kernel

def freeWords (history : List (LatchEvent RequestOrigin)) : ControlWords :=
  ⟨false, true, .ready, .available, .none, history⟩

def claimedWords (history : List (LatchEvent RequestOrigin)) : ControlWords :=
  ⟨false, true, .ready, .available, .serverAdminConsole, .claimed .serverAdminConsole :: history⟩

theorem sample_claims (history : List (LatchEvent RequestOrigin)) :
    (consoleTurn sampleControl).served obliging (freeWords history) = (.console true, claimedWords history) := by
  change (((pure (true && validIdentity sampleControl.identity && validScope sampleControl.scope) <&&>
    consoleAdmitted sampleControl : Thread Bool).bind _).bind _).served _ _ = _
  rw [Bool.true_and, sampleControl_valid]
  rfl

def servedHistory : List (LatchEvent RequestOrigin) :=
  [.released .serverAdminConsole, .operation .serverAdminConsole, .claimed .serverAdminConsole]

theorem sample_releases : (ownerVisit sampleControl ⟨false, false, false, 0⟩).served obliging (claimedWords []) =
    (.owner ⟨true, true, true, 1⟩, freeWords servedHistory) := by
  have hread : (readLatchedControl sampleControl).served obliging (claimedWords []) =
      (some .serverAdminConsole, claimedWords []) := by
    change ((pure (validIdentity sampleControl.identity && validScope sampleControl.scope) <&&>
      consoleAdmitted sampleControl : Thread Bool).bind _).served _ _ = _
    rw [sampleControl_valid]
    rfl
  change (((readLatchedControl sampleControl).bind _).bind _).served _ (claimedWords []) = _
  rw [Ask.served_bind, Ask.served_bind, hread]
  rfl

/-- A claim, its attempt, and another claim once it is given back. -/
theorem sample_run : ∃ program, Crew.Run responds (Starts sampleControl) outside ⟨.armed .available, resting⟩
    ⟨claimedWords servedHistory, program⟩ := by
  obtain ⟨_, hfirst⟩ := Goes.obliged (obliging_responds .console) (consoleTurn sampleControl) (freeWords [])
  obtain ⟨_, hvisit⟩ := Goes.obliged (obliging_responds .owner)
    (ownerVisit sampleControl ⟨false, false, false, 0⟩) (claimedWords [])
  obtain ⟨_, hsecond⟩ := Goes.obliged (obliging_responds .console) (consoleTurn sampleControl) (freeWords servedHistory)
  rw [sample_claims] at hfirst hsecond
  rw [sample_releases] at hvisit
  have hclaimed : Crew.Run responds (Starts sampleControl) outside ⟨.armed .available, resting⟩ _ :=
    Crew.Run.turn rfl (.console false _) hfirst
  have hserved := hclaimed.trans (Crew.Run.turn rfl (.visit _ _) hvisit)
  exact ⟨_, hserved.trans (Crew.Run.turn rfl (.console true _) hsecond)⟩

theorem control_latch_protocol_sample :
    ∃ x, Crew.Run responds (Starts sampleControl) outside ⟨.armed .available, resting⟩ x ∧
      Latch.claims x.state.history = 2 ∧ Latch.releases x.state.history = 1 ∧ Latch.operations x.state.history = 1 ∧
      Latch.claims x.state.history = Latch.releases x.state.history + (if x.state.latched = .none then 0 else 1) ∧
      ∃ l, Latch.replay x.state.history = some l ∧ latchOrigin l = x.state.latched := by
  obtain ⟨program, hrun⟩ := sample_run
  obtain ⟨hlatch, hclaims, -⟩ := control_latch_protocol hrun
  exact ⟨_, hrun, rfl, rfl, rfl, hclaims, hlatch⟩

end Sample

end RS2ServerFix.Control
