import RS2ServerFix.Control.Latch

namespace RS2ServerFix.Control

open Lib
open LeechRecovery (ControlResult RequestOrigin)

def latchOrigin : Latch RequestOrigin → RequestOrigin
  | .free => .none
  | .taken origin _ => origin

/-- What the owner knows: the claim it has seen, that the claim there may be is
not served, and how many it has served. -/
structure Known where
  held : RequestOrigin
  unserved : Bool
  operations : Nat

def may (i : Party) : ControlOp → Known → Prop
  | .compareExchangeLatched value comparand, l =>
      value = .none ∧ comparand = .none ∨ i ≠ .owner ∧ value ≠ .none ∧ comparand = .none ∨
        i = .owner ∧ value = .none ∧ comparand ≠ .none ∧ comparand = l.held
  | .operation origin, l => i = .owner ∧ origin ≠ .none ∧ origin = l.held ∧ l.unserved = true
  | _, _ => True

def Known.exchanged (l : Known) (value comparand answer : RequestOrigin) : Known :=
  if value ≠ .none then l
  else if comparand = .none then { l with held := answer }
  else { l with held := .none, unserved := true }

def answers : Responds ControlOp ControlOp.Answer Known
  | .compareExchangeLatched value comparand, l, answer, l' =>
      (value = .none → comparand ≠ .none → answer = comparand) ∧ l' = l.exchanged value comparand answer
  | .operation _, l, _, l' => l' = { l with unserved := false, operations := l.operations + 1 }
  | _, l, _, l' => l' = l

def view (i : Party) : View ControlOp ControlOp.Answer Known := ⟨may i, answers⟩

structure Agrees (k : Known) (s : ControlWords) : Prop where
  latch : ∃ l, Latch.replay s.history = some l ∧ latchOrigin l = s.latched ∧ (∀ origin b, l = .taken origin b → origin ≠ .none) ∧
    (k.unserved = true → l.served = false)
  held : k.held ≠ .none → s.latched = k.held
  operations : Latch.operations s.history = k.operations

section Agrees

variable {k : Known} {s t : ControlWords} {origin : RequestOrigin}

theorem Agrees.other (h : Agrees k s) (hlatched : t.latched = s.latched) (hhistory : t.history = s.history) :
    Agrees k t where
  latch := by
    rw [hhistory, hlatched]
    exact h.latch
  held := by
    rw [hlatched]
    exact h.held
  operations := by
    rw [hhistory]
    exact h.operations

theorem compareExchange_read (s : ControlWords) : s.compareExchange .none .none = s := by
  unfold ControlWords.compareExchange
  split
  · next hs =>
      cases s with
      | mk stop started result registration latched history =>
          obtain rfl : latched = .none := hs
          rfl
  · rfl

theorem Agrees.read (h : Agrees k s) : Agrees { k with held := s.latched } s := ⟨h.latch, fun _ => rfl, h.operations⟩

theorem Agrees.claim (h : Agrees k s) (ho : origin ≠ .none) : Agrees k (s.compareExchange origin .none) := by
  unfold ControlWords.compareExchange
  split
  · next hs =>
      obtain ⟨l, hreplay, hshown, htaken, -⟩ := h.latch
      rw [hs] at hshown
      have hfree : l = .free := by
        cases l with
        | free => rfl
        | taken k b => exact absurd hshown (htaken k b rfl)
      subst hfree
      have hhistory : ControlWords.exchanged origin .none ++ s.history = .claimed origin :: s.history := by
        rw [ControlWords.exchanged, if_neg ho, if_pos rfl]
        rfl
      rw [hhistory]
      refine ⟨⟨.taken origin false, Latch.replay_cons hreplay _, rfl, ?_, fun _ => rfl⟩, fun hheld => ?_, ?_⟩
      · rintro o b hl
        cases hl
        exact ho
      · exact absurd ((h.held hheld).symm.trans hs) hheld
      · exact (Latch.count_claimed origin s.history).2.1.trans h.operations
  · exact h

theorem Agrees.taken (h : Agrees k s) (hheld : k.held ≠ .none) :
    ∃ b, Latch.replay s.history = some (.taken k.held b) ∧ (k.unserved = true → b = false) := by
  obtain ⟨l, hreplay, hshown, -, hserved⟩ := h.latch
  rw [h.held hheld] at hshown
  cases l with
  | free => exact absurd hshown.symm hheld
  | taken origin b =>
      obtain rfl : origin = k.held := hshown
      exact ⟨b, hreplay, hserved⟩

theorem Agrees.release (h : Agrees k s) (hheld : k.held ≠ .none) :
    Agrees { k with held := .none, unserved := true } (s.compareExchange .none k.held) := by
  obtain ⟨b, hreplay, -⟩ := h.taken hheld
  have hhistory : ControlWords.exchanged .none k.held ++ s.history = .released k.held :: s.history := by
    rw [ControlWords.exchanged, if_neg hheld.symm, if_neg hheld]
    rfl
  rw [ControlWords.compareExchange, if_pos (h.held hheld), hhistory]
  refine ⟨⟨.free, (Latch.replay_cons hreplay _).trans (Latch.step_taken _ b), rfl, ?_, fun _ => rfl⟩, ?_, ?_⟩
  · intro o b hl
    cases hl
  · exact fun hn => absurd rfl hn
  · exact (Latch.count_released k.held s.history).2.1.trans h.operations

theorem Agrees.operation (h : Agrees k s) (hheld : k.held ≠ .none) (hunserved : k.unserved = true) :
    Agrees { k with unserved := false, operations := k.operations + 1 }
      { s with history := .operation k.held :: s.history } := by
  obtain ⟨b, hreplay, hb⟩ := h.taken hheld
  obtain rfl := hb hunserved
  refine ⟨⟨.taken k.held true, (Latch.replay_cons hreplay _).trans (Latch.step_operation _), ?_, ?_, ?_⟩, h.held, ?_⟩
  · exact (h.held hheld).symm
  · rintro o b hl
    cases hl
    exact hheld
  · intro hno
    cases hno
  · rw [(Latch.count_operation k.held s.history).2.1, h.operations]

end Agrees

variable {i : Party} {l : Known} {α β : Type}

def Calm (i : Party) (p : Thread α) : Prop := ∀ l, p.Abides (view i) (fun _ l' => l' = l) l

def Abiding (i : Party) (p : Thread α) : Prop := ∀ l, p.Abides (view i) (fun _ _ => True) l

theorem Calm.done (a : α) : Calm i (.done a) := fun _ => rfl

theorem Calm.query {op : ControlOp} (hmay : ∀ l, may i op l) (h : ∀ l a l', answers op l a l' → l' = l) :
    Calm i (Ask.query op) := fun l => ⟨hmay l, fun a l' hl => h l a l' hl⟩

theorem Calm.bindAbides {p : Thread α} {f : α → Thread β} {post : β → Known → Prop} (h : Calm i p)
    (hf : ∀ a, (f a).Abides (view i) post l) : (p >>= f).Abides (view i) post l := by
  apply Ask.Abides.bind
  refine Ask.Abides.mono (h l) ?_
  intro a l' hl
  subst hl
  exact hf a

theorem Calm.bind {p : Thread α} {f : α → Thread β} (h : Calm i p) (hf : ∀ a, Calm i (f a)) : Calm i (p >>= f) :=
  fun l => h.bindAbides fun a => hf a l

theorem Calm.both {p p' : Thread Bool} (h : Calm i p) (h' : Calm i p') : Calm i (p <&&> p') :=
  h.bind fun b => by
    cases b with
    | false => exact Calm.done false
    | true => exact h'

theorem Calm.ite {c : Prop} {_ : Decidable c} {p p' : Thread α} (h : Calm i p) (h' : Calm i p') :
    Calm i (if c then p else p') := by
  split
  · exact h
  · exact h'

theorem Calm.abiding {p : Thread α} (h : Calm i p) : Abiding i p := fun l => Ask.Abides.mono (h l) fun _ _ _ => trivial

theorem Abiding.bind {p : Thread α} {f : α → Thread β} (h : Abiding i p) (hf : ∀ a, Abiding i (f a)) :
    Abiding i (p >>= f) := fun l =>
  Ask.Abides.bind (Ask.Abides.mono (h l) fun a l' _ => hf a l')

theorem Abiding.ite {c : Prop} {_ : Decidable c} {p p' : Thread α} (h : Abiding i p) (h' : Abiding i p') :
    Abiding i (if c then p else p') := by
  split
  · exact h
  · exact h'

theorem readStop_calm : Calm i readStop := Calm.query (fun _ => trivial) fun _ _ _ hl => hl

theorem running_calm : Calm i running := readStop_calm.bind fun _ => Calm.done _

theorem readStarted_calm : Calm i readStarted := Calm.query (fun _ => trivial) fun _ _ _ hl => hl

theorem readResult_calm : Calm i readResult := Calm.query (fun _ => trivial) fun _ _ _ hl => hl

theorem resultReady_calm : Calm i resultReady := readResult_calm.bind fun _ => Calm.done _

theorem readConsoleRegistration_calm : Calm i readConsoleRegistration :=
  Calm.query (fun _ => trivial) fun _ _ _ hl => hl

theorem stoppedOr_calm (result : ControlResult) : Calm i (stoppedOr result) := readStop_calm.bind fun _ => Calm.done _

theorem serving_calm (b : Bool) : Calm i (pure b <&&> readStarted <&&> running <&&> resultReady : Thread Bool) :=
  Calm.both (Calm.done _) (Calm.both readStarted_calm (Calm.both running_calm resultReady_calm))

variable {c : ControlState}

theorem originAdmitted_calm (origin : RequestOrigin) : Calm i (originAdmitted c origin) := by
  cases origin with
  | none => exact Calm.done _
  | pipe => exact Calm.done _
  | serverAdminConsole => exact Calm.ite (readConsoleRegistration_calm.bind fun _ => Calm.done _) (Calm.done _)

theorem claimControl_abiding (hi : i ≠ .owner) {origin : RequestOrigin} (ho : origin ≠ .none) :
    Abiding i (claimControl c origin) := by
  apply (serving_calm _).abiding.bind
  intro serving
  apply (Calm.both (Calm.done _) (originAdmitted_calm origin)).abiding.bind
  intro admitted
  apply Abiding.ite
  · intro l
    exact Ask.Abides.queryBind (.inr (.inl ⟨hi, ho, rfl⟩)) fun _ _ _ => trivial
  · exact (Calm.done _).abiding

theorem readLatched_abiding : Abiding i readLatched := fun _ => ⟨.inl ⟨rfl, rfl⟩, fun _ _ _ => trivial⟩

theorem receiveMessage_abiding (hi : i ≠ .owner) (bytes : List UInt8) : Abiding i (receiveMessage c bytes) := by
  apply Abiding.ite
  · exact (Calm.done _).abiding
  apply (claimControl_abiding hi (by decide)).bind
  intro claimed
  apply Abiding.ite
  · exact (Calm.done _).abiding
  apply readStop_calm.abiding.bind
  intro stop
  apply Abiding.ite
  · exact (Calm.done _).abiding
  apply Abiding.ite
  · exact (Calm.done _).abiding
  · exact readLatched_abiding.bind fun _ => (Calm.done _).abiding

theorem Abiding.ask {op : ControlOp} {f : op.Answer → Thread α} (hmay : ∀ l, may i op l) (hf : ∀ a, Abiding i (f a)) :
    Abiding i (Ask.query op >>= f) := fun l =>
  Ask.Abides.queryBind (hmay l) fun a l' _ => hf a l'

theorem receiveRead_abiding (hi : i ≠ .owner) (read : PipeRead) : Abiding i (receiveRead c read) := by
  cases read with
  | failed => exact (stoppedOr_calm _).abiding
  | moreData => exact (stoppedOr_calm _).abiding
  | message bytes =>
      apply readStop_calm.abiding.bind
      intro stop
      apply Abiding.ite
      · exact (Calm.done _).abiding
      refine Abiding.ask (fun _ => trivial) fun (accepted : Bool) => ?_
      exact Abiding.ite (Calm.done _).abiding (receiveMessage_abiding hi bytes)

theorem receivePipe_abiding (hi : i ≠ .owner) : Abiding i (receivePipe c) := by
  refine Abiding.ask (fun _ => trivial) fun (reset : Bool) => ?_
  apply Abiding.ite
  · exact (Calm.done _).abiding
  refine Abiding.ask (fun _ => trivial) fun (connected : Bool) => ?_
  apply Abiding.ite
  · exact (stoppedOr_calm _).abiding
  refine Abiding.ask (fun _ => trivial) fun (again : Bool) => ?_
  apply Abiding.ite
  · exact (Calm.done _).abiding
  refine Abiding.ask (fun _ => trivial) fun (read : PipeRead) => ?_
  exact receiveRead_abiding hi read

theorem workerExit_abiding (result : ControlResult) : Abiding i (workerExit result) := by
  apply (stoppedOr_calm _).abiding.bind
  intro result
  exact Abiding.ask (fun _ => trivial) fun _ => (Calm.done _).abiding

theorem workerNext_abiding (result : ControlResult) : Abiding i (workerNext c result) := by
  refine Abiding.ask (fun _ => trivial) fun (disconnected : Bool) => ?_
  apply Abiding.ite (workerExit_abiding _)
  apply Abiding.ite (workerExit_abiding _)
  apply readStop_calm.abiding.bind
  intro stop
  exact Abiding.ite (workerExit_abiding _) (Calm.done _).abiding

theorem workerTurn_abiding (hi : i ≠ .owner) : Abiding i (workerTurn c) :=
  (receivePipe_abiding hi).bind workerNext_abiding

theorem consoleTurn_abiding (hi : i ≠ .owner) : Abiding i (consoleTurn c) :=
  (claimControl_abiding hi (by decide)).bind fun _ => (Calm.done _).abiding

/-- The owner's fields go with what it knows: a new request is taken up only
while no claim there may be is served. -/
structure Serves (o : OwnerState) (l : Known) : Prop where
  unserved : o.requested = false ∨ o.preflightRetryable = true → l.unserved = true
  terminal : o.preflightRetryable = true → o.terminal = true
  operations : o.operationSequence = l.operations

variable {o : OwnerState}

theorem Serves.hold (h : Serves o l) (origin : RequestOrigin) : Serves o { l with held := origin } :=
  ⟨h.unserved, h.terminal, h.operations⟩

theorem readLatched_abides {post : RequestOrigin → Known → Prop} (h : ∀ origin, post origin { l with held := origin }) :
    readLatched.Abides (view .owner) post l := by
  refine ⟨.inl ⟨rfl, rfl⟩, fun origin l' hl => ?_⟩
  obtain ⟨-, rfl⟩ := hl
  exact h origin

/-- What is found has been seen in the latch. -/
theorem readLatchedControl_abides {post : Option RequestOrigin → Known → Prop}
    (hnone : ∀ origin, post none { l with held := origin })
    (hsome : ∀ origin, origin ≠ .none → post (some origin) { l with held := origin }) :
    (readLatchedControl c).Abides (view .owner) post l := by
  apply Ask.Abides.bind
  apply readLatched_abides
  intro origin
  by_cases ho : origin = .none
  · subst ho
    cases hvalid : validIdentity c.identity && validScope c.scope with
    | false => exact hnone _
    | true => exact hnone _
  · apply (Calm.both (Calm.done _) (originAdmitted_calm origin)).bindAbides
    intro admitted
    cases admitted with
    | false => exact hnone origin
    | true => exact hsome origin ho

theorem releasePreflightClaim_abides {post : Bool → Known → Prop} (hno : ∀ origin, post false { l with held := origin })
    (hstill : post false l) (hyes : post true { l with held := .none, unserved := true }) :
    (releasePreflightClaim c).Abides (view .owner) post l := by
  apply (serving_calm _).bindAbides
  intro serving
  apply Ask.Abides.ite
  · exact fun _ => hstill
  intro _
  apply Ask.Abides.bind
  apply readLatched_abides
  intro origin
  apply Ask.Abides.ite
  · exact fun _ => hno origin
  intro ho
  refine Ask.Abides.queryBind (.inr (.inr ⟨rfl, rfl, ho, rfl⟩)) fun (previous : RequestOrigin) l' hl => ?_
  have hprevious : previous = origin := hl.1 rfl ho
  obtain rfl : l' = _ := hl.2
  subst hprevious
  have hexchanged : Known.exchanged { l with held := previous } .none previous previous =
      { l with held := .none, unserved := true } := by
    rw [Known.exchanged, if_neg (not_not.mpr rfl), if_neg ho]
  rw [hexchanged]
  change post (decide (previous = previous)) _
  rw [decide_eq_true rfl]
  exact hyes

theorem finishTerminal_abides (h : Serves o l) : (finishTerminal c o).Abides (view .owner) Serves l := by
  refine Ask.Abides.queryBind trivial fun (recorded : Bool) l' hl => ?_
  obtain rfl : l' = l := hl
  refine Ask.Abides.queryBind trivial fun (untouched : Bool) l'' hl => ?_
  obtain rfl : l'' = l' := hl
  apply Ask.Abides.bind
  cases hretryable : recorded && untouched && c.scope.schema == 2 && o.terminal && o.operationSequence != 0 &&
    o.operationSequence != uint64Max with
  | false => exact h
  | true =>
      have hterminal : o.terminal = true := by
        simp only [Bool.and_eq_true] at hretryable
        exact hretryable.1.1.2
      apply releasePreflightClaim_abides
      · exact fun origin => h.hold origin
      · exact h
      · exact ⟨fun _ => rfl, fun _ => hterminal, h.operations⟩

theorem serviceAttempt_abides (h : Serves o l) : (serviceAttempt c o).Abides (view .owner) Serves l := by
  refine Ask.Abides.queryBind trivial fun (terminal : Bool) l' hl => ?_
  obtain rfl : l' = l := hl
  have hnext : Serves { o with terminal := o.terminal || terminal } l' :=
    ⟨h.unserved, fun hr => Bool.or_eq_true_iff.mpr (.inl (h.terminal hr)), h.operations⟩
  exact Ask.Abides.ite (fun _ => finishTerminal_abides hnext) fun _ => hnext

theorem serviceRequest_abides (h : Serves o l) (hunserved : l.unserved = true) (hr : o.preflightRetryable = false) :
    (serviceRequest c o).Abides (view .owner) Serves l := by
  have hrequested : Serves { o with requested := true, terminal := true } l :=
    ⟨fun _ => hunserved, fun _ => rfl, h.operations⟩
  apply Ask.Abides.bind
  apply readLatchedControl_abides
  · exact fun origin => serviceAttempt_abides (hrequested.hold origin)
  intro origin ho
  apply Ask.Abides.ite
  · exact fun _ => finishTerminal_abides (hrequested.hold origin)
  intro _
  refine Ask.Abides.queryBind ⟨rfl, ho, rfl, hunserved⟩ fun _ l' hl => ?_
  obtain rfl : l' = _ := hl
  apply serviceAttempt_abides
  refine ⟨fun hopen => ?_, fun hno => ?_, congrArg Nat.succ h.operations⟩
  · rcases hopen with hopen | hopen
    · cases hopen
    · exact absurd (hr.symm.trans hopen) Bool.false_ne_true
  · exact absurd (hr.symm.trans hno) Bool.false_ne_true

theorem serviceOpen_abides (h : Serves o l) (hr : o.preflightRetryable = false) :
    (serviceOpen c o).Abides (view .owner) Serves l := by
  apply Ask.Abides.ite
  · exact fun _ => serviceAttempt_abides h
  · exact fun hn => serviceRequest_abides h (h.unserved (.inl (Bool.eq_false_iff.mpr hn))) hr

theorem serviceRetryable_abides (h : Serves o l) (hr : o.preflightRetryable = true) :
    (serviceRetryable c o).Abides (view .owner) Serves l := by
  have hunserved : l.unserved = true := h.unserved (.inr hr)
  refine Ask.Abides.queryBind trivial fun (foreign : Bool) l' hl => ?_
  obtain rfl : l' = l := hl
  apply Ask.Abides.ite
  · exact fun _ => finishTerminal_abides h
  intro _
  apply (Calm.both running_calm resultReady_calm).bindAbides
  intro serving
  apply Ask.Abides.ite
  · exact fun _ => finishTerminal_abides ⟨fun _ => hunserved, fun hno => absurd hno Bool.false_ne_true, h.operations⟩
  intro _
  apply Ask.Abides.bind
  apply readLatchedControl_abides
  · exact fun origin => h.hold origin
  · exact fun origin _ => serviceOpen_abides
      ⟨fun _ => hunserved, fun hno => absurd hno Bool.false_ne_true, h.operations⟩ rfl

theorem serviceLeechRecovery_abides (h : Serves o l) : (serviceLeechRecovery c o).Abides (view .owner) Serves l := by
  refine Ask.Abides.queryBind trivial fun (usable : Bool) l' hl => ?_
  obtain rfl : l' = l := hl
  apply Ask.Abides.ite
  · intro _
    refine Ask.Abides.queryBind trivial fun (terminal : Bool) l'' hl => ?_
    obtain rfl : l'' = _ := hl
    exact ⟨h.unserved, fun hr => Bool.or_eq_true_iff.mpr (.inl (h.terminal hr)), h.operations⟩
  intro _
  apply Ask.Abides.ite
  · exact fun hr => serviceRetryable_abides h hr.2
  · exact fun hn => serviceOpen_abides h (Bool.eq_false_iff.mpr fun hr => hn ⟨h.terminal hr, hr⟩)

theorem recoveryServiceDue_abides (h : Serves o l) :
    (recoveryServiceDue o).Abides (view .owner) (fun _ l' => Serves o l') l := by
  have hforeign : Calm .owner (pure o.preflightRetryable <&&> Ask.query ControlOp.foreignFault : Thread Bool) :=
    Calm.both (Calm.done _) (Calm.query (fun _ => trivial) fun _ _ _ hl => hl)
  apply hforeign.bindAbides
  intro foreign
  apply Ask.Abides.ite
  · exact fun _ => h
  intro _
  apply Ask.Abides.ite
  · intro _
    refine Ask.Abides.queryBind trivial fun (pending : Bool) l' hl => ?_
    obtain rfl : l' = _ := hl
    exact h
  intro _
  apply readResult_calm.bindAbides
  intro result
  apply Ask.Abides.bind
  apply readLatched_abides
  exact fun origin => h.hold origin

def rest : Party → Report → Known → Prop
  | .owner, .owner o, l => Serves o l
  | _, _, _ => True

theorem ownerVisit_abides (h : Serves o l) : (ownerVisit c o).Abides (view .owner) (rest .owner) l := by
  apply Ask.Abides.bind
  refine Ask.Abides.mono (recoveryServiceDue_abides h) fun due l' hdue => ?_
  apply Ask.Abides.ite
  · intro _
    apply Ask.Abides.bind
    exact Ask.Abides.mono (serviceLeechRecovery_abides hdue) fun _ _ hnext => hnext
  · exact fun _ => hdue

theorem stopControl_abides (h : Serves o l) : (stopControl o).Abides (view .owner) (rest .owner) l := by
  refine Ask.Abides.queryBind trivial fun _ l' hl => ?_
  obtain rfl : l' = l := hl
  exact h

end RS2ServerFix.Control
