import RS2ServerFix.Task.Binding

namespace RS2ServerFix.Task

open Reporting Lib

structure Exchange where
  address : Nat
  expected : Nat
  desired : Nat
  answer : ExchangeAnswer
  deriving DecidableEq, Repr

abbrev TaskEvents := List (Sigma TaskAnswer)

def exchangeOf : Sigma TaskAnswer → Option Exchange
  | ⟨.exchange address expected desired, answer⟩ => some ⟨address, expected, desired, answer⟩
  | _ => none

def exchanges (events : TaskEvents) : List Exchange := events.filterMap exchangeOf

@[simp] theorem exchanges_nil : exchanges [] = [] := rfl

@[simp] theorem exchanges_append (a b : TaskEvents) : exchanges (a ++ b) = exchanges a ++ exchanges b :=
  List.filterMap_append

theorem calm_append {a b : TaskEvents} (ha : exchanges a = []) (hb : exchanges b = []) : exchanges (a ++ b) = [] := by
  rw [exchanges_append, ha, hb, List.append_nil]

def cell (access : TaskAccess) (layout : TaskLayout) (slot : Nat) : Nat :=
  access.hostBase + (layout.poolRva + slot * kStride) % 2 ^ 32 + kBuilderOffset

variable {access : TaskAccess} {layout : TaskLayout} {s s' : TaskBinding} {events : TaskEvents} {r : TaskReturn}
  {α : Type}

theorem Quiet.exchanges {p : TaskAsk α} {a : α} (h : Quiet p) (hy : Yields p events a) : exchanges events = [] := by
  refine List.filterMap_eq_nil_iff.mpr fun e he => ?_
  have hq := h.events hy e he
  obtain ⟨q, answer⟩ := e
  cases q with
  | exchange => exact hq.elim
  | query | read | admission | safeOwner | ownerThread => rfl

theorem slotAddress_cell {slot a : Nat} (h : slotAddress access layout slot = some a) :
    a + kBuilderOffset = cell access layout slot := by
  rw [slotAddress] at h
  split at h
  · rw [address] at h
    split at h
    · cases h
    · obtain rfl := Option.some.inj h
      rfl
  · cases h

theorem exchange_yields {address expected desired : Nat} {answer : ExchangeAnswer}
    (h : Yields (exchange address expected desired) events answer) :
    exchanges events = [⟨address, expected, desired, answer⟩] := by
  cases h with
  | ask a h =>
      obtain ⟨rfl, rfl⟩ := Yields.done_iff.mp h
      rfl

theorem refused_yields {reason : Reason} (h : Yields (refused reason s) events r) :
    events = [] ∧ r = ⟨reason, none, s⟩ := Yields.done_iff.mp h

/-- The binding after a fault of `s`: inert, with the cell of the recorded
identity put back at most once. -/
structure Faulted (access : TaskAccess) (layout : TaskLayout) (s : TaskBinding) (events : TaskEvents)
    (s' : TaskBinding) : Prop where
  state : ∃ reason attempted stranded,
    s' = { s with phase := .inert, fault := reason, inverseAttempted := attempted, stranded := stranded }
  back : exchanges events = [] ∨ s.haveIdentity = true ∧
    ∃ answer, exchanges events = [⟨cell access layout s.identity.slot, s.wrapper, s.original, answer⟩]

theorem inverseExchange_yields {slot : Nat} (h : Yields (inverseExchange access slot s) events s') :
    (∃ stranded, s' = { s with inverseAttempted := true, stranded := stranded }) ∧
      ∃ answer, exchanges events = [⟨slot + kBuilderOffset, s.wrapper, s.original, answer⟩] := by
  obtain ⟨e1, answer, e2, rfl, h1, h2⟩ := h.of_bind
  obtain ⟨e3, current, e4, rfl, h3, h4⟩ := h2.of_bind
  have hread := Quiet.exchanges (dataRead_quiet _ _ _) h3
  cases current with
  | none =>
      obtain ⟨rfl, rfl⟩ := Yields.done_iff.mp h4
      exact ⟨⟨s.stranded, rfl⟩, answer, by simp [exchange_yields h1, hread]⟩
  | some current =>
      obtain ⟨rfl, rfl⟩ := Yields.done_iff.mp h4
      exact ⟨⟨_, rfl⟩, answer, by simp [exchange_yields h1, hread]⟩

structure Undone (access : TaskAccess) (layout : TaskLayout) (s : TaskBinding) (events : TaskEvents)
    (s' : TaskBinding) : Prop where
  state : ∃ attempted stranded, s' = { s with inverseAttempted := attempted, stranded := stranded }
  back : exchanges events = [] ∨ s.haveIdentity = true ∧
    ∃ answer, exchanges events = [⟨cell access layout s.identity.slot, s.wrapper, s.original, answer⟩]

theorem inverse_yields (h : Yields (inverse s access layout) events s') : Undone access layout s events s' := by
  have hkeep {e : TaskEvents} (he : exchanges e = []) :
      Undone access layout s e { s with inverseAttempted := false, stranded := s.haveIdentity } :=
    ⟨⟨_, _, rfl⟩, .inl he⟩
  rw [inverse] at h
  dsimp only at h
  split at h
  · obtain ⟨rfl, rfl⟩ := Yields.done_iff.mp h
    exact hkeep rfl
  · rename_i hhave
    obtain ⟨e1, own, e2, rfl, h1, h2⟩ := h.of_bind
    have hown := Quiet.exchanges owner_quiet h1
    split at h2
    · split at h2
      · rename_i slot _ hslot
        obtain ⟨e3, current, e4, rfl, h3, h4⟩ := h2.of_bind
        have hread := Quiet.exchanges (dataRead_quiet _ _ _) h3
        cases current with
        | none =>
            obtain ⟨rfl, rfl⟩ := Yields.done_iff.mp h4
            exact hkeep (by simp [hown, hread])
        | some current =>
            dsimp only at h4
            split at h4
            · obtain ⟨rfl, rfl⟩ := Yields.done_iff.mp h4
              exact ⟨⟨_, _, rfl⟩, .inl (by simp [hown, hread])⟩
            · obtain ⟨e5, writable, e6, rfl, h5, h6⟩ := h4.of_bind
              have hrange := Quiet.exchanges (dataRange_quiet _ _ _ _) h5
              split at h6
              · obtain ⟨e7, safe, e8, rfl, h7, h8⟩ := h6.of_bind
                have hsafe := Quiet.exchanges owner_quiet h7
                split at h8
                · obtain ⟨⟨stranded, rfl⟩, answer, hex⟩ := inverseExchange_yields h8
                  refine ⟨⟨_, _, rfl⟩, .inr ⟨by simpa using hhave, answer, ?_⟩⟩
                  rw [← slotAddress_cell hslot]
                  simp [hown, hread, hrange, hsafe, hex]
                · obtain ⟨rfl, rfl⟩ := Yields.done_iff.mp h8
                  exact hkeep (by simp [hown, hread, hrange, hsafe])
              · obtain ⟨rfl, rfl⟩ := Yields.done_iff.mp h6
                exact hkeep (by simp [hown, hread, hrange])
      · obtain ⟨rfl, rfl⟩ := Yields.done_iff.mp h2
        exact hkeep (by simp [hown])
    · obtain ⟨rfl, rfl⟩ := Yields.done_iff.mp h2
      exact hkeep (by simp [hown])

theorem fault_yields {reason : Reason} {undo : Bool} (h : Yields (fault s access layout reason undo) events r) :
    Faulted access layout s events r.state ∧ r.output = none ∧ (undo = false → exchanges events = []) := by
  rw [fault] at h
  dsimp only at h
  split at h
  · rename_i hundo
    obtain ⟨e1, s1, e2, rfl, h1, h2⟩ := h.of_bind
    obtain ⟨rfl, rfl⟩ := Yields.done_iff.mp h2
    obtain ⟨⟨attempted, stranded, rfl⟩, hback⟩ := inverse_yields h1
    rw [List.append_nil]
    refine ⟨⟨⟨_, _, _, rfl⟩, hback⟩, rfl, fun hf => ?_⟩
    rw [hf] at hundo
    cases hundo
  · obtain ⟨rfl, rfl⟩ := Yields.done_iff.mp h
    exact ⟨⟨⟨_, _, _, rfl⟩, .inl rfl⟩, rfl, fun _ => rfl⟩

/-- The task was read as selected, before any exchange of the call. -/
def JustRead (access : TaskAccess) (layout : TaskLayout) (events : TaskEvents) (t : TaskSnapshot) : Prop :=
  ∃ before read after, events = before ++ read ++ after ∧ exchanges before = [] ∧ exchanges read = [] ∧
    Yields (readSelectedTask access layout).run read (.ok t)

def Counted (s s' : TaskBinding) : Prop :=
  s' = s ∨ ∃ n, (s.haveCounter = true → s.lastNativeCounter ≤ n) ∧
    s' = { s with haveCounter := true, lastNativeCounter := n }

def preparing (s : TaskBinding) (t : TaskSnapshot) (epoch : TaskEpoch) : TaskBinding :=
  { s with
    haveCounter := true, lastNativeCounter := t.nativeCounter, identity := t.identity, epoch := epoch
    haveIdentity := true, inverseAttempted := false, stranded := false, phase := .preparing }

structure Accepted (access : TaskAccess) (layout : TaskLayout) (s : TaskBinding) (events : TaskEvents)
    (t : TaskSnapshot) : Prop where
  read : JustRead access layout events t
  queued : queued t.state = true
  phase : s.phase = .empty ∨ s.phase = .retired
  counter : s.haveCounter = true → s.lastNativeCounter ≤ t.nativeCounter
  fresh : s.haveHistory = true → s.lastBoundId < t.identity.id ∨
    s.continuingTask = true ∧ t.identity = s.lastIdentity

/-- A binding about to fault without the exchange of an installation: the
counters moved on, or the cell of a task just read is recorded. -/
inductive Doomed (access : TaskAccess) (layout : TaskLayout) (s : TaskBinding) (events : TaskEvents) :
    TaskBinding → Prop
  | counted {s' : TaskBinding} (h : Counted s s') : Doomed access layout s events s'
  | found (t : TaskSnapshot) (h : JustRead access layout events t) (hqueued : queued t.state = true) :
      Doomed access layout s events { s with identity := t.identity, haveIdentity := true }
  | prepared (t : TaskSnapshot) (epoch : TaskEpoch) (h : Accepted access layout s events t) :
      Doomed access layout s events (preparing s t epoch)

/-- Everything a call can do to the binding, with its exchanges. -/
inductive TaskEffect (access : TaskAccess) (layout : TaskLayout) (s : TaskBinding) (events : TaskEvents) :
    TaskBinding → Prop
  | quiet {s' : TaskBinding} (h : Counted s s') (live : s.phase = .inert → s' = s) (calm : exchanges events = []) :
      TaskEffect access layout s events s'
  | faulted {s0 s' : TaskBinding} (live : s.phase ≠ .inert) (doomed : Doomed access layout s events s0)
      (h : Faulted access layout s0 events s') : TaskEffect access layout s events s'
  | installFailed {s' : TaskBinding} (t : TaskSnapshot) (epoch : TaskEpoch) (h : Accepted access layout s events t)
      (before after : TaskEvents) (split : events = before ++ after) (answer : ExchangeAnswer)
      (first : exchanges before = [⟨cell access layout t.identity.slot, s.original, s.wrapper, answer⟩])
      (fault : Faulted access layout (preparing s t epoch) after s') : TaskEffect access layout s events s'
  | installed (t : TaskSnapshot) (epoch : TaskEpoch) (h : Accepted access layout s events t)
      (answer : ExchangeAnswer)
      (exchanged : exchanges events = [⟨cell access layout t.identity.slot, s.original, s.wrapper, answer⟩]) :
      TaskEffect access layout s events
        { preparing s t epoch with
          phase := .armed, lastIdentity := t.identity, lastBoundId := t.identity.id
          haveHistory := true, continuingTask := false }
  | retired (continues : Bool) (live : s.phase ≠ .inert) (h : continues = true → s.continuingTask = true)
      (calm : exchanges events = []) : TaskEffect access layout s events
        { s with phase := .retired, haveIdentity := false, continuingTask := continues }
  | restored (live : s.phase ≠ .inert) (bound : s.haveIdentity = true) (attempted stranded : Bool)
      (exchanged : exchanges events =
        [⟨cell access layout s.identity.slot, s.wrapper, s.original, ⟨true, s.wrapper⟩⟩]) :
      TaskEffect access layout s events
        { s with
          phase := .retired, inverseAttempted := attempted, stranded := stranded
          haveIdentity := false, continuingTask := true }
  | restoreFailed {s' : TaskBinding} (live : s.phase ≠ .inert) (bound : s.haveIdentity = true) (reason : Reason)
      (attempted stranded : Bool)
      (state : s' = { s with phase := .inert, fault := reason, inverseAttempted := attempted, stranded := stranded })
      (exchanged : exchanges events = [] ∨
        ∃ answer, exchanges events = [⟨cell access layout s.identity.slot, s.wrapper, s.original, answer⟩]) :
      TaskEffect access layout s events s'

theorem Faulted.after {before : TaskEvents} (hb : exchanges before = []) (h : Faulted access layout s events s') :
    Faulted access layout s (before ++ events) s' :=
  ⟨h.state, by simpa only [exchanges_append, hb, List.nil_append] using h.back⟩

theorem counter_counted (t : TaskSnapshot) : Counted s (counter s t).2 := by
  rw [counter]
  split
  · exact .inl rfl
  · rename_i h
    exact .inr ⟨t.nativeCounter, fun hc => Nat.le_of_not_lt fun hlt => h (.inr (.inr ⟨hc, hlt⟩)), rfl⟩

theorem history_counted (t : TaskSnapshot) : Counted s (history s t).2 := by
  have h := counter_counted (s := s) t
  rw [history]
  split
  · rename_i heq
    rwa [heq] at h
  · rename_i heq
    rw [heq] at h
    split
    · exact h
    · split
      · exact h
      · exact h

/-- What a call did so far asked for no exchange. -/
theorem refused_effect {before : TaskEvents} {reason : Reason} (hb : exchanges before = []) (h : Counted s s')
    (live : s.phase = .inert → s' = s) (hy : Yields (refused reason s') events r) :
    TaskEffect access layout s (before ++ events) r.state := by
  obtain ⟨rfl, rfl⟩ := refused_yields hy
  exact .quiet h live (by simpa using hb)

theorem fault_effect {s0 : TaskBinding} {before : TaskEvents} {reason : Reason} {undo : Bool}
    (hb : exchanges before = []) (live : s.phase ≠ .inert) (doomed : Doomed access layout s (before ++ events) s0)
    (hy : Yields (fault s0 access layout reason undo) events r) :
    TaskEffect access layout s (before ++ events) r.state :=
  .faulted live doomed ((fault_yields hy).1.after hb)

/-- A call that reads only: it faults with its counters, or it asks for no
exchange at all. -/
def ReadEffect (access : TaskAccess) (layout : TaskLayout) (s : TaskBinding) (events : TaskEvents)
    (r : TaskReturn) : Prop :=
  (s.phase ≠ .inert ∧ r.output = none ∧ ∃ s0, Counted s s0 ∧ Faulted access layout s0 events r.state) ∨
    exchanges events = [] ∧ Counted s r.state ∧ (s.phase = .inert → r.state = s)

theorem ReadEffect.effect (h : ReadEffect access layout s events r) : TaskEffect access layout s events r.state := by
  rcases h with ⟨hlive, _, s0, hs, hf⟩ | ⟨hcalm, hs, hlive⟩
  · exact .faulted hlive (.counted hs) hf
  · exact .quiet hs hlive hcalm

theorem refused_read {before : TaskEvents} {reason : Reason} (hb : exchanges before = [])
    (hy : Yields (refused reason s) events r) : ReadEffect access layout s (before ++ events) r := by
  obtain ⟨rfl, rfl⟩ := refused_yields hy
  exact .inr ⟨by simpa using hb, .inl rfl, fun _ => rfl⟩

theorem fault_read {s0 : TaskBinding} {before : TaskEvents} {reason : Reason} (hb : exchanges before = [])
    (hlive : s.phase ≠ .inert) (hs : Counted s s0) (hy : Yields (fault s0 access layout reason true) events r) :
    ReadEffect access layout s (before ++ events) r :=
  .inl ⟨hlive, (fault_yields hy).2.1, s0, hs, (fault_yields hy).1.after hb⟩

theorem readBoundTask_effect (h : Yields (readBoundTask s access layout) events r) :
    ReadEffect access layout s events r := by
  obtain ⟨e1, entry, e2, rfl, h1, h2⟩ := h.of_bind
  have hentry := Quiet.exchanges entryReason_quiet h1
  split at h2
  · exact refused_read hentry h2
  · split at h2
    · exact refused_read hentry h2
    · rename_i hlive
      split at h2
      · exact refused_read hentry h2
      · split at h2
        · exact refused_read hentry h2
        · split at h2
          · exact refused_read hentry h2
          · obtain ⟨e3, read, e4, rfl, h3, h4⟩ := h2.of_bind
            have hread := Quiet.exchanges (readTask_quiet _ _) h3
            have hcalm := calm_append hentry hread
            rw [← List.append_assoc]
            cases read with
            | error reason =>
                dsimp only at h4
                split at h4
                · exact fault_read hcalm hlive (.inl rfl) h4
                · exact refused_read hcalm h4
            | ok current =>
                have hcount := counter_counted (s := s) current
                dsimp only at h4
                split at h4
                · exact refused_read hcalm h4
                · split at h4
                  · rename_i heq
                    rw [heq] at hcount
                    exact fault_read hcalm hlive hcount h4
                  · rename_i heq
                    rw [heq] at hcount
                    obtain ⟨rfl, rfl⟩ := Yields.done_iff.mp h4
                    exact .inr ⟨by simpa using hcalm, hcount, fun hi => absurd hi hlive⟩

theorem classifyMismatch_effect {s0 : TaskBinding} {before : TaskEvents} (hb : exchanges before = [])
    (hlive : s.phase ≠ .inert) (hs : Counted s s0) (h : Yields (classifyMismatch s0 access layout) events r) :
    ReadEffect access layout s (before ++ events) r := by
  obtain ⟨e1, read, e2, rfl, h1, h2⟩ := h.of_bind
  have hread := Quiet.exchanges (readTask_quiet _ _) h1
  have hcalm := calm_append hb hread
  have hrefused {reason : Reason} (hy : Yields (refused reason s0) e2 r) :
      ReadEffect access layout s (before ++ e1 ++ e2) r := by
    obtain ⟨rfl, rfl⟩ := refused_yields hy
    exact .inr ⟨by simpa using hcalm, hs, fun hi => absurd hi hlive⟩
  rw [← List.append_assoc]
  cases read with
  | error reason =>
      dsimp only at h2
      split at h2
      · exact fault_read hcalm hlive hs h2
      · exact hrefused h2
  | ok changed =>
      dsimp only at h2
      split at h2
      · exact fault_read hcalm hlive hs h2
      · exact hrefused h2

theorem validateRead_effect {before : TaskEvents} {read : TaskReturn} {e : TaskEvents} (hb : exchanges before = [])
    (hlive : s.phase ≠ .inert) (hread : ReadEffect access layout s events read)
    (h : Yields (validateRead read access layout) e r) : ReadEffect access layout s (before ++ (events ++ e)) r := by
  rcases hread with ⟨_, hout, s0, hs, hf⟩ | ⟨hcalm, hs, _⟩
  · obtain ⟨_, _, _, hstate⟩ := hf.state
    have hphase : read.state.phase ≠ .armed := by
      rw [hstate]
      exact TaskPhase.noConfusion
    rw [validateRead, hout] at h
    dsimp only at h
    rw [if_neg fun hc => hphase hc.2] at h
    obtain ⟨rfl, rfl⟩ := refused_yields h
    rw [List.append_nil]
    exact .inl ⟨hlive, rfl, s0, hs, hf.after hb⟩
  · have hcalm' := calm_append hb hcalm
    have hquiet {a : TaskReturn} (hy : Yields (.done a : TaskAsk TaskReturn) e r) (ha : a.state = read.state) :
        ReadEffect access layout s (before ++ events ++ e) r := by
      obtain ⟨rfl, rfl⟩ := Yields.done_iff.mp hy
      exact .inr ⟨by simpa using hcalm', ha ▸ hs, fun hi => absurd hi hlive⟩
    rw [← List.append_assoc]
    rw [validateRead] at h
    split at h
    · split at h
      · exact classifyMismatch_effect hcalm' hlive hs h
      · exact hquiet h rfl
    · split at h
      · exact fault_read hcalm' hlive hs h
      · split at h
        · exact hquiet h rfl
        · split at h
          · exact fault_read hcalm' hlive hs h
          · exact hquiet h rfl

theorem validateBuilderTask_effect {epoch : TaskEpoch} {borrowedHolder : Nat}
    (h : Yields (validateBuilderTask s access layout epoch borrowedHolder) events r) :
    ReadEffect access layout s events r := by
  obtain ⟨e1, entry, e2, rfl, h1, h2⟩ := h.of_bind
  have hentry := Quiet.exchanges entryReason_quiet h1
  split at h2
  · exact refused_read hentry h2
  · split at h2
    · exact refused_read hentry h2
    · rename_i hlive
      split at h2
      · exact refused_read hentry h2
      · split at h2
        · exact refused_read hentry h2
        · split at h2
          · exact refused_read hentry h2
          · obtain ⟨e3, admission, e4, rfl, h3, h4⟩ := h2.of_bind
            have hopen := Quiet.exchanges admitted_quiet h3
            have hcalm := calm_append hentry hopen
            rw [← List.append_assoc]
            split at h4
            · obtain ⟨e5, holder, e6, rfl, h5, h6⟩ := h4.of_bind
              have hholder := Quiet.exchanges (dataRead_quiet _ _ _) h5
              have hcalm' := calm_append hcalm hholder
              rw [← List.append_assoc]
              cases holder with
              | none => exact refused_read hcalm' h6
              | some holder =>
                  dsimp only at h6
                  split at h6
                  · exact refused_read hcalm' h6
                  · obtain ⟨e7, read, e8, rfl, h7, h8⟩ := h6.of_bind
                    exact validateRead_effect hcalm' hlive (readBoundTask_effect h7) h8
            · exact refused_read hcalm h4

theorem history_true {t : TaskSnapshot} {s1 : TaskBinding} (h : history s t = (true, s1)) :
    s1 = { s with haveCounter := true, lastNativeCounter := t.nativeCounter } ∧
      (s.haveCounter = true → s.lastNativeCounter ≤ t.nativeCounter) ∧
      (s.haveHistory = true → s.lastBoundId < t.identity.id ∨
        s.continuingTask = true ∧ t.identity = s.lastIdentity) := by
  rw [history, counter] at h
  split at h
  · rename_i heq
    split at heq
    · cases h
    · cases heq
  · rename_i heq
    split at heq
    · cases heq
    · rename_i hcount
      cases heq
      have hle (hc : s.haveCounter = true) : s.lastNativeCounter ≤ t.nativeCounter :=
        Nat.le_of_not_lt fun hlt => hcount (.inr (.inr ⟨hc, hlt⟩))
      split at h
      · rename_i hhist
        cases h
        exact ⟨rfl, hle, fun hh => by simp [hh] at hhist⟩
      · split at h
        · obtain ⟨hb, rfl⟩ := Prod.mk.inj h
          rw [Bool.and_eq_true, decide_eq_true_eq] at hb
          exact ⟨rfl, hle, fun _ => .inr hb⟩
        · obtain ⟨hb, rfl⟩ := Prod.mk.inj h
          rw [Bool.and_eq_true, decide_eq_true_eq] at hb
          exact ⟨rfl, hle, fun _ => .inl hb.1⟩

theorem taskOwned_calm {answer : Option Unit} (h : Yields (taskOwned access).run events answer) :
    exchanges events = [] := Quiet.exchanges taskOwned_quiet h

/-- The exchange of an installation is out: it is kept or it faults. -/
theorem installCheck_effect {t : TaskSnapshot} {epoch : TaskEpoch} {before : TaskEvents} {answer : ExchangeAnswer}
    (haccept : ∀ more, Accepted access layout s (before ++ more) t)
    (hfirst : exchanges before = [⟨cell access layout t.identity.slot, s.original, s.wrapper, answer⟩])
    (h : Yields (installCheck (preparing s t epoch) access layout t) events r) :
    TaskEffect access layout s (before ++ events) r.state := by
  obtain ⟨e1, read, e2, rfl, h1, h2⟩ := h.of_bind
  have hread := Quiet.exchanges (readTask_quiet _ _) h1
  have hfault {e e' : TaskEvents} {reason : Reason} (he : exchanges e = [])
      (hy : Yields (fault (preparing s t epoch) access layout reason true) e' r) :
      TaskEffect access layout s (before ++ (e ++ e')) r.state :=
    .installFailed t epoch (haccept _) _ _ rfl answer hfirst ((fault_yields hy).1.after he)
  cases read with
  | error reason => exact hfault hread h2
  | ok after =>
      dsimp only at h2
      split at h2
      · exact hfault hread h2
      · rename_i hsame
        obtain ⟨e3, owned, e4, rfl, h3, h4⟩ := h2.of_bind
        have howned := taskOwned_calm h3
        cases owned with
        | none =>
            rw [← List.append_assoc e1]
            exact hfault (calm_append hread howned) h4
        | some _ =>
            obtain ⟨rfl, rfl⟩ := Yields.done_iff.mp h4
            have hid : after.identity = t.identity := by
              rw [sameSnapshot] at hsame
              simp only [Bool.not_eq_true', not_or, Bool.not_eq_false, Bool.and_eq_true, decide_eq_true_eq] at hsame
              exact hsame.1.1.1.1.symm
            have he : exchanges (before ++ (e1 ++ (e3 ++ []))) =
                [⟨cell access layout t.identity.slot, s.original, s.wrapper, answer⟩] := by
              simp only [exchanges_append, hread, howned, List.append_nil, hfirst]
            simp only [hid]
            exact .installed t epoch (haccept _) answer he

theorem installExchange_effect {t : TaskSnapshot} {epoch : TaskEpoch} {before : TaskEvents} {slot : Nat}
    (hb : exchanges before = []) (haccept : ∀ more, Accepted access layout s (before ++ more) t)
    (hslot : slotAddress access layout t.identity.slot = some slot)
    (h : Yields (installExchange (preparing s t epoch) access layout t slot) events r) :
    TaskEffect access layout s (before ++ events) r.state := by
  obtain ⟨e1, owned, e2, rfl, h1, h2⟩ := h.of_bind
  have hcalm := calm_append hb (taskOwned_calm h1)
  have hlive : s.phase ≠ .inert := by
    rcases (haccept []).phase with hp | hp
    · rw [hp]
      exact TaskPhase.noConfusion
    · rw [hp]
      exact TaskPhase.noConfusion
  cases owned with
  | none =>
      rw [← List.append_assoc]
      refine fault_effect hcalm hlive (.prepared t epoch ?_) h2
      rw [List.append_assoc]
      exact haccept _
  | some _ =>
      obtain ⟨e3, answer, e4, rfl, h3, h4⟩ := h2.of_bind
      have hfirst : exchanges (before ++ e1 ++ e3) =
          [⟨cell access layout t.identity.slot, s.original, s.wrapper, answer⟩] := by
        rw [exchanges_append, hcalm, exchange_yields h3, slotAddress_cell hslot]
        rfl
      rw [← List.append_assoc, ← List.append_assoc]
      split at h4
      · refine .installFailed t epoch ?_ _ _ rfl answer hfirst (fault_yields h4).1
        simpa only [List.append_assoc] using haccept (e1 ++ e3 ++ e4)
      · refine installCheck_effect (fun more => ?_) hfirst h4
        simpa only [List.append_assoc] using haccept (e1 ++ e3 ++ more)

theorem installAdmitted_effect {t : TaskSnapshot} {epoch : TaskEpoch} {before : TaskEvents}
    (hb : exchanges before = []) (haccept : ∀ more, Accepted access layout s (before ++ more) t)
    (h : Yields (installAdmitted { s with haveCounter := true, lastNativeCounter := t.nativeCounter } access layout
      epoch t) events r) : TaskEffect access layout s (before ++ events) r.state := by
  have hcounted : Counted s { s with haveCounter := true, lastNativeCounter := t.nativeCounter } :=
    .inr ⟨_, (haccept []).counter, rfl⟩
  have hlive : s.phase = .inert →
      ({ s with haveCounter := true, lastNativeCounter := t.nativeCounter } : TaskBinding) = s := by
    intro hi
    rcases (haccept []).phase with hp | hp
    · rw [hi] at hp
      cases hp
    · rw [hi] at hp
      cases hp
  rw [installAdmitted] at h
  split at h
  · exact refused_effect hb hcounted hlive h
  · rename_i slot hslot
    obtain ⟨e1, writable, e2, rfl, h1, h2⟩ := h.of_bind
    have hrange := Quiet.exchanges (dataRange_quiet _ _ _ _) h1
    have hcalm := calm_append hb hrange
    rw [← List.append_assoc]
    split at h2
    · obtain ⟨e3, admission, e4, rfl, h3, h4⟩ := h2.of_bind
      have hcalm' := calm_append hcalm (Quiet.exchanges admitted_quiet h3)
      rw [← List.append_assoc]
      split at h4
      · refine installExchange_effect hcalm' (fun more => ?_) hslot h4
        simpa only [List.append_assoc] using haccept (e1 ++ e3 ++ more)
      · exact refused_effect hcalm' hcounted hlive h4
    · exact refused_effect hcalm hcounted hlive h2

theorem installSelected_effect {t : TaskSnapshot} {epoch : TaskEpoch} {before read : TaskEvents}
    (hb : exchanges before = []) (hphase : s.phase = .empty ∨ s.phase = .retired)
    (hread : Yields (readSelectedTask access layout).run read (.ok t))
    (h : Yields (installSelected s access layout epoch t) events r) :
    TaskEffect access layout s (before ++ read ++ events) r.state := by
  have hcalm := calm_append hb (Quiet.exchanges (readTask_quiet _ _) hread)
  have hjust (more : TaskEvents) : JustRead access layout (before ++ read ++ more) t :=
    ⟨before, read, more, rfl, hb, Quiet.exchanges (readTask_quiet _ _) hread, hread⟩
  have hlive : s.phase ≠ .inert := by
    rcases hphase with hp | hp
    · rw [hp]
      exact TaskPhase.noConfusion
    · rw [hp]
      exact TaskPhase.noConfusion
  rw [installSelected] at h
  split at h
  · exact refused_effect hcalm (.inl rfl) (fun _ => rfl) h
  · rename_i hqueued
    have hq : queued t.state = true := by simpa using hqueued
    split at h
    · exact fault_effect hcalm hlive (.found t (hjust _) hq) h
    · split at h
      · exact refused_effect hcalm (.inl rfl) (fun _ => rfl) h
      · have hcounted := history_counted (s := s) t
        split at h
        · rename_i heq
          rw [heq] at hcounted
          exact fault_effect hcalm hlive (.counted hcounted) h
        · rename_i heq
          rw [heq] at hcounted
          obtain ⟨rfl, hcount, hfresh⟩ := history_true heq
          split at h
          · exact fault_effect hcalm hlive (.counted hcounted) h
          · exact installAdmitted_effect hcalm (fun more => ⟨hjust more, hq, hphase, hcount, hfresh⟩) h

theorem installTaskBinding_effect {epoch : TaskEpoch}
    (h : Yields (installTaskBinding s access layout epoch) events r) :
    TaskEffect access layout s events r.state := by
  obtain ⟨e1, entry, e2, rfl, h1, h2⟩ := h.of_bind
  have hentry := Quiet.exchanges entryReason_quiet h1
  have hrefused {e : TaskEvents} {reason : Reason} (he : exchanges e = []) {e' : TaskEvents}
      (hy : Yields (refused reason s) e' r) : TaskEffect access layout s (e ++ e') r.state :=
    refused_effect he (.inl rfl) (fun _ => rfl) hy
  split at h2
  · exact hrefused hentry h2
  · split at h2
    · exact hrefused hentry h2
    · rename_i hlive
      split at h2
      · exact hrefused hentry h2
      · rename_i harmed
        split at h2
        · exact fault_effect hentry hlive (.counted (.inl rfl)) h2
        · rename_i hpreparing
          have hphase : s.phase = .empty ∨ s.phase = .retired := by
            cases hp : s.phase with
            | empty => exact .inl rfl
            | retired => exact .inr rfl
            | preparing => exact absurd hp hpreparing
            | armed => exact absurd hp harmed
            | inert => exact absurd hp hlive
          split at h2
          · exact hrefused hentry h2
          · split at h2
            · exact fault_effect hentry hlive (.counted (.inl rfl)) h2
            · obtain ⟨e3, read, e4, rfl, h3, h4⟩ := h2.of_bind
              have hcalm := calm_append hentry (Quiet.exchanges (readTask_quiet _ _) h3)
              rw [← List.append_assoc]
              cases read with
              | error reason =>
                  dsimp only at h4
                  split at h4
                  · exact fault_effect hcalm hlive (.counted (.inl rfl)) h4
                  · exact hrefused hcalm h4
              | ok before => exact installSelected_effect hentry hphase h3 h4

theorem restoreExchange_yields {slot : Nat} {ok : Bool} (h : Yields (restoreExchange s access slot) events ok) :
    (ok = false ∧ (exchanges events = [] ∨
      ∃ answer, exchanges events = [⟨slot + kBuilderOffset, s.wrapper, s.original, answer⟩])) ∨
    ok = true ∧ exchanges events = [⟨slot + kBuilderOffset, s.wrapper, s.original, ⟨true, s.wrapper⟩⟩] := by
  obtain ⟨e1, own, e2, rfl, h1, h2⟩ := h.of_bind
  have hown := Quiet.exchanges owner_quiet h1
  split at h2
  · split at h2
    · obtain ⟨e3, answer, e4, rfl, h3, h4⟩ := h2.of_bind
      have hex := exchange_yields h3
      obtain ⟨rfl, rfl⟩ := Yields.done_iff.mp h4
      have he : exchanges (e1 ++ (e3 ++ [])) = [⟨slot + kBuilderOffset, s.wrapper, s.original, answer⟩] := by
        simp only [exchanges_append, hown, hex, List.append_nil, List.nil_append]
      cases hok : answer.ok && decide (answer.observed = s.wrapper) with
      | false => exact .inl ⟨rfl, .inr ⟨answer, he⟩⟩
      | true =>
          rw [Bool.and_eq_true, decide_eq_true_eq] at hok
          obtain ⟨ok, observed⟩ := answer
          obtain ⟨rfl, rfl⟩ := hok
          exact .inr ⟨rfl, he⟩
    · obtain ⟨rfl, rfl⟩ := Yields.done_iff.mp h2
      exact .inl ⟨rfl, .inl (calm_append hown rfl)⟩
  · obtain ⟨rfl, rfl⟩ := Yields.done_iff.mp h2
    exact .inl ⟨rfl, .inl (calm_append hown rfl)⟩

theorem fault_without_undo {s0 : TaskBinding} {reason : Reason}
    (h : Yields (fault s0 access layout reason false) events r) :
    ∃ reason, r.state = { s0 with phase := .inert, fault := reason } := by
  obtain ⟨rfl, rfl⟩ := Yields.done_iff.mp h
  exact ⟨_, rfl⟩

theorem retireExchange_effect {before : TaskEvents} {slot : Nat} {current : TaskSnapshot}
    (hb : exchanges before = []) (hlive : s.phase ≠ .inert) (hbound : s.haveIdentity = true)
    (hslot : slotAddress access layout s.identity.slot = some slot)
    (h : Yields (retireExchange { s with phase := .retired, inverseAttempted := true } access layout slot current)
      events r) : TaskEffect access layout s (before ++ events) r.state := by
  obtain ⟨e1, ok, e2, rfl, h1, h2⟩ := h.of_bind
  obtain ⟨e3, after, e4, rfl, h3, h4⟩ := h2.of_bind
  have hread := Quiet.exchanges (slotRead_quiet _) h3
  have htotal {e : TaskEvents} (he : exchanges e = []) : exchanges (before ++ (e1 ++ (e3 ++ e))) = exchanges e1 := by
    simp only [exchanges_append, hb, hread, he, List.nil_append, List.append_nil]
  have hex := restoreExchange_yields h1
  rw [slotAddress_cell hslot] at hex
  -- The exchange is behind the binding: whatever fails now strands nothing twice.
  have hfailed {s0 : TaskBinding} {e e' : TaskEvents} {reason : Reason} (he : exchanges e = [])
      (hs : ∃ stranded, s0 = { s with phase := .retired, inverseAttempted := true, stranded := stranded })
      (hy : Yields (fault s0 access layout reason false) e' r) (hsplit : e4 = e ++ e') :
      TaskEffect access layout s (before ++ (e1 ++ (e3 ++ e4))) r.state := by
    obtain ⟨stranded, rfl⟩ := hs
    obtain ⟨reason', hstate⟩ := fault_without_undo hy
    subst hsplit
    refine .restoreFailed hlive hbound reason' true stranded hstate ?_
    rw [htotal (calm_append he ((fault_yields hy).2.2 rfl))]
    rcases hex with ⟨_, hnone | hone⟩ | ⟨_, hone⟩
    · exact .inl hnone
    · exact .inr hone
    · exact .inr ⟨_, hone⟩
  dsimp only at h4
  split at h4
  · exact hfailed exchanges_nil ⟨_, rfl⟩ h4 (List.nil_append _).symm
  · rename_i hrestored
    obtain ⟨e5, own, e6, rfl, h5, h6⟩ := h4.of_bind
    have hown := Quiet.exchanges owner_quiet h5
    split at h6
    · obtain ⟨rfl, rfl⟩ := Yields.done_iff.mp h6
      have hok : ok = true := by
        simp only [Bool.not_eq_true', Bool.not_eq_false, Bool.and_eq_true] at hrestored
        exact hrestored.1
      refine .restored hlive hbound true _ ?_
      rw [htotal (calm_append hown rfl)]
      rcases hex with ⟨hf, _⟩ | ⟨_, hone⟩
      · rw [hok] at hf
        cases hf
      · exact hone
    · exact hfailed hown ⟨_, rfl⟩ h6 rfl

theorem retireOwned_effect {before : TaskEvents} {current : TaskSnapshot} (hb : exchanges before = [])
    (hlive : s.phase ≠ .inert) (hbound : s.haveIdentity = true)
    (h : Yields (retireOwned s access layout current) events r) :
    TaskEffect access layout s (before ++ events) r.state := by
  have hfault {e e' : TaskEvents} {reason : Reason} (he : exchanges e = [])
      (hy : Yields (fault s access layout reason true) e' r) : TaskEffect access layout s (e ++ e') r.state :=
    fault_effect he hlive (.counted (.inl rfl)) hy
  rw [retireOwned] at h
  split at h
  · exact hfault hb h
  · split at h
    · exact refused_effect hb (.inl rfl) (fun _ => rfl) h
    · split at h
      · exact hfault hb h
      · split at h
        · exact hfault hb h
        · rename_i slot hslot
          obtain ⟨e1, writable, e2, rfl, h1, h2⟩ := h.of_bind
          have hcalm := calm_append hb (Quiet.exchanges (dataRange_quiet _ _ _ _) h1)
          rw [← List.append_assoc]
          split at h2
          · exact retireExchange_effect hcalm hlive hbound hslot h2
          · exact hfault hcalm h2

theorem TaskEffect.unbound (continues : Bool) (hlive : s.phase ≠ .inert) (hbound : s.haveIdentity = false)
    (h : continues = true → s.continuingTask = true) (hcalm : exchanges events = []) :
    TaskEffect access layout s events { s with phase := .retired, continuingTask := continues } := by
  have heffect := (TaskEffect.retired continues hlive h hcalm : TaskEffect access layout s events _)
  rwa [← hbound] at heffect

theorem retireUnbound_effect {before : TaskEvents} (hb : exchanges before = []) (hlive : s.phase ≠ .inert)
    (hbound : s.haveIdentity = false) (h : Yields (retireUnbound s access layout) events r) :
    TaskEffect access layout s (before ++ events) r.state := by
  rw [retireUnbound] at h
  split at h
  · rename_i hcontinues
    obtain ⟨e1, current, e2, rfl, h1, h2⟩ := h.of_bind
    obtain ⟨rfl, rfl⟩ := Yields.done_iff.mp h2
    have hcalm := calm_append hb (calm_append (Quiet.exchanges (slotRead_quiet _) h1) exchanges_nil)
    exact .unbound _ hlive hbound (fun _ => hcontinues) hcalm
  · obtain ⟨rfl, rfl⟩ := Yields.done_iff.mp h
    exact .unbound _ hlive hbound id (calm_append hb exchanges_nil)

theorem retireTaskBinding_effect {reason : Reason} (h : Yields (retireTaskBinding s access layout reason) events r) :
    TaskEffect access layout s events r.state := by
  obtain ⟨e1, entry, e2, rfl, h1, h2⟩ := h.of_bind
  have hentry := Quiet.exchanges entryReason_quiet h1
  split at h2
  · exact refused_effect hentry (.inl rfl) (fun _ => rfl) h2
  · split at h2
    · exact refused_effect hentry (.inl rfl) (fun _ => rfl) h2
    · rename_i hlive
      have hfault {e e' : TaskEvents} {reason : Reason} (he : exchanges e = [])
          (hy : Yields (fault s access layout reason true) e' r) : TaskEffect access layout s (e ++ e') r.state :=
        fault_effect he hlive (.counted (.inl rfl)) hy
      split at h2
      · exact hfault hentry h2
      · split at h2
        · rename_i hbound
          exact retireUnbound_effect hentry hlive (by simpa using hbound) h2
        · rename_i hbound
          have hhave : s.haveIdentity = true := by simpa using hbound
          split at h2
          · exact hfault hentry h2
          · obtain ⟨e3, current, e4, rfl, h3, h4⟩ := h2.of_bind
            have hcalm := calm_append hentry (Quiet.exchanges (slotRead_quiet _) h3)
            rw [← List.append_assoc]
            cases current with
            | none => exact hfault hcalm h4
            | some current =>
                dsimp only at h4
                split at h4
                · split at h4
                  · exact hfault hcalm h4
                  · obtain ⟨rfl, rfl⟩ := Yields.done_iff.mp h4
                    exact .retired false hlive Bool.noConfusion (calm_append hcalm rfl)
                · exact retireOwned_effect hcalm hlive hhave h4

end RS2ServerFix.Task
