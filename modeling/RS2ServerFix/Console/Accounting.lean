import RS2ServerFix.Console.Worker

namespace RS2ServerFix.Console

open Reporting Snapshot Lib Act

def freshConsole (recovery : Bool) : ReportingConsole where
  recovery := recovery
  diagnostics := ⟨0, 0, 0, 0, 0, 0, 0, .prepared⟩
  latest := ⟨.waitingLogger, false, 0, 0, 0, 0, 0⟩
  latestRecovery := ⟨0, (0, 0), 0, ReportRecoveryPayload.zero⟩
  lastAttemptMs := 0
  lastClockMs := 0
  lastClockQpc := 0
  haveAttempt := false
  haveClock := false
  everReady := false
  haveNormalAttempt := false
  normalChannel := ⟨false, false, false⟩
  recoveryChannel := ⟨false, false, false⟩
  journal := ⟨[], [], [], [], [], 0, 0, 0⟩

/-- Whether the worker goes on after a cycle, which may have been left early. -/
def goesOn : Except Bool Bool → Bool
  | .ok value => value
  | .error value => value

/-- Cycles one after the other, up to the first that returns `false`. -/
inductive ConsoleRun (recovery : Bool) : Bool → ReportingConsole → Prop
  | start : ConsoleRun recovery true (freshConsole recovery)
  | cycle {c c' : ReportingConsole} {events : List (Sigma Answer)} {result : Except Bool Bool}
      (h : ConsoleRun recovery true c) (hcycle : Yields (cycleReportingConsole c) events (result, c')) :
      ConsoleRun recovery (goesOn result) c'

/-- What every cycle keeps, a run keeps. -/
theorem ConsoleRun.keeps {recovery live : Bool} {c : ReportingConsole} {I : Bool → ReportingConsole → Prop}
    (h : ConsoleRun recovery live c) (hstart : I true (freshConsole recovery))
    (hcycle : ∀ c, I true c → cycleReportingConsole.Exits I I c) : I live c := by
  induction h with
  | start => exact hstart
  | cycle h hyields ih =>
      have hend := (hcycle _ ih).yields hyields
      rename_i result
      cases result with
      | ok value => exact hend
      | error value => exact hend

def ReportingConsole.publish (c : ReportingConsole) : ReportingConsole :=
  { c with journal := { c.journal with published := c.diagnostics :: c.journal.published } }

def ReportingConsole.diagnosed (c : ReportingConsole) (f : ConsoleDiagnostics → ConsoleDiagnostics) : ReportingConsole :=
  { c with diagnostics := f c.diagnostics }

def ReportingConsole.finished (c : ReportingConsole) : ReportingConsole :=
  (c.diagnosed fun d => { d with workerState := .finished }).publish

section Leaving

variable {α : Type} {c : ReportingConsole} {post : α → ReportingConsole → Prop} {left : Bool → ReportingConsole → Prop}

theorem publishConsole_exits {post : Bool → ReportingConsole → Prop} (h : ∀ published, post published c.publish) :
    publishConsole.Exits post left c := by
  refine Exits.getBind (Exits.modifyBind (Exits.queryBind fun ready => Exits.ite (fun _ => ?_) fun _ => ?_))
  · exact h false
  · exact Exits.query h

theorem finish_exits (h : left false c.finished) : (finish : Cycle α).Exits post left c := by
  refine Exits.modifyBind (Exits.bind (publishConsole_exits fun _ => ?_))
  exact h

theorem publishOrFinish_exits (h : left true c.publish) (h' : left false c.publish.finished) :
    (publishOrFinish : Cycle α).Exits post left c := by
  refine Exits.bind (publishConsole_exits fun published => Exits.ite (fun _ => ?_) fun _ => ?_)
  · exact h
  · exact finish_exits h'

theorem addOrFinish_exits {post : Unit → ReportingConsole → Prop} {value : Nat}
    {store : Nat → ConsoleDiagnostics → ConsoleDiagnostics} (hvalue : value ≤ uint64Max)
    (h : value < uint64Max → post () (c.diagnosed (store (value + 1))))
    (h' : value = uint64Max → left false (c.diagnosed (store uint64Max)).finished) :
    (addOrFinish value store).Exits post left c := by
  rw [addOrFinish, add]
  by_cases hfull : uint64Max - value < 1
  · rw [if_pos hfull]
    exact Exits.modifyBind (finish_exits (h' (by omega)))
  · rw [if_neg hfull]
    exact Exits.modify (h (by omega))

theorem stopped_exits {post : Bool → ReportingConsole → Prop} (h : ∀ b, post b c) : stopped.Exits post left c := by
  refine Exits.queryBind fun stop => Exits.ite (fun _ => h true) fun _ => ?_
  exact Exits.query h

theorem wordsUnchanged_exits {post : Bool → ReportingConsole → Prop} (wire : StatusWire) (words : List StatusWord)
    (h : ∀ b, post b c) : (wordsUnchanged wire words).Exits post left c := by
  induction words with
  | nil => exact h true
  | cons word words ih => exact Exits.queryBind fun now => Exits.ite (fun _ => h false) fun _ => ih

theorem stillCurrent_exits {post : Bool → ReportingConsole → Prop} (chosen : Chosen) (h : ∀ b, post b c) :
    (stillCurrent chosen).Exits post left c := by
  cases chosen with
  | normal snapshot notice => exact wordsUnchanged_exits snapshot.wire statusWords h
  | recovery identity wire =>
      refine Exits.queryBind fun now => ?_
      cases now with
      | none => exact h false
      | some now =>
          refine Exits.ite (fun _ => h false) fun _ => Exits.queryBind fun current => ?_
          cases current with
          | none => exact h false
          | some current => exact h _

theorem format_exits {post : Option (List UInt8) → ReportingConsole → Prop} (chosen : Chosen) (h : ∀ line, post line c) :
    (format chosen).Exits post left c := by
  cases chosen with
  | normal => exact Exits.query h
  | recovery => exact Exits.query h

theorem writeLine_exits {post : Bool × UInt64 → ReportingConsole → Prop} (handle : Bool × UInt64) (line : List UInt8)
    (h : ∀ outcome, post outcome c) : (writeLine handle line).Exits post left c := by
  refine Exits.ite (fun _ => h _) fun _ => Exits.queryBind fun answer => h _

end Leaving

def NoticeChannel.waiting (channel : NoticeChannel) : Nat := if channel.pending && !channel.pendingAttempted then 1 else 0

/-- The counters of a publication. -/
structure Accounted (d : ConsoleDiagnostics) : Prop where
  settled : d.written + d.failures ≤ d.attempts
  open_one : d.attempts ≤ d.written + d.failures + 1
  writing : d.attempts = d.written + d.failures + 1 → d.workerState = .writing ∨ d.workerState = .finished

theorem Accounted.accepted {d : ConsoleDiagnostics} (h : Accounted d) : countersRefused d = false := by
  have hsettled := h.settled
  simp only [countersRefused, Bool.or_eq_false_iff, decide_eq_false_iff_not]
  omega

/-- Of two pending notices of which one is terminal or a fault, that one was attempted. -/
def ConsoleAttempt.Urgent (a : ConsoleAttempt) : Prop :=
  ∀ normal recovery, a.normal = some normal → a.recovery = some recovery → normal ≠ recovery → a.useRecovery = recovery

structure Accounts (c : ReportingConsole) : Prop where
  selections : c.journal.selected = c.journal.attempted + c.diagnostics.skippedTransitions + c.journal.dropped +
    (c.normalChannel.waiting + c.recoveryChannel.waiting)
  published : ∀ d ∈ c.journal.published, Accounted d
  attempts : ∀ a ∈ c.journal.attempts, a.Urgent
  bounded : c.diagnostics.skippedTransitions ≤ uint64Max ∧ c.diagnostics.attempts ≤ uint64Max

/-- Between attempts: every attempt so far has its outcome. -/
structure Live (c : ReportingConsole) : Prop extends Accounts c where
  settled : c.diagnostics.attempts = c.diagnostics.written + c.diagnostics.failures

/-- What a cycle leaves behind; one after which the worker goes on leaves no attempt open. -/
def Left (live : Bool) (c : ReportingConsole) : Prop := Accounts c ∧ (live = true → Live c)

variable {c : ReportingConsole}

theorem Accounts.publish (h : Accounts c) (hd : Accounted c.diagnostics) : Accounts c.publish where
  selections := h.selections
  published := List.forall_mem_cons.mpr ⟨hd, h.published⟩
  attempts := h.attempts
  bounded := h.bounded

theorem Live.accounted (h : Live c) : Accounted c.diagnostics where
  settled := h.settled.ge
  open_one := by
    have hsettled := h.settled
    omega
  writing := fun hopen => by
    have hsettled := h.settled
    omega

theorem Live.publish (h : Live c) : Live c.publish where
  toAccounts := h.toAccounts.publish h.accounted
  settled := h.settled

theorem Live.left (h : Live c) (live : Bool) : Left live c := ⟨h.toAccounts, fun _ => h⟩

theorem Live.diagnosed (h : Live c) {f : ConsoleDiagnostics → ConsoleDiagnostics}
    (ha : (f c.diagnostics).attempts = c.diagnostics.attempts) (hw : (f c.diagnostics).written = c.diagnostics.written)
    (hf : (f c.diagnostics).failures = c.diagnostics.failures)
    (hs : (f c.diagnostics).skippedTransitions = c.diagnostics.skippedTransitions) : Live (c.diagnosed f) where
  selections := by
    rw [ReportingConsole.diagnosed, hs]
    exact h.selections
  published := h.published
  attempts := h.attempts
  bounded := by
    rw [ReportingConsole.diagnosed, ha, hs]
    exact h.bounded
  settled := by
    rw [ReportingConsole.diagnosed, ha, hw, hf]
    exact h.settled

theorem Live.finished (h : Live c) : Live c.finished :=
  Live.publish (h.diagnosed (f := fun d => { d with workerState := .finished }) rfl rfl rfl rfl)

section Segments

variable {α : Type} {post : α → ReportingConsole → Prop}

theorem Live.finish (h : Live c) : (finish : Cycle α).Exits post Left c := finish_exits (h.finished.left false)

theorem Live.publishOrFinish (h : Live c) : (publishOrFinish : Cycle α).Exits post Left c :=
  publishOrFinish_exits (h.publish.left true) (h.publish.finished.left false)

theorem Live.fail (h : Live c) (error : UInt64) : Live (c.diagnosed fun d => { d with lastError := error }) :=
  h.diagnosed rfl rfl rfl rfl

def Quiet (p : Cycle α) : Prop := ∀ c, Live c → p.Exits (fun _ => Live) Left c

theorem beginCycle_quiet : Quiet beginCycle := by
  intro c h
  refine Exits.bind (stopped_exits fun stop => Exits.ite (fun _ => Exits.bind h.finish) fun _ => ?_)
  refine Exits.queryBind fun armed => Exits.ite (fun _ => h.left true) fun _ => ?_
  have hpolling : Live (c.diagnosed fun d => { d with workerState := .polling }) :=
    h.diagnosed rfl rfl rfl rfl
  refine Exits.modifyBind (Exits.queryBind fun ticks => Exits.getBind (Exits.ite (fun _ => ?_) fun _ => ?_))
  · exact Exits.modifyBind (Exits.bind (hpolling.fail errorInvalidData).finish)
  · exact ⟨⟨hpolling.selections, hpolling.published, hpolling.attempts, hpolling.bounded⟩, hpolling.settled⟩

theorem readQpc_exits (h : Live c) : readQpc.Exits
    (fun _ t => Live t ∧ t.normalChannel = c.normalChannel ∧ t.recoveryChannel = c.recoveryChannel) Left c := by
  refine Exits.queryBind fun reading => Exits.getBind ?_
  cases reading with
  | none => exact Exits.modifyBind (h.fail errorInvalidData).publishOrFinish
  | some qpc =>
      refine Exits.ite (fun _ => ?_) fun _ => Exits.ite (fun _ => ?_) fun _ => ?_
      · exact Exits.modifyBind (h.fail errorInvalidData).publishOrFinish
      · exact Exits.modifyBind (h.fail errorInvalidData).finish
      · exact ⟨⟨⟨h.selections, h.published, h.attempts, h.bounded⟩, h.settled⟩, rfl, rfl⟩

theorem readQpc_quiet : Quiet readQpc := fun _ h => (readQpc_exits h).mono (fun _ _ ht => ht.1) fun _ _ ht => ht

structure ChannelOf (channel : ReportingConsole → NoticeChannel)
    (store : NoticeChannel → ReportingConsole → ReportingConsole) : Prop where
  same : ∀ c c', c.normalChannel = c'.normalChannel → c.recoveryChannel = c'.recoveryChannel → channel c = channel c'
  diagnostics : ∀ stored c, (store stored c).diagnostics = c.diagnostics
  journal : ∀ stored c, (store stored c).journal = c.journal
  waiting : ∀ stored c, (store stored c).normalChannel.waiting + (store stored c).recoveryChannel.waiting +
    (channel c).waiting = c.normalChannel.waiting + c.recoveryChannel.waiting + stored.waiting

theorem normal_channel : ChannelOf (·.normalChannel) storeNormal where
  same _ _ h _ := h
  diagnostics _ _ := rfl
  journal _ _ := rfl
  waiting stored c := by
    dsimp only [storeNormal]
    omega

theorem recovery_channel : ChannelOf (·.recoveryChannel) storeRecovery where
  same _ _ _ h := h
  diagnostics _ _ := rfl
  journal _ _ := rfl
  waiting stored c := by
    dsimp only [storeRecovery]
    omega

theorem chosen_channel (chosen : Chosen) : ChannelOf (channelOf chosen) (storeChannel chosen) := by
  cases chosen with
  | recovery => exact recovery_channel
  | normal => exact normal_channel

variable {channel : ReportingConsole → NoticeChannel} {store : NoticeChannel → ReportingConsole → ReportingConsole}

def ReportingConsole.superseding (c : ReportingConsole) (skipped : Nat) : ReportingConsole :=
  { c with
    diagnostics := { c.diagnostics with skippedTransitions := skipped }
    journal := { c.journal with selected := c.journal.selected + 1 } }

theorem Live.selectOn (hc : ChannelOf channel store) (h : Live c) (skipped : Nat)
    (hskipped : skipped = c.diagnostics.skippedTransitions + (channel c).waiting) (hbound : skipped ≤ uint64Max) :
    Live (store ⟨true, true, false⟩ (c.superseding skipped)) where
  selections := by
    rw [hc.journal, hc.diagnostics]
    have hselections := h.selections
    have hwaiting := hc.waiting ⟨true, true, false⟩ (c.superseding skipped)
    rw [hc.same (c.superseding skipped) c rfl rfl] at hwaiting
    have hnew : NoticeChannel.waiting ⟨true, true, false⟩ = 1 := rfl
    dsimp only [ReportingConsole.superseding] at hwaiting ⊢
    omega
  published := by
    rw [hc.journal]
    exact h.published
  attempts := by
    rw [hc.journal]
    exact h.attempts
  bounded := by
    rw [hc.diagnostics]
    exact ⟨hbound, h.bounded.2⟩
  settled := by
    rw [hc.diagnostics]
    exact h.settled

theorem selectOn_quiet (hc : ChannelOf channel store) : Quiet (selectOn channel store) := by
  intro c h
  refine Exits.getBind (Exits.ite (fun hwaiting => Exits.bind ?_) fun hwaiting => ?_)
  · refine addOrFinish_exits h.bounded.1 (fun hlt => ?_) fun hfull => ?_
    · refine h.selectOn hc (c.diagnostics.skippedTransitions + 1) ?_ (by omega)
      rw [NoticeChannel.waiting, if_pos hwaiting]
    · exact (h.diagnosed rfl rfl rfl hfull.symm).finished.left false
  · refine h.selectOn hc c.diagnostics.skippedTransitions ?_ h.bounded.1
    rw [NoticeChannel.waiting, if_neg hwaiting, Nat.add_zero]

theorem readRecovery_quiet : Quiet readRecovery := by
  intro c h
  refine Exits.getBind (Exits.ite (fun _ => h) fun _ => Exits.queryBind fun identity => ?_)
  cases identity with
  | none => exact h
  | some identity =>
      refine Exits.queryBind fun wire => ?_
      cases wire with
      | none => exact h
      | some wire => exact h

theorem Quiet.bind {β : Type} {p : Cycle α} {f : α → Cycle β} (hp : Quiet p) (hf : ∀ a, Quiet (f a)) :
    Quiet (p >>= f) := fun c h => Exits.bind ((hp c h).mono (fun a t ht => hf a t ht) fun _ _ ht => ht)

theorem selectRecovery_quiet : Quiet selectRecovery := by
  refine readRecovery_quiet.bind fun recovery c h => ?_
  cases recovery with
  | none => exact h
  | some recovery =>
      refine Exits.getBind (Exits.ite (fun _ => Exits.bind ?_) fun _ => ?_)
      · refine (selectOn_quiet recovery_channel c h).mono (fun _ t ht => ?_) fun _ _ ht => ht
        exact ⟨⟨ht.selections, ht.published, ht.attempts, ht.bounded⟩, ht.settled⟩
      · exact ⟨⟨h.selections, h.published, h.attempts, h.bounded⟩, h.settled⟩

theorem selectNormal_quiet (sampled : Except SnapshotFailure StatusSnapshot) (qpc : UInt64) :
    Quiet (selectNormal sampled qpc) := by
  intro c h
  cases sampled with
  | error failure => exact h.fail _
  | ok snapshot =>
      rw [selectNormal]
      dsimp only
      cases selectReportingConsoleNotice snapshot qpc with
      | none => exact h.fail _
      | some notice =>
          refine Exits.getBind (Exits.ite (fun _ => Exits.bind ?_) fun _ => h)
          refine (selectOn_quiet normal_channel c h).mono (fun _ t ht => ?_) fun _ _ ht => ht
          exact ⟨⟨ht.selections, ht.published, ht.attempts, ht.bounded⟩, ht.settled⟩

theorem chooseNotice_pending {normal : Option (StatusSnapshot × ConsoleNotice)}
    {recovery : Option (Snapshot.StatusHeader × RecoveryNotice)} {chosen : Chosen}
    (h : chooseNotice (if c.normalChannel.pending then normal else none)
      (if c.recoveryChannel.pending then recovery else none) = some chosen) : (channelOf chosen c).pending = true := by
  cases hn : c.normalChannel.pending <;> cases hr : c.recoveryChannel.pending <;>
    simp only [hn, hr, if_true, if_false, Bool.false_eq_true] at h
  · cases h
  · cases recovery with
    | none => cases h
    | some recovery =>
        cases h
        exact hr
  · cases normal with
    | none => cases h
    | some normal =>
        cases h
        exact hn
  · cases chosen with
    | recovery => exact hr
    | normal => exact hn

theorem chooseNotice_urgent {normal : Option (StatusSnapshot × ConsoleNotice)}
    {recovery : Option (Snapshot.StatusHeader × RecoveryNotice)} {chosen : Chosen} (h : chooseNotice normal recovery = some chosen)
    (start : CycleStart) (ms firstQpc snapshotQpc qpc : UInt64) :
    ConsoleAttempt.Urgent ⟨start, ms, firstQpc, snapshotQpc, qpc, normal.map (normalTerminal ·.2),
      recovery.map (recoveryTerminalNotice ·.2), chosen.useRecovery⟩ := by
  intro nt rt hn hr hne
  obtain ⟨⟨snapshot, notice⟩, rfl, rfl⟩ := Option.map_eq_some_iff.mp hn
  obtain ⟨⟨identity, wire⟩, rfl, rfl⟩ := Option.map_eq_some_iff.mp hr
  rw [chooseNotice] at h
  dsimp only at h hne ⊢
  cases hw : recoveryTerminalNotice wire <;> cases ht : normalTerminal notice <;> rw [hw, ht] at hne h
  · exact absurd rfl hne
  · cases h
    rfl
  · cases h
    rfl
  · exact absurd rfl hne

/-- An attempt is under way: its outcome is all that the counters miss. -/
structure Open (chosen : Chosen) (c : ReportingConsole) : Prop extends Accounts c where
  one : c.diagnostics.attempts = c.diagnostics.written + c.diagnostics.failures + 1
  attempted : (channelOf chosen c).pendingAttempted = true

theorem waiting_of_pending {ch : NoticeChannel} (hpending : ch.pending = true) :
    ch.waiting = if ch.pendingAttempted then 0 else 1 := by
  rw [NoticeChannel.waiting, hpending]
  cases ch.pendingAttempted <;> rfl

theorem Accounts.settleChannel (h : Accounts c) (hc : ChannelOf channel store) {t : ReportingConsole}
    {stored : NoticeChannel} (hn : t.normalChannel = c.normalChannel) (hr : t.recoveryChannel = c.recoveryChannel)
    (hselected : t.journal.selected = c.journal.selected)
    (hcount : t.journal.attempted + t.diagnostics.skippedTransitions + t.journal.dropped = c.journal.attempted +
      c.diagnostics.skippedTransitions + c.journal.dropped + (channel c).waiting)
    (hstored : stored.waiting = 0) (hpublished : t.journal.published = c.journal.published)
    (hattempts : ∀ a ∈ t.journal.attempts, a.Urgent)
    (hbounded : t.diagnostics.skippedTransitions ≤ uint64Max ∧ t.diagnostics.attempts ≤ uint64Max) :
    Accounts (store stored t) where
  selections := by
    rw [hc.journal, hc.diagnostics]
    have hselections := h.selections
    have hwaiting := hc.waiting stored t
    rw [hc.same t c hn hr, hn, hr] at hwaiting
    omega
  published := by
    rw [hc.journal, hpublished]
    exact h.published
  attempts := by
    rw [hc.journal]
    exact hattempts
  bounded := by
    rw [hc.diagnostics]
    exact hbounded

theorem dropNotice_exits {chosen : Chosen} (h : Live c) (hpending : (channelOf chosen c).pending = true) :
    (dropNotice chosen).Exits (fun _ => Live) Left c := by
  have hc := chosen_channel chosen
  have hwaiting := waiting_of_pending hpending
  refine Exits.getBind (Exits.ite (fun hnew => ?_) fun hold => ?_)
  · rw [Bool.not_eq_true'] at hnew
    rw [hnew, if_neg Bool.false_ne_true] at hwaiting
    refine ⟨h.settleChannel hc rfl rfl rfl ?_ rfl rfl h.attempts h.bounded, ?_⟩
    · rw [hwaiting]
      rfl
    · rw [hc.diagnostics]
      exact h.settled
  · rw [Bool.not_eq_true', Bool.not_eq_false] at hold
    rw [hold, if_pos rfl] at hwaiting
    refine ⟨h.settleChannel hc rfl rfl rfl ?_ rfl rfl h.attempts h.bounded, ?_⟩
    · rw [hwaiting]
      rfl
    · rw [hc.diagnostics]
      exact h.settled

def ReportingConsole.attempting (c : ReportingConsole) (chosen : Chosen) (attempt : ConsoleAttempt) : ReportingConsole :=
  storeChannel chosen { channelOf chosen c with pendingAttempted := true } { c with
    journal := { c.journal with
      attempts := attempt :: c.journal.attempts
      msReadings := attempt.ms :: c.journal.msReadings
      attempted := if (channelOf chosen c).pendingAttempted then c.journal.attempted else c.journal.attempted + 1 }
    diagnostics := { c.diagnostics with
      attempts := c.diagnostics.attempts + 1
      lastAttemptQpc := attempt.qpc
      lastNoticeEpoch := noticeEpoch chosen
      workerState := .writing }
    lastAttemptMs := attempt.ms
    haveAttempt := true
    haveNormalAttempt := c.haveNormalAttempt || !chosen.useRecovery }

/-- The outcome of an attempt is the end of it, and before that only its publication. -/
theorem recordAttempt_cases {chosen : Chosen} {attempt : ConsoleAttempt} {post : Unit → ReportingConsole → Prop}
    {left : Bool → ReportingConsole → Prop} (hfull : c.diagnostics.attempts = uint64Max → left false c.finished)
    (hroom : c.diagnostics.attempts ≠ uint64Max → post () (c.attempting chosen attempt).publish ∧
      left false (c.attempting chosen attempt).publish.finished) :
    (recordAttempt chosen attempt).Exits post left c := by
  refine Exits.getBind (Exits.ite (fun h => Exits.bind (finish_exits (hfull h))) fun h => ?_)
  refine Exits.modifyBind (Exits.modifyBind (Exits.modifyBind (Exits.modifyBind (Exits.bind ?_))))
  refine publishConsole_exits fun published => Exits.ite (fun _ => ?_) fun _ => ?_
  · cases chosen with
    | recovery => exact finish_exits (hroom h).2
    | normal => exact finish_exits (hroom h).2
  · cases chosen with
    | recovery => exact (hroom h).1
    | normal => exact (hroom h).1

theorem Open.accounted {chosen : Chosen} (h : Open chosen c)
    (hw : c.diagnostics.workerState = .writing ∨ c.diagnostics.workerState = .finished) : Accounted c.diagnostics where
  settled := by
    have hone := h.one
    omega
  open_one := h.one.le
  writing := fun _ => hw

theorem Live.attempting {chosen : Chosen} {attempt : ConsoleAttempt} (h : Live c)
    (hpending : (channelOf chosen c).pending = true) (hurgent : attempt.Urgent)
    (hroom : c.diagnostics.attempts ≠ uint64Max) : Open chosen (c.attempting chosen attempt) := by
  have hc := chosen_channel chosen
  have hwaiting := waiting_of_pending hpending
  have hbounded := h.bounded
  have hsettled := h.settled
  refine ⟨h.settleChannel hc rfl rfl rfl ?_ ?_ rfl (List.forall_mem_cons.mpr ⟨hurgent, h.attempts⟩) ?_, ?_, ?_⟩
  · rw [hwaiting]
    dsimp only
    cases (channelOf chosen c).pendingAttempted with
    | false =>
        rw [if_neg Bool.false_ne_true, if_neg Bool.false_ne_true]
        omega
    | true =>
        rw [if_pos rfl, if_pos rfl]
        omega
  · rw [NoticeChannel.waiting, Bool.not_true, Bool.and_false, if_neg Bool.false_ne_true]
  · exact ⟨hbounded.1, by
      dsimp only
      omega⟩
  · rw [ReportingConsole.attempting, hc.diagnostics]
    dsimp only
    omega
  · cases chosen with
    | recovery => rfl
    | normal => rfl

theorem recordAttempt_exits {chosen : Chosen} {attempt : ConsoleAttempt} (h : Live c)
    (hpending : (channelOf chosen c).pending = true) (hurgent : attempt.Urgent) :
    (recordAttempt chosen attempt).Exits (fun _ => Open chosen) Left c := by
  refine recordAttempt_cases (fun _ => h.finished.left false) fun hroom => ?_
  have hopen := h.attempting hpending hurgent hroom
  have hwriting : (c.attempting chosen attempt).diagnostics.workerState = .writing := by
    rw [ReportingConsole.attempting, (chosen_channel chosen).diagnostics]
  have hpublished := hopen.toAccounts.publish (hopen.accounted (.inl hwriting))
  refine ⟨⟨hpublished, hopen.one, hopen.attempted⟩, ?_, fun hf => absurd hf Bool.false_ne_true⟩
  refine Accounts.publish ⟨hpublished.selections, hpublished.published, hpublished.attempts, hpublished.bounded⟩ ?_
  exact ⟨(hopen.accounted (.inl hwriting)).settled, hopen.one.le, fun _ => .inr rfl⟩

theorem countOutcome_exits {chosen : Chosen} (h : Open chosen c) (ok : Bool) :
    (countOutcome chosen ok).Exits (fun _ => Live) Left c := by
  have hc := chosen_channel chosen
  have hone := h.one
  have hbounded := h.bounded
  refine Exits.getBind (Exits.ite (fun _ => Exits.bind ?_) fun _ => ?_)
  · refine addOrFinish_exits (by omega) (fun hlt => ?_) fun hfull => absurd hfull (by omega)
    have hwaiting : (channelOf chosen c).waiting = 0 := by
      rw [NoticeChannel.waiting, h.attempted, Bool.not_true, Bool.and_false, if_neg Bool.false_ne_true]
    refine ⟨h.settleChannel hc rfl rfl rfl ?_ rfl rfl h.attempts hbounded, ?_⟩
    · rw [hwaiting]
      rfl
    · rw [hc.diagnostics]
      dsimp only [ReportingConsole.diagnosed]
      omega
  · refine addOrFinish_exits (by omega) (fun hlt => ?_) fun hfull => absurd hfull (by omega)
    refine ⟨⟨h.selections, h.published, h.attempts, hbounded⟩, ?_⟩
    dsimp only [ReportingConsole.diagnosed]
    omega

theorem closeAttempt_exits {chosen : Chosen} (h : Live c) (ok : Bool) (error : UInt64) :
    (closeAttempt chosen ok error).Exits Left Left c := by
  have hclosing : Live (({ c.diagnosed fun d =>
      { d with lastError := if ok then errorSuccess else if error ≠ 0 then error else errorWriteFault } with
      everReady := c.everReady || (ok && chosen.becomesReady) } : ReportingConsole).diagnosed fun d =>
        { d with workerState := .polling }) :=
    ⟨⟨h.selections, h.published, h.attempts, h.bounded⟩, h.settled⟩
  refine Exits.modifyBind (Exits.modifyBind (Exits.modifyBind (Exits.bind (publishConsole_exits fun published => ?_))))
  refine Exits.ite (fun _ => Exits.bind hclosing.publish.finish) fun _ => Exits.bind (stopped_exits fun stop => ?_)
  refine Exits.ite (fun _ => Exits.bind hclosing.publish.finish) fun _ => hclosing.publish.left true

theorem attemptTicks_exits (h : Live c) (ticks : UInt64) : (attemptTicks ticks).Exits (fun _ t => t = c) Left c := by
  refine Exits.queryBind fun now => Exits.getBind (Exits.ite (fun _ => ?_) fun _ => rfl)
  exact Exits.modifyBind (Exits.bind (h.fail errorInvalidData).publishOrFinish)

theorem reportNotice_exits (h : Live c) (ticks firstQpc qpc : UInt64) (normal : Option (StatusSnapshot × ConsoleNotice))
    (recovery : Option (Snapshot.StatusHeader × RecoveryNotice)) :
    (reportNotice ticks firstQpc qpc normal recovery).Exits Left Left c := by
  refine Exits.getBind ?_
  dsimp only
  cases hchosen : chooseNotice (if c.normalChannel.pending then normal else none)
    (if c.recoveryChannel.pending then recovery else none) with
  | none => exact h.publishOrFinish
  | some chosen =>
      have hpending := chooseNotice_pending hchosen
      refine Exits.ite (fun _ => Exits.bind h.publishOrFinish) fun _ => Exits.bind (format_exits chosen fun line => ?_)
      cases line with
      | none =>
          refine Exits.modifyBind (Exits.bind ((dropNotice_exits (h.fail errorInvalidData) ?_).mono (fun _ t ht => ?_)
            fun _ _ ht => ht))
          · cases chosen with
            | recovery => exact hpending
            | normal => exact hpending
          · exact ht.publishOrFinish
      | some line =>
          refine Exits.queryBind fun handle => Exits.bind (stopped_exits fun stop => ?_)
          refine Exits.ite (fun _ => Exits.bind h.finish) fun _ => Exits.bind (stillCurrent_exits chosen fun current => ?_)
          refine Exits.ite (fun _ => Exits.bind h.publishOrFinish) fun _ => ?_
          refine Exits.bind ((attemptTicks_exits h ticks).mono (fun ms t ht => ?_) fun _ _ ht => ht)
          subst ht
          refine Exits.bind ((readQpc_exits h).mono (fun attemptQpc t ht => ?_) fun _ _ ht => ht)
          obtain ⟨ht, hn, hr⟩ := ht
          have hpending : (channelOf chosen t).pending = true := by
            rw [(chosen_channel chosen).same t _ hn hr]
            exact hpending
          refine Exits.getBind (Exits.bind ((recordAttempt_exits ht hpending
            (chooseNotice_urgent hchosen _ _ _ _ _)).mono (fun _ u hu => ?_) fun _ _ hu => hu))
          refine Exits.bind (writeLine_exits handle line fun outcome => ?_)
          refine Exits.bind ((countOutcome_exits hu outcome.1).mono (fun _ v hv => ?_) fun _ _ hv => hv)
          exact closeAttempt_exits hv outcome.1 outcome.2

theorem cycleReportingConsole_exits (h : Live c) : cycleReportingConsole.Exits Left Left c := by
  refine Exits.bind ((beginCycle_quiet c h).mono (fun ticks t ht => ?_) fun _ _ ht => ht)
  refine Exits.bind ((selectRecovery_quiet t ht).mono (fun recovery u hu => ?_) fun _ _ hu => hu)
  refine Exits.bind ((readQpc_quiet u hu).mono (fun firstQpc v hv => ?_) fun _ _ hv => hv)
  refine Exits.queryBind fun sampled => Exits.bind ((readQpc_quiet v hv).mono (fun qpc w hw => ?_) fun _ _ hw => hw)
  refine Exits.bind ((selectNormal_quiet sampled qpc w hw).mono (fun normal x hx => ?_) fun _ _ hx => hx)
  exact reportNotice_exits hx ticks firstQpc qpc normal recovery

end Segments

theorem live_fresh (recovery : Bool) : Live (freshConsole recovery) where
  selections := rfl
  published := fun _ hd => absurd hd List.not_mem_nil
  attempts := fun _ ha => absurd ha List.not_mem_nil
  bounded := ⟨Nat.zero_le _, Nat.zero_le _⟩
  settled := rfl

theorem ConsoleRun.left {recovery live : Bool} (h : ConsoleRun recovery live c) : Left live c :=
  h.keeps ((live_fresh recovery).left true) fun _ ht => cycleReportingConsole_exits (ht.2 rfl)

/-- In every state of a run the counters of each publication account for the
attempts, so that none is refused for them, each selection is counted once, and of
two pending notices the one that is terminal or a fault was the one attempted. -/
theorem console_accounting {recovery live : Bool} (h : ConsoleRun recovery live c) :
    (∀ d ∈ c.journal.published, Accounted d ∧ countersRefused d = false) ∧
    c.journal.selected = c.journal.attempted + c.diagnostics.skippedTransitions + c.journal.dropped +
      (c.normalChannel.waiting + c.recoveryChannel.waiting) ∧
    ∀ a ∈ c.journal.attempts, a.Urgent := by
  have haccounts := h.left.1
  refine ⟨fun d hd => ?_, haccounts.selections, haccounts.attempts⟩
  exact ⟨haccounts.published d hd, (haccounts.published d hd).accepted⟩

def sampleHeader : Snapshot.StatusHeader := ⟨0, 3, 0, 0, 2, 1, 31, 1, 1000, (1, 1), Vector.replicate 32 1, Vector.replicate 4 0⟩

def sampleStatus : StatusSnapshot where
  wire :=
    { header := sampleHeader
      words := fun word => if word = .revokeReasons then 8 else 0
      stopping := 0
      owner := ⟨2, 3, 1, 1, 1, 5, 0, 0⟩
      ownerTransport := ⟨0, 0, 0, 0, 0, 1, 5⟩
      worker := ⟨0, 0, 0, 0⟩ }
  headerAvailable := true
  coreAvailable := true
  logIdentityAvailable := true
  workerPauseChanged := false

def sampleAnswers : List UInt64 → (q : Question) → Answer q × List UInt64
  | ticks, .ticks => (ticks.headD 0, ticks.tail)
  | ticks, .stop | ticks, .stopping => (false, ticks)
  | ticks, .armed | ticks, .headerReady | ticks, .startPublication _ => (true, ticks)
  | ticks, .qpc => (some 10, ticks)
  | ticks, .reportingIdentity | ticks, .recoveryStatus _ => (none, ticks)
  | ticks, .statusSnapshot => (.ok sampleStatus, ticks)
  | ticks, .statusWord word => (sampleStatus.wire.words word, ticks)
  | ticks, .formatNotice _ _ _ | ticks, .formatRecovery _ => (some [13, 10], ticks)
  | ticks, .getStdOutput => ((false, 6), ticks)
  | ticks, .write _ => (⟨false, 0, 6⟩, ticks)

def sampleNotice : RecoveryNotice :=
  ⟨1, (1, 1), 4, { ReportRecoveryPayload.zero with phase := recoveryPhaseRequested, operationSequence := 1, qpc := 9 }⟩

def writingAnswers : List UInt64 → (q : Question) → Answer q × List UInt64
  | ticks, .reportingIdentity => (some sampleHeader, ticks)
  | ticks, .recoveryStatus _ => (some sampleNotice, ticks)
  | ticks, .getStdOutput => ((true, 0), ticks)
  | ticks, .write line => (⟨true, line.length, 0⟩, ticks)
  | ticks, q => sampleAnswers ticks q

section Sample

variable (answers : List UInt64 → (q : Question) → Answer q × List UInt64) {recovery : Bool}

def sampleCycle (c : ReportingConsole) (ticks : List UInt64) : Except Bool Bool × ReportingConsole :=
  ((cycleReportingConsole c).talk answers ticks).2

theorem ConsoleRun.sampleCycle (h : ConsoleRun recovery true c) (ticks : List UInt64) :
    ConsoleRun recovery (goesOn (sampleCycle answers c ticks).1) (sampleCycle answers c ticks).2 :=
  h.cycle (Yields.talk answers ticks (cycleReportingConsole c))

def sampleConsole (recovery : Bool) (first second : List UInt64) : ReportingConsole :=
  (sampleCycle answers (sampleCycle answers (freshConsole recovery) first).2 second).2

theorem sampleConsole_run (recovery : Bool) (first second : List UInt64)
    (hfirst : goesOn (sampleCycle answers (freshConsole recovery) first).1 = true) :
    ConsoleRun recovery (goesOn (sampleCycle answers (sampleCycle answers (freshConsole recovery) first).2 second).1)
      (sampleConsole answers recovery first second) := by
  have hstart := (ConsoleRun.start : ConsoleRun recovery true (freshConsole recovery)).sampleCycle answers first
  rw [hfirst] at hstart
  exact hstart.sampleCycle answers second

end Sample

/-- Two notices are pending: the terminal one is written first, and the other one by the next cycle. -/
theorem console_accounting_sample :
    (sampleConsole writingAnswers true [1000, 1500] [3000, 3000]).journal.attempts.map
      (fun a => (a.normal, a.recovery, a.useRecovery)) = [(none, some false, true), (some true, some false, false)] ∧
    (sampleConsole writingAnswers true [1000, 1500] [3000, 3000]).diagnostics.written = 2 ∧
    (∀ a ∈ (sampleConsole writingAnswers true [1000, 1500] [3000, 3000]).journal.attempts, a.Urgent) ∧
    (sampleConsole writingAnswers true [1000, 1500] [3000, 3000]).journal.selected =
      (sampleConsole writingAnswers true [1000, 1500] [3000, 3000]).journal.attempted +
      (sampleConsole writingAnswers true [1000, 1500] [3000, 3000]).diagnostics.skippedTransitions +
      (sampleConsole writingAnswers true [1000, 1500] [3000, 3000]).journal.dropped +
      ((sampleConsole writingAnswers true [1000, 1500] [3000, 3000]).normalChannel.waiting +
      (sampleConsole writingAnswers true [1000, 1500] [3000, 3000]).recoveryChannel.waiting) := by
  have haccounts := console_accounting (sampleConsole_run writingAnswers true [1000, 1500] [3000, 3000] (by decide))
  exact ⟨by decide +kernel, by decide +kernel, haccounts.2.2, haccounts.2.1⟩

end RS2ServerFix.Console
