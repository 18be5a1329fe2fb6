import RS2ServerFix.Lib.Noted
import RS2ServerFix.Lib.RateWindow
import RS2ServerFix.NativeLog.SubmissionOrder

namespace RS2ServerFix.NativeLog

open Reporting Lib Lib.RateWindow

variable {κ α : Type}

abbrev NotedLogProg (κ α : Type) := Prog (LogWorld κ × History) α

def notedInvokeFrame (frame : NativeReadyFrame) (start : Nat) (result : NativeServiceResult) : NotedLogProg κ RoundEnd := do
  (invokeEnter frame).noted fun _ h => .call start :: h
  if ← invokeLeave.lift then
    (recordSubmission frame).lift
    let result := { result with submitted := result.submitted + 1 }
    if ← (nativeTransportReturned frame.ticket).lift then
      if ← (accountCall start).lift then pure (.again result) else pure (.stop result)
    else
      (Prog.modify fun w : LogWorld κ => w.setStatus (loseStatus w.channel.status .recordLoss)).lift
      pure (.stop result)
  else pure .raised

def notedAdmitFrame (frame : NativeReadyFrame) (result : NativeServiceResult) : NotedLogProg κ RoundEnd := do
  match ← sample.lift with
  | none => pure (.stop result)
  | some start =>
      if ← (rateAllows start).noted fun allowed h => .check start allowed :: h then
        if ← checkOpen.lift then
          if ← (addSubmit (·.nativeSubmitCalls) (fun c v => { c with nativeSubmitCalls := v }) 1).lift then
            (noteSubmission start).noted fun _ h => .enter start :: h
            notedInvokeFrame frame start result
          else pure (.stop result)
        else pure (.stop result)
      else pure (.stop result)

def notedRequalifyFrame (frame : NativeReadyFrame) (result : NativeServiceResult) : NotedLogProg κ RoundEnd := do
  let epoch ← (Prog.read fun w : LogWorld κ => w.service.epoch).lift
  let reason ← qualify.lift
  let (after, revoked) ← (Prog.read fun w : LogWorld κ => (w.service.epoch, statusRevoked w.channel.status)).lift
  if reason ≠ .none ∨ after ≠ epoch ∨ revoked then
    pure (.stop ⟨if reason = .none ∧ after ≠ epoch then .sameFileRequalification else reason, false, result.submitted⟩)
  else notedAdmitFrame frame { result with reason := reason }

def notedSubmitRound (result : NativeServiceResult) : NotedLogProg κ RoundEnd := do
  let epoch ← (Prog.read fun w : LogWorld κ => w.service.epoch).lift
  match ← (nativeTransportFrame epoch).lift with
  | none => pure (.stop result)
  | some frame =>
      let early ← (Prog.read fun w : LogWorld κ => decide (frame.sequence ≠ 0) && !w.transport.startupObserved).lift
      if early then pure (.stop result)
      else
        let next ← (Prog.read fun w : LogWorld κ => nextToSubmit w.counters frame).lift
        if next then notedRequalifyFrame frame result
        else
          (Prog.modify fun w : LogWorld κ => w.setStatus (loseStatus w.channel.status .recordLoss)).lift
          pure (.stop result)

def notedSubmitRounds : Nat → NativeServiceResult → NotedLogProg κ (Option NativeServiceResult)
  | 0, result => pure (some result)
  | count + 1, result => do
      match ← notedSubmitRound result with
      | .again result => notedSubmitRounds count result
      | .stop result => pure (some result)
      | .raised => pure none

def notedServiceNativeLog : NotedLogProg κ (Option NativeServiceResult) := do
  if ← beginService.lift then
    let reason ← qualify.lift
    let revoked ← (Prog.read fun w : LogWorld κ => statusRevoked w.channel.status).lift
    if reason ≠ .none ∨ revoked then pure (some ⟨reason, false, 0⟩)
    else
      match ← notedSubmitRounds 2 ⟨.none, true, 0⟩ with
      | none => pure none
      | some result =>
          let revoked ← (Prog.read fun w : LogWorld κ => statusRevoked w.channel.status).lift
          pure (some { result with qualified := result.qualified && !revoked })
  else pure (some ⟨.none, false, 0⟩)

section Erasure

open Prog

theorem invokeFrame_erased (frame : NativeReadyFrame) (start : Nat) (result : NativeServiceResult) :
    Erases (notedInvokeFrame frame start result : NotedLogProg κ _) (invokeFrame frame start result) := by
  refine (Erases.noted _ _).bind fun _ => (Erases.lift _).bind fun back => ?_
  cases back with
  | false => exact .done _
  | true =>
      refine (Erases.lift _).bind fun _ => (Erases.lift _).bind fun released => ?_
      cases released with
      | false => exact (Erases.lift _).bind fun _ => .done _
      | true =>
          refine (Erases.lift _).bind fun counted => ?_
          cases counted with
          | true => exact .done _
          | false => exact .done _

theorem admitFrame_erased (frame : NativeReadyFrame) (result : NativeServiceResult) :
    Erases (notedAdmitFrame frame result : NotedLogProg κ _) (admitFrame frame result) := by
  refine (Erases.lift _).bind fun start => ?_
  cases start with
  | none => exact .done _
  | some start =>
      refine (Erases.noted _ _).bind fun allowed => ?_
      cases allowed with
      | false => exact .done _
      | true =>
          refine (Erases.lift _).bind fun clear => ?_
          cases clear with
          | false => exact .done _
          | true =>
              refine (Erases.lift _).bind fun counted => ?_
              cases counted with
              | false => exact .done _
              | true => exact (Erases.noted _ _).bind fun _ => invokeFrame_erased frame start result

theorem requalifyFrame_erased (frame : NativeReadyFrame) (result : NativeServiceResult) :
    Erases (notedRequalifyFrame frame result : NotedLogProg κ _) (requalifyFrame frame result) := by
  refine (Erases.lift _).bind fun epoch => (Erases.lift _).bind fun reason => (Erases.lift _).bind fun after => ?_
  dsimp only
  split
  · exact .done _
  · exact admitFrame_erased frame _

theorem submitRound_erased (result : NativeServiceResult) :
    Erases (notedSubmitRound result : NotedLogProg κ _) (submitRound result) := by
  refine (Erases.lift _).bind fun epoch => (Erases.lift _).bind fun front => ?_
  cases front with
  | none => exact .done _
  | some frame =>
      refine (Erases.lift _).bind fun early => ?_
      cases early with
      | true => exact .done _
      | false =>
          refine (Erases.lift _).bind fun next => ?_
          cases next with
          | true => exact requalifyFrame_erased frame result
          | false => exact (Erases.lift _).bind fun _ => .done _

theorem submitRounds_erased (count : Nat) (result : NativeServiceResult) :
    Erases (notedSubmitRounds count result : NotedLogProg κ _) (submitRounds count result) := by
  induction count generalizing result with
  | zero => exact .done _
  | succ count ih =>
      refine (submitRound_erased result).bind fun e => ?_
      cases e with
      | again result => exact ih result
      | stop result => exact .done _
      | raised => exact .done _

theorem serviceNativeLog_erased : Erases (notedServiceNativeLog : NotedLogProg κ _) serviceNativeLog := by
  refine (Erases.lift _).bind fun due => ?_
  cases due with
  | false => exact .done _
  | true =>
      refine (Erases.lift _).bind fun reason => (Erases.lift _).bind fun revoked => ?_
      split
      · exact .done _
      · refine (submitRounds_erased 2 _).bind fun result => ?_
        cases result with
        | none => exact .done _
        | some result => exact (Erases.lift _).bind fun _ => .done _

end Erasure

variable {w w' : LogWorld κ}

structure Steady (w w' : LogWorld κ) : Prop where
  frequency : w'.service.frequency = w.service.frequency
  ring : w'.service.submittedAt = w.service.submittedAt
  head : w'.service.submittedHead = w.service.submittedHead
  count : w'.service.submittedCount = w.service.submittedCount
  windowCount : w'.counters.submitWindowCount = w.counters.submitWindowCount
  windowStart : w'.counters.submitWindowStartQpc = w.counters.submitWindowStartQpc
  clock : w.service.haveClock = true → w'.service.haveClock = true ∧ w.service.lastClock ≤ w'.service.lastClock
  handed : w'.handed.length = w.handed.length

namespace Steady

theorem refl (w : LogWorld κ) : Steady w w := ⟨rfl, rfl, rfl, rfl, rfl, rfl, fun h => ⟨h, le_rfl⟩, rfl⟩

theorem status (w : LogWorld κ) (status : StatusWords) : Steady w (w.setStatus status) :=
  ⟨rfl, rfl, rfl, rfl, rfl, rfl, fun h => ⟨h, le_rfl⟩, rfl⟩

theorem revoke (w : LogWorld κ) (reason : Reason) : Steady w (w.revoke reason) := status w _

theorem counters (w : LogWorld κ) {c : OwnerCounters} (hcount : c.submitWindowCount = w.counters.submitWindowCount)
    (hstart : c.submitWindowStartQpc = w.counters.submitWindowStartQpc) : Steady w (w.setCounters c) :=
  ⟨rfl, rfl, rfl, rfl, hcount, hstart, fun h => ⟨h, le_rfl⟩, rfl⟩

theorem outside (h : LogOutside w w') : Steady w w' := by
  obtain ⟨n, -, hc⟩ := h.counters
  have hs := h.service
  refine ⟨by rw [hs], by rw [hs], by rw [hs], by rw [hs], by rw [hc], by rw [hc], fun hclock => ?_, by rw [h.history.1]⟩
  rw [hs]
  exact ⟨hclock, le_rfl⟩

end Steady

theorem steady_modify {f : LogWorld κ → LogWorld κ} (h : ∀ w, Steady w (f w)) : (Prog.modify f).Steps Steady := .act h

theorem sample_steady : (sample : LogProg κ _).Steps Steady := by
  refine .act fun w => ?_
  dsimp only
  split
  · exact .revoke w _
  · split
    · exact .revoke w _
    · rename_i now _ hgood
      exact ⟨rfl, rfl, rfl, rfl, rfl, rfl, fun h => ⟨rfl, by
        change w.service.lastClock ≤ now
        by_contra hlt
        exact hgood (.inr ⟨h, by omega⟩)⟩, rfl⟩

theorem beginService_steady : (beginService : LogProg κ _).Steps Steady := by
  refine .act fun w => ?_
  dsimp only
  split
  · exact .refl w
  · split
    · exact .revoke w _
    · rename_i hgood
      exact ⟨rfl, rfl, rfl, rfl, rfl, rfl, fun h => ⟨rfl, by
        change w.service.lastClock ≤ w.around.call.now
        by_contra hlt
        exact hgood ⟨h, by omega⟩⟩, rfl⟩

theorem addSubmit_steady (get : OwnerCounters → Nat) (set : OwnerCounters → Nat → OwnerCounters) (delta : Nat)
    (h : ∀ c v, (set c v).submitWindowCount = c.submitWindowCount ∧
      (set c v).submitWindowStartQpc = c.submitWindowStartQpc) :
    (addSubmit get set delta : LogProg κ _).Steps Steady := by
  refine .act fun w => ?_
  split
  · exact .revoke w _
  · exact .counters w (h _ _).1 (h _ _).2

theorem qualifyEpoch_steady : (qualifyEpoch : LogProg κ _).Steps Steady := by
  refine .act fun w => ?_
  dsimp only
  split
  · exact .counters w rfl rfl
  · exact .counters w rfl rfl

theorem requestEpoch_steady (current : NativeLogSnapshot) : (requestEpoch current : LogProg κ _).Steps Steady := by
  refine .act fun w => ?_
  dsimp only
  split
  · exact .refl w
  · exact ⟨rfl, rfl, rfl, rfl, rfl, rfl, fun h => ⟨h, le_rfl⟩, rfl⟩

theorem qualify_steady : (qualify : LogProg κ _).Steps Steady := by
  refine .bind (.read _ .refl) fun found => ?_
  dsimp only
  split
  · refine .bind (steady_modify fun w => ?_) fun _ => trivial
    show Steady w (if _ then _ else _)
    split
    · exact ⟨rfl, rfl, rfl, rfl, rfl, rfl, fun h => ⟨h, le_rfl⟩, rfl⟩
    · exact .counters w rfl rfl
  · refine .bind (.read _ .refl) fun s => ?_
    split
    · split
      · exact .bind (steady_modify fun w => .revoke w _) fun _ => trivial
      · refine .bind (requestEpoch_steady _) fun taken => ?_
        cases taken with
        | true => exact qualifyEpoch_steady
        | false => trivial
    · exact qualifyEpoch_steady

theorem checkOpen_steady : (checkOpen : LogProg κ _).Steps Steady :=
  .act fun _ => ⟨rfl, rfl, rfl, rfl, rfl, rfl, fun h => ⟨h, le_rfl⟩, rfl⟩

theorem nativeTransportFrame_steady (epoch : Nat) : (nativeTransportFrame epoch : LogProg κ _).Steps Steady := by
  refine .act fun w => ?_
  split
  · exact .refl w
  · split
    · exact ⟨rfl, rfl, rfl, rfl, rfl, rfl, fun h => ⟨h, le_rfl⟩, rfl⟩
    · exact ⟨rfl, rfl, rfl, rfl, rfl, rfl, fun h => ⟨h, le_rfl⟩, rfl⟩

theorem nativeTransportReturned_steady (ticket : Nat) : (nativeTransportReturned ticket : LogProg κ _).Steps Steady :=
  .act fun _ => ⟨rfl, rfl, rfl, rfl, rfl, rfl, fun h => ⟨h, le_rfl⟩, rfl⟩

theorem recordSubmission_steady (frame : NativeReadyFrame) : (recordSubmission frame : LogProg κ _).Steps Steady := by
  refine steady_modify fun w => ?_
  split
  · exact .counters w rfl rfl
  · exact .counters w rfl rfl

theorem invokeLeave_steady : (invokeLeave : LogProg κ _).Steps Steady := by
  refine .act fun w => ?_
  split
  · exact .status w _
  · refine ⟨rfl, rfl, rfl, rfl, rfl, rfl, fun h => ⟨h, le_rfl⟩, ?_⟩
    change (markReturned w.handed).length = w.handed.length
    rw [markReturned, List.length_append, List.length_dropLast]
    cases hlast : w.handed.getLast? with
    | none =>
        rw [List.getLast?_eq_none_iff.mp hlast]
        rfl
    | some h =>
        have hne : w.handed ≠ [] := by
          intro hnil
          rw [hnil] at hlast
          cases hlast
        have hpos := List.length_pos_of_ne_nil hne
        simp only [Option.map_some, Option.toList_some, List.length_singleton]
        omega

theorem countLongCall_steady (elapsed : Nat) : (countLongCall elapsed : LogProg κ _).Steps Steady := by
  refine .bind (.read _ .refl) fun frequency => ?_
  split
  · exact addSubmit_steady _ _ _ fun c v => ⟨rfl, rfl⟩
  · trivial

theorem accountCall_steady (start : Nat) : (accountCall start : LogProg κ _).Steps Steady := by
  refine .bind sample_steady fun stop => ?_
  cases stop with
  | none => trivial
  | some stop =>
      refine .bind (addSubmit_steady _ _ _ fun c v => ⟨rfl, rfl⟩) fun added => ?_
      cases added with
      | false => trivial
      | true =>
          refine .bind (steady_modify fun w => .counters w rfl rfl) fun _ => .bind (countLongCall_steady _) fun counted => ?_
          cases counted with
          | false => trivial
          | true => exact .bind (steady_modify fun w => .counters w rfl rfl) fun _ => trivial

/-- The ring holds the starts of the history that were recent at its last event,
and the counters tell of them. -/
structure Window (period : Nat) (x : LogWorld κ × History) : Prop where
  frequency : x.1.service.frequency = period
  legal : Legal 8 period x.2
  head : x.1.service.submittedHead < 8
  count : x.1.service.submittedCount ≤ 8
  ring : x.1.service.submittedAt.list x.1.service.submittedHead x.1.service.submittedCount =
    (recent period (lastTime x.2) (starts x.2)).reverse
  clock : x.2 ≠ [] → x.1.service.haveClock = true ∧ lastTime x.2 ≤ x.1.service.lastClock
  windowCount : x.1.counters.submitWindowCount = x.1.service.submittedCount
  windowStart : x.2 ≠ [] → x.1.counters.submitWindowStartQpc =
    (recent period (lastTime x.2) (starts x.2)).getLast?.getD (lastTime x.2)
  calls : x.1.handed.length = (calls x.2).length

variable {period : Nat} {h : History}

theorem Window.steady (hw : Window period (w, h)) (hs : Steady w w') : Window period (w', h) where
  frequency := hs.frequency.trans hw.frequency
  legal := hw.legal
  head := by
    change w'.service.submittedHead < 8
    rw [hs.head]
    exact hw.head
  count := by
    change w'.service.submittedCount ≤ 8
    rw [hs.count]
    exact hw.count
  ring := by
    have hring := hw.ring
    dsimp only at hring ⊢
    rw [hs.ring, hs.head, hs.count]
    exact hring
  clock := by
    intro hne
    obtain ⟨hhave, hle⟩ := hw.clock hne
    obtain ⟨hhave', hle'⟩ := hs.clock hhave
    exact ⟨hhave', hle.trans hle'⟩
  windowCount := hs.windowCount.trans (hw.windowCount.trans hs.count.symm)
  windowStart := fun hne => hs.windowStart.trans (hw.windowStart hne)
  calls := hs.handed.trans hw.calls

theorem windowStart_of_ring {a : Slots 8 Nat} {head count now : Nat} {ss : List Nat}
    (hring : a.list head count = ss.reverse) : (if count ≠ 0 then a.get head else now) = ss.getLast?.getD now := by
  cases count with
  | zero =>
      have hnil : ss = [] := List.reverse_eq_nil_iff.mp hring.symm
      rw [hnil]
      rfl
  | succ count =>
      rw [Slots.list_succ] at hring
      rw [if_pos (Nat.succ_ne_zero count), ← List.head?_reverse, ← hring]
      rfl

/-- The loop of the limiter on the ring: it drops what is a period old. -/
theorem expireWindow_list {now : Nat} (count : Nat) (s : NativeLogService) (hhead : s.submittedHead < 8)
    (hpast : ∀ e ∈ s.submittedAt.list s.submittedHead count, e ≤ now) :
    ∃ head count', expireWindow now count s = (true, { s with submittedHead := head, submittedCount := count' }) ∧
      head < 8 ∧ count' ≤ count ∧
      s.submittedAt.list head count' =
        (s.submittedAt.list s.submittedHead count).dropWhile (fun e => decide (s.frequency ≤ now - e)) := by
  induction count generalizing s with
  | zero => exact ⟨s.submittedHead, 0, rfl, hhead, le_rfl, rfl⟩
  | succ count ih =>
      have hlist := s.submittedAt.list_succ s.submittedHead count
      rw [hlist, List.forall_mem_cons] at hpast
      rw [hlist]
      by_cases hold : s.frequency ≤ now - s.submittedAt.get s.submittedHead
      · obtain ⟨head, count', hexpire, hhead', hcount', hring⟩ :=
          ih { s with submittedHead := (s.submittedHead + 1) % 8 } (Nat.mod_lt _ (by decide))
            (by dsimp only; rw [Slots.list_mod]; exact hpast.2)
        dsimp only at hexpire hring
        rw [Slots.list_mod] at hring
        refine ⟨head, count', ?_, hhead', hcount'.trans (Nat.le_succ count), ?_⟩
        · rw [expireWindow, if_neg (by omega), if_neg (by omega), hexpire]
        · rw [List.dropWhile_cons_of_pos (by exact decide_eq_true hold), hring]
      · refine ⟨s.submittedHead, count + 1, ?_, hhead, le_rfl, ?_⟩
        · rw [expireWindow, if_neg (by omega), if_pos (by omega)]
        · rw [List.dropWhile_cons_of_neg (by simpa using hold), hlist]

section Steps

def checked (now head count : Nat) (w : LogWorld κ) : LogWorld κ :=
  (w.setService { w.service with submittedHead := head, submittedCount := count }).setCounters { w.counters with
    submitWindowStartQpc := if count ≠ 0 then w.service.submittedAt.get head else now
    submitWindowCount := count }

theorem Window.check {now : Nat} (hw : Window period (w, h)) (hsettled : RateWindow.Settled h)
    (hhave : w.service.haveClock = true) (hclock : w.service.lastClock = now) :
    ∃ head count, (rateAllows now).run w = (decide (count < 8), checked now head count w) ∧
      Window period (checked now head count w, .check now (decide (count < 8)) :: h) := by
  have hlast : lastTime h ≤ now := by
    by_cases hne : h = []
    · subst hne
      exact Nat.zero_le now
    · exact hclock ▸ (hw.clock hne).2
  obtain ⟨hsorted, hpast⟩ := hw.legal.sorted
  have hring := hw.ring
  dsimp only at hring
  have hsub : ∀ e ∈ (recent period (lastTime h) (starts h)).reverse, e ∈ starts h := fun e he =>
    (List.mem_filter.mp (List.mem_reverse.mp he)).1
  obtain ⟨head, count, hexpire, hhead, hcount, hlist⟩ := @expireWindow_list now w.service.submittedCount
    w.service hw.head (by
      rw [hring]
      exact fun e he => (hpast e (hsub e he)).trans hlast)
  have hasc : (recent period (lastTime h) (starts h)).reverse.Pairwise (· ≤ ·) :=
    List.pairwise_reverse.mpr (hsorted.sublist List.filter_sublist)
  have hperiod : w.service.frequency = period := hw.frequency
  rw [hring, hperiod, recent_dropWhile hasc, recent, List.filter_reverse] at hlist
  have hnow : recent period now (recent period (lastTime h) (starts h)) = recent period now (starts h) := recent_later hlast
  have hlist' : w.service.submittedAt.list head count = (recent period now (starts h)).reverse := by
    rw [hlist, ← hnow]
    rfl
  have hlength : count = (recent period now (starts h)).length := by
    rw [← List.length_reverse, ← hlist', Slots.list_length]
  have hle := hw.count
  have hhead8 := hw.head
  dsimp only at hle hhead8
  refine ⟨head, count, ?_, ?_⟩
  · have hguard : ¬(8 < w.service.submittedCount ∨ 8 ≤ w.service.submittedHead) := by omega
    simp only [rateAllows, Prog.act, Prog.run, if_neg hguard, hexpire]
    rfl
  · have hdecide : decide (count < 8) = decide ((recent period now (starts h)).length < 8) := by rw [hlength]
    refine ⟨hperiod, ?_, hhead, hcount.trans hle, hlist', fun _ => ⟨hhave, hclock.ge⟩, rfl, fun _ => ?_, hw.calls⟩
    · rw [hdecide]
      exact .check now hw.legal hsettled hlast
    · exact windowStart_of_ring hlist'

theorem Window.enter {now : Nat} (hperiod : 0 < period) (hw : Window period (w, .check now true :: h)) :
    Window period (((noteSubmission now).run w).2, .enter now :: .check now true :: h) := by
  obtain ⟨-, -, hallowed⟩ := hw.legal.check_head
  have hroom := of_decide_eq_true hallowed.symm
  have hring := hw.ring
  have hcount : w.service.submittedCount = (recent period now (starts h)).length := by
    have hlength := congrArg List.length hring
    rw [Slots.list_length, List.length_reverse] at hlength
    exact hlength
  have hpush := w.service.submittedAt.list_push w.service.submittedHead (hcount ▸ hroom) now
  have hlist : (w.service.submittedAt.set (w.service.submittedHead + w.service.submittedCount) now).list
      w.service.submittedHead (w.service.submittedCount + 1) = (recent period now (now :: starts h)).reverse := by
    rw [hpush, recent_cons_now hperiod, List.reverse_cons]
    exact congrArg (· ++ [now]) hring
  have hstart := @windowStart_of_ring _ _ _ now _ hlist
  rw [if_pos (Nat.succ_ne_zero _)] at hstart
  refine ⟨hw.frequency, .enter hw.legal, hw.head, ?_, hlist, fun _ => hw.clock (List.cons_ne_nil _ _), rfl, fun _ => hstart,
    hw.calls⟩
  change w.service.submittedCount + 1 ≤ 8
  omega

theorem Window.call {now : Nat} {frame : NativeReadyFrame} (hw : Window period (w, .enter now :: h)) :
    Window period (((invokeEnter frame).run w).2, .call now :: .enter now :: h) := by
  have hcalls := hw.calls
  refine ⟨hw.frequency, .call hw.legal, hw.head, hw.count, hw.ring, fun _ => hw.clock (List.cons_ne_nil _ _),
    hw.windowCount, fun _ => hw.windowStart (List.cons_ne_nil _ _), ?_⟩
  change (w.handed ++ [_]).length = (RateWindow.calls h).length + 1
  rw [List.length_append]
  exact congrArg (· + 1) hcalls

end Steps

def WindowIdle (period : Nat) (x : LogWorld κ × History) : Prop := Window period x ∧ RateWindow.Settled x.2

def WindowSampled (period start : Nat) (x : LogWorld κ × History) : Prop :=
  WindowIdle period x ∧ x.1.service.haveClock = true ∧ x.1.service.lastClock = start

def WindowAllowed (period start : Nat) (x : LogWorld κ × History) : Prop :=
  Window period x ∧ ∃ h, x.2 = .check start true :: h

def WindowEntered (period start : Nat) (x : LogWorld κ × History) : Prop :=
  Window period x ∧ ∃ h, x.2 = .enter start :: h

abbrev WindowTriple (period : Nat) (P : LogWorld κ × History → Prop) (p : NotedLogProg κ α)
    (Q : α → LogWorld κ × History → Prop) : Prop :=
  Triple (Unnoted LogOutside) (Lib.Within (Window period) fun _ _ => True) P p Q

def Kept (P : LogWorld κ × History → Prop) : Prop := ∀ w w' h, Steady w w' → P (w, h) → P (w', h)

theorem Kept.window : Kept (Window period (κ := κ)) := fun _ _ _ hs hw => hw.steady hs

theorem Kept.idle : Kept (WindowIdle period (κ := κ)) := fun _ _ _ hs hw => ⟨hw.1.steady hs, hw.2⟩

theorem Kept.allowed (start : Nat) : Kept (WindowAllowed period start (κ := κ)) := fun _ _ _ hs hw => ⟨hw.1.steady hs, hw.2⟩

theorem Kept.entered (start : Nat) : Kept (WindowEntered period start (κ := κ)) := fun _ _ _ hs hw => ⟨hw.1.steady hs, hw.2⟩

theorem Kept.stable {P : LogWorld κ × History → Prop} (hP : Kept P) : Stable (Unnoted LogOutside) P := by
  intro x y hp he
  have hpair : y = (y.1, x.2) := Prod.ext rfl he.2
  rw [hpair]
  exact hP _ _ _ (.outside he.1) hp

theorem quiet_triple {p : LogProg κ α} {P : LogWorld κ × History → Prop} (hp : p.Steps Steady) (hP : Kept P) :
    WindowTriple period P p.lift fun _ => P := by
  refine hp.lift.triple hP.stable (fun x y hx hs => ?_) fun x y _ hs hw => ⟨trivial, ?_⟩
  · have hpair : y = (y.1, x.2) := Prod.ext rfl hs.2
    rw [hpair]
    exact hP _ _ _ hs.1 hx
  · have hpair : y = (y.1, x.2) := Prod.ext rfl hs.2
    rw [hpair]
    exact hw.steady hs.1

theorem end_triple {P Q : LogWorld κ × History → Prop} (a : α) (hQ : Kept Q) (h : ∀ x, P x → Q x) :
    WindowTriple period P (.done a) fun _ => Q := .done hQ.stable h

theorem notedInvokeFrame_triple (frame : NativeReadyFrame) (start : Nat) (result : NativeServiceResult) :
    WindowTriple period (WindowEntered period start (κ := κ)) (notedInvokeFrame frame start result)
      fun _ => WindowIdle period := by
  have hcall : WindowTriple period (WindowEntered period start (κ := κ))
      ((invokeEnter frame).noted fun _ h => .call start :: h) fun _ => WindowIdle period := by
    refine .noted_act (Kept.entered start).stable (fun _ => Kept.idle.stable) ?_
    rintro w _ ⟨hw, h, rfl⟩
    have hcalled := @Window.call κ w period h start frame hw
    exact ⟨fun _ => ⟨trivial, hcalled⟩, hcalled, trivial⟩
  refine hcall.bind fun _ => (quiet_triple invokeLeave_steady Kept.idle).bind fun back => ?_
  cases back with
  | false => exact end_triple _ Kept.idle fun _ h => h
  | true =>
      refine (quiet_triple (recordSubmission_steady frame) Kept.idle).bind fun _ => ?_
      refine (quiet_triple (nativeTransportReturned_steady frame.ticket) Kept.idle).bind fun released => ?_
      cases released with
      | true =>
          refine (quiet_triple (accountCall_steady start) Kept.idle).bind fun counted => ?_
          cases counted with
          | true => exact end_triple _ Kept.idle fun _ h => h
          | false => exact end_triple _ Kept.idle fun _ h => h
      | false =>
          have hlose := steady_modify (κ := κ) fun w => .status w (loseStatus w.channel.status .recordLoss)
          exact (quiet_triple hlose Kept.idle).bind fun _ => end_triple _ Kept.idle fun _ h => h

/-- A clock that was read stays the last one until the service goes on. -/
theorem sampled_stable (start : Nat) : Stable (Unnoted LogOutside) (WindowSampled period start (κ := κ)) := by
  intro x y hx he
  refine ⟨Kept.idle.stable x y hx.1 he, ?_⟩
  rw [he.1.service]
  exact hx.2

theorem sample_triple : WindowTriple period (WindowIdle period (κ := κ)) sample.lift fun start x =>
    match start with
    | none => WindowIdle period x
    | some start => WindowSampled period start x := by
  refine .lift_act Kept.idle.stable (fun start => ?_) fun w h hw => ?_
  · cases start with
    | none => exact Kept.idle.stable
    | some start => exact sampled_stable start
  · have hsteady : ∀ w', Steady w w' →
        Lib.Within (Window period) (fun _ _ => True) (w, h) (w', h) ∧ WindowIdle period (w', h) :=
      fun w' hs => ⟨fun _ => ⟨trivial, hw.1.steady hs⟩, Kept.idle w w' h hs hw⟩
    cases hclock : w.around.clock with
    | none => exact hsteady _ (.revoke w _)
    | some now =>
        by_cases hbad : now = 0 ∨ (w.service.haveClock ∧ now < w.service.lastClock)
        · simp only [if_pos hbad]
          exact hsteady _ (.revoke w _)
        · simp only [if_neg hbad]
          have hs : Steady w (w.setService { w.service with lastClock := now, haveClock := true }) := by
            refine ⟨rfl, rfl, rfl, rfl, rfl, rfl, fun h => ⟨rfl, ?_⟩, rfl⟩
            change w.service.lastClock ≤ now
            by_contra hlt
            exact hbad (.inr ⟨h, by omega⟩)
          exact ⟨(hsteady _ hs).1, (hsteady _ hs).2, rfl, rfl⟩

theorem notedAdmitFrame_triple (hperiod : 0 < period) (frame : NativeReadyFrame) (result : NativeServiceResult) :
    WindowTriple period (WindowIdle period (κ := κ)) (notedAdmitFrame frame result) fun _ => WindowIdle period := by
  have hstop : ∀ e : RoundEnd, WindowTriple period (WindowIdle period (κ := κ)) (.done e) fun _ => WindowIdle period :=
    fun e => end_triple e Kept.idle fun _ h => h
  refine sample_triple.bind fun start => ?_
  cases start with
  | none => exact hstop _
  | some start =>
      have hcheck : WindowTriple period (WindowSampled period start (κ := κ))
          ((rateAllows start).noted fun allowed h => .check start allowed :: h)
          fun allowed x => WindowIdle period x ∧ (allowed = true → WindowAllowed period start x) := by
        refine .noted_act (sampled_stable start) (fun allowed => ?_) ?_
        · exact Kept.stable fun w w' h hs hx =>
            ⟨Kept.idle w w' h hs hx.1, fun ha => Kept.allowed start w w' h hs (hx.2 ha)⟩
        · rintro w h ⟨⟨hw, hsettled⟩, hhave, hclock⟩
          obtain ⟨head, count, hrun, hchecked⟩ := hw.check hsettled hhave hclock
          have hresult := congrArg Prod.fst hrun
          have hstate := congrArg Prod.snd hrun
          simp only [rateAllows, Prog.act, Prog.run] at hresult hstate
          rw [hresult, hstate]
          refine ⟨fun _ => ⟨trivial, hchecked⟩, ⟨hchecked, trivial⟩, fun ha => ⟨hchecked, h, ?_⟩⟩
          rw [ha]
      refine hcheck.bind fun allowed => ?_
      cases allowed with
      | false => exact end_triple _ Kept.idle fun _ h => h.1
      | true =>
          have hallowed : ∀ x : LogWorld κ × History, WindowAllowed period start x → WindowIdle period x := by
            rintro ⟨w, _⟩ ⟨hw, h, rfl⟩
            exact ⟨hw, trivial⟩
          have hopen : WindowTriple period (WindowAllowed period start (κ := κ)) checkOpen.lift fun _ => WindowAllowed period start :=
            quiet_triple checkOpen_steady (Kept.allowed start)
          refine (hopen.conseq (fun x hx => hx.2 rfl) fun _ _ h => h).bind fun clear => ?_
          cases clear with
          | false => exact end_triple _ Kept.idle hallowed
          | true =>
              have hcalls := addSubmit_steady (κ := κ) (·.nativeSubmitCalls) (fun c v => { c with nativeSubmitCalls := v }) 1
                fun c v => ⟨rfl, rfl⟩
              refine (quiet_triple hcalls (Kept.allowed start)).bind fun counted => ?_
              cases counted with
              | false => exact end_triple _ Kept.idle hallowed
              | true =>
                  have henter : WindowTriple period (WindowAllowed period start (κ := κ))
                      ((noteSubmission start).noted fun _ h => .enter start :: h) fun _ => WindowEntered period start := by
                    refine .noted_act (Kept.allowed start).stable (fun _ => (Kept.entered start).stable) ?_
                    rintro w _ ⟨hw, h, rfl⟩
                    have hentered := hw.enter hperiod
                    exact ⟨fun _ => ⟨trivial, hentered⟩, hentered, _, rfl⟩
                  exact henter.bind fun _ => notedInvokeFrame_triple frame start result

theorem read_idle_triple {β : Type} (f : LogWorld κ → β) :
    WindowTriple period (WindowIdle period) (Prog.read f).lift fun _ => WindowIdle period :=
  quiet_triple (.read f .refl) Kept.idle

theorem notedRequalifyFrame_triple (hperiod : 0 < period) (frame : NativeReadyFrame) (result : NativeServiceResult) :
    WindowTriple period (WindowIdle period (κ := κ)) (notedRequalifyFrame frame result) fun _ => WindowIdle period := by
  refine (read_idle_triple fun w => w.service.epoch).bind fun epoch => ?_
  refine (quiet_triple qualify_steady Kept.idle).bind fun reason => ?_
  refine (read_idle_triple fun w => (w.service.epoch, statusRevoked w.channel.status)).bind fun after => ?_
  dsimp only
  split
  · exact end_triple _ Kept.idle fun _ h => h
  · exact notedAdmitFrame_triple hperiod frame _

theorem notedSubmitRound_triple (hperiod : 0 < period) (result : NativeServiceResult) :
    WindowTriple period (WindowIdle period (κ := κ)) (notedSubmitRound result) fun _ => WindowIdle period := by
  refine (read_idle_triple fun w => w.service.epoch).bind fun epoch => ?_
  refine (quiet_triple (nativeTransportFrame_steady epoch) Kept.idle).bind fun front => ?_
  cases front with
  | none => exact end_triple _ Kept.idle fun _ h => h
  | some frame =>
      refine (read_idle_triple fun w => decide (frame.sequence ≠ 0) && !w.transport.startupObserved).bind fun early => ?_
      cases early with
      | true => exact end_triple _ Kept.idle fun _ h => h
      | false =>
          refine (read_idle_triple fun w => nextToSubmit w.counters frame).bind fun next => ?_
          cases next with
          | true => exact notedRequalifyFrame_triple hperiod frame result
          | false =>
              have hlose := steady_modify (κ := κ) fun w => .status w (loseStatus w.channel.status .recordLoss)
              exact (quiet_triple hlose Kept.idle).bind fun _ => end_triple _ Kept.idle fun _ h => h

theorem notedSubmitRounds_triple (hperiod : 0 < period) (count : Nat) (result : NativeServiceResult) :
    WindowTriple period (WindowIdle period (κ := κ)) (notedSubmitRounds count result) fun _ => WindowIdle period := by
  induction count generalizing result with
  | zero => exact end_triple _ Kept.idle fun _ h => h
  | succ count ih =>
      refine (notedSubmitRound_triple hperiod result).bind fun e => ?_
      cases e with
      | again result => exact ih result
      | stop result => exact end_triple _ Kept.idle fun _ h => h
      | raised => exact end_triple _ Kept.idle fun _ h => h

theorem notedServiceNativeLog_triple (hperiod : 0 < period) :
    WindowTriple period (WindowIdle period (κ := κ)) notedServiceNativeLog fun _ => WindowIdle period := by
  refine (quiet_triple beginService_steady Kept.idle).bind fun due => ?_
  cases due with
  | false => exact end_triple _ Kept.idle fun _ h => h
  | true =>
      refine (quiet_triple qualify_steady Kept.idle).bind fun reason => ?_
      refine (read_idle_triple _).bind fun revoked => ?_
      split
      · exact end_triple _ Kept.idle fun _ h => h
      · refine (notedSubmitRounds_triple hperiod 2 _).bind fun result => ?_
        cases result with
        | none => exact end_triple _ Kept.idle fun _ h => h
        | some result => exact (read_idle_triple _).bind fun _ => end_triple _ Kept.idle fun _ h => h

structure LogWorld.Unsubmitted (w : LogWorld κ) : Prop where
  handed : w.handed = []
  head : w.service.submittedHead = 0
  count : w.service.submittedCount = 0
  windowCount : w.counters.submitWindowCount = 0

theorem LogWorld.Unsubmitted.idle (hw : w.Unsubmitted) : WindowIdle w.service.frequency (w, []) := by
  refine ⟨⟨rfl, .nil, ?_, ?_, ?_, fun h => absurd rfl h, ?_, fun h => absurd rfl h, ?_⟩, trivial⟩
  · change w.service.submittedHead < 8
    rw [hw.head]
    decide
  · change w.service.submittedCount ≤ 8
    rw [hw.count]
    exact Nat.zero_le 8
  · change w.service.submittedAt.list _ w.service.submittedCount = []
    rw [hw.count]
    rfl
  · exact hw.windowCount.trans hw.count.symm
  · exact congrArg List.length hw.handed

/-- What the window and its history say of each other. -/
structure RateWindowKept (period : Nat) (w : LogWorld κ) (h : History) : Prop where
  /-- Any nine calls that follow one another take a period from the first start to the last. -/
  spans : ∀ i (hi : i + 8 < (calls h).length), (calls h)[i + 8] + period ≤ (calls h)[i]
  calls : w.handed.length = (RateWindow.calls h).length
  head : w.service.submittedHead < 8
  count : w.service.submittedCount ≤ 8
  /-- Nothing that was recent at the last event has been written over. -/
  ring : w.service.submittedAt.list w.service.submittedHead w.service.submittedCount =
    (recent period (lastTime h) (starts h)).reverse
  windowCount : h ≠ [] → w.counters.submitWindowCount = (recent period (lastTime h) (starts h)).length
  windowStart : h ≠ [] → w.counters.submitWindowStartQpc =
    (recent period (lastTime h) (starts h)).getLast?.getD (lastTime h)
  /-- A refusal is for eight recent starts. -/
  refused : ∀ newer now older, h = newer ++ .check now false :: older → 8 ≤ (recent period now (starts older)).length

theorem Window.kept (hw : Window period (w, h)) : RateWindowKept period w h where
  spans := hw.legal.calls_span
  calls := hw.calls
  head := hw.head
  count := hw.count
  ring := hw.ring
  windowCount := by
    intro _
    have hlength := congrArg List.length hw.ring
    rw [Slots.list_length, List.length_reverse] at hlength
    exact hw.windowCount.trans hlength
  windowStart := hw.windowStart
  refused := by
    rintro newer now older rfl
    obtain ⟨-, -, hallowed⟩ := hw.legal.check_of_append
    exact Nat.le_of_not_lt (of_decide_eq_false hallowed.symm)

/-- Every run of the service has a history of checks, starts and calls, and every
history of a run keeps the limit. -/
theorem rate_window (hw : w.Unsubmitted) (hfrequency : w.service.frequency ≠ 0) :
    (∀ x, Turns LogOutside serviceNativeLog (w, serviceNativeLog) x →
      ∃ h p, Turns (Unnoted LogOutside) notedServiceNativeLog ((w, []), notedServiceNativeLog) ((x.1, h), p) ∧
        Prog.Erases p x.2) ∧
    ∀ x, Turns (Unnoted LogOutside) notedServiceNativeLog ((w, []), notedServiceNativeLog) x →
      RateWindowKept w.service.frequency x.1.1 x.1.2 := by
  have hperiod := Nat.pos_of_ne_zero hfrequency
  have hJ : ∀ x : LogWorld κ × History, WindowIdle w.service.frequency x → Window w.service.frequency x := fun _ h => h.1
  refine ⟨fun x run => run.noted serviceNativeLog_erased [], fun x run => ?_⟩
  have hrunning := (Running.start hJ (notedServiceNativeLog_triple hperiod) hw.idle).turns hJ Kept.window.stable
    (notedServiceNativeLog_triple hperiod) run
  exact hrunning.inv.kept

/-- Six visits, with two records more before each of the last five. -/
def sampleVisits : LogWorld Unit × History :=
  notedServiceNativeLog.rounds (sampleLogWorld, []) ([260, 510, 760, 1010, 1260].map fun now x => (x.1.later now, x.2))

/-- The ninth call waits for the first one to be a second old. -/
theorem rate_window_sample : sampleLogWorld.Unsubmitted ∧ sampleLogWorld.service.frequency ≠ 0 ∧
    calls sampleVisits.2 = [1260, 1260, 1010, 760, 760, 510, 510, 260, 260, 20] ∧
      Event.check 1010 false ∈ sampleVisits.2 ∧ RateWindowKept 1000 sampleVisits.1 sampleVisits.2 := by
  have hw : sampleLogWorld.Unsubmitted := ⟨rfl, rfl, rfl, rfl⟩
  have hfrequency : sampleLogWorld.service.frequency ≠ 0 := by decide
  have hhistory : calls sampleVisits.2 = [1260, 1260, 1010, 760, 760, 510, 510, 260, 260, 20] ∧
      Event.check 1010 false ∈ sampleVisits.2 := by decide +kernel
  refine ⟨hw, hfrequency, hhistory.1, hhistory.2, ?_⟩
  refine (rate_window hw hfrequency).2 (sampleVisits, notedServiceNativeLog) (Turns.rounds _ ?_ _)
  intro f hf x
  obtain ⟨now, -, rfl⟩ := List.mem_map.mp hf
  exact ⟨x.1.later_outside now, rfl⟩

end RS2ServerFix.NativeLog
