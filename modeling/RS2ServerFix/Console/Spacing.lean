import Mathlib.Data.List.Chain
import RS2ServerFix.Console.Accounting

namespace RS2ServerFix.Console

open Reporting Snapshot Lib Act

structure Clocks where
  lastAttemptMs : UInt64
  lastClockMs : UInt64
  lastClockQpc : UInt64
  haveAttempt : Bool
  haveClock : Bool
  starts : List CycleStart
  attempts : List ConsoleAttempt
  msReadings : List UInt64
  qpcReadings : List UInt64

def ReportingConsole.clocks (c : ReportingConsole) : Clocks :=
  ⟨c.lastAttemptMs, c.lastClockMs, c.lastClockQpc, c.haveAttempt, c.haveClock, c.journal.starts, c.journal.attempts,
    c.journal.msReadings, c.journal.qpcReadings⟩

namespace Clocks

variable (k : Clocks)

def start (ticks : UInt64) : CycleStart := ⟨ticks, k.attempts.head?.map (·.ms), k.msReadings, k.qpcReadings⟩

def begun (ticks : UInt64) : Clocks :=
  { k with lastClockMs := ticks, haveClock := true, starts := k.start ticks :: k.starts,
           msReadings := ticks :: k.msReadings }

def read (qpc : UInt64) : Clocks := { k with lastClockQpc := qpc, qpcReadings := qpc :: k.qpcReadings }

def attempted (a : ConsoleAttempt) : Clocks :=
  { k with lastAttemptMs := a.ms, haveAttempt := true, attempts := a :: k.attempts, msReadings := a.ms :: k.msReadings }

end Clocks

/-- The first reading of the cycle is not below that of the attempt before it. -/
def CycleStart.Steady (s : CycleStart) : Prop := ∀ m, s.lastAttempt = some m → m ≤ s.ticks

instance (s : CycleStart) : Decidable s.Steady :=
  decidable_of_iff (s.lastAttempt.all fun m => decide (m ≤ s.ticks)) (by
    rw [CycleStart.Steady, Option.all_eq_true]
    exact forall₂_congr fun m _ => decide_eq_true_iff)

/-- No reading of the attempt's cycle is below one that was accepted before. -/
structure ConsoleAttempt.Ordered (a : ConsoleAttempt) : Prop where
  earlierMs : ∀ m ∈ a.start.earlierMs, m ≤ a.start.ticks
  ms : a.start.ticks ≤ a.ms
  earlierQpc : ∀ q ∈ a.start.earlierQpc, q ≤ a.firstQpc
  qpc : a.firstQpc ≤ a.snapshotQpc ∧ a.snapshotQpc ≤ a.qpc

/-- Attempts, the latest first, of which each is a second after the one before it. -/
structure Spaced (attempts : List ConsoleAttempt) : Prop where
  spacing : attempts.IsChain fun later earlier =>
    earlier.ms.toNat + 1000 ≤ later.ms.toNat ∧ earlier.qpc ≤ later.qpc
  ordered : ∀ a ∈ attempts, a.Ordered

structure Paced (k : Clocks) : Prop where
  last : k.attempts.head?.map (·.ms) = if k.haveAttempt then some k.lastAttemptMs else none
  unread : k.haveClock = false → k.msReadings = []
  qpcReadings : ∀ q ∈ k.qpcReadings, q ≤ k.lastClockQpc
  attemptQpc : ∀ a ∈ k.attempts, a.qpc ≤ k.lastClockQpc
  attemptMs : ∀ a ∈ k.attempts, a.ms ∈ k.msReadings
  starts : ∀ a ∈ k.attempts, a.start ∈ k.starts ∧ ∀ m, a.start.lastAttempt = some m → m ∈ a.start.earlierMs
  qpcOrder : k.attempts.IsChain fun later earlier => earlier.qpc ≤ later.qpc
  spaced : (∀ a ∈ k.attempts, a.start.Steady) → Spaced k.attempts ∧
    ∀ m ∈ k.msReadings, m ≤ k.lastClockMs ∨ k.haveAttempt = true ∧ m ≤ k.lastAttemptMs

namespace Paced

variable {k : Clocks} {ticks : UInt64}

theorem earlier_le (h : Paced k) (hticks : k.haveClock = true → k.lastClockMs ≤ ticks)
    (hsteady : ∀ a ∈ k.attempts, a.start.Steady) (hstart : (k.start ticks).Steady) :
    ∀ m ∈ k.msReadings, m ≤ ticks := by
  intro m hm
  have hclock : k.haveClock = true := by
    by_contra hnot
    rw [h.unread (Bool.eq_false_iff.mpr hnot)] at hm
    exact absurd hm List.not_mem_nil
  rcases (h.spaced hsteady).2 m hm with hle | ⟨hattempt, hle⟩
  · exact UInt64.le_trans hle (hticks hclock)
  · refine UInt64.le_trans hle (hstart _ ?_)
    rw [Clocks.start, h.last, if_pos hattempt]

theorem begun (h : Paced k) (hticks : k.haveClock = true → k.lastClockMs ≤ ticks) : Paced (k.begun ticks) where
  last := h.last
  unread := fun hf => absurd hf.symm Bool.false_ne_true
  qpcReadings := h.qpcReadings
  attemptQpc := h.attemptQpc
  attemptMs := fun a ha => List.mem_cons_of_mem _ (h.attemptMs a ha)
  starts := fun a ha => ⟨List.mem_cons_of_mem _ (h.starts a ha).1, (h.starts a ha).2⟩
  qpcOrder := h.qpcOrder
  spaced := fun hsteady => by
    obtain ⟨hspaced, hbound⟩ := h.spaced hsteady
    refine ⟨hspaced, List.forall_mem_cons.mpr ⟨.inl (UInt64.le_refl _), fun m hm => ?_⟩⟩
    have hclock : k.haveClock = true := by
      by_contra hnot
      rw [h.unread (Bool.eq_false_iff.mpr hnot)] at hm
      exact absurd hm List.not_mem_nil
    rcases hbound m hm with hle | hle
    · exact .inl (UInt64.le_trans hle (hticks hclock))
    · exact .inr hle

theorem read (h : Paced k) {qpc : UInt64} (hqpc : k.lastClockQpc ≤ qpc) : Paced (k.read qpc) where
  last := h.last
  unread := h.unread
  qpcReadings := List.forall_mem_cons.mpr ⟨UInt64.le_refl _, fun q hq => UInt64.le_trans (h.qpcReadings q hq) hqpc⟩
  attemptQpc := fun a ha => UInt64.le_trans (h.attemptQpc a ha) hqpc
  attemptMs := h.attemptMs
  starts := h.starts
  qpcOrder := h.qpcOrder
  spaced := h.spaced

/-- Once past the gate from a steady first reading, an attempt is a second after the one before it. -/
theorem gate_spaced {ms last : UInt64} (hle : last ≤ ms) (hgate : ¬ms - last < 1000) : last.toNat + 1000 ≤ ms.toNat := by
  rw [UInt64.lt_iff_toNat_lt, UInt64.toNat_sub_of_le _ _ hle] at hgate
  have hle := UInt64.le_iff_toNat_le.mp hle
  have hsecond : (1000 : UInt64).toNat = 1000 := rfl
  omega

theorem attempted {a : ConsoleAttempt} (h : Paced k) (hticks : k.haveClock = true → k.lastClockMs ≤ ticks)
    (hstart : a.start = k.start ticks) (hms : ticks ≤ a.ms)
    (hgate : ¬(k.haveAttempt = true ∧ a.ms - k.lastAttemptMs < 1000)) (hfirst : k.lastClockQpc ≤ a.firstQpc)
    (hsnapshot : a.firstQpc ≤ a.snapshotQpc) (hqpc : a.snapshotQpc ≤ a.qpc) :
    Paced (((((k.begun ticks).read a.firstQpc).read a.snapshotQpc).read a.qpc).attempted a) := by
  have hread := ((h.begun hticks).read hfirst |>.read hsnapshot).read hqpc
  have hlater : ∀ earlier ∈ k.attempts.head?, earlier.qpc ≤ a.qpc := fun earlier hearlier =>
    UInt64.le_trans (h.attemptQpc _ (List.mem_of_mem_head? hearlier))
      (UInt64.le_trans hfirst (UInt64.le_trans hsnapshot hqpc))
  refine ⟨rfl, fun hf => absurd hf.symm Bool.false_ne_true, hread.qpcReadings, ?_, ?_, ?_, ?_, fun hsteady => ?_⟩
  · exact List.forall_mem_cons.mpr ⟨UInt64.le_refl _, hread.attemptQpc⟩
  · exact List.forall_mem_cons.mpr ⟨List.mem_cons_self, fun b hb => List.mem_cons_of_mem _ (hread.attemptMs b hb)⟩
  · refine List.forall_mem_cons.mpr ⟨⟨?_, fun m hm => ?_⟩, hread.starts⟩
    · rw [hstart]
      exact List.mem_cons_self
    · rw [hstart] at hm ⊢
      obtain ⟨b, hb, rfl⟩ := Option.map_eq_some_iff.mp hm
      exact h.attemptMs b (List.mem_of_mem_head? hb)
  · exact List.isChain_cons.mpr ⟨hlater, h.qpcOrder⟩
  · obtain ⟨hnew, hold⟩ := List.forall_mem_cons.mp hsteady
    rw [hstart] at hnew
    obtain ⟨hspaced, hbound⟩ := hread.spaced hold
    have hlast := h.last
    have hafter : ∀ m, k.attempts.head?.map (·.ms) = some m → m.toNat + 1000 ≤ a.ms.toNat := by
      intro m hm
      rw [hlast] at hm
      split at hm
      · rename_i hattempt
        cases hm
        refine gate_spaced (UInt64.le_trans (hnew _ ?_) hms) fun hsoon => hgate ⟨hattempt, hsoon⟩
        rw [Clocks.start, hlast, if_pos hattempt]
      · cases hm
    refine ⟨⟨?_, List.forall_mem_cons.mpr ⟨⟨?_, ?_, ?_, hsnapshot, hqpc⟩, hspaced.ordered⟩⟩, ?_⟩
    · refine List.isChain_cons.mpr ⟨fun earlier hearlier => ⟨?_, ?_⟩, hspaced.spacing⟩
      · exact hafter _ (Option.map_eq_some_iff.mpr ⟨earlier, hearlier, rfl⟩)
      · exact hlater earlier hearlier
    · rw [hstart]
      exact h.earlier_le hticks hold hnew
    · rw [hstart]
      exact hms
    · rw [hstart]
      exact fun q hq => UInt64.le_trans (h.qpcReadings q hq) hfirst
    · refine List.forall_mem_cons.mpr ⟨.inr ⟨rfl, UInt64.le_refl _⟩, fun m hm => ?_⟩
      rcases hbound m hm with hle | ⟨hattempt, hle⟩
      · exact .inl hle
      · have hattempt : k.haveAttempt = true := hattempt
        have hlater := hafter k.lastAttemptMs (by rw [hlast, if_pos hattempt])
        refine .inr ⟨rfl, UInt64.le_trans hle (UInt64.le_iff_toNat_le.mpr ?_)⟩
        exact (Nat.le_add_right _ _).trans hlater

end Paced

def SameClocks (c t : ReportingConsole) : Prop := t.clocks = c.clocks

instance : IsPreorder ReportingConsole SameClocks where
  refl _ := rfl
  trans _ _ _ h h' := h'.trans h

def Aside {α : Type} (p : Cycle α) : Prop := Stays (fun _ => True) SameClocks p

section Aside

variable {α β : Type} {p : Cycle α}

theorem aside_modify {f : ReportingConsole → ReportingConsole} (h : ∀ c, (f c).clocks = c.clocks) :
    Aside (Act.modify f : Cycle Unit) := Stays.modify fun c _ => ⟨trivial, h c⟩

theorem diagnose_aside (f : ConsoleDiagnostics → ConsoleDiagnostics) : Aside (diagnose f) := aside_modify fun _ => rfl

theorem note_aside {f : ConsoleJournal → ConsoleJournal} (h : ∀ j, (f j).starts = j.starts ∧
    (f j).attempts = j.attempts ∧ (f j).msReadings = j.msReadings ∧ (f j).qpcReadings = j.qpcReadings) :
    Aside (note f) := by
  refine aside_modify fun c => ?_
  obtain ⟨hs, ha, hm, hq⟩ := h c.journal
  rw [ReportingConsole.clocks, hs, ha, hm, hq]
  rfl

theorem stopped_aside : Aside stopped :=
  Stays.bind (Stays.query _) fun _ => Stays.ite (Stays.done _) (Stays.query _)

theorem publishConsole_aside : Aside publishConsole := by
  refine Stays.bind Stays.get fun c => Stays.bind (note_aside fun _ => ⟨rfl, rfl, rfl, rfl⟩) fun _ => ?_
  exact Stays.bind (Stays.query _) fun _ => Stays.ite (Stays.done _) (Stays.query _)

theorem finish_aside : Aside (finish : Cycle α) :=
  Stays.bind (diagnose_aside _) fun _ => Stays.bind publishConsole_aside fun _ => Stays.raise _

theorem addOrFinish_aside (value : Nat) (store : Nat → ConsoleDiagnostics → ConsoleDiagnostics) :
    Aside (addOrFinish value store) := by
  rw [addOrFinish]
  cases add value with
  | none => exact Stays.bind (diagnose_aside _) fun _ => finish_aside
  | some value => exact diagnose_aside _

theorem selectOn_aside {channel : ReportingConsole → NoticeChannel}
    {store : NoticeChannel → ReportingConsole → ReportingConsole} (h : ∀ stored c, (store stored c).clocks = c.clocks) :
    Aside (selectOn channel store) := by
  have hselect : Aside (do
      note fun j => { j with selected := j.selected + 1 }
      Act.modify (store ⟨true, true, false⟩)) :=
    Stays.bind (note_aside fun _ => ⟨rfl, rfl, rfl, rfl⟩) fun _ => aside_modify (h _)
  exact Stays.bind Stays.get fun c => Stays.ite (Stays.bind (addOrFinish_aside _ _) fun _ => hselect) hselect

theorem storeChannel_clocks (chosen : Chosen) (stored : NoticeChannel) (c : ReportingConsole) :
    (storeChannel chosen stored c).clocks = c.clocks := by
  cases chosen <;> rfl

theorem readRecovery_aside : Aside readRecovery := by
  refine Stays.bind Stays.get fun c => Stays.ite (Stays.done _) (Stays.bind (Stays.query _) fun identity => ?_)
  cases identity with
  | none => exact Stays.done _
  | some identity =>
      refine Stays.bind (Stays.query _) fun wire => ?_
      cases wire with
      | none => exact Stays.done _
      | some wire => exact Stays.done _

theorem selectRecovery_aside : Aside selectRecovery := by
  refine Stays.bind readRecovery_aside fun recovery => ?_
  cases recovery with
  | none => exact Stays.done _
  | some recovery =>
      have hstore : Aside (do
          Act.modify fun c => { c with latestRecovery := recovery.2 }
          return some recovery) :=
        Stays.bind (aside_modify fun _ => rfl) fun _ => Stays.done _
      exact Stays.bind Stays.get fun c =>
        Stays.ite (Stays.bind (selectOn_aside fun _ _ => rfl) fun _ => hstore) hstore

theorem selectNormal_aside (sampled : Except SnapshotFailure StatusSnapshot) (qpc : UInt64) :
    Aside (selectNormal sampled qpc) := by
  cases sampled with
  | error failure => exact Stays.bind (diagnose_aside _) fun _ => Stays.done _
  | ok snapshot =>
      rw [selectNormal]
      dsimp only
      cases selectReportingConsoleNotice snapshot qpc with
      | none => exact Stays.bind (diagnose_aside _) fun _ => Stays.done _
      | some notice =>
          refine Stays.bind Stays.get fun c => Stays.ite (Stays.bind (selectOn_aside fun _ _ => rfl) fun _ => ?_)
            (Stays.done _)
          exact Stays.bind (aside_modify fun _ => rfl) fun _ => Stays.done _

theorem dropNotice_aside (chosen : Chosen) : Aside (dropNotice chosen) := by
  refine Stays.bind Stays.get fun c => Stays.ite (Stays.bind (note_aside fun _ => ⟨rfl, rfl, rfl, rfl⟩) fun _ => ?_) ?_
  · exact aside_modify fun _ => storeChannel_clocks _ _ _
  · exact aside_modify fun _ => storeChannel_clocks _ _ _

theorem countOutcome_aside (chosen : Chosen) (ok : Bool) : Aside (countOutcome chosen ok) := by
  refine Stays.bind Stays.get fun c => Stays.ite (Stays.bind (addOrFinish_aside _ _) fun _ => ?_) (addOrFinish_aside _ _)
  exact aside_modify fun _ => storeChannel_clocks _ _ _

theorem closeAttempt_aside (chosen : Chosen) (ok : Bool) (error : UInt64) : Aside (closeAttempt chosen ok error) := by
  refine Stays.bind (diagnose_aside _) fun _ => Stays.bind (aside_modify fun _ => rfl) fun _ => ?_
  have hstop : Aside (do
      if ← stopped then finish
      return true) :=
    Stays.bind stopped_aside fun _ => Stays.ite (Stays.bind finish_aside fun _ => Stays.done _) (Stays.done _)
  refine Stays.bind (diagnose_aside _) fun _ => Stays.bind publishConsole_aside fun _ => ?_
  exact Stays.ite (Stays.bind finish_aside fun _ => hstop) hstop

theorem Aside.exits {post : α → ReportingConsole → Prop} {failed : ReportingConsole → Prop} {c : ReportingConsole}
    (h : Aside p) (hpost : ∀ a t, t.clocks = c.clocks → post a t) (hfailed : ∀ t, t.clocks = c.clocks → failed t) :
    p.Exits post (fun _ => failed) c :=
  ((h c trivial).mono (fun a t ht => hpost a t ht.2) fun t ht => hfailed t ht.2).exits

end Aside

section Cycle

variable {c : ReportingConsole} {k : Clocks}

theorem not_below {known : Bool} {now last : UInt64} (h : ¬(known && decide (now < last)) = true) (hknown : known = true) :
    last ≤ now := by
  rw [hknown, Bool.true_and, decide_eq_true_eq] at h
  exact UInt64.not_lt.mp h

theorem gate_open {now ticks : UInt64} (h : ¬(decide (now < ticks) || tooSoon c now) = true) :
    ticks ≤ now ∧ ¬(c.clocks.haveAttempt = true ∧ now - c.clocks.lastAttemptMs < 1000) := by
  rw [Bool.or_eq_true, not_or, decide_eq_true_eq, tooSoon, Bool.and_eq_true, decide_eq_true_eq] at h
  exact ⟨UInt64.not_lt.mp h.1, h.2⟩

theorem beginCycle_exits : beginCycle.Exits
    (fun ticks t => t.clocks = c.clocks.begun ticks ∧ (c.clocks.haveClock = true → c.clocks.lastClockMs ≤ ticks))
    (fun _ t => t.clocks = c.clocks) c := by
  refine Exits.bind (stopped_exits fun stop => Exits.ite (fun _ => Exits.bind (finish_exits rfl)) fun _ => ?_)
  refine Exits.queryBind fun armed => Exits.ite (fun _ => rfl) fun _ => Exits.modifyBind (Exits.queryBind fun ticks => ?_)
  refine Exits.getBind (Exits.ite (fun _ => ?_) fun hticks => ⟨rfl, fun hclock => ?_⟩)
  · exact Exits.modifyBind (Exits.bind (finish_exits rfl))
  · exact not_below hticks hclock

theorem readQpc_clocks : readQpc.Exits
    (fun qpc t => t.clocks = c.clocks.read qpc ∧ c.clocks.lastClockQpc ≤ qpc) (fun _ t => t.clocks = c.clocks) c := by
  refine Exits.queryBind fun reading => Exits.getBind ?_
  cases reading with
  | none => exact Exits.modifyBind (publishOrFinish_exits rfl rfl)
  | some qpc =>
      refine Exits.ite (fun _ => ?_) fun _ => Exits.ite (fun _ => ?_) fun hqpc => ⟨rfl, ?_⟩
      · exact Exits.modifyBind (publishOrFinish_exits rfl rfl)
      · exact Exits.modifyBind (finish_exits rfl)
      · exact UInt64.not_lt.mp hqpc

theorem attemptTicks_clocks (ticks : UInt64) : (attemptTicks ticks).Exits
    (fun ms t => t = c ∧ ticks ≤ ms ∧ ¬(c.clocks.haveAttempt = true ∧ ms - c.clocks.lastAttemptMs < 1000))
    (fun _ t => t.clocks = c.clocks) c := by
  refine Exits.queryBind fun now => Exits.getBind (Exits.ite (fun _ => ?_) fun hgate => ?_)
  · exact Exits.modifyBind (Exits.bind (publishOrFinish_exits rfl rfl))
  · exact ⟨rfl, gate_open hgate⟩

theorem recordAttempt_clocks (chosen : Chosen) (a : ConsoleAttempt) : (recordAttempt chosen a).Exits
    (fun _ t => t.clocks = c.clocks.attempted a)
    (fun _ t => t.clocks = c.clocks ∨ t.clocks = c.clocks.attempted a) c := by
  refine recordAttempt_cases (fun _ => .inl rfl) fun _ => ?_
  have hattempted : (c.attempting chosen a).clocks = c.clocks.attempted a := storeChannel_clocks _ _ _
  exact ⟨hattempted, .inr hattempted⟩

theorem reportNotice_paced {ticks firstQpc qpc : UInt64} (hpaced : Paced k)
    (hticks : k.haveClock = true → k.lastClockMs ≤ ticks) (hfirst : k.lastClockQpc ≤ firstQpc) (hqpc : firstQpc ≤ qpc)
    (hc : c.clocks = ((k.begun ticks).read firstQpc).read qpc) (normal : Option (StatusSnapshot × ConsoleNotice))
    (recovery : Option (Snapshot.StatusHeader × RecoveryNotice)) :
    (reportNotice ticks firstQpc qpc normal recovery).Exits (fun _ t => Paced t.clocks) (fun _ t => Paced t.clocks) c := by
  have hsame : Paced c.clocks := by
    rw [hc]
    exact ((hpaced.begun hticks).read hfirst).read hqpc
  refine Exits.getBind ?_
  dsimp only
  cases chooseNotice (if c.normalChannel.pending then normal else none)
    (if c.recoveryChannel.pending then recovery else none) with
  | none => exact publishOrFinish_exits hsame hsame
  | some chosen =>
      refine Exits.ite (fun _ => Exits.bind (publishOrFinish_exits hsame hsame)) fun _ => ?_
      refine Exits.bind (format_exits chosen fun line => ?_)
      cases line with
      | none =>
          refine Exits.modifyBind (Exits.bind ((dropNotice_aside chosen).exits (fun _ t ht => ?_) fun t ht => ?_))
          · rw [← (show t.clocks = c.clocks from ht)] at hsame
            exact publishOrFinish_exits hsame hsame
          · exact (show t.clocks = c.clocks from ht) ▸ hsame
      | some line =>
          refine Exits.queryBind fun handle => Exits.bind (stopped_exits fun stop => ?_)
          refine Exits.ite (fun _ => Exits.bind (finish_exits hsame)) fun _ => ?_
          refine Exits.bind (stillCurrent_exits chosen fun current => ?_)
          refine Exits.ite (fun _ => Exits.bind (publishOrFinish_exits hsame hsame)) fun _ => ?_
          refine Exits.bind ((attemptTicks_clocks ticks).mono (fun ms t ht => ?_) fun _ t ht => ht.symm ▸ hsame)
          obtain ⟨rfl, hms, hgate⟩ := ht
          refine Exits.bind (readQpc_clocks.mono (fun attemptQpc u hu => ?_) fun _ u hu => hu.symm ▸ hsame)
          obtain ⟨hu, hlast⟩ := hu
          rw [hc] at hgate hu hlast
          have hread : Paced u.clocks := by
            rw [hu]
            exact (((hpaced.begun hticks).read hfirst).read hqpc).read hlast
          have hstart : (u.journal.starts.headD ⟨0, none, [], []⟩) = k.start ticks := by
            have hstarts : u.journal.starts = k.start ticks :: k.starts := congrArg Clocks.starts hu
            rw [hstarts, List.headD_cons]
          refine Exits.getBind (Exits.bind ((recordAttempt_clocks chosen _).mono (fun _ v hv => ?_) fun _ v hv => ?_))
          · have hattempt : Paced v.clocks := by
              rw [hv, hu]
              exact hpaced.attempted hticks hstart hms hgate hfirst hqpc hlast
            refine Exits.bind (writeLine_exits handle line fun outcome => ?_)
            refine Exits.bind ((countOutcome_aside chosen outcome.1).exits (fun _ w hw => ?_) fun w hw => hw ▸ hattempt)
            refine (closeAttempt_aside chosen outcome.1 outcome.2).exits (fun _ x hx => ?_) fun x hx => ?_
            · rwa [hx, hw]
            · rwa [hx, hw]
          · rcases hv with hv | hv
            · exact hv ▸ hread
            · rw [hv, hu]
              exact hpaced.attempted hticks hstart hms hgate hfirst hqpc hlast

theorem cycleReportingConsole_paced (h : Paced c.clocks) :
    cycleReportingConsole.Exits (fun _ t => Paced t.clocks) (fun _ t => Paced t.clocks) c := by
  refine Exits.bind (beginCycle_exits.mono (fun ticks t ht => ?_) fun _ t ht => ht ▸ h)
  obtain ⟨ht, hticks⟩ := ht
  have hbegun : Paced t.clocks := ht ▸ h.begun hticks
  refine Exits.bind (selectRecovery_aside.exits (fun recovery u hu => ?_) fun u hu => hu ▸ hbegun)
  refine Exits.bind (readQpc_clocks.mono (fun firstQpc v hv => ?_) fun _ v hv => hv.trans hu ▸ hbegun)
  obtain ⟨hv, hfirst⟩ := hv
  rw [hu, ht] at hv hfirst
  have hread : Paced v.clocks := hv ▸ (h.begun hticks).read hfirst
  refine Exits.queryBind fun sampled => Exits.bind (readQpc_clocks.mono (fun qpc w hw => ?_) fun _ w hw => hw ▸ hread)
  obtain ⟨hw, hqpc⟩ := hw
  rw [hv] at hw hqpc
  have hread : Paced w.clocks := hw ▸ ((h.begun hticks).read hfirst).read hqpc
  refine Exits.bind ((selectNormal_aside sampled qpc).exits (fun normal x hx => ?_) fun x hx => hx ▸ hread)
  exact reportNotice_paced h hticks hfirst hqpc (hx.trans hw) normal recovery

end Cycle

theorem paced_fresh (recovery : Bool) : Paced (freshConsole recovery).clocks where
  last := rfl
  unread := fun _ => rfl
  qpcReadings := fun _ hq => absurd hq List.not_mem_nil
  attemptQpc := fun _ ha => absurd ha List.not_mem_nil
  attemptMs := fun _ ha => absurd ha List.not_mem_nil
  starts := fun _ ha => absurd ha List.not_mem_nil
  qpcOrder := .nil
  spaced := fun _ => ⟨⟨.nil, fun _ ha => absurd ha List.not_mem_nil⟩, fun _ hm => absurd hm List.not_mem_nil⟩

theorem ConsoleRun.paced {recovery live : Bool} {c : ReportingConsole} (h : ConsoleRun recovery live c) :
    Paced c.clocks := by
  refine h.keeps (I := fun _ t => Paced t.clocks) (paced_fresh recovery) fun t ht => ?_
  exact cycleReportingConsole_paced ht

/-- A first reading below the last attempt's is what lets an attempt through too early:
without one the attempts are spaced, and those of a run are spaced exactly when each came
from a cycle whose first reading was not below. The counter's readings are ordered anyway. -/
theorem console_spacing {recovery live : Bool} {c : ReportingConsole} (h : ConsoleRun recovery live c) :
    ((∀ s ∈ c.journal.starts, s.Steady) → Spaced c.journal.attempts) ∧
    (Spaced c.journal.attempts ↔ ∀ a ∈ c.journal.attempts, a.start.Steady) ∧
    c.journal.attempts.IsChain fun later earlier => earlier.qpc ≤ later.qpc := by
  have hpaced := h.paced
  refine ⟨fun hstarts => ?_, ⟨fun hspaced a ha m hm => ?_, fun hsteady => ?_⟩, hpaced.qpcOrder⟩
  · exact (hpaced.spaced fun a ha => hstarts _ (hpaced.starts a ha).1).1
  · exact (hspaced.ordered a ha).earlierMs m ((hpaced.starts a ha).2 m hm)
  · exact (hpaced.spaced hsteady).1

theorem console_spacing_sample : (sampleConsole sampleAnswers false [1000, 1500] [3000, 3000]).journal.attempts.length = 2 ∧
    Spaced (sampleConsole sampleAnswers false [1000, 1500] [3000, 3000]).journal.attempts :=
  ⟨by decide +kernel, (console_spacing (sampleConsole_run sampleAnswers false [1000, 1500] [3000, 3000] (by decide))).1 (by decide +kernel)⟩

/-- The clock goes back between an attempt and the next cycle, but not below the first reading of
the cycle of that attempt: the gate lets the next attempt through at once. -/
theorem console_spacing_fails : ¬∀ recovery live c, ConsoleRun recovery live c → Spaced c.journal.attempts := by
  intro h
  have hspaced := h _ _ _ (sampleConsole_run sampleAnswers false [1000, 1500] [1200, 1300] (by decide))
  exact absurd hspaced.spacing (by decide +kernel)

end RS2ServerFix.Console
