import RS2ServerFix.Reporting.Durations

namespace RS2ServerFix.Reporting

def uint32Max : Nat := 4294967295

structure PendingDuration where
  kind : DurationClass
  ticks : Nat
  entryQpc : Int
  topLevel : Bool
  deriving DecidableEq, Repr

/-- The owner's clock and its durations. `staged` and `consumed`, the latest
first, and `occupied` are the history of the one pending record. -/
structure RuntimeTiming where
  frequency : Nat
  qpcFrequency : Nat
  lastClock : Int
  haveClock : Bool
  timingGap : Bool
  pendingDuration : Option PendingDuration
  durations : DurationClass → DurationCounters
  timingAccountedThroughQpc : Nat
  pumpDepth : Nat
  builderDepth : Nat
  timingDepth : Nat
  staged : List PendingDuration
  consumed : List PendingDuration
  occupied : Bool

namespace RuntimeTiming

def initial (frequency qpcFrequency : Nat) : RuntimeTiming where
  frequency := frequency
  qpcFrequency := qpcFrequency
  lastClock := 0
  haveClock := false
  timingGap := false
  pendingDuration := none
  durations := fun _ => .zero
  timingAccountedThroughQpc := 0
  pumpDepth := 0
  builderDepth := 0
  timingDepth := 0
  staged := []
  consumed := []
  occupied := false

def failRuntimeTiming (s : RuntimeTiming) : RuntimeTiming := { s with timingGap := true }

/-- The owner's clock and whether it could be read; `none` is a counter that failed. -/
def runtimeClock (s : RuntimeTiming) (qpc : Option Int) : RuntimeTiming × Option Int :=
  match qpc with
  | none => (s.failRuntimeTiming, none)
  | some value =>
      if value < 0 ∨ (s.haveClock ∧ value < s.lastClock) then (s.failRuntimeTiming, none)
      else ({ s with lastClock := value, haveClock := true }, some value)

def validateRuntimeEntry (s : RuntimeTiming) (entryQpc : Int) : RuntimeTiming :=
  if s.timingGap then s
  else if entryQpc < 0 ∨ (s.haveClock ∧ entryQpc < s.lastClock) then s.failRuntimeTiming
  else { s with lastClock := entryQpc, haveClock := true }

def misplaced (s : RuntimeTiming) (d : PendingDuration) : Bool :=
  d.entryQpc < 0 || !s.haveClock || s.lastClock < d.entryQpc ||
    d.topLevel && d.entryQpc.toNat < s.timingAccountedThroughQpc

def accountRuntimeDuration (s : RuntimeTiming) (d : PendingDuration) : RuntimeTiming × Bool :=
  if s.timingGap then (s, false)
  else if s.misplaced d then (s.failRuntimeTiming, false)
  else
    match accountDuration (s.durations d.kind) d.ticks s.frequency with
    | none => (s.failRuntimeTiming, false)
    | some next =>
        ({ s with
          durations := Function.update s.durations d.kind next
          timingAccountedThroughQpc := if d.topLevel then d.entryQpc.toNat else s.timingAccountedThroughQpc }, true)

def consumeRuntimeDuration (s : RuntimeTiming) : RuntimeTiming × Bool :=
  if s.timingGap then (s, false)
  else
    match s.pendingDuration with
    | none => (s, true)
    | some d =>
        if s.frequency = 0 ∨ s.frequency ≠ s.qpcFrequency then (s.failRuntimeTiming, false)
        else
          match s.accountRuntimeDuration d with
          | (s, false) => (s, false)
          | (s, true) => ({ s with pendingDuration := none, consumed := d :: s.consumed }, true)

def stageRuntimeDuration (s : RuntimeTiming) (d : PendingDuration) : RuntimeTiming × Bool :=
  if s.timingGap then (s, false)
  else if s.pendingDuration.isSome then ({ s.failRuntimeTiming with occupied := true }, false)
  else if s.misplaced d then (s.failRuntimeTiming, false)
  else if s.frequency = 0 ∨ durationFrequencyMax < s.frequency ∨ s.frequency ≠ s.qpcFrequency ∨
      (s.durations d.kind).calls = uint64Max ∨ uint64Max - (s.durations d.kind).elapsedTicks < d.ticks then
    (s.failRuntimeTiming, false)
  else ({ s with pendingDuration := some d, staged := d :: s.staged }, true)

end RuntimeTiming

inductive RuntimeFunction
  | pump | builder
  deriving DecidableEq, Repr

/-- The owner's call of a function; a clock that failed is -1. -/
structure CallFrame where
  function : RuntimeFunction
  start : Int
  nativeStart : Int
  nativeEnd : Int
  depthOwned : Bool
  topLevel : Bool
  managed : Bool
  deriving DecidableEq, Repr

def CallFrame.kind (frame : CallFrame) : DurationClass :=
  match frame.function with
  | .pump => if frame.managed then .pumpManagement else .pumpForward
  | .builder => if frame.managed then .builderProbe else .builderForward

def clockValue : Option Int → Int
  | none => -1
  | some value => if 0 ≤ value then value else -1

namespace RuntimeTiming

def depth (s : RuntimeTiming) : RuntimeFunction → Nat
  | .pump => s.pumpDepth
  | .builder => s.builderDepth

def setDepth (s : RuntimeTiming) (function : RuntimeFunction) (depth : Nat) : RuntimeTiming :=
  match function with
  | .pump => { s with pumpDepth := depth }
  | .builder => { s with builderDepth := depth }

def beginCall (s : RuntimeTiming) (frame : CallFrame) : RuntimeTiming × CallFrame :=
  if s.depth frame.function = uint32Max ∨ s.timingDepth = uint32Max then (s.failRuntimeTiming, frame)
  else
    let frame := { frame with depthOwned := true, topLevel := decide (s.timingDepth = 0) }
    let s := { s.setDepth frame.function (s.depth frame.function + 1) with timingDepth := s.timingDepth + 1 }
    (s.validateRuntimeEntry frame.start, frame)

def leaveDepth (s : RuntimeTiming) (frame : CallFrame) : RuntimeTiming :=
  if !frame.depthOwned then s
  else if s.depth frame.function = 0 ∨ s.timingDepth = 0 then s.failRuntimeTiming
  else { s.setDepth frame.function (s.depth frame.function - 1) with timingDepth := s.timingDepth - 1 }

def nativeTicks (s : RuntimeTiming) (frame : CallFrame) : RuntimeTiming × Nat :=
  if frame.nativeStart < frame.start ∨ frame.nativeEnd < frame.nativeStart ∨ frame.start < 0 then (s.failRuntimeTiming, 0)
  else (s, (frame.nativeEnd - frame.nativeStart).toNat)

def endDuration (s : RuntimeTiming) (frame : CallFrame) (now stop : Option Int) : RuntimeTiming × Option PendingDuration :=
  match (s.leaveDepth frame).runtimeClock now with
  | (s, none) => (s, none)
  | (s, some _) =>
      -- The publication of the status consumes what is pending.
      match s.consumeRuntimeDuration.1.runtimeClock stop with
      | (s, none) => (s, none)
      | (s, some stop) =>
          let (s, native) := s.nativeTicks frame
          if frame.start < 0 ∨ stop < frame.start ∨ (stop - frame.start).toNat < native then (s.failRuntimeTiming, none)
          else (s, some ⟨frame.kind, (stop - frame.start).toNat - native, frame.start, frame.topLevel⟩)

def endCall (s : RuntimeTiming) (frame : CallFrame) (now stop : Option Int) : RuntimeTiming :=
  match s.endDuration frame now stop with
  | (s, none) => s
  | (s, some d) => (s.stageRuntimeDuration d).1

end RuntimeTiming

structure OwnerThread where
  timing : RuntimeTiming
  frames : List CallFrame

/-- What happens on the owner's thread between two of its entries and exits, and
the calls of other threads, which only revoke. -/
inductive TimingEvent
  | enter (function : RuntimeFunction) (qpc : Option Int)
  | clock (qpc : Option Int)
  | lifecycle (qpc : Option Int)
  | nativeStart (qpc : Option Int)
  | nativeEnd (qpc : Option Int)
  | manage
  | fault
  | publish
  | foreign
  | exit (now stop : Option Int)
  deriving DecidableEq, Repr

namespace OwnerThread

def setFrame (t : OwnerThread) (f : CallFrame → CallFrame) : OwnerThread :=
  match t.frames with
  | [] => t
  | frame :: frames => { t with frames := f frame :: frames }

def frameClock (t : OwnerThread) (qpc : Option Int) (f : CallFrame → Int → CallFrame) : OwnerThread :=
  let t := t.setFrame fun frame => f frame (clockValue qpc)
  if clockValue qpc < 0 then { t with timing := t.timing.failRuntimeTiming } else t

def step (t : OwnerThread) : TimingEvent → OwnerThread
  | .enter function qpc =>
      let (s, frame) := t.timing.beginCall ⟨function, clockValue qpc, 0, 0, false, false, false⟩
      ⟨s.consumeRuntimeDuration.1, frame :: t.frames⟩
  | .clock qpc => { t with timing := (t.timing.runtimeClock qpc).1 }
  | .lifecycle qpc =>
      if clockValue qpc < 0 then { t with timing := t.timing.failRuntimeTiming }
      else { t with timing := t.timing.validateRuntimeEntry (clockValue qpc) }
  | .nativeStart qpc => t.frameClock qpc fun frame v => { frame with nativeStart := v }
  | .nativeEnd qpc => t.frameClock qpc fun frame v => { frame with nativeEnd := v }
  | .manage => t.setFrame fun frame => { frame with managed := true }
  | .fault => { t with timing := t.timing.failRuntimeTiming }
  | .publish => { t with timing := t.timing.consumeRuntimeDuration.1 }
  | .foreign => t
  | .exit now stop =>
      match t.frames with
      | [] => t
      | frame :: frames =>
          let s := if frame.function = .builder then (t.timing.nativeTicks frame).1 else t.timing
          ⟨s.endCall frame now stop, frames⟩

def run (t : OwnerThread) (es : List TimingEvent) : OwnerThread := es.foldl step t

end OwnerThread

namespace RuntimeTiming

variable {s s' : RuntimeTiming} {d : PendingDuration} {f : Nat}

structure Ready (s : RuntimeTiming) (d : PendingDuration) : Prop where
  clock : s.haveClock = true
  entry : 0 ≤ d.entryQpc ∧ d.entryQpc ≤ s.lastClock
  through : d.topLevel = true → s.timingAccountedThroughQpc ≤ d.entryQpc.toNat
  frequency : 0 < s.frequency ∧ s.frequency ≤ durationFrequencyMax ∧ s.frequency = s.qpcFrequency
  calls : (s.durations d.kind).calls < uint64Max
  elapsed : (s.durations d.kind).elapsedTicks + d.ticks ≤ uint64Max

theorem Ready.not_misplaced (h : s.Ready d) : s.misplaced d = false := by
  have hentry := h.entry
  have hthrough := h.through
  rw [misplaced, h.clock]
  cases htop : d.topLevel with
  | true =>
      have hle := hthrough htop
      simp
      omega
  | false =>
      simp
      omega

/-- What was staged is what was consumed and what is pending, the counters tell
of what was consumed, and no stage found the record occupied. -/
structure Kept (s : RuntimeTiming) (f : Nat) : Prop where
  frequency : s.frequency = f
  history : s.staged = s.pendingDuration.toList ++ s.consumed
  tallied : ∀ kind, Tallied f ((s.consumed.filter fun d => d.kind = kind).map (·.ticks)) (s.durations kind)
  words : ∀ kind, (s.durations kind).calls ≤ uint64Max ∧ (s.durations kind).elapsedTicks ≤ uint64Max
  ready : ∀ d, s.pendingDuration = some d → s.Ready d
  occupied : s.occupied = false

structure Steady (s s' : RuntimeTiming) : Prop where
  frequency : s'.frequency = s.frequency ∧ s'.qpcFrequency = s.qpcFrequency
  clock : s.haveClock = true → s'.haveClock = true ∧ s.lastClock ≤ s'.lastClock
  pending : s'.pendingDuration = s.pendingDuration
  durations : s'.durations = s.durations
  through : s'.timingAccountedThroughQpc = s.timingAccountedThroughQpc
  history : s'.staged = s.staged ∧ s'.consumed = s.consumed ∧ s'.occupied = s.occupied
  gap : s.timingGap = true → s'.timingGap = true

namespace Steady

theorem refl (s : RuntimeTiming) : Steady s s := ⟨⟨rfl, rfl⟩, fun h => ⟨h, le_rfl⟩, rfl, rfl, rfl, ⟨rfl, rfl, rfl⟩, id⟩

theorem trans {u : RuntimeTiming} (h : Steady s s') (h' : Steady s' u) : Steady s u where
  frequency := ⟨h'.frequency.1.trans h.frequency.1, h'.frequency.2.trans h.frequency.2⟩
  clock := fun hc => ⟨(h'.clock (h.clock hc).1).1, (h.clock hc).2.trans (h'.clock (h.clock hc).1).2⟩
  pending := h'.pending.trans h.pending
  durations := h'.durations.trans h.durations
  through := h'.through.trans h.through
  history := ⟨h'.history.1.trans h.history.1, h'.history.2.1.trans h.history.2.1, h'.history.2.2.trans h.history.2.2⟩
  gap := h'.gap ∘ h.gap

theorem fail (s : RuntimeTiming) : Steady s s.failRuntimeTiming :=
  ⟨⟨rfl, rfl⟩, fun h => ⟨h, le_rfl⟩, rfl, rfl, rfl, ⟨rfl, rfl, rfl⟩, fun _ => rfl⟩

theorem runtimeClock (s : RuntimeTiming) (qpc : Option Int) : Steady s (s.runtimeClock qpc).1 := by
  unfold RuntimeTiming.runtimeClock
  split
  · exact fail s
  · split
    · exact fail s
    · rename_i value hgood
      refine ⟨⟨rfl, rfl⟩, fun h => ⟨rfl, ?_⟩, rfl, rfl, rfl, ⟨rfl, rfl, rfl⟩, id⟩
      dsimp only
      by_contra hlt
      exact hgood (.inr ⟨h, by omega⟩)

theorem validate (s : RuntimeTiming) (entryQpc : Int) : Steady s (s.validateRuntimeEntry entryQpc) := by
  unfold validateRuntimeEntry
  split
  · exact refl s
  · split
    · exact fail s
    · rename_i hgood
      refine ⟨⟨rfl, rfl⟩, fun h => ⟨rfl, ?_⟩, rfl, rfl, rfl, ⟨rfl, rfl, rfl⟩, id⟩
      dsimp only
      by_contra hlt
      exact hgood (.inr ⟨h, by omega⟩)

theorem nativeTicks (s : RuntimeTiming) (frame : CallFrame) : Steady s (s.nativeTicks frame).1 := by
  unfold RuntimeTiming.nativeTicks
  split
  · exact fail s
  · exact refl s

theorem depths (s : RuntimeTiming) (function : RuntimeFunction) (m n : Nat) :
    Steady s { s.setDepth function m with timingDepth := n } := by
  cases function with
  | pump | builder => exact ⟨⟨rfl, rfl⟩, fun h => ⟨h, le_rfl⟩, rfl, rfl, rfl, ⟨rfl, rfl, rfl⟩, id⟩

theorem beginCall (s : RuntimeTiming) (frame : CallFrame) : Steady s (s.beginCall frame).1 := by
  unfold RuntimeTiming.beginCall
  split
  · exact fail s
  · exact (depths s _ _ _).trans (validate _ _)

theorem leaveDepth (s : RuntimeTiming) (frame : CallFrame) : Steady s (s.leaveDepth frame) := by
  unfold RuntimeTiming.leaveDepth
  split
  · exact refl s
  · split
    · exact fail s
    · exact depths s _ _ _

theorem ready (h : Steady s s') (hd : s.Ready d) : s'.Ready d where
  clock := (h.clock hd.clock).1
  entry := ⟨hd.entry.1, hd.entry.2.trans (h.clock hd.clock).2⟩
  through := by
    rw [h.through]
    exact hd.through
  frequency := by
    rw [h.frequency.1, h.frequency.2]
    exact hd.frequency
  calls := by
    rw [h.durations]
    exact hd.calls
  elapsed := by
    rw [h.durations]
    exact hd.elapsed

theorem kept (h : Steady s s') (hs : s.Kept f) : s'.Kept f where
  frequency := h.frequency.1.trans hs.frequency
  history := by
    rw [h.history.1, h.history.2.1, h.pending]
    exact hs.history
  tallied := by
    rw [h.history.2.1, h.durations]
    exact hs.tallied
  words := by
    rw [h.durations]
    exact hs.words
  ready := by
    intro d hd
    rw [h.pending] at hd
    exact h.ready (hs.ready d hd)
  occupied := h.history.2.2.trans hs.occupied

end Steady

theorem Kept.initial (frequency qpcFrequency : Nat) : (initial frequency qpcFrequency).Kept frequency where
  frequency := rfl
  history := rfl
  tallied := fun _ => .zero frequency
  words := fun _ => ⟨Nat.zero_le _, Nat.zero_le _⟩
  ready := by
    intro d hd
    cases hd
  occupied := rfl

/-- The accounting of a duration that is ready. -/
theorem Kept.consume (hs : s.Kept f) (hgap : s.timingGap = false) (hd : s.pendingDuration = some d) :
    ∃ s', s.consumeRuntimeDuration = (s', true) ∧ s'.Kept f ∧ s'.pendingDuration = none ∧ s'.timingGap = false ∧
      s'.consumed = d :: s.consumed ∧ s.timingAccountedThroughQpc ≤ s'.timingAccountedThroughQpc := by
  have hready := hs.ready d hd
  obtain ⟨hpositive, hmax, hsame⟩ := hready.frequency
  obtain ⟨next, hnext, htallied⟩ := accountDuration_tallied (hs.frequency ▸ hs.tallied d.kind) ⟨hpositive, hmax⟩ hready.calls
    hready.elapsed
  have haccount : s.accountRuntimeDuration d = ({ s with
      durations := Function.update s.durations d.kind next
      timingAccountedThroughQpc := if d.topLevel then d.entryQpc.toNat else s.timingAccountedThroughQpc }, true) := by
    rw [accountRuntimeDuration, if_neg (by rw [hgap]; exact Bool.false_ne_true),
      if_neg (by rw [hready.not_misplaced]; exact Bool.false_ne_true), hnext]
  refine ⟨{ s with
    durations := Function.update s.durations d.kind next
    timingAccountedThroughQpc := if d.topLevel then d.entryQpc.toNat else s.timingAccountedThroughQpc
    pendingDuration := none
    consumed := d :: s.consumed }, ?_, ⟨hs.frequency, ?_, ?_, ?_, ?_, hs.occupied⟩, rfl, hgap, rfl, ?_⟩
  · rw [consumeRuntimeDuration, if_neg (by rw [hgap]; exact Bool.false_ne_true), hd]
    dsimp only
    rw [if_neg (by omega), haccount]
  · have hhistory := hs.history
    rw [hd] at hhistory
    exact hhistory
  · intro kind
    dsimp only
    by_cases hkind : d.kind = kind
    · subst hkind
      rw [Function.update_self, List.filter_cons, if_pos (decide_eq_true rfl)]
      exact hs.frequency ▸ htallied
    · rw [Function.update_of_ne (Ne.symm hkind), List.filter_cons, if_neg (by simpa using hkind)]
      exact hs.tallied kind
  · intro kind
    dsimp only
    by_cases hkind : d.kind = kind
    · subst hkind
      have hbefore := hs.tallied d.kind
      have hcalls := hready.calls
      have helapsed := hready.elapsed
      rw [Function.update_self, htallied.calls, htallied.elapsedTicks, List.length_cons, List.sum_cons, ← hbefore.calls,
        ← hbefore.elapsedTicks]
      omega
    · rw [Function.update_of_ne (Ne.symm hkind)]
      exact hs.words kind
  · intro d' hd'
    cases hd'
  · dsimp only
    split
    · rename_i htop
      exact hready.through htop
    · exact le_rfl

theorem Kept.consumed (hs : s.Kept f) :
    s.consumeRuntimeDuration.1.Kept f ∧
      (s.consumeRuntimeDuration.1.timingGap = false → s.consumeRuntimeDuration.1.pendingDuration = none) ∧
      s.timingAccountedThroughQpc ≤ s.consumeRuntimeDuration.1.timingAccountedThroughQpc := by
  cases hgap : s.timingGap with
  | true =>
      have hsame : s.consumeRuntimeDuration = (s, false) := by rw [consumeRuntimeDuration, if_pos hgap]
      rw [hsame]
      refine ⟨hs, fun h => ?_, le_rfl⟩
      rw [hgap] at h
      cases h
  | false =>
      cases hd : s.pendingDuration with
      | none =>
          have hsame : s.consumeRuntimeDuration = (s, true) := by
            rw [consumeRuntimeDuration, if_neg (by rw [hgap]; exact Bool.false_ne_true), hd]
          rw [hsame]
          exact ⟨hs, fun _ => hd, le_rfl⟩
      | some d =>
          obtain ⟨s', hsame, hkept, hnone, -, -, hle⟩ := hs.consume hgap hd
          rw [hsame]
          exact ⟨hkept, fun _ => hnone, hle⟩

/-- A stage with nothing pending. -/
theorem Kept.stage (hs : s.Kept f) (hnone : s.timingGap = false → s.pendingDuration = none) (d : PendingDuration) :
    (s.stageRuntimeDuration d).1.Kept f ∧
      (s.stageRuntimeDuration d).1.timingAccountedThroughQpc = s.timingAccountedThroughQpc := by
  unfold stageRuntimeDuration
  split
  · exact ⟨hs, rfl⟩
  · rename_i hgap
    have hpending := hnone (Bool.eq_false_iff.mpr hgap)
    rw [if_neg (by rw [hpending]; exact Bool.false_ne_true)]
    split
    · exact ⟨(Steady.fail s).kept hs, rfl⟩
    · rename_i hplaced
      split
      · exact ⟨(Steady.fail s).kept hs, rfl⟩
      · rename_i hroom
        refine ⟨⟨hs.frequency, ?_, hs.tallied, hs.words, ?_, hs.occupied⟩, rfl⟩
        · have hhistory := hs.history
          rw [hpending] at hhistory
          dsimp only
          rw [hhistory]
          rfl
        · intro d' hd'
          obtain rfl := Option.some.inj hd'
          simp only [misplaced, Bool.or_eq_true, Bool.and_eq_true, Bool.not_eq_true', decide_eq_true_eq, not_or, not_and,
            Bool.not_eq_false] at hplaced
          obtain ⟨⟨⟨hentry, hclock⟩, hlast⟩, hthrough⟩ := hplaced
          refine ⟨hclock, ⟨?_, ?_⟩, ?_, ?_, ?_, ?_⟩
          · omega
          · dsimp only
            omega
          · intro htop
            have hle := hthrough htop
            dsimp only
            omega
          · dsimp only
            omega
          · have hwords := hs.words d.kind
            dsimp only
            omega
          · have hwords := hs.words d.kind
            dsimp only
            omega

structure Stages (s : RuntimeTiming) (d : PendingDuration) (r : RuntimeTiming × Bool) : Prop where
  succeeded : r.2 = true → s.pendingDuration = none ∧ r.1.pendingDuration = some d ∧ r.1.staged = d :: s.staged ∧
    r.1.timingGap = false
  failed : r.2 = false → r.1.pendingDuration = s.pendingDuration ∧ r.1.staged = s.staged ∧ r.1.timingGap = true
  consumed : r.1.consumed = s.consumed
  occupied : r.1.occupied = (s.occupied || !s.timingGap && s.pendingDuration.isSome)

theorem stageRuntimeDuration_stages (s : RuntimeTiming) (d : PendingDuration) : s.Stages d (s.stageRuntimeDuration d) := by
  have hfails : ∀ r : RuntimeTiming × Bool, r.2 = false → r.1.pendingDuration = s.pendingDuration →
      r.1.staged = s.staged → r.1.timingGap = true → r.1.consumed = s.consumed →
      r.1.occupied = (s.occupied || !s.timingGap && s.pendingDuration.isSome) → s.Stages d r := by
    intro r hfalse hpending hstaged hgap hconsumed hoccupied
    refine ⟨fun htrue => ?_, fun _ => ⟨hpending, hstaged, hgap⟩, hconsumed, hoccupied⟩
    cases hfalse.symm.trans htrue
  unfold stageRuntimeDuration
  by_cases hgap : s.timingGap = true
  · rw [if_pos hgap]
    exact hfails _ rfl rfl rfl hgap rfl (by rw [hgap, Bool.not_true, Bool.false_and, Bool.or_false])
  · have hopen := Bool.eq_false_of_not_eq_true hgap
    rw [if_neg hgap]
    cases hpending : s.pendingDuration with
    | some e =>
        rw [if_pos (by exact Option.isSome_some)]
        exact hfails _ rfl rfl rfl rfl rfl (by rw [hopen, hpending]; exact (Bool.or_true _).symm)
    | none =>
        have hempty : s.occupied = (s.occupied || !s.timingGap && s.pendingDuration.isSome) := by
          rw [hpending, Option.isSome_none, Bool.and_false, Bool.or_false]
        rw [if_neg (by exact Bool.false_ne_true)]
        split
        · exact hfails _ rfl rfl rfl rfl rfl hempty
        · split
          · exact hfails _ rfl rfl rfl rfl rfl hempty
          · refine ⟨fun _ => ⟨hpending, rfl, rfl, hopen⟩, fun hfalse => ?_, rfl, hempty⟩
            cases hfalse

theorem endDuration_steady (s : RuntimeTiming) (frame : CallFrame) (now stop : Option Int) :
    Steady s (s.endDuration frame now stop).1 ∧ (s.endDuration frame now stop).2 = none ∨
      ∃ t, Steady s t ∧ Steady t.consumeRuntimeDuration.1 (s.endDuration frame now stop).1 := by
  have hleave := (Steady.leaveDepth s frame).trans (.runtimeClock _ now)
  unfold endDuration
  generalize (s.leaveDepth frame).runtimeClock now = r at hleave ⊢
  obtain ⟨t, read⟩ := r
  cases read with
  | none => exact .inl ⟨hleave, rfl⟩
  | some value =>
      refine .inr ⟨t, hleave, ?_⟩
      have hclock := Steady.runtimeClock t.consumeRuntimeDuration.1 stop
      dsimp only
      generalize t.consumeRuntimeDuration.1.runtimeClock stop = r at hclock ⊢
      obtain ⟨u, read⟩ := r
      cases read with
      | none => exact hclock
      | some stop =>
          have hnative := Steady.nativeTicks u frame
          dsimp only
          generalize u.nativeTicks frame = r at hnative ⊢
          obtain ⟨v, native⟩ := r
          dsimp only
          split
          · exact (hclock.trans hnative).trans (.fail v)
          · exact hclock.trans hnative

/-- The end of a call stages into an empty record. -/
theorem Kept.endCall (hs : s.Kept f) (frame : CallFrame) (now stop : Option Int) :
    (s.endCall frame now stop).Kept f ∧ s.timingAccountedThroughQpc ≤ (s.endCall frame now stop).timingAccountedThroughQpc := by
  have hend := endDuration_steady s frame now stop
  unfold RuntimeTiming.endCall
  generalize s.endDuration frame now stop = r at hend ⊢
  obtain ⟨u, found⟩ := r
  rcases hend with ⟨hsteady, rfl⟩ | ⟨t, hbefore, hafter⟩
  · exact ⟨hsteady.kept hs, hsteady.through.ge⟩
  · obtain ⟨hconsumed, hnone, hle⟩ := (hbefore.kept hs).consumed
    have hu : u.Kept f := hafter.kept hconsumed
    have hthrough : s.timingAccountedThroughQpc ≤ u.timingAccountedThroughQpc :=
      hbefore.through.ge.trans (hle.trans hafter.through.ge)
    cases found with
    | none => exact ⟨hu, hthrough⟩
    | some d =>
        have hempty : u.timingGap = false → u.pendingDuration = none := by
          intro hgap
          rw [hafter.pending]
          refine hnone (Bool.eq_false_iff.mpr fun h => ?_)
          rw [hafter.gap h] at hgap
          cases hgap
        obtain ⟨hkept, hsame⟩ := hu.stage hempty d
        exact ⟨hkept, hthrough.trans hsame.ge⟩

/-- The duration is pending and nothing was consumed since, or it is what was consumed next. -/
def Follows (d : PendingDuration) (before : List PendingDuration) (s : RuntimeTiming) : Prop :=
  s.pendingDuration = some d ∧ s.consumed = before ∨ ∃ later, s.consumed = later ++ d :: before

section Follows

variable {before : List PendingDuration}

theorem Follows.of_consumed (h : Follows d before s) (hpending : s'.pendingDuration = s.pendingDuration)
    (hconsumed : s'.consumed = s.consumed) : Follows d before s' := by
  rw [Follows, hpending, hconsumed]
  exact h

theorem Follows.steady (h : Follows d before s) (hs : Steady s s') : Follows d before s' :=
  h.of_consumed hs.pending hs.history.2.1

/-- A consumption takes what is pending, or leaves all as it is. -/
theorem consumeRuntimeDuration_cases (s : RuntimeTiming) :
    s.consumeRuntimeDuration.1.pendingDuration = s.pendingDuration ∧
        s.consumeRuntimeDuration.1.consumed = s.consumed ∨
      ∃ d, s.pendingDuration = some d ∧ s.consumeRuntimeDuration.1.consumed = d :: s.consumed := by
  unfold consumeRuntimeDuration
  split
  · exact .inl ⟨rfl, rfl⟩
  · split
    · exact .inl ⟨rfl, rfl⟩
    · rename_i d hd
      split
      · exact .inl ⟨rfl, rfl⟩
      · unfold accountRuntimeDuration
        by_cases hgap : s.timingGap = true
        · rw [if_pos hgap]
          exact .inl ⟨rfl, rfl⟩
        · rw [if_neg hgap]
          by_cases hplaced : s.misplaced d = true
          · rw [if_pos hplaced]
            exact .inl ⟨rfl, rfl⟩
          · rw [if_neg hplaced]
            cases accountDuration (s.durations d.kind) d.ticks s.frequency with
            | none => exact .inl ⟨rfl, rfl⟩
            | some next => exact .inr ⟨d, hd, rfl⟩

theorem Follows.consume (h : Follows d before s) : Follows d before s.consumeRuntimeDuration.1 := by
  rcases consumeRuntimeDuration_cases s with ⟨hpending, hconsumed⟩ | ⟨e, he, hconsumed⟩
  · exact h.of_consumed hpending hconsumed
  · right
    rw [hconsumed]
    rcases h with ⟨hd, hbefore⟩ | ⟨later, hlater⟩
    · obtain rfl := Option.some.inj (he.symm.trans hd)
      exact ⟨[], by rw [hbefore, List.nil_append]⟩
    · exact ⟨e :: later, by rw [hlater, List.cons_append]⟩

theorem Follows.stage (h : Follows d before s) (e : PendingDuration) : Follows d before (s.stageRuntimeDuration e).1 := by
  have hstages := stageRuntimeDuration_stages s e
  rcases h with ⟨hd, hbefore⟩ | ⟨later, hlater⟩
  · left
    rw [hstages.consumed]
    refine ⟨?_, hbefore⟩
    cases hresult : (s.stageRuntimeDuration e).2 with
    | false => rw [(hstages.failed hresult).1, hd]
    | true =>
        rw [(hstages.succeeded hresult).1] at hd
        cases hd
  · right
    rw [hstages.consumed]
    exact ⟨later, hlater⟩

theorem Follows.endCall (h : Follows d before s) (frame : CallFrame) (now stop : Option Int) :
    Follows d before (s.endCall frame now stop) := by
  have hend := endDuration_steady s frame now stop
  unfold RuntimeTiming.endCall
  generalize s.endDuration frame now stop = r at hend ⊢
  obtain ⟨u, found⟩ := r
  have hu : Follows d before u := by
    rcases hend with ⟨hsteady, -⟩ | ⟨t, hbefore, hafter⟩
    · exact h.steady hsteady
    · exact (h.steady hbefore).consume.steady hafter
  cases found with
  | none => exact hu
  | some e => exact hu.stage e

end Follows

end RuntimeTiming

namespace OwnerThread

variable {t : OwnerThread} {f : Nat}

theorem setFrame_timing (t : OwnerThread) (f : CallFrame → CallFrame) : (t.setFrame f).timing = t.timing := by
  unfold setFrame
  split
  · rfl
  · rfl

theorem frameClock_steady (t : OwnerThread) (qpc : Option Int) (f : CallFrame → Int → CallFrame) :
    RuntimeTiming.Steady t.timing (t.frameClock qpc f).timing := by
  unfold frameClock
  dsimp only
  split
  · rw [setFrame_timing]
    exact .fail _
  · rw [setFrame_timing]
    exact .refl _

theorem step_kept (h : t.timing.Kept f) (e : TimingEvent) : (t.step e).timing.Kept f ∧
    t.timing.timingAccountedThroughQpc ≤ (t.step e).timing.timingAccountedThroughQpc := by
  have hsteady : ∀ {s' : RuntimeTiming}, t.timing.Steady s' →
      s'.Kept f ∧ t.timing.timingAccountedThroughQpc ≤ s'.timingAccountedThroughQpc :=
    fun hs => ⟨hs.kept h, hs.through.ge⟩
  cases e with
  | enter function qpc =>
      have hbegin := RuntimeTiming.Steady.beginCall t.timing ⟨function, clockValue qpc, 0, 0, false, false, false⟩
      obtain ⟨hkept, -, hle⟩ := (hbegin.kept h).consumed
      exact ⟨hkept, hbegin.through.ge.trans hle⟩
  | clock qpc => exact hsteady (.runtimeClock _ qpc)
  | lifecycle qpc =>
      unfold step
      dsimp only
      split
      · exact hsteady (.fail _)
      · exact hsteady (.validate _ _)
  | nativeStart qpc | nativeEnd qpc => exact hsteady (frameClock_steady t qpc _)
  | manage => exact hsteady (by rw [step, setFrame_timing]; exact .refl _)
  | fault => exact hsteady (.fail _)
  | publish =>
      obtain ⟨hkept, -, hle⟩ := h.consumed
      exact ⟨hkept, hle⟩
  | foreign => exact ⟨h, le_rfl⟩
  | exit now stop =>
      unfold step
      dsimp only
      split
      · exact ⟨h, le_rfl⟩
      · rename_i frame frames _
        have hnative : t.timing.Steady (if frame.function = .builder then (t.timing.nativeTicks frame).1 else t.timing) := by
          split
          · exact .nativeTicks _ _
          · exact .refl _
        obtain ⟨hkept, hle⟩ := (hnative.kept h).endCall frame now stop
        exact ⟨hkept, hnative.through.ge.trans hle⟩

theorem run_kept (h : t.timing.Kept f) (es : List TimingEvent) : (t.run es).timing.Kept f ∧
    t.timing.timingAccountedThroughQpc ≤ (t.run es).timing.timingAccountedThroughQpc := by
  induction es generalizing t with
  | nil => exact ⟨h, le_rfl⟩
  | cons e es ih =>
      obtain ⟨hkept, hle⟩ := step_kept h e
      obtain ⟨hkept', hle'⟩ := ih hkept
      exact ⟨hkept', hle.trans hle'⟩

theorem step_follows {d : PendingDuration} {before : List PendingDuration} (h : RuntimeTiming.Follows d before t.timing)
    (e : TimingEvent) : RuntimeTiming.Follows d before (t.step e).timing := by
  cases e with
  | enter function qpc => exact (h.steady (.beginCall t.timing ⟨function, clockValue qpc, 0, 0, false, false, false⟩)).consume
  | clock qpc => exact h.steady (.runtimeClock _ qpc)
  | lifecycle qpc =>
      unfold step
      dsimp only
      split
      · exact h.steady (.fail _)
      · exact h.steady (.validate _ _)
  | nativeStart qpc | nativeEnd qpc => exact h.steady (frameClock_steady t qpc _)
  | manage => exact h.steady (by rw [step, setFrame_timing]; exact .refl _)
  | fault => exact h.steady (.fail _)
  | publish => exact h.consume
  | foreign => exact h
  | exit now stop =>
      unfold step
      dsimp only
      split
      · exact h
      · rename_i frame frames _
        split
        · exact (h.steady (.nativeTicks _ _)).endCall frame now stop
        · exact h.endCall frame now stop

theorem run_follows {d : PendingDuration} {before : List PendingDuration} (h : RuntimeTiming.Follows d before t.timing)
    (es : List TimingEvent) : RuntimeTiming.Follows d before (t.run es).timing := by
  induction es generalizing t with
  | nil => exact h
  | cons e es ih => exact ih (step_follows h e)

/-- The comparisons with the limits are exact, and over every run of the owner's
calls the counters are those of what was consumed, which is what was staged,
each interval once and in order. A stage that succeeds makes its interval the
pending one, which stays so until it is consumed. -/
theorem duration_accounting (frequency qpcFrequency : Nat) (es : List TimingEvent) :
    let s := (run ⟨.initial frequency qpcFrequency, []⟩ es).timing
    (∀ ticks frequency micros : UInt64, frequency.toNat ≤ durationFrequencyMax → micros.toNat ≤ 50000 →
      atMostMicrosecondsWords ticks frequency micros =
        .ok (decide (ticks.toNat * 1000000 ≤ micros.toNat * frequency.toNat))) ∧
    (∀ elapsed, (durationBucket elapsed frequency).val =
      durationLimits.findIdx fun micros => decide (elapsed * 1000000 ≤ micros * frequency)) ∧
    (∀ kind, (s.durations kind).Sound ∧
      Tallied frequency ((s.consumed.filter fun d => d.kind = kind).map (·.ticks)) (s.durations kind)) ∧
    (∀ (u : RuntimeTiming) d, u.Stages d (u.stageRuntimeDuration d)) ∧
    s.staged = s.pendingDuration.toList ++ s.consumed ∧
    (∀ d more, s.pendingDuration = some d → RuntimeTiming.Follows d s.consumed
      (run ⟨.initial frequency qpcFrequency, []⟩ (es ++ more)).timing) ∧
    (∀ d, s.pendingDuration = some d → s.timingGap = false →
      s.consumeRuntimeDuration.2 = true ∧ s.consumeRuntimeDuration.1.consumed = d :: s.consumed ∧
        s.consumeRuntimeDuration.1.pendingDuration = none) ∧
    (∀ more, s.timingAccountedThroughQpc ≤
      (run ⟨.initial frequency qpcFrequency, []⟩ (es ++ more)).timing.timingAccountedThroughQpc) ∧
    s.occupied = false := by
  intro s
  obtain ⟨hkept, -⟩ := run_kept (t := ⟨.initial frequency qpcFrequency, []⟩) (.initial frequency qpcFrequency) es
  refine ⟨fun _ _ _ => atMostMicrosecondsWords_exact, fun elapsed => ?_, fun kind => ⟨(hkept.tallied kind).sound,
    hkept.tallied kind⟩, RuntimeTiming.stageRuntimeDuration_stages, hkept.history, fun d more hd => ?_,
    fun d hd hgap => ?_, fun more => ?_, hkept.occupied⟩
  · refine congrArg (durationLimits.findIdx ·) (funext fun micros => ?_)
    exact atMostMicroseconds_exact elapsed frequency micros
  · have hfollows : RuntimeTiming.Follows d s.consumed s := .inl ⟨hd, rfl⟩
    rw [run, List.foldl_append]
    exact run_follows hfollows more
  · obtain ⟨s', hconsume, -, hnone, -, hconsumed, -⟩ := hkept.consume hgap hd
    rw [hconsume]
    exact ⟨rfl, hconsumed, hnone⟩
  · rw [run, List.foldl_append]
    exact (run_kept hkept more).2

/-- A builder inside a pump: each stages its own time, and the next entry consumes the pump's. -/
def nestedCalls : List TimingEvent :=
  [.enter .pump (some 10), .nativeStart (some 15), .enter .builder (some 20), .nativeStart (some 30), .nativeEnd (some 40),
    .exit (some 50) (some 60), .nativeEnd (some 65), .exit (some 70) (some 80), .enter .pump (some 90)]

theorem duration_accounting_sample :
    ((run ⟨.initial 1000 1000, []⟩ (nestedCalls.take 8)).timing.pendingDuration = some ⟨.pumpForward, 20, 10, true⟩ ∧
      (run ⟨.initial 1000 1000, []⟩ (nestedCalls.take 8)).timing.consumed = [⟨.builderForward, 30, 20, false⟩]) ∧
    (run ⟨.initial 1000 1000, []⟩ nestedCalls).timing.consumed =
      [⟨.pumpForward, 20, 10, true⟩, ⟨.builderForward, 30, 20, false⟩] ∧
    RuntimeTiming.Follows ⟨.pumpForward, 20, 10, true⟩ [⟨.builderForward, 30, 20, false⟩]
      (run ⟨.initial 1000 1000, []⟩ nestedCalls).timing ∧
    ((run ⟨.initial 1000 1000, []⟩ nestedCalls).timing.durations .builderForward).Sound := by
  have hpending : (run ⟨.initial 1000 1000, []⟩ (nestedCalls.take 8)).timing.pendingDuration =
        some ⟨.pumpForward, 20, 10, true⟩ ∧
      (run ⟨.initial 1000 1000, []⟩ (nestedCalls.take 8)).timing.consumed = [⟨.builderForward, 30, 20, false⟩] := by
    decide +kernel
  obtain ⟨-, -, -, -, -, hfollows, -⟩ := duration_accounting 1000 1000 (nestedCalls.take 8)
  obtain ⟨-, -, hcounters, -⟩ := duration_accounting 1000 1000 nestedCalls
  have hnext := hfollows _ (nestedCalls.drop 8) hpending.1
  rw [hpending.2, List.take_append_drop] at hnext
  exact ⟨hpending, by decide +kernel, hnext, (hcounters .builderForward).1⟩

end OwnerThread

end RS2ServerFix.Reporting
