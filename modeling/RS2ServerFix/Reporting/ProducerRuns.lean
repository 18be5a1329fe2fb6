import Mathlib.Data.List.Pairwise
import RS2ServerFix.Reporting.Producer

namespace RS2ServerFix.Reporting

structure ProducerStep where
  call : ProducerCall
  before : ProducerState
  after : ProducerState
  reason : Reason
  tuple : FreshTuple
  deriving DecidableEq, Repr

/-- The calls made so far on a producer initialised in repair mode, oldest
first, with the states around them and what they returned. -/
inductive ProducerRun (frequency : Int) : List ProducerStep → ProducerState → Prop
  | init : ProducerRun frequency [] (initializeProducer .repair frequency).1
  | step {log s s' c r t} (h : ProducerRun frequency log s) (typed : c.Typed) (hrun : c.run s = some (s', r, t)) :
      ProducerRun frequency (log ++ [⟨c, s, s', r, t⟩]) s'

namespace ProducerStep

variable (x : ProducerStep)

def Stages (request source binding : Nat) (q : Int) : Prop :=
  (∃ bots maximum readBack valid, x.call = .recordStaged q bots maximum readBack valid) ∧
    x.after.requestSequence = x.before.requestSequence + 1 ∧ request = x.after.requestSequence ∧
    source = x.before.sourceEpoch ∧ binding = x.before.bindingEpoch

/-- The step is about the request: its claim was pending before, or the step
staged it. -/
def Concerns (request : Nat) : Prop :=
  x.before.pending.active = true ∧ x.before.pending.sequence = request ∨ ∃ source binding q, x.Stages request source binding q

/-- A sample of the request, its read-back or a later one, that saw the native
request still set. -/
def Sees (request : Nat) (q : Int) : Prop :=
  (∃ sample, x.call = .observe sample ∧ x.before.pending.active = true ∧ x.before.pending.sequence = request ∧
      sample.requested = true ∧ q = sample.qpc) ∨
    ∃ source binding staged bots maximum readBack valid, x.Stages request source binding staged ∧
      x.call = .recordStaged staged bots maximum readBack valid ∧ readBack.requested = true ∧ q = readBack.qpc

def Witnesses (t : FreshTuple) : Prop :=
  x.after.witnessSequence = x.before.witnessSequence + 1 ∧ t = x.after.fresh

/-- The claim of the request ended without a witness. -/
def Drops (request : Nat) : Prop :=
  x.Concerns request ∧ ¬ (x.after.pending.active = true ∧ x.after.pending.sequence = request) ∧
    x.after.witnessSequence = x.before.witnessSequence

/-- The calls that say they give the pending claim up: an invalidation, and a
sample that neither keeps nor witnesses it. -/
def GivesUp : Prop :=
  x.call = .invalidate ∨
    ∃ sample, x.call = .observe sample ∧ x.reason ≠ .none ∧ x.reason ≠ .pending

def Returns (now : Int) (outer : NativeCounts) (bots : Nat) (t : FreshTuple) : Prop :=
  x.call = .readFresh now outer bots ∧ x.reason = .none ∧ t = x.tuple

end ProducerStep

/-- The history of a tuple in a log that ends with `later`: its request was
staged in the tuple's epochs, `lowerBoundQpc` is the last sample that saw that
request set, and the witness, which took its counts, came after both. -/
def Witnessed (log : List ProducerStep) (t : FreshTuple) (later : List ProducerStep) : Prop :=
  ∃ earlier seen between witness, log = earlier ++ seen :: (between ++ witness :: later) ∧
    (∃ y ∈ earlier ++ [seen], ∃ q, y.Stages t.request t.sourceEpoch t.bindingEpoch q ∧ q ≤ t.lowerBoundQpc) ∧
    seen.Sees t.request t.lowerBoundQpc ∧ witness.Witnesses t ∧
    (∃ sample, witness.call = .observe sample ∧ sample.requested = false ∧ t.counts = sample.outer) ∧
    ∀ y ∈ between ++ witness :: later, ∀ q, ¬ y.Sees t.request q

def Sampled (log : List ProducerStep) (p : PendingRequest) : Prop :=
  ∃ earlier seen between, log = earlier ++ seen :: between ∧
    (∃ y ∈ earlier ++ [seen], ∃ q, y.Stages p.sequence p.sourceEpoch p.bindingEpoch q ∧ q ≤ p.previousSetQpc) ∧
    seen.Sees p.sequence p.previousSetQpc ∧ ∀ y ∈ between, ∀ q, ¬ y.Sees p.sequence q

/-- The request of the tuple was staged in the tuple's epochs, and it had not
expired at the sample that witnessed it. -/
def Timely (frequency : Int) (log : List ProducerStep) (x : ProducerStep) (t : FreshTuple) : Prop :=
  ∃ sample, x.call = .observe sample ∧ ∃ y ∈ log, ∃ q, y.Stages t.request t.sourceEpoch t.bindingEpoch q ∧
    q ≤ sample.qpc ∧ sample.qpc - q < frequency * kFreshnessSeconds

structure ProducerHistory (frequency : Int) (log : List ProducerStep) (s : ProducerState) : Prop where
  bounded : s.Bounded
  rate : s.fault = .none → s.frequency = frequency
  staged : ∀ x ∈ log, ∀ r a b q, x.Stages r a b q → r ≤ s.requestSequence ∧ s.haveRequest = true ∧ q ≤ s.lastRequestQpc
  given : ∀ x ∈ log, x.before.pending.active = true → x.GivesUp → x.Drops x.before.pending.sequence
  apart : log.Pairwise fun x y => ∀ r a b q r' a' b' q', x.Stages r a b q → y.Stages r' a' b' q' →
    frequency * kRequestFloorSeconds ≤ q' - q
  numbered : log.Pairwise fun x y => ∀ r a b q r' a' b' q', x.Stages r a b q → y.Stages r' a' b' q' → r < r'
  timely : ∀ x ∈ log, ∀ t, x.Witnesses t → Timely frequency log x t
  witnesses : ∀ x ∈ log, ∀ t, x.Witnesses t → t.witness ≤ s.witnessSequence ∧ t.request ≤ s.requestSequence ∧
    (s.pending.active = true → t.request < s.pending.sequence)
  increasing : log.Pairwise fun x y => ∀ t u, x.Witnesses t → y.Witnesses u →
    t.witness < u.witness ∧ t.request < u.request
  dropped : ∀ x ∈ log, ∀ r, x.Drops r → r ≤ s.requestSequence ∧ (s.pending.active = true → r ≠ s.pending.sequence)
  dead : log.Pairwise fun x y => ∀ r t, x.Drops r → y.Witnesses t → t.request ≠ r
  pendingStaged : s.pending.active = true → ∃ x ∈ log, ∃ q,
    x.Stages s.pending.sequence s.pending.sourceEpoch s.pending.bindingEpoch q ∧ q = s.pending.stagedQpc
  pendingSampled : s.pending.active = true → s.pending.previousSet = true → Sampled log s.pending
  fresh : s.fresh.valid = true → ∃ later, Witnessed log s.fresh later
  returned : ∀ x ∈ log, ∀ now outer bots t, x.Returns now outer bots t →
    (∃ later, Witnessed log t later ∧ x ∈ later) ∧
      ReturnsFresh x.before now outer bots t ∧ x.before.frequency = frequency

namespace ProducerEffect

variable {s s' : ProducerState} {c : ProducerCall} {r : Reason} {t : FreshTuple}

/-- The counters and the request floor only go up. -/
theorem monotone (h : ProducerEffect s c s') (hs : s.Bounded) :
    s.requestSequence ≤ s'.requestSequence ∧
      (s.haveRequest = true → s'.haveRequest = true ∧ s.lastRequestQpc ≤ s'.lastRequestQpc) ∧
      (s'.fault = .none → s.fault = .none ∧ s'.frequency = s.frequency) := by
  cases h with
  | shrinks h =>
      exact ⟨h.requestSequence.ge, fun hr => ⟨h.request.1.trans hr, h.request.2.ge⟩, fun hf => ⟨h.fault hf, h.frequency⟩⟩
  | staged q bots maximum readBack valid u call before hfault clear at_ clock epochs floor after =>
      have key : ∀ v, (stagedState u q bots maximum).Shrinks v → s.requestSequence ≤ v.requestSequence ∧
          (s.haveRequest = true → v.haveRequest = true ∧ s.lastRequestQpc ≤ v.lastRequestQpc) ∧
          (v.fault = .none → s.fault = .none ∧ v.frequency = s.frequency) := by
        intro v hv
        refine ⟨?_, fun hr => ⟨hv.request.1, ?_⟩, fun _ => ⟨at_.fault, hv.frequency.trans before.frequency⟩⟩
        · rw [hv.requestSequence, ← before.requestSequence]
          exact Nat.le_succ _
        · rw [hv.request.2]
          have hq := hs.request hr
          exact hq.2.2.trans (at_.later hq.1)
      rcases after with h | ⟨_, v, hv, _, _, _, rfl⟩
      · exact key _ h
      · exact key v hv
  | sampled sample call active requested at_ result =>
      subst result
      exact ⟨le_rfl, fun hr => ⟨hr, le_rfl⟩, fun hf => ⟨hf, rfl⟩⟩
  | witnessed sample call active set clear at_ epochs unexpired result =>
      subst result
      exact ⟨le_rfl, fun hr => ⟨hr, le_rfl⟩, fun hf => ⟨hf, rfl⟩⟩

theorem witness_monotone (h : ProducerEffect s c s') : s.witnessSequence ≤ s'.witnessSequence := by
  cases h with
  | shrinks h => exact h.witnessSequence.ge
  | staged q bots maximum readBack valid u call before hfault clear at_ clock epochs floor after =>
      rcases after with h | ⟨_, v, hv, _, _, _, rfl⟩
      · exact (h.witnessSequence.trans before.witnessSequence).ge
      · exact (hv.witnessSequence.trans before.witnessSequence).ge
  | sampled sample call active requested at_ result => subst result; exact le_rfl
  | witnessed sample call active set clear at_ epochs unexpired result => subst result; exact Nat.le_succ _

/-- A pending request is the one pending before or has a number never used. -/
theorem pending_sequence (h : ProducerEffect s c s') (ha : s'.pending.active = true) :
    s.pending.active = true ∧ s'.pending.sequence = s.pending.sequence ∨
      s'.pending.sequence = s.requestSequence + 1 := by
  cases h with
  | shrinks h =>
      rcases h.pending with hp | hp
      · exact .inl ⟨hp ▸ ha, by rw [hp]⟩
      · exact absurd ha (by simp [hp])
  | staged q bots maximum readBack valid u call before hfault clear at_ clock epochs floor after =>
      rcases after with h | ⟨_, v, hv, hp, _, _, rfl⟩
      · rcases h.pending with hp | hp
        · exact .inr (by rw [hp, ← before.requestSequence]; rfl)
        · exact absurd ha (by simp [hp])
      · exact .inr (by rw [← before.requestSequence]; simp [sampleSet, hp, stagedState])
  | sampled sample call active requested at_ result => subst result; exact .inl ⟨active, rfl⟩
  | witnessed sample call active set clear at_ epochs unexpired result =>
      subst result
      exact absurd ha (by simp [PendingRequest.empty])

theorem stages (h : ProducerEffect s c s') {request source binding : Nat} {q : Int}
    (hx : ProducerStep.Stages ⟨c, s, s', r, t⟩ request source binding q) :
    request = s.requestSequence + 1 ∧ s.fault = .none ∧ s'.haveRequest = true ∧ q = s'.lastRequestQpc ∧
      (s.haveRequest = true → s.frequency * kRequestFloorSeconds ≤ q - s.lastRequestQpc) := by
  obtain ⟨⟨bots', maximum', readBack', valid', hcall⟩, hseq, hreq, _, _⟩ := hx
  dsimp only at hcall hseq hreq
  cases h with
  | shrinks h => exact absurd h.requestSequence (by omega)
  | staged q bots maximum readBack valid u call before hfault clear at_ clock epochs floor after =>
      rw [call] at hcall
      injection hcall with hq
      subst hq
      rcases after with h | ⟨_, v, hv, _, _, _, rfl⟩
      · exact ⟨hreq.trans hseq, at_.fault, h.request.1, h.request.2.symm, floor⟩
      · exact ⟨hreq.trans hseq, at_.fault, hv.request.1, hv.request.2.symm, floor⟩
  | sampled sample call active requested at_ result => rw [call] at hcall; cases hcall
  | witnessed sample call active set clear at_ epochs unexpired result => rw [call] at hcall; cases hcall

theorem witnesses (h : ProducerEffect s c s') {u : FreshTuple} (hx : ProducerStep.Witnesses ⟨c, s, s', r, t⟩ u) :
    s.pending.active = true ∧ u.request = s.pending.sequence ∧ u.witness = s.witnessSequence + 1 ∧
      s'.pending.active = false := by
  obtain ⟨hseq, hu⟩ := hx
  dsimp only at hseq hu
  cases h with
  | shrinks h => exact absurd h.witnessSequence (by omega)
  | staged q bots maximum readBack valid v call before hfault clear at_ clock epochs floor after =>
      have hv := before.witnessSequence
      rcases after with h | ⟨_, w, hw, _, _, _, rfl⟩
      · have := h.witnessSequence
        dsimp only [stagedState] at this
        omega
      · have := hw.witnessSequence
        dsimp only [stagedState, sampleSet] at this hseq
        omega
  | sampled sample call active requested at_ result =>
      subst result
      dsimp only [sampleSet, ProducerState.ticked] at hseq
      omega
  | witnessed sample call active set clear at_ epochs unexpired result =>
      subst result
      exact ⟨active, by rw [hu], by rw [hu], rfl⟩

/-- The sample that witnesses a request finds its claim unexpired. -/
theorem timely (h : ProducerEffect s c s') (hs : s.Bounded) {u : FreshTuple}
    (hx : ProducerStep.Witnesses ⟨c, s, s', r, t⟩ u) : ∃ sample, c = .observe sample ∧ s.fault = .none ∧
      s.pending.active = true ∧ u.request = s.pending.sequence ∧ u.sourceEpoch = s.pending.sourceEpoch ∧
      u.bindingEpoch = s.pending.bindingEpoch ∧ s.pending.stagedQpc ≤ sample.qpc ∧
      sample.qpc - s.pending.stagedQpc < s.frequency * kFreshnessSeconds := by
  obtain ⟨ha, -, -, hclear⟩ := h.witnesses hx
  obtain ⟨hseq, hu⟩ := hx
  dsimp only at hseq hu
  cases h with
  | shrinks h => exact absurd h.witnessSequence (by omega)
  | staged q bots maximum readBack valid v call before hfault clear at_ clock epochs floor after =>
      have hv := before.witnessSequence
      rcases after with h | ⟨_, w, hw, _, _, _, rfl⟩
      · have := h.witnessSequence
        dsimp only [stagedState] at this
        omega
      · have := hw.witnessSequence
        dsimp only [stagedState, sampleSet] at this hseq
        omega
  | sampled sample call active requested at_ result =>
      subst result
      exact absurd (active.symm.trans hclear) (by simp)
  | witnessed sample call active set clear at_ epochs unexpired result =>
      subst result
      obtain ⟨hr, _, hq⟩ := hs.pending active
      obtain ⟨hc, _, hl⟩ := hs.request hr
      refine ⟨sample, call, at_.fault, active, by rw [hu], by rw [hu]; exact epochs.1.symm,
        by rw [hu]; exact epochs.2.symm, ?_, unexpired⟩
      exact (hq.le.trans hl).trans (at_.later hc)

theorem sees (h : ProducerEffect s c s') {request : Nat} {q : Int}
    (hx : ProducerStep.Sees ⟨c, s, s', r, t⟩ request q) :
    s.pending.active = true ∧ request = s.pending.sequence ∨ request = s.requestSequence + 1 := by
  rcases hx with ⟨_, _, ha, hr, _, _⟩ | ⟨_, _, _, _, _, _, _, hst, _⟩
  · exact .inl ⟨ha, hr.symm⟩
  · exact .inr (h.stages hst).1

/-- Where the claim pending after a call comes from. -/
theorem pending_cases (h : ProducerEffect s c s') (ha : s'.pending.active = true) :
    s'.pending = s.pending ∧ (∀ request q, ¬ ProducerStep.Sees ⟨c, s, s', r, t⟩ request q) ∨
      ProducerStep.Stages ⟨c, s, s', r, t⟩ s'.pending.sequence s'.pending.sourceEpoch s'.pending.bindingEpoch
          s'.pending.stagedQpc ∧
        (s'.pending.previousSet = true →
          ProducerStep.Sees ⟨c, s, s', r, t⟩ s'.pending.sequence s'.pending.previousSetQpc) ∨
      s.pending.active = true ∧ s'.pending.sequence = s.pending.sequence ∧
        s'.pending.sourceEpoch = s.pending.sourceEpoch ∧ s'.pending.bindingEpoch = s.pending.bindingEpoch ∧
        s'.pending.stagedQpc = s.pending.stagedQpc ∧
        ProducerStep.Sees ⟨c, s, s', r, t⟩ s'.pending.sequence s'.pending.previousSetQpc := by
  cases h with
  | shrinks h observed =>
      refine .inl ⟨?_, ?_⟩
      · rcases h.pending with hp | hp
        · exact hp
        · exact absurd ha (by simp [hp])
      · rintro request q (⟨sample, hcall, hactive, _⟩ | ⟨_, _, _, _, _, _, _, ⟨_, hseq, _⟩, _⟩)
        · exact absurd ha (by simp [observed sample hcall hactive])
        · exact absurd h.requestSequence (by dsimp only at hseq; omega)
  | staged q bots maximum readBack valid u call before hfault clear at_ clock epochs floor after =>
      have hseq := before.requestSequence
      rcases after with h | ⟨hreq, v, hv, hp, _, _, rfl⟩
      · rcases h.pending with hp | hp
        · refine .inr (.inl ⟨⟨⟨bots, maximum, readBack, valid, ?_⟩, ?_, ?_, ?_, ?_⟩, ?_⟩)
          · rw [hp]; exact call
          · rw [← hseq]; exact h.requestSequence
          · rw [hp]; exact h.requestSequence.symm
          · rw [hp]; exact epochs.1
          · rw [hp]; exact epochs.2
          · intro hset
            rw [hp] at hset
            exact absurd hset (by simp [stagedState])
        · exact absurd ha (by simp [hp])
      · have hst : ProducerStep.Stages ⟨c, s, sampleSet v readBack, r, t⟩ v.pending.sequence v.pending.sourceEpoch
            v.pending.bindingEpoch v.pending.stagedQpc := by
          rw [hp]
          refine ⟨⟨bots, maximum, readBack, valid, call⟩, ?_, ?_, epochs.1, epochs.2⟩
          · rw [← hseq]; exact hv.requestSequence
          · exact hv.requestSequence.symm
        have hq : v.pending.stagedQpc = q := by rw [hp]; rfl
        exact .inr (.inl ⟨hst, fun _ => .inr ⟨_, _, _, _, _, _, _, hst, by rw [hq]; exact call, hreq, rfl⟩⟩)
  | sampled sample call active requested at_ result =>
      subst result
      exact .inr (.inr ⟨active, rfl, rfl, rfl, rfl, .inl ⟨sample, call, active, rfl, requested, rfl⟩⟩)
  | witnessed sample call active set clear at_ epochs unexpired result =>
      subst result
      exact absurd ha (by simp [PendingRequest.empty])

theorem fresh_cases (h : ProducerEffect s c s') (hv : s'.fresh.valid = true) :
    s'.fresh = s.fresh ∨
      ProducerStep.Witnesses ⟨c, s, s', r, t⟩ s'.fresh ∧ s.pending.active = true ∧ s.pending.previousSet = true ∧
        s'.fresh.request = s.pending.sequence ∧ s'.fresh.sourceEpoch = s.pending.sourceEpoch ∧
        s'.fresh.bindingEpoch = s.pending.bindingEpoch ∧ s'.fresh.lowerBoundQpc = s.pending.previousSetQpc ∧
        (∃ sample, c = .observe sample ∧ sample.requested = false ∧ s'.fresh.counts = sample.outer) ∧
        ∀ request q, ¬ ProducerStep.Sees ⟨c, s, s', r, t⟩ request q := by
  cases h with
  | shrinks h =>
      rcases h.fresh with he | he
      · exact .inl he
      · exact absurd hv (by simp [he])
  | staged q bots maximum readBack valid u call before hfault clear at_ clock epochs floor after =>
      have key : ∀ v, (stagedState u q bots maximum).Shrinks v → v.fresh.valid = true → v.fresh = s.fresh := by
        intro v hsv hvalid
        rcases hsv.fresh with he | he
        · rcases before.fresh with hu | hu
          · exact he.trans hu
          · exact absurd hvalid (by rw [he]; simp [stagedState, hu])
        · exact absurd hvalid (by simp [he])
      rcases after with h | ⟨_, v, hsv, _, _, _, rfl⟩
      · exact .inl (key s' h hv)
      · exact .inl (key v hsv hv)
  | sampled sample call active requested at_ result =>
      subst result
      exact .inl rfl
  | witnessed sample call active set clear at_ epochs unexpired result =>
      subst result
      refine .inr ⟨⟨rfl, rfl⟩, active, set, rfl, epochs.1.symm, epochs.2.symm, rfl, ⟨sample, call, clear, rfl⟩, ?_⟩
      rintro request q (⟨sample', hcall, _, _, hreq, _⟩ | ⟨_, _, _, _, _, _, _, ⟨⟨_, _, _, _, hcall⟩, _⟩, _⟩)
      · rw [call] at hcall
        injection hcall with hs
        exact absurd hreq (by simp [← hs, clear])
      · rw [call] at hcall
        cases hcall

end ProducerEffect

theorem Timely.append {frequency : Int} {log : List ProducerStep} {x : ProducerStep} {u : FreshTuple}
    (h : Timely frequency log x u) (y : ProducerStep) : Timely frequency (log ++ [y]) x u := by
  obtain ⟨sample, hcall, z, hz, hrest⟩ := h
  exact ⟨sample, hcall, z, List.mem_append_left _ hz, hrest⟩

theorem Witnessed.append {log later : List ProducerStep} {t : FreshTuple} {x : ProducerStep}
    (h : Witnessed log t later) (hx : ∀ q, ¬ x.Sees t.request q) : Witnessed (log ++ [x]) t (later ++ [x]) := by
  obtain ⟨earlier, seen, between, witness, rfl, hst, hsee, hwit, hcounts, hlast⟩ := h
  refine ⟨earlier, seen, between, witness, by simp, hst, hsee, hwit, hcounts, ?_⟩
  intro y hy
  rw [← List.cons_append, ← List.append_assoc] at hy
  rcases List.mem_append.mp hy with hy | hy
  · exact hlast y hy
  · rw [List.mem_singleton.mp hy]
    exact hx

theorem Sampled.append {log : List ProducerStep} {p : PendingRequest} {x : ProducerStep}
    (h : Sampled log p) (hx : ∀ q, ¬ x.Sees p.sequence q) : Sampled (log ++ [x]) p := by
  obtain ⟨earlier, seen, between, rfl, hst, hsee, hlast⟩ := h
  refine ⟨earlier, seen, between ++ [x], by simp, hst, hsee, ?_⟩
  intro y hy
  rcases List.mem_append.mp hy with hy | hy
  · exact hlast y hy
  · rw [List.mem_singleton.mp hy]
    exact hx

/-- The witness completes the history of the request it consumed. -/
theorem Sampled.witnessed {log : List ProducerStep} {p : PendingRequest} {t : FreshTuple} {x : ProducerStep}
    (h : Sampled log p) (hr : t.request = p.sequence)
    (he : t.sourceEpoch = p.sourceEpoch ∧ t.bindingEpoch = p.bindingEpoch) (hq : t.lowerBoundQpc = p.previousSetQpc)
    (hw : x.Witnesses t)
    (hc : ∃ sample, x.call = .observe sample ∧ sample.requested = false ∧ t.counts = sample.outer)
    (hx : ∀ q, ¬ x.Sees p.sequence q) : Witnessed (log ++ [x]) t [] := by
  obtain ⟨earlier, seen, between, rfl, hst, hsee, hlast⟩ := h
  refine ⟨earlier, seen, between, x, by simp, ?_, ?_, hw, hc, ?_⟩
  · rw [hr, he.1, he.2, hq]; exact hst
  · rw [hr, hq]; exact hsee
  · rw [hr]
    intro y hy
    rcases List.mem_append.mp hy with hy | hy
    · exact hlast y hy
    · rw [List.mem_singleton.mp hy]
      exact hx

namespace ProducerHistory

variable {frequency : Int} {log : List ProducerStep} {s s' : ProducerState} {c : ProducerCall}
  {r : Reason} {t : FreshTuple}

/-- No call samples a request that was already witnessed. -/
theorem unseen (h : ProducerHistory frequency log s) (he : ProducerEffect s c s') {u : FreshTuple}
    {later : List ProducerStep} (hu : Witnessed log u later) (q : Int) :
    ¬ ProducerStep.Sees ⟨c, s, s', r, t⟩ u.request q := by
  intro hsee
  obtain ⟨earlier, seen, between, witness, rfl, _, _, hwit, _⟩ := hu
  obtain ⟨_, hle, hlt⟩ := h.witnesses witness (by simp) u hwit
  rcases he.sees hsee with ⟨ha, hr⟩ | hr
  · exact absurd (hlt ha) (by omega)
  · omega

/-- A number that is no longer pending is below that of any later claim. -/
theorem lt_pending (h : ProducerEffect s c s') {n : Nat} (hn : n ≤ s.requestSequence)
    (hp : s.pending.active = true → n < s.pending.sequence) (ha : s'.pending.active = true) :
    n < s'.pending.sequence := by
  rcases h.pending_sequence ha with ⟨ha, hs⟩ | hs
  · rw [hs]; exact hp ha
  · omega

theorem staged_step (h : ProducerHistory frequency log s) (he : ProducerEffect s c s') {request source binding : Nat}
    {q : Int} (hx : ProducerStep.Stages ⟨c, s, s', r, t⟩ request source binding q) :
    request ≤ s'.requestSequence ∧ s'.haveRequest = true ∧ q ≤ s'.lastRequestQpc ∧
      ∀ y ∈ log, ∀ r a b q', y.Stages r a b q' → frequency * kRequestFloorSeconds ≤ q - q' := by
  obtain ⟨_, hfault, hreq, hq, hfloor⟩ := he.stages hx
  refine ⟨hx.2.2.1.le, hreq, hq.le, ?_⟩
  intro y hy r a b q' hst
  obtain ⟨_, hreq', hle⟩ := h.staged y hy r a b q' hst
  have hf := hfloor hreq'
  rw [h.rate hfault] at hf
  exact hf.trans (by omega)

theorem witnesses_step (h : ProducerHistory frequency log s) (he : ProducerEffect s c s') {u : FreshTuple}
    (hx : ProducerStep.Witnesses ⟨c, s, s', r, t⟩ u) :
    (u.witness ≤ s'.witnessSequence ∧ u.request ≤ s'.requestSequence ∧
        (s'.pending.active = true → u.request < s'.pending.sequence)) ∧
      (∀ y ∈ log, ∀ v, y.Witnesses v → v.witness < u.witness ∧ v.request < u.request) ∧
      ∀ y ∈ log, ∀ n, y.Drops n → u.request ≠ n := by
  obtain ⟨ha, hreq, hwit, hclear⟩ := he.witnesses hx
  have hseq := (h.bounded.pending ha).2.1
  refine ⟨⟨?_, ?_, ?_⟩, ?_, ?_⟩
  · have hw : s'.witnessSequence = s.witnessSequence + 1 := hx.1
    omega
  · have hle := (he.monotone h.bounded).1
    omega
  · intro ha'
    exact absurd ha' (by simp [hclear])
  · intro y hy v hv
    obtain ⟨hle, _, hlt⟩ := h.witnesses y hy v hv
    have hlt := hlt ha
    omega
  · intro y hy n hn
    rw [hreq]
    exact ((h.dropped y hy n hn).2 ha).symm

theorem dropped_step (h : ProducerHistory frequency log s) (he : ProducerEffect s c s') {n : Nat}
    (hx : ProducerStep.Drops ⟨c, s, s', r, t⟩ n) :
    n ≤ s'.requestSequence ∧ (s'.pending.active = true → n ≠ s'.pending.sequence) := by
  obtain ⟨hcon, hend, _⟩ := hx
  refine ⟨?_, fun ha hn => hend ⟨ha, hn.symm⟩⟩
  rcases hcon with ⟨ha, hn⟩ | ⟨source, binding, q, hst⟩
  · have hseq := (h.bounded.pending ha).2.1
    have hle := (he.monotone h.bounded).1
    dsimp only at hn
    omega
  · exact hst.2.2.1.le

theorem timely_step (h : ProducerHistory frequency log s) (he : ProducerEffect s c s') {u : FreshTuple}
    (hx : ProducerStep.Witnesses ⟨c, s, s', r, t⟩ u) : Timely frequency (log ++ [⟨c, s, s', r, t⟩]) ⟨c, s, s', r, t⟩ u := by
  obtain ⟨sample, hcall, hfault, ha, hreq, hsrc, hbind, hle, hyoung⟩ := he.timely h.bounded hx
  obtain ⟨y, hy, q, hst, rfl⟩ := h.pendingStaged ha
  rw [h.rate hfault] at hyoung
  refine ⟨sample, hcall, y, List.mem_append_left _ hy, _, ?_, hle, hyoung⟩
  rw [hreq, hsrc, hbind]
  exact hst

theorem pending_step (h : ProducerHistory frequency log s) (he : ProducerEffect s c s')
    (ha : s'.pending.active = true) : ∃ x ∈ log ++ [⟨c, s, s', r, t⟩], ∃ q,
      x.Stages s'.pending.sequence s'.pending.sourceEpoch s'.pending.bindingEpoch q ∧ q = s'.pending.stagedQpc := by
  rcases he.pending_cases (r := r) (t := t) ha with ⟨hp, _⟩ | ⟨hst, _⟩ | ⟨hactive, hseq, hsrc, hbind, hq, _⟩
  · rw [hp] at ha ⊢
    obtain ⟨x, hx, q, hst, hq⟩ := h.pendingStaged ha
    exact ⟨x, List.mem_append_left _ hx, q, hst, hq⟩
  · exact ⟨_, List.mem_append_right _ (List.mem_singleton_self _), _, hst, rfl⟩
  · rw [hseq, hsrc, hbind, hq]
    obtain ⟨x, hx, q, hst, hq⟩ := h.pendingStaged hactive
    exact ⟨x, List.mem_append_left _ hx, q, hst, hq⟩

theorem sampled_step (h : ProducerHistory frequency log s) (he : ProducerEffect s c s')
    (ha : s'.pending.active = true) (hset : s'.pending.previousSet = true) :
    Sampled (log ++ [⟨c, s, s', r, t⟩]) s'.pending := by
  have hle := ((he.bounded h.bounded).previous ha hset).1
  obtain ⟨x, hx, q, hst, hq⟩ := h.pending_step he (r := r) (t := t) ha
  have hfresh : ∀ request q, ProducerStep.Sees ⟨c, s, s', r, t⟩ request q → request = s'.pending.sequence →
      q = s'.pending.previousSetQpc → Sampled (log ++ [⟨c, s, s', r, t⟩]) s'.pending := by
    rintro _ _ hsee rfl rfl
    exact ⟨log, _, [], rfl, ⟨x, hx, q, hst, hq.le.trans hle⟩, hsee, by simp⟩
  rcases he.pending_cases (r := r) (t := t) ha with ⟨hp, hnot⟩ | ⟨_, hsee⟩ | ⟨_, _, _, _, _, hsee⟩
  · rw [hp] at ha hset ⊢
    exact (h.pendingSampled ha hset).append (hnot _)
  · exact hfresh _ _ (hsee hset) rfl rfl
  · exact hfresh _ _ hsee rfl rfl

theorem fresh_step (h : ProducerHistory frequency log s) (he : ProducerEffect s c s')
    (hv : s'.fresh.valid = true) : ∃ later, Witnessed (log ++ [⟨c, s, s', r, t⟩]) s'.fresh later := by
  rcases he.fresh_cases (r := r) (t := t) hv with hf | ⟨hwit, ha, hset, hreq, hsrc, hbind, hq, hcounts, hnot⟩
  · rw [hf] at hv ⊢
    obtain ⟨later, hw⟩ := h.fresh hv
    exact ⟨_, hw.append (h.unseen he hw)⟩
  · exact ⟨[], (h.pendingSampled ha hset).witnessed hreq ⟨hsrc, hbind⟩ hq hwit hcounts (hnot _)⟩

/-- One call keeps the history. -/
theorem step (h : ProducerHistory frequency log s) (he : ProducerEffect s c s')
    (hret : ∀ now outer bots, c = .readFresh now outer bots → r = .none → ReturnsFresh s now outer bots t)
    (hobs : ∀ sample, c = .observe sample → r ≠ .none → r ≠ .pending → s.pending.active = true →
      s'.pending.active = false ∧ s'.witnessSequence = s.witnessSequence)
    (hinv : c = .invalidate → s' = invalidateProducer s) :
    ProducerHistory frequency (log ++ [⟨c, s, s', r, t⟩]) s' := by
  obtain ⟨hseq, hreq, hrate⟩ := he.monotone h.bounded
  have hwit := he.witness_monotone
  refine ⟨he.bounded h.bounded, fun hf => (hrate hf).2.trans (h.rate (hrate hf).1), ?_, ?_, ?_, ?_, ?_, ?_, ?_, ?_, ?_,
    h.pending_step he, h.sampled_step he, h.fresh_step he, ?_⟩
  · refine List.forall_mem_append.mpr ⟨?_, List.forall_mem_singleton.mpr ?_⟩
    · intro x hx n a b q hst
      obtain ⟨hn, hr, hq⟩ := h.staged x hx n a b q hst
      exact ⟨hn.trans hseq, (hreq hr).1, hq.trans (hreq hr).2⟩
    · intro n a b q hst
      exact ⟨(h.staged_step he hst).1, (h.staged_step he hst).2.1, (h.staged_step he hst).2.2.1⟩
  · refine List.forall_mem_append.mpr ⟨h.given, List.forall_mem_singleton.mpr ?_⟩
    rintro ha (hcall | ⟨sample, hcall, hn, hp⟩)
    · obtain rfl := hinv hcall
      exact ⟨.inl ⟨ha, rfl⟩, fun h => absurd h.1 (by simp [invalidateProducer, PendingRequest.empty]), rfl⟩
    · obtain ⟨hclear, hw⟩ := hobs sample hcall hn hp ha
      exact ⟨.inl ⟨ha, rfl⟩, fun h => absurd h.1 (by simp [hclear]), hw⟩
  · refine List.pairwise_append.mpr ⟨h.apart, List.pairwise_singleton _ _, ?_⟩
    intro x hx y hy n a b q n' a' b' q' hst hst'
    rw [List.mem_singleton.mp hy] at hst'
    exact (h.staged_step he hst').2.2.2 x hx n a b q hst
  · refine List.pairwise_append.mpr ⟨h.numbered, List.pairwise_singleton _ _, ?_⟩
    intro x hx y hy n a b q n' a' b' q' hst hst'
    rw [List.mem_singleton.mp hy] at hst'
    have hold := (h.staged x hx n a b q hst).1
    have hnew := (he.stages hst').1
    omega
  · refine List.forall_mem_append.mpr ⟨?_, List.forall_mem_singleton.mpr fun u hu => h.timely_step he hu⟩
    exact fun x hx u hu => (h.timely x hx u hu).append _
  · refine List.forall_mem_append.mpr ⟨?_, List.forall_mem_singleton.mpr fun u hu => (h.witnesses_step he hu).1⟩
    intro x hx u hu
    obtain ⟨hw, hr, hp⟩ := h.witnesses x hx u hu
    exact ⟨hw.trans hwit, hr.trans hseq, lt_pending he hr hp⟩
  · refine List.pairwise_append.mpr ⟨h.increasing, List.pairwise_singleton _ _, ?_⟩
    intro x hx y hy u v hu hv
    rw [List.mem_singleton.mp hy] at hv
    exact (h.witnesses_step he hv).2.1 x hx u hu
  · refine List.forall_mem_append.mpr ⟨?_, List.forall_mem_singleton.mpr fun n hn => h.dropped_step he hn⟩
    intro x hx n hn
    obtain ⟨hle, hp⟩ := h.dropped x hx n hn
    refine ⟨hle.trans hseq, fun ha => ?_⟩
    rcases he.pending_sequence ha with ⟨ha, hs⟩ | hs
    · rw [hs]; exact hp ha
    · omega
  · refine List.pairwise_append.mpr ⟨h.dead, List.pairwise_singleton _ _, ?_⟩
    intro x hx y hy n u hn hu
    rw [List.mem_singleton.mp hy] at hu
    exact (h.witnesses_step he hu).2.2 x hx n hn
  · refine List.forall_mem_append.mpr ⟨?_, List.forall_mem_singleton.mpr ?_⟩
    · intro x hx now outer bots u hu
      obtain ⟨⟨later, hw, hmem⟩, hr⟩ := h.returned x hx now outer bots u hu
      exact ⟨⟨_, hw.append (h.unseen he hw), List.mem_append_left _ hmem⟩, hr⟩
    · rintro now outer bots _ ⟨hcall, hr, rfl⟩
      have ht := hret now outer bots hcall hr
      obtain ⟨later, hw⟩ := h.fresh ht.valid
      refine ⟨⟨later ++ [_], ?_, List.mem_append_right _ (List.mem_singleton_self _)⟩, ht, h.rate ?_⟩
      · rw [ht.tuple]
        exact hw.append (h.unseen he hw)
      · by_contra hf
        exact absurd ht.valid (by simp [(h.bounded.faultClear hf).2])

theorem init (frequency : Int) : ProducerHistory frequency [] (initializeProducer .repair frequency).1 := by
  refine ⟨initializeProducer_bounded _ _, ?_, by simp, by simp, .nil, .nil, by simp, by simp, .nil, by simp, .nil, ?_, ?_, ?_, by simp⟩
  all_goals
    unfold initializeProducer
    split <;> simp [ProducerState.faulted, PendingRequest.empty, FreshTuple.empty]

end ProducerHistory

/-- Every run carries its history, and no call on its state overflows. -/
theorem ProducerRun.history {frequency : Int} {log : List ProducerStep} {s : ProducerState}
    (h : ProducerRun frequency log s) : ProducerHistory frequency log s := by
  induction h with
  | init => exact .init frequency
  | step h typed hrun ih =>
      obtain ⟨u, r, t, hc, he, hret, hobs⟩ := ProducerCall.run_effect ih.bounded typed
      rw [hc] at hrun
      injection hrun with hrun
      injection hrun with hs hrt
      injection hrt with hr ht
      subst hs hr ht
      refine ih.step he hret hobs ?_
      rintro rfl
      injection hc with hc
      injection hc with hs
      exact hs.symm

/-- What a run of an initialised repair producer guarantees about its requests
and the tuples it hands out. -/
structure ProducerProvenance (frequency : Int) (log : List ProducerStep) (s : ProducerState) : Prop where
  defined : ∀ c : ProducerCall, c.Typed → ∃ s' r t, c.run s = some (s', r, t)
  floor : log.Pairwise fun x y => ∀ r a b q r' a' b' q', x.Stages r a b q → y.Stages r' a' b' q' →
    frequency * kRequestFloorSeconds ≤ q' - q
  numbered : log.Pairwise fun x y => ∀ r a b q r' a' b' q', x.Stages r a b q → y.Stages r' a' b' q' → r < r'
  increasing : log.Pairwise fun x y => ∀ t u, x.Witnesses t → y.Witnesses u →
    t.witness < u.witness ∧ t.request < u.request
  timely : ∀ x ∈ log, ∀ t, x.Witnesses t → Timely frequency log x t
  returned : ∀ x ∈ log, ∀ now outer bots t, x.Returns now outer bots t →
    (∃ later, Witnessed log t later ∧ x ∈ later) ∧
      t.sourceEpoch = x.before.sourceEpoch ∧ t.bindingEpoch = x.before.bindingEpoch ∧
      now - t.lowerBoundQpc ≤ frequency * kFreshnessSeconds ∧ outer = t.counts ∧ bots = t.counts.bots
  unique : ∀ x ∈ log, ∀ y ∈ log, ∀ now outer bots t now' outer' bots' u, x.Returns now outer bots t →
    y.Returns now' outer' bots' u → t.witness = u.witness → t = u
  given : ∀ x ∈ log, x.before.pending.active = true → x.GivesUp → x.Drops x.before.pending.sequence
  dead : log.Pairwise fun x y => ∀ r t, x.Drops r → y.Witnesses t → t.request ≠ r

theorem ProducerHistory.witness_unique {frequency : Int} {log : List ProducerStep} {s : ProducerState}
    (h : ProducerHistory frequency log s) {x y : ProducerStep} (hx : x ∈ log) (hy : y ∈ log) {t u : FreshTuple}
    (ht : x.Witnesses t) (hu : y.Witnesses u) (he : t.witness = u.witness) : t = u := by
  let Same (x y : ProducerStep) : Prop := ∀ t u, x.Witnesses t → y.Witnesses u → t.witness = u.witness → t = u
  have hsymm : Std.Symm Same := ⟨fun x y hxy t u ht hu he => (hxy u t hu ht he.symm).symm⟩
  have hpair : log.Pairwise Same := by
    apply h.increasing.imp
    intro x y hlt t u ht hu he
    exact absurd (hlt t u ht hu).1 (by omega)
  have hself : ∀ z ∈ log, Same z z := fun z _ t u ht hu _ => ht.2.trans hu.2.symm
  exact hpair.forall_of_forall hself hx hy t u ht hu he

theorem producer_provenance {frequency : Int} {log : List ProducerStep} {s : ProducerState}
    (h : ProducerRun frequency log s) : ProducerProvenance frequency log s := by
  have hh := h.history
  refine ⟨?_, hh.apart, hh.numbered, hh.increasing, hh.timely, ?_, ?_, hh.given, hh.dead⟩
  · intro c hc
    obtain ⟨s', r, t, hrun, _⟩ := ProducerCall.run_effect hh.bounded hc
    exact ⟨s', r, t, hrun⟩
  · intro x hx now outer bots t ht
    obtain ⟨hw, hr, hf⟩ := hh.returned x hx now outer bots t ht
    exact ⟨hw, hr.epochs.1, hr.epochs.2, hf ▸ hr.age, hr.counts.1, hr.counts.2⟩
  · intro x hx y hy now outer bots t now' outer' bots' u ht hu he
    obtain ⟨⟨_, ⟨_, _, _, wt, hlog, _, _, hwt, _⟩, _⟩, _⟩ := hh.returned x hx now outer bots t ht
    obtain ⟨⟨_, ⟨_, _, _, wu, hlog', _, _, hwu, _⟩, _⟩, _⟩ := hh.returned y hy now' outer' bots' u hu
    have hmem : wt ∈ log := by rw [hlog]; simp
    have hmem' : wu ∈ log := by rw [hlog']; simp
    exact hh.witness_unique hmem hmem' hwt hwu he

def runCalls (log : List ProducerStep) (s : ProducerState) :
    List ProducerCall → Option (List ProducerStep × ProducerState)
  | [] => some (log, s)
  | c :: calls => do
      let (s', r, t) ← c.run s
      runCalls (log ++ [⟨c, s, s', r, t⟩]) s' calls

theorem ProducerRun.calls {frequency : Int} {calls : List ProducerCall} {log log' : List ProducerStep}
    {s s' : ProducerState} (h : ProducerRun frequency log s) (typed : ∀ c ∈ calls, c.Typed)
    (hrun : runCalls log s calls = some (log', s')) : ProducerRun frequency log' s' := by
  induction calls generalizing log s with
  | nil =>
      injection hrun with hrun
      injection hrun with hl hs
      exact hl ▸ hs ▸ h
  | cons c calls ih =>
      cases hc : c.run s with
      | none => rw [runCalls, hc] at hrun; cases hrun
      | some v =>
          rw [runCalls, hc] at hrun
          exact ih (.step h (typed c (by simp)) hc) (fun d hd => typed d (by simp [hd])) hrun

section Sample

def sampleCounts : NativeCounts := ⟨4, 0, 10⟩

def sampleAt (qpc : Int) (timer : Float32Bits) (requested : Bool) : ProducerSample :=
  ⟨qpc, sampleCounts, 0, timer, requested, false⟩

def consumedCalls (readBackValid : Bool) : List ProducerCall :=
  [.setEpoch 1 1, .recordStaged 20 0 10 (sampleAt 21 0x40000000 true) readBackValid,
    .observe (sampleAt 22 0x40000000 true), .observe (sampleAt 23 0x3f800000 false), .readFresh 24 sampleCounts 0]

def consumedRun (readBackValid : Bool) : List ProducerStep × ProducerState :=
  (runCalls [] (initializeProducer .repair 1).1 (consumedCalls readBackValid)).getD ([], (initializeProducer .repair 1).1)

theorem consumed_run (readBackValid : Bool) :
    ProducerRun 1 (consumedRun readBackValid).1 (consumedRun readBackValid).2 := by
  have hrun : runCalls [] (initializeProducer .repair 1).1 (consumedCalls readBackValid) =
      some (consumedRun readBackValid) := by cases readBackValid <;> rfl
  refine .calls .init ?_ hrun
  simp [consumedCalls, ProducerCall.Typed, Int64Range, int64Min, int64Max, sampleAt]

theorem producer_provenance_sample :
    (∃ x ∈ (consumedRun true).1, x.Returns 24 sampleCounts 0 ⟨sampleCounts, 1, 1, 1, 1, 22, true⟩) ∧
      ProducerProvenance 1 (consumedRun true).1 (consumedRun true).2 :=
  ⟨⟨(consumedRun true).1.getLast (by decide), List.getLast_mem _, by decide, by decide, by decide⟩,
    producer_provenance (consumed_run true)⟩

/-- A read-back that was refused, so the staging returned `ProducerAmbiguous`,
leaves the claim pending: a later sample seeds it and the next one witnesses. -/
theorem ambiguous_request_witnessed :
    ∃ log s, ProducerRun 1 log s ∧ ∃ earlier x between y later, log = earlier ++ x :: (between ++ y :: later) ∧
      x.reason = .producerAmbiguous ∧ x.Stages 1 1 1 20 ∧ ∃ t, y.Witnesses t ∧ t.request = 1 := by
  refine ⟨_, _, consumed_run false, (consumedRun false).1.take 1, (consumedRun false).1.get ⟨1, by decide⟩,
    [(consumedRun false).1.get ⟨2, by decide⟩], (consumedRun false).1.get ⟨3, by decide⟩, (consumedRun false).1.drop 4,
    by decide, by decide, ⟨⟨0, 10, sampleAt 21 0x40000000 true, false, by decide⟩, by decide, by decide, by decide, by decide⟩,
    _, ⟨by decide, rfl⟩, by decide⟩

end Sample

end RS2ServerFix.Reporting
