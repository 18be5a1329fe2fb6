import Mathlib.Data.List.Chain
import RS2ServerFix.Task.BindingEffects

namespace RS2ServerFix.Task

open Reporting Lib

inductive TaskCall
  | install (epoch : TaskEpoch)
  | read
  | validate (epoch : TaskEpoch) (borrowedHolder : Nat)
  | retire (reason : Reason)
  deriving DecidableEq, Repr

def TaskCall.perform (call : TaskCall) (state : TaskBinding) (access : TaskAccess) (layout : TaskLayout) :
    TaskAsk TaskReturn :=
  match call with
  | .install epoch => installTaskBinding state access layout epoch
  | .read => readBoundTask state access layout
  | .validate epoch borrowedHolder => validateBuilderTask state access layout epoch borrowedHolder
  | .retire reason => retireTaskBinding state access layout reason

variable {access : TaskAccess} {layout : TaskLayout} {s s' : TaskBinding} {events : TaskEvents} {r : TaskReturn}

theorem TaskCall.effect (call : TaskCall) (h : Yields (call.perform s access layout) events r) :
    TaskEffect access layout s events r.state := by
  cases call with
  | install epoch => exact installTaskBinding_effect h
  | read => exact (readBoundTask_effect h).effect
  | validate epoch borrowedHolder => exact (validateBuilderTask_effect h).effect
  | retire reason => exact retireTaskBinding_effect h

/-- Every exchange puts the wrapper over the original in the cell of a task just
read, or the original over the wrapper in the recorded cell. -/
def ExchangeRule (access : TaskAccess) (layout : TaskLayout) (s : TaskBinding) (events : TaskEvents)
    (s' : TaskBinding) : Prop :=
  ∀ x ∈ exchanges events,
    (x.expected = s.original ∧ x.desired = s.wrapper ∧
      ∃ t, JustRead access layout events t ∧ queued t.state = true ∧ x.address = cell access layout t.identity.slot) ∨
    (x.expected = s.wrapper ∧ x.desired = s.original ∧ x.address = cell access layout s'.identity.slot ∧
      (s.haveIdentity = true ∧ s'.identity = s.identity ∨
        ∃ t, JustRead access layout events t ∧ queued t.state = true ∧ s'.identity = t.identity))

structure BindingInv (s : TaskBinding) : Prop where
  armed : s.phase = .armed → s.haveIdentity = true ∧ s.haveHistory = true ∧ s.haveCounter = true ∧
    s.continuingTask = false ∧ s.identity = s.lastIdentity ∧ s.identity.id = s.lastBoundId
  uncounted : s.haveCounter = false → s.lastNativeCounter = 0
  known : s.haveHistory = true → s.lastIdentity.id = s.lastBoundId
  distinct : s.phase ≠ .inert → s.original ≠ s.wrapper

theorem initializeTaskBinding_inv (original wrapper : Nat) : BindingInv (initializeTaskBinding original wrapper) := by
  rw [initializeTaskBinding]
  split
  · exact ⟨TaskPhase.noConfusion, fun _ => rfl, Bool.noConfusion, fun h => absurd rfl h⟩
  · rename_i h
    exact ⟨TaskPhase.noConfusion, fun _ => rfl, Bool.noConfusion, fun _ he => h (.inr (.inr he))⟩

theorem Counted.le (h : Counted s s') (hs : BindingInv s) : s.lastNativeCounter ≤ s'.lastNativeCounter := by
  rcases h with rfl | ⟨n, hn, rfl⟩
  · exact le_rfl
  · cases hc : s.haveCounter with
    | true => exact hn hc
    | false =>
        rw [hs.uncounted hc]
        exact Nat.zero_le _

theorem Counted.inv (h : Counted s s') (hs : BindingInv s) : BindingInv s' := by
  rcases h with rfl | ⟨n, _, rfl⟩
  · exact hs
  · refine ⟨fun hp => ?_, Bool.noConfusion, hs.known, hs.distinct⟩
    obtain ⟨h1, h2, _, h4⟩ := hs.armed hp
    exact ⟨h1, h2, rfl, h4⟩

theorem Accepted.le {t : TaskSnapshot} (h : Accepted access layout s events t) (hs : BindingInv s) :
    s.lastNativeCounter ≤ t.nativeCounter := by
  cases hc : s.haveCounter with
  | true => exact h.counter hc
  | false =>
      rw [hs.uncounted hc]
      exact Nat.zero_le _

theorem Accepted.live {t : TaskSnapshot} (h : Accepted access layout s events t) : s.phase ≠ .inert := by
  intro hi
  rcases h.phase with hp | hp
  · rw [hi] at hp
    cases hp
  · rw [hi] at hp
    cases hp

theorem Faulted.inv (h : Faulted access layout s events s') (hc : s.haveCounter = false → s.lastNativeCounter = 0)
    (hk : s.haveHistory = true → s.lastIdentity.id = s.lastBoundId) :
    BindingInv s' ∧ s'.lastNativeCounter = s.lastNativeCounter ∧ s'.identity = s.identity ∧ s'.phase = .inert := by
  obtain ⟨reason, attempted, stranded, rfl⟩ := h.state
  exact ⟨⟨TaskPhase.noConfusion, hc, hk, fun hi => absurd rfl hi⟩, rfl, rfl, rfl⟩

theorem TaskEffect.inv (h : TaskEffect access layout s events s') (hs : BindingInv s) :
    BindingInv s' ∧ s.lastNativeCounter ≤ s'.lastNativeCounter := by
  cases h with
  | quiet hc => exact ⟨hc.inv hs, hc.le hs⟩
  | faulted live doomed hf =>
      cases doomed with
      | counted hc =>
          obtain ⟨hi, hn, _⟩ := hf.inv (hc.inv hs).uncounted (hc.inv hs).known
          exact ⟨hi, hn ▸ hc.le hs⟩
      | found t =>
          obtain ⟨hi, hn, _⟩ := hf.inv hs.uncounted hs.known
          exact ⟨hi, hn.ge⟩
      | prepared t epoch ha =>
          obtain ⟨hi, hn, _⟩ := hf.inv Bool.noConfusion hs.known
          exact ⟨hi, hn ▸ ha.le hs⟩
  | installFailed t epoch ha before after split answer first fault =>
      obtain ⟨hi, hn, _⟩ := fault.inv Bool.noConfusion hs.known
      exact ⟨hi, hn ▸ ha.le hs⟩
  | installed t epoch ha =>
      exact ⟨⟨fun _ => ⟨rfl, rfl, rfl, rfl, rfl, rfl⟩, Bool.noConfusion, fun _ => rfl, fun _ => hs.distinct ha.live⟩,
        ha.le hs⟩
  | retired continues live => exact ⟨⟨TaskPhase.noConfusion, hs.uncounted, hs.known, fun _ => hs.distinct live⟩, le_rfl⟩
  | restored live => exact ⟨⟨TaskPhase.noConfusion, hs.uncounted, hs.known, fun _ => hs.distinct live⟩, le_rfl⟩
  | restoreFailed live bound reason attempted stranded state =>
      subst state
      exact ⟨⟨TaskPhase.noConfusion, hs.uncounted, hs.known, fun hi => absurd rfl hi⟩, le_rfl⟩

/-- The exchanges of a fault all put the recorded cell back. -/
theorem Faulted.exchange_mem {x : Exchange} (h : Faulted access layout s events s') (hx : x ∈ exchanges events) :
    s.haveIdentity = true ∧ x.expected = s.wrapper ∧ x.desired = s.original ∧
      x.address = cell access layout s.identity.slot := by
  rcases h.back with hnone | ⟨hhave, answer, hone⟩
  · rw [hnone] at hx
    exact absurd hx List.not_mem_nil
  · rw [hone] at hx
    obtain rfl := List.mem_singleton.mp hx
    exact ⟨hhave, rfl, rfl, rfl⟩

theorem Faulted.identity (h : Faulted access layout s events s') : s'.identity = s.identity := by
  obtain ⟨_, _, _, rfl⟩ := h.state
  rfl

theorem Faulted.length_le (h : Faulted access layout s events s') : (exchanges events).length ≤ 1 := by
  rcases h.back with hnone | ⟨_, answer, hone⟩
  · rw [hnone]
    exact Nat.zero_le _
  · rw [hone]
    rfl

theorem Doomed.identity {s0 : TaskBinding} (h : Doomed access layout s events s0) :
    s0.wrapper = s.wrapper ∧ s0.original = s.original ∧
      (s0.haveIdentity = true → s.haveIdentity = true ∧ s0.identity = s.identity ∨
        ∃ t, JustRead access layout events t ∧ queued t.state = true ∧ s0.identity = t.identity) := by
  cases h with
  | counted hc =>
      rcases hc with rfl | ⟨n, _, rfl⟩
      · exact ⟨rfl, rfl, fun hi => .inl ⟨hi, rfl⟩⟩
      · exact ⟨rfl, rfl, fun hi => .inl ⟨hi, rfl⟩⟩
  | found t hread hqueued => exact ⟨rfl, rfl, fun _ => .inr ⟨t, hread, hqueued, rfl⟩⟩
  | prepared t epoch ha => exact ⟨rfl, rfl, fun _ => .inr ⟨t, ha.read, ha.queued, rfl⟩⟩

theorem TaskEffect.exchangeRule (h : TaskEffect access layout s events s') :
    ExchangeRule access layout s events s' := by
  intro x hx
  cases h with
  | quiet hc live calm =>
      rw [calm] at hx
      exact absurd hx List.not_mem_nil
  | faulted live doomed hf =>
      obtain ⟨hhave, hexpected, hdesired, haddress⟩ := hf.exchange_mem hx
      obtain ⟨hwrapper, horiginal, hidentity⟩ := doomed.identity
      rw [hwrapper] at hexpected
      rw [horiginal] at hdesired
      rw [hf.identity]
      exact .inr ⟨hexpected, hdesired, haddress, hidentity hhave⟩
  | installFailed t epoch ha before after split answer first fault =>
      rw [split, exchanges_append, first] at hx
      rcases List.mem_cons.mp hx with rfl | hx
      · exact .inl ⟨rfl, rfl, t, ha.read, ha.queued, rfl⟩
      · obtain ⟨_, hexpected, hdesired, haddress⟩ := fault.exchange_mem hx
        rw [fault.identity]
        exact .inr ⟨hexpected, hdesired, haddress, .inr ⟨t, ha.read, ha.queued, rfl⟩⟩
  | installed t epoch ha answer exchanged =>
      rw [exchanged] at hx
      obtain rfl := List.mem_singleton.mp hx
      exact .inl ⟨rfl, rfl, t, ha.read, ha.queued, rfl⟩
  | retired continues live hc calm =>
      rw [calm] at hx
      exact absurd hx List.not_mem_nil
  | restored live bound attempted stranded exchanged =>
      rw [exchanged] at hx
      obtain rfl := List.mem_singleton.mp hx
      exact .inr ⟨rfl, rfl, rfl, .inl ⟨bound, rfl⟩⟩
  | restoreFailed live bound reason attempted stranded state exchanged =>
      subst state
      rcases exchanged with hnone | ⟨answer, hone⟩
      · rw [hnone] at hx
        exact absurd hx List.not_mem_nil
      · rw [hone] at hx
        obtain rfl := List.mem_singleton.mp hx
        exact .inr ⟨rfl, rfl, rfl, .inl ⟨bound, rfl⟩⟩

def inverses (s : TaskBinding) (events : TaskEvents) : List Exchange :=
  (exchanges events).filter fun x => x.expected = s.wrapper

theorem inverses_length_le (h : (exchanges events).length ≤ 1) : (inverses s events).length ≤ 1 :=
  (List.length_filter_le _ _).trans h

theorem TaskEffect.inverses_le (h : TaskEffect access layout s events s') (hs : BindingInv s) :
    (inverses s events).length ≤ 1 := by
  have hone {x : Exchange} (he : exchanges events = [x]) : (inverses s events).length ≤ 1 :=
    inverses_length_le (by rw [he]; rfl)
  have hnone (he : exchanges events = []) : (inverses s events).length ≤ 1 :=
    inverses_length_le (by rw [he]; exact Nat.zero_le _)
  cases h with
  | quiet hc live calm => exact hnone calm
  | faulted live doomed hf => exact inverses_length_le hf.length_le
  | installFailed t epoch ha before after split answer first fault =>
      have hne : ¬ s.original = s.wrapper := hs.distinct ha.live
      rw [inverses, split, exchanges_append, first, List.filter_append, List.filter_cons_of_neg (by simpa using hne)]
      exact inverses_length_le fault.length_le
  | installed t epoch ha answer exchanged => exact hone exchanged
  | retired continues live hc calm => exact hnone calm
  | restored live bound attempted stranded exchanged => exact hone exchanged
  | restoreFailed live bound reason attempted stranded state exchanged =>
      rcases exchanged with he | ⟨answer, he⟩
      · exact hnone he
      · exact hone he

theorem TaskEffect.inert (h : TaskEffect access layout s events s') (hi : s.phase = .inert) :
    s' = s ∧ exchanges events = [] := by
  cases h with
  | quiet hc live calm => exact ⟨live hi, calm⟩
  | faulted live => exact absurd hi live
  | installFailed t epoch ha => exact absurd hi ha.live
  | installed t epoch ha => exact absurd hi ha.live
  | retired continues live => exact absurd hi live
  | restored live => exact absurd hi live
  | restoreFailed live => exact absurd hi live

def binds (s s' : TaskBinding) : Bool := decide (s.phase ≠ .armed) && decide (s'.phase = .armed)

def restores (s : TaskBinding) (events : TaskEvents) (s' : TaskBinding) : Bool :=
  decide (s'.phase = .retired) && (exchanges events).any fun x =>
    decide (x.expected = s.wrapper) && decide (x.desired = s.original) && decide (x.answer = ⟨true, s.wrapper⟩)

/-- The binding with the tasks it bound, the latest first, each with whether a
healthy retirement came since the one before. -/
structure BindingWorld where
  state : TaskBinding
  bound : List (TaskIdentity × Bool)
  restored : Bool

def BindingWorld.next (w : BindingWorld) (events : TaskEvents) (s' : TaskBinding) : BindingWorld :=
  if binds w.state s' then ⟨s', (s'.identity, w.restored) :: w.bound, false⟩
  else ⟨s', w.bound, w.restored || restores w.state events s'⟩

inductive TaskStep (access : TaskAccess) (layout : TaskLayout) (w : BindingWorld) :
    TaskEvents → BindingWorld → Prop
  | call (c : TaskCall) {events : TaskEvents} {r : TaskReturn}
      (h : Yields (c.perform w.state access layout) events r) : TaskStep access layout w events (w.next events r.state)

inductive TaskRun (access : TaskAccess) (layout : TaskLayout) : BindingWorld → Prop
  | init (original wrapper : Nat) : TaskRun access layout ⟨initializeTaskBinding original wrapper, [], false⟩
  | step {w w' : BindingWorld} {events : TaskEvents} (h : TaskRun access layout w)
      (move : TaskStep access layout w events w') : TaskRun access layout w'

/-- A task is bound after an older one, or again after a healthy retirement. -/
def Follows (later earlier : TaskIdentity × Bool) : Prop :=
  earlier.1.id < later.1.id ∨ later.2 = true ∧ later.1 = earlier.1

structure BoundInv (w : BindingWorld) : Prop where
  inv : BindingInv w.state
  first : w.state.haveHistory = false → w.bound = []
  last : w.state.haveHistory = true → ∃ flag rest, w.bound = (w.state.lastIdentity, flag) :: rest
  continues : w.state.continuingTask = true → w.restored = true
  chain : w.bound.IsChain Follows

theorem BindingWorld.next_state (w : BindingWorld) (events : TaskEvents) (s' : TaskBinding) :
    (w.next events s').state = s' := by
  rw [next]
  split
  · rfl
  · rfl

variable {w w' : BindingWorld}

theorem BoundInv.keep (h : BoundInv w) (hi : BindingInv s') (hb : ¬ (w.state.phase ≠ .armed ∧ s'.phase = .armed))
    (hh : s'.haveHistory = w.state.haveHistory) (hl : s'.lastIdentity = w.state.lastIdentity)
    (hc : s'.continuingTask = true → w.state.continuingTask = true ∨ restores w.state events s' = true) :
    BoundInv (w.next events s') := by
  have hbinds : binds w.state s' = false := by
    rw [binds, ← Bool.not_eq_true, Bool.and_eq_true, decide_eq_true_eq, decide_eq_true_eq]
    exact hb
  rw [BindingWorld.next, hbinds, if_neg Bool.false_ne_true]
  refine ⟨hi, fun he => h.first (hh ▸ he), fun he => ?_, fun he => ?_, h.chain⟩
  · rw [show s'.lastIdentity = w.state.lastIdentity from hl]
    exact h.last (hh ▸ he)
  · rcases hc he with hw | hr
    · exact Bool.or_eq_true _ _ ▸ .inl (h.continues hw)
    · exact Bool.or_eq_true _ _ ▸ .inr hr

theorem BoundInv.keep_faulted {s0 : TaskBinding} (h : BoundInv w) (hf : Faulted access layout s0 events s')
    {events' : TaskEvents} (hi : BindingInv s') (hh : s0.haveHistory = w.state.haveHistory)
    (hl : s0.lastIdentity = w.state.lastIdentity) (hc : s0.continuingTask = w.state.continuingTask) :
    BoundInv (w.next events' s') := by
  obtain ⟨_, _, _, rfl⟩ := hf.state
  exact h.keep hi (fun hb => TaskPhase.noConfusion hb.2) hh hl fun hct => .inl (hc ▸ hct)

theorem BoundInv.effect (h : BoundInv w) (he : TaskEffect access layout w.state events s') :
    BoundInv (w.next events s') := by
  have hi := (he.inv h.inv).1
  cases he with
  | quiet hc =>
      rcases hc with rfl | ⟨n, _, rfl⟩
      · exact h.keep hi (fun hb => hb.1 hb.2) rfl rfl .inl
      · exact h.keep hi (fun hb => hb.1 hb.2) rfl rfl .inl
  | faulted live doomed hf =>
      cases doomed with
      | counted hc =>
          rcases hc with rfl | ⟨n, _, rfl⟩
          · exact h.keep_faulted hf hi rfl rfl rfl
          · exact h.keep_faulted hf hi rfl rfl rfl
      | found t => exact h.keep_faulted hf hi rfl rfl rfl
      | prepared t epoch ha => exact h.keep_faulted hf hi rfl rfl rfl
  | installFailed t epoch ha before after split answer first fault => exact h.keep_faulted fault hi rfl rfl rfl
  | installed t epoch ha =>
      have hunarmed : w.state.phase ≠ .armed := by
        intro hp
        rcases ha.phase with hq | hq
        · rw [hp] at hq
          cases hq
        · rw [hp] at hq
          cases hq
      have hbinds : binds w.state { preparing w.state t epoch with
          phase := .armed, lastIdentity := t.identity, lastBoundId := t.identity.id
          haveHistory := true, continuingTask := false } = true := by
        rw [binds, Bool.and_eq_true, decide_eq_true_eq, decide_eq_true_eq]
        exact ⟨hunarmed, rfl⟩
      rw [BindingWorld.next, if_pos hbinds]
      refine ⟨hi, Bool.noConfusion, fun _ => ⟨_, _, rfl⟩, Bool.noConfusion, ?_⟩
      cases hh : w.state.haveHistory with
      | false =>
          rw [h.first hh]
          exact .singleton _
      | true =>
          obtain ⟨flag, rest, hbound⟩ := h.last hh
          have hchain := h.chain
          rw [hbound] at hchain ⊢
          refine .cons_cons ?_ hchain
          rcases ha.fresh hh with hlt | ⟨hct, heq⟩
          · exact .inl (by rw [h.inv.known hh]; exact hlt)
          · exact .inr ⟨h.continues hct, heq⟩
  | retired continues live hc =>
      exact h.keep hi (fun hb => TaskPhase.noConfusion hb.2) rfl rfl fun hct => .inl (hc hct)
  | restored live bound attempted stranded exchanged =>
      refine h.keep hi (fun hb => TaskPhase.noConfusion hb.2) rfl rfl fun _ => .inr ?_
      simp only [restores, exchanged, List.any_cons, List.any_nil, Bool.or_false, decide_true, Bool.and_self]
  | restoreFailed live bound reason attempted stranded state =>
      subst state
      exact h.keep hi (fun hb => TaskPhase.noConfusion hb.2) rfl rfl .inl

theorem BoundInv.init (original wrapper : Nat) : BoundInv ⟨initializeTaskBinding original wrapper, [], false⟩ := by
  refine ⟨initializeTaskBinding_inv original wrapper, fun _ => rfl, ?_, ?_, .nil⟩
  · intro hh
    dsimp only [initializeTaskBinding] at hh
    split at hh
    · cases hh
    · cases hh
  · intro hh
    dsimp only [initializeTaskBinding] at hh
    split at hh
    · cases hh
    · cases hh

theorem TaskRun.inv (run : TaskRun access layout w) : BoundInv w := by
  induction run with
  | init original wrapper => exact .init original wrapper
  | step run move ih =>
      cases move with
      | call c h => exact ih.effect (c.effect h)

/-- What one call keeps: the cells of others, an inert binding, the counter. -/
structure CallRule (access : TaskAccess) (layout : TaskLayout) (s : TaskBinding) (events : TaskEvents)
    (s' : TaskBinding) : Prop where
  exchange : ExchangeRule access layout s events s'
  inert : s.phase = .inert → s' = s ∧ exchanges events = []
  inverse : (inverses s events).length ≤ 1
  counter : s.lastNativeCounter ≤ s'.lastNativeCounter

theorem task_binding_discipline (run : TaskRun access layout w) :
    (w.state.phase = .armed → w.state.haveIdentity = true ∧ w.state.haveHistory = true ∧ w.state.haveCounter = true ∧
      w.state.continuingTask = false ∧ w.state.identity = w.state.lastIdentity ∧
      w.state.identity.id = w.state.lastBoundId) ∧
    w.bound.IsChain Follows ∧
    ∀ events w', TaskStep access layout w events w' → CallRule access layout w.state events w'.state := by
  have hw := run.inv
  refine ⟨hw.inv.armed, hw.chain, ?_⟩
  intro events w' move
  cases move with
  | call c h =>
      have he := c.effect h
      rw [BindingWorld.next_state]
      exact ⟨he.exchangeRule, he.inert, he.inverses_le hw.inv, (he.inv hw.inv).2⟩

def sampleLayout : TaskLayout := ⟨0x1000, 0x10, 0x14, 0x18, 0x20, 0x100, 0x200, 0x1C⟩

def sampleAccess : TaskAccess := ⟨0x10000, 0x10000, true, true, true, true, true, true⟩

def sampleOriginal : Nat := 0x10200

def sampleWrapper : Nat := 0x999000

/-- The words of the table: address, bytes and value. -/
def sampleWords (id counter builder : Nat) : List (Nat × Nat × Nat) :=
  [(0x10010, 4, id), (0x10018, 4, counter), (0x1001C, 4, 3), (0x10020, 8, 0x30000), (0x30000, 8, 0x10100),
    (0x11000, 4, 2), (0x11004, 4, id), (0x11008, 8, 0x40000), (0x11038, 4, 43 * 2 ^ 16 + 1), (0x11040, 8, builder),
    (0x11060, 8, kInterval)]

def sampleByte (words : List (Nat × Nat × Nat)) (address : Nat) : UInt8 :=
  match words.find? fun w => w.1 ≤ address && address < w.1 + w.2.1 with
  | none => 0
  | some w => (w.2.2 / 256 ^ (address - w.1)).toUInt8

/-- The table with the builder in its cell; the slots behind the first are
empty, and an exchange that finds what it expects writes the cell. -/
def sampleTable (id counter protect : Nat) (builder : Nat) : (q : TaskQuestion) → TaskAnswer q × Nat
  | .query address => (some ⟨address, 0x10000, 0x1000, memCommit, memImage, protect⟩, builder)
  | .read address bytes => (some (
      if 0x11078 ≤ address ∧ address < 0x30000 then Vector.replicate bytes 0
      else Vector.ofFn fun i : Fin bytes => sampleByte (sampleWords id counter builder) (address + i)), builder)
  | .exchange _ expected desired => ((⟨true, builder⟩ : ExchangeAnswer), if builder = expected then desired else builder)
  | .admission | .safeOwner | .ownerThread => (true, builder)

def sampleInstall : TaskEvents × TaskReturn :=
  (installTaskBinding (initializeTaskBinding sampleOriginal sampleWrapper) sampleAccess sampleLayout ⟨1, 1⟩).talk
    (sampleTable 5 7 pageReadWrite) sampleOriginal

theorem sampleInstall_armed : sampleInstall.2.state.phase = .armed := by decide +kernel

theorem sampleInstall_yields : Yields ((TaskCall.install ⟨1, 1⟩).perform
    (initializeTaskBinding sampleOriginal sampleWrapper) sampleAccess sampleLayout) sampleInstall.1 sampleInstall.2 := by
  rw [sampleInstall, TaskCall.perform]
  exact Yields.talk _ _ _

theorem task_binding_discipline_sample : ∃ w, TaskRun sampleAccess sampleLayout w ∧ w.state.phase = .armed ∧
    w.state.identity.id = w.state.lastBoundId ∧ w.bound.IsChain Follows := by
  have harmed := sampleInstall_armed
  have hyields := sampleInstall_yields
  generalize sampleInstall.1 = events, sampleInstall.2 = r at harmed hyields
  have run := (TaskRun.init sampleOriginal sampleWrapper).step (.call _ hyields)
  obtain ⟨hphase, hchain, _⟩ := task_binding_discipline run
  rw [BindingWorld.next_state] at hphase
  refine ⟨_, run, ?_, ?_, hchain⟩
  · rw [BindingWorld.next_state]
    exact harmed
  · rw [BindingWorld.next_state]
    exact (hphase harmed).2.2.2.2.2

end RS2ServerFix.Task
