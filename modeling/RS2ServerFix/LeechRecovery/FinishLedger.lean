import RS2ServerFix.LeechRecovery.Nested
import RS2ServerFix.LeechRecovery.Rules

namespace RS2ServerFix.LeechRecovery

open Reporting Lib Act

/-- What of the finish request the recipe has on its hands. -/
inductive Held
  | nothing | allocated | binding | bound | releasing | released
  deriving DecidableEq, Repr

def NativeAnswer.completes (answer : NativeAnswer) : Bool :=
  match answer.outcome with
  | .ok _ => true
  | .error _ => false

def NativeAnswer.allocates (answer : NativeAnswer) : Bool :=
  match answer.outcome with
  | .ok slot => slot.toNat % 65536 < 16
  | .error _ => false

/-- The ledger of the resource calls: each of them has its place, and an
unbound slot and a bound holder have each their own release. -/
def Held.record (held : Held) : Sigma Answer → Option Held
  | ⟨.native .finishAllocate, answer⟩ =>
      if held = .nothing then some (if NativeAnswer.allocates answer then .allocated else .nothing) else none
  | ⟨.native .bindHolder, answer⟩ =>
      if held = .allocated then some (if NativeAnswer.completes answer then .bound else .binding) else none
  | ⟨.native .finishRelease, answer⟩ =>
      if held = .allocated then some (if NativeAnswer.completes answer then .released else .releasing) else none
  | ⟨.native .releaseHolder, answer⟩ =>
      if held = .bound then some (if NativeAnswer.completes answer then .released else .releasing) else none
  | _ => some held

def Question.releases : Question → Bool
  | .native call => call = .finishRelease || call = .releaseHolder
  | _ => false

def Held.given : Held → Bool
  | .releasing | .released => true
  | _ => false

/-- What the recipe's own words say of what it holds. -/
def Held.Fits : Held → Recovery → Prop
  | .nothing, r => r.value.resourcePhase = .none ∧ r.bindEntered = false ∧ r.bindCompleted = false
  | .allocated, r => r.value.resourcePhase = .allocatedUnbound ∧ r.bindEntered = false ∧ r.bindCompleted = false
  | .bound, r =>
      (r.value.resourcePhase = .boundLocal ∨ r.value.resourcePhase = .enqueueEntered) ∧ r.bindEntered = true ∧
        r.bindCompleted = true
  | _, _ => False

/-- Between two native calls. -/
structure Point (held : Held) (r : Recovery) : Prop where
  below : Below r
  attempted : r.resourceReleaseAttempted = false
  fits : held.Fits r

def Recovery.incomplete (r : Recovery) : Bool := r.bindEntered && !r.bindCompleted

/-- Where a raise has left the recipe. -/
structure Lost (held : Held) (r : Recovery) : Prop where
  below : Below r
  attempted : r.resourceReleaseAttempted = false
  given : held.given = false
  unreleased : r.value.resourcePhase ≠ .localReleased
  fits : held.Fits r ∨ r.value.resourcePhase = .none ∨ r.incomplete = true

variable {held : Held} {r r' : Recovery}

theorem Keeps.fits (h : Keeps r r') (hf : held.Fits r) : held.Fits r' := by
  cases held with
  | nothing => exact ⟨h.resource.trans hf.1, h.entered.trans hf.2.1, h.completed.trans hf.2.2⟩
  | allocated => exact ⟨h.resource.trans hf.1, h.entered.trans hf.2.1, h.completed.trans hf.2.2⟩
  | bound =>
      refine ⟨?_, h.entered.trans hf.2.1, h.completed.trans hf.2.2⟩
      rw [h.resource]
      exact hf.1
  | binding => exact hf
  | releasing => exact hf
  | released => exact hf

theorem Keeps.point (h : Keeps r r') (hp : Point held r) : Point held r' where
  below := by
    rw [Below, h.pump]
    exact hp.below
  attempted := h.attempted.trans hp.attempted
  fits := h.fits hp.fits

theorem Point.lost (h : Point held r) : Lost held r where
  below := h.below
  attempted := h.attempted
  unreleased := by
    have hf := h.fits
    intro hn
    cases held with
    | nothing => exact absurd (hf.1.symm.trans hn) (by decide)
    | allocated => exact absurd (hf.1.symm.trans hn) (by decide)
    | bound => rcases hf.1 with hp | hp <;> exact absurd (hp.symm.trans hn) (by decide)
    | binding => exact hf
    | releasing => exact hf
    | released => exact hf
  given := by
    have hf := h.fits
    cases held with
    | releasing => exact hf.elim
    | released => exact hf.elim
    | _ => rfl
  fits := .inl h.fits

theorem Keeps.lost (h : Keeps r r') (hl : Lost held r) : Lost held r' where
  below := by
    rw [Below, h.pump]
    exact hl.below
  attempted := h.attempted.trans hl.attempted
  given := hl.given
  unreleased := by
    rw [h.resource]
    exact hl.unreleased
  fits := by
    rw [Recovery.incomplete, h.resource, h.entered, h.completed]
    exact hl.fits.imp_left h.fits

def Recovery.withSlot (r : Recovery) (slot : Nat) : Recovery :=
  { r with finishSlot := slot, value := { r.value with resourcePhase := .allocatedUnbound } }

def Recovery.withHolder (r : Recovery) (holder : UInt32) : Recovery :=
  { r with holder := holder, bindCompleted := true, value := { r.value with resourcePhase := .boundLocal } }

def Recovery.binding (r : Recovery) : Recovery := { r with bindEntered := true }

theorem Point.withSlot (h : Point .nothing r) (slot : Nat) : Point .allocated (r.withSlot slot) where
  below := h.below
  attempted := h.attempted
  fits := ⟨rfl, h.fits.2⟩

theorem Point.withHolder (h : Point .allocated r) (hk : Keeps r.binding r') (holder : UInt32) :
    Point .bound (r'.withHolder holder) where
  below := by
    have hpump : (r'.withHolder holder).pumpDepth = r.pumpDepth := hk.pump
    rw [Below, hpump]
    exact h.below
  attempted := by
    have hattempted : (r'.withHolder holder).resourceReleaseAttempted = r.resourceReleaseAttempted := hk.attempted
    exact hattempted.trans h.attempted
  fits := ⟨.inl rfl, hk.entered, rfl⟩

theorem Point.unbound (h : Point .allocated r) (hk : Keeps r.binding r') (hg : held.given = false) : Lost held r' where
  below := by
    have hpump : r'.pumpDepth = r.pumpDepth := hk.pump
    rw [Below, hpump]
    exact h.below
  attempted := hk.attempted.trans h.attempted
  given := hg
  unreleased := by
    have hresource : r'.value.resourcePhase = .allocatedUnbound := hk.resource.trans h.fits.1
    rw [hresource]
    decide
  fits := by
    have hentered : r'.bindEntered = true := hk.entered
    have hcompleted : r'.bindCompleted = r.bindCompleted := hk.completed
    refine .inr (.inr ?_)
    rw [Recovery.incomplete, hentered, hcompleted, h.fits.2.2]
    rfl

theorem record_blind : Blind Held.record := by
  intro q hq held answer
  cases q with
  | native call =>
      cases call <;> first | rfl | cases hq
  | _ => rfl

theorem record_given {e : Sigma Answer} {held' : Held} (h : held.record e = some held') (hg : held.given = true) :
    held' = held := by
  obtain ⟨q, answer⟩ := e
  have hblind : q.nested = true → held' = held := fun hq => by
    rw [record_blind q hq] at h
    injection h with h
    exact h.symm
  have hnothing : held ≠ .nothing := fun hn => by rw [hn] at hg; cases hg
  have hallocated : held ≠ .allocated := fun hn => by rw [hn] at hg; cases hg
  have hbound : held ≠ .bound := fun hn => by rw [hn] at hg; cases hg
  cases q with
  | native call =>
      cases call with
      | finishAllocate => exact absurd (h.symm.trans (if_neg hnothing)) (by simp)
      | bindHolder => exact absurd (h.symm.trans (if_neg hallocated)) (by simp)
      | finishRelease => exact absurd (h.symm.trans (if_neg hallocated)) (by simp)
      | releaseHolder => exact absurd (h.symm.trans (if_neg hbound)) (by simp)
      | _ =>
          injection h with h
          exact h.symm
  | _ => exact hblind rfl

theorem run_given {events : List (Sigma Answer)} {held' : Held} (h : events.foldlM Held.record held = some held')
    (hg : held.given = true) : held' = held := by
  induction events generalizing held with
  | nil =>
      injection h with h
      exact h.symm
  | cons e rest ih =>
      rw [List.foldlM_cons] at h
      cases hentry : held.record e with
      | none =>
          rw [hentry] at h
          cases h
      | some next =>
          rw [hentry] at h
          obtain rfl := record_given hentry hg
          exact ih h hg

/-- A release is entered as one. -/
theorem record_releases {e : Sigma Answer} {held' : Held} (h : held.record e = some held') (he : e.1.releases = true) :
    held'.given = true := by
  obtain ⟨q, answer⟩ := e
  have hgiven : ∀ (from' : Held) (b : Bool),
      (if held = from' then some (if b then Held.released else .releasing) else none) = some held' →
        held'.given = true := by
    intro from' b hr
    split at hr
    · injection hr with hr
      subst hr
      cases b <;> rfl
    · cases hr
  cases q with
  | native call =>
      cases call with
      | finishRelease => exact hgiven .allocated _ h
      | releaseHolder => exact hgiven .bound _ h
      | _ => cases he
  | _ => cases he

theorem no_release {events : List (Sigma Answer)} {held' : Held} (h : events.foldlM Held.record held = some held')
    (hg : held'.given = false) : ∀ e ∈ events, e.1.releases = false := by
  induction events generalizing held with
  | nil => exact fun e he => absurd he List.not_mem_nil
  | cons e rest ih =>
      rw [List.foldlM_cons] at h
      cases hentry : held.record e with
      | none =>
          rw [hentry] at h
          cases h
      | some next =>
          rw [hentry] at h
          refine List.forall_mem_cons.mpr ⟨Bool.eq_false_iff.mpr fun he => ?_, ih h⟩
          have hgiven := record_releases hentry he
          rw [run_given h hgiven, hgiven] at hg
          cases hg

section Recipe

variable {inner : Occurrence → Rec Unit} (hinner : ∀ o, Hush Held.record (inner o))

abbrev Goes {α : Type} (p : Rec α) (held : Held) (s : Recovery) (post : Held → α → Prop) : Prop :=
  p.Logs Held.record held s (fun held' a t => Point held' t ∧ post held' a) fun held' _ t => Lost held' t

theorem Goes.hush {α β : Type} {p : Rec α} (h : Hush Held.record p) {s : Recovery} (hs : Point held s) {f : α → Rec β}
    {post : Held → β → Prop} (hf : ∀ a t, Point held t → Keeps s t → Goes (f a) held t post) :
    Goes (p >>= f) held s post :=
  h.bindLogs hs.below (fun a t _ hk => hf a t (hk.point hs) hk) fun _ _ _ hk => (hk.point hs).lost

theorem Goes.modify {β : Type} {f : Recovery → Recovery} {g : Unit → Rec β} {s : Recovery} {post : Held → β → Prop}
    (hs : Point held s) (hk : Keeps s (f s)) (hg : ∀ t, Point held t → Keeps s t → Goes (g ()) held t post) :
    Goes (Act.modify f >>= g) held s post := hg _ (hk.point hs) hk

include hinner

/-- A native call that the ledger does not have. -/
theorem native_call {call : NativeCall}
    (hcall : ∀ held (answer : Answer (.native call)), Held.record held ⟨.native call, answer⟩ = some held) :
    Hush Held.record (native inner (observeFailure false) call) :=
  native_hush hinner (observeFailure_hush record_blind false) hcall

/-- A native call with an entry: it comes back with its value, or a raise leaves
the recipe. -/
theorem native_entry {call : NativeCall} {s : Recovery} (hs : Below s) {post : Held → UInt32 → Recovery → Prop}
    {left : Held → UInt32 → Recovery → Prop}
    (h : ∀ answer : NativeAnswer, ∃ held', held.record ⟨.native call, answer⟩ = some held' ∧
      (∀ value t, answer.outcome = .ok value → Keeps s t → post held' value t) ∧ ∀ code t, Keeps s t → left held' code t) :
    (native inner (observeFailure false) call).Logs Held.record held s post left := by
  apply Logs.queryBind
  intro answer
  obtain ⟨held', hentry, hpost, hleft⟩ := h answer
  refine ⟨held', hentry, ?_⟩
  refine Quiet.bindLogs (I := Below) (R := Keeps) (Quiet.each fun occurrence => ?_) hs ?_ ?_
  · cases occurrence with
    | resumed code => exact observeFailure_hush record_blind false code
    | _ => exact hinner _
  · intro _ t _ hk
    cases houtcome : NativeAnswer.outcome answer with
    | error code => exact hleft code t hk
    | ok value => exact hpost value t houtcome hk
  · exact fun code t _ hk => hleft code t hk

omit hinner in
theorem Goes.refuse {s : Recovery} (hs : Point held s) {reason : RecoveryReason} {outcome : RecoveryOutcome}
    {restart : Bool} {post : Held → Bool → Prop} (h : post held false) : Goes (do
      fault reason outcome restart
      pure false : Rec Bool) held s post :=
  Goes.hush (fault_hush _ _ _) hs fun _ _ ht _ => ⟨ht, h⟩

omit hinner in
theorem lease_goes : Hush Held.record (lease 3 true false) := lease_hush record_blind 3 true false

theorem submitAcquire_goes {s : Recovery} (hs : Point .nothing s) :
    Goes (submitAcquire inner) .nothing s fun held b => b = true → held = .allocated := by
  have hno : ∀ held, (false = true → held = Held.allocated) := fun _ h => by cases h
  refine Goes.hush (setStage_hush _) hs fun _ s hs _ => ?_
  refine Goes.hush lease_goes hs fun leased s hs _ => ?_
  apply Logs.ite (fun _ => Goes.refuse hs (hno _))
  intro _
  refine Goes.hush (native_call hinner fun _ _ => rfl) hs fun type s hs _ => ?_
  refine Goes.modify hs { Keeps.refl s with } fun s hs _ => ?_
  have htyped : Hush Held.record (holds .finishTypeLeased <&&>
      pure (type.toNat % 65536 ≠ 0 && decide (type.toNat % 65536 < 256)) <&&> lease 3 true false <&&>
      holds .finishFirstFree) :=
    (holds_hush record_blind _).both ((Quiet.done _).both (lease_goes.both (holds_hush record_blind _)))
  refine Goes.hush htyped hs fun typed s hs _ => ?_
  apply Logs.ite (fun _ => Goes.refuse hs (hno _))
  intro _
  refine Goes.hush (native_call hinner fun _ _ => rfl) hs fun holder s hs _ => ?_
  refine Goes.modify hs { Keeps.refl s with } fun s hs _ => ?_
  apply Logs.ite (fun _ => Goes.refuse hs (hno _))
  intro _
  refine Goes.hush (setStage_hush _) hs fun _ s hs _ => ?_
  apply Logs.bind
  apply native_entry hinner hs.below
  intro answer
  refine ⟨if NativeAnswer.allocates answer then .allocated else .nothing, rfl, ?_, ?_⟩
  · intro slot t houtcome hk
    have hallocates : NativeAnswer.allocates answer = decide (slot.toNat % 65536 < 16) := by
      rw [NativeAnswer.allocates, houtcome]
    have ht := hk.point hs
    by_cases hfull : 16 ≤ slot.toNat % 65536
    · have hheld : (if NativeAnswer.allocates answer then Held.allocated else .nothing) = .nothing := by
        rw [hallocates, decide_eq_false (by omega)]
        rfl
      rw [hheld]
      refine Goes.modify ht { Keeps.refl t with } fun t ht _ => ?_
      exact Logs.ite (fun _ => Goes.refuse ht (hno _)) fun hn => absurd hfull hn
    · have hheld : (if NativeAnswer.allocates answer then Held.allocated else .nothing) = .allocated := by
        rw [hallocates, decide_eq_true (by omega)]
        rfl
      rw [hheld]
      apply Logs.modifyBind
      apply Logs.ite (fun hn => absurd hn hfull)
      intro _
      apply Logs.modifyBind
      refine Goes.hush lease_goes (ht.withSlot (slot.toNat % 65536)) fun leased s hs _ => ?_
      exact Logs.ite (fun _ => Goes.refuse hs (hno _)) fun _ => ⟨hs, fun _ => rfl⟩
  · intro code t hk
    have ht := hk.point hs
    refine ⟨ht.below, ht.attempted, ?_, ht.lost.unreleased, .inr (.inl ht.fits.1)⟩
    cases NativeAnswer.allocates answer <;> rfl

theorem submitBind_goes {s : Recovery} (hs : Point .allocated s) :
    Goes (submitBind inner) .allocated s fun held b => b = true → held = .bound := by
  have hno : ∀ held, (false = true → held = Held.bound) := fun _ h => by cases h
  refine Goes.hush (setStage_hush _) hs fun _ s hs _ => ?_
  apply Logs.modifyBind
  apply Logs.bind
  apply native_entry hinner
  · exact hs.below
  intro answer
  refine ⟨if NativeAnswer.completes answer then .bound else .binding, rfl, ?_, ?_⟩
  · intro holder t houtcome hk
    have hcompletes : NativeAnswer.completes answer = true := by rw [NativeAnswer.completes, houtcome]
    rw [if_pos hcompletes]
    apply Logs.modifyBind
    apply Logs.modifyBind
    apply Logs.getBind
    have hchecked : ∀ b : Bool, Hush Held.record (pure b <&&> lease 3 true false : Rec Bool) := fun b =>
      (Quiet.done b).both lease_goes
    refine Goes.hush (hchecked _) (hs.withHolder hk holder) fun bound s hs _ => ?_
    apply Logs.ite (fun _ => Goes.refuse hs (hno _))
    intro _
    refine Goes.hush (native_call hinner fun _ _ => rfl) hs fun _ s hs _ => ?_
    refine Goes.hush ((holds_hush record_blind _).both lease_goes) hs fun resolved s hs _ => ?_
    apply Logs.ite (fun _ => Goes.refuse hs (hno _))
    intro _
    refine Goes.hush (setStage_hush _) hs fun _ s hs _ => ?_
    refine Goes.hush (native_call hinner fun _ _ => rfl) hs fun _ s hs _ => ?_
    refine Goes.hush lease_goes hs fun leased s hs _ => ?_
    exact Logs.ite (fun _ => Goes.refuse hs (hno _)) fun _ => ⟨hs, fun _ => rfl⟩
  · intro code t hk
    exact hs.unbound hk (by cases NativeAnswer.completes answer <;> rfl)

omit hinner in
theorem submitRetire_goes {s : Recovery} (hs : Point held s) : Goes submitRetire held s fun held' _ => held' = held := by
  refine Goes.modify hs { Keeps.refl s with } fun s hs _ => ?_
  refine Goes.hush (setStage_hush _) hs fun _ s hs _ => ?_
  refine Goes.hush ((holds_hush record_blind _).both lease_goes) hs fun retired s hs _ => ?_
  apply Logs.ite
  · intro _
    refine Goes.hush (Quiet.query fun l answer => record_blind _ rfl l answer) hs fun phase s hs _ => ?_
    exact Goes.refuse hs rfl
  · intro _
    refine Goes.hush (holds_hush record_blind _) hs fun same s hs _ => ?_
    exact Logs.ite (fun _ => Goes.refuse hs rfl) fun _ => ⟨hs, rfl⟩

theorem submitCancel_goes {s : Recovery} (hs : Point held s) :
    Goes (submitCancel inner) held s fun held' _ => held' = held := by
  refine Goes.hush (setStage_hush _) hs fun _ s hs _ => ?_
  refine Goes.modify hs { Keeps.refl s with } fun s hs _ => ?_
  refine Goes.hush (native_call hinner fun _ _ => rfl) hs fun _ s hs _ => ?_
  refine Goes.hush (lease_goes.both (holds_hush record_blind _)) hs fun cancelled s hs _ => ?_
  apply Logs.ite (fun _ => Goes.refuse hs rfl)
  intro _
  refine Goes.modify hs { Keeps.refl s with } fun s hs _ => ?_
  apply Logs.getBind
  exact (transition_hush _ _).logs hs.below (fun _ _ _ hk => ⟨hk.point hs, rfl⟩) fun _ _ _ hk => (hk.point hs).lost

theorem submitEnqueue_goes {s : Recovery} (hs : Point .bound s) :
    Goes (submitEnqueue inner) .bound s fun held' _ => held' = .bound := by
  have hfault : ∀ {reason outcome restart} {s : Recovery}, Point .bound s →
      Goes (fault reason outcome restart) .bound s fun held' _ => held' = .bound := fun hs =>
    (fault_hush _ _ _).logs hs.below (fun _ _ _ hk => ⟨hk.point hs, rfl⟩) fun _ _ _ hk => (hk.point hs).lost
  refine Goes.hush (setStage_hush _) hs fun _ s hs _ => ?_
  apply Logs.modifyBind
  have hentered : Point .bound { s with value := { s.value with resourcePhase := .enqueueEntered } } :=
    ⟨hs.below, hs.attempted, .inr rfl, hs.fits.2⟩
  refine Goes.hush (native_call hinner fun _ _ => rfl) hentered fun id s hs _ => ?_
  refine Goes.modify hs { Keeps.refl s with } fun s hs _ => ?_
  refine Goes.modify hs { Keeps.refl s with } fun s hs _ => ?_
  apply Logs.getBind
  apply Logs.ite (fun _ => hfault hs)
  intro _
  refine Goes.modify hs { Keeps.refl s with } fun s hs _ => ?_
  refine Goes.modify hs { Keeps.refl s with } fun s hs _ => ?_
  apply Logs.ite (fun _ => hfault hs)
  intro _
  exact ⟨Keeps.point { Keeps.refl s with } hs, rfl⟩

theorem submitBody_goes {s : Recovery} (hs : Point .nothing s) :
    Goes (submitBody inner) .nothing s fun _ _ => True := by
  have hacquired : Goes (submitAcquire inner <&&> submitBind inner <&&> submitRetire <&&> submitCancel inner) .nothing s
      fun held b => b = true → held = .bound := by
    apply Logs.both
    refine (submitAcquire_goes hinner hs).mono ?_ fun _ _ _ => id
    rintro held b s ⟨hs, hb⟩
    refine ⟨fun h => ?_, fun _ => ⟨hs, fun h => by cases h⟩⟩
    obtain rfl := hb h
    apply Logs.both
    refine (submitBind_goes hinner hs).mono ?_ fun _ _ _ => id
    rintro held b s ⟨hs, hb⟩
    refine ⟨fun h => ?_, fun _ => ⟨hs, fun h => by cases h⟩⟩
    obtain rfl := hb h
    apply Logs.both
    refine (submitRetire_goes hs).mono ?_ fun _ _ _ => id
    rintro held b s ⟨hs, rfl⟩
    refine ⟨fun _ => ?_, fun _ => ⟨hs, fun h => by cases h⟩⟩
    refine (submitCancel_goes hinner hs).mono ?_ fun _ _ _ => id
    rintro held b s ⟨hs, rfl⟩
    exact ⟨hs, fun _ => rfl⟩
  apply Logs.bind
  refine hacquired.mono ?_ fun _ _ _ => id
  rintro held b s ⟨hs, hb⟩
  apply Logs.ite
  · intro h
    obtain rfl := hb h
    exact (submitEnqueue_goes hinner hs).mono (fun _ _ _ ht => ⟨ht.1, trivial⟩) fun _ _ _ => id
  · exact fun _ => ⟨hs, trivial⟩

def Recovery.restarting (r : Recovery) : Prop := r.terminal = true ∧ r.value.flags.restartRequired = true

omit hinner in
theorem Keeps.restarting (h : Keeps r r') (hr : r.restarting) : r'.restarting := ⟨h.terminal hr.1, h.restart hr.2⟩

omit hinner in
theorem observeFailure_restarts (code : UInt32) {s : Recovery} {post : Held → Unit → Recovery → Prop}
    {left : Held → UInt32 → Recovery → Prop} (h : ∀ t, Keeps s t → t.restarting → post held () t) :
    (observeFailure false code).Logs Held.record held s post left := by
  apply Logs.modifyBind
  apply Logs.modifyBind
  apply Logs.modifyBind
  refine h _ (Keeps.trans ?_ (fault_keeps _ _ _ _).1) ⟨(fault_keeps _ _ _ _).2, fault_critical _ rfl _⟩
  exact { Keeps.refl s with }

theorem submitBody_filtered {s : Recovery} (hs : Point .nothing s) :
    ((submitBody inner).filtered (observeFailure false)).Logs Held.record .nothing s (fun held _ t => Point held t)
      fun held _ t => Lost held t ∧ t.restarting := by
  apply Logs.filtered
  refine (submitBody_goes hinner hs).mono (fun _ _ _ ht => ht.1) fun held code t ht => ?_
  exact observeFailure_restarts code fun u hk hu => ⟨hk.lost ht, hu⟩

/-- What the way out makes of what is held. -/
structure Settled (held : Held) (m : Recovery) (held' : Held) (t : Recovery) : Prop where
  restarting : m.restarting → t.restarting
  done : held' = .released ∨ t.restarting ∨ held' = held ∧ m.value.resourcePhase = .none
  kept : m.value.resourcePhase = .none ∨ m.incomplete = true → held' = held

omit hinner in
theorem Keeps.settled {m t u : Recovery} {held' : Held} (h : Keeps t u) (hs : Settled held m held' t) :
    Settled held m held' u where
  restarting hr := h.restarting (hs.restarting hr)
  done := hs.done.imp_right (Or.imp_left h.restarting)
  kept := hs.kept

omit hinner in
theorem Lost.release (h : Lost held r) (hp : r.value.resourcePhase ≠ .none) (hi : r.incomplete = false) :
    (r.value.resourcePhase = .allocatedUnbound ∧ held = .allocated) ∨
      (r.value.resourcePhase ≠ .allocatedUnbound ∧ held = .bound) := by
  have hfits := h.fits
  rw [hi] at hfits
  have hfits : held.Fits r := hfits.resolve_right fun hn => hn.elim hp fun hn => by cases hn
  cases held with
  | nothing => exact absurd hfits.1 hp
  | allocated => exact .inl ⟨hfits.1, rfl⟩
  | bound =>
      refine .inr ⟨fun ha => ?_, rfl⟩
      rcases hfits.1 with hn | hn <;> exact absurd (ha.symm.trans hn) (by decide)
  | binding => exact hfits.elim
  | releasing => exact hfits.elim
  | released => exact hfits.elim

omit hinner in
theorem inverse_logs {s : Recovery} (hs : Below s) {post : Held → Bool → Recovery → Prop}
    {left : Held → UInt32 → Recovery → Prop} (hno : post held false s)
    (hyes : s.incomplete = false → post held true s) : inverse.Logs Held.record held s post left := by
  have hlogs : inverse.Logs Held.record held s (fun held' b _ => held' = held ∧ (b = true → s.incomplete = false))
      fun _ _ _ => True := by
    apply Logs.getBind
    apply Logs.ite
    · exact fun _ => ⟨rfl, fun hn => by cases hn⟩
    · intro hc
      have hcomplete : s.incomplete = false := by
        rw [Recovery.incomplete]
        cases hentered : s.bindEntered with
        | false => rfl
        | true =>
            cases hcompleted : s.bindCompleted with
            | true => rfl
            | false => exact absurd ⟨hentered, by rw [hcompleted]; rfl⟩ hc
      have hasked : ∀ bound, Hush Held.record (holds .safeOwner <&&> sameLifecycle <&&> holds .nativeProfile <&&>
          holds (.finishInverse bound) <&&> holds .safeOwner) := fun bound =>
        (holds_hush record_blind _).both ((sameLifecycle_hush record_blind).both ((holds_hush record_blind _).both
          ((holds_hush record_blind _).both (holds_hush record_blind _))))
      exact (hasked _).logs hs (fun _ _ _ _ => ⟨rfl, fun _ => hcomplete⟩) fun _ _ _ _ => trivial
  refine (hlogs.ends (inverse_still s)).mono ?_ ?_
  · rintro held' b t ⟨⟨rfl, hb⟩, rfl⟩
    cases b with
    | false => exact hno
    | true => exact hyes (hb rfl)
  · rintro held' e t ⟨-, hn⟩
    exact hn.elim

theorem release_logs (held : Held) (call : NativeCall) {m s : Recovery} (hs : Below s) (hm : m.restarting → s.restarting)
    (hp : m.value.resourcePhase ≠ .none) (hi : m.incomplete = false) {g : UInt32 → Rec Unit}
    (hcall : ∀ answer : NativeAnswer, held.record ⟨.native call, answer⟩ =
      some (if NativeAnswer.completes answer then .released else .releasing))
    (hg : ∀ value t, ∃ f : Recovery → Recovery, g value = Act.modify f ∧ (t.restarting → (f t).restarting)) :
    (native inner (observeFailure false) call >>= g).Logs Held.record held s (fun held' _ t => Settled held m held' t)
      fun _ _ t => (m.restarting → t.restarting) ∧ m.value.resourcePhase ≠ .none ∧ m.incomplete = false := by
  apply Logs.bind
  apply native_entry hinner hs
  intro answer
  refine ⟨_, hcall answer, fun value t houtcome hk => ?_, fun code t hk => ⟨hk.restarting ∘ hm, hp, hi⟩⟩
  have hcompletes : NativeAnswer.completes answer = true := by rw [NativeAnswer.completes, houtcome]
  rw [if_pos hcompletes]
  obtain ⟨f, hf, hrestarting⟩ := hg value t
  rw [hf]
  refine ⟨fun hr => hrestarting (hk.restarting (hm hr)), .inl rfl, fun hn => ?_⟩
  rcases hn with hn | hn
  · exact absurd hn hp
  · rw [hi] at hn
    cases hn

theorem releaseOwned_settles {m : Recovery} (hm : Lost held m) :
    (releaseOwned inner).Logs Held.record held m (fun held' _ t => Settled held m held' t)
      fun _ _ t => (m.restarting → t.restarting) ∧ m.value.resourcePhase ≠ .none ∧ m.incomplete = false := by
  apply Logs.getBind
  apply Logs.ite
  · rintro (hn | hn | hn)
    · exact ⟨id, .inr (.inr ⟨rfl, hn⟩), fun _ => rfl⟩
    · exact absurd hn hm.unreleased
    · rw [hm.attempted] at hn
      cases hn
  · intro hc
    simp only [not_or] at hc
    have hp := hc.1
    apply Logs.bind
    apply inverse_logs hm.below
    · apply Logs.ite
      · intro _
        have hrestarting : (m.fault .inverseUnavailable .nativeUnwind true).restarting :=
          ⟨(fault_keeps _ _ _ _).2, fault_critical _ rfl _⟩
        exact ⟨fun _ => hrestarting, .inr (.inl hrestarting), fun _ => rfl⟩
      · intro hn
        exact absurd rfl hn
    · intro hi
      apply Logs.ite (fun hn => by cases hn)
      intro _
      apply Logs.modifyBind
      apply Logs.modifyBind
      apply Logs.ite
      · intro ha
        obtain ⟨-, rfl⟩ := (hm.release hp hi).resolve_right fun hn => hn.1 ha
        refine release_logs hinner .allocated .finishRelease ?_ ?_ hp hi (fun _ => rfl) ?_
        · exact hm.below
        · exact id
        · exact fun _ t => ⟨fun t => { t with value := { t.value with resourcePhase := .localReleased } }, rfl, id⟩
      · intro ha
        obtain ⟨-, rfl⟩ := (hm.release hp hi).resolve_left fun hn => ha hn.1
        refine release_logs hinner .bound .releaseHolder ?_ ?_ hp hi (fun _ => rfl) ?_
        · exact hm.below
        · exact id
        · exact fun holder t =>
            ⟨fun t => { t with holder := holder, value := { t.value with resourcePhase := .localReleased } }, rfl, id⟩

theorem submitCleanup_settles {m : Recovery} (hm : Lost held m) (abnormal : Bool) :
    ((submitCleanup inner abnormal).filtered (observeFailure false)).Logs Held.record held m
      (fun held' _ t => Settled held m held' t) fun held' _ t => Settled held m held' t := by
  apply Logs.filtered
  apply Logs.bind
  refine (releaseOwned_settles hinner hm).mono ?_ ?_
  · intro held' _ t ht
    apply Logs.ite
    · intro _
      exact Keeps.settled { Keeps.refl t with } ht
    · exact fun _ => ht
  · rintro held' code t ⟨ht, hp, hi⟩
    refine observeFailure_restarts code fun u hk hu => ⟨fun _ => hu, .inr (.inl hu), fun hn => ?_⟩
    rcases hn with hn | hn
    · exact absurd hn hp
    · rw [hi] at hn
      cases hn

omit hinner in
theorem native_first {filter : UInt32 → Rec Unit} {call : NativeCall} {g : UInt32 → Rec Unit} {s : Recovery}
    {events : List (Sigma Answer)} {r : Except UInt32 Unit × Recovery}
    (h : Yields ((native inner filter call >>= g) s) events r) :
    ∃ answer rest, events = ⟨.native call, answer⟩ :: rest := by
  obtain ⟨before, a, after, rfl, hcall, -⟩ := Yields.of_bind h
  have hask : Yields (Ask.bind (Act.query (Question.native call) s) _) before a := hcall
  cases hask with
  | ask answer hrest => exact ⟨answer, _, rfl⟩

def Recovery.releaseCall (r : Recovery) : NativeCall :=
  if r.value.resourcePhase = .allocatedUnbound then .finishRelease else .releaseHolder

omit hinner in
/-- Once the inverse is proven, its call is the next thing asked. -/
theorem submitCleanup_releases {m m' : Recovery} (hm : Lost held m) (hp : m.value.resourcePhase ≠ .none) {abnormal : Bool}
    {asked rest : List (Sigma Answer)} {r : Except UInt32 Unit × Recovery}
    (h : Yields ((submitCleanup inner abnormal).filtered (observeFailure false) m) (asked ++ rest) r)
    (hinverse : Yields (inverse m) asked (.ok true, m')) :
    ∃ answer rest', rest = ⟨.native m.releaseCall, answer⟩ :: rest' := by
  obtain ⟨all, a, tail, heq, hcleanup, -⟩ := Yields.of_bind h
  obtain ⟨own, b, tail', rfl, hown, -⟩ := Yields.of_bind hcleanup
  have hc : ¬(m.value.resourcePhase = .none ∨ m.value.resourcePhase = .localReleased ∨
      m.resourceReleaseAttempted = true) := by
    rintro (hn | hn | hn)
    · exact hp hn
    · exact hm.unreleased hn
    · rw [hm.attempted] at hn
      cases hn
  unfold releaseOwned at hown
  dsimp only [Act.bind_def, Act.get, Act.bind, Ask.bind] at hown
  rw [if_neg hc] at hown
  obtain ⟨first, c, last, rfl, hfirst, hlast⟩ := Yields.of_bind hown
  rw [List.append_assoc, List.append_assoc] at heq
  obtain ⟨rfl, rfl, hrest⟩ := Yields.cut_unique hinverse hfirst heq
  dsimp only at hlast
  rw [if_neg (by decide)] at hlast
  obtain ⟨noted, d, last, rfl, hnoted, hlast⟩ := Yields.of_bind hlast
  cases hnoted
  obtain ⟨staged, d, last, rfl, hstaged, hlast⟩ := Yields.of_bind hlast
  cases hstaged
  have hgone : ∃ answer others, last = ⟨.native m.releaseCall, answer⟩ :: others := by
    by_cases ha : m.value.resourcePhase = .allocatedUnbound
    · rw [Recovery.releaseCall, if_pos ha]
      dsimp only at hlast
      rw [if_pos ha] at hlast
      exact native_first hlast
    · rw [Recovery.releaseCall, if_neg ha]
      dsimp only at hlast
      rw [if_neg ha] at hlast
      exact native_first hlast
  obtain ⟨answer, others, rfl⟩ := hgone
  exact ⟨answer, others ++ (tail' ++ tail), hrest⟩

end Recipe

/-- What the recipe of the finish request does with what it holds. -/
structure FinishReleases (depth : Nat) (s : Recovery) (events : List (Sigma Answer)) (t : Recovery) : Prop where
  /-- Every resource call has its place, and at the end nothing is held without a restart. -/
  ledger : ∃ held, events.foldlM Held.record .nothing = some held ∧
    (held = .nothing ∨ held = .released ∨ t.restarting)
  /-- What is held is given back on the way out and nowhere else, never after a
  bind that did not come back, and always where its inverse is proven. -/
  wayOut : ∃ before after result m, events = before ++ after ∧
    Yields ((submitBody (occur depth)).filtered (observeFailure false) s.begun) before (result, m) ∧
    (∀ e ∈ before, e.1.releases = false) ∧
    (m.incomplete = true → ∀ e ∈ after, e.1.releases = false) ∧
    (m.value.resourcePhase ≠ .none → ∀ asked rest m', after = asked ++ rest →
      Yields (inverse m) asked (.ok true, m') → ∃ answer rest', rest = ⟨.native m.releaseCall, answer⟩ :: rest')

/-- What the two parts of the recipe come to. -/
theorem finish_parts {inner : Occurrence → Rec Unit} (hinner : ∀ o, Hush Held.record (inner o)) {m : Recovery}
    {held : Held} (hm : Lost held m) (hend : Point held m ∨ m.restarting) (abnormal : Bool)
    {events : List (Sigma Answer)} {r : Except UInt32 Unit} {t : Recovery}
    (h : Yields ((submitCleanup inner abnormal).filtered (observeFailure false) m) events (r, t)) :
    ∃ held', events.foldlM Held.record held = some held' ∧
      (held' = .nothing ∨ held' = .released ∨ t.restarting) ∧
      (m.incomplete = true → ∀ e ∈ events, e.1.releases = false) := by
  have hsettled : ∃ held', events.foldlM Held.record held = some held' ∧ Settled held m held' t := by
    cases r with
    | ok a => exact (submitCleanup_settles hinner hm abnormal).yields_ok h
    | error e => exact (submitCleanup_settles hinner hm abnormal).yields_error h
  obtain ⟨held', hfold, hs⟩ := hsettled
  refine ⟨held', hfold, ?_, fun hi => ?_⟩
  · rcases hs.done with hreleased | hrestarting | ⟨rfl, hnone⟩
    · exact .inr (.inl hreleased)
    · exact .inr (.inr hrestarting)
    · rcases hend with hp | hrestarting
      · left
        have hfits := hp.fits
        cases held' with
        | nothing => rfl
        | allocated => exact absurd (hfits.1.symm.trans hnone) (by decide)
        | bound => rcases hfits.1 with hb | hb <;> exact absurd (hb.symm.trans hnone) (by decide)
        | binding => exact hfits.elim
        | releasing => exact hfits.elim
        | released => exact hfits.elim
      · exact .inr (.inr (hs.restarting hrestarting))
  · obtain rfl := hs.kept (.inr hi)
    exact no_release hfold hm.given

theorem yields_of_bind {α β : Type} {p : Rec α} {f : α → Rec β} (hf : ∀ a s, ∃ x, f a s = .done (x, s)) {s t : Recovery}
    {events : List (Sigma Answer)} {r : Except UInt32 β} (h : Yields ((p >>= f) s) events (r, t)) :
    ∃ r', Yields (p s) events (r', t) := by
  obtain ⟨before, ⟨r', m⟩, after, rfl, hp, hrest⟩ := Yields.of_bind h
  cases r' with
  | error e =>
      cases hrest
      rw [List.append_nil]
      exact ⟨.error e, hp⟩
  | ok a =>
      obtain ⟨x, hx⟩ := hf a m
      dsimp only at hrest
      rw [hx] at hrest
      cases hrest
      rw [List.append_nil]
      exact ⟨.ok a, hp⟩

/-- From any state with nothing on its hands, below a pump. -/
theorem finish_releases_once (depth : Nat) {s : Recovery} (hs : Point .nothing s) {events : List (Sigma Answer)}
    {r : Except UInt32 Unit} {t : Recovery} (h : Yields (submitFinish (occur depth) s) events (r, t)) :
    FinishReleases depth s events t := by
  have hinner : ∀ o, Hush Held.record (occur depth o) := occur_hush record_blind depth
  have hbegun : Point .nothing s.begun := ⟨hs.below, hs.attempted, hs.fits⟩
  have hbody := submitBody_filtered hinner hbegun
  have hwhole : Yields ((((submitBody (occur depth)).filtered (observeFailure false)).cleaned fun abnormal =>
      (submitCleanup (occur depth) abnormal).filtered (observeFailure false)) s.begun) events (r, t) := h
  obtain ⟨before, ⟨result, m⟩, after, rfl, hbefore, hafter⟩ := Yields.of_bind hwhole
  have hparts : ∃ held abnormal r', before.foldlM Held.record .nothing = some held ∧ Lost held m ∧
      (Point held m ∨ m.restarting) ∧
      Yields ((submitCleanup (occur depth) abnormal).filtered (observeFailure false) m) after (r', t) := by
    cases result with
    | ok a =>
        obtain ⟨held, hfold, hm⟩ := hbody.yields_ok hbefore
        obtain ⟨r', hcleanup⟩ := yields_of_bind (f := fun _ => Act.done a) (fun _ s => ⟨.ok a, rfl⟩) hafter
        exact ⟨held, false, r', hfold, hm.lost, .inl hm, hcleanup⟩
    | error e =>
        obtain ⟨held, hfold, hm, hrestarting⟩ := hbody.yields_error hbefore
        obtain ⟨r', hcleanup⟩ := yields_of_bind (f := fun _ => (Act.raise e : Rec Unit)) (fun _ s => ⟨.error e, rfl⟩) hafter
        exact ⟨held, true, r', hfold, hm, .inr hrestarting, hcleanup⟩
  obtain ⟨held, abnormal, r', hfold, hm, hend, hcleanup⟩ := hparts
  obtain ⟨held', hfold', hheld, hincomplete⟩ := finish_parts hinner hm hend abnormal hcleanup
  refine ⟨⟨held', ?_, hheld⟩, before, after, result, m, rfl, hbefore, no_release hfold hm.given, hincomplete, ?_⟩
  · rw [List.foldlM_append, hfold]
    exact hfold'
  · rintro hp asked rest m' rfl hinverse
    exact submitCleanup_releases hm hp hcleanup hinverse

/-- Where the guards of a visit enter the recipe there is nothing on its hands. -/
theorem Asking.point (h : Asking r) (quota : CaptureReservation) : Point .nothing { r with recoveryQuota := quota } := by
  have hpristine := h.pause.1.1.core.pristine h.recipe
  have hbelow : Below r := fun hn => Nat.one_ne_zero (h.pause.1.1.pump.symm.trans hn)
  exact ⟨hbelow, hpristine.releaseAttempted, hpristine.resource, hpristine.bindEntered, hpristine.bindCompleted⟩

/-- A visit that comes to the recipe enters it with nothing on its hands. -/
theorem qualify_finishes (depth : Nat) (capture : Capture) {s : Recovery} (hs : Asking s) {events : List (Sigma Answer)}
    {result : Except UInt32 Unit} {t : Recovery} (h : Yields (qualify (occur depth) capture s) events (result, t)) :
    t.recipeEntered = false ∨ ∃ before after m, events = before ++ after ∧ Point .nothing m ∧
      Yields (submitFinish (occur depth) m) after (result, t) ∧ FinishReleases depth m after t := by
  rw [qualify_eq] at h
  obtain ⟨before, ⟨guarded, m⟩, after, rfl, hguards, hrest⟩ := Yields.of_bind h
  have hend := (qualifyGuards_ends capture hs).yields hguards
  cases guarded with
  | error e =>
      cases hrest
      exact .inl hend.1.recipe
  | ok quiet =>
      cases quiet with
      | false =>
          cases hrest
          exact .inl hend.1.recipe
      | true =>
          obtain ⟨u, rfl, hu, -⟩ := hend
          have hpoint := hu.point ⟨9, true⟩
          exact .inr ⟨before, after, _, rfl, hpoint, hrest, finish_releases_once depth hpoint hrest⟩

def heldNothing : Recovery :=
  { (Recovery.initial 2 .observe 1000 .running).within 1 0 1 with
    value := { RecoveryValue.zero with
      sdkEpoch := 1, sourceEpoch := 1, finishDeadlineQpc := 100000, overallDeadlineQpc := 100000 } }

def finishTalk : List (Sigma Answer) × Except UInt32 Unit × Recovery :=
  (submitFinish (occur 1) heldNothing).talk (Surroundings.respond {}) 1

theorem heldNothing_point : Point .nothing heldNothing := ⟨Nat.one_ne_zero, rfl, rfl, rfl, rfl⟩

theorem finish_releases_once_sample : FinishReleases 1 heldNothing finishTalk.1 finishTalk.2.2 :=
  finish_releases_once 1 heldNothing_point
    (Yields.talk_pair (Surroundings.respond {}) 1 (submitFinish (occur 1) heldNothing))

end RS2ServerFix.LeechRecovery
