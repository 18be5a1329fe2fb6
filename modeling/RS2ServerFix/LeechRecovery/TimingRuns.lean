import RS2ServerFix.LeechRecovery.Timing

namespace RS2ServerFix.LeechRecovery.PrimaryCallbackTiming

/-- A call on the measurement and its clock, `none` where the clock failed. -/
inductive Event
  | claim (qpc : Option Nat)
  | enterNative (qpc : Option Nat)
  | leaveNative (qpc : Option Nat)
  | beginFilter (qpc : Option Nat)
  | endFilter (qpc : Option Nat)
  | beginUnwind (qpc : Option Nat)
  | finalize (qpc : Option Nat)
  | invalidate
  deriving DecidableEq, Repr

def step (t : PrimaryCallbackTiming) : Event → PrimaryCallbackTiming
  | .claim qpc => (t.claim qpc).1
  | .enterNative qpc => t.enterNative qpc
  | .leaveNative qpc => t.leaveNative qpc
  | .beginFilter qpc => t.beginFilter qpc
  | .endFilter qpc => t.endFilter qpc
  | .beginUnwind qpc => t.beginUnwind qpc
  | .finalize qpc => t.finalize qpc
  | .invalidate => t.invalidate

def run (t : PrimaryCallbackTiming) (es : List Event) : PrimaryCallbackTiming := es.foldl step t

namespace Event

def clock : Event → Option Nat
  | .claim qpc | .enterNative qpc | .leaveNative qpc | .beginFilter qpc | .endFilter qpc | .beginUnwind qpc
  | .finalize qpc => qpc
  | .invalidate => none

def isClaim : Event → Bool
  | .claim _ => true
  | _ => false

def isUnwind : Event → Bool
  | .beginUnwind _ => true
  | _ => false

def isFinalize : Event → Bool
  | .finalize _ => true
  | _ => false

end Event

/-- Where the callback is: in the library, in a native call, or in the exception
filter of one of them. -/
inductive Place
  | own | native | filterOwn | filterNative
  deriving DecidableEq, Repr

namespace Place

def segment : Place → PrimaryCallbackTimingSegment
  | .own => .own
  | .native => .native
  | .filterOwn | .filterNative => .filter

def parent : Place → PrimaryCallbackTimingSegment
  | .own | .native => .none
  | .filterOwn => .own
  | .filterNative => .native

def next : Place → Event → Option Place
  | .own, .enterNative _ => some .native
  | .native, .leaveNative _ => some .own
  | .own, .beginFilter _ => some .filterOwn
  | .native, .beginFilter _ => some .filterNative
  | .filterOwn, .endFilter _ => some .own
  | .filterNative, .endFilter _ => some .native
  | .own, .beginUnwind _ | .native, .beginUnwind _ => some .own
  | .own, .finalize _ => some .own
  | _, _ => none

end Place

def goodClock (last : Nat) : Option Nat → Bool
  | none => false
  | some q => 0 < q && q ≤ qpcMax && last ≤ q

/-- Every event is allowed where it comes and has a good clock. A further claim is no event. -/
def clean : Place → Nat → List Event → Bool
  | _, _, [] => true
  | p, last, e :: es =>
      if e.isClaim then clean p last es
      else
        match p.next e with
        | none => false
        | some p' => goodClock last e.clock && clean p' (e.clock.getD 0) es

structure Stretch where
  place : Place
  start : Nat
  stop : Nat
  /-- An unwind starts the own interval again and drops what it had. -/
  dropped : Bool
  deriving DecidableEq, Repr

def Stretch.counts (s : Stretch) : Bool := s.place != .native && !s.dropped

def Stretch.length (s : Stretch) : Nat := s.stop - s.start

def timeline : Place → Nat → List Event → List Stretch
  | _, _, [] => []
  | p, last, e :: es =>
      if e.isClaim then timeline p last es
      else
        ⟨p, last, e.clock.getD 0, decide (p = .own) && e.isUnwind⟩ ::
          timeline ((p.next e).getD p) (e.clock.getD 0) es

def counted (ss : List Stretch) : Nat := ((ss.filter Stretch.counts).map Stretch.length).sum

def lastClock : Nat → List Event → Nat
  | last, [] => last
  | last, e :: es => if e.isClaim then lastClock last es else lastClock (e.clock.getD 0) es

def upToFinalize : List Event → Option (List Event)
  | [] => none
  | e :: es => if e.isFinalize then some [e] else (upToFinalize es).map (e :: ·)

/-- What a sequence of events measures. -/
inductive Measured
  | unclaimed
  | unfinished
  | finished (claimed : Option Nat) (es : List Event)
  deriving DecidableEq, Repr

def measured : List Event → Measured
  | [] => .unclaimed
  | e :: es =>
      if e.isClaim then
        match upToFinalize es with
        | none => .unfinished
        | some es => .finished e.clock es
      else measured es

section Timeline

theorem goodClock_some {last : Nat} {qpc : Option Nat} (h : goodClock last qpc = true) :
    ∃ q, qpc = some q ∧ 0 < q ∧ q ≤ qpcMax ∧ last ≤ q := by
  cases qpc with
  | none => cases h
  | some q =>
      simp only [goodClock, Bool.and_eq_true, decide_eq_true_eq] at h
      exact ⟨q, rfl, h.1.1, h.1.2, h.2⟩

theorem clean_cons {p : Place} {last : Nat} {e : Event} {es : List Event} (he : e.isClaim = false)
    (h : clean p last (e :: es) = true) :
    ∃ p' q, p.next e = some p' ∧ e.clock = some q ∧ (0 < q ∧ q ≤ qpcMax ∧ last ≤ q) ∧ clean p' q es = true := by
  rw [clean, if_neg (by rw [he]; exact Bool.false_ne_true)] at h
  cases hp : p.next e with
  | none =>
      rw [hp] at h
      cases h
  | some p' =>
      rw [hp] at h
      dsimp only at h
      rw [Bool.and_eq_true] at h
      obtain ⟨q, hq, hgood⟩ := goodClock_some h.1
      rw [hq] at h
      exact ⟨p', q, rfl, hq, hgood, h.2⟩

theorem clean_stop {p : Place} {last : Nat} {e : Event} {es : List Event} (he : e.isClaim = false)
    (h : p.next e = none ∨ goodClock last e.clock = false) : clean p last (e :: es) = false := by
  rw [clean, if_neg (by rw [he]; exact Bool.false_ne_true)]
  cases hp : p.next e with
  | none => rfl
  | some p' =>
      rw [hp] at h
      obtain h | h := h
      · cases h
      · dsimp only
        rw [h, Bool.false_and]

theorem clean_go {p p' : Place} {last q : Nat} {e : Event} {es : List Event} (he : e.isClaim = false)
    (hp : p.next e = some p') (hq : e.clock = some q) (hgood : goodClock last (some q) = true) :
    clean p last (e :: es) = clean p' q es := by
  rw [clean, if_neg (by rw [he]; exact Bool.false_ne_true), hp, hq]
  dsimp only
  rw [hgood, Bool.true_and]
  rfl

theorem timeline_cons {p p' : Place} {last q : Nat} {e : Event} {es : List Event} (he : e.isClaim = false)
    (hp : p.next e = some p') (hq : e.clock = some q) :
    timeline p last (e :: es) = ⟨p, last, q, decide (p = .own) && e.isUnwind⟩ :: timeline p' q es := by
  rw [timeline, if_neg (by rw [he]; exact Bool.false_ne_true), hp, hq]
  rfl

theorem lastClock_cons {last q : Nat} {e : Event} {es : List Event} (he : e.isClaim = false)
    (hq : e.clock = some q) : lastClock last (e :: es) = lastClock q es := by
  rw [lastClock, if_neg (by rw [he]; exact Bool.false_ne_true), hq]
  rfl

/-- The stretches follow one another from the first clock to the last. -/
structure Consecutive (first last : Nat) (ss : List Stretch) : Prop where
  forward : ∀ s ∈ ss, first ≤ s.start ∧ s.start ≤ s.stop ∧ s.stop ≤ last
  disjoint : ss.Pairwise fun s s' => s.stop ≤ s'.start
  counted : counted ss ≤ last - first

theorem timeline_consecutive {p : Place} {first : Nat} {es : List Event} (h : clean p first es = true)
    (hfirst : first ≤ qpcMax) :
    first ≤ lastClock first es ∧ lastClock first es ≤ qpcMax ∧
      Consecutive first (lastClock first es) (timeline p first es) := by
  induction es generalizing p first with
  | nil => exact ⟨le_rfl, hfirst, by simp [timeline], List.Pairwise.nil, Nat.zero_le _⟩
  | cons e es ih =>
      by_cases he : e.isClaim = true
      · rw [clean, if_pos he] at h
        rw [timeline, lastClock, if_pos he, if_pos he]
        exact ih h hfirst
      · rw [Bool.not_eq_true] at he
        obtain ⟨p', q, hp, hq, ⟨-, hmax, hle⟩, hrest⟩ := clean_cons he h
        obtain ⟨hfrom, hlast, hforward, hdisjoint, hcounted⟩ := ih hrest hmax
        rw [timeline_cons he hp hq, lastClock_cons he hq]
        refine ⟨hle.trans hfrom, hlast, ⟨fun s hs => ?_, ?_, ?_⟩⟩
        · obtain rfl | hs := List.mem_cons.mp hs
          · exact ⟨le_rfl, hle, hfrom⟩
          · obtain ⟨hstart, hstop⟩ := hforward s hs
            exact ⟨hle.trans hstart, hstop⟩
        · exact List.pairwise_cons.mpr ⟨fun s hs => (hforward s hs).1, hdisjoint⟩
        · unfold PrimaryCallbackTiming.counted at hcounted ⊢
          rw [List.filter_cons]
          split
          · rw [List.map_cons, List.sum_cons, Stretch.length]
            dsimp only
            omega
          · omega

end Timeline

/-- The measurement is in a place and has not been spoiled since its first clock. -/
structure During (t : PrimaryCallbackTiming) (p : Place) (first last : Nat) : Prop where
  phase : t.phase = .inProgress
  invalid : t.invalid = false
  segment : t.segment = p.segment
  parent : t.filterParent = p.parent
  lastQpc : t.lastQpc = last
  start : p ≠ .native → t.segmentStartQpc = last
  ticks : t.ticks + first ≤ last
  positive : 0 < last
  bound : last ≤ qpcMax

section Runs

variable {t : PrimaryCallbackTiming} {p p' : Place} {first last q : Nat}

theorem endpoint_good (hq : 0 < q ∧ q ≤ qpcMax ∧ t.lastQpc ≤ q) :
    t.endpoint (some q) = ({ t with lastQpc := q }, true) := by
  rw [endpoint, if_neg (by omega)]

theorem endpoint_bad {qpc : Option Nat} (h : goodClock t.lastQpc qpc = false) :
    t.endpoint qpc = ({ t with invalid := true }, false) := by
  cases qpc with
  | none => rfl
  | some q =>
      simp only [goodClock, Bool.and_eq_false_iff, decide_eq_false_iff_not] at h
      rw [endpoint, if_pos (by omega)]

theorem closeOwn_good (hvalid : t.invalid = false) (hstart : 0 < t.segmentStartQpc) (hle : t.segmentStartQpc ≤ q)
    (hfits : t.ticks + (q - t.segmentStartQpc) ≤ qpcMax) :
    t.closeOwn (some q) = { t with ticks := t.ticks + (q - t.segmentStartQpc) } := by
  rw [closeOwn, if_neg (by rw [hvalid]; exact Bool.false_ne_true)]
  dsimp only [Option.getD_some]
  rw [if_neg (by omega), if_neg (by omega)]

theorem closeOwn_spoiled {qpc : Option Nat} (h : t.invalid = true) : t.closeOwn qpc = t := by
  rw [closeOwn, if_pos h]

theorem During.close (h : During t p first last) (hp : p ≠ .native) (hq : 0 < q ∧ q ≤ qpcMax ∧ last ≤ q) :
    (t.endpoint (some q)).1.closeOwn (some q) = { t with lastQpc := q, ticks := t.ticks + (q - last) } := by
  have hstart := h.start hp
  have hpositive := h.positive
  have hticks := h.ticks
  rw [endpoint_good (h.lastQpc ▸ hq)]
  have hgood := @closeOwn_good { t with lastQpc := q } q h.invalid (by dsimp only; omega) (by dsimp only; omega)
    (by dsimp only; omega)
  dsimp only at hgood ⊢
  rw [hgood, hstart]

theorem During.active (h : During t p first last) : ¬t.phase ≠ .inProgress := not_not.mpr h.phase

theorem During.enterNative (h : During t .own first last) (hq : 0 < q ∧ q ≤ qpcMax ∧ last ≤ q) :
    During (t.enterNative (some q)) .native first q ∧ (t.enterNative (some q)).ticks = t.ticks + (q - last) := by
  have hticks := h.ticks
  rw [PrimaryCallbackTiming.enterNative, if_neg h.active, if_neg (by simp [h.segment, h.parent, Place.segment, Place.parent]),
    h.close (by decide) hq]
  exact ⟨⟨h.phase, h.invalid, rfl, h.parent, rfl, fun hne => absurd rfl hne, by dsimp only; omega, hq.1, hq.2.1⟩, rfl⟩

theorem During.beginOwn (h : During t p first last) (hparent : p.parent = .none) (hq : 0 < q ∧ q ≤ qpcMax ∧ last ≤ q) :
    During (t.beginOwn (some q)) .own first q ∧ (t.beginOwn (some q)).ticks = t.ticks := by
  have hticks := h.ticks
  rw [PrimaryCallbackTiming.beginOwn, endpoint_good (h.lastQpc ▸ hq)]
  exact ⟨⟨h.phase, h.invalid, rfl, h.parent.trans hparent, rfl, fun _ => rfl, by dsimp only; omega, hq.1, hq.2.1⟩, rfl⟩

theorem During.leaveNative (h : During t .native first last) (hq : 0 < q ∧ q ≤ qpcMax ∧ last ≤ q) :
    During (t.leaveNative (some q)) .own first q ∧ (t.leaveNative (some q)).ticks = t.ticks := by
  rw [PrimaryCallbackTiming.leaveNative, if_neg h.active,
    if_neg (by simp [h.segment, h.parent, Place.segment, Place.parent])]
  exact h.beginOwn rfl hq

theorem During.beginUnwind (h : During t p first last) (hp : p = .own ∨ p = .native)
    (hq : 0 < q ∧ q ≤ qpcMax ∧ last ≤ q) :
    During (t.beginUnwind (some q)) .own first q ∧ (t.beginUnwind (some q)).ticks = t.ticks := by
  have hparent : p.parent = .none := by
    obtain rfl | rfl := hp
    · rfl
    · rfl
  have hsegment : p.segment = .own ∨ p.segment = .native := hp.imp (congrArg Place.segment) (congrArg Place.segment)
  have hticks := h.ticks
  rw [PrimaryCallbackTiming.beginUnwind, if_neg h.active, if_neg (by rw [h.segment, h.parent, hparent]; tauto),
    endpoint_good (h.lastQpc ▸ hq), PrimaryCallbackTiming.beginOwn, endpoint_good ⟨hq.1, hq.2.1, le_rfl⟩]
  exact ⟨⟨h.phase, h.invalid, rfl, h.parent.trans hparent, rfl, fun _ => rfl, by dsimp only; omega, hq.1, hq.2.1⟩, rfl⟩

theorem During.beginFilter_own (h : During t .own first last) (hq : 0 < q ∧ q ≤ qpcMax ∧ last ≤ q) :
    During (t.beginFilter (some q)) .filterOwn first q ∧
      (t.beginFilter (some q)).ticks = t.ticks + (q - last) := by
  have hticks := h.ticks
  have hclose := h.close (by decide) hq
  rw [endpoint_good (h.lastQpc ▸ hq)] at hclose
  rw [PrimaryCallbackTiming.beginFilter, if_neg h.active,
    if_neg (by simp [h.segment, h.parent, Place.segment, Place.parent]), endpoint_good (h.lastQpc ▸ hq)]
  have hown : t.segment = .own := h.segment
  dsimp only at hclose ⊢
  rw [if_pos hown, hclose]
  exact ⟨⟨h.phase, h.invalid, rfl, h.segment, rfl, fun _ => rfl, by dsimp only; omega, hq.1, hq.2.1⟩, rfl⟩

theorem During.beginFilter_native (h : During t .native first last) (hq : 0 < q ∧ q ≤ qpcMax ∧ last ≤ q) :
    During (t.beginFilter (some q)) .filterNative first q ∧ (t.beginFilter (some q)).ticks = t.ticks := by
  have hticks := h.ticks
  rw [PrimaryCallbackTiming.beginFilter, if_neg h.active,
    if_neg (by simp [h.segment, h.parent, Place.segment, Place.parent]), endpoint_good (h.lastQpc ▸ hq)]
  have hnative : t.segment ≠ .own := by
    rw [h.segment]
    decide
  dsimp only
  rw [if_neg hnative]
  exact ⟨⟨h.phase, h.invalid, rfl, h.segment, rfl, fun _ => rfl, by dsimp only; omega, hq.1, hq.2.1⟩, rfl⟩

theorem During.endFilter (h : During t p first last) (hp : p = .filterOwn ∧ p' = .own ∨ p = .filterNative ∧ p' = .native)
    (hq : 0 < q ∧ q ≤ qpcMax ∧ last ≤ q) :
    During (t.endFilter (some q)) p' first q ∧ (t.endFilter (some q)).ticks = t.ticks + (q - last) := by
  have hticks := h.ticks
  have hends : p ≠ .native ∧ p.segment = .filter ∧ p'.segment = p.parent ∧ p'.parent = .none ∧
      (p.parent = .own ∨ p.parent = .native) ∧ (p' ≠ .native → p.parent = .own) := by
    obtain ⟨rfl, rfl⟩ | ⟨rfl, rfl⟩ := hp
    · decide
    · decide
  obtain ⟨hne, hsegment, hback, hparent, hkinds, hown⟩ := hends
  have hclose := h.close hne hq
  rw [endpoint_good (h.lastQpc ▸ hq)] at hclose
  rw [PrimaryCallbackTiming.endFilter, if_neg h.active, if_neg (by rw [h.segment, h.parent, hsegment]; tauto),
    endpoint_good (h.lastQpc ▸ hq)]
  dsimp only at hclose ⊢
  rw [hclose]
  refine ⟨⟨h.phase, h.invalid, h.parent.trans hback.symm, hparent.symm, rfl, fun hne' => ?_, ?_, hq.1, hq.2.1⟩, rfl⟩
  · exact if_pos ⟨h.parent.trans (hown hne'), rfl⟩
  · dsimp only
    omega

/-- An allowed event with a good clock moves the measurement on and adds the time
that it closes. -/
theorem During.step (h : During t p first last) {e : Event} (he : e.isFinalize = false) (hp : p.next e = some p')
    (hclock : e.clock = some q) (hq : 0 < q ∧ q ≤ qpcMax ∧ last ≤ q) :
    During (t.step e) p' first q ∧
      (t.step e).ticks = t.ticks + counted [⟨p, last, q, decide (p = .own) && e.isUnwind⟩] := by
  cases e with
  | claim qpc | invalidate =>
      cases p with
      | own | native | filterOwn | filterNative => cases hp
  | finalize qpc => cases he
  | enterNative qpc =>
      obtain rfl := hclock
      cases p with
      | own =>
          obtain rfl := Option.some.inj hp
          exact h.enterNative hq
      | native | filterOwn | filterNative => cases hp
  | leaveNative qpc =>
      obtain rfl := hclock
      cases p with
      | native =>
          obtain rfl := Option.some.inj hp
          exact h.leaveNative hq
      | own | filterOwn | filterNative => cases hp
  | beginFilter qpc =>
      obtain rfl := hclock
      cases p with
      | own =>
          obtain rfl := Option.some.inj hp
          exact h.beginFilter_own hq
      | native =>
          obtain rfl := Option.some.inj hp
          exact h.beginFilter_native hq
      | filterOwn | filterNative => cases hp
  | endFilter qpc =>
      obtain rfl := hclock
      cases p with
      | filterOwn =>
          obtain rfl := Option.some.inj hp
          exact h.endFilter (.inl ⟨rfl, rfl⟩) hq
      | filterNative =>
          obtain rfl := Option.some.inj hp
          exact h.endFilter (.inr ⟨rfl, rfl⟩) hq
      | own | native => cases hp
  | beginUnwind qpc =>
      obtain rfl := hclock
      cases p with
      | own =>
          obtain rfl := Option.some.inj hp
          exact h.beginUnwind (.inl rfl) hq
      | native =>
          obtain rfl := Option.some.inj hp
          exact h.beginUnwind (.inr rfl) hq
      | filterOwn | filterNative => cases hp

theorem During.finalize (h : During t .own first last) (hq : 0 < q ∧ q ≤ qpcMax ∧ last ≤ q) :
    (t.finalize (some q)).phase = .completeValid ∧ (t.finalize (some q)).ticks = t.ticks + (q - last) := by
  have hclose := h.close (by decide) hq
  rw [endpoint_good (h.lastQpc ▸ hq)] at hclose
  have hown : ¬(t.segment ≠ .own ∨ t.filterParent ≠ .none) := by
    rw [h.segment, h.parent]
    decide
  rw [PrimaryCallbackTiming.finalize, if_neg h.active, endpoint_good (h.lastQpc ▸ hq)]
  dsimp only at hclose ⊢
  rw [if_neg hown, hclose]
  dsimp only
  rw [h.invalid]
  exact ⟨rfl, rfl⟩

/-- The measurement runs and cannot end well. -/
structure Spoiled (t : PrimaryCallbackTiming) : Prop where
  phase : t.phase = .inProgress
  invalid : t.invalid = true

theorem endpoint_spoiled {qpc : Option Nat} (h : t.invalid = true ∨ goodClock t.lastQpc qpc = false) :
    (t.endpoint qpc).1.invalid = true := by
  cases hclock : goodClock t.lastQpc qpc with
  | false => rw [endpoint_bad hclock]
  | true =>
      obtain ⟨q, rfl, hq⟩ := goodClock_some hclock
      rw [endpoint_good hq]
      obtain h | h := h
      · exact h
      · rw [hclock] at h
        cases h

theorem closeOwn_invalid {qpc : Option Nat} (h : t.invalid = true) : (t.closeOwn qpc).invalid = true := by
  rw [closeOwn_spoiled h, h]

variable {qpc : Option Nat}

theorem enterNative_spoiled (hphase : t.phase = .inProgress)
    (h : t.invalid = true ∨ goodClock t.lastQpc qpc = false ∨ (t.segment ≠ .own ∨ t.filterParent ≠ .none)) :
    Spoiled (t.enterNative qpc) := by
  refine ⟨(t.enterNative_within qpc).phase.trans hphase, ?_⟩
  rw [enterNative, if_neg (not_not.mpr hphase)]
  split
  · rfl
  · rename_i hallowed
    exact closeOwn_invalid (endpoint_spoiled (by tauto))

theorem leaveNative_spoiled (hphase : t.phase = .inProgress)
    (h : t.invalid = true ∨ goodClock t.lastQpc qpc = false ∨ (t.segment ≠ .native ∨ t.filterParent ≠ .none)) :
    Spoiled (t.leaveNative qpc) := by
  refine ⟨(t.leaveNative_within qpc).phase.trans hphase, ?_⟩
  rw [leaveNative, if_neg (not_not.mpr hphase)]
  split
  · rfl
  · rename_i hallowed
    exact endpoint_spoiled (by tauto)

theorem beginFilter_spoiled (hphase : t.phase = .inProgress)
    (h : t.invalid = true ∨ goodClock t.lastQpc qpc = false ∨
      ((t.segment ≠ .own ∧ t.segment ≠ .native) ∨ t.filterParent ≠ .none)) :
    Spoiled (t.beginFilter qpc) := by
  refine ⟨(t.beginFilter_within qpc).phase.trans hphase, ?_⟩
  rw [beginFilter, if_neg (not_not.mpr hphase)]
  split
  · rfl
  · rename_i hallowed
    have hend : (t.endpoint qpc).1.invalid = true := endpoint_spoiled (by tauto)
    dsimp only
    split
    · exact closeOwn_invalid hend
    · exact hend

theorem endFilter_spoiled (hphase : t.phase = .inProgress)
    (h : t.invalid = true ∨ goodClock t.lastQpc qpc = false ∨
      (t.segment ≠ .filter ∨ (t.filterParent ≠ .own ∧ t.filterParent ≠ .native))) :
    Spoiled (t.endFilter qpc) := by
  refine ⟨(t.endFilter_within qpc).phase.trans hphase, ?_⟩
  rw [endFilter, if_neg (not_not.mpr hphase)]
  split
  · rfl
  · rename_i hallowed
    exact closeOwn_invalid (endpoint_spoiled (by tauto))

theorem beginUnwind_spoiled (hphase : t.phase = .inProgress)
    (h : t.invalid = true ∨ goodClock t.lastQpc qpc = false ∨
      ((t.segment ≠ .own ∧ t.segment ≠ .native) ∨ t.filterParent ≠ .none)) :
    Spoiled (t.beginUnwind qpc) := by
  refine ⟨(t.beginUnwind_within qpc).phase.trans hphase, ?_⟩
  rw [beginUnwind, if_neg (not_not.mpr hphase)]
  split
  · rfl
  · rename_i hallowed
    exact endpoint_spoiled (.inl (endpoint_spoiled (by tauto)))

theorem finalize_spoiled (hphase : t.phase = .inProgress)
    (h : t.invalid = true ∨ goodClock t.lastQpc qpc = false ∨ (t.segment ≠ .own ∨ t.filterParent ≠ .none)) :
    (t.finalize qpc).phase = .completeInvalid ∧ (t.finalize qpc).ticks = 0 := by
  have hplace : (t.endpoint qpc).1.segment = t.segment ∧ (t.endpoint qpc).1.filterParent = t.filterParent := by
    cases hclock : goodClock t.lastQpc qpc with
    | false => rw [endpoint_bad hclock]; exact ⟨rfl, rfl⟩
    | true =>
        obtain ⟨q, rfl, hq⟩ := goodClock_some hclock
        rw [endpoint_good hq]
        exact ⟨rfl, rfl⟩
  rw [finalize, if_neg (not_not.mpr hphase)]
  dsimp only
  rw [hplace.1, hplace.2]
  split
  · exact ⟨rfl, rfl⟩
  · rename_i hallowed
    rw [closeOwn_invalid (endpoint_spoiled (by tauto))]
    exact ⟨rfl, rfl⟩

/-- An event that is not allowed, or comes with a bad clock, or any event of a
spoiled measurement. -/
theorem step_spoiled {e : Event} (hphase : t.phase = .inProgress) (hclaim : e.isClaim = false)
    (hfinalize : e.isFinalize = false)
    (h : t.invalid = true ∨ goodClock t.lastQpc e.clock = false ∨
      ∃ p : Place, t.segment = p.segment ∧ t.filterParent = p.parent ∧ p.next e = none) : Spoiled (t.step e) := by
  have hplace : ∀ {guard : Prop}, (∀ p : Place, t.segment = p.segment → t.filterParent = p.parent →
      p.next e = none → guard) → t.invalid = true ∨ goodClock t.lastQpc e.clock = false ∨ guard := by
    intro guard hguard
    obtain h | h | ⟨p, hsegment, hparent, hnext⟩ := h
    · exact .inl h
    · exact .inr (.inl h)
    · exact .inr (.inr (hguard p hsegment hparent hnext))
  cases e with
  | claim qpc => cases hclaim
  | finalize qpc => cases hfinalize
  | invalidate => exact ⟨(t.invalidate_within).phase.trans hphase, by rw [step, invalidate, if_pos hphase]⟩
  | enterNative qpc =>
      refine enterNative_spoiled hphase (hplace fun p hsegment hparent hnext => ?_)
      rw [hsegment, hparent]
      cases p with
      | own => cases hnext
      | native | filterOwn | filterNative => decide
  | leaveNative qpc =>
      refine leaveNative_spoiled hphase (hplace fun p hsegment hparent hnext => ?_)
      rw [hsegment, hparent]
      cases p with
      | native => cases hnext
      | own | filterOwn | filterNative => decide
  | beginFilter qpc =>
      refine beginFilter_spoiled hphase (hplace fun p hsegment hparent hnext => ?_)
      rw [hsegment, hparent]
      cases p with
      | own | native => cases hnext
      | filterOwn | filterNative => decide
  | endFilter qpc =>
      refine endFilter_spoiled hphase (hplace fun p hsegment hparent hnext => ?_)
      rw [hsegment, hparent]
      cases p with
      | filterOwn | filterNative => cases hnext
      | own | native => decide
  | beginUnwind qpc =>
      refine beginUnwind_spoiled hphase (hplace fun p hsegment hparent hnext => ?_)
      rw [hsegment, hparent]
      cases p with
      | own | native => cases hnext
      | filterOwn | filterNative => decide

theorem run_cons (t : PrimaryCallbackTiming) (e : Event) (es : List Event) : run t (e :: es) = run (t.step e) es := rfl

/-- A claim is accepted once. -/
theorem step_claim {e : Event} (h : e.isClaim = true) (hphase : t.phase ≠ .notEntered) : t.step e = t := by
  cases e with
  | claim qpc => rw [step, claim, if_pos hphase]
  | enterNative | leaveNative | beginFilter | endFilter | beginUnwind | finalize | invalidate => cases h

/-- Before the claim and after the end no other event has an effect. -/
theorem step_inactive {e : Event} (h : e.isClaim = false) (hphase : t.phase ≠ .inProgress) : t.step e = t := by
  cases e with
  | claim qpc => cases h
  | enterNative | leaveNative | beginFilter | endFilter | beginUnwind | finalize => exact if_pos hphase
  | invalidate => exact if_neg hphase

/-- A complete measurement never changes. -/
theorem run_complete (h : t.phase ≠ .notEntered) (h' : t.phase ≠ .inProgress) (es : List Event) : run t es = t := by
  induction es with
  | nil => rfl
  | cons e es ih =>
      rw [run_cons]
      cases he : e.isClaim with
      | true => rw [step_claim he h, ih]
      | false => rw [step_inactive he h', ih]

theorem run_unclaimed (h : t.phase = .notEntered) {es : List Event} (hes : ∀ e ∈ es, e.isClaim = false) : run t es = t := by
  induction es with
  | nil => rfl
  | cons e es ih =>
      rw [List.forall_mem_cons] at hes
      rw [run_cons, step_inactive hes.1 (by rw [h]; decide), ih hes.2]

theorem step_inProgress {e : Event} (h : t.phase = .inProgress) (he : e.isFinalize = false) :
    (t.step e).phase = .inProgress := by
  cases e with
  | claim qpc => rw [step_claim rfl (by rw [h]; decide), h]
  | enterNative qpc => exact (t.enterNative_within qpc).phase.trans h
  | leaveNative qpc => exact (t.leaveNative_within qpc).phase.trans h
  | beginFilter qpc => exact (t.beginFilter_within qpc).phase.trans h
  | endFilter qpc => exact (t.endFilter_within qpc).phase.trans h
  | beginUnwind qpc => exact (t.beginUnwind_within qpc).phase.trans h
  | finalize qpc => cases he
  | invalidate => exact t.invalidate_within.phase.trans h

theorem upToFinalize_cons {e : Event} {es es' : List Event} (he : e.isFinalize = false)
    (h : upToFinalize (e :: es) = some es') : ∃ rest, upToFinalize es = some rest ∧ es' = e :: rest := by
  rw [upToFinalize, if_neg (by rw [he]; exact Bool.false_ne_true)] at h
  obtain ⟨rest, hrest, rfl⟩ := Option.map_eq_some_iff.mp h
  exact ⟨rest, hrest, rfl⟩

theorem run_unfinished {es : List Event} (h : t.phase = .inProgress) (hes : upToFinalize es = none) :
    (run t es).phase = .inProgress := by
  induction es generalizing t with
  | nil => exact h
  | cons e es ih =>
      cases he : e.isFinalize with
      | true =>
          rw [upToFinalize, if_pos he] at hes
          cases hes
      | false =>
          rw [upToFinalize, if_neg (by rw [he]; exact Bool.false_ne_true), Option.map_eq_none_iff] at hes
          exact ih (step_inProgress h he) hes

theorem run_spoiled {es es' : List Event} (h : Spoiled t) (hes : upToFinalize es = some es') :
    (run t es).phase = .completeInvalid ∧ (run t es).ticks = 0 := by
  induction es generalizing t es' with
  | nil => cases hes
  | cons e es ih =>
      rw [run_cons]
      cases he : e.isFinalize with
      | true =>
          cases e with
          | finalize qpc =>
              have hend := @finalize_spoiled t qpc h.phase (.inl h.invalid)
              have hkept : run (t.step (.finalize qpc)) es = t.step (.finalize qpc) :=
                run_complete (by rw [step, hend.1]; decide) (by rw [step, hend.1]; decide) es
              rw [hkept]
              exact hend
          | claim | enterNative | leaveNative | beginFilter | endFilter | beginUnwind | invalidate => cases he
      | false =>
          obtain ⟨rest, hrest, -⟩ := upToFinalize_cons he hes
          cases hclaim : e.isClaim with
          | true =>
              rw [step_claim hclaim (by rw [h.phase]; decide)]
              exact ih h hrest
          | false => exact ih (step_spoiled h.phase hclaim he (.inl h.invalid)) hrest

theorem counted_cons (s : Stretch) (ss : List Stretch) : counted (s :: ss) = counted [s] + counted ss := by
  unfold counted
  rw [List.filter_cons, List.filter_cons]
  split
  · simp
  · simp

/-- `r` is the end of a measurement that these events have taken on from `t`: well
with the time that they counted, or spoiled. -/
structure Ended (t r : PrimaryCallbackTiming) (p : Place) (last : Nat) (es : List Event) : Prop where
  valid : clean p last es = true → r.phase = .completeValid ∧ r.ticks = t.ticks + counted (timeline p last es)
  invalid : clean p last es = false → r.phase = .completeInvalid ∧ r.ticks = 0

theorem Ended.run {r : PrimaryCallbackTiming} {es' : List Event} (h : Ended t r p last es') (es : List Event) :
    PrimaryCallbackTiming.run r es = r := by
  have hphase : r.phase = .completeValid ∨ r.phase = .completeInvalid := by
    cases hclean : clean p last es' with
    | true => exact .inl (h.valid hclean).1
    | false => exact .inr (h.invalid hclean).1
  refine run_complete (fun hn => ?_) (fun hn => ?_) es
  · rw [hn] at hphase
    simp at hphase
  · rw [hn] at hphase
    simp at hphase

/-- Nothing is allowed to finalize but the library itself, with a good clock. -/
theorem During.ended_finalize (h : During t p first last) (qpc : Option Nat) :
    Ended t (t.finalize qpc) p last [.finalize qpc] := by
  by_cases hend : p = .own ∧ goodClock last qpc = true
  · obtain ⟨rfl, hgood⟩ := hend
    obtain ⟨q, rfl, hq⟩ := goodClock_some hgood
    have hclean : clean .own last [.finalize (some q)] = true := clean_go rfl rfl rfl hgood
    refine ⟨fun _ => ?_, fun hn => ?_⟩
    · rw [timeline_cons rfl rfl rfl]
      exact h.finalize hq
    · rw [hclean] at hn
      cases hn
  · have hspoiled : (t.finalize qpc).phase = .completeInvalid ∧ (t.finalize qpc).ticks = 0 := by
      refine finalize_spoiled h.phase (.inr ?_)
      rw [h.segment, h.parent, h.lastQpc]
      cases p with
      | own => exact .inl (Bool.eq_false_iff.mpr fun hgood => hend ⟨rfl, hgood⟩)
      | native | filterOwn | filterNative => exact .inr (by decide)
    have hstop : clean p last [.finalize qpc] = false := by
      refine clean_stop rfl ?_
      cases p with
      | own => exact .inr (Bool.eq_false_iff.mpr fun hgood => hend ⟨rfl, hgood⟩)
      | native | filterOwn | filterNative => exact .inl rfl
    refine ⟨fun hn => ?_, fun _ => hspoiled⟩
    rw [hstop] at hn
    cases hn

theorem During.ended_spoiled (h : During t p first last) {e : Event} (hclaim : e.isClaim = false)
    (he : e.isFinalize = false) (hbad : p.next e = none ∨ goodClock last e.clock = false) {es rest : List Event}
    (hrest : upToFinalize es = some rest) : Ended t (PrimaryCallbackTiming.run (t.step e) es) p last (e :: rest) := by
  have hspoiled : Spoiled (t.step e) := by
    refine step_spoiled h.phase hclaim he ?_
    rw [h.lastQpc]
    obtain hbad | hbad := hbad
    · exact .inr (.inr ⟨p, h.segment, h.parent, hbad⟩)
    · exact .inr (.inl hbad)
  refine ⟨fun hn => ?_, fun _ => run_spoiled hspoiled hrest⟩
  rw [clean_stop hclaim hbad] at hn
  cases hn

theorem During.ended_step (h : During t p first last) {e : Event} (hclaim : e.isClaim = false)
    (he : e.isFinalize = false) (hnext : p.next e = some p') (hclock : e.clock = some q)
    (hgood : goodClock last (some q) = true) {r : PrimaryCallbackTiming} {rest : List Event}
    (hr : Ended (t.step e) r p' q rest) : Ended t r p last (e :: rest) := by
  obtain ⟨q', hq', hbounds⟩ := goodClock_some hgood
  obtain rfl := Option.some.inj hq'
  obtain ⟨-, hticks⟩ := h.step he hnext hclock hbounds
  have hclean : clean p last (e :: rest) = clean p' q rest := clean_go hclaim hnext hclock hgood
  refine ⟨fun hn => ?_, fun hn => hr.invalid (hclean ▸ hn)⟩
  rw [timeline_cons hclaim hnext hclock, counted_cons, ← Nat.add_assoc, ← hticks]
  exact hr.valid (hclean ▸ hn)

/-- From a good place on, the run ends as its events are. -/
theorem During.run (h : During t p first last) {es es' : List Event} (hes : upToFinalize es = some es') :
    Ended t (run t es) p last es' := by
  induction es generalizing t p last es' with
  | nil => cases hes
  | cons e es ih =>
      rw [run_cons]
      cases hclaim : e.isClaim with
      | true =>
          have he : e.isFinalize = false := by
            cases e with
            | finalize => cases hclaim
            | claim | enterNative | leaveNative | beginFilter | endFilter | beginUnwind | invalidate => rfl
          obtain ⟨rest, hrest, rfl⟩ := upToFinalize_cons he hes
          have hkept := ih h hrest
          rw [step_claim hclaim (by rw [h.phase]; decide)]
          constructor
          · rw [clean, timeline, if_pos hclaim, if_pos hclaim]
            exact hkept.valid
          · rw [clean, if_pos hclaim]
            exact hkept.invalid
      | false =>
          cases he : e.isFinalize with
          | true =>
              rw [upToFinalize, if_pos he] at hes
              obtain rfl := Option.some.inj hes
              cases e with
              | finalize qpc =>
                  have hended := h.ended_finalize qpc
                  rw [PrimaryCallbackTiming.step, hended.run es]
                  exact hended
              | claim | enterNative | leaveNative | beginFilter | endFilter | beginUnwind | invalidate => cases he
          | false =>
              obtain ⟨rest, hrest, rfl⟩ := upToFinalize_cons he hes
              cases hnext : p.next e with
              | none => exact h.ended_spoiled hclaim he (.inl hnext) hrest
              | some p' =>
                  cases hclock : goodClock last e.clock with
                  | false => exact h.ended_spoiled hclaim he (.inr hclock) hrest
                  | true =>
                      obtain ⟨q, hq, hgood⟩ := goodClock_some hclock
                      have hduring := (h.step he hnext hq hgood).1
                      exact h.ended_step hclaim he hnext hq (hq ▸ hclock) (ih hduring hrest)

/-- The claim alone: its clock starts the measurement in the library, or spoils it. -/
theorem claim_zero (qpc : Option Nat) :
    (∀ q, qpc = some q → 0 < q → q ≤ qpcMax →
      During (zero.step (.claim qpc)) .own q q ∧ (zero.step (.claim qpc)).ticks = 0) ∧
    (goodClock 0 qpc = false → Spoiled (zero.step (.claim qpc))) := by
  have hclaim : zero.step (.claim qpc) = beginOwn { zero with phase := .inProgress } qpc := by
    rw [step, claim, if_neg (by decide)]
    rfl
  rw [hclaim, beginOwn]
  constructor
  · rintro q rfl hpos hmax
    rw [endpoint_good ⟨hpos, hmax, Nat.zero_le q⟩]
    exact ⟨⟨rfl, rfl, rfl, rfl, rfl, fun _ => rfl, Nat.le_of_eq (Nat.zero_add q), hpos, hmax⟩, rfl⟩
  · intro hbad
    rw [endpoint_bad (t := { zero with phase := .inProgress }) hbad]
    exact ⟨rfl, rfl⟩

def Measures (t : PrimaryCallbackTiming) (first : Nat) (es : List Event) : Prop :=
  t.phase = .completeValid ∧ t.ticks = counted (timeline .own first es) ∧
    Consecutive first (lastClock first es) (timeline .own first es) ∧
    t.ticks ≤ lastClock first es - first ∧ first ≤ lastClock first es ∧ lastClock first es ≤ qpcMax

/-- A sequence of events by what it measures. -/
inductive Outcome (t : PrimaryCallbackTiming) : Measured → Prop
  | unclaimed : t = zero → Outcome t .unclaimed
  | unfinished : t.phase = .inProgress → Outcome t .unfinished
  | clean {claimed : Option Nat} {es : List Event} (first : Nat) : claimed = some first →
      (goodClock 0 claimed && clean .own first es) = true → Measures t first es → Outcome t (.finished claimed es)
  | spoiled {claimed : Option Nat} {es : List Event} :
      (goodClock 0 claimed && PrimaryCallbackTiming.clean .own (claimed.getD 0) es) = false →
      t.phase = .completeInvalid → t.ticks = 0 → Outcome t (.finished claimed es)

theorem run_claimed (qpc : Option Nat) (es : List Event) :
    Outcome (run (zero.step (.claim qpc)) es) (measured (.claim qpc :: es)) := by
  have hmeasured : measured (.claim qpc :: es) =
      match upToFinalize es with
      | none => .unfinished
      | some es => .finished qpc es := rfl
  rw [hmeasured]
  obtain ⟨hclean, hspoiled⟩ := claim_zero qpc
  have hphase : (zero.step (.claim qpc)).phase = .inProgress := by
    cases hclock : goodClock 0 qpc with
    | false => exact (hspoiled hclock).phase
    | true =>
        obtain ⟨q, hq, hpos, hmax, -⟩ := goodClock_some hclock
        exact (hclean q hq hpos hmax).1.phase
  cases hes : upToFinalize es with
  | none => exact .unfinished (run_unfinished hphase hes)
  | some events =>
      dsimp only
      cases hclock : goodClock 0 qpc with
      | false =>
          obtain ⟨hend, hticks⟩ := run_spoiled (hspoiled hclock) hes
          exact .spoiled (by rw [hclock, Bool.false_and]) hend hticks
      | true =>
          obtain ⟨first, rfl, hpos, hmax, -⟩ := goodClock_some hclock
          obtain ⟨hduring, hzero⟩ := hclean first rfl hpos hmax
          have hended := hduring.run hes
          cases hevents : PrimaryCallbackTiming.clean .own first events with
          | false =>
              obtain ⟨hend, hticks⟩ := hended.invalid hevents
              exact .spoiled (by rw [hclock, Bool.true_and]; exact hevents) hend hticks
          | true =>
              obtain ⟨hend, hticks⟩ := hended.valid hevents
              rw [hzero, Nat.zero_add] at hticks
              obtain ⟨hfrom, hlast, hconsecutive⟩ := timeline_consecutive hevents hmax
              have hle := hconsecutive.counted
              exact .clean first rfl (by rw [hclock, hevents]; rfl)
                ⟨hend, hticks, hconsecutive, hticks ▸ hle, hfrom, hlast⟩

theorem run_outcome (es : List Event) : Outcome (run zero es) (measured es) := by
  induction es with
  | nil => exact .unclaimed rfl
  | cons e es ih =>
      cases he : e.isClaim with
      | true =>
          cases e with
          | claim qpc => exact run_claimed qpc es
          | enterNative | leaveNative | beginFilter | endFilter | beginUnwind | finalize | invalidate => cases he
      | false =>
          rw [run_cons, step_inactive he (by decide), measured, if_neg (by rw [he]; exact Bool.false_ne_true)]
          exact ih

/-- The measurement that a whole sequence of events makes of a fresh object. -/
theorem primary_callback_timing (es : List Event) :
    (measured es = .unclaimed → run zero es = zero) ∧
    (measured es = .unfinished → (run zero es).phase = .inProgress) ∧
    (∀ claimed events, measured es = .finished claimed events →
      ((goodClock 0 claimed && clean .own (claimed.getD 0) events) = true →
        Measures (run zero es) (claimed.getD 0) events) ∧
      ((goodClock 0 claimed && clean .own (claimed.getD 0) events) = false →
        (run zero es).phase = .completeInvalid ∧ (run zero es).ticks = 0)) ∧
    (∀ before : List Event, (∀ e ∈ before, e.isClaim = false) → run zero (before ++ es) = run zero es) ∧
    (∀ e, e.isClaim = true → measured es ≠ .unclaimed → (run zero es).step e = run zero es) ∧
    ((run zero es).phase = .completeValid ∨ (run zero es).phase = .completeInvalid →
      ∀ more, run zero (es ++ more) = run zero es) := by
  have houtcome := run_outcome es
  refine ⟨fun h => ?_, fun h => ?_, fun claimed events h => ?_, fun before hbefore => ?_, fun e he h => ?_,
    fun hcomplete more => ?_⟩
  · rw [h] at houtcome
    cases houtcome with
    | unclaimed hzero => exact hzero
  · rw [h] at houtcome
    cases houtcome with
    | unfinished hphase => exact hphase
  · rw [h] at houtcome
    cases houtcome with
    | clean first hclaimed hclean hmeasures =>
        subst hclaimed
        refine ⟨fun _ => hmeasures, fun hspoiled => ?_⟩
        rw [Option.getD_some, hclean] at hspoiled
        cases hspoiled
    | spoiled hspoiled hphase hticks =>
        refine ⟨fun hclean => ?_, fun _ => ⟨hphase, hticks⟩⟩
        rw [hspoiled] at hclean
        cases hclean
  · rw [run, List.foldl_append]
    exact congrArg (fun t => run t es) (run_unclaimed rfl hbefore)
  · refine step_claim he ?_
    generalize measured es = m at h houtcome
    cases houtcome with
    | unclaimed => exact absurd rfl h
    | unfinished hphase =>
        rw [hphase]
        decide
    | clean first _ _ hmeasures =>
        rw [hmeasures.1]
        decide
    | spoiled _ hphase =>
        rw [hphase]
        decide
  · rw [run, List.foldl_append]
    refine run_complete (fun h => ?_) (fun h => ?_) more
    · rw [show List.foldl step zero es = run zero es from rfl] at h
      rw [h] at hcomplete
      simp at hcomplete
    · rw [show List.foldl step zero es = run zero es from rfl] at h
      rw [h] at hcomplete
      simp at hcomplete

-- Three ticks before the native call, one in the filter over it and four after it.
example : (run zero [.claim (some 5), .enterNative (some 8), .beginFilter (some 10), .endFilter (some 11),
    .leaveNative (some 20), .finalize (some 24)]).ticks = 8 := by
  decide

end Runs

end RS2ServerFix.LeechRecovery.PrimaryCallbackTiming
