import RS2ServerFix.LeechRecovery.Value

namespace RS2ServerFix.LeechRecovery

inductive PrimaryCallbackTimingPhase
  | notEntered | inProgress | completeValid | completeInvalid
  deriving DecidableEq, Repr

inductive PrimaryCallbackTimingSegment
  | none | own | native | filter
  deriving DecidableEq, Repr

structure PrimaryCallbackTiming where
  phase : PrimaryCallbackTimingPhase
  segment : PrimaryCallbackTimingSegment
  filterParent : PrimaryCallbackTimingSegment
  ticks : Nat
  lastQpc : Nat
  segmentStartQpc : Nat
  invalid : Bool
  deriving DecidableEq, Repr

namespace PrimaryCallbackTiming

def zero : PrimaryCallbackTiming := ⟨.notEntered, .none, .none, 0, 0, 0, false⟩

/-- An endpoint of the measurement; `none` is a clock that failed. -/
def endpoint (t : PrimaryCallbackTiming) (qpc : Option Nat) : PrimaryCallbackTiming × Bool :=
  match qpc with
  | none => ({ t with invalid := true }, false)
  | some q =>
      if q = 0 ∨ qpcMax < q ∨ t.lastQpc ≠ 0 ∧ q < t.lastQpc then ({ t with invalid := true }, false)
      else ({ t with lastQpc := q }, true)

def closeOwn (t : PrimaryCallbackTiming) (qpc : Option Nat) : PrimaryCallbackTiming :=
  let q := qpc.getD 0
  if t.invalid then t
  else if t.segmentStartQpc = 0 ∨ q < t.segmentStartQpc ∨ qpcMax < t.ticks then { t with invalid := true }
  else if qpcMax - t.ticks < q - t.segmentStartQpc then { t with invalid := true }
  else { t with ticks := t.ticks + (q - t.segmentStartQpc) }

def beginOwn (t : PrimaryCallbackTiming) (qpc : Option Nat) : PrimaryCallbackTiming :=
  let (t, good) := t.endpoint qpc
  { t with segment := .own, segmentStartQpc := if good then qpc.getD 0 else 0 }

def claim (t : PrimaryCallbackTiming) (qpc : Option Nat) : PrimaryCallbackTiming × Bool :=
  if t.phase ≠ .notEntered then (t, false)
  else
    let dirty := t.ticks ≠ 0 ∨ t.lastQpc ≠ 0 ∨ t.segmentStartQpc ≠ 0 ∨ t.invalid ∨ t.segment ≠ .none ∨
      t.filterParent ≠ .none
    (beginOwn { t with phase := .inProgress, invalid := t.invalid || decide dirty } qpc, true)

def enterNative (t : PrimaryCallbackTiming) (qpc : Option Nat) : PrimaryCallbackTiming :=
  if t.phase ≠ .inProgress then t
  else if t.segment ≠ .own ∨ t.filterParent ≠ .none then { t with invalid := true }
  else { (t.endpoint qpc).1.closeOwn qpc with segment := .native, segmentStartQpc := 0 }

def leaveNative (t : PrimaryCallbackTiming) (qpc : Option Nat) : PrimaryCallbackTiming :=
  if t.phase ≠ .inProgress then t
  else if t.segment ≠ .native ∨ t.filterParent ≠ .none then { t with invalid := true }
  else t.beginOwn qpc

def beginFilter (t : PrimaryCallbackTiming) (qpc : Option Nat) : PrimaryCallbackTiming :=
  if t.phase ≠ .inProgress then t
  else if (t.segment ≠ .own ∧ t.segment ≠ .native) ∨ t.filterParent ≠ .none then { t with invalid := true }
  else
    let (u, good) := t.endpoint qpc
    let u := if t.segment = .own then u.closeOwn qpc else u
    { u with filterParent := t.segment, segment := .filter, segmentStartQpc := if good then qpc.getD 0 else 0 }

def endFilter (t : PrimaryCallbackTiming) (qpc : Option Nat) : PrimaryCallbackTiming :=
  if t.phase ≠ .inProgress then t
  else if t.segment ≠ .filter ∨ (t.filterParent ≠ .own ∧ t.filterParent ≠ .native) then { t with invalid := true }
  else
    let (u, good) := t.endpoint qpc
    let u := u.closeOwn qpc
    { u with
      segment := t.filterParent, filterParent := .none
      segmentStartQpc := if t.filterParent = .own ∧ good then qpc.getD 0 else 0 }

def beginUnwind (t : PrimaryCallbackTiming) (qpc : Option Nat) : PrimaryCallbackTiming :=
  if t.phase ≠ .inProgress then t
  else if (t.segment ≠ .own ∧ t.segment ≠ .native) ∨ t.filterParent ≠ .none then { t with invalid := true }
  else beginOwn (t.endpoint qpc).1 qpc

def finalize (t : PrimaryCallbackTiming) (qpc : Option Nat) : PrimaryCallbackTiming :=
  if t.phase ≠ .inProgress then t
  else
    let u := (t.endpoint qpc).1
    let u := if u.segment ≠ .own ∨ u.filterParent ≠ .none then { u with invalid := true } else u.closeOwn qpc
    { u with
      phase := if u.invalid then .completeInvalid else .completeValid
      segment := .none, filterParent := .none, segmentStartQpc := 0
      ticks := if u.invalid then 0 else u.ticks }

def invalidate (t : PrimaryCallbackTiming) : PrimaryCallbackTiming :=
  if t.phase = .inProgress then { t with invalid := true } else t

variable {t u w : PrimaryCallbackTiming}

structure Within (t u : PrimaryCallbackTiming) : Prop where
  phase : u.phase = t.phase
  ticks : t.ticks ≤ qpcMax → u.ticks ≤ qpcMax

theorem Within.refl (t : PrimaryCallbackTiming) : Within t t := ⟨rfl, id⟩

theorem Within.trans (h : Within t u) (h' : Within u w) : Within t w :=
  ⟨h'.phase.trans h.phase, fun ht => h'.ticks (h.ticks ht)⟩

theorem endpoint_within (t : PrimaryCallbackTiming) (qpc : Option Nat) : Within t (t.endpoint qpc).1 := by
  unfold endpoint
  split
  · exact ⟨rfl, id⟩
  · split
    · exact ⟨rfl, id⟩
    · exact ⟨rfl, id⟩

theorem closeOwn_within (t : PrimaryCallbackTiming) (qpc : Option Nat) : Within t (t.closeOwn qpc) := by
  unfold closeOwn
  dsimp only
  split
  · exact ⟨rfl, id⟩
  · split
    · exact ⟨rfl, id⟩
    · split
      · exact ⟨rfl, id⟩
      · refine ⟨rfl, fun ht => ?_⟩
        dsimp only
        omega

theorem beginOwn_within (t : PrimaryCallbackTiming) (qpc : Option Nat) : Within t (t.beginOwn qpc) := by
  have h := t.endpoint_within qpc
  exact ⟨h.phase, h.ticks⟩

theorem enterNative_within (t : PrimaryCallbackTiming) (qpc : Option Nat) : Within t (t.enterNative qpc) := by
  unfold enterNative
  split
  · exact .refl t
  · split
    · exact ⟨rfl, id⟩
    · have h := (t.endpoint_within qpc).trans (closeOwn_within _ qpc)
      exact ⟨h.phase, h.ticks⟩

theorem leaveNative_within (t : PrimaryCallbackTiming) (qpc : Option Nat) : Within t (t.leaveNative qpc) := by
  unfold leaveNative
  split
  · exact .refl t
  · split
    · exact ⟨rfl, id⟩
    · exact t.beginOwn_within qpc

theorem beginFilter_within (t : PrimaryCallbackTiming) (qpc : Option Nat) : Within t (t.beginFilter qpc) := by
  unfold beginFilter
  split
  · exact .refl t
  · split
    · exact ⟨rfl, id⟩
    · have h := t.endpoint_within qpc
      have hclose := h.trans (closeOwn_within _ qpc)
      dsimp only
      split
      · exact ⟨hclose.phase, hclose.ticks⟩
      · exact ⟨h.phase, h.ticks⟩

theorem endFilter_within (t : PrimaryCallbackTiming) (qpc : Option Nat) : Within t (t.endFilter qpc) := by
  unfold endFilter
  split
  · exact .refl t
  · split
    · exact ⟨rfl, id⟩
    · have h := (t.endpoint_within qpc).trans (closeOwn_within _ qpc)
      exact ⟨h.phase, h.ticks⟩

theorem beginUnwind_within (t : PrimaryCallbackTiming) (qpc : Option Nat) : Within t (t.beginUnwind qpc) := by
  unfold beginUnwind
  split
  · exact .refl t
  · split
    · exact ⟨rfl, id⟩
    · exact (t.endpoint_within qpc).trans (beginOwn_within _ qpc)

theorem invalidate_within (t : PrimaryCallbackTiming) : Within t t.invalidate := by
  unfold invalidate
  split
  · exact ⟨rfl, id⟩
  · exact .refl t

theorem claim_ticks (qpc : Option Nat) (h : t.ticks ≤ qpcMax) : (t.claim qpc).1.ticks ≤ qpcMax := by
  unfold claim
  split
  · exact h
  · exact (beginOwn_within _ qpc).ticks h

theorem claim_phase (t : PrimaryCallbackTiming) (qpc : Option Nat) :
    (t.claim qpc).1.phase = .completeValid → t.phase = .completeValid := by
  unfold claim
  split
  · exact id
  · intro h
    rw [(beginOwn_within _ qpc).phase] at h
    cases h

theorem finalize_ticks (qpc : Option Nat) (h : t.ticks ≤ qpcMax) : (t.finalize qpc).ticks ≤ qpcMax := by
  have hend := (t.endpoint_within qpc).ticks h
  have hclose := (closeOwn_within (t.endpoint qpc).1 qpc).ticks hend
  have hzero : ∀ w : PrimaryCallbackTiming, w.ticks ≤ qpcMax → (if w.invalid then 0 else w.ticks) ≤ qpcMax := by
    intro w hw
    split
    · exact Nat.zero_le _
    · exact hw
  unfold finalize
  split
  · exact h
  · apply hzero
    split
    · exact hend
    · exact hclose

end PrimaryCallbackTiming

end RS2ServerFix.LeechRecovery
