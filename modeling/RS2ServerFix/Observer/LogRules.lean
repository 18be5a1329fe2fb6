import RS2ServerFix.Lib.Serve
import RS2ServerFix.Observer.LogRounds

namespace RS2ServerFix.Observer.Log

open Lib

variable {κ : Type} [DecidableEq κ]

def prepared : World κ where
  status := .prepared
  error := errorSuccess
  armed := false
  stop := false
  lock := none
  queue := ⟨fun _ => ⟨noEvent, 0⟩, 0, 0⟩
  nextQueueSequence := 0
  queueDepth := 0
  word := fun _ => 0
  counted := fun _ => 0
  published := 0
  inHand := fun _ => 0
  enqueued := []
  file := []

def fresh : Keeping := ⟨.running, false, false, false, false, 0, 0, false, false⟩

abbrev Writers (κ : Type) : Type := Crew (Option κ) Op Op.Answer (World κ) (Except Empty Unit × Keeping)

def start : Writers κ := ⟨prepared, fun _ => .done (.ok (), fresh)⟩

def Reaches (limit : Nat) : Writers κ → Writers κ → Prop := Crew.Run responds (starts limit) outside

variable {limit : Nat}

/-- A caller between two calls has nothing; the writing thread stands. -/
def rest : Option κ → Except Empty Unit × Keeping → Known → Prop
  | some _, _, l => Out l
  | none, r, l => Standing r.2 l

omit [DecidableEq κ] in
theorem abides_rest {i : Option κ} {p : Work Unit} {k : Keeping} {l : Known}
    (h : p.Abides (view limit) (fun _ k' l' => rest i (.ok (), k') l') k l) : (p k).Abides (view limit) (rest i) l := by
  refine Ask.Abides.mono h ?_
  rintro ⟨r, k'⟩ l' ⟨a, ha, hrest⟩
  have hr : r = .ok () := ha
  subst hr
  exact hrest

variable [Fintype κ]

theorem sound (hlimit : limit ≤ int64Max) :
    Crew.Sound (fun _ : Option κ => view limit) (Agrees limit) rest responds (starts limit) outside where
  asks i q s answer t ls h hmay hr := h.asks hlimit hmay hr
  starts := by
    intro i r p s t ls h hrest hstarts
    cases i with
    | some i =>
        obtain ⟨hlocked, hheld⟩ := hrest
        obtain ⟨event, rfl, rfl⟩ := hstarts
        exact ⟨_, h.begins hheld, abides_rest (publish_abides event hlocked rfl)⟩
    | none =>
        obtain ⟨-, rfl, rfl⟩ := hstarts
        exact ⟨ls none, h.keep none, abides_rest (round_abides hrest)⟩
  outside := by
    rintro s t ls h ⟨armed, stop, -, -, rfl⟩
    exact h.other s.error s.queueDepth armed stop

def unknowing : Option κ → Known
  | some _ => ⟨false, false, 0, none⟩
  | none => ours false 0 ⟨.prepared, 0, []⟩

omit [DecidableEq κ] in
theorem whole_prepared : Whole limit (prepared : World κ) where
  head := Nat.zero_lt_succ 4095
  count := Nat.zero_le kQueueCapacity
  bytes := Nat.le_refl 0
  conserved := {
    events := by simp [prepared]
    calls := fun i => Nat.zero_le 1
    batch := Nat.zero_le kBatchCount
    words := fun counter => (Nat.min_eq_right (Nat.zero_le int64Max)).symm }
  ordered := ⟨rfl, [], rfl⟩
  shape := {
    bytes := Nat.zero_le limit
    reserve := fun _ => Nat.zero_le _
    followed := List.Pairwise.nil
    footer := by
      intro w hw
      cases hw }

omit [DecidableEq κ] [Fintype κ] in
theorem fits_start (i : Option κ) : Fits prepared i (unknowing i) where
  lock := by
    constructor
    · cases i <;> exact fun hno => by cases hno
    · exact fun hno => by cases hno
  room := by cases i <;> exact fun hno => by cases hno
  held := by cases i <;> rfl
  own := by cases i <;> rfl

omit [DecidableEq κ] in
theorem going_start : Crew.Going (fun _ : Option κ => view limit) (Agrees limit) rest start unknowing where
  agrees := ⟨fits_start, whole_prepared⟩
  abides := by
    intro i
    cases i with
    | none =>
        have htidy : Tidy ⟨.prepared, 0, []⟩ := ⟨rfl, fun w hw => by cases hw⟩
        exact ⟨rfl, rfl, rfl, false, _, rfl, htidy, rfl⟩
    | some i => exact ⟨rfl, rfl⟩

section Sample

def obliging (i : Option Unit) (s : World Unit) : (q : Op) → q.Answer × World Unit
  | .status => (s.status, s)
  | .setStatus status => ((), { s with status := status })
  | .setError error => ((), { s with error := error })
  | .armed => (s.armed, s)
  | .stop => (s.stop, s)
  | .setDepth => ((), { s with queueDepth := s.queue.count })
  | .read counter => (s.word counter, s)
  | .add counter delta => ((), s.count i counter delta)
  | .tryAcquire => (true, { s with lock := some i })
  | .acquire => ((), { s with lock := some i })
  | .release => ((), { s with lock := none })
  | .full => (decide (s.queue.count = kQueueCapacity), s)
  | .enqueue event => ((), s.put i event)
  | .takeBatch => (s.taken.1, s.handOut i)
  | .text _ => ((100 : Nat), s)
  | .write kind length => (⟨true, length, 0⟩, { s with file := s.file ++ [⟨kind, length, ⟨true, length, 0⟩⟩] })
  | .flush => ((true, 0), s)
  | .tick => ((0 : Nat), s)
  | .token _ | .bindings | .entered => (true, s)
  | .notice _ => ((), s)

def unhindered (s : World Unit) : Op → Bool
  | .tryAcquire | .acquire => s.lock.isNone
  | _ => true

theorem obliging_responds (i : Option Unit) (s : World Unit) (q : Op) (h : unhindered s q = true) :
    responds i q s (obliging i s q).1 (obliging i s q).2 := by
  cases q with
  | tryAcquire => exact .inl ⟨rfl, Option.isNone_iff_eq_none.mp h, rfl⟩
  | acquire => exact ⟨Option.isNone_iff_eq_none.mp h, rfl⟩
  | status | armed | stop | read _ | full | takeBatch => exact ⟨rfl, rfl⟩
  | setStatus _ | setError _ | setDepth | add _ _ | release | enqueue _ | text _ | write _ _ | flush | tick
  | token _ | bindings | entered | notice _ => rfl

def called : World Unit := { prepared with published := 1, inHand := Function.update prepared.inHand (some ()) 1 }

end Sample

end RS2ServerFix.Observer.Log
