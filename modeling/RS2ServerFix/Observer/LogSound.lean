import RS2ServerFix.Observer.LogView

namespace RS2ServerFix.Observer.Log

open Lib

variable {κ : Type} [DecidableEq κ] {limit : Nat} {s t : World κ} {i j : Option κ} {l : Known}

namespace Fits

omit [DecidableEq κ]

/-- A thread that has the lock is alone with the queue. -/
theorem alone (hi : Fits s i l) (hlocked : l.locked = true) {l' : Known} (hj : Fits s j l') (hne : j ≠ i) :
    l'.room = false := by
  rw [← Bool.not_eq_true]
  intro hroom
  have hlock := hj.lock.mp (hj.room hroom).1
  rw [hi.lock.mp hlocked] at hlock
  exact hne (Option.some.inj hlock).symm

theorem none_of_own (hi : Fits s i l) (hown : l.own ≠ none) : i = none := by
  cases i with
  | none => rfl
  | some i => exact absurd hi.own hown

theorem own_eq (hi : Fits s i l) {o : Own} (hown : l.own = some o) :
    o = ⟨s.status, s.counted .bytesWritten, s.file⟩ := by
  obtain rfl := hi.none_of_own (by rw [hown]; exact Option.some_ne_none o)
  exact Option.some.inj (hown.symm.trans hi.own)

theorem frame (h : Fits s j l) (hlock : t.lock = s.lock) (hcount : t.queue.count = s.queue.count)
    (hheld : t.inHand j = s.inHand j) (hown : t.own j = s.own j) : Fits t j l where
  lock := by
    rw [hlock]
    exact h.lock
  room := by
    rw [hcount]
    exact h.room
  held := hheld.trans h.held
  own := h.own.trans hown.symm

theorem frameQueue (h : Fits s j l) (hroom : l.room = false) (hlock : t.lock = s.lock)
    (hheld : t.inHand j = s.inHand j) (hown : t.own j = s.own j) : Fits t j l where
  lock := by
    rw [hlock]
    exact h.lock
  room := by
    intro hyes
    rw [hroom] at hyes
    cases hyes
  held := hheld.trans h.held
  own := h.own.trans hown.symm

theorem frameLock (h : Fits s j l) (hlocked : l.locked = false) (hlock : t.lock ≠ some j)
    (hheld : t.inHand j = s.inHand j)
    (hown : t.own j = s.own j) : Fits t j l where
  lock := by
    rw [hlocked]
    constructor
    · intro hno
      cases hno
    · intro hyes
      exact absurd hyes hlock
  room := by
    intro hyes
    have hno := (h.room hyes).1
    rw [hlocked] at hno
    cases hno
  held := hheld.trans h.held
  own := h.own.trans hown.symm

theorem unlocked (h : Fits s j l) (hlock : s.lock ≠ some j) : l.locked = false := by
  rw [← Bool.not_eq_true]
  exact fun hyes => hlock (h.lock.mp hyes)

end Fits

variable [Fintype κ] {ls : Option κ → Known}

theorem Agrees.move (_ : Agrees limit ls s) (hi : Fits t i l) (hothers : ∀ j ≠ i, Fits t j (ls j))
    (hwhole : Whole limit t) :
    Agrees limit (Function.update ls i l) t where
  fits := by
    intro j
    by_cases hj : j = i
    · subst hj
      rw [Function.update_self]
      exact hi
    · rw [Function.update_of_ne hj]
      exact hothers j hj
  whole := hwhole

theorem Agrees.keep (h : Agrees limit ls s) (i : Option κ) : Agrees limit (Function.update ls i (ls i)) s := by
  rw [Function.update_eq_self]
  exact h

namespace Agrees

theorem acquire (h : Agrees limit ls s) (i : Option κ) (hfree : s.lock = none) :
    Agrees limit (Function.update ls i ((ls i).lock true)) { s with lock := some i } := by
  apply h.move
  · exact {
      lock := ⟨fun _ => rfl, fun _ => rfl⟩
      room := fun hroom => ⟨rfl, ((h.fits i).room hroom).2⟩
      held := (h.fits i).held
      own := (h.fits i).own.trans (by cases i <;> rfl) }
  · intro j hj
    have hlocked : (ls j).locked = false := (h.fits j).unlocked (by rw [hfree]; exact fun hno => by cases hno)
    refine (h.fits j).frameLock hlocked ?_ rfl (by cases j <;> rfl)
    intro heq
    exact hj (Option.some.inj heq).symm
  · exact { h.whole with
      conserved := ⟨h.whole.conserved.events, h.whole.conserved.calls, h.whole.conserved.batch, h.whole.conserved.words⟩
      ordered := ⟨h.whole.ordered.numbers, h.whole.ordered.queue⟩ }

theorem release (h : Agrees limit ls s) {i : Option κ} (hlocked : (ls i).locked = true) :
    Agrees limit (Function.update ls i (ls i).free) { s with lock := none } := by
  apply h.move
  · exact {
      lock := by
        constructor
        · intro hno
          cases hno
        · intro hno
          cases hno
      room := fun hno => by cases hno
      held := (h.fits i).held
      own := (h.fits i).own.trans (by cases i <;> rfl) }
  · intro j hj
    have hne : s.lock ≠ some j := by
      rw [(h.fits i).lock.mp hlocked]
      intro heq
      exact hj (Option.some.inj heq).symm
    exact (h.fits j).frameLock ((h.fits j).unlocked hne) (fun hno => by cases hno) rfl (by cases j <;> rfl)
  · exact { h.whole with
      conserved := ⟨h.whole.conserved.events, h.whole.conserved.calls, h.whole.conserved.batch, h.whole.conserved.words⟩
      ordered := ⟨h.whole.ordered.numbers, h.whole.ordered.queue⟩ }

theorem full (h : Agrees limit ls s) {i : Option κ} (hlocked : (ls i).locked = true) :
    Agrees limit (Function.update ls i ((ls i).find !decide (s.queue.count = kQueueCapacity))) s := by
  refine h.move ?_ (fun j _ => h.fits j) h.whole
  exact {
    lock := (h.fits i).lock
    room := by
      intro hroom
      simp only [Known.find, Bool.not_eq_true', decide_eq_false_iff_not] at hroom
      exact ⟨hlocked, lt_of_le_of_ne h.whole.count hroom⟩
    held := (h.fits i).held
    own := (h.fits i).own }

theorem enqueue (h : Agrees limit ls s) {i : Option κ} (e : Event) (hroom : (ls i).room = true)
    (hheld : 1 ≤ (ls i).held) :
    Agrees limit (Function.update ls i (ls i).put) (s.put i e) := by
  have hi := h.fits i
  obtain ⟨hlocked, hcount⟩ := hi.room hroom
  apply h.move
  · exact {
      lock := hi.lock
      room := fun hno => by cases hno
      held := by
        simp only [World.put, Function.update_self, hi.held, Known.put]
      own := hi.own.trans (by cases i <;> rfl) }
  · intro j hj
    refine (h.fits j).frameQueue (hi.alone hlocked (h.fits j) hj) rfl ?_ (by cases j <;> rfl)
    simp only [World.put, Function.update_of_ne hj]
  · exact {
      head := h.whole.head
      count := hcount
      bytes := h.whole.bytes
      conserved := put_events h.whole.conserved e (by rw [hi.held]; exact hheld)
      ordered := h.whole.ordered.put hcount i e
      shape := h.whole.shape }

theorem takeBatch (h : Agrees limit ls s) (hlocked : (ls none).locked = true) (hheld : (ls none).held = 0) :
    Agrees limit (Function.update ls none ((ls none).take s.taken.1.length)) (s.handOut none) := by
  have hi := h.fits none
  apply h.move
  · exact {
      lock := hi.lock
      room := fun hno => by cases hno
      held := by
        simp only [World.handOut, Function.update_self, hi.held, Known.take]
      own := hi.own }
  · intro j hj
    refine (h.fits j).frameQueue (hi.alone hlocked (h.fits j) hj) rfl ?_ (by cases j <;> rfl)
    simp only [World.handOut, Function.update_of_ne hj]
  · have htaken := taken_count s
    have hcount := h.whole.count
    exact {
      head := Circular.drain_head_lt _ _ h.whole.head
      count := by
        simp only [World.handOut]
        omega
      bytes := h.whole.bytes
      conserved := handOut_events h.whole.conserved h.whole.count h.whole.head (hi.held.trans hheld)
      ordered := h.whole.ordered.handOut h.whole.count h.whole.head none
      shape := h.whole.shape }

theorem countEvents (h : Agrees limit ls s) {i : Option κ} {counter : Counter} {delta : Nat}
    (hcounter : counter ≠ .bytesWritten) (hdelta : delta ≤ (ls i).held) :
    Agrees limit (Function.update ls i ((ls i).count counter delta)) (s.count i counter delta) := by
  have hknown : (ls i).count counter delta = { ls i with held := (ls i).held - delta } := if_neg hcounter
  have hbytes : (s.count i counter delta).counted .bytesWritten = s.counted .bytesWritten := by
    simp only [World.count, Function.update_of_ne hcounter.symm]
  have hown : ∀ j, (s.count i counter delta).own j = s.own j := by
    intro j
    cases j with
    | none =>
        simp only [World.own, hbytes]
        rfl
    | some j => rfl
  rw [hknown]
  apply h.move
  · exact {
      lock := (h.fits i).lock
      room := (h.fits i).room
      held := by
        simp only [World.count, if_neg hcounter, Function.update_self, (h.fits i).held]
      own := (h.fits i).own.trans (hown i).symm }
  · intro j hj
    refine (h.fits j).frame rfl rfl ?_ (hown j)
    simp only [World.count, Function.update_of_ne hj]
  · exact {
      head := h.whole.head
      count := h.whole.count
      bytes := by
        rw [hbytes]
        exact h.whole.bytes
      conserved := count_events h.whole.conserved hcounter (by rw [(h.fits i).held]; exact hdelta)
      ordered := ⟨h.whole.ordered.numbers, h.whole.ordered.queue⟩
      shape := h.whole.shape }

theorem countBytes (h : Agrees limit ls s) {delta : Nat} (hdelta : s.counted .bytesWritten + delta ≤ fileBytes s.file) :
    Agrees limit (Function.update ls none ((ls none).count .bytesWritten delta)) (s.count none .bytesWritten delta) := by
  have hheld : (s.count none .bytesWritten delta).inHand = s.inHand := by
    simp only [World.count, if_true, Nat.sub_zero, Function.update_eq_self]
  have hbytes : (s.count none .bytesWritten delta).counted .bytesWritten = s.counted .bytesWritten + delta := by
    simp only [World.count, Function.update_self]
  rw [Known.count, if_pos rfl]
  apply h.move
  · exact {
      lock := (h.fits none).lock
      room := (h.fits none).room
      held := by
        rw [hheld]
        exact (h.fits none).held
      own := by
        simp only [Known.setOwn, (h.fits none).own, World.own, Option.map_some, hbytes]
        rfl }
  · intro j hj
    refine (h.fits j).frame rfl rfl (by rw [hheld]) ?_
    cases j with
    | none => exact absurd rfl hj
    | some j => rfl
  · exact {
      head := h.whole.head
      count := h.whole.count
      bytes := by
        rw [hbytes]
        exact hdelta
      conserved := count_bytes h.whole.conserved none delta
      ordered := ⟨h.whole.ordered.numbers, h.whole.ordered.queue⟩
      shape := h.whole.shape }

theorem setStatus (h : Agrees limit ls s) (status : WriterStatus) :
    Agrees limit (Function.update ls none ((ls none).setOwn fun o =>
      { o with status := status })) { s with status := status } := by
  apply h.move
  · exact {
      lock := (h.fits none).lock
      room := (h.fits none).room
      held := (h.fits none).held
      own := by
        simp only [Known.setOwn, (h.fits none).own]
        rfl }
  · intro j hj
    refine (h.fits j).frame rfl rfl rfl ?_
    cases j with
    | none => exact absurd rfl hj
    | some j => rfl
  · exact { h.whole with
      conserved := ⟨h.whole.conserved.events, h.whole.conserved.calls, h.whole.conserved.batch, h.whole.conserved.words⟩
      ordered := ⟨h.whole.ordered.numbers, h.whole.ordered.queue⟩ }

theorem write (h : Agrees limit ls s) {kind : RecordKind} {length : Nat} (hmay : MayWrite limit kind length s.file)
    (answer : WriteAnswer) :
    Agrees limit (Function.update ls none ((ls none).setOwn fun o =>
      { o with file := o.file ++ [⟨kind, length, answer⟩] }))
      { s with file := s.file ++ [⟨kind, length, answer⟩] } := by
  apply h.move
  · exact {
      lock := (h.fits none).lock
      room := (h.fits none).room
      held := (h.fits none).held
      own := by
        simp only [Known.setOwn, (h.fits none).own]
        rfl }
  · intro j hj
    refine (h.fits j).frame rfl rfl rfl ?_
    cases j with
    | none => exact absurd rfl hj
    | some j => rfl
  · have hbytes := h.whole.bytes
    exact {
      head := h.whole.head
      count := h.whole.count
      bytes := by
        simp only [fileBytes_append]
        omega
      conserved := ⟨h.whole.conserved.events, h.whole.conserved.calls, h.whole.conserved.batch, h.whole.conserved.words⟩
      ordered := ⟨h.whole.ordered.numbers, h.whole.ordered.queue⟩
      shape := h.whole.shape.append hmay answer }

omit [DecidableEq κ] in
theorem other (h : Agrees limit ls s) (error depth : Nat) (armed stop : Bool) :
    Agrees limit ls { s with error := error, queueDepth := depth, armed := armed, stop := stop } where
  fits j := (h.fits j).frame rfl rfl rfl (by cases j <;> rfl)
  whole := { h.whole with
    conserved := ⟨h.whole.conserved.events, h.whole.conserved.calls, h.whole.conserved.batch, h.whole.conserved.words⟩
    ordered := ⟨h.whole.ordered.numbers, h.whole.ordered.queue⟩ }

theorem begins (h : Agrees limit ls s) {i : κ} (hheld : (ls (some i)).held = 0) :
    Agrees limit (Function.update ls (some i) (ls (some i)).begin)
      { s with published := s.published + 1, inHand := Function.update s.inHand (some i) 1 } := by
  apply h.move
  · exact {
      lock := (h.fits (some i)).lock
      room := (h.fits (some i)).room
      held := by simp only [Function.update_self, Known.begin]
      own := (h.fits (some i)).own }
  · intro j hj
    refine (h.fits j).frame rfl rfl ?_ (by cases j <;> rfl)
    simp only [Function.update_of_ne hj]
  · exact { h.whole with
      conserved := {
        events := by
          have hsum := sum_update s.inHand (some i) 1
          have hevents := h.whole.conserved.events
          have hzero := (h.fits (some i)).held.trans hheld
          simp only
          omega
        calls := by
          intro j
          by_cases hj : j = i
          · subst hj
            simp
          · simp only [Function.update_of_ne (fun he => hj (Option.some.inj he))]
            exact h.whole.conserved.calls j
        batch := by
          simp only [Function.update_of_ne (Option.some_ne_none i).symm]
          exact h.whole.conserved.batch
        words := h.whole.conserved.words }
      ordered := ⟨h.whole.ordered.numbers, h.whole.ordered.queue⟩ }

end Agrees

end RS2ServerFix.Observer.Log
