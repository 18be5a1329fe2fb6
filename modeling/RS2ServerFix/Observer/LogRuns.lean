import RS2ServerFix.Observer.LogSound

namespace RS2ServerFix.Observer.Log

open Lib

section Asking

variable {κ : Type} [DecidableEq κ] [Fintype κ] {limit : Nat} {s t : World κ} {i : Option κ} {ls : Option κ → Known}

omit [DecidableEq κ] in
theorem Whole.read_bytes (h : Whole limit s) (hlimit : limit ≤ int64Max) :
    s.word .bytesWritten = s.counted .bytesWritten := by
  have hword := h.conserved.words .bytesWritten
  have hcounted := h.bytes.trans h.shape.bytes
  omega

/-- Every question that may be asked is answered in keeping with what is known. -/
theorem Agrees.asks (hlimit : limit ≤ int64Max) (h : Agrees limit ls s) {q : Op} {answer : q.Answer}
    (hmay : may limit q (ls i))
    (hr : responds i q s answer t) : ∃ l, answers q (ls i) answer l ∧ Agrees limit (Function.update ls i l) t := by
  have hi := h.fits i
  cases q with
  | status =>
      obtain ⟨rfl, rfl⟩ := hr
      refine ⟨ls i, ⟨fun o ho => ?_, rfl⟩, h.keep i⟩
      rw [hi.own_eq ho]
  | setStatus status =>
      obtain rfl := hr
      obtain rfl := hi.none_of_own hmay
      exact ⟨_, rfl, h.setStatus status⟩
  | setError error =>
      obtain rfl := hr
      exact ⟨ls i, rfl, (h.other error s.queueDepth s.armed s.stop).keep i⟩
  | setDepth =>
      obtain rfl := hr
      exact ⟨ls i, rfl, (h.other s.error s.queue.count s.armed s.stop).keep i⟩
  | read counter =>
      obtain ⟨rfl, rfl⟩ := hr
      obtain ⟨rfl, -⟩ := hmay
      refine ⟨ls i, ⟨fun o ho => ?_, rfl⟩, h.keep i⟩
      rw [hi.own_eq ho]
      exact h.whole.read_bytes hlimit
  | add counter delta =>
      obtain rfl := hr
      refine ⟨_, rfl, ?_⟩
      by_cases hcounter : counter = .bytesWritten
      · subst hcounter
        obtain ⟨o, ho, hdelta⟩ : ∃ o, (ls i).own = some o ∧ o.counted + delta ≤ fileBytes o.file := hmay
        obtain rfl := hi.none_of_own (by rw [ho]; exact Option.some_ne_none o)
        rw [hi.own_eq ho] at hdelta
        exact h.countBytes hdelta
      · have hdelta : delta ≤ (ls i).held := by
          rw [may, if_neg hcounter] at hmay
          exact hmay
        exact h.countEvents hcounter hdelta
  | tryAcquire =>
      rcases hr with ⟨rfl, hfree, rfl⟩ | ⟨rfl, -, rfl⟩
      · exact ⟨_, rfl, h.acquire i hfree⟩
      · have hsame : (ls i).lock false = ls i := by
          have hlocked : (ls i).locked = false := hmay
          rw [Known.lock, ← hlocked]
        refine ⟨_, rfl, ?_⟩
        rw [hsame]
        exact h.keep i
  | acquire =>
      obtain ⟨hfree, rfl⟩ := hr
      exact ⟨_, rfl, h.acquire i hfree⟩
  | release =>
      obtain rfl := hr
      exact ⟨_, rfl, h.release hmay⟩
  | full =>
      obtain ⟨rfl, rfl⟩ := hr
      exact ⟨_, rfl, h.full hmay⟩
  | enqueue event =>
      obtain rfl := hr
      exact ⟨_, rfl, h.enqueue event hmay.1 hmay.2⟩
  | takeBatch =>
      obtain ⟨rfl, rfl⟩ := hr
      obtain rfl := hi.none_of_own hmay.2.1
      exact ⟨_, rfl, h.takeBatch hmay.1 hmay.2.2⟩
  | write kind length =>
      obtain rfl := hr
      obtain ⟨o, ho, hrecord⟩ := hmay
      obtain rfl := hi.none_of_own (by rw [ho]; exact Option.some_ne_none o)
      rw [hi.own_eq ho] at hrecord
      exact ⟨_, rfl, h.write hrecord answer⟩
  | armed | stop =>
      obtain ⟨-, rfl⟩ := hr
      exact ⟨ls i, rfl, h.keep i⟩
  | text _ | token _ | flush | tick | bindings | entered | notice _ =>
      obtain rfl := hr
      exact ⟨ls i, rfl, h.keep i⟩

end Asking

section Caller

variable {limit : Nat} {k : Keeping} {l : Known}

/-- A caller holds its event until it is counted or queued. -/
def Out (l : Known) : Prop := l.locked = false ∧ l.held = 0

theorem abides_add {counter : Counter} (hcounter : counter ≠ .bytesWritten) {delta : Nat} (hdelta : delta ≤ l.held)
    {post : Unit → Keeping → Known → Prop} (h : post () k { l with held := l.held - delta }) :
    (add counter delta).Abides (view limit) post k l := by
  refine Act.Abides.query (by simp only [view, may, if_neg hcounter]; exact hdelta) fun _ l' hl => ?_
  obtain rfl := hl
  rw [Known.count, if_neg hcounter]
  exact h

theorem publishLocked_abides (event : Event) (hlocked : l.locked = true) (hheld : l.held = 1) :
    (publishLocked event).Abides (view limit) (fun _ _ l' => Out l') k l := by
  refine Act.Abides.queryBind trivial fun lockedStatus l' hl => ?_
  obtain rfl := hl.2
  refine Act.Abides.ite (fun _ => ?_) fun _ => ?_
  · refine Act.Abides.queryBind hlocked fun _ l' hl => ?_
    obtain rfl := hl
    exact abides_add (by decide) (by exact hheld.ge) ⟨rfl, by simp only [Known.free, hheld]⟩
  · refine Act.Abides.queryBind hlocked fun full l' hl => ?_
    obtain rfl := hl
    refine Act.Abides.ite (fun _ => ?_) fun hfull => ?_
    · refine Act.Abides.queryBind hlocked fun _ l' hl => ?_
      obtain rfl := hl
      exact abides_add (by decide) (by exact hheld.ge) ⟨rfl, by simp only [Known.free, Known.find, hheld]⟩
    · have hroom : (l'.find !full).room = true := congrArg Bool.not (Bool.eq_false_of_not_eq_true hfull)
      refine Act.Abides.queryBind ⟨hroom, le_of_eq hheld.symm⟩ fun _ l' hl => ?_
      obtain rfl := hl
      refine Act.Abides.queryBind trivial fun _ l' hl => ?_
      obtain rfl := hl
      refine Act.Abides.queryBind hlocked fun _ l' hl => ?_
      obtain rfl := hl
      exact Act.Abides.done ⟨rfl, by simp only [Known.free, Known.put, Known.find, hheld]⟩

theorem publish_abides (event : Event) (hlocked : l.locked = false) (hheld : l.held = 1) :
    (publish event).Abides (view limit) (fun _ _ l' => Out l') k l := by
  refine Act.Abides.queryBind trivial fun s l' hl => ?_
  obtain rfl := hl.2
  refine Act.Abides.ite (fun _ => ?_) fun _ => ?_
  · exact abides_add (by decide) (by exact hheld.ge) ⟨hlocked, by simp only [hheld]⟩
  · refine Act.Abides.queryBind hlocked fun acquired l' hl => ?_
    obtain rfl := hl
    refine Act.Abides.ite (fun hyes => ?_) fun hno => ?_
    · exact publishLocked_abides event hyes hheld
    · have hfree : acquired = false := Bool.eq_false_of_not_eq_true hno
      exact abides_add (by decide) (by exact hheld.ge) ⟨hfree, by simp only [Known.lock, hheld]⟩

end Caller

end RS2ServerFix.Observer.Log
