import RS2ServerFix.Observer.LogRuns

namespace RS2ServerFix.Observer.Log

open Lib

section Thread

variable {limit : Nat} {k : Keeping} {r : Bool} {n : Nat} {o : Own}

/-- The writing thread without the lock: whether it knew of room, what it holds, and what is its own. -/
def ours (r : Bool) (n : Nat) (o : Own) : Known := ⟨false, r, n, some o⟩

/-- Nothing more is written after such a status, the footer apart. -/
def Dead (status : WriterStatus) : Prop := status ≠ .prepared ∧ status ≠ .recording

structure Tidy (o : Own) : Prop where
  counted : o.counted = fileBytes o.file
  followed : ∀ w ∈ o.file, Followed w

/-- While it records: `n` events are in hand. -/
structure Recording (n : Nat) (k : Keeping) (l : Known) : Prop where
  mode : k.mode = .running
  started : k.started = true
  closed : k.closed = false
  footerWritten : k.footerWritten = false
  partialTail : k.partialTail = false
  knows : ∃ r o, l = ours r n o ∧ Tidy o ∧ o.status = .recording

structure Failing (n : Nat) (k : Keeping) (l : Known) : Prop where
  footerWritten : k.footerWritten = false
  knows : ∃ r o, l = ours r n o ∧ o.counted = fileBytes o.file ∧ Dead o.status ∧
    (k.partialTail = false → ∀ w ∈ o.file, Followed w)

/-- What is left to be known of the thread at its end: it has nothing in hand. -/
def Over (l : Known) : Prop := ∃ r o, l = ours r 0 o

def Standing (k : Keeping) (l : Known) : Prop :=
  match k.mode with
  | .running => if k.started then Recording 0 k l else
      k.closed = false ∧ k.footerWritten = false ∧ k.partialTail = false ∧ ∃ r o, l = ours r 0 o ∧ Tidy o ∧
        o.status = .prepared
  | .abandoning _ => Failing 0 k l
  | .exited => Over l

theorem Standing.held {l : Known} (h : Standing k l) : l.held = 0 := by
  rw [Standing] at h
  split at h
  · split at h
    · obtain ⟨r, o, rfl, -⟩ := h.knows
      rfl
    · obtain ⟨-, -, -, r, o, rfl, -⟩ := h
      rfl
  · obtain ⟨r, o, rfl, -⟩ := h.knows
    rfl
  · obtain ⟨r, o, rfl⟩ := h
    rfl

theorem abides_setStatus (status : WriterStatus) {post : Unit → Keeping → Known → Prop}
    (h : post () k (ours r n { o with status := status })) : (setStatus status).Abides (view limit) post k (ours r n o) := by
  refine Act.Abides.query (by intro hno; cases hno) fun _ l' hl => ?_
  obtain rfl := hl
  exact h

theorem abides_countBytes {m : Nat} (hm : o.counted + m ≤ fileBytes o.file) {post : Unit → Keeping → Known → Prop}
    (h : post () k (ours r n { o with counted := o.counted + m })) :
    (add .bytesWritten m).Abides (view limit) post k (ours r n o) := by
  refine Act.Abides.query ⟨o, rfl, hm⟩ fun _ l' hl => ?_
  obtain rfl := hl
  exact h

/-- A failure leaves the status of the first one. -/
theorem fail_abides {status : WriterStatus} (hdead : Dead status) (error : Nat) {post : Unit → Keeping → Known → Prop}
    (h : ∀ st, Dead st → post () k (ours r n { o with status := st })) :
    (fail status error).Abides (view limit) post k (ours r n o) := by
  have hexchange : (exchangeFailure status error).Abides (view limit) post k (ours r n o) := by
    refine Act.Abides.queryBind (by intro hno; cases hno) fun _ l' hl => ?_
    obtain rfl := hl
    exact abides_setStatus status (h status hdead)
  refine Act.Abides.queryBind trivial fun first l' hl => ?_
  obtain ⟨hfirst, rfl⟩ := hl
  have hfirst : first = o.status := hfirst o rfl
  refine Act.Abides.ite (fun _ => hexchange) fun hrecording => ?_
  refine Act.Abides.queryBind trivial fun second l' hl => ?_
  obtain ⟨hsecond, rfl⟩ := hl
  have hsecond : second = o.status := hsecond o rfl
  refine Act.Abides.ite (fun _ => hexchange) fun hprepared => ?_
  exact Act.Abides.done (h o.status ⟨hsecond ▸ hprepared, hfirst ▸ hrecording⟩)

def After (kind : RecordKind) (n : Nat) (k : Keeping) (o : Own) (ok : Bool) (k' : Keeping) (l' : Known) : Prop :=
  ∃ r o', l' = ours r n o' ∧ o'.counted = fileBytes o'.file ∧
    if ok then k' = k ∧ o'.status = o.status ∧ (kind ≠ .footer → ∀ w ∈ o'.file, Followed w)
    else kind ≠ .footer → Dead o'.status ∧
      ∃ tail, k' = { k with partialTail := tail } ∧ (tail = false → ∀ w ∈ o'.file, Followed w)

theorem After.failed {kind : RecordKind} {k' : Keeping} {st : WriterStatus} (hdead : Dead st) {tail : Bool}
    (hk : k' = { k with partialTail := tail }) {file : List Written} {counted : Nat}
    (hbytes : counted = fileBytes file) (htail : kind ≠ .footer → tail = false → ∀ w ∈ file, Followed w) :
    After kind n k o false k' (ours r n ⟨st, counted, file⟩) :=
  ⟨r, _, rfl, hbytes, fun hkind => ⟨hdead, tail, hk, htail hkind⟩⟩

theorem dead_failed : Dead .failed := ⟨by decide, by decide⟩

/-- The record that was handed over is the last of the file. -/
theorem settle_abides {kind : RecordKind} {length : Nat} (answer : WriteAnswer) (ho : Tidy o) {file : List Written}
    (hfile : file = o.file ++ [⟨kind, length, answer⟩]) :
    (settle length answer).Abides (view limit) (After kind n k o) k (ours r n { o with file := file }) := by
  have hbytes : fileBytes file = o.counted + recordBytes ⟨kind, length, answer⟩ := by
    rw [hfile, fileBytes_append, ho.counted]
  have hfollowed : (kind ≠ .footer → ¬Torn ⟨kind, length, answer⟩ → ∀ w ∈ file, Followed w) := by
    intro hkind htorn w hw
    rw [hfile] at hw
    rcases List.mem_append.mp hw with hw | hw
    · exact ho.followed w hw
    · obtain rfl := List.mem_singleton.mp hw
      exact ⟨htorn, hkind⟩
  refine Act.Abides.ite (fun hmore => ?_) fun hmore => ?_
  · apply Act.Abides.bind
    refine fail_abides dead_failed _ fun st hst => ?_
    refine Act.Abides.modifyBind (Act.Abides.done ?_)
    have hrecord : recordBytes ⟨kind, length, answer⟩ = 0 := if_pos hmore
    rw [hrecord] at hbytes
    exact After.failed hst rfl hbytes.symm fun _ hno => by cases hno
  · have hrecord : recordBytes ⟨kind, length, answer⟩ = answer.written := if_neg hmore
    rw [hrecord] at hbytes
    apply Act.Abides.bind
    refine abides_countBytes (le_of_eq hbytes.symm) ?_
    refine Act.Abides.ite (fun _ => ?_) fun hgood => ?_
    · refine Act.Abides.modifyBind (Act.Abides.bind ?_)
      refine fail_abides dead_failed _ fun st hst => Act.Abides.done ?_
      refine After.failed hst rfl hbytes.symm fun hkind htail => hfollowed hkind ?_
      rintro ⟨hzero, hne⟩
      simp only [Bool.and_eq_false_iff, decide_eq_false_iff_not] at htail
      rcases htail with htail | htail
      · exact htail hzero
      · exact htail hne
    · have hall : answer.written = length := by
        by_contra hne
        exact hgood (Or.inr hne)
      exact Act.Abides.done ⟨r, _, rfl, hbytes.symm, rfl, rfl, fun hkind => hfollowed hkind fun htorn => htorn.2 hall⟩

theorem writeRecord_abides {kind : RecordKind} {length : Nat} (hfooter : kind = .footer → length ≤ kFooterReserve)
    (ho : Tidy o) :
    (writeRecord limit kind length).Abides (view limit) (After kind n k o) k (ours r n o) := by
  refine Act.Abides.queryBind ⟨rfl, by intro hno; cases hno⟩ fun used l' hl => ?_
  obtain ⟨hused, rfl⟩ := hl
  have hused : used = o.counted := hused o rfl
  refine Act.Abides.ite (fun _ => ?_) fun hroom => ?_
  · refine Act.Abides.ite (fun _ => Act.Abides.bind ?_) fun hkind => ?_
    · refine fail_abides ⟨by decide, by decide⟩ _ fun st hst => Act.Abides.done ?_
      exact After.failed hst rfl ho.counted fun _ _ => ho.followed
    · exact Act.Abides.done ⟨r, o, rfl, ho.counted, fun hno => absurd hno hkind⟩
  · have hmay : MayWrite limit kind length o.file := by
      refine ⟨ho.followed, ?_, hfooter⟩
      rw [not_or] at hroom
      rw [← ho.counted, ← hused]
      omega
    refine Act.Abides.queryBind ⟨o, rfl, hmay⟩ fun answer l' hl => ?_
    obtain rfl := hl
    exact settle_abides answer ho rfl

theorem formatted_abides {kind : RecordKind} (ho : Tidy o) :
    (formatted limit kind).Abides (view limit) (After kind n k o) k (ours r n o) := by
  refine Act.Abides.queryBind trivial fun length l' hl => ?_
  obtain rfl := hl
  refine Act.Abides.ite (fun _ => Act.Abides.bind ?_) fun hlength => ?_
  · refine fail_abides dead_failed _ fun st hst => Act.Abides.done ?_
    exact After.failed hst rfl ho.counted fun _ _ => ho.followed
  · refine writeRecord_abides (fun hkind => ?_) ho
    subst hkind
    exact Nat.le_of_lt (Nat.lt_of_not_le hlength)

end Thread

end RS2ServerFix.Observer.Log
