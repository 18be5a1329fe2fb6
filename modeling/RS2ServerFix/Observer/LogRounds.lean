import RS2ServerFix.Observer.LogThread

namespace RS2ServerFix.Observer.Log

open Lib

section Thread

variable {limit : Nat} {k : Keeping} {l : Known} {n : Nat}

def Outcome (n : Nat) (ok : Bool) (k : Keeping) (l : Known) : Prop :=
  if ok then Recording n k l else Failing n k l

theorem Recording.record (h : Recording n k l) {kind : RecordKind} (hkind : kind ≠ .footer) :
    (formatted limit kind).Abides (view limit) (Outcome n) k l := by
  obtain ⟨r, o, rfl, ho, hstatus⟩ := h.knows
  refine Act.Abides.mono (formatted_abides ho) ?_
  rintro ok k' l' ⟨r', o', rfl, hcounted, hafter⟩
  cases ok with
  | true =>
      obtain ⟨rfl, hsame, hfollowed⟩ := hafter
      exact { h with knows := ⟨r', o', rfl, ⟨hcounted, hfollowed hkind⟩, hsame.trans hstatus⟩ }
  | false =>
      obtain ⟨hdead, tail, rfl, htail⟩ := hafter hkind
      exact ⟨h.footerWritten, r', o', rfl, hcounted, hdead, htail⟩

theorem Recording.fails (h : Recording n k l) (error : Nat) {post : Unit → Keeping → Known → Prop}
    (hpost : ∀ l', Failing n k l' → post () k l') : (fail .failed error).Abides (view limit) post k l := by
  obtain ⟨r, o, rfl, ho, -⟩ := h.knows
  refine fail_abides dead_failed error fun st hst => hpost _ ?_
  exact ⟨h.footerWritten, r, _, rfl, ho.counted, hst, fun _ => ho.followed⟩

theorem Recording.formatEvent (h : Recording n k l) (queued : QueuedEvent) :
    (formatEvent limit queued).Abides (view limit) (Outcome n) k l := by
  refine Act.Abides.ite (fun _ => ?_) fun _ => h.record (by intro hno; cases hno)
  refine Act.Abides.queryBind trivial fun token l' hl => ?_
  obtain rfl := hl
  refine Act.Abides.ite (fun _ => h.record (by intro hno; cases hno)) fun _ => Act.Abides.bind ?_
  exact h.fails _ fun l' hfailing => Act.Abides.done hfailing

theorem Recording.counted (h : Recording n k l) (m : Nat) : Recording (n - m) k { l with held := l.held - m } := by
  obtain ⟨r, o, rfl, ho⟩ := h.knows
  exact { h with knows := ⟨r, o, rfl, ho⟩ }

theorem Failing.counted (h : Failing n k l) (m : Nat) : Failing (n - m) k { l with held := l.held - m } := by
  obtain ⟨r, o, rfl, ho⟩ := h.knows
  exact ⟨h.footerWritten, r, o, rfl, ho⟩

theorem Outcome.held {ok : Bool} (h : Outcome n ok k l) : l.held = n := by
  cases ok with
  | true =>
      obtain ⟨r, o, rfl, -⟩ := Recording.knows h
      rfl
  | false =>
      obtain ⟨r, o, rfl, -⟩ := Failing.knows h
      rfl

/-- What is counted is not in hand any more. -/
theorem Outcome.counts {ok : Bool} (h : Outcome n ok k l) {counter : Counter} (hcounter : counter ≠ .bytesWritten) {m : Nat}
    (hm : m ≤ n) {post : Unit → Keeping → Known → Prop} (hpost : ∀ l', Outcome (n - m) ok k l' → post () k l') :
    (add counter m).Abides (view limit) post k l := by
  refine abides_add hcounter (h.held ▸ hm) (hpost _ ?_)
  cases ok with
  | true => exact Recording.counted h m
  | false => exact Failing.counted h m

/-- By induction on the batch: what is not written of it is still in hand. -/
theorem formatEvents_abides (batch : List QueuedEvent) {k : Keeping} {l : Known} (h : Recording batch.length k l) :
    (formatEvents limit batch).Abides (view limit)
      (fun left k' l' => left = 0 ∧ Recording 0 k' l' ∨ Failing left k' l') k l := by
  induction batch generalizing k l with
  | nil => exact Act.Abides.done (Or.inl ⟨rfl, h⟩)
  | cons queued rest ih =>
      apply Act.Abides.bind
      refine Act.Abides.mono (h.formatEvent queued) ?_
      intro ok k' l' houtcome
      cases ok with
      | true =>
          apply Act.Abides.bind
          exact houtcome.counts (by decide) (Nat.le_add_left 1 rest.length) fun l' hrest => ih hrest
      | false => exact Act.Abides.done (Or.inr houtcome)

/-- The lock is taken and given back, and the batch is in hand. -/
theorem takeBatch_abides {r : Bool} {o : Own} {post : List QueuedEvent → Keeping → Known → Prop}
    (h : ∀ batch r', post batch k (ours r' batch.length o)) : takeBatch.Abides (view limit) post k (ours r 0 o) := by
  refine Act.Abides.queryBind rfl fun _ l' hl => ?_
  obtain rfl := hl
  refine Act.Abides.queryBind ⟨rfl, Option.some_ne_none o, rfl⟩ fun batch l' hl => ?_
  obtain rfl := hl
  refine Act.Abides.queryBind trivial fun _ l' hl => ?_
  obtain rfl := hl
  refine Act.Abides.queryBind rfl fun _ l' hl => ?_
  obtain rfl := hl
  have hall : (((ours r 0 o).lock true).take batch.length).free = ours false batch.length o := by
    simp only [Known.free, Known.take, Known.lock, ours, Nat.zero_add]
  exact Act.Abides.done (hall ▸ h batch false)

/-- Either it goes on recording or it has failed, with nothing in hand. -/
def Through (k : Keeping) (l : Known) : Prop := Recording 0 k l ∨ Failing 0 k l

theorem Through.status (h : Through k l) {g : WriterStatus → Work Unit} {post : Unit → Keeping → Known → Prop}
    (hrecording : Recording 0 k l → (g .recording).Abides (view limit) post k l)
    (hfailing : Failing 0 k l → ∀ st, Dead st → (g st).Abides (view limit) post k l) :
    (status >>= g).Abides (view limit) post k l := by
  refine Act.Abides.queryBind trivial fun st l' hl => ?_
  obtain ⟨hst, rfl⟩ := hl
  rcases h with h | h
  · obtain ⟨r, o, rfl, -, hstatus⟩ := h.knows
    have hst : st = .recording := (hst o rfl).trans hstatus
    subst hst
    exact hrecording h
  · obtain ⟨r, o, rfl, -, hdead, -⟩ := h.knows
    have hst : st = o.status := hst o rfl
    exact hfailing h st (hst ▸ hdead)

theorem batches_abides (left : Nat) {k : Keeping} {l : Known} (h : Through k l) :
    (batches limit left).Abides (view limit) (fun _ k' l' => Through k' l') k l := by
  induction left generalizing k l with
  | zero => exact Act.Abides.done h
  | succ left ih =>
      refine h.status (fun hrecording => ?_) fun hfailing st hdead => ?_
      · refine Act.Abides.ite (fun _ => Act.Abides.bind ?_) fun hno => absurd rfl hno
        obtain ⟨r, o, rfl, ho⟩ := hrecording.knows
        refine takeBatch_abides fun batch r' => ?_
        have hbatch : Recording batch.length k (ours r' batch.length o) :=
          { hrecording with knows := ⟨r', o, rfl, ho⟩ }
        refine Act.Abides.ite (fun hnil => ?_) fun _ => Act.Abides.bind ?_
        · rw [hnil] at hbatch ⊢
          exact Act.Abides.done (Or.inl hbatch)
        · refine Act.Abides.mono (formatEvents_abides batch hbatch) ?_
          rintro remaining k' l' (⟨rfl, hwritten⟩ | hleft)
          · have hwritten : Outcome 0 true k' l' := hwritten
            exact Act.Abides.bind (hwritten.counts (by decide) (Nat.zero_le 0) fun l' hrest => ih (Or.inl hrest))
          · have hleft : Outcome remaining false k' l' := hleft
            refine Act.Abides.bind (hleft.counts (by decide) (Nat.le_refl remaining) fun l' hrest => ih (Or.inr ?_))
            rw [Nat.sub_self] at hrest
            exact hrest
      · exact Act.Abides.ite (fun hno => absurd hno hdead.2) fun _ => Act.Abides.done h

theorem Recording.standing (h : Recording 0 k l) : Standing k l := by
  rw [Standing, h.mode]
  simp only [h.started, if_true]
  exact h

theorem goTerminal_abides (h : Failing 0 k l) : goTerminal.Abides (view limit) (fun _ k' l' => Standing k' l') k l :=
  Act.Abides.modify ⟨h.footerWritten, h.knows⟩

theorem Recording.noted (h : Recording n k l) {f : Keeping → Keeping} (hmode : (f k).mode = k.mode)
    (hstarted : (f k).started = k.started)
    (hclosed : (f k).closed = k.closed) (hfooter : (f k).footerWritten = k.footerWritten)
    (htail : (f k).partialTail = k.partialTail) : Recording n (f k) l where
  mode := hmode.trans h.mode
  started := hstarted.trans h.started
  closed := hclosed.trans h.closed
  footerWritten := hfooter.trans h.footerWritten
  partialTail := htail.trans h.partialTail
  knows := h.knows

theorem notice_abides (index : Nat) {post : Unit → Keeping → Known → Prop} (h : post () k l) :
    (notice index).Abides (view limit) post k l := by
  refine Act.Abides.query trivial fun _ l' hl => ?_
  obtain rfl := hl
  exact h

theorem pumpCalls_abides (entered : Bool) (h : Recording 0 k l) :
    (pumpCalls entered).Abides (view limit) (fun _ k' l' => Standing k' l') k l := by
  refine Act.Abides.getBind (Act.Abides.ite (fun _ => ?_) fun _ => Act.Abides.done h.standing)
  refine Act.Abides.modifyBind (notice_abides 2 ?_)
  exact (h.noted (f := fun k => { k with noticedCalls := true }) rfl rfl rfl rfl rfl).standing

theorem pumpNotices_abides (h : Recording 0 k l) :
    pumpNotices.Abides (view limit) (fun _ k' l' => Standing k' l') k l := by
  refine Act.Abides.queryBind trivial fun bindings l' hl => ?_
  obtain rfl := hl
  refine Act.Abides.queryBind trivial fun entered l' hl => ?_
  obtain rfl := hl
  refine Act.Abides.getBind (Act.Abides.ite (fun _ => ?_) fun _ => pumpCalls_abides entered h)
  refine Act.Abides.modifyBind (Act.Abides.bind (notice_abides 1 ?_))
  exact pumpCalls_abides entered (h.noted (f := fun k => { k with noticedBound := true }) rfl rfl rfl rfl rfl)

theorem pumpFlush_abides (now : Nat) (h : Recording 0 k l) :
    (pumpFlush now).Abides (view limit) (fun _ k' l' => Standing k' l') k l := by
  refine Act.Abides.getBind (Act.Abides.ite (fun _ => ?_) fun _ => pumpNotices_abides h)
  refine Act.Abides.modifyBind (Act.Abides.queryBind trivial fun answer l' hl => ?_)
  obtain rfl := hl
  have h := h.noted (f := fun k => { k with lastFlush := now }) rfl rfl rfl rfl rfl
  refine Act.Abides.ite (fun _ => pumpNotices_abides h) fun _ => Act.Abides.bind ?_
  exact h.fails _ fun l' hfailing => goTerminal_abides hfailing

theorem pumpAnchor_abides (h : Recording 0 k l) :
    (pumpAnchor limit).Abides (view limit) (fun _ k' l' => Standing k' l') k l := by
  refine Act.Abides.queryBind trivial fun now l' hl => ?_
  obtain rfl := hl
  refine Act.Abides.getBind (Act.Abides.ite (fun _ => ?_) fun _ => pumpFlush_abides now h)
  refine Act.Abides.modifyBind (Act.Abides.bind ?_)
  have h := h.noted (f := fun k => { k with lastAnchor := now }) rfl rfl rfl rfl rfl
  refine Act.Abides.mono (h.record (by intro hno; cases hno)) ?_
  intro ok k' l' houtcome
  cases ok with
  | true => exact pumpFlush_abides now houtcome
  | false => exact goTerminal_abides houtcome

theorem pumpBatches_abides (h : Through k l) :
    (pumpBatches limit).Abides (view limit) (fun _ k' l' => Standing k' l') k l := by
  apply Act.Abides.bind
  refine Act.Abides.mono (batches_abides 4 h) ?_
  intro _ k' l' hthrough
  refine hthrough.status (fun hrecording => ?_) fun hfailing st hdead => ?_
  · exact Act.Abides.ite (fun hno => absurd rfl hno) fun _ => pumpAnchor_abides hrecording
  · exact Act.Abides.ite (fun _ => goTerminal_abides hfailing) fun hno => absurd (not_not.mp hno) hdead.2

theorem pump_abides (hmode : k.mode = .running) (h : Standing k l) :
    (pump limit).Abides (view limit) (fun _ k' l' => Standing k' l') k l := by
  refine Act.Abides.getBind (Act.Abides.queryBind trivial fun armed l' hl => ?_)
  obtain rfl := hl
  refine Act.Abides.ite (fun _ => Act.Abides.done h) fun _ => ?_
  have hstanding := h
  rw [Standing, hmode] at hstanding
  refine Act.Abides.ite (fun hstarted => ?_) fun hstarted => ?_
  · simp only [hstarted, if_true] at hstanding
    exact pumpBatches_abides (Or.inl hstanding)
  · simp only [hstarted] at hstanding
    obtain ⟨hclosed, hfooter, htail, r, o, rfl, ho, hstatus⟩ := hstanding
    refine Act.Abides.modifyBind (Act.Abides.bind (abides_setStatus .recording ?_))
    have hrecording : Recording 0 { k with started := true } (ours r 0 { o with status := .recording }) :=
      ⟨hmode, rfl, hclosed, hfooter, htail, r, _, rfl, ⟨ho.counted, ho.followed⟩, rfl⟩
    apply Act.Abides.bind
    refine Act.Abides.mono (hrecording.record (by intro hno; cases hno)) ?_
    intro ok k' l' houtcome
    cases ok with
    | true => exact Act.Abides.bind (notice_abides 0 (pumpBatches_abides (Or.inl houtcome)))
    | false => exact goTerminal_abides houtcome

theorem threadRound_abides (hmode : k.mode = .running) (h : Standing k l) :
    (threadRound limit).Abides (view limit) (fun _ k' l' => Standing k' l') k l := by
  have hknows : k.footerWritten = false ∧ ∃ r o, l = ours r 0 o ∧ Tidy o := by
    have hstanding := h
    rw [Standing, hmode] at hstanding
    by_cases hstarted : k.started = true
    · simp only [hstarted, if_true] at hstanding
      obtain ⟨r, o, hl, ho, -⟩ := hstanding.knows
      exact ⟨hstanding.footerWritten, r, o, hl, ho⟩
    · simp only [hstarted] at hstanding
      obtain ⟨-, hfooter, -, r, o, hl, ho, -⟩ := hstanding
      exact ⟨hfooter, r, o, hl, ho⟩
  refine Act.Abides.queryBind trivial fun stop l' hl => ?_
  obtain rfl := hl
  refine Act.Abides.ite (fun _ => Act.Abides.bind ?_) fun _ => ?_
  · obtain ⟨hfooter, r, o, rfl, ho⟩ := hknows
    refine abides_setStatus .stopped (Act.Abides.modify ?_)
    have hdead : Dead .stopped := ⟨by decide, by decide⟩
    exact ⟨hfooter, r, _, rfl, ho.counted, hdead, fun _ => ho.followed⟩
  · refine Act.Abides.queryBind trivial fun armed l' hl => ?_
    obtain rfl := hl
    exact Act.Abides.ite (fun _ => pump_abides hmode h) fun _ => Act.Abides.done h

theorem terminalEnd_abides (h : Over l) :
    (do
      let _ ← status
      let _ ← status
      notice 3
      closeResources : Work Unit).Abides (view limit) (fun _ _ l' => Over l') k l := by
  refine Act.Abides.queryBind trivial fun st l' hl => ?_
  obtain rfl := hl.2
  refine Act.Abides.queryBind trivial fun st l' hl => ?_
  obtain rfl := hl.2
  exact Act.Abides.bind (notice_abides 3 (Act.Abides.modify h))

theorem terminalRest_abides (h : Failing 0 k l) :
    (terminalRest limit).Abides (view limit) (fun _ _ l' => Over l') k l := by
  obtain ⟨r, o, rfl, hcounted, -, htail⟩ := h.knows
  refine Act.Abides.getBind (Act.Abides.ite (fun hfooter => ?_) fun _ => terminalEnd_abides ⟨r, o, rfl⟩)
  have ho : Tidy o := ⟨hcounted, htail (by simpa using hfooter.2.1)⟩
  refine Act.Abides.modifyBind (Act.Abides.bind (Act.Abides.mono (formatted_abides ho) ?_))
  rintro ok k' l' ⟨r', o', rfl, -⟩
  exact terminalEnd_abides ⟨r', o', rfl⟩

theorem abandonRound_abides (terminal : Bool) (hmode : k.mode = .abandoning terminal) (h : Failing 0 k l) :
    (abandonRound limit terminal).Abides (view limit) (fun _ k' l' => Standing k' l') k l := by
  obtain ⟨r, o, rfl, ho⟩ := h.knows
  refine Act.Abides.bind (takeBatch_abides fun batch r' => ?_)
  have hbatch : Failing batch.length k (ours r' batch.length o) := ⟨h.footerWritten, r', o, rfl, ho⟩
  refine Act.Abides.ite (fun hnil => ?_) fun _ => ?_
  · rw [hnil] at hbatch ⊢
    have hexit : ∀ k' l', Over l' → exitThread.Abides (view limit) (fun _ k' l' => Standing k' l') k' l' :=
      fun k' l' hover => Act.Abides.modify hover
    refine Act.Abides.ite (fun _ => Act.Abides.bind ?_) fun _ => Act.Abides.modifyBind (hexit _ _ ⟨r', o, rfl⟩)
    exact Act.Abides.mono (terminalRest_abides hbatch) fun _ k' l' hover => hexit k' l' hover
  · have hcounts : Outcome batch.length false k (ours r' batch.length o) := hbatch
    refine hcounts.counts (by decide) (Nat.le_refl _) fun l' hrest => ?_
    rw [Nat.sub_self] at hrest
    rw [Standing, hmode]
    exact hrest

/-- From round to round. -/
theorem round_abides (h : Standing k l) : (round limit k).Abides (view limit) (fun _ k' l' => Standing k' l') k l := by
  have hstanding := h
  unfold round
  rw [Standing] at hstanding
  split
  · next hmode => exact threadRound_abides hmode h
  · next terminal hmode =>
      rw [hmode] at hstanding
      exact abandonRound_abides terminal hmode hstanding
  · exact Act.Abides.done h

end Thread

end RS2ServerFix.Observer.Log
