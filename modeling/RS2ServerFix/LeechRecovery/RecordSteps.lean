import RS2ServerFix.LeechRecovery.RecipeRuns

namespace RS2ServerFix.LeechRecovery

open Reporting Lib Act

variable {r r' : Recovery}

structure Arrived (r : Recovery) : Prop where
  core : Core r
  counter : Counter (budget r) r
  settled : r.recipeEntered = true → r.value.phase = .qualifying → r.terminal = true
  coherent : r.value.flags.metadataCoherent = true → r.terminal = true
  pump : r.pumpDepth = 1
  unretryable : r.value.flags.preflightRetryable = false
  quota : r.recipeEntered = false → r.recoveryQuota.active = true → r.transport = .running
  suppressed : ∀ w, .suppressed w ∈ r.history → r.recipeEntered = true

/-- A visit that serves a request. -/
def Visit (r : Recovery) : Prop := Arrived r ∧ r.requested = true

theorem Arrived.kept (h : Arrived r) (hc : Core r') (hk : Kept r r') : Arrived r' where
  core := hc
  counter := hk.counter h.counter
  settled := by
    rw [hk.recipe, hk.phase]
    exact fun hr hp => hk.terminal (h.settled hr hp)
  coherent := by
    rw [hk.coherent]
    exact hk.terminal ∘ h.coherent
  pump := hk.pump.trans h.pump
  unretryable := hk.unretryable h.unretryable
  quota := by
    rw [hk.recipe, hk.transport]
    exact fun hr ha => h.quota hr (hk.quota ha)
  suppressed := by
    intro w hw
    exact hk.recipe.trans (h.suppressed w (hk.suppressed.mp hw))

theorem Arrived.moved (h : Arrived r) (hc : Core r') (hn : Counter (budget r') r') (hm : Moved r r')
    (hsettled : r'.recipeEntered = true → r'.value.phase = .qualifying → r'.terminal = true)
    (hcoherent : r'.value.flags.metadataCoherent = true → r'.terminal = true)
    (hs : ∀ w, .suppressed w ∈ r'.history → .suppressed w ∈ r.history ∨ r.recipeEntered = true) : Arrived r' where
  core := hc
  counter := hn
  settled := hsettled
  coherent := hcoherent
  pump := hm.pump.trans h.pump
  unretryable := hm.unretryable h.unretryable
  quota := by
    rw [hm.recipe, hm.transport]
    exact fun hr ha => h.quota hr (hm.quota ha)
  suppressed := fun w hw => hm.recipe.trans ((hs w hw).elim (h.suppressed w) id)

theorem arrived : Context Arrived Mono := ⟨fun _ h => h.core, fun _ _ h => h.kept, fun _ _ => Kept.mono⟩

theorem visit : Context Visit Mono := arrived.and fun _ _ hk => hk.requested.trans

theorem Visit.moved (h : Visit r) (hc : Core r') (hn : Counter (LeechRecovery.budget r') r') (hm : Moved r r')
    (hsettled : r'.recipeEntered = true → r'.value.phase = .qualifying → r'.terminal = true)
    (hcoherent : r'.value.flags.metadataCoherent = true → r'.terminal = true)
    (hs : ∀ w, .suppressed w ∈ r'.history → .suppressed w ∈ r.history ∨ r.recipeEntered = true) : Visit r' :=
  ⟨h.1.moved hc hn hm hsettled hcoherent hs, hm.requested.trans h.2⟩

theorem Busy.visit (h : Busy r) (hs : r.value.phase = .qualifying → r.terminal = true) : Visit r where
  left := {
    core := h.core
    counter := h.counter
    settled := fun _ => hs
    coherent := h.coherent
    pump := h.pump
    unretryable := h.unretryable
    quota := fun hn => by cases (h.recipe.symm.trans hn : true = false)
    suppressed := fun _ _ => h.recipe }
  right := h.core.requested_of_recipe h.recipe

theorem Visit.busy (h : Visit r) (hr : r.recipeEntered = true) : Busy r :=
  ⟨h.1.core, h.1.counter, h.1.coherent, hr, h.1.pump⟩

def Ahead (r : Recovery) : Prop := 2 * r.value.transitionSequence + 2 ≤ r.ownerSequence + budget r

theorem Published.counter {taken : Bool} (h : Published r r' taken) (hr : r.value.flags.preflightRetryable = false)
    (hc : Counter (budget r) r) : Counter (budget r') r' ∧ (taken = true → Ahead r') := by
  have hb : budget r' = budget r := by
    rw [budget_of_unretryable hr, budget_of_unretryable (h.moved.unretryable hr), h.phase]
  rw [Ahead, hb]
  cases taken with
  | true =>
      obtain ⟨hw, hroom, -⟩ := h.good rfl
      refine ⟨hc.publish h.transition hw hroom (by omega), fun _ => ?_⟩
      have htransitions := hc.transitions
      rw [if_neg (Nat.not_lt.mpr hroom)] at htransitions
      rw [h.transition, hw]
      omega
  | false => exact ⟨hc.step (h.refused rfl).1 (by rw [h.transition]), fun hn => by cases hn⟩

theorem Arrived.publish (h : Arrived r) : Arrived r.publish.1 ∧ Published r r.publish.1 r.publish.2 := by
  obtain ⟨hc, hp⟩ := h.core.publish h.counter (budget_le r).2
  refine ⟨h.moved hc (hp.counter h.unretryable h.counter).1 hp.moved ?_ ?_ fun w hw => .inl (hp.suppressed w hw), hp⟩
  · rw [hp.moved.recipe, hp.phase]
    exact fun hr hq => hp.moved.terminal (h.settled hr hq)
  · rw [hp.coherent]
    exact hp.moved.terminal ∘ h.coherent

/-- A record that leaves the queue at its head. -/
theorem Core.left (h : Core r) (hr : r.value.flags.preflightRetryable = false) {v : RecoveryValue}
    {rest : List RecoveryValue} (hd : r.pendingRecords.drop r.pendingRead = v :: rest) {e : Event}
    (he : e = .suppressed v ∨ e = .recorded v true) :
    Core ({ r with pendingRead := r.pendingRead + 1 }.log e) := by
  have hv := h.valid
  have hlt : r.pendingRead < r.pendingRecords.length := by
    by_contra hn
    rw [List.drop_eq_nil_of_le (Nat.le_of_not_lt hn)] at hd
    cases hd
  have hmem : v ∈ r.pendingRecords := List.drop_subset _ _ (hd ▸ List.mem_cons_self ..)
  have hnext : r.pendingRecords.drop (r.pendingRead + 1) = rest := by
    rw [← List.drop_drop, hd]
    rfl
  have hother : ∀ {e' : Event}, e' ∈ e :: r.history → (∀ w, e' ≠ .suppressed w) → (∀ w b, e' ≠ .recorded w b) →
      e' ∈ r.history := by
    intro e' hm h1 h2
    rcases List.mem_cons.mp hm with rfl | hm
    · rcases he with rfl | rfl
      · exact absurd rfl (h1 v)
      · exact absurd rfl (h2 v true)
    · exact hm
  exact { h with
    valid := { hv with }
    read := hlt
    pristine := fun hn => { h.pristine hn with }
    unrequested := fun hn => by
      obtain ⟨hphase, hrecipe, hidle⟩ := h.unrequested hn
      refine ⟨hphase, hrecipe, ?_⟩
      rcases he with rfl | rfl
      · exact hidle
      · exact hidle
    calm := fun hn => h.calm (noCritical_of_cons hn)
    retryable := fun hn => by cases (hr.symm.trans hn : false = true)
    operations := fun hn => by
      obtain ⟨hidle, hrecipe⟩ := h.operations hn
      refine ⟨?_, hrecipe⟩
      rcases he with rfl | rfl
      · exact hidle
      · exact hidle
    counted := by
      rcases he with rfl | rfl
      · exact (List.countP_cons_of_neg Bool.false_ne_true).trans h.counted
      · exact (List.countP_cons_of_neg Bool.false_ne_true).trans h.counted
    recipes := ⟨fun hn => h.recipes.mp (hother hn (fun _ hw => by cases hw) fun _ _ hw => by cases hw),
      fun hn => List.mem_cons_of_mem _ (h.recipes.mpr hn)⟩
    ledger := by
      have hledger := h.ledger
      rw [hd] at hledger
      change queuedOf (e :: r.history) = leftOf (e :: r.history) ++ r.pendingRecords.drop (r.pendingRead + 1)
      rw [hnext]
      rcases he with rfl | rfl
      · change queuedOf r.history = (v :: r.history.filterMap Event.leftRecord).reverse ++ rest
        rw [List.reverse_cons, List.append_assoc]
        exact hledger
      · change queuedOf r.history = (v :: r.history.filterMap Event.leftRecord).reverse ++ rest
        rw [List.reverse_cons, List.append_assoc]
        exact hledger
    refused := fun w hw => h.refused w (hother hw (fun _ hn => by cases hn) fun _ _ hn => by cases hn)
    sound := by
      refine ⟨?_, h.sound⟩
      rcases he with rfl | rfl
      · trivial
      · exact h.records v hmem }

theorem Core.unrecorded (h : Core r) (hr : r.value.flags.preflightRetryable = false) {v : RecoveryValue}
    (hv : v.Valid) : Core (r.log (.recorded v false)) := by
  exact { h with
    pristine := fun hn => { h.pristine hn with }
    calm := fun hn => h.calm (noCritical_of_cons hn)
    retryable := fun hn => by cases (hr.symm.trans hn : false = true)
    counted := (List.countP_cons_of_neg Bool.false_ne_true).trans h.counted
    recipes := (List.mem_cons.trans (or_iff_right fun hn : Event.recipe = .recorded v false =>
      by cases hn)).trans h.recipes
    refused := fun w hw => h.refused w ((List.mem_cons.mp hw).resolve_left fun hn => by cases hn)
    sound := ⟨hv, h.sound⟩ }

/-- What is left after a flush. -/
structure Flushed (r r' : Recovery) (good : Bool) : Prop where
  visit : Visit r'
  moved : Moved r r'
  phase : r'.value.phase = r.value.phase
  transition : r'.value.transitionSequence = r.value.transitionSequence
  coherent : r'.value.flags.metadataCoherent = r.value.flags.metadataCoherent
  final : r.terminal = true → r'.finalPending = r.finalPending
  pending : good = true → r'.pendingRecords = []
  ahead : good = true → Ahead r'

theorem Flushed.of_moved (hv : Visit r') (hm : Moved r r') (hp : r'.value.phase = r.value.phase)
    (ht : r'.value.transitionSequence = r.value.transitionSequence)
    (hc : r'.value.flags.metadataCoherent = r.value.flags.metadataCoherent) (hf : r'.finalPending = r.finalPending) :
    Flushed r r' false := ⟨hv, hm, hp, ht, hc, fun _ => hf, fun hn => (by cases hn), fun hn => by cases hn⟩

theorem Flushed.trans {r'' : Recovery} {good : Bool} (h : Flushed r r' false) (h' : Flushed r' r'' good) :
    Flushed r r'' good where
  visit := h'.visit
  moved := h.moved.trans h'.moved
  phase := h'.phase.trans h.phase
  transition := h'.transition.trans h.transition
  coherent := h'.coherent.trans h.coherent
  final := fun ht => (h'.final (h.moved.terminal ht)).trans (h.final ht)
  pending := h'.pending
  ahead := h'.ahead

theorem flushed_nil {s : Recovery} (hs : Visit s) (hd : s.pendingRecords.drop s.pendingRead = []) :
    (flushRecords []).Ends (fun good t => Flushed s t good) (fun _ => False) s := by
  have hc := hs.1.core
  have hv := hc.valid
  have hempty : Core { s with pendingRead := 0, pendingRecords := [] } := { hc with
    records := fun v hn => by cases hn
    read := le_rfl
    pristine := fun hn => { hc.pristine hn with }
    retryable := fun hn => by cases (hs.1.unretryable.symm.trans hn : false = true)
    ledger := hd ▸ hc.ledger }
  have hmoved : Moved s { s with pendingRead := 0, pendingRecords := [] } := { Moved.refl s with }
  have harrived : Arrived { s with pendingRead := 0, pendingRecords := [] } :=
    hs.1.moved hempty (hs.1.counter.step rfl le_rfl) hmoved hs.1.settled hs.1.coherent fun _ => .inl
  obtain ⟨ha, hp⟩ := harrived.publish
  have hcount := hp.counter harrived.unretryable harrived.counter
  apply Ends.bind
  apply Ends.modify
  refine ⟨⟨ha, hp.moved.requested.trans hs.2⟩, hmoved.trans hp.moved, hp.phase, hp.transition, hp.coherent,
    fun ht => hp.final ht hs.1.unretryable, fun _ => hp.pending, hcount.2⟩

theorem recorded_events (e : Event) (he : e.isRecord = true) (past : List Event) :
    ∃ events, e :: past = events ++ past ∧ ∀ e ∈ events, Event.isRecord e = true :=
  ⟨[e], rfl, fun _ hn => List.mem_singleton.mp hn ▸ he⟩

theorem suppressed_of_recorded {v w : RecoveryValue} {b : Bool} {past : List Event}
    (h : .suppressed w ∈ Event.recorded v b :: past) : .suppressed w ∈ past :=
  (List.mem_cons.mp h).resolve_left fun hn => by cases hn

theorem Visit.suppresses {s : Recovery} (hs : Visit s) {record : RecoveryValue} {rest : List RecoveryValue}
    (hd : s.pendingRecords.drop s.pendingRead = record :: rest) (hrecipe : s.recipeEntered = true) :
    Flushed s ({ s with pendingRead := s.pendingRead + 1 }.log (.suppressed record)) false := by
  have hmoved : Moved s ({ s with pendingRead := s.pendingRead + 1 }.log (.suppressed record)) :=
    { Moved.refl _ with history := recorded_events _ rfl _ }
  refine .of_moved ?_ hmoved rfl rfl rfl rfl
  exact hs.moved (hs.1.core.left hs.1.unretryable hd (.inl rfl)) (hs.1.counter.step rfl le_rfl) hmoved hs.1.settled
    hs.1.coherent fun _ _ => .inr hrecipe

theorem Visit.unrecorded {s : Recovery} (hs : Visit s) {record : RecoveryValue} (hvalid : record.Valid) :
    Flushed s (s.log (.recorded record false)) false := by
  have hmoved : Moved s (s.log (.recorded record false)) := { Moved.refl _ with history := recorded_events _ rfl _ }
  refine .of_moved ?_ hmoved rfl rfl rfl rfl
  exact hs.moved (hs.1.core.unrecorded hs.1.unretryable hvalid) (hs.1.counter.step rfl le_rfl) hmoved hs.1.settled
    hs.1.coherent fun _ hw => .inl (suppressed_of_recorded hw)

def Recovery.emitted (r : Recovery) (record : RecoveryValue) (now : Qpc) (sequence : UInt64) : Recovery :=
  { r.log (.recorded record true) with
    recoveryQuota := { r.recoveryQuota with remaining := r.recoveryQuota.remaining - 1 }
    lastEmissionQpc := now.val
    value := { r.value with recordSequence := sequence }
    qualifyingRecordSequence :=
      if record.phase = .qualifying then sequence.toNat else r.qualifyingRecordSequence
    pendingRead := r.pendingRead + 1 }

theorem Visit.emitted {s : Recovery} (hs : Visit s) {record : RecoveryValue} {rest : List RecoveryValue}
    (hd : s.pendingRecords.drop s.pendingRead = record :: rest) (now : Qpc) (sequence : UInt64) :
    Flushed s (s.emitted record now sequence) false := by
  have hleft := hs.1.core.left hs.1.unretryable hd (.inr rfl)
  have hmoved : Moved s ({ s with pendingRead := s.pendingRead + 1 }.log (.recorded record true)) :=
    { Moved.refl _ with history := recorded_events _ rfl _ }
  have hvisit := hs.moved hleft (hs.1.counter.step rfl le_rfl) hmoved hs.1.settled hs.1.coherent
    fun _ hw => .inl (suppressed_of_recorded hw)
  have htouch : Touched ({ s with pendingRead := s.pendingRead + 1 }.log (.recorded record true))
      (s.emitted record now sequence) := { Touched.refl _ with }
  refine .of_moved ?_ (hmoved.trans htouch.kept.moved) rfl rfl rfl rfl
  exact visit.kept _ _ hvisit (htouch.core hleft) htouch.kept

/-- The records from the read index on, one after the other. -/
theorem flushRecords_ends (records : List RecoveryValue) {s : Recovery} (hs : Visit s)
    (hd : s.pendingRecords.drop s.pendingRead = records) :
    (flushRecords records).Ends (fun good t => Flushed s t good) (fun _ => False) s := by
  induction records generalizing s with
  | nil => exact flushed_nil hs hd
  | cons record rest ih =>
      have hno : Flushed s s false := .of_moved hs (.refl s) rfl rfl rfl rfl
      have hnext : ∀ t : Recovery, t.pendingRecords = s.pendingRecords → t.pendingRead = s.pendingRead + 1 →
          Flushed s t false → (flushRecords rest).Ends (fun good u => Flushed s u good) (fun _ => False) t := by
        intro t hp hr ht
        refine (ih ht.visit ?_).mono (fun good u hu => ht.trans hu) fun _ => id
        rw [hp, hr, ← List.drop_drop, hd]
        rfl
      apply Ends.getBind
      apply Ends.ite
      · exact fun _ => hno
      intro hquota
      have hactive : s.recoveryQuota.active = true := by
        cases ha : s.recoveryQuota.active with
        | true => rfl
        | false => exact absurd (.inl (by rw [ha]; rfl)) hquota
      apply Ends.ite
      · rintro ⟨hpaused, -⟩
        have hrecipe : s.recipeEntered = true := by
          cases hr : s.recipeEntered with
          | true => rfl
          | false => cases ((hs.1.quota hr hactive).symm.trans hpaused : TransportState.running = .paused)
        apply Ends.bind
        apply Ends.modify
        exact hnext _ rfl rfl (hs.suppresses hd hrecipe)
      · intro _
        apply runtimeClock_still.bindEnds
        intro clock
        cases clock with
        | none => exact hno
        | some now =>
            apply Ends.getBind
            apply Ends.ite
            · exact fun _ => hno
            · intro _
              apply Ends.bind
              apply Ends.bind
              apply Ends.query
              intro sequence
              cases sequence with
              | none =>
                  exact hs.unrecorded (hs.1.core.records record (List.drop_subset _ _ (hd ▸ List.mem_cons_self ..)))
              | some sequence => exact hnext _ rfl rfl (hs.emitted hd now sequence)

theorem flush_ends {s : Recovery} (hs : Visit s) : flush.Ends (fun good t => Flushed s t good) (fun _ => False) s :=
  flushRecords_ends _ hs rfl

end RS2ServerFix.LeechRecovery
